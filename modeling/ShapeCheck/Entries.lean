/-!
# Entries in the order of their keys

Records keep their entries in the order in which their keys first came. A key that is written again
keeps its place and gets the new value, so that looking a key up is the view through which every
operation is described.
-/

namespace ShapeCheck.Entries

variable {α : Type}

/-- The value under a key. -/
def get? : List (String × α) → String → Option α
  | [], _ => none
  | (k, v) :: rest, key => if k = key then some v else get? rest key

/-- The keys in order. -/
def keys (entries : List (String × α)) : List String :=
  entries.map (·.1)

/-- Writes a value: in place of the value under the same key, or at the end. -/
def insert : List (String × α) → String → α → List (String × α)
  | [], key, value => [(key, value)]
  | (k, v) :: rest, key, value =>
    if k = key then (k, value) :: rest else (k, v) :: insert rest key value

/-- Writes entries one after the other. -/
def insertAll (entries more : List (String × α)) : List (String × α) :=
  more.foldl (fun entries entry => insert entries entry.1 entry.2) entries

/-- Entries with every key once: the last value of a key, at the first place of the key. -/
def ofList (entries : List (String × α)) : List (String × α) :=
  insertAll [] entries

@[simp] theorem get?_nil (key : String) : get? ([] : List (String × α)) key = none := rfl

@[simp] theorem keys_nil : keys ([] : List (String × α)) = [] := rfl

@[simp] theorem keys_cons (entry : String × α) (rest : List (String × α)) :
    keys (entry :: rest) = entry.1 :: keys rest := rfl

theorem get?_insert (entries : List (String × α)) (key other : String) (value : α) :
    get? (insert entries key value) other
      = if key = other then some value else get? entries other := by
  induction entries with
  | nil => simp [insert, get?]
  | cons entry rest ih =>
    obtain ⟨k, v⟩ := entry
    by_cases hk : k = key
    · subst hk
      by_cases ho : k = other <;> simp [insert, get?, ho]
    · by_cases ho : k = other
      · subst ho
        simp [insert, get?, hk, Ne.symm hk]
      · simp [insert, get?, hk, ho, ih]

theorem isSome_get?_iff {entries : List (String × α)} {key : String} :
    (get? entries key).isSome = true ↔ key ∈ keys entries := by
  induction entries with
  | nil => simp
  | cons entry rest ih =>
    obtain ⟨k, v⟩ := entry
    by_cases hk : k = key
    · simp [get?, hk]
    · simp [get?, hk, ih, Ne.symm hk]

theorem get?_eq_none_iff {entries : List (String × α)} {key : String} :
    get? entries key = none ↔ key ∉ keys entries := by
  rw [← isSome_get?_iff]
  cases get? entries key <;> simp

@[simp] theorem keys_append (entries more : List (String × α)) :
    keys (entries ++ more) = keys entries ++ keys more := List.map_append

theorem keys_filter (keep : String → Bool) (entries : List (String × α)) :
    keys (entries.filter fun entry => keep entry.1) = (keys entries).filter keep :=
  List.filter_map.symm

theorem mem_keys_of_mem {entries : List (String × α)} {entry : String × α} (h : entry ∈ entries) :
    entry.1 ∈ keys entries :=
  List.mem_map_of_mem h

/-- A key is looked up in the entries in front first. -/
theorem get?_append (entries more : List (String × α)) (key : String) :
    get? (entries ++ more) key = (get? entries key).or (get? more key) := by
  induction entries with
  | nil => rfl
  | cons entry rest ih =>
    obtain ⟨k, v⟩ := entry
    by_cases hk : k = key
    · simp [get?, hk]
    · simp [get?, hk, ih]

/-- Leaving out entries by their keys does not touch the other keys. -/
theorem get?_filter (keep : String → Bool) (entries : List (String × α)) (key : String) :
    get? (entries.filter fun entry => keep entry.1) key
      = if keep key then get? entries key else none := by
  induction entries with
  | nil => simp
  | cons entry rest ih =>
    obtain ⟨k, v⟩ := entry
    by_cases hkeep : keep k = true
    · by_cases hk : k = key
      · subst hk
        simp [get?, hkeep]
      · simp [get?, hkeep, hk, ih]
    · by_cases hk : k = key
      · subst hk
        simp [hkeep, ih]
      · simp [get?, hkeep, hk, ih]

theorem mem_of_get? {entries : List (String × α)} {key : String} {value : α}
    (h : get? entries key = some value) : (key, value) ∈ entries := by
  induction entries with
  | nil => cases h
  | cons entry rest ih =>
    obtain ⟨k, v⟩ := entry
    by_cases hk : k = key
    · subst hk
      simp only [get?, if_true, Option.some.injEq] at h
      exact h ▸ List.mem_cons_self
    · simp only [get?, hk, if_false] at h
      exact List.mem_cons_of_mem _ (ih h)

/-- Where no key stands twice, looking up finds every entry. -/
theorem get?_eq_some_iff {entries : List (String × α)} (h : (keys entries).Nodup) {key : String}
    {value : α} : get? entries key = some value ↔ (key, value) ∈ entries := by
  refine ⟨mem_of_get?, ?_⟩
  induction entries with
  | nil => exact fun hmem => nomatch hmem
  | cons entry rest ih =>
    obtain ⟨k, v⟩ := entry
    obtain ⟨hk, hrest⟩ := List.nodup_cons.1 h
    intro hmem
    obtain heq | hmem := List.mem_cons.1 hmem
    · cases heq
      simp [get?]
    · have hne : k ≠ key := by
        rintro rfl
        have hkeys := mem_keys_of_mem hmem
        exact hk hkeys
      rw [get?, if_neg hne]
      exact ih hrest hmem

theorem mem_keys_insert {entries : List (String × α)} {key other : String} {value : α} :
    other ∈ keys (insert entries key value) ↔ other = key ∨ other ∈ keys entries := by
  rw [← isSome_get?_iff, ← isSome_get?_iff, get?_insert]
  by_cases h : key = other
  · simp [h]
  · simp [h, Ne.symm h]

theorem nodup_keys_insert {entries : List (String × α)} (h : (keys entries).Nodup) (key : String)
    (value : α) : (keys (insert entries key value)).Nodup := by
  induction entries with
  | nil => simp [insert]
  | cons entry rest ih =>
    obtain ⟨k, v⟩ := entry
    simp only [keys_cons, List.nodup_cons] at h
    by_cases hk : k = key
    · simpa [insert, hk] using ⟨hk ▸ h.1, h.2⟩
    · simp only [insert, hk, if_false, keys_cons, List.nodup_cons]
      refine ⟨fun hmem => ?_, ih h.2⟩
      obtain rfl | hmem := mem_keys_insert.1 hmem
      · exact hk rfl
      · exact h.1 hmem

theorem nodup_keys_insertAll {entries : List (String × α)} (h : (keys entries).Nodup)
    (more : List (String × α)) : (keys (insertAll entries more)).Nodup := by
  induction more generalizing entries with
  | nil => exact h
  | cons entry more ih => exact ih (nodup_keys_insert h _ _)

/-- No key stands twice. -/
theorem nodup_keys_ofList (entries : List (String × α)) : (keys (ofList entries)).Nodup :=
  nodup_keys_insertAll (by simp) entries

theorem mem_insert {entries : List (String × α)} {key : String} {value : α} {entry : String × α}
    (h : entry ∈ insert entries key value) : entry = (key, value) ∨ entry ∈ entries := by
  induction entries with
  | nil => exact .inl (List.mem_singleton.1 h)
  | cons first rest ih =>
    obtain ⟨k, v⟩ := first
    by_cases hk : k = key
    · rw [insert, if_pos hk] at h
      obtain rfl | h := List.mem_cons.1 h
      · exact .inl (by rw [hk])
      · exact .inr (List.mem_cons_of_mem _ h)
    · rw [insert, if_neg hk] at h
      obtain rfl | h := List.mem_cons.1 h
      · exact .inr List.mem_cons_self
      · exact (ih h).imp_right (List.mem_cons_of_mem _)

theorem mem_insertAll {entries more : List (String × α)} {entry : String × α}
    (h : entry ∈ insertAll entries more) : entry ∈ entries ∨ entry ∈ more := by
  induction more generalizing entries with
  | nil => exact .inl h
  | cons first more ih =>
    obtain h | h := ih h
    · obtain rfl | h := mem_insert h
      · exact .inr List.mem_cons_self
      · exact .inl h
    · exact .inr (List.mem_cons_of_mem _ h)

theorem mem_of_mem_ofList {entries : List (String × α)} {entry : String × α}
    (h : entry ∈ ofList entries) : entry ∈ entries :=
  (mem_insertAll h).resolve_left List.not_mem_nil

end ShapeCheck.Entries
