import Mathlib.Data.List.Forall2
import ShapeCheck.Proofs.Rearrangement

/-!
# What equal values have in common

Equality of values goes through their parts: items, slots and pairs are equal one by one, and the
entries of records are equal under the same keys, whatever their order. The second holds where no
key stands twice, as in every record that can be made. Equal values also have their category and
their class in common, so that nothing that asks for those tells them apart.
-/

namespace ShapeCheck

/-- Lists that agree in order agree in what holds of all they have in them. -/
theorem forall_mem_iff_of_forall₂ {α β : Type} {r : α → β → Prop} {p : α → Prop} {q : β → Prop}
    {xs : List α} {ys : List β} (h : List.Forall₂ r xs ys)
    (hpq : ∀ x ∈ xs, ∀ y ∈ ys, r x y → (p x ↔ q y)) : (∀ x ∈ xs, p x) ↔ ∀ y ∈ ys, q y := by
  induction h with
  | nil => simp
  | cons hxy _ ih =>
    rw [List.forall_mem_cons, List.forall_mem_cons]
    refine and_congr (hpq _ List.mem_cons_self _ List.mem_cons_self hxy) (ih ?_)
    intro x hx y hy
    exact hpq x (List.mem_cons_of_mem _ hx) y (List.mem_cons_of_mem _ hy)

theorem forall_mem_iff_of_rel {α β : Type} {r : α → β → Prop} {p : α → Prop} {q : β → Prop}
    {x? : Option α} {y? : Option β} (h : Option.Rel r x? y?)
    (hpq : ∀ x ∈ x?, ∀ y ∈ y?, r x y → (p x ↔ q y)) : (∀ x ∈ x?, p x) ↔ ∀ y ∈ y?, q y := by
  cases h with
  | some h => simpa using hpq _ rfl _ rfl h
  | none => simp

namespace Value

/-- Whether two values are equal. -/
abbrev Equal (v w : Value) : Prop := v.equals w = true

/-- No record anywhere inside has a key twice. -/
def DistinctKeys (v : Value) : Prop :=
  ∀ w : Value, w.InsideOf v → ∀ entries, w.record? = some entries → (Entries.keys entries).Nodup

namespace DistinctKeys

variable {v w : Value} {entries : List (String × Value)}

theorem here (h : v.DistinctKeys) (hv : v.record? = some entries) : (Entries.keys entries).Nodup :=
  h v .refl entries hv

theorem part (h : v.DistinctKeys) (hw : w ∈ v.parts) : w.DistinctKeys :=
  fun u hu => h u (hu.tail hw)

theorem of_parts (here : ∀ entries, v.record? = some entries → (Entries.keys entries).Nodup)
    (hparts : ∀ w ∈ v.parts, w.DistinctKeys) : v.DistinctKeys := by
  intro u hu
  obtain rfl | ⟨w, hw, hmem⟩ := Relation.ReflTransGen.cases_tail_iff _ _ _ |>.1 hu
  · exact here
  · exact hparts w hmem u hw

theorem of_parts_eq_nil (hrecord : v.record? = none) (hparts : v.parts = []) : v.DistinctKeys :=
  .of_parts (by simp [hrecord]) (by simp [hparts])

theorem object (here : (Entries.keys entries).Nodup)
    (hentries : ∀ entry ∈ entries, entry.2.DistinctKeys) : (object entries).DistinctKeys := by
  refine .of_parts ?_ (List.forall_mem_map.2 hentries)
  rintro _ ⟨⟩
  exact here

/-- A plain object that is made of entries has every key once. -/
theorem ofEntries (hentries : ∀ entry ∈ entries, entry.2.DistinctKeys) :
    (Value.ofEntries entries).DistinctKeys :=
  .object (Entries.nodup_keys_ofList entries) fun entry hentry =>
    hentries entry (Entries.mem_of_mem_ofList hentry)

end DistinctKeys

theorem equalItems_iff {xs ys : List Value} :
    equalItems xs ys = true ↔ List.Forall₂ Equal xs ys := by
  induction xs generalizing ys with
  | nil => cases ys <;> simp [equalItems]
  | cons x xs ih =>
    cases ys with
    | nil => simp [equalItems]
    | cons y ys => simp [equalItems, ih]

theorem equalSlots_iff {xs ys : List (Option Value)} :
    equalSlots xs ys = true ↔ List.Forall₂ (Option.Rel Equal) xs ys := by
  induction xs generalizing ys with
  | nil => cases ys <;> simp [equalSlots]
  | cons x xs ih =>
    cases ys with
    | nil => cases x <;> simp [equalSlots]
    | cons y ys => cases x <;> cases y <;> simp [equalSlots, ih]

theorem equalPairs_iff {xs ys : List (Value × Value)} :
    equalPairs xs ys = true
      ↔ List.Forall₂ (fun x y => x.1.Equal y.1 ∧ x.2.Equal y.2) xs ys := by
  induction xs generalizing ys with
  | nil => cases ys <;> simp [equalPairs]
  | cons x xs ih =>
    cases ys with
    | nil => simp [equalPairs]
    | cons y ys => simp [equalPairs, ih]

/-- Whether two records have the same keys, with equal values under them. -/
def EntriesAgree (xs ys : List (String × Value)) : Prop :=
  ∀ key, Option.Rel Equal (Entries.get? xs key) (Entries.get? ys key)

namespace EntriesAgree

variable {xs ys : List (String × Value)}

theorem of_get? (h : EntriesAgree xs ys) {key : String} {x : Value}
    (hx : Entries.get? xs key = some x) : ∃ y, Entries.get? ys key = some y ∧ x.Equal y := by
  have hkey := h key
  rw [hx] at hkey
  cases hy : Entries.get? ys key with
  | none =>
    rw [hy] at hkey
    cases hkey
  | some y =>
    rw [hy] at hkey
    cases hkey with
    | some hequal => exact ⟨y, rfl, hequal⟩

theorem mem_keys_iff (h : EntriesAgree xs ys) (key : String) :
    key ∈ Entries.keys xs ↔ key ∈ Entries.keys ys := by
  have hkey := h key
  rw [← Entries.isSome_get?_iff, ← Entries.isSome_get?_iff]
  generalize Entries.get? xs key = x? at hkey
  generalize Entries.get? ys key = y? at hkey
  cases hkey <;> simp

/-- Records that agree agree in what holds of all their values. -/
theorem forall_mem_iff (h : EntriesAgree xs ys) (hxs : (Entries.keys xs).Nodup)
    (hys : (Entries.keys ys).Nodup) {p : Value → Prop}
    (hp : ∀ x ∈ xs, ∀ y ∈ ys, x.2.Equal y.2 → (p x.2 ↔ p y.2)) :
    (∀ x ∈ xs, p x.2) ↔ ∀ y ∈ ys, p y.2 := by
  have hget {entries : List (String × Value)} (hentries : (Entries.keys entries).Nodup) :
      (∀ entry ∈ entries, p entry.2) ↔ ∀ key, ∀ x ∈ Entries.get? entries key, p x := by
    simp only [Option.mem_def, Entries.get?_eq_some_iff hentries, Prod.forall]
  rw [hget hxs, hget hys]
  refine forall_congr' fun key => forall_mem_iff_of_rel (h key) fun x hx y hy hxy => ?_
  exact hp _ (Entries.mem_of_get? hx) _ (Entries.mem_of_get? hy) hxy

theorem keys_perm (h : EntriesAgree xs ys) (hxs : (Entries.keys xs).Nodup)
    (hys : (Entries.keys ys).Nodup) : (Entries.keys xs).Perm (Entries.keys ys) :=
  (List.perm_ext_iff_of_nodup hxs hys).2 h.mem_keys_iff

end EntriesAgree

/-- Where no key stands twice, it does not matter in which order entries are compared. -/
theorem equalEntries_iff {xs ys : List (String × Value)} (hxs : (Entries.keys xs).Nodup)
    (hys : (Entries.keys ys).Nodup) :
    (xs.length == ys.length && equalEntries xs ys) = true ↔ EntriesAgree xs ys := by
  rw [Bool.and_eq_true, beq_iff_eq, equalEntries_eq_all, List.all_eq_true]
  constructor
  · rintro ⟨hlength, hall⟩ key
    have hright {k : String} {x : Value} (hx : Entries.get? xs k = some x) :
        ∃ y, Entries.get? ys k = some y ∧ x.Equal y :=
      Option.any_eq_true _ _ |>.1 (hall (k, x) (Entries.mem_of_get? hx))
    -- As many keys on both sides: none is left that only the right side has.
    have hsubset : Entries.keys xs ⊆ Entries.keys ys := by
      intro k hk
      obtain ⟨x, hx⟩ := Option.isSome_iff_exists.1 (Entries.isSome_get?_iff.2 hk)
      obtain ⟨y, hy, -⟩ := hright hx
      exact Entries.isSome_get?_iff.1 (Option.isSome_of_eq_some hy)
    have hperm : (Entries.keys xs).Perm (Entries.keys ys) :=
      (List.subperm_of_subset hxs hsubset).perm_of_length_le (by simp [Entries.keys, hlength])
    cases hx : Entries.get? xs key with
    | some x =>
      obtain ⟨y, hy, hequal⟩ := hright hx
      rw [hy]
      exact .some hequal
    | none =>
      have hkey : key ∉ Entries.keys ys := by
        rw [← hperm.mem_iff]
        exact Entries.get?_eq_none_iff.1 hx
      rw [Entries.get?_eq_none_iff.2 hkey]
      exact .none
  · intro h
    have hlength := (h.keys_perm hxs hys).length_eq
    simp only [Entries.keys, List.length_map] at hlength
    refine ⟨hlength, fun entry hentry => ?_⟩
    obtain ⟨y, hy, hequal⟩ := h.of_get? ((Entries.get?_eq_some_iff hxs).2 hentry)
    simp [hy, hequal]

theorem equal_object_iff {xs ys : List (String × Value)} (hxs : (Entries.keys xs).Nodup)
    (hys : (Entries.keys ys).Nodup) : (object xs).Equal (object ys) ↔ EntriesAgree xs ys := by
  rw [Equal, equals, equalEntries_iff hxs hys]

/-- Entries that are equal in order make equal records. -/
theorem equal_object_of_forall₂ {xs ys : List (String × Value)} (hys : (Entries.keys ys).Nodup)
    (h : List.Forall₂ (fun x y => x.1 = y.1 ∧ x.2.Equal y.2) xs ys) :
    (object xs).Equal (object ys) := by
  have hboth : Entries.keys xs = Entries.keys ys ∧ EntriesAgree xs ys := by
    clear hys
    induction h with
    | nil => exact ⟨rfl, fun _ => .none⟩
    | @cons x y xs ys hxy _ ih =>
      obtain ⟨k, x⟩ := x
      obtain ⟨l, y⟩ := y
      obtain ⟨rfl, hxy⟩ := hxy
      refine ⟨congrArg (k :: ·) ih.1, fun key => ?_⟩
      rw [Entries.get?, Entries.get?]
      split
      · exact .some hxy
      · exact ih.2 key
  exact (equal_object_iff (hboth.1 ▸ hys) hys).2 hboth.2

/-- The ways in which two values are equal, one for each kind of value. -/
inductive EqualByParts : Value → Value → Prop where
  | undefined : EqualByParts .undefined .undefined
  | null : EqualByParts .null .null
  | bool (b : Bool) : EqualByParts (.bool b) (.bool b)
  | number {x y : Double} (h : x.equals y = true) : EqualByParts (.number x) (.number y)
  | string (s : String) : EqualByParts (.string s) (.string s)
  | symbol (description : Option String) : EqualByParts (.symbol description) (.symbol description)
  | function (name : Option String) : EqualByParts (.function name) (.function name)
  | array {xs ys : List (Option Value)} (h : List.Forall₂ (Option.Rel Equal) xs ys) :
    EqualByParts (.array xs) (.array ys)
  | object {xs ys : List (String × Value)} (h : EntriesAgree xs ys) :
    EqualByParts (.object xs) (.object ys)
  | map {xs ys : List (Value × Value)}
    (h : List.Forall₂ (fun x y => x.1.Equal y.1 ∧ x.2.Equal y.2) xs ys) :
    EqualByParts (.map xs) (.map ys)
  | set {xs ys : List Value} (h : List.Forall₂ Equal xs ys) : EqualByParts (.set xs) (.set ys)
  | date (instant : Instant) : EqualByParts (.date instant) (.date instant)
  | instance (cls : Class) {xs ys : List (String × Value)} (h : EntriesAgree xs ys) :
    EqualByParts (.instance cls xs) (.instance cls ys)

/-- Values that are equal are equal in the way of their kind. -/
theorem equalByParts_of_equal {v w : Value} (hv : v.DistinctKeys) (hw : w.DistinctKeys)
    (h : v.Equal w) : v.EqualByParts w := by
  rw [Equal, equals.eq_def] at h
  split at h
  · exact .undefined
  · exact .null
  · exact eq_of_beq h ▸ .bool _
  · exact .number h
  · exact eq_of_beq h ▸ .string _
  · exact eq_of_beq h ▸ .symbol _
  · exact eq_of_beq h ▸ .function _
  · exact .array (equalSlots_iff.1 h)
  · exact .object ((equalEntries_iff (hv.here rfl) (hw.here rfl)).1 h)
  · exact .map (equalPairs_iff.1 h)
  · exact .set (equalItems_iff.1 h)
  · exact eq_of_beq h ▸ .date _
  · rw [Bool.and_assoc, Bool.and_eq_true, beq_iff_eq] at h
    obtain ⟨rfl, h⟩ := h
    exact .instance _ ((equalEntries_iff (hv.here rfl) (hw.here rfl)).1 h)
  · cases h

namespace EqualByParts

variable {v w : Value}

theorem tag_eq (h : v.EqualByParts w) : v.tag = w.tag := by
  cases h <;> rfl

theorem class?_eq (h : v.EqualByParts w) : v.class? = w.class? := by
  cases h <;> rfl

theorem isUndefined_eq (h : v.EqualByParts w) : v.isUndefined = w.isUndefined := by
  cases h <;> rfl

/-- Equal values are both no records, or records that agree. -/
theorem record?_cases (h : v.EqualByParts w) :
    (v.record? = none ∧ w.record? = none)
      ∨ ∃ xs ys, v.record? = some xs ∧ w.record? = some ys ∧ EntriesAgree xs ys := by
  cases h with
  | object h | «instance» _ h => exact .inr ⟨_, _, rfl, rfl, h⟩
  | _ => exact .inl ⟨rfl, rfl⟩

theorem entriesAgree (h : v.EqualByParts w) {xs ys : List (String × Value)}
    (hv : v.record? = some xs) (hw : w.record? = some ys) : EntriesAgree xs ys := by
  obtain ⟨hnone, -⟩ | ⟨_, _, hv', hw', hagree⟩ := h.record?_cases
  · cases hv.symm.trans hnone
  · cases hv.symm.trans hv'
    cases hw.symm.trans hw'
    exact hagree

/-- Numbers that are equal are equal to the same literals. -/
theorem literal_accepts_eq (h : v.EqualByParts w) (l : Literal) : l.accepts v = l.accepts w := by
  cases h with
  | number h =>
    cases l with
    | number z =>
      rw [Bool.eq_iff_iff]
      exact ⟨fun hz => Double.equals_trans hz h,
        fun hz => Double.equals_trans hz (Double.equals_comm _ _ ▸ h)⟩
    | _ => rfl
  | _ => cases l <;> rfl

end EqualByParts

end Value

end ShapeCheck
