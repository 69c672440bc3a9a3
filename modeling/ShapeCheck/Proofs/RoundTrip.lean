import ShapeCheck.Proofs.Documents

/-!
# From values to documents and back

The document of a value tells the value up to what documents cannot tell: holes and undefined items
come back as null, undefined entries are gone, and dates are texts. In the other direction nothing
is lost, not even the order of members, as long as every number of the document is one that values
have, written as an integer exactly if it is one.
-/

namespace ShapeCheck

section

variable [DateFormat]

mutual

/-- A value with null for holes and undefined items, without undefined entries and with the texts of
dates in their place, in everything that arrays and plain objects hold. -/
def Value.tidied : Value → Value
  | .date instant => .string instant.text
  | .array slots => .array (Value.tidiedSlots slots)
  | .object entries => .object (Value.tidiedEntries entries)
  | v => v
termination_by structural v => v

def Value.tidiedSlots : List (Option Value) → List (Option Value)
  | [] => []
  | none :: rest => some .null :: Value.tidiedSlots rest
  | some v :: rest =>
    some (if v.isUndefined then .null else v.tidied) :: Value.tidiedSlots rest
termination_by structural slots => slots

def Value.tidiedEntries : List (String × Value) → List (String × Value)
  | [] => []
  | (key, v) :: rest =>
    if v.isUndefined then Value.tidiedEntries rest
    else (key, v.tidied) :: Value.tidiedEntries rest
termination_by structural entries => entries

end

end

/-- Whether nothing is lost when a document becomes a value: its integers are numbers and in the
range of integers, and its other numbers are finite and not integers. -/
inductive Document.Lossless : Document → Prop where
  | null : Lossless .null
  | bool (b : Bool) : Lossless (.bool b)
  | int {n : Int} {x : Double} (hx : x.integer? = some n) (hmin : minInteger ≤ n)
      (hmax : n ≤ maxInteger) : Lossless (.int n)
  | float {x : Double} (hfinite : x.isFinite = true) (hfraction : x.integer? = none) :
    Lossless (.float x)
  | string (s : String) : Lossless (.string s)
  | array {items : List Document} (h : ∀ d ∈ items, Lossless d) : Lossless (.array items)
  | object {entries : List (String × Document)} (h : ∀ entry ∈ entries, Lossless entry.2) :
    Lossless (.object entries)

namespace Value

theorem equal_null : Equal .null .null := by
  simp [Equal, equals]

theorem isUndefined_ofDocument (d : Document) : (ofDocument d).isUndefined = false := by
  cases d <;> rfl

section

variable [DateFormat] {v : Value} {d : Document}

/-- The documents of slots tell the slots one by one, if those of the values in them do. -/
theorem equal_slots_tidied {slots : List (Option Value)} {ds : List Document}
    (hslots : ∀ w ∈ slots.reduceOption, ∀ d, w.toDocument? = some d → (ofDocument d).Equal w.tidied)
    (h : documentsOfSlots? slots = some ds) :
    List.Forall₂ (Option.Rel Equal) (slotsOfDocuments ds) (tidiedSlots slots) := by
  induction slots generalizing ds with
  | nil =>
    cases h
    exact .nil
  | cons slot rest ih =>
    have hrest : ∀ w ∈ rest.reduceOption, ∀ d, w.toDocument? = some d →
        (ofDocument d).Equal w.tidied := by
      intro w hw
      rw [List.reduceOption_mem_iff] at hw
      exact hslots w (List.reduceOption_mem_iff.2 (List.mem_cons_of_mem _ hw))
    cases slot with
    | none =>
      obtain ⟨ds', hds, rfl⟩ := Option.map_eq_some_iff.1 h
      exact .cons (.some equal_null) (ih hrest hds)
    | some w =>
      rw [documentsOfSlots?] at h
      rw [tidiedSlots]
      split at h
      case isTrue hundefined =>
        obtain ⟨ds', hds, rfl⟩ := Option.map_eq_some_iff.1 h
        rw [if_pos hundefined]
        exact .cons (.some equal_null) (ih hrest hds)
      case isFalse hdefined =>
        rw [if_neg hdefined]
        split at h
        case h_1 d ds' hd hds =>
          cases h
          exact .cons (.some (hslots w (by simp) d hd)) (ih hrest hds)
        case h_2 => cases h

/-- The documents of entries tell the entries one by one, if those of their values do. -/
theorem equal_entries_tidied {entries : List (String × Value)} {ds : List (String × Document)}
    (hentries : ∀ w ∈ entries.map (·.2), ∀ d, w.toDocument? = some d →
      (ofDocument d).Equal w.tidied)
    (h : documentsOfEntries? entries = some ds) :
    List.Forall₂ (fun x y => x.1 = y.1 ∧ x.2.Equal y.2) (entriesOfDocuments ds)
      (tidiedEntries entries) := by
  induction entries generalizing ds with
  | nil =>
    cases h
    exact .nil
  | cons entry rest ih =>
    obtain ⟨key, w⟩ := entry
    obtain ⟨hw, hrest⟩ := List.forall_mem_cons.1 hentries
    rw [documentsOfEntries?] at h
    rw [tidiedEntries]
    split at h
    case isTrue hundefined =>
      rw [if_pos hundefined]
      exact ih hrest h
    case isFalse hdefined =>
      rw [if_neg hdefined]
      split at h
      case h_1 d ds' hd hds =>
        cases h
        exact .cons ⟨rfl, hw d hd⟩ (ih hrest hds)
      case h_2 => cases h

/-- Tidying leaves entries out and writes no key twice. -/
theorem keys_tidiedEntries_sublist (entries : List (String × Value)) :
    (Entries.keys (tidiedEntries entries)).Sublist (Entries.keys entries) := by
  induction entries with
  | nil => exact .slnil
  | cons entry rest ih =>
    obtain ⟨key, w⟩ := entry
    rw [tidiedEntries]
    split
    · exact ih.cons key
    · exact ih.cons_cons key

theorem equal_ofDocument_tidied (hv : v.DistinctKeys) (h : v.toDocument? = some d) :
    (ofDocument d).Equal v.tidied := by
  induction v using induction_on_parts generalizing d with
  | step v ih =>
    have inside {w : Value} (hw : w ∈ v.contents) {d : Document} (h : w.toDocument? = some d) :
        (ofDocument d).Equal w.tidied :=
      ih w (mem_parts_of_mem_contents hw) (hv.part (mem_parts_of_mem_contents hw)) h
    cases v with
    | null | bool | string | date =>
      cases h
      simp [Equal, ofDocument, tidied, equals]
    | number x => exact (Double.toDocument?_eq_some_iff.1 h).equal_ofDocument
    | array slots =>
      obtain ⟨ds, hds, rfl⟩ := Option.map_eq_some_iff.1 h
      rw [ofDocument, tidied, Equal, equals, equalSlots_iff]
      exact equal_slots_tidied (fun w hw d => inside hw) hds
    | object entries =>
      obtain ⟨ds, hds, rfl⟩ := Option.map_eq_some_iff.1 h
      have hentries := equal_entries_tidied (fun w hw d => inside hw) hds
      have hkeys := (hv.here rfl).sublist (keys_tidiedEntries_sublist entries)
      rw [ofDocument, tidied]
      exact equal_object_of_forall₂ hkeys hentries
    | _ => cases h

theorem documentsOfSlots?_slotsOfDocuments {ds : List Document}
    (h : ∀ d ∈ ds, (ofDocument d).toDocument? = some d) :
    documentsOfSlots? (slotsOfDocuments ds) = some ds := by
  induction ds with
  | nil => rfl
  | cons d ds ih =>
    obtain ⟨hd, hds⟩ := List.forall_mem_cons.1 h
    rw [slotsOfDocuments, documentsOfSlots?, isUndefined_ofDocument, hd, ih hds]
    rfl

theorem documentsOfEntries?_entriesOfDocuments {ds : List (String × Document)}
    (h : ∀ entry ∈ ds, (ofDocument entry.2).toDocument? = some entry.2) :
    documentsOfEntries? (entriesOfDocuments ds) = some ds := by
  induction ds with
  | nil => rfl
  | cons entry ds ih =>
    obtain ⟨key, d⟩ := entry
    obtain ⟨hd, hds⟩ := List.forall_mem_cons.1 h
    rw [entriesOfDocuments, documentsOfEntries?, isUndefined_ofDocument, hd, ih hds]
    rfl

theorem toDocument?_ofDocument (h : d.Lossless) : (ofDocument d).toDocument? = some d := by
  induction h with
  | null | bool | string => rfl
  | @int n x hx hmin hmax =>
    have hn : (Double.ofInt n).integer? = some n := by
      rw [Double.integer?_eq_of_equals (Double.ofInt_equals hx), hx]
    exact Double.toDocument?_eq_some_iff.2 (.integer hn hmin hmax)
  | float hfinite hfraction =>
    exact Double.toDocument?_eq_some_iff.2 (.float hfinite (by simp [hfraction]))
  | array _ ih =>
    rw [ofDocument, toDocument?, documentsOfSlots?_slotsOfDocuments ih, Option.map_some]
  | object _ ih =>
    rw [ofDocument, toDocument?, documentsOfEntries?_entriesOfDocuments ih, Option.map_some]

/-- Exactly the undefined value and what holds a value that documents lack has no document, and any
other value comes back from its document as it is when tidied. From values to which nothing is lost
documents come back as they were. -/
theorem documents_round_trip :
    (∀ v : Value, v.toDocument? = none ↔
        v = .undefined ∨ ∃ w : Value, w.HeldBy v ∧ w.lacksDocument = true)
      ∧ (∀ (v : Value) (d : Document), v.DistinctKeys → v.toDocument? = some d →
          (ofDocument d).equals v.tidied = true)
      ∧ ∀ d : Document, d.Lossless → (ofDocument d).toDocument? = some d :=
  ⟨toDocument?_eq_none_iff_heldBy, fun _ _ hv h => equal_ofDocument_tidied hv h,
    fun _ h => toDocument?_ofDocument h⟩

end

attribute [local instance] DateFormat.epoch

/-- A hole, an undefined item, an undefined entry, a negative zero and a date, which all come back
as something else. -/
theorem documents_round_trip_sparse :
    (Value.array [some (.map [])]).toDocument? = none
      ∧ (Value.object [("gone", .undefined), ("xs", .array [none, some .undefined]),
          ("zero", .number (.ofParts true 0)), ("since", .date ⟨0, 0⟩)]).toDocument?
        = some (.object [("xs", .array [.null, .null]), ("zero", .int 0),
          ("since", .string "1970-01-01T00:00:00+00:00")])
      ∧ (ofDocument (.object [("xs", .array [.null, .null]), ("zero", .int 0),
          ("since", .string "1970-01-01T00:00:00+00:00")])).equals
          (Value.object [("gone", .undefined), ("xs", .array [none, some .undefined]),
            ("zero", .number (.ofParts true 0)), ("since", .date ⟨0, 0⟩)]).tidied = true
      ∧ (ofDocument (.array [.int (-3), .float (.ofParts false (1021 * twoPow 52))])).toDocument?
          = some (.array [.int (-3), .float (.ofParts false (1021 * twoPow 52))]) := by
  have hdocument : (Value.object [("gone", .undefined), ("xs", .array [none, some .undefined]),
      ("zero", .number (.ofParts true 0)), ("since", .date ⟨0, 0⟩)]).toDocument?
        = some (.object [("xs", .array [.null, .null]), ("zero", .int 0),
          ("since", .string "1970-01-01T00:00:00+00:00")]) := by
    have hzero : (Double.ofParts true 0).toDocument? = some (.int 0) :=
      Double.toDocument?_eq_some_iff.2
        (.integer (by decide +kernel) (by decide +kernel) (by decide +kernel))
    have hsince : Instant.text ⟨0, 0⟩ = "1970-01-01T00:00:00+00:00" := rfl
    simp [toDocument?, documentsOfEntries?, documentsOfSlots?, isUndefined, hzero, hsince]
  obtain ⟨hnone, hequal, hback⟩ := documents_round_trip
  refine ⟨(hnone _).2 (.inr ⟨.map [], .single (by simp [contents]), rfl⟩), hdocument, ?_,
    hback _ ?_⟩
  · refine hequal _ _ (.object (by decide) ?_) hdocument
    have hundefined : Value.undefined.DistinctKeys := .of_parts_eq_nil rfl rfl
    have hzero : (Value.number (.ofParts true 0)).DistinctKeys := .of_parts_eq_nil rfl rfl
    have hdate : (Value.date ⟨0, 0⟩).DistinctKeys := .of_parts_eq_nil rfl rfl
    have hslots : (Value.array [none, some .undefined]).DistinctKeys :=
      .of_parts (by simp [record?]) (List.forall_mem_singleton.2 hundefined)
    simp [hundefined, hzero, hslots, hdate]
  · have hint : Document.Lossless (.int (-3)) :=
      .int (x := .ofInt (-3)) (by decide +kernel) (by decide +kernel) (by decide +kernel)
    have hfloat : Document.Lossless (.float (.ofParts false (1021 * twoPow 52))) :=
      .float (by decide +kernel) (by decide +kernel)
    exact .array (by simp [hint, hfloat])

end Value

end ShapeCheck
