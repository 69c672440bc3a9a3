import ShapeCheck.Proofs.Combination

/-!
# Shapes without their comments

Leaving the comments out of a shape leaves them out of everything inside it. Nothing that decides
how an intersection is made depends on them: which shapes are constraints and which lead to one is
the same without comments, and so the intersection of two shapes without their comments is the
intersection of both, without its comments.
-/

namespace ShapeCheck

namespace Entries

variable {α β : Type}

/-- The entries with other values under the same keys. -/
def mapValues (g : α → β) (entries : List (String × α)) : List (String × β) :=
  entries.map fun entry => (entry.1, g entry.2)

@[simp] theorem mapValues_nil (g : α → β) : mapValues g [] = [] := rfl

@[simp] theorem mapValues_cons (g : α → β) (entry : String × α) (rest : List (String × α)) :
    mapValues g (entry :: rest) = (entry.1, g entry.2) :: mapValues g rest := rfl

@[simp] theorem keys_mapValues (g : α → β) (entries : List (String × α)) :
    keys (mapValues g entries) = keys entries :=
  List.map_map

theorem get?_mapValues (g : α → β) (entries : List (String × α)) (key : String) :
    get? (mapValues g entries) key = (get? entries key).map g := by
  induction entries with
  | nil => rfl
  | cons entry rest ih =>
    obtain ⟨k, x⟩ := entry
    by_cases hk : k = key <;> simp [get?, hk, ih]

@[simp] theorem mapValues_append (g : α → β) (entries more : List (String × α)) :
    mapValues g (entries ++ more) = mapValues g entries ++ mapValues g more :=
  List.map_append

theorem mapValues_insert (g : α → β) (entries : List (String × α)) (key : String) (value : α) :
    mapValues g (insert entries key value) = insert (mapValues g entries) key (g value) := by
  induction entries with
  | nil => rfl
  | cons entry rest ih =>
    obtain ⟨k, x⟩ := entry
    by_cases hk : k = key <;> simp [insert, hk, ih]

theorem mapValues_insertAll (g : α → β) (entries more : List (String × α)) :
    mapValues g (insertAll entries more) = insertAll (mapValues g entries) (mapValues g more) := by
  induction more generalizing entries with
  | nil => rfl
  | cons entry more ih =>
    show mapValues g (insertAll (insert entries entry.1 entry.2) more) = _
    rw [ih, mapValues_insert]
    rfl

theorem mapValues_ofList (g : α → β) (entries : List (String × α)) :
    mapValues g (ofList entries) = ofList (mapValues g entries) :=
  mapValues_insertAll g [] entries

theorem mapValues_filter (g : α → β) (keep : String → Bool) (entries : List (String × α)) :
    mapValues g (entries.filter fun entry => keep entry.1)
      = (mapValues g entries).filter fun entry => keep entry.1 := by
  rw [mapValues, mapValues, List.filter_map]
  rfl

end Entries

section Map

variable {σ τ : Type}

def Field.map (g : σ → τ) (f : Field σ) : Field τ := ⟨g f.shape, f.presence⟩

def RecordShape.map (g : σ → τ) (r : RecordShape σ) : RecordShape τ :=
  ⟨Entries.mapValues (Field.map g) r.fields, r.exact⟩

def DictShape.map (g : σ → τ) (d : DictShape σ) : DictShape τ := ⟨d.keyName, g d.value⟩

/-- The same constraint with other shapes inside. -/
def Constraint.map (g : σ → τ) : Constraint σ → Constraint τ
  | record r => record (r.map g)
  | dict d => dict (d.map g)
  | both r d => both (r.map g) (d.map g)

end Map

namespace Shape

mutual

/-- A shape without comments. -/
def uncommented : Shape → Shape
  | array element => array element.uncommented
  | map key value => map key.uncommented value.uncommented
  | set element => set element.uncommented
  | record r => record (uncommentedRecord r)
  | dict d => dict (uncommentedDict d)
  | union left right => union left.uncommented right.uncommented
  | inter left right => inter left.uncommented right.uncommented
  | merged left right c =>
    merged left.uncommented right.uncommented (uncommentedConstraint c)
  | commented _ inner => inner.uncommented
  | leaf => leaf
termination_by structural s => s

def uncommentedRecord : RecordShape Shape → RecordShape Shape
  | ⟨fields, exact⟩ => ⟨uncommentedFields fields, exact⟩
termination_by structural r => r

def uncommentedFields : List (String × Field Shape) → List (String × Field Shape)
  | [] => []
  | (name, ⟨shape, presence⟩) :: rest =>
    (name, ⟨shape.uncommented, presence⟩) :: uncommentedFields rest
termination_by structural fields => fields

def uncommentedDict : DictShape Shape → DictShape Shape
  | ⟨keyName, value⟩ => ⟨keyName, value.uncommented⟩
termination_by structural d => d

def uncommentedConstraint : Constraint Shape → Constraint Shape
  | .record r => .record (uncommentedRecord r)
  | .dict d => .dict (uncommentedDict d)
  | .both r d => .both (uncommentedRecord r) (uncommentedDict d)
termination_by structural c => c

end

theorem uncommentedFields_eq_mapValues (fields : List (String × Field Shape)) :
    uncommentedFields fields = Entries.mapValues (Field.map uncommented) fields := by
  induction fields with
  | nil => rfl
  | cons field rest ih =>
    obtain ⟨name, ⟨shape, presence⟩⟩ := field
    rw [uncommentedFields, ih]
    rfl

theorem uncommentedRecord_eq_map (r : RecordShape Shape) :
    uncommentedRecord r = r.map uncommented := by
  obtain ⟨fields, exact⟩ := r
  rw [uncommentedRecord, uncommentedFields_eq_mapValues]
  rfl

theorem uncommentedDict_eq_map (d : DictShape Shape) : uncommentedDict d = d.map uncommented := by
  cases d
  rfl

theorem uncommentedConstraint_eq_map (c : Constraint Shape) :
    uncommentedConstraint c = c.map uncommented := by
  cases c <;> simp only [uncommentedConstraint, Constraint.map, uncommentedRecord_eq_map,
    uncommentedDict_eq_map]

@[simp] theorem uncommented_record (r : RecordShape Shape) :
    (record r).uncommented = record (r.map uncommented) := by
  rw [uncommented, uncommentedRecord_eq_map]

@[simp] theorem uncommented_dict (d : DictShape Shape) :
    (dict d).uncommented = dict (d.map uncommented) := by
  rw [uncommented, uncommentedDict_eq_map]

@[simp] theorem uncommented_merged (left right : Shape) (c : Constraint Shape) :
    (merged left right c).uncommented
      = merged left.uncommented right.uncommented (c.map uncommented) := by
  rw [uncommented, uncommentedConstraint_eq_map]

@[simp] theorem uncommented_union (left right : Shape) :
    (union left right).uncommented = union left.uncommented right.uncommented := rfl

@[simp] theorem uncommented_inter (left right : Shape) :
    (inter left right).uncommented = inter left.uncommented right.uncommented := rfl

@[simp] theorem uncommented_commented (text : String) (s : Shape) :
    (commented text s).uncommented = s.uncommented := rfl

/-- The fields come once each, whether with comments or without. -/
theorem uncommented_ofFields (fields : List (String × Field Shape)) (exact : Bool) :
    (ofFields fields exact).uncommented
      = ofFields (Entries.mapValues (Field.map uncommented) fields) exact := by
  rw [ofFields, uncommented_record, RecordShape.map, Entries.mapValues_ofList, ofFields]

theorem uncommented_ne_commented (s : Shape) (text : String) (inner : Shape) :
    s.uncommented ≠ commented text inner := by
  induction s using induction_on_parts with
  | step s ih =>
    cases s with
    | commented _ s => exact ih s (by simp [parts])
    | _ => simp [uncommented]

/-- No outer comments are left. -/
@[simp] theorem bare_uncommented (s : Shape) : s.uncommented.bare = s.uncommented := by
  cases h : s.uncommented with
  | commented text inner => exact absurd h (s.uncommented_ne_commented text inner)
  | _ => rfl

@[simp] theorem uncommented_bare (s : Shape) : s.bare.uncommented = s.uncommented :=
  apply_bare (fun _ _ => rfl) s

@[simp] theorem isValidation_uncommented (s : Shape) :
    s.uncommented.isValidation = s.isValidation := by
  induction s using induction_on_parts with
  | step s ih =>
    cases s with
    | commented text inner => exact ih inner (by simp [parts])
    | _ => rfl

@[simp] theorem reachesConstraint_uncommented (s : Shape) :
    s.uncommented.reachesConstraint = s.reachesConstraint := by
  induction s using induction_on_parts with
  | step s ih =>
    cases s with
    | commented text inner => exact ih inner (by simp [parts])
    | union left right | inter left right =>
      simp only [uncommented_union, uncommented_inter, reachesConstraint, ih left (by simp [parts]),
        ih right (by simp [parts])]
    | _ => rfl

theorem constraint?_uncommented {s : Shape} {c : Constraint Shape} (h : s.constraint? = some c) :
    s.uncommented.constraint? = some (c.map uncommented) := by
  cases s with
  | record r =>
    cases h
    rw [uncommented_record]
    rfl
  | dict d =>
    cases h
    rw [uncommented_dict]
    rfl
  | merged left right c =>
    cases h
    rw [uncommented_merged]
    rfl
  | _ => cases h

/-- What absorbs a constraint on the right absorbs it without comments too. -/
theorem uncommented_absorb {f g : Constraint Shape → Constraint Shape}
    (hfg : ∀ c, (f c).map uncommented = g (c.map uncommented)) (whole b : Shape) :
    (absorb whole f b).uncommented = absorb whole.uncommented g b.uncommented := by
  induction b using induction_on_parts with
  | step b ih =>
    have ofConstraint {c : Constraint Shape} (hc : b.constraint? = some c) :
        (absorb whole f b).uncommented = absorb whole.uncommented g b.uncommented := by
      rw [absorb_of_constraint? hc, absorb_of_constraint? (constraint?_uncommented hc),
        uncommented_merged, hfg]
    cases b with
    | record | dict | merged => exact ofConstraint rfl
    | commented text inner => exact ih inner (by simp [parts])
    | union left right =>
      rw [absorb_union, uncommented_union, ih left (by simp [parts]), ih right (by simp [parts])]
      rfl
    | inter left right =>
      have hleft := ih left (by simp [parts])
      have hright := ih right (by simp [parts])
      rw [uncommented_inter, absorb, absorb, reachesConstraint_uncommented,
        reachesConstraint_uncommented, ← hleft, ← hright]
      cases left.reachesConstraint <;> cases right.reachesConstraint <;> rfl
    | _ => rfl

/-- Whether comments can be left out before or after intersecting with a shape on the left. -/
def UncommentsApart (a : Shape) : Prop :=
  ∀ b, (a.and b).uncommented = a.uncommented.and b.uncommented

theorem mapValues_andFields {fields : List (String × Field Shape)}
    (h : ∀ field ∈ fields, field.2.shape.UncommentsApart) (others : List (String × Field Shape)) :
    Entries.mapValues (Field.map uncommented) (andFields fields others)
      = andFields (Entries.mapValues (Field.map uncommented) fields)
          (Entries.mapValues (Field.map uncommented) others) := by
  induction fields with
  | nil => rfl
  | cons field rest ih =>
    obtain ⟨name, ⟨shape, presence⟩⟩ := field
    have hshape : shape.UncommentsApart := h _ List.mem_cons_self
    have hrest := ih fun field hfield => h field (List.mem_cons_of_mem _ hfield)
    rw [andFields, Entries.mapValues_cons, Entries.mapValues_cons, Field.map, andFields, hrest,
      Entries.get?_mapValues]
    cases Entries.get? others name with
    | none => rfl
    | some other =>
      simp only [Option.map_some, Field.map, hshape other.shape]

theorem map_andRecords {r : RecordShape Shape}
    (h : ∀ field ∈ r.fields, field.2.shape.UncommentsApart) (other : RecordShape Shape) :
    (andRecords r other).map uncommented
      = andRecords (r.map uncommented) (other.map uncommented) := by
  obtain ⟨fields, exact⟩ := r
  have hmissing (name : String) :
      (Entries.get? (Entries.mapValues (Field.map uncommented) fields) name).isNone
        = (Entries.get? fields name).isNone := by
    rw [Entries.get?_mapValues, Option.isNone_map]
  simp only [andRecords, RecordShape.map, Entries.mapValues_append, hmissing,
    mapValues_andFields h, Entries.mapValues_filter _ fun name => (Entries.get? fields name).isNone]

theorem map_andDicts {d : DictShape Shape} (h : d.value.UncommentsApart) (other : DictShape Shape) :
    (andDicts d other).map uncommented = andDicts (d.map uncommented) (other.map uncommented) := by
  obtain ⟨keyName, value⟩ := d
  rw [andDicts, DictShape.map, h]
  rfl

theorem map_andConstraints {a : Constraint Shape} (h : ∀ t ∈ a.parts, t.UncommentsApart)
    (b : Constraint Shape) :
    (andConstraints a b).map uncommented
      = andConstraints (a.map uncommented) (b.map uncommented) := by
  have ofRecord {r : RecordShape Shape} (hr : a.record? = some r) (other : RecordShape Shape) :
      (andRecords r other).map uncommented
        = andRecords (r.map uncommented) (other.map uncommented) := by
    apply map_andRecords
    intro field hfield
    apply h
    exact Constraint.mem_parts_of_field (Constraint.fields_eq hr ▸ hfield)
  have ofDict {d : DictShape Shape} (hd : a.dict? = some d) (other : DictShape Shape) :
      (andDicts d other).map uncommented = andDicts (d.map uncommented) (other.map uncommented) :=
    map_andDicts (h _ (Constraint.mem_parts_of_dict? hd)) other
  cases a with
  | record r =>
    cases b <;> simp only [andConstraints, Constraint.andRecord, Constraint.map, ofRecord rfl]
  | dict d =>
    cases b <;> simp only [andConstraints, Constraint.andDict, Constraint.map, ofDict rfl]
  | both r d =>
    cases b <;> simp only [andConstraints, Constraint.andBoth, Constraint.map, ofRecord rfl,
      ofDict rfl]

/-- The intersection of two shapes without comments is that of the two without theirs. -/
theorem uncommented_and (a b : Shape) :
    (a.and b).uncommented = a.uncommented.and b.uncommented := by
  induction a using induction_on_parts generalizing b with
  | step a ih =>
    obtain ⟨text, inner, rfl⟩ | ⟨c, hc⟩ | ⟨hc, hand⟩ := and_cases a
    · exact ih inner (by simp [parts]) b
    · rw [and_of_constraint? hc, and_of_constraint? (constraint?_uncommented hc)]
      apply uncommented_absorb
      intro other
      exact map_andConstraints (fun t ht => ih t (mem_parts_of_constraint? hc ht)) other
    · rw [hand]
      cases a with
      | record | dict | merged => cases hc
      | commented text inner =>
        have hinter := hand b
        cases hinter
      | _ => rfl

theorem uncommented_validate (s : Shape) (description : String) (test : Value → Verdict) :
    (s.validate description test).uncommented = s.uncommented.validate description test :=
  uncommented_and s (validation description test)

end Shape

end ShapeCheck
