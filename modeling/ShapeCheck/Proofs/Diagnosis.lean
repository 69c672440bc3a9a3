import ShapeCheck.Proofs.Combination
import ShapeCheck.Proofs.EntryPoints
import ShapeCheck.Proofs.Judging
import ShapeCheck.Proofs.Lifting

/-!
# The diagnosis of a value

A diagnosis is a plain list of rows, told by recursion over the shape and without a tree: what is
wrong up to the keys of the value, or, if nothing is, its unknown keys. Arrays, sets, maps and
dictionaries tell of their first bad part, records of every bad field, intersections of both sides,
and unions of all branches as soon as none of them is satisfied.

A check nests failures, joins those of nested unions and intersections and leaves out a failure
around a single one. Its leaves are nevertheless exactly the rows of the diagnosis, in order.
-/

namespace ShapeCheck

/-- One root cause: the path from the outermost value, the value that stands there, why it was
refused, and the text of the shape that it should have had. -/
structure Row where
  path : Path
  value : Value
  message : String
  expected : String

namespace Row

/-- The row of a value that is refused on the spot. -/
def here (v : Value) (expected : Shape) (reason : Reason) : Row :=
  ⟨[], v, reason.message, expected.text⟩

/-- The same cause, seen from what holds the value. -/
def under (segment : Segment) (row : Row) : Row := { row with path := segment :: row.path }

/-- The row with its path and value as texts. -/
def report [DateFormat] (row : Row) : CauseReport :=
  ⟨row.path.text, row.expected, row.value.inspect, row.message⟩

/-- The rows of the first part that has any. -/
def first (parts : List (List Row)) : List Row := (parts.find? fun rows => !rows.isEmpty).getD []

/-- The rows of an array: those of its first bad item. A hole is not bad. -/
def ofArray (expected : Shape) (rows : Value → List Row) : Value → List Row
  | .array slots =>
    first (slots.zipIdx.map fun slot => (slot.1.elim [] rows).map (under (.index slot.2)))
  | v => [here v expected .notArray]

/-- The rows of a set: those of its first bad item. -/
def ofSet (expected : Shape) (rows : Value → List Row) : Value → List Row
  | .set items => first (items.zipIdx.map fun item => (rows item.1).map (under (.nth item.2)))
  | v => [here v expected .notSet]

/-- The rows of a map: those of its first bad key or value, where a key comes before its value. -/
def ofMap (expected : Shape) (keyRows valueRows : Value → List Row) : Value → List Row
  | .map entries =>
    first (entries.zipIdx.flatMap fun entry =>
      [(keyRows entry.1.1).map (under (.nth entry.2)),
        (valueRows entry.1.2).map (under (.valueAt entry.1.1))])
  | v => [here v expected .notMap]

/-- The rows of the entries of a record, or the one row of a value that is none. -/
def ofRecord (expected : Shape) (rows : List (String × Value) → List Row) (v : Value) : List Row :=
  match v.record? with
  | some entries => rows entries
  | none => [here v expected v.recordFault]

end Row

namespace Shape

/-- A row for every key that a value has beyond those that a shape knows, if the shape allows no
others. -/
def unknownRows (s : Shape) (v : Value) : List Row :=
  match s.track v, v.record? with
  | .ok ⟨some known, true⟩, some entries =>
    (entries.filter fun entry => !known.contains entry.1).map fun entry =>
      (Row.here entry.2 never (.unknownKey entry.1)).under (.key entry.1)
  | _, _ => []

/-- What is wrong up to the keys of a value, or else with its keys. -/
def orUnknown (s : Shape) (v : Value) (rows : List Row) : List Row :=
  if rows.isEmpty then s.unknownRows v else rows

mutual

/-- What is wrong with a value up to its keys. -/
def trackingRows : Shape → Value → List Row
  | array element, v =>
    Row.ofArray (array element) (fun x => orUnknown element x (trackingRows element x)) v
  | map key value, v =>
    Row.ofMap (map key value) (fun x => orUnknown key x (trackingRows key x))
      (fun x => orUnknown value x (trackingRows value x)) v
  | set element, v =>
    Row.ofSet (set element) (fun x => orUnknown element x (trackingRows element x)) v
  | record r, v => Row.ofRecord (record r) (recordRows r) v
  | dict d, v => Row.ofRecord (dict d) (dictRows d) v
  | merged left right c, v => Row.ofRecord (merged left right c) (constraintRows c) v
  | union left right, v =>
    if (trackingRows left v).isEmpty || (trackingRows right v).isEmpty then []
    else trackingRows left v ++ trackingRows right v
  | inter left right, v => trackingRows left v ++ trackingRows right v
  | commented _ inner, v => trackingRows inner v
  | leaf, v => (leaf.leafFault v).toList.map (Row.here v leaf)
termination_by structural s => s

/-- The rows of all bad fields of a record. -/
def recordRows : RecordShape Shape → List (String × Value) → List Row
  | ⟨fields, _⟩, entries => fieldRows fields entries
termination_by structural r => r

/-- The rows of bad fields in the order of the fields. A required field that is missing has one. -/
def fieldRows : List (String × Field Shape) → List (String × Value) → List Row
  | [], _ => []
  | (name, ⟨shape, presence⟩) :: rest, entries =>
    let rows : List Row :=
      match Entries.get? entries name with
      | none =>
        if presence = .required then [Row.here .undefined shape (.missingKey name)] else []
      | some x =>
        if presence = .optional ∧ x.isUndefined then []
        else orUnknown shape x (trackingRows shape x)
    rows.map (Row.under (.key name)) ++ fieldRows rest entries
termination_by structural fields => fields

/-- The rows of the first bad entry of a record. -/
def dictRows : DictShape Shape → List (String × Value) → List Row
  | ⟨_, shape⟩, entries =>
    Row.first (entries.map fun entry =>
      (orUnknown shape entry.2 (trackingRows shape entry.2)).map (Row.under (.key entry.1)))
termination_by structural d => d

/-- The rows of a constraint on records. With both parts, the dictionary comes first. -/
def constraintRows : Constraint Shape → List (String × Value) → List Row
  | .record r, entries => recordRows r entries
  | .dict d, entries => dictRows d entries
  | .both r d, entries => dictRows d entries ++ recordRows r entries
termination_by structural c => c

end

/-- Everything that is wrong with a value. -/
def diagnosis (s : Shape) (v : Value) : List Row := s.orUnknown v (s.trackingRows v)

/-- The branches of a union, with those of its branches that are unions themselves. Any other shape
is its only branch. -/
def branches : Shape → List Shape
  | union left right => left.branches ++ right.branches
  | commented _ inner => inner.branches
  | s => [s]

theorem isEmpty_trackingRows_union (left right : Shape) (v : Value) :
    ((union left right).trackingRows v).isEmpty
      = ((left.trackingRows v).isEmpty || (right.trackingRows v).isEmpty) := by
  rw [trackingRows]
  cases left.trackingRows v with
  | nil => rfl
  | cons row rows => cases right.trackingRows v <;> rfl

/-- A shape has no rows where one of its branches has none. -/
theorem isEmpty_trackingRows (s : Shape) (v : Value) :
    (s.trackingRows v).isEmpty = s.branches.any fun branch => (branch.trackingRows v).isEmpty := by
  induction s using induction_on_parts with
  | step s ih =>
    cases s with
    | union left right =>
      rw [isEmpty_trackingRows_union, ih left (by simp [parts]), ih right (by simp [parts]),
        branches, List.any_append]
    | commented text inner => exact ih inner (by simp [parts])
    | _ => exact (Bool.or_false _).symm

/-- The rows of a shape are those of all its branches, as soon as each of them has some. -/
theorem trackingRows_eq_flatMap_branches (s : Shape) (v : Value)
    (h : ∀ branch ∈ s.branches, branch.trackingRows v ≠ []) :
    s.trackingRows v = s.branches.flatMap fun branch => branch.trackingRows v := by
  induction s using induction_on_parts with
  | step s ih =>
    cases s with
    | union left right =>
      have hsome : ((union left right).trackingRows v).isEmpty = false := by
        rw [isEmpty_trackingRows, List.any_eq_false]
        intro branch hbranch
        rw [List.isEmpty_iff]
        exact h branch hbranch
      rw [isEmpty_trackingRows_union] at hsome
      rw [branches, List.forall_mem_append] at h
      rw [trackingRows, hsome, if_neg Bool.false_ne_true, branches, List.flatMap_append,
        ih left (by simp [parts]) h.1, ih right (by simp [parts]) h.2]
    | commented text inner => exact ih inner (by simp [parts]) h
    | _ => exact (List.flatMap_singleton _ _).symm

end Shape

/-- The rows of a field, for the value under its name or for there being none. -/
def Field.diagnosis (name : String) (f : Field Shape) : Option Value → List Row
  | none => if f.presence = .required then [.here .undefined f.shape (.missingKey name)] else []
  | some x => if f.presence = .optional ∧ x.isUndefined then [] else f.shape.diagnosis x

theorem Shape.fieldRows_eq_flatMap (fields : List (String × Field Shape))
    (entries : List (String × Value)) :
    fieldRows fields entries
      = fields.flatMap fun field =>
          (field.2.diagnosis field.1 (Entries.get? entries field.1)).map
            (.under (.key field.1)) := by
  induction fields with
  | nil => rfl
  | cons field rest ih =>
    obtain ⟨name, ⟨shape, presence⟩⟩ := field
    rw [fieldRows, ih, List.flatMap_cons]
    cases Entries.get? entries name <;> rfl

namespace Row

@[simp] theorem first_cons_nil (parts : List (List Row)) : first ([] :: parts) = first parts := rfl

theorem first_cons_of_ne_nil {rows : List Row} (h : rows ≠ []) (parts : List (List Row)) :
    first (rows :: parts) = rows := by
  cases rows with
  | nil => exact absurd rfl h
  | cons row rows => rfl

end Row

theorem first_presentSlots (rows : Value → List Row) (i : Nat) (slots : List (Option Value)) :
    Row.first ((presentSlots i slots).map fun part => (rows part.2).map (Row.under part.1))
      = Row.first ((slots.zipIdx i).map fun slot =>
          (slot.1.elim [] rows).map (Row.under (.index slot.2))) := by
  induction slots generalizing i with
  | nil => rfl
  | cons slot rest ih =>
    rw [List.zipIdx_cons, List.map_cons]
    cases slot with
    | none => exact ih (i + 1)
    | some x =>
      rw [presentSlots, List.map_cons]
      by_cases hrows : rows x = []
      · simp only [Option.elim_some, hrows, List.map_nil, Row.first_cons_nil]
        exact ih (i + 1)
      · have hne {segment : Segment} : (rows x).map (Row.under segment) ≠ [] :=
          mt List.map_eq_nil_iff.1 hrows
        exact (Row.first_cons_of_ne_nil hne _).trans (Row.first_cons_of_ne_nil hne _).symm

theorem map_positions {α : Type} (f : Segment × Value → α) (i : Nat) (items : List Value) :
    (positions i items).map f = (items.zipIdx i).map fun item => f (.nth item.2, item.1) := by
  induction items generalizing i with
  | nil => rfl
  | cons x rest ih => rw [positions, List.map_cons, ih, List.zipIdx_cons, List.map_cons]

variable [DateFormat]

namespace Failure

/-- A failure as a row. -/
def row (f : Failure) : Row := ⟨f.path, f.value, f.message, f.expected.text⟩

/-- The rows of the leaves of a failure. -/
def rows (f : Failure) : List Row := f.leaves.map row

theorem rows_ne_nil (f : Failure) : f.rows ≠ [] := by
  intro h
  exact leavesFrom_ne_nil [] f (List.map_eq_nil_iff.1 h)

theorem row_lift (segment : Segment) (f : Failure) :
    (f.lift segment).row = f.row.under segment := by
  rw [row, lift, path_liftPath, value_liftPath, message_liftPath, expected_liftPath]
  rfl

theorem rows_lift (segment : Segment) (f : Failure) :
    (f.lift segment).rows = f.rows.map (Row.under segment) := by
  rw [rows, lift, leaves_liftPath, rows, List.map_map, List.map_map]
  exact List.map_congr_left fun leaf _ => row_lift segment leaf

@[simp] theorem rows_leaf (v : Value) (s : Shape) (reason : Reason) :
    (leaf (.here v s) reason).rows = [Row.here v s reason] := rfl

/-- A failure with causes at its own place has the rows of its causes. -/
theorem rows_of_path_eq_nil {f : Failure} (hpath : f.path = []) (h : f.causes ≠ []) :
    f.rows = f.causes.flatMap rows := by
  rw [rows, leaves_of_path_eq_nil hpath h, List.map_flatMap]
  rfl

theorem rows_several (v : Value) (s : Shape) {causes : List Failure} (h : causes ≠ []) :
    (several (.here v s) causes).rows = causes.flatMap rows :=
  rows_of_path_eq_nil rfl h

theorem rows_noBranch (v : Value) (s : Shape) {causes : List Failure} (h : causes ≠ []) :
    (noBranch (.here v s) causes).rows = causes.flatMap rows :=
  rows_of_path_eq_nil rfl h

theorem rows_combine (v : Value) (s : Shape) {failures : List Failure} (h : failures ≠ []) :
    (combine (.here v s) failures).rows = failures.flatMap rows := by
  rw [rows, leaves_combine (.here v s) rfl h, List.map_flatMap]
  rfl

theorem rows_rerooted (v : Value) (s : Shape) (f : Failure) :
    (rerooted (.here v s) f).rows = f.rows := by
  have hcauses : (rerooted (.here v s) f).causes ≠ [] := List.cons_ne_nil _ _
  rw [rows_of_path_eq_nil rfl hcauses]
  exact List.flatMap_singleton _ _

end Failure

/-- The rows of an outcome. A check that passes has none. -/
def outcomeRows : Except Failure Unit → List Row
  | .ok () => []
  | .error failure => failure.rows

@[simp] theorem outcomeRows_ok : outcomeRows (.ok ()) = [] := rfl

@[simp] theorem outcomeRows_error (f : Failure) : outcomeRows (.error f) = f.rows := rfl

/-- Parts that are checked in order tell of the first bad one. -/
theorem outcomeRows_checkEach (check : Value → Except Failure Unit)
    (located : List (Segment × Value)) :
    outcomeRows (checkEach check located)
      = Row.first (located.map fun part =>
          (outcomeRows (check part.2)).map (Row.under part.1)) := by
  induction located with
  | nil => rfl
  | cons part rest ih =>
    rw [checkEach, List.map_cons]
    cases hpart : check part.2 with
    | ok _ => exact ih
    | error f =>
      rw [Row.first_cons_of_ne_nil]
      · exact f.rows_lift part.1
      · exact mt List.map_eq_nil_iff.1 f.rows_ne_nil

theorem outcomeRows_checkPairs (checkKey checkValue : Value → Except Failure Unit) (i : Nat)
    (entries : List (Value × Value)) :
    outcomeRows (checkPairs checkKey checkValue i entries)
      = Row.first ((entries.zipIdx i).flatMap fun entry =>
          [(outcomeRows (checkKey entry.1.1)).map (Row.under (.nth entry.2)),
            (outcomeRows (checkValue entry.1.2)).map (Row.under (.valueAt entry.1.1))]) := by
  induction entries generalizing i with
  | nil => rfl
  | cons entry rest ih =>
    obtain ⟨k, x⟩ := entry
    rw [checkPairs, List.zipIdx_cons, List.flatMap_cons]
    cases hk : checkKey k with
    | error f =>
      refine (f.rows_lift (.nth i)).trans (Row.first_cons_of_ne_nil ?_ _).symm
      exact mt List.map_eq_nil_iff.1 f.rows_ne_nil
    | ok _ =>
      cases hx : checkValue x with
      | error f =>
        refine (f.rows_lift (.valueAt k)).trans (Row.first_cons_of_ne_nil ?_ _).symm
        exact mt List.map_eq_nil_iff.1 f.rows_ne_nil
      | ok _ => exact ih (i + 1)

/-- What a refusal tells: the rows of the failure that it becomes, which are also those of the
failures that it adds to what stands around it. -/
structure Refusal.Tells (refusal : Refusal) (rows : List Row) : Prop where
  failure : refusal.failure.rows = rows
  branches : refusal.asBranches.flatMap Failure.rows = rows
  sides : refusal.asSides.flatMap Failure.rows = rows

namespace Refusal.Tells

variable {rows : List Row}

theorem closed {f : Failure} (h : f.rows = rows) : (Refusal.closed f).Tells rows :=
  ⟨h, by simpa using h, by simpa using h⟩

theorem branching (v : Value) (s : Shape) {failures : List Failure} (hne : failures ≠ [])
    (h : failures.flatMap Failure.rows = rows) :
    (Refusal.branches (.here v s) failures).Tells rows := by
  have hrows : (Failure.noBranch (.here v s) failures).rows = rows :=
    (Failure.rows_noBranch v s hne).trans h
  exact ⟨hrows, h, (List.flatMap_singleton _ _).trans hrows⟩

theorem sided (v : Value) (s : Shape) {failures : List Failure} (hne : failures ≠ [])
    (h : failures.flatMap Failure.rows = rows) :
    (Refusal.sides (.here v s) failures).Tells rows := by
  have hrows : (Failure.several (.here v s) failures).rows = rows :=
    (Failure.rows_several v s hne).trans h
  exact ⟨hrows, (List.flatMap_singleton _ _).trans hrows, h⟩

theorem rows_ne_nil {refusal : Refusal} (h : refusal.Tells rows) : rows ≠ [] :=
  h.failure ▸ refusal.failure.rows_ne_nil

theorem asBranches_ne_nil {refusal : Refusal} (h : refusal.Tells rows) :
    refusal.asBranches ≠ [] := by
  intro hnil
  refine h.rows_ne_nil ?_
  rw [← h.branches, hnil]
  rfl

theorem asSides_ne_nil {refusal : Refusal} (h : refusal.Tells rows) : refusal.asSides ≠ [] := by
  intro hnil
  refine h.rows_ne_nil ?_
  rw [← h.sides, hnil]
  rfl

end Refusal.Tells

/-- What the answer of judging tells. A report has no rows. -/
def Tells : Except Refusal KeyReport → List Row → Prop
  | .ok _, rows => rows = []
  | .error refusal, rows => refusal.Tells rows

namespace Tells

@[simp] theorem ok_iff {report : KeyReport} {rows : List Row} :
    Tells (.ok report) rows ↔ rows = [] := Iff.rfl

@[simp] theorem error_iff {refusal : Refusal} {rows : List Row} :
    Tells (.error refusal) rows ↔ refusal.Tells rows := Iff.rfl

theorem untrackedIf (outcome : Except Failure Unit) :
    Tells (ShapeCheck.untrackedIf outcome) (outcomeRows outcome) := by
  cases outcome with
  | ok _ => exact ok_iff.2 rfl
  | error f => exact error_iff.2 (.closed rfl)

end Tells

namespace Shape

variable {s : Shape} {v : Value} {rows : List Row}

/-- The keys that a report forbids are the unknown ones. -/
theorem unknownRows_of_track {report : KeyReport} (h : s.track v = .ok report) :
    s.unknownRows v
      = (report.forbidden v).flatMap fun entry => (KeyReport.unknownKey entry).rows := by
  obtain ⟨known, exact⟩ := report
  rw [unknownRows, h, KeyReport.forbidden]
  cases known <;> cases exact <;> cases v.record? <;> try rfl
  exact List.map_eq_flatMap

theorem outcomeRows_enforce {report : KeyReport} (h : s.track v = .ok report) (expected : Shape) :
    outcomeRows (report.enforce expected v) = s.unknownRows v := by
  rw [unknownRows_of_track h, KeyReport.enforce]
  cases report.forbidden v with
  | nil => rfl
  | cons entry rest =>
    have hne : (entry :: rest).map KeyReport.unknownKey ≠ [] := List.cons_ne_nil _ _
    rw [outcomeRows_error, Failure.rows_combine v expected hne, List.flatMap_map]

theorem outcomeRows_settle (h : Tells (s.judge v) rows) :
    outcomeRows (settle s v (s.judge v)) = s.orUnknown v rows := by
  cases hjudge : s.judge v with
  | ok report =>
    rw [hjudge, Tells.ok_iff] at h
    rw [h, orUnknown]
    exact outcomeRows_enforce (by rw [track, hjudge]) s.bare
  | error refusal =>
    rw [hjudge, Tells.error_iff] at h
    rw [orUnknown, if_neg (by simpa using h.rows_ne_nil)]
    exact h.failure

/-- Whether the checks of a shape tell its diagnoses. -/
def ChecksTell (s : Shape) : Prop := ∀ x, outcomeRows (s.check x) = s.diagnosis x

theorem outcomeRows_checkArray {element : Shape} (h : element.ChecksTell) (s : Shape) (v : Value) :
    outcomeRows (checkArray s element.check v) = Row.ofArray s element.diagnosis v := by
  cases v with
  | array slots =>
    rw [checkArray, outcomeRows_checkEach]
    simp only [h _]
    exact first_presentSlots element.diagnosis 0 slots
  | _ => rfl

theorem outcomeRows_checkSet {element : Shape} (h : element.ChecksTell) (s : Shape) (v : Value) :
    outcomeRows (checkSet s element.check v) = Row.ofSet s element.diagnosis v := by
  cases v with
  | set items =>
    rw [checkSet, outcomeRows_checkEach, map_positions]
    simp only [h _]
    rfl
  | _ => rfl

theorem outcomeRows_checkMap {key value : Shape} (hkey : key.ChecksTell) (hvalue : value.ChecksTell)
    (s : Shape) (v : Value) :
    outcomeRows (checkMap s key.check value.check v)
      = Row.ofMap s key.diagnosis value.diagnosis v := by
  cases v with
  | map entries =>
    rw [checkMap, outcomeRows_checkPairs]
    simp only [hkey _, hvalue _]
    rfl
  | _ => rfl

theorem outcomeRows_checkDict {d : DictShape Shape} (h : d.value.ChecksTell) (expected : Shape)
    (v : Value) : outcomeRows (checkDict expected d v) = Row.ofRecord expected (dictRows d) v := by
  obtain ⟨keyName, value⟩ := d
  rw [checkDict_eq, checkValues, Row.ofRecord]
  cases hv : v.record? with
  | none =>
    rw [recordEntries_of_record?_eq_none expected hv, refuse, outcomeRows_error,
      Failure.rows_leaf]
  | some entries =>
    rw [recordEntries_of_some hv, outcomeRows_checkEach, List.map_map]
    have hrows (x : Value) : outcomeRows (value.check x) = value.diagnosis x := h x
    simp only [Function.comp_def, hrows]
    rfl

theorem outcomeRows_checkLeaf (s : Shape) (v : Value) :
    outcomeRows (s.checkLeaf v) = (s.leafFault v).toList.map (Row.here v s) := by
  rw [checkLeaf_eq]
  cases s.leafFault v <;> rfl

theorem outcomeRows_fieldCheck {f : Field Shape} (h : f.shape.ChecksTell) (name : String)
    (x? : Option Value) : outcomeRows (f.check name x?) = f.diagnosis name x? := by
  cases x? with
  | none =>
    rw [Field.check, Field.diagnosis]
    split <;> rfl
  | some x =>
    rw [Field.check, Field.diagnosis]
    split
    · rfl
    · exact h x

theorem rows_fieldFailure {f : Field Shape} (h : f.shape.ChecksTell) (name : String)
    (x? : Option Value) :
    (f.failure? name x?).toList.flatMap Failure.rows
      = (f.diagnosis name x?).map (.under (.key name)) := by
  rw [Field.failure?, ← outcomeRows_fieldCheck h]
  cases f.check name x? with
  | ok _ => rfl
  | error failure => exact (List.flatMap_singleton _ _).trans (failure.rows_lift (.key name))

/-- Each failing field of a record adds its rows. -/
theorem rows_fieldFailures {fields : List (String × Field Shape)}
    (h : ∀ field ∈ fields, field.2.shape.ChecksTell) (entries : List (String × Value)) :
    (fieldFailures fields entries).flatMap Failure.rows = fieldRows fields entries := by
  rw [fieldFailures_eq_filterMap, fieldRows_eq_flatMap, List.filterMap_eq_flatMap_toList,
    List.flatMap_assoc]
  exact List.flatMap_congr fun field hfield => rows_fieldFailure (h field hfield) field.1 _

theorem tells_judgeRecord {r : RecordShape Shape}
    (h : ∀ field ∈ r.fields, field.2.shape.ChecksTell) (expected : Shape) (v : Value) :
    Tells (judgeRecord expected r v) (Row.ofRecord expected (recordRows r) v) := by
  obtain ⟨fields, exact⟩ := r
  rw [judgeRecord, Row.ofRecord]
  cases hv : v.record? with
  | none =>
    rw [recordEntries_of_record?_eq_none expected hv]
    exact Tells.error_iff.2 (.closed rfl)
  | some entries =>
    rw [recordEntries_of_some hv]
    simp only [recordRows, ← rows_fieldFailures h entries]
    cases hfailures : fieldFailures fields entries with
    | nil => exact Tells.ok_iff.2 rfl
    | cons failure failures =>
      have hne : failure :: failures ≠ [] := List.cons_ne_nil _ _
      exact Tells.error_iff.2 (.closed (Failure.rows_combine v expected hne))

theorem tells_judgeConstraint {c : Constraint Shape} (h : ∀ t ∈ c.parts, t.ChecksTell)
    (expected : Shape) (v : Value) :
    Tells (judgeConstraint expected c v) (Row.ofRecord expected (constraintRows c) v) := by
  have ofDict {d : DictShape Shape} (hd : c.dict? = some d) :
      outcomeRows (checkDict expected d v) = Row.ofRecord expected (dictRows d) v :=
    outcomeRows_checkDict (h _ (Constraint.mem_parts_of_dict? hd)) expected v
  have ofFields (field : String × Field Shape) (hfield : field ∈ c.fields) :
      field.2.shape.ChecksTell :=
    h _ (Constraint.mem_parts_of_field hfield)
  cases c with
  | record r => exact tells_judgeRecord ofFields expected v
  | dict d =>
    have hdict := Tells.untrackedIf (checkDict expected d v)
    rwa [ofDict rfl] at hdict
  | both r d =>
    have hdict := ofDict rfl
    have hrecord := tells_judgeRecord ofFields expected v
    rw [judgeConstraint]
    cases hv : v.record? with
    | none =>
      have huntracked := Tells.untrackedIf (checkDict expected d v)
      rw [hdict] at huntracked
      simp only [Row.ofRecord, hv] at huntracked ⊢
      exact huntracked
    | some entries =>
      -- On a record the rows of both parts stand one after the other.
      simp only [Row.ofRecord, hv, constraintRows] at hdict hrecord ⊢
      rw [← hdict]
      cases checkDict expected d v with
      | ok _ =>
        cases hjudge : judgeRecord expected r v with
        | ok known =>
          rw [hjudge, Tells.ok_iff] at hrecord
          rw [hrecord]
          exact Tells.ok_iff.2 rfl
        | error refused =>
          rw [hjudge, Tells.error_iff] at hrecord
          exact Tells.error_iff.2 (.closed hrecord.failure)
      | error failure =>
        cases hjudge : judgeRecord expected r v with
        | ok known =>
          rw [hjudge, Tells.ok_iff] at hrecord
          rw [hrecord, List.append_nil]
          exact Tells.error_iff.2 (.closed rfl)
        | error refused =>
          rw [hjudge, Tells.error_iff] at hrecord
          refine Tells.error_iff.2 (.closed ?_)
          rw [Failure.rows_combine v expected (List.cons_ne_nil _ _), ← hrecord.failure]
          simp

/-- The branches of a union tell their rows together, once none of them reports. -/
theorem tells_union {left right : Shape} (hleft : Tells (left.judge v) (left.trackingRows v))
    (hright : Tells (right.judge v) (right.trackingRows v)) :
    Tells ((union left right).judge v) ((union left right).trackingRows v) := by
  rw [judge, trackingRows]
  cases hl : left.judge v with
  | ok report =>
    rw [hl, Tells.ok_iff] at hleft
    rw [hleft]
    exact Tells.ok_iff.2 rfl
  | error refused =>
    rw [hl, Tells.error_iff] at hleft
    cases hr : right.judge v with
    | ok report =>
      rw [hr, Tells.ok_iff] at hright
      rw [hright, List.isEmpty_nil, Bool.or_true]
      exact Tells.ok_iff.2 rfl
    | error refusedToo =>
      rw [hr, Tells.error_iff] at hright
      have hne : refused.asBranches ++ refusedToo.asBranches ≠ [] :=
        List.append_ne_nil_of_left_ne_nil hleft.asBranches_ne_nil _
      rw [if_neg (by simp [hleft.rows_ne_nil, hright.rows_ne_nil])]
      refine Tells.error_iff.2 (.branching v _ hne ?_)
      rw [List.flatMap_append, hleft.branches, hright.branches]

/-- The sides of an intersection tell their rows one after the other. -/
theorem tells_inter {left right : Shape} (hleft : Tells (left.judge v) (left.trackingRows v))
    (hright : Tells (right.judge v) (right.trackingRows v)) :
    Tells ((inter left right).judge v) ((inter left right).trackingRows v) := by
  rw [judge, trackingRows]
  cases hl : left.judge v with
  | ok report =>
    rw [hl, Tells.ok_iff] at hleft
    rw [hleft, List.nil_append]
    cases hr : right.judge v with
    | ok reportToo =>
      rw [hr, Tells.ok_iff] at hright
      exact Tells.ok_iff.2 hright
    | error refused =>
      rw [hr, Tells.error_iff] at hright
      exact Tells.error_iff.2 (.closed hright.failure)
  | error refused =>
    rw [hl, Tells.error_iff] at hleft
    cases hr : right.judge v with
    | ok report =>
      rw [hr, Tells.ok_iff] at hright
      rw [hright, List.append_nil]
      exact Tells.error_iff.2 (.closed hleft.failure)
    | error refusedToo =>
      rw [hr, Tells.error_iff] at hright
      have hne : refused.asSides ++ refusedToo.asSides ≠ [] :=
        List.append_ne_nil_of_left_ne_nil hleft.asSides_ne_nil _
      refine Tells.error_iff.2 (.sided v _ hne ?_)
      rw [List.flatMap_append, hleft.sides, hright.sides]

/-- Judging a value tells what is wrong with it up to its keys. -/
theorem tells_judge (s : Shape) (v : Value) : Tells (s.judge v) (s.trackingRows v) := by
  induction s using induction_on_parts generalizing v with
  | step s ih =>
    have checksTell {t : Shape} (ht : t ∈ s.parts) : t.ChecksTell := by
      intro x
      rw [check_eq_settle]
      exact outcomeRows_settle (ih t ht x)
    have ofConstraint {c : Constraint Shape} (hc : s.constraint? = some c) :
        Tells (s.judge v) (Row.ofRecord s (constraintRows c) v) := by
      rw [judge_of_constraint? hc]
      exact tells_judgeConstraint (fun t ht => checksTell (mem_parts_of_constraint? hc ht)) s v
    have ofCheck {outcome : Except Failure Unit} {rows : List Row}
        (h : outcomeRows outcome = rows) : Tells (untrackedIf outcome) rows :=
      h ▸ .untrackedIf outcome
    cases s with
    | record | dict | merged => exact ofConstraint rfl
    | array element =>
      rw [judge_array]
      exact ofCheck (outcomeRows_checkArray (checksTell (by simp [parts])) _ v)
    | set element =>
      rw [judge_set]
      exact ofCheck (outcomeRows_checkSet (checksTell (by simp [parts])) _ v)
    | map key value =>
      rw [judge_map]
      exact ofCheck (outcomeRows_checkMap (checksTell (by simp [parts]))
        (checksTell (by simp [parts])) _ v)
    | commented text inner => exact ih inner (by simp [parts]) v
    | union left right =>
      exact tells_union (ih left (by simp [parts]) v) (ih right (by simp [parts]) v)
    | inter left right =>
      exact tells_inter (ih left (by simp [parts]) v) (ih right (by simp [parts]) v)
    | _ => exact ofCheck (outcomeRows_checkLeaf _ v)

/-- The leaves of a failed check are the rows of the diagnosis. -/
theorem outcomeRows_check (s : Shape) (v : Value) : outcomeRows (s.check v) = s.diagnosis v := by
  rw [check_eq_settle]
  exact outcomeRows_settle (s.tells_judge v)

theorem report_reject (s : Shape) (v : Value) (failure : Failure) :
    (s.reject v failure).report = failure.rows.map Row.report := by
  have hrows : (s.rerooted v failure).rows = failure.rows := by
    unfold rerooted
    split
    · rfl
    · exact Failure.rows_rerooted v s failure
  rw [← hrows, Failure.rows, List.map_map]
  rfl

/-- A check fails exactly on the values that have a diagnosis, and what it tells of them, as leaves
or as the report of a rejection, is the diagnosis. -/
theorem failures_tell_diagnosis (s : Shape) (v : Value) :
    ((∃ failure, s.check v = .error failure) ↔ s.diagnosis v ≠ [])
      ∧ ∀ failure, s.check v = .error failure →
        failure.leaves.map Failure.row = s.diagnosis v
          ∧ ∃ rejection, s.insist v = .error rejection
            ∧ rejection.report = (s.diagnosis v).map Row.report := by
  have hrows := s.outcomeRows_check v
  cases hcheck : s.check v with
  | ok _ =>
    rw [hcheck, outcomeRows_ok] at hrows
    rw [← hrows]
    simp
  | error failure =>
    rw [hcheck, outcomeRows_error] at hrows
    rw [← hrows]
    refine ⟨iff_of_true ⟨failure, rfl⟩ failure.rows_ne_nil, ?_⟩
    rintro _ ⟨⟩
    refine ⟨rfl, s.reject v failure, ?_, report_reject s v failure⟩
    rw [insist, hcheck]

theorem failures_tell_diagnosis_record :
    ∃ failure,
      (exactRecord [("a", ⟨tagged .number, .required⟩), ("b", ⟨any, .required⟩)]).check
          (.object [("a", .null)]) = .error failure
        ∧ failure.leaves.map Failure.row
          = [(Row.here .null (tagged .number) (.notTagged .number)).under (.key "a"),
            (Row.here .undefined any (.missingKey "b")).under (.key "b")] := by
  have hdiagnosis :
      (exactRecord [("a", ⟨tagged .number, .required⟩), ("b", ⟨any, .required⟩)]).diagnosis
          (.object [("a", .null)])
        = [(Row.here .null (tagged .number) (.notTagged .number)).under (.key "a"),
          (Row.here .undefined any (.missingKey "b")).under (.key "b")] := rfl
  have htold := failures_tell_diagnosis
    (exactRecord [("a", ⟨tagged .number, .required⟩), ("b", ⟨any, .required⟩)])
    (.object [("a", .null)])
  rw [hdiagnosis] at htold
  obtain ⟨failure, hcheck⟩ := htold.1.2 (List.cons_ne_nil _ _)
  exact ⟨failure, hcheck, (htold.2 failure hcheck).1⟩

end Shape
end ShapeCheck
