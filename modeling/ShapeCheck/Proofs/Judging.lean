import ShapeCheck.Proofs.Report

/-!
# Refusals by way of the checks of parts

Judging settles every part of a value where it stands, and settling what was judged is the check of
the part. What a shape says of a value can therefore be told by the checks of its parts, also where
it refuses: the items of an array by the check of the element, the fields of a record by one check
each. Statements about failures go through these equations and leave the judging of shapes closed.
-/

namespace ShapeCheck

/-- Why a value that is no record is refused where a record is expected. -/
def Value.recordFault : Value → Reason
  | null => .isNull
  | array _ => .isArray
  | _ => .notObject

theorem recordEntries_eq (expected : Shape) (v : Value) :
    recordEntries expected v
      = match v.record? with
        | some entries => .ok entries
        | none => refuse expected v v.recordFault := by
  cases v <;> rfl

theorem recordEntries_of_record?_eq_none (expected : Shape) {v : Value} (h : v.record? = none) :
    recordEntries expected v = refuse expected v v.recordFault := by
  rw [recordEntries_eq, h]

/-- What a field says of the value under its name, or of there being none. -/
def Field.check (name : String) (f : Field Shape) : Option Value → Except Failure Unit
  | none =>
    if f.presence = .required then refuse f.shape .undefined (.missingKey name) else .ok ()
  | some x => if f.presence = .optional ∧ x.isUndefined then .ok () else f.shape.check x

/-- The failure of a field in a record, if it fails. -/
def Field.failure? (name : String) (f : Field Shape) (x? : Option Value) : Option Failure :=
  match f.check name x? with
  | .ok () => none
  | .error failure => some (failure.lift (.key name))

namespace Shape

/-- Why a shape without parts refuses a value, if it does. -/
def leafFault : Shape → Value → Option Reason
  | never, _ => some .neverOccurs
  | literal l, v => if l.accepts v then none else some (.notEqual l)
  | tagged tag, v => if v.tag = tag then none else some (.notTagged tag)
  | instanceOf cls, v => if v.class?.any fun c => c.isA cls then none else some (.notInstance cls)
  | guarded name test, v => if test v then none else some (.guardFailed name)
  | validation description test, v =>
    match test v with
    | .holds => none
    | .fails => some (.failedValidation description)
    | .raised messages => some (.validationRaised description messages)
  | _, _ => none

theorem checkLeaf_eq (s : Shape) (v : Value) :
    s.checkLeaf v
      = match s.leafFault v with
        | none => .ok ()
        | some reason => refuse s v reason := by
  cases s with
  | literal l => cases h : l.accepts v <;> simp [checkLeaf, leafFault, require, h]
  | tagged tag => by_cases h : v.tag = tag <;> simp [checkLeaf, leafFault, require, h]
  | instanceOf cls =>
    cases h : v.class?.any fun c => c.isA cls <;> simp [checkLeaf, leafFault, require, h]
  | guarded name test => cases h : test v <;> simp [checkLeaf, leafFault, require, h]
  | validation description test =>
    cases h : test v <;> simp [checkLeaf, leafFault, require, h]
  | _ => rfl

theorem judge_array (element : Shape) (v : Value) :
    (array element).judge v = untrackedIf (checkArray (array element) element.check v) := by
  rw [judge]
  simp only [← check_eq_settle]

theorem judge_map (key value : Shape) (v : Value) :
    (map key value).judge v
      = untrackedIf (checkMap (map key value) key.check value.check v) := by
  rw [judge]
  simp only [← check_eq_settle]

theorem judge_set (element : Shape) (v : Value) :
    (set element).judge v = untrackedIf (checkSet (set element) element.check v) := by
  rw [judge]
  simp only [← check_eq_settle]

theorem checkDict_eq (expected : Shape) (d : DictShape Shape) (v : Value) :
    checkDict expected d v = checkValues expected d.value.check v := by
  obtain ⟨keyName, value⟩ := d
  rw [checkDict]
  simp only [← check_eq_settle]

/-- The failures of a record are those of its fields, in the order of the fields. -/
theorem fieldFailures_eq_filterMap (fields : List (String × Field Shape))
    (entries : List (String × Value)) :
    fieldFailures fields entries
      = fields.filterMap fun field => field.2.failure? field.1 (Entries.get? entries field.1) := by
  induction fields with
  | nil => rfl
  | cons field rest ih =>
    obtain ⟨name, ⟨shape, presence⟩⟩ := field
    rw [fieldFailures, List.filterMap_cons, ← ih]
    simp only [← check_eq_settle]
    cases hget : Entries.get? entries name with
    | none =>
      by_cases hreq : presence = .required <;> simp [Field.failure?, Field.check, hreq, refuse]
    | some x =>
      by_cases hopt : presence = .optional ∧ x.isUndefined = true
      · simp [Field.failure?, Field.check, hopt]
      · simp only [Field.failure?, Field.check, hopt]
        cases shape.check x <;> rfl

/-- The shapes that constrain records are judged by their constraint. -/
theorem judge_of_constraint? {s : Shape} {c : Constraint Shape} (h : s.constraint? = some c)
    (v : Value) : s.judge v = judgeConstraint s c v := by
  cases s with
  | record r | dict d | merged left right c =>
    cases h
    rfl
  | _ => cases h

theorem untrackedIf_eq_error {outcome : Except Failure Unit} {refusal : Refusal}
    (h : untrackedIf outcome = .error refusal) :
    ∃ failure, outcome = .error failure ∧ refusal = .closed failure := by
  cases outcome with
  | ok _ => cases h
  | error failure =>
    cases h
    exact ⟨failure, rfl, rfl⟩

/-- A union refuses with what both branches add. -/
theorem judge_union_eq_error {left right : Shape} {v : Value} {refusal : Refusal}
    (h : (union left right).judge v = .error refusal) :
    ∃ refused refusedToo, left.judge v = .error refused ∧ right.judge v = .error refusedToo
      ∧ refusal = .branches (.here v (union left right))
          (refused.asBranches ++ refusedToo.asBranches) := by
  rw [judge] at h
  cases hleft : left.judge v with
  | ok report =>
    simp only [hleft] at h
    cases h
  | error refused =>
    cases hright : right.judge v with
    | ok report =>
      simp only [hleft, hright] at h
      cases h
    | error refusedToo =>
      simp only [hleft, hright] at h
      cases h
      exact ⟨refused, refusedToo, rfl, rfl, rfl⟩

/-- An intersection refuses as its only side that does, or with what both sides add. -/
theorem judge_inter_eq_error {left right : Shape} {v : Value} {refusal : Refusal}
    (h : (inter left right).judge v = .error refusal) :
    (∃ refused, (left.judge v = .error refused ∨ right.judge v = .error refused)
        ∧ refusal = .closed refused.failure)
      ∨ ∃ refused refusedToo, left.judge v = .error refused ∧ right.judge v = .error refusedToo
        ∧ refusal = .sides (.here v (inter left right))
            (refused.asSides ++ refusedToo.asSides) := by
  rw [judge] at h
  cases hleft : left.judge v with
  | ok report =>
    cases hright : right.judge v with
    | ok report =>
      simp only [hleft, hright] at h
      cases h
    | error refused =>
      simp only [hleft, hright] at h
      cases h
      exact .inl ⟨refused, .inr rfl, rfl⟩
  | error refused =>
    cases hright : right.judge v with
    | ok report =>
      simp only [hleft, hright] at h
      cases h
      exact .inl ⟨refused, .inl rfl, rfl⟩
    | error refusedToo =>
      simp only [hleft, hright] at h
      cases h
      exact .inr ⟨refused, refusedToo, rfl, rfl, rfl⟩

/-- A constraint with both parts refuses as its only part that does, or for both parts. -/
theorem judgeConstraint_both_eq_error {expected : Shape} {r : RecordShape Shape}
    {d : DictShape Shape} {v : Value} {refusal : Refusal}
    (h : judgeConstraint expected (.both r d) v = .error refusal) :
    (∃ failure, checkDict expected d v = .error failure ∧ refusal = .closed failure)
      ∨ (∃ refused, judgeRecord expected r v = .error refused ∧ refusal = .closed refused.failure)
      ∨ ∃ failure refused, checkDict expected d v = .error failure
        ∧ judgeRecord expected r v = .error refused
        ∧ refusal = .closed (.combine (.here v expected) [failure, refused.failure]) := by
  rw [judgeConstraint] at h
  split at h
  · exact .inl (untrackedIf_eq_error h)
  · cases hdict : checkDict expected d v with
    | ok _ =>
      cases hrecord : judgeRecord expected r v with
      | ok report =>
        simp only [hdict, hrecord] at h
        cases h
      | error refused =>
        simp only [hdict, hrecord] at h
        cases h
        exact .inr (.inl ⟨refused, rfl, rfl⟩)
    | error failure =>
      cases hrecord : judgeRecord expected r v with
      | ok report =>
        simp only [hdict, hrecord] at h
        cases h
        exact .inl ⟨failure, rfl, rfl⟩
      | error refused =>
        simp only [hdict, hrecord] at h
        cases h
        exact .inr (.inr ⟨failure, refused, rfl, rfl, rfl⟩)

end Shape

end ShapeCheck
