import ShapeCheck.Proofs.Report
import ShapeCheck.Rejection

/-!
# The ways to ask whether a value matches

A value can be checked, asked about, sliced, insisted on, and insisted on as a slice. These go
different ways: a check settles the keys of some kinds of shapes only, a slice projects some kinds
and copies others, and a merged shape with fields and a dictionary has a slice of its own. All of
them accept the same values, those whose report of keys forbids none of them, and a check and a
slice fail for the same reason.
-/

namespace ShapeCheck

/-- Whether a report leaves all keys of a value alone. -/
def KeyReport.Permits (report : KeyReport) (v : Value) : Prop :=
  report.exact = false ∨ report.known = none ∨ v.record? = none
    ∨ ∃ known entries, report.known = some known ∧ v.record? = some entries
      ∧ ∀ entry ∈ entries, entry.1 ∈ known

theorem KeyReport.permits_iff {report : KeyReport} {v : Value} :
    report.Permits v ↔ report.forbidden v = [] := by
  obtain ⟨known, exact⟩ := report
  cases hv : v.record? <;> cases known <;> cases exact <;> simp [Permits, forbidden, hv]

/-- What a constraint keeps of a record it holds on: the entries it has names for, those first and
then the others, or, without names, the value itself. -/
def Constraint.kept (c : Constraint Shape) (v : Value) (entries : List (String × Value)) : Value :=
  match c.record?, c.dict? with
  | some r, none => .object (KeyReport.select entries (Entries.keys r.fields))
  | some r, some _ => .object (Shape.arrange (Entries.keys r.fields) entries)
  | none, _ => v

namespace Shape

variable {s : Shape} {v : Value}

/-- Whether tracking the keys of a value succeeds with a report that permits all of them. -/
def Permits (s : Shape) (v : Value) : Prop :=
  ∃ report, s.track v = .ok report ∧ report.Permits v

theorem accepts_iff_permits : s.accepts v = true ↔ s.Permits v := by
  simp only [accepts_iff_report?, Permits, track_eq_ok_iff, KeyReport.permits_iff]

theorem copy_eq_map_check (s : Shape) (v : Value) :
    ∃ w, s.copy v = (s.check v).map fun _ => w := by
  refine ⟨v, ?_⟩
  rw [copy]
  cases s.check v <;> rfl

/-- A projection fails where settling the keys does. -/
theorem project_eq_map_settle (h : s.bare = s) (v : Value) :
    ∃ w, s.project v = (settle s v (s.judge v)).map fun _ => w := by
  rw [project, track]
  cases s.judge v with
  | error refusal => exact ⟨v, rfl⟩
  | ok report =>
    refine ⟨report.project v, ?_⟩
    simp only [settle, h]
    cases report.enforce s v <;> rfl

/-- A slice fails where the check does, and with the same failure. -/
theorem slice_eq_map_check (s : Shape) (v : Value) :
    ∃ w, s.slice v = (s.check v).map fun _ => w := by
  induction s using induction_on_parts with
  | step s ih =>
    cases s with
    | commented text inner => exact ih inner (by simp [parts])
    | record | union | inter => exact project_eq_map_settle rfl v
    | merged left right c =>
      cases c with
      | record | dict => exact project_eq_map_settle rfl v
      | both r d =>
        rw [slice, check, track, judge]
        cases hjudge : judgeConstraint (merged left right (.both r d)) (.both r d) v with
        | error refusal => exact ⟨v, rfl⟩
        | ok report =>
          -- A constraint with both parts knows every key, so that nothing is left to settle.
          obtain ⟨entries, hv, -, rfl⟩ := (judgeConstraint_eq_ok_iff _).1 hjudge
          exact ⟨.object (arrange (Entries.keys r.fields) entries), by rw [hv]; rfl⟩
    | _ => exact copy_eq_map_check _ v

theorem slice_eq_error_iff {failure : Failure} :
    s.slice v = .error failure ↔ s.check v = .error failure := by
  obtain ⟨w, hslice⟩ := slice_eq_map_check s v
  rw [hslice]
  cases s.check v <;> simp [Except.map]

theorem exists_slice_eq_ok_iff : (∃ w, s.slice v = .ok w) ↔ s.check v = .ok () := by
  obtain ⟨w, hslice⟩ := slice_eq_map_check s v
  rw [hslice]
  cases s.check v <;> simp [Except.map]

theorem exists_insist_eq_ok_iff [DateFormat] : (∃ w, s.insist v = .ok w) ↔ s.check v = .ok () := by
  rw [insist]
  cases s.check v <;> simp

theorem exists_insistSlice_eq_ok_iff [DateFormat] :
    (∃ w, s.insistSlice v = .ok w) ↔ ∃ w, s.slice v = .ok w := by
  rw [insistSlice]
  cases s.slice v <;> simp

theorem project_of_report? {report : KeyReport} (h : s.report? v = some report)
    (hkeys : report.forbidden v = []) : s.project v = .ok (report.project v) := by
  rw [project, track_eq_ok_iff.2 h]
  simp only [KeyReport.enforce_eq_ok_iff.2 hkeys]

/-- The slice by a shape that constrains records, whichever of the four kinds it is. -/
theorem slice_of_constraint? {c : Constraint Shape} (h : s.constraint? = some c)
    {entries : List (String × Value)} (hv : v.record? = some entries) (hok : s.accepts v = true) :
    s.slice v = .ok (c.kept v entries) := by
  obtain ⟨entries', hv', hholds, hkeys⟩ := (accepts_of_constraint? h).1 hok
  have hreport := (report?_of_constraint? h).2 ⟨entries', hv', hholds, rfl⟩
  have hproject := project_of_report? hreport hkeys
  cases s with
  | record r =>
    cases h
    rw [slice, hproject]
    simp [Constraint.kept, Constraint.report, KeyReport.project, hv]
  | dict d =>
    cases h
    show (dict d).copy v = _
    rw [copy, accepts_iff.1 hok]
    rfl
  | merged left right c =>
    cases h
    cases c with
    | record r =>
      show (merged left right (.record r)).project v = _
      rw [hproject]
      simp [Constraint.kept, Constraint.report, KeyReport.project, hv]
    | dict d => exact hproject
    | both r d =>
      rw [slice, track_eq_ok_iff.2 hreport, hv]
      rfl
  | _ => cases h

/-- Whichever way a value is asked about, the answer is that of its report of keys. -/
theorem entryPoints_agree [DateFormat] (s : Shape) (v : Value) :
    (s.check v = .ok () ↔ s.Permits v)
      ∧ (s.accepts v = true ↔ s.Permits v)
      ∧ ((∃ w, s.slice v = .ok w) ↔ s.Permits v)
      ∧ ((∃ w, s.insist v = .ok w) ↔ s.Permits v)
      ∧ ((∃ w, s.insistSlice v = .ok w) ↔ s.Permits v)
      ∧ ∀ failure, s.check v = .error failure ↔ s.slice v = .error failure := by
  have hcheck : s.check v = .ok () ↔ s.Permits v := by rw [← accepts_iff, accepts_iff_permits]
  refine ⟨hcheck, accepts_iff_permits, ?_, ?_, ?_, ?_⟩
  · rw [exists_slice_eq_ok_iff, hcheck]
  · rw [exists_insist_eq_ok_iff, hcheck]
  · rw [exists_insistSlice_eq_ok_iff, exists_slice_eq_ok_iff, hcheck]
  · intro failure
    exact slice_eq_error_iff.symm

end Shape

end ShapeCheck
