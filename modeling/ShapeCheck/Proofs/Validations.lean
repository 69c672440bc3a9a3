import ShapeCheck.Proofs.Alike
import ShapeCheck.Proofs.Built

/-!
# Validations beside a shape

A validation constrains a value and not its keys, so that a shape beside one validation knows the
keys that it knows alone. Validations that were put together before are an intersection of their
own, which no longer counts as a validation: it knows no keys and forbids none, and what stands
beside it then forbids none either.
-/

namespace ShapeCheck

namespace KeyReport

@[simp] theorem both_untracked (report : KeyReport) : report.both .untracked = .untracked := by
  obtain ⟨known, exact⟩ := report
  cases known <;> simp [both, untracked]

end KeyReport

namespace Shape

/-- What is put together from validations alone, the predicates of which all hold of a value. -/
inductive ValidationsHold (v : Value) : Shape → Prop where
  | validation (description : String) {test : Value → Verdict} (h : test v = .holds) :
    ValidationsHold v (validation description test)
  | and {a b : Shape} (ha : ValidationsHold v a) (hb : ValidationsHold v b) :
    ValidationsHold v (a.and b)
  | comment {s : Shape} (text : String) (h : ValidationsHold v s) :
    ValidationsHold v (s.comment text)

namespace ValidationsHold

variable {v : Value} {w : Shape}

theorem reachesConstraint (h : ValidationsHold v w) : w.reachesConstraint = false := by
  induction h with
  | validation => rfl
  | and _ _ iha ihb => rw [reachesConstraint_and, iha, ihb, Bool.or_false]
  | comment text _ ih => exact ih

theorem validatesBranch (h : ValidationsHold v w) : w.validatesBranch = false := by
  induction h with
  | validation => rfl
  | and ha _ _ _ => exact validatesBranch_and (constraint?_bare_of_plain ha.reachesConstraint) _
  | comment text _ ih => exact ih

theorem report? (h : ValidationsHold v w) : w.report? v = some .untracked := by
  induction h with
  | @validation description test htest =>
    have hjudge : (Shape.validation description test).judge v
        = untrackedIf (checkLeaf (.validation description test) v) := rfl
    rw [report?_eq_some_iff, hjudge, checkLeaf, htest]
    rfl
  | @and a b ha hb iha ihb =>
    rw [(Alike.and_plain a hb.reachesConstraint hb.validatesBranch).report, report?_inter, iha, ihb]
    rcases reportOfSides_cases a b .untracked .untracked with heq | heq | heq <;> simp [heq]
  | comment text _ ih => exact ih

end ValidationsHold

variable {s w : Shape} {v : Value} {report : KeyReport}

/-- Beside a validation a shape reports what it reports alone, and beside an intersection of
validations it reports no keys. -/
theorem report?_and_validations (hw : ValidationsHold v w) (h : s.report? v = some report) :
    (s.and w).report? v = some (if w.isValidation then report else .untracked) := by
  rw [(Alike.and_plain s hw.reachesConstraint hw.validatesBranch).report, report?_inter, h,
    hw.report?, Option.bind_some, Option.map_some, reportOfSides]
  cases hs : s.isValidation with
  | true =>
    cases report?_of_isValidation hs h
    simp
  | false => cases w.isValidation <;> simp

/-- What is tracked beside validations that hold is what is tracked without them exactly if there is
one validation only, comments apart, or no keys are tracked anyway. Beside more than one the keys
that a shape knows are lost, and with them the ban on others. -/
theorem track_and_validations (hw : ValidationsHold v w) (h : s.track v = .ok report) :
    (s.and w).track v = .ok (if w.isValidation then report else .untracked)
      ∧ ((s.and w).track v = .ok report ↔ w.isValidation = true ∨ report = .untracked)
      ∧ (w.isValidation = true → (s.and w).accepts v = s.accepts v) := by
  have hreport := track_eq_ok_iff.1 h
  have hboth := report?_and_validations hw hreport
  have htrack := track_eq_ok_iff.2 hboth
  refine ⟨htrack, ?_, ?_⟩
  · rw [htrack]
    cases w.isValidation <;> simp [eq_comm]
  · intro hone
    rw [if_pos hone] at hboth
    rw [Bool.eq_iff_iff, accepts_iff_report?, accepts_iff_report?, hboth, hreport]

theorem track_and_validations_commented :
    ((exactRecord [("a", ⟨any, .required⟩)]).and
        ((validation "positive" fun _ => .holds).comment "checked")).track
        (.object [("a", .null), ("b", .null)]) = .ok ⟨some ["a"], true⟩ := by
  have hw : ValidationsHold (.object [("a", .null), ("b", .null)])
      ((validation "positive" fun _ => .holds).comment "checked") :=
    .comment "checked" (.validation "positive" rfl)
  exact (track_and_validations hw rfl).1

/-- An exact record shape beside two validations that were put together first forgets its keys, so
that it accepts a record with a key that it forbids alone. -/
theorem not_track_and_validations :
    ¬ ∀ s w : Shape, s.Built → ∀ v report, ValidationsHold v w → s.track v = .ok report →
      (s.and w).track v = .ok report ∧ (s.accepts v = false → (s.and w).accepts v = false) := by
  intro h
  have hw : ValidationsHold (.object [("a", .null), ("b", .null)])
      ((validation "first" fun _ => .holds).and (validation "second" fun _ => .holds)) :=
    .and (.validation "first" rfl) (.validation "second" rfl)
  have hsame := h (exactRecord [("a", ⟨any, .required⟩)]) _
    (.fields true (by simpa using .any)) _ ⟨some ["a"], true⟩ hw rfl
  have hfalse := hsame.2 rfl
  contradiction

end Shape

end ShapeCheck
