import ShapeCheck.Proofs.Combination
import ShapeCheck.Proofs.Report

/-!
# Shapes that report alike

Whether a shape is accepted does not say how it behaves inside an intersection, where the reports of
both sides meet and a validation is passed over. Two shapes are alike at a value if they report the
same of it and are passed over alike. Unions, intersections and comments respect that, so that an
intersection of shapes that are no constraints can be taken apart and put together up to it.
-/

namespace ShapeCheck

namespace KeyReport

theorem both_assoc (a b c : KeyReport) : (a.both b).both c = a.both (b.both c) := by
  obtain ⟨ka, ea⟩ := a
  obtain ⟨kb, eb⟩ := b
  obtain ⟨kc, ec⟩ := c
  cases ka <;> cases kb <;> cases kc <;> simp [both, Bool.and_assoc]

end KeyReport

namespace Shape

/-- Whether a validation is a branch of the union that a shape is, possibly with comments. -/
def validatesBranch : Shape → Bool
  | commented _ inner => inner.validatesBranch
  | union left right =>
    left.isValidation || left.validatesBranch || (right.isValidation || right.validatesBranch)
  | _ => false

theorem commented_or_bare (s : Shape) :
    (∃ text inner, s = commented text inner) ∨ s.bare = s := by
  cases s with
  | commented text inner => exact .inl ⟨text, inner, rfl⟩
  | _ => exact .inr rfl

@[simp] theorem reachesConstraint_bare (s : Shape) :
    s.bare.reachesConstraint = s.reachesConstraint :=
  apply_bare (fun _ _ => rfl) s

theorem reachesConstraint_of_isValidation {s : Shape} (h : s.isValidation = true) :
    s.reachesConstraint = false := by
  induction s using induction_on_parts with
  | step s ih =>
    cases s with
    | commented text inner => exact ih inner (by simp [parts]) h
    | validation => rfl
    | _ => cases h

/-- A validation knows no keys. -/
theorem report?_of_isValidation {s : Shape} (h : s.isValidation = true) {v : Value}
    {report : KeyReport} (hreport : s.report? v = some report) : report = .untracked :=
  report?_eq_untracked (reachesConstraint_of_isValidation h) hreport

theorem constraint?_bare_of_plain {s : Shape} (h : s.reachesConstraint = false) :
    s.bare.constraint? = none := by
  rw [← reachesConstraint_bare] at h
  cases hc : s.bare.constraint? with
  | none => rfl
  | some c =>
    rw [reachesConstraint_of_constraint? hc] at h
    cases h

theorem isValidation_of_reachesConstraint {s : Shape} (h : s.reachesConstraint = true) :
    s.isValidation = false := by
  cases hs : s.isValidation with
  | false => rfl
  | true =>
    rw [reachesConstraint_of_isValidation hs] at h
    cases h

theorem isValidation_of_constraint? {s : Shape} {c : Constraint Shape}
    (h : s.constraint? = some c) : s.isValidation = false :=
  isValidation_of_reachesConstraint (reachesConstraint_of_constraint? h)

/-- Whether two shapes report the same of a value, also as sides of an intersection. -/
structure Alike (v : Value) (s t : Shape) : Prop where
  report : s.report? v = t.report? v
  isValidation : s.isValidation = t.isValidation

namespace Alike

variable {v : Value} {a a' b b' c s t u : Shape}

theorem refl (v : Value) (s : Shape) : Alike v s s := ⟨rfl, rfl⟩

theorem symm (h : Alike v s t) : Alike v t s := ⟨h.report.symm, h.isValidation.symm⟩

theorem trans (h : Alike v s t) (h' : Alike v t u) : Alike v s u :=
  ⟨h.report.trans h'.report, h.isValidation.trans h'.isValidation⟩

theorem accepts_eq (h : Alike v s t) : s.accepts v = t.accepts v := by
  rw [Bool.eq_iff_iff, accepts_iff_report?, accepts_iff_report?, h.report]

theorem commented (text : String) (s : Shape) : Alike v (commented text s) s := ⟨rfl, rfl⟩

theorem union (ha : Alike v a a') (hb : Alike v b b') : Alike v (union a b) (union a' b') :=
  ⟨by rw [report?_union, report?_union, ha.report, hb.report], rfl⟩

theorem inter (ha : Alike v a a') (hb : Alike v b b') : Alike v (inter a b) (inter a' b') := by
  refine ⟨?_, rfl⟩
  simp only [report?_inter, reportOfSides, ha.report, hb.report, ha.isValidation, hb.isValidation]

/-- Sides of nested intersections can be regrouped, as long as no validation is passed over for
another one. -/
theorem inter_assoc (hab : a.isValidation = true → b.isValidation = false)
    (hbc : b.isValidation = true → c.isValidation = false) :
    Alike v (.inter (.inter a b) c) (.inter a (.inter b c)) := by
  refine ⟨?_, rfl⟩
  simp only [report?_inter]
  cases a.report? v with
  | none => rfl
  | some ra =>
    cases b.report? v with
    | none => rfl
    | some rb =>
      cases c.report? v with
      | none => rfl
      | some rc =>
        simp only [Option.bind_some, Option.map_some, Option.some.injEq, reportOfSides]
        cases hva : a.isValidation <;> cases hvb : b.isValidation <;>
          cases hvc : c.isValidation <;> simp_all [Shape.isValidation, KeyReport.both_assoc]

/-- Comments on the left side of an intersection stay outside of it. -/
theorem and_commented (text : String) (a b : Shape) :
    Alike v ((Shape.commented text a).and b) (a.and b) :=
  .commented text (a.and b)

theorem bare (v : Value) (s : Shape) : Alike v s.bare s := by
  induction s using induction_on_parts with
  | step s ih =>
    obtain ⟨text, inner, rfl⟩ | hbare := commented_or_bare s
    · exact (ih inner (by simp [parts])).trans (commented text inner).symm
    · rw [hbare]
      exact refl v s

/-- Comments on the left side can be left out. -/
theorem and_bare (a b : Shape) : Alike v (a.and b) (a.bare.and b) := by
  induction a using induction_on_parts with
  | step a ih =>
    obtain ⟨text, inner, rfl⟩ | hbare := commented_or_bare a
    · exact (and_commented text inner b).trans (ih inner (by simp [parts]))
    · rw [hbare]
      exact refl v _

/-- A constraint is carried past the comments on the right side. -/
theorem absorb_bare (whole : Shape) (f : Constraint Shape → Constraint Shape) (b : Shape) :
    Alike v (absorb whole f b) (absorb whole f b.bare) := by
  induction b using induction_on_parts with
  | step b ih =>
    obtain ⟨text, inner, rfl⟩ | hbare := commented_or_bare b
    · exact (commented text _).trans (ih inner (by simp [parts]))
    · rw [hbare]
      exact refl v _

/-- Comments on both sides can be left out. -/
theorem and_bares (a b : Shape) : Alike v (a.and b) (a.bare.and b.bare) := by
  refine (and_bare a b).trans ?_
  obtain ⟨text, inner, hcomment⟩ | ⟨c, hc⟩ | ⟨-, hand⟩ := and_cases a.bare
  · exact absurd hcomment (bare_ne_commented a text inner)
  · rw [and_of_constraint? hc, and_of_constraint? hc]
    exact absorb_bare _ _ b
  · rw [hand, hand]
    exact (refl v a.bare).inter (bare v b).symm

/-- A shape that is no constraint, comments apart, is checked side by side with any other. -/
theorem and_of_bare (h : a.bare.constraint? = none) (b : Shape) :
    Alike v (a.and b) (.inter a b) := by
  induction a using induction_on_parts with
  | step a ih =>
    cases a with
    | commented text a =>
      have hinner : Alike v (a.and b) (.inter a b) := ih a (by simp [parts]) h
      exact (and_commented text a b).trans
        (hinner.trans ((Alike.commented text a).symm.inter (.refl v b)))
    | record | dict | merged => cases h
    | _ => exact .refl v _

/-- A side that is checked beside both branches of a union is checked beside the union. -/
theorem inter_union (hb : b.isValidation = false) (hc : c.isValidation = false) :
    Alike v (.union (.inter a b) (.inter a c)) (.inter a (.union b c)) := by
  refine ⟨?_, rfl⟩
  have hvalidation : (Shape.union b c).isValidation = false := rfl
  simp only [report?_union, report?_inter, reportOfSides, hb, hc, hvalidation]
  cases a.report? v with
  | none => rfl
  | some ra => cases b.report? v <;> rfl

/-- A constraint that meets a shape without constraints is checked side by side with it. It is
carried into the branches of a union, where it reports what it would outside unless a branch is a
validation. -/
theorem absorb_plain {whole : Shape} (f : Constraint Shape → Constraint Shape)
    (hb : b.reachesConstraint = false) (hbranch : b.validatesBranch = false) :
    Alike v (absorb whole f b) (.inter whole b) := by
  induction b using induction_on_parts with
  | step b ih =>
    cases b with
    | record | dict | merged => cases hb
    | commented text b =>
      have hinner := ih b (by simp [parts]) hb hbranch
      exact (Alike.commented text _).trans
        (hinner.trans ((Alike.refl v whole).inter (Alike.commented text b).symm))
    | union l r =>
      obtain ⟨hl, hr⟩ := Bool.or_eq_false_iff.1 hb
      obtain ⟨hleft, hright⟩ := Bool.or_eq_false_iff.1 hbranch
      obtain ⟨hvl, hbl⟩ := Bool.or_eq_false_iff.1 hleft
      obtain ⟨hvr, hbr⟩ := Bool.or_eq_false_iff.1 hright
      have ihl := ih l (by simp [parts]) hl hbl
      have ihr := ih r (by simp [parts]) hr hbr
      exact (ihl.union ihr).trans (inter_union hvl hvr)
    | inter l r =>
      obtain ⟨hl, hr⟩ := Bool.or_eq_false_iff.1 hb
      rw [absorb, hl, hr]
      exact .refl v _
    | _ => exact .refl v _

/-- Without constraints on the right, an intersection is checked side by side. -/
theorem and_plain (a : Shape) (hb : b.reachesConstraint = false)
    (hbranch : b.validatesBranch = false) : Alike v (a.and b) (.inter a b) := by
  induction a using induction_on_parts with
  | step a ih =>
    obtain ⟨text, inner, rfl⟩ | ⟨c, hc⟩ | ⟨-, hand⟩ := and_cases a
    · have hinner := ih inner (by simp [parts])
      exact (and_commented text inner b).trans
        (hinner.trans ((commented text inner).symm.inter (refl v b)))
    · rw [and_of_constraint? hc]
      exact absorb_plain _ hb hbranch
    · rw [hand]
      exact refl v _

end Alike

/-- An intersection with a shape that is no constraint is none. -/
theorem constraint?_bare_and {a : Shape} (h : a.bare.constraint? = none) (b : Shape) :
    (a.and b).bare.constraint? = none := by
  induction a using induction_on_parts with
  | step a ih =>
    cases a with
    | commented text a => exact ih a (by simp [parts]) h
    | record | dict | merged => cases h
    | _ => rfl

theorem constraint?_bare_and_of_right (a : Shape) {b : Shape} (h : b.bare.constraint? = none) :
    (a.and b).bare.constraint? = none := by
  induction a using induction_on_parts with
  | step a ih =>
    obtain ⟨text, inner, rfl⟩ | ⟨c, hc⟩ | ⟨-, hand⟩ := and_cases a
    · exact ih inner (by simp [parts])
    · rw [and_of_constraint? hc]
      revert h
      apply absorb_induction
        (R := fun b s => b.bare.constraint? = none → s.bare.constraint? = none)
      case constraint =>
        intro b d hd h
        cases b with
        | record | dict | merged => cases h
        | _ => cases hd
      case underComment => exact fun text b s ih h => ih h
      all_goals
        intros
        rfl
    · rw [hand]
      rfl

theorem validatesBranch_and {a : Shape} (h : a.bare.constraint? = none) (b : Shape) :
    (a.and b).validatesBranch = false := by
  induction a using induction_on_parts with
  | step a ih =>
    cases a with
    | commented text a => exact ih a (by simp [parts]) h
    | record | dict | merged => cases h
    | _ => rfl

end Shape

end ShapeCheck
