import ShapeCheck.Proofs.Combination
import ShapeCheck.Proofs.Report

/-!
# Matching up to keys

A value matches a shape if the shape reports anything of it, whatever the keys. Matching goes
through unions and intersections like the connectives that they are shown as, and where a shape
leads to no constraint on records it is all that is asked for: there are no keys to forbid. An
intersection with such a shape therefore asks for both, on whichever route it is reached.
-/

namespace ShapeCheck.Shape

/-- Whether a value is accepted up to its keys. -/
def Matches (s : Shape) (v : Value) : Prop := ∃ report, s.report? v = some report

theorem matches_union {a b : Shape} {v : Value} :
    (union a b).Matches v ↔ a.Matches v ∨ b.Matches v := by
  unfold Matches
  rw [report?_union]
  cases a.report? v <;> simp

theorem matches_inter {a b : Shape} {v : Value} :
    (inter a b).Matches v ↔ a.Matches v ∧ b.Matches v := by
  constructor
  · rintro ⟨report, h⟩
    obtain ⟨ra, rb, ha, hb, -⟩ := report?_inter_eq_some_iff.1 h
    exact ⟨⟨ra, ha⟩, ⟨rb, hb⟩⟩
  · rintro ⟨⟨ra, ha⟩, ⟨rb, hb⟩⟩
    exact ⟨_, report?_inter_eq_some_iff.2 ⟨ra, rb, ha, hb, rfl⟩⟩

theorem matches_of_constraint? {s : Shape} {c : Constraint Shape} (h : s.constraint? = some c)
    {v : Value} : s.Matches v ↔ ∃ entries, v.record? = some entries ∧ c.HoldsOn entries := by
  constructor
  · rintro ⟨report, hreport⟩
    obtain ⟨entries, hv, hc, -⟩ := (report?_of_constraint? h).1 hreport
    exact ⟨entries, hv, hc⟩
  · rintro ⟨entries, hv, hc⟩
    exact ⟨c.report, (report?_of_constraint? h).2 ⟨entries, hv, hc, rfl⟩⟩

/-- Where no constraint is reached there are no keys to forbid. -/
theorem accepts_iff_matches_of_plain {s : Shape} (h : s.reachesConstraint = false) {v : Value} :
    s.accepts v = true ↔ s.Matches v := by
  rw [accepts_iff_report?]
  constructor
  · rintro ⟨report, hreport, -⟩
    exact ⟨report, hreport⟩
  · rintro ⟨report, hreport⟩
    rw [report?_eq_untracked h hreport] at hreport
    exact ⟨.untracked, hreport, KeyReport.forbidden_of_not_exact rfl⟩

/-- Without a constraint on the right, every route of an intersection asks for both shapes. -/
theorem matches_and_of_plain {a b : Shape} (hb : b.reachesConstraint = false) {v : Value} :
    (a.and b).Matches v ↔ a.Matches v ∧ b.Matches v := by
  revert hb
  apply and_induction (R := fun a b s => b.reachesConstraint = false →
    (s.Matches v ↔ a.Matches v ∧ b.Matches v))
  case underLeft | underRight => exact fun _ _ _ _ h => h
  case branches =>
    intro a b₁ b₂ s₁ s₂ ih₁ ih₂ hb
    obtain ⟨hb₁, hb₂⟩ := Bool.or_eq_false_iff.1 hb
    rw [matches_union, matches_union, ih₁ hb₁, ih₂ hb₂, and_or_left]
  case bothSides =>
    intro a b₁ b₂ s₁ s₂ ih₁ ih₂ hb
    obtain ⟨hb₁, hb₂⟩ := Bool.or_eq_false_iff.1 hb
    rw [matches_inter, matches_inter, ih₁ hb₁, ih₂ hb₂, and_and_and_comm, and_self]
  case leftSide =>
    intro a b₁ b₂ s₁ ih₁ hb
    rw [matches_inter, matches_inter, ih₁ (Bool.or_eq_false_iff.1 hb).1, and_assoc]
  case rightSide =>
    intro a b₁ b₂ s₂ ih₂ hb
    rw [matches_inter, matches_inter, ih₂ (Bool.or_eq_false_iff.1 hb).2, and_left_comm]
  case sideBySide => exact fun _ _ _ _ => matches_inter
  case constraints =>
    intro a b ca cb _ hcb _ hb
    rw [reachesConstraint_of_constraint? hcb] at hb
    cases hb

theorem accepts_and_of_plain {a b : Shape} (ha : a.reachesConstraint = false)
    (hb : b.reachesConstraint = false) {v : Value} :
    (a.and b).accepts v = true ↔ a.accepts v = true ∧ b.accepts v = true := by
  have hab : (a.and b).reachesConstraint = false := by
    rw [reachesConstraint_and, ha, hb, Bool.or_false]
  rw [accepts_iff_matches_of_plain hab, accepts_iff_matches_of_plain ha,
    accepts_iff_matches_of_plain hb, matches_and_of_plain hb]

end ShapeCheck.Shape
