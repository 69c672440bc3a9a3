import ShapeCheck.Proofs.Regrouping
import ShapeCheck.Proofs.Scopes

/-!
# A constraint carried into a shape, and beside it

A constraint on records that meets another shape is carried into the constraints that the shape
leads to, and each of them becomes one constraint with it. Beside the shape it would be asked once,
and the shape as it is. Where one constraint asks for what two ask for up to keys, both come to the
same, and up to the order of keys the same is reported. A validation as a branch of a union is the
exception: a constraint that is carried into the branch keeps its keys there, and beside the union
it loses them.
-/

namespace ShapeCheck

namespace Shape

/-- Whether a constraint holds, together with any constraint that a shape leads to, on the entries
of a value exactly if both hold on them. -/
def MeetsIn (c : Constraint Shape) (s : Shape) (v : Value) : Prop :=
  ∀ d ∈ s.reached, ∀ entries, v.record? = some entries →
    ((andConstraints c d).HoldsOn entries ↔ c.HoldsOn entries ∧ d.HoldsOn entries)

/-- Whether, where a constraint would be carried into a shape, a union follows a validation. -/
def TakesValidation : Shape → Value → Prop
  | commented _ inner, v => inner.TakesValidation v
  | union left right, v =>
    left.Matches v ∧ (left.isValidation = true ∨ left.TakesValidation v)
      ∨ ¬left.Matches v ∧ right.Matches v ∧ (right.isValidation = true ∨ right.TakesValidation v)
  | inter left right, v =>
    left.reachesConstraint = true ∧ left.TakesValidation v
      ∨ right.reachesConstraint = true ∧ right.TakesValidation v
  | _, _ => False

/-- A side that leads to a constraint is no validation, and it follows none if the intersection does
not. -/
theorem not_takesValidation_left {left right : Shape} {v : Value}
    (hl : left.reachesConstraint = true) (h : ¬(inter left right).TakesValidation v) :
    ¬(left.isValidation = true ∨ left.TakesValidation v) := by
  rintro (hvalidation | htakes)
  · simp [isValidation_of_reachesConstraint hl] at hvalidation
  · exact h (.inl ⟨hl, htakes⟩)

theorem not_takesValidation_right {left right : Shape} {v : Value}
    (hr : right.reachesConstraint = true) (h : ¬(inter left right).TakesValidation v) :
    ¬(right.isValidation = true ∨ right.TakesValidation v) := by
  rintro (hvalidation | htakes)
  · simp [isValidation_of_reachesConstraint hr] at hvalidation
  · exact h (.inr ⟨hr, htakes⟩)

theorem permits_reportOfSides_left {left : Shape} (hl : left.isValidation = false) (right : Shape)
    {a : KeyReport} {v : Value} (h : a.Permits v) (b : KeyReport) :
    (reportOfSides left right a b).Permits v := by
  rw [reportOfSides, hl]
  cases right.isValidation with
  | true => exact h
  | false => exact h.both_left b

theorem permits_reportOfSides_right (left : Shape) {right : Shape} (hr : right.isValidation = false)
    (a : KeyReport) {b : KeyReport} {v : Value} (h : b.Permits v) :
    (reportOfSides left right a b).Permits v := by
  rw [reportOfSides, hr]
  cases left.isValidation with
  | true => exact h
  | false => exact h.both_right a

/-- Whether all that a shape reports of a value permits its keys. -/
def PermitsAll (s : Shape) (v : Value) : Prop :=
  ∀ report, s.report? v = some report → report.Permits v

theorem matches_merged_iff {a b : Shape} {c d : Constraint Shape} {v : Value}
    (ha : a.constraint? = some c) (hb : b.constraint? = some d)
    (hmeets : ∀ entries, v.record? = some entries →
      ((andConstraints c d).HoldsOn entries ↔ c.HoldsOn entries ∧ d.HoldsOn entries)) :
    (merged a b (andConstraints c d)).Matches v ↔ a.Matches v ∧ b.Matches v := by
  rw [matches_of_constraint? rfl, matches_of_constraint? ha, matches_of_constraint? hb]
  constructor
  · rintro ⟨entries, hv, hboth⟩
    obtain ⟨hc, hd⟩ := (hmeets entries hv).1 hboth
    exact ⟨⟨entries, hv, hc⟩, ⟨entries, hv, hd⟩⟩
  · rintro ⟨⟨entries, hv, hc⟩, ⟨entries', hv', hd⟩⟩
    cases hv.symm.trans hv'
    exact ⟨entries, hv, (hmeets entries hv).2 ⟨hc, hd⟩⟩

theorem MeetsIn.of_subset {c : Constraint Shape} {s t : Shape} {v : Value} (h : MeetsIn c t v)
    (hsub : s.reached ⊆ t.reached) : MeetsIn c s v :=
  fun d hd => h d (hsub hd)

/-- What a constraint is carried into, compared with the constraint beside the shape. -/
structure CarriedInto (whole : Shape) (v : Value) (b s : Shape) : Prop where
  isValidation : s.isValidation = false
  matches_iff : s.Matches v ↔ whole.Matches v ∧ b.Matches v
  scope : ¬b.TakesValidation v → s.scope? v = (inter whole b).scope? v
  permits : whole.PermitsAll v → s.PermitsAll v

namespace CarriedInto

variable {whole b b₁ b₂ s s₁ s₂ : Shape} {v : Value}

theorem scope?_eq (hwhole : whole.isValidation = false) (h : CarriedInto whole v b s)
    (hb : ¬(b.isValidation = true ∨ b.TakesValidation v)) :
    s.scope? v = Option.map₂ KeyScope.meet (whole.scope? v) (b.scope? v) := by
  obtain ⟨hvalidation, htakes⟩ := not_or.1 hb
  rw [h.scope htakes, scope?_inter_of_not_isValidation hwhole (Bool.eq_false_iff.2 hvalidation)]

theorem scope?_eq_none (h : CarriedInto whole v b s) (hnone : ¬(whole.Matches v ∧ b.Matches v)) :
    s.scope? v = none :=
  scope?_eq_none_iff.2 fun hs => hnone (h.matches_iff.1 hs)

theorem underComment (text : String) (h : CarriedInto whole v b s) :
    CarriedInto whole v (commented text b) (commented text s) where
  isValidation := h.isValidation
  matches_iff := h.matches_iff
  scope ht := by
    have hinner := h.scope ht
    rwa [scope?_inter] at hinner ⊢
  permits := h.permits

theorem branches (hwhole : whole.isValidation = false) (h₁ : CarriedInto whole v b₁ s₁)
    (h₂ : CarriedInto whole v b₂ s₂) : CarriedInto whole v (union b₁ b₂) (union s₁ s₂) where
  isValidation := rfl
  matches_iff := by
    rw [matches_union, h₁.matches_iff, h₂.matches_iff, matches_union, and_or_left]
  scope ht := by
    rw [scope?_inter_of_not_isValidation hwhole rfl, scope?_union, scope?_union]
    by_cases hleft : b₁.Matches v
    · -- The first branch is followed, inside and outside.
      have hb : ¬(b₁.isValidation = true ∨ b₁.TakesValidation v) := fun h => ht (.inl ⟨hleft, h⟩)
      have hs := h₁.scope?_eq hwhole hb
      by_cases hw : whole.Matches v
      · obtain ⟨x, hx⟩ := Option.ne_none_iff_exists'.1 fun h => scope?_eq_none_iff.1 h hleft
        obtain ⟨y, hy⟩ := Option.ne_none_iff_exists'.1 fun h => scope?_eq_none_iff.1 h hw
        simp [hs, hx, hy]
      · have hnone₁ := h₁.scope?_eq_none fun h => hw h.1
        have hnone₂ := h₂.scope?_eq_none fun h => hw h.1
        simp [hnone₁, hnone₂, scope?_eq_none_iff.2 hw]
    · have hnone := h₁.scope?_eq_none fun h => hleft h.2
      rw [hnone, scope?_eq_none_iff.2 hleft, Option.none_or, Option.none_or]
      by_cases hright : b₂.Matches v
      · exact h₂.scope?_eq hwhole fun h => ht (.inr ⟨hleft, hright, h⟩)
      · rw [h₂.scope?_eq_none fun h => hright h.2, scope?_eq_none_iff.2 hright,
          Option.map₂_none_right]
  permits hp report hreport := by
    rw [report?_union, Option.or_eq_some_iff] at hreport
    obtain hreport | ⟨-, hreport⟩ := hreport
    · exact h₁.permits hp report hreport
    · exact h₂.permits hp report hreport

theorem bothSides (hwhole : whole.isValidation = false) (hb₁ : b₁.reachesConstraint = true)
    (hb₂ : b₂.reachesConstraint = true) (h₁ : CarriedInto whole v b₁ s₁)
    (h₂ : CarriedInto whole v b₂ s₂) : CarriedInto whole v (inter b₁ b₂) (inter s₁ s₂) where
  isValidation := rfl
  matches_iff := by
    rw [matches_inter, h₁.matches_iff, h₂.matches_iff, matches_inter, and_and_and_comm, and_self]
  scope ht := by
    have hv₁ := isValidation_of_reachesConstraint hb₁
    have hv₂ := isValidation_of_reachesConstraint hb₂
    rw [scope?_inter_of_not_isValidation h₁.isValidation h₂.isValidation,
      scope?_inter_of_not_isValidation hwhole rfl, scope?_inter_of_not_isValidation hv₁ hv₂,
      h₁.scope?_eq hwhole (not_takesValidation_left hb₁ ht),
      h₂.scope?_eq hwhole (not_takesValidation_right hb₂ ht)]
    cases whole.scope? v <;> cases b₁.scope? v <;> cases b₂.scope? v <;>
      simp [KeyScope.meet_meet_meet]
  permits hp report hreport := by
    obtain ⟨x, y, hx, -, rfl⟩ := report?_inter_eq_some_iff.1 hreport
    exact permits_reportOfSides_left h₁.isValidation _ (h₁.permits hp x hx) y

theorem leftSide (hwhole : whole.isValidation = false) (hb₁ : b₁.reachesConstraint = true)
    (h₁ : CarriedInto whole v b₁ s₁) : CarriedInto whole v (inter b₁ b₂) (inter s₁ b₂) where
  isValidation := rfl
  matches_iff := by
    rw [matches_inter, h₁.matches_iff, matches_inter, and_assoc]
  scope ht := by
    have hv₁ := isValidation_of_reachesConstraint hb₁
    have hb := not_takesValidation_left hb₁ ht
    rw [scope?_inter, h₁.isValidation, h₁.scope?_eq hwhole hb,
      scope?_inter_of_not_isValidation hwhole rfl, scope?_inter, hv₁]
    cases whole.scope? v <;> cases b₁.scope? v <;> cases b₂.scope? v <;>
      cases b₂.isValidation <;> simp [KeyScope.meet_assoc]
  permits hp report hreport := by
    obtain ⟨x, y, hx, -, rfl⟩ := report?_inter_eq_some_iff.1 hreport
    exact permits_reportOfSides_left h₁.isValidation _ (h₁.permits hp x hx) y

theorem rightSide (hwhole : whole.isValidation = false) (hb₂ : b₂.reachesConstraint = true)
    (h₂ : CarriedInto whole v b₂ s₂) : CarriedInto whole v (inter b₁ b₂) (inter b₁ s₂) where
  isValidation := rfl
  matches_iff := by
    rw [matches_inter, h₂.matches_iff, matches_inter, and_left_comm]
  scope ht := by
    have hv₂ := isValidation_of_reachesConstraint hb₂
    have hb := not_takesValidation_right hb₂ ht
    rw [scope?_inter, h₂.isValidation, h₂.scope?_eq hwhole hb,
      scope?_inter_of_not_isValidation hwhole rfl, scope?_inter, hv₂]
    cases whole.scope? v <;> cases b₁.scope? v <;> cases b₂.scope? v <;>
      cases b₁.isValidation <;> simp [KeyScope.meet_left_comm]
  permits hp report hreport := by
    obtain ⟨x, y, -, hy, rfl⟩ := report?_inter_eq_some_iff.1 hreport
    exact permits_reportOfSides_right _ h₂.isValidation x (h₂.permits hp y hy)

theorem beside (hwhole : whole.isValidation = false) (b : Shape) :
    CarriedInto whole v b (inter whole b) where
  isValidation := rfl
  matches_iff := matches_inter
  scope _ := rfl
  permits hp report hreport := by
    obtain ⟨x, y, hx, -, rfl⟩ := report?_inter_eq_some_iff.1 hreport
    exact permits_reportOfSides_left hwhole _ (hp x hx) y

theorem constraint {c d : Constraint Shape} (hwhole : whole.constraint? = some c)
    (hd : b.constraint? = some d)
    (hmeets : ∀ entries, v.record? = some entries →
      ((andConstraints c d).HoldsOn entries ↔ c.HoldsOn entries ∧ d.HoldsOn entries)) :
    CarriedInto whole v b (merged whole b (andConstraints c d)) := by
  have hmatches := matches_merged_iff hwhole hd hmeets
  refine ⟨rfl, hmatches, fun _ => ?_, fun hp report hreport => ?_⟩
  · rw [scope?_inter_of_not_isValidation (isValidation_of_constraint? hwhole)
      (isValidation_of_constraint? hd)]
    by_cases hboth : whole.Matches v ∧ b.Matches v
    · rw [scope?_of_constraint? rfl (hmatches.2 hboth), scope?_of_constraint? hwhole hboth.1,
        scope?_of_constraint? hd hboth.2, Constraint.scope_report_andConstraints]
      rfl
    · rw [scope?_eq_none_iff.2 fun h => hboth (hmatches.1 h)]
      obtain hw | hb := not_and_or.1 hboth
      · rw [scope?_eq_none_iff.2 hw, Option.map₂_none_left]
      · rw [scope?_eq_none_iff.2 hb, Option.map₂_none_right]
  · obtain ⟨entries, hv, -, rfl⟩ := (report?_of_constraint? rfl).1 hreport
    obtain ⟨⟨x, hx⟩, -⟩ := hmatches.1 ⟨_, hreport⟩
    have hpermits := hp x hx
    obtain ⟨-, -, -, rfl⟩ := (report?_of_constraint? hwhole).1 hx
    have hscope : (c.report.both d.report).scope = (andConstraints c d).report.scope := by
      rw [KeyReport.scope_both, Constraint.scope_report_andConstraints]
    exact (KeyReport.permits_iff_of_scope_eq hscope).1 (hpermits.both_left d.report)

end CarriedInto

/-- On every route a constraint that meets those it is carried into comes to the same as beside. -/
theorem carriedInto_absorb {whole : Shape} {c : Constraint Shape}
    (hwhole : whole.constraint? = some c) {b : Shape} {v : Value} (hm : MeetsIn c b v) :
    CarriedInto whole v b (absorb whole (andConstraints c) b) := by
  have hvalidation := isValidation_of_constraint? hwhole
  revert hm
  apply absorb_induction (R := fun b s => MeetsIn c b v → CarriedInto whole v b s)
  case constraint =>
    intro b d hd hm
    exact .constraint hwhole hd (hm d (by simp [reached_of_constraint? hd]))
  case underComment =>
    intro text b s ih hm
    exact .underComment text (ih hm)
  case branches =>
    intro b₁ b₂ s₁ s₂ ih₁ ih₂ hm
    exact .branches hvalidation (ih₁ (hm.of_subset (List.subset_append_left _ _)))
      (ih₂ (hm.of_subset (List.subset_append_right _ _)))
  case bothSides =>
    intro b₁ b₂ s₁ s₂ hb₁ hb₂ ih₁ ih₂ hm
    exact .bothSides hvalidation hb₁ hb₂ (ih₁ (hm.of_subset (List.subset_append_left _ _)))
      (ih₂ (hm.of_subset (List.subset_append_right _ _)))
  case leftSide =>
    intro b₁ b₂ s₁ hb₁ _ ih₁ hm
    exact .leftSide hvalidation hb₁ (ih₁ (hm.of_subset (List.subset_append_left _ _)))
  case rightSide =>
    intro b₁ b₂ s₂ _ hb₂ ih₂ hm
    exact .rightSide hvalidation hb₂ (ih₂ (hm.of_subset (List.subset_append_right _ _)))
  case beside =>
    intro b _ _
    exact .beside hvalidation b

/-- Where what is reported permits all keys, matching is accepting. -/
theorem PermitsAll.accepts_iff_matches {s : Shape} {v : Value} (h : s.PermitsAll v) :
    s.accepts v = true ↔ s.Matches v := by
  rw [accepts_iff_report?]
  constructor
  · rintro ⟨report, hreport, -⟩
    exact ⟨report, hreport⟩
  · rintro ⟨report, hreport⟩
    exact ⟨report, hreport, KeyReport.permits_iff.1 (h report hreport)⟩

/-- Where combining fields asks for what both ask for, and no validation lets through keys that are
known outside of it, a constraint on the left accepts what it accepts beside the right side. -/
theorem accepts_and_eq_inter {a b : Shape} {c : Constraint Shape} {v : Value}
    (ha : a.bare.constraint? = some c) (hm : MeetsIn c b v)
    (hkeys : ¬b.TakesValidation v ∨ a.PermitsAll v) :
    (a.and b).accepts v = (inter a b).accepts v := by
  have hinter : Alike v (inter a.bare b) (inter a b) := (Alike.bare v a).inter (.refl v b)
  have hcarried := carriedInto_absorb ha hm
  rw [(Alike.and_bare a b).accepts_eq, and_of_constraint? ha, ← hinter.accepts_eq]
  obtain htakes | hpermits := hkeys
  · exact accepts_eq_of_scope? (hcarried.scope htakes)
  · have hp : a.bare.PermitsAll v := by simpa [PermitsAll] using hpermits
    have hbeside : CarriedInto a.bare v b (inter a.bare b) :=
      .beside (isValidation_of_constraint? ha) b
    rw [Bool.eq_iff_iff, (hcarried.permits hp).accepts_iff_matches, hcarried.matches_iff,
      (hbeside.permits hp).accepts_iff_matches, matches_inter]

end Shape

end ShapeCheck
