import Mathlib.Data.List.Forall2
import ShapeCheck.Proofs.Alike
import ShapeCheck.Proofs.Diagnosis
import ShapeCheck.Proofs.Slices
import ShapeCheck.Proofs.Unions

/-!
# Unions by their branches

A union asks its branches from left to right. The first one that reports of a value decides, with
its own keys and its own exactness, and if none does, each of them adds one cause, its own failure.
How the branches were put together, and which comments stand in between, is forgotten, up to the
shape that is named as expected of the whole value.
-/

namespace ShapeCheck

namespace Failure

/-- The same failure with another shape expected at its root. -/
def expecting (expected : Shape) (f : Failure) : Failure :=
  f.atSite { f.site with expected := expected }

theorem expecting_expected (f : Failure) : f.expecting f.expected = f := by
  cases f <;> rfl

end Failure

/-- Two answers with the same result, or with failures that have the same path, value, reason and
causes and at most expect different shapes at the root. -/
inductive SameCauses {α : Type} : Except Failure α → Except Failure α → Prop where
  | ok (result : α) : SameCauses (.ok result) (.ok result)
  | error (failure : Failure) (expected : Shape) :
    SameCauses (.error failure) (.error (failure.expecting expected))

namespace SameCauses

variable {α β : Type}

theorem refl (answer : Except Failure α) : SameCauses answer answer := by
  cases answer with
  | ok result => exact .ok result
  | error failure =>
    have hself := SameCauses.error (α := α) failure failure.expected
    rwa [failure.expecting_expected] at hself

/-- What is forbidden does not depend on the shape that is expected. -/
theorem enforce (report : KeyReport) (s t : Shape) (v : Value) :
    SameCauses (report.enforce s v) (report.enforce t v) := by
  unfold KeyReport.enforce
  cases report.forbidden v with
  | nil => exact .ok ()
  | cons entry entries =>
    cases entries with
    | nil => exact .refl _
    | cons next entries => exact .error _ t

end SameCauses

namespace Shape

variable {s t left right : Shape} {v : Value}

@[simp] theorem branches_bare (s : Shape) : s.bare.branches = s.branches :=
  apply_bare (fun _ _ => rfl) s

@[simp] theorem track_bare (s : Shape) (v : Value) : s.bare.track v = s.track v := by
  rw [track, track, judge_bare]

theorem track_eq_error_iff {failure : Failure} :
    s.track v = .error failure ↔
      ∃ refusal, s.judge v = .error refusal ∧ refusal.failure = failure := by
  rw [track]
  cases s.judge v <;> simp

/-- A shape that is no union is its only branch, without its comments. -/
theorem branches_eq_singleton (h : ∀ left right, s.bare ≠ union left right) :
    s.branches = [s.bare] := by
  rw [← branches_bare]
  cases hs : s.bare with
  | union left right => exact absurd hs (h left right)
  | commented text inner => exact absurd hs (bare_ne_commented s text inner)
  | _ => rfl

/-- What unions and comments keep holds of a shape if it holds of its branches. -/
theorem of_branches {p : Shape → Prop}
    (union : ∀ left right, p left → p right → p (union left right))
    (commented : ∀ text s, p s → p (commented text s)) (own : ∀ b ∈ s.branches, p b) : p s := by
  induction s using induction_on_parts with
  | step s ih =>
    cases s with
    | union left right =>
      obtain ⟨hleft, hright⟩ := List.forall_mem_append.1 own
      exact union left right (ih left (by simp [parts]) hleft) (ih right (by simp [parts]) hright)
    | commented text inner => exact commented text inner (ih inner (by simp [parts]) own)
    | _ => exact List.forall_mem_singleton.1 own

/-- No branch is a union itself, or a union with comments. -/
theorem bare_ne_union_of_mem_branches {b : Shape} (hb : b ∈ s.branches) (left right : Shape) :
    b.bare ≠ union left right := by
  induction s using induction_on_parts with
  | step s ih =>
    by_cases hs : ∃ left right, s = union left right
    · obtain ⟨left, right, rfl⟩ := hs
      obtain hb | hb := List.mem_append.1 hb
      · exact ih left (by simp [parts]) hb
      · exact ih right (by simp [parts]) hb
    · obtain ⟨text, inner, rfl⟩ | hbare := commented_or_bare s
      · exact ih inner (by simp [parts]) hb
      · push Not at hs
        rw [← hbare] at hs
        rw [branches_eq_singleton hs, List.mem_singleton] at hb
        rw [hb, hbare]
        exact hbare ▸ hs left right

theorem length_branches_pos (s : Shape) : 0 < s.branches.length := by
  induction s using induction_on_parts with
  | step s ih =>
    cases s with
    | union left right =>
      have hleft := ih left (by simp [parts])
      rw [branches, List.length_append]
      omega
    | commented text inner => exact ih inner (by simp [parts])
    | _ => exact Nat.one_pos

/-- What has the branches of a union is a union. -/
theorem exists_bare_eq_union (hs : s.bare = union left right) (ht : t.branches = s.branches) :
    ∃ left' right', t.bare = union left' right' := by
  by_contra hnone
  push Not at hnone
  have hlength := congrArg List.length ht
  rw [branches_eq_singleton hnone, ← branches_bare s, hs, branches, List.length_append,
    List.length_singleton] at hlength
  have hleft := left.length_branches_pos
  have hright := right.length_branches_pos
  omega

/-- A shape reports what the first of its branches reports that reports anything. -/
theorem report?_eq_findSome? (s : Shape) (v : Value) :
    s.report? v = s.branches.findSome? fun b => b.report? v := by
  apply of_branches (p := fun s => s.report? v = s.branches.findSome? fun b => b.report? v)
  case union =>
    intro left right hleft hright
    rw [report?_union, branches, List.findSome?_append, hleft, hright]
  case commented => exact fun text s h => h
  case own =>
    intro b hb
    rw [branches_eq_singleton (bare_ne_union_of_mem_branches hb)]
    simp

theorem closed_of_judgeConstraint {expected : Shape} {c : Constraint Shape} {refusal : Refusal}
    (h : judgeConstraint expected c v = .error refusal) : ∃ failure, refusal = .closed failure := by
  have ofRecord {r : RecordShape Shape} (h : judgeRecord expected r v = .error refusal) :
      ∃ failure, refusal = .closed failure := by
    obtain ⟨fields, exact⟩ := r
    rw [judgeRecord] at h
    split at h
    · cases h
      exact ⟨_, rfl⟩
    · split at h
      · cases h
      · cases h
        exact ⟨_, rfl⟩
  cases c with
  | record r => exact ofRecord h
  | dict d =>
    obtain ⟨failure, -, rfl⟩ := untrackedIf_eq_error h
    exact ⟨failure, rfl⟩
  | both r d =>
    obtain ⟨failure, -, rfl⟩ | ⟨refused, -, rfl⟩ | ⟨failure, refused, -, -, rfl⟩ :=
      judgeConstraint_both_eq_error h
    all_goals exact ⟨_, rfl⟩

/-- What is no union adds its own failure to a union around it. -/
theorem asBranches_eq_singleton (hs : ∀ left right, s.bare ≠ union left right) {refusal : Refusal}
    (h : s.judge v = .error refusal) : refusal.asBranches = [refusal.failure] := by
  induction s using induction_on_parts with
  | step s ih =>
    have ofConstraint {c : Constraint Shape} (hc : s.constraint? = some c) :
        refusal.asBranches = [refusal.failure] := by
      rw [judge_of_constraint? hc] at h
      obtain ⟨failure, rfl⟩ := closed_of_judgeConstraint h
      rfl
    cases s with
    | record | dict | merged => exact ofConstraint rfl
    | commented text inner => exact ih inner (by simp [parts]) hs h
    | union left right => exact absurd rfl (hs left right)
    | inter left right =>
      obtain ⟨refused, -, rfl⟩ | ⟨refused, refusedToo, -, -, rfl⟩ := judge_inter_eq_error h
      all_goals rfl
    | _ =>
      obtain ⟨failure, -, rfl⟩ := untrackedIf_eq_error h
      rfl

/-- What refuses a value adds the failures of its branches to a union around it. -/
theorem forall₂_asBranches {refusal : Refusal} (h : s.judge v = .error refusal) :
    List.Forall₂ (fun b failure => b.track v = .error failure) s.branches refusal.asBranches := by
  revert refusal
  apply of_branches (p := fun s => ∀ {refusal}, s.judge v = .error refusal →
    List.Forall₂ (fun b failure => b.track v = .error failure) s.branches refusal.asBranches)
  case union =>
    intro left right ihl ihr refusal h
    obtain ⟨refused, refusedToo, hleft, hright, rfl⟩ := judge_union_eq_error h
    exact List.rel_append (ihl hleft) (ihr hright)
  case commented => exact fun text s ih _ h => ih h
  case own =>
    intro b hb refusal h
    have hbare := bare_ne_union_of_mem_branches hb
    have hown : b.bare.track v = .error refusal.failure := by
      rw [track_bare]
      exact track_eq_error_iff.2 ⟨refusal, h, rfl⟩
    rw [branches_eq_singleton hbare, asBranches_eq_singleton hbare h]
    exact .cons hown .nil

/-- A union that refuses a value fails with the failures of its branches as causes. -/
theorem track_union_eq_error (hs : s.bare = union left right) {failure : Failure}
    (h : s.track v = .error failure) :
    ∃ causes, failure = .noBranch (.here v s.bare) causes
      ∧ List.Forall₂ (fun b cause => b.track v = .error cause) s.branches causes := by
  rw [← track_bare, hs] at h
  obtain ⟨refusal, hjudge, rfl⟩ := track_eq_error_iff.1 h
  have hcauses := forall₂_asBranches hjudge
  obtain ⟨refused, refusedToo, -, -, rfl⟩ := judge_union_eq_error hjudge
  refine ⟨refused.asBranches ++ refusedToo.asBranches, by rw [hs]; rfl, ?_⟩
  rwa [← hs, branches_bare] at hcauses

/-- The failures of branches are determined by the branches. -/
theorem rightUnique_track (v : Value) :
    Relator.RightUnique fun (b : Shape) (cause : Failure) => b.track v = .error cause := by
  intro b cause other h h'
  cases h.symm.trans h'
  rfl

theorem report?_eq_none_iff : s.report? v = none ↔ ∃ failure, s.track v = .error failure := by
  rw [report?, track]
  cases s.judge v <;> simp [Except.toOption]

/-- Unions with the same branches track a value alike. -/
theorem sameCauses_track (hs : s.bare = union left right) (ht : t.branches = s.branches) :
    SameCauses (s.track v) (t.track v) := by
  have hreport : t.report? v = s.report? v := by
    rw [report?_eq_findSome?, report?_eq_findSome? s, ht]
  cases htrack : s.track v with
  | ok report =>
    rw [track_eq_ok_iff.2 (hreport.trans (track_eq_ok_iff.1 htrack))]
    exact .ok report
  | error failure =>
    have hnone : s.report? v = none := report?_eq_none_iff.2 ⟨failure, htrack⟩
    obtain ⟨other, hother⟩ := report?_eq_none_iff.1 (hreport.trans hnone)
    obtain ⟨left', right', ht'⟩ := exists_bare_eq_union hs ht
    obtain ⟨causes, rfl, hcauses⟩ := track_union_eq_error hs htrack
    obtain ⟨causes', rfl, hcauses'⟩ := track_union_eq_error ht' hother
    -- The branches determine the causes, so that both unions have the same ones.
    rw [ht] at hcauses'
    rw [hother, List.right_unique_forall₂' (rightUnique_track v) hcauses' hcauses]
    exact .error (.noBranch (.here v s.bare) causes) t.bare

theorem slice_of_bare_eq_union (hs : s.bare = union left right) :
    s.slice v = s.bare.project v := by
  rw [← slice_bare, hs]
  rfl

/-- What is tracked alike is projected alike. -/
theorem sameCauses_project (h : SameCauses (s.track v) (t.track v)) :
    SameCauses (s.project v) (t.project v) := by
  rw [project, project]
  generalize s.track v = tracked, t.track v = tracked' at h
  cases h with
  | ok report =>
    dsimp only
    have henforce := SameCauses.enforce report s t v
    generalize report.enforce s v = enforced, report.enforce t v = enforced' at henforce ⊢
    cases henforce with
    | ok _ => exact .ok _
    | error failure expected => exact .error failure expected
  | error failure expected => exact .error failure expected

/-- Unions with the same branches slice a value alike. -/
theorem sameCauses_slice (hs : s.bare = union left right) (ht : t.branches = s.branches) :
    SameCauses (s.slice v) (t.slice v) := by
  obtain ⟨left', right', ht'⟩ := exists_bare_eq_union hs ht
  rw [slice_of_bare_eq_union hs, slice_of_bare_eq_union ht']
  apply sameCauses_project
  rw [track_bare, track_bare]
  exact sameCauses_track hs ht

/-- A union of two shapes accepts what the first one accepts, and, where that one refuses to report,
what the second one accepts. -/
theorem accepts_or_iff (a b : Shape) (v : Value) :
    (a.or b).accepts v = true ↔
      a.accepts v = true ∨ (∃ failure, a.track v = .error failure) ∧ b.accepts v = true := by
  cases htrack : a.track v with
  | ok report =>
    rw [accepts_or_of_track htrack, accepts_iff_permits, Permits, htrack]
    simp
  | error failure =>
    rw [accepts_or_of_track_error htrack, accepts_iff_permits (s := a), Permits, htrack]
    simp

/-- A union reports what its first branch does that reports of a value, or fails with one cause for
each branch, the failure of the branch. It is therefore its first side where that reports and its
second side elsewhere, and unions with the same branches answer alike, however they are nested and
commented. -/
theorem union_of_branches (hs : s.bare = union left right) (v : Value) :
    (∀ b ∈ s.branches, ∀ left right, b.bare ≠ union left right)
      ∧ (∀ before b after report, s.branches = before ++ b :: after →
        (∀ t ∈ before, ∃ failure, t.track v = .error failure) → b.track v = .ok report →
        s.track v = .ok report)
      ∧ ((∀ b ∈ s.branches, ∃ failure, b.track v = .error failure) →
        ∃ causes, s.track v = .error (.noBranch (.here v s.bare) causes)
          ∧ List.Forall₂ (fun b cause => b.track v = .error cause) s.branches causes)
      ∧ (∀ a b : Shape, (a.or b).accepts v = true ↔
        a.accepts v = true ∨ (∃ failure, a.track v = .error failure) ∧ b.accepts v = true)
      ∧ ∀ t : Shape, t.branches = s.branches →
        SameCauses (s.track v) (t.track v) ∧ SameCauses (s.slice v) (t.slice v) := by
  refine ⟨fun b hb => bare_ne_union_of_mem_branches hb, ?_, ?_, fun a b => accepts_or_iff a b v,
    fun t ht => ⟨sameCauses_track hs ht, sameCauses_slice hs ht⟩⟩
  · intro before b after report hbranches hbefore htrack
    have hnone : before.findSome? (fun t => t.report? v) = none :=
      List.findSome?_eq_none_iff.2 fun t ht => report?_eq_none_iff.2 (hbefore t ht)
    rw [track_eq_ok_iff, report?_eq_findSome?, hbranches, List.findSome?_append, hnone,
      Option.none_or, List.findSome?_cons, track_eq_ok_iff.1 htrack]
  · intro hall
    have hnone : s.report? v = none := by
      rw [report?_eq_findSome?, List.findSome?_eq_none_iff]
      exact fun b hb => report?_eq_none_iff.2 (hall b hb)
    obtain ⟨failure, htrack⟩ := report?_eq_none_iff.1 hnone
    obtain ⟨causes, rfl, hcauses⟩ := track_union_eq_error hs htrack
    exact ⟨causes, htrack, hcauses⟩

theorem union_of_branches_commented :
    (∃ causes,
      ((tagged .number).or (((tagged .string).or (array any)).comment "text")).track (.bool true)
          = .error (.noBranch (.here (.bool true)
            ((tagged .number).or (((tagged .string).or (array any)).comment "text"))) causes)
        ∧ List.Forall₂ (fun b cause => b.track (.bool true) = .error cause)
          [tagged .number, tagged .string, array any] causes)
      ∧ SameCauses
        (((tagged .number).or (((tagged .string).or (array any)).comment "text")).slice
          (.bool true))
        ((((tagged .number).or (tagged .string)).or (array any)).slice (.bool true)) := by
  have hs : ((tagged .number).or (((tagged .string).or (array any)).comment "text")).bare
      = union (tagged .number) (((tagged .string).or (array any)).comment "text") := rfl
  obtain ⟨-, -, hcauses, -, hnested⟩ := union_of_branches hs (.bool true)
  refine ⟨hcauses ?_,
    (hnested (((tagged .number).or (tagged .string)).or (array any)) rfl).2⟩
  intro b hb
  have hb : b ∈ [tagged .number, tagged .string, array any] := hb
  simp only [List.mem_cons, List.not_mem_nil, or_false] at hb
  obtain rfl | rfl | rfl := hb
  all_goals exact ⟨_, rfl⟩

end Shape

end ShapeCheck
