import ShapeCheck.Proofs.EntryPoints
import ShapeCheck.Proofs.Findings

/-!
# How many causes a failure has

A check that refuses a value for one reason has no causes to give. A failure that stands for several
others has at least two of them, because a single one stands for itself, and a union has at least
two branches. Combining nothing is the one way to get a failure that is neither the one nor the
other, so that the tree of a failure also tells that this has not happened. In such a tree the
failures without causes are those with a reason of their own, and these are what is told to callers.
-/

namespace ShapeCheck

namespace Failure

/-- Whether every failure in a tree has as many causes as its kind asks for. -/
inductive WellFormed : Failure → Prop where
  | leaf (site : Site) (reason : Reason) : WellFormed (.leaf site reason)
  | several {site : Site} {causes : List Failure} (hplural : 2 ≤ causes.length)
      (hcauses : ∀ c ∈ causes, WellFormed c) : WellFormed (.several site causes)
  | noBranch {site : Site} {causes : List Failure} (hplural : 2 ≤ causes.length)
      (hcauses : ∀ c ∈ causes, WellFormed c) : WellFormed (.noBranch site causes)
  | rerooted {site : Site} {cause : Failure} (hcause : WellFormed cause) :
      WellFormed (.rerooted site cause)

variable {demands : String → Shape → Prop} {f leaf node : Failure} {fs : List Failure} {v : Value}
  {site : Site} {path base : Path}

theorem wellFormed_iff : f.WellFormed ↔ f.Plural ∧ ∀ c ∈ f.causes, c.WellFormed := by
  constructor
  · intro h
    cases h with
    | leaf site reason => exact ⟨trivial, List.forall_mem_nil _⟩
    | several hplural hcauses | noBranch hplural hcauses => exact ⟨hplural, hcauses⟩
    | rerooted hcause => exact ⟨trivial, List.forall_mem_singleton.2 hcause⟩
  · rintro ⟨hplural, hcauses⟩
    cases f with
    | leaf site reason => exact .leaf site reason
    | several site causes => exact .several hplural hcauses
    | noBranch site causes => exact .noBranch hplural hcauses
    | rerooted site cause => exact .rerooted (List.forall_mem_singleton.1 hcauses)

theorem plural_atSite (site : Site) (f : Failure) : (f.atSite site).Plural ↔ f.Plural := by
  cases f <;> rfl

/-- The place of a failure has nothing to do with its causes. -/
theorem wellFormed_atSite (site : Site) (f : Failure) :
    (f.atSite site).WellFormed ↔ f.WellFormed := by
  rw [wellFormed_iff, wellFormed_iff, plural_atSite, causes_atSite]

/-- Failures can be combined as long as there are any. -/
theorem wellFormed_combine_iff :
    (combine site fs).WellFormed ↔ fs ≠ [] ∧ ∀ f ∈ fs, f.WellFormed := by
  match fs with
  | [] =>
    refine iff_of_false (fun h => ?_) fun h => h.1 rfl
    exact Nat.not_succ_le_zero 1 (wellFormed_iff.1 h).1
  | [only] => simp
  | first :: second :: rest =>
    have hplural : (several site (first :: second :: rest)).Plural := by simp [Plural]
    rw [combine, wellFormed_iff, and_iff_right hplural, and_iff_right (List.cons_ne_nil _ _)]
    · rfl
    · simp

theorem causes_of_mem_leavesFrom (h : leaf ∈ leavesFrom base f) : leaf.causes = [] := by
  induction f using induction_on_causes generalizing base with
  | step f ih =>
    by_cases hcauses : f.causes = []
    · rw [leavesFrom_of_causes_eq_nil hcauses] at h
      rw [List.mem_singleton.1 h, withPath, causes_atSite, hcauses]
    · rw [leavesFrom_of_causes_ne_nil hcauses] at h
      obtain ⟨c, hc, hleaf⟩ := List.mem_flatMap.1 h
      exact ih c hc hleaf

namespace WellFormed

theorem of_mem_causes {c : Failure} (h : f.WellFormed) (hc : c ∈ f.causes) : c.WellFormed :=
  (wellFormed_iff.1 h).2 c hc

theorem of_nodeAt (h : f.WellFormed) (hnode : f.NodeAt path node) : node.WellFormed := by
  induction hnode with
  | root => exact h
  | cause _ hc ih => exact ih.of_mem_causes hc

theorem ne_combine_nil (h : f.WellFormed) (site : Site) : f ≠ combine site [] := by
  rintro rfl
  exact (wellFormed_combine_iff.1 h).1 rfl

theorem eq_leaf_of_causes_eq_nil (h : f.WellFormed) (hcauses : f.causes = []) :
    ∃ site reason, f = .leaf site reason := by
  cases h with
  | leaf site reason => exact ⟨site, reason, rfl⟩
  | several hplural | noBranch hplural =>
    cases hcauses
    cases hplural
  | rerooted => cases hcauses

theorem eq_leaf_of_mem_leaves (h : f.WellFormed) (hleaf : leaf ∈ f.leaves) :
    ∃ site reason, leaf = .leaf site reason := by
  obtain ⟨path, node, hnode, rfl⟩ := nodeAt_of_mem_leaves hleaf
  have hnode : (node.withPath path).WellFormed := (wellFormed_atSite _ _).2 (h.of_nodeAt hnode)
  exact hnode.eq_leaf_of_causes_eq_nil (causes_of_mem_leavesFrom hleaf)

/-- Whichever way a failure was found, its causes are as many as its kind asks for. -/
theorem of_foundIn (h : f.FoundIn demands v) : f.WellFormed := by
  induction h with
  | refused _ _ hplural _ ih => exact wellFormed_iff.2 ⟨hplural, ih⟩
  | missing => exact .leaf _ _
  | inPart _ _ ih => exact (wellFormed_atSite _ _).2 ih

end WellFormed

end Failure

namespace Shape

variable {s : Shape} {v : Value}

/-- All failures that a value is rejected with are well formed, whichever way it was asked about,
and so is whatever the parts and branches of the shape refuse on the way, as these are shapes too.
So nothing has been combined out of no failures, a refusal has something to add to a union or an
intersection around it, and callers are told of reasons, of one at least. -/
theorem failures_well_formed [DateFormat] (s : Shape) (v : Value) (h : s.accepts v = false) :
    ∃ failure rejection,
      s.check v = .error failure ∧ s.slice v = .error failure ∧ s.insist v = .error rejection
        ∧ s.insistSlice v = .error rejection ∧ rejection = .ofFailure (s.rerooted v failure)
        ∧ (∀ refusal, s.judge v = .error refusal →
            refusal.failure = failure ∧ refusal.asSides ≠ [] ∧ refusal.asBranches ≠ [])
        ∧ ∀ told ∈ [failure, s.rerooted v failure],
          (∀ path node, told.NodeAt path node →
              node.WellFormed ∧ ∀ site, node ≠ .combine site [])
            ∧ told.leaves ≠ []
            ∧ ∀ leaf ∈ told.leaves, ∃ site reason, leaf = .leaf site reason := by
  obtain ⟨failure, hcheck⟩ := accepts_eq_false_iff.1 h
  have hslice := slice_eq_error_iff.2 hcheck
  refine ⟨failure, s.reject v failure, hcheck, hslice, ?_, ?_, rfl, ?_, ?_⟩
  · rw [insist, hcheck]
  · rw [insistSlice, hslice]
  · intro refusal hjudge
    have hfound := s.found_judge (fun _ _ hdemanded => hdemanded) hjudge
    rw [check_eq_settle, hjudge] at hcheck
    cases hcheck
    exact ⟨rfl, hfound.sides.nonempty, hfound.branches.nonempty⟩
  · have hwellFormed : ∀ told ∈ [failure, s.rerooted v failure], told.WellFormed :=
      List.forall_mem_cons.2 ⟨.of_foundIn (found_check hcheck),
        List.forall_mem_singleton.2 (.of_foundIn (found_rerooted hcheck))⟩
    intro told htold
    have htree := hwellFormed told htold
    refine ⟨?_, Failure.leavesFrom_ne_nil [] told, ?_⟩
    · intro path node hnode
      exact ⟨htree.of_nodeAt hnode, (htree.of_nodeAt hnode).ne_combine_nil⟩
    · intro leaf hleaf
      exact htree.eq_leaf_of_mem_leaves hleaf

/-- The branch of a union fails for two fields, one of them in a part. -/
theorem failures_well_formed_fields :
    (dictOf (union (openRecord [("a", ⟨tagged .number, .required⟩),
        ("b", ⟨array never, .required⟩)]) (literal .null))).accepts
          (.object [("x", .object [("b", .array [some .null])])]) = false
      ∧ ∃ failure,
        (dictOf (union (openRecord [("a", ⟨tagged .number, .required⟩),
          ("b", ⟨array never, .required⟩)]) (literal .null))).check
            (.object [("x", .object [("b", .array [some .null])])]) = .error failure
          ∧ (∀ path node, failure.NodeAt path node →
            node.WellFormed ∧ ∀ site, node ≠ .combine site [])
          ∧ failure.leaves ≠ []
          ∧ ∀ leaf ∈ failure.leaves, ∃ site reason, leaf = .leaf site reason := by
  have h : (dictOf (union (openRecord [("a", ⟨tagged .number, .required⟩),
      ("b", ⟨array never, .required⟩)]) (literal .null))).accepts
        (.object [("x", .object [("b", .array [some .null])])]) = false := rfl
  let _ := DateFormat.epoch
  obtain ⟨failure, rejection, hcheck, -, -, -, -, -, htold⟩ := failures_well_formed _ _ h
  exact ⟨h, failure, hcheck, htold failure List.mem_cons_self⟩

end Shape

end ShapeCheck
