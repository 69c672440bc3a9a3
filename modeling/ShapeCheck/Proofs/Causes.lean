import Mathlib.Data.List.Basic
import ShapeCheck.Failure.Basic

/-!
# Failures as trees

A failure stands over its causes, and the path of a cause begins where the failure above it points.
The path of a failure in the tree from the outermost value is therefore what one gets by following
the tree down to it, and the leaves of a failure are the places in its tree that have no causes,
told with these paths. Failures are taken apart here by their causes, whatever kind they are.
-/

namespace ShapeCheck.Failure

variable {f c node : Failure} {path base : Path}

theorem sizeOf_lt_of_mem_causes (h : c ∈ f.causes) : sizeOf c < sizeOf f := by
  cases f with
  | leaf site reason => cases h
  | several site causes | noBranch site causes =>
    have hlt : sizeOf c < sizeOf causes := List.sizeOf_lt_of_mem h
    simp only [several.sizeOf_spec, noBranch.sizeOf_spec]
    omega
  | rerooted site cause =>
    rw [List.mem_singleton.1 h]
    simp only [rerooted.sizeOf_spec]
    omega

/-- Induction over the causes of a failure. -/
theorem induction_on_causes {motive : Failure → Prop}
    (step : ∀ f, (∀ c ∈ f.causes, motive c) → motive f) (f : Failure) : motive f :=
  step f fun c _ => induction_on_causes step c
termination_by sizeOf f
decreasing_by exact sizeOf_lt_of_mem_causes ‹_›

@[simp] theorem value_liftPath (path : Path) (f : Failure) : (f.liftPath path).value = f.value := by
  cases f <;> rfl

@[simp] theorem expected_liftPath (path : Path) (f : Failure) :
    (f.liftPath path).expected = f.expected := by
  cases f <;> rfl

@[simp] theorem path_withPath (path : Path) (f : Failure) : (f.withPath path).path = path := by
  cases f <;> rfl

@[simp] theorem value_withPath (path : Path) (f : Failure) : (f.withPath path).value = f.value := by
  cases f <;> rfl

@[simp] theorem withPath_path (f : Failure) : f.withPath f.path = f := by
  cases f <;> rfl

theorem withPath_withPath (path again : Path) (f : Failure) :
    (f.withPath path).withPath again = f.withPath again := by
  cases f <;> rfl

theorem lift_withPath (segment : Segment) (path : Path) (f : Failure) :
    (f.withPath path).lift segment = f.withPath (segment :: path) := by
  cases f <;> rfl

/-- The failures in the tree of a failure, each with the path to it from the outermost value: the
paths on the way down, its own included, one after the other. -/
inductive NodeAt (root : Failure) : Path → Failure → Prop where
  | root : NodeAt root root.path root
  | cause {path : Path} {node c : Failure} (h : NodeAt root path node) (hc : c ∈ node.causes) :
      NodeAt root (path ++ c.path) c

namespace NodeAt

/-- The tree of a cause is part of the tree, with longer paths. -/
theorem ofCause (hc : c ∈ f.causes) (h : c.NodeAt path node) : f.NodeAt (f.path ++ path) node := by
  induction h with
  | root => exact .cause .root hc
  | cause _ hd ih =>
    rw [← List.append_assoc]
    exact ih.cause hd

/-- A tree consists of the failure itself and the trees of its causes. -/
theorem root_or_ofCause (h : f.NodeAt path node) :
    (path = f.path ∧ node = f)
      ∨ ∃ c ∈ f.causes, ∃ rest, path = f.path ++ rest ∧ c.NodeAt rest node := by
  induction h with
  | root => exact .inl ⟨rfl, rfl⟩
  | @cause path node d _ hd ih =>
    obtain ⟨rfl, rfl⟩ | ⟨c, hc, rest, rfl, hrest⟩ := ih
    · exact .inr ⟨d, hd, d.path, rfl, .root⟩
    · exact .inr ⟨c, hc, rest ++ d.path, List.append_assoc _ _ _, hrest.cause hd⟩

/-- Below a failure that is lifted stands what stood below it, and all paths begin with the segment
that it is lifted by. -/
theorem of_lift {segment : Segment} (h : (f.lift segment).NodeAt path node) :
    ∃ rest below, path = segment :: rest ∧ f.NodeAt rest below
      ∧ node = below.withPath node.path := by
  induction h with
  | root =>
    refine ⟨f.path, f, path_liftPath _ _, .root, ?_⟩
    rw [lift, path_liftPath]
    rfl
  | @cause path node c _ hc ih =>
    obtain ⟨rest, below, rfl, hbelow, hnode⟩ := ih
    have hmem : c ∈ below.causes := by
      rw [hnode] at hc
      simpa [withPath] using hc
    exact ⟨rest ++ c.path, c, rfl, hbelow.cause hmem, (withPath_path c).symm⟩

end NodeAt

theorem leavesFrom_of_causes_eq_nil (h : f.causes = []) (base : Path) :
    leavesFrom base f = [f.withPath (base ++ f.path)] := by
  cases f with
  | leaf site reason => rfl
  | several site causes | noBranch site causes =>
    cases h
    rfl
  | rerooted site cause => cases h

theorem leavesFrom_of_causes_ne_nil (h : f.causes ≠ []) (base : Path) :
    leavesFrom base f = f.causes.flatMap (leavesFrom (base ++ f.path)) := by
  cases f with
  | leaf site reason => exact absurd rfl h
  | several site causes | noBranch site causes =>
    cases causes with
    | nil => exact absurd rfl h
    | cons cause causes =>
      rw [leavesFrom, leavesOfAll_eq_flatMap]
      rfl
  | rerooted site cause =>
    rw [leavesFrom]
    exact (List.flatMap_singleton _ _).symm

/-- There is always something to tell. -/
theorem leavesFrom_ne_nil (base : Path) (f : Failure) : leavesFrom base f ≠ [] := by
  induction f using induction_on_causes generalizing base with
  | step f ih =>
    cases hcauses : f.causes with
    | nil =>
      rw [leavesFrom_of_causes_eq_nil hcauses]
      exact List.cons_ne_nil _ _
    | cons c causes =>
      have hc : c ∈ f.causes := hcauses ▸ List.mem_cons_self
      rw [leavesFrom_of_causes_ne_nil (List.ne_nil_of_mem hc)]
      intro hnil
      exact ih c hc _ (List.flatMap_eq_nil_iff.1 hnil c hc)

/-- The leaves are in the tree, at the paths that they are told with. -/
theorem nodeAt_of_mem_leavesFrom {leaf : Failure} (h : leaf ∈ leavesFrom base f) :
    ∃ path node, f.NodeAt path node ∧ leaf = node.withPath (base ++ path) := by
  induction f using induction_on_causes generalizing base with
  | step f ih =>
    by_cases hcauses : f.causes = []
    · rw [leavesFrom_of_causes_eq_nil hcauses] at h
      exact ⟨f.path, f, .root, List.mem_singleton.1 h⟩
    · rw [leavesFrom_of_causes_ne_nil hcauses] at h
      obtain ⟨c, hc, hleaf⟩ := List.mem_flatMap.1 h
      obtain ⟨path, node, hnode, rfl⟩ := ih c hc hleaf
      exact ⟨f.path ++ path, node, hnode.ofCause hc, by rw [List.append_assoc]⟩

theorem nodeAt_of_mem_leaves {leaf : Failure} (h : leaf ∈ f.leaves) :
    ∃ path node, f.NodeAt path node ∧ leaf = node.withPath path :=
  nodeAt_of_mem_leavesFrom h

/-- Lifting a failure lifts its leaves. -/
theorem leavesFrom_append (base path : Path) (f : Failure) :
    leavesFrom (base ++ path) f = (leavesFrom path f).map (liftPath base) := by
  induction f using induction_on_causes generalizing path with
  | step f ih =>
    by_cases hcauses : f.causes = []
    · rw [leavesFrom_of_causes_eq_nil hcauses, leavesFrom_of_causes_eq_nil hcauses]
      cases f <;> simp [withPath, liftPath, atSite, Failure.path, site]
    · rw [leavesFrom_of_causes_ne_nil hcauses, leavesFrom_of_causes_ne_nil hcauses,
        List.map_flatMap]
      refine List.flatMap_congr fun c hc => ?_
      rw [List.append_assoc]
      exact ih c hc (path ++ f.path)

theorem leaves_liftPath (path : Path) (f : Failure) :
    (f.liftPath path).leaves = f.leaves.map (liftPath path) := by
  rw [leaves, leaves, ← leavesFrom_append, List.append_nil]
  by_cases hcauses : f.causes = []
  · rw [leavesFrom_of_causes_eq_nil hcauses,
      leavesFrom_of_causes_eq_nil (by rw [causes_liftPath, hcauses])]
    cases f <;> rfl
  · rw [leavesFrom_of_causes_ne_nil hcauses,
      leavesFrom_of_causes_ne_nil (by rw [causes_liftPath]; exact hcauses), causes_liftPath,
      path_liftPath, List.nil_append]

/-- Around the causes of one place, a failure has no leaves of its own. -/
theorem leaves_of_path_eq_nil (hpath : f.path = []) (h : f.causes ≠ []) :
    f.leaves = f.causes.flatMap leaves := by
  rw [leaves, leavesFrom_of_causes_ne_nil h, hpath]
  rfl

end ShapeCheck.Failure
