import Mathlib.Data.List.Forall2
import ShapeCheck.Failure.Render
import ShapeCheck.Proofs.Causes

/-!
# Lifting failures

Whatever holds a value lifts the failures that were found in it, and only touches the path of the
outermost one. As the paths of causes begin where the failure above them points, this moves all that
stands below as well: the leaves of a lifted failure are its leaves, lifted, and nothing else of
them changes. A failure for several others has no leaves of its own, so that its leaves are those of
the others, one after the other.
-/

namespace ShapeCheck.Failure

variable {f : Failure} {fs : List Failure} {path : Path}

/-- A path is put in front segment by segment, its last segment first. -/
theorem liftPath_eq_foldr (path : Path) (f : Failure) : f.liftPath path = path.foldr lift f := by
  induction path with
  | nil => exact liftPath_nil f
  | cons segment path ih => rw [liftPath_cons, ih, List.foldr_cons]

/-- A message does not tell where its failure is. -/
@[simp] theorem message_withPath [DateFormat] (path : Path) (f : Failure) :
    (f.withPath path).message = f.message := by
  cases f <;> rfl

@[simp] theorem message_liftPath [DateFormat] (path : Path) (f : Failure) :
    (f.liftPath path).message = f.message :=
  message_withPath _ f

theorem leaves_combine (site : Site) (hpath : site.path = []) (h : fs ≠ []) :
    (combine site fs).leaves = fs.flatMap leaves := by
  match fs with
  | [] => exact absurd rfl h
  | [only] => rw [combine_singleton, List.flatMap_singleton]
  | first :: second :: rest => exact leaves_of_path_eq_nil hpath (List.cons_ne_nil _ _)

/-- Lifting and combining show in the leaves and do not lose, repeat or reorder any: the leaves of a
lifted failure have the path in front of theirs and are otherwise the same, and the leaves of
combined failures are theirs one after the other. -/
theorem leaves_of_lifted_and_combined [DateFormat] (f : Failure) (path : Path) :
    f.liftPath path = path.foldr lift f
      ∧ (f.liftPath path).leaves = f.leaves.map (fun leaf => leaf.withPath (path ++ leaf.path))
      ∧ List.Forall₂
          (fun lifted leaf => lifted.path = path ++ leaf.path ∧ lifted.value = leaf.value
            ∧ lifted.message = leaf.message ∧ lifted.expected = leaf.expected)
          (f.liftPath path).leaves f.leaves
      ∧ ∀ (v : Value) (s : Shape) (fs : List Failure), 2 ≤ fs.length →
          (combine (.here v s) fs).leaves = fs.flatMap leaves := by
  refine ⟨liftPath_eq_foldr path f, leaves_liftPath path f, ?_, ?_⟩
  · rw [leaves_liftPath, List.forall₂_map_left_iff, List.forall₂_same]
    intro leaf _
    exact ⟨path_liftPath path leaf, value_liftPath path leaf, message_liftPath path leaf,
      expected_liftPath path leaf⟩
  · intro v s fs hlength
    refine leaves_combine (.here v s) rfl ?_
    rintro rfl
    cases hlength

/-- One leaf stands right below the failure and the other one two levels deeper. Combining the
failure with another one adds a leaf behind them. -/
theorem leaves_of_lifted_and_combined_nested :
    ((several ⟨[.key "b"], .null, .any⟩ [leaf ⟨[.index 0], .null, .never⟩ .notArray,
          rerooted (.here .null .any) (leaf ⟨[.key "c", .nth 1], .null, .never⟩ .isNull)]).liftPath
            [.key "a", .index 2]).leaves
        = [leaf ⟨[.key "a", .index 2, .key "b", .index 0], .null, .never⟩ .notArray,
          leaf ⟨[.key "a", .index 2, .key "b", .key "c", .nth 1], .null, .never⟩ .isNull]
      ∧ (combine (.here .null .any) [several ⟨[.key "b"], .null, .any⟩
            [leaf ⟨[.index 0], .null, .never⟩ .notArray,
              rerooted (.here .null .any) (leaf ⟨[.key "c", .nth 1], .null, .never⟩ .isNull)],
          leaf ⟨[.key "d"], .null, .never⟩ .neverOccurs]).leaves
        = [leaf ⟨[.key "b", .index 0], .null, .never⟩ .notArray,
          leaf ⟨[.key "b", .key "c", .nth 1], .null, .never⟩ .isNull,
          leaf ⟨[.key "d"], .null, .never⟩ .neverOccurs] := by
  let _ := DateFormat.epoch
  obtain ⟨-, hlifted, -, hcombined⟩ := leaves_of_lifted_and_combined
    (several ⟨[.key "b"], .null, .any⟩ [leaf ⟨[.index 0], .null, .never⟩ .notArray,
      rerooted (.here .null .any) (leaf ⟨[.key "c", .nth 1], .null, .never⟩ .isNull)])
    [.key "a", .index 2]
  exact ⟨hlifted, hcombined .null .any _ (Nat.le_refl 2)⟩

end ShapeCheck.Failure
