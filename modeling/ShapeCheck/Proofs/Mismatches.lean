import ShapeCheck.Proofs.Places

/-!
# What failures are about

A failure names a value and a shape. The shape refuses the value, unless the failure stands for a
field that is missing: such a failure names the undefined value, which the shape of the field may
well accept. So nothing that a check reports, on whatever level of the tree, blames a value for a
shape that it matches.
-/

namespace ShapeCheck

namespace Failure

/-- Whether a failure, told by its path from `v`, is about a mismatch: a demanded field that the
record above it does not have, or a value that the shape refuses. -/
inductive NamesMismatch (demands : String → Shape → Prop) (v : Value) : Failure → Prop where
  | missing {above : Path} {w : Value} {entries : List (String × Value)} {name : String} {s : Shape}
      (hw : v.Reaches above w) (hrecord : w.record? = some entries)
      (h : name ∉ Entries.keys entries) (hdemanded : demands name s) :
      NamesMismatch demands v (.leaf ⟨above ++ [.key name], .undefined, s⟩ (.missingKey name))
  | refused {f : Failure} (h : f.expected.accepts f.value = false) : NamesMismatch demands v f

variable {demands : String → Shape → Prop} {f node : Failure} {v w : Value} {path : Path}

namespace NamesMismatch

theorem lift {segment : Segment} (hstep : v.Step segment w) (h : f.NamesMismatch demands w) :
    (f.lift segment).NamesMismatch demands v := by
  cases h with
  | missing hw hrecord h hdemanded => exact .missing (.step hstep hw) hrecord h hdemanded
  | refused h =>
    refine .refused ?_
    rw [Failure.lift, expected_liftPath, value_liftPath]
    exact h

/-- At the value itself no field is missing: the failure lies deeper then. -/
theorem refused_of_path_eq_nil (h : f.NamesMismatch demands v) (hpath : f.path = []) :
    f.expected.accepts f.value = false := by
  cases h with
  | missing => exact absurd hpath (List.append_ne_nil_of_right_ne_nil _ (List.cons_ne_nil _ _))
  | refused h => exact h

end NamesMismatch

namespace FoundIn

theorem namesMismatch (h : f.FoundIn demands v) (hnode : f.NodeAt path node) :
    (node.withPath path).NamesMismatch demands v := by
  refine h.nodes (P := fun v node => node.NamesMismatch demands v) ?_ ?_ ?_ hnode
  · intro v s f hsite hrefused _
    refine .refused ?_
    rw [Failure.expected, Failure.value, hsite]
    exact hrefused
  · intro v entries name s hv hname hdemanded
    exact .missing (.here v) hv hname hdemanded
  · intro v segment w f hstep hf
    exact hf.lift hstep

theorem leaves_nameMismatch (h : f.FoundIn demands v) :
    ∀ leaf ∈ f.leaves, leaf.NamesMismatch demands v := by
  intro leaf hleaf
  obtain ⟨path, node, hnode, rfl⟩ := nodeAt_of_mem_leaves hleaf
  exact h.namesMismatch hnode

end FoundIn

end Failure

namespace Shape

/-- What is raised is about a value that the shape refuses, even if a field is missing from it. -/
theorem reject_refused [DateFormat] {s : Shape} {v : Value} {failure : Failure}
    (h : s.check v = .error failure) :
    (s.reject v failure).expected.accepts (s.reject v failure).value = false := by
  have hroot := (found_rerooted h).namesMismatch .root
  rw [Failure.withPath_path] at hroot
  exact hroot.refused_of_path_eq_nil (path_rerooted s v failure)

/-- Every failure that a rejected value is rejected with is about a value that its shape refuses, or
stands for a missing field, whichever way the value was asked about. -/
theorem failures_name_mismatches [DateFormat] (s : Shape) (v : Value) (h : s.accepts v = false) :
    ∃ failure rejection,
      s.check v = .error failure ∧ s.slice v = .error failure ∧ s.insist v = .error rejection
        ∧ s.insistSlice v = .error rejection
        ∧ (∀ path node, failure.NodeAt path node →
            (node.withPath path).NamesMismatch s.Demands v)
        ∧ rejection.expected.accepts rejection.value = false
        ∧ ∀ cause ∈ rejection.causes, cause.NamesMismatch s.Demands v := by
  obtain ⟨failure, hcheck⟩ := accepts_eq_false_iff.1 h
  have hslice := slice_eq_error_iff.2 hcheck
  refine ⟨failure, s.reject v failure, hcheck, hslice, ?_, ?_, ?_, ?_, ?_⟩
  · rw [insist, hcheck]
  · rw [insistSlice, hslice]
  · intro path node hnode
    exact (found_check hcheck).namesMismatch hnode
  · exact reject_refused hcheck
  · exact (found_rerooted hcheck).leaves_nameMismatch

section

attribute [local instance] DateFormat.epoch

/-- The shape of the missing field accepts every value, the undefined one as well. -/
theorem failures_name_mismatches_any :
    (openRecord [("a", ⟨any, .required⟩), ("b", ⟨tagged .number, .optional⟩)]).accepts
        (.object [("b", .null)]) = false
      ∧ ∃ failure rejection,
        (openRecord [("a", ⟨any, .required⟩), ("b", ⟨tagged .number, .optional⟩)]).check
            (.object [("b", .null)]) = .error failure
          ∧ (openRecord [("a", ⟨any, .required⟩), ("b", ⟨tagged .number, .optional⟩)]).insist
            (.object [("b", .null)]) = .error rejection
          ∧ (∀ path node, failure.NodeAt path node → (node.withPath path).NamesMismatch
            (openRecord [("a", ⟨any, .required⟩), ("b", ⟨tagged .number, .optional⟩)]).Demands
              (.object [("b", .null)]))
          ∧ rejection.expected.accepts rejection.value = false := by
  have h : (openRecord [("a", ⟨any, .required⟩), ("b", ⟨tagged .number, .optional⟩)]).accepts
      (.object [("b", .null)]) = false := rfl
  obtain ⟨failure, rejection, hcheck, -, hinsist, -, hnodes, hrejection, -⟩ :=
    failures_name_mismatches _ _ h
  exact ⟨h, failure, rejection, hcheck, hinsist, hnodes, hrejection⟩

end

end Shape

end ShapeCheck
