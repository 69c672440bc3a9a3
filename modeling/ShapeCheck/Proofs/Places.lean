import ShapeCheck.Proofs.EntryPoints
import ShapeCheck.Proofs.Findings

/-!
# Where failures lie

A path leads from a value to a part of it, one segment at a time. A failure is placed in a value if
the path of every failure in its tree leads from the value to the value that this failure is about.
Refusing a value on the spot gives a failure that is placed in it, and lifting moves a failure from
a part to the whole, so that everything a check reports lies where it says.
-/

namespace ShapeCheck

namespace Value

/-- Whether a path leads from a value to another one. -/
inductive Reaches : Value → Path → Value → Prop where
  | here (v : Value) : Reaches v [] v
  | step {v w u : Value} {segment : Segment} {path : Path} (h : Step v segment w)
      (hrest : Reaches w path u) : Reaches v (segment :: path) u

variable {v w u : Value} {path rest : Path}

/-- In a record where every key comes once, a key leads to what is found under it. -/
theorem step_key_iff {entries : List (String × Value)} (hv : v.record? = some entries)
    (hkeys : (Entries.keys entries).Nodup) {name : String} :
    Step v (.key name) w ↔ Value.ofOption (Entries.get? entries name) = w := by
  constructor
  · intro h
    cases h with
    | entry hv' h =>
      cases hv.symm.trans hv'
      rw [(Entries.get?_eq_some_iff hkeys).2 h]
      rfl
    | absent hv' h =>
      cases hv.symm.trans hv'
      rw [Entries.get?_eq_none_iff.2 h]
      rfl
  · rintro rfl
    cases hget : Entries.get? entries name with
    | none => exact .absent hv (Entries.get?_eq_none_iff.1 hget)
    | some x => exact .entry hv (Entries.mem_of_get? hget)

namespace Reaches

theorem nil_iff : Reaches v [] w ↔ v = w := by
  constructor
  · rintro ⟨⟩
    rfl
  · rintro rfl
    exact .here v

theorem append (h : v.Reaches path w) (hrest : w.Reaches rest u) : v.Reaches (path ++ rest) u := by
  induction h with
  | here => exact hrest
  | step hstep _ ih => exact .step hstep (ih hrest)

end Reaches

end Value

namespace Failure

/-- Whether every failure in the tree of a failure lies where its path leads. -/
def PlacedIn (f : Failure) (v : Value) : Prop :=
  ∀ path node, f.NodeAt path node → v.Reaches path node.value

namespace PlacedIn

variable {f : Failure} {v w : Value}

/-- A tree is placed if its root is and its causes are placed where the root points. -/
theorem of_causes (h : v.Reaches f.path f.value) (hcauses : ∀ c ∈ f.causes, c.PlacedIn f.value) :
    f.PlacedIn v := by
  intro path node hnode
  obtain ⟨rfl, rfl⟩ | ⟨c, hc, rest, rfl, hrest⟩ := hnode.root_or_ofCause
  · exact h
  · exact h.append (hcauses c hc rest node hrest)

/-- A failure lies where it was found: at the value itself, at an entry that is missing, or further
on, behind the step to the part that it was found in. -/
theorem of_foundIn {demands : String → Shape → Prop} (h : f.FoundIn demands v) : f.PlacedIn v := by
  intro path node hnode
  have hplaced : v.Reaches (node.withPath path).path (node.withPath path).value := by
    refine h.nodes (P := fun v node => v.Reaches node.path node.value) ?_ ?_ ?_ hnode
    · intro v s f hsite _ _
      rw [Failure.path, Failure.value, hsite]
      exact .here v
    · intro v entries name s hv hname _
      exact .step (.absent hv hname) (.here _)
    · intro v segment w f hstep hf
      rw [lift, path_liftPath, value_liftPath]
      exact .step hstep hf
  rwa [path_withPath, value_withPath] at hplaced

theorem value_eq (h : f.PlacedIn v) (hpath : f.path = []) : f.value = v := by
  have hroot := h f.path f .root
  rw [hpath, Value.Reaches.nil_iff] at hroot
  exact hroot.symm

/-- The leaves of a placed failure lie where their paths lead. -/
theorem leaves (h : f.PlacedIn v) : ∀ leaf ∈ f.leaves, v.Reaches leaf.path leaf.value := by
  intro leaf hleaf
  obtain ⟨path, node, hnode, rfl⟩ := nodeAt_of_mem_leaves hleaf
  rw [path_withPath, value_withPath]
  exact h path node hnode

end PlacedIn

end Failure

namespace Shape

variable {v : Value}

/-- Whatever a shape refuses, its failure lies in the value. -/
theorem placed_check (s : Shape) (v : Value) (failure : Failure)
    (h : s.check v = .error failure) : failure.PlacedIn v :=
  .of_foundIn (found_check h)

/-- A failure that is told for the whole value is about the value, wherever it lay in it, and its
causes lie in the value as before. -/
theorem placed_reject [DateFormat] {s : Shape} {failure : Failure} (h : failure.PlacedIn v) :
    (s.reject v failure).value = v
      ∧ ∀ cause ∈ (s.reject v failure).causes, v.Reaches cause.path cause.value := by
  have hrooted : (s.rerooted v failure).PlacedIn v := by
    unfold rerooted
    split
    · exact h
    · exact .of_causes (.here v) (List.forall_mem_singleton.2 h)
  exact ⟨hrooted.value_eq (path_rerooted s v failure), hrooted.leaves⟩

/-- A rejected value is rejected with failures that lie where their paths lead, whichever way it was
asked about, and what is raised is about the value itself. -/
theorem failures_lie_in_value [DateFormat] (s : Shape) (v : Value) (h : s.accepts v = false) :
    ∃ failure rejection,
      s.check v = .error failure ∧ s.insist v = .error rejection
        ∧ s.insistSlice v = .error rejection
        ∧ (∀ path node, failure.NodeAt path node → v.Reaches path node.value)
        ∧ rejection.value = v
        ∧ ∀ cause ∈ rejection.causes, v.Reaches cause.path cause.value := by
  cases hcheck : s.check v with
  | ok _ =>
    rw [accepts_iff.2 hcheck] at h
    cases h
  | error failure =>
    have hplaced := s.placed_check v failure hcheck
    have hslice := slice_eq_error_iff.2 hcheck
    obtain ⟨hvalue, hcauses⟩ := placed_reject (s := s) hplaced
    refine ⟨failure, s.reject v failure, rfl, ?_, ?_, hplaced, hvalue, hcauses⟩
    · rw [insist, hcheck]
    · rw [insistSlice, hslice]

section

attribute [local instance] DateFormat.epoch

theorem failures_lie_in_value_slot :
    (dictOf (array (tagged .number))).accepts (.object [("xs", .array [none, some .null])]) = false
      ∧ ∃ failure rejection,
        (dictOf (array (tagged .number))).check (.object [("xs", .array [none, some .null])])
            = .error failure
          ∧ (dictOf (array (tagged .number))).insist (.object [("xs", .array [none, some .null])])
            = .error rejection
          ∧ (dictOf (array (tagged .number))).insistSlice
              (.object [("xs", .array [none, some .null])]) = .error rejection
          ∧ (∀ path node, failure.NodeAt path node →
            (Value.object [("xs", .array [none, some .null])]).Reaches path node.value)
          ∧ rejection.value = .object [("xs", .array [none, some .null])]
          ∧ ∀ cause ∈ rejection.causes,
            (Value.object [("xs", .array [none, some .null])]).Reaches cause.path cause.value :=
  ⟨rfl, failures_lie_in_value _ _ rfl⟩

end

end Shape

end ShapeCheck
