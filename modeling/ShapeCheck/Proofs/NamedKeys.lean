import ShapeCheck.Decoding.Basic
import ShapeCheck.Proofs.Judging
import ShapeCheck.Proofs.Regrouping
import ShapeCheck.Proofs.Slices

/-!
# Keys without a field

Record shapes look at the entries under the names of their fields. As long as nothing else on the
top of a shape looks into records, two records that have the same entries under those names cannot
be told apart: the same branches of unions are followed, the same keys are known, and the slices are
the same. What is decoded from a slice then depends on named entries only.
-/

namespace ShapeCheck

namespace Value

/-- Records of one kind, with their entries: two plain objects, or two instances of one class. -/
inductive Siblings (entries more : List (String × Value)) : Value → Value → Prop where
  | objects : Siblings entries more (.object entries) (.object more)
  | instances (cls : Class) : Siblings entries more (.instance cls entries) (.instance cls more)

namespace Siblings

variable {entries more : List (String × Value)} {v w : Value}

theorem record?_left (h : Siblings entries more v w) : v.record? = some entries := by
  cases h <;> rfl

theorem record?_right (h : Siblings entries more v w) : w.record? = some more := by
  cases h <;> rfl

theorem tag_eq (h : Siblings entries more v w) : v.tag = w.tag := by
  cases h <;> rfl

theorem class?_eq (h : Siblings entries more v w) : v.class? = w.class? := by
  cases h <;> rfl

theorem literal_accepts_eq (h : Siblings entries more v w) (l : Literal) :
    l.accepts v = l.accepts w := by
  cases h <;> cases l <;> rfl

end Siblings

end Value

namespace Shape

/-- Whether what is found through comments, unions and intersections looks into records by the names
of fields only: there is no dictionary and no test. -/
def ReadsByName : Shape → Prop
  | dict _ => False
  | guarded _ _ => False
  | validation _ _ => False
  | merged _ _ c => c.dict? = none
  | union left right => left.ReadsByName ∧ right.ReadsByName
  | inter left right => left.ReadsByName ∧ right.ReadsByName
  | commented _ inner => inner.ReadsByName
  | _ => True

/-- The names of the fields that are found through comments, unions and intersections. -/
def topNames (s : Shape) : List String := s.reached.flatMap fun c => Entries.keys c.fields

theorem topNames_union (left right : Shape) :
    (union left right).topNames = left.topNames ++ right.topNames := List.flatMap_append

theorem topNames_inter (left right : Shape) :
    (inter left right).topNames = left.topNames ++ right.topNames := List.flatMap_append

variable {s : Shape} {v w : Value}

theorem topNames_of_constraint? {c : Constraint Shape} (h : s.constraint? = some c) :
    s.topNames = Entries.keys c.fields := by
  rw [topNames, reached_of_constraint? h, List.flatMap_singleton]

/-- The names on the top of a merged shape are those of the two shapes that it is shown as. -/
theorem mem_topNames_merged {left right : Shape} {c : Constraint Shape}
    (h : (merged left right c).Formed) {name : String} :
    name ∈ (merged left right c).topNames ↔ name ∈ left.topNames ∨ name ∈ right.topNames := by
  obtain ⟨a, b, ha, hb, rfl⟩ := h.here.combined left right c rfl
  have hc : (merged left right (andConstraints a b)).constraint? = some (andConstraints a b) := rfl
  rw [topNames_of_constraint? hc, topNames_of_constraint? ha, topNames_of_constraint? hb,
    keys_fields_andConstraints]
  simp only [List.removeAll, List.mem_append, List.mem_filter, List.elem_eq_mem,
    Bool.not_eq_eq_eq_not, Bool.not_true, decide_eq_false_iff_not]
  tauto

theorem ReadsByName.dict?_eq_none (hs : s.ReadsByName) {c : Constraint Shape}
    (hc : s.constraint? = some c) : c.dict? = none := by
  cases s with
  | record r =>
    cases hc
    rfl
  | dict d => exact hs.elim
  | merged left right c =>
    cases hc
    exact hs
  | _ => cases hc

theorem ReadsByName.not_isHybrid (hs : s.ReadsByName) : ¬s.IsHybrid := by
  rintro ⟨r, d, hc⟩
  induction s using induction_on_parts with
  | step s ih =>
    obtain ⟨text, inner, rfl⟩ | hbare := commented_or_bare s
    · exact ih inner (by simp [parts]) hs hc
    · rw [hbare] at hc
      cases hs.dict?_eq_none hc

/-- A shape without parts reports no keys of what it finds no fault with. -/
theorem report?_of_checkLeaf (h : s.judge v = untrackedIf (s.checkLeaf v)) :
    s.report? v = if (s.leafFault v).isNone then some .untracked else none := by
  rw [report?, h, checkLeaf_eq]
  cases s.leafFault v <;> rfl

/-- A shape without parts reports the same of two values that it finds fault with alike. -/
theorem report?_eq_of_checkLeaf (hjudge : ∀ u, s.judge u = untrackedIf (s.checkLeaf u))
    (hfault : s.leafFault v = none ↔ s.leafFault w = none) : s.report? v = s.report? w := by
  rw [report?_of_checkLeaf (hjudge v), report?_of_checkLeaf (hjudge w)]
  simp only [Option.isNone_iff_eq_none, hfault]

/-- Only names of fields are known. -/
theorem mem_topNames_of_known {report : KeyReport} (h : s.report? v = some report)
    {known : List String} (hknown : report.known = some known) {key : String} (hkey : key ∈ known) :
    key ∈ s.topNames := by
  induction s using induction_on_parts generalizing report known with
  | step s ih =>
    have ofConstraint {c : Constraint Shape} (hc : s.constraint? = some c) : key ∈ s.topNames := by
      obtain ⟨-, -, -, rfl⟩ := (report?_of_constraint? hc).1 h
      rw [topNames_of_constraint? hc]
      cases c with
      | record r =>
        cases hknown
        exact hkey
      | dict | both => cases hknown
    cases s with
    | record | dict | merged => exact ofConstraint rfl
    | commented text inner => exact ih inner (by simp [parts]) h hknown hkey
    | union left right =>
      rw [topNames_union, List.mem_append]
      rw [report?_union, Option.or_eq_some_iff] at h
      obtain h | ⟨-, h⟩ := h
      · exact .inl (ih left (by simp [parts]) h hknown hkey)
      · exact .inr (ih right (by simp [parts]) h hknown hkey)
    | inter left right =>
      rw [topNames_inter, List.mem_append]
      obtain ⟨a, b, ha, hb, rfl⟩ := report?_inter_eq_some_iff.1 h
      rcases reportOfSides_cases left right a b with heq | heq | heq <;> rw [heq] at hknown
      · exact .inl (ih left (by simp [parts]) ha hknown hkey)
      · exact .inr (ih right (by simp [parts]) hb hknown hkey)
      · obtain ⟨keys, more, hkeys, hmore, rfl⟩ := KeyReport.known_both_eq_some_iff.1 hknown
        obtain hmem | hmem := List.mem_append.1 hkey
        · exact .inl (ih left (by simp [parts]) ha hkeys hmem)
        · exact .inr (ih right (by simp [parts]) hb hmore hmem)
    | _ =>
      rw [report?_eq_untracked rfl h] at hknown
      cases hknown

variable {entries more : List (String × Value)}

/-- A shape that reads by name reports the same of two records that agree on its names. -/
theorem ReadsByName.report?_eq (hs : s.ReadsByName) (hv : Value.Siblings entries more v w)
    (agree : ∀ name ∈ s.topNames, Entries.get? entries name = Entries.get? more name) :
    s.report? v = s.report? w := by
  induction s using induction_on_parts with
  | step s ih =>
    have ofConstraint {c : Constraint Shape} (hc : s.constraint? = some c) :
        s.report? v = s.report? w := by
      rw [topNames_of_constraint? hc] at agree
      have hholds := Constraint.holdsOn_congr (hs.dict?_eq_none hc) agree
      refine Option.ext fun report => ?_
      simp only [report?_of_constraint? hc, hv.record?_left, hv.record?_right, Option.some.injEq,
        exists_eq_left', hholds]
    have ofLeaf (hjudge : ∀ u, s.judge u = untrackedIf (s.checkLeaf u))
        (hfault : s.leafFault v = s.leafFault w) : s.report? v = s.report? w :=
      report?_eq_of_checkLeaf hjudge (by rw [hfault])
    cases s with
    | record | dict | merged => exact ofConstraint rfl
    | commented text inner => exact ih inner (by simp [parts]) hs agree
    | union left right | inter left right =>
      simp only [topNames_union, topNames_inter, List.forall_mem_append] at agree
      have hleft := ih left (by simp [parts]) hs.1 agree.1
      have hright := ih right (by simp [parts]) hs.2 agree.2
      simp only [report?_union, report?_inter, hleft, hright]
    | array | map | set =>
      -- A container refuses records, whatever is in them.
      cases hv <;> rfl
    | any | never => exact ofLeaf (fun _ => rfl) rfl
    | literal l => exact ofLeaf (fun _ => rfl) (by simp only [leafFault, hv.literal_accepts_eq l])
    | tagged tag => exact ofLeaf (fun _ => rfl) (by simp only [leafFault, hv.tag_eq])
    | instanceOf cls => exact ofLeaf (fun _ => rfl) (by simp only [leafFault, hv.class?_eq])
    | guarded | validation => exact hs.elim

/-- What is decoded depends on the slice only. -/
theorem decodeBy_of_slice [DateFormat] {φ ρ α : Type}
    (read : Document → Except (DecodingError φ ρ) α) {kept : Value}
    (hv : s.slice v = .ok kept) (hw : s.slice w = .ok kept) :
    s.decodeBy read v = s.decodeBy read w := by
  simp only [decodeBy, insistSlice, hv, hw]

/-- Two records that agree on the names of a shape that reads by name are tracked alike, and where
keys are known and both are accepted they have one slice, from which anything is decoded alike. -/
theorem named_keys_decide [DateFormat] (hs : s.ReadsByName) (hv : Value.Siblings entries more v w)
    (agree : ∀ name ∈ s.topNames, Entries.get? entries name = Entries.get? more name) :
    (s.track v).toOption = (s.track w).toOption
      ∧ (s.accepts v = true → s.accepts w = true → ∀ report known,
          s.track v = .ok report → report.known = some known →
          (∃ kept, s.slice v = .ok kept ∧ s.slice w = .ok kept)
            ∧ ∀ (φ ρ α : Type) (read : Document → Except (DecodingError φ ρ) α),
                s.decodeBy read v = s.decodeBy read w) := by
  have hreports := hs.report?_eq hv agree
  refine ⟨by rw [toOption_track, toOption_track, hreports], ?_⟩
  intro hacceptsV hacceptsW report known htrack hknown
  have hreportV := track_eq_ok_iff.1 htrack
  have hreportW := hreports ▸ hreportV
  -- Both slices are what the one report keeps.
  have hkept : report.project v = report.project w := by
    rw [KeyReport.project_of_record hknown hv.record?_left,
      KeyReport.project_of_record hknown hv.record?_right,
      KeyReport.select_congr fun key hkey => agree key (mem_topNames_of_known hreportV hknown hkey)]
  have hsliceV := slice_of_accepts hs.not_isHybrid hacceptsV hreportV
  have hsliceW := hkept ▸ slice_of_accepts hs.not_isHybrid hacceptsW hreportW
  refine ⟨⟨_, hsliceV, hsliceW⟩, ?_⟩
  intro φ ρ α read
  exact decodeBy_of_slice read hsliceV hsliceW

theorem named_keys_decide_union :
    ∃ kept,
      ((openRecord [("k", ⟨any, .required⟩)]).or (tagged .object)).slice
          (.object [("x", .bool true), ("k", .null)]) = .ok kept
        ∧ ((openRecord [("k", ⟨any, .required⟩)]).or (tagged .object)).slice
          (.object [("k", .null)]) = .ok kept := by
  have hs : ((openRecord [("k", ⟨any, .required⟩)]).or (tagged .object)).ReadsByName :=
    ⟨trivial, trivial⟩
  have hv : Value.Siblings [("x", .bool true), ("k", .null)] [("k", .null)]
      (.object [("x", .bool true), ("k", .null)]) (.object [("k", .null)]) := .objects
  let _ := DateFormat.epoch
  have hdecide := (named_keys_decide hs hv (List.forall_mem_singleton.2 rfl)).2
  exact (hdecide rfl rfl ⟨some ["k"], false⟩ ["k"] rfl rfl).1

end Shape

end ShapeCheck
