import ShapeCheck.Proofs.Combination

/-!
# Shapes that can be built

Shapes come from the constructors and combinators that callers have, and not every tree of shapes is
one of them: a record shape has every name once, and the constraint of a merged shape is the
combination of the constraints that it is shown as. Both hold everywhere inside a built shape.
-/

namespace ShapeCheck.Shape

/-- The shapes that callers can make. -/
inductive Built : Shape → Prop where
  | any : Built any
  | never : Built never
  | literal (l : Literal) : Built (literal l)
  | tagged (tag : Tag) : Built (tagged tag)
  | instanceOf (cls : Class) : Built (instanceOf cls)
  | guarded (name : String) (test : Value → Bool) : Built (guarded name test)
  | validation (description : String) (test : Value → Verdict) : Built (validation description test)
  | array {element : Shape} (h : Built element) : Built (array element)
  | map {key value : Shape} (hk : Built key) (hv : Built value) : Built (map key value)
  | set {element : Shape} (h : Built element) : Built (set element)
  | fields {fields : List (String × Field Shape)} (exact : Bool)
      (h : ∀ field ∈ fields, Built field.2.shape) : Built (ofFields fields exact)
  | dict {value : Shape} (keyName : Option String) (h : Built value) : Built (dict ⟨keyName, value⟩)
  | or {a b : Shape} (ha : Built a) (hb : Built b) : Built (a.or b)
  | and {a b : Shape} (ha : Built a) (hb : Built b) : Built (a.and b)
  | comment {s : Shape} (text : String) (h : Built s) : Built (s.comment text)

/-- What the constructors and combinators take care of at a shape itself. -/
structure WellFormed (s : Shape) : Prop where
  /-- Every name comes once in what is checked of a record. -/
  distinct : ∀ c, s.constraint? = some c → (Entries.keys c.fields).Nodup
  /-- The constraint of a merged shape is that of the two shapes it is shown as. -/
  combined : ∀ left right c, s = merged left right c → ∃ a b,
    left.constraint? = some a ∧ right.constraint? = some b ∧ c = andConstraints a b

/-- Well-formed everywhere. -/
abbrev Formed (s : Shape) : Prop := s.Throughout WellFormed

/-- A property of single shapes that the intersection of two shapes has where both shapes have it.
Nothing is asked of the shapes that do not constrain records by themselves. -/
structure KeptByAnd (p : Shape → Prop) : Prop where
  commented : ∀ text s, p (commented text s)
  union : ∀ a b, p (union a b)
  inter : ∀ a b, p (inter a b)
  merged : ∀ a b ca cb, a.constraint? = some ca → b.constraint? = some cb → p a → p b →
    p (merged a b (andConstraints ca cb))

/-- What is kept by a single intersection is kept inside it as well. -/
theorem Throughout.and {p : Shape → Prop} (kept : KeptByAnd p) {a b : Shape}
    (ha : a.Throughout p) (hb : b.Throughout p) : (a.and b).Throughout p := by
  revert ha hb
  apply and_induction (R := fun a b s => a.Throughout p → b.Throughout p → s.Throughout p)
  case underLeft =>
    intro text a b s ih ha hb
    refine iff_parts.2 ⟨kept.commented text s, ?_⟩
    simpa [parts] using ih (ha.part (by simp [parts])) hb
  case underRight =>
    intro text a b s ih ha hb
    refine iff_parts.2 ⟨kept.commented text s, ?_⟩
    simpa [parts] using ih ha (hb.part (by simp [parts]))
  case branches =>
    intro a b₁ b₂ s₁ s₂ ih₁ ih₂ ha hb
    refine iff_parts.2 ⟨kept.union s₁ s₂, ?_⟩
    simpa [parts] using
      And.intro (ih₁ ha (hb.part (by simp [parts]))) (ih₂ ha (hb.part (by simp [parts])))
  case bothSides =>
    intro a b₁ b₂ s₁ s₂ ih₁ ih₂ ha hb
    refine iff_parts.2 ⟨kept.inter s₁ s₂, ?_⟩
    simpa [parts] using
      And.intro (ih₁ ha (hb.part (by simp [parts]))) (ih₂ ha (hb.part (by simp [parts])))
  case leftSide =>
    intro a b₁ b₂ s₁ ih₁ ha hb
    refine iff_parts.2 ⟨kept.inter s₁ b₂, ?_⟩
    simpa [parts] using And.intro (ih₁ ha (hb.part (by simp [parts]))) (hb.part (by simp [parts]))
  case rightSide =>
    intro a b₁ b₂ s₂ ih₂ ha hb
    refine iff_parts.2 ⟨kept.inter b₁ s₂, ?_⟩
    simpa [parts] using And.intro (hb.part (by simp [parts])) (ih₂ ha (hb.part (by simp [parts])))
  case sideBySide =>
    intro a b _ ha hb
    refine iff_parts.2 ⟨kept.inter a b, ?_⟩
    simpa [parts] using And.intro ha hb
  case constraints =>
    intro a b ca cb hca hcb inside ha hb
    refine iff_parts.2 ⟨kept.merged a b ca cb hca hcb ha.here hb.here, ?_⟩
    intro t ht
    have left {u : Shape} (hu : u ∈ ca.parts) : u.Throughout p :=
      ha.part (mem_parts_of_constraint? hca hu)
    have right {u : Shape} (hu : u ∈ cb.parts) : u.Throughout p :=
      hb.part (mem_parts_of_constraint? hcb hu)
    simp only [parts, List.mem_cons] at ht
    obtain rfl | rfl | ht := ht
    · exact ha
    · exact hb
    · obtain hu | hw | ⟨u, hu, w, hw, rfl⟩ := mem_parts_andConstraints ht
      · exact left hu
      · exact right hw
      · exact inside u hu w (left hu) (right hw)

/-- Nothing is to be taken care of at shapes that constrain no record by themselves. -/
theorem WellFormed.of_constraint?_eq_none {s : Shape} (h : s.constraint? = none) :
    s.WellFormed := by
  constructor
  · intro c hc
    rw [h] at hc
    cases hc
  · rintro left right c rfl
    cases h

theorem WellFormed.keptByAnd : KeptByAnd WellFormed where
  commented _ _ := .of_constraint?_eq_none rfl
  union _ _ := .of_constraint?_eq_none rfl
  inter _ _ := .of_constraint?_eq_none rfl
  merged a b ca cb hca hcb ha hb := by
    constructor
    · rintro c ⟨⟩
      exact nodup_keys_andConstraints (ha.distinct ca hca) (hb.distinct cb hcb)
    · rintro left right c ⟨⟩
      exact ⟨ca, cb, hca, hcb, rfl⟩

/-- Shapes that constrain no record by themselves are well-formed as soon as their parts are. -/
theorem Formed.of_parts {s : Shape} (h : s.constraint? = none) (hparts : ∀ t ∈ s.parts, t.Formed) :
    s.Formed :=
  Throughout.iff_parts.2 ⟨.of_constraint?_eq_none h, hparts⟩

/-- A constraint in a well-formed shape is that of a record shape or of a dictionary, or it is
combined out of two others. What holds of both and is kept by combining holds of all of them. -/
theorem Formed.constraint_induction {R : Shape → Constraint Shape → Prop}
    (record : ∀ r, (Entries.keys r.fields).Nodup → R (record r) (.record r))
    (dict : ∀ d, R (dict d) (.dict d))
    (merged : ∀ left right a b, R left a → R right b →
      R (merged left right (andConstraints a b)) (andConstraints a b))
    {s : Shape} {c : Constraint Shape} (hs : s.Formed) (hc : s.constraint? = some c) : R s c := by
  induction s using induction_on_parts generalizing c with
  | step s ih =>
    cases s with
    | record r =>
      cases hc
      exact record r (hs.here.distinct _ rfl)
    | dict d =>
      cases hc
      exact dict d
    | merged left right c' =>
      cases hc
      obtain ⟨a, b, ha, hb, rfl⟩ := hs.here.combined left right c rfl
      exact merged left right a b (ih left (by simp [parts]) (hs.part (by simp [parts])) ha)
        (ih right (by simp [parts]) (hs.part (by simp [parts])) hb)
    | _ => cases hc

theorem Built.formed {s : Shape} (h : s.Built) : s.Formed := by
  induction h with
  | any | never | literal | tagged | instanceOf | guarded | validation =>
    exact .of_parts rfl (List.forall_mem_nil _)
  | array _ ih | set _ ih => exact .of_parts rfl (by simpa [parts] using ih)
  | map _ _ ihk ihv => exact .of_parts rfl (by simpa [parts] using And.intro ihk ihv)
  | @fields fields exact _ ih =>
    refine Throughout.iff_parts.2 ⟨⟨?_, ?_⟩, ?_⟩
    · rintro c ⟨⟩
      exact Entries.nodup_keys_ofList fields
    · rintro left right c ⟨⟩
    · intro t ht
      obtain ⟨field, hfield, rfl⟩ | ⟨d, hd, -⟩ := Constraint.mem_parts_iff.1 ht
      · exact ih field (Entries.mem_of_mem_ofList hfield)
      · cases hd
  | dict _ _ ih =>
    refine Throughout.iff_parts.2 ⟨⟨?_, ?_⟩, ?_⟩
    · rintro c ⟨⟩
      exact List.nodup_nil
    · rintro left right c ⟨⟩
    · simpa [parts, Constraint.parts, Constraint.fields] using ih
  | or _ _ iha ihb => exact .of_parts rfl (by simpa [Shape.or, parts] using And.intro iha ihb)
  | and _ _ iha ihb => exact iha.and WellFormed.keptByAnd ihb
  | comment _ _ ih => exact .of_parts rfl (by simpa [Shape.comment, parts] using ih)

/-- No record shape anywhere inside forbids unknown keys. -/
def ExactFree (s : Shape) : Prop := s.Throughout fun t => ∀ r, t = record r → r.exact = false

theorem ExactFree.and {a b : Shape} (ha : a.ExactFree) (hb : b.ExactFree) :
    (a.and b).ExactFree := by
  refine Throughout.and ⟨?_, ?_, ?_, ?_⟩ ha hb
  all_goals
    intros
    contradiction

/-- A shape that constrains no record by itself forbids nothing by itself. -/
theorem ExactFree.of_parts {s : Shape} (h : s.constraint? = none)
    (hparts : ∀ t ∈ s.parts, t.ExactFree) : s.ExactFree := by
  refine Throughout.iff_parts.2 ⟨?_, hparts⟩
  rintro r rfl
  cases h

theorem ExactFree.openRecord {fields : List (String × Field Shape)}
    (h : ∀ field ∈ fields, field.2.shape.ExactFree) : (openRecord fields).ExactFree := by
  refine Throughout.iff_parts.2 ⟨?_, ?_⟩
  · rintro r ⟨⟩
    rfl
  · intro t ht
    obtain ⟨field, hfield, rfl⟩ | ⟨d, hd, -⟩ := Constraint.mem_parts_iff.1 ht
    · exact h field (Entries.mem_of_mem_ofList hfield)
    · cases hd

/-- The record shapes that merged shapes check are as tolerant as those that they are shown as. -/
theorem ExactFree.exact_eq_false {s : Shape} (h : s.ExactFree) (hs : s.Formed)
    {c : Constraint Shape} (hc : s.constraint? = some c) {r : RecordShape Shape}
    (hr : c.record? = some r) : r.exact = false := by
  revert r h
  apply hs.constraint_induction
    (R := fun s c => s.ExactFree → ∀ r, c.record? = some r → r.exact = false)
  case hc => exact hc
  case record =>
    rintro r - h _ ⟨⟩
    exact h.here r rfl
  case dict =>
    rintro d - _ ⟨⟩
  case merged =>
    intro left right a b ihLeft ihRight h r hr
    have hleft := ihLeft (h.part (by simp [parts]))
    have hright := ihRight (h.part (by simp [parts]))
    rw [record?_andConstraints, Option.merge_eq_some_iff] at hr
    obtain ⟨hr, -⟩ | ⟨-, hr⟩ | ⟨q, q', hq, -, rfl⟩ := hr
    · exact hleft r hr
    · exact hright r hr
    · rw [exact_andRecords, hleft q hq, Bool.false_and]

end ShapeCheck.Shape
