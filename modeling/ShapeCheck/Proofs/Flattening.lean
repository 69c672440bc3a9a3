import ShapeCheck.Proofs.Alike
import ShapeCheck.Proofs.Judging

/-!
# Intersections by their operands

Where a value is refused by several operands of an intersection, their failures are meant to stand
side by side, however the intersection is nested. An intersection that fails on both of its sides
adds its failures to those of an intersection around it. One that fails on one side closes the
failure of that side, and if this failure stands for several already, they stay one level deeper.
So the failures are told on one level as long as every nested intersection that several operands
refuse is refused on both sides.
-/

namespace ShapeCheck

namespace Shape

variable {s a b : Shape} {v : Value}

/-- Whether a shape is no constraint on records, no union, no intersection and no comment. -/
def isSimple : Shape → Bool
  | record _ => false
  | dict _ => false
  | merged _ _ _ => false
  | union _ _ => false
  | inter _ _ => false
  | commented _ _ => false
  | _ => true

/-- The failure of a value that is refused. -/
def failure? (s : Shape) (v : Value) : Option Failure :=
  match s.check v with
  | .ok () => none
  | .error failure => some failure

theorem reachesConstraint_of_isSimple (h : s.isSimple = true) : s.reachesConstraint = false := by
  cases s with
  | record | dict | merged | union | inter | commented => cases h
  | _ => rfl

theorem judge_of_isSimple (h : s.isSimple = true) (v : Value) :
    s.judge v = untrackedIf (s.check v) := by
  cases s with
  | record | dict | merged | union | inter | commented => cases h
  | array element => exact judge_array element v
  | map key value => exact judge_map key value v
  | set element => exact judge_set element v
  | _ => rfl

/-- A shape that is no constraint is judged side by side with any other. Its comments have come to
stand outside. -/
theorem judge_and (h : a.bare.constraint? = none) (b : Shape) (v : Value) :
    (a.and b).judge v = (inter a.bare b).judge v := by
  induction a using induction_on_parts with
  | step a ih =>
    cases a with
    | commented text a => exact ih a (by simp [parts]) h
    | record | dict | merged => cases h
    | _ => rfl

theorem judge_and_of_errors (h : a.bare.constraint? = none) {refused refusedToo : Refusal}
    (ha : a.judge v = .error refused) (hb : b.judge v = .error refusedToo) :
    (a.and b).judge v
      = .error (.sides (.here v (inter a.bare b)) (refused.asSides ++ refusedToo.asSides)) := by
  rw [judge_and h, judge, judge_bare, ha, hb]

theorem judge_and_of_left_error (h : a.bare.constraint? = none) {refused : Refusal}
    {report : KeyReport} (ha : a.judge v = .error refused) (hb : b.judge v = .ok report) :
    (a.and b).judge v = .error (.closed refused.failure) := by
  rw [judge_and h, judge, judge_bare, ha, hb]

theorem judge_and_of_right_error (h : a.bare.constraint? = none) {refused : Refusal}
    {report : KeyReport} (ha : a.judge v = .ok report) (hb : b.judge v = .error refused) :
    (a.and b).judge v = .error (.closed refused.failure) := by
  rw [judge_and h, judge, judge_bare, ha, hb]

end Shape

/-- A way to put simple shapes together by intersections and comments. -/
inductive Conjunction where
  | operand (s : Shape) (simple : s.isSimple = true)
  | both (left right : Conjunction)
  | commented (text : String) (inner : Conjunction)

namespace Conjunction

/-- The shape that comes out. -/
def shape : Conjunction → Shape
  | operand s _ => s
  | both left right => left.shape.and right.shape
  | commented text inner => inner.shape.comment text

/-- The operands from left to right. -/
def operands : Conjunction → List Shape
  | operand s _ => [s]
  | both left right => left.operands ++ right.operands
  | commented _ inner => inner.operands

/-- The failures of the operands that refuse a value, from left to right. -/
def failures (c : Conjunction) (v : Value) : List Failure :=
  c.operands.filterMap fun s => s.failure? v

/-- Whether all failures of operands come to an intersection around as they are. -/
def Spreads (v : Value) : Conjunction → Prop
  | operand _ _ => True
  | both left right =>
    (left.failures v ++ right.failures v).length ≤ 1
      ∨ left.failures v ≠ [] ∧ right.failures v ≠ [] ∧ left.Spreads v ∧ right.Spreads v
  | commented _ inner => inner.Spreads v

/-- Whether all failures of operands stand right under the failure of the whole. A side that accepts
the value has no part in it. -/
def Flattens (v : Value) : Conjunction → Prop
  | operand _ _ => True
  | both left right =>
    (left.failures v = [] → right.Flattens v)
      ∧ (right.failures v = [] → left.Flattens v)
      ∧ (left.failures v ≠ [] → right.failures v ≠ [] → left.Spreads v ∧ right.Spreads v)
  | commented _ inner => inner.Flattens v

variable {c d left right : Conjunction} {v : Value}

theorem failures_operand {s : Shape} {f : Failure} (h : s.check v = .error f)
    (simple : s.isSimple = true) : (operand s simple).failures v = [f] := by
  simp [failures, operands, Shape.failure?, h]

theorem failures_both (left right : Conjunction) (v : Value) :
    (both left right).failures v = left.failures v ++ right.failures v :=
  List.filterMap_append

theorem reachesConstraint_shape (c : Conjunction) : c.shape.reachesConstraint = false := by
  induction c with
  | operand s simple => exact Shape.reachesConstraint_of_isSimple simple
  | both left right ihl ihr => rw [shape, Shape.reachesConstraint_and, ihl, ihr, Bool.or_false]
  | commented text inner ih => exact ih

section AllRefuse

variable (h : ∀ s ∈ c.operands, s.accepts v = false)
include h

theorem failures_ne_nil : c.failures v ≠ [] := by
  induction c with
  | operand s simple =>
    obtain ⟨f, hf⟩ := Shape.accepts_eq_false_iff.1 (h s List.mem_cons_self)
    rw [failures_operand hf]
    exact List.cons_ne_nil _ _
  | both left right ihl _ =>
    rw [failures_both]
    exact List.append_ne_nil_of_left_ne_nil (ihl (List.forall_mem_append.1 h).1) _
  | commented text inner ih => exact ih h

theorem spreads_of_forall_refuse : c.Spreads v := by
  induction c with
  | operand s simple => trivial
  | both left right ihl ihr =>
    obtain ⟨hl, hr⟩ := List.forall_mem_append.1 h
    exact .inr ⟨failures_ne_nil hl, failures_ne_nil hr, ihl hl, ihr hr⟩
  | commented text inner ih => exact ih h

/-- Where all operands refuse a value, their failures are never told on different levels. -/
theorem flattens_of_forall_refuse : c.Flattens v := by
  induction c with
  | operand s simple => trivial
  | both left right _ _ =>
    obtain ⟨hl, hr⟩ := List.forall_mem_append.1 h
    exact ⟨fun hnil => absurd hnil (failures_ne_nil hl),
      fun hnil => absurd hnil (failures_ne_nil hr),
      fun _ _ => ⟨spreads_of_forall_refuse hl, spreads_of_forall_refuse hr⟩⟩
  | commented text inner ih => exact ih h

end AllRefuse

/-- What the refusal of an intersection says of the failures of the operands. -/
structure ToldBy (c : Conjunction) (v : Value) (refusal : Refusal) : Prop where
  ne_nil : c.failures v ≠ []
  single : ∀ f, c.failures v = [f] → refusal = .closed f
  several : 2 ≤ (c.failures v).length → ∃ expected causes,
    refusal.failure = .several (.here v expected) causes ∧ (causes = c.failures v ↔ c.Flattens v)
  length_asSides : refusal.asSides.length ≤ (c.failures v).length
  asSides : refusal.asSides = c.failures v ↔ c.Spreads v

namespace ToldBy

variable {refused refusedToo : Refusal}

theorem length_pos (h : c.ToldBy v refused) : 0 < (c.failures v).length :=
  List.length_pos_of_ne_nil h.ne_nil

theorem operand {s : Shape} {f : Failure} (h : s.check v = .error f)
    (simple : s.isSimple = true) : (Conjunction.operand s simple).ToldBy v (.closed f) where
  ne_nil := by
    rw [failures_operand h]
    exact List.cons_ne_nil _ _
  single g hg := by
    rw [failures_operand h] at hg
    cases hg
    rfl
  several hlength := by
    rw [failures_operand h, List.length_singleton] at hlength
    omega
  length_asSides := by
    rw [failures_operand h]
    exact Nat.le_refl 1
  asSides := by
    rw [failures_operand h]
    exact iff_of_true rfl trivial

/-- Neither side can add more failures than it has, so that all of them are there only if each side
adds what it has. -/
theorem append_asSides (hleft : left.ToldBy v refused) (hright : right.ToldBy v refusedToo) :
    refused.asSides ++ refusedToo.asSides = (both left right).failures v
      ↔ left.Spreads v ∧ right.Spreads v := by
  rw [failures_both, ← hleft.asSides, ← hright.asSides]
  constructor
  · intro h
    have hlength := congrArg List.length h
    have hl := hleft.length_asSides
    have hr := hright.length_asSides
    rw [List.length_append, List.length_append] at hlength
    exact List.append_inj h (by omega)
  · rintro ⟨hl, hr⟩
    rw [hl, hr]

theorem two_le_length (hleft : left.ToldBy v refused) (hright : right.ToldBy v refusedToo) :
    2 ≤ ((both left right).failures v).length := by
  have hl := hleft.length_pos
  have hr := hright.length_pos
  rw [failures_both, List.length_append]
  omega

theorem sides (hleft : left.ToldBy v refused) (hright : right.ToldBy v refusedToo)
    (expected : Shape) :
    (both left right).ToldBy v
      (.sides (.here v expected) (refused.asSides ++ refusedToo.asSides)) where
  ne_nil := by
    rw [failures_both]
    exact List.append_ne_nil_of_left_ne_nil hleft.ne_nil _
  single f hf := by
    have hlength := hleft.two_le_length hright
    rw [hf, List.length_singleton] at hlength
    omega
  several _ := by
    refine ⟨expected, _, rfl, (hleft.append_asSides hright).trans ?_⟩
    simp [Flattens, hleft.ne_nil, hright.ne_nil]
  length_asSides := by
    rw [failures_both, List.length_append]
    calc (refused.asSides ++ refusedToo.asSides).length
        = refused.asSides.length + refusedToo.asSides.length := List.length_append
      _ ≤ _ := Nat.add_le_add hleft.length_asSides hright.length_asSides
  asSides := by
    have hlength := hleft.two_le_length hright
    rw [failures_both] at hlength
    refine (hleft.append_asSides hright).trans ?_
    rw [Spreads, or_iff_right (by omega)]
    simp [hleft.ne_nil, hright.ne_nil]

/-- A failure that is handed on is one failure for the intersection around, whatever it stands
for. -/
theorem closed (h : d.ToldBy v refused) (hfailures : c.failures v = d.failures v)
    (hflattens : c.Flattens v ↔ d.Flattens v)
    (hspreads : c.Spreads v ↔ (c.failures v).length ≤ 1) :
    c.ToldBy v (.closed refused.failure) := by
  have hpos : 0 < (c.failures v).length := hfailures ▸ h.length_pos
  have hsingle (f : Failure) (hf : c.failures v = [f]) : refused = .closed f :=
    h.single f (hfailures ▸ hf)
  refine ⟨List.ne_nil_of_length_pos hpos, ?_, ?_, hpos, ?_⟩
  · intro f hf
    rw [hsingle f hf, Refusal.failure_closed]
  · rw [hfailures, hflattens]
    exact h.several
  · rw [hspreads, Refusal.asSides_closed]
    constructor
    · intro heq
      exact Nat.le_of_eq (congrArg List.length heq).symm
    · intro hlength
      obtain ⟨f, hf⟩ := List.length_eq_one_iff.1 (by omega : (c.failures v).length = 1)
      rw [hf, hsingle f hf, Refusal.failure_closed]

theorem of_left (h : left.ToldBy v refused) (hright : right.failures v = []) :
    (both left right).ToldBy v (.closed refused.failure) := by
  apply h.closed
  · rw [failures_both, hright, List.append_nil]
  · simp [Flattens, hright, h.ne_nil]
  · simp [Spreads, failures_both, hright]

theorem of_right (h : right.ToldBy v refused) (hleft : left.failures v = []) :
    (both left right).ToldBy v (.closed refused.failure) := by
  apply h.closed
  · rw [failures_both, hleft, List.nil_append]
  · simp [Flattens, hleft, h.ne_nil]
  · simp [Spreads, failures_both, hleft]

end ToldBy

/-- A value is accepted where no operand fails, and the refusal tells the failures otherwise. -/
theorem told (c : Conjunction) (v : Value) :
    (∃ report, c.shape.judge v = .ok report ∧ c.failures v = [])
      ∨ ∃ refusal, c.shape.judge v = .error refusal ∧ c.ToldBy v refusal := by
  induction c with
  | operand s simple =>
    rw [shape, Shape.judge_of_isSimple simple]
    cases hcheck : s.check v with
    | ok _ => exact .inl ⟨_, rfl, by simp [failures, operands, Shape.failure?, hcheck]⟩
    | error f => exact .inr ⟨_, rfl, .operand hcheck simple⟩
  | commented text inner ih =>
    obtain haccepted | ⟨refusal, hjudge, htold⟩ := ih
    · exact .inl haccepted
    · exact .inr ⟨refusal, hjudge, htold.ne_nil, htold.single, htold.several,
        htold.length_asSides, htold.asSides⟩
  | both left right ihl ihr =>
    -- No operand leads to a constraint on records, so the sides are judged one by one.
    have hleft := Shape.constraint?_bare_of_plain left.reachesConstraint_shape
    obtain ⟨a, hl, hnil⟩ | ⟨refused, hl, htold⟩ := ihl
    · obtain ⟨b, hr, hnil'⟩ | ⟨refused, hr, htold⟩ := ihr
      · obtain ⟨report, hreport⟩ := Shape.judge_inter_ok_iff.2
          ⟨⟨a, (Shape.judge_bare _ _).trans hl⟩, b, hr⟩
        refine .inl ⟨report, (Shape.judge_and hleft _ _).trans hreport, ?_⟩
        rw [failures_both, hnil, hnil', List.append_nil]
      · exact .inr ⟨_, Shape.judge_and_of_right_error hleft hl hr, htold.of_right hnil⟩
    · obtain ⟨b, hr, hnil⟩ | ⟨refusedToo, hr, htoldToo⟩ := ihr
      · exact .inr ⟨_, Shape.judge_and_of_left_error hleft hl hr, htold.of_left hnil⟩
      · exact .inr ⟨_, Shape.judge_and_of_errors hleft hl hr, htold.sides htoldToo _⟩

theorem check_of_judge_eq_ok {report : KeyReport} (h : c.shape.judge v = .ok report) :
    c.shape.check v = .ok () := by
  have hreport : report = .untracked :=
    Shape.report?_eq_untracked c.reachesConstraint_shape (Shape.report?_eq_some_iff.2 h)
  rw [Shape.check_eq_settle, h, settle, hreport, KeyReport.enforce_untracked]

end Conjunction

/-- An intersection of simple shapes accepts what no operand refuses, and fails with the failure of
an operand that refuses a value alone. If several do, it fails with one failure for all of them,
which has their failures as its causes exactly if no nested intersection hands on several failures
as one. -/
theorem conjunction_flattens (c : Conjunction) (v : Value) :
    (c.failures v = [] → c.shape.check v = .ok ())
      ∧ (∀ f, c.failures v = [f] → c.shape.check v = .error f)
      ∧ (2 ≤ (c.failures v).length → ∃ expected causes,
          c.shape.check v = .error (.several (.here v expected) causes)
            ∧ (causes = c.failures v ↔ c.Flattens v)) := by
  obtain ⟨report, hjudge, hnil⟩ | ⟨refusal, hjudge, htold⟩ := c.told v
  · rw [hnil]
    refine ⟨fun _ => c.check_of_judge_eq_ok hjudge, ?_, ?_⟩
    · rintro f ⟨⟩
    · rintro ⟨⟩
  · have hcheck : c.shape.check v = .error refusal.failure := by
      rw [Shape.check_eq_settle, hjudge, settle]
    refine ⟨fun hnil => absurd hnil htold.ne_nil, ?_, ?_⟩
    · intro f hf
      rw [hcheck, htold.single f hf, Refusal.failure_closed]
    · intro hlength
      obtain ⟨expected, causes, hfailure, hcauses⟩ := htold.several hlength
      exact ⟨expected, causes, by rw [hcheck, hfailure], hcauses⟩

/-- All three operands refuse the value, and the comment hides none of them. -/
theorem conjunction_flattens_commented :
    ∃ expected,
      (Conjunction.both (.operand (.tagged .string) rfl) (.commented "a true number"
          (.both (.operand (.tagged .number) rfl)
            (.operand (.literal (.bool true)) rfl)))).shape.check .null
        = .error (.several (.here .null expected)
          [.leaf (.here .null (.tagged .string)) (.notTagged .string),
            .leaf (.here .null (.tagged .number)) (.notTagged .number),
            .leaf (.here .null (.literal (.bool true))) (.notEqual (.bool true))]) := by
  obtain ⟨-, -, hseveral⟩ := conjunction_flattens (.both (.operand (.tagged .string) rfl)
    (.commented "a true number" (.both (.operand (.tagged .number) rfl)
      (.operand (.literal (.bool true)) rfl)))) .null
  obtain ⟨expected, causes, hcheck, hcauses⟩ := hseveral (by decide)
  have hall := hcauses.2 (Conjunction.flattens_of_forall_refuse (List.forall_mem_cons.2
    ⟨rfl, List.forall_mem_cons.2 ⟨rfl, List.forall_mem_singleton.2 rfl⟩⟩))
  exact ⟨expected, hcheck.trans (by rw [hall]; rfl)⟩

/-- The operand in the middle accepts the value, so that the two in front of it are told as one. -/
theorem not_conjunction_flattens :
    ¬ ∀ (c : Conjunction) (v : Value),
      (c.failures v = [] → c.shape.check v = .ok ())
        ∧ (∀ f, c.failures v = [f] → c.shape.check v = .error f)
        ∧ (2 ≤ (c.failures v).length →
            ∃ expected, c.shape.check v = .error (.several (.here v expected) (c.failures v))) := by
  intro h
  obtain ⟨-, -, hseveral⟩ := h (.both (.both (.both (.operand (.tagged .number) rfl)
    (.operand (.tagged .string) rfl)) (.operand (.tagged .boolean) rfl))
      (.operand (.literal .null) rfl)) (.bool true)
  obtain ⟨expected, hcheck⟩ := hseveral (by decide)
  cases hcheck

end ShapeCheck
