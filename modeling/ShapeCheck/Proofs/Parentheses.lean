import ShapeCheck.Proofs.Uncommented
import ShapeCheck.Shape.Display

/-!
# Comments and parentheses

A comment is not shown, but an operand of an intersection is put in parentheses only if it is a
union itself: a union inside a comment stands without them. Leaving the comments out can therefore
only add parentheses, and it adds some exactly if such an operand is shown anywhere.

Two texts are compared together with their lengths. A part that has become longer could otherwise be
made up for by what stands behind it.
-/

namespace ShapeCheck

namespace Text

/-- A text is the same as another one exactly if something holds, and shorter if not. -/
structure GrowsUnless (p : Prop) (text other : String) : Prop where
  length_le : text.length ≤ other.length
  eq_iff : text = other ↔ p

namespace GrowsUnless

variable {p q : Prop} {text other more others : String}

theorem refl (text : String) : GrowsUnless True text text := ⟨Nat.le_refl _, by simp⟩

theorem of_iff (h : GrowsUnless p text other) (hpq : p ↔ q) : GrowsUnless q text other :=
  ⟨h.length_le, h.eq_iff.trans hpq⟩

theorem append (h : GrowsUnless p text other) (hmore : GrowsUnless q more others) :
    GrowsUnless (p ∧ q) (text ++ more) (other ++ others) := by
  have hlength := h.length_le
  have hmoreLength := hmore.length_le
  refine ⟨by simp only [String.length_append]; omega, ?_, ?_⟩
  · intro heq
    have hsum := congrArg String.length heq
    simp only [String.length_append] at hsum
    -- neither part is longer than the other one's, and so both have the same length
    have hchars : text.toList ++ more.toList = other.toList ++ others.toList := by
      rw [← String.toList_append, heq, String.toList_append]
    obtain ⟨hfront, hback⟩ := List.append_inj hchars (by simp only [String.length_toList]; omega)
    exact ⟨h.eq_iff.1 (String.toList_injective hfront),
      hmore.eq_iff.1 (String.toList_injective hback)⟩
  · rintro ⟨hp, hq⟩
    rw [h.eq_iff.2 hp, hmore.eq_iff.2 hq]

theorem behind (h : GrowsUnless p text other) (front : String) :
    GrowsUnless p (front ++ text) (front ++ other) :=
  ((refl front).append h).of_iff (by simp)

theorem before (h : GrowsUnless p text other) (back : String) :
    GrowsUnless p (text ++ back) (other ++ back) :=
  (h.append (refl back)).of_iff (by simp)

theorem parenthesize (h : GrowsUnless p text other) :
    GrowsUnless False text ("(" ++ other ++ ")") := by
  have hlength : ("(" ++ other ++ ")").length = other.length + 2 := by
    simp only [String.length_append, show "(".length = 1 from rfl, show ")".length = 1 from rfl]
    omega
  have hle := h.length_le
  refine ⟨by omega, fun heq => ?_, False.elim⟩
  have := congrArg String.length heq
  omega

theorem intercalate {α : Type} {p : α → Prop} {f g : α → String} {xs : List α}
    (h : ∀ x ∈ xs, GrowsUnless (p x) (f x) (g x)) (separator : String) :
    GrowsUnless (∀ x ∈ xs, p x) (separator.intercalate (xs.map f))
      (separator.intercalate (xs.map g)) := by
  induction xs with
  | nil => exact (refl "").of_iff (by simp)
  | cons x xs ih =>
    have hx := h x List.mem_cons_self
    have hxs := ih fun y hy => h y (List.mem_cons_of_mem _ hy)
    rw [List.forall_mem_cons]
    cases xs with
    | nil => exact hx.of_iff (by simp)
    | cons y ys =>
      simp only [List.map_cons, String.intercalate_cons_cons] at hxs ⊢
      exact (hx.before separator).append hxs

end GrowsUnless

end Text

namespace Shape

open Text

def isUnion : Shape → Bool
  | union _ _ => true
  | _ => false

/-- The two shapes that an intersection is shown as. -/
def shownOperands : Shape → List Shape
  | inter left right => [left, right]
  | merged left right _ => [left, right]
  | _ => []

/-- The parts whose texts the text of a shape is made of. The constraint of a merged shape is not
shown. -/
def shownParts : Shape → List Shape
  | merged left right _ => [left, right]
  | s => s.parts

/-- No operand of an intersection that is shown is a union inside comments. -/
inductive PlainOperands : Shape → Prop where
  | intro {s : Shape} (operands : ∀ t ∈ s.shownOperands, t.bare.isUnion = t.isUnion)
    (parts : ∀ t ∈ s.shownParts, t.PlainOperands) : s.PlainOperands

theorem plainOperands_iff {s : Shape} :
    s.PlainOperands ↔ (∀ t ∈ s.shownOperands, t.bare.isUnion = t.isUnion)
      ∧ ∀ t ∈ s.shownParts, t.PlainOperands :=
  ⟨fun ⟨hoperands, hparts⟩ => ⟨hoperands, hparts⟩, fun ⟨hoperands, hparts⟩ => ⟨hoperands, hparts⟩⟩

theorem isUnion_uncommented (s : Shape) : s.uncommented.isUnion = s.bare.isUnion := by
  rw [← uncommented_bare]
  cases h : s.bare with
  | commented text inner => exact absurd h (s.bare_ne_commented text inner)
  | _ => rfl

theorem operandText_eq (s : Shape) (text : String) :
    s.operandText text = if s.isUnion then "(" ++ text ++ ")" else text := by
  cases s <;> rfl

theorem fieldTexts_eq_map (fields : List (String × Field Shape)) :
    fieldTexts fields
      = fields.map fun field => field.2.presence.fieldText field.1 field.2.shape.text := by
  induction fields with
  | nil => rfl
  | cons field rest ih =>
    obtain ⟨name, ⟨shape, presence⟩⟩ := field
    rw [fieldTexts, ih, List.map_cons]

section Grows

variable {s : Shape} {p : Prop}

theorem grows_operandText (h : GrowsUnless p s.text s.uncommented.text) :
    GrowsUnless (s.bare.isUnion = s.isUnion ∧ p) (s.operandText s.text)
      (s.uncommented.operandText s.uncommented.text) := by
  rw [operandText_eq, operandText_eq, isUnion_uncommented]
  cases hunion : s.isUnion with
  | true =>
    have hbare : s.bare.isUnion = true := by
      cases s with
      | union => rfl
      | _ => cases hunion
    simpa [hbare] using (h.behind "(").before ")"
  | false =>
    cases hbare : s.bare.isUnion with
    | true => simpa using h.parenthesize
    | false => simpa using h

theorem grows_intersection {left right : Shape}
    (ih : ∀ t ∈ [left, right], GrowsUnless t.PlainOperands t.text t.uncommented.text) :
    GrowsUnless ((∀ t ∈ [left, right], t.bare.isUnion = t.isUnion)
        ∧ ∀ t ∈ [left, right], t.PlainOperands)
      (left.operandText left.text ++ " & " ++ right.operandText right.text)
      (left.uncommented.operandText left.uncommented.text ++ " & "
        ++ right.uncommented.operandText right.uncommented.text) := by
  have hleft := grows_operandText (ih left (by simp))
  have hright := grows_operandText (ih right (by simp))
  refine ((hleft.before " & ").append hright).of_iff ?_
  simp only [List.forall_mem_cons, List.not_mem_nil, false_imp_iff, implies_true, and_true]
  tauto

theorem grows_fieldText (h : GrowsUnless p s.text s.uncommented.text) (presence : Presence)
    (name : String) :
    GrowsUnless p (presence.fieldText name s.text)
      (presence.fieldText name s.uncommented.text) := by
  cases presence with
  | required | allowMissing => exact h.behind _
  | optional => exact (h.behind _).before _

theorem grows_fieldsText {fields : List (String × Field Shape)}
    (h : ∀ t ∈ fields.map (·.2.shape), GrowsUnless t.PlainOperands t.text t.uncommented.text) :
    GrowsUnless (∀ t ∈ fields.map (·.2.shape), t.PlainOperands) (fieldsText (fieldTexts fields))
      (fieldsText (fieldTexts (Entries.mapValues (Field.map uncommented) fields))) := by
  have hjoined := GrowsUnless.intercalate (fun field hfield =>
    grows_fieldText (h _ (List.mem_map_of_mem hfield)) field.2.presence field.1) ", "
  rw [fieldTexts_eq_map, fieldTexts_eq_map, Entries.mapValues, List.map_map, List.forall_mem_map]
  cases fields with
  | nil => exact (GrowsUnless.refl _).of_iff (by simp)
  | cons field rest => exact (hjoined.behind "\x7b ").before " \x7d"

end Grows

/-- Leaving out the comments adds parentheses or nothing. -/
theorem grows_text (s : Shape) : GrowsUnless s.PlainOperands s.text s.uncommented.text := by
  induction s using induction_on_parts with
  | step s ih =>
    refine GrowsUnless.of_iff ?_ plainOperands_iff.symm
    cases s with
    | array element | set element =>
      have helement := ih element (by simp [parts])
      exact ((helement.behind _).before ">").of_iff (by simp [shownOperands, shownParts, parts])
    | map key value =>
      have hkey := ih key (by simp [parts])
      have hvalue := ih value (by simp [parts])
      exact ((((hkey.behind "Map<").before ", ").append hvalue).before ">").of_iff
        (by simp [shownOperands, shownParts, parts])
    | record r =>
      obtain ⟨fields, exact⟩ := r
      rw [uncommented_record]
      refine (grows_fieldsText fun t ht => ih t ?_).of_iff ?_
      · simpa [parts, Constraint.parts, Constraint.fields] using ht
      · simp [shownOperands, shownParts, parts, Constraint.parts, Constraint.fields]
    | dict d =>
      obtain ⟨keyName, value⟩ := d
      have hvalue := ih value (by simp [parts, Constraint.parts, Constraint.fields])
      rw [uncommented_dict]
      exact ((hvalue.behind _).before _).of_iff
        (by simp [shownOperands, shownParts, parts, Constraint.parts, Constraint.fields])
    | union left right =>
      have hleft := ih left (by simp [parts])
      have hright := ih right (by simp [parts])
      exact ((hleft.before " | ").append hright).of_iff (by simp [shownOperands, shownParts, parts])
    | inter left right => exact grows_intersection ih
    | merged left right c =>
      rw [uncommented_merged]
      refine grows_intersection fun t ht => ih t ?_
      exact List.mem_append_left c.parts ht
    | commented text inner =>
      have hinner := ih inner (by simp [parts])
      exact hinner.of_iff (by simp [shownOperands, shownParts, parts])
    | _ => exact (GrowsUnless.refl _).of_iff (by simp [shownOperands, shownParts, parts])

/-- Comments do not change the text of a shape exactly if no operand of an intersection that is
shown in it is a union inside comments. -/
theorem text_eq_text_uncommented_iff (s : Shape) :
    s.text = s.uncommented.text ↔ s.PlainOperands :=
  s.grows_text.eq_iff

/-- A union inside a comment stands without parentheses. -/
theorem not_text_eq_text_uncommented : ¬ ∀ s : Shape, s.text = s.uncommented.text := by
  intro h
  let s := Leaf.number.shape.and ((Leaf.number.shape.or Leaf.string.shape).comment "either")
  have htext : s.text = "number & number | string" := by decide
  have huncommented : s.uncommented.text = "number & (number | string)" := by decide
  have hsame := h s
  rw [htext, huncommented] at hsame
  exact absurd hsame (by decide)

end Shape

end ShapeCheck
