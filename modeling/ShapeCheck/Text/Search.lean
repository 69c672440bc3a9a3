/-!
# Finding a text in a text

A text is found in another one if it stands at the beginning of one of its suffixes.
-/

namespace ShapeCheck.Text

/-- All suffixes of a list, from the whole list down to the empty one. -/
def suffixes {α : Type} : List α → List (List α)
  | [] => [[]]
  | x :: rest => (x :: rest) :: suffixes rest

/-- Whether a text begins with another one. -/
def startsWith (text start : String) : Bool :=
  start.toList.isPrefixOf text.toList

/-- Whether a text holds another one anywhere. -/
def contains (text part : String) : Bool :=
  (suffixes text.toList).any fun rest => part.toList.isPrefixOf rest

theorem mem_suffixes {α : Type} {rest whole : List α} :
    rest ∈ suffixes whole ↔ ∃ front, front ++ rest = whole := by
  induction whole with
  | nil => simp [suffixes]
  | cons x whole ih =>
    simp only [suffixes, List.mem_cons, ih]
    constructor
    · rintro (rfl | ⟨front, rfl⟩)
      · exact ⟨[], rfl⟩
      · exact ⟨x :: front, rfl⟩
    · rintro ⟨front, h⟩
      cases front with
      | nil => exact .inl h
      | cons y front =>
        simp only [List.cons_append, List.cons.injEq] at h
        exact .inr ⟨front, h.2⟩

end ShapeCheck.Text
