/-!
# Sets of code points

A character class of the Unicode standard is a list of ranges of code points. Membership is decided
range by range, so a statement about a class is a statement about its ranges.
-/

namespace ShapeCheck.Text

/-- A set of code points, given by ranges that include both of their ends. -/
structure CodePoints where
  ranges : List (Nat × Nat)

namespace CodePoints

/-- Whether some range holds the character. -/
def contains (set : CodePoints) (c : Char) : Bool :=
  set.ranges.any fun range => range.1 ≤ c.toNat && c.toNat ≤ range.2

theorem contains_iff {set : CodePoints} {c : Char} :
    set.contains c = true ↔ ∃ range ∈ set.ranges, range.1 ≤ c.toNat ∧ c.toNat ≤ range.2 := by
  simp [contains]

end CodePoints

end ShapeCheck.Text
