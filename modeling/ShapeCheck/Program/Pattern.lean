import ShapeCheck.Text.Search

/-!
# Patterns of texts

The tests of texts that a program validates with. A pattern is a sequence of pieces, each of which
takes a number of characters from one class. It may be bound to the start and to the end of the
text; otherwise it may stand anywhere. A piece answers with every rest that it can leave, so that a
later piece decides how much an earlier one takes.
-/

namespace ShapeCheck

/-- Characters from a class, at least `least` of them and at most `most`, if there is a limit. -/
structure Piece where
  ranges : List (Char × Char)
  least : Nat
  most : Option Nat

/-- Pieces one after the other, bound to the ends of the text or not. -/
structure Pattern where
  pieces : List Piece
  fromStart : Bool
  toEnd : Bool

def Piece.accepts (piece : Piece) (c : Char) : Bool :=
  piece.ranges.any fun range => range.1 ≤ c && c ≤ range.2

/-- What can be left of a text after characters of the piece's class, where `least` more are needed
and at most `most` more are allowed. -/
def Piece.restsFrom (piece : Piece) : Nat → Option Nat → List Char → List (List Char)
  | least, _, [] => if least = 0 then [[]] else []
  | least, most, c :: text =>
    (if least = 0 then [c :: text] else [])
      ++ (if most ≠ some 0 ∧ piece.accepts c
          then piece.restsFrom (least - 1) (most.map (· - 1)) text else [])
termination_by structural _ _ text => text

/-- What a piece can leave of a text. -/
def Piece.rests (piece : Piece) (text : List Char) : List (List Char) :=
  piece.restsFrom piece.least piece.most text

namespace Pattern

/-- What the pieces can leave of a text that they begin at. -/
def rests : List Piece → List Char → List (List Char)
  | [], text => [text]
  | piece :: pieces, text => (piece.rests text).flatMap (rests pieces)

/-- Whether the pattern stands in the text. -/
def isMatch (pattern : Pattern) (text : String) : Bool :=
  let starts := if pattern.fromStart then [text.toList] else Text.suffixes text.toList
  starts.any fun start =>
    (rests pattern.pieces start).any fun rest => !pattern.toEnd || rest.isEmpty

/-- A pattern stands for the test that it makes of texts. -/
instance asTest : CoeFun Pattern fun _ => String → Bool := ⟨isMatch⟩

/-- A whole text of lower-case letters and hyphens. -/
def slug : Pattern := ⟨[⟨[('a', 'z'), ('-', '-')], 1, none⟩], true, true⟩

/-- A decimal digit anywhere. -/
def digits : Pattern := ⟨[⟨[('0', '9')], 1, none⟩], false, false⟩

/-- The empty text. -/
def empty : Pattern := ⟨[], true, true⟩

/-- A whole text of four lower-case hexadecimal digits. -/
def hex4 : Pattern := ⟨[⟨[('0', '9'), ('a', 'f')], 4, some 4⟩], true, true⟩

example : slug.isMatch "a-slug" = true ∧ slug.isMatch "a-slug\n" = false := by decide +kernel

example : digits.isMatch "a1b" = true ∧ digits.isMatch "ab" = false := by decide +kernel

example : hex4.isMatch "01af" = true ∧ hex4.isMatch "01af0" = false := by decide +kernel

end Pattern

end ShapeCheck
