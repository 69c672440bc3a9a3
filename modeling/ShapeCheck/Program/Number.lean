import ShapeCheck.Document.Basic

/-!
# Numbers in the text of documents

A number without fraction and exponent is an integer if it fits 64 bits, and any other number a
double. A double is computed from the digits that fit 64 bits, without a sign, and a power of ten:
both are rounded, and their product or quotient is rounded again, so that the result can differ from
the nearest double in its last bits.
-/

namespace ShapeCheck.Document

/-- What is wrong with the text of a document. -/
inductive Fault where
  /-- The text ends where more is needed. -/
  | unfinished
  /-- Something else stands there than what may. -/
  | misplaced
deriving DecidableEq, Repr

/-- The fault of a text at which something is missing. -/
def Fault.at : List Char → Fault
  | [] => unfinished
  | _ => misplaced

/-- The largest integer of 64 bits without a sign. -/
def maxSignificand : Nat := twoPow 64 - 1

/-- The largest exponent that is read. -/
def maxExponent : Nat := twoPow 31 - 1

/-- Appends digits to a number as long as it stays within a limit, and gives the digits that are
left. -/
def appendDigits (limit : Nat) : Nat → List Char → Nat × List Char
  | n, [] => (n, [])
  | n, c :: rest =>
    let longer := 10 * n + (c.toNat - '0'.toNat)
    if longer ≤ limit then appendDigits limit longer rest else (n, c :: rest)

/-- Divides by a power of ten, by at most `10 ^ 308` at a time, and stops at zero. -/
def divPowerOfTen (x : Double) (exponent : Nat) : Double :=
  if exponent ≤ 308 then x.divMagnitude (.powerOfTen exponent)
  else if x.magnitudeBits = 0 then x
  else divPowerOfTen (x.divMagnitude (.powerOfTen 308)) (exponent - 308)
termination_by exponent

/-- The number `significand * 10 ^ exponent` without its sign, unless it is too large. -/
def scaled (significand : Nat) (exponent : Int) : Except Fault Double :=
  let x := Double.ofNat significand
  if exponent < 0 then .ok (divPowerOfTen x exponent.natAbs)
  else if significand = 0 then .ok x
  else if 308 < exponent then .error .misplaced
  else
    let product := x.mulMagnitude (.powerOfTen exponent.natAbs)
    if product.isFinite then .ok product else .error .misplaced

/-- The parts of a number in a text, without the sign in front. -/
structure Numeral where
  whole : List Char
  /-- The digits after the point, if there is a point. -/
  fraction : Option (List Char)
  /-- Whether the exponent is negative, and its digits, if there is an exponent. -/
  exponent : Option (Bool × List Char)

/-- How many characters a numeral takes, where an exponent takes `exponentMarks` characters besides
its digits. -/
def Numeral.size (n : Numeral) (exponentMarks : Nat) : Nat :=
  n.whole.length + (n.fraction.map fun ds => ds.length + 1).getD 0
    + (n.exponent.map fun e => e.2.length + exponentMarks).getD 0

/-- The value of a numeral with a sign. -/
def Numeral.value (n : Numeral) (negative : Bool) : Except Fault Document :=
  let (whole, wholeRest) := appendDigits maxSignificand 0 n.whole
  if wholeRest.isEmpty && n.fraction.isNone && n.exponent.isNone then
    if !negative then .ok (.int whole)
    else if 0 < whole ∧ whole ≤ twoPow 63 then .ok (.int (-whole))
    else .ok (.float (Double.nearest true whole 1))
  else
    let fraction := n.fraction.getD []
    let (significand, fractionRest) := appendDigits maxSignificand whole fraction
    let point : Int := (wholeRest.length : Int) - (fraction.length - fractionRest.length : Nat)
    let result :=
      match n.exponent with
      | none => scaled significand point
      | some (down, digits) =>
        let (exponent, exponentRest) := appendDigits maxExponent 0 digits
        if exponentRest.isEmpty then
          scaled significand (if down then point - exponent else point + exponent)
        else if significand ≠ 0 ∧ !down then .error .misplaced
        else .ok .zero
    result.map fun x => .float (x.withSign negative)

/-- The digits that a text begins with. -/
def leadingDigits (text : List Char) : List Char := text.takeWhile Char.isDigit

/-- The digits that have to follow in a text. -/
def someDigits (text : List Char) : Except Fault (List Char) :=
  match leadingDigits text with
  | [] => .error (.at text)
  | digits => .ok digits

/-- The exponent behind its mark: whether it is negative, its digits, and how many characters stand
in front of them, the mark included. -/
def exponentAfterMark : List Char → Except Fault (Bool × List Char × Nat)
  | '+' :: text => (someDigits text).map fun digits => (false, digits, 2)
  | '-' :: text => (someDigits text).map fun digits => (true, digits, 2)
  | text => (someDigits text).map fun digits => (false, digits, 1)

/-- Whether a text goes on with an exponent. -/
def beginsExponent : List Char → Bool
  | 'e' :: _ => true
  | 'E' :: _ => true
  | _ => false

/-- The numeral that a text begins with, and how many characters it takes. A zero is followed by no
further digit. -/
def Numeral.read (text : List Char) : Except Fault (Numeral × Nat) := do
  let whole ← someDigits text
  if 1 < whole.length ∧ whole.head? = some '0' then
    throw .misplaced
  let afterWhole := text.drop whole.length
  let fraction ←
    match afterWhole with
    | '.' :: rest => (someDigits rest).map some
    | _ => pure none
  let afterFraction := afterWhole.drop ((fraction.map fun ds => ds.length + 1).getD 0)
  if beginsExponent afterFraction then
    let (down, digits, marks) ← exponentAfterMark (afterFraction.drop 1)
    let numeral : Numeral := ⟨whole, fraction, some (down, digits)⟩
    pure (numeral, numeral.size marks)
  else
    let numeral : Numeral := ⟨whole, fraction, none⟩
    pure (numeral, numeral.size 0)

/-- The number that a text begins with, and how many characters it takes. -/
def readNumber (text : List Char) : Except Fault (Document × Nat) :=
  match text with
  | '-' :: rest => do
    let (numeral, size) ← Numeral.read rest
    let document ← numeral.value true
    pure (document, size + 1)
  | _ => do
    let (numeral, size) ← Numeral.read text
    let document ← numeral.value false
    pure (document, size)

end ShapeCheck.Document
