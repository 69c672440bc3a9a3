import ShapeCheck.Number.Shortest

/-!
# Numbers as text

The fewest digits that read back are written around a decimal point or before an exponent. A style
says which of the two, and the two styles of this library differ in every choice: a number that is
shown never has an exponent, while a number of a document has one outside a window.
-/

namespace ShapeCheck.Number

/-- How the digits of a number are written. -/
structure Style where
  /-- Which of two equally near digit sequences is taken. -/
  tie : Tie
  /-- The least and the largest place of the decimal point that needs no exponent. Without a window
  there is never an exponent. -/
  window : Option (Int × Int)
  /-- Whether a number without a fraction ends in a point and a zero. -/
  wholePoint : Bool

/-- Shown numbers take the upper of two equally near texts and have no exponent. -/
def Style.shown : Style := ⟨.upward, none, false⟩

/-- Numbers of documents take the even one of two equally near texts, have an exponent from
seventeen digits before the point and from five zeros after it, and end in `.0` if they are whole
and have no exponent. -/
def Style.document : Style := ⟨.toEven, some (-4, 16), true⟩

def zeros (count : Nat) : List Char := List.replicate count '0'

/-- Digits around a decimal point. -/
def plainText (wholePoint : Bool) (d : Digits) : String :=
  if d.point ≤ 0 then
    "0." ++ String.ofList (zeros (-d.point).toNat ++ d.digits)
  else
    let before := d.point.toNat
    let whole := String.ofList (d.digits.take before ++ zeros (before - d.digits.length))
    match d.digits.drop before with
    | [] => if wholePoint then whole ++ ".0" else whole
    | fraction => whole ++ "." ++ String.ofList fraction

/-- One digit before the point, the others after it, and the exponent with its sign. -/
def exponentText (d : Digits) : String :=
  let fraction := d.digits.drop 1
  String.ofList (d.digits.take 1)
    ++ (if fraction.isEmpty then "" else "." ++ String.ofList fraction)
    ++ (if 0 < d.point then "e+" else "e") ++ toString (d.point - 1)

/-- The text of a finite number without its sign. -/
def Style.magnitudeText (style : Style) (significand shift : Nat) : String :=
  if significand = 0 then
    if style.wholePoint then "0.0" else "0"
  else
    let d := shortest style.tie significand shift
    match style.window with
    | some (least, largest) =>
      if least ≤ d.point ∧ d.point ≤ largest then plainText style.wholePoint d else exponentText d
    | none => plainText style.wholePoint d

/-- The text of a number in a style. Documents hold no number that is not finite. -/
def Style.text (style : Style) (x : Double) : String :=
  match x.magnitude with
  | .nan => "NaN"
  | .infinite => if x.isNegative then "-Infinity" else "Infinity"
  | .finite significand shift =>
    (if x.isNegative then "-" else "") ++ style.magnitudeText significand shift

end ShapeCheck.Number

namespace ShapeCheck

/-- A number as it is shown. Integers below `10 ^ 15` are written as integers, so that both zeros
are `0`. -/
def Double.text (x : Double) : String :=
  match x.integer? with
  | some n => if n.natAbs < tenPow 15 then toString n else Number.Style.shown.text x
  | none => Number.Style.shown.text x

end ShapeCheck
