import ShapeCheck.Number.Double

/-!
# The fewest digits that read back

The reals that round to a double form an interval around it, whose ends belong to it exactly if its
significand is even. Among the decimal grids with one digit, two digits and so on, the first one
with a point in the interval gives the digits: if any point of a grid lies in the interval, then so
does one of the two neighbours of the double on that grid. Of two neighbours in the interval the
nearer one is taken; a tie is left to the text that is written.
-/

namespace ShapeCheck.Number

/-- Which of two equally near digit sequences is written. -/
inductive Tie where
  | upward
  | toEven
deriving DecidableEq, Repr

/-- The digits `d₁ d₂ … dₙ`, with the decimal point before them moved right by `point` places:
`0.d₁d₂…dₙ * 10 ^ point`. -/
structure Digits where
  digits : List Char
  point : Int
deriving DecidableEq, Repr

/-- The reals that round to a double, as multiples of `1 / scale`: the double itself and the two
ends, and whether the ends belong to it. -/
structure Interval where
  low : Nat
  value : Nat
  high : Nat
  scale : Nat
  closed : Bool

/-- The interval of `significand * 2 ^ shift` units of `2 ^ (-1074)`. Each end lies half way to the
next double, and below a power of two the next double is nearer. All four numbers are multiplied by
four, and by the denominator that is left, to stay integers. -/
def interval (significand shift : Nat) : Interval :=
  let grow := twoPow (shift - 1074)
  let below := if significand = twoPow 52 ∧ 0 < shift then 1 else 2
  { low := (4 * significand - below) * grow
    value := 4 * significand * grow
    high := (4 * significand + 2) * grow
    scale := 4 * twoPow (1074 - shift)
    closed := significand % 2 = 0 }

/-- The place of the decimal point of a positive number between `2 ^ exponent` and
`2 ^ (exponent + 1)`: the least `k` with `num / den < 10 ^ k`. The product with `log 2` is right or
one too small. -/
def decimalPoint (num den : Nat) (exponent : Int) : Int :=
  let guess := exponent * 30103 / 100000 + 1
  let reached : Bool :=
    if 0 ≤ guess then tenPow guess.toNat * den ≤ num else den ≤ num * tenPow (-guess).toNat
  if reached then guess + 1 else guess

/-- The point of the grid with step `10 ^ (-places)` that lies in the interval and is nearest to
the double, counted in steps, if there is one. -/
def gridPoint? (tie : Tie) (i : Interval) (places : Int) : Option Nat :=
  let up := tenPow places.toNat
  let step := i.scale * tenPow (-places).toNat
  let value := i.value * up
  let floor := value / step
  let rest := value % step
  let within (n : Nat) : Bool :=
    if i.closed then i.low * up ≤ n * step && n * step ≤ i.high * up
    else i.low * up < n * step && n * step < i.high * up
  let nearer : Nat :=
    if 2 * rest < step then floor
    else if step < 2 * rest then floor + 1
    else match tie with
      | .upward => floor + 1
      | .toEven => if floor % 2 = 0 then floor else floor + 1
  let farther : Nat := if nearer = floor then floor + 1 else floor
  if within nearer then some nearer else if within farther then some farther else none

/-- The grid point as digits. Trailing zeros are dropped, which arise only where rounding carries
into a new first digit. -/
def digitsOf (n : Nat) (places : Int) : Digits :=
  let text := Nat.toDigits 10 n
  { digits := (text.reverse.dropWhile (· = '0')).reverse
    point := text.length - places }

/-- The fewest digits that read back as the positive double `significand * 2 ^ shift` units.
Seventeen digits are always enough. -/
def shortest (tie : Tie) (significand shift : Nat) : Digits :=
  let i := interval significand shift
  let point := decimalPoint i.value i.scale ((significand.log2 + shift : Nat) - 1074)
  let found := (List.range' 1 17).findSome? fun (count : Nat) =>
    let places := (count : Int) - point
    (gridPoint? tie i places).map fun n => digitsOf n places
  found.getD ⟨['0'], 1⟩

example : shortest .upward 1 0 = ⟨['5'], -323⟩ := by decide +kernel

example : shortest .upward (twoPow 52 + twoPow 51) 1022 = ⟨['1', '5'], 1⟩ := by decide +kernel

end ShapeCheck.Number
