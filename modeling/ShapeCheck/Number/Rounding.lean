import ShapeCheck.Number.Double

/-!
# Rounding to doubles

A fraction of natural numbers goes to the nearest double, and of two equally near ones to the one
whose last bit is zero. Magnitude bits count the doubles upwards from zero: in the binade with
shift `s` the double with significand `m` has the bits `s * 2 ^ 52 + m`, which also holds where
rounding carries into the next binade.
-/

namespace ShapeCheck

/-- The integer nearest to a fraction, an even one where two are equally near. -/
def roundHalfEven (num den : Nat) : Nat :=
  let floor := num / den
  let rest := num % den
  if 2 * rest < den || (2 * rest == den && floor % 2 == 0) then floor else floor + 1

namespace Double

/-- The double nearest to a fraction, with a sign. What lies half a unit above the largest finite
double or higher is infinite. -/
def nearest (negative : Bool) (num den : Nat) : Double :=
  let units := num * twoPow 1074
  let shift := (units / den).log2 - 52
  let significand := roundHalfEven units (den * twoPow shift)
  let bits := shift * twoPow 52 + significand
  ofParts negative (if bits < infinityBits then bits else infinityBits)

/-- The double nearest to an integer. -/
def ofInt (n : Int) : Double := nearest (n < 0) n.natAbs 1

def ofNat (n : Nat) : Double := nearest false n 1

/-- The double nearest to a power of ten. -/
def powerOfTen (exponent : Nat) : Double := ofNat (tenPow exponent)

/-- The product of the magnitudes of two finite doubles, rounded. -/
def mulMagnitude (x y : Double) : Double :=
  match x.magnitude, y.magnitude with
  | .finite m s, .finite n t => nearest false (m * n * twoPow (s + t)) (twoPow 2148)
  | _, _ => nan

/-- The quotient of the magnitudes of two finite doubles, rounded, where the divisor is not zero. -/
def divMagnitude (x y : Double) : Double :=
  match x.magnitude, y.magnitude with
  | .finite m s, .finite n t => nearest false (m * twoPow s) (n * twoPow t)
  | _, _ => nan

/-- The same magnitude with the given sign. -/
def withSign (negative : Bool) (x : Double) : Double := ofParts negative x.magnitudeBits

end Double

theorem roundHalfEven_mul_right (n : Nat) {den : Nat} (h : 0 < den) :
    roundHalfEven (n * den) den = n := by
  simp [roundHalfEven, Nat.mul_div_cancel n h, h]

example : (Double.ofInt (twoPow 53 + 1)).integer? = some (twoPow 53) := by decide +kernel

example : (Double.ofInt (twoPow 53 + 3)).integer? = some (twoPow 53 + 4) := by decide +kernel

end ShapeCheck
