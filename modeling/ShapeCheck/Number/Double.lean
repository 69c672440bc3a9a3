import ShapeCheck.Number.Power

/-!
# Double-precision numbers

A number is given by its 64 bits: the sign, eleven bits of exponent and 52 bits of fraction. Every
finite number is a multiple of the smallest positive one, `2 ^ (-1074)`, so that its exact value is
an integer count of that unit, and comparing, testing for integers and converting are arithmetic on
integers.
-/

namespace ShapeCheck

/-- A double-precision number, by its bits. Two numbers are the same exactly if their bits are: the
equality that numbers are compared with is `Double.equals`. -/
structure Double where
  bits : UInt64
deriving DecidableEq, Inhabited

/-- What the bits below the sign say. -/
inductive Magnitude where
  | nan
  | infinite
  /-- The value is `significand * 2 ^ shift` units of `2 ^ (-1074)`. -/
  | finite (significand shift : Nat)
deriving DecidableEq, Repr

namespace Double

/-- The weight of the sign bit. -/
def signWeight : Nat := twoPow 63

/-- The magnitude bits of infinity. Larger magnitude bits belong to values that are no numbers. -/
def infinityBits : Nat := 2047 * twoPow 52

/-- The bits below the sign. -/
def magnitudeBits (x : Double) : Nat := x.bits.toNat % signWeight

/-- Whether the sign bit is set, which it also is for the negative zero. -/
def isNegative (x : Double) : Bool := signWeight ≤ x.bits.toNat

/-- The number with this sign and these magnitude bits. -/
def ofParts (negative : Bool) (magnitude : Nat) : Double :=
  ⟨UInt64.ofNat ((if negative then signWeight else 0) + magnitude)⟩

/-- The one value that stands for all that are no numbers. -/
def nan : Double := ofParts false (infinityBits + twoPow 51)

def zero : Double := ofParts false 0

/-- Significand and shift of finite magnitude bits. Exponent zero belongs to the numbers below the
normal ones, which have no implied leading bit. -/
def finiteParts (magnitude : Nat) : Nat × Nat :=
  let exponent := magnitude / twoPow 52
  let fraction := magnitude % twoPow 52
  if exponent = 0 then (fraction, 0) else (twoPow 52 + fraction, exponent - 1)

/-- The number without its sign. -/
def magnitude (x : Double) : Magnitude :=
  if infinityBits < x.magnitudeBits then .nan
  else if x.magnitudeBits = infinityBits then .infinite
  else .finite (finiteParts x.magnitudeBits).1 (finiteParts x.magnitudeBits).2

def isNaN (x : Double) : Bool := infinityBits < x.magnitudeBits

def isFinite (x : Double) : Bool := x.magnitudeBits < infinityBits

/-- The place of a number in the order of numbers. Magnitude bits are ordered as the magnitudes
are, and both zeros have the same place. -/
def place (x : Double) : Int :=
  if x.isNegative then -(x.magnitudeBits : Int) else x.magnitudeBits

/-- Numeric equality: the zeros are equal, and what is no number equals nothing. -/
def equals (x y : Double) : Bool :=
  !x.isNaN && !y.isNaN && x.place == y.place

/-- Strictly smaller, which nothing is that is no number. -/
def less (x y : Double) : Bool :=
  !x.isNaN && !y.isNaN && x.place < y.place

/-- Equality of written numbers: as `equals`, but all that are no numbers are equal too. -/
def sameWritten (x y : Double) : Bool :=
  x.equals y || x.isNaN && y.isNaN

/-- How many units of `2 ^ (-1074)` a finite number is, with its sign. -/
def units? (x : Double) : Option Int :=
  match x.magnitude with
  | .finite significand shift =>
    let count : Int := (significand * twoPow shift : Nat)
    some (if x.isNegative then -count else count)
  | _ => none

/-- The integer that a number is, if it is finite and has no fraction. -/
def integer? (x : Double) : Option Int :=
  match x.magnitude with
  | .finite significand shift =>
    let whole : Option Nat :=
      if 1074 ≤ shift then some (significand * twoPow (shift - 1074))
      else if significand % twoPow (1074 - shift) = 0 then
        some (significand / twoPow (1074 - shift))
      else none
    whole.map fun n => if x.isNegative then -(n : Int) else n
  | _ => none

theorem equals_comm (x y : Double) : x.equals y = y.equals x := by
  simp only [equals, Bool.and_comm (!x.isNaN), Bool.beq_comm]

theorem equals_self (x : Double) : x.equals x = !x.isNaN := by
  simp [equals]

theorem equals_trans {x y z : Double} (hxy : x.equals y = true) (hyz : y.equals z = true) :
    x.equals z = true := by
  simp only [equals, Bool.and_eq_true, beq_iff_eq] at hxy hyz ⊢
  exact ⟨⟨hxy.1.1, hyz.1.2⟩, hxy.2.trans hyz.2⟩

theorem sameWritten_self (x : Double) : x.sameWritten x = true := by
  cases h : x.isNaN <;> simp [sameWritten, equals, h]

example : (ofParts true 0).equals zero = true ∧ nan.equals nan = false := by decide

end Double

end ShapeCheck
