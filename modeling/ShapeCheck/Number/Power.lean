/-!
# Powers of two and of ten

The exact value of a double is a multiple of a power of two, and its text counts powers of ten.
-/

namespace ShapeCheck

/-- Two to the power of `k`. -/
def twoPow (k : Nat) : Nat := Nat.pow 2 k

/-- Ten to the power of `k`. -/
def tenPow (k : Nat) : Nat := Nat.pow 10 k

@[simp] theorem twoPow_zero : twoPow 0 = 1 := rfl

theorem twoPow_succ (k : Nat) : twoPow (k + 1) = twoPow k * 2 := rfl

theorem twoPow_pos (k : Nat) : 0 < twoPow k := Nat.pow_pos (by decide)

end ShapeCheck
