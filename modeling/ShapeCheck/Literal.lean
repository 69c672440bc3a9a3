import ShapeCheck.Number.Text
import ShapeCheck.Text.Quoted
import ShapeCheck.Value.Basic

/-!
# Literals

A literal is a primitive that values are compared with. A number literal matches the numbers that
are numerically equal to it, so that a literal that is no number matches nothing, while two written
literals are the same even then.
-/

namespace ShapeCheck

inductive Literal where
  | undefined
  | null
  | bool (b : Bool)
  | number (x : Double)
  | string (s : String)

namespace Literal

/-- Whether a value is equal to the literal. -/
def accepts : Literal → Value → Bool
  | undefined, .undefined => true
  | null, .null => true
  | bool a, .bool b => a == b
  | number x, .number y => x.equals y
  | string s, .string t => s == t
  | _, _ => false

/-- Whether two literals are written for the same value. -/
def same : Literal → Literal → Bool
  | undefined, undefined => true
  | null, null => true
  | bool a, bool b => a == b
  | number x, number y => x.sameWritten y
  | string s, string t => s == t
  | _, _ => false

def text : Literal → String
  | undefined => "undefined"
  | null => "null"
  | bool b => if b then "true" else "false"
  | number x => x.text
  | string s => Text.quote s

theorem same_self (l : Literal) : l.same l = true := by
  cases l <;> simp [same, Double.sameWritten_self]

/-- A literal that is no number is the same as itself and matches no value. -/
theorem accepts_nan (v : Value) : (number .nan).accepts v = false := by
  cases v <;> simp [accepts, Double.equals]
  intro h
  exact absurd h (by decide)

end Literal

end ShapeCheck
