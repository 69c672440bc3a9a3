import ShapeCheck.Value.Basic

/-!
# Equality of values

Values are equal part by part. Numbers are compared as numbers, so that the two zeros are equal and
what is no number differs from itself. Records are equal if they have the same keys with equal
values, in any order; arrays, maps and sets are compared in order. Instances have to share their
class.
-/

namespace ShapeCheck

mutual

/-- Whether two values are equal. -/
def Value.equals : Value → Value → Bool
  | .undefined, .undefined => true
  | .null, .null => true
  | .bool a, .bool b => a == b
  | .number x, .number y => x.equals y
  | .string s, .string t => s == t
  | .symbol s, .symbol t => s == t
  | .function f, .function g => f == g
  | .array xs, .array ys => Value.equalSlots xs ys
  | .object xs, .object ys => xs.length == ys.length && Value.equalEntries xs ys
  | .map xs, .map ys => Value.equalPairs xs ys
  | .set xs, .set ys => Value.equalItems xs ys
  | .date a, .date b => a == b
  | .instance c xs, .instance d ys => c == d && xs.length == ys.length && Value.equalEntries xs ys
  | _, _ => false
termination_by structural v => v

/-- Slot by slot; a hole is equal to a hole only. -/
def Value.equalSlots : List (Option Value) → List (Option Value) → Bool
  | [], [] => true
  | none :: xs, none :: ys => Value.equalSlots xs ys
  | some x :: xs, some y :: ys => x.equals y && Value.equalSlots xs ys
  | _, _ => false
termination_by structural xs => xs

/-- Whether every entry on the left has an equal value under its key on the right. -/
def Value.equalEntries : List (String × Value) → List (String × Value) → Bool
  | [], _ => true
  | (key, x) :: xs, ys =>
    (match Entries.get? ys key with
      | some y => x.equals y
      | none => false) && Value.equalEntries xs ys
termination_by structural xs => xs

def Value.equalPairs : List (Value × Value) → List (Value × Value) → Bool
  | [], [] => true
  | (k, x) :: xs, (l, y) :: ys => k.equals l && x.equals y && Value.equalPairs xs ys
  | _, _ => false
termination_by structural xs => xs

def Value.equalItems : List Value → List Value → Bool
  | [], [] => true
  | x :: xs, y :: ys => x.equals y && Value.equalItems xs ys
  | _, _ => false
termination_by structural xs => xs

end

@[simp] theorem Value.equals_string (s t : String) :
    (Value.string s).equals (.string t) = (s == t) := by
  simp [Value.equals]

@[simp] theorem Value.equals_number (x y : Double) :
    (Value.number x).equals (.number y) = x.equals y := by
  simp [Value.equals]

example : (Value.object [("a", .null), ("b", .bool true)]).equals
    (.object [("b", .bool true), ("a", .null)]) = true := by decide

end ShapeCheck
