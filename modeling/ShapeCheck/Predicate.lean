import ShapeCheck.Text.Search
import ShapeCheck.Value.Basic

/-!
# Predicates on values

A validation asks a predicate about a value. The predicate holds, fails, or cannot answer, and then
it says why. `Predicate` collects the predicates that are built most often; a shape takes any
function from values to verdicts.
-/

namespace ShapeCheck

/-- The answer of a predicate. -/
inductive Verdict where
  | holds
  | fails
  /-- No answer. The messages go from the outermost context to the cause. -/
  | raised (messages : List String)
deriving DecidableEq, Repr

def Verdict.ofBool (b : Bool) : Verdict := if b then .holds else .fails

@[simp] theorem Verdict.ofBool_eq_holds_iff {b : Bool} : Verdict.ofBool b = .holds ↔ b = true := by
  cases b <;> simp [Verdict.ofBool]

/-- Predicates that are built from plain data. -/
inductive Predicate where
  | constant (b : Bool)
  /-- A number above a bound. -/
  | above (bound : Double)
  /-- A number that is an even integer. -/
  | even
  /-- A string that holds a text. -/
  | containing (part : String)
  /-- A string that begins with a text. -/
  | startingWith (start : String)
  /-- A record with a key. -/
  | havingKey (key : String)
  /-- A record with a number above a bound under a key. -/
  | fieldAbove (key : String) (bound : Double)
  | isUndefined
  | isNull
  /-- Never an answer. -/
  | raising (messages : List String)

namespace Predicate

def isAbove (bound : Double) (v : Value) : Bool :=
  v.number?.any fun x => bound.less x

def isEven (v : Value) : Bool :=
  (v.number?.bind Double.integer?).any fun n => n % 2 == 0

/-- The verdict of a predicate on a value. -/
def verdict : Predicate → Value → Verdict
  | constant b, _ => .ofBool b
  | above bound, v => .ofBool (isAbove bound v)
  | even, v => .ofBool (isEven v)
  | containing part, v => .ofBool (v.string?.any fun s => Text.contains s part)
  | startingWith start, v => .ofBool (v.string?.any fun s => Text.startsWith s start)
  | havingKey key, v => .ofBool (v.record?.any fun es => (Entries.get? es key).isSome)
  | fieldAbove key bound, v =>
    .ofBool ((v.record?.bind fun es => Entries.get? es key).any (isAbove bound))
  | isUndefined, v => .ofBool v.isUndefined
  | isNull, v => .ofBool v.isNull
  | raising messages, _ => .raised messages

/-- Whether a predicate holds. One that gives no answer does not. -/
def holds (p : Predicate) (v : Value) : Bool := p.verdict v = .holds

end Predicate

end ShapeCheck
