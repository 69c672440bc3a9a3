import ShapeCheck.Check
import ShapeCheck.Failure.Render

/-!
# Rejections

Where a caller insists that a value matches, a failure becomes a rejection: the whole text, the
value and shape it is told from, and the causes without causes of their own, with paths from the
outermost value. A failure deep inside is told from the outermost value first.
-/

namespace ShapeCheck

/-- A value that did not match. -/
structure Rejection where
  message : String
  value : Value
  expected : Shape
  causes : List Failure

/-- One cause as texts. -/
structure CauseReport where
  path : String
  expected : String
  received : String
  message : String
deriving DecidableEq, Repr

namespace Rejection

def ofFailure [DateFormat] (failure : Failure) : Rejection where
  message := failure.render
  value := failure.value
  expected := failure.expected
  causes := failure.leaves

/-- The causes in order, one row each. -/
def report [DateFormat] (rejection : Rejection) : List CauseReport :=
  rejection.causes.map fun cause =>
    ⟨cause.path.text, cause.expected.text, cause.value.inspect, cause.message⟩

end Rejection

namespace Shape

/-- A failure as it is told for the whole value: one that lies deeper becomes the cause of a failure
of the value itself. -/
def rerooted (s : Shape) (v : Value) (failure : Failure) : Failure :=
  if failure.path.isEmpty then failure else .rerooted (.here v s) failure

/-- The rejection of a value for a failure. -/
def reject [DateFormat] (s : Shape) (v : Value) (failure : Failure) : Rejection :=
  .ofFailure (s.rerooted v failure)

/-- The value itself, if it matches. -/
def insist [DateFormat] (s : Shape) (v : Value) : Except Rejection Value :=
  match s.check v with
  | .ok () => .ok v
  | .error failure => .error (s.reject v failure)

/-- The slice of a value, if it matches. -/
def insistSlice [DateFormat] (s : Shape) (v : Value) : Except Rejection Value :=
  match s.slice v with
  | .ok sliced => .ok sliced
  | .error failure => .error (s.reject v failure)

theorem path_rerooted (s : Shape) (v : Value) (failure : Failure) :
    (s.rerooted v failure).path = [] := by
  unfold rerooted
  split
  · simp_all [List.isEmpty_iff]
  · rfl

end Shape

end ShapeCheck
