import ShapeCheck.Failure.Basic

/-!
# Refusals that may still grow

A union that is a branch of another union adds its branches to those of the outer one, and an
intersection that failed on both sides adds its failures to those of an intersection around it. A
refusal therefore stays open until the shape around it is known. Comments in between change nothing.
-/

namespace ShapeCheck

/-- Why a shape refused a value, before it is known what stands around the shape. -/
inductive Refusal where
  | closed (failure : Failure)
  /-- Every branch of a union failed. -/
  | branches (site : Site) (failures : List Failure)
  /-- Both sides of an intersection failed. -/
  | sides (site : Site) (failures : List Failure)

namespace Refusal

/-- The refusal as a failure of its own. -/
def failure : Refusal → Failure
  | closed failure => failure
  | branches site failures => .noBranch site failures
  | sides site failures => .several site failures

/-- What the refusal adds to a union around it. -/
def asBranches : Refusal → List Failure
  | branches _ failures => failures
  | refusal => [refusal.failure]

/-- What the refusal adds to an intersection around it. -/
def asSides : Refusal → List Failure
  | sides _ failures => failures
  | refusal => [refusal.failure]

@[simp] theorem failure_closed (f : Failure) : (closed f).failure = f := rfl

@[simp] theorem asBranches_closed (f : Failure) : (closed f).asBranches = [f] := rfl

@[simp] theorem asSides_closed (f : Failure) : (closed f).asSides = [f] := rfl

end Refusal

end ShapeCheck
