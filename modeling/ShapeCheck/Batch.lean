import ShapeCheck.Check

/-!
# Many values, one shape

Every value is checked on its own, and answers come in the order of the values.
-/

namespace ShapeCheck.Shape

/-- The values that match, or their failures, in order. -/
def checkAll (s : Shape) (values : List Value) : List (Except Failure Value) :=
  values.map fun v => (s.check v).map fun _ => v

/-- The slices of the values that match, or their failures, in order. -/
def sliceAll (s : Shape) (values : List Value) : List (Except Failure Value) :=
  values.map s.slice

/-- Values that match on one side; on the other, positions and failures of those that do not. -/
structure Partition where
  accepted : List Value
  rejected : List (Nat × Failure)

/-- Splits values, from position `i` on. -/
def partitionFrom (s : Shape) : Nat → List Value → Partition
  | _, [] => ⟨[], []⟩
  | i, v :: rest =>
    let others := s.partitionFrom (i + 1) rest
    match s.check v with
    | .ok () => ⟨v :: others.accepted, others.rejected⟩
    | .error failure => ⟨others.accepted, (i, failure) :: others.rejected⟩

def partition (s : Shape) (values : List Value) : Partition :=
  s.partitionFrom 0 values

@[simp] theorem length_checkAll (s : Shape) (values : List Value) :
    (s.checkAll values).length = values.length := by
  simp [checkAll]

@[simp] theorem length_sliceAll (s : Shape) (values : List Value) :
    (s.sliceAll values).length = values.length := by
  simp [sliceAll]

theorem accepted_partitionFrom (s : Shape) (i : Nat) (values : List Value) :
    (s.partitionFrom i values).accepted = values.filter s.accepts := by
  induction values generalizing i with
  | nil => rfl
  | cons v rest ih =>
    unfold partitionFrom
    cases h : s.check v <;> simp [accepts, h, ih]

theorem length_partition (s : Shape) (values : List Value) :
    (s.partition values).accepted.length + (s.partition values).rejected.length
      = values.length := by
  suffices ∀ i, (s.partitionFrom i values).accepted.length
      + (s.partitionFrom i values).rejected.length = values.length from this 0
  intro i
  induction values generalizing i with
  | nil => rfl
  | cons v rest ih =>
    have := ih (i + 1)
    unfold partitionFrom
    cases h : s.check v <;> simp <;> omega

end ShapeCheck.Shape
