import ShapeCheck.Shape.Basic

/-!
# Intersections of shapes

The intersection of two constraints on records is one merged constraint, in which a shared field has
the intersection of both shapes and the stricter presence, and unknown keys stay forbidden only if
both sides forbid them. A constraint is carried into the branches of a union, under a comment, and
into the sides of an intersection that lead to another constraint. Everything else is checked side
by side.
-/

namespace ShapeCheck

/-- The name that is shown for the key of two dictionaries: both names if they differ. -/
def combineKeyNames : Option String → Option String → Option String
  | some a, some b => if a = b then some a else some (a ++ " | " ++ b)
  | some a, none => some a
  | none, b => b

namespace Constraint

variable {σ : Type}

/-- A record shape and a further constraint as one, where `meet` combines it with record shapes. -/
def andRecord (r : RecordShape σ) (meet : RecordShape σ → RecordShape σ) :
    Constraint σ → Constraint σ
  | record s => record (meet s)
  | dict d => both r d
  | both s d => both (meet s) d

/-- A dictionary and a further constraint as one, where `meet` combines it with dictionaries. The
record shape of a constraint is listed first on either side. -/
def andDict (d : DictShape σ) (meet : DictShape σ → DictShape σ) : Constraint σ → Constraint σ
  | record r => both r d
  | dict e => dict (meet e)
  | both r e => both r (meet e)

/-- A constraint with both parts and a further constraint as one. -/
def andBoth (r : RecordShape σ) (d : DictShape σ) (meetRecord : RecordShape σ → RecordShape σ)
    (meetDict : DictShape σ → DictShape σ) : Constraint σ → Constraint σ
  | record s => both (meetRecord s) d
  | dict e => both r (meetDict e)
  | both s e => both (meetRecord s) (meetDict e)

end Constraint

namespace Shape

/-- The intersection of a constraint `whole` with a shape on its right, where `combine` gives the
constraint that is checked in place of `whole` and another constraint. -/
def absorb (whole : Shape) (combine : Constraint Shape → Constraint Shape) : Shape → Shape
  | record r => merged whole (record r) (combine (.record r))
  | dict d => merged whole (dict d) (combine (.dict d))
  | merged left right c => merged whole (merged left right c) (combine c)
  | union left right => union (absorb whole combine left) (absorb whole combine right)
  | commented text inner => commented text (absorb whole combine inner)
  | inter left right =>
    match left.reachesConstraint, right.reachesConstraint with
    | true, true => inter (absorb whole combine left) (absorb whole combine right)
    | true, false => inter (absorb whole combine left) right
    | false, true => inter left (absorb whole combine right)
    | false, false => inter whole (inter left right)
  | s => inter whole s

mutual

/-- The intersection of two shapes. -/
def and : Shape → Shape → Shape
  | commented text a, b => commented text (a.and b)
  | record r, b => absorb (record r) (Constraint.andRecord r (andRecords r)) b
  | dict d, b => absorb (dict d) (Constraint.andDict d (andDicts d)) b
  | merged left right c, b => absorb (merged left right c) (andConstraints c) b
  | a, b => inter a b
termination_by structural a => a

/-- Two constraints as one. -/
def andConstraints : Constraint Shape → Constraint Shape → Constraint Shape
  | .record r, c => Constraint.andRecord r (andRecords r) c
  | .dict d, c => Constraint.andDict d (andDicts d) c
  | .both r d, c => Constraint.andBoth r d (andRecords r) (andDicts d) c
termination_by structural c => c

/-- Two record shapes as one. Fields of one side only are carried over, those of the left side
first. -/
def andRecords : RecordShape Shape → RecordShape Shape → RecordShape Shape
  | ⟨fields, exact⟩, other =>
    ⟨andFields fields other.fields
        ++ other.fields.filter fun field => (Entries.get? fields field.1).isNone,
      exact && other.exact⟩
termination_by structural r => r

/-- The fields on the left, each together with the field of its name on the right. -/
def andFields : List (String × Field Shape) → List (String × Field Shape) →
    List (String × Field Shape)
  | [], _ => []
  | (name, ⟨shape, presence⟩) :: rest, others =>
    (name,
      match Entries.get? others name with
      | some other => ⟨shape.and other.shape, presence.stricter other.presence⟩
      | none => ⟨shape, presence⟩) :: andFields rest others
termination_by structural fields => fields

/-- Two dictionaries as one: all values have to match both shapes. -/
def andDicts : DictShape Shape → DictShape Shape → DictShape Shape
  | ⟨keyName, value⟩, other => ⟨combineKeyNames keyName other.keyName, value.and other.value⟩
termination_by structural d => d

end

@[simp] theorem commented_and (text : String) (a b : Shape) :
    (commented text a).and b = commented text (a.and b) := rfl

theorem merged_and (left right : Shape) (c : Constraint Shape) (b : Shape) :
    (merged left right c).and b = absorb (merged left right c) (andConstraints c) b := rfl

@[simp] theorem absorb_commented (whole : Shape) (f : Constraint Shape → Constraint Shape)
    (text : String) (s : Shape) :
    absorb whole f (commented text s) = commented text (absorb whole f s) := rfl

@[simp] theorem absorb_union (whole : Shape) (f : Constraint Shape → Constraint Shape)
    (a b : Shape) :
    absorb whole f (union a b) = union (absorb whole f a) (absorb whole f b) := rfl

end Shape

end ShapeCheck
