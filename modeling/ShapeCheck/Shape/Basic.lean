import ShapeCheck.Literal
import ShapeCheck.Predicate
import ShapeCheck.Presence

/-!
# Shapes

A shape says which values are accepted. Shapes are built from leaves by containers, records,
unions, intersections, validations and comments. Records and dictionaries constrain the entries of a
record, and an intersection of such constraints is not checked side by side but combined into one
constraint, so that a merged shape carries the two shapes it is shown as and the constraint that is
checked.
-/

namespace ShapeCheck

/-- What a record shape asks of one key. -/
structure Field (σ : Type) where
  shape : σ
  presence : Presence

/-- Fields in order, every name once, and whether keys without a field are forbidden. -/
structure RecordShape (σ : Type) where
  fields : List (String × Field σ)
  exact : Bool

/-- One shape for the values of all entries. The name of the key is only shown. -/
structure DictShape (σ : Type) where
  keyName : Option String
  value : σ

/-- A constraint on records: fields, a shape for all values, or both. -/
inductive Constraint (σ : Type) where
  | record (r : RecordShape σ)
  | dict (d : DictShape σ)
  | both (r : RecordShape σ) (d : DictShape σ)

/-- The record shape that a constraint is. -/
def Constraint.asRecord? {σ : Type} : Constraint σ → Option (RecordShape σ)
  | record r => some r
  | _ => none

/-- The dictionary that a constraint is. -/
def Constraint.asDict? {σ : Type} : Constraint σ → Option (DictShape σ)
  | dict d => some d
  | _ => none

inductive Shape where
  | any
  | never
  /-- The values equal to a literal. -/
  | literal (l : Literal)
  /-- The values of a category. -/
  | tagged (tag : Tag)
  /-- The values of a class and of the classes below it. -/
  | instanceOf (cls : Class)
  /-- The values that pass a named test. -/
  | guarded (name : String) (test : Value → Bool)
  | array (element : Shape)
  | map (key value : Shape)
  | set (element : Shape)
  | record (r : RecordShape Shape)
  | dict (d : DictShape Shape)
  | union (left right : Shape)
  /-- The values that both sides accept, checked side by side. -/
  | inter (left right : Shape)
  /-- An intersection of constraints on records that are checked as one. -/
  | merged (left right : Shape) (constraint : Constraint Shape)
  /-- The values that a described predicate holds of. -/
  | validation (description : String) (test : Value → Verdict)
  /-- A shape with a remark that checking ignores. -/
  | commented (text : String) (inner : Shape)
deriving Inhabited

namespace Shape

/-- The shape inside all outer comments. -/
def bare : Shape → Shape
  | commented _ inner => inner.bare
  | s => s

/-- Whether a shape is a validation, possibly with comments. -/
def isValidation : Shape → Bool
  | validation _ _ => true
  | commented _ inner => inner.isValidation
  | _ => false

/-- The constraint on records that a shape is, if it is one. -/
def constraint? : Shape → Option (Constraint Shape)
  | record r => some (.record r)
  | dict d => some (.dict d)
  | merged _ _ c => some c
  | _ => none

/-- Whether a constraint on records is found through comments, unions and intersections. -/
def reachesConstraint : Shape → Bool
  | record _ => true
  | dict _ => true
  | merged _ _ _ => true
  | commented _ inner => inner.reachesConstraint
  | inter left right => left.reachesConstraint || right.reachesConstraint
  | union left right => left.reachesConstraint || right.reachesConstraint
  | _ => false

@[simp] theorem bare_commented (text : String) (s : Shape) : (commented text s).bare = s.bare := rfl

@[simp] theorem isValidation_commented (text : String) (s : Shape) :
    (commented text s).isValidation = s.isValidation := rfl

@[simp] theorem reachesConstraint_commented (text : String) (s : Shape) :
    (commented text s).reachesConstraint = s.reachesConstraint := rfl

/-- What does not see a comment does not see the outer comments of a shape. -/
theorem apply_bare {α : Type} {f : Shape → α} (h : ∀ text inner, f (commented text inner) = f inner)
    (s : Shape) : f s.bare = f s := by
  cases s with
  | commented text inner => exact (apply_bare h inner).trans (h text inner).symm
  | _ => rfl

theorem bare_ne_commented (s : Shape) (text : String) (inner : Shape) :
    s.bare ≠ commented text inner := by
  cases s with
  | commented _ s => exact bare_ne_commented s text inner
  | _ => simp [bare]

end Shape

end ShapeCheck
