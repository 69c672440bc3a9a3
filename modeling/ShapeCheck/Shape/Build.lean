import ShapeCheck.Shape.Intersection

/-!
# Building shapes

The leaves that have names of their own, and the shapes that are made from other shapes. A record
shape has every name once: a name that comes again keeps its place and takes the later field.
-/

namespace ShapeCheck

/-- The shapes without parts that are named by a word. -/
inductive Leaf where
  | any
  | never
  | number
  | string
  | boolean
  | function
  | symbol
  | undefined
  | null
  /-- Everything that belongs to a class. -/
  | object
deriving DecidableEq, Repr

def Leaf.shape : Leaf → Shape
  | any => .any
  | never => .never
  | number => .tagged .number
  | string => .tagged .string
  | boolean => .tagged .boolean
  | function => .tagged .function
  | symbol => .tagged .symbol
  | undefined => .tagged .undefined
  | null => .literal .null
  | object => .instanceOf .object

namespace Shape

/-- A record shape from fields in order. -/
def ofFields (fields : List (String × Field Shape)) (exact : Bool) : Shape :=
  record ⟨Entries.ofList fields, exact⟩

/-- A record shape that tolerates unknown keys. -/
def openRecord (fields : List (String × Field Shape)) : Shape := ofFields fields false

/-- A record shape that forbids unknown keys. -/
def exactRecord (fields : List (String × Field Shape)) : Shape := ofFields fields true

/-- A dictionary. -/
def dictOf (value : Shape) : Shape := dict ⟨none, value⟩

/-- A dictionary whose key has a name. -/
def namedDictOf (keyName : String) (value : Shape) : Shape := dict ⟨some keyName, value⟩

/-- The values that one of two shapes accepts. -/
def or (a b : Shape) : Shape := union a b

/-- A shape or null. -/
def maybe (s : Shape) : Shape := s.or Leaf.null.shape

/-- A shape whose values also pass a described predicate. -/
def validate (s : Shape) (description : String) (test : Value → Verdict) : Shape :=
  s.and (validation description test)

/-- A shape whose values are also strings that pass a test. -/
def matching (s : Shape) (description : String) (test : String → Bool) : Shape :=
  s.validate description fun v => .ofBool (v.string?.any test)

/-- A shape with a remark. -/
def comment (s : Shape) (text : String) : Shape := commented text s

end Shape

end ShapeCheck
