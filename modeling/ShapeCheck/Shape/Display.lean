import ShapeCheck.Shape.Basic
import ShapeCheck.Text.Identifier

/-!
# Shapes as text

Intersection binds tighter than union, so that an operand of an intersection that is itself a union
stands in parentheses. A merged shape is shown as the two shapes it was made from, and a comment is
not shown.
-/

namespace ShapeCheck

/-- A field with its key and the text of its shape. An optional field also admits the undefined
value, and says so. -/
def Presence.fieldText (presence : Presence) (key shape : String) : String :=
  match presence with
  | .required => Text.showKey key ++ ": " ++ shape
  | .optional => Text.showKey key ++ "?: " ++ shape ++ " | undefined"
  | .allowMissing => Text.showKey key ++ "?: " ++ shape

/-- Field texts in braces. -/
def fieldsText (fields : List String) : String :=
  if fields.isEmpty then "\x7b\x7d" else "\x7b " ++ ", ".intercalate fields ++ " \x7d"

/-- A dictionary with the name of its key, which is `key` unless it was given one. -/
def dictText (keyName : Option String) (value : String) : String :=
  "\x7b [" ++ keyName.getD "key" ++ ": string]: " ++ value ++ " \x7d"

namespace Shape

/-- An operand of an intersection, in parentheses if it is a union. -/
def operandText : Shape → String → String
  | union _ _, text => "(" ++ text ++ ")"
  | _, text => text

mutual

/-- The text of a shape. -/
def text : Shape → String
  | any => "any"
  | never => "never"
  | literal l => l.text
  | tagged tag => tag.name
  | instanceOf cls => cls.name
  | guarded name _ => "is(" ++ name ++ ")"
  | array element => "Array<" ++ element.text ++ ">"
  | map key value => "Map<" ++ key.text ++ ", " ++ value.text ++ ">"
  | set element => "Set<" ++ element.text ++ ">"
  | record ⟨fields, _⟩ => fieldsText (fieldTexts fields)
  | dict ⟨keyName, value⟩ => dictText keyName value.text
  | union left right => left.text ++ " | " ++ right.text
  | inter left right => left.operandText left.text ++ " & " ++ right.operandText right.text
  | merged left right _ => left.operandText left.text ++ " & " ++ right.operandText right.text
  | validation description _ => "validate(" ++ description ++ ")"
  | commented _ inner => inner.text
termination_by structural s => s

def fieldTexts : List (String × Field Shape) → List String
  | [] => []
  | (name, ⟨shape, presence⟩) :: rest => presence.fieldText name shape.text :: fieldTexts rest
termination_by structural fields => fields

end

/-- A validation with the name of its part. Its predicate is not shown. -/
def describedValidation (description : String) : String :=
  "Validation \x7b description: " ++ Text.quote description ++ ", .. \x7d"

/-- The text that marks a shape as a shape. -/
def described (s : Shape) : String := "Type(" ++ s.text ++ ")"

end Shape

end ShapeCheck
