import ShapeCheck.Value.Inspect

/-!
# Paths into values

A path leads from a value to one of its parts. The parts of maps and sets are named by position
where they are keys or items, and by their key where they are values of a map.
-/

namespace ShapeCheck

/-- One step into a value. -/
inductive Segment where
  /-- The entry of a record. -/
  | key (name : String)
  /-- The slot of an array. -/
  | index (i : Nat)
  /-- The key of a map or the item of a set at a position. -/
  | nth (i : Nat)
  /-- The value of a map under a key. -/
  | valueAt (key : Value)

def Segment.text [DateFormat] : Segment → String
  | key name => if Text.isIdentifier name then "." ++ name else "[" ++ Text.quote name ++ "]"
  | index i => "[" ++ toString i ++ "]"
  | nth i => ".keys()[" ++ toString i ++ "]"
  | valueAt k => ".get(" ++ k.line ++ ")"

abbrev Path := List Segment

/-- The text of a path: its segments one after the other. -/
def Path.text [DateFormat] (path : Path) : String := String.join (path.map Segment.text)

@[simp] theorem Path.text_nil [DateFormat] : Path.text [] = "" := rfl

end ShapeCheck
