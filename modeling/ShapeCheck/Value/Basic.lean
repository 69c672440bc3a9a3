import ShapeCheck.Class
import ShapeCheck.Entries
import ShapeCheck.Instant
import ShapeCheck.Number.Rounding

/-!
# Values

The values that shapes are checked against: what documents hold, and beside it the values of a
running program, such as the undefined value, holes of arrays, functions, keyed collections and
instances of classes. A record is a plain object or an instance, and everything that asks for
entries goes through `Value.record?`.
-/

namespace ShapeCheck

inductive Value where
  | undefined
  | null
  | bool (b : Bool)
  | number (x : Double)
  | string (s : String)
  | symbol (description : Option String)
  | function (name : Option String)
  /-- The slots of an array. A slot without a value is a hole. -/
  | array (slots : List (Option Value))
  | object (entries : List (String × Value))
  /-- Entries in the order in which they were made. A key may be any value. -/
  | map (entries : List (Value × Value))
  | set (items : List Value)
  | date (instant : Instant)
  | instance (cls : Class) (entries : List (String × Value))
deriving Inhabited

/-- The fixed categories of values. Null and everything that is made of parts is an object. -/
inductive Tag where
  | number
  | string
  | boolean
  | function
  | symbol
  | undefined
  | object
deriving DecidableEq, Repr

def Tag.name : Tag → String
  | number => "number"
  | string => "string"
  | boolean => "boolean"
  | function => "function"
  | symbol => "symbol"
  | undefined => "undefined"
  | object => "object"

namespace Value

def tag : Value → Tag
  | .undefined => .undefined
  | .bool _ => .boolean
  | .number _ => .number
  | .string _ => .string
  | .symbol _ => .symbol
  | .function _ => .function
  | _ => .object

/-- The class that a value belongs to. Null and the primitive values belong to none. -/
def class? : Value → Option Class
  | .array _ => some (.builtin .array)
  | .object _ => some .object
  | .map _ => some (.builtin .map)
  | .set _ => some (.builtin .set)
  | .date _ => some (.builtin .date)
  | .function _ => some (.builtin .function)
  | .instance cls _ => some cls
  | _ => none

/-- The entries of plain objects and of instances. -/
def record? : Value → Option (List (String × Value))
  | .object entries => some entries
  | .instance _ entries => some entries
  | _ => none

def string? : Value → Option String
  | .string s => some s
  | _ => none

def number? : Value → Option Double
  | .number x => some x
  | _ => none

def isUndefined : Value → Bool
  | .undefined => true
  | _ => false

def isNull : Value → Bool
  | .null => true
  | _ => false

/-- An array without holes. -/
def ofItems (items : List Value) : Value := .array (items.map some)

/-- A plain object. A key that comes twice keeps its first place and its last value. -/
def ofEntries (entries : List (String × Value)) : Value := .object (Entries.ofList entries)

/-- An instance of a class, with entries as in a plain object. -/
def ofFields (cls : Class) (entries : List (String × Value)) : Value :=
  .instance cls (Entries.ofList entries)

/-- The number nearest to an integer. -/
def ofInt (n : Int) : Value := .number (.ofInt n)

/-- A value that may be left out: the undefined value stands for a missing one. -/
def ofOption : Option Value → Value
  | some v => v
  | none => .undefined

@[simp] theorem record?_object (entries : List (String × Value)) :
    (object entries).record? = some entries := rfl

@[simp] theorem record?_instance (cls : Class) (entries : List (String × Value)) :
    (Value.instance cls entries).record? = some entries := rfl

@[simp] theorem tag_null : null.tag = .object := rfl

/-- A value belongs to some class exactly if it is an instance of the root class. -/
theorem isSome_class?_iff (v : Value) :
    v.class?.isSome = true ↔ ∃ c, v.class? = some c ∧ c.isA .object = true := by
  cases v <;> simp [class?]

end Value

end ShapeCheck
