/-!
# Classes

A class has a name and, unless it is the root, a parent. Classes are told apart by where they were
declared and not by their names: two declarations of the same name make two classes. A class holds
its whole chain of parents, so that every chain is finite and ends at the root.
-/

namespace ShapeCheck

/-- The classes that exist before any declaration, besides the root. -/
inductive Builtin where
  | array
  | map
  | set
  | date
  | function
deriving DecidableEq, Repr

def Builtin.name : Builtin → String
  | .array => "Array"
  | .map => "Map"
  | .set => "Set"
  | .date => "Date"
  | .function => "Function"

/-- A class. The serial number of a declaration tells it from every other declaration. -/
inductive Class where
  | object
  | builtin (kind : Builtin)
  | declared (serial : Nat) (name : String) (parent : Class)
deriving DecidableEq, Repr, Inhabited

namespace Class

def name : Class → String
  | object => "Object"
  | builtin kind => kind.name
  | declared _ name _ => name

/-- The next class of the chain. Only the root has none. -/
def parent? : Class → Option Class
  | object => none
  | builtin _ => some object
  | declared _ _ parent => some parent

/-- Whether a class is `ancestor` or has it on its chain of parents. -/
def isA : Class → Class → Bool
  | object, ancestor => object = ancestor
  | builtin kind, ancestor => builtin kind = ancestor || object = ancestor
  | declared serial name parent, ancestor =>
    declared serial name parent = ancestor || parent.isA ancestor

/-- How a class is written where its kind has to be seen. -/
def described (c : Class) : String := "Class(" ++ c.name ++ ")"

@[simp] theorem isA_self (c : Class) : c.isA c = true := by
  cases c <;> simp [isA]

/-- Every chain of parents ends at the root. -/
@[simp] theorem isA_object (c : Class) : c.isA object = true := by
  induction c with
  | object => rfl
  | builtin kind => simp [isA]
  | declared serial name parent ih => simp [isA, ih]

theorem isA_iff (c ancestor : Class) :
    c.isA ancestor = true ↔ c = ancestor ∨ ∃ p, c.parent? = some p ∧ p.isA ancestor = true := by
  cases c <;> simp [isA, parent?]

end Class

/-- Declares classes: each gets the next serial number, so that no two declarations coincide. -/
structure ClassSupply where
  next : Nat

def ClassSupply.start : ClassSupply := ⟨0⟩

/-- A new class below `parent`. -/
def ClassSupply.declare (supply : ClassSupply) (name : String) (parent : Class) :
    Class × ClassSupply :=
  (.declared supply.next name parent, ⟨supply.next + 1⟩)

end ShapeCheck
