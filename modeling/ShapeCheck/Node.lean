import ShapeCheck.Shape.Build

/-!
# Nodes

A node is a shape with an identity. The named leaves are nodes that exist once; every other shape
becomes a new node each time it is made, so that two nodes with equal shapes may be different. A
scope hands out identities and remembers nodes under names.
-/

namespace ShapeCheck

/-- What tells nodes apart. -/
inductive NodeId where
  | leaf (leaf : Leaf)
  | made (serial : Nat)
deriving DecidableEq, Repr

structure Node where
  id : NodeId
  shape : Shape

/-- The one node of a leaf. -/
def Node.ofLeaf (leaf : Leaf) : Node := ⟨.leaf leaf, leaf.shape⟩

/-- Whether two nodes are one. -/
def Node.same (a b : Node) : Bool := a.id = b.id

/-- Where nodes are made and named. -/
structure Scope where
  next : Nat
  named : List (String × Node)

namespace Scope

def empty : Scope := ⟨0, []⟩

/-- A new node for a shape. -/
def make (scope : Scope) (shape : Shape) : Node × Scope :=
  (⟨.made scope.next, shape⟩, { scope with next := scope.next + 1 })

/-- Gives a node a name. An earlier node of that name is no longer found. -/
def define (scope : Scope) (name : String) (node : Node) : Scope :=
  { scope with named := Entries.insert scope.named name node }

/-- The node of a name. -/
def find? (scope : Scope) (name : String) : Option Node := Entries.get? scope.named name

theorem find?_define (scope : Scope) (name other : String) (node : Node) :
    (scope.define name node).find? other = if name = other then some node else scope.find? other :=
  Entries.get?_insert _ _ _ _

theorem make_not_same (scope : Scope) (s t : Shape) :
    ((scope.make s).1.same ((scope.make s).2.make t).1) = false := by
  simp [make, Node.same]

end Scope

end ShapeCheck
