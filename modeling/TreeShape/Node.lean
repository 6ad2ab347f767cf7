/-!
# Nodes

A node belongs to the caller.  Matching and printing never look inside it: all they ask of two nodes
is whether they are the same object, so a node is a number and sameness is equality of numbers.
A place in a tree may also be empty.
-/

namespace TreeShape

/-- What stands at one place of a tree: an object, or nothing. -/
inductive Node where
  | absent
  | object (number : Nat)
  deriving DecidableEq, Repr, Inhabited

namespace Node

def isAbsent : Node → Bool
  | absent => true
  | object _ => false

@[simp] theorem isAbsent_iff (n : Node) : n.isAbsent = true ↔ n = absent := by
  cases n <;> simp [isAbsent]

end Node

/-- The number from which on no position of a list is known. -/
def positionLimit : Nat := 0x8000000000000000

/-- How a program refers to a node: by what the owner of the node calls it.  The node need not exist
before the reference is followed. -/
inductive NodeRef where
  | absent
  | tagged (tag : String)
  deriving DecidableEq, Repr, Inhabited

/-- A type of nodes, known by its number in the hierarchy that declares it. -/
structure NodeType where
  number : Nat
  deriving DecidableEq, Repr, Inhabited

namespace NodeType

/-- The type every object and every empty place has. -/
def anything : NodeType := ⟨0⟩

/-- The type of an empty place. -/
def absence : NodeType := ⟨1⟩

/-- The common base of the types that are declared without one. -/
def common : NodeType := ⟨2⟩

end NodeType

/-- How a program refers to a type.  The kinds of nodes of syntax trees are named apart from the other
types. -/
inductive TypeName where
  | plain (name : String)
  | kind (name : String)
  deriving DecidableEq, Repr, Inhabited

end TreeShape
