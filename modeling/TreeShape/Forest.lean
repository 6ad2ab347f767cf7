import TreeShape.Hierarchy
import TreeShape.Value.Table

/-!
# Forests

All nodes there are, each with its type, its child list, its parent and the attributes it stores. The
lists and links are stored as given: nothing forces a child to know its parent, and a node may stand at
several places or at none, or below itself.

What a tree is depends on who looks: an adapter may take the child lists for its children or the parts
that the attributes hold, and the stored parents or those of a registry.

A node may be a list or a tuple at the same time; what it has as items is stored with it, and need not
be among its children.
-/

namespace TreeShape

/-- What is stored of one node. -/
structure NodeRecord where
  type : NodeType
  children : List Node := []
  parent : Node := .absent
  /-- The stored attributes, in the order in which they were first set. -/
  attributes : Table := .empty
  /-- What the owner of the node calls it. -/
  tag : Option String := none
  /-- The list or the tuple that the node is, for a node that is one. -/
  sequence : Option Sequence := none

/-- Sets one attribute: in its old position, or behind the others. -/
def NodeRecord.setAttribute (r : NodeRecord) (name : String) (v : Value) : NodeRecord :=
  { r with attributes := r.attributes.put name v }

/-- The nodes, each at its number. -/
structure Forest where
  nodes : Array NodeRecord

namespace Forest

def empty : Forest := ⟨#[]⟩

def size (f : Forest) : Nat := f.nodes.size

/-- What is stored of a node; an empty place stores nothing. -/
def record? (f : Forest) : Node → Option NodeRecord
  | .absent => none
  | .object number => f.nodes[number]?

def typeOf (f : Forest) (n : Node) : NodeType := ((f.record? n).map (·.type)).getD .absence

def children (f : Forest) (n : Node) : List Node := ((f.record? n).map (·.children)).getD []

/-- The child at a position of the child list.  Negative positions count from the end. -/
def child? (f : Forest) (n : Node) (position : Int) : Option Node :=
  let nodes := f.children n
  if 0 ≤ position then nodes[position.toNat]? else nodes.reverse[(-position).toNat - 1]?

def parent (f : Forest) (n : Node) : Node := ((f.record? n).map (·.parent)).getD .absent

def attributes (f : Forest) (n : Node) : Table := ((f.record? n).map (·.attributes)).getD .empty

/-- The list or the tuple that a node is, if it is one. -/
def sequence? (f : Forest) (n : Node) : Option Sequence := (f.record? n).bind (·.sequence)

def tag? (f : Forest) (n : Node) : Option String := (f.record? n).bind (·.tag)

/-- What is written for a node whose owner has no name for it. -/
def unnamed : String := "?"

/-- What is written for a place: what the owner calls the node there; nothing for an empty place. -/
def mark? (f : Forest) : Node → Option String
  | .absent => none
  | .object number => some ((f.tag? (.object number)).getD unnamed)

/-- The latest node that its owner calls by a name. -/
def find? (f : Forest) (tag : String) : Option Node :=
  (f.nodes.toList.reverse.findIdx? fun r => r.tag == some tag).map
    fun i => .object (f.size - 1 - i)

/-- Adds a node, whose number is the old size. -/
def add (f : Forest) (r : NodeRecord) : Forest := ⟨f.nodes.push r⟩

def fresh (f : Forest) : Node := .object f.size

/-- Changes what is stored of a node. -/
def modify (f : Forest) (n : Node) (change : NodeRecord → NodeRecord) : Forest :=
  match n with
  | .absent => f
  | .object number => ⟨f.nodes.modify number change⟩

def setChildren (f : Forest) (n : Node) (children : List Node) : Forest :=
  f.modify n fun r => { r with children := children }

def setParent (f : Forest) (n parent : Node) : Forest :=
  f.modify n fun r => { r with parent := parent }

def setAttribute (f : Forest) (n : Node) (name : String) (v : Value) : Forest :=
  f.modify n fun r => r.setAttribute name v

def setTag (f : Forest) (n : Node) (tag : String) : Forest :=
  f.modify n fun r => { r with tag := some tag }

/-- Gives a node its children and makes it the parent of each of them. -/
def adopt (f : Forest) (n : Node) (children : List Node) : Forest :=
  children.foldl (fun g c => g.setParent c n) (f.setChildren n children)

end Forest

end TreeShape
