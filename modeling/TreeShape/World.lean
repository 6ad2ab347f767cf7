import TreeShape.Forest
import TreeShape.Registry

/-!
# Worlds

Everything a match can read: the types, the nodes, and the registries of parent links.  This module
says what the names of nodes and types stand for, and what reading an attribute of a node gives: a
declared property of the nearest type on the lineage comes first, then the stored attribute, then the
names of the node's parts.
Setting an attribute stores it, under the name that it is a synonym of if a type says so.  Only nodes
of the common type list children and know a parent.

Two attributes are about the node itself: its type, and the table of what it stores.  A type that
declares a property of one of these names speaks for its nodes: they also count as what they claim to
be, and their stored attributes are out of sight.
-/

namespace TreeShape

/-- The types, the nodes and the registries by name. -/
structure World where
  hierarchy : Hierarchy
  forest : Forest
  registries : List (String × Registry)

namespace World

def typeOf (w : World) (n : Node) : NodeType := w.forest.typeOf n

def typeNameOf (w : World) (n : Node) : String := w.hierarchy.name (w.typeOf n)

/-- The type of a node as failures to read attributes mention it. -/
def mentionOf (w : World) (n : Node) : String := w.hierarchy.mention (w.typeOf n)

def isInstance (w : World) (n : Node) (t : NodeType) : Bool := w.hierarchy.isSubtype (w.typeOf n) t

def registry (w : World) (name : String) : Registry := (w.registries.lookup name).getD .empty

def setRegistry (w : World) (name : String) (r : Registry) : World :=
  { w with registries := (name, r) :: w.registries.filter (·.1 != name) }

/-! ## What names stand for -/

def resolve (w : World) : NodeRef → Except Failure Node
  | .absent => .ok .absent
  | .tagged tag =>
    match w.forest.find? tag with
    | some n => .ok n
    | none => .error (.unboundName tag)

/-- The node that a reference leads to, which must not be an empty place. -/
def resolveNamed (w : World) : NodeRef → Except Failure Node
  | .absent => .error .noName
  | r => w.resolve r

/-- The nodes that several references lead to.  The first failure counts. -/
def resolveAll (w : World) : List NodeRef → Except Failure (List Node)
  | [] => .ok []
  | r :: rs => do
    let n ← w.resolve r
    return n :: (← w.resolveAll rs)

def typeNamed (w : World) (name : TypeName) : Except Failure NodeType :=
  match w.hierarchy.find? name, name with
  | some t, _ => .ok t
  | none, .plain text => .error (.unboundName text)
  | none, .kind text => .error (.unknownKind text)

/-- The member that a name denotes in the enumeration of a name. -/
def memberNamed (w : World) (family name : String) : Except Failure Value :=
  match w.hierarchy.members? family with
  | none => .error (.unboundName family)
  | some named => match named.lookup name with
    | none => .error (.unboundName name)
    | some v => .ok v

/-- What names stand for in a world. -/
def meaning (w : World) : Meaning := ⟨w.resolve, w.typeNamed, w.memberNamed⟩

def evaluate (w : World) (t : Term) : Except Failure Value := t.evaluate w.meaning

def evaluateAll (w : World) (ts : List Term) : Except Failure (List Value) :=
  Term.evaluateAll w.meaning ts

/-! ## Linked nodes -/

/-- Whether a node lists its children and knows its parent itself, as those of the common type do. -/
def isLinked (w : World) (n : Node) : Bool := w.isInstance n .common

/-- The children that a node lists. -/
def listedChildren (w : World) (n : Node) : List Node :=
  if w.isLinked n then w.forest.children n else []

/-- The parent that a node knows. -/
def knownParent (w : World) (n : Node) : Node :=
  if w.isLinked n then w.forest.parent n else .absent

/-! ## Reading attributes -/

/-- An attribute that a node must store. -/
def stored (w : World) (n : Node) (attr : String) : Except Failure Value :=
  match (w.forest.attributes n).lookup attr with
  | some v => .ok v
  | none => .error (.noAttribute (w.mentionOf n) attr)

def storesAttributes (w : World) (n : Node) : Bool := w.hierarchy.storesAttributes (w.typeOf n)

/-- The failure of whoever asks for the stored attributes of a node that cannot store any. -/
def noStore (w : World) (n : Node) : Failure := .noAttribute (w.mentionOf n) "__dict__"

/-- What a node stores under a name, looked up as in a table. -/
def entry (w : World) (n : Node) (attr : String) : Except Failure Value :=
  match (w.forest.attributes n).lookup attr, w.storesAttributes n with
  | some v, _ => .ok v
  | none, true => .error (.unboundName attr)
  | none, false => .error (w.noStore n)

/-- The child of a node at a position.  Negative positions count from the end. -/
def child (w : World) (n : Node) (position : Int) : Except Failure Value :=
  match w.forest.child? n position with
  | some c => .ok (.ofNode c)
  | none =>
    if -positionLimit ≤ position ∧ position < positionLimit then .error .noSuchItem
    else .error .hugePosition

/-- The value that a declared property has on a node. -/
def compute (w : World) (n : Node) : Property → Except Failure Value
  | .constant t => w.evaluate t
  | .child position => w.child n position
  | .childOrNothing position =>
    if position < (w.forest.children n).length then w.child n position else .ok .nothing
  | .stored attr => w.entry n attr
  | .synonym attr => w.stored n attr
  | .children => .ok (.ofNodes (w.forest.children n))
  | .parent => .ok (.ofNode (w.forest.parent n))
  | .failing f => .error f

/-- The attribute that names the parts of a node. -/
def partsAttribute : String := "_fields"

/-- The names of the parts that the type of a node gives it, as an attribute. -/
def typeAttribute? (w : World) (n : Node) (attr : String) : Option Value :=
  if attr = partsAttribute then
    (w.hierarchy.parts? (w.typeOf n)).map fun names => .tuple (names.map .text)
  else none

/-- The attribute that is the type of a node. -/
def classAttribute : String := "__class__"

/-- The attribute that is the table of what a node stores. -/
def tableAttribute : String := "__dict__"

/-- What every node tells of itself, whatever it stores. -/
def ownAttribute? (w : World) (n : Node) (attr : String) : Option Value :=
  if attr = classAttribute then some (.type (w.typeOf n))
  else if attr = tableAttribute && w.storesAttributes n then some (.formless .mapping)
  else none

/-- What reading an attribute of a node gives. -/
def read (w : World) (n : Node) (attr : String) : Except Failure Value :=
  match w.hierarchy.property? (w.typeOf n) attr, w.ownAttribute? n attr, w.stored n attr with
  | some p, _, _ => w.compute n p
  | none, some v, _ => .ok v
  | none, none, .ok v => .ok v
  | none, none, .error f =>
    match w.typeAttribute? n attr with
    | some v => .ok v
    | none => .error f

/-- What reading an attribute gives where a missing one counts as nothing. -/
def readOrNothing (w : World) (n : Node) (attr : String) : Except Failure Value :=
  match w.read n attr with
  | .error f => if f.kind = .attr then .ok .nothing else .error f
  | .ok v => .ok v

/-- The name that a stored attribute of a node is, if it is a text. -/
def storedName? (w : World) (n : Node) (attr : String) : Option Name :=
  ((w.forest.attributes n).lookup attr).bind (Value.name? w.hierarchy)

/-- The name under which a node stores an attribute: a synonym stands for another one. -/
def storageName (w : World) (n : Node) (attr : String) : String :=
  match w.hierarchy.property? (w.typeOf n) attr with
  | some (.synonym name) => name
  | _ => attr

/-! ## Values item by item -/

/-- A value as whoever goes through its items finds it: a node that is a sequence is that list or tuple. -/
def opened (w : World) : Value → Value
  | .node number => ((w.forest.sequence? (.object number)).map Sequence.value).getD (.node number)
  | v => v

/-- The type of a value as failures to read attributes mention it. -/
def mentionOfValue (w : World) : Value → String
  | .nothing => w.hierarchy.name .absence
  | .bool _ => "bool"
  | .int _ => "int"
  | .float _ => "float"
  | .text _ => "str"
  | .member _ family _ _ => w.hierarchy.name family
  | .type t => if (w.hierarchy.info t).members.isSome then "EnumType" else "type"
  | .node number => w.mentionOf (.object number)
  | .list _ => "list"
  | .tuple _ => "tuple"
  | .formless .object => "object"
  | .formless (.bytes _) => "bytes"
  | .formless .mapping => "dict"
  | .formless .complex => "complex"
  | .formless .ellipsis => "ellipsis"

/-- What a value yields one by one; an enumeration yields its members. -/
def elements (w : World) (v : Value) : Except Failure (List Value) :=
  let found := match v with
    | .type t => (w.hierarchy.info t).distinctMembers
    | v => (w.opened v).elements?
  match found with
  | some items => .ok items
  | none => .error (.notIterable (w.mentionOfValue v))

/-! ## Named parts -/

/-- The node with parts that a value is, if it is one. -/
def asPart? (w : World) (v : Value) : Option Node :=
  v.asObject?.filter fun n => w.hierarchy.hasParts (w.typeOf n)

/-- The names of the parts of a node, which not every node has.  They may be any values. -/
def partNames (w : World) (n : Node) : Except Failure (List Value) := do
  w.elements (← w.read n partsAttribute)

/-- The nodes that a value holds as a part: the value itself, or else the items of a list. -/
def partsOf (w : World) (v : Value) : List Node :=
  match w.asPart? v, w.opened v with
  | some n, _ => [n]
  | none, .list items => items.filterMap w.asPart?
  | none, _ => []

/-- The nodes that one part holds, given its name, which must be a text. -/
def partNodes (w : World) (n : Node) (part : Value) : Except Failure (List Node) := do
  match part.text? with
  | none => .error (.notAName (w.mentionOfValue part))
  | some attr => return w.partsOf (← w.readOrNothing n attr)

/-- The nodes that several named parts hold, in order.  The first failure counts. -/
def partsNodes (w : World) (n : Node) : List Value → Except Failure (List Node)
  | [] => .ok []
  | part :: more => do
    let nodes ← w.partNodes n part
    return nodes ++ (← w.partsNodes n more)

/-- All nodes that the named parts of a node hold, in the order of the parts. -/
def askParts (w : World) (n : Node) : Except Failure (List Node) := do
  w.partsNodes n (← w.partNames n)

/-- All nodes that the named parts of a node hold; none if the parts cannot be read. -/
def parts (w : World) (n : Node) : List Node :=
  match w.askParts n with
  | .ok nodes => nodes
  | .error _ => []

/-- Why the parts of a node cannot be read. -/
def partsRefusal (w : World) (n : Node) : Option Failure :=
  match w.askParts n with
  | .ok _ => none
  | .error f => some f

/-- The nodes in the parts of a node that are its children: all but the shared ones. -/
def partChildren (w : World) (n : Node) : List Node :=
  (w.parts n).filter fun c => !w.hierarchy.isShared (w.typeOf c)

/-! ## Claimed types -/

/-- What a property that a node's type declares gives for one of the attributes about the node. -/
def declared? (w : World) (n : Node) (attr : String) : Option (Except Failure Value) :=
  (w.hierarchy.property? (w.typeOf n) attr).map (w.compute n)

/-- Whether a node counts as an instance of a type: by its own type, or by the one that it claims. -/
def countsAs (w : World) (n : Node) (t : NodeType) : Bool :=
  w.isInstance n t || match w.declared? n classAttribute with
    | some (.ok (.type u)) => w.hierarchy.isSubtype u t
    | _ => false

/-- Why it cannot be told whether a node counts as an instance of a type: its own type does not settle
it, and the claim fails.  A missing claim is none. -/
def claimRefusal (w : World) (n : Node) (t : NodeType) : Option Failure :=
  match w.isInstance n t, w.declared? n classAttribute with
  | false, some (.error f) => if f.kind = .attr then none else some f
  | _, _ => none

theorem claimRefusal_of_declared_none {w : World} {n : Node}
    (h : w.declared? n classAttribute = none) (t : NodeType) : w.claimRefusal n t = none := by
  simp only [claimRefusal, h]
  split <;> simp_all

/-! ## Tables of stored attributes -/

/-- The failure of whoever asks a value for its entries, where only a table has some. -/
def noEntries (w : World) : Value → Failure
  | .type t =>
    if (w.hierarchy.info t).members.isSome then .raised .attr "items" none none
    else .noTypeAttribute (w.hierarchy.mention t) "items"
  | v => .noAttribute (w.mentionOfValue v) "items"

/-- The stored attributes in the table of a node.  A table that a property gives holds nothing, and one
that is missing counts as empty. -/
def table (w : World) (n : Node) : Except Failure Table :=
  match w.declared? n tableAttribute with
  | none => .ok (w.forest.attributes n)
  | some (.ok (.formless .mapping)) => .ok .empty
  | some (.ok v) => .error (w.noEntries v)
  | some (.error f) => if f.kind = .attr then .ok .empty else .error f

/-- Why the table of a node cannot be read. -/
def tableRefusal (w : World) (n : Node) : Option Failure :=
  match w.table n with
  | .ok _ => none
  | .error f => some f

/-- Why no attribute of a node can be set.  Nodes with parts store attributes without their table. -/
def settingRefusal (w : World) (n : Node) : Option Failure :=
  if w.hierarchy.hasParts (w.typeOf n) then none
  else match w.declared? n tableAttribute with
    | none => if w.storesAttributes n then none else some (w.noStore n)
    | some (.ok v) => match w.opened v with
      | .formless .mapping => none
      | .list _ => some (.notAPosition "str")
      | _ => some (.notAssignable (w.mentionOfValue v))
    | some (.error f) => some f

/-- Whether what is set on a node is kept: a table that a property gives is made anew each time. -/
def keepsAttributes (w : World) (n : Node) : Bool :=
  w.hierarchy.hasParts (w.typeOf n) || (w.declared? n tableAttribute).isNone

/-- Sets an attribute of a node. -/
def setAttribute (w : World) (n : Node) (attr : String) (v : Value) : World :=
  if w.keepsAttributes n then
    { w with forest := w.forest.setAttribute n (w.storageName n attr) v }
  else w

/-! ## Registered trees -/

/-- The nodes reached from a node through parts, breadth first, shared ones included. -/
def below (w : World) (root : Node) : List Node := breadthFirst w.parts (w.forest.size + 1) [root]

/-- The nodes reached before one whose parts cannot be read. -/
def reached (w : World) (root : Node) : List Node :=
  (w.below root).takeWhile fun n => (w.partsRefusal n).isNone

/-- Why not all nodes below a root can be reached. -/
def reachRefusal (w : World) (root : Node) : Option Failure :=
  (w.below root).findSome? w.partsRefusal

/-- Registers a tree of nodes with parts, as far as it can be reached. -/
def register (w : World) (name : String) (root : Node) : World :=
  w.setRegistry name ((w.registry name).register w.partChildren (w.reached root) root)

/-- Unregisters a tree, as far as it can be reached. -/
def unregister (w : World) (name : String) (root : Node) : World :=
  w.setRegistry name ((w.registry name).unregister (w.reached root) root)

def isRegistered (w : World) (name : String) (root : Node) : Bool :=
  (w.registry name).roots.contains root

/-- Forgets every registered tree. -/
def clearRegistry (w : World) (name : String) : World := w.setRegistry name .empty

end World

end TreeShape
