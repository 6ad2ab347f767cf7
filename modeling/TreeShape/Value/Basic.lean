import TreeShape.Decimal.Binary64
import TreeShape.Name

/-!
# Values

What the attributes of nodes hold and what scripts return.  A value may be a node, so values tie the
nodes of a forest together beside the child lists.

The kinds of values are those that are told apart anywhere: by how they are written, by what they are
equal to, and by whether they have items.  `Formless` gathers the rest.
-/

namespace TreeShape

/-- What the members of an enumeration are besides members. -/
inductive EnumKind where
  | plain
  | integer
  | float
  | text
  deriving DecidableEq, Repr

/-- Values that have no literal. -/
inductive Formless where
  | object
  | bytes (content : List Nat)
  | mapping
  | complex
  | ellipsis
  deriving DecidableEq, Repr

/-- A value of an attribute. -/
inductive Value where
  | nothing
  | bool (b : Bool)
  | int (i : Int)
  | float (x : Binary64)
  | text (s : String)
  | member (kind : EnumKind) (family : NodeType) (name : String) (content : Value)
  | type (t : NodeType)
  | node (number : Nat)
  | list (items : List Value)
  | tuple (items : List Value)
  | formless (form : Formless)
  deriving Repr, Inhabited

namespace Value

/-- What stands at a place of a tree, as a value. -/
def ofNode : Node → Value
  | .absent => .nothing
  | .object number => .node number

/-- The place of a tree that a value is, if it is one. -/
def asNode? : Value → Option Node
  | .nothing => some .absent
  | .node number => some (.object number)
  | _ => none

@[simp] theorem asNode?_ofNode (n : Node) : (ofNode n).asNode? = some n := by
  cases n <;> rfl

/-- The object that a value is, if it is one. -/
def asObject? (v : Value) : Option Node :=
  match v with
  | .node number => some (.object number)
  | _ => none

/-- The items of a list or of a tuple. -/
def items? : Value → Option (List Value)
  | .list items => some items
  | .tuple items => some items
  | _ => none

def ofNodes (nodes : List Node) : Value := .list (nodes.map ofNode)

/-- The text that a value is, if it is one. -/
def text? : Value → Option String
  | .text s => some s
  | .member .text _ _ (.text s) => some s
  | _ => none

/-- The float that a value is, if it is one. -/
def float? : Value → Option Binary64
  | .float x => some x
  | .member .float _ _ (.float x) => some x
  | _ => none

/-- What a value yields one by one: the items of a sequence, the characters of a text, the numbers of
bytes. -/
def elements? : Value → Option (List Value)
  | .list items => some items
  | .tuple items => some items
  | .text s => some (s.toList.map fun c => .text (String.singleton c))
  | .member .text _ _ (.text s) => some (s.toList.map fun c => .text (String.singleton c))
  | .formless (.bytes content) => some (content.map fun b => .int (Int.ofNat b))
  | .formless .mapping => some []
  | _ => none

/-- The value that a name is. -/
def ofName (name : Name) : Value :=
  match name.member with
  | none => .text name.text
  | some m => .member .text m.family m.member (.text name.text)

end Value

/-- A list or a tuple that is an object of its own. -/
inductive Sequence where
  | list (items : List Value)
  | tuple (items : List Value)
  deriving Repr

/-- A sequence without the object that it is. -/
def Sequence.value : Sequence → Value
  | .list items => .list items
  | .tuple items => .tuple items

end TreeShape
