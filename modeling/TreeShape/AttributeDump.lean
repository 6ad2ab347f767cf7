import TreeShape.Transcript
import TreeShape.Value.Literal
import TreeShape.World

/-!
# Dumps of attributes

A transcript that also asserts what the attributes of the nodes are.  The attributes of a node are the
stored ones and the properties that its own type declares, in the order of their names.

An attribute whose value has a literal becomes an assertion.  An attribute that is a child, or a list or
a tuple with a child among its items, becomes the holder of that child; if several do, the first by name
holds it, and within one of them the first item.  A child is known by being the same object.

A value that is a list or a tuple is gone through item by item and is not itself compared with the
children, even if it is a node.  A property that fails is passed over, but what is stored under its name
has been gathered by then.
-/

namespace TreeShape.AttributeDump

/-- Which attributes are dumped, and how. -/
structure Selection where
  takes : Node → String → Bool
  /-- The literal of a value, if it has one. -/
  literal : Value → Option String
  /-- The assertion about an attribute, given the cursor, the name, the value and its literal. -/
  assertion : String → String → Value → String → String

/-- The stored attributes in the table of a node; none if it cannot be read. -/
def shown (w : World) (n : Node) : Table :=
  match w.table n with
  | .ok t => t
  | .error _ => .empty

/-- The stored attributes, with the readable properties of the node's own type put over them. -/
def gathered (w : World) (n : Node) : Table :=
  (w.hierarchy.info (w.typeOf n)).properties.foldl
    (fun t p => match w.read n p.1 with
      | .ok v => t.put p.1 v
      | .error _ => t)
    (shown w n)

/-- The attributes of a node that are dumped, sorted by name. -/
def attributesOf (s : Selection) (w : World) (n : Node) : List (String × Value) :=
  ((gathered w n).entries.filter fun e => s.takes n e.1).mergeSort fun a b => a.1 ≤ b.1

/-- The assertions about the attributes of a node. -/
def assertions (s : Selection) (w : World) (n : Node) (cursor : String) : List String :=
  (attributesOf s w n).filterMap fun e =>
    (s.literal e.2).map fun literal => s.assertion cursor e.1 e.2 literal

/-- The places that an attribute reaches, each with its access: the value itself, or the items of a
sequence.  The items alone are reached even if the sequence is a node. -/
def accesses (w : World) (name : String) (v : Value) : List (Value × String) :=
  match (w.opened v).items? with
  | none => [(v, name)]
  | some items => items.zipIdx.map fun item => (item.1, name ++ "[" ++ toString item.2 ++ "]")

/-- The child that an access holds, by the first position of that child. -/
def held (children : List Node) (access : Value × String) : Option (Int × String) :=
  access.1.asNode?.bind fun n => (View.position? children n).map fun i => ((i : Int), access.2)

/-- The accesses that hold children, by position.  The first access of a position counts. -/
def holders (s : Selection) (w : World) (children : List Node) (n : Node) : List (Int × String) :=
  ((attributesOf s w n).flatMap fun e => accesses w e.1 e.2).filterMap (held children)
    |>.foldl (fun found h => if found.any (·.1 == h.1) then found else found ++ [h]) []

/-! ## The usual selection -/

def isPublic (name : String) : Bool := name.toList.head? != some '_'

/-- Asserts that an attribute has a value; nothing and truth values are compared by identity. -/
def plainAssertion (cursor name : String) (v : Value) (literal : String) : String :=
  "assert " ++ cursor ++ ".node." ++ name ++ (if v.isIdentified then " is " else " == ") ++ literal

/-- All public attributes, with the literals of their values. -/
def plain (h : Hierarchy) : Selection where
  takes _ name := isPublic name
  literal := Value.literal? h
  assertion := plainAssertion

/-- The plain transcript with assertions and holders from the attributes. -/
def style (s : Selection) (w : World) (v : View) (base : Transcript.Style) : Transcript.Style :=
  { base with
    refusal := w.tableRefusal
    assertions := assertions s w
    holders := fun n => holders s w (v.children n) n }

end TreeShape.AttributeDump
