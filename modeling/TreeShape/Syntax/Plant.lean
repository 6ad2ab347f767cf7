import TreeShape.Syntax.Kinds
import TreeShape.Syntax.Source
import TreeShape.View.Navigation
import TreeShape.Adapter

/-!
# Planting nodes of syntax

New nodes of syntax in a world: those of a parsed source, with the parts that its kinds name, and those
that a program writes in place as the value of an attribute.
-/

namespace TreeShape

/-- Adds a node of a kind with the given parts. -/
def World.plant (w : World) (type : NodeType) (tag : Option String)
    (parts : List (String × Value)) : World × Node :=
  ({ w with forest := w.forest.add { type := type, attributes := .ofEntries parts, tag := tag } },
    w.forest.fresh)

namespace Syntax

/-! ## Nodes written in place -/

/-- What a program writes as the value of an attribute: a term, a node of syntax with its parts, or a
list of such. -/
inductive Sprout where
  | term (t : Term)
  | list (items : List Sprout)
  | node (type : TypeName) (tag : Option String) (names : List String) (parts : List Sprout)
  deriving Repr, Inhabited

/-- A world in which nodes are made, which may fail. -/
abbrev Growing := StateT World (Except Failure)

/-- Sets several attributes of a node. -/
def setAttributes (n : Node) (attributes : List (String × Value)) (w : World) : World :=
  attributes.foldl (fun w a => w.setAttribute n a.1 a.2) w

namespace Sprout

mutual

/-- The value of what is written.  A node whose tag is taken already is the node of that tag. -/
def grow : Sprout → Growing Value
  | .term t => do liftM ((← get).evaluate t)
  | .list items => do return .list (← growAll items)
  | .node type tag names parts => do
    match tag.bind (← get).forest.find? with
    | some n => return .ofNode n
    | none =>
      let w ← get
      let (planted, n) := w.plant (← liftM (w.typeNamed type)) tag []
      set planted
      let values ← growAll parts
      modify (setAttributes n (names.zip values))
      return .ofNode n

def growAll : List Sprout → Growing (List Value)
  | [] => return []
  | s :: ss => do
    let v ← grow s
    return v :: (← growAll ss)

end

end Sprout

/-! ## Sources -/

/-- A world in which the nodes of a source are made. -/
abbrev Planting := StateM World

def plantNode (kind : String) (parts : List (String × Value)) : Planting Value := do
  let w ← get
  let (planted, n) := w.plant ((w.hierarchy.find? (.kind kind)).getD .anything) none parts
  set planted
  return .ofNode n

/-- The attributes that say where something stands on a line. -/
def placeAttributes (line : Nat) (span : Span) : List (String × Value) :=
  [("lineno", .int line), ("col_offset", .int span.start), ("end_lineno", .int line),
   ("end_col_offset", .int span.stop)]

def plantPlaced (line : Nat) (span : Span) (kind : String) (parts : List (String × Value)) :
    Planting Value :=
  plantNode kind (parts ++ placeAttributes line span)

def Operator.kind : Operator → String
  | add => "Add"
  | subtract => "Sub"
  | multiply => "Mult"

def WordConstant.value : WordConstant → Value
  | nothing => .nothing
  | truth b => .bool b

/-- Plants a name that is read or assigned to. -/
def plantName (line : Nat) (span : Span) (text context : String) : Planting Value := do
  let ctx ← plantNode context []
  plantPlaced line span "Name" [("id", .text text), ("ctx", ctx)]

def plantConstant (line : Nat) (span : Span) (v : Value) : Planting Value :=
  plantPlaced line span "Constant" [("value", v), ("kind", .nothing)]

def plantAtom (line : Nat) (span : Span) : Atom → Planting Value
  | .name text => plantName line span text "Load"
  | .number value => plantConstant line span (.int value)
  | .word c => plantConstant line span c.value

def plantExpression (line : Nat) : Expression → Planting Value
  | .atom a span => plantAtom line span a
  | .binary left op right => do
    let l ← plantExpression line left
    let o ← plantNode op.kind []
    let r ← plantExpression line right
    plantPlaced line (left.span.to right.span) "BinOp" [("left", l), ("op", o), ("right", r)]

/-- Plants a statement, which is an expression by itself if it has no targets. -/
def plantStatement (line : Nat) (s : Statement) : Planting Value := do
  let targets ← s.targets.mapM fun t => plantName line t.span t.text "Store"
  let v ← plantExpression line s.value
  match targets with
  | [] => plantPlaced line s.span "Expr" [("value", v)]
  | targets =>
    plantPlaced line s.span "Assign"
      [("targets", .list targets), ("value", v), ("type_comment", .nothing)]

/-- Plants a source, either as a single expression or as a list of statements. -/
def plantSource (source : String) (single : Bool) : Option (Planting Value) := do
  match ← statements? source, single with
  | [(line, ⟨[], e⟩)], true => some do
    let v ← plantExpression line e
    plantNode "Expression" [("body", v)]
  | _, true => none
  | statements, false => some do
    let body ← statements.mapM fun s => plantStatement s.1 s.2
    plantNode "Module" [("body", .list body), ("type_ignores", .list [])]

/-- Calls the nodes of a list by a common beginning and their numbers in the list. -/
def tagAll (forest : Forest) (beginning : String) (nodes : List Node) : Forest :=
  nodes.zipIdx.foldl (fun f item => f.setTag item.1 (beginning ++ toString item.2)) forest

end Syntax

namespace World

/-- Plants a source and registers its tree with an adapter.  Its nodes are called by a common beginning
and their numbers in preorder. -/
def parse (w : World) (registry : String) (source : String) (single : Bool) (beginning : String) :
    Option (World × Node) :=
  (Syntax.plantSource source single).map fun planting =>
    let (v, planted) := planting.run w
    let root := (v.asNode?).getD .absent
    let registered := planted.register registry root
    let nodes := ((Adapter.registered registry {}).view registered).descendantsOrSelf root none
    ({ registered with forest := Syntax.tagAll registered.forest beginning nodes }, root)

end World

end TreeShape
