import TreeShape.Printer.Hooks
import TreeShape.Trace
import TreeShape.View.Navigation

/-!
# Questions

What can be asked about trees without matching them: navigation, dumps, attributes and literals.  A
question refers to nodes by what their owner calls them.
-/

namespace TreeShape

inductive NodeQuestion where
  | children
  | childCount
  | childAt (position : Int)
  | isLeaf
  | parent
  | hasParentLink
  | childIndex
  | depth
  /-- All items of a walk, or the first few. -/
  | walk (w : View.Walk) (count : Option Int)
  | nextSibling
  | previousSibling
  | name
  deriving DecidableEq, Repr

/-- Whether a question asks for a number of items that a list can have. -/
def NodeQuestion.isSensible : NodeQuestion → Bool
  | .walk _ (some count) => 0 ≤ count && count < positionLimit
  | _ => true

namespace View

/-- The nodes that a question asks for their children, in order. -/
def askedFor (v : View) (n : Node) : NodeQuestion → List Node
  | .children | .childCount | .childAt _ | .isLeaf => [n]
  | .childIndex | .nextSibling | .previousSibling => v.siblingSource n
  | .walk w count => v.askedBy n (count.map Int.toNat) w
  | .parent | .hasParentLink | .depth | .name => []

/-- The answer to a question about a node if all nodes tell their children.  A node without position has
index `-1`. -/
def plainAnswer (v : View) (n : Node) : NodeQuestion → Value
  | .children => .ofNodes (v.children n)
  | .childCount => .int (v.childCount n)
  | .childAt position => .ofNode (v.childAt n position)
  | .isLeaf => .bool (v.isLeaf n)
  | .parent => .ofNode (v.parent n)
  | .hasParentLink => .bool (v.hasParentLink n)
  | .childIndex => .int (((v.childIndex? n).map Int.ofNat).getD (-1))
  | .depth => .int (v.depth n)
  | .walk w count => .ofNodes (v.walk n (count.map Int.toNat) w)
  | .nextSibling => .ofNode (v.nextSibling n)
  | .previousSibling => .ofNode (v.previousSibling n)
  | .name => .ofName (v.nodeName n)

/-- The answer to a question about a node.  It fails with the first refusal of a node that is asked. -/
def answer (v : View) (n : Node) (q : NodeQuestion) : Except Failure Value :=
  if q.isSensible then (v.askAll (v.askedFor n q)).map fun _ => v.plainAnswer n q
  else .error .badCount

end View

inductive Question where
  | node (adapter : Adapter) (n : NodeRef) (q : NodeQuestion)
  | knowsParents (adapter : Adapter)
  | typeName (adapter : Adapter) (t : TypeName)
  /-- The dumps of a node, one for each limit. -/
  | dumps (printer : Printer) (n : NodeRef) (ds : List DumpLimit)
  /-- The attributes that a printer of attributes dumps, the assertions it makes about the node of the
  cursor `it`, and the holders of the node's children. -/
  | attributes (adapter : Adapter) (hooks : TranscriptHooks) (selection : SelectionHooks)
      (n : NodeRef)
  /-- The literal of each value, and the assertion that the attribute `a` of the node of `it` has it. -/
  | literals (values : List Term)
  /-- Whether each limit is exhausted, and the limit below it. -/
  | limits (ds : List DumpLimit)
  | roots (registry : String)

namespace Question

def optionalText (text : Option String) : Value := (text.map Value.text).getD .nothing

/-- The literal of a value with the assertion that uses it. -/
def literalPair (h : Hierarchy) (v : Value) : Value :=
  let selection := AttributeDump.plain h
  let literal := selection.literal v
  .list [optionalText literal, optionalText (literal.map (selection.assertion "it" "a" v))]

/-- What a printer of attributes makes of a node.  The table of the node comes first; the node is asked
for its children unless the holders are given. -/
def attributeSummary (w : World) (adapter : Adapter) (hooks : TranscriptHooks)
    (selection : SelectionHooks) (n : Node) : Except Failure Value := do
  let style := attributeStyle hooks selection adapter w
  if let some f := style.refusal n then throw f
  if hooks.holders.isNone then (adapter.view w).askAll [n]
  let names := (AttributeDump.attributesOf (selection.selection w.hierarchy) w n).map (·.1)
  let holders := (style.holders n).mergeSort fun a b => a.1 ≤ b.1
  return .list [
    .list (names.map .text),
    .list ((style.assertions n "it").map .text),
    .list (holders.map fun h => .list [.int h.1, .text h.2])]

/-- The dumps of a node, one for each limit.  The node is looked up for each of them, so that without
limits it need not exist.  The first failure counts. -/
def dumpsAt (printer : Printer) (w : World) (n : NodeRef) :
    List DumpLimit → Except Failure (List Value)
  | [] => .ok []
  | limit :: more => do
    let text ← printer.render w (← w.resolve n) limit
    return .text text :: (← dumpsAt printer w n more)

def answer (w : World) : Question → Except Failure Answer
  | node adapter n q => do return .value (← (adapter.view w).answer (← w.resolve n) q)
  | knowsParents adapter => .ok (.value (.bool (adapter.view w).knowsParents))
  | typeName adapter t => do
    return .value (.text ((adapter.view w).typeName (← w.typeNamed t)))
  | dumps printer n ds => do return .value (.list (← dumpsAt printer w n ds))
  | attributes adapter hooks selection n => do
    return .value (← attributeSummary w adapter hooks selection (← w.resolve n))
  | literals values => do
    return .value (.list ((← w.evaluateAll values).map (literalPair w.hierarchy)))
  | limits ds => .ok (.limits (ds.map fun limit => (limit.isExhausted, limit.below)))
  | roots registry => .ok (.value (.ofNodes (w.registry registry).roots))

end Question

end TreeShape
