import TreeShape.Tree

/-!
# Navigation

Walks in a view: down in preorder, up along the parents, and sideways among the children of the parent.
A walk can be asked for a number of items only, which also makes sense where the whole walk would have
no end.

A walk without a number goes as far as the view is high, which is no restriction where the tree is
finite and the parents are the right ones.  Siblings are those next to the node in the child list of its
parent; a parent need not list the node, and then there is no place to start from.
-/

namespace TreeShape.View

/-! ## Down -/

/-- The first nodes, at most `count`, of the preorder below the listed nodes, these included. -/
def preorder (v : View) : Nat → List Node → List Node
  | 0, _ => []
  | _ + 1, [] => []
  | count + 1, n :: rest => n :: preorder v count (v.children n ++ rest)

/-- The descendants of a node: all of them, or the first few. -/
def descendants (v : View) (n : Node) : Option Nat → List Node
  | none => (v.whole n).descendants
  | some count => v.preorder count (v.children n)

/-- The node, then its descendants. -/
def descendantsOrSelf (v : View) (n : Node) : Option Nat → List Node
  | none => (v.whole n).preorder
  | some count => v.preorder count [n]

/-! ## Up -/

/-- The first ancestors, at most `count`, of a node: its parent, the parent of that, and so on. -/
def climb (v : View) : Nat → Node → List Node
  | 0, _ => []
  | count + 1, n => match v.parent n with
    | .absent => []
    | p => p :: climb v count p

/-- The ancestors of a node: all of them, or the first few. -/
def ancestors (v : View) (n : Node) (count : Option Nat) : List Node :=
  v.climb (count.getD v.height) n

def ancestorsOrSelf (v : View) (n : Node) : Option Nat → List Node
  | none => n :: v.ancestors n none
  | some 0 => []
  | some (count + 1) => n :: v.ancestors n (some count)

/-- Goes up from a place, for a bounded number of steps, and counts the nodes that it passes. -/
def countUp (v : View) : Nat → Nat → Node → Nat
  | 0, depth, _ => depth
  | _ + 1, depth, .absent => depth
  | steps + 1, depth, n => v.countUp steps (depth + 1) (v.parent n)

/-- The depth of a node: how many nodes are passed on the way up from its parent. -/
def depth (v : View) (n : Node) : Nat := v.countUp v.height 0 (v.parent n)

/-! ## Sideways -/

/-- The first position of a node among the children of its parent. -/
def childIndex? (v : View) (n : Node) : Option Nat :=
  match v.parent n with
  | .absent => none
  | p => position? (v.children p) n

/-- The siblings after a node, nearest first.  A node that its parent does not list counts as standing
before all children. -/
def followingSiblings (v : View) (n : Node) : List Node :=
  match v.parent n with
  | .absent => []
  | p => match v.childIndex? n with
    | none => v.children p
    | some i => (v.children p).drop (i + 1)

/-- The siblings before a node, nearest first. -/
def precedingSiblings (v : View) (n : Node) : List Node :=
  match v.parent n with
  | .absent => []
  | p => match v.childIndex? n with
    | none => []
    | some i => ((v.children p).take i).reverse

/-- The nearest sibling after a node; an empty place if there is none. -/
def nextSibling (v : View) (n : Node) : Node := (v.followingSiblings n).headD .absent

/-- The nearest sibling before a node; an empty place if there is none. -/
def previousSibling (v : View) (n : Node) : Node := (v.precedingSiblings n).headD .absent

/-- The parent of a node, if there is one, as the node that its siblings are asked of. -/
def siblingSource (v : View) (n : Node) : List Node :=
  match v.parent n with
  | .absent => []
  | p => [p]

/-! ## Walks -/

/-- The walks from a node. -/
inductive Walk where
  | descendants
  | descendantsOrSelf
  | ancestors
  | ancestorsOrSelf
  | followingSiblings
  | precedingSiblings
  deriving DecidableEq, Repr

def firstFew (count : Option Nat) (nodes : List Node) : List Node :=
  match count with
  | none => nodes
  | some k => nodes.take k

/-- The nodes of a walk, all or the first few. -/
def walk (v : View) (n : Node) (count : Option Nat) : Walk → List Node
  | .descendants => v.descendants n count
  | .descendantsOrSelf => v.descendantsOrSelf n count
  | .ancestors => v.ancestors n count
  | .ancestorsOrSelf => v.ancestorsOrSelf n count
  | .followingSiblings => firstFew count (v.followingSiblings n)
  | .precedingSiblings => firstFew count (v.precedingSiblings n)

/-- The nodes that a walk asks for their children, in order.  The first item of a walk down is found
without asking it, and so is each later one: the last item wanted is never asked. -/
def askedBy (v : View) (n : Node) : Option Nat → Walk → List Node
  | none, .descendants => v.descendantsOrSelf n none
  | some (k + 1), .descendants => n :: (v.descendants n (some (k + 1))).take k
  | none, .descendantsOrSelf => v.descendantsOrSelf n none
  | some (k + 1), .descendantsOrSelf => (v.descendantsOrSelf n (some (k + 1))).take k
  | none, .followingSiblings => v.siblingSource n
  | some (_ + 1), .followingSiblings => v.siblingSource n
  | none, .precedingSiblings => v.siblingSource n
  | some (_ + 1), .precedingSiblings => v.siblingSource n
  | _, _ => []

end TreeShape.View
