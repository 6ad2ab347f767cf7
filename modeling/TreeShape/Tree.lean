import TreeShape.View.Basic

/-!
# Finite trees

The part of a view that lies below a node, cut off after a number of steps.  Printing and walking
down are recursions on such trees.  A tree keeps the nodes at its places, so one node may stand at
several of them.

Some walks skip children: they see the child and nothing below it.  A walk says so by a predicate on
the depth of the parent, the parent and the child.  Where one node is shared by many, this can make a small
tree of a huge one.
-/

namespace TreeShape

/-- A node with the trees below it. -/
inductive Tree where
  | branch (root : Node) (subtrees : List Tree)
  deriving Repr, Inhabited

namespace Tree

def root : Tree → Node
  | branch n _ => n

def subtrees : Tree → List Tree
  | branch _ ts => ts

mutual

/-- The nodes of a tree, each before those below it. -/
def preorder : Tree → List Node
  | branch n ts => n :: preorderAll ts

def preorderAll : List Tree → List Node
  | [] => []
  | t :: ts => preorder t ++ preorderAll ts

end

/-- The nodes strictly below the root, in the same order. -/
def descendants (t : Tree) : List Node := preorderAll t.subtrees

end Tree

namespace View

/-- The tree below a node, cut off after a number of steps. -/
def tree (v : View) : Nat → Node → Tree
  | 0, n => .branch n []
  | steps + 1, n => .branch n ((v.children n).map (v.tree steps))

@[simp] theorem root_tree (v : View) (steps : Nat) (n : Node) : (v.tree steps n).root = n := by
  cases steps <;> rfl

/-- The whole tree below a node, for trees no higher than the view's height. -/
def whole (v : View) (n : Node) : Tree := v.tree v.height n

/-- The tree below a node at a depth, cut off after a number of steps and below every child that is
skipped. -/
def pruned (v : View) (skips : Nat → Node → Node → Bool) : Nat → Nat → Node → Tree
  | _, 0, n => .branch n []
  | depth, steps + 1, n =>
    .branch n ((v.children n).map fun c =>
      if skips depth n c then .branch c [] else v.pruned skips (depth + 1) steps c)

@[simp] theorem root_pruned (v : View) (skips : Nat → Node → Node → Bool) (depth steps : Nat) (n : Node) :
    (v.pruned skips depth steps n).root = n := by
  cases steps <;> rfl

/-- A walk that skips no child. -/
def skipsNone : Nat → Node → Node → Bool := fun _ _ _ => false

/-- The first refusal in the walk to the nodes at most a number of steps below a node at a depth, in
preorder, leaving out the children that are skipped and all below them.  Each node has a refusal of its own
first; nodes less than that many steps below are then asked for their children. -/
def refusalWithin (v : View) (own : Node → Option Failure) (skips : Nat → Node → Node → Bool) :
    Nat → Nat → Node → Option Failure
  | _, 0, n => own n
  | depth, steps + 1, n =>
    (own n).or ((v.refusal n).or ((v.children n).findSome? fun c =>
      if skips depth n c then none else v.refusalWithin own skips (depth + 1) steps c))

/-- Walks to all nodes at most a number of steps below a node, leaving out those that are skipped and
all below them, and fails with the first refusal. -/
def askWithin (v : View) (own : Node → Option Failure) (skips : Nat → Node → Node → Bool) (steps : Nat)
    (n : Node) : Except Failure Unit :=
  match v.refusalWithin own skips 0 steps n with
  | none => .ok ()
  | some f => .error f

/-- A walk on which no node has a refusal of its own. -/
def refusesNothing : Node → Option Failure := fun _ => none

end View

end TreeShape
