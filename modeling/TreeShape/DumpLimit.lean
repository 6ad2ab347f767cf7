import TreeShape.Tree

/-!
# Limits of dumps

How many steps below its root a dump goes.  No limit, or a negative one, means the whole tree; the limit
zero means the root alone.  The limit of a child is one less than its parent's; a negative limit is none
for the children.

`levels` is how many steps a printer goes down in a view, and `reach` how many it has to see, which is
one more for printers that tell whether there is anything below the limit.
-/

namespace TreeShape

/-- A limit on the depth of a dump. -/
abbrev DumpLimit := Option Int

namespace DumpLimit

/-- Whether nothing below the current node is dumped. -/
def isExhausted (limit : DumpLimit) : Bool := limit == some 0

/-- The limit of the children of the current node. -/
def below : DumpLimit → DumpLimit
  | none => none
  | some d => if d < 0 then none else some (d - 1)

/-- How many steps down a dump with the limit shows. -/
def levels (height : Nat) : DumpLimit → Nat
  | none => height
  | some d => if d < 0 then height else d.toNat

/-- How many steps down a dump with the limit has to look: one more than it shows, for the number of
children that it hides. -/
def reach (height : Nat) : DumpLimit → Nat
  | none => height
  | some d => if d < 0 then height else d.toNat + 1

end DumpLimit

/-- The part of the tree below a node that a dump with the limit depends on. -/
def View.visible (v : View) (limit : DumpLimit) (n : Node) : Tree := v.tree (limit.reach v.height) n

end TreeShape
