import TreeShape.Node

/-!
# Registries of parent links

Nodes that do not know their parents can be looked up in a registry.  Registering a tree records the
parent of every node reached from its root; unregistering forgets the links of the nodes reached. Both
go through the tree breadth first, visiting a node once for each way that leads to it.

A link belongs to a node and not to a registration.  Of two trees that list one node, the one that was
registered last has the link; and unregistering one of them forgets the link, also if the other stays
registered.
-/

namespace TreeShape

/-- The registered roots, in order, and the recorded links from nodes to parents.  The latest link of
a node stands first. -/
structure Registry where
  roots : List Node
  links : List (Node × Node)
  deriving Repr, Inhabited

/-- The nodes of a list, then those one step below them, and so on for `height` steps. -/
def breadthFirst (below : Node → List Node) : Nat → List Node → List Node
  | 0, _ => []
  | height + 1, level =>
    if level.isEmpty then [] else level ++ breadthFirst below height (level.flatMap below)

namespace Registry

def empty : Registry := ⟨[], []⟩

def parent? (r : Registry) (n : Node) : Option Node := r.links.lookup n

/-- The recorded parent of a node; an empty place if there is none. -/
def parent (r : Registry) (n : Node) : Node := (r.parent? n).getD .absent

def hasLink (r : Registry) (n : Node) : Bool := (r.parent? n).isSome

/-- Records one link, over any earlier one of the same node. -/
def link (r : Registry) (child parent : Node) : Registry :=
  { r with links := (child, parent) :: r.links.filter (·.1 != child) }

def unlink (r : Registry) (n : Node) : Registry :=
  { r with links := r.links.filter (·.1 != n) }

/-- A list of links, less those of one node, still has the links of the others. -/
theorem lookup_filter_ne (links : List (Node × Node)) (c n : Node) :
    (links.filter (·.1 != c)).lookup n = if n = c then none else links.lookup n := by
  induction links with
  | nil => simp
  | cons l rest ih =>
    obtain ⟨child, parent⟩ := l
    by_cases hc : child = c
    · subst hc
      by_cases hn : n = child
      · simpa [hn] using ih
      · simp [List.lookup_cons, beq_false_of_ne hn, hn, ih]
    · by_cases hn : n = child
      · simp [hn, hc]
      · simp [List.lookup_cons, beq_false_of_ne hn, hc, ih]

theorem parent?_link (r : Registry) (c p n : Node) :
    (r.link c p).parent? n = if n = c then some p else r.parent? n := by
  by_cases h : n = c
  · simp [parent?, link, h]
  · simp [parent?, link, List.lookup_cons, beq_false_of_ne h, h, lookup_filter_ne]

theorem parent?_unlink (r : Registry) (c n : Node) :
    (r.unlink c).parent? n = if n = c then none else r.parent? n :=
  lookup_filter_ne r.links c n

def linkChildren (children : Node → List Node) (r : Registry) (parent : Node) : Registry :=
  (children parent).foldl (fun s c => s.link c parent) r

/-- Registers a tree, given all nodes reached from its root. -/
def register (r : Registry) (children : Node → List Node) (reached : List Node) (root : Node) :
    Registry :=
  reached.foldl (linkChildren children) { r with roots := r.roots ++ [root] }

/-- Forgets the first registration of a tree and the links of all nodes reached from its root. -/
def unregister (r : Registry) (reached : List Node) (root : Node) : Registry :=
  reached.foldl unlink { r with roots := r.roots.erase root }

end Registry

end TreeShape
