import Mathlib.Data.List.Basic
import Mathlib.Data.List.TakeWhile
import Mathlib.Logic.Relation
import TreeShape.Proofs.Replay.Finite
import TreeShape.Proofs.Sample

/-!
# Walks through trees of parts

Registering a tree and forgetting it go through all its parts, shared ones included, breadth first and
for a bounded number of rounds.  For a finite tree these are rounds enough: `World.mem_reached` says
that the walk comes to the nodes of the tree and to no others.

A round goes on from one level of nodes to the next, and levels are those of several trees at once:
`mem_breadthFirst` is an induction on the rounds for a list of trees, each as high as there are rounds
left.  That a finite tree is no higher than there are rounds is `View.Numbered`: on the way down no node
of the forest comes twice.

What a tree of parts is depends on the types and the nodes alone, and not on what is registered.
-/

namespace TreeShape

namespace Tree

variable {v : View} {n p : Node} {t : Tree} {ts : List Tree}

theorem mem_preorderAll : n ∈ preorderAll ts ↔ ∃ t ∈ ts, n ∈ t.preorder := by
  induction ts with
  | nil => simp [preorderAll]
  | cons t ts ih => simp [preorderAll, ih]

theorem mem_preorder : n ∈ t.preorder ↔ n = t.root ∨ ∃ u ∈ t.subtrees, n ∈ u.preorder := by
  obtain ⟨m, ts⟩ := t
  rw [preorder, List.mem_cons, mem_preorderAll]
  rfl

theorem root_mem_preorder (t : Tree) : t.root ∈ t.preorder := mem_preorder.mpr (.inl rfl)

theorem ShownBy.children_root (h : t.ShownBy v) : v.children t.root = t.subtrees.map root := by
  obtain ⟨m, ts⟩ := t
  exact h.children

theorem ShownBy.of_mem_subtrees {u : Tree} (h : t.ShownBy v) (hu : u ∈ t.subtrees) : u.ShownBy v := by
  obtain ⟨m, ts⟩ := t
  exact h.subtree hu

/-- With a node a finite tree has the children of the node. -/
theorem ShownBy.mem_of_child (h : t.ShownBy v) (hp : p ∈ t.preorder) (hn : n ∈ v.children p) :
    n ∈ t.preorder := by
  induction t using Tree.induct with
  | branch m ts ih =>
      rw [mem_preorder] at hp ⊢
      rcases hp with rfl | ⟨u, hu, hp⟩
      · obtain ⟨u, hu, rfl⟩ := List.mem_map.mp (h.children_root ▸ hn)
        exact .inr ⟨u, hu, u.root_mem_preorder⟩
      · exact .inr ⟨u, hu, ih u hu (h.subtree hu) hp⟩

/-- The nodes of a finite tree are those that one gets to from its root by going to children. -/
theorem ShownBy.mem_preorder_iff (h : t.ShownBy v) :
    n ∈ t.preorder ↔ Relation.ReflTransGen (fun p n => n ∈ v.children p) t.root n := by
  constructor
  · intro hn
    induction t using Tree.induct with
    | branch m ts ih =>
        rcases mem_preorder.mp hn with rfl | ⟨u, hu, hn⟩
        · exact .refl
        · have hchild : u.root ∈ v.children m := h.children ▸ List.mem_map_of_mem hu
          exact .head hchild (ih u hu (h.subtree hu) hn)
  · intro hn
    induction hn with
    | refl => exact t.root_mem_preorder
    | tail _ hchild ih => exact h.mem_of_child ih hchild

theorem ShownBy.refusal_of_mem (h : t.ShownBy v) (hn : n ∈ t.preorder) : v.refusal n = none := by
  induction t using Tree.induct with
  | branch m ts ih =>
      rcases mem_preorder.mp hn with rfl | ⟨u, hu, hn⟩
      · exact h.refusal
      · exact ih u hu (h.subtree hu) hn

/-! ## Breadth first -/

theorem mem_breadthFirst_succ {below : Node → List Node} {height : Nat} {level : List Node} :
    n ∈ breadthFirst below (height + 1) level ↔
      n ∈ level ∨ n ∈ breadthFirst below height (level.flatMap below) := by
  rw [breadthFirst]
  cases level with
  | nil =>
      have hnil : breadthFirst below height [] = [] := by cases height <;> rfl
      simp [hnil]
  | cons m level =>
      rw [List.isEmpty_cons, if_neg Bool.false_ne_true, List.mem_append]

/-- The nodes of several trees are the roots and the nodes of the next level. -/
theorem exists_mem_preorder_iff :
    (∃ t ∈ ts, n ∈ t.preorder) ↔
      n ∈ ts.map root ∨ ∃ u ∈ ts.flatMap subtrees, n ∈ u.preorder := by
  simp only [List.mem_map, List.mem_flatMap]
  constructor
  · rintro ⟨t, ht, hn⟩
    rcases mem_preorder.mp hn with rfl | ⟨u, hu, hn⟩
    · exact .inl ⟨t, ht, rfl⟩
    · exact .inr ⟨u, ⟨t, ht, hu⟩, hn⟩
  · rintro (⟨t, ht, rfl⟩ | ⟨u, ⟨t, ht, hu⟩, hn⟩)
    · exact ⟨t, ht, t.root_mem_preorder⟩
    · exact ⟨t, ht, mem_preorder.mpr (.inr ⟨u, hu, hn⟩)⟩

/-- The roots of the next level are the children that the nodes of this level tell. -/
theorem flatMap_children (hts : ∀ t ∈ ts, t.ShownBy v) :
    (ts.map root).flatMap v.children = (ts.flatMap subtrees).map root := by
  rw [List.flatMap_map, List.map_flatMap]
  exact List.flatMap_congr fun t ht => (hts t ht).children_root

/-- Rounds enough for the highest of several trees come to all their nodes. -/
theorem mem_breadthFirst {steps : Nat} (hts : ∀ t ∈ ts, t.ShownBy v)
    (hsteps : ∀ t ∈ ts, t.Within steps) :
    n ∈ breadthFirst v.children (steps + 1) (ts.map root) ↔ ∃ t ∈ ts, n ∈ t.preorder := by
  induction steps generalizing ts with
  | zero =>
      have hnil : ts.flatMap subtrees = [] := List.flatMap_eq_nil_iff.mpr hsteps
      rw [mem_breadthFirst_succ, exists_mem_preorder_iff, hnil]
      simp [breadthFirst]
  | succ steps ih =>
      have hts' : ∀ u ∈ ts.flatMap subtrees, u.ShownBy v := by
        intro u hu
        obtain ⟨t, ht, hu⟩ := List.mem_flatMap.mp hu
        exact (hts t ht).of_mem_subtrees hu
      have hsteps' : ∀ u ∈ ts.flatMap subtrees, u.Within steps := by
        intro u hu
        obtain ⟨t, ht, hu⟩ := List.mem_flatMap.mp hu
        exact hsteps t ht u hu
      rw [mem_breadthFirst_succ, exists_mem_preorder_iff, flatMap_children hts, ih hts' hsteps']

end Tree

namespace World

variable {w : World} {root n p : Node}

/-- What is seen on a walk through all parts of nodes. -/
def walk (w : World) : View :=
  { (Adapter.downward "" {}).view w with children := w.parts, refusal := w.partsRefusal }

/-- The tree below a root has the node, which is the root, or a part of another node of the tree. -/
def Reaches (w : World) : Node → Node → Prop := Relation.ReflTransGen fun p n => n ∈ w.parts p

/-- The nodes below a root are those of a finite tree, each of which tells its parts. -/
def IsFinite (w : World) (root : Node) : Prop := ∃ t : Tree, t.ShownBy w.walk ∧ t.root = root

theorem numbered_walk (w : World) : w.walk.Numbered w.forest.number (w.forest.size + 1) :=
  ⟨w.forest.number_lt, fun h => parts_congr (Forest.record?_of_number_eq h)⟩

/-- The nodes of a finite tree are those that its root reaches. -/
theorem mem_preorder_iff {t : Tree} (h : t.ShownBy w.walk) :
    n ∈ t.preorder ↔ w.Reaches t.root n := h.mem_preorder_iff

/-- The walk through a finite tree comes to all its nodes, and to no others. -/
theorem mem_reached (h : w.IsFinite root) : n ∈ w.reached root ↔ w.Reaches root n := by
  obtain ⟨t, ht, rfl⟩ := h
  have hbelow : ∀ m, m ∈ w.below t.root ↔ m ∈ t.preorder := by
    intro m
    have hbound : t.Within w.forest.size := ht.within w.numbered_walk (Nat.le_refl _)
    have hmem : m ∈ breadthFirst w.walk.children (w.forest.size + 1) ([t].map Tree.root) ↔
        ∃ u ∈ [t], m ∈ u.preorder :=
      Tree.mem_breadthFirst (by simpa using ht) (by simpa using hbound)
    simpa [below, walk] using hmem
  -- No node of the tree ends the walk before its time.
  have hall : w.reached t.root = w.below t.root := by
    refine List.takeWhile_eq_self_iff.mpr fun m hm => ?_
    have hrefusal : w.partsRefusal m = none := ht.refusal_of_mem ((hbelow m).mp hm)
    simp [hrefusal]
  rw [hall, hbelow, mem_preorder_iff ht]

/-- What is reached is reached with all its parts. -/
theorem Reaches.part (h : w.Reaches root p) (hn : n ∈ w.parts p) : w.Reaches root n := h.tail hn

theorem mem_parts_of_mem_partChildren (hn : n ∈ w.partChildren p) : n ∈ w.parts p :=
  (List.mem_filter.mp hn).1

/-- No shared node is a child. -/
theorem not_isShared_of_mem_partChildren (hn : n ∈ w.partChildren p) :
    w.hierarchy.isShared (w.typeOf n) = false := by
  simpa using (List.mem_filter.mp hn).2

/-! ## Registries do not matter -/

/-- The other world has the same types and the same nodes. -/
def SameNodes (w w' : World) : Prop := ∃ registries, w' = { w with registries := registries }

namespace SameNodes

variable {w' w'' : World}

theorem refl (w : World) : w.SameNodes w := ⟨w.registries, rfl⟩

theorem trans (h : w.SameNodes w') (h' : w'.SameNodes w'') : w.SameNodes w'' := by
  obtain ⟨_, rfl⟩ := h
  obtain ⟨registries, rfl⟩ := h'
  exact ⟨registries, rfl⟩

theorem setRegistry (w : World) (name : String) (r : Registry) :
    w.SameNodes (w.setRegistry name r) := ⟨_, rfl⟩

theorem askParts_eq (h : w.SameNodes w') : w'.askParts = w.askParts := by
  obtain ⟨registries, rfl⟩ := h
  have hparts : ∀ n names,
      World.partsNodes { w with registries := registries } n names = w.partsNodes n names := by
    intro n names
    induction names with
    | nil => rfl
    | cons name names ih =>
        rw [partsNodes, partsNodes, ih]
        rfl
  funext n
  rw [askParts, askParts]
  simp only [hparts]
  rfl

theorem parts_eq (h : w.SameNodes w') : w'.parts = w.parts := by
  funext n
  rw [parts, parts, h.askParts_eq]

theorem partsRefusal_eq (h : w.SameNodes w') : w'.partsRefusal = w.partsRefusal := by
  funext n
  rw [partsRefusal, partsRefusal, h.askParts_eq]

theorem partChildren_eq (h : w.SameNodes w') : w'.partChildren = w.partChildren := by
  funext n
  rw [partChildren, partChildren, h.parts_eq]
  obtain ⟨registries, rfl⟩ := h
  rfl

theorem reached_eq (h : w.SameNodes w') : w'.reached = w.reached := by
  funext root
  rw [reached, reached, below, below, h.parts_eq, h.partsRefusal_eq]
  obtain ⟨registries, rfl⟩ := h
  rfl

end SameNodes

end World

/-! ## Boxes as trees -/

namespace Sample

def markTree : Tree := .branch sharedMark []

def innerTree : Tree := .branch inner [markTree]

def middleTree : Tree := .branch middle [innerTree, markTree]

def outerTree : Tree := .branch outer [middleTree, markTree]

def crateTree : Tree := .branch crate [.branch parcel [], markTree]

theorem shownBy_markTree : markTree.ShownBy boxes.walk := .branch rfl nofun

theorem shownBy_pair {n : Node} {t u : Tree} (hask : boxes.walk.ask n = .ok [t.root, u.root])
    (ht : t.ShownBy boxes.walk) (hu : u.ShownBy boxes.walk) :
    (Tree.branch n [t, u]).ShownBy boxes.walk :=
  .branch hask (List.forall_mem_cons.mpr ⟨ht, List.forall_mem_singleton.mpr hu⟩)

theorem shownBy_middleTree : middleTree.ShownBy boxes.walk := by
  have hinner : innerTree.ShownBy boxes.walk :=
    .branch rfl (List.forall_mem_singleton.mpr shownBy_markTree)
  exact shownBy_pair rfl hinner shownBy_markTree

theorem shownBy_outerTree : outerTree.ShownBy boxes.walk :=
  shownBy_pair rfl shownBy_middleTree shownBy_markTree

theorem shownBy_crateTree : crateTree.ShownBy boxes.walk :=
  shownBy_pair rfl (.branch rfl nofun) shownBy_markTree

theorem isFinite_middle : boxes.IsFinite middle := ⟨_, shownBy_middleTree, rfl⟩

theorem isFinite_outer : boxes.IsFinite outer := ⟨_, shownBy_outerTree, rfl⟩

theorem isFinite_crate : boxes.IsFinite crate := ⟨_, shownBy_crateTree, rfl⟩

end Sample

end TreeShape
