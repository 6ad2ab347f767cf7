import TreeShape.View.Basic
import TreeShape.World

/-!
# Adapters

An adapter turns a world into a view.  Adapters are told apart by name.  Three kinds are made here:
trees whose nodes list their children, such trees whose nodes also know their parents, and trees whose
nodes have named parts and whose parents are looked up in the registry of the adapter's name.

What is said of matching and printing holds for any adapter, and so for those that others may make.  The
one thing that has to be known about an adapter is that its views are high enough for the finite trees
that they show, and this is so for the three kinds, `IsUsual`: no path in such a tree has a node twice,
so the number of nodes bounds it.
-/

namespace TreeShape

/-- A named way to see a world. -/
structure Adapter where
  name : String
  view : World → View

/-- How types and nodes are called. -/
structure Naming where
  /-- What is taken off the front of type names. -/
  stripped : String := ""
  /-- What is put in front of type names after that. -/
  added : String := ""
  /-- The stored attribute that names a node, where it is a text. -/
  nameAttribute : Option String := none

namespace Naming

/-- The display name of a type. -/
def typeName (naming : Naming) (w : World) (t : NodeType) : String :=
  let name := w.hierarchy.name t
  let rest := if naming.stripped.toList.isPrefixOf name.toList then
      String.ofList (name.toList.drop naming.stripped.length) else name
  naming.added ++ rest

/-- The display name of a node. -/
def nodeName (naming : Naming) (w : World) (n : Node) : Name :=
  (naming.nameAttribute.bind (w.storedName? n)).getD ⟨naming.typeName w (w.typeOf n), none⟩

end Naming

namespace Adapter

/-- Trees whose nodes list their children; parents are not known. -/
def downward (name : String) (naming : Naming) : Adapter where
  name := name
  view w := {
    children := w.listedChildren
    refusal := fun _ => none
    typeOf := w.typeOf
    isInstance := w.countsAs
    typeRefusal := w.claimRefusal
    typeName := naming.typeName w
    nodeName := naming.nodeName w
    knowsParents := false
    hasParentLink := fun _ => true
    parent := w.knownParent
    height := w.forest.size + 1 }

/-- Trees whose nodes also know their parents, except for the unlinked ones, which are given by what is
written for them. -/
def linked (name : String) (naming : Naming) (knowsParents : Bool)
    (unlinked : List (Option String)) : Adapter where
  name := name
  view w := { (downward name naming).view w with
    knowsParents := knowsParents
    hasParentLink := fun n => !unlinked.contains (w.forest.mark? n) }

/-- Trees whose nodes have named parts; only registered trees have parents.  What has no parts that can
be read does not tell its children. -/
def registered (name : String) (naming : Naming) : Adapter where
  name := name
  view w :=
    let registry := w.registry name
    { children := w.partChildren
      refusal := w.partsRefusal
      typeOf := w.typeOf
      isInstance := w.countsAs
      typeRefusal := w.claimRefusal
      typeName := naming.typeName w
      nodeName := naming.nodeName w
      knowsParents := !registry.roots.isEmpty
      hasParentLink := registry.hasLink
      parent := registry.parent
      height := w.forest.size + 1 }

/-- The adapter is of one of the three kinds. -/
inductive IsUsual : Adapter → Prop
  | downward (name : String) (naming : Naming) : IsUsual (.downward name naming)
  | linked (name : String) (naming : Naming) (knowsParents : Bool) (unlinked : List (Option String)) :
      IsUsual (.linked name naming knowsParents unlinked)
  | registered (name : String) (naming : Naming) : IsUsual (.registered name naming)

end Adapter

end TreeShape
