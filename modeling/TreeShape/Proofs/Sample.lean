import TreeShape.Matching.Start

/-!
# Small worlds

One pair with two leaves, told by an adapter that knows no parents, and a configuration without dumps.
Beside it a world of boxes, in which parents are known from registered trees only: three boxes one inside
the other and two more, four of which bear the same mark.  A third world holds pairs and leaves that know
their parents.
This is where general statements are applied to something concrete.
-/

namespace TreeShape.Sample

def pair : NodeType := ⟨3⟩

def leaf : NodeType := ⟨4⟩

def typeInfo (name : String) (lineage : List NodeType) : TypeInfo :=
  ⟨some (.plain name), name, name, TypeInfo.declaredHome, lineage, [], true, false, none, false,
    none⟩

def hierarchy : Hierarchy where
  types := #[typeInfo "object" [.anything], typeInfo "NoneType" [.absence, .anything],
    typeInfo "Node" [.common, .anything], typeInfo "Pair" [pair, .common, .anything],
    typeInfo "Leaf" [leaf, .common, .anything]]

/-- The pair. -/
def root : Node := .object 0

def left : Node := .object 1

def right : Node := .object 2

def world : World where
  hierarchy := hierarchy
  forest := ⟨#[{ type := pair, children := [left, right] }, { type := leaf, parent := root },
    { type := leaf, parent := root }]⟩
  registries := []

def adapter : Adapter := .downward "sample" {}

def config : Config where
  adapter := adapter
  printer := none
  limit := none
  implicit := none

def session : Session where
  world := world

/-! ## Boxes -/

def box : NodeType := ⟨3⟩

def mark : NodeType := ⟨4⟩

/-- Boxes have what is inside them and their mark as parts; marks are shared. -/
def boxHierarchy : Hierarchy where
  types := #[typeInfo "object" [.anything], typeInfo "NoneType" [.absence, .anything],
    typeInfo "Node" [.common, .anything],
    { typeInfo "Box" [box, .anything] with parts := some ["inside", "mark"] },
    { typeInfo "Mark" [mark, .anything] with parts := some [], isShared := true }]

def outer : Node := .object 0

def middle : Node := .object 1

def inner : Node := .object 2

def sharedMark : Node := .object 3

def crate : Node := .object 4

def parcel : Node := .object 5

/-- A box with its mark. -/
def boxWith (inside : Nat) : NodeRecord :=
  { type := box, attributes := ⟨[("inside", .node inside), ("mark", .node 3)], by simp⟩ }

def boxes : World where
  hierarchy := boxHierarchy
  forest := ⟨#[boxWith 1, boxWith 2, { type := box, attributes := ⟨[("mark", .node 3)], by simp⟩ },
    { type := mark }, boxWith 5, { type := box }]⟩
  registries := []

def boxSession : Session where
  world := boxes

/-- A configuration that knows the parents in registered trees. -/
def boxConfig : Config where
  adapter := .registered "boxes" {}
  printer := none
  limit := none
  implicit := none

/-! ## Kin -/

/-- A pair of a pair of leaves and a leaf, and a stray leaf: the outer pair is its parent and does not
list it. -/
def family : World where
  hierarchy := hierarchy
  forest := ⟨#[{ type := pair, children := [.object 1, .object 2] },
    { type := pair, children := [.object 3, .object 4], parent := .object 0 },
    { type := leaf, parent := .object 0 }, { type := leaf, parent := .object 1 },
    { type := leaf, parent := .object 1 }, { type := leaf, parent := .object 0 }]⟩
  registries := []

/-- How the family sees itself: each node knows its parent. -/
def kin : View := (Adapter.linked "kin" {} true []).view family

def stray : Node := .object 5

end TreeShape.Sample
