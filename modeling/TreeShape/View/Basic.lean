import TreeShape.Failure

/-!
# Views

A view is what matching and printing see of a tree: the children and the type of each node, the names of
nodes and types, and, where the tree knows them, parents.  Everything else is derived from these, here
and in `View.Navigation`.

A node may refuse to tell its children, or whether it is an instance of a type.  Such a node has no
children in the view, or is no instance, and whoever asks it fails.  So there are two ways to look at a
node: `children` and `isInstance` for statements, which are never at a loss, and `ask` and `askType` for
programs.

Children are found by being the same object, `position?`, and a child that is listed twice has the first
of its positions.
-/

namespace TreeShape

/-- How one kind of tree is seen. -/
structure View where
  children : Node → List Node
  /-- Why a node does not tell its children. -/
  refusal : Node → Option Failure
  typeOf : Node → NodeType
  isInstance : Node → NodeType → Bool
  /-- Why a node does not tell whether it is an instance of a type. -/
  typeRefusal : Node → NodeType → Option Failure
  typeName : NodeType → String
  nodeName : Node → Name
  /-- Whether parents are known at all. -/
  knowsParents : Bool
  /-- Whether the parent of this very node is known. -/
  hasParentLink : Node → Bool
  parent : Node → Node
  /-- A number of steps that no finite path, up or down, exceeds. -/
  height : Nat

namespace View

/-- The children of a node that is asked for them. -/
def ask (v : View) (n : Node) : Except Failure (List Node) :=
  match v.refusal n with
  | none => .ok (v.children n)
  | some f => .error f

/-- Asks several nodes for their children, in order.  The first refusal counts. -/
def askAll (v : View) (nodes : List Node) : Except Failure Unit :=
  match nodes.findSome? v.refusal with
  | none => .ok ()
  | some f => .error f

/-- Whether a node that is asked for it is an instance of a type. -/
def askType (v : View) (n : Node) (t : NodeType) : Except Failure Bool :=
  match v.typeRefusal n t with
  | none => .ok (v.isInstance n t)
  | some f => .error f

/-- A node that does not refuse tells its children. -/
theorem ask_of_refusal_none {v : View} {n : Node} (h : v.refusal n = none) :
    v.ask n = .ok (v.children n) := by
  simp [ask, h]

theorem ask_eq_ok_iff {v : View} {n : Node} {nodes : List Node} :
    v.ask n = .ok nodes ↔ v.refusal n = none ∧ v.children n = nodes := by
  unfold ask
  cases v.refusal n <;> simp

/-- A node that tells its children tells those that it has. -/
theorem children_of_ask {v : View} {n : Node} {nodes : List Node} (h : v.ask n = .ok nodes) :
    v.children n = nodes := (ask_eq_ok_iff.mp h).2

def childCount (v : View) (n : Node) : Nat := (v.children n).length

/-- The child at a position counted from zero; an empty place if there is none. -/
def childAt (v : View) (n : Node) (position : Int) : Node :=
  if 0 ≤ position then ((v.children n)[position.toNat]?).getD .absent else .absent

def isLeaf (v : View) (n : Node) : Bool := v.childCount n == 0

def typeNameOf (v : View) (n : Node) : String := v.typeName (v.typeOf n)

/-- The first position of a node among others, by identity. -/
def position? (nodes : List Node) (n : Node) : Option Nat := nodes.findIdx? (· == n)

/-- A position is the first of a node just if the node stands there and not before. -/
theorem position?_eq_some_iff {nodes : List Node} {m : Node} {position : Nat} :
    position? nodes m = some position ↔ nodes[position]? = some m ∧ m ∉ nodes.take position := by
  unfold position?
  rw [List.findIdx?_eq_some_iff_getElem]
  constructor
  · rintro ⟨hlt, hsame, hbefore⟩
    refine ⟨by rw [List.getElem?_eq_getElem hlt, eq_of_beq hsame], fun hmem => ?_⟩
    obtain ⟨j, hj, hm⟩ := List.mem_take_iff_getElem.mp hmem
    exact hbefore j (by omega) (by rw [hm]; exact beq_self_eq_true m)
  · rintro ⟨hget, hbefore⟩
    obtain ⟨hlt, rfl⟩ := List.getElem?_eq_some_iff.mp hget
    refine ⟨hlt, beq_self_eq_true _, fun j hj hsame => hbefore ?_⟩
    exact List.mem_take_iff_getElem.mpr ⟨j, by omega, eq_of_beq hsame⟩

theorem position?_eq_none_iff {nodes : List Node} {m : Node} :
    position? nodes m = none ↔ m ∉ nodes := by
  unfold position?
  rw [List.findIdx?_eq_none_iff]
  simp only [beq_eq_false_iff_ne, ne_eq]
  exact ⟨fun h hm => h m hm rfl, fun h m' hm' heq => h (heq ▸ hm')⟩

end View

end TreeShape
