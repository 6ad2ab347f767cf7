import Mathlib.Logic.Relation
import TreeShape.Proofs.Matching.Opening

/-!
# Patterns and the trees that conform to them

The scripts that make no assertions of their own are patterns: a type, whether the children matter, and
a list of items that skip children or match one with a pattern of its own.  What it is for a tree to
conform to a pattern is said here by recursion on the pattern, without cursors, blocks or sessions.

A pattern can also be at odds with itself: it may have items below a node whose children do not matter.
Whether that comes to light depends on the tree, since the first thing that is wrong ends the match.
-/

namespace TreeShape

/-- The items of a pattern, from left to right. -/
inductive Items where
  | done
  | skip (count : Nat) (rest : Items)
  | child (expected : Expected) (inside rest : Items)
  deriving DecidableEq, Repr

/-- What is expected of a node and of its children. -/
structure Pattern where
  expected : Expected
  items : Items
  deriving DecidableEq, Repr

/-! ## Conforming -/

/-- A node has the expected type, and the expected parent where that is known. -/
def View.Fits (v : View) (parent? : Option Node) (e : Expected) (n : Node) : Prop :=
  v.askType n e.type = .ok true ∧ v.isLinkedTo parent? n = true

/-- A node is in the tree below another one, which counts as below itself. -/
def View.Below (v : View) : Node → Node → Prop :=
  Relation.ReflTransGen fun parent n => n ∈ v.children parent

namespace Items

/-- The items cut a front of the nodes into consecutive pieces, one for each item, and leave the rest. -/
def Cuts (v : View) (parent : Node) : Items → List Node → List Node → Prop
  | done, nodes, rest => nodes = rest
  | skip count items, nodes, rest =>
    count ≤ nodes.length ∧ items.Cuts v parent (nodes.drop count) rest
  | child _ _ _, [], _ => False
  | child e inside items, n :: nodes, rest =>
    (v.Fits (some parent) e n ∧ ∃ below, v.ask n = .ok below ∧
      if e.ignoring then inside = done else inside.Cuts v n below []) ∧
    items.Cuts v parent nodes rest

/-- From left to right, the first thing wrong is an item below a node whose children do not matter. -/
def Misuses (v : View) (parent : Node) : Items → List Node → Prop
  | done, _ => False
  | skip count items, nodes => count ≤ nodes.length ∧ items.Misuses v parent (nodes.drop count)
  | child _ _ _, [] => False
  | child e inside items, n :: nodes =>
    v.Fits (some parent) e n ∧ ∃ below, v.ask n = .ok below ∧
      if e.ignoring then inside ≠ done ∨ items.Misuses v parent nodes
      else inside.Misuses v n below ∨ inside.Cuts v n below [] ∧ items.Misuses v parent nodes

/-- The items of a node, which are none if its children do not matter. -/
def CutsUnless (ignoring : Bool) (v : View) (parent : Node) (items : Items)
    (nodes rest : List Node) : Prop :=
  if ignoring then items = done else items.Cuts v parent nodes rest

def MisusesIf (ignoring : Bool) (v : View) (parent : Node) (items : Items)
    (nodes : List Node) : Prop :=
  if ignoring then items ≠ done else items.Misuses v parent nodes

end Items

namespace Pattern

/-- The tree below a node conforms to a pattern. -/
def Conforms (p : Pattern) (v : View) (parent? : Option Node) (n : Node) : Prop :=
  v.Fits parent? p.expected n ∧ ∃ below, v.ask n = .ok below ∧
    p.items.CutsUnless p.expected.ignoring v n below []

/-- Of all that keeps the tree from conforming, an item below a node whose children do not matter is
met first. -/
def Misuses (p : Pattern) (v : View) (parent? : Option Node) (n : Node) : Prop :=
  v.Fits parent? p.expected n ∧ ∃ below, v.ask n = .ok below ∧
    p.items.MisusesIf p.expected.ignoring v n below

end Pattern

namespace Items

variable {v : View} {parent n : Node} {e : Expected} {inside items : Items}
  {nodes rest : List Node}

theorem cuts_child_cons : (child e inside items).Cuts v parent (n :: nodes) rest ↔
    Pattern.Conforms ⟨e, inside⟩ v (some parent) n ∧ items.Cuts v parent nodes rest :=
  Iff.rfl

theorem misuses_child_cons : (child e inside items).Misuses v parent (n :: nodes) ↔
    Pattern.Misuses ⟨e, inside⟩ v (some parent) n ∨
      Pattern.Conforms ⟨e, inside⟩ v (some parent) n ∧ items.Misuses v parent nodes := by
  simp only [Misuses, Pattern.Misuses, Pattern.Conforms, MisusesIf, CutsUnless]
  -- Where the children of the child do not matter, any item inside is a misuse.
  cases e.ignoring with
  | true =>
      simp only [if_true]
      constructor
      · rintro ⟨hfits, below, hask, hinside | hitems⟩
        · exact .inl ⟨hfits, below, hask, hinside⟩
        · by_cases hinside : inside = done
          · exact .inr ⟨⟨hfits, below, hask, hinside⟩, hitems⟩
          · exact .inl ⟨hfits, below, hask, hinside⟩
      · rintro (⟨hfits, below, hask, hinside⟩ | ⟨⟨hfits, below, hask, -⟩, hitems⟩)
        · exact ⟨hfits, below, hask, .inl hinside⟩
        · exact ⟨hfits, below, hask, .inr hitems⟩
  | false =>
      simp only [Bool.false_eq_true, if_false]
      constructor
      · rintro ⟨hfits, below, hask, hinside | ⟨hinside, hitems⟩⟩
        · exact .inl ⟨hfits, below, hask, hinside⟩
        · exact .inr ⟨⟨hfits, below, hask, hinside⟩, hitems⟩
      · rintro (⟨hfits, below, hask, hinside⟩ | ⟨⟨hfits, below, hask, hinside⟩, hitems⟩)
        · exact ⟨hfits, below, hask, .inl hinside⟩
        · exact ⟨hfits, below, hask, .inr ⟨hinside, hitems⟩⟩

/-- The items determine how many nodes they cut off. -/
theorem Cuts.rest_unique {items : Items} {nodes rest rest' : List Node}
    (h : items.Cuts v parent nodes rest) (h' : items.Cuts v parent nodes rest') :
    rest = rest' := by
  induction items generalizing nodes with
  | done => exact (Eq.symm h).trans h'
  | skip count items ih => exact ih h.2 h'.2
  | child e inside items _ ih =>
      cases nodes with
      | nil => exact h.elim
      | cons n nodes => exact ih h.2 h'.2

/-- Where nothing is wrong, nothing is met first. -/
theorem Cuts.not_misuses {items : Items} {parent : Node} {nodes rest : List Node}
    (h : items.Cuts v parent nodes rest) : ¬ items.Misuses v parent nodes := by
  induction items generalizing parent nodes rest with
  | done => exact id
  | skip count items ih => exact fun hm => ih h.2 hm.2
  | child e inside items ihinside ih =>
      cases nodes with
      | nil => exact h.elim
      | cons n nodes =>
          obtain ⟨⟨-, below, hask, hinside⟩, hitems⟩ := h
          rintro ⟨-, below', hask', hwrong⟩
          rw [hask] at hask'
          cases hask'
          cases hignoring : e.ignoring with
          | true =>
              simp only [hignoring, if_true] at hinside hwrong
              rcases hwrong with hwrong | hwrong
              · exact hwrong hinside
              · exact ih hitems hwrong
          | false =>
              simp only [hignoring, Bool.false_eq_true, if_false] at hinside hwrong
              rcases hwrong with hwrong | hwrong
              · exact ihinside hinside hwrong
              · exact ih hitems hwrong.2

theorem CutsUnless.not_misusesIf {ignoring : Bool}
    (h : items.CutsUnless ignoring v parent nodes rest) :
    ¬ items.MisusesIf ignoring v parent nodes := by
  cases ignoring with
  | true => exact fun hm => hm h
  | false => exact Cuts.not_misuses h

end Items

/-- For a node that fits, the children decide. -/
theorem Pattern.conforms_iff {p : Pattern} {v : View} {parent? : Option Node} {n : Node}
    {below : List Node} (hfits : v.Fits parent? p.expected n) (hask : v.ask n = .ok below) :
    p.Conforms v parent? n ↔ p.items.CutsUnless p.expected.ignoring v n below [] := by
  simp [Pattern.Conforms, hfits, hask]

theorem Pattern.misuses_iff {p : Pattern} {v : View} {parent? : Option Node} {n : Node}
    {below : List Node} (hfits : v.Fits parent? p.expected n) (hask : v.ask n = .ok below) :
    p.Misuses v parent? n ↔ p.items.MisusesIf p.expected.ignoring v n below := by
  simp [Pattern.Misuses, hfits, hask]

theorem Pattern.Conforms.not_misuses {p : Pattern} {v : View} {parent? : Option Node} {n : Node}
    (h : p.Conforms v parent? n) : ¬ p.Misuses v parent? n := by
  obtain ⟨-, below, hask, hcuts⟩ := h
  rintro ⟨-, below', hask', hmisuses⟩
  rw [hask] at hask'
  cases hask'
  exact hcuts.not_misusesIf hmisuses

/-! ## Patterns as scripts -/

/-- Matches the children of a cursor's node with the items. -/
def Items.run (c : CursorId) : Items → Run Unit
  | done => return ()
  | skip count items => do
    c.skip count
    items.run c
  | child e inside items => do
    discard (c.child e fun inner => inside.run inner)
    items.run c

/-- Matches a tree with the pattern. -/
def Pattern.matchTree (p : Pattern) (c : Config) (root : Node) : Run Node :=
  c.matchTree p.expected root fun cursor => p.items.run cursor

end TreeShape
