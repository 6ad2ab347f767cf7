import TreeShape.Proofs.Shape.Following
import TreeShape.Proofs.Ways

/-!
# Specs with assertions

A spec is what a script does at the cursor of a node when all that it wants to know is whether the tree
below the node is as it should be: it asserts something of the node, it skips children, or it matches the
next child, in one of the ways and with a spec of its own.  Patterns are the specs without assertions.

What it is for a tree to be as a spec demands is said here by recursion on the spec, for any adapter and
with the implicit check of the configuration, if there is one.
-/

namespace TreeShape

open Run

/-- What is done at the cursor of a node, from first to last. -/
inductive Spec where
  | done
  | assert (check : World → Node → Except Failure Unit) (rest : Spec)
  | skip (count : Nat) (rest : Spec)
  | child (way : Way) (expected : Expected) (inside rest : Spec)

/-- What is expected of a tree, and how the tree is matched. -/
structure TreeSpec where
  way : Way
  expected : Expected
  spec : Spec

/-- Does to a cursor what the spec says. -/
def Spec.run : Spec → CursorId → Run Value
  | done, _ => return .nothing
  | assert check rest, c => do
    Run.resume (check (← Run.world) (← Run.cursor c).node)
    rest.run c
  | skip count rest, c => do
    c.skip count
    rest.run c
  | child way e inside rest, c => do
    discard ((Target.child c e).visit way fun d => inside.run d)
    rest.run c

/-- Admits a tree as the spec says. -/
def TreeSpec.run (p : TreeSpec) (c : Config) (root : Node) : Run Value :=
  (Target.root c p.expected root).visit p.way fun d => p.spec.run d

/-! ## What a spec demands -/

/-- A node passes the implicit check, if there is one. -/
def Config.Passes (c : Config) (w : World) (n : Node) : Prop :=
  ∀ check, c.implicit = some check → check.run w n = .ok ()

namespace Spec

/-- A node is as the assertions demand, and its children from some position on are as the skips and the
children of the spec demand, which leave some of them.  Where children do not matter, there must be no
skips and no children in the spec. -/
def Accounts (c : Config) (w : World) (n : Node) (ignoring : Bool) :
    Spec → List Node → List Node → Prop
  | done, nodes, left => nodes = left
  | assert check spec, nodes, left => check w n = .ok () ∧ spec.Accounts c w n ignoring nodes left
  | skip count spec, nodes, left =>
    ignoring = false ∧ count ≤ nodes.length ∧
      spec.Accounts c w n ignoring (nodes.drop count) left
  | child _ _ _ _, [], _ => False
  | child _ e inside spec, m :: nodes, left =>
    ignoring = false ∧
      ((c.view w).Fits (some n) e m ∧ ∃ below, (c.view w).ask m = .ok below ∧ c.Passes w m ∧
        ∃ last, inside.Accounts c w m e.ignoring below last ∧ (e.ignoring = true ∨ last = [])) ∧
      spec.Accounts c w n ignoring nodes left

/-- The tree below a node is as the spec and the expectation demand. -/
def Admits (c : Config) (w : World) (parent? : Option Node) (e : Expected) (spec : Spec)
    (n : Node) : Prop :=
  (c.view w).Fits parent? e n ∧ ∃ below, (c.view w).ask n = .ok below ∧ c.Passes w n ∧
    ∃ last, spec.Accounts c w n e.ignoring below last ∧ (e.ignoring = true ∨ last = [])

variable {c : Config} {w : World} {n m : Node} {ignoring : Bool} {way : Way} {e : Expected}
  {inside spec : Spec} {nodes left left' : List Node}

theorem accounts_child_cons : (child way e inside spec).Accounts c w n ignoring (m :: nodes) left ↔
    ignoring = false ∧ inside.Admits c w (some n) e m ∧ spec.Accounts c w n ignoring nodes left :=
  Iff.rfl

/-- A spec determines which children it leaves. -/
theorem Accounts.left_unique (h : spec.Accounts c w n ignoring nodes left)
    (h' : spec.Accounts c w n ignoring nodes left') : left = left' := by
  induction spec generalizing nodes with
  | done => exact (Eq.symm h).trans h'
  | assert check spec ih => exact ih h.2 h'.2
  | skip count spec ih => exact ih h.2.2 h'.2.2
  | child way e inside spec _ ih =>
      cases nodes with
      | nil => exact h.elim
      | cons m nodes => exact ih h.2.2 h'.2.2

/-- For a node that fits and tells its children, what is left of these decides. -/
theorem admits_iff {parent? : Option Node} {below : List Node}
    (hfits : (c.view w).Fits parent? e n) (hask : (c.view w).ask n = .ok below) :
    spec.Admits c w parent? e n ↔ c.Passes w n ∧
      ∃ last, spec.Accounts c w n e.ignoring below last ∧ (e.ignoring = true ∨ last = []) := by
  simp [Admits, hfits, hask]

/-! ## What running a spec keeps -/

theorem keeps_run (spec : Spec) (c : CursorId) : Keeps Session.Changes (spec.run c) := by
  induction spec generalizing c with
  | done => exact keeps_pure _
  | assert check spec ih =>
      exact keeps_world.bind fun _ => (Run.keeps_cursor c).bind fun _ =>
        (keeps_resume _).bind fun _ => ih c
  | skip count spec ih => exact (c.keeps_skip count).bind fun _ => ih c
  | child way e inside spec ihinside ih =>
      rw [run, discard_bind, Target.visit_eq_within]
      refine Keeps.bind ((c.keeps_childBlock e).bind fun b => b.keeps_within fun d => ?_) fun _ => ih c
      cases way with
      | returning =>
          exact ((ihinside d).bind fun _ => keeps_pure _).bind fun _ =>
            (Run.keeps_cursor d).bind fun _ => keeps_pure _
      | extracting => exact ihinside d
      | enclosing => exact ihinside d

end Spec

end TreeShape
