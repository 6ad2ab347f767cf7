import Mathlib.Data.List.Nodup
import TreeShape.Proofs.Checks.Visits
import TreeShape.Proofs.Shape.Pattern

/-!
# Implicit checks of a pattern

A pattern matches nodes at certain positions of a tree, given by paths from the root.  Running it leaves
the blocks for these positions in the order of `Pattern.positions`: what is below a node comes before the
node.  If the match fails, only the first of these blocks were left with a body that returned, and a few
of the later ones, each around the one before it, were left by the failure.

Both kinds of blocks can be told from the visits of the run, and the implicit checks are those of the
first kind.
-/

namespace TreeShape

open Run

/-! ## Positions -/

/-- The positions at which items match nodes, if the next child is the one with a given number. -/
def Items.positions : Items → Nat → List (List Nat)
  | done, _ => []
  | skip count items, i => items.positions (i + count)
  | child _ inside items, i =>
    (inside.positions 0 ++ [[]]).map (i :: ·) ++ items.positions (i + 1)

/-- The positions at which a pattern matches nodes, those below a node before the node itself. -/
def Pattern.positions (p : Pattern) : List (List Nat) := p.items.positions 0 ++ [[]]

/-- The node at a position below another one. -/
def View.at? (v : View) : Node → List Nat → Option Node
  | n, [] => some n
  | n, i :: path => (v.children n)[i]?.bind fun child => v.at? child path

/-- Each node is at one position only.  Empty places may be anywhere. -/
def View.IsTree (v : View) (root : Node) : Prop :=
  ∀ q q' n, v.at? root q = some n → v.at? root q' = some n → n ≠ .absent → q = q'

/-- No items stand below a node whose children do not matter. -/
def Items.Spares : Items → Prop
  | done => True
  | skip _ items => items.Spares
  | child e inside items => (e.ignoring = true → inside = done) ∧ inside.Spares ∧ items.Spares

def Pattern.Spares (p : Pattern) : Prop :=
  (p.expected.ignoring = true → p.items = .done) ∧ p.items.Spares

theorem Items.exists_of_mem_positions {items : Items} {i : Nat} {q : List Nat}
    (h : q ∈ items.positions i) : ∃ j path, q = j :: path ∧ i ≤ j := by
  induction items generalizing i with
  | done => cases h
  | skip count items ih =>
      obtain ⟨j, path, hq, hle⟩ := ih h
      exact ⟨j, path, hq, Nat.le_of_add_right_le hle⟩
  | child e inside items _ ih =>
      rcases List.mem_append.mp h with h | h
      · obtain ⟨path, -, rfl⟩ := List.mem_map.mp h
        exact ⟨i, path, rfl, Nat.le_refl i⟩
      · obtain ⟨j, path, hq, hle⟩ := ih h
        exact ⟨j, path, hq, Nat.le_of_succ_le hle⟩

/-- The position of a node comes after those below it. -/
theorem Items.nodup_concat {items : Items} {i : Nat} (h : (items.positions i).Nodup) :
    (items.positions i ++ [[]]).Nodup := by
  rw [List.nodup_append]
  refine ⟨h, List.nodup_singleton _, ?_⟩
  rintro q hq _ hnil rfl
  obtain ⟨j, path, rfl, -⟩ := exists_of_mem_positions hq
  cases List.mem_singleton.mp hnil

theorem Items.nodup_positions (items : Items) (i : Nat) : (items.positions i).Nodup := by
  induction items generalizing i with
  | done => exact List.nodup_nil
  | skip count items ih => exact ih (i + count)
  | child e inside items ihinside ih =>
      have hinside : ((inside.positions 0 ++ [[]]).map (i :: ·)).Nodup :=
        (nodup_concat (ihinside 0)).map fun _ _ heq => (List.cons.inj heq).2
      rw [positions, List.nodup_append]
      refine ⟨hinside, ih (i + 1), ?_⟩
      rintro q hq _ hq' rfl
      obtain ⟨path, -, rfl⟩ := List.mem_map.mp hq
      obtain ⟨j, path', heq, hle⟩ := exists_of_mem_positions hq'
      cases heq
      exact Nat.not_succ_le_self i hle

/-- No position is there twice. -/
theorem Pattern.nodup_positions (p : Pattern) : p.positions.Nodup :=
  Items.nodup_concat (p.items.nodup_positions 0)

/-! ## Visits at positions -/

/-- Visits of blocks with an implicit check: first at the positions where the body returned, then at
those where it was still running when a failure was raised, the innermost first. -/
def View.Shows (v : View) (n : Node) (called running : List (List Nat)) (visits : List Visit) : Prop :=
  visits.map (fun x => (some x.node, x.implicit, x.returned)) =
    called.map (fun q => (v.at? n q, true, true)) ++ running.map fun q => (v.at? n q, true, false)

namespace View.Shows

variable {v : View} {n m : Node} {called called' running : List (List Nat)}
  {visits visits' : List Visit}

theorem nil : v.Shows n [] [] [] := rfl

theorem append (h : v.Shows n called [] visits) (h' : v.Shows n called' running visits') :
    v.Shows n (called ++ called') running (visits ++ visits') := by
  unfold Shows at *
  rw [List.map_append, h, h', List.map_append, List.map_nil, List.append_nil, List.append_assoc]

/-- The block of the node itself is left by a failure. -/
theorem abandon (h : v.Shows n called running visits) :
    v.Shows n called (running ++ [[]]) (visits ++ [⟨n, true, false⟩]) := by
  unfold Shows at *
  rw [List.map_append, h, List.map_append, List.append_assoc]
  rfl

/-- The block of the node itself is left after its body. -/
theorem finish (h : v.Shows n called [] visits) :
    v.Shows n (called ++ [[]]) [] (visits ++ [⟨n, true, true⟩]) :=
  h.append rfl

/-- Positions below a child are positions below its parent. -/
theorem below {i : Nat} (h : v.Shows n called running visits) (hn : (v.children m)[i]? = some n) :
    v.Shows m (called.map (i :: ·)) (running.map (i :: ·)) visits := by
  have hat : ∀ q, v.at? m (i :: q) = v.at? n q := by
    intro q
    rw [at?, hn, Option.bind_some]
  unfold Shows at *
  simp only [h, List.map_map, Function.comp_def, hat]

theorem checks (h : v.Shows n called running visits) :
    (visits.filterMap Visit.check?).map some = called.map (v.at? n) := by
  have hcheck : ∀ xs : List Visit, (xs.filterMap Visit.check?).map some =
      ((xs.map fun x => (some x.node, x.implicit, x.returned)).filter fun x => x.2.1 && x.2.2).map
        (·.1) := by
    intro xs
    induction xs with
    | nil => rfl
    | cons x xs ih =>
        rcases x with ⟨node, _ | _, _ | _⟩ <;> simp [Visit.check?, ← ih]
  have hcalled : (called.map fun q => (v.at? n q, true, true)).filter (fun x => x.2.1 && x.2.2) =
      called.map fun q => (v.at? n q, true, true) := List.filter_eq_self.mpr (by simp)
  have hrunning : (running.map fun q => (v.at? n q, true, false)).filter (fun x => x.2.1 && x.2.2) =
      [] := List.filter_eq_nil_iff.mpr (by simp)
  rw [hcheck, h, List.filter_append, hcalled, hrunning, List.append_nil, List.map_map]
  rfl

end View.Shows

end TreeShape
