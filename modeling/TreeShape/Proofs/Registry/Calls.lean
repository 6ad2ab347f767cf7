import Mathlib.Data.List.Induction
import TreeShape.Program.Machine
import TreeShape.Proofs.Registry.Walks

/-!
# Calls of a registry

Trees are registered and unregistered one call at a time, in any order, and now and then all are
forgotten.  A call does to the registry what `Registry.after` says, given the children of the nodes and
the nodes that each root reaches; it does nothing to the types and the nodes, and nothing at all if it
is to unregister a tree that is not registered.

`parent?_register` and `parent?_unregister` say what a call does to the parent of a node.  A
registration overwrites it with the last node of the walk that has the node among its children; an
unregistration takes it from every node of the walk, whoever wrote it.

What is shown in the modules after this one is shown of registries and lists of calls.  As calls do not
touch the nodes, the children and what roots reach are the same at all times, so that calls made in a
session come to the same, `Call.registry_runAll`.
-/

namespace TreeShape

namespace Registry

variable {children reached : Node → List Node} {r : Registry} {root n p : Node}

/-! ## The parent of a node -/

theorem parent?_linkChildren (r : Registry) (p n : Node) :
    (r.linkChildren children p).parent? n = if n ∈ children p then some p else r.parent? n := by
  unfold linkChildren
  generalize children p = cs
  induction cs generalizing r with
  | nil => simp
  | cons c cs ih =>
      rw [List.foldl_cons, ih, parent?_link]
      by_cases hc : n = c <;> simp [hc]

theorem parent?_register (r : Registry) (nodes : List Node) (root n : Node) :
    (r.register children nodes root).parent? n =
      ((nodes.filter fun p => n ∈ children p).getLast?).or (r.parent? n) := by
  unfold register
  have hstart : r.parent? n = parent? { r with roots := r.roots ++ [root] } n := rfl
  rw [hstart]
  generalize { r with roots := r.roots ++ [root] } = s
  induction nodes generalizing s with
  | nil => rfl
  | cons p nodes ih =>
      rw [List.foldl_cons, ih, parent?_linkChildren]
      by_cases hp : n ∈ children p
      · simp [hp, List.getLast?_cons]
      · simp [hp]

theorem parent?_unregister (r : Registry) (nodes : List Node) (root n : Node) :
    (r.unregister nodes root).parent? n = if n ∈ nodes then none else r.parent? n := by
  unfold unregister
  have hstart : r.parent? n = parent? { r with roots := r.roots.erase root } n := rfl
  rw [hstart]
  generalize { r with roots := r.roots.erase root } = s
  induction nodes generalizing s with
  | nil => simp
  | cons m nodes ih =>
      rw [List.foldl_cons, ih, parent?_unlink]
      by_cases hm : n = m <;> simp [hm]

theorem hasLink_iff : r.hasLink n = true ↔ ∃ p, r.parent? n = some p := Option.isSome_iff_exists

/-- A parent that is there has been recorded. -/
theorem parent?_of_parent_ne (h : r.parent n ≠ .absent) : r.parent? n = some (r.parent n) := by
  unfold parent at h ⊢
  cases hp : r.parent? n with
  | none => simp [hp] at h
  | some p => rfl

theorem hasLink_register (r : Registry) (nodes : List Node) (root n : Node) :
    (r.register children nodes root).hasLink n = true ↔
      (∃ p ∈ nodes, n ∈ children p) ∨ r.hasLink n = true := by
  rw [hasLink, parent?_register, Option.isSome_or, Bool.or_eq_true, List.getLast?_isSome]
  refine or_congr ?_ Iff.rfl
  simp [List.filter_eq_nil_iff]

theorem hasLink_unregister (r : Registry) (nodes : List Node) (root n : Node) :
    (r.unregister nodes root).hasLink n = true ↔ n ∉ nodes ∧ r.hasLink n = true := by
  rw [hasLink, parent?_unregister]
  split
  · next h => simp [h]
  · next h => simp [h, hasLink]

/-! ## The roots -/

theorem roots_linkChildren (r : Registry) (p : Node) :
    (r.linkChildren children p).roots = r.roots := by
  unfold linkChildren
  generalize children p = cs
  induction cs generalizing r with
  | nil => rfl
  | cons c cs ih => rw [List.foldl_cons, ih, link]

theorem roots_register (r : Registry) (nodes : List Node) (root : Node) :
    (r.register children nodes root).roots = r.roots ++ [root] := by
  have hfold : ∀ s : Registry, (nodes.foldl (linkChildren children) s).roots = s.roots := by
    induction nodes with
    | nil => exact fun s => rfl
    | cons p nodes ih => exact fun s => (ih _).trans (roots_linkChildren s p)
  exact hfold _

theorem roots_unregister (r : Registry) (nodes : List Node) (root : Node) :
    (r.unregister nodes root).roots = r.roots.erase root := by
  have hfold : ∀ s : Registry, (nodes.foldl unlink s).roots = s.roots := by
    induction nodes with
    | nil => exact fun s => rfl
    | cons m nodes ih => exact fun s => ih _
  exact hfold _

/-! ## Calls -/

inductive Call where
  | register (root : Node)
  | unregister (root : Node)
  | clear
  deriving DecidableEq, Repr

/-- The registry after a call, given the children of nodes and what roots reach. -/
def after (children reached : Node → List Node) (r : Registry) : Call → Registry
  | .register root => r.register children (reached root) root
  | .unregister root => if root ∈ r.roots then r.unregister (reached root) root else r
  | .clear => empty

/-- The registry after several calls. -/
def afterAll (children reached : Node → List Node) (r : Registry) (calls : List Call) : Registry :=
  calls.foldl (after children reached) r

theorem afterAll_concat (calls : List Call) (call : Call) :
    r.afterAll children reached (calls ++ [call]) =
      (r.afterAll children reached calls).after children reached call := by
  rw [afterAll, List.foldl_concat, afterAll]

end Registry

/-! ## Calls in a session -/

namespace World

theorem registry_setRegistry (w : World) (name : String) (r : Registry) :
    (w.setRegistry name r).registry name = r := by
  simp [registry, setRegistry]

end World

namespace Registry

open Run

/-- The step of a session that a call of the registry of a name is. -/
def Call.run (name : String) : Call → Run Unit
  | register root => Action.runRegister name root
  | unregister root => Action.runUnregister name root
  | clear => Run.modifyWorld (·.clearRegistry name)

/-- The session after several calls, each of which may have failed. -/
def Call.runAll (name : String) (calls : List Call) (s : Session) : Session :=
  calls.foldl (fun s call => (call.run name s).2) s

theorem Call.runAll_concat (name : String) (calls : List Call) (call : Call) (s : Session) :
    runAll name (calls ++ [call]) s = (call.run name (runAll name calls s)).2 := by
  rw [runAll, List.foldl_concat, runAll]

variable {name : String} {s : Session} {root : Node}

theorem Call.run_register (name : String) (root : Node) (s : Session) :
    ((register root).run name s).2 = { s with world := s.world.register name root } := by
  simp only [Call.run, Action.runRegister, modifyWorld, bind_apply, world_apply, modify_apply,
    andThen_ok]
  cases s.world.reachRefusal root <;> rfl

/-- To unregister a tree that is not registered fails and does nothing. -/
theorem Call.run_unregister_of_not_mem (h : root ∉ (s.world.registry name).roots) :
    (unregister root).run name s = (.error (.unregistered (s.world.typeNameOf root)), s) := by
  have hregistered : s.world.isRegistered name root = false := by simpa [World.isRegistered] using h
  simp only [Call.run, Action.runUnregister, bind_apply, world_apply, andThen_ok, hregistered]
  rfl

theorem Call.run_unregister_of_mem (h : root ∈ (s.world.registry name).roots) :
    ((unregister root).run name s).2 = { s with world := s.world.unregister name root } := by
  have hregistered : s.world.isRegistered name root = true := by simpa [World.isRegistered] using h
  simp only [Call.run, Action.runUnregister, modifyWorld, bind_apply, world_apply, andThen_ok,
    hregistered]
  cases s.world.reachRefusal root <;> rfl

/-- A call leaves the types and the nodes alone. -/
theorem Call.sameNodes_run (name : String) (call : Call) (s : Session) :
    s.world.SameNodes (call.run name s).2.world := by
  cases call with
  | register root => exact Call.run_register name root s ▸ .setRegistry ..
  | unregister root =>
      by_cases h : root ∈ (s.world.registry name).roots
      · exact Call.run_unregister_of_mem h ▸ .setRegistry ..
      · exact Call.run_unregister_of_not_mem h ▸ .refl _
  | clear => exact .setRegistry ..

theorem Call.registry_run (name : String) (call : Call) (s : Session) :
    (call.run name s).2.world.registry name =
      (s.world.registry name).after s.world.partChildren s.world.reached call := by
  cases call with
  | register root => exact Call.run_register name root s ▸ World.registry_setRegistry ..
  | unregister root =>
      rw [after]
      split
      · next h => exact Call.run_unregister_of_mem h ▸ World.registry_setRegistry ..
      · next h => rw [Call.run_unregister_of_not_mem h]
  | clear => exact World.registry_setRegistry ..

theorem Call.sameNodes_runAll (name : String) (calls : List Call) (s : Session) :
    s.world.SameNodes (runAll name calls s).world := by
  induction calls using List.reverseRecOn with
  | nil => exact .refl _
  | append_singleton calls call ih => exact runAll_concat .. ▸ ih.trans (sameNodes_run ..)

/-- What several calls of a session do to the registry depends on the nodes and their parts alone. -/
theorem Call.registry_runAll (name : String) (calls : List Call) (s : Session) :
    (runAll name calls s).world.registry name =
      (s.world.registry name).afterAll s.world.partChildren s.world.reached calls := by
  induction calls using List.reverseRecOn with
  | nil => rfl
  | append_singleton calls call ih =>
      have hsame := sameNodes_runAll name calls s
      rw [runAll_concat, registry_run, ih, afterAll_concat, hsame.partChildren_eq, hsame.reached_eq]

end Registry

end TreeShape
