import TreeShape.Proofs.Registry.Calls

/-!
# Links of registered trees

However trees overlap, and in whatever order they are registered and forgotten, a link is never wrong
and never outlives its tree: `links_true`.  But a link can be lost while its tree is registered.

## Strategy

* **No link is wrong.**  `Registry.IsTruthful` says that every link leads from a child to its parent in
  a tree that is registered.  The argument is about the call that wrote the link last.  As long as its
  tree has not been unregistered the tree is still there; and when it is, the walk comes to the child as
  it came to the parent, and takes the link with it.  For this a walk has to come with a node to all its
  children, `IsClosed`, as it does in finite trees.
* **Which links are lost.**  Unregistering a tree takes the links of all its nodes, also those that
  another registration still needs.  `IsComplete.unregister_iff` says that this is the only way: if no
  link was lost before, none is lost now just if the tree holds no child of a tree that stays.
  Registering loses nothing, as it overwrites a link only with another one.  `links_complete_iff`
  follows call by call; it is stated for all moments at once, since a link that was lost may be written
  again later.
-/

namespace TreeShape

namespace Registry

variable {children reached : Node → List Node} {r : Registry} {call : Call} {calls : List Call}
  {n p : Node}

/-- The root of the tree that a call is about. -/
def Call.root? : Call → Option Node
  | register root => some root
  | unregister root => some root
  | clear => none

/-- A walk comes with a node to all its children. -/
def IsClosed (children reached : Node → List Node) (root : Node) : Prop :=
  ∀ p ∈ reached root, ∀ n ∈ children p, n ∈ reached root

/-! ## No link is wrong -/

/-- Every link leads from a child to its parent in a tree that is registered. -/
def IsTruthful (children reached : Node → List Node) (r : Registry) : Prop :=
  ∀ n p, r.parent? n = some p → n ∈ children p ∧ ∃ root ∈ r.roots, p ∈ reached root

theorem isTruthful_empty : empty.IsTruthful children reached :=
  fun _ _ h => nomatch h

theorem IsTruthful.register (hr : r.IsTruthful children reached) (root : Node) :
    (r.register children (reached root) root).IsTruthful children reached := by
  intro n p hp
  rw [parent?_register, Option.or_eq_some_iff] at hp
  rw [roots_register]
  rcases hp with hp | ⟨-, hp⟩
  · obtain ⟨hreached, hn⟩ := List.mem_filter.mp (List.mem_of_getLast? hp)
    exact ⟨of_decide_eq_true hn, root, List.mem_append_right _ (List.mem_singleton.mpr rfl), hreached⟩
  · obtain ⟨hn, other, hother, hreached⟩ := hr n p hp
    exact ⟨hn, other, List.mem_append_left _ hother, hreached⟩

theorem IsTruthful.unregister (hr : r.IsTruthful children reached) {root : Node}
    (hclosed : IsClosed children reached root) :
    (r.unregister (reached root) root).IsTruthful children reached := by
  intro n p hp
  rw [parent?_unregister] at hp
  split at hp
  · cases hp
  · next hleft =>
      obtain ⟨hn, other, hother, hreached⟩ := hr n p hp
      -- The link of a node of the tree would be gone.
      have hne : other ≠ root := by
        rintro rfl
        exact hleft (hclosed p hreached n hn)
      rw [roots_unregister]
      exact ⟨hn, other, (List.mem_erase_of_ne hne).mpr hother, hreached⟩

theorem IsTruthful.after (hr : r.IsTruthful children reached)
    (hclosed : ∀ root, call.root? = some root → IsClosed children reached root) :
    (r.after children reached call).IsTruthful children reached := by
  cases call with
  | register root => exact hr.register root
  | unregister root =>
      rw [Registry.after]
      split
      · exact hr.unregister (hclosed root rfl)
      · exact hr
  | clear => exact isTruthful_empty

theorem isTruthful_afterAll
    (hclosed : ∀ call ∈ calls, ∀ root, call.root? = some root → IsClosed children reached root) :
    (empty.afterAll children reached calls).IsTruthful children reached := by
  induction calls using List.reverseRecOn with
  | nil => exact isTruthful_empty
  | append_singleton calls call ih =>
      rw [afterAll_concat]
      refine (ih fun c hc => hclosed c (List.mem_append_left _ hc)).after ?_
      exact hclosed call (List.mem_append_right _ (List.mem_singleton.mpr rfl))

/-! ## Which links are lost -/

/-- Every child in a registered tree has a link. -/
def IsComplete (children reached : Node → List Node) (r : Registry) : Prop :=
  ∀ root ∈ r.roots, ∀ p ∈ reached root, ∀ n ∈ children p, r.hasLink n = true

/-- A tree that is unregistered holds no child of a tree that stays. -/
def Call.Spares (children reached : Node → List Node) (r : Registry) : Call → Prop
  | unregister root => root ∈ r.roots → ∀ other ∈ r.roots.erase root, ∀ p ∈ reached other,
      ∀ n ∈ children p, n ∉ reached root
  | _ => True

theorem isComplete_empty : empty.IsComplete children reached :=
  fun _ h => nomatch h

theorem IsComplete.register (hr : r.IsComplete children reached) (root : Node) :
    (r.register children (reached root) root).IsComplete children reached := by
  intro other hother p hp n hn
  rw [hasLink_register]
  rw [roots_register, List.mem_append, List.mem_singleton] at hother
  rcases hother with hother | rfl
  · exact .inr (hr other hother p hp n hn)
  · exact .inl ⟨p, hp, hn⟩

theorem IsComplete.unregister_iff (hr : r.IsComplete children reached) (root : Node) :
    (r.unregister (reached root) root).IsComplete children reached ↔
      ∀ other ∈ r.roots.erase root, ∀ p ∈ reached other, ∀ n ∈ children p, n ∉ reached root := by
  unfold IsComplete
  simp only [roots_unregister, hasLink_unregister]
  constructor
  · intro h other hother p hp n hn
    exact (h other hother p hp n hn).1
  · intro h other hother p hp n hn
    exact ⟨h other hother p hp n hn, hr other (List.mem_of_mem_erase hother) p hp n hn⟩

theorem IsComplete.after_iff (hr : r.IsComplete children reached) :
    (r.after children reached call).IsComplete children reached ↔
      call.Spares children reached r := by
  cases call with
  | register root => exact iff_of_true (hr.register root) trivial
  | unregister root =>
      rw [Registry.after, Call.Spares]
      split
      · next h => exact (hr.unregister_iff root).trans ⟨fun h _ => h, fun h' => h' h⟩
      · next h => exact iff_of_true hr fun h' => absurd h' h
  | clear => exact iff_of_true isComplete_empty trivial

/-- All links are there at every time just if every tree that is unregistered spares the others. -/
theorem isComplete_afterAll_iff :
    (∀ cs, cs <+: calls → (empty.afterAll children reached cs).IsComplete children reached) ↔
      ∀ cs call, cs ++ [call] <+: calls →
        call.Spares children reached (empty.afterAll children reached cs) := by
  constructor
  · intro h cs call hcs
    have hbefore := h cs ((List.prefix_append cs [call]).trans hcs)
    have hafter := h _ hcs
    rw [afterAll_concat] at hafter
    exact hbefore.after_iff.mp hafter
  · intro h cs hcs
    induction cs using List.reverseRecOn with
    | nil => exact isComplete_empty
    | append_singleton cs call ih =>
        have hbefore := ih ((List.prefix_append cs [call]).trans hcs)
        rw [afterAll_concat]
        exact hbefore.after_iff.mpr (h cs call hcs)

end Registry

/-! ## What an adapter tells -/

namespace Registry.Call

variable {name : String} {naming : Naming} {calls : List Call} {s : Session}

/-- What the adapter of registered trees tells after several calls. -/
def viewAfter (name : String) (naming : Naming) (calls : List Call) (s : Session) : View :=
  (Adapter.registered name naming).view (runAll name calls s).world

/-- The trees that are registered after several calls. -/
def rootsAfter (name : String) (calls : List Call) (s : Session) : List Node :=
  ((runAll name calls s).world.registry name).roots

theorem children_viewAfter : (viewAfter name naming calls s).children = s.world.partChildren :=
  (sameNodes_runAll name calls s).partChildren_eq

theorem registry_of_empty (hs : s.world.registry name = .empty) :
    (runAll name calls s).world.registry name =
      empty.afterAll s.world.partChildren s.world.reached calls := by
  rw [registry_runAll, hs]

theorem isClosed_reached {w : World} {root : Node} (h : w.IsFinite root) :
    IsClosed w.partChildren w.reached root := by
  intro p hp n hn
  rw [World.mem_reached h] at hp ⊢
  exact hp.part (World.mem_parts_of_mem_partChildren hn)

theorem exists_call_of_mem_roots {children reached : Node → List Node} {root : Node}
    (h : root ∈ (empty.afterAll children reached calls).roots) :
    ∃ call ∈ calls, call.root? = some root := by
  -- The last call decides, so the induction takes it off.
  induction calls using List.reverseRecOn with
  | nil => cases h
  | append_singleton calls call ih =>
      have hlast : call ∈ calls ++ [call] := List.mem_append_right _ (List.mem_singleton.mpr rfl)
      have hbefore (h : root ∈ (empty.afterAll children reached calls).roots) :
          ∃ call' ∈ calls ++ [call], call'.root? = some root := by
        obtain ⟨call', hcall', hroot⟩ := ih h
        exact ⟨call', List.mem_append_left _ hcall', hroot⟩
      rw [afterAll_concat] at h
      cases call with
      | register other =>
          rw [after, roots_register, List.mem_append, List.mem_singleton] at h
          rcases h with h | rfl
          · exact hbefore h
          · exact ⟨_, hlast, rfl⟩
      | unregister other =>
          rw [after] at h
          split at h
          · exact hbefore (List.mem_of_mem_erase (roots_unregister _ _ other ▸ h))
          · exact hbefore h
      | clear => cases h

section

variable (hs : s.world.registry name = .empty)
  (hfinite : ∀ call ∈ calls, ∀ root, call.root? = some root → s.world.IsFinite root)

include hs hfinite

theorem isFinite_of_mem_rootsAfter {root : Node} (h : root ∈ rootsAfter name calls s) :
    s.world.IsFinite root := by
  rw [rootsAfter, registry_of_empty hs] at h
  obtain ⟨call, hcall, hroot⟩ := exists_call_of_mem_roots h
  exact hfinite call hcall root hroot

/-- A parent that is known has the node as a child, and is in a registered tree. -/
theorem mem_of_parent? {n p : Node}
    (hp : ((runAll name calls s).world.registry name).parent? n = some p) :
    n ∈ s.world.partChildren p ∧ ∃ root ∈ rootsAfter name calls s, s.world.Reaches root p := by
  have htrue := isTruthful_afterAll fun call hcall root hroot =>
    isClosed_reached (hfinite call hcall root hroot)
  rw [← registry_of_empty hs] at htrue
  obtain ⟨hn, root, hroot, hreached⟩ := htrue n p hp
  have hreaches := (World.mem_reached (isFinite_of_mem_rootsAfter hs hfinite hroot)).mp hreached
  exact ⟨hn, root, hroot, hreaches⟩

/-- Whether all links are there, as the adapter tells it. -/
theorem isComplete_iff (naming : Naming) :
    (empty.afterAll s.world.partChildren s.world.reached calls).IsComplete s.world.partChildren
        s.world.reached ↔
      ∀ root ∈ rootsAfter name calls s, ∀ p, s.world.Reaches root p →
        ∀ n ∈ s.world.partChildren p, (viewAfter name naming calls s).hasParentLink n = true := by
  rw [← registry_of_empty hs]
  refine forall₂_congr fun root hroot => forall_congr' fun p => ?_
  rw [World.mem_reached (isFinite_of_mem_rootsAfter hs hfinite hroot)]
  rfl

/-- Whether a tree that is unregistered next spares the others. -/
theorem spares_iff (root : Node) :
    Spares s.world.partChildren s.world.reached
        (empty.afterAll s.world.partChildren s.world.reached calls) (.unregister root) ↔
      (root ∈ rootsAfter name calls s → ∀ other ∈ (rootsAfter name calls s).erase root, ∀ p,
        s.world.Reaches other p → ∀ n ∈ s.world.partChildren p, ¬ s.world.Reaches root n) := by
  have hreached : ∀ other ∈ rootsAfter name calls s, ∀ n, n ∈ s.world.reached other ↔
      s.world.Reaches other n := fun other hother n =>
    World.mem_reached (isFinite_of_mem_rootsAfter hs hfinite hother)
  rw [← registry_of_empty hs]
  refine forall_congr' fun hroot => forall₂_congr fun other hother => forall_congr' fun p => ?_
  rw [hreached other (List.mem_of_mem_erase hother)]
  refine forall_congr' fun _ => forall₂_congr fun n _ => ?_
  rw [hreached root hroot]

end

/-- Whatever is registered and forgotten again, as long as all trees are finite.  A parent that is known
is a node of a registered tree, and the node is one of its children.  So a node that no registered tree
has is not linked, and no shared node is. -/
theorem links_true (s : Session) (name : String) (naming : Naming)
    (hs : s.world.registry name = .empty) (calls : List Call)
    (hfinite : ∀ call ∈ calls, ∀ root, call.root? = some root → s.world.IsFinite root) :
    (∀ n p, p ≠ .absent → (viewAfter name naming calls s).parent n = p →
      n ∈ (viewAfter name naming calls s).children p ∧
        ∃ root ∈ rootsAfter name calls s, s.world.Reaches root p) ∧
    (∀ n, (∀ root ∈ rootsAfter name calls s, ¬ s.world.Reaches root n) →
      (viewAfter name naming calls s).hasParentLink n = false) ∧
    ∀ n, s.world.hierarchy.isShared (s.world.typeOf n) = true →
      (viewAfter name naming calls s).hasParentLink n = false := by
  have hlinked : ∀ n, (viewAfter name naming calls s).hasParentLink n = true →
      ∃ p, n ∈ s.world.partChildren p ∧ ∃ root ∈ rootsAfter name calls s, s.world.Reaches root p := by
    intro n hn
    obtain ⟨p, hp⟩ := hasLink_iff.mp hn
    exact ⟨p, mem_of_parent? hs hfinite hp⟩
  rw [children_viewAfter]
  refine ⟨?_, ?_, ?_⟩
  · intro n p hne hparent
    refine mem_of_parent? hs hfinite ?_
    rw [← hparent] at hne ⊢
    exact parent?_of_parent_ne hne
  · intro n hnone
    refine Bool.eq_false_iff.mpr fun hn => ?_
    obtain ⟨p, hchild, root, hroot, hreaches⟩ := hlinked n hn
    exact hnone root hroot (hreaches.part (World.mem_parts_of_mem_partChildren hchild))
  · intro n hshared
    refine Bool.eq_false_iff.mpr fun hn => ?_
    obtain ⟨p, hchild, -⟩ := hlinked n hn
    rw [World.not_isShared_of_mem_partChildren hchild] at hshared
    cases hshared

/-- A crate is registered, then a box and the box inside it, which is unregistered again. -/
def sampleCalls : List Call :=
  [.register Sample.crate, .register Sample.outer, .register Sample.middle,
    .unregister Sample.middle]

theorem isFinite_of_sampleCalls :
    ∀ call ∈ sampleCalls, ∀ root, call.root? = some root → Sample.boxes.IsFinite root := by
  simp [sampleCalls, root?, Sample.isFinite_crate, Sample.isFinite_outer, Sample.isFinite_middle]

/-- Only the parcel is linked after that, to the crate; the mark of the boxes is not. -/
theorem links_true_of_boxes :
    Sample.boxSession.world.registry "boxes" = .empty ∧
    (∀ call ∈ sampleCalls, ∀ root, call.root? = some root → Sample.boxes.IsFinite root) ∧
    (viewAfter "boxes" {} sampleCalls Sample.boxSession).parent Sample.parcel = Sample.crate ∧
    (∃ root ∈ rootsAfter "boxes" sampleCalls Sample.boxSession,
      Sample.boxes.Reaches root Sample.crate) ∧
    (viewAfter "boxes" {} sampleCalls Sample.boxSession).hasParentLink Sample.sharedMark = false := by
  obtain ⟨hparents, -, hshared⟩ := links_true Sample.boxSession "boxes" {} rfl sampleCalls
    isFinite_of_sampleCalls
  have hparcel : (viewAfter "boxes" {} sampleCalls Sample.boxSession).parent Sample.parcel =
      Sample.crate := by decide
  exact ⟨rfl, isFinite_of_sampleCalls, hparcel,
    (hparents Sample.parcel Sample.crate (by decide) hparcel).2,
    hshared Sample.sharedMark (by decide)⟩

/-- At every time all children in registered trees are linked just if no tree is unregistered that has a
child of a tree which stays registered. -/
theorem links_complete_iff (s : Session) (name : String) (naming : Naming)
    (hs : s.world.registry name = .empty) (calls : List Call)
    (hfinite : ∀ call ∈ calls, ∀ root, call.root? = some root → s.world.IsFinite root) :
    (∀ cs, cs <+: calls → ∀ root ∈ rootsAfter name cs s, ∀ p, s.world.Reaches root p →
      ∀ n ∈ (viewAfter name naming cs s).children p,
        (viewAfter name naming cs s).hasParentLink n = true) ↔
    ∀ cs root, cs ++ [.unregister root] <+: calls → root ∈ rootsAfter name cs s →
      ∀ other ∈ (rootsAfter name cs s).erase root, ∀ p, s.world.Reaches other p →
        ∀ n ∈ (viewAfter name naming cs s).children p, ¬ s.world.Reaches root n := by
  have hbefore : ∀ cs, cs <+: calls → ∀ call ∈ cs, ∀ root, call.root? = some root →
      s.world.IsFinite root := fun cs hcs call hcall => hfinite call (hcs.subset hcall)
  -- Links are lost only when a tree is unregistered, and only those of nodes it has itself.
  have hspares := fun cs root (hcs : cs ++ [.unregister root] <+: calls) =>
    spares_iff hs (hbefore cs ((List.prefix_append cs [.unregister root]).trans hcs)) root
  simp only [children_viewAfter]
  constructor
  · intro h cs root hcs
    refine (hspares cs root hcs).mp (isComplete_afterAll_iff.mp ?_ cs (.unregister root) hcs)
    exact fun cs hcs => (isComplete_iff hs (hbefore cs hcs) naming).mpr (h cs hcs)
  · intro h cs hcs
    refine (isComplete_iff hs (hbefore cs hcs) naming).mp (isComplete_afterAll_iff.mpr ?_ cs hcs)
    intro cs call hcs
    cases call with
    | unregister root => exact (hspares cs root hcs).mpr (h cs root hcs)
    | register root => exact trivial
    | clear => exact trivial

/-- A box and a crate are registered, and the crate is unregistered again. -/
def apartCalls : List Call :=
  [.register Sample.outer, .register Sample.crate, .unregister Sample.crate]

theorem isFinite_of_apartCalls :
    ∀ call ∈ apartCalls, ∀ root, call.root? = some root → Sample.boxes.IsFinite root := by
  simp [apartCalls, root?, Sample.isFinite_crate, Sample.isFinite_outer]

/-- The crate has the mark of the box and nothing else of it, so all that is in the box stays linked. -/
theorem links_complete_of_boxes :
    Sample.boxSession.world.registry "boxes" = .empty ∧
    (∀ call ∈ apartCalls, ∀ root, call.root? = some root → Sample.boxes.IsFinite root) ∧
    rootsAfter "boxes" apartCalls Sample.boxSession = [Sample.outer] ∧
    ∀ p, Sample.boxes.Reaches Sample.outer p →
      ∀ n ∈ (viewAfter "boxes" {} apartCalls Sample.boxSession).children p,
        (viewAfter "boxes" {} apartCalls Sample.boxSession).hasParentLink n = true := by
  refine ⟨rfl, isFinite_of_apartCalls, rfl, ?_⟩
  refine (links_complete_iff Sample.boxSession "boxes" {} rfl apartCalls
    isFinite_of_apartCalls).mpr ?_ apartCalls (List.prefix_refl _) Sample.outer (by decide)
  have hapart : ∀ p ∈ Sample.boxes.reached Sample.outer, ∀ n ∈ Sample.boxes.partChildren p,
      n ∉ Sample.boxes.reached Sample.crate := by decide
  intro cs root hcs _ other hother p hp n hn hreaches
  -- Only the last of the calls unregisters a tree.
  obtain ⟨rfl, rfl⟩ : cs = [.register Sample.outer, .register Sample.crate] ∧
      root = Sample.crate := by
    rcases cs with _ | ⟨first, _ | ⟨second, _ | ⟨third, cs⟩⟩⟩
    all_goals simp_all [apartCalls]
  obtain rfl : other = Sample.outer := List.mem_singleton.mp hother
  rw [children_viewAfter] at hn
  exact hapart p ((World.mem_reached Sample.isFinite_outer).mpr hp) n hn
    ((World.mem_reached Sample.isFinite_crate).mpr hreaches)

/-- A box inside a registered one loses its link when it has been registered itself and is unregistered
again. -/
theorem links_lost_of_boxes :
    Sample.boxSession.world.registry "boxes" = .empty ∧
    (∀ call ∈ sampleCalls, ∀ root, call.root? = some root → Sample.boxes.IsFinite root) ∧
    Sample.outer ∈ rootsAfter "boxes" sampleCalls Sample.boxSession ∧
    Sample.boxes.Reaches Sample.outer Sample.outer ∧
    Sample.middle ∈ (viewAfter "boxes" {} sampleCalls Sample.boxSession).children Sample.outer ∧
    (viewAfter "boxes" {} sampleCalls Sample.boxSession).hasParentLink Sample.middle = false :=
  ⟨rfl, isFinite_of_sampleCalls, by decide, .refl, by decide, by decide⟩

end Registry.Call

end TreeShape
