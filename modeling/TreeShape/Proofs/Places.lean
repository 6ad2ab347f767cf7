import TreeShape.Proofs.Replay.Finite

/-!
# Places of a tree

A place is a path from the root: the positions of the children on the way down.  The root's place is empty.
`places` lists the places that a dump with a limit shows, each before those below it.  They are all places of
the tree that the limit reaches, `mem_places`, and come in the order of the walk, in which a place stands
before its extensions and before the later siblings of each of them: this is the lexicographic order of
paths, `pairwise_places`.
-/

namespace TreeShape

namespace Tree

/-- The part of the tree at a place. -/
def at? (t : Tree) : List Nat → Option Tree
  | [] => some t
  | i :: p => t.subtrees[i]?.bind fun u => u.at? p

mutual

/-- The places that a dump with the limit shows, in the order of the walk. -/
def places (limit : DumpLimit) : Tree → List (List Nat)
  | .branch _ ts => [] :: if limit.isExhausted then [] else placesOf limit.below 0 ts

/-- The places in several children, the first of which has the given position. -/
def placesOf (limit : DumpLimit) (position : Nat) : List Tree → List (List Nat)
  | [] => []
  | t :: ts => (places limit t).map (position :: ·) ++ placesOf limit (position + 1) ts

end

variable {t u : Tree} {ts : List Tree} {limit : DumpLimit} {n : Node} {p : List Nat} {i : Nat}

@[simp] theorem at?_nil (t : Tree) : t.at? [] = some t := by rw [at?]

@[simp] theorem at?_branch_cons (n : Node) (ts : List Tree) (i : Nat) (p : List Nat) :
    (branch n ts).at? (i :: p) = ts[i]?.bind fun u => u.at? p := by rw [at?, subtrees]

theorem places_eq_cons (t : Tree) (limit : DumpLimit) : t.places limit = [] :: (t.places limit).tail := by
  cases t
  rw [places, List.tail_cons]

theorem mem_placesOf {position : Nat} : p ∈ placesOf limit position ts ↔
    ∃ i q, p = (position + i) :: q ∧ ∃ t, ts[i]? = some t ∧ q ∈ t.places limit := by
  induction ts generalizing position with
  | nil => simp [placesOf]
  | cons t ts ih =>
      rw [placesOf, List.mem_append, List.mem_map, ih]
      constructor
      · rintro (⟨q, hq, rfl⟩ | ⟨i, q, rfl, hi⟩)
        · exact ⟨0, q, rfl, t, rfl, hq⟩
        · exact ⟨i + 1, q, by rw [Nat.add_right_comm, Nat.add_assoc], hi⟩
      · rintro ⟨i, q, rfl, u, hu, hq⟩
        cases i with
        | zero =>
            obtain rfl : t = u := Option.some.inj hu
            exact .inl ⟨q, hq, rfl⟩
        | succ i => exact .inr ⟨i, q, by rw [Nat.add_right_comm, Nat.add_assoc], u, hu, hq⟩

/-- The places that are shown are those of the tree that are no deeper than the limit. -/
theorem mem_places : p ∈ t.places limit ↔ (t.at? p).isSome ∧ limit.Shows p.length := by
  induction t using Tree.induct generalizing limit p with
  | branch n ts ih =>
      cases p with
      | nil => simp [places, limit.shows_zero]
      | cons i p =>
          have hne : i :: p ≠ [] := List.cons_ne_nil i p
          rw [places, List.mem_cons, or_iff_right hne, List.length_cons, DumpLimit.shows_succ_iff,
            at?_branch_cons]
          cases hlimit : limit.isExhausted with
          | true => simp
          | false =>
              simp only [Bool.false_eq_true, if_false, mem_placesOf, Nat.zero_add, true_and]
              constructor
              · rintro ⟨_, _, heq, t, ht, hp⟩
                cases heq
                rw [ht, Option.bind_some]
                exact (ih t (List.mem_of_getElem? ht)).mp hp
              · rintro ⟨hsome, hshows⟩
                obtain ⟨t, ht⟩ : ∃ t, ts[i]? = some t := by
                  cases hget : ts[i]? with
                  | none => simp [hget] at hsome
                  | some t => exact ⟨t, rfl⟩
                rw [ht, Option.bind_some] at hsome
                exact ⟨i, p, rfl, t, ht, (ih t (List.mem_of_getElem? ht)).mpr ⟨hsome, hshows⟩⟩

/-- Places are listed in the lexicographic order of paths. -/
theorem pairwise_places (t : Tree) (limit : DumpLimit) : (t.places limit).Pairwise (· < ·) := by
  induction t using Tree.induct generalizing limit with
  | branch n ts ih =>
      rw [places, List.pairwise_cons]
      have hroot : ∀ {position : Nat} {ts : List Tree}, ∀ p ∈ placesOf limit.below position ts, [] < p := by
        intro position ts p hp
        obtain ⟨i, q, rfl, -⟩ := mem_placesOf.mp hp
        exact List.nil_lt_cons ..
      cases limit.isExhausted with
      | true => exact ⟨nofun, .nil⟩
      | false =>
          refine ⟨hroot, ?_⟩
          simp only [Bool.false_eq_true, if_false]
          -- The children from a position on, those in front of it being done.
          generalize 0 = position
          induction ts generalizing position with
          | nil => exact .nil
          | cons t ts ihts =>
              rw [placesOf, List.pairwise_append]
              refine ⟨?_, ihts (fun u hu => ih u (List.mem_cons_of_mem t hu)) (position + 1), ?_⟩
              · rw [List.pairwise_map]
                refine (ih t List.mem_cons_self limit.below).imp fun hlt => ?_
                exact List.cons_lt_cons_iff.mpr (.inr ⟨rfl, hlt⟩)
              · intro p hp q hq
                obtain ⟨p, -, rfl⟩ := List.mem_map.mp hp
                obtain ⟨i, q, rfl, -⟩ := mem_placesOf.mp hq
                exact List.cons_lt_cons_iff.mpr (.inl (by omega))

end Tree

end TreeShape
