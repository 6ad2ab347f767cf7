import TreeShape.Proofs.Navigation.Ancestors

/-!
# Siblings

The siblings of a node are read off the children of its parent: those behind the first place of the
node, and, backwards, those in front of it.  Where the parent lists the node this splits the children
around it, `View.siblings_split`.

A parent need not list the node.  Its index is then `-1`, and one more than this is the position of the
first child: all children come after such a node, `View.siblingsAgree_iff`.

All of it is about the first place of the node among the children of its parent, `siblings_of_split`.
If the children are all different, the node has no other place, so that the next sibling of a node is
the one right behind it and the previous one that right in front of it; going on from sibling to sibling
passes the rest of the list, `passes_nextSibling`.  Where a node is listed twice this fails, as the
second place is never seen.
-/

namespace TreeShape

/-- A question that is about the siblings of a node. -/
def NodeQuestion.isSideways : NodeQuestion → Bool
  | .childIndex | .nextSibling | .previousSibling => true
  | .walk .followingSiblings _ | .walk .precedingSiblings _ => true
  | _ => false

namespace View

variable {v : View} {n m p a b : Node} {children before after : List Node}

/-- The index of a node among the children of its parent as the answer to a question has it. -/
def childNumber (v : View) (n : Node) : Int := ((v.childIndex? n).map Int.ofNat).getD (-1)

/-! ## Questions -/

theorem siblingSource_of_ne (h : v.parent n ≠ .absent) : v.siblingSource n = [v.parent n] := by
  unfold siblingSource
  split
  · next heq => exact absurd heq h
  · rfl

theorem mem_of_mem_askedFor {q : NodeQuestion} (hq : q.isSideways = true) (hm : m ∈ v.askedFor n q) :
    m ∈ v.siblingSource n := by
  cases q with
  | childIndex | nextSibling | previousSibling => exact hm
  | walk w count =>
      cases w with
      | followingSiblings | precedingSiblings =>
          cases hcount : count.map Int.toNat with
          | none =>
              rw [askedFor, hcount] at hm
              exact hm
          | some k =>
              rw [askedFor, hcount] at hm
              cases k with
              | zero => cases hm
              | succ k => exact hm
      | descendants | descendantsOrSelf | ancestors | ancestorsOrSelf => cases hq
  | children | childCount | childAt | isLeaf | parent | hasParentLink | depth | name => cases hq

/-- What is asked about the siblings of a node is answered if the parent tells its children. -/
theorem answer_of_isSideways (hp : v.parent n ≠ .absent) (hask : v.refusal (v.parent n) = none)
    {q : NodeQuestion} (hside : q.isSideways = true) (hq : q.isSensible = true) :
    v.answer n q = .ok (v.plainAnswer n q) := by
  have hnone : (v.askedFor n q).findSome? v.refusal = none := by
    refine List.findSome?_eq_none_iff.mpr fun m hm => ?_
    have hsource := mem_of_mem_askedFor hside hm
    rw [siblingSource_of_ne hp, List.mem_singleton] at hsource
    rwa [hsource]
  rw [answer, if_pos hq, askAll, hnone]
  rfl

/-! ## Listed nodes -/

theorem childIndex?_of_ne (h : v.parent n ≠ .absent) :
    v.childIndex? n = position? (v.children (v.parent n)) n := by
  unfold childIndex?
  split
  · next heq => exact absurd heq h
  · rfl

theorem followingSiblings_of_absent (h : v.parent n = .absent) : v.followingSiblings n = [] := by
  rw [followingSiblings, h]

theorem precedingSiblings_of_absent (h : v.parent n = .absent) : v.precedingSiblings n = [] := by
  rw [precedingSiblings, h]

theorem followingSiblings_of_ne (h : v.parent n ≠ .absent) :
    v.followingSiblings n = (v.children (v.parent n)).drop (v.childNumber n + 1).toNat := by
  unfold followingSiblings childNumber
  split
  · next heq => exact absurd heq h
  · split
    · next hnone => rw [hnone]; rfl
    · next i hi => rw [hi]; rfl

theorem precedingSiblings_of_ne (h : v.parent n ≠ .absent) :
    v.precedingSiblings n = ((v.children (v.parent n)).take (v.childNumber n).toNat).reverse := by
  unfold precedingSiblings childNumber
  split
  · next heq => exact absurd heq h
  · split
    · next hnone => rw [hnone]; rfl
    · next i hi => rw [hi]; rfl

/-- A node that does not occur earlier stands where its index says, between its siblings. -/
theorem siblings_of_split (hp : v.parent n ≠ .absent)
    (hsplit : v.children (v.parent n) = before ++ n :: after) (hfirst : n ∉ before) :
    v.childNumber n = before.length ∧ v.followingSiblings n = after ∧
      v.precedingSiblings n = before.reverse := by
  have hindex : v.childIndex? n = some before.length := by
    rw [childIndex?_of_ne hp, position?_eq_some_iff, hsplit, List.take_left]
    exact ⟨by rw [List.getElem?_append_right (Nat.le_refl _), Nat.sub_self]; rfl, hfirst⟩
  have hnumber : v.childNumber n = before.length := by
    rw [childNumber, hindex]
    rfl
  refine ⟨hnumber, ?_, ?_⟩
  · have hbehind : ((before.length : Int) + 1).toNat = (before ++ [n]).length := by
      rw [List.length_append, List.length_singleton]
      omega
    rw [followingSiblings_of_ne hp, hnumber, hsplit, hbehind, List.append_cons before n after,
      List.drop_left]
  · rw [precedingSiblings_of_ne hp, hnumber, hsplit, Int.toNat_natCast, List.take_left]

/-! ## Neighbours -/

section Distinct

variable (hp : p ≠ .absent) (honce : (v.children p).Nodup)
  (hlinked : ∀ c ∈ v.children p, c ≠ .absent ∧ v.parent c = p)

include hp honce hlinked

theorem siblings_of_distinct (hsplit : v.children p = before ++ n :: after) :
    v.followingSiblings n = after ∧ v.precedingSiblings n = before.reverse := by
  have hn : n ∈ v.children p := hsplit ▸ List.mem_append_right _ List.mem_cons_self
  obtain ⟨-, rfl⟩ := hlinked n hn
  have hfirst : n ∉ before := by
    intro hmem
    rw [hsplit] at honce
    exact (List.disjoint_of_nodup_append honce) hmem List.mem_cons_self
  exact (siblings_of_split hp hsplit hfirst).2

/-- The next sibling of a child is the one that stands right behind it. -/
theorem nextSibling_eq_iff (ha : a ∈ v.children p) (hb : b ∈ v.children p) :
    v.nextSibling a = b ↔ ∃ before after, v.children p = before ++ a :: b :: after := by
  constructor
  · intro hnext
    obtain ⟨before, after, hsplit⟩ := List.append_of_mem ha
    obtain ⟨hfollowing, -⟩ := siblings_of_distinct hp honce hlinked hsplit
    rw [nextSibling, hfollowing] at hnext
    cases after with
    | nil => exact absurd hnext.symm (hlinked b hb).1
    | cons c after => exact ⟨before, after, hnext ▸ hsplit⟩
  · rintro ⟨before, after, hsplit⟩
    rw [nextSibling, (siblings_of_distinct hp honce hlinked hsplit).1]
    rfl

/-- The previous sibling of a child is the one that stands right in front of it. -/
theorem previousSibling_eq_iff (ha : a ∈ v.children p) (hb : b ∈ v.children p) :
    v.previousSibling b = a ↔ ∃ before after, v.children p = before ++ a :: b :: after := by
  constructor
  · intro hprevious
    obtain ⟨before, after, hsplit⟩ := List.append_of_mem hb
    obtain ⟨-, hpreceding⟩ := siblings_of_distinct hp honce hlinked hsplit
    rw [previousSibling, hpreceding] at hprevious
    rcases List.eq_nil_or_concat' before with rfl | ⟨front, c, rfl⟩
    · exact absurd hprevious.symm (hlinked a ha).1
    · rw [List.reverse_concat] at hprevious
      obtain rfl : c = a := hprevious
      exact ⟨front, after, hsplit.trans (List.append_cons front c _).symm⟩
  · rintro ⟨before, after, hsplit⟩
    have hsplit' : v.children p = (before ++ [a]) ++ b :: after :=
      hsplit.trans (List.append_cons before a _)
    rw [previousSibling, (siblings_of_distinct hp honce hlinked hsplit').2, List.reverse_concat]
    rfl

/-- Going on from sibling to sibling passes the children from there on. -/
theorem passes_nextSibling (hsplit : v.children p = before ++ after) :
    Passes v.nextSibling (after.headD .absent) after := by
  induction after generalizing before with
  | nil => exact .done
  | cons c rest ih =>
      have hc : c ∈ v.children p := hsplit ▸ List.mem_append_right _ List.mem_cons_self
      have hnext : v.nextSibling c = rest.headD .absent := by
        rw [nextSibling, (siblings_of_distinct hp honce hlinked hsplit).1]
      have hrest : v.children p = (before ++ [c]) ++ rest := hsplit.trans (List.append_cons before c rest)
      exact .step (hlinked c hc).1 (hnext ▸ ih hrest)

end Distinct

/-- The siblings of a node that its parent lists split the children of the parent around the first place of
the node.  Where the children are distinct and have this parent, the next sibling of a child is another just
if that has the child as its previous sibling, and going on from sibling to sibling, from the first child on,
one passes the children in order and comes to an end. -/
theorem siblings_split (hp : p ≠ .absent) (hask : v.ask p = .ok children) :
    (∀ n ∈ children, v.parent n = p →
      (∀ q : NodeQuestion, q.isSideways = true → q.isSensible = true →
        v.answer n q = .ok (v.plainAnswer n q)) ∧
      (∃ i : Nat, v.childNumber n = i ∧ children[i]? = some n ∧ ∀ j < i, children[j]? ≠ some n) ∧
      (v.precedingSiblings n).reverse ++ n :: v.followingSiblings n = children) ∧
    (children.Nodup → (∀ c ∈ children, c ≠ .absent ∧ v.parent c = p) →
      (∀ a ∈ children, ∀ b ∈ children, v.nextSibling a = b ↔ v.previousSibling b = a) ∧
      Passes v.nextSibling (children.headD .absent) children) := by
  obtain ⟨hrefusal, rfl⟩ := ask_eq_ok_iff.mp hask
  constructor
  · rintro n hn rfl
    obtain ⟨before, after, hsplit, hfirst⟩ := List.eq_append_cons_of_mem hn
    obtain ⟨hnumber, hfollowing, hpreceding⟩ := siblings_of_split hp hsplit hfirst
    refine ⟨fun q => answer_of_isSideways hp hrefusal, ⟨before.length, hnumber, ?_, fun j hj => ?_⟩, ?_⟩
    · rw [hsplit, List.getElem?_append_right (Nat.le_refl _), Nat.sub_self]
      rfl
    · rw [hsplit, List.getElem?_append_left hj]
      exact fun heq => hfirst (List.mem_of_getElem? heq)
    · rw [hfollowing, hpreceding, List.reverse_reverse, hsplit]
  · intro honce hlinked
    have hpasses := passes_nextSibling hp honce hlinked (List.nil_append (v.children p)).symm
    refine ⟨fun a ha b hb => ?_, hpasses⟩
    rw [nextSibling_eq_iff hp honce hlinked ha hb, previousSibling_eq_iff hp honce hlinked ha hb]

end View

namespace Sample

/-- The second child of the outer pair stands behind the first, and they are all there are. -/
theorem siblings_split_family :
    kin.ask (.object 0) = .ok [.object 1, .object 2] ∧ kin.childNumber (.object 2) = 1 ∧
    (kin.precedingSiblings (.object 2)).reverse ++ .object 2 :: kin.followingSiblings (.object 2) =
      [.object 1, .object 2] ∧
    (kin.nextSibling (.object 1) = .object 2 ↔ kin.previousSibling (.object 2) = .object 1) ∧
    Passes kin.nextSibling (.object 1) [.object 1, .object 2] := by
  have hask : kin.ask (.object 0) = .ok [.object 1, .object 2] := rfl
  obtain ⟨hlisted, hdistinct⟩ := View.siblings_split (by decide) hask
  obtain ⟨-, ⟨i, hnumber, hi, hfirst⟩, hsplit⟩ := hlisted (.object 2) (by decide) rfl
  obtain ⟨hneighbours, hpasses⟩ := hdistinct (by decide) (by decide)
  exact ⟨hask, by decide, hsplit, hneighbours _ (by decide) _ (by decide), hpasses⟩

end Sample

/-! ## Nodes that are not listed -/

namespace View

variable {v : View} {n : Node}

/-- The siblings of a node agree with its index: those that follow stand behind it and those that precede in
front of it, and a node with index `-1` has none. -/
structure SiblingsAgree (v : View) (n : Node) : Prop where
  following : ∀ m ∈ v.followingSiblings n,
    ∃ i : Nat, (v.children (v.parent n))[i]? = some m ∧ v.childNumber n < i
  preceding : ∀ m ∈ v.precedingSiblings n,
    ∃ i : Nat, (v.children (v.parent n))[i]? = some m ∧ i < v.childNumber n
  unlisted : v.childNumber n = -1 →
    v.followingSiblings n = [] ∧ v.precedingSiblings n = [] ∧
      v.nextSibling n = .absent ∧ v.previousSibling n = .absent

theorem childNumber_eq_neg_one_iff :
    v.childNumber n = -1 ↔ v.parent n = .absent ∨ n ∉ v.children (v.parent n) := by
  have hnone : v.childNumber n = -1 ↔ v.childIndex? n = none := by
    unfold childNumber
    cases v.childIndex? n <;> simp
  rw [hnone]
  by_cases hp : v.parent n = .absent
  · simp [childIndex?, hp]
  · rw [childIndex?_of_ne hp, position?_eq_none_iff]
    exact (or_iff_right hp).symm

/-- What follows a node stands behind its index. -/
theorem exists_position_of_mem_followingSiblings {m : Node} (hm : m ∈ v.followingSiblings n) :
    ∃ i : Nat, (v.children (v.parent n))[i]? = some m ∧ v.childNumber n < i := by
  by_cases hp : v.parent n = .absent
  · rw [followingSiblings_of_absent hp] at hm
    cases hm
  · rw [followingSiblings_of_ne hp] at hm
    obtain ⟨j, hj⟩ := List.getElem?_of_mem hm
    rw [List.getElem?_drop] at hj
    exact ⟨_, hj, by omega⟩

/-- What precedes a node stands in front of its index. -/
theorem exists_position_of_mem_precedingSiblings {m : Node} (hm : m ∈ v.precedingSiblings n) :
    ∃ i : Nat, (v.children (v.parent n))[i]? = some m ∧ i < v.childNumber n := by
  by_cases hp : v.parent n = .absent
  · rw [precedingSiblings_of_absent hp] at hm
    cases hm
  · rw [precedingSiblings_of_ne hp, List.mem_reverse] at hm
    obtain ⟨j, hj, hget⟩ := List.mem_take_iff_getElem.mp hm
    exact ⟨j, by rw [List.getElem?_eq_getElem (by omega), hget], by omega⟩

theorem precedingSiblings_of_unlisted (h : v.childNumber n = -1) : v.precedingSiblings n = [] := by
  by_cases hp : v.parent n = .absent
  · exact precedingSiblings_of_absent hp
  · rw [precedingSiblings_of_ne hp, h]
    rfl

/-- All children come after a node that its parent does not list. -/
theorem followingSiblings_of_unlisted (hp : v.parent n ≠ .absent) (h : v.childNumber n = -1) :
    v.followingSiblings n = v.children (v.parent n) := by
  rw [followingSiblings_of_ne hp, h]
  rfl

/-- Whatever the links say, what follows a node stands behind its index and what precedes it in front of it.
Nothing precedes a node with index `-1`.  But what follows it are all children of its parent, so that the
siblings of a node agree with its index just if the node has no parent, or one that lists it, or one that
lists nothing. -/
theorem siblingsAgree_iff (v : View) (n : Node) :
    (∀ m ∈ v.followingSiblings n,
      ∃ i : Nat, (v.children (v.parent n))[i]? = some m ∧ v.childNumber n < i) ∧
    (∀ m ∈ v.precedingSiblings n,
      ∃ i : Nat, (v.children (v.parent n))[i]? = some m ∧ i < v.childNumber n) ∧
    (v.childNumber n = -1 ↔ v.parent n = .absent ∨ n ∉ v.children (v.parent n)) ∧
    (v.childNumber n = -1 → v.precedingSiblings n = [] ∧ v.previousSibling n = .absent ∧
      v.followingSiblings n = if v.parent n = .absent then [] else v.children (v.parent n)) ∧
    (v.SiblingsAgree n ↔
      v.parent n = .absent ∨ n ∈ v.children (v.parent n) ∨ v.children (v.parent n) = []) := by
  -- An unlisted node counts as standing in front of all children.
  have hunlisted : v.childNumber n = -1 → v.precedingSiblings n = [] ∧ v.previousSibling n = .absent ∧
      v.followingSiblings n = if v.parent n = .absent then [] else v.children (v.parent n) := by
    intro h
    have hpreceding := precedingSiblings_of_unlisted h
    refine ⟨hpreceding, by rw [previousSibling, hpreceding]; rfl, ?_⟩
    split
    · next hp => exact followingSiblings_of_absent hp
    · next hp => exact followingSiblings_of_unlisted hp h
  refine ⟨fun _ => exists_position_of_mem_followingSiblings,
    fun _ => exists_position_of_mem_precedingSiblings, childNumber_eq_neg_one_iff, hunlisted, ?_⟩
  constructor
  · intro hagree
    by_cases hp : v.parent n = .absent
    · exact .inl hp
    by_cases hlisted : n ∈ v.children (v.parent n)
    · exact .inr (.inl hlisted)
    · have hnumber := childNumber_eq_neg_one_iff.mpr (.inr hlisted)
      obtain ⟨hnone, -⟩ := hagree.unlisted hnumber
      rw [followingSiblings_of_unlisted hp hnumber] at hnone
      exact .inr (.inr hnone)
  · intro hlinks
    refine ⟨fun _ => exists_position_of_mem_followingSiblings,
      fun _ => exists_position_of_mem_precedingSiblings, fun hnumber => ?_⟩
    obtain ⟨hpreceding, hprevious, hfollowing⟩ := hunlisted hnumber
    have hnone : v.followingSiblings n = [] := by
      rw [hfollowing]
      split
      · rfl
      · next hp =>
          have hfree := (childNumber_eq_neg_one_iff.mp hnumber).resolve_left hp
          exact (hlinks.resolve_left hp).resolve_left hfree
    exact ⟨hnone, hpreceding, by rw [nextSibling, hnone]; rfl, hprevious⟩

end View

namespace Sample

/-- The stray leaf has index `-1`, and the children of its parent follow it all the same. -/
theorem siblings_of_stray :
    kin.parent stray = .object 0 ∧ kin.childNumber stray = -1 ∧
    kin.followingSiblings stray = [.object 1, .object 2] ∧ kin.nextSibling stray = .object 1 ∧
    kin.precedingSiblings stray = [] ∧ ¬ kin.SiblingsAgree stray := by
  have hnumber : kin.childNumber stray = -1 := by decide
  have hfollowing : kin.followingSiblings stray = [.object 1, .object 2] := by decide
  refine ⟨rfl, hnumber, hfollowing, by decide, by decide, fun hagree => ?_⟩
  obtain ⟨hnone, -⟩ := hagree.unlisted hnumber
  rw [hfollowing] at hnone
  cases hnone

end Sample

end TreeShape
