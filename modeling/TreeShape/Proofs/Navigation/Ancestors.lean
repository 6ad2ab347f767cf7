import TreeShape.Program.Question
import TreeShape.Proofs.Registry.Separate

/-!
# Up and down

The walks down a tree follow the children of its nodes, the walks up their parents.  In a finite tree
whose links fit, `Tree.LinkedIn`, both see the same tree: what is below a node by the one has the node
above it by the other, `Tree.LinkedIn.walks_agree`.

## Strategy

* **Bounds.**  A walk up has no tree to follow: it goes on until it comes to an empty place, within the
  height of the view.  `Passes` says what it passes without any bound; within enough steps the bounded
  walk finds all of it, `ancestors_eq`.
* **Ways.**  That the walk up from a node comes to an end is a fact about the tree.  The way down from
  the root to the node, turned round, is what it passes: `exists_way`, by induction on the tree below
  the root, with the nodes above it as what has been passed so far.  It is no longer than the tree is
  high.
* **Down.**  What a view shows below a node of the tree is the part of the tree there, `whole_root`, and
  a walk through the tree goes through each of its parts without a break, `Part.preorder_infix`.
* **Both.**  Being above and being below are both chains of single links, one followed from either end:
  `mem_ancestors_iff`, `mem_descendants_iff`.
-/

namespace TreeShape

/-! ## Going on until there is nothing -/

/-- Whoever goes on and on from a place passes the listed nodes, that of the place first, and then comes to
an empty place. -/
inductive Passes (next : Node → Node) : Node → List Node → Prop
  | done : Passes next .absent []
  | step {n : Node} {rest : List Node} : n ≠ .absent → Passes next (next n) rest →
      Passes next n (n :: rest)

theorem Passes.unique {next : Node → Node} {n : Node} {passed passed' : List Node}
    (h : Passes next n passed) (h' : Passes next n passed') : passed = passed' := by
  induction h generalizing passed' with
  | done =>
      cases h' with
      | done => rfl
      | step hne _ => exact absurd rfl hne
  | step hne _ ih =>
      cases h' with
      | done => exact absurd rfl hne
      | step _ hrest => rw [ih hrest]

namespace View

variable {v : View} {n : Node} {passed : List Node}

/-- The ancestors that a bounded climb finds are the first of those that there are. -/
theorem climb_eq_take (h : Passes v.parent (v.parent n) passed) (count : Nat) :
    v.climb count n = passed.take count := by
  induction count generalizing n passed with
  | zero => rfl
  | succ count ih =>
      generalize hp : v.parent n = p at h
      cases h with
      | done => rw [climb, hp, List.take_nil]
      | step hne hrest =>
          rw [climb, hp, List.take_succ_cons, ← ih hrest]
          cases p with
          | absent => exact absurd rfl hne
          | object i => rfl

theorem countUp_eq (h : Passes v.parent n passed) (steps depth : Nat) :
    v.countUp steps depth n = depth + min steps passed.length := by
  induction h generalizing steps depth with
  | done => cases steps <;> simp [countUp]
  | @step m rest hne _ ih =>
      cases steps with
      | zero => simp [countUp]
      | succ steps =>
          obtain ⟨i, rfl⟩ : ∃ i, m = .object i := by
            cases m with
            | absent => exact absurd rfl hne
            | object i => exact ⟨i, rfl⟩
          rw [countUp, ih, List.length_cons]
          · omega
          · nofun

/-- Where a walk up ends within the height of the view, it has all ancestors. -/
theorem ancestors_eq (h : Passes v.parent (v.parent n) passed) (hlength : passed.length ≤ v.height) :
    v.ancestors n none = passed := by
  rw [ancestors, Option.getD_none, climb_eq_take h, List.take_of_length_le hlength]

theorem depth_eq (h : Passes v.parent (v.parent n) passed) (hlength : passed.length ≤ v.height) :
    v.depth n = passed.length := by
  rw [depth, countUp_eq h, Nat.zero_add, Nat.min_eq_right hlength]

end View

namespace Tree

variable {v : View} {n m p c : Node} {t u : Tree} {ts : List Tree} {steps : Nat}

/-! ## The parts of a tree -/

theorem preorderAll_eq_flatMap (ts : List Tree) : preorderAll ts = ts.flatMap preorder := by
  induction ts with
  | nil => rfl
  | cons t ts ih => rw [preorderAll, ih, List.flatMap_cons]

/-- At each node of a tree there is a part of it. -/
theorem exists_part (hn : n ∈ t.preorder) : ∃ u : Tree, u.Part t ∧ u.root = n := by
  induction t using Tree.induct with
  | branch m ts ih =>
      rcases mem_preorder.mp hn with rfl | ⟨s, hs, hn⟩
      · exact ⟨_, .refl _, rfl⟩
      · obtain ⟨u, hu, hroot⟩ := ih s hs hn
        exact ⟨u, .child hs hu, hroot⟩

/-- A walk through a tree goes through each part of it without a break. -/
theorem Part.preorder_infix (h : u.Part t) : u.preorder <:+: t.preorder := by
  induction h with
  | refl t => exact List.infix_refl _
  | @child n ts t u ht _ ih =>
      have hall : t.preorder <:+: preorderAll ts := by
        rw [preorderAll_eq_flatMap, List.flatMap]
        exact List.infix_of_mem_flatten (List.mem_map_of_mem ht)
      exact (ih.trans hall).trans (List.suffix_cons n _).isInfix

/-- Where there are subtrees there is a step left to go down to them. -/
theorem Within.exists_succ (h : t.Within steps) (hu : u ∈ t.subtrees) :
    ∃ below, steps = below + 1 ∧ u.Within below := by
  cases steps with
  | zero => exact absurd hu (List.eq_nil_iff_forall_not_mem.mp h u)
  | succ below => exact ⟨below, rfl, h u hu⟩

theorem Within.succ (h : t.Within steps) : t.Within (steps + 1) := by
  induction t using Tree.induct generalizing steps with
  | branch m ts ih =>
      intro u hu
      obtain ⟨below, rfl, hbelow⟩ := h.exists_succ hu
      exact ih u hu hbelow

theorem Part.trans {s : Tree} (h : s.Part u) (hu : u.Part t) : s.Part t := by
  induction hu with
  | refl t => exact h
  | child ht _ ih => exact .child ht (ih h)

theorem Part.within (h : u.Part t) (ht : t.Within steps) : u.Within steps := by
  induction h generalizing steps with
  | refl t => exact ht
  | child hmem _ ih =>
      obtain ⟨below, rfl, hbelow⟩ := ht.exists_succ hmem
      exact (ih hbelow).succ

/-- Steps enough down from its root show a finite tree as it is. -/
theorem ShownBy.tree_eq (h : t.ShownBy v) (hsteps : t.Within steps) : v.tree steps t.root = t := by
  induction t using Tree.induct generalizing steps with
  | branch m ts ih =>
      cases steps with
      | zero =>
          have hnone : ts = [] := hsteps
          subst hnone
          rfl
      | succ steps =>
          have hsubtrees : ∀ u ∈ ts, v.tree steps u.root = u :=
            fun u hu => ih u hu (h.subtree hu) (hsteps u hu)
          rw [root, View.tree, h.children, List.map_map]
          exact congrArg _ (List.map_congr_left hsubtrees |>.trans (List.map_id ts))

theorem preorder_eq (t : Tree) : t.preorder = t.root :: t.descendants := by
  obtain ⟨m, ts⟩ := t
  rfl

/-! ## Links that fit -/

/-- The links of a finite tree fit: nothing is above its root, and whatever a node lists has that node,
which is no empty place, as its parent.  Each node stands at one place. -/
structure LinkedIn (t : Tree) (v : View) : Prop where
  shown : t.ShownBy v
  top : v.parent t.root = .absent
  linked : ∀ p ∈ t.preorder, ∀ c ∈ v.children p, p ≠ .absent ∧ v.parent c = p
  once : t.preorder.Nodup

/-- The way down from the root to a node, turned round, is the way up from the node. -/
theorem exists_way {above : List Node} (h : t.ShownBy v) (hsteps : t.Within steps)
    (hlinked : ∀ p ∈ t.preorder, ∀ c ∈ v.children p, p ≠ .absent ∧ v.parent c = p)
    (habove : Passes v.parent (v.parent t.root) above) (hn : n ∈ t.preorder) :
    ∃ way, Passes v.parent (v.parent n) (way ++ above) ∧ way.length ≤ steps ∧
      (n :: way).getLast? = some t.root := by
  induction t using Tree.induct generalizing above steps with
  | branch m ts ih =>
      rcases mem_preorder.mp hn with rfl | ⟨u, hu, hn⟩
      · exact ⟨[], habove, Nat.zero_le _, rfl⟩
      · obtain ⟨below, rfl, hbelow⟩ := hsteps.exists_succ hu
        have hchild : u.root ∈ v.children m := h.children ▸ List.mem_map_of_mem hu
        obtain ⟨hm, hparent⟩ := hlinked m (root_mem_preorder _) u.root hchild
        have habove' : Passes v.parent (v.parent u.root) (m :: above) := by
          rw [hparent]
          exact .step hm habove
        have hlinked' := fun p hp => hlinked p (mem_preorder.mpr (.inr ⟨u, hu, hp⟩))
        obtain ⟨way, hpasses, hlength, -⟩ :=
          ih u hu (h.subtree hu) hbelow hlinked' habove' hn
        refine ⟨way ++ [m], by simpa using hpasses, ?_, ?_⟩
        · rw [List.length_append]
          exact Nat.succ_le_succ hlength
        · rw [← List.cons_append, List.getLast?_concat]
          rfl

namespace LinkedIn

variable (h : t.LinkedIn v) (hv : v.IsBounded)

include h

theorem within (hv : v.IsBounded) : t.Within v.height := hv t h.shown

theorem mem_of_child (hp : p ∈ t.preorder) (hc : c ∈ v.children p) : c ∈ t.preorder :=
  h.shown.mem_of_child hp hc

theorem mem_of_descends (hn : n ∈ t.preorder) (hm : World.Descends v.children n m) : m ∈ t.preorder :=
  h.shown.mem_preorder_iff.mpr ((h.shown.mem_preorder_iff.mp hn).trans hm)

/-! ### Up -/

theorem passes_root : Passes v.parent (v.parent t.root) [] := h.top ▸ .done

theorem ancestors_root : v.ancestors t.root none = [] :=
  View.ancestors_eq h.passes_root (Nat.zero_le _)

/-- The root is no child. -/
theorem root_not_child (hp : p ∈ t.preorder) : t.root ∉ v.children p := by
  intro hroot
  obtain ⟨hne, hparent⟩ := h.linked p hp t.root hroot
  exact hne (hparent.symm.trans h.top)

include hv

/-- The ancestors of a node are all that is passed on the way up, and the root is the last of them. -/
theorem passes_ancestors (hn : n ∈ t.preorder) :
    Passes v.parent (v.parent n) (v.ancestors n none) ∧
      (v.ancestors n none).length ≤ v.height ∧
      (n :: v.ancestors n none).getLast? = some t.root := by
  obtain ⟨way, hpasses, hlength, hlast⟩ :=
    exists_way h.shown (h.within hv) h.linked h.passes_root hn
  rw [List.append_nil] at hpasses
  rw [View.ancestors_eq hpasses hlength]
  exact ⟨hpasses, hlength, hlast⟩

theorem depth_eq_length (hn : n ∈ t.preorder) : v.depth n = (v.ancestors n none).length := by
  obtain ⟨hpasses, hlength, -⟩ := h.passes_ancestors hv hn
  exact View.depth_eq hpasses hlength

theorem ancestors_child (hp : p ∈ t.preorder) (hc : c ∈ v.children p) :
    v.ancestors c none = p :: v.ancestors p none := by
  obtain ⟨hne, hparent⟩ := h.linked p hp c hc
  obtain ⟨hpasses, -, -⟩ := h.passes_ancestors hv (h.mem_of_child hp hc)
  obtain ⟨habove, -, -⟩ := h.passes_ancestors hv hp
  rw [hparent] at hpasses
  exact hpasses.unique (.step hne habove)

/-- The ancestors of a node are the nodes that it is below. -/
theorem mem_ancestors_iff (hm : m ∈ t.preorder) (hn : n ∈ t.preorder) :
    n ∈ v.ancestors m none ↔ Relation.TransGen (fun p c => c ∈ v.children p) n m := by
  -- The induction goes down to the node, since only from above it is known where the way up leads.
  induction h.shown.mem_preorder_iff.mp hm with
  | refl =>
      rw [h.ancestors_root]
      refine ⟨nofun, fun hbelow => ?_⟩
      obtain ⟨p, hp, hroot⟩ := Relation.TransGen.tail'_iff.mp hbelow
      exact absurd hroot (h.root_not_child (h.mem_of_descends hn hp))
  | @tail p c hp hc ih =>
      have hp' := h.shown.mem_preorder_iff.mpr hp
      rw [h.ancestors_child hv hp' hc, List.mem_cons, ih hp']
      constructor
      · rintro (rfl | hbelow)
        · exact .single hc
        · exact hbelow.tail hc
      · intro hbelow
        obtain ⟨q, hq, hc'⟩ := Relation.TransGen.tail'_iff.mp hbelow
        -- Both nodes list the child, so both are its parent.
        have hq' := h.mem_of_descends hn hq
        obtain rfl : q = p :=
          calc q
            _ = v.parent c := (h.linked q hq' c hc').2.symm
            _ = p := (h.linked p hp' c hc).2
        rcases Relation.reflTransGen_iff_eq_or_transGen.mp hq with rfl | hbelow
        · exact .inl rfl
        · exact .inr hbelow

/-! ### Down -/

theorem whole_root (hu : u.Part t) : v.whole u.root = u :=
  (hu.shownBy h.shown).tree_eq (hu.within (h.within hv))

theorem descendantsOrSelf_root (hu : u.Part t) : v.descendantsOrSelf u.root none = u.preorder := by
  rw [View.descendantsOrSelf, h.whole_root hv hu]

omit h hv in
theorem descendantsOrSelf_eq (v : View) (n : Node) :
    v.descendantsOrSelf n none = n :: v.descendants n none := by
  rw [View.descendantsOrSelf, preorder_eq, View.whole, View.root_tree]
  rfl

theorem descendants_eq (hn : n ∈ t.preorder) :
    v.descendants n none = (v.children n).flatMap (v.descendantsOrSelf · none) := by
  obtain ⟨u, hu, rfl⟩ := exists_part hn
  have hbelow : ∀ s ∈ u.subtrees, v.descendantsOrSelf s.root none = s.preorder := by
    intro s hs
    refine h.descendantsOrSelf_root hv ?_
    obtain ⟨m, ts⟩ := u
    exact Part.trans (.child hs (.refl s)) hu
  calc v.descendants u.root none
    _ = u.subtrees.flatMap preorder := by
        rw [View.descendants, h.whole_root hv hu, descendants, preorderAll_eq_flatMap]
    _ = u.subtrees.flatMap fun s => v.descendantsOrSelf s.root none :=
        (List.flatMap_congr hbelow).symm
    _ = (v.children u.root).flatMap (v.descendantsOrSelf · none) := by
        rw [(hu.shownBy h.shown).children_root, List.flatMap_map]

/-- The descendants of a node are the nodes below it. -/
theorem mem_descendants_iff (hn : n ∈ t.preorder) :
    m ∈ v.descendants n none ↔ Relation.TransGen (fun p c => c ∈ v.children p) n m := by
  rw [h.descendants_eq hv hn, List.mem_flatMap, Relation.TransGen.head'_iff]
  refine exists_congr fun c => and_congr_right fun hc => ?_
  obtain ⟨u, hu, rfl⟩ := exists_part (h.mem_of_child hn hc)
  rw [h.descendantsOrSelf_root hv hu, (hu.shownBy h.shown).mem_preorder_iff]

/-- The nodes found below listed nodes of the tree are the first of all that there are. -/
theorem preorder_eq_take {nodes : List Node} (hnodes : ∀ n ∈ nodes, n ∈ t.preorder) (count : Nat) :
    v.preorder count nodes = (nodes.flatMap (v.descendantsOrSelf · none)).take count := by
  induction count generalizing nodes with
  | zero => rfl
  | succ count ih =>
      cases nodes with
      | nil => rfl
      | cons n rest =>
          obtain ⟨hn, hrest⟩ := List.forall_mem_cons.mp hnodes
          have hmore : ∀ m ∈ v.children n ++ rest, m ∈ t.preorder := by
            intro m hm
            rcases List.mem_append.mp hm with hm | hm
            · exact h.mem_of_child hn hm
            · exact hrest m hm
          rw [View.preorder, ih hmore, List.flatMap_cons, descendantsOrSelf_eq, h.descendants_eq hv hn,
            List.cons_append, List.take_succ_cons, List.flatMap_append]

/-! ### Walks -/

/-- A walk that is asked for a number of items gives the first of those that the whole walk has. -/
theorem walk_eq_take (hn : n ∈ t.preorder) (w : View.Walk) (count : Nat) :
    v.walk n (some count) w = (v.walk n none w).take count := by
  have hone : ∀ m ∈ [n], m ∈ t.preorder := List.forall_mem_singleton.mpr hn
  have hup : ∀ count, v.climb count n = (v.ancestors n none).take count :=
    View.climb_eq_take (h.passes_ancestors hv hn).1
  cases w with
  | descendants =>
      rw [View.walk, View.walk, h.descendants_eq hv hn]
      exact h.preorder_eq_take hv (fun c hc => h.mem_of_child hn hc) count
  | descendantsOrSelf =>
      have hdown := h.preorder_eq_take hv hone count
      rwa [List.flatMap_singleton] at hdown
  | ancestors => exact hup count
  | ancestorsOrSelf =>
      cases count with
      | zero => rfl
      | succ count => exact congrArg (n :: ·) (hup count)
  | followingSiblings => rfl
  | precedingSiblings => rfl

/-! ### Questions -/

omit hv in
/-- What is above a node of the tree is in the tree. -/
theorem parent_mem (hn : n ∈ t.preorder) (hne : v.parent n ≠ .absent) : v.parent n ∈ t.preorder := by
  rcases (h.shown.mem_preorder_iff.mp hn).cases_tail with heq | ⟨p, hp, hchild⟩
  · rw [heq] at hne
    exact absurd h.top hne
  · have hp' := h.shown.mem_preorder_iff.mpr hp
    rwa [(h.linked p hp' n hchild).2]

omit hv in
theorem mem_of_mem_siblingSource (hn : n ∈ t.preorder) (hp : p ∈ v.siblingSource n) :
    p ∈ t.preorder := by
  unfold View.siblingSource at hp
  split at hp
  · cases hp
  · next hne =>
      rw [List.mem_singleton.mp hp]
      exact h.parent_mem hn hne

theorem mem_of_mem_descendantsOrSelf (hn : n ∈ t.preorder) (hm : m ∈ v.descendantsOrSelf n none) :
    m ∈ t.preorder := by
  obtain ⟨u, hu, rfl⟩ := exists_part hn
  rw [h.descendantsOrSelf_root hv hu] at hm
  exact hu.preorder_infix.subset hm

/-- A walk asks nodes of the tree only. -/
theorem mem_of_mem_askedBy (hn : n ∈ t.preorder) {count : Option Nat} {w : View.Walk}
    (hm : m ∈ v.askedBy n count w) : m ∈ t.preorder := by
  have hself : ∀ m ∈ v.walk n none .descendantsOrSelf, m ∈ t.preorder :=
    fun m hm => h.mem_of_mem_descendantsOrSelf hv hn hm
  have hbelow : ∀ m ∈ v.walk n none .descendants, m ∈ t.preorder := by
    intro m hm
    refine h.mem_of_mem_descendantsOrSelf hv hn ?_
    rw [descendantsOrSelf_eq]
    exact List.mem_cons_of_mem n hm
  -- The items of a walk cut short are among those of the whole walk.
  have hfew : ∀ w, (∀ m ∈ v.walk n none w, m ∈ t.preorder) →
      ∀ k, ∀ m ∈ (v.walk n (some (k + 1)) w).take k, m ∈ t.preorder := by
    intro w hw k m hm
    rw [h.walk_eq_take hv hn] at hm
    exact hw m (List.mem_of_mem_take (List.mem_of_mem_take hm))
  unfold View.askedBy at hm
  split at hm
  · exact hself m hm
  · rcases List.mem_cons.mp hm with rfl | hm
    · exact hn
    · exact hfew .descendants hbelow _ m hm
  · exact hself m hm
  · exact hfew .descendantsOrSelf hself _ m hm
  · exact h.mem_of_mem_siblingSource hn hm
  · exact h.mem_of_mem_siblingSource hn hm
  · exact h.mem_of_mem_siblingSource hn hm
  · exact h.mem_of_mem_siblingSource hn hm
  · cases hm

/-- Every question about a node of the tree is answered. -/
theorem answer_eq (hn : n ∈ t.preorder) (q : NodeQuestion) (hq : q.isSensible = true) :
    v.answer n q = .ok (v.plainAnswer n q) := by
  have hasked : ∀ m ∈ v.askedFor n q, m ∈ t.preorder := by
    intro m hm
    cases q with
    | children | childCount | childAt | isLeaf => exact List.mem_singleton.mp hm ▸ hn
    | childIndex | nextSibling | previousSibling => exact h.mem_of_mem_siblingSource hn hm
    | walk w count => exact h.mem_of_mem_askedBy hv hn hm
    | parent | hasParentLink | depth | name => cases hm
  have hnone : (v.askedFor n q).findSome? v.refusal = none :=
    List.findSome?_eq_none_iff.mpr fun m hm => h.shown.refusal_of_mem (hasked m hm)
  rw [View.answer, if_pos hq, View.askAll, hnone]
  rfl

end LinkedIn

/-! ## Agreement -/

/-- The walks down from a node and up from it fit each other in the tree below a root, and questions about the
node are answered. -/
structure WalksFit (v : View) (root n : Node) : Prop where
  /-- A node comes before what is below it, -/
  first : v.descendantsOrSelf n none = n :: v.descendants n none
  /-- and that is its children in order, each with what is below it. -/
  below : v.descendants n none = (v.children n).flatMap (v.descendantsOrSelf · none)
  /-- The walk from the root goes through this without a break. -/
  unbroken : v.descendantsOrSelf n none <:+: v.descendantsOrSelf root none
  /-- A node is among the descendants of another just if that is among its ancestors. -/
  dual : ∀ m, World.Descends v.children root m → (m ∈ v.descendants n none ↔ n ∈ v.ancestors m none)
  /-- The ancestors are what is passed on the way up, -/
  passes : Passes v.parent (v.parent n) (v.ancestors n none)
  /-- which ends behind the root. -/
  ends : (n :: v.ancestors n none).getLast? = some root
  depth : v.depth n = (v.ancestors n none).length
  depth_child : ∀ c ∈ v.children n, v.depth c = v.depth n + 1
  /-- A walk that is asked for a number of items gives the first of them. -/
  cut : ∀ w count, v.walk n (some count) w = (v.walk n none w).take count
  answered : ∀ q : NodeQuestion, q.isSensible = true → v.answer n q = .ok (v.plainAnswer n q)

theorem LinkedIn.walksFit (h : t.LinkedIn v) (hv : v.IsBounded) (hn : n ∈ t.preorder) :
    WalksFit v t.root n := by
  obtain ⟨hpasses, -, hlast⟩ := h.passes_ancestors hv hn
  refine ⟨LinkedIn.descendantsOrSelf_eq v n, h.descendants_eq hv hn, ?unbroken, fun m hm => ?dual, hpasses,
    hlast, h.depth_eq_length hv hn, fun c hc => ?depth_child, h.walk_eq_take hv hn, h.answer_eq hv hn⟩
  case unbroken =>
    obtain ⟨u, hu, rfl⟩ := exists_part hn
    rw [h.descendantsOrSelf_root hv hu, h.descendantsOrSelf_root hv (.refl t)]
    exact hu.preorder_infix
  case dual => rw [h.mem_descendants_iff hv hn, h.mem_ancestors_iff hv (h.shown.mem_preorder_iff.mpr hm) hn]
  case depth_child =>
    rw [h.depth_eq_length hv (h.mem_of_child hn hc), h.depth_eq_length hv hn,
      h.ancestors_child hv hn hc, List.length_cons]

/-- In a finite tree whose links fit the walks down and the walks up agree.  The walk from the root comes to
every node that can be reached from it, once, and at each of these nodes the walks fit each other.  Nothing
is above the root. -/
theorem LinkedIn.walks_agree (h : t.LinkedIn v) (hv : v.IsBounded) :
    (v.descendantsOrSelf t.root none).Nodup ∧
    (∀ n, n ∈ v.descendantsOrSelf t.root none ↔ World.Descends v.children t.root n) ∧
    (∀ n, World.Descends v.children t.root n → WalksFit v t.root n) ∧
    v.ancestors t.root none = [] ∧ v.depth t.root = 0 := by
  have hwhole : v.descendantsOrSelf t.root none = t.preorder := h.descendantsOrSelf_root hv (.refl t)
  have hroot : v.ancestors t.root none = [] := h.ancestors_root
  rw [hwhole]
  refine ⟨h.once, fun n => h.shown.mem_preorder_iff,
    fun n hn => h.walksFit hv (h.shown.mem_preorder_iff.mpr hn), hroot, ?_⟩
  rw [h.depth_eq_length hv t.root_mem_preorder, hroot, List.length_nil]

end Tree

/-! ## A family -/

namespace Sample

/-- The family, without the stray leaf. -/
def familyTree : Tree :=
  .branch (.object 0)
    [.branch (.object 1) [.branch (.object 3) [], .branch (.object 4) []], .branch (.object 2) []]

theorem linkedIn_familyTree : familyTree.LinkedIn kin where
  shown := by
    have hleaf : ∀ n, kin.children n = [] → (Tree.branch n []).ShownBy kin := by
      intro n hn
      refine .branch ?_ nofun
      rw [View.ask_of_refusal_none rfl, hn, List.map_nil]
    have hinner : (Tree.branch (.object 1) [.branch (.object 3) [], .branch (.object 4) []]).ShownBy kin :=
      .branch rfl (List.forall_mem_cons.mpr ⟨hleaf _ rfl, List.forall_mem_singleton.mpr (hleaf _ rfl)⟩)
    exact .branch rfl (List.forall_mem_cons.mpr ⟨hinner, List.forall_mem_singleton.mpr (hleaf _ rfl)⟩)
  top := rfl
  linked := by decide
  once := by decide

/-- From the second grandchild one gets up to the root over its parent. -/
theorem walks_agree_family :
    familyTree.LinkedIn kin ∧ kin.IsBounded ∧
    Passes kin.parent (kin.parent (.object 4)) [.object 1, .object 0] ∧ kin.depth (.object 4) = 2 ∧
    .object 4 ∈ kin.descendants (.object 0) none := by
  have hbounded : kin.IsBounded := Adapter.isBounded_view (.linked "kin" {} true []) family
  obtain ⟨-, -, hnodes, -, -⟩ := linkedIn_familyTree.walks_agree hbounded
  have hdescends : ∀ n ∈ familyTree.preorder, World.Descends kin.children (.object 0) n :=
    fun n hn => linkedIn_familyTree.shown.mem_preorder_iff.mp hn
  have hleaf := hnodes (.object 4) (hdescends _ (by decide))
  have hroot := hnodes (.object 0) (hdescends _ (by decide))
  have hup : kin.ancestors (.object 4) none = [.object 1, .object 0] := by decide
  refine ⟨linkedIn_familyTree, hbounded, hup ▸ hleaf.passes, hleaf.depth.trans (by rw [hup]; rfl), ?_⟩
  rw [hroot.dual _ (hdescends _ (by decide)), hup]
  decide

end Sample

end TreeShape
