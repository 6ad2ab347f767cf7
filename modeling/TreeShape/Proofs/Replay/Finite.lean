import TreeShape.Proofs.Replay.Printed

/-!
# Finite trees

A view shows a finite tree if every node of the tree tells its children and they are those in the tree.
What is printed of such a tree is its transcript, or the first refusal that the walk meets,
`render_dump`.  The walk meets those of the nodes that the limit shows; nothing is refused to a dump of
structure, `render_transcript`.

Printers go no further down than the view's height.  Where nodes are told apart by fewer numbers than
that, as the nodes of a forest are, no finite tree is higher: a number that came twice on the way down
would make the tree go on without end.  `ShownBy.within_of_used` counts the numbers that were used on
the way down, each of which is used up for all that comes below (`ShownBy.number_ne`): what a view shows
below two nodes with the same number is the same tree, and no tree is a part of itself.  So the usual
adapters show no finite tree that is too high for their printers, `isBounded_view`.
-/

namespace TreeShape

/-! ## Depths within a limit -/

namespace DumpLimit

variable {limit : DumpLimit} {depth : Nat}

/-- A dump with the limit goes a number of steps down. -/
def Shows (limit : DumpLimit) (depth : Nat) : Prop := ∀ d : Int, limit = some d → 0 ≤ d → depth ≤ d

theorem shows_zero (limit : DumpLimit) : limit.Shows 0 := fun _ _ hd => hd

/-- One step more is shown just if the limit is not reached and that of the children shows the rest. -/
theorem shows_succ_iff :
    limit.Shows (depth + 1) ↔ limit.isExhausted = false ∧ limit.below.Shows depth := by
  cases limit with
  | none => exact ⟨fun _ => ⟨rfl, nofun⟩, fun _ => nofun⟩
  | some d =>
      have hexhausted : isExhausted (some d) = false ↔ d ≠ 0 := by
        rw [isExhausted, beq_eq_false_iff_ne]
        exact not_congr Option.some_inj
      rw [hexhausted, below]
      unfold Shows
      split
      · next hneg =>
          have hnone : ∀ e : Int, (none : DumpLimit) = some e → 0 ≤ e → (depth : Int) ≤ e := nofun
          simp only [Option.some.injEq, forall_eq']
          exact ⟨fun _ => ⟨by omega, hnone⟩, fun _ hpos => by omega⟩
      · next hpos =>
          simp only [Option.some.injEq, forall_eq']
          omega

/-- The limit of the children is reached at a depth just if the limit is at one step more. -/
theorem below_eq_some_iff : limit.below = some (depth : Int) ↔ limit = some ((depth + 1 : Nat) : Int) := by
  cases limit with
  | none => simp [below]
  | some d =>
      rw [below]
      split
      · simp only [reduceCtorEq, false_iff, Option.some.injEq]
        omega
      · simp only [Option.some.injEq]
        omega

theorem isExhausted_iff : limit.isExhausted = true ↔ limit = some ((0 : Nat) : Int) := beq_iff_eq

/-- Where a limit shows children, their own limit is one less. -/
theorem below_natCast {d : Nat} (h : isExhausted (some (d : Int)) = false) :
    0 < d ∧ below (some (d : Int)) = some ((d - 1 : Nat) : Int) := by
  have hpositive : 0 < d := by
    rw [Nat.pos_iff_ne_zero]
    rintro rfl
    cases h
  exact ⟨hpositive, below_eq_some_iff.mpr (by rw [Nat.sub_add_cancel hpositive])⟩

theorem below_natCast_succ (d : Nat) : isExhausted (some ((d + 1 : Nat) : Int)) = false ∧
    below (some ((d + 1 : Nat) : Int)) = some (d : Int) := by
  refine ⟨?_, below_eq_some_iff.mpr rfl⟩
  rw [isExhausted, beq_eq_false_iff_ne]
  exact fun h => absurd (Option.some.inj h) (by omega)

end DumpLimit

namespace Tree

/-- The tree is all that a view shows of it. -/
inductive ShownBy (v : View) : Tree → Prop
  | branch {n : Node} {ts : List Tree} : v.ask n = .ok (ts.map root) → (∀ t ∈ ts, ShownBy v t) →
      ShownBy v (.branch n ts)

/-- The tree goes no more than a number of steps down. -/
def Within : Nat → Tree → Prop
  | 0, t => t.subtrees = []
  | steps + 1, t => ∀ u ∈ t.subtrees, Within steps u

variable {v : View} {n : Node} {ts : List Tree} {t : Tree}

theorem ShownBy.ask (h : ShownBy v (.branch n ts)) : v.ask n = .ok (ts.map root) := by
  cases h with
  | branch hask _ => exact hask

theorem ShownBy.children (h : ShownBy v (.branch n ts)) : v.children n = ts.map root :=
  (View.ask_eq_ok_iff.mp h.ask).2

theorem ShownBy.refusal (h : ShownBy v (.branch n ts)) : v.refusal n = none :=
  (View.ask_eq_ok_iff.mp h.ask).1

theorem ShownBy.subtree (h : ShownBy v (.branch n ts)) (ht : t ∈ ts) : ShownBy v t := by
  cases h with
  | branch _ hts => exact hts t ht

/-! ## Dumping -/

mutual

/-- The first of the nodes' own refusals in a walk down to the limit, leaving out the children that are
skipped and all below them. -/
def refusalTo (own : Node → Option Failure) (skips : Nat → Node → Node → Bool) (limit : DumpLimit)
    (depth : Nat) : Tree → Option Failure
  | .branch n ts =>
    (own n).or (if limit.isExhausted then none else refusalToAll own skips limit.below depth n ts)

def refusalToAll (own : Node → Option Failure) (skips : Nat → Node → Node → Bool) (limit : DumpLimit)
    (depth : Nat) (parent : Node) : List Tree → Option Failure
  | [] => none
  | t :: ts =>
    (if skips depth parent t.root then none else refusalTo own skips limit (depth + 1) t).or
      (refusalToAll own skips limit depth parent ts)

end

/-- The nodes of the tree have nothing against being asked.  A walk that goes down to the end of the tree, or
to the limit, meets their own refusals and no others. -/
theorem ShownBy.refusalWithin (h : t.ShownBy v) (own : Node → Option Failure)
    (skips : Nat → Node → Node → Bool) {steps : Nat} {limit : DumpLimit} (hshows : limit.Shows steps)
    (hsteps : t.Within steps ∨ ∃ d : Nat, limit = some (d : Int) ∧ d ≤ steps) (depth : Nat) :
    v.refusalWithin own skips depth steps t.root = t.refusalTo own skips limit depth := by
  induction t using Tree.induct generalizing limit depth steps with
  | branch n ts ih =>
      cases steps with
      | zero =>
          rw [View.refusalWithin, root, refusalTo]
          -- With no step left, the node is a leaf, or it stands at the limit.
          rcases hsteps with hts | ⟨d, rfl, hd⟩
          · obtain rfl : ts = [] := hts
            cases limit.isExhausted <;> exact (Option.or_none).symm
          · obtain rfl : d = 0 := by omega
            exact (Option.or_none).symm
      | succ steps =>
          obtain ⟨hlimit, hbelow⟩ := DumpLimit.shows_succ_iff.mp hshows
          rw [View.refusalWithin, root, h.refusal, h.children, refusalTo, hlimit, Option.none_or,
            if_neg Bool.false_ne_true]
          congr 1
          have hts : ∀ t ∈ ts, v.refusalWithin own skips (depth + 1) steps t.root =
              t.refusalTo own skips limit.below (depth + 1) := by
            intro t ht
            refine ih t ht (h.subtree ht) hbelow ?_ (depth + 1)
            rcases hsteps with hts | ⟨d, rfl, hd⟩
            · exact .inl (hts t ht)
            · obtain ⟨hpos, hnext⟩ := DumpLimit.below_natCast hlimit
              exact .inr ⟨d - 1, hnext, by omega⟩
          clear h hsteps ih
          induction ts with
          | nil => rfl
          | cons t ts ihts =>
              rw [List.map_cons, List.findSome?_cons, refusalToAll, hts t List.mem_cons_self,
                ← ihts fun u hu => hts u (List.mem_cons_of_mem t hu)]
              cases (if skips depth n t.root then none
                else t.refusalTo own skips limit.below (depth + 1)) <;> rfl

/-- No walk meets a refusal where no node that is shown has one. -/
theorem refusalTo_eq_none {own : Node → Option Failure} (skips : Nat → Node → Node → Bool)
    {limit : DumpLimit} (hown : ∀ n, t.Shown limit n → own n = none) (depth : Nat) :
    t.refusalTo own skips limit depth = none := by
  induction t using Tree.induct generalizing limit depth with
  | branch n ts ih =>
      rw [refusalTo, hown n .root, Option.none_or]
      cases hlimit : limit.isExhausted with
      | true => rfl
      | false =>
          have hts : ∀ t ∈ ts, t.refusalTo own skips limit.below (depth + 1) = none :=
            fun t ht => ih t ht (fun m hm => hown m (.child hlimit ht hm)) (depth + 1)
          clear ih hown
          simp only [Bool.false_eq_true, if_false]
          induction ts with
          | nil => rfl
          | cons t ts ihts =>
              rw [refusalToAll, hts t List.mem_cons_self,
                ihts fun u hu => hts u (List.mem_cons_of_mem t hu), ite_self, Option.none_or]

/-- Nodes that refuse nothing of their own are asked however far down. -/
theorem ShownBy.refusalWithin_refusesNothing (h : t.ShownBy v) (skips : Nat → Node → Node → Bool)
    (depth steps : Nat) : v.refusalWithin View.refusesNothing skips depth steps t.root = none := by
  induction t using Tree.induct generalizing depth steps with
  | branch n ts ih =>
      cases steps with
      | zero => rfl
      | succ steps =>
          rw [View.refusalWithin, root, h.refusal, h.children]
          simp only [View.refusesNothing, Option.none_or, List.findSome?_eq_none_iff, List.mem_map]
          rintro _ ⟨t, ht, rfl⟩
          split
          · rfl
          · exact ih t ht (h.subtree ht) (depth + 1) steps

/-- What a view shows of the tree is enough for its transcript, if it goes down to the end of the tree or
to the limit. -/
theorem ShownBy.body_tree (h : t.ShownBy v) (s : Transcript.Style) {steps : Nat} {limit : DumpLimit}
    (hsteps : t.Within steps ∨ ∃ d : Nat, limit = some (d : Int) ∧ d ≤ steps) (depth : Nat) :
    Transcript.body s limit depth (v.tree steps t.root) = Transcript.body s limit depth t := by
  -- Where the view's steps end, the tree ends as well, or else the limit does.
  induction steps generalizing t limit depth with
  | zero =>
      obtain ⟨n, ts⟩ := t
      rcases hsteps with hts | ⟨d, rfl, hd⟩
      · have hnil : ts = [] := hts
        rw [hnil]
        rfl
      · obtain rfl : d = 0 := by omega
        rfl
  | succ steps ih =>
      obtain ⟨n, ts⟩ := t
      rw [root, View.tree, Transcript.body, Transcript.body, h.children, List.map_map]
      cases hlimit : limit.isExhausted with
      | true => rfl
      | false =>
          rw [if_neg Bool.false_ne_true, if_neg Bool.false_ne_true, ← List.map_id' ts, List.map_map]
          congr 1
          refine Transcript.children_map_congr s (fun (t : Tree) _ => v.root_tree steps t.root)
            (fun t ht _ => ?_) 0
          refine ih (h.subtree ht) ?_ (depth + 1)
          rcases hsteps with hts | ⟨d, rfl, hd⟩
          · exact .inl (hts t ht)
          · obtain ⟨hpos, hbelow⟩ := DumpLimit.below_natCast hlimit
            exact .inr ⟨d - 1, hbelow, by omega⟩

/-- The dump of a tree in a style: its transcript, or the first refusal. -/
def dump (s : Transcript.Style) (limit : DumpLimit) (t : Tree) : Except Failure String :=
  match t.refusalTo s.refusal s.replaces limit 0 with
  | none => .ok (Transcript.render s limit t)
  | some f => .error f

/-- The dump is the transcript, if the style is not at a loss about a node that is shown. -/
theorem dump_eq_render {s : Transcript.Style} {limit : DumpLimit}
    (hrefusal : ∀ n, t.Shown limit n → s.refusal n = none) :
    t.dump s limit = .ok (Transcript.render s limit t) := by
  rw [dump, refusalTo_eq_none _ hrefusal]

/-- What is printed of a finite tree is its dump. -/
theorem ShownBy.render_dump {a : Adapter} {w : World} (h : t.ShownBy (a.view w))
    (ht : t.Within (a.view w).height) (style : World → Transcript.Style) (limit : DumpLimit)
    (serial : Nat) :
    (Printer.transcript serial a style).render w t.root limit = t.dump (style w) limit := by
  have hshows : limit.Shows (limit.levels (a.view w).height) := by
    rintro d rfl hd
    rw [DumpLimit.levels, if_neg (by omega)]
    omega
  -- The walk goes down to the limit, or as deep as the view is high.
  have hsteps : t.Within (limit.levels (a.view w).height) ∨
      ∃ d : Nat, limit = some (d : Int) ∧ d ≤ limit.levels (a.view w).height := by
    cases limit with
    | none => exact .inl ht
    | some d =>
        rw [DumpLimit.levels]
        split
        · exact .inl ht
        · exact .inr ⟨d.toNat, by congr 1; omega, Nat.le_refl _⟩
  have hrefusal := h.refusalWithin (style w).refusal (style w).replaces hshows hsteps 0
  have hbody := h.body_tree (style w) hsteps 0
  have hrender : Transcript.render (style w) limit
        ((a.view w).tree (limit.levels (a.view w).height) t.root) =
      Transcript.render (style w) limit t := by
    simp only [Transcript.render, Transcript.lines, hbody, View.root_tree]
  simp only [Printer.transcript, View.askWithin, hrefusal, dump, ← hrender, ← Transcript.render_pruned]
  cases t.refusalTo (style w).refusal (style w).replaces limit 0 with
  | none => rfl
  | some f => rfl

/-- What is printed of a finite tree is its transcript, if the style is not at a loss about a node that is
shown. -/
theorem ShownBy.render_style {a : Adapter} {w : World} (h : t.ShownBy (a.view w))
    (ht : t.Within (a.view w).height) {style : World → Transcript.Style} {limit : DumpLimit}
    (hrefusal : ∀ n, t.Shown limit n → (style w).refusal n = none) (serial : Nat) :
    (Printer.transcript serial a style).render w t.root limit =
      .ok (Transcript.render (style w) limit t) := by
  rw [h.render_dump ht, dump_eq_render hrefusal]

/-- The dump of the structure of a finite tree is its transcript in the plain style. -/
theorem ShownBy.render_transcript {a : Adapter} {w : World} (h : t.ShownBy (a.view w))
    (ht : t.Within (a.view w).height) (serial indent : Nat) (limit : DumpLimit) :
    (Printer.transcript serial a fun w => Transcript.plain indent w.typeNameOf).render w t.root limit =
      .ok (Transcript.render (Transcript.plain indent w.typeNameOf) limit t) :=
  h.render_style ht (fun _ _ => rfl) serial

/-! ## Heights -/

/-- The tree is the one below some node of the other. -/
inductive Part : Tree → Tree → Prop
  | refl (t : Tree) : Part t t
  | child {n : Node} {ts : List Tree} {t u : Tree} : t ∈ ts → Part u t → Part u (.branch n ts)

theorem Part.shownBy {u : Tree} (hu : u.Part t) (h : t.ShownBy v) : u.ShownBy v := by
  induction hu with
  | refl => exact h
  | child ht _ ih => exact ih (h.subtree ht)

theorem sizeOf_lt_of_mem {u : Tree} (hu : u ∈ t.subtrees) : sizeOf u < sizeOf t := by
  obtain ⟨n, ts⟩ := t
  have hmem : u ∈ ts := hu
  have hlt := List.sizeOf_lt_of_mem hmem
  simp only [branch.sizeOf_spec]
  omega

theorem Part.sizeOf_le {u : Tree} (hu : u.Part t) : sizeOf u ≤ sizeOf t := by
  induction hu with
  | refl => exact Nat.le_refl _
  | child ht _ ih => exact Nat.le_trans ih (Nat.le_of_lt (sizeOf_lt_of_mem ht))

/-- What a view shows below nodes with the same children is the same. -/
theorem ShownBy.subtrees_eq (h : t.ShownBy v) {u : Tree} (hu : u.ShownBy v)
    (hchildren : v.children t.root = v.children u.root) : t.subtrees = u.subtrees := by
  induction t using Tree.induct generalizing u with
  | branch n ts ih =>
      obtain ⟨m, us⟩ := u
      have hroots : ts.map root = us.map root :=
        calc ts.map root = v.children n := h.children.symm
          _ = v.children m := hchildren
          _ = us.map root := hu.children
      -- The roots being the same one by one, so are the trees below them.
      have hts : ∀ t ∈ ts, t.ShownBy v := fun t ht => h.subtree ht
      have hus : ∀ u ∈ us, u.ShownBy v := fun u hmem => hu.subtree hmem
      clear h hu hchildren
      show ts = us
      induction ts generalizing us with
      | nil =>
          cases us with
          | nil => rfl
          | cons u us => cases hroots
      | cons t ts ihts =>
          cases us with
          | nil => cases hroots
          | cons u us =>
              obtain ⟨hroot, hmore⟩ := List.cons.inj hroots
              have hsubtrees := ih t List.mem_cons_self (hts t List.mem_cons_self)
                (hus u List.mem_cons_self) (by rw [hroot])
              have heq : t = u := by
                obtain ⟨_, _⟩ := t
                obtain ⟨_, _⟩ := u
                cases hroot
                cases hsubtrees
                rfl
              rw [heq, ihts (fun x hx => ih x (List.mem_cons_of_mem t hx)) us hmore
                (fun x hx => hts x (List.mem_cons_of_mem t hx))
                fun x hx => hus x (List.mem_cons_of_mem u hx)]

end Tree

/-- Nodes are told apart by numbers below a bound: those with the same number have the same children. -/
structure View.Numbered (v : View) (number : Node → Nat) (bound : Nat) : Prop where
  lt : ∀ n, number n < bound
  children : ∀ {n m}, number n = number m → v.children n = v.children m

namespace Tree

variable {v : View} {number : Node → Nat} {bound : Nat} {n : Node} {ts : List Tree} {t u : Tree}

/-- No number comes again further down. -/
theorem ShownBy.number_ne (h : (Tree.branch n ts).ShownBy v) (hv : v.Numbered number bound) (ht : t ∈ ts)
    (hu : u.Part t) : number u.root ≠ number n := by
  intro heq
  have hsubtrees : u.subtrees = ts :=
    (hu.shownBy (h.subtree ht)).subtrees_eq h (hv.children heq)
  have hlt : sizeOf t < sizeOf u := sizeOf_lt_of_mem (hsubtrees ▸ ht)
  have hle := hu.sizeOf_le
  omega

/-- A number that is free leaves room for one more. -/
private theorem length_lt_of_not_mem {used : List Nat} {i : Nat} (hnodup : used.Nodup)
    (hused : ∀ j ∈ used, j < bound) (hi : i < bound) (hfree : i ∉ used) : used.length < bound := by
  have hsubset : i :: used ⊆ List.range bound := by
    intro j hj
    rcases List.mem_cons.mp hj with rfl | hj
    · exact List.mem_range.mpr hi
    · exact List.mem_range.mpr (hused j hj)
  have hlength := (List.nodup_cons.mpr ⟨hfree, hnodup⟩).length_le_of_subset hsubset
  rwa [List.length_cons, List.length_range] at hlength

/-- The numbers that were used on the way down are not free any more. -/
private theorem ShownBy.within_of_used (h : t.ShownBy v) (hv : v.Numbered number bound)
    {used : List Nat} (hnodup : used.Nodup) (hused : ∀ i ∈ used, i < bound)
    (hfresh : ∀ u : Tree, u.Part t → number u.root ∉ used) {steps : Nat}
    (hsteps : bound ≤ used.length + steps + 1) : t.Within steps := by
  -- Every step down uses up one more number, and there are no more than the bound.
  induction t using Tree.induct generalizing used steps with
  | branch n ts ih =>
      have hnodup' : (number n :: used).Nodup := List.nodup_cons.mpr ⟨hfresh _ (.refl _), hnodup⟩
      have hused' : ∀ i ∈ number n :: used, i < bound := by
        intro i hi
        rcases List.mem_cons.mp hi with rfl | hi
        · exact hv.lt n
        · exact hused i hi
      have hfresh' : ∀ t ∈ ts, ∀ u : Tree, u.Part t → number u.root ∉ number n :: used := by
        intro t ht u hu
        rw [List.mem_cons, not_or]
        exact ⟨h.number_ne hv ht hu, hfresh u (.child ht hu)⟩
      cases steps with
      | zero =>
          refine List.eq_nil_iff_forall_not_mem.mpr fun t ht => ?_
          have hlength := length_lt_of_not_mem hnodup' hused' (hv.lt t.root) (hfresh' t ht t (.refl t))
          rw [List.length_cons] at hlength
          omega
      | succ steps =>
          intro t ht
          exact ih t ht (h.subtree ht) hnodup' hused' (hfresh' t ht) (by rw [List.length_cons]; omega)

/-- No finite tree goes further down than there are numbers, of which its root has one. -/
theorem ShownBy.within (h : t.ShownBy v) (hv : v.Numbered number bound) {steps : Nat}
    (hsteps : bound ≤ steps + 1) : t.Within steps :=
  h.within_of_used hv .nil (by simp) (fun _ _ => List.not_mem_nil) (by simpa using hsteps)

end Tree

/-- The view's height is one that no finite tree exceeds. -/
def View.IsBounded (v : View) : Prop := ∀ t : Tree, t.ShownBy v → t.Within v.height

/-! ## The nodes of a forest -/

namespace Forest

/-- The number of a node; whatever is not in the forest has the first number that is free. -/
def number (f : Forest) : Node → Nat
  | .absent => f.size
  | .object i => min i f.size

theorem record?_of_number_eq {f : Forest} {n m : Node} (h : f.number n = f.number m) :
    f.record? n = f.record? m := by
  -- All numbers beyond the forest are one, and nothing is stored there.
  have hnone : ∀ i, f.size ≤ i → f.record? (.object i) = none :=
    fun i hi => Array.getElem?_eq_none hi
  cases n with
  | absent =>
      cases m with
      | absent => rfl
      | object j =>
          simp only [number] at h
          rw [hnone j (by omega)]
          rfl
  | object i =>
      cases m with
      | absent =>
          simp only [number] at h
          rw [hnone i (by omega)]
          rfl
      | object j =>
          simp only [number] at h
          by_cases hi : i < f.size
          · obtain rfl : i = j := by omega
            rfl
          · rw [hnone i (by omega), hnone j (by omega)]

theorem number_lt (f : Forest) (n : Node) : f.number n < f.size + 1 := by
  cases n with
  | absent => exact Nat.lt_succ_self _
  | object i => exact Nat.lt_succ_of_le (Nat.min_le_right ..)

end Forest

namespace World

variable {w : World} {n m : Node}

/-- All that is known of a node by itself comes from its record. -/
theorem listedChildren_congr (h : w.forest.record? n = w.forest.record? m) :
    w.listedChildren n = w.listedChildren m := by
  have hlinked : w.isLinked n = w.isLinked m := by
    simp only [isLinked, isInstance, typeOf, Forest.typeOf, h]
  have hchildren : w.forest.children n = w.forest.children m := by simp only [Forest.children, h]
  rw [listedChildren, listedChildren, hlinked, hchildren]

theorem read_congr (h : w.forest.record? n = w.forest.record? m) (attr : String) :
    w.read n attr = w.read m attr := by
  have htype : w.typeOf n = w.typeOf m := by simp only [typeOf, Forest.typeOf, h]
  have hattributes : w.forest.attributes n = w.forest.attributes m := by
    simp only [Forest.attributes, h]
  have hchildren : w.forest.children n = w.forest.children m := by simp only [Forest.children, h]
  have hparent : w.forest.parent n = w.forest.parent m := by simp only [Forest.parent, h]
  have hstores : w.storesAttributes n = w.storesAttributes m := by
    simp only [storesAttributes, htype]
  have hstored : ∀ attr, w.stored n attr = w.stored m attr := by
    simp only [stored, mentionOf, htype, hattributes, implies_true]
  have hcompute : w.compute n = w.compute m := by
    funext p
    cases p <;> simp only [compute, child, Forest.child?, entry, hstored, hstores, noStore, mentionOf,
      htype, hattributes, hchildren, hparent]
  have hown : w.ownAttribute? n attr = w.ownAttribute? m attr := by
    rw [ownAttribute?, ownAttribute?, hstores, htype]
  have hgiven : w.typeAttribute? n attr = w.typeAttribute? m attr := by
    rw [typeAttribute?, typeAttribute?, htype]
  rw [read, read, hcompute, hown, hgiven, hstored, htype]

theorem parts_congr (h : w.forest.record? n = w.forest.record? m) : w.parts n = w.parts m := by
  have hnodes : w.partNodes n = w.partNodes m := by
    funext part
    simp only [partNodes, readOrNothing, read_congr h]
  have hparts : ∀ names, w.partsNodes n names = w.partsNodes m names := by
    intro names
    induction names with
    | nil => rfl
    | cons name names ih => rw [partsNodes, partsNodes, hnodes, ih]
  simp only [parts, askParts, partNames, read_congr h, hparts]

theorem partChildren_congr (h : w.forest.record? n = w.forest.record? m) :
    w.partChildren n = w.partChildren m := by
  rw [partChildren, partChildren, parts_congr h]

end World

namespace Adapter

private theorem isBounded_of_children {v : View} {w : World}
    (hheight : v.height = w.forest.size + 1)
    (hchildren : ∀ {n m}, w.forest.record? n = w.forest.record? m → v.children n = v.children m) :
    v.IsBounded := by
  intro t ht
  rw [hheight]
  exact ht.within ⟨w.forest.number_lt, fun heq => hchildren (Forest.record?_of_number_eq heq)⟩
    (Nat.le_add_right ..)

/-- No finite tree that a usual adapter shows exceeds the height of the view. -/
theorem isBounded_view {a : Adapter} (h : a.IsUsual) (w : World) : (a.view w).IsBounded := by
  cases h with
  | downward name naming => exact isBounded_of_children rfl World.listedChildren_congr
  | linked name naming knowsParents unlinked => exact isBounded_of_children rfl World.listedChildren_congr
  | registered name naming => exact isBounded_of_children rfl World.partChildren_congr

end Adapter

end TreeShape
