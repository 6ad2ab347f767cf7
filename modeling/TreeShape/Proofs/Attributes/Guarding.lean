import TreeShape.Proofs.Attributes.Running
import TreeShape.Proofs.Shape.Refinement

/-!
# Asserting on the way

`Run.Guards` says of two steps that one does what the other does and asserts something on the way: it
succeeds where the other one succeeds and what is asserted holds, and then it ends in the same session.
There is one lemma for each way to put steps together, `Guards.bind`, `Guards.test`, `Guards.within`.
Nothing is said of failures: the two may fail at different places and with different words.

A step is guarded from a session on, so the assertions may speak of the cursors of that session.  What
is known of them when the block of a child has been opened, and when it has been left, is said by
`CursorId.watches_of_open` and `CursorId.child_ok`.
-/

namespace TreeShape

open Run

/-! ## Guarding -/

/-- From a session on, `x` succeeds just if `y` does and what it asserts holds, and then both end in the same
session.  What `x` comes to is of a kind. -/
structure Run.Guards {α β : Type} (holds : Prop) (kind : α → Prop) (x : Run α) (y : Run β) (s : Session) :
    Prop where
  of_ok : ∀ {a t}, x s = (.ok a, t) → holds ∧ kind a ∧ ∃ b, y s = (.ok b, t)
  ok : ∀ {b t}, y s = (.ok b, t) → holds → ∃ a, x s = (.ok a, t)

namespace Run.Guards

variable {α β γ δ : Type} {holds more : Prop} {kind : α → Prop} {other : γ → Prop} {x : Run α} {y : Run β}
  {s : Session}

theorem succeeds_iff (h : Guards holds kind x y s) :
    (∃ a, (x s).1 = .ok a) ↔ holds ∧ ∃ b, (y s).1 = .ok b := by
  constructor
  · rintro ⟨a, ha⟩
    obtain ⟨hholds, -, b, hb⟩ := h.of_ok (Prod.ext ha rfl)
    exact ⟨hholds, b, by rw [hb]⟩
  · rintro ⟨hholds, b, hb⟩
    obtain ⟨a, ha⟩ := h.ok (Prod.ext hb rfl) hholds
    exact ⟨a, by rw [ha]⟩

theorem congr (h : Guards holds kind x y s) (hiff : holds ↔ more) : Guards more kind x y s where
  of_ok hx := by
    rw [← hiff]
    exact h.of_ok hx
  ok hy hmore := h.ok hy (hiff.mpr hmore)

theorem imp {kind' : α → Prop} (h : Guards holds kind x y s) (hkind : ∀ a, kind a → kind' a) :
    Guards holds kind' x y s where
  of_ok hx := by
    obtain ⟨hholds, ha, hy⟩ := h.of_ok hx
    exact ⟨hholds, hkind _ ha, hy⟩
  ok := h.ok

theorem pure {a : α} (b : β) (ha : kind a) : Guards True kind (Pure.pure a) (Pure.pure b) s where
  of_ok hx := by
    cases hx
    exact ⟨trivial, ha, b, rfl⟩
  ok hy _ := by
    cases hy
    exact ⟨a, rfl⟩

theorem bind {f : α → Run γ} {g : β → Run δ} (h : Guards holds kind x y s)
    (hnext : ∀ a b t, kind a → y s = (.ok b, t) → Guards more other (f a) (g b) t) :
    Guards (holds ∧ more) other (x >>= f) (y >>= g) s where
  of_ok hx := by
    rw [bind_apply] at hx
    rcases hrun : x s with ⟨_ | a, t⟩ <;> rw [hrun] at hx
    · cases hx
    obtain ⟨hholds, hkind, b, hb⟩ := h.of_ok hrun
    obtain ⟨hmore, hother, d, hd⟩ := (hnext a b t hkind hb).of_ok hx
    exact ⟨⟨hholds, hmore⟩, hother, d, by rw [bind_apply, hb, andThen_ok, hd]⟩
  ok hy hall := by
    rw [bind_apply] at hy
    rcases hrun : y s with ⟨_ | b, t⟩ <;> rw [hrun] at hy
    · cases hy
    obtain ⟨a, ha⟩ := h.ok hrun hall.1
    obtain ⟨-, hkind, -⟩ := h.of_ok ha
    obtain ⟨c, hc⟩ := (hnext a b t hkind hrun).ok hy hall.2
    exact ⟨c, by rw [bind_apply, ha, andThen_ok, hc]⟩

/-- Steps that begin alike. -/
theorem bind_same {f : α → Run γ} {g : α → Run δ}
    (hnext : ∀ a t, x s = (.ok a, t) → Guards holds other (f a) (g a) t) :
    Guards holds other (x >>= f) (x >>= g) s := by
  rcases hrun : x s with ⟨_ | a, t⟩
  · refine ⟨fun hx => ?_, fun hy => ?_⟩
    · rw [bind_apply, hrun] at hx
      cases hx
    · rw [bind_apply, hrun] at hy
      cases hy
  · have h := hnext a t hrun
    refine ⟨fun hx => ?_, fun hy hholds => ?_⟩
    · rw [bind_apply, hrun] at hx
      rw [bind_apply, hrun]
      exact h.of_ok hx
    · rw [bind_apply, hrun] at hy
      rw [bind_apply, hrun]
      exact h.ok hy hholds

/-- An assertion in front. -/
theorem test {asserts : Run Unit} {f : Unit → Run α} (h : Audit.Tests holds asserts s)
    (hnext : Guards more kind (f ()) y s) : Guards (holds ∧ more) kind (asserts >>= f) y s := by
  cases h with
  | passed hholds hpass =>
      refine ⟨fun hx => ?_, fun hy hall => ?_⟩
      · rw [bind_apply, hpass] at hx
        rw [and_iff_right hholds]
        exact hnext.of_ok hx
      · rw [bind_apply, hpass]
        exact hnext.ok hy hall.2
  | failed f hnot hfail =>
      refine ⟨fun hx => ?_, fun _ hall => absurd hall.1 hnot⟩
      rw [bind_apply, hfail] at hx
      cases hx

/-- Telling a node afterwards. -/
theorem tellNode {c : CursorId} {cursor : Cursor} (h : Guards holds kind x y s)
    (hy : Keeps Session.Grows y) (hc : s.cursor? c = some cursor) :
    Guards holds kind x (do discard y; return (← Run.cursor c).node) s := by
  have htell : ∀ {b t}, y s = (.ok b, t) →
      ∃ n, (do discard y; return (← Run.cursor c).node : Run Node) s = (.ok n, t) := by
    intro b t hrun
    obtain ⟨later, hlater, -⟩ := (hy.of_eq hrun).cursor hc
    refine ⟨later.node, ?_⟩
    rw [discard_bind, bind_apply, hrun, andThen_ok, bind_apply, cursor_apply hlater]
    rfl
  refine ⟨fun hx => ?_, fun {n t} hrun hholds => ?_⟩
  · obtain ⟨hholds, hkind, b, hb⟩ := h.of_ok hx
    exact ⟨hholds, hkind, htell hb⟩
  · rcases hfirst : y s with ⟨_ | b, u⟩
    · rw [discard_bind, bind_apply, hfirst] at hrun
      cases hrun
    obtain ⟨m, hm⟩ := htell hfirst
    rw [hrun] at hm
    cases hm
    exact h.ok hfirst hholds

/-- Blocks with bodies that are guarded. -/
theorem within {b : BlockId} {body : CursorId → Run α} {plain : CursorId → Run β}
    (h : ∀ c t, b.open s = (.ok c, t) → Guards holds kind (body c) (plain c) t) :
    Guards holds kind (b.within body) (b.within plain) s := by
  -- Leaving the block does not depend on what the body came to.
  have hleave : ∀ {α' β' : Type} (a : α') (a' : β') {outcome : β'} {t u : Session},
      b.leave (.ok a') t = (.ok outcome, u) → b.leave (.ok a) t = (.ok a, u) := by
    intro α' β' a a' outcome t u hu
    have hmap := b.leave_map (fun _ => a) (.ok a') t
    rw [hu] at hmap
    exact hmap
  rw [BlockId.within_eq, BlockId.within_eq]
  refine bind_same fun c t hopen => ⟨fun {a u} hx => ?_, fun {d u} hy hholds => ?_⟩
  · rw [bind_apply, attempt_apply, andThen_ok] at hx
    obtain ⟨hbody, -⟩ := BlockId.eq_of_leave_ok (by rw [hx])
    obtain ⟨hholds, hkind, d, hd⟩ := (h c t hopen).of_ok (Prod.ext hbody rfl)
    refine ⟨hholds, hkind, d, ?_⟩
    rw [hbody] at hx
    rw [bind_apply, attempt_apply, andThen_ok, hd]
    exact hleave d a hx
  · rw [bind_apply, attempt_apply, andThen_ok] at hy
    obtain ⟨hbody, -⟩ := BlockId.eq_of_leave_ok (by rw [hy])
    obtain ⟨a, ha⟩ := (h c t hopen).ok (Prod.ext hbody rfl) hholds
    refine ⟨a, ?_⟩
    rw [hbody] at hy
    rw [bind_apply, attempt_apply, andThen_ok, ha]
    exact hleave a d hy

end Run.Guards

/-! ## The cursors of children -/

namespace BlockId

variable {α : Type} {s t : Session} {b : BlockId} {block : Block} {root : Node} {d : CursorId}

/-- The cursor of a block that has been opened below the root of a match. -/
theorem watches_of_open (hb : s.block? b = some block)
    (ha : ∀ n taken, Takes s b block n taken → block.Awaits s.world root n) (h : b.open s = (.ok d, t)) :
    d = s.freshCursor ∧ t.world = s.world ∧ ∃ n children taken, Takes s b block n taken ∧
      t.cursor? d = some (block.cursorFor n children) ∧
        (block.cursorFor n children).Watches s.world root := by
  obtain ⟨block', n, children, taken, hb', -, ht, hd, -, hcursor, hask⟩ := cursor_of_open h
  rw [hb] at hb'
  cases hb'
  have hkeeps : Keeps (fun s t : Session => t.world = s.world) b.open := b.keeps_open
  have hawaits := ha n taken ht
  refine ⟨hd, hkeeps.of_eq h, n, children, taken, ht, hcursor, ?_⟩
  exact ⟨hawaits.implicit, hask, by simp [Block.cursorFor], hawaits.below, Nat.zero_le _⟩

/-- A block that has been left without a failure was opened, and all that was there then has only grown. -/
theorem grows_of_within {body : CursorId → Run α} (hbody : ∀ c, Keeps Session.Grows (body c)) {a : α}
    (h : b.within body s = (.ok a, t)) :
    ∃ c u v, b.open s = (.ok c, u) ∧ body c u = (.ok a, v) ∧ u.Grows t := by
  rw [within_eq, bind_apply] at h
  rcases hopen : b.open s with ⟨f | c, u⟩ <;> rw [hopen] at h
  · cases h
  rw [andThen_ok, bind_apply, attempt_apply, andThen_ok] at h
  obtain ⟨hreturned, -⟩ := eq_of_leave_ok (by rw [h])
  have hleave : Keeps Session.Grows (b.leave (body c u).1) := b.keeps_leave _
  exact ⟨c, u, _, rfl, Prod.ext hreturned rfl, ((hbody c).after u).trans (hleave.of_eq h)⟩

end BlockId

/-- The node that a cursor tells after something was done is its node. -/
theorem CursorId.eq_of_tellNode {α : Type} {x : Run α} {s t : Session} {c : CursorId} {cursor : Cursor}
    {n : Node} (hx : Keeps Session.Grows x) (hc : s.cursor? c = some cursor)
    (h : (do discard x; return (← Run.cursor c).node : Run Node) s = (.ok n, t)) : n = cursor.node := by
  rw [discard_bind, bind_apply] at h
  rcases hrun : x s with ⟨_ | _, u⟩ <;> rw [hrun] at h
  · cases h
  obtain ⟨later, hlater, hgrown⟩ := (hx.of_eq hrun).cursor hc
  rw [andThen_ok, bind_apply, cursor_apply hlater] at h
  cases h
  exact hgrown.node

section

variable {s t : Session} {c d : CursorId} {cursor : Cursor} {root m : Node} {e : Expected}

/-- The cursor of the block of a child that has been opened. -/
theorem CursorId.watches_of_open (hc : s.cursor? c = some cursor) (hw : cursor.Watches s.world root)
    (h : s.freshBlock.open (s.addBlock (c.blockFor cursor e)) = (.ok d, t)) :
    d = s.freshCursor ∧ t.world = s.world ∧ ∃ n children, cursor.children[cursor.next]? = some n ∧
      t.cursor? d = some ((c.blockFor cursor e).cursorFor n children) ∧
        ((c.blockFor cursor e).cursorFor n children).Watches s.world root := by
  have htakes : ∀ n taken, BlockId.Takes (s.addBlock (c.blockFor cursor e)) s.freshBlock
      (c.blockFor cursor e) n taken → cursor.children[cursor.next]? = some n := by
    intro n taken ht
    cases ht with
    | root hp => cases hp
    | child hp hcursor _ hn =>
        cases hp
        rw [Session.cursor?_addBlock, hc] at hcursor
        cases hcursor
        exact hn
  obtain ⟨hd, hworld, n, children, taken, ht, hcursor, hwatches⟩ := BlockId.watches_of_open
    (s.block?_freshBlock (c.blockFor cursor e))
    (fun n taken ht => c.awaits_blockFor hw (htakes n taken ht) e) h
  exact ⟨hd, hworld, n, children, htakes n taken ht, hcursor, hwatches⟩

/-- What is known when a child has been matched. -/
theorem CursorId.child_ok (hc : s.cursor? c = some cursor) (hu : cursor.IsUsable)
    (hw : cursor.Watches s.world root) {inside : Items}
    (h : c.child e (fun d => inside.run d) s = (.ok m, t)) :
    cursor.children[cursor.next]? = some m ∧ t.world = s.world ∧
      t.cursor? c = some { cursor with next := cursor.next + 1 } ∧
        ∃ inner, t.cursor? s.freshCursor = some inner ∧ inner.node = m := by
  have hbody : Follows (fun d => do discard (inside.run d); return (← Run.cursor d).node) inside :=
    fun d => (inside.follows d).tellNode
  have hinside : ∀ d, Keeps Session.Grows (inside.run d) :=
    fun d => ⟨fun t => ((inside.follows d).keeps.after t).grows⟩
  have hworld : t.world = s.world := by
    have hkeeps : Keeps Session.Changes (c.child e fun d => inside.run d) :=
      c.keeps_child e fun d => (inside.follows d).keeps
    exact (hkeeps.of_eq h).world
  rw [c.child_eq_within, bind_apply] at h
  rcases c.childBlock_cases e s with ⟨f, hf⟩ | ⟨_, hc', -, -, hok⟩
  · rw [hf] at h
    cases h
  rw [hc] at hc'
  cases hc'
  rw [hok, andThen_ok] at h
  obtain ⟨d, u, v, hopen, hreturned, hgrows⟩ :=
    BlockId.grows_of_within (fun d => ⟨fun t => ((hbody d).keeps.after t).grows⟩) h
  obtain ⟨rfl, -, n, children, hn, hcursor, -⟩ := CursorId.watches_of_open hc hw hopen
  obtain rfl : m = n := CursorId.eq_of_tellNode (hinside _) hcursor hreturned
  obtain ⟨inner, hinner, hgrown⟩ := hgrows.cursor hcursor
  -- That the child has been taken is known from following the items.
  have hvisited := CursorId.visited_child hbody e hc hu hw hn
  rw [h] at hvisited
  cases hvisited with
  | conforms _ hframe =>
      refine ⟨hn, hworld, hframe c _ ?_, inner, hinner, hgrown.node⟩
      rw [Session.cursor?_take, if_pos rfl, Session.cursor?_addBlock, hc]
      rfl

end

end TreeShape
