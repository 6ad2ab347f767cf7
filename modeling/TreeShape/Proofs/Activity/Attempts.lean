import TreeShape.Proofs.Activity.Nesting
import TreeShape.Proofs.Activity.Positions
import TreeShape.Proofs.Ways

/-!
# Failed attempts

A script may catch what comes of matching a child, and go on with the next one.  This works because a
failed attempt leaves the cursor as if the child had been skipped, wherever the failure came from: the
child may not have been accepted, or something below it may have failed, at any depth.

## Strategy

The attempt opens a block, runs a script of which nothing is known but that it only uses blocks, and
leaves the block.  Three things have to be shown of the session after it.

* **The cursor has moved on by one, and is free.**  Taking the child moves it on, and whether the child
  is accepted makes no difference: `cursor?_open_of_child`.  Leaving the block frees it.  What is left
  is the script in between.
* **Nothing above has changed.**  A deed changes a cursor only if it uses the cursor, leaves its block,
  or leaves the block of its child.  While a child is open the cursor cannot be used
  (`BlockId.cursor?_open_of_busy`, `Deed.IsPlain.cursor?_of_busy`), and a script that only uses blocks
  leaves none that was open before it; so `Moment.Nested.cursor?_run` carries the cursor over every deed
  of the script.  The cursors further above have an open child, too, and the same lemma serves them.
* **What was made meanwhile is over.**  Every cursor belongs to a block that was entered; as the script
  leaves the same blocks open that it found open, the blocks of the new cursors have been left:
  `Moment.Nested.closed_run`.

`Moment.Nested.asIfSkipped` puts the three together, for all ways to match a child.  Where no child can
be taken nothing of this happens: the attempt fails before it has changed any cursor,
`Attempt.run_of_untakable`.
-/

namespace TreeShape

open Run

/-! ## Cursors that cannot be used -/

section

variable {s : Session} {b : BlockId} {a : CursorId} {cursor : Cursor}

/-- Opening a block changes no cursor that cannot be used. -/
theorem BlockId.cursor?_open_of_busy (b : BlockId) (ha : s.cursor? a = some cursor)
    (hbusy : ¬ cursor.IsUsable) : (b.open s).2.cursor? a = some cursor := by
  -- A child is taken from a cursor that can be used, so not from this one.
  have htaken : ∀ {block n taken}, Takes s b block n taken → taken.cursor? a = some cursor := by
    intro block n taken ht
    cases ht with
    | root => exact ha
    | @child c parent _ _ hc hu _ =>
        have hne : a ≠ c := by
          rintro rfl
          rw [ha] at hc
          cases hc
          exact hbusy hu
        rw [Session.cursor?_take, if_neg hne, ha]
  rcases hopen : b.open s with ⟨outcome, t⟩
  cases opening_of_eq hopen with
  | refused => exact ha
  | failed f hb hc ht hsilent => exact (hsilent.cursor? a).trans (htaken ht)
  | @opened block n children taken looked hb hc ht hsilent hask =>
      obtain ⟨-, hparent⟩ := takes_change (R := Session.Changes) hb hc ht
      have hlooked : looked.cursor? a = some cursor := (hsilent.cursor? a).trans (htaken ht)
      have hne : block.parentCursor ≠ some a := by
        intro hp
        obtain ⟨parent, hcursor, hu⟩ := hparent a hp
        rw [htaken ht] at hcursor
        cases hcursor
        exact hbusy hu
      show (looked.attach b { block with node := n } n children).cursor? a = some cursor
      rw [Session.cursor?_attach, if_neg (Session.ne_freshCursor hlooked), hlooked, Option.map_some,
        if_neg hne]
      intro p hp
      obtain ⟨parent, hcursor, -⟩ := hparent p hp
      exact Session.ne_freshCursor ((hsilent.cursor? p).trans hcursor)

/-- Deeds that neither enter nor leave a block change no such cursor either. -/
theorem Deed.IsPlain.cursor?_of_busy {d : Deed} (hd : d.IsPlain) (ha : s.cursor? a = some cursor)
    (hbusy : ¬ cursor.IsUsable) : (d.run s).2.cursor? a = some cursor := by
  have houtcome := hd.outcome s
  generalize d.run s = r at houtcome ⊢
  cases houtcome with
  | @skipped c other count hc hu _ _ =>
      have hne : a ≠ c := by
        rintro rfl
        rw [ha] at hc
        cases hc
        exact hbusy hu
      rw [Session.cursor?_modifyCursor, if_neg hne, ha]
  | _ => exact ha

end

namespace Moment

variable {m : Moment}

/-! ## Cursors with an open child -/

theorem exited_after (d : Deed) {b : BlockId} (h : b ∈ m.exited) : b ∈ (m.after d).exited :=
  List.mem_append_right _ h

theorem exited_afterAll (ds : List Deed) {b : BlockId} (h : b ∈ m.exited) :
    b ∈ (m.afterAll ds).exited := by
  induction ds generalizing m with
  | nil => exact h
  | cons d ds ih => exact ih (exited_after d h)

namespace Accounted

variable {own o : BlockId} {above? : Option CursorId} {a k : CursorId}

/-- A deed that leaves neither the block of a cursor nor that of its child leaves the cursor as it is. -/
theorem cursor?_after (h : m.Accounted) {d : Deed} (hd : m.Allows d)
    (hown : m.session.Opened own above? a) (ho : m.session.Opened o (some a) k)
    (hown' : own ∉ (m.after d).exited) (ho' : o ∉ (m.after d).exited) :
    (m.after d).session.cursor? a = m.session.cursor? a := by
  obtain ⟨cursor, hcursor⟩ := h.sound.exists_own hown
  have hopen : m.IsOpen o :=
    ⟨h.entered.mpr ⟨_, _, ho⟩, fun hexited => ho' (exited_after d hexited)⟩
  have hbusy : ¬ cursor.IsUsable := fun hu => h.not_open_of_isUsable hcursor hu ho hopen
  rcases d.cases_plain with hplain | ⟨b, rfl⟩ | ⟨b, failure, rfl⟩
  · rw [after_plain hplain, hcursor]
    exact hplain.cursor?_of_busy hcursor hbusy
  · rw [session_after_enter, hcursor]
    exact b.cursor?_open_of_busy hcursor hbusy
  · obtain ⟨parent?, c, block, hb, rfl, hc⟩ := h.entered.mp hd.1
    have hleft : b ∈ (m.after (.exit b failure)).exited := by
      rw [Moment.after_exit]
      exact List.mem_cons_self
    have hne : a ≠ c := by
      rintro rfl
      obtain rfl := h.sound.opened_injective hown ⟨block, hb, rfl, hc⟩
      exact hown' hleft
    have hparent : block.parentCursor ≠ some a := by
      intro hp
      -- Only one child of the cursor is open, so it is the one that is left.
      have hactive := (h.active hcursor).mpr ⟨o, ho, hopen⟩
      have hactive' := (h.active hcursor).mpr ⟨b, ⟨block, hb, hp, hc⟩, hd⟩
      rw [hactive] at hactive'
      cases hactive'
      obtain rfl := h.sound.opened_injective ho ⟨block, hb, hp, hc⟩
      exact ho' hleft
    have hsilent : m.session.Silent (b.conclude failure m.session).2 :=
      (b.keeps_conclude failure).after m.session
    rw [Moment.after_exit, BlockId.exit_apply hb hc, Session.cursor?_release, hsilent.cursor?, hcursor,
      Option.map_some, if_neg hparent, decide_eq_false hne, Bool.or_false]

theorem cursor?_afterAll (h : m.Accounted) {ds : List Deed} (hds : m.Orderly ds)
    (hown : m.session.Opened own above? a) (ho : m.session.Opened o (some a) k)
    (hown' : own ∉ (m.afterAll ds).exited) (ho' : o ∉ (m.afterAll ds).exited) :
    (m.afterAll ds).session.cursor? a = m.session.cursor? a := by
  induction ds generalizing m with
  | nil => rfl
  | cons d ds ih =>
      have hgrows := (d.evolves m.session).grows
      have hstep : (m.after d).session.cursor? a = m.session.cursor? a :=
        h.cursor?_after hds.1 hown ho (fun hexited => hown' (exited_afterAll ds hexited))
          fun hexited => ho' (exited_afterAll ds hexited)
      exact (ih (h.after hds.1) hds.2 (hgrows.opened hown) (hgrows.opened ho) hown' ho').trans hstep

end Accounted

namespace Nested

/-- Running a script that only uses blocks changes no cursor that has an open child. -/
theorem cursor?_run (h : m.Nested) {p : Script} (hp : p.IsBracketed) {o : BlockId} {a k : CursorId}
    (ho : m.session.Opened o (some a) k) (hopen : m.IsOpen o) :
    (p.run m.session).2.cursor? a = m.session.cursor? a := by
  obtain ⟨hlast, hend⟩ := hp.lastFirst h
  obtain ⟨cursor, hcursor⟩ := h.accounted.sound.exists_parent ho
  obtain ⟨own, above?, hown⟩ := h.accounted.exists_own hcursor
  -- What was open before the script is open after it.
  have hstays : ∀ {b}, m.IsOpen b → b ∉ (m.afterAll (p.deeds m.session)).exited := by
    intro b hb
    rw [← mem_openBlocks, ← hend, mem_openBlocks] at hb
    exact hb.2
  rw [← p.session_afterAll_deeds m]
  exact h.accounted.cursor?_afterAll hlast.orderly hown ho (hstays (h.isOpen_own ho hopen hown))
    (hstays hopen)

/-- The cursors that were made while such a script was run are over in the end. -/
theorem closed_run (h : m.Nested) {p : Script} (hp : p.IsBracketed) {d : CursorId} {new : Cursor}
    (hnew : (p.run m.session).2.cursor? d = some new) (hd : m.session.cursor? d = none) :
    new.closed = true := by
  obtain ⟨hlast, hend⟩ := hp.lastFirst h
  have hafter := h.afterAll hlast
  have hsession := p.session_afterAll_deeds m
  rw [← hsession] at hnew
  obtain ⟨b, parent?, hb⟩ := hafter.accounted.exists_own hnew
  refine (hafter.accounted.closed hb hnew).mpr (Decidable.byContradiction fun hexited => ?_)
  have hopen : b ∈ (m.afterAll (p.deeds m.session)).openBlocks :=
    mem_openBlocks.mpr ⟨hafter.accounted.entered.mpr ⟨_, _, hb⟩, hexited⟩
  -- A block that is open in the end was open before, and then its cursor was there, too.
  rw [hend] at hopen
  obtain ⟨parent?', c, hbefore⟩ := h.exists_opened b hopen
  have hgrows := (m.evolves_afterAll (p.deeds m.session)).grows
  obtain ⟨-, rfl⟩ := (hgrows.opened hbefore).eq hb
  obtain ⟨old, hold⟩ := h.accounted.sound.exists_own hbefore
  rw [hd] at hold
  cases hold

end Nested

end Moment

/-! ## What becomes of the cursor -/

namespace BlockId

variable {s : Session} {b : BlockId} {block : Block} {c : CursorId} {cursor : Cursor} {n : Node}

/-- Opening the block of a child takes the child, whether the block opens or not. -/
theorem cursor?_open_of_child (hb : s.block? b = some block) (hc : block.cursor = none)
    (hp : block.parentCursor = some c) (hcursor : s.cursor? c = some cursor) (hu : cursor.IsUsable)
    (hn : cursor.children[cursor.next]? = some n) :
    (∃ f t, b.open s = (.error f, t) ∧
      t.cursor? c = some { cursor with next := cursor.next + 1 }) ∨
    ∃ k t, b.open s = (.ok k, t) ∧ k ≠ c ∧
      t.cursor? c = some { cursor with next := cursor.next + 1, activeChild := some k } := by
  have ht : Takes s b block n (s.take b c n) := .child hp hcursor hu hn
  obtain ⟨htaken, -, -⟩ := takes_block hb ht
  have hnext : (s.take b c n).cursor? c = some { cursor with next := cursor.next + 1 } := by
    rw [Session.cursor?_take, if_pos rfl, hcursor, Option.map_some]
  rw [open_apply hb hc, takeNode_of_takes hb ht, andThen_ok]
  rcases accept_cases htaken n with ⟨f, t, hf, hsilent, -⟩ | ⟨e, children, -, -, hok⟩
  · exact .inl ⟨f, t, hf, (hsilent.cursor? c).trans hnext⟩
  · have hrecorded := (Session.cursor?_record _ e c).trans hnext
    have hfresh := Session.ne_freshCursor hrecorded
    refine .inr ⟨_, _, hok, hfresh.symm, ?_⟩
    rw [Session.cursor?_attach, if_neg hfresh, hrecorded, Option.map_some, if_pos hp]
    · rfl
    · intro p hparent
      rw [hp] at hparent
      cases hparent
      exact hfresh

/-- A block for a child that cannot be taken does not open, and nothing changes. -/
theorem open_of_untakable (hb : s.block? b = some block) (hc : block.cursor = none)
    (hp : block.parentCursor = some c) (hcursor : s.cursor? c = some cursor)
    (h : ¬ (cursor.IsUsable ∧ cursor.next < cursor.children.length)) :
    ∃ f, b.open s = (.error f, s) := by
  rw [open_apply hb hc]
  rcases takeNode_cases hb with ⟨f, hf⟩ | ⟨n, taken, -, ht⟩
  · exact ⟨f, by rw [hf, andThen_error]⟩
  · cases ht with
    | root hroot =>
        rw [hp] at hroot
        cases hroot
    | child hparent hcur hu hn =>
        rw [hp] at hparent
        cases hparent
        rw [hcursor] at hcur
        cases hcur
        exact absurd ⟨hu, (List.getElem?_eq_some_iff.mp hn).1⟩ h

end BlockId

theorem CursorId.skip_one {s : Session} {c : CursorId} {cursor : Cursor}
    (h : s.cursor? c = some cursor) (hu : cursor.IsUsable) (hm : cursor.ignoring = false)
    (hlt : cursor.next < cursor.children.length) :
    (c.skip 1 s).1 = .ok () ∧
      (c.skip 1 s).2.cursor? c = some { cursor with next := cursor.next + 1 } := by
  have hskip := @skip_apply s c cursor 1 h hu hm
  rw [if_neg (by omega)] at hskip
  rw [show (1 : Int) = ((1 : Nat) : Int) from rfl, hskip]
  exact ⟨rfl, Session.cursor?_modifyCursor_self h _⟩

namespace Moment.Nested

variable {m : Moment} {b : BlockId} {block : Block} {c : CursorId} {cursor : Cursor} {n : Node}

/-- Using the block of a child leaves the cursor as if the child had been skipped, whatever comes of it. -/
theorem cursor?_use (h : m.Nested) (hb : m.session.block? b = some block) (hc : block.cursor = none)
    (hp : block.parentCursor = some c) (hcursor : m.session.cursor? c = some cursor)
    (hu : cursor.IsUsable) (hn : cursor.children[cursor.next]? = some n) (form : Use)
    {inside : CursorId → Script} (hinside : ∀ d, (inside d).IsBracketed) :
    (b.use form (fun d => (inside d).run) m.session).2.cursor? c =
      some { cursor with next := cursor.next + 1 } := by
  rcases BlockId.cursor?_open_of_child hb hc hp hcursor hu hn with
    ⟨f, t, hopen, ht⟩ | ⟨k, t, hopen, hk, ht⟩
  · rw [Script.use_of_open_error hopen]
    exact ht
  · obtain ⟨hnested, hblocks⟩ := h.enter_of_ok hopen
    have hsession : (m.after (.enter b)).session = t := by rw [after_enter_of_ok hopen]
    obtain ⟨block', hb', -, ⟨opened, hopened, hparent, hown⟩, -⟩ := BlockId.opened_of_open hopen
    rw [hb] at hb'
    cases hb'
    rw [hp] at hparent
    have hisOpen : (m.after (.enter b)).IsOpen b :=
      mem_openBlocks.mp (hblocks ▸ List.mem_cons_self)
    -- While the block of the child is open, the cursor does not change.
    have hbody : ((inside k).run t).2.cursor? c = t.cursor? c := by
      rw [← hsession]
      refine hnested.cursor?_run (hinside k) (o := b) (k := k) ?_ hisOpen
      rw [hsession]
      exact ⟨opened, hopened, hparent, hown⟩
    have hblock := (((inside k).evolves t).grows).block_eq hopened hown
    rw [Script.use_apply hopen rfl, BlockId.cursor?_leave hblock hown, Session.cursor?_release, hbody, ht,
      Option.map_some, if_pos hparent, decide_eq_false hk.symm, Bool.or_false, ← hu.2]

end Moment.Nested

/-! ## Attempts -/

/-- Matching the next child of a cursor, by a call or by the use of a block that was made before. -/
inductive Attempt where
  | call (w : Way) (e : Expected)
  | use (form : Use) (b : BlockId)

namespace Attempt

/-- Matches the next child with a script. -/
def run (c : CursorId) (inside : CursorId → Script) : Attempt → Run Value
  | call w e => (Target.child c e).visit w fun d => (inside d).run
  | use form b => b.use form fun d => (inside d).run

/-- A block that is used was made by the cursor, and it was not opened yet. -/
def IsOn (s : Session) (c : CursorId) : Attempt → Prop
  | call _ _ => True
  | use _ b => ∃ block, s.block? b = some block ∧ block.parentCursor = some c ∧ block.cursor = none

/-- A call uses a block that it makes. -/
theorem run_call {s : Session} {c : CursorId} {cursor : Cursor} (hcursor : s.cursor? c = some cursor)
    (hu : cursor.IsUsable) (hm : cursor.ignoring = false) (w : Way) (e : Expected)
    (inside : CursorId → Script) : ((call w e).run c inside s).2 =
      (s.freshBlock.use .entered (fun d => (inside d).run) (s.addBlock (c.blockFor cursor e))).2 := by
  have halike : ∀ d, Matches Eq (inside d).run (inside d).run :=
    fun d => (Script.Alike.refl (inside d)).run_matches
  obtain ⟨-, hsession⟩ := (Target.child c e).visit_matches halike w .enclosing s
  refine hsession.trans ?_
  rw [Target.visit_eq_within, bind_apply]
  show (andThen (c.childBlock e s) _).2 = _
  rw [CursorId.childBlock_apply hcursor hu, hm]
  rfl

end Attempt

namespace Session

/-- A cursor is above another one if the blocks made by the first are around the other's. -/
def IsAbove (s : Session) : CursorId → CursorId → Prop :=
  Relation.TransGen fun a c => ∃ b, s.Opened b (some a) c

/-- A later session in which a cursor is as if it had just skipped a child, in which all cursors that are
new are over, and in which nothing above the cursor has changed. -/
structure AsIfSkipped (s : Session) (c : CursorId) (t : Session) : Prop where
  cursor : t.cursor? c = (c.skip 1 s).2.cursor? c
  closed : ∀ {d new}, t.cursor? d = some new → s.cursor? d = none → new.closed = true
  above : ∀ {a}, s.IsAbove a c → t.cursor? a = s.cursor? a

end Session

namespace Moment.Nested

variable {m : Moment} {b : BlockId} {block : Block} {c a : CursorId} {cursor : Cursor}

/-- What is above a cursor has an open child if the cursor's own block is open. -/
theorem exists_open_child (h : m.Nested) (ha : m.session.IsAbove a c)
    (hc : ∀ {b parent?}, m.session.Opened b parent? c → m.IsOpen b) :
    ∃ o k, m.session.Opened o (some a) k ∧ m.IsOpen o := by
  induction ha with
  | single hstep =>
      obtain ⟨b, hb⟩ := hstep
      exact ⟨b, _, hb, hc hb⟩
  | tail _ hstep ih =>
      obtain ⟨b, hb⟩ := hstep
      exact ih fun ho => h.isOpen_own hb (hc hb) ho

theorem asIfSkipped_use (h : m.Nested) (hb : m.session.block? b = some block)
    (hc : block.cursor = none) (hp : block.parentCursor = some c)
    (hcursor : m.session.cursor? c = some cursor) (hu : cursor.IsUsable)
    (hm : cursor.ignoring = false) (hlt : cursor.next < cursor.children.length) (form : Use)
    {inside : CursorId → Script} (hinside : ∀ d, (inside d).IsBracketed) :
    m.session.AsIfSkipped c (b.use form (fun d => (inside d).run) m.session).2 := by
  have hp' : (Script.use form b inside fun _ => .give .nothing).IsBracketed :=
    ⟨hinside, fun _ => trivial⟩
  -- Using the block is a script of its own, to which the lemmas about scripts apply.
  have hrun : ((Script.use form b inside fun _ => .give .nothing).run m.session).2 =
      (b.use form (fun d => (inside d).run) m.session).2 := by
    rw [Script.run_use rfl]
    rfl
  have hfree := (h.accounted.isFree_iff hcursor).mpr hu
  have hn : cursor.children[cursor.next]? = some cursor.children[cursor.next] :=
    List.getElem?_eq_getElem hlt
  constructor
  case cursor =>
    rw [h.cursor?_use hb hc hp hcursor hu hn form hinside, (c.skip_one hcursor hu hm hlt).2]
  case closed =>
    intro d new hnew hd
    rw [← hrun] at hnew
    exact h.closed_run hp' hnew hd
  case above =>
    intro a ha
    obtain ⟨o, k, ho, hopen⟩ := h.exists_open_child ha fun hown =>
      ⟨h.accounted.entered.mpr ⟨_, _, hown⟩, hfree.own hown⟩
    rw [← hrun]
    exact h.cursor?_run hp' ho hopen

/-- So does every way to match a child that is there. -/
theorem asIfSkipped (h : m.Nested) (hcursor : m.session.cursor? c = some cursor)
    (hu : cursor.IsUsable) (hm : cursor.ignoring = false)
    (hlt : cursor.next < cursor.children.length) {attempt : Attempt}
    (hon : attempt.IsOn m.session c) {inside : CursorId → Script}
    (hinside : ∀ d, (inside d).IsBracketed) :
    m.session.AsIfSkipped c (attempt.run c inside m.session).2 := by
  cases attempt with
  | use form b =>
      obtain ⟨block, hb, hp, hc⟩ := hon
      exact h.asIfSkipped_use hb hc hp hcursor hu hm hlt form hinside
  | call w e =>
      have hmade : (m.after (.childBlock c e)).session = m.session.addBlock (c.blockFor cursor e) := by
        rw [after_plain (d := .childBlock c e) trivial, Deed.run, bind_apply,
          CursorId.childBlock_apply hcursor hu, hm]
        rfl
      obtain ⟨hnested, -⟩ := h.plain (d := .childBlock c e) trivial
      have hb : (m.after (.childBlock c e)).session.block? m.session.freshBlock =
          some (c.blockFor cursor e) := by
        rw [hmade, Session.block?_freshBlock]
      have hcursor' : (m.after (.childBlock c e)).session.cursor? c = some cursor := by
        rw [hmade, Session.cursor?_addBlock, hcursor]
      have hskipped := hnested.asIfSkipped_use hb rfl rfl hcursor' hu hm hlt .entered hinside
      rw [hmade] at hskipped
      rw [Attempt.run_call hcursor hu hm w e]
      -- The block that the call made changes no cursor and is around none.
      refine ⟨?_, hskipped.closed, ?_⟩
      · rw [hskipped.cursor, (c.skip_one hcursor hu hm hlt).2]
        exact (c.skip_one (s := m.session.addBlock _) hcursor hu hm hlt).2
      · intro a ha
        refine hskipped.above (Relation.TransGen.mono ?_ _ _ ha)
        rintro p d ⟨o, ho⟩
        exact ⟨o, (Session.grows_addBlock ..).opened ho⟩

end Moment.Nested

/-- An attempt on a cursor that cannot give a child fails, and changes no cursor. -/
theorem Attempt.run_of_untakable {s : Session} (hs : s.Counted) {c : CursorId} {cursor : Cursor}
    (hcursor : s.cursor? c = some cursor) (h : ¬ (cursor.IsUsable ∧ cursor.ignoring = false ∧
      cursor.next < cursor.children.length)) {attempt : Attempt} (hon : attempt.IsOn s c)
    (inside : CursorId → Script) :
    ∃ f t, attempt.run c inside s = (.error f, t) ∧ ∀ d, t.cursor? d = s.cursor? d := by
  cases attempt with
  | use form b =>
      obtain ⟨block, hb, hp, hc⟩ := hon
      obtain ⟨parent, hparent, hm⟩ := hs.parent hb hp
      rw [hcursor] at hparent
      cases hparent
      obtain ⟨f, hf⟩ := BlockId.open_of_untakable hb hc hp hcursor fun hfree =>
        h ⟨hfree.1, hm, hfree.2⟩
      exact ⟨f, s, Script.use_of_open_error hf, fun _ => rfl⟩
  | call w e =>
      have hbegin : (Target.child c e).begin = (do
          let b ← c.childBlock e
          return (b, ← b.open)) := rfl
      -- Where the children matter and the cursor is free, there is a block, but no child left for it.
      rcases c.childBlock_cases e s with ⟨f, hf⟩ | ⟨parent, hparent, hu, hm, hok⟩
      · refine ⟨f, s, Target.visit_of_error ?_ w _, fun _ => rfl⟩
        rw [hbegin, bind_apply, hf, andThen_error]
      · rw [hcursor] at hparent
        cases hparent
        have hb := s.block?_freshBlock (c.blockFor cursor e)
        obtain ⟨f, hf⟩ := BlockId.open_of_untakable hb rfl rfl hcursor fun hfree =>
          h ⟨hfree.1, hm, hfree.2⟩
        refine ⟨f, s.addBlock (c.blockFor cursor e), Target.visit_of_error ?_ w _, fun _ => rfl⟩
        rw [hbegin, bind_apply, hok, andThen_ok, bind_apply, hf, andThen_error]

/-! ## Every run that only uses blocks -/

namespace Moment

/-- In every moment of a script that only uses blocks, a cursor whose own block is open, which has no
open child, whose children matter and of which one is left can be skipped on; and whatever an attempt to
match this child comes to, from whatever depth a failure comes, the cursor is afterwards as if the child
had been skipped, all cursors made in the attempt are over, and those above the cursor are as they were.
On any other cursor an attempt fails and changes no cursor.  Skipping that fails changes nothing. -/
theorem attempts_of_run (w : World) (p : Script) (hp : p.IsBracketed) (ds rest : List Deed)
    (hsplit : p.deeds (start w).session = ds ++ rest) :
    (∀ c cursor, (sessionAfter w ds).cursor? c = some cursor →
      ∀ attempt : Attempt, attempt.IsOn (sessionAfter w ds) c →
      ∀ inside : CursorId → Script, (∀ d, (inside d).IsBracketed) →
        (((start w).afterAll ds).IsFree c ∧ cursor.ignoring = false ∧
            cursor.next < cursor.children.length →
          (c.skip 1 (sessionAfter w ds)).1 = .ok () ∧
          (sessionAfter w ds).AsIfSkipped c (attempt.run c inside (sessionAfter w ds)).2) ∧
        (¬ (((start w).afterAll ds).IsFree c ∧ cursor.ignoring = false ∧
            cursor.next < cursor.children.length) →
          ∃ f t, attempt.run c inside (sessionAfter w ds) = (.error f, t) ∧
            ∀ d, t.cursor? d = (sessionAfter w ds).cursor? d)) ∧
    ∀ (c : CursorId) count f t, c.skip count (sessionAfter w ds) = (.error f, t) →
      t = sessionAfter w ds := by
  obtain ⟨hlast, -⟩ := hp.lastFirst (nested_start w)
  rw [hsplit, lastFirst_append] at hlast
  -- The deeds so far were last in, first out, so what is open is nested.
  have hnested := (nested_start w).afterAll hlast.1
  refine ⟨?_, ?_⟩
  · intro c cursor hcursor attempt hon inside hinside
    have hfree := hnested.accounted.isFree_iff hcursor
    rw [hfree]
    refine ⟨?_, ?_⟩
    · rintro ⟨hu, hm, hlt⟩
      exact ⟨(c.skip_one hcursor hu hm hlt).1, hnested.asIfSkipped hcursor hu hm hlt hon hinside⟩
    · exact fun h => Attempt.run_of_untakable (counted_sessionAfter w ds) hcursor h hon inside
  · intro c count f t hskip
    rcases c.skip_cases count (sessionAfter w ds) with ⟨g, hg⟩ | ⟨cursor, -, -, -, -, hok⟩
    · rw [hg] at hskip
      cases hskip
      rfl
    · rw [hok] at hskip
      cases hskip

/-- Uses the block of the pair, with nothing inside. -/
def sampleUse : Script :=
  .visit (.matching Sample.config ⟨Sample.pair, false⟩ Sample.root) .called (fun _ => .give .nothing)
    fun _ => .give .nothing

/-- What the sample does until the block of the pair is open. -/
def sampleOpening : List Deed :=
  [.matching Sample.config ⟨Sample.pair, false⟩ Sample.root, .enter ⟨0⟩]

theorem isBracketed_sampleUse : sampleUse.IsBracketed := by
  refine ⟨trivial, ?_⟩
  rintro (f | _ | _ | b | _)
  case ok.block => exact ⟨fun _ => trivial, fun _ => trivial⟩
  all_goals trivial

/-- In the sample the script inside the block of the first child fails, and the child counts as
skipped. -/
theorem attempts_of_sample :
    sampleUse.IsBracketed ∧
    sampleUse.deeds (start Sample.world).session = sampleOpening ++ [.exit ⟨0⟩ none] ∧
    ∃ cursor, (sessionAfter Sample.world sampleOpening).cursor? ⟨0⟩ = some cursor ∧
      cursor.next = 0 ∧ ((start Sample.world).afterAll sampleOpening).IsFree ⟨0⟩ ∧
      (∃ f t, (Attempt.call .returning ⟨Sample.leaf, false⟩).run ⟨0⟩ (fun _ => .fail Script.boom)
          (sessionAfter Sample.world sampleOpening) = (.error f, t) ∧
        (sessionAfter Sample.world sampleOpening).AsIfSkipped ⟨0⟩ t) := by
  have hdeeds : sampleUse.deeds (start Sample.world).session = sampleOpening ++ [.exit ⟨0⟩ none] := rfl
  obtain ⟨cursor, hcursor⟩ :
      ∃ cursor, (sessionAfter Sample.world sampleOpening).cursor? ⟨0⟩ = some cursor := ⟨_, rfl⟩
  have hfree : ((start Sample.world).afterAll sampleOpening).IsFree ⟨0⟩ := by
    have horderly : (start Sample.world).Orderly sampleOpening := ⟨trivial, trivial, trivial⟩
    rw [((accounted_start Sample.world).afterAll horderly).isFree_iff hcursor]
    cases hcursor
    exact ⟨rfl, rfl⟩
  obtain ⟨hskipped, -⟩ := (attempts_of_run Sample.world sampleUse isBracketed_sampleUse sampleOpening
    [.exit ⟨0⟩ none] hdeeds).1 ⟨0⟩ cursor hcursor (.call .returning ⟨Sample.leaf, false⟩) trivial
      (fun _ => .fail Script.boom) (fun _ => trivial)
  refine ⟨isBracketed_sampleUse, hdeeds, cursor, hcursor, ?_, hfree, ?_⟩
  · cases hcursor
    rfl
  · refine ⟨_, _, rfl, (hskipped ⟨hfree, ?_, ?_⟩).2⟩
    · cases hcursor
      rfl
    · cases hcursor
      decide

end Moment

end TreeShape
