import TreeShape.Proofs.Activity.Usability

/-!
# Nested blocks

A script that only uses blocks, and never enters or leaves one by hand, leaves them in the opposite
order in which it entered them, whatever fails.  So its open blocks form a stack: a block made by a
cursor stands above the block that the cursor belongs to.  That is more than holds of orderly runs:
there a block can be left while a block inside it is open.

## Strategy

`Moment.Nested` adds to the accounts of the cursors that the open blocks are stacked.  A block goes on
top of the stack when it opens, because the cursor that made it could be used: its own block is open,
and no block of a child of its is (`stacked_enter`).  It is taken from the top when it is left, as the
order `Moment.LastFirst` demands.  That the deeds of a script come in this order is an induction over
the script, `Script.IsBracketed.lastFirst`.  It says at once which blocks are open in the end, because a
use leaves its block after the part inside it and has to find it on top again.
-/

namespace TreeShape

open Run

/-- Blocks in a row, the innermost first: the block around each one that a cursor made comes after it. -/
inductive Session.Stacked (s : Session) : List BlockId → Prop
  | nil : Stacked s []
  | cons {b : BlockId} {rest : List BlockId} :
      (∀ {p c}, s.Opened b (some p) c → ∃ o ∈ rest, ∃ parent?, s.Opened o parent? p) →
      Stacked s rest → Stacked s (b :: rest)

namespace Session

variable {s t : Session}

theorem Grows.opened (h : s.Grows t) {b : BlockId} {parent? : Option CursorId} {c : CursorId}
    (hb : s.Opened b parent? c) : t.Opened b parent? c := by
  obtain ⟨block, hblock, hp, hc⟩ := hb
  exact ⟨block, h.block_eq hblock hc, hp, hc⟩

/-- Opened blocks stay stacked. -/
theorem Stacked.grows {blocks : List BlockId} (h : s.Stacked blocks) (hgrows : s.Grows t)
    (hblocks : ∀ b ∈ blocks, ∃ parent? c, s.Opened b parent? c) : t.Stacked blocks := by
  induction h with
  | nil => exact .nil
  | @cons b rest hb _ ih =>
      refine .cons ?_ (ih fun d hd => hblocks d (List.mem_cons_of_mem _ hd))
      intro p c hopened
      obtain ⟨parent?, c', hbefore⟩ := hblocks b List.mem_cons_self
      obtain ⟨rfl, rfl⟩ := (hgrows.opened hbefore).eq hopened
      obtain ⟨o, ho, above?, hown⟩ := hb hbefore
      exact ⟨o, ho, above?, hgrows.opened hown⟩

/-- The block around a stacked one is stacked, too. -/
theorem Stacked.exists_own {blocks : List BlockId} (h : s.Stacked blocks) {b : BlockId}
    {p c : CursorId} (hb : b ∈ blocks) (hopened : s.Opened b (some p) c) :
    ∃ o ∈ blocks, ∃ parent?, s.Opened o parent? p := by
  induction h with
  | nil => cases hb
  | cons hd _ ih =>
      rcases List.mem_cons.mp hb with rfl | hb
      · obtain ⟨o, ho, hown⟩ := hd hopened
        exact ⟨o, List.mem_cons_of_mem _ ho, hown⟩
      · obtain ⟨o, ho, hown⟩ := ih hb
        exact ⟨o, List.mem_cons_of_mem _ ho, hown⟩

end Session

/-- A block that opens was not open before, and the cursor that made it could be used. -/
theorem BlockId.opened_of_open {b : BlockId} {s t : Session} {c : CursorId}
    (h : b.open s = (.ok c, t)) :
    ∃ block, s.block? b = some block ∧ block.cursor = none ∧ t.Opened b block.parentCursor c ∧
      ∀ p, block.parentCursor = some p → ∃ cursor, s.cursor? p = some cursor ∧ cursor.IsUsable := by
  cases opening_of_eq h with
  | @opened block n children taken looked hb hc ht hsilent hask =>
      obtain ⟨htaken, -, hfresh⟩ := takes_block hb ht
      have hlooked := (hsilent.block? b).trans htaken
      refine ⟨block, hb, hc, ?_, ?_⟩
      · refine (Session.opened_attach hlooked hc children).mpr (.inr ⟨rfl, rfl, ?_⟩)
        rw [hsilent.freshCursor, hfresh]
      · intro p hp
        cases ht with
        | root hroot =>
            rw [hroot] at hp
            cases hp
        | child hparent hcursor hu _ =>
            rw [hparent] at hp
            cases hp
            exact ⟨_, hcursor, hu⟩

namespace Moment

/-- The blocks that are open, the innermost first. -/
def openBlocks (m : Moment) : List BlockId := m.entered.filter fun b => b ∉ m.exited

theorem mem_openBlocks {m : Moment} {b : BlockId} : b ∈ m.openBlocks ↔ m.IsOpen b := by
  simp only [openBlocks, IsOpen, List.mem_filter, decide_eq_true_eq]

/-- Blocks are left in the opposite order in which they were entered. -/
def LastFirst : Moment → List Deed → Prop
  | _, [] => True
  | m, d :: ds =>
    (∀ b failure, d = .exit b failure → m.openBlocks.head? = some b) ∧ LastFirst (m.after d) ds

/-- The open blocks are stacked, and none was entered twice. -/
structure Nested (m : Moment) : Prop where
  accounted : m.Accounted
  once : m.entered.Nodup
  stacked : m.session.Stacked m.openBlocks

theorem allows_of_head {m : Moment} {d : Deed}
    (h : ∀ b failure, d = .exit b failure → m.openBlocks.head? = some b) : m.Allows d := by
  cases d with
  | exit b failure => exact mem_openBlocks.mp (List.mem_of_head? (h b failure rfl))
  | _ => trivial

theorem LastFirst.orderly {m : Moment} {ds : List Deed} (h : m.LastFirst ds) : m.Orderly ds := by
  induction ds generalizing m with
  | nil => trivial
  | cons d ds ih => exact ⟨allows_of_head h.1, ih h.2⟩

theorem lastFirst_enter {m : Moment} {b : BlockId} {ds : List Deed} :
    m.LastFirst (.enter b :: ds) ↔ (m.after (.enter b)).LastFirst ds := by
  refine and_iff_right ?_
  intro b' failure heq
  cases heq

theorem lastFirst_exit {m : Moment} {b : BlockId} {failure : Option Failure} {ds : List Deed}
    (hb : m.openBlocks.head? = some b) :
    m.LastFirst (.exit b failure :: ds) ↔ (m.after (.exit b failure)).LastFirst ds := by
  refine and_iff_right ?_
  rintro b' failure' heq
  cases heq
  exact hb

theorem lastFirst_append {m : Moment} {ds es : List Deed} :
    m.LastFirst (ds ++ es) ↔ m.LastFirst ds ∧ (m.afterAll ds).LastFirst es := by
  induction ds generalizing m with
  | nil => simp only [List.nil_append, afterAll_nil, LastFirst, true_and]
  | cons d ds ih => simp only [List.cons_append, afterAll_cons, LastFirst, ih, and_assoc]

/-- Entering adds a block to the open ones. -/
theorem openBlocks_enter {m : Moment} (h : m.Accounted) {b : BlockId} (hb : b ∉ m.entered)
    (s : Session) :
    openBlocks { m with session := s, entered := b :: m.entered } = b :: m.openBlocks := by
  have hexited : b ∉ m.exited := fun hmem => hb (h.exited hmem)
  rw [openBlocks, List.filter_cons_of_pos (by simpa using hexited)]
  rfl

/-- Leaving the innermost block takes it from the open ones. -/
theorem openBlocks_exit {m : Moment} (hm : m.entered.Nodup) {b : BlockId} {rest : List BlockId}
    (hb : m.openBlocks = b :: rest) (s : Session) :
    openBlocks { m with session := s, exited := b :: m.exited } = rest := by
  have hnodup : (b :: rest).Nodup := hb ▸ hm.filter _
  have hsplit : openBlocks { m with session := s, exited := b :: m.exited } =
      m.openBlocks.filter fun d => d ≠ b := by
    simp only [openBlocks, List.filter_filter]
    refine List.filter_congr fun d _ => ?_
    simp [not_or]
  -- The block was entered once, so nothing else goes with it.
  rw [hsplit, hb, List.filter_cons_of_neg (by simp)]
  refine List.filter_eq_self.mpr fun d hd => ?_
  have hne : d ≠ b := fun heq => (List.nodup_cons.mp hnodup).1 (heq ▸ hd)
  simpa using hne

namespace Nested

variable {m : Moment}

theorem exists_opened (h : m.Nested) : ∀ b ∈ m.openBlocks, ∃ parent? c, m.session.Opened b parent? c :=
  fun _ hb => h.accounted.entered.mp (mem_openBlocks.mp hb).1

theorem stacked_after (h : m.Nested) (d : Deed) : (m.after d).session.Stacked m.openBlocks :=
  h.stacked.grows (d.evolves m.session).grows h.exists_opened

/-- A block that opens stands above the open ones. -/
theorem stacked_enter (h : m.Nested) {b : BlockId} {c : CursorId} {t : Session}
    (hopen : b.open m.session = (.ok c, t)) : t.Stacked (b :: m.openBlocks) := by
  have hgrows : m.session.Grows t := b.keeps_open.of_eq hopen
  refine .cons ?_ (h.stacked.grows hgrows h.exists_opened)
  intro p c' hb
  obtain ⟨block, hblock, -, hopened, hparent⟩ := BlockId.opened_of_open hopen
  obtain ⟨hp, rfl⟩ := hopened.eq hb
  obtain ⟨cursor, hcursor, hu⟩ := hparent p hp
  -- The cursor that made the block can be used, so its own block is open.
  obtain ⟨o, parent?, ho⟩ := h.accounted.exists_own hcursor
  have hfree := (h.accounted.isFree_iff hcursor).mpr hu
  refine ⟨o, mem_openBlocks.mpr ⟨?_, hfree.own ho⟩, parent?, hgrows.opened ho⟩
  exact h.accounted.entered.mpr ⟨_, _, ho⟩

theorem enter_of_ok (h : m.Nested) {b : BlockId} {c : CursorId} {t : Session}
    (hopen : b.open m.session = (.ok c, t)) :
    (m.after (.enter b)).Nested ∧ (m.after (.enter b)).openBlocks = b :: m.openBlocks := by
  have hafter := after_enter_of_ok hopen
  obtain ⟨block, hblock, hcursor, -⟩ := BlockId.opened_of_open hopen
  have hb := h.accounted.not_entered hblock hcursor
  have hblocks : (m.after (.enter b)).openBlocks = b :: m.openBlocks := by
    rw [hafter]
    exact openBlocks_enter h.accounted hb t
  refine ⟨⟨h.accounted.after_enter b, ?_, ?_⟩, hblocks⟩
  · rw [hafter]
    exact List.nodup_cons.mpr ⟨hb, h.once⟩
  · rw [hblocks, hafter]
    exact h.stacked_enter hopen

theorem enter_of_error (h : m.Nested) {b : BlockId} {f : Failure} {t : Session}
    (hopen : b.open m.session = (.error f, t)) :
    (m.after (.enter b)).Nested ∧ (m.after (.enter b)).openBlocks = m.openBlocks := by
  have hafter := after_enter_of_error hopen
  have hblocks : (m.after (.enter b)).openBlocks = m.openBlocks := by rw [hafter]; rfl
  refine ⟨⟨h.accounted.after_enter b, ?_, ?_⟩, hblocks⟩
  · rw [hafter]
    exact h.once
  · rw [hblocks]
    exact h.stacked_after _

theorem exit (h : m.Nested) {b : BlockId} {rest : List BlockId} (hb : m.openBlocks = b :: rest)
    (failure : Option Failure) :
    (m.after (.exit b failure)).Nested ∧ (m.after (.exit b failure)).openBlocks = rest := by
  have hafter := after_exit m b failure
  have hopen : m.IsOpen b := mem_openBlocks.mp (hb ▸ List.mem_cons_self)
  have hblocks : (m.after (.exit b failure)).openBlocks = rest := by
    rw [hafter]
    exact openBlocks_exit h.once hb _
  refine ⟨⟨h.accounted.after_exit hopen failure, ?_, ?_⟩, hblocks⟩
  · rw [hafter]
    exact h.once
  · have hstacked := h.stacked_after (.exit b failure)
    rw [hb] at hstacked
    rw [hblocks]
    cases hstacked with
    | cons _ hrest => exact hrest

theorem plain (h : m.Nested) {d : Deed} (hd : d.IsPlain) :
    (m.after d).Nested ∧ (m.after d).openBlocks = m.openBlocks := by
  have hafter := after_plain hd m
  have hblocks : (m.after d).openBlocks = m.openBlocks := by rw [hafter]; rfl
  refine ⟨⟨?_, ?_, ?_⟩, hblocks⟩
  · refine h.accounted.after (allows_of_head ?_)
    rintro b failure rfl
    exact hd.elim
  · rw [hafter]
    exact h.once
  · rw [hblocks]
    exact h.stacked_after d

/-- Leaving blocks in the opposite order keeps them nested. -/
theorem after (h : m.Nested) {d : Deed}
    (hd : ∀ b failure, d = .exit b failure → m.openBlocks.head? = some b) : (m.after d).Nested := by
  rcases d.cases_plain with hplain | ⟨b, rfl⟩ | ⟨b, failure, rfl⟩
  · exact (h.plain hplain).1
  · rcases hopen : b.open m.session with ⟨f | c, t⟩
    · exact (h.enter_of_error hopen).1
    · exact (h.enter_of_ok hopen).1
  · obtain ⟨rest, hrest⟩ := List.head?_eq_some_iff.mp (hd b failure rfl)
    exact (h.exit hrest failure).1

theorem afterAll (h : m.Nested) {ds : List Deed} (hds : m.LastFirst ds) : (m.afterAll ds).Nested := by
  induction ds generalizing m with
  | nil => exact h
  | cons d ds ih => exact ih (h.after hds.1) hds.2

/-- The block around an open block is open. -/
theorem isOpen_own (h : m.Nested) {b o : BlockId} {parent? : Option CursorId} {p c : CursorId}
    (hb : m.session.Opened b (some p) c) (hopen : m.IsOpen b) (ho : m.session.Opened o parent? p) :
    m.IsOpen o := by
  obtain ⟨o', ho', parent?', hown⟩ := h.stacked.exists_own (mem_openBlocks.mpr hopen) hb
  obtain rfl := h.accounted.sound.opened_injective hown ho
  exact mem_openBlocks.mp ho'

/-- When a block is over, no block of a child is open any more. -/
theorem activeChild_of_closed (h : m.Nested) {c : CursorId} {cursor : Cursor}
    (hc : m.session.cursor? c = some cursor) (hclosed : cursor.closed = true) :
    cursor.activeChild = none := by
  obtain ⟨o, parent?, ho⟩ := h.accounted.exists_own hc
  cases ha : cursor.activeChild with
  | none => rfl
  | some a =>
      obtain ⟨b, hb, hopen⟩ := (h.accounted.active hc).mp ha
      exact absurd ((h.accounted.closed ho hc).mp hclosed) (h.isOpen_own hb hopen ho).2

end Nested

theorem nested_start (w : World) : (start w).Nested := ⟨accounted_start w, .nil, .nil⟩

end Moment

/-! ## Scripts that only use blocks -/

/-- A script never enters or leaves a block by hand. -/
def Script.IsBracketed : Script → Prop
  | give _ => True
  | fail _ => True
  | act d next => d.IsPlain ∧ ∀ reply, (next reply).IsBracketed
  | use _ _ inside next => (∀ c, (inside c).IsBracketed) ∧ ∀ outcome, (next outcome).IsBracketed

/-- The deeds of such a script leave blocks in the opposite order, and in the end the same blocks are
open as in the beginning. -/
theorem Script.IsBracketed.lastFirst {p : Script} (hp : p.IsBracketed) {m : Moment} (hm : m.Nested) :
    m.LastFirst (p.deeds m.session) ∧
      (m.afterAll (p.deeds m.session)).openBlocks = m.openBlocks := by
  induction p generalizing m with
  | give v => exact ⟨trivial, rfl⟩
  | fail f => exact ⟨trivial, rfl⟩
  | act d next ih =>
      obtain ⟨hplain, hnext⟩ := hp
      obtain ⟨hnested, hblocks⟩ := hm.plain hplain
      obtain ⟨hlast, hend⟩ := ih _ (hnext (d.run m.session).1) hnested
      rw [deeds, Moment.afterAll_cons]
      refine ⟨⟨?_, hlast⟩, hend.trans hblocks⟩
      rintro b failure rfl
      exact hplain.elim
  | use form b inside next ihinside ih =>
      obtain ⟨hinside, hnext⟩ := hp
      -- A block that cannot be opened is never around anything.
      rcases hopen : b.open m.session with ⟨f | c, t⟩
      · obtain ⟨hnested, hblocks⟩ := hm.enter_of_error hopen
        have hsession : (m.after (.enter b)).session = t := by
          rw [Moment.after_enter_of_error hopen]
        obtain ⟨hlast, hend⟩ := ih _ (hnext (.error f)) hnested
        rw [hsession] at hlast hend
        rw [deeds_use_of_error hopen, Moment.afterAll_cons, Moment.lastFirst_enter]
        exact ⟨hlast, hend.trans hblocks⟩
      · obtain ⟨hnested, hblocks⟩ := hm.enter_of_ok hopen
        have hsession : (m.after (.enter b)).session = t := by
          rw [Moment.after_enter_of_ok hopen]
        obtain ⟨hlast, hend⟩ := ihinside c (hinside c) hnested
        have hafter := session_afterAll_deeds (inside c) (m.after (.enter b))
        rw [hsession] at hlast hend hafter
        -- After what is inside, the block is the innermost open one again.
        have hinner := hnested.afterAll hlast
        obtain ⟨hexited, hrest⟩ := hinner.exit (hend.trans hblocks)
          (BlockId.failure? ((inside c).run t).1)
        have hused : (((m.after (.enter b)).afterAll ((inside c).deeds t)).after
            (.exit b (BlockId.failure? ((inside c).run t).1))).session =
              (b.use form (fun c => (inside c).run) m.session).2 := by
          rw [Moment.after_exit, hafter, snd_use hopen]
        obtain ⟨hlast', hend'⟩ :=
          ih _ (hnext (b.use form (fun c => (inside c).run) m.session).1) hexited
        rw [hused] at hlast' hend'
        have hhead : ((m.after (.enter b)).afterAll ((inside c).deeds t)).openBlocks.head? = some b := by
          rw [hend, hblocks]
          rfl
        rw [deeds_use_of_ok hopen, Moment.afterAll_cons, Moment.afterAll_append,
          Moment.afterAll_cons, Moment.lastFirst_enter, Moment.lastFirst_append,
          Moment.lastFirst_exit hhead]
        exact ⟨⟨hlast, hlast'⟩, hend'.trans hrest⟩

end TreeShape
