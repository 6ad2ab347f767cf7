import TreeShape.Proofs.Activity.Moment
import TreeShape.Proofs.Sample

/-!
# Every child is taken once

A cursor gives out the children of its node one after the other.  A child is taken when a block gets to
it, whether the block then accepts the child or not, and when it is skipped.

`Session.positions` lists the positions at which a run takes children of one cursor, read off what the
deeds of the run came to.  The cursor counts for itself, in two places of the program, and checks its
count in a third.  That the two agree is `Session.exists_positions`: what a run takes are the positions
from the cursor's count before the run up to its count after it, each of them once and in this order.

The runs are any lists of deeds: blocks may be entered late, in any order, and again after a failure;
blocks may be left while others inside them are open, or left twice; whatever fails, the run goes on.

## Strategy

* **What is counted.**  `Deed.advances` compares the two for one deed.  Most deeds are `Session.Still`:
  they move no count.  Skipping moves one count (`advances_skip`), and so does entering a block, just if
  the block gets to a child (`advances_enter`); accepting the child, which comes after that, is still.
* **Within bounds.**  `Session.Counted` keeps every count within the children that the cursor has seen,
  and at zero if they do not matter.  It is shown for each change of a session,
  `Session.Change.counted`; it takes a second invariant along, that only cursors whose children matter
  have made blocks, or else a block could take what does not matter.
* **All of them in the end.**  The last thing that is done before a block is released is to compare the
  count with the number of children: `spent_of_close`, and from there `spent_of_exit` and
  `spent_of_use`.
-/

namespace TreeShape

open Run

/-! ## What a run takes -/

/-- The position of the child that a cursor gives out next.  A cursor that has not been made yet will
start with the first. -/
def Session.nextOf (s : Session) (c : CursorId) : Nat := ((s.cursor? c).map (·.next)).getD 0

/-- Whether entering a block gets to a child of a cursor: the block hangs on the cursor, it was not
opened before, and it gets a node. -/
def BlockId.reaches (b : BlockId) (s : Session) (c : CursorId) : Bool :=
  match s.block? b with
  | none => false
  | some block => block.cursor.isNone && block.parentCursor == some c && (b.takeNode s).1.isOk

/-- The positions of a cursor's children that a deed takes. -/
def Deed.positions (c : CursorId) : Deed → Session → List Nat
  | enter b, s => if b.reaches s c then [s.nextOf c] else []
  | skip d count, s =>
    if d = c ∧ (d.skip count s).1.isOk then List.range' (s.nextOf c) count.toNat else []
  | _, _ => []

/-- The positions of a cursor's children that a run takes, in the order in which it takes them. -/
def Session.positions (c : CursorId) : Session → List Deed → List Nat
  | _, [] => []
  | s, d :: ds => d.positions c s ++ Session.positions c (d.run s).2 ds

/-! ## Steps that take nothing -/

namespace Session

variable {s t : Session}

/-- No cursor gives out a child. -/
def Still (s t : Session) : Prop := ∀ c, t.nextOf c = s.nextOf c

instance : IsCarried Still where
  silent h c := by simp only [nextOf, h.cursor?]
  trans hst htu c := (htu c).trans (hst c)

theorem nextOf_of_cursor {c : CursorId} {cursor : Cursor} (h : s.cursor? c = some cursor) :
    s.nextOf c = cursor.next := by
  simp [nextOf, h]

/-- Changing a cursor that there is changes its count and no other. -/
theorem nextOf_modifyCursor {c : CursorId} {cursor : Cursor} (h : s.cursor? c = some cursor)
    (change : Cursor → Cursor) (d : CursorId) :
    (s.modifyCursor c change).nextOf d = if d = c then (change cursor).next else s.nextOf d := by
  simp only [nextOf, cursor?_modifyCursor, h]
  split <;> rfl

theorem nextOf_take {c : CursorId} {cursor : Cursor} (h : s.cursor? c = some cursor) (b : BlockId)
    (n : Node) (d : CursorId) :
    (s.take b c n).nextOf d = if d = c then cursor.next + 1 else s.nextOf d :=
  nextOf_modifyCursor h _ d

theorem still_modifyCursor (s : Session) (c : CursorId) {change : Cursor → Cursor}
    (h : ∀ cursor, (change cursor).next = cursor.next) : s.Still (s.modifyCursor c change) := by
  intro d
  simp only [nextOf, cursor?_modifyCursor]
  split
  · next heq =>
      subst heq
      cases s.cursor? d <;> simp [h]
  · rfl

/-- A new cursor starts with the first child. -/
theorem still_addCursor (s : Session) {new : Cursor} (h : new.next = 0) :
    s.Still (s.addCursor new) := by
  intro d
  simp only [nextOf, cursor?_addCursor]
  split
  · next heq =>
      subst heq
      simp [h, cursor?, freshCursor]
  · rfl

theorem still_attach (s : Session) (b : BlockId) (block : Block) (n : Node)
    (children : List Node) : s.Still (s.attach b block n children) := by
  have hadded : s.Still ((s.addCursor (block.cursorFor n children)).modifyBlock b
      fun block => { block with cursor := some s.freshCursor }) := s.still_addCursor rfl
  unfold attach
  cases block.parentCursor with
  | none => exact hadded
  | some p => exact IsCarried.trans hadded (still_modifyCursor _ p fun _ => rfl)

theorem still_release (s : Session) (c : CursorId) (parent : Option CursorId) :
    s.Still (s.release c parent) := by
  have hclosed : s.Still (s.modifyCursor c fun cursor => { cursor with closed := true }) :=
    s.still_modifyCursor c fun _ => rfl
  unfold release
  cases parent with
  | none => exact hclosed
  | some p => exact IsCarried.trans hclosed (still_modifyCursor _ p fun _ => rfl)

end Session

/-- Whether a block accepts the node that it has taken makes no difference. -/
theorem BlockId.still_accept {s : Session} {b : BlockId} {block : Block} (hb : s.block? b = some block)
    (n : Node) : s.Still (b.accept n s).2 := by
  rcases accept_cases hb n with ⟨f, t, hf, hsilent, -⟩ | ⟨e, children, -, -, hok⟩
  · rw [hf]
    exact Session.IsCarried.silent hsilent
  · rw [hok]
    exact Session.IsCarried.trans (Session.IsCarried.silent (s.silent_record e))
      (Session.still_attach _ b block n children)

theorem BlockId.still_exit (b : BlockId) (failure : Option Failure) (s : Session) :
    s.Still (b.exit failure s).2 :=
  (keeps_exit_of_release (fun {s} _ c _ _ => s.still_release c _) failure).after s

/-! ## What a deed takes -/

/-- A deed takes the positions from the cursor's count before it up to the count after it. -/
def Session.Advances (s t : Session) (c : CursorId) (taken : List Nat) : Prop :=
  ∃ count, t.nextOf c = s.nextOf c + count ∧ taken = List.range' (s.nextOf c) count

namespace Session

variable {s t u : Session} {c : CursorId}

theorem Advances.of_eq (h : t.nextOf c = s.nextOf c) : s.Advances t c [] := ⟨0, h, rfl⟩

theorem Advances.append {taken taken' : List Nat} (h : s.Advances t c taken)
    (h' : t.Advances u c taken') : s.Advances u c (taken ++ taken') := by
  obtain ⟨count, hcount, rfl⟩ := h
  obtain ⟨count', hcount', rfl⟩ := h'
  refine ⟨count + count', ?_, ?_⟩
  · rw [hcount', hcount, Nat.add_assoc]
  · rw [hcount, List.range'_append_1]

end Session

namespace Deed

theorem advances_skip (s : Session) (d c : CursorId) (count : Int) :
    s.Advances ((skip d count).run s).2 c ((skip d count).positions c s) := by
  rcases d.skip_cases count s with ⟨f, hf⟩ | ⟨cursor, hcursor, -, -, -, hok⟩
  · have hnone : (skip d count).positions c s = [] := by
      simp [positions, hf, Except.isOk, Except.toBool]
    rw [hnone, run, bind_apply, hf]
    exact .of_eq rfl
  · rw [run, bind_apply, hok, andThen_ok, pure_apply]
    by_cases hd : c = d
    · subst hd
      refine ⟨count.toNat, ?_, by simp [positions, hok, Except.isOk, Except.toBool]⟩
      rw [Session.nextOf_modifyCursor hcursor, if_pos rfl, Session.nextOf_of_cursor hcursor]
    · refine ⟨0, ?_, by simp [positions, Ne.symm hd]⟩
      rw [Session.nextOf_modifyCursor hcursor, if_neg hd, Nat.add_zero]

theorem advances_enter (s : Session) (b : BlockId) (c : CursorId) :
    s.Advances ((enter b).run s).2 c ((enter b).positions c s) := by
  have hrun : ((enter b).run s).2 = (b.open s).2 := Moment.session_after_enter { session := s } b
  -- A block that does not reach the cursor leaves its count as it is.
  have hidle : b.reaches s c = false → (b.open s).2.nextOf c = s.nextOf c →
      s.Advances (b.open s).2 c ((enter b).positions c s) := by
    intro hreaches h
    have hnone : (enter b).positions c s = [] := by simp [positions, hreaches]
    rw [hnone]
    exact .of_eq h
  rw [hrun]
  cases hb : s.block? b with
  | none =>
      apply hidle (by simp [BlockId.reaches, hb])
      rw [BlockId.open_of_missing hb]
  | some block =>
      cases hc : block.cursor with
      | some own =>
          apply hidle (by simp [BlockId.reaches, hb, hc])
          rw [BlockId.open_of_cursor hb hc]
      | none =>
          rcases BlockId.takeNode_cases hb with ⟨f, hf⟩ | ⟨n, taken, hn, ht⟩
          · apply hidle (by simp [BlockId.reaches, hb, hf, Except.isOk, Except.toBool])
            rw [BlockId.open_apply hb hc, hf, andThen_error]
          · obtain ⟨htaken, -, -⟩ := BlockId.takes_block hb ht
            have haccept := BlockId.still_accept htaken n c
            rw [BlockId.open_apply hb hc, hn, andThen_ok] at hidle ⊢
            cases ht with
            | root hp => exact hidle (by simp [BlockId.reaches, hb, hp]) haccept
            | @child p cursor _ hp hcursor hu hchild =>
                rw [Session.nextOf_take hcursor] at haccept
                by_cases hpc : c = p
                · -- The block hangs on this cursor and gets the child at its count.
                  subst hpc
                  have hreaches : b.reaches s c = true := by
                    simp [BlockId.reaches, hb, hc, hp, hn, Except.isOk, Except.toBool]
                  refine ⟨1, ?_, by simp [positions, hreaches]⟩
                  rw [haccept, if_pos rfl, Session.nextOf_of_cursor hcursor]
                · rw [if_neg hpc] at haccept
                  exact hidle (by simp [BlockId.reaches, hb, hp, Ne.symm hpc]) haccept

/-- Of the deeds that neither enter nor leave a block, only skipping takes children. -/
theorem IsPlain.still {d : Deed} (hd : d.IsPlain) (hskip : ∀ c count, d ≠ skip c count)
    (s : Session) : s.Still (d.run s).2 := by
  have houtcome := hd.outcome s
  generalize d.run s = r at houtcome ⊢
  cases houtcome with
  | skipped => exact absurd rfl (hskip _ _)
  | _ => exact fun _ => rfl

/-- What a deed takes is what the cursor counts. -/
theorem advances (d : Deed) (c : CursorId) (s : Session) :
    s.Advances (d.run s).2 c (d.positions c s) := by
  cases d with
  | skip e count => exact advances_skip s e c count
  | enter b => exact advances_enter s b c
  | exit b failure =>
      have hrun : ((exit b failure).run s).2 = (b.exit failure s).2 :=
        congrArg Moment.session (Moment.after_exit { session := s } b failure)
      rw [hrun]
      exact .of_eq (b.still_exit failure s c)
  | _ =>
      refine .of_eq (IsPlain.still ?_ ?_ s c)
      · exact trivial
      · rintro _ _ ⟨⟩

end Deed

/-- What a run takes is what the cursor counts. -/
theorem Session.exists_positions (c : CursorId) (m : Moment) (ds : List Deed) :
    m.session.Advances (m.afterAll ds).session c (Session.positions c m.session ds) := by
  induction ds generalizing m with
  | nil => exact .of_eq rfl
  | cons d ds ih => exact (d.advances c m.session).append (ih (m.after d))

/-! ## Bounds -/

/-- The count of a cursor stays within the children that it has seen, and at the first child if these do
not matter. -/
def Cursor.Counted (cursor : Cursor) : Prop :=
  cursor.next ≤ cursor.children.length ∧ (cursor.ignoring = true → cursor.next = 0)

/-- All cursors count right, and blocks are made only by cursors whose children matter. -/
structure Session.Counted (s : Session) : Prop where
  cursor : ∀ {c cursor}, s.cursor? c = some cursor → cursor.Counted
  parent : ∀ {b block p}, s.block? b = some block → block.parentCursor = some p →
    ∃ cursor, s.cursor? p = some cursor ∧ cursor.ignoring = false

namespace Session

variable {s t : Session}

/-- If blocks hang where they hung before, only the counts of the cursors are to be looked at. -/
theorem counted_of_grows (hgrows : s.Grows t)
    (hcursor : ∀ {c new}, t.cursor? c = some new → new.Counted)
    (hblock : ∀ {b new p}, t.block? b = some new → new.parentCursor = some p →
      ∃ cursor, s.cursor? p = some cursor ∧ cursor.ignoring = false) : t.Counted where
  cursor := hcursor
  parent hb hp := by
    obtain ⟨old, hold, hignoring⟩ := hblock hb hp
    obtain ⟨new, hnew, hgrown⟩ := hgrows.cursor hold
    exact ⟨new, hnew, hgrown.ignoring.trans hignoring⟩

/-- A block hangs where it hung before, or was made just now by a cursor whose children matter. -/
theorem Change.parent_cases (h : s.Change t) {b : BlockId} {new : Block} {p : CursorId}
    (hb : t.block? b = some new) (hp : new.parentCursor = some p) :
    (∃ old, s.block? b = some old ∧ old.parentCursor = some p) ∨
      ∃ cursor, s.cursor? p = some cursor ∧ cursor.ignoring = false := by
  cases h with
  | silent h => exact .inl ⟨new, (h.block? b).symm.trans hb, hp⟩
  | take hold =>
      rcases block?_take_cases hold hb with ⟨rfl, rfl⟩ | ⟨-, hb⟩
      · exact .inl ⟨_, hold, hp⟩
      · exact .inl ⟨new, hb, hp⟩
  | attach hold =>
      rcases block?_attach_cases hold hb with ⟨rfl, rfl⟩ | ⟨-, hb⟩
      · exact .inl ⟨_, hold, hp⟩
      · exact .inl ⟨new, hb, hp⟩
  | release => exact .inl ⟨new, (block?_release ..).symm.trans hb, hp⟩
  | rootBlock =>
      rcases block?_addBlock_cases hb with ⟨-, rfl⟩ | hb
      · cases hp
      · exact .inl ⟨new, hb, hp⟩
  | childBlock e hcursor _ hignoring =>
      rcases block?_addBlock_cases hb with ⟨-, rfl⟩ | hb
      · cases hp
        exact .inr ⟨_, hcursor, hignoring⟩
      · exact .inl ⟨new, hb, hp⟩
  | advance => exact .inl ⟨new, hb, hp⟩

/-- A cursor that gives out a child has seen it. -/
theorem counted_take {b : BlockId} {block : Block} {c d : CursorId} {cursor new : Cursor} {n : Node}
    (hs : s.Counted) (hb : s.block? b = some block) (hp : block.parentCursor = some c)
    (hcursor : s.cursor? c = some cursor) (hn : cursor.children[cursor.next]? = some n)
    (hd : (s.take b c n).cursor? d = some new) : new.Counted := by
  rcases cursor?_modifyCursor_cases hd with ⟨old, rfl, hold, rfl⟩ | ⟨-, hold⟩
  · -- The block hangs on the cursor, so its children matter.
    obtain ⟨parent, hparent, hignoring⟩ := hs.parent hb hp
    rw [hcursor] at hold hparent
    cases hold
    cases hparent
    exact ⟨(List.getElem?_eq_some_iff.mp hn).1, fun h => absurd (hignoring.symm.trans h) Bool.false_ne_true⟩
  · exact hs.cursor hold

/-- After a change, every cursor counts right. -/
theorem Change.counted_cursor (h : s.Change t) (hs : s.Counted) {d : CursorId} {new : Cursor}
    (hd : t.cursor? d = some new) : new.Counted := by
  cases h with
  | silent h => exact hs.cursor ((h.cursor? _).symm.trans hd)
  | take hb _ hp hcursor _ hn => exact counted_take hs hb hp hcursor hn hd
  | attach _ _ hp _ =>
      rcases cursor?_attach_cases hp hd with ⟨-, rfl⟩ | ⟨old, -, hold, rfl⟩
      · exact ⟨Nat.zero_le _, fun _ => rfl⟩
      · exact ⟨(hs.cursor hold).1, (hs.cursor hold).2⟩
  | release =>
      rw [cursor?_release, Option.map_eq_some_iff] at hd
      obtain ⟨old, hold, rfl⟩ := hd
      exact ⟨(hs.cursor hold).1, (hs.cursor hold).2⟩
  | rootBlock | childBlock => exact hs.cursor hd
  | @advance c cursor count hcursor _ hignoring hle =>
      rcases cursor?_modifyCursor_cases hd with ⟨old, -, hold, rfl⟩ | ⟨-, hold⟩
      · rw [hcursor] at hold
        cases hold
        exact ⟨hle, fun h => absurd (hignoring.symm.trans h) Bool.false_ne_true⟩
      · exact hs.cursor hold

theorem Change.counted (h : s.Change t) (hs : s.Counted) : t.Counted := by
  refine counted_of_grows h.grows (h.counted_cursor hs) fun hb hp => ?_
  rcases h.parent_cases hb hp with ⟨old, hold, hparent⟩ | hmade
  · exact hs.parent hold hparent
  · exact hmade

theorem Evolves.counted (h : s.Evolves t) (hs : s.Counted) : t.Counted := by
  induction h with
  | refl => exact hs
  | tail _ hstep ih =>
      rcases hstep with hchange | ⟨change, rfl⟩
      · exact hchange.counted ih
      · exact ⟨ih.cursor, ih.parent⟩

theorem counted_fresh (w : World) : Session.Counted { world := w } where
  cursor hc := by simp [cursor?] at hc
  parent hb := by simp [block?] at hb

end Session

/-! ## Nodes handed out, and blocks left -/

namespace BlockId

variable {s : Session} {b : BlockId} {c : CursorId} {cursor : Cursor}

/-- The block that gets to a child holds the node that the cursor has seen there. -/
theorem node_of_reaches (h : b.reaches s c = true) (hcursor : s.cursor? c = some cursor) :
    ∃ block, (b.open s).2.block? b = some block ∧
      cursor.children[cursor.next]? = some block.node := by
  unfold reaches at h
  cases hb : s.block? b with
  | none => simp [hb] at h
  | some block =>
      simp only [hb, Bool.and_eq_true, Option.isNone_iff_eq_none, beq_iff_eq] at h
      obtain ⟨⟨hc, hp⟩, htake⟩ := h
      rcases takeNode_cases hb with ⟨f, hf⟩ | ⟨n, taken, hn, ht⟩
      · simp [hf, Except.isOk, Except.toBool] at htake
      obtain ⟨htaken, -, -⟩ := takes_block hb ht
      have hchild : cursor.children[cursor.next]? = some n := by
        cases ht with
        | root hroot =>
            rw [hp] at hroot
            cases hroot
        | child hparent hcursor' _ hchild =>
            rw [hp] at hparent
            cases hparent
            rw [hcursor] at hcursor'
            cases hcursor'
            exact hchild
      rw [open_apply hb hc, hn, andThen_ok]
      rcases accept_cases htaken n with ⟨f, t, hf, hsilent, -⟩ | ⟨e, children, -, -, hok⟩
      · rw [hf]
        exact ⟨_, (hsilent.block? b).trans htaken, hchild⟩
      · rw [hok, Session.block?_attach, if_pos rfl, Session.block?_record, htaken]
        exact ⟨_, rfl, hchild⟩

end BlockId

/-- The block has been opened, and all children of its node were taken, unless they do not matter. -/
def Session.Spent (s : Session) (b : BlockId) : Prop :=
  ∃ block c cursor, s.block? b = some block ∧ block.cursor = some c ∧ s.cursor? c = some cursor ∧
    (cursor.ignoring = false → cursor.next = cursor.children.length)

namespace BlockId

variable {s : Session} {b : BlockId}

/-- The last check before a block is released is that no child is left. -/
theorem spent_of_close (h : (b.close s).1 = .ok ()) : (b.close s).2.Spent b := by
  rw [close, bind_apply] at h ⊢
  rcases hlocating : b.locating b.checkImplicit s with ⟨f | _, t⟩
  · rw [hlocating] at h
    cases h
  rw [hlocating, andThen_ok, bind_apply] at h
  rw [andThen_ok, bind_apply]
  -- Closing has not failed so far, so the block and its cursor are there.
  cases hb : t.block? b with
  | none =>
      rw [BlockId.cursor, bind_apply, block_of_missing hb] at h
      cases h
  | some block =>
      cases hc : block.cursor with
      | none =>
          rw [BlockId.cursor, bind_apply, block_apply hb, andThen_ok, hc] at h
          cases h
      | some c =>
          rw [BlockId.cursor_apply hb hc, andThen_ok] at h ⊢
          cases hcursor : t.cursor? c with
          | none =>
              rw [CursorId.checkChildCount, bind_apply, CursorId.cursor_of_missing hcursor] at h
              cases h
          | some cursor =>
              rw [CursorId.checkChildCount_apply hcursor] at h ⊢
              refine ⟨block, c, cursor, hb, hc, hcursor, fun hignoring => ?_⟩
              by_cases hcount : cursor.next = cursor.children.length
              · exact hcount
              · obtain ⟨f, hf⟩ := Config.exists_mismatch_eq (α := Unit) cursor.config t.world
                  cursor.path (.childCount cursor.next cursor.children.length)
                simp [hignoring, hcount, hf] at h

/-- A block that is left after a body without a failure, and without one itself, is spent. -/
theorem spent_of_exit (h : (b.exit none s).1 = .ok ()) : (b.exit none s).2.Spent b := by
  by_cases hopened : ∃ block c, s.block? b = some block ∧ block.cursor = some c
  · obtain ⟨block, c, hb, hc⟩ := hopened
    rw [exit_apply hb hc] at h ⊢
    obtain ⟨block', c', cursor, hb', hc', hcursor, hspent⟩ := spent_of_close h
    refine ⟨block', c', { cursor with
        closed := cursor.closed || decide (c' = c)
        activeChild := if block.parentCursor = some c' then none else cursor.activeChild },
      (Session.block?_release ..).trans hb', hc', ?_, hspent⟩
    rw [Session.cursor?_release, conclude, hcursor, Option.map_some]
  · rw [exit_of_unopened] at h
    · cases h
    · intro block hb
      cases hc : block.cursor with
      | none => rfl
      | some c => exact absurd ⟨block, c, hb, hc⟩ hopened

/-- So is a block that was used around a body and came to a value. -/
theorem spent_of_use {α : Type} {form : Use} {body : CursorId → Run α} {a : α}
    (h : (b.use form body s).1 = .ok a) : (b.use form body s).2.Spent b := by
  rcases hopen : b.open s with ⟨f | c, t⟩
  · rw [Script.use_of_open_error hopen] at h
    cases h
  rw [Script.use_apply hopen rfl] at h ⊢
  obtain ⟨hbody, hexit⟩ := eq_of_leave_ok h
  rw [leave_snd, hbody]
  exact spent_of_exit hexit

end BlockId

/-! ## Every run -/

namespace Moment

/-- The session after a run. -/
abbrev sessionAfter (w : World) (ds : List Deed) : Session := ((start w).afterAll ds).session

theorem evolves_afterAll (m : Moment) (ds : List Deed) :
    m.session.Evolves (m.afterAll ds).session := by
  induction ds generalizing m with
  | nil => exact .refl
  | cons d ds ih => exact .trans (d.evolves m.session) (ih (m.after d))

theorem counted_sessionAfter (w : World) (ds : List Deed) : (sessionAfter w ds).Counted :=
  ((start w).evolves_afterAll ds).counted (Session.counted_fresh w)

theorem positions_start (w : World) (ds : List Deed) (c : CursorId) :
    Session.positions c (start w).session ds = List.range ((sessionAfter w ds).nextOf c) := by
  have hnone : (start w).session.nextOf c = 0 := by simp [start, Session.nextOf, Session.cursor?]
  obtain ⟨count, hcount, htaken⟩ := Session.exists_positions c (start w) ds
  rw [hcount, htaken, hnone, Nat.zero_add, List.range_eq_range']

/-- After a run a block has a cursor, and the run has taken each child of its node once and in order,
unless the children do not matter. -/
def AllTaken (w : World) (ds : List Deed) (b : BlockId) : Prop :=
  ∃ block c cursor, (sessionAfter w ds).block? b = some block ∧ block.cursor = some c ∧
    (sessionAfter w ds).cursor? c = some cursor ∧ (cursor.ignoring = false →
      Session.positions c (start w).session ds = List.range cursor.children.length)

theorem allTaken_of_spent {w : World} {ds : List Deed} {b : BlockId}
    (h : (sessionAfter w ds).Spent b) : AllTaken w ds b := by
  obtain ⟨block, c, cursor, hb, hc, hcursor, hspent⟩ := h
  refine ⟨block, c, cursor, hb, hc, hcursor, fun hignoring => ?_⟩
  rw [positions_start, Session.nextOf_of_cursor hcursor, hspent hignoring]

/-- In every moment of every run, and for every cursor: the positions at which children have been taken
from it are those before the one it gives out next, each taken once and in this order; there are no more
of them than children, and later there are not fewer.  A block that gets to a child is given the node
that stands at this position among the children that the cursor has seen.  If the children do not
matter, none is ever taken, and there is no block for any of them.

A block that is left without a failure, by hand or at the end of its use, has had all children of its
node taken, unless they do not matter. -/
theorem positions_of_run (w : World) :
    (∀ ds c cursor, (sessionAfter w ds).cursor? c = some cursor →
      Session.positions c (start w).session ds = List.range cursor.next ∧
      cursor.next ≤ cursor.children.length ∧
      (∀ es, ∃ later, (sessionAfter w (ds ++ es)).cursor? c = some later ∧
        later.children = cursor.children ∧ cursor.next ≤ later.next) ∧
      (∀ b, b.reaches (sessionAfter w ds) c = true →
        ∃ block, (sessionAfter w (ds ++ [.enter b])).block? b = some block ∧
          cursor.children[cursor.next]? = some block.node) ∧
      (cursor.ignoring = true → cursor.next = 0 ∧
        ∀ b block, (sessionAfter w ds).block? b = some block → block.parentCursor ≠ some c)) ∧
    (∀ ds b, (b.exit none (sessionAfter w ds)).1 = .ok () →
      AllTaken w (ds ++ [.exit b none]) b) ∧
    (∀ ds form (b : BlockId) (inside : CursorId → Script) v,
      (b.use form (fun c => (inside c).run) (sessionAfter w ds)).1 = .ok v →
      AllTaken w (ds ++ (Script.use form b inside fun _ => .give v).deeds (sessionAfter w ds)) b) ∧
    ∀ p : Script, sessionAfter w (p.deeds (start w).session) = (p.run (start w).session).2 := by
  refine ⟨?_, ?_, ?_, ?_⟩
  · intro ds c cursor hcursor
    -- Every cursor has counted what was taken from it; the rest is read off this.
    have hcounted := counted_sessionAfter w ds
    refine ⟨?_, (hcounted.cursor hcursor).1, ?_, ?_, ?_⟩
    · rw [positions_start, Session.nextOf_of_cursor hcursor]
    · intro es
      have hgrows := (((start w).afterAll ds).evolves_afterAll es).grows
      obtain ⟨later, hlater, hgrown⟩ := hgrows.cursor hcursor
      rw [sessionAfter, afterAll_append]
      exact ⟨later, hlater, hgrown.children, hgrown.next⟩
    · intro b hb
      obtain ⟨block, hblock, hnode⟩ := BlockId.node_of_reaches hb hcursor
      refine ⟨block, ?_, hnode⟩
      rw [sessionAfter, afterAll_append, afterAll_cons, afterAll_nil, session_after_enter]
      exact hblock
    · intro hignoring
      refine ⟨(hcounted.cursor hcursor).2 hignoring, ?_⟩
      intro b block hb hp
      obtain ⟨parent, hparent, hmatters⟩ := hcounted.parent hb hp
      rw [hcursor] at hparent
      cases hparent
      rw [hignoring] at hmatters
      cases hmatters
  · intro ds b hexit
    apply allTaken_of_spent
    rw [sessionAfter, afterAll_append, afterAll_cons, afterAll_nil, after_exit]
    exact BlockId.spent_of_exit hexit
  · intro ds form b inside v huse
    apply allTaken_of_spent
    rw [sessionAfter, afterAll_append, Script.session_afterAll_deeds, Script.run_use rfl]
    exact BlockId.spent_of_use huse
  · exact fun p => p.session_afterAll_deeds (start w)

/-- The block of the first child finds a leaf where it expects a pair, and is not entered; the second
child is skipped; and the block of the pair is left. -/
def samplePositions : List Deed :=
  [.matching Sample.config ⟨Sample.pair, false⟩ Sample.root, .enter ⟨0⟩,
    .childBlock ⟨0⟩ ⟨Sample.pair, false⟩, .enter ⟨1⟩, .skip ⟨0⟩ 1]

/-- In the sample the first child is taken although its block fails, and the second one after it. -/
theorem positions_of_sample :
    (∃ cursor, (sessionAfter Sample.world samplePositions).cursor? ⟨0⟩ = some cursor ∧
      cursor.next = 2 ∧
      Session.positions ⟨0⟩ (start Sample.world).session samplePositions = List.range cursor.next) ∧
    AllTaken Sample.world (samplePositions ++ [.exit ⟨0⟩ none]) ⟨0⟩ := by
  obtain ⟨hcursors, hexits, -, -⟩ := positions_of_run Sample.world
  obtain ⟨cursor, hcursor⟩ :
      ∃ cursor, (sessionAfter Sample.world samplePositions).cursor? ⟨0⟩ = some cursor := ⟨_, rfl⟩
  refine ⟨⟨cursor, hcursor, ?_, (hcursors _ _ _ hcursor).1⟩, hexits _ _ rfl⟩
  cases hcursor
  rfl

end Moment

end TreeShape
