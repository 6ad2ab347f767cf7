import TreeShape.Proofs.Activity.Moment

/-!
# Cursors know which blocks are open

A cursor remembers the cursor of the child whose block is open, and whether its own block is over.
`Moment.Accounted` says that both are true of the history: what a cursor remembers is exactly what has
been entered and not been left, whatever was done in between and whatever of it failed.

## Strategy

A deed either opens a block, or leaves one, or is quiet, and the invariant is shown for these three.

* **Quiet deeds.**  No cursor changes in what it remembers, and no block is opened: `Session.Quiet`.
  Making blocks, skipping children and taking a child are of this kind, and so is a block that looks at
  its node and refuses it.
* **Opening.**  The new cursor becomes the active child of the one above.  This overwrites what was
  remembered there, and nothing is lost by it: the cursor above could be used, so it had no active child
  (`active_attach_parent`).  All other cursors are as they were (`active_attach_other`).
* **Leaving.**  The cursor above is free again, whichever of its children was the active one.  In an
  orderly run it is the one that is left: the block is open, so the cursor above remembers it, and it
  remembers one child at most (`active_release`).

It is for leaving that runs have to be orderly: a block that was left twice would free a cursor on which
another block hangs by then.
-/

namespace TreeShape

open Run

namespace Session

/-- A block has been opened, below a cursor unless it is a root's, and got a cursor of its own. -/
def Opened (s : Session) (b : BlockId) (parent? : Option CursorId) (c : CursorId) : Prop :=
  ∃ block, s.block? b = some block ∧ block.parentCursor = parent? ∧ block.cursor = some c

section

variable {s t u : Session} {b b' : BlockId} {parent? parent?' : Option CursorId} {c c' p : CursorId}

theorem Opened.eq (h : s.Opened b parent? c) (h' : s.Opened b parent?' c') :
    parent? = parent?' ∧ c = c' := by
  obtain ⟨block, hb, hp, hc⟩ := h
  obtain ⟨block', hb', hp', hc'⟩ := h'
  rw [hb] at hb'
  cases hb'
  exact ⟨hp.symm.trans hp', Option.some.inj (hc.symm.trans hc')⟩

theorem Sound.opened_injective (hs : s.Sound) (h : s.Opened b parent? c)
    (h' : s.Opened b' parent?' c) : b = b' := by
  obtain ⟨block, hb, -, hc⟩ := h
  obtain ⟨block', hb', -, hc'⟩ := h'
  exact hs.injective hb hb' hc hc'

theorem Sound.exists_parent (hs : s.Sound) (h : s.Opened b (some p) c) :
    ∃ cursor, s.cursor? p = some cursor := by
  obtain ⟨block, hb, hp, -⟩ := h
  obtain ⟨cursor, hcursor, -⟩ := hs.parent hb hp
  exact ⟨cursor, hcursor⟩

theorem Sound.exists_own (hs : s.Sound) (h : s.Opened b parent? c) :
    ∃ cursor, s.cursor? c = some cursor := by
  obtain ⟨block, hb, -, hc⟩ := h
  obtain ⟨cursor, hcursor, -⟩ := hs.owned hb hc
  exact ⟨cursor, hcursor⟩

end

/-! ## Quiet steps -/

/-- No block is opened, and no cursor changes in what it remembers of blocks. -/
structure Quiet (s t : Session) : Prop where
  opened : ∀ {b parent? c}, t.Opened b parent? c ↔ s.Opened b parent? c
  cursor : ∀ {c new}, t.cursor? c = some new →
    ∃ old, s.cursor? c = some old ∧ new.activeChild = old.activeChild ∧ new.closed = old.closed

section

variable {s t u : Session}

theorem Quiet.trans (hst : s.Quiet t) (htu : t.Quiet u) : s.Quiet u where
  opened := htu.opened.trans hst.opened
  cursor h := by
    obtain ⟨mid, hmid, hactive, hclosed⟩ := htu.cursor h
    obtain ⟨old, hold, hactive', hclosed'⟩ := hst.cursor hmid
    exact ⟨old, hold, hactive.trans hactive', hclosed.trans hclosed'⟩

theorem quiet_of_silent (h : s.Silent t) : s.Quiet t where
  opened := by simp only [Opened, h.block?, implies_true]
  cursor hc := ⟨_, (h.cursor? _).symm.trans hc, rfl, rfl⟩

theorem quiet_take {b : BlockId} {block : Block} (hb : s.block? b = some block)
    (hc : block.cursor = none) (c : CursorId) (n : Node) : s.Quiet (s.take b c n) where
  opened {d parent? e} := by
    simp only [Opened, block?_take]
    by_cases hd : d = b
    · subst hd
      simp [hb, hc]
    · simp [hd]
  cursor {d new} hd := by
    rw [cursor?_take] at hd
    split at hd
    · next heq =>
        subst heq
        rw [Option.map_eq_some_iff] at hd
        obtain ⟨old, hold, rfl⟩ := hd
        exact ⟨old, hold, rfl, rfl⟩
    · exact ⟨new, hd, rfl, rfl⟩

theorem quiet_addBlock (s : Session) {new : Block} (hnew : new.cursor = none) :
    s.Quiet (s.addBlock new) where
  opened {d parent? e} := by
    simp only [Opened, block?_addBlock]
    by_cases hd : d = s.freshBlock
    · subst hd
      have hnone : s.block? s.freshBlock = none := by simp [block?, freshBlock]
      simp [hnew, hnone]
    · simp [hd]
  cursor hc := ⟨_, hc, rfl, rfl⟩

theorem quiet_advance (s : Session) (c : CursorId) (next : Nat) :
    s.Quiet (s.modifyCursor c fun old => { old with next := next }) where
  opened := Iff.rfl
  cursor {d new} hd := by
    rcases cursor?_modifyCursor_cases hd with ⟨old, rfl, hold, rfl⟩ | ⟨-, hold⟩
    · exact ⟨old, hold, rfl, rfl⟩
    · exact ⟨new, hold, rfl, rfl⟩

theorem quiet_alter (s : Session) (w : World) : s.Quiet { s with world := w } where
  opened := Iff.rfl
  cursor hc := ⟨_, hc, rfl, rfl⟩

/-- Opening a block adds it to those that have been opened. -/
theorem opened_attach {b : BlockId} {block : Block} (hb : s.block? b = some block)
    (hc : block.cursor = none) (children : List Node) {d : BlockId} {parent? : Option CursorId}
    {e : CursorId} : (s.attach b block block.node children).Opened d parent? e ↔
      s.Opened d parent? e ∨ d = b ∧ block.parentCursor = parent? ∧ e = s.freshCursor := by
  simp only [Opened, block?_attach]
  by_cases hd : d = b
  · subst hd
    simp [hb, hc, eq_comm]
  · simp [hd]

theorem opened_release (s : Session) (c : CursorId) (parent : Option CursorId) {d : BlockId}
    {parent? : Option CursorId} {e : CursorId} :
    (s.release c parent).Opened d parent? e ↔ s.Opened d parent? e := by
  simp only [Opened, block?_release]

end

end Session

/-- Deeds that neither enter nor leave a block are quiet. -/
theorem Deed.IsPlain.quiet {d : Deed} (hd : d.IsPlain) (s : Session) : s.Quiet (d.run s).2 := by
  have hrefl : s.Quiet s := Session.quiet_of_silent (.refl s)
  have houtcome := hd.outcome s
  generalize d.run s = r at houtcome ⊢
  cases houtcome with
  | failed => exact hrefl
  | looked => exact hrefl
  | altered => exact s.quiet_alter _
  | started => exact s.quiet_addBlock rfl
  | madeAt => exact s.quiet_addBlock rfl
  | madeFor => exact s.quiet_addBlock rfl
  | skipped => exact s.quiet_advance _ _

/-! ## The invariant -/

/-- What the cursors remember is what has happened. -/
structure Moment.Accounted (m : Moment) : Prop where
  sound : m.session.Sound
  entered : ∀ {b}, b ∈ m.entered ↔ ∃ parent? c, m.session.Opened b parent? c
  exited : ∀ {b}, b ∈ m.exited → b ∈ m.entered
  active : ∀ {p parent a}, m.session.cursor? p = some parent →
    (parent.activeChild = some a ↔ ∃ b, m.session.Opened b (some p) a ∧ m.IsOpen b)
  closed : ∀ {b parent? c cursor}, m.session.Opened b parent? c → m.session.cursor? c = some cursor →
    (cursor.closed = true ↔ b ∈ m.exited)

namespace Moment.Accounted

variable {m : Moment} {s : Session}

/-- A quiet step keeps it. -/
theorem of_quiet (h : m.Accounted) (hq : m.session.Quiet s) (hs : s.Sound) :
    Moment.Accounted { m with session := s } where
  sound := hs
  entered {b} := by simp only [hq.opened, h.entered]
  exited := h.exited
  active hp := by
    obtain ⟨old, hold, hactive, -⟩ := hq.cursor hp
    rw [hactive, h.active hold]
    simp only [hq.opened, Moment.IsOpen]
  closed hb hc := by
    obtain ⟨old, hold, -, hclosed⟩ := hq.cursor hc
    rw [hclosed]
    exact h.closed (hq.opened.mp hb) hold

theorem not_entered (h : m.Accounted) {b : BlockId} {block : Block}
    (hb : m.session.block? b = some block) (hc : block.cursor = none) : b ∉ m.entered := by
  intro hentered
  obtain ⟨_, c, block', hb', -, hc'⟩ := h.entered.mp hentered
  rw [hb] at hb'
  cases hb'
  rw [hc] at hc'
  cases hc'

/-- A cursor that can be used has no child whose block is open. -/
theorem not_open_of_isUsable (h : m.Accounted) {p : CursorId} {parent : Cursor}
    (hp : m.session.cursor? p = some parent) (hu : parent.IsUsable) {b : BlockId} {a : CursorId}
    (hb : m.session.Opened b (some p) a) : ¬ m.IsOpen b := by
  intro hopen
  have hactive := (h.active hp).mpr ⟨b, hb, hopen⟩
  rw [hu.2] at hactive
  cases hactive

/-! ### Opening a block -/

section

variable {b : BlockId} {block : Block} {children : List Node} {p a : CursorId} {parent old : Cursor}
  (h : m.Accounted) (hb : m.session.block? b = some block) (hc : block.cursor = none)
  (hp : ∀ p, block.parentCursor = some p →
    ∃ cursor, m.session.cursor? p = some cursor ∧ cursor.IsUsable)

include h hb hc

/-- The parent of the block could be used, so no other block of a child was open. -/
private theorem active_attach_parent (hold : m.session.cursor? p = some old) (hu : old.IsUsable)
    (hbp : block.parentCursor = some p) : m.session.freshCursor = a ↔
      ∃ d, (m.session.attach b block block.node children).Opened d (some p) a ∧
        d ∈ b :: m.entered ∧ d ∉ m.exited := by
  have hnot := h.not_entered hb hc
  simp only [Session.opened_attach hb hc, List.mem_cons]
  constructor
  · rintro rfl
    exact ⟨b, .inr ⟨rfl, hbp, rfl⟩, .inl rfl, fun hexited => hnot (h.exited hexited)⟩
  · rintro ⟨d, hd | ⟨-, -, ha⟩, hentered, hd'⟩
    · rcases hentered with rfl | hentered
      · exact absurd (h.entered.mpr ⟨_, _, hd⟩) hnot
      · exact absurd ⟨hentered, hd'⟩ (h.not_open_of_isUsable hold hu hd)
    · exact ha.symm

/-- Nothing new hangs on any other cursor. -/
private theorem active_attach_other (hold : m.session.cursor? p = some old)
    (hbp : block.parentCursor ≠ some p) : old.activeChild = some a ↔
      ∃ d, (m.session.attach b block block.node children).Opened d (some p) a ∧
        d ∈ b :: m.entered ∧ d ∉ m.exited := by
  simp only [Session.opened_attach hb hc, List.mem_cons, h.active hold]
  constructor
  · rintro ⟨d, hd, hentered, hd'⟩
    exact ⟨d, .inl hd, .inr hentered, hd'⟩
  · rintro ⟨d, hd | ⟨-, hd, -⟩, hentered, hd'⟩
    · exact ⟨d, hd, h.entered.mpr ⟨_, _, hd⟩, hd'⟩
    · exact absurd hd hbp

include hp

private theorem active_attach
    (hparent : (m.session.attach b block block.node children).cursor? p = some parent) :
    parent.activeChild = some a ↔
      ∃ d, (m.session.attach b block block.node children).Opened d (some p) a ∧
        d ∈ b :: m.entered ∧ d ∉ m.exited := by
  rcases Session.cursor?_attach_cases hp hparent with ⟨rfl, rfl⟩ | ⟨old, -, hold, rfl⟩
  · -- Nothing hangs on the new cursor yet.
    refine iff_of_false (Option.some_ne_none a).symm ?_
    rintro ⟨d, hd, -⟩
    rcases (Session.opened_attach hb hc children).mp hd with hd | ⟨-, hd, -⟩
    · obtain ⟨old, hold⟩ := h.sound.exists_parent hd
      exact Session.ne_freshCursor hold rfl
    · exact Session.ne_freshCursor_of_parents hp _ hd rfl
  · by_cases hbp : block.parentCursor = some p
    · obtain ⟨usable, husable, hu⟩ := hp p hbp
      rw [hold] at husable
      cases husable
      simp only [hbp, if_true, Option.some.injEq]
      exact h.active_attach_parent hb hc hold hu hbp
    · simp only [hbp, if_false]
      exact h.active_attach_other hb hc hold hbp

private theorem closed_attach {d : BlockId} {parent? : Option CursorId} {c : CursorId} {cursor : Cursor}
    (hd : (m.session.attach b block block.node children).Opened d parent? c)
    (hcur : (m.session.attach b block block.node children).cursor? c = some cursor) :
    cursor.closed = true ↔ d ∈ m.exited := by
  rw [Session.opened_attach hb hc] at hd
  rcases hd with hd | ⟨rfl, -, rfl⟩ <;>
    rcases Session.cursor?_attach_cases hp hcur with ⟨hfresh, rfl⟩ | ⟨old, hfresh, hold, rfl⟩
  · obtain ⟨own, hown⟩ := h.sound.exists_own hd
    exact absurd hfresh (Session.ne_freshCursor hown)
  · have hclosed : old.closed = true ↔ d ∈ m.exited := h.closed hd hold
    exact hclosed
  · -- The block has only just been opened.
    exact iff_of_false Bool.false_ne_true fun hexited => h.not_entered hb hc (h.exited hexited)
  · exact absurd rfl hfresh

/-- Opening a block keeps it. -/
theorem attach (children : List Node) :
    Moment.Accounted
      { m with
        session := m.session.attach b block block.node children
        entered := b :: m.entered } := by
  refine ⟨h.sound.attach hb hc hp children, ?entered, fun hd => List.mem_cons_of_mem _ (h.exited hd),
    h.active_attach hb hc hp, h.closed_attach hb hc hp⟩
  intro d
  simp only [Session.opened_attach hb hc, List.mem_cons, h.entered]
  constructor
  · rintro (rfl | ⟨parent?, c, hd⟩)
    · exact ⟨block.parentCursor, _, .inr ⟨rfl, rfl, rfl⟩⟩
    · exact ⟨parent?, c, .inl hd⟩
  · rintro ⟨parent?, c, hd | ⟨rfl, -, -⟩⟩
    · exact .inr ⟨parent?, c, hd⟩
    · exact .inl rfl

end

/-- The parent of the block is free again, as no other block of a child was open on it, and the others are
as they were. -/
private theorem active_release (h : m.Accounted) {b : BlockId} {parent? : Option CursorId}
    {c p a : CursorId} {old : Cursor} (hb : m.session.Opened b parent? c) (hopen : m.IsOpen b)
    (hold : m.session.cursor? p = some old) :
    (if parent? = some p then none else old.activeChild) = some a ↔
      ∃ d, m.session.Opened d (some p) a ∧ d ∈ m.entered ∧ ¬ (d = b ∨ d ∈ m.exited) := by
  by_cases hp : parent? = some p
  · subst hp
    rw [if_pos rfl]
    refine iff_of_false (Option.some_ne_none a).symm ?_
    rintro ⟨d, hd, hentered, hd'⟩
    obtain ⟨hne, hexited⟩ := not_or.mp hd'
    have hactive := (h.active hold).mpr ⟨d, hd, hentered, hexited⟩
    rw [(h.active hold).mpr ⟨b, hb, hopen⟩] at hactive
    cases hactive
    exact hne (h.sound.opened_injective hd hb)
  · rw [if_neg hp, h.active hold]
    constructor
    · rintro ⟨d, hd, hentered, hexited⟩
      refine ⟨d, hd, hentered, not_or.mpr ⟨?_, hexited⟩⟩
      rintro rfl
      exact hp (hb.eq hd).1
    · rintro ⟨d, hd, hentered, hd'⟩
      exact ⟨d, hd, hentered, (not_or.mp hd').2⟩

/-- A cursor belongs to one block, so the one that is closed now is the block's own. -/
private theorem closed_release (h : m.Accounted) {b d : BlockId} {parent? parent?' : Option CursorId}
    {c e : CursorId} {old : Cursor} (hb : m.session.Opened b parent? c)
    (hd : m.session.Opened d parent?' e) (hold : m.session.cursor? e = some old) :
    (old.closed = true ∨ e = c) ↔ d = b ∨ d ∈ m.exited := by
  rw [h.closed hd hold]
  constructor
  · rintro (hd' | rfl)
    · exact .inr hd'
    · exact .inl (h.sound.opened_injective hd hb)
  · rintro (rfl | hd')
    · exact .inr (hd.eq hb).2
    · exact .inl hd'

/-- Leaving a block keeps it. -/
theorem release (h : m.Accounted) {b : BlockId} {parent? : Option CursorId} {c : CursorId}
    (hb : m.session.Opened b parent? c) (hopen : m.IsOpen b) :
    Moment.Accounted
      { m with
        session := m.session.release c parent?
        exited := b :: m.exited } where
  sound := by
    obtain ⟨block, hblock, rfl, hc⟩ := hb
    exact (Session.Change.release hblock hc).sound h.sound
  entered := by simp only [Session.opened_release, h.entered, implies_true]
  exited hd := by
    rcases List.mem_cons.mp hd with rfl | hd
    · exact hopen.1
    · exact h.exited hd
  active hparent := by
    rw [Session.cursor?_release, Option.map_eq_some_iff] at hparent
    obtain ⟨old, hold, rfl⟩ := hparent
    simp only [Session.opened_release, Moment.IsOpen, List.mem_cons]
    exact h.active_release hb hopen hold
  closed hd hcur := by
    rw [Session.opened_release] at hd
    rw [Session.cursor?_release, Option.map_eq_some_iff] at hcur
    obtain ⟨old, hold, rfl⟩ := hcur
    simp only [Bool.or_eq_true, decide_eq_true_eq, List.mem_cons]
    exact h.closed_release hb hd hold

/-- Taking a node and looking at it keeps it. -/
theorem of_takes (h : m.Accounted) {b : BlockId} {block : Block} {n : Node} {taken looked : Session}
    (hb : m.session.block? b = some block) (hc : block.cursor = none)
    (ht : BlockId.Takes m.session b block n taken) (hsilent : taken.Silent looked) :
    Moment.Accounted { m with session := looked } := by
  have hquiet : m.session.Quiet taken := by
    cases ht with
    | root => exact Session.quiet_of_silent (.refl _)
    | child => exact Session.quiet_take hb hc _ _
  have hsound : taken.Sound :=
    (BlockId.takes_change (R := fun s t => s.Sound → t.Sound) hb hc ht).1 h.sound
  exact h.of_quiet (hquiet.trans (Session.quiet_of_silent hsilent))
    ((Session.Change.silent hsilent).sound hsound)

/-- Entering a block keeps it, whether the block opens or not. -/
theorem after_enter (h : m.Accounted) (b : BlockId) : (m.after (.enter b)).Accounted := by
  rcases hopen : b.open m.session with ⟨outcome, t⟩
  cases BlockId.opening_of_eq hopen with
  | refused f =>
      rw [Moment.after_enter_of_error hopen]
      exact h
  | failed f hb hc ht hsilent =>
      rw [Moment.after_enter_of_error hopen]
      exact h.of_takes hb hc ht hsilent
  | @opened block n children taken looked hb hc ht hsilent hask =>
      rw [Moment.after_enter_of_ok hopen]
      obtain ⟨htaken, -, -⟩ := BlockId.takes_block hb ht
      obtain ⟨-, hparent⟩ := BlockId.takes_change (R := Session.Changes) hb hc ht
      have hlooked := h.of_takes hb hc ht hsilent
      have hblock := (hsilent.block? b).trans htaken
      have hparent' : ∀ p, block.parentCursor = some p →
          ∃ cursor, looked.cursor? p = some cursor ∧ cursor.IsUsable := by
        intro p hp
        obtain ⟨cursor, hcursor, hu⟩ := hparent p hp
        exact ⟨cursor, (hsilent.cursor? p).trans hcursor, hu⟩
      have hattached := hlooked.attach hblock hc hparent' children
      exact hattached

/-- Leaving an open block keeps it, whatever comes of leaving. -/
theorem after_exit (h : m.Accounted) {b : BlockId} (hopen : m.IsOpen b)
    (failure : Option Failure) : (m.after (.exit b failure)).Accounted := by
  obtain ⟨parent?, c, block, hb, rfl, hc⟩ := h.entered.mp hopen.1
  have hsilent : m.session.Silent (b.conclude failure m.session).2 :=
    (b.keeps_conclude failure).after m.session
  have hconcluded := h.of_quiet (Session.quiet_of_silent hsilent)
    ((Session.Change.silent hsilent).sound h.sound)
  rw [Moment.after_exit, BlockId.exit_apply hb hc]
  exact hconcluded.release ⟨block, (hsilent.block? b).trans hb, rfl, hc⟩ hopen

/-- Every allowed deed keeps it. -/
theorem after (h : m.Accounted) {d : Deed} (hd : m.Allows d) : (m.after d).Accounted := by
  rcases d.cases_plain with hplain | ⟨b, rfl⟩ | ⟨b, failure, rfl⟩
  · rw [Moment.after_plain hplain]
    exact h.of_quiet (hplain.quiet m.session) ((d.evolves m.session).sound h.sound)
  · exact h.after_enter b
  · exact h.after_exit hd failure

/-- Every orderly run keeps it. -/
theorem afterAll (h : m.Accounted) {ds : List Deed} (hds : m.Orderly ds) :
    (m.afterAll ds).Accounted := by
  induction ds generalizing m with
  | nil => exact h
  | cons d ds ih => exact ih (h.after hds.1) hds.2

end Moment.Accounted

theorem Moment.accounted_start (w : World) : (Moment.start w).Accounted := by
  have hblock : ∀ b, (Moment.start w).session.block? b = none := fun _ => rfl
  have hcursor : ∀ c, (Moment.start w).session.cursor? c = none := fun _ => rfl
  refine ⟨Session.sound_fresh w, ?_, fun hb => absurd hb List.not_mem_nil, ?_, ?_⟩
  · intro b
    refine iff_of_false List.not_mem_nil ?_
    rintro ⟨_, _, block, hb, -⟩
    rw [hblock] at hb
    cases hb
  · intro p parent a hp
    rw [hcursor] at hp
    cases hp
  · intro b parent? c cursor _ hc
    rw [hcursor] at hc
    cases hc

end TreeShape
