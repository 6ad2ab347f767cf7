import TreeShape.Proofs.Activity.Attempts

/-!
# How many children one block takes

A block made by a cursor takes a child of this cursor when it is entered, and then looks at it: at its
type, at its parent, at its children.  What keeps it from being entered again is the cursor that it gets
in the end.  So a block that has opened takes nothing any more, `BlockId.open_of_isOpened`; but a block
that has refused the child that it took has no cursor, and when it is entered again it takes the next
child.

## Strategy

`Session.takings` and `Session.forfeits` list what a block takes in a run and what of that it took for
nothing, read off the deeds.  `Session.length_takings` counts: of the children that a block takes, all
were forfeited but the one with which it opened, if it did.  It adds up `Deed.length_takings`, which
says the same of one deed and has three cases: the block gets to a child and opens, it gets to a child
and does not, or it gets to none.  Whether the block is open changes in the first of them only
(`isOpened_of_reaches`, `isOpened_of_not_reaches`), and no other deed opens it (`opened_run`).
-/

namespace TreeShape

open Run

/-- A block that hangs on a cursor has been opened. -/
def BlockId.isOpened (b : BlockId) (s : Session) (c : CursorId) : Bool :=
  match s.block? b with
  | none => false
  | some block => block.cursor.isSome && block.parentCursor == some c

/-- The position of the child that a block takes of a cursor when it is entered. -/
def Deed.takings (b : BlockId) (c : CursorId) : Deed → Session → List Nat
  | enter d, s => if d = b ∧ d.reaches s c then [s.nextOf c] else []
  | _, _ => []

/-- The position of the child that a block has taken for nothing, since it did not open. -/
def Deed.forfeits (b : BlockId) (c : CursorId) : Deed → Session → List Nat
  | enter d, s => if d = b ∧ d.reaches s c ∧ (d.open s).1.isOk = false then [s.nextOf c] else []
  | _, _ => []

/-- The positions of the children that a block takes of a cursor in a run. -/
def Session.takings (b : BlockId) (c : CursorId) : Session → List Deed → List Nat
  | _, [] => []
  | s, d :: ds => d.takings b c s ++ Session.takings b c (d.run s).2 ds

/-- The positions of those of them that the block has taken for nothing. -/
def Session.forfeits (b : BlockId) (c : CursorId) : Session → List Deed → List Nat
  | _, [] => []
  | s, d :: ds => d.forfeits b c s ++ Session.forfeits b c (d.run s).2 ds

/-! ## Which blocks have been opened -/

namespace Session

variable {s t : Session} {b : BlockId} {parent? : Option CursorId} {k : CursorId}

/-- Leaving a block opens none. -/
theorem opened_exit (s : Session) (d : BlockId) (failure : Option Failure) :
    (d.exit failure s).2.Opened b parent? k ↔ s.Opened b parent? k := by
  have hsilent : s.Silent (d.conclude failure s).2 := (d.keeps_conclude failure).after s
  by_cases h : ∃ block c, s.block? d = some block ∧ block.cursor = some c
  · obtain ⟨block, c, hd, hc⟩ := h
    rw [BlockId.exit_apply hd hc, opened_release]
    exact (quiet_of_silent hsilent).opened
  · rw [BlockId.exit_of_unopened]
    · exact (quiet_of_silent hsilent).opened
    · intro block hd
      cases hc : block.cursor with
      | none => rfl
      | some c => exact absurd ⟨block, c, hd, hc⟩ h

/-- Opening another block does not open this one. -/
theorem opened_open {d : BlockId} (hd : b ≠ d) :
    (d.open s).2.Opened b parent? k ↔ s.Opened b parent? k := by
  have htaken : ∀ {block n taken}, s.block? d = some block → block.cursor = none →
      BlockId.Takes s d block n taken → (taken.Opened b parent? k ↔ s.Opened b parent? k) := by
    intro block n taken hblock hc ht
    cases ht with
    | root => exact Iff.rfl
    | child => exact (quiet_take hblock hc _ _).opened
  rcases hopen : d.open s with ⟨outcome, t⟩
  cases BlockId.opening_of_eq hopen with
  | refused => exact Iff.rfl
  | failed f hblock hc ht hsilent =>
      exact (quiet_of_silent hsilent).opened.trans (htaken hblock hc ht)
  | @opened block n children taken looked hblock hc ht hsilent hask =>
      obtain ⟨hattached, -, -⟩ := BlockId.takes_block hblock ht
      have hlooked := (hsilent.block? d).trans hattached
      refine (opened_attach hlooked hc children).trans ?_
      rw [or_iff_left fun h => hd h.1]
      exact (quiet_of_silent hsilent).opened.trans (htaken hblock hc ht)

/-- A block is opened by entering it, and by nothing else. -/
theorem opened_run {d : Deed} (hd : d ≠ .enter b) (s : Session) :
    (d.run s).2.Opened b parent? k ↔ s.Opened b parent? k := by
  rcases d.cases_plain with hplain | ⟨e, rfl⟩ | ⟨e, failure, rfl⟩
  · exact (hplain.quiet s).opened
  · have hrun : ((Deed.enter e).run s).2 = (e.open s).2 :=
      Moment.session_after_enter { session := s } e
    rw [hrun]
    exact opened_open fun h => hd (by rw [h])
  · have hrun : ((Deed.exit e failure).run s).2 = (e.exit failure s).2 :=
      congrArg Moment.session (Moment.after_exit { session := s } e failure)
    rw [hrun]
    exact s.opened_exit e failure

end Session

namespace BlockId

variable {s t : Session} {b : BlockId} {block : Block} {c : CursorId}

theorem isOpened_iff : b.isOpened s c = true ↔ ∃ k, s.Opened b (some c) k := by
  unfold isOpened Session.Opened
  cases hb : s.block? b with
  | none => simp
  | some block => simp [Option.isSome_iff_exists, and_comm]

theorem isOpened_congr (h : ∀ k, t.Opened b (some c) k ↔ s.Opened b (some c) k) :
    b.isOpened t c = b.isOpened s c := by
  rw [Bool.eq_iff_iff, isOpened_iff, isOpened_iff]
  exact exists_congr h

/-- A block that has opened cannot be entered again, and trying to changes nothing. -/
theorem open_of_isOpened (h : b.isOpened s c = true) : b.open s = (.error .reentered, s) := by
  obtain ⟨k, block, hb, -, hk⟩ := isOpened_iff.mp h
  exact open_of_cursor hb hk

/-- A block that gets to no child of the cursor on which it hangs does not open, and nothing changes. -/
theorem open_of_not_reaches (hb : s.block? b = some block) (hp : block.parentCursor = some c)
    (h : b.reaches s c = false) : ∃ f, b.open s = (.error f, s) := by
  cases hc : block.cursor with
  | some k => exact ⟨.reentered, open_of_cursor hb hc⟩
  | none =>
      rcases takeNode_cases hb with ⟨f, hf⟩ | ⟨n, taken, hn, -⟩
      · exact ⟨f, by rw [open_apply hb hc, hf, andThen_error]⟩
      · simp [reaches, hb, hc, hp, hn, Except.isOk, Except.toBool] at h

/-- A block that gets to a child was not open before, and is open afterwards just if it did not fail. -/
theorem isOpened_of_reaches (h : b.reaches s c = true) :
    b.isOpened s c = false ∧ b.isOpened (b.open s).2 c = (b.open s).1.isOk := by
  unfold reaches at h
  cases hb : s.block? b with
  | none => simp [hb] at h
  | some block =>
      simp only [hb, Bool.and_eq_true, Option.isNone_iff_eq_none, beq_iff_eq] at h
      obtain ⟨⟨hc, hp⟩, -⟩ := h
      refine ⟨by simp [isOpened, hb, hc], ?_⟩
      rcases hopen : b.open s with ⟨f | k, t⟩
      · -- Whether it failed before it took the child or after that, it has got no cursor.
        have hnone : ∃ block', t.block? b = some block' ∧ block'.cursor = none := by
          cases opening_of_eq hopen with
          | refused => exact ⟨block, hb, hc⟩
          | failed _ hb' hc' ht hsilent =>
              obtain ⟨htaken, -, -⟩ := takes_block hb' ht
              exact ⟨_, (hsilent.block? b).trans htaken, hc'⟩
        obtain ⟨block', hb', hc'⟩ := hnone
        simp [isOpened, hb', hc', Except.isOk, Except.toBool]
      · obtain ⟨block', hb', -, hopened, -⟩ := opened_of_open hopen
        rw [hb] at hb'
        cases hb'
        rw [hp] at hopened
        exact isOpened_iff.mpr ⟨k, hopened⟩

/-- A block that gets to no child of a cursor does not get opened below it. -/
theorem isOpened_of_not_reaches (h : b.reaches s c = false) :
    b.isOpened (b.open s).2 c = b.isOpened s c := by
  cases hb : s.block? b with
  | none => rw [open_of_missing hb]
  | some block =>
      by_cases hp : block.parentCursor = some c
      · obtain ⟨f, hf⟩ := open_of_not_reaches hb hp h
        rw [hf]
      · have hchanges : s.Changes (b.open s).2 := b.keeps_open.after s
        obtain ⟨new, hnew, hgrown⟩ := hchanges.grows.block hb
        have hother : (block.parentCursor == some c) = false := beq_eq_false_iff_ne.mpr hp
        simp [isOpened, hb, hnew, hgrown.parentCursor, hother]

end BlockId

/-! ## What a block takes in a run -/

/-- A deed by which a block takes a child either forfeits the child or opens the block. -/
theorem Deed.length_takings (d : Deed) (b : BlockId) (c : CursorId) (s : Session) :
    (d.takings b c s).length + (b.isOpened s c).toNat =
      (d.forfeits b c s).length + (b.isOpened (d.run s).2 c).toNat := by
  by_cases hd : d = .enter b
  · subst hd
    have hrun : ((Deed.enter b).run s).2 = (b.open s).2 :=
      Moment.session_after_enter { session := s } b
    rw [hrun]
    cases hreaches : b.reaches s c with
    | false => simp [takings, forfeits, hreaches, BlockId.isOpened_of_not_reaches hreaches]
    | true =>
        obtain ⟨hbefore, hafter⟩ := BlockId.isOpened_of_reaches hreaches
        cases hok : (b.open s).1.isOk <;> simp [takings, forfeits, hreaches, hbefore, hafter, hok]
  · have hnone : d.takings b c s = [] ∧ d.forfeits b c s = [] := by
      cases d with
      | enter e =>
          have he : e ≠ b := fun h => hd (by rw [h])
          simp [takings, forfeits, he]
      | _ => exact ⟨rfl, rfl⟩
    rw [hnone.1, hnone.2, BlockId.isOpened_congr fun k => Session.opened_run hd s]

/-- Of the children that a block takes in a run, it has forfeited all but the one with which it was
opened. -/
theorem Session.length_takings (b : BlockId) (c : CursorId) (m : Moment) (ds : List Deed) :
    (Session.takings b c m.session ds).length + (b.isOpened m.session c).toNat =
      (Session.forfeits b c m.session ds).length +
        (b.isOpened (m.afterAll ds).session c).toNat := by
  induction ds generalizing m with
  | nil => rfl
  | cons d ds ih =>
      have hstep := d.length_takings b c m.session
      have hrest := ih (m.after d)
      simp only [takings, forfeits, List.length_append, Moment.afterAll_cons]
      change (Session.takings b c (d.run m.session).2 ds).length +
        (b.isOpened (d.run m.session).2 c).toNat =
          (Session.forfeits b c (d.run m.session).2 ds).length + _ at hrest
      omega

/-- Whoever tries to enter a block, by hand or in one of the forms, fails with a misuse and changes
nothing. -/
def BlockId.IsShut (b : BlockId) (s : Session) : Prop :=
  b.open s = (.error .reentered, s) ∧ Failure.reentered.kind = .misuse ∧
    ∀ form (inside : CursorId → Script),
      b.use form (fun c => (inside c).run) s = (.error .reentered, s)

theorem BlockId.isShut_of_isOpened {b : BlockId} {s : Session} {c : CursorId}
    (h : b.isOpened s c = true) : b.IsShut s :=
  ⟨open_of_isOpened h, rfl, fun _ _ => Script.use_of_open_error (open_of_isOpened h)⟩

namespace Moment

/-- In every run, and for every block that hangs on a cursor: an attempt to enter the block takes one
child of the cursor, or it fails and changes nothing.  Of the children that the block takes, it has
forfeited all but the one with which it was opened, if it was; once it was opened, every later attempt to
enter it is refused as a misuse and changes nothing.

So if it has not forfeited a child, it takes one at most, and from then on it cannot be entered. -/
theorem takings_of_run (w : World) (b : BlockId) (c : CursorId) :
    (∀ ds block, (sessionAfter w ds).block? b = some block → block.parentCursor = some c →
      (b.reaches (sessionAfter w ds) c = true →
        (sessionAfter w (ds ++ [.enter b])).nextOf c = (sessionAfter w ds).nextOf c + 1) ∧
      (b.reaches (sessionAfter w ds) c = false →
        ∃ f, b.open (sessionAfter w ds) = (.error f, sessionAfter w ds))) ∧
    (∀ ds, (Session.takings b c (start w).session ds).length =
      (Session.forfeits b c (start w).session ds).length +
        (b.isOpened (sessionAfter w ds) c).toNat) ∧
    (∀ ds, b.isOpened (sessionAfter w ds) c = true →
      ∀ es, b.IsShut (sessionAfter w (ds ++ es))) ∧
    (∀ ds, Session.forfeits b c (start w).session ds = [] →
      (Session.takings b c (start w).session ds).length ≤ 1 ∧
        (Session.takings b c (start w).session ds ≠ [] → b.IsShut (sessionAfter w ds))) ∧
    ∀ p : Script, sessionAfter w (p.deeds (start w).session) = (p.run (start w).session).2 := by
  -- Each child taken is forfeited, or it is the one with which the block has been opened.
  have hcount : ∀ ds, (Session.takings b c (start w).session ds).length =
      (Session.forfeits b c (start w).session ds).length +
        (b.isOpened (sessionAfter w ds) c).toNat := by
    intro ds
    have hnone : b.isOpened (start w).session c = false := rfl
    have h := Session.length_takings b c (start w) ds
    rw [hnone, Bool.toNat_false, Nat.add_zero] at h
    exact h
  refine ⟨?_, hcount, ?_, ?_, fun p => p.session_afterAll_deeds (start w)⟩
  · intro ds block hb hp
    refine ⟨fun hreaches => ?_, BlockId.open_of_not_reaches hb hp⟩
    obtain ⟨count, hnext, htaken⟩ := Deed.advances_enter (sessionAfter w ds) b c
    have hone : count = 1 := by
      have hlength := congrArg List.length htaken
      simpa [Deed.positions, hreaches] using hlength.symm
    rw [hone] at hnext
    rw [sessionAfter, afterAll_append]
    exact hnext
  · -- What is opened stays so: later deeds give no block another cursor.
    intro ds hopened es
    obtain ⟨k, hk⟩ := BlockId.isOpened_iff.mp hopened
    have hgrows := (((start w).afterAll ds).evolves_afterAll es).grows
    rw [sessionAfter, afterAll_append]
    exact BlockId.isShut_of_isOpened (BlockId.isOpened_iff.mpr ⟨k, hgrows.opened hk⟩)
  · intro ds hforfeits
    have h := hcount ds
    rw [hforfeits, List.length_nil, Nat.zero_add] at h
    refine ⟨by rw [h]; exact Bool.toNat_le _, fun htaken => ?_⟩
    cases hopened : b.isOpened (sessionAfter w ds) c with
    | true => exact BlockId.isShut_of_isOpened hopened
    | false =>
        rw [hopened] at h
        exact absurd (List.length_eq_zero_iff.mp h) htaken

/-- The block of the first child expects a leaf, or whatever else, and is entered. -/
def sampleEntry (t : NodeType) : List Deed :=
  [.matching Sample.config ⟨Sample.pair, false⟩ Sample.root, .enter ⟨0⟩, .childBlock ⟨0⟩ ⟨t, false⟩,
    .enter ⟨1⟩]

/-- If it finds the leaf that it expects, it takes no child but this one. -/
theorem takings_of_sample :
    Session.forfeits ⟨1⟩ ⟨0⟩ (start Sample.world).session (sampleEntry Sample.leaf) = [] ∧
      Session.takings ⟨1⟩ ⟨0⟩ (start Sample.world).session (sampleEntry Sample.leaf) = [0] ∧
      BlockId.IsShut ⟨1⟩ (sessionAfter Sample.world (sampleEntry Sample.leaf)) := by
  have hforfeits :
      Session.forfeits ⟨1⟩ ⟨0⟩ (start Sample.world).session (sampleEntry Sample.leaf) = [] := rfl
  have htakings :
      Session.takings ⟨1⟩ ⟨0⟩ (start Sample.world).session (sampleEntry Sample.leaf) = [0] := rfl
  obtain ⟨-, -, -, hshut, -⟩ := takings_of_run Sample.world ⟨1⟩ ⟨0⟩
  exact ⟨hforfeits, htakings, (hshut _ hforfeits).2 (by rw [htakings]; decide)⟩

/-- If it expects a pair instead, it forfeits the leaf, and when it is entered again it takes the second
child, too: it is not true that a block takes at most one child, nor that it cannot be entered once it has
taken one. -/
theorem taken_twice_in_sample :
    ¬ (∀ w ds b c, (Session.takings b c (start w).session ds).length ≤ 1) ∧
      ¬ (∀ w ds b c, Session.takings b c (start w).session ds ≠ [] →
        BlockId.IsShut b (sessionAfter w ds)) := by
  have htwice : Session.takings ⟨1⟩ ⟨0⟩ (start Sample.world).session
      (sampleEntry Sample.pair ++ [.enter ⟨1⟩]) = [0, 1] := rfl
  have honce : Session.takings ⟨1⟩ ⟨0⟩ (start Sample.world).session (sampleEntry Sample.pair) = [0] :=
    rfl
  constructor
  · intro h
    have hlength := h Sample.world (sampleEntry Sample.pair ++ [.enter ⟨1⟩]) ⟨1⟩ ⟨0⟩
    rw [htwice] at hlength
    exact absurd hlength (by decide)
  · intro h
    obtain ⟨hopen, -⟩ := h Sample.world (sampleEntry Sample.pair) ⟨1⟩ ⟨0⟩ (by rw [honce]; decide)
    have hnext : (BlockId.open ⟨1⟩ (sessionAfter Sample.world (sampleEntry Sample.pair))).2.nextOf
        ⟨0⟩ = 2 := rfl
    have hkept : (sessionAfter Sample.world (sampleEntry Sample.pair)).nextOf ⟨0⟩ = 1 := rfl
    rw [hopen, hkept] at hnext
    exact absurd hnext (by decide)

end Moment

end TreeShape
