import TreeShape.Proofs.Script

/-!
# Moments of a run

A run is a list of deeds.  Beside the session, a moment of a run remembers which blocks have been
entered and which have been left, so that what the cursors say about themselves can be compared with
what really happened.  `Moment.Orderly` is all that is asked of a run: a block is left at most once, and
only after it has been entered.  Deeds may fail, blocks may be left in any order, and cursors used at
any time.

What is shown of runs is shown of deeds first.  There are three kinds of these (`Deed.cases_plain`): to
enter a block, to leave one, and the plain ones, of which `Deed.IsPlain.outcome` lists all that can
come.  Scripts come down to runs: `Script.deeds` lists what a script does from a session on, and doing
these deeds is running it (`session_afterAll_deeds`).
-/

namespace TreeShape

open Run

/-- A deed that neither enters nor leaves a block. -/
def Deed.IsPlain : Deed → Prop
  | .enter _ => False
  | .exit _ _ => False
  | _ => True

theorem Deed.cases_plain (d : Deed) :
    d.IsPlain ∨ (∃ b, d = .enter b) ∨ ∃ b failure, d = .exit b failure := by
  cases d with
  | enter b => exact .inr (.inl ⟨b, rfl⟩)
  | exit b failure => exact .inr (.inr ⟨b, failure, rfl⟩)
  | _ => exact .inl trivial

/-- What can come of a deed that neither enters nor leaves a block. -/
inductive Deed.PlainOutcome (s : Session) : Deed → Except Failure Reply × Session → Prop
  | failed (d : Deed) (f : Failure) : PlainOutcome s d (.error f, s)
  | looked : PlainOutcome s look (.ok (.session s), s)
  | altered (change : World → World) :
      PlainOutcome s (alter change) (.ok .done, { s with world := change s.world })
  | started (c : Config) (e : Expected) (root : Node) :
      PlainOutcome s (matching c e root)
        (.ok (.block s.freshBlock), s.addBlock (c.rootBlock e [] root))
  | madeAt (c : Config) (e : Expected) (parentPath : List Node) (n : Node) :
      PlainOutcome s (blockAt c e parentPath n)
        (.ok (.block s.freshBlock), s.addBlock (c.rootBlock e parentPath n))
  | madeFor {c : CursorId} {cursor : Cursor} (e : Expected) :
      s.cursor? c = some cursor → cursor.IsUsable → cursor.ignoring = false →
      PlainOutcome s (childBlock c e)
        (.ok (.block s.freshBlock), s.addBlock (c.blockFor cursor e))
  | skipped {c : CursorId} {cursor : Cursor} {count : Int} :
      s.cursor? c = some cursor → cursor.IsUsable → cursor.ignoring = false →
      cursor.next + count.toNat ≤ cursor.children.length →
      PlainOutcome s (skip c count) (.ok .done, s.modifyCursor c fun old =>
        { old with next := cursor.next + count.toNat })

theorem Deed.IsPlain.outcome {d : Deed} (hd : d.IsPlain) (s : Session) :
    d.PlainOutcome s (d.run s) := by
  cases d with
  | look => exact .looked
  | alter change => exact .altered change
  | matching c e root =>
      rw [Deed.run, bind_apply]
      rcases c.matching_cases e root s with ⟨f, hf⟩ | hok
      · rw [hf]
        exact .failed _ f
      · rw [hok]
        exact .started c e root
  | blockAt c e parentPath n => exact .madeAt c e parentPath n
  | childBlock c e =>
      rw [Deed.run, bind_apply]
      rcases c.childBlock_cases e s with ⟨f, hf⟩ | ⟨cursor, hcursor, hu, hm, hok⟩
      · rw [hf]
        exact .failed _ f
      · rw [hok]
        exact .madeFor e hcursor hu hm
  | skip c count =>
      rw [Deed.run, bind_apply]
      rcases c.skip_cases count s with ⟨f, hf⟩ | ⟨cursor, hcursor, hu, hm, hle, hok⟩
      · rw [hf]
        exact .failed _ f
      · rw [hok]
        exact .skipped hcursor hu hm hle
  | enter b => exact hd.elim
  | exit b failure => exact hd.elim

/-- A session, and the blocks that have been entered and left in it, the latest first. -/
structure Moment where
  session : Session
  entered : List BlockId := []
  exited : List BlockId := []

namespace Moment

/-- The beginning of a run. -/
def start (w : World) : Moment := { session := { world := w } }

/-- The block that a deed has entered, if it succeeded. -/
def entering : Deed → Except Failure Reply → List BlockId
  | .enter b, .ok _ => [b]
  | _, _ => []

/-- The block that a deed has left, whatever came of it. -/
def leaving : Deed → List BlockId
  | .exit b _ => [b]
  | _ => []

/-- The moment after a deed. -/
def after (m : Moment) (d : Deed) : Moment where
  session := (d.run m.session).2
  entered := entering d (d.run m.session).1 ++ m.entered
  exited := leaving d ++ m.exited

/-- The moment after several deeds. -/
def afterAll (m : Moment) (ds : List Deed) : Moment := ds.foldl after m

/-- A block has been entered and not been left yet. -/
def IsOpen (m : Moment) (b : BlockId) : Prop := b ∈ m.entered ∧ b ∉ m.exited

/-- Only open blocks can be left. -/
def Allows (m : Moment) : Deed → Prop
  | .exit b _ => m.IsOpen b
  | _ => True

/-- Every deed is allowed when its turn comes. -/
def Orderly : Moment → List Deed → Prop
  | _, [] => True
  | m, d :: ds => m.Allows d ∧ Orderly (m.after d) ds

theorem after_plain {d : Deed} (h : d.IsPlain) (m : Moment) :
    m.after d = { m with session := (d.run m.session).2 } := by
  cases d with
  | enter => exact h.elim
  | exit => exact h.elim
  | _ => rfl

theorem after_enter_of_error {m : Moment} {b : BlockId} {f : Failure} {t : Session}
    (h : b.open m.session = (.error f, t)) : m.after (.enter b) = { m with session := t } := by
  have hrun : (Deed.enter b).run m.session = (.error f, t) := by
    rw [Deed.run, bind_apply, h, andThen_error]
  rw [after, hrun]
  rfl

theorem after_enter_of_ok {m : Moment} {b : BlockId} {c : CursorId} {t : Session}
    (h : b.open m.session = (.ok c, t)) :
    m.after (.enter b) = { m with session := t, entered := b :: m.entered } := by
  have hrun : (Deed.enter b).run m.session = (.ok (.cursor c), t) := by
    rw [Deed.run, bind_apply, h, andThen_ok]
    rfl
  rw [after, hrun]
  rfl

theorem session_after_enter (m : Moment) (b : BlockId) :
    (m.after (.enter b)).session = (b.open m.session).2 := by
  rcases hopen : b.open m.session with ⟨_ | _, _⟩
  · rw [after_enter_of_error hopen]
  · rw [after_enter_of_ok hopen]

theorem after_exit (m : Moment) (b : BlockId) (failure : Option Failure) :
    m.after (.exit b failure) =
      { m with session := (b.exit failure m.session).2, exited := b :: m.exited } := by
  rw [after, Deed.run, bind_apply]
  rcases b.exit failure m.session with ⟨_ | _, _⟩ <;> rfl

@[simp] theorem afterAll_nil (m : Moment) : m.afterAll [] = m := rfl

@[simp] theorem afterAll_cons (m : Moment) (d : Deed) (ds : List Deed) :
    m.afterAll (d :: ds) = (m.after d).afterAll ds := rfl

theorem afterAll_append (m : Moment) (ds es : List Deed) :
    m.afterAll (ds ++ es) = (m.afterAll ds).afterAll es :=
  List.foldl_append

end Moment

/-! ## The deeds of a script -/

/-- The deeds that a script comes down to: using a block means to enter it, to do what is inside, and to
leave it. -/
def Script.deeds : Script → Session → List Deed
  | give _, _ => []
  | fail _, _ => []
  | act d next, s => d :: (next (d.run s).1).deeds (d.run s).2
  | use form b inside next, s =>
    let rest := (next (b.use form (fun c => (inside c).run) s).1).deeds
      (b.use form (fun c => (inside c).run) s).2
    match b.open s with
    | (.error _, _) => .enter b :: rest
    | (.ok c, t) =>
      .enter b :: ((inside c).deeds t ++
        .exit b (BlockId.failure? ((inside c).run t).1) :: rest)

namespace Script

variable {form : Use} {b : BlockId} {inside : CursorId → Script}
  {next : Except Failure Value → Script} {s t : Session}

theorem deeds_use_of_error {f : Failure} (h : b.open s = (.error f, t)) :
    (use form b inside next).deeds s = .enter b :: (next (.error f)).deeds t := by
  have huse : b.use form (fun c => (inside c).run) s = (.error f, t) := use_of_open_error h
  simp only [deeds, h, huse]

theorem deeds_use_of_ok {c : CursorId} (h : b.open s = (.ok c, t)) :
    (use form b inside next).deeds s = .enter b :: ((inside c).deeds t ++
      .exit b (BlockId.failure? ((inside c).run t).1) ::
        (next (b.use form (fun c => (inside c).run) s).1).deeds
          (b.use form (fun c => (inside c).run) s).2) := by
  simp only [deeds, h]

/-- Using a block that opens ends with leaving it. -/
theorem snd_use {c : CursorId} (h : b.open s = (.ok c, t)) :
    (b.use form (fun c => (inside c).run) s).2 =
      (b.exit (BlockId.failure? ((inside c).run t).1) ((inside c).run t).2).2 := by
  rw [use_apply h rfl, BlockId.leave_snd]

/-- Running a script is doing its deeds. -/
theorem session_afterAll_deeds (p : Script) (m : Moment) :
    (m.afterAll (p.deeds m.session)).session = (p.run m.session).2 := by
  induction p generalizing m with
  | give v => rfl
  | fail f => rfl
  | act d next ih =>
      rw [deeds, Moment.afterAll_cons, run_act rfl]
      exact ih _ (m.after d)
  | use form b inside next ihinside ih =>
      rcases hopen : b.open m.session with ⟨f | c, t⟩
      · have huse : b.use form (fun c => (inside c).run) m.session = (.error f, t) := by
          rw [BlockId.use_eq_within, BlockId.within_eq, bind_apply, hopen, andThen_error]
        rw [deeds_use_of_error hopen, Moment.afterAll_cons, run_use huse,
          Moment.after_enter_of_error hopen]
        exact ih _ { m with session := t }
      · have hinside := ihinside c (m.after (.enter b))
        rw [Moment.after_enter_of_ok hopen] at hinside
        -- The deeds of the body lie between entering and leaving.
        have hexited : ((({ m with session := t, entered := b :: m.entered } : Moment).afterAll
            ((inside c).deeds t)).after
              (.exit b (BlockId.failure? ((inside c).run t).1))).session =
            (b.use form (fun c => (inside c).run) m.session).2 := by
          rw [Moment.after_exit, hinside, snd_use hopen]
        have huse : b.use form (fun c => (inside c).run) m.session =
            ((b.use form (fun c => (inside c).run) m.session).1,
              (b.use form (fun c => (inside c).run) m.session).2) := rfl
        rw [deeds_use_of_ok hopen, Moment.afterAll_cons, Moment.afterAll_append,
          Moment.afterAll_cons, run_use huse, Moment.after_enter_of_ok hopen, ← hexited]
        exact ih _ _

end Script

end TreeShape
