import TreeShape.Proofs.Matching.Soundness

/-!
# Scripts as data

Whoever calls a match writes a program around it: it makes blocks, uses them, skips children, looks at
what it likes, changes the tree, raises failures and catches them.  Here such programs are data, so that
what holds of every script can be said and shown by induction on scripts.

A script goes on with what its last step replied or failed with, and lets a failure pass only by failing
with it again.  It may look at the whole session, more than a caller ever could.  So what is shown of
all scripts is shown of all callers; in particular every script keeps `Session.Evolves`, the changes of
matching and those of the world, and what follows from these: that sessions grow and stay sound.
-/

namespace TreeShape

open Run

/-- What a script can do in one step.  Blocks can be entered and left by hand, in any order. -/
inductive Deed where
  | look
  | alter (change : World → World)
  | matching (c : Config) (e : Expected) (root : Node)
  /-- Makes a block for a node that is taken to have some nodes above it. -/
  | blockAt (c : Config) (e : Expected) (parentPath : List Node) (n : Node)
  | childBlock (c : CursorId) (e : Expected)
  | skip (c : CursorId) (count : Int)
  | enter (b : BlockId)
  | exit (b : BlockId) (failure : Option Failure)

/-- What a script is told of its step. -/
inductive Reply where
  | done
  | session (s : Session)
  | block (b : BlockId)
  | cursor (c : CursorId)

def Deed.run : Deed → Run Reply
  | look => do return .session (← get)
  | alter change => do
    modifyWorld change
    return .done
  | matching c e root => do return .block (← c.matching e root)
  | blockAt c e parentPath n => do return .block (← c.blockAt e parentPath n)
  | childBlock c e => do return .block (← c.childBlock e)
  | skip c count => do
    c.skip count
    return .done
  | enter b => do return .cursor (← b.open)
  | exit b failure => do
    b.exit failure
    return .done

/-- The forms in which a block encloses a part of a script. -/
inductive Use where
  | called
  | entered
  deriving DecidableEq, Repr

/-- Uses a block in one of the forms. -/
def BlockId.use {α : Type} (b : BlockId) : Use → (CursorId → Run α) → Run α
  | .called => b.run
  | .entered => b.within

theorem BlockId.use_eq_within {α : Type} (b : BlockId) (form : Use) (body : CursorId → Run α) :
    b.use form body = b.within body := by
  cases form with
  | called => exact b.run_eq_within body
  | entered => rfl

/-- A program that matches. -/
inductive Script where
  | give (v : Value)
  | fail (f : Failure)
  | act (d : Deed) (next : Except Failure Reply → Script)
  | use (form : Use) (b : BlockId) (inside : CursorId → Script)
    (next : Except Failure Value → Script)

namespace Script

def run : Script → Run Value
  | give v => return v
  | fail f => throw f
  | act d next => do (next (← attempt d.run)).run
  | use form b inside next => do (next (← attempt (b.use form fun c => (inside c).run))).run

theorem run_act {d : Deed} {next : Except Failure Reply → Script} {s t : Session}
    {reply : Except Failure Reply} (h : d.run s = (reply, t)) :
    (act d next).run s = (next reply).run t := by
  rw [run, bind_apply, attempt_apply, h, andThen_ok]

theorem run_use {form : Use} {b : BlockId} {inside : CursorId → Script}
    {next : Except Failure Value → Script} {s t : Session} {outcome : Except Failure Value}
    (h : b.use form (fun c => (inside c).run) s = (outcome, t)) :
    (use form b inside next).run s = (next outcome).run t := by
  rw [run, bind_apply, attempt_apply, h, andThen_ok]

/-- Using a block that opens comes down to leaving it with what its body came to. -/
theorem use_apply {α : Type} {b : BlockId} {form : Use} {body : CursorId → Run α} {s t u : Session}
    {c : CursorId} {outcome : Except Failure α} (hopen : b.open s = (.ok c, t))
    (hbody : body c t = (outcome, u)) : b.use form body s = b.leave outcome u := by
  rw [BlockId.use_eq_within, BlockId.within_eq, bind_apply, hopen, andThen_ok, bind_apply,
    attempt_apply, hbody, andThen_ok]

theorem use_of_open_error {α : Type} {b : BlockId} {form : Use} {body : CursorId → Run α}
    {s t : Session} {f : Failure} (hopen : b.open s = (.error f, t)) :
    b.use form body s = (.error f, t) := by
  rw [BlockId.use_eq_within, BlockId.within_eq, bind_apply, hopen, andThen_error]

/-! ## The calls that match children and trees -/

/-- Makes a block and uses it. -/
def visit (d : Deed) (form : Use) (inside : CursorId → Script)
    (next : Except Failure Value → Script) : Script :=
  act d fun
    | .ok (.block b) => use form b inside next
    | .ok _ => next (.error .unopened)
    | .error f => next (.error f)

/-- A visit is what calls do that make a block and use it at once, as those do that match the next child
or a tree. -/
theorem run_visit {d : Deed} {x : Run BlockId} (hd : d.run = (do return .block (← x))) (form : Use)
    (inside : CursorId → Script) (next : Except Failure Value → Script) :
    (visit d form inside next).run = (do
      (next (← attempt do (← x).use form fun inner => (inside inner).run)).run) := by
  funext s
  rw [bind_apply, attempt_apply, andThen_ok, bind_apply]
  rcases hx : x s with ⟨f | b, t⟩
  · have hrun : d.run s = (.error f, t) := by
      rw [hd, bind_apply, hx, andThen_error]
    rw [visit, run_act hrun, andThen_error]
  · have hrun : d.run s = (.ok (.block b), t) := by
      rw [hd, bind_apply, hx, andThen_ok]
      rfl
    rw [visit, run_act hrun, andThen_ok]
    exact run_use rfl

end Script

/-! ## What every script keeps -/

/-- A step of a session: a change that matching makes, or one of the world. -/
def Session.Step (s t : Session) : Prop :=
  s.Change t ∨ ∃ change : World → World, t = { s with world := change s.world }

/-- What scripts can lead to. -/
abbrev Session.Evolves : Session → Session → Prop := Relation.ReflTransGen Session.Step

instance : Session.IsStable Session.Evolves where
  silent h := .single (.inl (.silent h))
  trans := .trans
  change h := .single (.inl h)

/-- A session that scripts can lead to from the beginning. -/
def Session.Reachable (s : Session) : Prop := ∃ w : World, Session.Evolves { world := w } s

namespace Session

variable {s t : Session}

theorem Evolves.grows (h : s.Evolves t) : s.Grows t := by
  induction h with
  | refl => exact IsCarried.refl s
  | tail _ hstep ih =>
      rcases hstep with hchange | ⟨change, rfl⟩
      · exact ih.trans hchange.grows
      · exact ih.trans ⟨fun h => ⟨_, h, .refl _⟩, fun h => ⟨_, h, .refl _⟩⟩

theorem Evolves.sound (h : s.Evolves t) (hs : s.Sound) : t.Sound := by
  induction h with
  | refl => exact hs
  | tail _ hstep ih =>
      rcases hstep with hchange | ⟨change, rfl⟩
      · exact hchange.sound ih
      · exact ⟨ih.owned, ih.parent, ih.owner, ih.injective, ih.older⟩

theorem Reachable.sound (h : s.Reachable) : s.Sound := by
  obtain ⟨w, hw⟩ := h
  exact hw.sound (sound_fresh w)

theorem Reachable.evolves (h : s.Reachable) (ht : s.Evolves t) : t.Reachable := by
  obtain ⟨w, hw⟩ := h
  exact ⟨w, hw.trans ht⟩

theorem reachable_fresh (w : World) : Session.Reachable { world := w } := ⟨w, .refl⟩

end Session

theorem Deed.keeps (d : Deed) : Keeps Session.Evolves d.run := by
  cases d with
  | look => exact keeps_get.bind fun _ => keeps_pure _
  | alter change => exact ⟨fun s => .single (.inr ⟨change, rfl⟩)⟩
  | matching c e root => exact (c.keeps_matching e root).bind fun _ => keeps_pure _
  | blockAt c e parentPath n => exact (c.keeps_blockAt e parentPath n).bind fun _ => keeps_pure _
  | childBlock c e => exact (c.keeps_childBlock e).bind fun _ => keeps_pure _
  | skip c count => exact (c.keeps_skip count).bind fun _ => keeps_pure _
  | enter b => exact b.keeps_open.bind fun _ => keeps_pure _
  | exit b failure => exact (b.keeps_exit failure).bind fun _ => keeps_pure _

theorem Deed.evolves (d : Deed) (s : Session) : s.Evolves (d.run s).2 := d.keeps.after s

theorem Script.keeps (p : Script) : Keeps Session.Evolves p.run := by
  induction p with
  | give v => exact keeps_pure v
  | fail f => exact keeps_throw f
  | act d next ih => exact d.keeps.attempt.bind ih
  | use form b inside next ihinside ih =>
      rw [run, BlockId.use_eq_within]
      exact (b.keeps_within ihinside).attempt.bind ih

theorem Script.evolves (p : Script) (s : Session) : s.Evolves (p.run s).2 := p.keeps.after s

theorem Script.keeps_grows (p : Script) : Keeps Session.Grows p.run := ⟨fun s => (p.evolves s).grows⟩

theorem BlockId.keeps_use (b : BlockId) (form : Use) (inside : CursorId → Script) :
    Keeps Session.Evolves (b.use form fun c => (inside c).run) := by
  rw [use_eq_within]
  exact b.keeps_within fun c => (inside c).keeps

end TreeShape
