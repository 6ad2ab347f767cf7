import TreeShape.Session

/-!
# Runs

A step of a run takes a session and gives an outcome and the session afterwards.  What a step has done
to the session stays done when it fails, so that whoever catches the failure goes on from there.

The failures are kept outside of the state for this reason: `ExceptT` over `StateM` has no way to go
back to an earlier session.  Catching is `attempt`, which turns the outcome of a step into a value, and
`resume` raises it again; `followedBy` is for what has to be done in the end in any case.

The equations at the end of each part say what a step does to a session.  `andThen` is what follows a
step: it goes on after a success and passes a failure through.
-/

namespace TreeShape

/-- A step of a run. -/
abbrev Run := ExceptT Failure (StateM Session)

namespace Run

/-! ## Sequences of steps -/

/-- Goes on after an outcome, if that is a success. -/
def andThen {α β : Type} (r : Except Failure α × Session) (next : α → Run β) :
    Except Failure β × Session :=
  match r with
  | (.ok a, s) => next a s
  | (.error f, s) => (.error f, s)

@[simp] theorem andThen_ok {α β : Type} (a : α) (s : Session) (next : α → Run β) :
    andThen (.ok a, s) next = next a s := rfl

@[simp] theorem andThen_error {α β : Type} (f : Failure) (s : Session) (next : α → Run β) :
    andThen (.error f, s) next = (.error f, s) := rfl

theorem bind_apply {α β : Type} (x : Run α) (next : α → Run β) (s : Session) :
    (x >>= next) s = andThen (x s) next := by
  show (ExceptT.bind x next) s = _
  simp only [ExceptT.bind, ExceptT.mk, bind, StateT.bind]
  rcases x s with ⟨_ | _, t⟩ <;> rfl

theorem pure_apply {α : Type} (a : α) (s : Session) : (pure a : Run α) s = (.ok a, s) := rfl

theorem throw_apply {α : Type} (f : Failure) (s : Session) :
    (throw f : Run α) s = (.error f, s) := rfl

theorem get_apply (s : Session) : (get : Run Session) s = (.ok s, s) := rfl

theorem modify_apply (change : Session → Session) (s : Session) :
    (modify change : Run Unit) s = (.ok (), change s) := rfl

/-! ## Outcomes as values -/

/-- Runs a step and gives its outcome as a value. -/
def attempt {α : Type} (x : Run α) : Run (Except Failure α) :=
  fun s => (.ok (x s).1, (x s).2)

/-- Goes on with an outcome. -/
def resume {α : Type} (outcome : Except Failure α) : Run α :=
  fun s => (outcome, s)

/-- Does something after a step, whatever its outcome.  A failure afterwards replaces the outcome. -/
def followedBy {α : Type} (after : Run Unit) (x : Run α) : Run α := do
  let outcome ← attempt x
  after
  resume outcome

theorem attempt_apply {α : Type} (x : Run α) (s : Session) :
    attempt x s = (.ok (x s).1, (x s).2) := rfl

theorem resume_apply {α : Type} (outcome : Except Failure α) (s : Session) :
    resume outcome s = (outcome, s) := rfl

theorem followedBy_apply {α : Type} (after : Run Unit) (x : Run α) (s : Session) :
    followedBy after x s = andThen (after (x s).2) fun _ t => ((x s).1, t) := by
  simp only [followedBy, bind_apply, attempt_apply, andThen_ok]
  rfl

/-! ## Parts of the session -/

def world : Run World := do return (← get).world

def record (e : Event) : Run Unit := modify (·.record e)

def modifyWorld (change : World → World) : Run Unit :=
  modify fun s => { s with world := change s.world }

def cursor (c : CursorId) : Run Cursor := do
  match (← get).cursor? c with
  | some cursor => return cursor
  | none => throw .unopened

def block (b : BlockId) : Run Block := do
  match (← get).block? b with
  | some block => return block
  | none => throw .unopened

theorem world_apply (s : Session) : world s = (.ok s.world, s) := rfl

theorem record_apply (e : Event) (s : Session) : record e s = (.ok (), s.record e) := rfl

theorem cursor_apply {s : Session} {c : CursorId} {cursor : Cursor}
    (h : s.cursor? c = some cursor) : Run.cursor c s = (.ok cursor, s) := by
  simp only [Run.cursor, bind_apply, get_apply, andThen_ok, h]
  rfl

theorem block_apply {s : Session} {b : BlockId} {block : Block} (h : s.block? b = some block) :
    Run.block b s = (.ok block, s) := by
  simp only [Run.block, bind_apply, get_apply, andThen_ok, h]
  rfl

/-! ## Names -/

/-- What a name is bound to. -/
def named {α : Type} (bound : Bindings → List (String × α)) (name : String) : Run α := do
  match (bound (← get).bindings).lookup name with
  | some a => return a
  | none => throw (.unboundName name)

def bindCursor (name : Option String) (c : CursorId) : Run Unit :=
  match name with
  | none => return ()
  | some name => modify (·.rebind fun b => { b with cursors := (name, c) :: b.cursors })

def bindBlock (name : Option String) (block : BlockId) : Run Unit :=
  match name with
  | none => return ()
  | some name => modify (·.rebind fun b => { b with blocks := (name, block) :: b.blocks })

def bindConfig (name : String) (c : Config) : Run Unit :=
  modify (·.rebind fun b => { b with configs := (name, c) :: b.configs })

def bindMatcher (name : String) (m : Matcher) : Run Unit :=
  modify (·.rebind fun b => { b with matchers := (name, m) :: b.matchers })

end Run

end TreeShape
