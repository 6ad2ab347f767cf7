import TreeShape.Proofs.Matching.Opening

/-!
# What comes of leaving a block

A block is left in one way only, whether a script was called with its cursor or a body was enclosed in
it: an assertion without a location gets the path of the block's node, the implicit check and the count
of children follow a body that did not fail, and the cursor is released whatever happened.

`BlockId.leave` is leaving with the outcome of a body, and there is one equation for each thing that can
happen: `leave_ok` and `leave_of_passed` if nothing but the count is left to fail, `leave_of_implicit`
if the check fails, `leave_of_assertion` and `leave_of_other` if the body has failed.  `cursor?_leave`
says for all of them at once what becomes of the cursors.  `BlockId.run_eq_within` says that the two
forms are the same step, so that what is shown of one holds of the other.
-/

namespace TreeShape

open Run

/-! ## What leaving keeps -/

section

variable {α : Type} {R : Session → Session → Prop} [Session.IsCarried R]

theorem keeps_mismatchAt (c : Config) (path : List Node) (reason : Mismatch) :
    Keeps R (mismatchAt c path reason : Run α) :=
  keeps_world.bind fun _ => (keeps_resume _).bind fun _ => keeps_throw _

theorem keeps_assertionAt (c : Config) (path : List Node) (f : Failure) :
    Keeps R (assertionAt c path f : Run α) :=
  keeps_world.bind fun _ => (keeps_record _).bind fun _ => (keeps_resume _).bind fun _ =>
    keeps_throw _

theorem CursorId.keeps_checkChildCount (c : CursorId) : Keeps R c.checkChildCount := by
  refine (keeps_cursor c).bind fun cursor => ?_
  split
  · exact keeps_mismatchAt ..
  · exact keeps_pure _

theorem BlockId.keeps_cursor (b : BlockId) : Keeps R b.cursor := by
  refine (keeps_block b).bind fun block => ?_
  split
  · exact keeps_pure _
  · exact keeps_throw _

theorem BlockId.keeps_checkImplicit (b : BlockId) : Keeps R b.checkImplicit := by
  refine (keeps_block b).bind fun block => ?_
  split
  · exact keeps_pure _
  · exact (keeps_record _).bind fun _ => keeps_world.bind fun _ => keeps_resume _

theorem BlockId.keeps_locating (b : BlockId) {x : Run α} (hx : Keeps R x) :
    Keeps R (b.locating x) := by
  refine hx.attempt.bind fun outcome => ?_
  split
  · exact keeps_pure _
  · split
    · exact b.keeps_cursor.bind fun c => (Run.keeps_cursor c).bind fun _ => keeps_assertionAt ..
    · exact keeps_throw _

theorem BlockId.keeps_close (b : BlockId) : Keeps R b.close :=
  (b.keeps_locating b.keeps_checkImplicit).bind fun _ =>
    b.keeps_cursor.bind fun c => c.keeps_checkChildCount

end

namespace BlockId

variable {α : Type} {s t : Session} {b : BlockId} {block : Block} {c : CursorId} {cursor : Cursor}

/-! ## The cursor of a block -/

theorem cursor_apply (h : s.block? b = some block) (hc : block.cursor = some c) :
    b.cursor s = (.ok c, s) := by
  simp only [cursor, bind_apply, block_apply h, andThen_ok, hc]
  rfl

theorem release_apply (h : s.block? b = some block) (hc : block.cursor = some c) :
    b.release s = (.ok (), s.release c block.parentCursor) := by
  have hblock : (s.modifyCursor c fun cursor => { cursor with closed := true }).block? b =
      some block := by rw [Session.block?_modifyCursor, h]
  simp only [release, bind_apply, cursor_apply h hc, andThen_ok, modify_apply, block_apply hblock,
    Session.release]
  cases block.parentCursor <;> rfl

theorem checkImplicit_of_none (h : s.block? b = some block) (hi : block.config.implicit = none) :
    b.checkImplicit s = (.ok (), s) := by
  simp only [checkImplicit, bind_apply, block_apply h, andThen_ok, hi]
  rfl

theorem checkImplicit_apply {check : ImplicitCheck} (h : s.block? b = some block)
    (hi : block.config.implicit = some check) :
    b.checkImplicit s = (check.run s.world block.node, s.record (.checked block.node)) := by
  simp only [checkImplicit, bind_apply, block_apply h, andThen_ok, hi, record_apply, world_apply,
    resume_apply]
  rfl

end BlockId

/-! ## Locating assertions -/

/-- What locating an assertion makes of it.  If the dump fails, it is that failure. -/
def Config.locate (c : Config) (w : World) (path : List Node) (f : Failure) : Failure :=
  match Location.of c w path with
  | .error g => g
  | .ok place => f.located place

theorem assertionAt_apply {α : Type} (c : Config) (path : List Node) (f : Failure) (s : Session) :
    (assertionAt c path f : Run α) s = (.error (c.locate s.world path f),
      s.record (.located f.kind (Location.namesOf c s.world path))) := by
  simp only [assertionAt, Config.locate, bind_apply, world_apply, andThen_ok, record_apply,
    resume_apply]
  cases Location.of c s.world path <;> rfl

/-- What a failure is once it has left the block of a cursor. -/
def Cursor.settle (cursor : Cursor) (w : World) (f : Failure) : Failure :=
  if f.wantsLocation then cursor.config.locate w cursor.path f else f

namespace BlockId

variable {α : Type} {s t : Session} {b : BlockId} {block : Block} {c : CursorId} {cursor : Cursor}

theorem locating_of_ok {x : Run α} {a : α} (hx : x s = (.ok a, t)) :
    b.locating x s = (.ok a, t) := by
  simp only [locating, bind_apply, attempt_apply, andThen_ok, hx]
  rfl

theorem locating_of_other {x : Run α} {f : Failure} (hx : x s = (.error f, t))
    (hf : f.wantsLocation = false) : b.locating x s = (.error f, t) := by
  simp only [locating, bind_apply, attempt_apply, andThen_ok, hx, hf, Bool.false_eq_true, if_false]
  rfl

theorem locating_of_assertion {x : Run α} {f : Failure} (hx : x s = (.error f, t))
    (hf : f.wantsLocation = true) (hb : t.block? b = some block) (hc : block.cursor = some c)
    (hcursor : t.cursor? c = some cursor) :
    b.locating x s = (.error (cursor.config.locate t.world cursor.path f),
      t.record (.located f.kind (Location.namesOf cursor.config t.world cursor.path))) := by
  simp only [locating, bind_apply, attempt_apply, andThen_ok, hx, hf, if_true, cursor_apply hb hc,
    Run.cursor_apply hcursor, assertionAt_apply]

/-! ## Exits -/

/-- What is done with the outcome of a body before the block is released. -/
def conclude (b : BlockId) (failure : Option Failure) : Run Unit :=
  match failure with
  | none => b.close
  | some f => if f.wantsLocation then b.locating (throw f) else return ()

theorem keeps_conclude {R : Session → Session → Prop} [Session.IsCarried R] (b : BlockId)
    (failure : Option Failure) : Keeps R (b.conclude failure) := by
  unfold conclude
  split
  · exact b.keeps_close
  · split
    · exact b.keeps_locating (keeps_throw _)
    · exact keeps_pure _

theorem exit_eq (b : BlockId) (failure : Option Failure) :
    b.exit failure = followedBy b.release (b.conclude failure) := by
  cases failure <;> rfl

/-- Leaving an open block comes down to releasing it. -/
theorem exit_apply (h : s.block? b = some block) (hc : block.cursor = some c)
    (failure : Option Failure) :
    b.exit failure s = ((b.conclude failure s).1,
      (b.conclude failure s).2.release c block.parentCursor) := by
  have hblock := Session.Silent.block? ((b.keeps_conclude failure).after s) b
  rw [exit_eq, followedBy_apply, release_apply (hblock.trans h) hc, andThen_ok]

theorem release_of_unopened (h : ∀ block, s.block? b = some block → block.cursor = none) :
    b.release s = (.error .unopened, s) := by
  cases hb : s.block? b with
  | none => simp only [release, cursor, bind_apply, block_of_missing hb, andThen_error]
  | some block =>
      simp only [release, cursor, bind_apply, block_apply hb, andThen_ok, h block hb]
      rfl

/-- A block that was never open cannot be left. -/
theorem exit_of_unopened (h : ∀ block, s.block? b = some block → block.cursor = none)
    (failure : Option Failure) :
    b.exit failure s = (.error .unopened, (b.conclude failure s).2) := by
  have hsilent : s.Silent _ := (b.keeps_conclude failure).after s
  rw [exit_eq, followedBy_apply, release_of_unopened fun block hb => h block ?_, andThen_error]
  rw [← hsilent.block? b, hb]

/-- Leaving a block keeps what releasing it keeps. -/
theorem keeps_exit_of_release {R : Session → Session → Prop} [Session.IsCarried R]
    (hrelease : ∀ {s block c}, s.block? b = some block → block.cursor = some c →
      R s (s.release c block.parentCursor)) (failure : Option Failure) :
    Keeps R (b.exit failure) := by
  refine ⟨fun s => ?_⟩
  have hconclude : R s (b.conclude failure s).2 := (b.keeps_conclude failure).after s
  by_cases h : ∃ block c, s.block? b = some block ∧ block.cursor = some c
  · obtain ⟨block, c, hb, hc⟩ := h
    have hsilent : s.Silent (b.conclude failure s).2 := (b.keeps_conclude failure).after s
    rw [exit_apply hb hc]
    exact Session.IsCarried.trans hconclude (hrelease ((hsilent.block? b).trans hb) hc)
  · rw [exit_of_unopened]
    · exact hconclude
    · intro block hb
      cases hc : block.cursor with
      | none => rfl
      | some c => exact absurd ⟨block, c, hb, hc⟩ h

/-- Without an implicit check, all that is checked at the end of a body is the count of children. -/
theorem close_apply (h : s.block? b = some block) (hc : block.cursor = some c)
    (hi : block.config.implicit = none) (hcursor : s.cursor? c = some cursor) :
    b.close s = (if cursor.ignoring || cursor.next == cursor.children.length then .ok ()
      else cursor.config.mismatch s.world cursor.path
        (.childCount cursor.next cursor.children.length), s) := by
  simp only [close, bind_apply, locating_of_ok (checkImplicit_of_none h hi), andThen_ok,
    cursor_apply h hc,
    CursorId.checkChildCount_apply hcursor]

/-! ## The two forms -/

/-- The outcome of a body, as leaving its block is told of it. -/
def failure? : Except Failure α → Option Failure
  | .ok _ => none
  | .error f => some f

/-- Leaving a block with the outcome of its body.  A failure on leaving replaces it. -/
def leave (b : BlockId) (outcome : Except Failure α) : Run α := do
  b.exit (failure? outcome)
  resume outcome

theorem within_eq (b : BlockId) (body : CursorId → Run α) : b.within body = (do
    let c ← b.open
    b.leave (← attempt (body c))) := by
  unfold within leave
  congr
  funext c
  congr
  funext outcome
  cases outcome <;> rfl

/-- What the body came to does not change any more. -/
theorem leave_snd (b : BlockId) (outcome : Except Failure α) (s : Session) :
    (b.leave outcome s).2 = (b.exit (failure? outcome) s).2 := by
  rw [leave, bind_apply]
  rcases b.exit (failure? outcome) s with ⟨_ | _, _⟩ <;> rfl

/-- What a body came to makes no difference for leaving its block, but for whether it failed. -/
theorem leave_map {β : Type} (b : BlockId) (g : α → β) (outcome : Except Failure α) (s : Session) :
    b.leave (outcome.map g) s = ((b.leave outcome s).1.map g, (b.leave outcome s).2) := by
  have hfailure : failure? (outcome.map g) = failure? outcome := by cases outcome <;> rfl
  simp only [leave, bind_apply, hfailure]
  rcases b.exit (failure? outcome) s with ⟨_ | _, _⟩ <;> rfl

/-- A body that came to a value hands it on if leaving does not fail. -/
theorem eq_of_leave_ok {outcome : Except Failure α} {a : α} (h : (b.leave outcome s).1 = .ok a) :
    outcome = .ok a ∧ (b.exit none s).1 = .ok () := by
  rw [leave, bind_apply] at h
  rcases hexit : b.exit (failure? outcome) s with ⟨_ | _, _⟩ <;> rw [hexit] at h
  · cases h
  · cases h
    exact ⟨rfl, by rw [← failure?, hexit]⟩

/-- Leaving a block changes its own cursor and the one that made it. -/
theorem cursor?_leave (h : s.block? b = some block) (hc : block.cursor = some c)
    (outcome : Except Failure α) (d : CursorId) :
    (b.leave outcome s).2.cursor? d = (s.release c block.parentCursor).cursor? d := by
  have hsilent : s.Silent (b.conclude (failure? outcome) s).2 := (b.keeps_conclude _).after s
  rw [leave_snd, exit_apply h hc, Session.cursor?_release, Session.cursor?_release, hsilent.cursor?]

/-- After a body that did not fail, only the count of the children is left to check. -/
theorem leave_ok (h : s.block? b = some block) (hc : block.cursor = some c)
    (hi : block.config.implicit = none) (hcursor : s.cursor? c = some cursor) (a : α) :
    b.leave (.ok a) s = (if cursor.ignoring || cursor.next == cursor.children.length then .ok a
      else cursor.config.mismatch s.world cursor.path
        (.childCount cursor.next cursor.children.length), s.release c block.parentCursor) := by
  simp only [leave, failure?, bind_apply, exit_apply h hc, conclude, close_apply h hc hi hcursor]
  split
  · rfl
  · unfold Config.mismatch
    cases Location.of cursor.config s.world cursor.path <;> rfl

/-- A failure that is no assertion, or has its location, passes. -/
theorem leave_of_other (h : s.block? b = some block) (hc : block.cursor = some c) {f : Failure}
    (hf : f.wantsLocation = false) :
    b.leave (.error f : Except Failure α) s = (.error f, s.release c block.parentCursor) := by
  simp only [leave, failure?, bind_apply, exit_apply h hc, conclude, hf, Bool.false_eq_true,
    if_false, pure_apply, andThen_ok, resume_apply]

/-- An assertion without location gets that of the block's node. -/
theorem leave_of_assertion (h : s.block? b = some block) (hc : block.cursor = some c)
    (hcursor : s.cursor? c = some cursor) {f : Failure} (hf : f.wantsLocation = true) :
    b.leave (.error f : Except Failure α) s = (.error (cursor.config.locate s.world cursor.path f),
      (s.record (.located f.kind (Location.namesOf cursor.config s.world cursor.path))).release c
        block.parentCursor) := by
  have hthrow := locating_of_assertion (α := Unit) (throw_apply f s) hf h hc hcursor
  simp only [leave, failure?, bind_apply, exit_apply h hc, conclude, hf, if_true, hthrow,
    andThen_error]

/-- A failure that leaves a block. -/
theorem leave_error (h : s.block? b = some block) (hc : block.cursor = some c)
    (hcursor : s.cursor? c = some cursor) (f : Failure) :
    (b.leave (.error f : Except Failure α) s).1 = .error (cursor.settle s.world f) := by
  unfold Cursor.settle
  split
  · next hf => rw [leave_of_assertion h hc hcursor hf]
  · next hf => rw [leave_of_other h hc (by simpa using hf)]

/-- A failure of the implicit check counts as one of the body. -/
theorem leave_of_implicit {check : ImplicitCheck} {f : Failure} (h : s.block? b = some block)
    (hc : block.cursor = some c) (hcursor : s.cursor? c = some cursor)
    (hi : block.config.implicit = some check) (hf : check.run s.world block.node = .error f) (a : α) :
    (b.leave (.ok a) s).1 = .error (cursor.settle s.world f) := by
  have hcheck : b.checkImplicit s = (.error f, s.record (.checked block.node)) := by
    rw [checkImplicit_apply h hi, hf]
  unfold Cursor.settle
  cases hwants : f.wantsLocation with
  | true =>
      have hlocating := locating_of_assertion hcheck hwants h hc hcursor
      rw [show (s.record (.checked block.node)).world = s.world from rfl] at hlocating
      simp only [leave, failure?, bind_apply, exit_apply h hc, conclude, close, hlocating,
        andThen_error, if_true]
  | false =>
      simp only [leave, failure?, bind_apply, exit_apply h hc, conclude, close,
        locating_of_other hcheck hwants, andThen_error, Bool.false_eq_true, if_false]

/-- A failure of the count of children, if the implicit check passes. -/
theorem leave_of_passed {check : ImplicitCheck} (h : s.block? b = some block)
    (hc : block.cursor = some c) (hcursor : s.cursor? c = some cursor)
    (hi : block.config.implicit = some check) (hf : check.run s.world block.node = .ok ()) (a : α) :
    (b.leave (.ok a) s).1 = if cursor.ignoring || cursor.next == cursor.children.length then .ok a
      else cursor.config.mismatch s.world cursor.path
        (.childCount cursor.next cursor.children.length) := by
  have hcheck : b.checkImplicit s = (.ok (), s.record (.checked block.node)) := by
    rw [checkImplicit_apply h hi, hf]
  have hblock : (s.record (.checked block.node)).block? b = some block := h
  have hcursor' : (s.record (.checked block.node)).cursor? c = some cursor := hcursor
  simp only [leave, failure?, bind_apply, exit_apply h hc, conclude, close, locating_of_ok hcheck,
    andThen_ok, cursor_apply hblock hc, CursorId.checkChildCount_apply hcursor']
  split
  · rfl
  · unfold Config.mismatch
    rw [show (s.record (.checked block.node)).world = s.world from rfl]
    cases Location.of cursor.config s.world cursor.path <;> rfl

/-- An assertion is located in the same way whatever was to come instead of it. -/
theorem exists_locating_eq {f : Failure} (hf : f.wantsLocation = true) (b : BlockId)
    (t : Session) : ∃ g u, ∀ {α : Type} {x : Run α} {s : Session}, x s = (.error f, t) →
      b.locating x s = (.error g, u) := by
  have hlocating : ∀ {α : Type} {x : Run α} {s : Session}, x s = (.error f, t) →
      b.locating x s = (do
        let cursor ← Run.cursor (← b.cursor)
        assertionAt cursor.config cursor.path f) t := by
    intro α x s hx
    simp only [locating, bind_apply, attempt_apply, andThen_ok, hx, hf, if_true]
  rcases hb : b.cursor t with ⟨g | c, u⟩
  · exact ⟨g, u, fun hx => by rw [hlocating hx, bind_apply, hb, andThen_error]⟩
  rcases hc : Run.cursor c u with ⟨g | cursor, v⟩
  · refine ⟨g, v, fun hx => ?_⟩
    rw [hlocating hx, bind_apply, hb, andThen_ok, bind_apply, hc, andThen_error]
  · refine ⟨cursor.config.locate v.world cursor.path f,
      v.record (.located f.kind (Location.namesOf cursor.config v.world cursor.path)), fun hx => ?_⟩
    rw [hlocating hx, bind_apply, hb, andThen_ok, bind_apply, hc, andThen_ok, assertionAt_apply]

/-- Calling a script with the cursor of a block and enclosing the script in the block are one. -/
theorem run_eq_within (b : BlockId) (script : CursorId → Run α) :
    b.run script = b.within script := by
  rw [within_eq]
  unfold run
  congr
  funext c s
  rw [followedBy_apply, bind_apply, bind_apply, attempt_apply, andThen_ok]
  rcases hs : script c s with ⟨f | a, t⟩
  · cases hf : f.wantsLocation with
    | true =>
        -- One form locates the failure of the script, the other raises it again for that.
        obtain ⟨g, u, hlocated⟩ := exists_locating_eq hf b t
        have hthrow : b.locating (throw f : Run Unit) t = (.error g, u) := hlocated rfl
        simp only [hlocated hs, leave, failure?, bind_apply, exit_eq, followedBy_apply, conclude, hf,
          if_true, hthrow, andThen_error]
        rcases b.release u with ⟨_ | _, _⟩ <;> rfl
    | false =>
        simp only [locating_of_other hs hf, leave, failure?, bind_apply, exit_eq, followedBy_apply,
          conclude, hf, andThen_error, Bool.false_eq_true, if_false, pure_apply]
        rcases b.release t with ⟨_ | _, _⟩ <;> rfl
  · simp only [locating_of_ok hs, leave, failure?, bind_apply, exit_eq, followedBy_apply, conclude,
      andThen_ok]
    rcases b.close t with ⟨_ | _, u⟩
    · simp only [andThen_error]
      rcases b.release u with ⟨_ | _, _⟩ <;> rfl
    · simp only [andThen_ok, pure_apply]
      rcases b.release u with ⟨_ | _, _⟩ <;> rfl

/-- A block hands on the value of its body. -/
theorem exists_of_within_ok {body : CursorId → Run α} {a : α}
    (h : (b.within body s).1 = .ok a) :
    ∃ c t, b.open s = (.ok c, t) ∧ (body c t).1 = .ok a := by
  rw [within_eq, bind_apply] at h
  rcases hopen : b.open s with ⟨f | c, t⟩ <;> rw [hopen] at h
  · cases h
  rw [andThen_ok, bind_apply, attempt_apply, andThen_ok] at h
  exact ⟨c, t, rfl, (eq_of_leave_ok h).1⟩

end BlockId

/-- Matching the next child encloses the script in the block of the child. -/
theorem CursorId.child_eq_within {α : Type} (c : CursorId) (e : Expected)
    (script : CursorId → Run α) : c.child e script = (do
      (← c.childBlock e).within fun inner => do
        discard (script inner)
        return (← Run.cursor inner).node) := by
  unfold CursorId.child CursorId.extractFromChild
  congr
  funext b
  exact b.run_eq_within _

end TreeShape
