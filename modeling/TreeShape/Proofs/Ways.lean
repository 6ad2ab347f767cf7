import TreeShape.Proofs.Raising

/-!
# The ways to match are one

The next child of a cursor can be matched in three ways: with a call that returns the child, with a call
that returns what the script made of it, or by enclosing the script in a block.  The root of a tree can
be matched in the same three ways.  They differ in what they return, and in nothing else.

## Strategy

* **One call.**  All ways make a block, open it, do something inside, and leave it with what came of
  that: `Target.visit_eq_within`.  What they do inside is to call the script and then, perhaps, to look
  at the cursor, which fails nowhere and changes nothing (`Way.around_apply`).  So they end in the same
  session, and where one of them fails, the others fail with the same failure: `Target.visit_apply`.
* **Whole scripts.**  `Script.Alike` relates scripts in which any calls are replaced by calls of another
  way, at any depth, as long as the script does not make use of what these calls return.  The relation
  between the values has to be carried along, as the call around a replaced one may return what its
  script came to; `Alike.run_matches` is an induction over the relation.
-/

namespace TreeShape

open Run

/-! ## The ways -/

/-- What is matched: the next child of a cursor, or a tree. -/
inductive Target where
  | child (c : CursorId) (e : Expected)
  | root (c : Config) (e : Expected) (root : Node)

/-- How it is matched. -/
inductive Way where
  /-- By a call that returns the node. -/
  | returning
  /-- By a call that returns the value of the script. -/
  | extracting
  /-- By a block that encloses the script. -/
  | enclosing
  deriving DecidableEq, Repr

namespace Target

/-- Makes the block. -/
def block : Target → Run BlockId
  | child c e => c.childBlock e
  | root c e n => c.matching e n

/-- Makes the block and opens it. -/
def begin (target : Target) : Run (BlockId × CursorId) := do
  let b ← target.block
  return (b, ← b.open)

/-- The node that is matched, if there is one. -/
def node? (s : Session) : Target → Option Node
  | child c _ => (s.cursor? c).bind fun cursor => cursor.children[cursor.next]?
  | root _ _ n => some n

/-- Matches in one of the ways. -/
def visit : Target → Way → (CursorId → Run Value) → Run Value
  | child c e, .returning, script => do return .ofNode (← c.child e script)
  | child c e, .extracting, script => c.extractFromChild e script
  | root c e n, .returning, script => do return .ofNode (← c.matchTree e n script)
  | root c e n, .extracting, script => c.extract e n script
  | target, .enclosing, script => do (← target.block).within script

/-- The deed that makes the block. -/
def deed : Target → Deed
  | child c e => .childBlock c e
  | root c e n => .matching c e n

theorem deed_run (target : Target) : target.deed.run = (do return .block (← target.block)) := by
  cases target <;> rfl

end Target

namespace Way

/-- What is returned for a node and for what a script made of it. -/
def answer : Way → Node → Value → Value
  | returning, n, _ => .ofNode n
  | _, _, v => v

/-- What is done inside the block. -/
def around : Way → (CursorId → Run Value) → CursorId → Run Value
  | returning, script => fun c => do
    discard (script c)
    return .ofNode (← Run.cursor c).node
  | _, script => script

/-- The form in which the block is used. -/
def form : Way → Use
  | enclosing => .entered
  | _ => .called

end Way

/-! ## One course -/

namespace BlockId

variable {α β : Type}

/-- What comes after a body can be done inside the block if it changes nothing. -/
theorem within_map (b : BlockId) (g : α → β) (body : CursorId → Run α) :
    (do return g (← b.within body)) = b.within fun c => do return g (← body c) := by
  funext s
  rw [bind_apply, within_eq, within_eq, bind_apply, bind_apply]
  rcases b.open s with ⟨_ | c, t⟩
  · rfl
  simp only [andThen_ok, bind_apply, attempt_apply]
  have hmap : andThen (body c t) (fun a => (pure (g a) : Run β)) =
      ((body c t).1.map g, (body c t).2) := by
    rcases body c t with ⟨_ | _, _⟩ <;> rfl
  rw [hmap, leave_map]
  rcases b.leave (body c t).1 (body c t).2 with ⟨_ | _, _⟩ <;> rfl

end BlockId

theorem Config.extract_eq_within {α : Type} (c : Config) (e : Expected) (root : Node)
    (script : CursorId → Run α) :
    c.extract e root script = (do (← c.matching e root).within script) := by
  simp only [extract, execute, matching, bind_assoc, BlockId.run_eq_within]

theorem CursorId.extractFromChild_eq_within {α : Type} (c : CursorId) (e : Expected)
    (script : CursorId → Run α) :
    c.extractFromChild e script = (do (← c.childBlock e).within script) := by
  simp only [extractFromChild, BlockId.run_eq_within]

namespace Target

variable {target : Target} {s t : Session}

/-- All ways make a block and enclose something in it. -/
theorem visit_eq_within (target : Target) (w : Way) (script : CursorId → Run Value) :
    target.visit w script = (do (← target.block).within (w.around script)) := by
  cases w with
  | extracting =>
      cases target with
      | child c e => exact c.extractFromChild_eq_within e script
      | root c e n => exact c.extract_eq_within e n script
  | enclosing => cases target <;> rfl
  | returning =>
      cases target with
      | child c e =>
          simp only [visit, c.child_eq_within, bind_assoc, BlockId.within_map, pure_bind]
          rfl
      | root c e n =>
          simp only [visit, Config.matchTree, c.extract_eq_within, bind_assoc, BlockId.within_map,
            pure_bind]
          rfl

/-- If the block is not made or does not open, that is all. -/
theorem visit_of_error {f : Failure} (h : target.begin s = (.error f, t)) (w : Way)
    (script : CursorId → Run Value) : target.visit w script s = (.error f, t) := by
  rw [visit_eq_within, bind_apply]
  rw [begin, bind_apply] at h
  rcases hblock : target.block s with ⟨g | b, u⟩ <;> rw [hblock] at h
  · cases h
    rfl
  rw [andThen_ok, bind_apply] at h
  rw [andThen_ok, BlockId.within_eq, bind_apply]
  rcases hopen : b.open u with ⟨g | c, v⟩ <;> rw [hopen] at h
  · cases h
    rfl
  · cases h

/-- A block that has been made and opened. -/
theorem of_begin {b : BlockId} {c : CursorId} (h : target.begin s = (.ok (b, c), t)) :
    ∃ u, target.block s = (.ok b, u) ∧ b.open u = (.ok c, t) := by
  rw [begin, bind_apply] at h
  rcases hblock : target.block s with ⟨g | b', u⟩ <;> rw [hblock] at h
  · cases h
  rw [andThen_ok, bind_apply] at h
  rcases hopen : b'.open u with ⟨g | c', v⟩ <;> rw [hopen] at h
  · cases h
  cases h
  exact ⟨u, rfl, hopen⟩

/-- The cursor of the block stands at the node that is matched. -/
theorem node?_of_begin {b : BlockId} {c : CursorId} (h : target.begin s = (.ok (b, c), t)) :
    ∃ cursor, t.cursor? c = some cursor ∧ target.node? s = some cursor.node := by
  obtain ⟨u, hblock, hopen⟩ := of_begin h
  obtain ⟨block, n, children, taken, hb, -, ht, -, -, hcursor, -⟩ := BlockId.cursor_of_open hopen
  refine ⟨_, hcursor, ?_⟩
  -- The block that was opened is the one that was made, so its parent is known.
  cases target with
  | child p e =>
      change p.childBlock e s = _ at hblock
      rcases p.childBlock_cases e s with ⟨f, hf⟩ | ⟨parent, hparent, -, -, hok⟩
      · rw [hf] at hblock
        cases hblock
      rw [hok] at hblock
      cases hblock
      rw [Session.block?_freshBlock] at hb
      cases hb
      cases ht with
      | root hp => cases hp
      | child hp hcur _ hn =>
          cases hp
          rw [Session.cursor?_addBlock, hparent] at hcur
          cases hcur
          rw [node?, hparent]
          exact hn
  | root config e root =>
      change config.matching e root s = _ at hblock
      rcases config.matching_cases e root s with ⟨f, hf⟩ | hok
      · rw [hf] at hblock
        cases hblock
      rw [hok] at hblock
      cases hblock
      rw [Session.block?_freshBlock] at hb
      cases hb
      cases ht with
      | root => rfl
      | child hp => cases hp

end Target

/-- What is done inside the block comes to what the script comes to, or to the node. -/
theorem Way.around_apply (w : Way) {script : CursorId → Run Value} {s : Session} {c : CursorId}
    {cursor : Cursor} (hscript : Keeps Session.Grows (script c)) (hc : s.cursor? c = some cursor) :
    w.around script c s = ((script c s).1.map (w.answer cursor.node), (script c s).2) := by
  have hvalue : script c s = ((script c s).1.map id, (script c s).2) := by
    rw [Except.map_id]
    rfl
  cases w with
  | extracting => exact hvalue
  | enclosing => exact hvalue
  | returning =>
      have hgrows := hscript.after s
      simp only [around]
      rw [discard_bind, bind_apply]
      rcases hrun : script c s with ⟨_ | v, t⟩ <;> rw [hrun] at hgrows
      · rfl
      obtain ⟨later, hlater, hgrown⟩ := hgrows.cursor hc
      rw [andThen_ok, bind_apply, cursor_apply hlater, andThen_ok, hgrown.node]
      rfl

namespace Target

variable {target : Target} {s t : Session}

/-- If the block opens, the script is called with its cursor, and the block is left with what came of
that. -/
theorem visit_apply {b : BlockId} {c : CursorId} {cursor : Cursor} {script : CursorId → Run Value}
    (hscript : Keeps Session.Grows (script c)) (h : target.begin s = (.ok (b, c), t))
    (hc : t.cursor? c = some cursor) (w : Way) :
    target.visit w script s = ((b.leave (script c t).1 (script c t).2).1.map (w.answer cursor.node),
      (b.leave (script c t).1 (script c t).2).2) := by
  obtain ⟨u, hblock, hopen⟩ := of_begin h
  rw [visit_eq_within, bind_apply, hblock, andThen_ok, BlockId.within_eq, bind_apply, hopen, andThen_ok,
    bind_apply, attempt_apply, andThen_ok, w.around_apply hscript hc]
  exact BlockId.leave_map ..

end Target

/-! ## The ways in scripts -/

namespace Script

/-- Goes on with the value of a script. -/
def bind : Script → (Value → Script) → Script
  | give v, k => k v
  | fail f, _ => fail f
  | act d next, k => act d fun reply => (next reply).bind k
  | use form b inside next, k => use form b inside fun outcome => (next outcome).bind k

theorem run_bind (p : Script) (k : Value → Script) :
    (p.bind k).run = (do (k (← p.run)).run) := by
  induction p with
  | give v => rfl
  | fail f => rfl
  | act d next ih => simp only [bind, run, ih, bind_assoc]
  | use form b inside next _ ih => simp only [bind, run, ih, bind_assoc]

/-- Gives the node of a cursor. -/
def tellNode (c : CursorId) : Script :=
  act .look fun
    | .ok (.session s) =>
      match s.cursor? c with
      | some cursor => give (.ofNode cursor.node)
      | none => fail .unopened
    | .ok _ => fail .unopened
    | .error f => fail f

theorem run_tellNode (c : CursorId) :
    (tellNode c).run = (do return .ofNode (← Run.cursor c).node) := by
  funext s
  rw [tellNode, run_act (rfl : Deed.look.run s = (.ok (.session s), s)), bind_apply]
  cases hc : s.cursor? c with
  | none =>
      rw [CursorId.cursor_of_missing hc]
      simp only [hc]
      rfl
  | some cursor =>
      rw [cursor_apply hc]
      simp only [hc]
      rfl

/-- What a call does inside the block. -/
def insideOf : Way → (CursorId → Script) → CursorId → Script
  | .returning, inside => fun c => (inside c).bind fun _ => tellNode c
  | _, inside => inside

theorem run_insideOf (w : Way) (inside : CursorId → Script) :
    (fun c => (insideOf w inside c).run) = w.around fun c => (inside c).run := by
  cases w with
  | returning =>
      funext c
      simp only [insideOf, run_bind, run_tellNode, Way.around, discard_bind]
  | extracting => rfl
  | enclosing => rfl

/-- Matches in one of the ways, and goes on. -/
def call (target : Target) (w : Way) (inside : CursorId → Script)
    (next : Except Failure Value → Script) : Script :=
  visit target.deed w.form (insideOf w inside) next

theorem run_call (target : Target) (w : Way) (inside : CursorId → Script)
    (next : Except Failure Value → Script) : (call target w inside next).run =
      (do (next (← attempt (target.visit w fun c => (inside c).run))).run) := by
  simp only [call, run_visit target.deed_run, BlockId.use_eq_within, run_insideOf,
    target.visit_eq_within]

end Script

/-! ## Scripts that differ in the ways of their calls -/

/-- Two outcomes are values that are related, or the same failure. -/
inductive Agree (R : Value → Value → Prop) : Except Failure Value → Except Failure Value → Prop
  | ok {v v' : Value} : R v v' → Agree R (.ok v) (.ok v')
  | error (f : Failure) : Agree R (.error f) (.error f)

/-- How the answers of two ways are related if the values of the scripts are: not at all if one of them
is the node and the other is not. -/
def Way.Relates : Way → Way → (Value → Value → Prop) → Value → Value → Prop
  | returning, returning, _ => Eq
  | returning, _, _ => fun _ _ => True
  | _, returning, _ => fun _ _ => True
  | _, _, R => R

/-- Two scripts do the same, but for the forms and the ways in which they match, and for the values that
depend on these.  The relation is that of the values that they come to.  Where a script goes on with
what a call has returned, it goes on in the same way for whatever the call might have returned. -/
inductive Script.Alike : (Value → Value → Prop) → Script → Script → Prop
  | give {R : Value → Value → Prop} {v v' : Value} : R v v' → Alike R (.give v) (.give v')
  | fail {R : Value → Value → Prop} (f : Failure) : Alike R (.fail f) (.fail f)
  | act {R : Value → Value → Prop} {d : Deed} {next next' : Except Failure Reply → Script} :
      (∀ reply, Alike R (next reply) (next' reply)) → Alike R (.act d next) (.act d next')
  | use {R Q : Value → Value → Prop} {form form' : Use} {b : BlockId}
      {inside inside' : CursorId → Script} {next next' : Except Failure Value → Script} :
      (∀ c, Alike Q (inside c) (inside' c)) →
      (∀ outcome outcome', Agree Q outcome outcome' → Alike R (next outcome) (next' outcome')) →
      Alike R (.use form b inside next) (.use form' b inside' next')
  | call {R Q : Value → Value → Prop} {target : Target} {w w' : Way}
      {inside inside' : CursorId → Script} {next next' : Except Failure Value → Script} :
      (∀ c, Alike Q (inside c) (inside' c)) →
      (∀ outcome outcome', Agree (w.Relates w' Q) outcome outcome' →
        Alike R (next outcome) (next' outcome')) →
      Alike R (.call target w inside next) (.call target w' inside' next')

section

variable {R : Value → Value → Prop} {outcome outcome' : Except Failure Value}

theorem Agree.eq (h : Agree Eq outcome outcome') : outcome = outcome' := by
  cases h with
  | ok h => rw [h]
  | error f => rfl

theorem Agree.error_iff (h : Agree R outcome outcome') (f : Failure) :
    outcome = .error f ↔ outcome' = .error f := by
  cases h with
  | ok => exact iff_of_false (by simp) (by simp)
  | error g => exact Iff.rfl

/-- Two ways answer what their relation says. -/
theorem Agree.answers (h : Agree R outcome outcome') (w w' : Way) (n : Node) :
    Agree (w.Relates w' R) (outcome.map (w.answer n)) (outcome'.map (w'.answer n)) := by
  cases h with
  | error f => exact .error f
  | ok h =>
      refine .ok ?_
      cases w <;> cases w' <;> first | rfl | trivial

/-- Blocks that are left with outcomes that agree are left in the same session. -/
theorem Agree.leave (h : Agree R outcome outcome') (b : BlockId) (s : Session) :
    Agree R (b.leave outcome s).1 (b.leave outcome' s).1 ∧
      (b.leave outcome s).2 = (b.leave outcome' s).2 := by
  cases h with
  | ok h =>
      simp only [BlockId.leave, BlockId.failure?, bind_apply]
      rcases b.exit none s with ⟨f | _, t⟩
      · exact ⟨.error f, rfl⟩
      · exact ⟨.ok h, rfl⟩
  | error f =>
      refine ⟨?_, rfl⟩
      simp only [BlockId.leave, BlockId.failure?, bind_apply]
      rcases b.exit (some f) s with ⟨g | _, t⟩
      · exact .error g
      · exact .error f

end

/-- The session after what both scripts do is the same, and they come to outcomes that agree. -/
def Run.Matches (R : Value → Value → Prop) (x y : Run Value) : Prop :=
  ∀ s, Agree R (x s).1 (y s).1 ∧ (x s).2 = (y s).2

section

variable {R Q : Value → Value → Prop} {inside inside' : CursorId → Script}

theorem BlockId.use_matches (h : ∀ c, Matches Q (inside c).run (inside' c).run) (form form' : Use)
    (b : BlockId) :
    Matches Q (b.use form fun c => (inside c).run) (b.use form' fun c => (inside' c).run) := by
  intro s
  rcases hopen : b.open s with ⟨f | c, t⟩
  · rw [Script.use_of_open_error hopen, Script.use_of_open_error hopen]
    exact ⟨.error f, rfl⟩
  · obtain ⟨hagree, hsession⟩ := h c t
    rw [Script.use_apply hopen rfl, Script.use_apply hopen rfl, ← hsession]
    exact hagree.leave b _

theorem Target.visit_matches (h : ∀ c, Matches Q (inside c).run (inside' c).run) (target : Target)
    (w w' : Way) : Matches (w.Relates w' Q) (target.visit w fun c => (inside c).run)
      (target.visit w' fun c => (inside' c).run) := by
  intro s
  rcases hbegin : target.begin s with ⟨f | ⟨b, c⟩, t⟩
  · rw [visit_of_error hbegin, visit_of_error hbegin]
    exact ⟨.error f, rfl⟩
  · obtain ⟨cursor, hcursor, -⟩ := node?_of_begin hbegin
    obtain ⟨hagree, hsession⟩ := h c t
    rw [visit_apply (inside c).keeps_grows hbegin hcursor,
      visit_apply (inside' c).keeps_grows hbegin hcursor, ← hsession]
    obtain ⟨hleft, hsession'⟩ := hagree.leave b ((inside c).run t).2
    exact ⟨hleft.answers w w' cursor.node, hsession'⟩

/-- What goes on after outcomes that agree. -/
theorem Run.Matches.bind {x y : Run Value} {next next' : Except Failure Value → Script}
    (h : Matches Q x y) (hnext : ∀ outcome outcome', Agree Q outcome outcome' →
      Matches R (next outcome).run (next' outcome').run) :
    Matches R (do (next (← attempt x)).run) (do (next' (← attempt y)).run) := by
  intro s
  obtain ⟨hagree, hsession⟩ := h s
  rw [bind_apply, bind_apply, attempt_apply, attempt_apply, andThen_ok, andThen_ok, ← hsession]
  exact hnext _ _ hagree _

/-- Scripts that are alike do the same. -/
theorem Script.Alike.run_matches {p q : Script} (h : Alike R p q) : Matches R p.run q.run := by
  induction h with
  | give h => exact fun s => ⟨.ok h, rfl⟩
  | fail f => exact fun s => ⟨.error f, rfl⟩
  | act _ ih =>
      intro s
      rw [run_act rfl, run_act rfl]
      exact ih _ _
  | use _ _ ihinside ih => exact (BlockId.use_matches ihinside _ _ _).bind ih
  | call _ _ ihinside ih =>
      rw [run_call, run_call]
      exact (Target.visit_matches ihinside _ _ _).bind ih

/-- Every script is like itself. -/
theorem Script.Alike.refl (p : Script) : Alike Eq p p := by
  induction p with
  | give v => exact .give rfl
  | fail f => exact .fail f
  | act d next ih => exact .act ih
  | use form b inside next ihinside ih =>
      refine .use ihinside fun outcome outcome' h => ?_
      rw [h.eq]
      exact ih outcome'

end

namespace Target

/-- All ways to match the next child of a cursor, or a tree, take one course.  If the block is not made or
does not open, the script is not called, and that is all.  Otherwise the script is called once, with the
cursor of the block, and the block is left with what came of that.  So all ways end in the same session
and fail with the same failures; and where they do not fail, one of them returns the node that was
matched, and the others what the script has returned.

From there it goes up through whole scripts: where two scripts differ in nothing but the ways of their
calls, at any depth, they end in the same session, and with the same failure or with values that differ
only where these calls make them differ. -/
theorem ways_agree :
    (∀ (target : Target) (inside : CursorId → Script) (s : Session),
      (∀ f t, target.begin s = (.error f, t) → ∀ w,
        target.visit w (fun c => (inside c).run) s = (.error f, t)) ∧
      (∀ b c t, target.begin s = (.ok (b, c), t) → ∃ n, target.node? s = some n ∧
        (∀ w, target.visit w (fun c => (inside c).run) s =
          ((b.leave ((inside c).run t).1 ((inside c).run t).2).1.map (w.answer n),
            (b.leave ((inside c).run t).1 ((inside c).run t).2).2)) ∧
        ∀ v, (b.leave ((inside c).run t).1 ((inside c).run t).2).1 = .ok v →
          ((inside c).run t).1 = .ok v) ∧
      ∀ w w', (target.visit w (fun c => (inside c).run) s).2 =
          (target.visit w' (fun c => (inside c).run) s).2 ∧
        ∀ f, (target.visit w (fun c => (inside c).run) s).1 = .error f ↔
          (target.visit w' (fun c => (inside c).run) s).1 = .error f) ∧
    ∀ R p q, Script.Alike R p q → ∀ s,
      Agree R (p.run s).1 (q.run s).1 ∧ (p.run s).2 = (q.run s).2 := by
  refine ⟨?_, fun R p q h => h.run_matches⟩
  intro target inside s
  refine ⟨fun f t h w => visit_of_error h w _, ?_, ?_⟩
  · intro b c t h
    obtain ⟨cursor, hcursor, hnode⟩ := node?_of_begin h
    exact ⟨cursor.node, hnode, visit_apply (inside c).keeps_grows h hcursor,
      fun v hv => (BlockId.eq_of_leave_ok hv).1⟩
  · intro w w'
    -- The ways differ, and the script inside is the same.
    have hinside : ∀ c, Matches Eq (inside c).run (inside c).run :=
      fun c => (Script.Alike.refl (inside c)).run_matches
    obtain ⟨hagree, hsession⟩ := target.visit_matches hinside w w' s
    exact ⟨hsession, hagree.error_iff⟩

/-- Matches the pair and its first child in given ways, and leaves the second child out. -/
def sampleCalls (outer inner : Way) : Script :=
  .call (.root Sample.config ⟨Sample.pair, false⟩ Sample.root) outer
    (fun c => .call (.child c ⟨Sample.leaf, false⟩) inner (fun _ => .give (.bool true)) fun
      | .ok _ => .give (.bool false)
      | .error f => .fail f) fun
    | .ok v => .give v
    | .error f => .fail f

theorem alike_sample (outer outer' inner inner' : Way) :
    Script.Alike (fun _ _ => True) (sampleCalls outer inner) (sampleCalls outer' inner') := by
  refine .call (Q := Eq) (fun c => .call (fun _ => .refl _) ?_) ?_
  · rintro _ _ (_ | f)
    · exact .refl _
    · exact .refl _
  · rintro _ _ (_ | f)
    · exact .give trivial
    · exact .fail f

/-- In the sample the second child is missed by all ways in the same words. -/
theorem ways_agree_sample :
    Script.Alike (fun _ _ => True) (sampleCalls .returning .enclosing)
        (sampleCalls .extracting .returning) ∧
      (∃ f, ((sampleCalls .returning .enclosing).run Sample.session).1 = .error f ∧
        ((sampleCalls .extracting .returning).run Sample.session).1 = .error f) ∧
      ((sampleCalls .returning .enclosing).run Sample.session).2 =
        ((sampleCalls .extracting .returning).run Sample.session).2 := by
  have halike := alike_sample .returning .extracting .enclosing .returning
  obtain ⟨hagree, hsession⟩ := ways_agree.2 _ _ _ halike Sample.session
  obtain ⟨f, hf⟩ : ∃ f, ((sampleCalls .returning .enclosing).run Sample.session).1 = .error f :=
    ⟨_, rfl⟩
  exact ⟨halike, ⟨f, hf, (hagree.error_iff f).mp hf⟩, hsession⟩

end Target

end TreeShape
