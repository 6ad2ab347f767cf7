import TreeShape.Proofs.Activity.Nesting
import TreeShape.Proofs.Ways

/-!
# When implicit checks are made

The implicit check of a configuration is made when a block is left, and only then.  `Script.visits`
lists the blocks that a script leaves, in this order: a block comes after all blocks that were opened
inside it.

## Strategy

The trace of a session tells which nodes were checked, `Session.checks`.  Opening a block and the deeds
that are plain leave it as it is, and leaving a block adds the block's node if the body returned and
there is a check to make, `checks_leave`; locating a failure or counting children adds nothing.  Where
blocks are only used, the checks that a run makes can therefore be read off the list, one for each block
whose body has returned and none for the others: `Script.IsBracketed.checks_run`, by induction over the
script.  In which of the ways calls match makes no difference for it, `Script.Alike.visits_eq`.
-/

namespace TreeShape

open Run

/-! ## Steps that check nothing -/

namespace Session

variable (s : Session)

theorem checks_attach (b : BlockId) (block : Block) (n : Node) (children : List Node) :
    (s.attach b block n children).checks = s.checks := by
  unfold attach
  cases block.parentCursor <;> rfl

theorem checks_release (c : CursorId) (parent : Option CursorId) :
    (s.release c parent).checks = s.checks := by
  unfold release
  cases parent <;> rfl

end Session

theorem BlockId.checks_open (b : BlockId) (s : Session) : (b.open s).2.checks = s.checks := by
  cases hb : s.block? b with
  | none => rw [open_of_missing hb]
  | some block =>
      cases hc : block.cursor with
      | some c => rw [open_of_cursor hb hc]
      | none =>
          rw [open_apply hb hc]
          rcases takeNode_cases hb with ⟨f, hf⟩ | ⟨n, taken, hn, ht⟩
          · rw [hf, andThen_error]
          have htaken : taken.checks = s.checks := by cases ht <;> rfl
          rw [hn, andThen_ok]
          rcases accept_cases (takes_block hb ht).1 n with
            ⟨f, t, hf, -, hchecks⟩ | ⟨e, children, hcheck, -, hok⟩
          · rw [hf]
            exact hchecks.trans htaken
          · rw [hok]
            show ((taken.record e).attach b _ n children).checks = s.checks
            rw [Session.checks_attach, Session.checks_record, hcheck, Option.toList_none,
              List.append_nil, htaken]

theorem Deed.IsPlain.checks_run {d : Deed} (hd : d.IsPlain) (s : Session) :
    (d.run s).2.checks = s.checks := by
  have houtcome := hd.outcome s
  generalize d.run s = r at houtcome ⊢
  cases houtcome <;> rfl

/-! ## Leaving -/

/-- A block that is left. -/
structure Visit where
  node : Node
  /-- Whether the configuration of the block has an implicit check. -/
  implicit : Bool
  /-- Whether the body returned, and was not left by a failure. -/
  returned : Bool
  deriving DecidableEq, Repr

/-- The node that is checked on leaving. -/
def Visit.check? (v : Visit) : Option Node := if v.implicit && v.returned then some v.node else none

/-- The visit that ends when a block is left with what its body has come to. -/
def Session.leaving {α : Type} (s : Session) (b : BlockId) (outcome : Except Failure α) : List Visit :=
  match s.block? b with
  | none => []
  | some block => [⟨block.node, block.config.implicit.isSome, outcome.isOk⟩]

namespace BlockId

variable {α : Type} {s t : Session} {b : BlockId} {block : Block} {c : CursorId} {cursor : Cursor}

/-- Locating a failure checks nothing. -/
theorem checks_locating {x : Run α} {outcome : Except Failure α} (hx : x s = (outcome, t))
    (hb : t.block? b = some block) (hc : block.cursor = some c) (hcursor : t.cursor? c = some cursor) :
    (b.locating x s).2.checks = t.checks := by
  cases outcome with
  | ok a => rw [locating_of_ok hx]
  | error f =>
      cases hwants : f.wantsLocation with
      | false => rw [locating_of_other hx hwants]
      | true =>
          rw [locating_of_assertion hx hwants hb hc hcursor, Session.checks_record]
          exact List.append_nil _

/-- Once the implicit check is made, the count of children adds none. -/
theorem checks_close {check : ImplicitCheck} (hb : s.block? b = some block) (hc : block.cursor = some c)
    (hcursor : s.cursor? c = some cursor) (hi : block.config.implicit = some check) :
    (b.close s).2.checks = s.checks ++ [block.node] := by
  have hcheck := checkImplicit_apply hb hi
  have hlocating := checks_locating hcheck hb hc hcursor
  rw [Session.checks_record] at hlocating
  rw [close, bind_apply]
  cases houtcome : check.run s.world block.node with
  -- Counting the children records nothing.
  | ok _ =>
      rw [houtcome] at hcheck
      have hb' : (s.record (.checked block.node)).block? b = some block := hb
      have hcursor' : (s.record (.checked block.node)).cursor? c = some cursor := hcursor
      rw [locating_of_ok hcheck, andThen_ok, bind_apply, cursor_apply hb' hc, andThen_ok,
        CursorId.checkChildCount_apply hcursor', Session.checks_record]
      rfl
  | error f =>
      have hfails : ∃ g u, b.locating b.checkImplicit s = (.error g, u) := by
        rw [houtcome] at hcheck
        cases hwants : f.wantsLocation with
        | false => exact ⟨_, _, locating_of_other hcheck hwants⟩
        | true => exact ⟨_, _, locating_of_assertion hcheck hwants hb hc hcursor⟩
      obtain ⟨g, u, hfails⟩ := hfails
      rw [hfails] at hlocating ⊢
      exact hlocating

/-- Leaving a block checks its node if the body returned and there is something to check. -/
theorem checks_leave (hb : s.block? b = some block) (hc : block.cursor = some c)
    (hcursor : s.cursor? c = some cursor) (outcome : Except Failure α) :
    (b.leave outcome s).2.checks =
      s.checks ++ (s.leaving b outcome).filterMap Visit.check? := by
  rw [leave_snd, exit_apply hb hc, Session.checks_release, Session.leaving, hb]
  cases outcome with
  | error f =>
      -- A failure of the body is located, and nothing is checked.
      have hconclude : (b.conclude (some f) s).2.checks = s.checks := by
        unfold conclude
        dsimp only
        split
        · exact checks_locating (throw_apply f s) hb hc hcursor
        · rfl
      rw [failure?, hconclude]
      simp [Visit.check?, Except.isOk, Except.toBool]
  | ok a =>
      cases hi : block.config.implicit with
      | none =>
          rw [failure?, conclude, close_apply hb hc hi hcursor]
          simp [Visit.check?, hi]
      | some check =>
          rw [failure?, conclude, checks_close hb hc hcursor hi]
          simp [Visit.check?, hi, Except.isOk, Except.toBool]

end BlockId

/-- What comes of a body that has returned: the implicit check decides, and if it passes, the count of
children. -/
def Cursor.closing (cursor : Cursor) (w : World) (checked : Except Failure Unit) (v : Value) :
    Except Failure Value :=
  match checked with
  | .error f => .error (cursor.settle w f)
  | .ok () =>
    if cursor.ignoring || cursor.next == cursor.children.length then .ok v
    else cursor.config.mismatch w cursor.path (.childCount cursor.next cursor.children.length)

/-! ## Scripts -/

/-- The blocks that are left while a block is used: those inside it, and then the block itself.  A block
that does not open is not there to be left. -/
def BlockId.visits {α : Type} (b : BlockId) (inside : CursorId → Session → List Visit)
    (body : CursorId → Run α) (s : Session) : List Visit :=
  match b.open s with
  | (.error _, _) => []
  | (.ok c, t) => inside c t ++ (body c t).2.leaving b (body c t).1

theorem BlockId.visits_of_error {α : Type} {b : BlockId} {s t : Session} {f : Failure}
    (h : b.open s = (.error f, t)) (inside : CursorId → Session → List Visit)
    (body : CursorId → Run α) : b.visits inside body s = [] := by
  rw [visits, h]

theorem BlockId.visits_of_ok {α : Type} {b : BlockId} {s t : Session} {c : CursorId}
    (h : b.open s = (.ok c, t)) (inside : CursorId → Session → List Visit)
    (body : CursorId → Run α) :
    b.visits inside body s = inside c t ++ (body c t).2.leaving b (body c t).1 := by
  rw [visits, h]

namespace Script

/-- The blocks that a script leaves when it is run, in this order. -/
def visits : Script → Session → List Visit
  | give _, _ => []
  | fail _, _ => []
  | act d next, s => (next (d.run s).1).visits (d.run s).2
  | use form b inside next, s =>
    b.visits (fun c => (inside c).visits) (fun c => (inside c).run) s ++
      (next (b.use form (fun c => (inside c).run) s).1).visits
        (b.use form (fun c => (inside c).run) s).2

variable {form : Use} {b : BlockId} {inside : CursorId → Script}
  {next : Except Failure Value → Script} {s t : Session}

theorem visits_act {d : Deed} {next : Except Failure Reply → Script} {reply : Except Failure Reply}
    (h : d.run s = (reply, t)) : (act d next).visits s = (next reply).visits t := by
  rw [visits, h]

theorem visits_use {outcome : Except Failure Value}
    (h : b.use form (fun c => (inside c).run) s = (outcome, t)) :
    (use form b inside next).visits s =
      b.visits (fun c => (inside c).visits) (fun c => (inside c).run) s ++
        (next outcome).visits t := by
  rw [visits, h]

/-- A block that is open keeps its cursor, which stands at its node. -/
theorem cursor_of_inside {c : CursorId} {u : Session} (h : b.open s = (.ok c, t)) (hu : t.Grows u) :
    ∃ block cursor, u.block? b = some block ∧ block.cursor = some c ∧ u.cursor? c = some cursor ∧
      cursor.node = block.node := by
  obtain ⟨block, n, children, taken, -, -, -, -, hblock, hcursor, -⟩ := BlockId.cursor_of_open h
  obtain ⟨later, hlater, hgrown⟩ := hu.cursor hcursor
  exact ⟨_, later, hu.block_eq hblock rfl, rfl, hlater, hgrown.node⟩

/-- What is checked while a block is used are the nodes of the blocks that are left meanwhile. -/
theorem checks_use (hinside : ∀ c t, ((inside c).run t).2.checks =
      t.checks ++ ((inside c).visits t).filterMap Visit.check?) (form : Use) (b : BlockId)
    (s : Session) : (b.use form (fun c => (inside c).run) s).2.checks =
      s.checks ++ (b.visits (fun c => (inside c).visits) (fun c => (inside c).run) s).filterMap
        Visit.check? := by
  have hchecks := b.checks_open s
  rcases hopen : b.open s with ⟨f | c, t⟩ <;> rw [hopen] at hchecks
  · rw [use_of_open_error hopen, BlockId.visits_of_error hopen, hchecks]
    exact (List.append_nil _).symm
  · obtain ⟨block, cursor, hb, hc, hcursor, -⟩ :=
      cursor_of_inside hopen ((inside c).keeps_grows.after t)
    have hleave := BlockId.checks_leave hb hc hcursor ((inside c).run t).1
    rw [use_apply hopen rfl, BlockId.visits_of_ok hopen, hleave, hinside, hchecks]
    simp only [List.filterMap_append, List.append_assoc]

/-- The checks that a script makes are those of the blocks that it leaves. -/
theorem IsBracketed.checks_run {p : Script} (hp : p.IsBracketed) (s : Session) :
    (p.run s).2.checks = s.checks ++ (p.visits s).filterMap Visit.check? := by
  induction p generalizing s with
  | give v => exact (List.append_nil _).symm
  | fail f => exact (List.append_nil _).symm
  | act d next ih =>
      obtain ⟨hplain, hnext⟩ := hp
      have hrun : (act d next).run s = (next (d.run s).1).run (d.run s).2 := run_act rfl
      rw [hrun, visits, ih _ (hnext _), hplain.checks_run]
  | use form b inside next ihinside ih =>
      obtain ⟨hinside, hnext⟩ := hp
      have hused := checks_use (fun c t => ihinside c (hinside c) t) form b s
      obtain ⟨outcome, t, huse⟩ :
          ∃ outcome t, b.use form (fun c => (inside c).run) s = (outcome, t) := ⟨_, _, rfl⟩
      rw [huse] at hused
      rw [run_use huse, visits_use huse, ih _ (hnext _), hused, List.filterMap_append,
        List.append_assoc]

/-! ## The use of a block -/

section

variable {c : CursorId} {u : Session} {block : Block} {cursor : Cursor}

/-- A body that failed is followed by no check. -/
theorem checks_use_of_failed {f : Failure} (hopen : b.open s = (.ok c, t))
    (hbody : (inside c).run t = (.error f, u)) (form : Use) :
    (b.use form (fun c => (inside c).run) s).2.checks = u.checks := by
  have hgrows := (inside c).keeps_grows.of_eq hbody
  obtain ⟨block, cursor, hb, hc, hcursor, -⟩ := cursor_of_inside hopen hgrows
  rw [use_apply hopen hbody, BlockId.checks_leave hb hc hcursor, Session.leaving, hb]
  simp [Visit.check?, Except.isOk, Except.toBool]

/-- A body that returned is followed by one check, and only then are the children counted. -/
theorem use_of_returned {v : Value} {check : ImplicitCheck} (hopen : b.open s = (.ok c, t))
    (hbody : (inside c).run t = (.ok v, u)) (hb : u.block? b = some block)
    (hc : block.cursor = some c) (hcursor : u.cursor? c = some cursor)
    (hi : block.config.implicit = some check) (form : Use) :
    (b.use form (fun c => (inside c).run) s).2.checks = u.checks ++ [block.node] ∧
      (b.use form (fun c => (inside c).run) s).1 =
        cursor.closing u.world (check.run u.world block.node) v := by
  rw [use_apply hopen hbody]
  constructor
  · rw [BlockId.checks_leave hb hc hcursor, Session.leaving, hb]
    simp [Visit.check?, hi, Except.isOk, Except.toBool]
  · cases hchecked : check.run u.world block.node with
    | error f => exact BlockId.leave_of_implicit hb hc hcursor hi hchecked v
    | ok _ => exact BlockId.leave_of_passed hb hc hcursor hi hchecked v

end

/-! ## Calls -/

section

variable {target : Target}

/-- A call that makes no block goes on at once. -/
theorem call_of_error {f : Failure} (h : target.block s = (.error f, t)) (w : Way) :
    (call target w inside next).run s = (next (.error f)).run t ∧
      (call target w inside next).visits s = (next (.error f)).visits t := by
  have hdeed : target.deed.run s = (.error f, t) := by
    rw [target.deed_run, bind_apply, h, andThen_error]
  exact ⟨run_act hdeed, visits_act hdeed⟩

/-- A call uses the block that it makes. -/
theorem call_of_ok (h : target.block s = (.ok b, t)) (w : Way) :
    (call target w inside next).run s = (use w.form b (insideOf w inside) next).run t ∧
      (call target w inside next).visits s = (use w.form b (insideOf w inside) next).visits t := by
  have hdeed : target.deed.run s = (.ok (.block b), t) := by
    rw [target.deed_run, bind_apply, h, andThen_ok]
    rfl
  exact ⟨run_act hdeed, visits_act hdeed⟩

/-- Enclosing a script in a block leaves the blocks that the use of the block leaves. -/
theorem call_enclosing {outcome : Except Failure Value} {u : Session}
    (h : target.block s = (.ok b, t))
    (huse : b.use .entered (fun c => (inside c).run) t = (outcome, u)) :
    (call target .enclosing inside next).run s = (next outcome).run u ∧
      (call target .enclosing inside next).visits s =
        b.visits (fun c => (inside c).visits) (fun c => (inside c).run) t ++
          (next outcome).visits u := by
  constructor
  · exact (call_of_ok h .enclosing).1.trans (run_use huse)
  · exact (call_of_ok h .enclosing).2.trans (visits_use huse)

end

/-! ## Scripts that are alike -/

theorem visits_bind (p : Script) (k : Value → Script) (hk : ∀ v t, (k v).visits t = [])
    (s : Session) : (p.bind k).visits s = p.visits s := by
  induction p generalizing s with
  | give v => exact hk v s
  | fail f => rfl
  | act d next ih => exact ih _ _
  | use form b inside next _ ih => exact congrArg _ (ih _ _)

theorem visits_tellNode (c : CursorId) (s : Session) : (tellNode c).visits s = [] := by
  rw [tellNode, visits_act (rfl : Deed.look.run s = (.ok (.session s), s))]
  dsimp only
  split <;> rfl

theorem visits_insideOf (w : Way) (inside : CursorId → Script) (c : CursorId) (s : Session) :
    (insideOf w inside c).visits s = (inside c).visits s := by
  cases w with
  | returning => exact visits_bind _ _ (fun _ t => visits_tellNode c t) s
  | extracting => rfl
  | enclosing => rfl

/-- A block whose insides leave the same blocks is left in the same way, and so is what comes after it. -/
theorem visits_use_congr {R : Value → Value → Prop} {form' : Use} {inside' : CursorId → Script}
    {next' : Except Failure Value → Script}
    (hinside : ∀ c t, b.open s = (.ok c, t) →
      Agree R ((inside c).run t).1 ((inside' c).run t).1 ∧
      ((inside c).run t).2 = ((inside' c).run t).2 ∧ (inside c).visits t = (inside' c).visits t)
    (hnext : ∀ outcome outcome' t, Agree R outcome outcome' →
      (next outcome).visits t = (next' outcome').visits t) :
    (use form b inside next).visits s = (use form' b inside' next').visits s := by
  rcases hopen : b.open s with ⟨f | c, t⟩
  · rw [visits_use (use_of_open_error hopen), visits_use (use_of_open_error hopen),
      BlockId.visits_of_error hopen, BlockId.visits_of_error hopen, hnext _ _ t (.error f)]
  · obtain ⟨hagree, hsession, hvisits⟩ := hinside c t hopen
    have hleaving : ((inside c).run t).2.leaving b ((inside c).run t).1 =
        ((inside' c).run t).2.leaving b ((inside' c).run t).1 := by
      rw [hsession]
      generalize ((inside c).run t).1 = outcome at hagree
      generalize ((inside' c).run t).1 = outcome' at hagree
      cases hagree <;> rfl
    obtain ⟨hleft, hsession'⟩ := hagree.leave b ((inside c).run t).2
    have huse : b.use form (fun c => (inside c).run) s =
        b.leave ((inside c).run t).1 ((inside c).run t).2 := use_apply hopen rfl
    have huse' : b.use form' (fun c => (inside' c).run) s =
        b.leave ((inside' c).run t).1 ((inside c).run t).2 := by
      rw [hsession]
      exact use_apply hopen rfl
    rw [visits, visits, huse, huse', BlockId.visits_of_ok hopen, BlockId.visits_of_ok hopen, hvisits,
      hleaving, hsession', hnext _ _ _ hleft]

/-- Scripts that are alike leave the same blocks. -/
theorem Alike.visits_eq {R : Value → Value → Prop} {p q : Script} (h : Alike R p q) (s : Session) :
    p.visits s = q.visits s := by
  induction h generalizing s with
  | give => rfl
  | fail => rfl
  | act _ ih => exact ih _ _
  | use hinside hnext ihinside ih =>
      refine visits_use_congr (fun c t _ => ?_) fun outcome outcome' t hagree => ih _ _ hagree t
      obtain ⟨hagree, hsession⟩ := (hinside c).run_matches t
      exact ⟨hagree, hsession, ihinside c t⟩
  | @call R Q target w w' inside inside' next next' hinside hnext ihinside ih =>
      have hnext : ∀ outcome outcome' t, Agree (w.Relates w' Q) outcome outcome' →
          (next outcome).visits t = (next' outcome').visits t :=
        fun outcome outcome' t hagree => ih _ _ hagree t
      rcases hblock : target.block s with ⟨f | b, t⟩
      · rw [(call_of_error hblock w).2, (call_of_error hblock w').2]
        exact hnext _ _ t (.error f)
      · rw [(call_of_ok hblock w).2, (call_of_ok hblock w').2]
        refine visits_use_congr (fun c u hopen => ?_) hnext
        -- The ways only put something around the script inside, which checks nothing itself.
        obtain ⟨block, cursor, -, -, hcursor⟩ := BlockId.openCursor?_of_open hopen
        obtain ⟨hagree, hsession⟩ := (hinside c).run_matches u
        have hrun := congrFun (congrFun (run_insideOf w inside) c) u
        have hrun' := congrFun (congrFun (run_insideOf w' inside') c) u
        rw [w.around_apply (inside c).keeps_grows hcursor] at hrun
        rw [w'.around_apply (inside' c).keeps_grows hcursor] at hrun'
        rw [hrun, hrun', visits_insideOf, visits_insideOf, ihinside c u]
        exact ⟨hagree.answers w w' cursor.node, hsession, rfl⟩

end Script

end TreeShape
