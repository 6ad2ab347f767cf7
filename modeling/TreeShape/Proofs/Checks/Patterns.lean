import TreeShape.Proofs.Activity.Attempts
import TreeShape.Proofs.Checks.Postorder
import TreeShape.Proofs.Shape.Following
import TreeShape.Proofs.Shape.Scripts

/-!
# Implicit checks are made in postorder

A block whose configuration has an implicit check makes it once, when its body has returned: after all
checks of the blocks inside it, and before its children are counted.  A block that does not open, or
whose body fails, makes none.

For patterns this says where checks are made.  One that matches checks all nodes at its positions, in
postorder.  One that fails checks those at the first of these positions and then stops; the nodes whose
bodies were running by then stand at later ones.

## Strategy

`Script.IsBracketed.checks_run` reads the checks off the blocks that were left; what remains is where
these blocks stand.  `Items.Walked` carries this through the items of a pattern and `Pattern.Walked`
through blocks, in the same induction, `Items.walks`.

* **A body that came through.**  Its block is the last one in the postorder of what is below: it is
  visited after all of them, and its own position follows theirs (`leave_through`).
* **A body that stopped.**  What was visited so far are the first positions, and the bodies that were
  running stand at later ones, each around the one before it.  The block itself joins these
  (`leave_stopped`), and every further item joins the positions that were never reached
  (`Items.Walked.of_stopped_child`).
* **Positions below a child** are positions below its parent, with one step more (`View.Shows.below`).
  As the positions of a pattern are all different, so are the nodes in a tree: `View.IsTree.apart`.
-/

namespace TreeShape

open Run

/-! ## Walks -/

/-- What is known of the cursor of a node that is matched where there are implicit checks. -/
structure Cursor.Walks (cursor : Cursor) (w : World) : Prop where
  usable : cursor.IsUsable
  implicit : cursor.config.implicit.isSome = true
  children : (cursor.config.view w).children cursor.node = cursor.children

/-- The blocks that are left, and what comes of it, when items are done to the children of a cursor. -/
inductive Items.Walked (items : Items) (s : Session) (c : CursorId) (cursor : Cursor) :
    List Visit → Except Failure Value → Session → Prop
  | through {visits : List Visit} {v : Value} {t : Session} :
      (cursor.config.view s.world).Shows cursor.node (items.positions cursor.next) [] visits →
      (cursor.ignoring = true → items = .done) → items.Spares → t.world = s.world →
      (∀ d old, d ≠ c → s.cursor? d = some old → t.cursor? d = some old) →
      Walked items s c cursor visits (.ok v) t
  | stopped {visits : List Visit} {f : Failure} {t : Session}
      {called later running : List (List Nat)} :
      items.positions cursor.next = called ++ later → running.Sublist later →
      (cursor.config.view s.world).Shows cursor.node called running visits →
      Walked items s c cursor visits (.error f) t

/-- The same when a node is matched with a pattern. -/
inductive Pattern.Walked (p : Pattern) (c : Config) (n : Node) (s : Session) :
    List Visit → Except Failure Value → Session → Prop
  | through {visits : List Visit} {v : Value} {t : Session} :
      (c.view s.world).Shows n p.positions [] visits → p.Spares → t.world = s.world →
      (∀ d old, s.cursor? d = some old → t.cursor? d = some old) →
      Walked p c n s visits (.ok v) t
  | stopped {visits : List Visit} {f : Failure} {t : Session}
      {called later running : List (List Nat)} :
      p.positions = called ++ later → running.Sublist later →
      (c.view s.world).Shows n called running visits →
      Walked p c n s visits (.error f) t

/-- The script of the items walks through them, wherever it is called. -/
def Items.Walks (items : Items) : Prop :=
  ∀ {c : CursorId} {s : Session} {cursor : Cursor}, s.cursor? c = some cursor →
    cursor.Walks s.world → items.Walked s c cursor ((items.script .enclosing c).visits s)
      ((items.script .enclosing c).run s).1 ((items.script .enclosing c).run s).2

/-- A failure before any block was left. -/
theorem Items.Walked.refused (items : Items) (s : Session) (c : CursorId) (cursor : Cursor)
    (f : Failure) (t : Session) : items.Walked s c cursor [] (.error f) t :=
  .stopped (List.nil_append _).symm (List.nil_sublist _) .nil

theorem Pattern.Walked.refused (p : Pattern) (c : Config) (n : Node) (s : Session) (f : Failure)
    (t : Session) : p.Walked c n s [] (.error f) t :=
  .stopped (List.nil_append _).symm (List.nil_sublist _) .nil

/-! ## Walking through a block -/

namespace BlockId

variable {r s : Session} {b : BlockId} {block : Block} {items : Items}

/-- The block that has just been left was there with its node. -/
theorem leaving_of_implicit {α : Type} (hb : s.block? b = some block)
    (hi : block.config.implicit.isSome = true) (outcome : Except Failure α) :
    s.leaving b outcome = [⟨block.node, true, outcome.isOk⟩] := by
  rw [Session.leaving, hb, ← hi]

/-- A body that stopped on its way is left by a failure. -/
theorem leave_stopped {t : Session} {c : CursorId} {cursor : Cursor}
    {called later running : List (List Nat)} {visits : List Visit} (hb : t.block? b = some block)
    (hc : block.cursor = some c) (hcursor : t.cursor? c = some cursor)
    (hitems : items.positions 0 = called ++ later) (hrunning : running.Sublist later)
    (hshows : (block.config.view s.world).Shows block.node called running visits) (f : Failure) :
    Pattern.Walked ⟨block.expected, items⟩ block.config block.node s
      (visits ++ [⟨block.node, true, false⟩]) (b.leave (.error f : Except Failure Value) t).1
      (b.leave (.error f : Except Failure Value) t).2 := by
  rw [leave_error hb hc hcursor f]
  refine .stopped ?_ (hrunning.append_right [[]]) hshows.abandon
  rw [Pattern.positions, hitems, List.append_assoc]

/-- A body that came through is followed by the check, which may fail, and by the count of children. -/
theorem leave_through {t : Session} {c : CursorId} {visits : List Visit}
    (hb : t.block? b = some block) (hc : block.cursor = some c) (hworld : t.world = s.world)
    (hshows : (block.config.view s.world).Shows block.node (items.positions 0) [] visits)
    (hspares : Pattern.Spares ⟨block.expected, items⟩)
    (hreleased : ∀ d old, s.cursor? d = some old →
      (t.release c block.parentCursor).cursor? d = some old) (v : Value) :
    Pattern.Walked ⟨block.expected, items⟩ block.config block.node s
      (visits ++ [⟨block.node, true, true⟩]) (b.leave (.ok v) t).1 (b.leave (.ok v) t).2 := by
  have hkept : (b.leave (.ok v) t).2.world = t.world :=
    (b.keeps_leave (R := fun s t => t.world = s.world) (.ok v)).after t
  have hframe := cursor?_leave hb hc (.ok v : Except Failure Value)
  rcases hleave : b.leave (.ok v) t with ⟨g | v', u⟩ <;> rw [hleave] at hkept hframe
  · exact .stopped (List.append_nil _).symm (List.nil_sublist _) hshows.finish
  · refine .through hshows.finish hspares (hkept.trans hworld) fun d old hd => ?_
    exact (hframe d).trans (hreleased d old hd)

/-- What comes of a block that has taken its node, and whose body is the script of some items. -/
theorem accept_walked (hitems : items.Walks) (hb : s.block? b = some block)
    (hopen : b.open r = b.accept block.node s)
    (hp : ∀ p, block.parentCursor = some p → ∃ cursor, s.cursor? p = some cursor ∧ cursor.IsUsable)
    (hi : block.config.implicit.isSome = true) :
    Pattern.Walked ⟨block.expected, items⟩ block.config block.node s
      (b.visits (fun c => (items.script .enclosing c).visits)
        (fun c => (items.script .enclosing c).run) r)
      (b.use .entered (fun c => (items.script .enclosing c).run) r).1
      (b.use .entered (fun c => (items.script .enclosing c).run) r).2 := by
  rcases accept_cases hb block.node with ⟨f, t, hf, -, -⟩ | ⟨e, children, -, hask, hok⟩
  · have hopen' := hopen.trans hf
    rw [visits_of_error hopen', Script.use_of_open_error hopen']
    exact .refused ..
  have hopen' := hopen.trans hok
  rw [visits_of_ok hopen', Script.use_apply hopen' rfl]
  have hblock := block?_attached (n := block.node) hb children e
  have hcursor := cursor?_attached_fresh (b := b) (n := block.node) children e hp
  have hattached : ((s.record e).attach b block block.node children).world = s.world :=
    Session.world_attach ..
  have hwalks : (block.cursorFor block.node children).Walks
      ((s.record e).attach b block block.node children).world := by
    rw [hattached]
    exact ⟨⟨rfl, rfl⟩, hi, View.children_of_ask hask⟩
  have hwalked := hitems hcursor hwalks
  have hgrows := ((items.script .enclosing s.freshCursor).evolves
    ((s.record e).attach b block block.node children)).grows
  obtain ⟨outcome, t, hrun⟩ : ∃ outcome t, (items.script .enclosing s.freshCursor).run
      ((s.record e).attach b block block.node children) = (outcome, t) := ⟨_, _, rfl⟩
  rw [hrun] at hwalked hgrows ⊢
  dsimp only at hwalked hgrows ⊢
  have hblock' := hgrows.block_eq hblock rfl
  rw [leaving_of_implicit hblock' hi]
  -- The body's walk decides whether the block's own check is reached.
  cases hwalked with
  | @stopped f _ _ _ _ hpositions hrunning hshows =>
      rw [hattached] at hshows
      obtain ⟨last, hlast, -⟩ := hgrows.cursor hcursor
      have hleft := leave_stopped hblock' rfl hlast hpositions hrunning hshows f
      exact hleft
  | @through v _ hshows hignoring hspares hworld hframe =>
      rw [hattached] at hshows hworld
      have hleft := leave_through hblock' rfl hworld hshows ⟨hignoring, hspares⟩
        (fun d old hd => cursor?_released hp hframe hd) v
      exact hleft

/-- A block that takes its node is matched with the pattern that these items make. -/
theorem walked {n : Node} {taken : Session} (hitems : items.Walks) (hb : s.block? b = some block)
    (hc : block.cursor = none) (ht : Takes s b block n taken)
    (hi : block.config.implicit.isSome = true) :
    Pattern.Walked ⟨block.expected, items⟩ block.config n taken
      (b.visits (fun c => (items.script .enclosing c).visits)
        (fun c => (items.script .enclosing c).run) s)
      (b.use .entered (fun c => (items.script .enclosing c).run) s).1
      (b.use .entered (fun c => (items.script .enclosing c).run) s).2 := by
  obtain ⟨htaken, -, -⟩ := takes_block hb ht
  obtain ⟨-, hparent⟩ := takes_change (R := Session.Changes) hb hc ht
  have hopen : b.open s = b.accept n taken := by
    rw [open_apply hb hc, takeNode_of_takes hb ht, andThen_ok]
  have hwalked := accept_walked hitems htaken hopen hparent hi
  exact hwalked

end BlockId

/-! ## Walking through items -/

namespace Items.Walked

variable {items rest : Items} {s t u : Session} {c : CursorId} {cursor : Cursor}
  {visits visits' : List Visit} {outcome : Except Failure Value}

/-- Once an item is done with, the others are left to walk through. -/
theorem after {next : Nat} {pre : List (List Nat)}
    (h : rest.Walked t c { cursor with next := next } visits' outcome u)
    (hshows : (cursor.config.view s.world).Shows cursor.node pre [] visits)
    (hpositions : items.positions cursor.next = pre ++ rest.positions next)
    (hignoring : cursor.ignoring = false) (hspares : rest.Spares → items.Spares)
    (hworld : t.world = s.world)
    (hframe : ∀ d old, d ≠ c → s.cursor? d = some old → t.cursor? d = some old) :
    items.Walked s c cursor (visits ++ visits') outcome u := by
  cases h with
  | through hshows' _ hspares' hworld' hframe' =>
      rw [hworld] at hshows' hworld'
      refine .through ?_ (fun h => absurd h (by simp [hignoring])) (hspares hspares') hworld'
        fun d old hd hold => hframe' d old hd (hframe d old hd hold)
      rw [hpositions]
      exact hshows.append hshows'
  | stopped hpositions' hrunning hshows' =>
      rw [hworld] at hshows'
      refine .stopped ?_ hrunning (hshows.append hshows')
      rw [hpositions, hpositions', List.append_assoc]

/-- A child that stops is the last thing that is matched. -/
theorem of_stopped_child {e : Expected} {inside : Items} {n : Node} {f : Failure}
    {called later running : List (List Nat)}
    (hn : ((cursor.config.view s.world).children cursor.node)[cursor.next]? = some n)
    (hpositions : Pattern.positions ⟨e, inside⟩ = called ++ later) (hrunning : running.Sublist later)
    (hshows : (cursor.config.view s.world).Shows n called running visits) :
    (Items.child e inside rest).Walked s c cursor visits (.error f) t := by
  have hsplit : (Items.child e inside rest).positions cursor.next =
      (Pattern.positions ⟨e, inside⟩).map (cursor.next :: ·) ++ rest.positions (cursor.next + 1) :=
    rfl
  have hrunning' : (running.map (cursor.next :: ·)).Sublist
      (later.map (cursor.next :: ·) ++ rest.positions (cursor.next + 1)) :=
    (hrunning.map _).trans (List.sublist_append_left ..)
  refine .stopped ?_ hrunning' (hshows.below hn)
  rw [hsplit, hpositions, List.map_append, List.append_assoc]

end Items.Walked

namespace Items

variable {inside rest : Items}

/-- Skipping children, then walking on. -/
theorem walks_skip (h : rest.Walks) (count : Nat) : (skip count rest).Walks := by
  intro c s cursor hc hw
  have hrun : (Deed.skip c count).run s = andThen (c.skip count s) fun _ => pure .done := bind_apply ..
  rcases hskip : c.skip count s with ⟨outcome, t⟩
  rw [hskip] at hrun
  rw [Items.script, Script.visits_act hrun, Script.run_act hrun]
  cases CursorId.skipping_of_eq hc hw.usable hskip with
  | ignored => exact .refused ..
  | tooFar => exact .refused ..
  | advanced hi hle hcursor hframe =>
      exact (h hcursor ⟨hw.usable, hw.implicit, hw.children⟩).after .nil rfl hi id rfl hframe

/-- Matching a child, then walking on. -/
theorem walks_child (hinside : inside.Walks) (h : rest.Walks) (e : Expected) :
    (child e inside rest).Walks := by
  intro c s cursor hc hw
  rcases c.childBlock_cases e s with ⟨f, hf⟩ | ⟨cursor', hc', -, hi, hok⟩
  · have hblock : (Target.child c e).block s = (.error f, s) := hf
    rw [Items.script, (Script.call_of_error hblock _).1, (Script.call_of_error hblock _).2]
    exact .refused ..
  rw [hc] at hc'
  cases hc'
  have hblock : (Target.child c e).block s = (.ok s.freshBlock, s.addBlock (c.blockFor cursor e)) :=
    hok
  have hb := s.block?_freshBlock (c.blockFor cursor e)
  have hcursor : (s.addBlock (c.blockFor cursor e)).cursor? c = some cursor := hc
  obtain ⟨outcome, t, huse⟩ : ∃ outcome t,
      s.freshBlock.use .entered (fun d => (inside.script .enclosing d).run)
        (s.addBlock (c.blockFor cursor e)) = (outcome, t) := ⟨_, _, rfl⟩
  rw [Items.script, (Script.call_enclosing hblock huse).1, (Script.call_enclosing hblock huse).2]
  -- A child that is missing stops the walk before its block is opened.
  cases hn : cursor.children[cursor.next]? with
  | none =>
      have hnext : ¬ (cursor.IsUsable ∧ cursor.next < cursor.children.length) := fun h =>
        absurd h.2 (Nat.not_lt.mpr (List.getElem?_eq_none_iff.mp hn))
      obtain ⟨f, hopen⟩ := BlockId.open_of_untakable hb rfl rfl hcursor hnext
      rw [Script.use_of_open_error hopen] at huse
      cases huse
      rw [BlockId.visits_of_error hopen]
      exact .refused ..
  | some n =>
      have hwalked := BlockId.walked hinside hb rfl (.child rfl hcursor hw.usable hn) hw.implicit
      rw [huse] at hwalked
      cases hwalked with
      | stopped hpositions hrunning hshows =>
          rw [Script.visits, List.append_nil]
          rw [← hw.children] at hn
          exact .of_stopped_child hn hpositions hrunning hshows
      | through hshows hspares hworld hframe =>
          obtain ⟨ht, hothers⟩ := Session.cursors_of_taken hc hframe
          have hworld' : t.world = s.world := hworld
          have hw' : Cursor.Walks { cursor with next := cursor.next + 1 } t.world := by
            rw [hworld']
            exact ⟨hw.usable, hw.implicit, hw.children⟩
          rw [← hw.children] at hn
          exact (h ht hw').after (hshows.below hn) rfl hi
            (fun h => ⟨hspares.1, hspares.2, h⟩) hworld' hothers

/-- Scripts of items walk through them. -/
theorem walks (items : Items) : items.Walks := by
  induction items with
  | done => exact fun _ _ => .through .nil (fun _ => rfl) trivial rfl fun _ _ _ hold => hold
  | skip count items ih => exact walks_skip ih count
  | child e inside items ihinside ih => exact walks_child ihinside ih e

end Items

namespace Pattern

/-- The script of a pattern walks through it. -/
theorem walked (p : Pattern) {c : Config} (hi : c.implicit.isSome = true) (root : Node) (s : Session) :
    p.Walked c root s ((p.script .enclosing c root).visits s)
      ((p.script .enclosing c root).run s).1 ((p.script .enclosing c root).run s).2 := by
  rcases c.matching_cases p.expected root s with ⟨f, hf⟩ | hok
  · have hblock : (Target.root c p.expected root).block s = (.error f, s) := hf
    rw [script, (Script.call_of_error hblock _).1, (Script.call_of_error hblock _).2]
    exact .refused ..
  have hblock : (Target.root c p.expected root).block s =
      (.ok s.freshBlock, s.addBlock (c.rootBlock p.expected [] root)) := hok
  have hb := s.block?_freshBlock (c.rootBlock p.expected [] root)
  have hwalked := BlockId.walked p.items.walks hb rfl (.root rfl) hi
  obtain ⟨outcome, t, huse⟩ : ∃ outcome t,
      s.freshBlock.use .entered (fun d => (p.items.script .enclosing d).run)
        (s.addBlock (c.rootBlock p.expected [] root)) = (outcome, t) := ⟨_, _, rfl⟩
  rw [huse] at hwalked
  rw [script, (Script.call_enclosing hblock huse).1, (Script.call_enclosing hblock huse).2]
  cases hwalked with
  | through hshows hspares hworld hframe =>
      rw [Script.visits, List.append_nil]
      exact .through hshows hspares hworld hframe
  | stopped hpositions hrunning hshows =>
      rw [Script.visits, List.append_nil]
      exact .stopped hpositions hrunning hshows

/-- What was left are the first positions, and a few later ones if the match fails. -/
theorem Walked.exists_positions {p : Pattern} {c : Config} {n : Node} {s t : Session}
    {visits : List Visit} {outcome : Except Failure Value} (h : p.Walked c n s visits outcome t) :
    ∃ called later running, p.positions = called ++ later ∧ running.Sublist later ∧
      (c.view s.world).Shows n called running visits ∧
      ∀ v, outcome = .ok v → later = [] ∧ running = [] ∧ p.Spares := by
  cases h with
  | through hshows hspares _ _ =>
      exact ⟨p.positions, [], [], (List.append_nil _).symm, List.nil_sublist _, hshows,
        fun _ _ => ⟨rfl, rfl, hspares⟩⟩
  | stopped hpositions hrunning hshows =>
      exact ⟨_, _, _, hpositions, hrunning, hshows, by simp⟩

/-- Positions where bodies were running are other positions than those where bodies had returned. -/
theorem nodup_walked {p : Pattern} {called later running : List (List Nat)}
    (h : p.positions = called ++ later) (hrunning : running.Sublist later) :
    (called ++ running).Nodup := by
  have hnodup := p.nodup_positions
  rw [h] at hnodup
  exact hnodup.sublist (hrunning.append_left called)

end Pattern

/-- In a tree the nodes at different positions are different. -/
theorem View.IsTree.apart {v : View} {root n : Node} (h : v.IsTree root)
    {called running : List (List Nat)} (hnodup : (called ++ running).Nodup) (hn : n ≠ .absent)
    {q q' : List Nat} (hq : q ∈ called) (hq' : q' ∈ running) (hat : v.at? root q = some n) :
    v.at? root q' ≠ some n := by
  intro hat'
  obtain rfl := h q q' n hat hat' hn
  exact (List.nodup_append.mp hnodup).2.2 q hq q hq' rfl

namespace Script

/-- Implicit checks are made in postorder, once for each block whose body has returned.

A block that does not open makes none, and one that has opened does not open again.  If the body of a
block fails, only the checks that were made inside it are made.  If it returns, that of the block's node
follows; and what the use of the block comes to is decided by this check, and by the count of children
only if it passes.  So the checks of a script that only uses blocks are those of the blocks that it
leaves, the inner ones before those around them.

A pattern makes its checks at the first of its positions, in whatever ways it is written as a script.
Bodies that a failure left stand at other positions, which in a tree are other nodes.  If the pattern
matches, it makes a check at each of its positions, and none of these is below a node whose children do
not matter. -/
theorem checks_in_postorder :
    (∀ (b : BlockId) (form : Use) (inside : CursorId → Script) (s : Session),
      (∀ f t, b.open s = (.error f, t) →
        (b.use form (fun c => (inside c).run) s).2.checks = s.checks) ∧
      ∀ c t, b.open s = (.ok c, t) → t.checks = s.checks ∧
        (∀ u, t.Evolves u → b.open u = (.error .reentered, u)) ∧
        (∀ f u, (inside c).run t = (.error f, u) →
          (b.use form (fun c => (inside c).run) s).2.checks = u.checks) ∧
        ∀ v u, (inside c).run t = (.ok v, u) → ∃ block cursor,
          u.block? b = some block ∧ u.cursor? c = some cursor ∧ cursor.node = block.node ∧
          ∀ check, block.config.implicit = some check →
            (b.use form (fun c => (inside c).run) s).2.checks = u.checks ++ [block.node] ∧
            (b.use form (fun c => (inside c).run) s).1 =
              cursor.closing u.world (check.run u.world block.node) v) ∧
    (∀ p : Script, p.IsBracketed → ∀ s,
      (p.run s).2.checks = s.checks ++ (p.visits s).filterMap Visit.check?) ∧
    ∀ (p : Pattern) (c : Config) (root : Node) (q : Script) (s : Session),
      c.implicit.isSome = true → Alike (fun _ _ => True) (p.script .enclosing c root) q →
      (q.run s).2 = (p.matchTree c root s).2 ∧ ∃ called later running,
        p.positions = called ++ later ∧ running.Sublist later ∧ (called ++ running).Nodup ∧
        (c.view s.world).Shows root called running (q.visits s) ∧
        (q.run s).2.checks.map some =
          s.checks.map some ++ called.map ((c.view s.world).at? root) ∧
        ((c.view s.world).IsTree root → ∀ n, n ≠ .absent → ∀ x ∈ called, ∀ y ∈ running,
          (c.view s.world).at? root x = some n → (c.view s.world).at? root y ≠ some n) ∧
        ∀ v, (q.run s).1 = .ok v → later = [] ∧ running = [] ∧ p.Spares := by
  refine ⟨?_, fun p hp s => hp.checks_run s, ?_⟩
  · -- One block: checked after its body, and only if the body came to a value.
    intro b form inside s
    have hchecks := b.checks_open s
    refine ⟨fun f t hopen => ?_, fun c t hopen => ?_⟩ <;> rw [hopen] at hchecks
    · rw [use_of_open_error hopen]
      exact hchecks
    · refine ⟨hchecks, fun u hu => ?_, fun f u hbody => checks_use_of_failed hopen hbody form, ?_⟩
      · obtain ⟨block, cursor, hb, hc, -⟩ := cursor_of_inside hopen hu.grows
        exact BlockId.open_of_cursor hb hc
      · intro v u hbody
        have hgrows := (inside c).keeps_grows.of_eq hbody
        obtain ⟨block, cursor, hb, hc, hcursor, hnode⟩ := cursor_of_inside hopen hgrows
        exact ⟨block, cursor, hb, hcursor, hnode, fun check hi =>
          use_of_returned hopen hbody hb hc hcursor hi form⟩
  · -- A pattern: the script of its items checks what it visits, and visits it in postorder.
    intro p c root q s hi halike
    obtain ⟨hagree, hsession⟩ := halike.run_matches s
    obtain ⟨-, hreturning⟩ := (p.alike_script .enclosing .returning c root).run_matches s
    have hmatch : (q.run s).2 = (p.matchTree c root s).2 := by
      rw [← hsession, hreturning, p.run_script, bind_apply]
      rcases p.matchTree c root s with ⟨_ | _, _⟩ <;> rfl
    have hchecks := (p.isBracketed_script c root).checks_run s
    obtain ⟨called, later, running, hpositions, hrunning, hshows, hthrough⟩ :=
      (p.walked hi root s).exists_positions
    rw [halike.visits_eq s] at hchecks hshows
    have hnodup := Pattern.nodup_walked hpositions hrunning
    refine ⟨hmatch, called, later, running, hpositions, hrunning, hnodup, hshows, ?_, ?_, ?_⟩
    · rw [← hsession, hchecks, List.map_append, hshows.checks]
    · exact fun htree n hn x hx y hy hat => htree.apart hnodup hn hx hy hat
    · intro v hv
      rw [hv] at hagree
      generalize ((p.script .enclosing c root).run s).1 = outcome at hagree hthrough
      cases hagree
      exact hthrough _ rfl

/-- The sample with an implicit check that no node fails. -/
def sampleConfig : Config := { Sample.config with implicit := some ⟨0, fun _ _ => .ok ()⟩ }

/-- A pair of leaves. -/
def samplePattern : Pattern :=
  ⟨⟨Sample.pair, false⟩, .child ⟨Sample.leaf, false⟩ .done (.child ⟨Sample.leaf, true⟩ .done .done)⟩

/-- The sample is matched by calls that return values.  Its leaves are checked first, then the pair. -/
theorem checks_in_postorder_sample :
    sampleConfig.implicit.isSome = true ∧
      Alike (fun _ _ => True) (samplePattern.script .enclosing sampleConfig Sample.root)
        (samplePattern.script .extracting sampleConfig Sample.root) ∧
      (samplePattern.matchTree sampleConfig Sample.root Sample.session).2.checks =
        [Sample.left, Sample.right, Sample.root] := by
  have halike := samplePattern.alike_script .enclosing .extracting sampleConfig Sample.root
  obtain ⟨hmatch, called, later, running, hpositions, -, -, -, hchecks, -, hthrough⟩ :=
    checks_in_postorder.2.2 samplePattern sampleConfig Sample.root _ Sample.session rfl halike
  obtain ⟨rfl, -, -⟩ := hthrough .nothing rfl
  rw [List.append_nil] at hpositions
  rw [hmatch, ← hpositions] at hchecks
  refine ⟨rfl, halike, List.map_injective_iff.mpr (fun _ _ => Option.some.inj)
    (hchecks.trans ?_)⟩
  rfl

end Script

end TreeShape
