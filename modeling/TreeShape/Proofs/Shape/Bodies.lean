import TreeShape.Proofs.Shape.Following

/-!
# Bodies made of items

Doing nothing, skipping children and then going on, matching a child and then going on: bodies made in
these ways follow the items of a pattern that are made in the same ways.  There is one lemma for each,
`FollowsAt.pure`, `FollowsAt.skip` and `FollowsAt.child`; what is matched inside a child is a body that
follows the items of the child, of which nothing else is used.
-/

namespace TreeShape

open Run

namespace Items.Followed

variable {α : Type} {items rest : Items} {root : Node} {s t : Session} {c : CursorId}
  {cursor : Cursor}

/-- A cursor whose children do not matter fails at the first item. -/
theorem of_ignoring {β : Type} {f : Failure} (hw : cursor.Watches s.world root)
    (hi : cursor.ignoring = true) (hitems : items ≠ .done)
    (hf : (cursor.config.misuse s.world cursor.path .childrenIgnored : Except Failure β) =
      .error f) : items.Followed root s c cursor (.error f : Except Failure α) t := by
  obtain ⟨g, hg, hverdict⟩ := Config.misuse_verdict (α := β) hw.below_path .childrenIgnored
    (fun h : ∃ rest, items.CutsUnless true (cursor.config.view s.world) cursor.node
      (cursor.children.drop cursor.next) rest => hitems h.choose_spec)
    (show items.MisusesIf true (cursor.config.view s.world) cursor.node
      (cursor.children.drop cursor.next) from hitems)
  rw [hf] at hg
  cases hg
  refine .failed ?_
  rw [hi]
  exact hverdict

/-- A cursor fails where there are too few children for the items. -/
theorem of_mismatch {β : Type} {reason : Mismatch} {f : Failure} (hw : cursor.Watches s.world root)
    (hi : cursor.ignoring = false)
    (hf : (cursor.config.mismatch s.world cursor.path reason : Except Failure β) = .error f)
    (hcuts : ∀ nodes, ¬ items.Cuts (cursor.config.view s.world) cursor.node
      (cursor.children.drop cursor.next) nodes)
    (hmisuses : ¬ items.Misuses (cursor.config.view s.world) cursor.node
      (cursor.children.drop cursor.next)) :
    items.Followed root s c cursor (.error f : Except Failure α) t := by
  obtain ⟨g, hg, hverdict⟩ := Config.mismatch_verdict (α := β) hw.below_path reason
    (fun h : ∃ rest, items.CutsUnless false (cursor.config.view s.world) cursor.node
      (cursor.children.drop cursor.next) rest => hcuts _ h.choose_spec)
    (fun h : items.MisusesIf false (cursor.config.view s.world) cursor.node
      (cursor.children.drop cursor.next) => hmisuses h)
  rw [hf] at hg
  cases hg
  refine .failed ?_
  rw [hi]
  exact hverdict

/-- Once an item is done with, the others are left to follow. -/
theorem of_rest {next : Nat} {outcome : Except Failure α} {u : Session}
    (h : rest.Followed root t c { cursor with next := next } outcome u)
    (hi : cursor.ignoring = false) (hworld : t.world = s.world)
    (hframe : ∀ d old, d ≠ c → s.cursor? d = some old → t.cursor? d = some old)
    (hcuts : ∀ nodes, items.Cuts (cursor.config.view s.world) cursor.node
        (cursor.children.drop cursor.next) nodes ↔
      rest.Cuts (cursor.config.view s.world) cursor.node (cursor.children.drop next) nodes)
    (hmisuses : items.Misuses (cursor.config.view s.world) cursor.node
        (cursor.children.drop cursor.next) ↔
      rest.Misuses (cursor.config.view s.world) cursor.node (cursor.children.drop next)) :
    items.Followed root s c cursor outcome u := by
  cases h with
  | cut hle hcut hcursor hframe' =>
      rw [hworld] at hcut
      dsimp only at hle hcut hcursor
      rw [hi] at hcut
      refine .cut hle ?_ hcursor fun d old hd hold => hframe' d old hd (hframe d old hd hold)
      rw [hi]
      exact (hcuts _).mpr hcut
  | failed hverdict =>
      rw [hworld] at hverdict
      dsimp only at hverdict
      refine .failed ?_
      rw [hi] at hverdict ⊢
      exact hverdict.imp (Exists.imp fun nodes => (hcuts nodes).mp) hmisuses

/-- A child that there is. -/
theorem drop_eq_cons {n : Node} (hn : cursor.children[cursor.next]? = some n) :
    cursor.children.drop cursor.next = n :: cursor.children.drop (cursor.next + 1) := by
  obtain ⟨hlt, hget⟩ := List.getElem?_eq_some_iff.mp hn
  rw [List.drop_eq_getElem_cons hlt, hget]

/-- A child conforms, and the other items are left to follow. -/
theorem of_child {e : Expected} {inside : Items} {n : Node} {outcome : Except Failure α}
    {u : Session} (h : rest.Followed root t c { cursor with next := cursor.next + 1 } outcome u)
    (hi : cursor.ignoring = false) (hworld : t.world = s.world)
    (hframe : ∀ d old, d ≠ c → s.cursor? d = some old → t.cursor? d = some old)
    (hn : cursor.children[cursor.next]? = some n)
    (hconforms : Pattern.Conforms ⟨e, inside⟩ (cursor.config.view s.world) (some cursor.node) n) :
    (Items.child e inside rest).Followed root s c cursor outcome u := by
  refine of_rest h hi hworld hframe ?_ ?_
  · intro nodes
    rw [drop_eq_cons hn, cuts_child_cons]
    exact and_iff_right hconforms
  · rw [drop_eq_cons hn, misuses_child_cons]
    constructor
    · rintro (h | ⟨-, h⟩)
      · exact absurd h hconforms.not_misuses
      · exact h
    · exact fun h => .inr ⟨hconforms, h⟩

/-- A child does not conform, and that is the end of it. -/
theorem of_failed_child {e : Expected} {inside : Items} {n : Node} {f : Failure}
    (hi : cursor.ignoring = false) (hn : cursor.children[cursor.next]? = some n)
    (hf : Verdict cursor.config s.world root
      (Pattern.Conforms ⟨e, inside⟩ (cursor.config.view s.world) (some cursor.node) n)
      (Pattern.Misuses ⟨e, inside⟩ (cursor.config.view s.world) (some cursor.node) n) f) :
    (Items.child e inside rest).Followed root s c cursor (.error f : Except Failure α) t := by
  have hnot := hf.not_conforms
  refine .failed ?_
  rw [hi, drop_eq_cons hn]
  refine hf.imp (fun h => (cuts_child_cons.mp h.choose_spec).1) ?_
  refine misuses_child_cons.trans ⟨?_, .inl⟩
  rintro (h | ⟨h, -⟩)
  · exact h
  · exact absurd h hnot

end Items.Followed

section

variable {α : Type} {s : Session} {c : CursorId} {cursor : Cursor} {root : Node}

/-- A block for a child that there is not cannot be opened. -/
theorem CursorId.within_of_missing (body : CursorId → Run α) (e : Expected)
    (hc : s.cursor? c = some cursor) (hu : cursor.IsUsable)
    (hn : cursor.children[cursor.next]? = none) :
    ∃ f, (cursor.config.mismatch s.world cursor.path (.missingChild cursor.next) :
          Except Failure Node) = .error f ∧
      s.freshBlock.within body (s.addBlock (c.blockFor cursor e)) =
        (.error f, s.addBlock (c.blockFor cursor e)) := by
  have hb := s.block?_freshBlock (c.blockFor cursor e)
  obtain ⟨f, hf⟩ := Config.exists_mismatch_eq (α := Node) cursor.config s.world cursor.path
    (.missingChild cursor.next)
  have htake : s.freshBlock.takeNode (s.addBlock (c.blockFor cursor e)) =
      (.error f, s.addBlock (c.blockFor cursor e)) := by
    rw [BlockId.takeNode_of_child hb rfl hc hu, hn]
    exact congrArg (·, _) hf
  refine ⟨f, hf, ?_⟩
  rw [BlockId.within_eq, bind_apply, BlockId.open_apply hb rfl, htake, andThen_error, andThen_error]

/-- The block that a cursor makes for one of its children waits for this child. -/
theorem CursorId.awaits_blockFor {n : Node} (hw : cursor.Watches s.world root)
    (hn : cursor.children[cursor.next]? = some n) (c : CursorId) (e : Expected) :
    (c.blockFor cursor e).Awaits s.world root n := by
  refine ⟨hw.implicit, View.below_of_ask hw.below hw.asked (List.mem_of_getElem? hn), ?_⟩
  intro p hp
  rw [CursorId.blockFor, hw.path] at hp
  cases hp
  exact ⟨hw.below, _, hw.asked⟩

/-- A block for a child that there is matches this child. -/
theorem CursorId.visited_child {body : CursorId → Run α} {inside : Items} {n : Node}
    (hbody : Follows body inside) (e : Expected) (hc : s.cursor? c = some cursor)
    (hu : cursor.IsUsable) (hw : cursor.Watches s.world root)
    (hn : cursor.children[cursor.next]? = some n) :
    Pattern.Visited ⟨e, inside⟩ cursor.config (some cursor.node) root n
      ((s.addBlock (c.blockFor cursor e)).take s.freshBlock c n)
      (s.freshBlock.within body (s.addBlock (c.blockFor cursor e))).1
      (s.freshBlock.within body (s.addBlock (c.blockFor cursor e))).2 := by
  have hb := s.block?_freshBlock (c.blockFor cursor e)
  have hvisited := BlockId.visited hbody hb rfl (.child rfl hc hu hn) (c.awaits_blockFor hw hn e)
  rw [show (c.blockFor cursor e).parentPath = cursor.path from rfl, hw.path] at hvisited
  exact hvisited

end

namespace FollowsAt

variable {α β : Type} {c : CursorId} {items : Items}

theorem pure (a : α) : FollowsAt c (Pure.pure a) .done := by
  refine ⟨keeps_pure a, ?_⟩
  intro s cursor root hc hu hw
  refine .cut hw.next ?_ hc fun d old _ hold => hold
  unfold Items.CutsUnless
  split <;> rfl

/-- Skipping children, then going on. -/
theorem skip {x : Run α} (h : FollowsAt c x items) (count : Nat) :
    FollowsAt c (do c.skip count; x) (.skip count items) := by
  refine ⟨(c.keeps_skip count).bind fun _ => h.keeps, ?_⟩
  intro s cursor root hc hu hw
  rw [bind_apply]
  rcases hskip : c.skip count s with ⟨outcome, t⟩
  -- The cursor compares with all children, the items with those that are left.
  have hleft : (cursor.children.drop cursor.next).length = cursor.children.length - cursor.next :=
    List.length_drop
  have hnext := hw.next
  cases CursorId.skipping_of_eq hc hu hskip with
  | ignored hi hf =>
      rw [andThen_error]
      exact .of_ignoring hw hi (by simp) hf
  | tooFar hi hlen hf =>
      have hcount : ¬ count ≤ (cursor.children.drop cursor.next).length := by omega
      rw [andThen_error]
      exact .of_mismatch hw hi hf (fun _ h => hcount h.1) fun h => hcount h.1
  | advanced hi hle hcursor hframe =>
      have hcount : count ≤ (cursor.children.drop cursor.next).length := by omega
      rw [andThen_ok]
      refine .of_rest (h.followed hcursor hu (hw.advance hle)) hi rfl hframe ?_ ?_
      · intro nodes
        simp only [Items.Cuts, hcount, true_and, List.drop_drop]
      · simp only [Items.Misuses, hcount, true_and, List.drop_drop]

/-- Matching a child, then going on with what its body has returned. -/
theorem child {body : CursorId → Run α} {next : α → Run β} {e : Expected} {inside : Items}
    (hbody : Follows body inside) (hkeeps : ∀ a, Keeps Session.Changes (next a))
    (hnext : ∀ a d t, (body d t).1 = .ok a → FollowsAt c (next a) items) :
    FollowsAt c (do next (← (do (← c.childBlock e).within body))) (.child e inside items) := by
  refine ⟨Keeps.bind ?_ hkeeps, ?_⟩
  · exact (c.keeps_childBlock e).bind fun b => b.keeps_within fun d => (hbody d).keeps
  intro s cursor root hc hu hw
  rw [bind_apply, bind_apply, CursorId.childBlock_apply hc hu]
  cases hi : cursor.ignoring with
  | true =>
      obtain ⟨f, hf⟩ := Config.exists_misuse_eq (α := BlockId) cursor.config s.world cursor.path
        .childrenIgnored
      rw [if_pos rfl, hf, andThen_error, andThen_error]
      exact .of_ignoring hw hi (by simp) hf
  | false =>
      rw [if_neg Bool.false_ne_true, andThen_ok]
      -- A body that is not matched because there is no child is not run either.
      cases hn : cursor.children[cursor.next]? with
      | none =>
          obtain ⟨f, hf, hwithin⟩ := c.within_of_missing body e hc hu hn
          have hnil := List.drop_eq_nil_of_le (List.getElem?_eq_none_iff.mp hn)
          rw [hwithin]
          refine .of_mismatch hw hi hf ?_ ?_
          · rw [hnil]
            exact fun _ h => h
          · rw [hnil]
            exact fun h => h
      | some n =>
          have hvisited := CursorId.visited_child hbody e hc hu hw hn
          have hkept := (s.freshBlock.keeps_within fun d => (hbody d).keeps).after
            (s.addBlock (c.blockFor cursor e))
          obtain ⟨outcome, t, hrun⟩ : ∃ outcome t, s.freshBlock.within body
              (s.addBlock (c.blockFor cursor e)) = (outcome, t) := ⟨_, _, rfl⟩
          rw [hrun] at hvisited hkept ⊢
          cases hvisited with
          | @conforms a _ hconforms hframe =>
              -- The body has kept the world and the cursor, so the items behind it start from the next
              -- child.
              have hworld : t.world = s.world := hkept.world
              obtain ⟨hcursor, hothers⟩ := Session.cursors_of_taken hc hframe
              have hwatches := hw.advance (List.getElem?_eq_some_iff.mp hn).1
              rw [← hworld] at hwatches
              obtain ⟨d, u, -, hreturned⟩ := s.freshBlock.exists_of_within_ok (by rw [hrun])
              rw [andThen_ok]
              exact .of_child ((hnext a d u hreturned).followed hcursor hu hwatches) hi hworld hothers hn
                hconforms
          | failed hverdict => exact .of_failed_child hi hn hverdict

/-- Telling the node afterwards, as matches do that return it. -/
theorem tellNode {x : Run α} (h : FollowsAt c x items) :
    FollowsAt c (do discard x; return (← Run.cursor c).node) items := by
  refine ⟨?_, ?_⟩
  · exact (h.keeps.bind fun _ => keeps_pure _).bind fun _ =>
      (keeps_cursor c).bind fun _ => keeps_pure _
  intro s cursor root hc hu hw
  have hfollowed := h.followed hc hu hw
  have hdiscard : discard x = (do let _ ← x; Pure.pure () : Run Unit) := rfl
  rw [hdiscard, bind_apply, bind_apply]
  rcases hrun : x s with ⟨outcome, t⟩
  rw [hrun] at hfollowed
  cases hfollowed with
  | cut hle hcuts hcursor hframe =>
      rw [andThen_ok, pure_apply, andThen_ok, bind_apply, cursor_apply hcursor, andThen_ok]
      exact .cut hle hcuts hcursor hframe
  | failed hverdict => exact .failed hverdict

end FollowsAt

end TreeShape
