import TreeShape.Proofs.Matching.Steps

/-!
# What can come of opening a block

A block that is opened takes its node, looks at it, and attaches a cursor.  The changes that this makes
to the session are named here, `Session.take` and `Session.attach`, together with what is found in the
session after each of them.

Two inversions say once what later proofs would have to unfold.

* `BlockId.accepting` lists what can come of looking at a node: it cannot be told where the node stands,
  its type cannot be told or is not the expected one, its parent is another one, it does not tell its
  children, or it is attached.  Whoever wants to know why a node was refused goes through these cases.
* `BlockId.opening` lists what can come of opening at all, as far as the session is concerned: the block
  refuses before it has taken a child, it refuses the child that it took, or it is open.  The invariants
  of runs are shown for these three cases.
-/

namespace TreeShape

open Run

/-- Whether the parent of a node, where it is known, is the one that is expected, if one is. -/
def View.isLinkedTo (v : View) (parent? : Option Node) (n : Node) : Bool :=
  match parent? with
  | none => true
  | some p => !(v.knowsParents && v.hasParentLink n && v.parent n != p)

/-- What is wrong with a node whose parent is not the one that is expected. -/
def View.wrongParent (v : View) (label : Label) (p n : Node) : Mismatch :=
  .wrongParent label (v.nodeName p)
    (if (v.parent n).isAbsent then none else some (v.nodeName (v.parent n)))

/-- What is wrong with a node of another type than expected. -/
def View.wrongType (v : View) (label : Label) (t : NodeType) (n : Node) : Mismatch :=
  .wrongType label (v.typeName t) (v.typeNameOf n)

/-- The cursor that a block makes for its node, given the node's children. -/
def Block.cursorFor (block : Block) (n : Node) (children : List Node) : Cursor where
  config := block.config
  path := block.parentPath ++ [n]
  node := n
  ignoring := block.expected.ignoring
  children := children

namespace Session

/-! ## Changes of a session -/

/-- A block takes the next child of a cursor. -/
def take (s : Session) (b : BlockId) (c : CursorId) (n : Node) : Session :=
  (s.modifyCursor c fun cursor => { cursor with next := cursor.next + 1 }).modifyBlock b
    fun block => { block with node := n }

/-- A block gets its cursor, which becomes the active child of the parent's. -/
def attach (s : Session) (b : BlockId) (block : Block) (n : Node) (children : List Node) : Session :=
  let attached := (s.addCursor (block.cursorFor n children)).modifyBlock b
    fun block => { block with cursor := some s.freshCursor }
  match block.parentCursor with
  | none => attached
  | some p => attached.modifyCursor p fun cursor => { cursor with activeChild := some s.freshCursor }

/-- The life of a cursor ends, and that of its parent is free for the next child. -/
def release (s : Session) (c : CursorId) (parent : Option CursorId) : Session :=
  let closed := s.modifyCursor c fun cursor => { cursor with closed := true }
  match parent with
  | none => closed
  | some p => closed.modifyCursor p fun cursor => { cursor with activeChild := none }

section

variable (s : Session) (b : BlockId) (block : Block) (c : CursorId) (n : Node)

theorem cursor?_take (d : CursorId) : (s.take b c n).cursor? d = if d = c then
    (s.cursor? c).map fun cursor => { cursor with next := cursor.next + 1 } else s.cursor? d :=
  cursor?_modifyCursor s c d _

theorem block?_take (d : BlockId) : (s.take b c n).block? d = if d = b then
    (s.block? b).map fun block => { block with node := n } else s.block? d :=
  block?_modifyBlock _ b d _

theorem ne_freshCursor {s : Session} {c : CursorId} {cursor : Cursor}
    (h : s.cursor? c = some cursor) : c ≠ s.freshCursor := by
  rintro rfl
  simp [cursor?, freshCursor] at h

theorem ne_freshBlock {s : Session} {b : BlockId} {block : Block} (h : s.block? b = some block) :
    b ≠ s.freshBlock := by
  rintro rfl
  simp [block?, freshBlock] at h

theorem block?_attach (children : List Node) (d : BlockId) :
    (s.attach b block n children).block? d = if d = b then
      (s.block? b).map fun block => { block with cursor := some s.freshCursor }
      else s.block? d := by
  unfold attach
  cases block.parentCursor <;> simp [block?_modifyBlock]

@[simp] theorem world_attach (children : List Node) :
    (s.attach b block n children).world = s.world := by
  unfold attach
  cases block.parentCursor <;> rfl

/-- Only the parent's cursor is touched, and there is one more. -/
theorem cursor?_attach (hp : ∀ p, block.parentCursor = some p → p ≠ s.freshCursor)
    (children : List Node) (d : CursorId) :
    (s.attach b block n children).cursor? d = if d = s.freshCursor then
        some (block.cursorFor n children)
      else (s.cursor? d).map fun cursor => { cursor with
        activeChild := if block.parentCursor = some d then some s.freshCursor
          else cursor.activeChild } := by
  unfold attach
  cases hparent : block.parentCursor with
  | none =>
      simp only [cursor?_modifyBlock, cursor?_addCursor, reduceCtorEq, if_false]
      split <;> simp
  | some p =>
      have hfresh := hp p hparent
      simp only [cursor?_modifyCursor, cursor?_modifyBlock, cursor?_addCursor, if_neg hfresh,
        Option.some.injEq]
      by_cases hd : d = p
      · subst hd
        simp [hfresh]
      · have hd' : p ≠ d := fun h => hd h.symm
        simp only [if_neg hd, if_neg hd']
        split <;> simp

@[simp] theorem block?_release (parent : Option CursorId) (d : BlockId) :
    (s.release c parent).block? d = s.block? d := by
  unfold release
  cases parent <;> rfl

@[simp] theorem world_release (parent : Option CursorId) :
    (s.release c parent).world = s.world := by
  unfold release
  cases parent <;> rfl

theorem cursor?_release (parent : Option CursorId) (d : CursorId) :
    (s.release c parent).cursor? d = (s.cursor? d).map fun cursor => { cursor with
      closed := cursor.closed || decide (d = c)
      activeChild := if parent = some d then none else cursor.activeChild } := by
  unfold release
  cases parent with
  | none =>
      simp only [cursor?_modifyCursor, reduceCtorEq, if_false]
      by_cases hd : d = c
      · subst hd
        simp
      · simp [hd]
  | some p =>
      simp only [cursor?_modifyCursor, Option.some.injEq]
      by_cases hc : d = c <;> by_cases hp : d = p
      · subst hc hp
        simp [Function.comp_def]
      · subst hc
        simp [hp, Ne.symm hp]
      · subst hp
        simp [hc]
      · simp [hc, hp, Ne.symm hp]

end

/-! ### What is found after a change -/

section

variable {s : Session} {b d : BlockId} {block new found : Block} {c e : CursorId} {cursor : Cursor} {n : Node}
  {children : List Node}

theorem cursor?_modifyCursor_cases {change : Cursor → Cursor}
    (h : (s.modifyCursor c change).cursor? e = some cursor) :
    (∃ old, e = c ∧ s.cursor? c = some old ∧ cursor = change old) ∨ e ≠ c ∧ s.cursor? e = some cursor := by
  rw [cursor?_modifyCursor] at h
  split at h
  · next heq =>
      obtain ⟨old, hold, rfl⟩ := Option.map_eq_some_iff.mp h
      exact .inl ⟨old, heq, hold, rfl⟩
  · next hne => exact .inr ⟨hne, h⟩

theorem block?_addBlock_cases (h : (s.addBlock new).block? d = some found) :
    d = s.freshBlock ∧ found = new ∨ s.block? d = some found := by
  rw [block?_addBlock] at h
  split at h
  · next heq => exact .inl ⟨heq, (Option.some.inj h).symm⟩
  · exact .inr h

theorem block?_take_cases (hb : s.block? b = some block) (h : (s.take b c n).block? d = some found) :
    d = b ∧ found = { block with node := n } ∨ d ≠ b ∧ s.block? d = some found := by
  rw [block?_take, hb] at h
  split at h
  · next heq => exact .inl ⟨heq, (Option.some.inj h).symm⟩
  · next hne => exact .inr ⟨hne, h⟩

theorem block?_attach_cases (hb : s.block? b = some block)
    (h : (s.attach b block n children).block? d = some found) :
    d = b ∧ found = { block with cursor := some s.freshCursor } ∨ d ≠ b ∧ s.block? d = some found := by
  rw [block?_attach, hb] at h
  split at h
  · next heq => exact .inl ⟨heq, (Option.some.inj h).symm⟩
  · next hne => exact .inr ⟨hne, h⟩

/-- If nothing but the taking of a child is left of a block, the parent's cursor has moved on by one, and
the other cursors are as they were. -/
theorem cursors_of_taken {t : Session} (hc : s.cursor? c = some cursor)
    (hframe : ∀ d old, ((s.addBlock new).take b c n).cursor? d = some old → t.cursor? d = some old) :
    t.cursor? c = some { cursor with next := cursor.next + 1 } ∧
      ∀ d old, d ≠ c → s.cursor? d = some old → t.cursor? d = some old := by
  constructor
  · apply hframe
    rw [cursor?_take, if_pos rfl, cursor?_addBlock, hc, Option.map_some]
  · intro d old hd hold
    apply hframe
    rw [cursor?_take, if_neg hd, cursor?_addBlock, hold]

/-- A parent that can be used was there before the block was opened. -/
theorem ne_freshCursor_of_parents
    (hp : ∀ p, block.parentCursor = some p → ∃ cursor, s.cursor? p = some cursor ∧ cursor.IsUsable) :
    ∀ p, block.parentCursor = some p → p ≠ s.freshCursor := by
  intro p hparent
  obtain ⟨cursor, hcursor, -⟩ := hp p hparent
  exact ne_freshCursor hcursor

theorem cursor?_attach_cases
    (hp : ∀ p, block.parentCursor = some p → ∃ cursor, s.cursor? p = some cursor ∧ cursor.IsUsable)
    (h : (s.attach b block n children).cursor? e = some cursor) :
    e = s.freshCursor ∧ cursor = block.cursorFor n children ∨
      ∃ old, e ≠ s.freshCursor ∧ s.cursor? e = some old ∧ cursor = { old with
        activeChild := if block.parentCursor = some e then some s.freshCursor else old.activeChild } := by
  rw [cursor?_attach s b block n (ne_freshCursor_of_parents hp)] at h
  split at h
  · next heq => exact .inl ⟨heq, (Option.some.inj h).symm⟩
  · next hne =>
      obtain ⟨old, hold, rfl⟩ := Option.map_eq_some_iff.mp h
      exact .inr ⟨old, hne, hold, rfl⟩

end

end Session

namespace BlockId

variable {s : Session} {b : BlockId} {block : Block}

/-! ## Taking a node -/

theorem takeNode_of_root (h : s.block? b = some block) (hp : block.parentCursor = none) :
    b.takeNode s = (.ok block.node, s) := by
  simp only [takeNode, bind_apply, block_apply h, andThen_ok, hp]
  rfl

theorem takeNode_of_child {c : CursorId} {cursor : Cursor} (h : s.block? b = some block)
    (hp : block.parentCursor = some c) (hc : s.cursor? c = some cursor) (hu : cursor.IsUsable) :
    b.takeNode s = match cursor.children[cursor.next]? with
      | none => (cursor.config.mismatch s.world cursor.path (.missingChild cursor.next), s)
      | some n => (.ok n, s.take b c n) := by
  simp only [takeNode, bind_apply, block_apply h, andThen_ok, hp,
    CursorId.checkUsable_of_isUsable hc hu, CursorId.takeChild_apply hc]
  cases cursor.children[cursor.next]? with
  | none =>
      simp only
      obtain ⟨f, hf⟩ := Config.exists_mismatch_eq (α := Node) cursor.config s.world cursor.path
        (.missingChild cursor.next)
      rw [hf, andThen_error]
  | some n => rfl

theorem takeNode_of_checkUsable {c : CursorId} {f : Failure} (h : s.block? b = some block)
    (hp : block.parentCursor = some c) (hc : c.checkUsable s = (.error f, s)) :
    b.takeNode s = (.error f, s) := by
  simp only [takeNode, bind_apply, block_apply h, andThen_ok, hp, hc, andThen_error]

/-! ## Accepting the node -/

/-- What a block does with the node that it has taken. -/
def accept (b : BlockId) (n : Node) : Run CursorId := do
  let label ← b.labelOf n
  b.checkType label n
  b.checkParent label n
  b.attach label n

theorem labelOf_apply (h : s.block? b = some block) (n : Node) :
    b.labelOf n s = (labelFor (block.config.view s.world) block.parentPath n, s) := by
  simp only [labelOf, bind_apply, block_apply h, andThen_ok, world_apply, resume_apply]

theorem checkType_apply (h : s.block? b = some block) (label : Label) (n : Node) :
    b.checkType label n s =
      (((block.config.view s.world).askType n block.expected.type).bind fun fits =>
        if fits then .ok () else block.config.mismatch s.world block.parentPath
          ((block.config.view s.world).wrongType label block.expected.type n), s) := by
  simp only [checkType, bind_apply, block_apply h, world_apply, andThen_ok, resume_apply]
  rcases (block.config.view s.world).askType n block.expected.type with f | _ | _
  · rfl
  · exact mismatchAt_apply ..
  · rfl

theorem checkParent_apply (h : s.block? b = some block) (label : Label) (n : Node) :
    b.checkParent label n s =
      (match block.parentPath.getLast? with
        | none => .ok ()
        | some p =>
          if (block.config.view s.world).isLinkedTo (some p) n then .ok ()
          else block.config.mismatch s.world block.parentPath
            ((block.config.view s.world).wrongParent label p n), s) := by
  simp only [checkParent, bind_apply, block_apply h, world_apply, andThen_ok]
  cases block.parentPath.getLast? with
  | none => rfl
  | some p =>
      by_cases hwrong : ((block.config.view s.world).knowsParents &&
          (block.config.view s.world).hasParentLink n &&
          (block.config.view s.world).parent n != p) = true
      · simp only [View.isLinkedTo, hwrong, if_true, Bool.not_true, Bool.false_eq_true, if_false]
        exact mismatchAt_apply ..
      · rw [Bool.not_eq_true] at hwrong
        simp only [View.isLinkedTo, hwrong, Bool.false_eq_true, if_false, Bool.not_false, if_true]
        rfl

theorem attach_apply (h : s.block? b = some block) (label : Label) (n : Node) :
    ∃ e, e.check? = none ∧ b.attach label n s = match (block.config.view s.world).ask n with
      | .error f => (.error f, s.record e)
      | .ok children => (.ok s.freshCursor, (s.record e).attach b block n children) := by
  refine ⟨.opened label ((block.config.view s.world).typeName block.expected.type), rfl, ?_⟩
  simp only [attach, bind_apply, block_apply h, world_apply, andThen_ok, record_apply, resume_apply]
  cases (block.config.view s.world).ask n with
  | error f => rfl
  | ok children =>
      simp only [andThen_ok]
      cases hp : block.parentCursor with
      | none => simp only [Session.attach, hp]; rfl
      | some p => simp only [Session.attach, hp]; rfl

theorem accept_of_label_error {n : Node} {f : Failure} (h : s.block? b = some block)
    (hl : labelFor (block.config.view s.world) block.parentPath n = .error f) :
    b.accept n s = (.error f, s) := by
  simp only [accept, bind_apply, labelOf_apply h, hl, andThen_error]

/-- A node that has a label is accepted if it has the expected type and parent and tells its
children. -/
theorem accept_apply {n : Node} {label : Label} (h : s.block? b = some block)
    (hl : labelFor (block.config.view s.world) block.parentPath n = .ok label) :
    b.accept n s = match (block.config.view s.world).askType n block.expected.type with
      | .error f => (.error f, s)
      | .ok false => (block.config.mismatch s.world block.parentPath
          ((block.config.view s.world).wrongType label block.expected.type n), s)
      | .ok true => match block.parentPath.getLast? with
        | none => b.attach label n s
        | some p =>
          if (block.config.view s.world).isLinkedTo (some p) n then b.attach label n s
          else (block.config.mismatch s.world block.parentPath
            ((block.config.view s.world).wrongParent label p n), s) := by
  simp only [accept, bind_apply, labelOf_apply h, hl, andThen_ok, checkType_apply h]
  rcases (block.config.view s.world).askType n block.expected.type with f | _ | _
  · rfl
  · simp only [Except.bind, Bool.false_eq_true, if_false, Config.mismatch]
    cases Location.of block.config s.world block.parentPath <;> rfl
  · simp only [Except.bind, if_true, andThen_ok, bind_apply, checkParent_apply h]
    cases block.parentPath.getLast? with
    | none => rfl
    | some p =>
        dsimp only
        cases (block.config.view s.world).isLinkedTo (some p) n with
        | true => rfl
        | false =>
            simp only [Bool.false_eq_true, if_false, Config.mismatch]
            cases Location.of block.config s.world block.parentPath <;> rfl

/-- What can come of asking a block to accept a node: the node's place among its siblings, its type, its
parent and its children are asked for in this order, and the first of these that is not right ends it. -/
inductive Accepting (s : Session) (b : BlockId) (block : Block) (n : Node) :
    Except Failure CursorId → Session → Prop
  | unlabelled {f : Failure} :
      labelFor (block.config.view s.world) block.parentPath n = .error f →
      Accepting s b block n (.error f) s
  | untyped {f : Failure} :
      (block.config.view s.world).askType n block.expected.type = .error f →
      Accepting s b block n (.error f) s
  | wrongType {label : Label} {f : Failure} :
      labelFor (block.config.view s.world) block.parentPath n = .ok label →
      (block.config.view s.world).askType n block.expected.type = .ok false →
      (block.config.mismatch s.world block.parentPath
        ((block.config.view s.world).wrongType label block.expected.type n) :
          Except Failure CursorId) = .error f →
      Accepting s b block n (.error f) s
  | wrongParent {label : Label} {p : Node} {f : Failure} :
      labelFor (block.config.view s.world) block.parentPath n = .ok label →
      (block.config.view s.world).askType n block.expected.type = .ok true →
      block.parentPath.getLast? = some p →
      (block.config.view s.world).isLinkedTo (some p) n = false →
      (block.config.mismatch s.world block.parentPath
        ((block.config.view s.world).wrongParent label p n) : Except Failure CursorId) = .error f →
      Accepting s b block n (.error f) s
  | childless {e : Event} {f : Failure} :
      (block.config.view s.world).askType n block.expected.type = .ok true →
      (block.config.view s.world).isLinkedTo block.parentPath.getLast? n = true →
      e.check? = none → (block.config.view s.world).ask n = .error f →
      Accepting s b block n (.error f) (s.record e)
  | attached {e : Event} {children : List Node} :
      (block.config.view s.world).askType n block.expected.type = .ok true →
      (block.config.view s.world).isLinkedTo block.parentPath.getLast? n = true →
      e.check? = none → (block.config.view s.world).ask n = .ok children →
      Accepting s b block n (.ok s.freshCursor) ((s.record e).attach b block n children)

/-- A node of the right type and with the right parent is attached if it tells its children. -/
theorem accepting_attach (h : s.block? b = some block) (label : Label) {n : Node}
    (htype : (block.config.view s.world).askType n block.expected.type = .ok true)
    (hlink : (block.config.view s.world).isLinkedTo block.parentPath.getLast? n = true) :
    Accepting s b block n (b.attach label n s).1 (b.attach label n s).2 := by
  obtain ⟨e, hcheck, he⟩ := attach_apply h label n
  rw [he]
  cases hask : (block.config.view s.world).ask n with
  | error f => exact .childless htype hlink hcheck hask
  | ok children => exact .attached htype hlink hcheck hask

/-- The cases of `Accepting` are all there are. -/
theorem accepting (h : s.block? b = some block) (n : Node) :
    Accepting s b block n (b.accept n s).1 (b.accept n s).2 := by
  cases hl : labelFor (block.config.view s.world) block.parentPath n with
  | error f =>
      rw [accept_of_label_error h hl]
      exact .unlabelled hl
  | ok label =>
      rw [accept_apply h hl]
      -- What is wrong is reported at the path above, which fails in one way or another.
      have hmismatch := Config.exists_mismatch_eq (α := CursorId) block.config s.world block.parentPath
      rcases htype : (block.config.view s.world).askType n block.expected.type with f | _ | _
      · exact .untyped htype
      · obtain ⟨f, hf⟩ := hmismatch ((block.config.view s.world).wrongType label block.expected.type n)
        dsimp only
        rw [hf]
        exact .wrongType hl htype hf
      · cases hp : block.parentPath.getLast? with
        | none => exact accepting_attach h label htype (hp ▸ rfl)
        | some p =>
            cases hlink : (block.config.view s.world).isLinkedTo (some p) n with
            | true =>
                dsimp only
                rw [hlink]
                exact accepting_attach h label htype (hp ▸ hlink)
            | false =>
                obtain ⟨f, hf⟩ := hmismatch ((block.config.view s.world).wrongParent label p n)
                dsimp only
                rw [hlink, hf]
                exact .wrongParent hl htype hp hlink hf

theorem accepting_of_eq {n : Node} {outcome : Except Failure CursorId} {t : Session}
    (h : s.block? b = some block) (heq : b.accept n s = (outcome, t)) :
    Accepting s b block n outcome t := by
  have haccepting := accepting h n
  rw [heq] at haccepting
  exact haccepting

/-- A node that is not accepted changes nothing, and one that is gets a cursor.  No check is made. -/
theorem accept_cases (h : s.block? b = some block) (n : Node) :
    (∃ f t, b.accept n s = (.error f, t) ∧ s.Silent t ∧ t.checks = s.checks) ∨
      ∃ e children, e.check? = none ∧ (block.config.view s.world).ask n = .ok children ∧
        b.accept n s = (.ok s.freshCursor, (s.record e).attach b block n children) := by
  rcases haccept : b.accept n s with ⟨outcome, t⟩
  cases accepting_of_eq h haccept with
  | unlabelled | untyped | wrongType | wrongParent => exact .inl ⟨_, s, rfl, .refl s, rfl⟩
  | childless _ _ hcheck _ =>
      refine .inl ⟨_, _, rfl, Session.silent_record .., ?_⟩
      rw [Session.checks_record, hcheck, Option.toList_none, List.append_nil]
  | attached _ _ hcheck hask => exact .inr ⟨_, _, hcheck, hask, rfl⟩

/-! ## Opening -/

/-- How a block comes by its node, and the session after that. -/
inductive Takes (s : Session) (b : BlockId) (block : Block) : Node → Session → Prop
  | root : block.parentCursor = none → Takes s b block block.node s
  | child {c : CursorId} {cursor : Cursor} {n : Node} : block.parentCursor = some c →
      s.cursor? c = some cursor → cursor.IsUsable → cursor.children[cursor.next]? = some n →
      Takes s b block n (s.take b c n)

/-- What can come of opening a block. -/
inductive Opening (s : Session) (b : BlockId) : Except Failure CursorId → Session → Prop
  | refused (f : Failure) : Opening s b (.error f) s
  | failed {block : Block} {n : Node} {taken t : Session} (f : Failure) :
      s.block? b = some block → block.cursor = none → Takes s b block n taken → taken.Silent t →
      Opening s b (.error f) t
  | opened {block : Block} {n : Node} {children : List Node} {taken t : Session} :
      s.block? b = some block → block.cursor = none → Takes s b block n taken → taken.Silent t →
      (block.config.view s.world).ask n = .ok children →
      Opening s b (.ok s.freshCursor) (t.attach b { block with node := n } n children)

theorem open_eq (b : BlockId) : b.open = (do
    let block ← Run.block b
    if block.cursor.isSome then throw .reentered
    let n ← b.takeNode
    b.accept n) := rfl

theorem open_apply (h : s.block? b = some block) (hc : block.cursor = none) :
    b.open s = andThen (b.takeNode s) b.accept := by
  simp only [open_eq, bind_apply, block_apply h, andThen_ok, hc, Option.isSome_none,
    Bool.false_eq_true, if_false]

theorem open_of_cursor {c : CursorId} (h : s.block? b = some block) (hc : block.cursor = some c) :
    b.open s = (.error .reentered, s) := by
  simp only [open_eq, bind_apply, block_apply h, andThen_ok, hc, Option.isSome_some, if_true]
  rfl

theorem block_of_missing (h : s.block? b = none) : Run.block b s = (.error .unopened, s) := by
  simp only [Run.block, bind_apply, get_apply, andThen_ok, h]
  rfl

theorem open_of_missing (h : s.block? b = none) : b.open s = (.error .unopened, s) := by
  simp only [open_eq, bind_apply, block_of_missing h, andThen_error]

theorem takes_block {n : Node} {taken : Session} (h : s.block? b = some block)
    (ht : Takes s b block n taken) :
    taken.block? b = some { block with node := n } ∧ taken.world = s.world ∧
      taken.freshCursor = s.freshCursor := by
  cases ht with
  | root => exact ⟨h, rfl, rfl⟩
  | child =>
      refine ⟨by simp [Session.take, Session.block?_modifyBlock, h], rfl, ?_⟩
      simp [Session.take, Session.freshCursor, Session.modifyBlock, Session.modifyCursor]

theorem takeNode_of_takes {n : Node} {taken : Session} (h : s.block? b = some block)
    (ht : Takes s b block n taken) : b.takeNode s = (.ok n, taken) := by
  cases ht with
  | root hp => exact takeNode_of_root h hp
  | child hp hc hu hn => rw [takeNode_of_child h hp hc hu, hn]

/-- A block takes its node without a failure, or changes nothing. -/
theorem takeNode_cases (h : s.block? b = some block) :
    (∃ f, b.takeNode s = (.error f, s)) ∨
      ∃ n taken, b.takeNode s = (.ok n, taken) ∧ Takes s b block n taken := by
  cases hp : block.parentCursor with
  | none => exact .inr ⟨block.node, s, takeNode_of_root h hp, .root hp⟩
  | some c =>
      rcases c.checkUsable_cases s with ⟨f, hf⟩ | ⟨cursor, hcursor, hu⟩
      · exact .inl ⟨f, takeNode_of_checkUsable h hp hf⟩
      · rw [takeNode_of_child h hp hcursor hu]
        cases hn : cursor.children[cursor.next]? with
        | none =>
            obtain ⟨f, hf⟩ := Config.exists_mismatch_eq (α := Node) cursor.config s.world
              cursor.path (.missingChild cursor.next)
            exact .inl ⟨f, by rw [hf]⟩
        | some n => exact .inr ⟨n, _, rfl, .child hp hcursor hu hn⟩

/-- The cases of `Opening` are all there are. -/
theorem opening (s : Session) (b : BlockId) : Opening s b (b.open s).1 (b.open s).2 := by
  cases h : s.block? b with
  | none =>
      rw [open_of_missing h]
      exact .refused _
  | some block =>
      cases hc : block.cursor with
      | some c =>
          rw [open_of_cursor h hc]
          exact .refused _
      | none =>
          rw [open_apply h hc]
          rcases takeNode_cases h with ⟨f, hf⟩ | ⟨n, taken, hn, ht⟩
          · rw [hf]
            exact .refused f
          · rw [hn, andThen_ok]
            obtain ⟨hb, hworld, hfresh⟩ := takes_block h ht
            rcases accept_cases hb n with ⟨f, t, hf, hsilent, -⟩ | ⟨e, children, -, hask, hok⟩
            · rw [hf]
              exact .failed f h hc ht hsilent
            · rw [hok, hfresh]
              rw [hworld] at hask
              exact .opened h hc ht (Session.silent_record ..) hask

theorem opening_of_eq {outcome : Except Failure CursorId} {t : Session}
    (h : b.open s = (outcome, t)) : Opening s b outcome t := by
  have hopening := opening s b
  rw [h] at hopening
  exact hopening

end BlockId

end TreeShape
