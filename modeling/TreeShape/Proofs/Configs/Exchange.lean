import TreeShape.Proofs.Script

/-!
# Exchanging configurations

Matching asks a configuration for its adapter, for its implicit check and for the places that it
reports, and for nothing else.  Configurations that agree in these three can be exchanged for each
other, in what a script does and in all that it is told, and nothing else changes:
`Script.run_exchange`.

`Run.Exchanges` relates a step to the step that does the same after the exchange.  It goes through the
matching step by step, one lemma for each, until `Deed.exchanges_run`; an induction over scripts does
the rest.  A script is told sessions, so the exchange is made in what it is told as well, and there the
other way round: exchanging twice changes nothing, `exchange_exchange`.

The twins of `Proofs.Dumps.Twins` differ in their dumps, and those have to be printed; here two runs
fail with the very same failures, those of printers included.
-/

namespace TreeShape

open Run

/-- Exchanges configurations for others that see the same, check the same and report the same places, and
back again. -/
structure Exchange where
  swap : Config → Config
  swap_swap : ∀ c, swap (swap c) = c
  adapter : ∀ c, (swap c).adapter = c.adapter
  implicit : ∀ c, (swap c).implicit = c.implicit
  place : ∀ c w nodes, Location.of (swap c) w nodes = Location.of c w nodes

variable {x : Exchange}

namespace Exchange

theorem view (x : Exchange) (c : Config) (w : World) : (x.swap c).view w = c.view w := by
  rw [Config.view, Config.view, x.adapter]

theorem namesOf (x : Exchange) (c : Config) (w : World) (nodes : List Node) :
    Location.namesOf (x.swap c) w nodes = Location.namesOf c w nodes := by
  rw [Location.namesOf, Location.namesOf, x.view]

end Exchange

/-! ## Exchanged sessions -/

def Cursor.exchange (x : Exchange) (cursor : Cursor) : Cursor :=
  { cursor with config := x.swap cursor.config }

def Block.exchange (x : Exchange) (block : Block) : Block :=
  { block with config := x.swap block.config }

/-- Changing one item commutes with a map that commutes with the change. -/
private theorem map_modify {α : Type} {f change : α → α} (h : ∀ a, f (change a) = change (f a))
    (items : Array α) (i : Nat) : (items.modify i change).map f = (items.map f).modify i change := by
  apply Array.ext_getElem?
  intro j
  simp only [Array.getElem?_map, Array.getElem?_modify]
  split
  · rw [Option.map_map, Option.map_map]
    exact congrArg (Option.map · _) (funext h)
  · rfl

namespace Session

/-- The session with the other configurations in all its cursors and blocks.  The names that programs give
do not matter here. -/
def exchange (x : Exchange) (s : Session) : Session :=
  { s with
    cursors := s.cursors.map (Cursor.exchange x)
    blocks := s.blocks.map (Block.exchange x) }

variable {s : Session}

theorem cursor?_exchange (c : CursorId) :
    (s.exchange x).cursor? c = (s.cursor? c).map (Cursor.exchange x) := Array.getElem?_map

theorem block?_exchange (b : BlockId) :
    (s.exchange x).block? b = (s.block? b).map (Block.exchange x) := Array.getElem?_map

theorem freshCursor_exchange : (s.exchange x).freshCursor = s.freshCursor :=
  congrArg CursorId.mk Array.size_map

theorem freshBlock_exchange : (s.exchange x).freshBlock = s.freshBlock :=
  congrArg BlockId.mk Array.size_map

theorem exchange_addCursor (cursor : Cursor) :
    (s.addCursor cursor).exchange x = (s.exchange x).addCursor (cursor.exchange x) := by
  simp [exchange, addCursor]

theorem exchange_addBlock (block : Block) :
    (s.addBlock block).exchange x = (s.exchange x).addBlock (block.exchange x) := by
  simp [exchange, addBlock]

/-- A change that keeps the configuration can be made before the exchange or after it. -/
theorem exchange_modifyCursor (c : CursorId) {change : Cursor → Cursor}
    (h : ∀ cursor, (change cursor).exchange x = change (cursor.exchange x)) :
    (s.modifyCursor c change).exchange x = (s.exchange x).modifyCursor c change := by
  simp only [exchange, modifyCursor, map_modify h]

theorem exchange_modifyBlock (b : BlockId) {change : Block → Block}
    (h : ∀ block, (change block).exchange x = change (block.exchange x)) :
    (s.modifyBlock b change).exchange x = (s.exchange x).modifyBlock b change := by
  simp only [exchange, modifyBlock, map_modify h]

/-- There is nothing to exchange in the session of a run that begins. -/
theorem exchange_fresh (x : Exchange) (w : World) : exchange x { world := w } = { world := w } := by
  simp only [exchange, Array.map_empty]

theorem exchange_exchange (x : Exchange) (s : Session) : (s.exchange x).exchange x = s := by
  have hcursor : Cursor.exchange x ∘ Cursor.exchange x = id := by
    funext cursor
    simp only [Function.comp_apply, Cursor.exchange, x.swap_swap, id_eq]
  have hblock : Block.exchange x ∘ Block.exchange x = id := by
    funext block
    simp only [Function.comp_apply, Block.exchange, x.swap_swap, id_eq]
  simp only [exchange, Array.map_map, hcursor, hblock, Array.map_id]

end Session

/-! ## Exchanged steps -/

namespace Run

variable {α β γ δ : Type} {f : α → β} {g : γ → δ} {r : Run α} {r' : Run β}

/-- In an exchanged session the second step does what the first one does, and comes to the value that
stands for the value of the first. -/
def Exchanges (x : Exchange) (f : α → β) (r : Run α) (r' : Run β) : Prop :=
  ∀ s : Session, r' (s.exchange x) = ((r s).1.map f, (r s).2.exchange x)

theorem exchanges_pure (a : α) : Exchanges x f (pure a) (pure (f a)) := fun _ => rfl

theorem exchanges_throw (e : Failure) : Exchanges x f (throw e) (throw e) := fun _ => rfl

theorem exchanges_resume (outcome : Except Failure α) :
    Exchanges x f (resume outcome) (resume (outcome.map f)) := fun _ => rfl

/-- An outcome in which there is no configuration stays as it is. -/
theorem exchanges_outcome (outcome : Except Failure α) :
    Exchanges x id (resume outcome) (resume outcome) := by
  intro s
  rw [resume_apply, resume_apply]
  cases outcome <;> rfl

theorem exchanges_get : Exchanges x (Session.exchange x) get get := fun _ => rfl

theorem exchanges_modify {change change' : Session → Session}
    (h : ∀ s : Session, (change s).exchange x = change' (s.exchange x)) :
    Exchanges x id (modify change) (modify change') := by
  intro s
  rw [modify_apply, modify_apply, h]
  rfl

theorem exchanges_record (e : Event) : Exchanges x id (record e) (record e) :=
  exchanges_modify fun _ => rfl

theorem exchanges_world : Exchanges x id world world := fun _ => rfl

theorem Exchanges.bind (h : Exchanges x f r r') {next : α → Run γ} {next' : β → Run δ}
    (hnext : ∀ a, Exchanges x g (next a) (next' (f a))) :
    Exchanges x g (r >>= next) (r' >>= next') := by
  intro s
  rw [bind_apply, bind_apply, h s]
  rcases r s with ⟨e | a, t⟩
  · rfl
  · exact hnext a t

theorem Exchanges.attempt (h : Exchanges x f r r') :
    Exchanges x (Except.map f) (Run.attempt r) (Run.attempt r') := by
  intro s
  rw [attempt_apply, attempt_apply, h s]
  rfl

theorem Exchanges.followedBy {after : Run Unit} (hafter : Exchanges x id after after)
    (h : Exchanges x f r r') : Exchanges x f (Run.followedBy after r) (Run.followedBy after r') :=
  h.attempt.bind fun outcome => hafter.bind fun _ => exchanges_resume outcome

theorem exchanges_cursor (c : CursorId) :
    Exchanges x (Cursor.exchange x) (Run.cursor c) (Run.cursor c) := by
  refine exchanges_get.bind fun s => ?_
  rw [Session.cursor?_exchange]
  cases s.cursor? c with
  | some cursor => exact exchanges_pure cursor
  | none => exact exchanges_throw .unopened

theorem exchanges_block (b : BlockId) :
    Exchanges x (Block.exchange x) (Run.block b) (Run.block b) := by
  refine exchanges_get.bind fun s => ?_
  rw [Session.block?_exchange]
  cases s.block? b with
  | some block => exact exchanges_pure block
  | none => exact exchanges_throw .unopened

end Run

section

variable {α : Type}

theorem exchanges_mismatchAt (c : Config) (path : List Node) (reason : Mismatch) :
    Exchanges x (id : α → α) (mismatchAt c path reason) (mismatchAt (x.swap c) path reason) := by
  refine exchanges_world.bind fun w => ?_
  rw [x.place]
  exact (exchanges_outcome _).bind fun place => exchanges_throw _

theorem exchanges_misuseAt (c : Config) (path : List Node) (reason : Misuse) :
    Exchanges x (id : α → α) (misuseAt c path reason) (misuseAt (x.swap c) path reason) := by
  refine exchanges_world.bind fun w => ?_
  rw [x.place]
  exact (exchanges_outcome _).bind fun place => exchanges_throw _

end

namespace CursorId

theorem exchanges_checkUsable (c : CursorId) : Exchanges x id c.checkUsable c.checkUsable := by
  refine (exchanges_cursor c).bind fun cursor => ?_
  rw [Cursor.exchange]
  dsimp only
  split
  · exact exchanges_misuseAt _ _ _
  cases cursor.activeChild with
  | none => exact exchanges_pure ()
  | some a =>
      refine (exchanges_cursor a).bind fun child => exchanges_world.bind fun w => ?_
      rw [x.view]
      exact exchanges_misuseAt _ _ _

theorem exchanges_checkChildrenMatter (c : CursorId) :
    Exchanges x id c.checkChildrenMatter c.checkChildrenMatter := by
  refine (exchanges_cursor c).bind fun cursor => ?_
  rw [Cursor.exchange]
  dsimp only
  split
  · exact exchanges_misuseAt _ _ _
  · exact exchanges_pure ()

theorem exchanges_takeChild (c : CursorId) : Exchanges x id c.takeChild c.takeChild := by
  refine (exchanges_cursor c).bind fun cursor => ?_
  rw [Cursor.exchange]
  dsimp only
  cases cursor.children[cursor.next]? with
  | none => exact exchanges_mismatchAt _ _ _
  | some n =>
      exact (exchanges_modify fun s => s.exchange_modifyCursor c (by intro; rfl)).bind fun _ =>
        exchanges_pure n

theorem exchanges_checkChildCount (c : CursorId) :
    Exchanges x id c.checkChildCount c.checkChildCount := by
  refine (exchanges_cursor c).bind fun cursor => ?_
  rw [Cursor.exchange]
  dsimp only
  split
  · exact exchanges_mismatchAt _ _ _
  · exact exchanges_pure ()

end CursorId

namespace BlockId

theorem exchanges_takeNode (b : BlockId) : Exchanges x id b.takeNode b.takeNode := by
  refine (exchanges_block b).bind fun block => ?_
  rw [Block.exchange]
  dsimp only
  cases block.parentCursor with
  | none => exact exchanges_pure block.node
  | some c =>
      refine c.exchanges_checkUsable.bind fun _ => c.exchanges_takeChild.bind fun n => ?_
      exact (exchanges_modify fun s => s.exchange_modifyBlock b (by intro; rfl)).bind fun _ =>
        exchanges_pure n

theorem exchanges_labelOf (b : BlockId) (n : Node) : Exchanges x id (b.labelOf n) (b.labelOf n) := by
  refine (exchanges_block b).bind fun block => exchanges_world.bind fun w => ?_
  rw [Block.exchange, x.view]
  exact exchanges_outcome _

theorem exchanges_checkType (b : BlockId) (label : Label) (n : Node) :
    Exchanges x id (b.checkType label n) (b.checkType label n) := by
  refine (exchanges_block b).bind fun block => exchanges_world.bind fun w => ?_
  rw [Block.exchange, x.view]
  refine (exchanges_outcome _).bind fun fits => ?_
  dsimp only [id_eq]
  split
  · exact exchanges_mismatchAt _ _ _
  · exact exchanges_pure ()

theorem exchanges_checkParent (b : BlockId) (label : Label) (n : Node) :
    Exchanges x id (b.checkParent label n) (b.checkParent label n) := by
  refine (exchanges_block b).bind fun block => exchanges_world.bind fun w => ?_
  rw [Block.exchange, x.view]
  dsimp only [id_eq]
  cases block.parentPath.getLast? with
  | none => exact exchanges_pure ()
  | some p =>
      dsimp only
      split
      · exact exchanges_mismatchAt _ _ _
      · exact exchanges_pure ()

theorem exchanges_attach (b : BlockId) (label : Label) (n : Node) :
    Exchanges x id (b.attach label n) (b.attach label n) := by
  refine (exchanges_block b).bind fun block => exchanges_world.bind fun w => ?_
  rw [Block.exchange, x.view]
  refine (exchanges_record _).bind fun _ => (exchanges_outcome _).bind fun children =>
    exchanges_get.bind fun s => ?_
  rw [Session.freshCursor_exchange]
  refine (exchanges_modify fun s => s.exchange_addCursor _).bind fun _ => ?_
  refine (exchanges_modify fun s => s.exchange_modifyBlock b (by intro; rfl)).bind fun _ => ?_
  dsimp only
  cases block.parentCursor with
  | none => exact exchanges_pure _
  | some p =>
      exact (exchanges_modify fun s => s.exchange_modifyCursor p (by intro; rfl)).bind fun _ =>
        exchanges_pure _

theorem exchanges_open (b : BlockId) : Exchanges x id b.open b.open := by
  refine (exchanges_block b).bind fun block => ?_
  rw [Block.exchange]
  dsimp only
  split
  · exact exchanges_throw .reentered
  · exact b.exchanges_takeNode.bind fun n => (b.exchanges_labelOf n).bind fun label =>
      (b.exchanges_checkType label n).bind fun _ => (b.exchanges_checkParent label n).bind fun _ =>
        b.exchanges_attach label n

theorem exchanges_checkImplicit (b : BlockId) :
    Exchanges x id b.checkImplicit b.checkImplicit := by
  refine (exchanges_block b).bind fun block => ?_
  rw [Block.exchange]
  dsimp only
  rw [x.implicit]
  cases block.config.implicit with
  | none => exact exchanges_pure ()
  | some check =>
      exact (exchanges_record _).bind fun _ => exchanges_world.bind fun w => exchanges_outcome _

theorem exchanges_cursor (b : BlockId) : Exchanges x id b.cursor b.cursor := by
  refine (exchanges_block b).bind fun block => ?_
  rw [Block.exchange]
  dsimp only
  cases block.cursor with
  | some c => exact exchanges_pure c
  | none => exact exchanges_throw .unopened

theorem exchanges_locating {α β : Type} {f : α → β} {r : Run α} {r' : Run β} (b : BlockId)
    (h : Exchanges x f r r') : Exchanges x f (b.locating r) (b.locating r') := by
  refine h.attempt.bind fun outcome => ?_
  rcases outcome with e | a
  · show Exchanges x f (if e.wantsLocation then _ else _) (if e.wantsLocation then _ else _)
    split
    · refine b.exchanges_cursor.bind fun c => (Run.exchanges_cursor c).bind fun cursor => ?_
      -- Whatever value the step stands for, there is none here: the assertion is located and fails.
      intro s
      rw [assertionAt_apply, assertionAt_apply, Cursor.exchange, x.namesOf, Config.locate, Config.locate,
        x.place]
      rfl
    · exact exchanges_throw e
  · exact exchanges_pure a

theorem exchanges_close (b : BlockId) : Exchanges x id b.close b.close :=
  (b.exchanges_locating b.exchanges_checkImplicit).bind fun _ => b.exchanges_cursor.bind fun c =>
    c.exchanges_checkChildCount

theorem exchanges_release (b : BlockId) : Exchanges x id b.release b.release := by
  refine b.exchanges_cursor.bind fun c =>
    (exchanges_modify fun s => s.exchange_modifyCursor c (by intro; rfl)).bind fun _ =>
      (exchanges_block b).bind fun block => ?_
  rw [Block.exchange]
  dsimp only
  cases block.parentCursor with
  | none => exact exchanges_pure ()
  | some p => exact exchanges_modify fun s => s.exchange_modifyCursor p fun _ => rfl

theorem exchanges_exit (b : BlockId) (failure : Option Failure) :
    Exchanges x id (b.exit failure) (b.exit failure) := by
  refine b.exchanges_release.followedBy ?_
  cases failure with
  | none => exact b.exchanges_close
  | some e =>
      dsimp only
      split
      · exact b.exchanges_locating (exchanges_throw e)
      · exact exchanges_pure ()

/-- The value of a body in which there is no configuration is that of the enclosed body. -/
theorem exchanges_within {α : Type} (b : BlockId) {body body' : CursorId → Run α}
    (h : ∀ c, Exchanges x id (body c) (body' c)) :
    Exchanges x id (b.within body) (b.within body') := by
  refine b.exchanges_open.bind fun c => (h c).attempt.bind fun outcome => ?_
  cases outcome with
  | ok a => exact (b.exchanges_exit none).bind fun _ => exchanges_pure a
  | error e => exact (b.exchanges_exit (some e)).bind fun _ => exchanges_throw e

end BlockId

theorem Run.exchanges_newBlock (block : Block) :
    Exchanges x id (newBlock block) (newBlock (block.exchange x)) := by
  refine exchanges_get.bind fun s => ?_
  rw [Session.freshBlock_exchange]
  exact (exchanges_modify fun s => s.exchange_addBlock block).bind fun _ => exchanges_pure _

namespace Config

theorem exchanges_blockAt (c : Config) (e : Expected) (parentPath : List Node) (n : Node) :
    Exchanges x id (c.blockAt e parentPath n) ((x.swap c).blockAt e parentPath n) :=
  exchanges_newBlock _

theorem exchanges_matching (c : Config) (e : Expected) (root : Node) :
    Exchanges x id (c.matching e root) ((x.swap c).matching e root) := by
  have hroot : Exchanges x id (c.checkRoot e root) ((x.swap c).checkRoot e root) := by
    unfold checkRoot
    split
    · refine exchanges_world.bind fun w => ?_
      rw [x.view]
      exact exchanges_throw _
    · exact exchanges_pure ()
  exact hroot.bind fun _ => c.exchanges_blockAt e [] root

end Config

namespace CursorId

theorem exchanges_childBlock (c : CursorId) (e : Expected) :
    Exchanges x id (c.childBlock e) (c.childBlock e) :=
  c.exchanges_checkUsable.bind fun _ => c.exchanges_checkChildrenMatter.bind fun _ =>
    (exchanges_cursor c).bind fun _ => exchanges_newBlock _

theorem exchanges_skip (c : CursorId) (count : Int) : Exchanges x id (c.skip count) (c.skip count) := by
  unfold skip
  split
  · exact fun _ => rfl
  refine c.exchanges_checkUsable.bind fun _ => c.exchanges_checkChildrenMatter.bind fun _ =>
    (exchanges_cursor c).bind fun cursor => ?_
  rw [Cursor.exchange]
  dsimp only
  split
  · exact exchanges_mismatchAt _ _ _
  · exact exchanges_modify fun s => s.exchange_modifyCursor c fun _ => rfl

end CursorId

/-! ## Exchanged scripts -/

/-- What a script is told after the exchange. -/
def Reply.exchange (x : Exchange) : Reply → Reply
  | .session s => .session (s.exchange x)
  | reply => reply

theorem Reply.exchange_exchange (x : Exchange) (reply : Reply) :
    (reply.exchange x).exchange x = reply := by
  cases reply with
  | session s => exact congrArg Reply.session (s.exchange_exchange x)
  | done | block | cursor => rfl

/-- The same deed with the other configuration. -/
def Deed.exchange (x : Exchange) : Deed → Deed
  | .matching c e root => .matching (x.swap c) e root
  | .blockAt c e parentPath n => .blockAt (x.swap c) e parentPath n
  | d => d

theorem Deed.exchanges_run (d : Deed) : Exchanges x (Reply.exchange x) d.run (d.exchange x).run := by
  cases d with
  | look => exact fun _ => rfl
  | alter change => exact fun _ => rfl
  | matching c e root => exact (c.exchanges_matching e root).bind fun b => exchanges_pure (Reply.block b)
  | blockAt c e parentPath n =>
      exact (c.exchanges_blockAt e parentPath n).bind fun b => exchanges_pure (Reply.block b)
  | childBlock c e => exact (c.exchanges_childBlock e).bind fun b => exchanges_pure (Reply.block b)
  | skip c count => exact (c.exchanges_skip count).bind fun _ => exchanges_pure Reply.done
  | enter b => exact b.exchanges_open.bind fun c => exchanges_pure (Reply.cursor c)
  | exit b failure => exact (b.exchanges_exit failure).bind fun _ => exchanges_pure Reply.done

namespace Script

/-- The same script with the other configurations: in what it does, and in what it is told. -/
def exchange (x : Exchange) : Script → Script
  | give v => give v
  | fail f => fail f
  | act d next => act (d.exchange x) fun reply => (next (reply.map (Reply.exchange x))).exchange x
  | use form b inside next =>
    use form b (fun c => (inside c).exchange x) fun outcome => (next outcome).exchange x

/-- Calls that match children and trees are exchanged part by part. -/
theorem exchange_visit (x : Exchange) (d : Deed) (form : Use) (inside : CursorId → Script)
    (next : Except Failure Value → Script) :
    (visit d form inside next).exchange x =
      visit (d.exchange x) form (fun c => (inside c).exchange x) fun outcome =>
        (next outcome).exchange x := by
  refine congrArg (act (d.exchange x)) (funext fun reply => ?_)
  rcases reply with f | reply
  · rfl
  · cases reply <;> rfl

theorem exchanges_run (p : Script) : Exchanges x id p.run (p.exchange x).run := by
  induction p with
  | give v => exact exchanges_pure v
  | fail f => exact exchanges_throw f
  | act d next ih =>
      refine d.exchanges_run.attempt.bind fun reply => ?_
      -- The reply is exchanged on its way to the script, and back by the script.
      have hback : (reply.map (Reply.exchange x)).map (Reply.exchange x) = reply := by
        cases reply with
        | error f => rfl
        | ok reply => exact congrArg Except.ok (reply.exchange_exchange x)
      show Exchanges x id (next reply).run
        ((next ((reply.map (Reply.exchange x)).map (Reply.exchange x))).exchange x).run
      rw [hback]
      exact ih reply
  | use form b inside next ihinside ih =>
      have huse : Exchanges x id (b.use form fun c => (inside c).run)
          (b.use form fun c => ((inside c).exchange x).run) := by
        rw [BlockId.use_eq_within, BlockId.use_eq_within]
        exact b.exchanges_within ihinside
      refine huse.attempt.bind fun outcome => ?_
      have hsame : outcome.map id = outcome := by cases outcome <;> rfl
      rw [hsame]
      exact ih outcome

/-- Exchanging configurations everywhere changes nothing else: a script comes to the same value or the same
failure, and leaves the same session but for them. -/
theorem run_exchange (x : Exchange) (p : Script) (s : Session) :
    (p.exchange x).run (s.exchange x) = ((p.run s).1, (p.run s).2.exchange x) := by
  rw [p.exchanges_run s]
  cases (p.run s).1 <;> rfl

end Script

end TreeShape
