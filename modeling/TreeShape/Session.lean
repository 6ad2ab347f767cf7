import TreeShape.Trace

/-!
# Sessions

The state of a run: the world, every cursor and block made so far, the names that scripts have given to
things, and the trace.  Cursors and blocks are never removed, so a cursor that outlives its block can
still be asked, and refuses.

Cursors and blocks are kept in arrays and referred to by their positions there.  A reference is all that
scripts have of them, so two scripts that hold the same cursor see each other's changes, and what one of
them took is taken for both.

Below each operation stand the equations that say what it does to the cursors and the blocks: the one
that was changed is what the change made of it, and all others are as they were.
-/

namespace TreeShape

/-- A cursor of a session, by its position among the cursors. -/
structure CursorId where
  index : Nat
  deriving DecidableEq, Repr, Inhabited

/-- A block of a session, by its position among the blocks. -/
structure BlockId where
  index : Nat
  deriving DecidableEq, Repr, Inhabited

/-- What scripts expect of a node before they look at its children. -/
structure Expected where
  type : NodeType
  /-- Whether the children do not matter. -/
  ignoring : Bool := false
  deriving DecidableEq, Repr, Inhabited

/-- A node being matched, and how many of its children have been taken.  The children are those that the
node had when the cursor was made. -/
structure Cursor where
  config : Config
  /-- The nodes from the root of the match to this one. -/
  path : List Node
  node : Node
  ignoring : Bool
  children : List Node
  /-- The position of the child to be taken next. -/
  next : Nat := 0
  /-- The cursor of the child whose block is open. -/
  activeChild : Option CursorId := none
  /-- Whether the cursor's own block is over. -/
  closed : Bool := false

/-- The matching of one node, from the check of its type to the count of its children.  A block made
by a cursor takes that cursor's next child when it is opened; any other block has its node from the
start. -/
structure Block where
  config : Config
  expected : Expected
  parentPath : List Node
  parentCursor : Option CursorId
  node : Node
  /-- The cursor of the block, once it is open. -/
  cursor : Option CursorId := none

/-- The names that scripts have given. -/
structure Bindings where
  cursors : List (String × CursorId) := []
  blocks : List (String × BlockId) := []
  configs : List (String × Config) := []
  matchers : List (String × Matcher) := []

/-- The state of a run. -/
structure Session where
  world : World
  cursors : Array Cursor := #[]
  blocks : Array Block := #[]
  bindings : Bindings := {}
  trace : Array Event := #[]

namespace Session

def cursor? (s : Session) (c : CursorId) : Option Cursor := s.cursors[c.index]?

def block? (s : Session) (b : BlockId) : Option Block := s.blocks[b.index]?

def modifyCursor (s : Session) (c : CursorId) (change : Cursor → Cursor) : Session :=
  { s with cursors := s.cursors.modify c.index change }

def modifyBlock (s : Session) (b : BlockId) (change : Block → Block) : Session :=
  { s with blocks := s.blocks.modify b.index change }

def addCursor (s : Session) (c : Cursor) : Session := { s with cursors := s.cursors.push c }

def addBlock (s : Session) (b : Block) : Session := { s with blocks := s.blocks.push b }

/-- The cursor that `addCursor` would make. -/
def freshCursor (s : Session) : CursorId := ⟨s.cursors.size⟩

def freshBlock (s : Session) : BlockId := ⟨s.blocks.size⟩

def record (s : Session) (e : Event) : Session := { s with trace := s.trace.push e }

def rebind (s : Session) (change : Bindings → Bindings) : Session :=
  { s with bindings := change s.bindings }

def summary? (s : Session) (c : CursorId) : Option CursorSummary :=
  (s.cursor? c).map fun cursor =>
    ⟨cursor.next, cursor.closed, cursor.activeChild.bind fun a => (s.cursor? a).map (·.node)⟩

/-! ## Equations -/

@[simp] theorem cursor?_modifyBlock (s : Session) (b : BlockId) (change : Block → Block)
    (c : CursorId) : (s.modifyBlock b change).cursor? c = s.cursor? c := rfl

@[simp] theorem cursor?_addBlock (s : Session) (b : Block) (c : CursorId) :
    (s.addBlock b).cursor? c = s.cursor? c := rfl

@[simp] theorem cursor?_record (s : Session) (e : Event) (c : CursorId) :
    (s.record e).cursor? c = s.cursor? c := rfl

@[simp] theorem block?_modifyCursor (s : Session) (c : CursorId) (change : Cursor → Cursor)
    (b : BlockId) : (s.modifyCursor c change).block? b = s.block? b := rfl

@[simp] theorem block?_addCursor (s : Session) (c : Cursor) (b : BlockId) :
    (s.addCursor c).block? b = s.block? b := rfl

@[simp] theorem block?_record (s : Session) (e : Event) (b : BlockId) :
    (s.record e).block? b = s.block? b := rfl

/-- Changing one cursor changes that one and no other. -/
theorem cursor?_modifyCursor (s : Session) (c d : CursorId) (change : Cursor → Cursor) :
    (s.modifyCursor c change).cursor? d =
      if d = c then (s.cursor? c).map change else s.cursor? d := by
  rcases c with ⟨i⟩
  rcases d with ⟨j⟩
  simp only [cursor?, modifyCursor, Array.getElem?_modify, CursorId.mk.injEq]
  by_cases h : j = i
  · simp [h]
  · simp [h, Ne.symm h]

theorem cursor?_modifyCursor_self {s : Session} {c : CursorId} {cursor : Cursor}
    (hc : s.cursor? c = some cursor) (change : Cursor → Cursor) :
    (s.modifyCursor c change).cursor? c = some (change cursor) := by
  rw [cursor?_modifyCursor, if_pos rfl, hc, Option.map_some]

theorem block?_modifyBlock (s : Session) (b d : BlockId) (change : Block → Block) :
    (s.modifyBlock b change).block? d =
      if d = b then (s.block? b).map change else s.block? d := by
  rcases b with ⟨i⟩
  rcases d with ⟨j⟩
  simp only [block?, modifyBlock, Array.getElem?_modify, BlockId.mk.injEq]
  by_cases h : j = i
  · simp [h]
  · simp [h, Ne.symm h]

/-- A new cursor is found under the fresh number, and the others where they were. -/
theorem cursor?_addCursor (s : Session) (new : Cursor) (d : CursorId) :
    (s.addCursor new).cursor? d = if d = s.freshCursor then some new else s.cursor? d := by
  rcases d with ⟨j⟩
  simp [cursor?, addCursor, freshCursor, Array.getElem?_push]

theorem block?_addBlock (s : Session) (new : Block) (d : BlockId) :
    (s.addBlock new).block? d = if d = s.freshBlock then some new else s.block? d := by
  rcases d with ⟨j⟩
  simp [block?, addBlock, freshBlock, Array.getElem?_push]

@[simp] theorem block?_freshBlock (s : Session) (new : Block) :
    (s.addBlock new).block? s.freshBlock = some new := by
  rw [block?_addBlock, if_pos rfl]

end Session

end TreeShape
