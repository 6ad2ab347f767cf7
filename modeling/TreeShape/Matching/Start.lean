import TreeShape.Matching.Block

/-!
# Starting a match, and matching children

The calls that scripts make.  A match starts at a root, with a configuration; from there on a cursor
matches the children of its node one after the other, or skips them.

Each call has a form that takes a script and returns a node or the script's value, and a form that only
makes the block: `matchTree`, `extract` and `matching` for roots, `child`, `extractFromChild` and
`childBlock` for children.  The forms that only make a block check what can be checked of the cursor by
then, but take no child; the child is taken when the block is opened, and the cursor is checked again.
-/

namespace TreeShape

/-- Makes a block. -/
def Run.newBlock (block : Block) : Run BlockId := do
  let b := (← get).freshBlock
  modify (·.addBlock block)
  return b

namespace Config

/-- A block for a node with the given nodes above it. -/
def blockAt (c : Config) (e : Expected) (parentPath : List Node) (n : Node) : Run BlockId :=
  Run.newBlock ⟨c, e, parentPath, none, n, none⟩

/-- Runs a script on a node with the given nodes above it. -/
def execute {α : Type} (c : Config) (e : Expected) (parentPath : List Node) (n : Node)
    (script : CursorId → Run α) : Run α := do
  (← c.blockAt e parentPath n).run script

/-- Refuses to start at an empty place. -/
def checkRoot (c : Config) (e : Expected) (root : Node) : Run Unit := do
  if root.isAbsent then throw (.absentRoot ((c.view (← Run.world)).typeName e.type))

/-- Matches a tree and returns the value of the script. -/
def extract {α : Type} (c : Config) (e : Expected) (root : Node) (script : CursorId → Run α) :
    Run α := do
  c.checkRoot e root
  c.execute e [] root script

/-- Matches a tree and returns its root. -/
def matchTree {α : Type} (c : Config) (e : Expected) (root : Node) (script : CursorId → Run α) :
    Run Node :=
  c.extract e root fun cursor => do
    discard (script cursor)
    return (← Run.cursor cursor).node

/-- Makes the block that matches a tree. -/
def matching (c : Config) (e : Expected) (root : Node) : Run BlockId := do
  c.checkRoot e root
  c.blockAt e [] root

end Config

namespace CursorId

/-- Makes the block that matches the next child. -/
def childBlock (c : CursorId) (e : Expected) : Run BlockId := do
  c.checkUsable
  c.checkChildrenMatter
  let cursor ← Run.cursor c
  Run.newBlock ⟨cursor.config, e, cursor.path, some c, .absent, none⟩

/-- Matches the next child and returns the value of the script. -/
def extractFromChild {α : Type} (c : CursorId) (e : Expected) (script : CursorId → Run α) :
    Run α := do
  (← c.childBlock e).run script

/-- Matches the next child and returns it. -/
def child {α : Type} (c : CursorId) (e : Expected) (script : CursorId → Run α) : Run Node :=
  c.extractFromChild e fun inner => do
    discard (script inner)
    return (← Run.cursor inner).node

/-- Takes a number of children that only have to exist. -/
def skip (c : CursorId) (count : Int) : Run Unit := do
  if count < 0 then throw (.negativeSkip count)
  c.checkUsable
  c.checkChildrenMatter
  let cursor ← Run.cursor c
  let next := cursor.next + count.toNat
  if cursor.children.length < next then
    mismatchAt cursor.config cursor.path (.missingChild (next - 1))
  else modify (·.modifyCursor c fun cursor => { cursor with next := next })

end CursorId

/-- The display of a cursor. -/
def Cursor.display (c : Cursor) (w : World) : String :=
  "NodeCursor<" ++ ((c.config.view w).nodeName c.node).spoken ++ ">"

end TreeShape
