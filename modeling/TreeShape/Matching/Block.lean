import TreeShape.Run

/-!
# Blocks

The life of a block.  Opening it takes its node, checks the node's type and parent, and makes a cursor.
Closing it makes the implicit check and counts the children.  Releasing it ends the life of the cursor
and frees the parent's cursor for the next child.

A block can be used in two ways: `run` calls a script with the cursor and returns its value, and
`within` encloses a body between entering and leaving.  Either way an assertion that leaves the block
without a location gets the path of the block's node, and the block is released in the end.

The order of the steps is the order in which failures win:

* What is wrong with a node is blamed on the node above it, since the block has no cursor of its own
  yet: `checkType` and `checkParent` report at the parent's path.
* A block that has taken a child and refuses it stays without a cursor and can be opened again, then
  with the next child: `takeNode` has advanced the parent's cursor, and nothing takes this back.
* `close` is reached only by bodies that come to a value, and makes the implicit check before it counts
  the children.
* `release` comes last whatever has happened before, and if it fails itself, its failure is the one that
  counts.
-/

namespace TreeShape

def mismatchAt {α : Type} (c : Config) (path : List Node) (reason : Mismatch) : Run α := do
  throw (.mismatch (← Run.resume (Location.of c (← Run.world) path)) reason)

def misuseAt {α : Type} (c : Config) (path : List Node) (reason : Misuse) : Run α := do
  throw (.misuse (← Run.resume (Location.of c (← Run.world) path)) reason)

/-- Fails with the mismatch made from an assertion at a place. -/
def assertionAt {α : Type} (c : Config) (path : List Node) (f : Failure) : Run α := do
  let w ← Run.world
  Run.record (.located f.kind (Location.namesOf c w path))
  throw (f.located (← Run.resume (Location.of c w path)))

namespace CursorId

/-- Refuses to go on if the cursor's block is over or that of a child is open. -/
def checkUsable (c : CursorId) : Run Unit := do
  let cursor ← Run.cursor c
  if cursor.closed then misuseAt cursor.config cursor.path .afterBlock
  else match cursor.activeChild with
    | none => return ()
    | some a =>
      let child ← Run.cursor a
      let view := cursor.config.view (← Run.world)
      misuseAt cursor.config cursor.path (.insideChild (view.nodeName child.node))

/-- Refuses to go on if the children do not matter. -/
def checkChildrenMatter (c : CursorId) : Run Unit := do
  let cursor ← Run.cursor c
  if cursor.ignoring then misuseAt cursor.config cursor.path .childrenIgnored

def takeChild (c : CursorId) : Run Node := do
  let cursor ← Run.cursor c
  match cursor.children[cursor.next]? with
  | none => mismatchAt cursor.config cursor.path (.missingChild cursor.next)
  | some child =>
    modify (·.modifyCursor c fun cursor => { cursor with next := cursor.next + 1 })
    return child

/-- Checks that all children were taken, unless they do not matter. -/
def checkChildCount (c : CursorId) : Run Unit := do
  let cursor ← Run.cursor c
  if !cursor.ignoring && cursor.next != cursor.children.length then
    mismatchAt cursor.config cursor.path (.childCount cursor.next cursor.children.length)

end CursorId

/-- What the node at the end of a path is called when seen from its parent, which is asked. -/
def labelFor (v : View) (parentPath : List Node) (n : Node) : Except Failure Label :=
  match parentPath.getLast? with
  | none => .ok .root
  | some p => (v.ask p).map fun children => .child (View.position? children n)

namespace BlockId

/-- Takes the node of the block: the next child of the cursor that made it, or its own node. -/
def takeNode (b : BlockId) : Run Node := do
  let block ← Run.block b
  match block.parentCursor with
  | none => return block.node
  | some c =>
    c.checkUsable
    let n ← c.takeChild
    modify (·.modifyBlock b fun block => { block with node := n })
    return n

def labelOf (b : BlockId) (n : Node) : Run Label := do
  let block ← Run.block b
  Run.resume (labelFor (block.config.view (← Run.world)) block.parentPath n)

def checkType (b : BlockId) (label : Label) (n : Node) : Run Unit := do
  let block ← Run.block b
  let view := block.config.view (← Run.world)
  if !(← Run.resume (view.askType n block.expected.type)) then
    mismatchAt block.config block.parentPath
      (.wrongType label (view.typeName block.expected.type) (view.typeNameOf n))

/-- Checks that the node's parent, where it is known, is the node above it on the path. -/
def checkParent (b : BlockId) (label : Label) (n : Node) : Run Unit := do
  let block ← Run.block b
  let view := block.config.view (← Run.world)
  match block.parentPath.getLast? with
  | none => return ()
  | some p =>
    if view.knowsParents && view.hasParentLink n && view.parent n != p then
      let actual := view.parent n
      mismatchAt block.config block.parentPath
        (.wrongParent label (view.nodeName p)
          (if actual.isAbsent then none else some (view.nodeName actual)))

/-- Makes the cursor of the block, and makes it the active child of the parent's cursor.  The node is
asked for its children now. -/
def attach (b : BlockId) (label : Label) (n : Node) : Run CursorId := do
  let block ← Run.block b
  let view := block.config.view (← Run.world)
  Run.record (.opened label (view.typeName block.expected.type))
  let children ← Run.resume (view.ask n)
  let c := (← get).freshCursor
  modify (·.addCursor
    { config := block.config
      path := block.parentPath ++ [n]
      node := n
      ignoring := block.expected.ignoring
      children := children })
  modify (·.modifyBlock b fun block => { block with cursor := some c })
  match block.parentCursor with
  | none => return c
  | some p =>
    modify (·.modifyCursor p fun cursor => { cursor with activeChild := some c })
    return c

/-- Opens the block, which must not have been open before. -/
def «open» (b : BlockId) : Run CursorId := do
  let block ← Run.block b
  if block.cursor.isSome then throw .reentered
  let n ← b.takeNode
  let label ← b.labelOf n
  b.checkType label n
  b.checkParent label n
  b.attach label n

def checkImplicit (b : BlockId) : Run Unit := do
  let block ← Run.block b
  match block.config.implicit with
  | none => return ()
  | some check =>
    Run.record (.checked block.node)
    Run.resume (check.run (← Run.world) block.node)

/-- The cursor of the block; there is none before the block is open. -/
def cursor (b : BlockId) : Run CursorId := do
  match (← Run.block b).cursor with
  | some c => return c
  | none => throw .unopened

/-- Does something for which assertions are located at the node of the block. -/
def locating {α : Type} (b : BlockId) (x : Run α) : Run α := do
  match ← Run.attempt x with
  | .ok a => return a
  | .error f =>
    if f.wantsLocation then
      let cursor ← Run.cursor (← b.cursor)
      assertionAt cursor.config cursor.path f
    else throw f

/-- Makes the implicit check, then counts the children. -/
def close (b : BlockId) : Run Unit := do
  b.locating b.checkImplicit
  (← b.cursor).checkChildCount

/-- Ends the life of the block's cursor and frees the parent's cursor. -/
def release (b : BlockId) : Run Unit := do
  let c ← b.cursor
  modify (·.modifyCursor c fun cursor => { cursor with closed := true })
  match (← Run.block b).parentCursor with
  | none => return ()
  | some p => modify (·.modifyCursor p fun cursor => { cursor with activeChild := none })

/-- Opens the block, runs a script on its cursor, and closes the block. -/
def run {α : Type} (b : BlockId) (script : CursorId → Run α) : Run α := do
  let c ← b.open
  Run.followedBy b.release do
    let result ← b.locating (script c)
    b.close
    return result

/-- Leaves the block after its body, which may have failed.  An assertion without location is replaced;
any other failure of the body is not raised again here. -/
def exit (b : BlockId) (failure : Option Failure) : Run Unit :=
  Run.followedBy b.release do
    match failure with
    | none => b.close
    | some f => if f.wantsLocation then b.locating (throw f) else return ()

/-- Encloses a body between entering and leaving the block. -/
def within {α : Type} (b : BlockId) (body : CursorId → Run α) : Run α := do
  let c ← b.open
  match ← Run.attempt (body c) with
  | .ok a => do
    b.exit none
    return a
  | .error f => do
    b.exit (some f)
    throw f

end BlockId

end TreeShape
