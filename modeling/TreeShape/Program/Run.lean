import TreeShape.Program.Basic
import TreeShape.Syntax.Plant
import TreeShape.Value.Equality

/-!
# Running programs

The meaning of programs on sessions.  Programs run in one of two ways: a *guarded* one catches the
failure of each step, reports it and goes on; any other is left by its first failure.  Each step reports
its outcome when it ends.

Running is a recursion on programs, and matching calls back: a form with a program inside hands the rest
of the recursion to the match as the script of a cursor.  The engine does not know programs, only
scripts that take a cursor.
-/

namespace TreeShape

/-- The cursor a step is about, if it has one. -/
abbrev Current := Option CursorId

namespace Run

/-- The node that a reference leads to. -/
def follow (r : NodeRef) : Run Node := do resume ((← world).resolve r)

def followNamed (r : NodeRef) : Run Node := do resume ((← world).resolveNamed r)

def followAll (rs : List NodeRef) : Run (List Node) := do resume ((← world).resolveAll rs)

def expected (e : Expectation) : Run Expected := do
  return ⟨← resume ((← world).typeNamed e.type), e.ignoring⟩

def evaluate (t : Term) : Run Value := do resume ((← world).evaluate t)

/-- Makes what is written in place and gives its value. -/
def grow (s : Syntax.Sprout) : Run Value := do
  let (v, grown) ← resume (s.grow.run (← world))
  modifyWorld fun _ => grown
  return v

/-- The cursor of a step that uses one.  Without a cursor the use looks like that of an attribute of an
empty place. -/
def needed (c : Current) (use : String) : Run CursorId := do
  match c with
  | some c => return c
  | none => throw (.noAttribute ((← world).typeNameOf .absent) use)

def setup : Setup → Run Config
  | .config name => named (·.configs) name
  | .matcher name => do return (← named (α := Matcher) (·.matchers) name).config

/-- Goes on with a configuration and reports the printer that was made for it, if its choice asked for
one. -/
def configured (choice : PrinterChoice) (made : Except Failure Config) : Run Config := do
  let c ← resume made
  if choice.isMade then record (.resolved (c.printer.map (·.kind)))
  return c

def makeConfig (o : Options) (serial : Nat) : Run Config :=
  configured o.choice (Config.make o serial)

def changeConfig (c : Config) (changes : Changes) (serial : Nat) : Run Config :=
  configured (c.options.override changes).choice (c.withOptions changes serial)

end Run

def Matcher.answer (m : Matcher) : Answer :=
  .matcher m.config.summary m.dumpPrinter.kind m.dumpPrinter.adapter.name m.usesConfigPrinter

/-! ## Results -/

mutual

/-- The value of a result, given the current cursor and the value of the step before. -/
def Result.value? (current : Current) (last : Value) : Result → Run Value
  | .attribute name => do
    let cursor ← Run.cursor (← Run.needed current "node")
    Run.resume ((← Run.world).readOrNothing cursor.node name)
  | .node => do return .ofNode (← Run.cursor (← Run.needed current "node")).node
  | .path => do return .ofNodes (← Run.cursor (← Run.needed current "path")).path
  | .childCount => do
    return .int (← Run.cursor (← Run.needed current "num_children")).children.length
  | .last => return last
  | .value t => Run.evaluate t
  | .list items => do return .list (← Result.values? current last items)

def Result.values? (current : Current) (last : Value) : List Result → Run (List Value)
  | [] => return []
  | r :: rs => do
    let v ← Result.value? current last r
    return v :: (← Result.values? current last rs)

end

/-! ## Actions -/

namespace Action

def runExpect (current : Current) (name : String) (t : Term) : Run Unit := do
  let cursor ← Run.cursor (← Run.needed current "node")
  let w ← Run.world
  let actual ← Run.resume (w.readOrNothing cursor.node name)
  let v ← Run.evaluate t
  if !actual.agrees w v then
    let text := "expected: " ++ v.display w.hierarchy ++ " but was: " ++ actual.display w.hierarchy
    throw (.raised .assertion text none none)

def describe (c : CursorId) : Run Value := do
  let cursor ← Run.cursor c
  return .list [.ofNode cursor.node, .ofNodes cursor.path, .int cursor.children.length,
    .bool cursor.ignoring, .text (cursor.display (← Run.world))]

/-- The words for the end of a path: the path, its names, and a message there. -/
def describeEnd (config : Config) (path : List Node) (message : String) : Run Value := do
  let place ← Run.resume (Location.of config (← Run.world) path)
  return .list [.text (Location.pathText place.names), .list (place.names.map .ofName),
    .text (place.message message)]

/-- Sets an attribute, which some nodes do not let be set. -/
def setStored (n : Node) (name : String) (v : Value) : Run Unit := do
  if let some f := (← Run.world).settingRefusal n then throw f
  Run.modifyWorld (·.setAttribute n name v)

/-- Registers a tree; the root counts as registered even if not all of the tree can be reached. -/
def runRegister (registry : String) (root : Node) : Run Unit := do
  let w ← Run.world
  Run.modifyWorld (·.register registry root)
  if let some f := w.reachRefusal root then throw f

/-- Unregisters a tree, which must be registered. -/
def runUnregister (registry : String) (root : Node) : Run Unit := do
  let w ← Run.world
  if !w.isRegistered registry root then throw (.unregistered (w.typeNameOf root))
  Run.modifyWorld (·.unregister registry root)
  if let some f := w.reachRefusal root then throw f

/-- Parses a source into a registered tree. -/
def parseSource (registry source : String) (single : Bool) (beginning : String) : Run Node := do
  match (← Run.world).parse registry source single beginning with
  | some (w, root) =>
    Run.modifyWorld fun _ => w
    return root
  | none => throw .unreadable

def runChangeConfig (config name : String) (changes : Adapter → Except Failure Changes)
    (serial : Nat) : Run Answer := do
  let old ← Run.named (·.configs) config
  let new ← Run.changeConfig old (← Run.resume (changes old.adapter)) serial
  Run.bindConfig name new
  return .changed new.summary old.summary (new.samePrinter old) (new.same old)

def run (current : Current) : Action → Run Answer
  | makeChildBlock e block => do
    let c ← Run.needed current "child_block"
    Run.bindBlock block (← c.childBlock (← Run.expected e))
    return .value .nothing
  | makeMatching setup root e block => do
    let e ← Run.expected e
    let root ← Run.follow root
    Run.bindBlock block (← (← Run.setup setup).matching e root)
    return .value .nothing
  | makeBlock config root parentPath e block => do
    let c ← Run.named (·.configs) config
    let e ← Run.expected e
    let root ← Run.follow root
    Run.bindBlock block (← c.blockAt e (← Run.followAll parentPath) root)
    return .value .nothing
  | enter block bound => do
    let b ← Run.named (·.blocks) block
    Run.bindCursor bound (← BlockId.open b)
    return .value .nothing
  | exit block failure => do
    let b ← Run.named (·.blocks) block
    BlockId.exit b (failure.map (·.failure none))
    return .value (.bool false)
  | skip count => do
    (← Run.needed current "skip_children").skip count
    return .value .nothing
  | skipChild => do
    (← Run.needed current "skip_child").skip 1
    return .value .nothing
  | failing f => throw f
  | describeCursor => do return .value (← describe (← Run.needed current "node"))
  | raise r => throw (r.failure none)
  | expect name t => do
    runExpect current name t
    return .value .nothing
  | setChildren n children => do
    let n ← Run.followNamed n
    let children ← Run.followAll children
    Run.modifyWorld fun w => { w with forest := w.forest.setChildren n children }
    return .value .nothing
  | setParent n parent => do
    let parent ← Run.follow parent
    let n ← Run.followNamed n
    Run.modifyWorld fun w => { w with forest := w.forest.setParent n parent }
    return .value .nothing
  | setAttribute n name v => do
    let n ← Run.followNamed n
    setStored n name (← Run.grow v)
    return .value .nothing
  | register registry root => do
    let root ← Run.followNamed root
    runRegister registry root
    return .value (.ofNode root)
  | unregister registry root => do
    runUnregister registry (← Run.followNamed root)
    return .value .nothing
  | clearRegistry registry => do
    Run.modifyWorld (·.clearRegistry registry)
    return .value .nothing
  | parse registry source single beginning => do
    return .value (.ofNode (← parseSource registry source single beginning))
  | ask q => do Run.resume (q.answer (← Run.world))
  | describePath config path message => do
    let c ← Run.named (·.configs) config
    return .value (← describeEnd c (← Run.followAll path) message)
  | makeConfig name options serial => do
    let c ← Run.makeConfig options serial
    Run.bindConfig name c
    return .config c.summary
  | changeConfig config name changes serial => runChangeConfig config name changes serial
  | describeConfig config => do
    let c ← Run.named (·.configs) config
    return .config c.summary
  | assignField config field => do
    let _ ← Run.named (·.configs) config
    throw (.frozenField field)
  | makeMatcher name config printer serial => do
    let c ← Run.named (·.configs) config
    let m := Matcher.make c (← Run.resume (printer c.adapter)) serial
    Run.bindMatcher name m
    return m.answer
  | makeMatcherFor name options serial => do
    let m := Matcher.make (← Run.makeConfig options serial) none serial
    Run.bindMatcher name m
    return m.answer
  | matcherDump matcher n limit => do
    let m ← Run.named (·.matchers) matcher
    let n ← Run.follow n
    return .value (.text (← Run.resume (m.dump (← Run.world) n limit)))

end Action

/-! ## Forms -/

namespace Form

/-- The script of a form: it binds the cursor to the name, if one is given, and runs the program inside
on it. -/
def script (bound : Option String) (inside : Bool → Current → Run Value) (c : CursorId) :
    Run Value := do
  Run.bindCursor bound c
  inside false (some c)

/-- Runs a form.  The program inside is given as what it does, guarded or not, on a current cursor. -/
def run (current : Current) (bound : Option String) (inside : Bool → Current → Run Value) :
    Form → Run Value
  | matchTree setup root e => do
    let e ← Run.expected e
    let root ← Run.follow root
    return .ofNode (← (← Run.setup setup).matchTree e root (script bound inside))
  | extract setup root e => do
    let e ← Run.expected e
    let root ← Run.follow root
    (← Run.setup setup).extract e root (script bound inside)
  | matching setup root e => do
    let e ← Run.expected e
    let root ← Run.follow root
    discard ((← (← Run.setup setup).matching e root).within (script bound inside))
    return .nothing
  | execute config root parentPath e => do
    let c ← Run.named (·.configs) config
    let e ← Run.expected e
    let root ← Run.follow root
    c.execute e (← Run.followAll parentPath) root (script bound inside)
  | child e => do
    let c ← Run.needed current "child"
    return .ofNode (← c.child (← Run.expected e) (script bound inside))
  | extractFromChild e => do
    let c ← Run.needed current "extract_from_child"
    c.extractFromChild (← Run.expected e) (script bound inside)
  | childBlock e => do
    let c ← Run.needed current "child_block"
    discard ((← c.childBlock (← Run.expected e)).within (script bound inside))
    return .nothing
  | entering block => do
    let b ← Run.named (·.blocks) block
    discard (BlockId.within b (script bound inside))
    return .nothing
  | calling block => do
    let b ← Run.named (·.blocks) block
    BlockId.run b (script bound inside)
  | catching => do
    discard (inside true current)
    return .nothing
  | reraising r => do
    match ← Run.attempt (inside false current) with
    | .ok _ => return .nothing
    | .error f => throw (r.failure (some f.asCause))

end Form

/-! ## Programs -/

/-- The cursor of a step: the one that it names, else the current one. -/
def StepInfo.current (info : StepInfo) (current : Current) : Run Current :=
  match info.cursor with
  | none => return current
  | some name => do return some (← Run.named (·.cursors) name)

def StepInfo.summary? (info : StepInfo) (c : Current) (s : Session) : Option CursorSummary :=
  if info.showsCursor then c.bind s.summary? else none

/-- Runs a step on its cursor and reports how it ended.  A step whose cursor is unknown does not begin,
so it is not reported. -/
def StepInfo.report (info : StepInfo) (current : Current) (step : Current → Run Answer) :
    Run Value := do
  let c ← info.current current
  let outcome ← Run.attempt (step c)
  Run.record (.step info.label (outcome.mapError (·.kind)) (info.summary? c (← get)))
  return (← Run.resume outcome).toValue

/-- Catches the failure of a step if it is guarded. -/
def guarding (guarded : Bool) (step : Run Value) : Run Value := do
  match ← Run.attempt step with
  | .ok v => return v
  | .error f =>
    if guarded then
      Run.record (.caught f)
      return .nothing
    else throw f

/-- Runs a program, given the current cursor and the value of the step before. -/
def Program.run (guarded : Bool) (current : Current) (last : Value) : Program → Run Value
  | .done => return .nothing
  | .missing => do throw (.notCallable ((← Run.world).typeNameOf .absent))
  | .result r => r.value? current last
  | .action info a rest => do
    let v ← guarding guarded (info.report current a.run)
    rest.run guarded current v
  | .form info f bound inside rest => do
    let v ← guarding guarded (info.report current fun c => do
      return .value (← f.run c bound fun g d => inside.run g d .nothing))
    rest.run guarded current v

/-- The session after a guarded program, which starts without a cursor. -/
def Session.after (s : Session) (p : Program) : Session := (p.run true none .nothing s).2

end TreeShape
