import TreeShape.Matching.Start
import TreeShape.Program.Question
import TreeShape.Syntax.Plant

/-!
# Programs

Programs that match trees, as data.  A program is a list of steps.  An *action* is a step by itself; a
*form* is a step with a program inside, which runs on a cursor of its own or on the current one.  A
program may end with a value.
-/

namespace TreeShape

/-- What a program raises of its own accord. -/
structure Raise where
  kind : FailureKind
  text : String
  path : Option (List String)
  deriving DecidableEq, Repr

/-- The failure raised, with the one that it replaces. -/
def Raise.failure (r : Raise) (cause : Option Cause) : Failure :=
  .raised r.kind r.text r.path cause

/-- What a program can return. -/
inductive Result where
  /-- An attribute of the current node; nothing if there is none. -/
  | attribute (name : String)
  | node
  | path
  | childCount
  /-- The value of the step before. -/
  | last
  | value (t : Term)
  | list (items : List Result)

/-- Where a match gets its configuration from. -/
inductive Setup where
  | config (name : String)
  | matcher (name : String)
  deriving DecidableEq, Repr

/-- What a program expects of a node, with the type by its name. -/
structure Expectation where
  type : TypeName
  /-- Whether the children do not matter. -/
  ignoring : Bool
  deriving DecidableEq, Repr

/-- Steps without a program inside.  Those on a cursor use the current one or the one named by the
step.  What a step refers to is looked up when it runs, in a fixed order, so that the first unknown name
ends it.  A block that is made may stay without a name. -/
inductive Action where
  | makeChildBlock (e : Expectation) (block : Option String)
  | makeMatching (setup : Setup) (root : NodeRef) (e : Expectation) (block : Option String)
  | makeBlock (config : String) (root : NodeRef) (parentPath : List NodeRef) (e : Expectation)
      (block : Option String)
  | enter (block : String) (bound : Option String)
  | exit (block : String) (failure : Option Raise)
  | skip (count : Int)
  | skipChild
  | describeCursor
  | failing (f : Failure)
  | raise (r : Raise)
  | expect (name : String) (t : Term)
  | setChildren (n : NodeRef) (children : List NodeRef)
  | setParent (n parent : NodeRef)
  | setAttribute (n : NodeRef) (name : String) (v : Syntax.Sprout)
  | register (registry : String) (root : NodeRef)
  | unregister (registry : String) (root : NodeRef)
  | clearRegistry (registry : String)
  | parse (registry : String) (source : String) (single : Bool) (beginning : String)
  | ask (q : Question)
  | describePath (config : String) (path : List NodeRef) (message : String)
  | makeConfig (name : String) (options : Options) (serial : Nat)
  /-- The changes may depend on the adapter of the configuration that is changed. -/
  | changeConfig (config name : String) (changes : Adapter → Except Failure Changes) (serial : Nat)
  | describeConfig (config : String)
  | assignField (config field : String)
  | makeMatcher (name config : String) (printer : Adapter → Except Failure (Option Printer))
      (serial : Nat)
  | makeMatcherFor (name : String) (options : Options) (serial : Nat)
  | matcherDump (matcher : String) (n : NodeRef) (limit : DumpLimit)

/-- Steps with a program inside. -/
inductive Form where
  | matchTree (setup : Setup) (root : NodeRef) (e : Expectation)
  | extract (setup : Setup) (root : NodeRef) (e : Expectation)
  | matching (setup : Setup) (root : NodeRef) (e : Expectation)
  | execute (config : String) (root : NodeRef) (parentPath : List NodeRef) (e : Expectation)
  | child (e : Expectation)
  | extractFromChild (e : Expectation)
  | childBlock (e : Expectation)
  /-- Encloses the program inside in a block made before. -/
  | entering (block : String)
  /-- Calls the program inside on the cursor of a block made before. -/
  | calling (block : String)
  /-- Runs every step inside and goes on after failures. -/
  | catching
  /-- Replaces a failure of the program inside. -/
  | reraising (r : Raise)

/-- How a step is reported: its label, the cursor it names, and whether the cursor is reported too. -/
structure StepInfo where
  label : String
  cursor : Option String := none
  showsCursor : Bool := false

/-- A list of steps, which may end with a result. -/
inductive Program where
  | done
  /-- No program, where there should be one: running it fails. -/
  | missing
  | result (r : Result)
  | action (info : StepInfo) (a : Action) (rest : Program)
  /-- The cursor that the program inside runs on is bound to a name, if one is given. -/
  | form (info : StepInfo) (f : Form) (bound : Option String) (inside rest : Program)

end TreeShape
