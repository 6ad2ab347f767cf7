import TreeShape.Config

/-!
# Traces

What a run leaves behind, in order: the implicit checks that were made, remarks about blocks and
printers, the outcome of each step, and the failures that were caught.
-/

namespace TreeShape

/-- What can be told of a cursor: how many children were taken, whether its block is over, and the node
of the child whose block is open. -/
structure CursorSummary where
  next : Nat
  closed : Bool
  activeChild : Option Node
  deriving DecidableEq, Repr

inductive Answer where
  | value (v : Value)
  | config (c : ConfigSummary)
  /-- A changed copy and the old configuration, whether they share a printer, and whether they are the
  same. -/
  | changed (new old : ConfigSummary) (samePrinter same : Bool)
  /-- A matcher's configuration, its printer with the adapter of that, and whether this is the printer
  of the configuration. -/
  | matcher (c : ConfigSummary) (printer : PrinterKind) (printerAdapter : String) (shared : Bool)
  /-- Whether each of some limits is exhausted, and the limit below it. -/
  | limits (rows : List (Bool × DumpLimit))
  deriving Inhabited

def DumpLimit.toValue (limit : DumpLimit) : Value := (limit.map Value.int).getD .nothing

/-- The answer as the value of its step.  A summary is a value without form. -/
def Answer.toValue : Answer → Value
  | value v => v
  | config _ => .formless .mapping
  | changed _ _ samePrinter same =>
    .list [.formless .mapping, .formless .mapping, .bool samePrinter, .bool same]
  | matcher _ printer printerAdapter shared =>
    .list [.formless .mapping, .text printer.word, .text printerAdapter, .bool shared]
  | limits rows => .list (rows.map fun row => .list [.bool row.1, row.2.toValue])

/-- One entry of a trace. -/
inductive Event where
  | checked (n : Node)
  /-- A configuration made its printer. -/
  | resolved (printer : Option PrinterKind)
  | opened (label : Label) (typeName : String)
  /-- An assertion got its location. -/
  | located (kind : FailureKind) (names : List Name)
  | caught (f : Failure)
  | step (label : String) (outcome : Except FailureKind Answer) (cursor : Option CursorSummary)

/-- The remark that an event makes, given the words for kinds of failures. -/
def Event.remark (h : Hierarchy) (failureWord : FailureKind → String) : Event → Option String
  | resolved printer =>
    some ("Resolved error printer " ++ (printer.map PrinterKind.word).getD "None")
  | opened label typeName => some ("Matching " ++ label.text ++ " as " ++ typeName)
  | located kind names =>
    some ("Annotating " ++ failureWord kind ++ " raised at " ++ Value.displayNames h names)
  | _ => none

end TreeShape
