import TreeShape.Printer.Basic

/-!
# Configurations

What a match needs beside the tree and the script: the adapter, the printer that dumps subtrees into
failures, the limit of these dumps, and a check that every matched node has to pass.

A configuration is made from options and never changes; a copy with changes is made from the old options
with the changes put over them, `Options.override`.  A choice of a printer is resolved when the
configuration is made, on the adapter that it has then.  What the options of a configuration say about
the printer is therefore the printer itself, `Config.options`, so that a copy on another adapter keeps
the printer on the old one unless the changes mention a printer.

Functions cannot be compared, so checks and printers that are made carry serial numbers, and two of them
are the same if their numbers are, `Config.same`.
-/

namespace TreeShape

/-- A check that matched nodes have to pass, beside what scripts assert. -/
structure ImplicitCheck where
  serial : Nat
  run : World → Node → Except Failure Unit

/-- All that is set for a match. -/
structure Config where
  adapter : Adapter
  printer : Option Printer
  limit : DumpLimit
  implicit : Option ImplicitCheck

/-- How the printer of a configuration is given. -/
inductive PrinterChoice where
  /-- The usual printer, on the adapter of the configuration. -/
  | usual
  | fixed (printer : Option Printer)
  /-- Made on the adapter of the configuration. -/
  | made (maker : Adapter → Option Printer)

/-- What a configuration is made from.  Where the adapter should be there may stand something else,
known by the name of its type. -/
structure Options where
  adapter : Except String Adapter
  /-- The printer, if the options mention one. -/
  printer : Option PrinterChoice := none
  limit : DumpLimit := none
  implicit : Option ImplicitCheck := none
  /-- Whether there is to be no printer, which excludes mentioning one. -/
  withoutDumps : Bool := false

/-- Options that replace others. -/
structure Changes where
  adapter : Option Adapter := none
  printer : Option PrinterChoice := none
  limit : Option DumpLimit := none
  implicit : Option (Option ImplicitCheck) := none

/-- Puts changes over options. -/
def Options.override (o : Options) (c : Changes) : Options where
  adapter := (c.adapter.map Except.ok).getD o.adapter
  printer := c.printer.or o.printer
  limit := c.limit.getD o.limit
  implicit := c.implicit.getD o.implicit
  withoutDumps := o.withoutDumps

/-- The printer that a choice gives on an adapter.  A printer made here carries the serial number. -/
def PrinterChoice.resolve (choice : PrinterChoice) (serial : Nat) (adapter : Adapter) :
    Option Printer :=
  match choice with
  | usual => some (.usual serial adapter)
  | fixed printer => printer
  | made maker => maker adapter

/-- Whether the choice has to be resolved on an adapter. -/
def PrinterChoice.isMade : PrinterChoice → Bool
  | fixed _ => false
  | _ => true

/-- The choice of a printer: the one mentioned, else none or the usual one. -/
def Options.choice (o : Options) : PrinterChoice :=
  o.printer.getD (if o.withoutDumps then .fixed none else .usual)

namespace Config

/-- Makes a configuration; the serial number is for the usual printer. -/
def make (o : Options) (serial : Nat) : Except Failure Config :=
  if o.withoutDumps && o.printer.isSome then .error (.repeatedOption "error_printer")
  else match o.adapter with
    | .error typeName => .error (.notAnAdapter typeName)
    | .ok adapter => .ok ⟨adapter, o.choice.resolve serial adapter, o.limit, o.implicit⟩

/-- The options of a configuration.  Its printer is fixed now, whatever it was made from. -/
def options (c : Config) : Options :=
  ⟨.ok c.adapter, some (.fixed c.printer), c.limit, c.implicit, false⟩

def withOptions (c : Config) (changes : Changes) (serial : Nat) : Except Failure Config :=
  make (c.options.override changes) serial

/-- Whether two printers, if any, are the same. -/
def samePrinter (a b : Config) : Bool := a.printer.map (·.serial) == b.printer.map (·.serial)

/-- Whether two configurations have the same adapter, printer, limit and check. -/
def same (a b : Config) : Bool :=
  a.adapter.name == b.adapter.name && a.samePrinter b && a.limit == b.limit
    && a.implicit.map (·.serial) == b.implicit.map (·.serial)

def view (c : Config) (w : World) : View := c.adapter.view w

end Config

structure ConfigSummary where
  adapter : String
  printer : Option PrinterKind
  printerAdapter : Option String
  limit : DumpLimit
  hasImplicit : Bool
  deriving DecidableEq, Repr

def Config.summary (c : Config) : ConfigSummary where
  adapter := c.adapter.name
  printer := c.printer.map (·.kind)
  printerAdapter := c.printer.map (·.adapter.name)
  limit := c.limit
  hasImplicit := c.implicit.isSome

/-- A configuration with the printer for dumps on demand. -/
structure Matcher where
  config : Config
  dumpPrinter : Printer

namespace Matcher

/-- A matcher dumps with the given printer, else with that of the configuration, else with the usual
one, which then carries the serial number. -/
def make (c : Config) (dumpPrinter : Option Printer) (serial : Nat) : Matcher where
  config := c
  dumpPrinter := (dumpPrinter <|> c.printer).getD (.usual serial c.adapter)

/-- Whether the dumps come from the configuration's own printer. -/
def usesConfigPrinter (m : Matcher) : Bool :=
  m.config.printer.map (·.serial) == some m.dumpPrinter.serial

def dump (m : Matcher) (w : World) (n : Node) (limit : DumpLimit) : Except Failure String :=
  m.dumpPrinter.render w n limit

end Matcher

namespace Location

/-- The dump of the end of a path, if the configuration has a printer and the path an end. -/
def dumpOf (c : Config) (w : World) (nodes : List Node) : Except Failure (Option String) :=
  match c.printer, nodes.getLast? with
  | some printer, some n => (printer.render w n c.limit).map some
  | _, _ => .ok none

def namesOf (c : Config) (w : World) (nodes : List Node) : List Name :=
  nodes.map (c.view w).nodeName

/-- The place at the end of a path, as a configuration reports it.  There is none if the dump fails. -/
def of (c : Config) (w : World) (nodes : List Node) : Except Failure Location :=
  (dumpOf c w nodes).map fun dump => ⟨nodes, namesOf c w nodes, dump⟩

end Location

end TreeShape
