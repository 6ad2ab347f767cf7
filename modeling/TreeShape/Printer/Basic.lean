import TreeShape.Adapter
import TreeShape.AttributeDump
import TreeShape.Outline

/-!
# Printers

A printer turns the tree below a node into a text, down to a limit.  It fails if a node that it asks
does not tell its children, or what is asserted about it.  A printer is bound to an adapter when it is
made and keeps to it.  Two printers are the same only if they carry the same serial number.

Asking and writing are kept apart: first all nodes are asked that the text needs, in the order in which
it needs them, and the first refusal is the failure; the text is then written from a finite tree, and
writing cannot fail.  Printers differ in which nodes they ask.  An outline asks those at the limit as
well, since it tells how many children are hidden there; a transcript does not, and asks nothing below a
node whose match is replaced.
-/

namespace TreeShape

inductive PrinterKind where
  | outline
  | transcript
  | attributes
  | probe
  deriving DecidableEq, Repr

def PrinterKind.word : PrinterKind → String
  | outline => "simple"
  | transcript => "dsl"
  | attributes => "attr"
  | probe => "probe"

/-- A printer bound to an adapter. -/
structure Printer where
  serial : Nat
  kind : PrinterKind
  adapter : Adapter
  render : World → Node → DumpLimit → Except Failure String

namespace Printer

/-- Prints outlines in a style that may depend on the world.  The nodes at the limit are asked too. -/
def outline (serial : Nat) (adapter : Adapter) (style : World → Outline.Style) : Printer where
  serial := serial
  kind := .outline
  adapter := adapter
  render w n limit := do
    let view := adapter.view w
    view.askWithin View.refusesNothing View.skipsNone (limit.reach view.height) n
    return Outline.render (style w) limit (view.visible limit n)

/-- Prints transcripts in a style that may depend on the world.  Only the nodes above the limit are
asked for their children, and assertions are made about those at the limit too; in either case only
about those whose match is not replaced, nor that of a node above them. -/
def transcript (serial : Nat) (adapter : Adapter) (style : World → Transcript.Style) : Printer where
  serial := serial
  kind := .transcript
  adapter := adapter
  render w n limit := do
    let view := adapter.view w
    let style := style w
    view.askWithin style.refusal style.replaces (limit.levels view.height) n
    return Transcript.render style limit (view.pruned style.replaces 0 (limit.levels view.height) n)

def attributes (serial : Nat) (adapter : Adapter) (style : World → Transcript.Style) : Printer :=
  { transcript serial adapter style with kind := .attributes }

/-- The transcript printer that is used where none is asked for. -/
def usual (serial : Nat) (adapter : Adapter) : Printer :=
  transcript serial adapter fun w => Transcript.plain 4 w.typeNameOf

/-- Prints what is written for the node, and the limit.  No node is asked. -/
def probe (serial : Nat) (adapter : Adapter) : Printer where
  serial := serial
  kind := .probe
  adapter := adapter
  render w n limit :=
    let mark := (w.forest.mark? n).getD "None"
    .ok ("<" ++ mark ++ "@" ++ ((limit.map toString).getD "None") ++ ">")

end Printer

end TreeShape
