import TreeShape.Printer.Basic
import TreeShape.Text.Template

/-!
# Styles from templates

Styles described by data: templates for the texts, and tables that say for which types of nodes they
are used.  A type is looked up by its declared name.
-/

namespace TreeShape

open Text (fill)

/-! ## Outlines -/

/-- The line below a node at the limit of an outline. -/
inductive BoundaryLine where
  | usual
  | hidden
  | dots
  deriving DecidableEq, Repr

/-- An outline style given by data. -/
structure OutlineHooks where
  strokes : Outline.Strokes := .ascii
  /-- The stored attribute that is shown behind the name of a node, where it is a text. -/
  shown : Option String := none
  boundary : BoundaryLine := .usual

namespace OutlineHooks

def boundaryText (k : OutlineHooks) (count : Nat) : Option String :=
  match k.boundary with
  | .usual => some (Outline.hiddenText count)
  | .hidden => none
  | .dots => some "..."

def style (k : OutlineHooks) (adapter : Adapter) (w : World) : Outline.Style where
  strokes := k.strokes
  label n :=
    let shown := (k.shown.bind (w.storedName? n)).map fun name => " (" ++ name.spoken ++ ")"
    ((adapter.view w).nodeName n).text ++ shown.getD ""
  boundary _ count := k.boundaryText count

end OutlineHooks

/-! ## Transcripts -/

/-- A transcript style given by data. -/
structure TranscriptHooks where
  indent : Nat := 4
  /-- More assertions for the nodes of a type; `c` is the cursor. -/
  assertions : List (String × List String) := []
  /-- The holders of the children of a type's nodes, in place of all others. -/
  holders : Option (List (String × List (Int × String))) := none
  /-- What replaces the match of children of a type; `c` is the parent's cursor. -/
  replacements : List (String × String) := []
  /-- The identity of an attribute `a` of the node of `p` with the child `r`. -/
  identity : Option String := none
  typePrefix : String := ""
  method : String := "match_node"
  moreArguments : String := ""
  /-- What opens the block of the root; `t` is the type. -/
  opening : Option String := none
  /-- The name of a cursor; `d` is its depth. -/
  cursorName : Option String := none

namespace TranscriptHooks

/-- Applies the hooks to the assertions and holders of a base style. -/
def style (k : TranscriptHooks) (w : World) (base : Transcript.Style) : Transcript.Style :=
  let typeExpression := fun n => k.typePrefix ++ w.typeNameOf n
  { base with
    indent := k.indent
    assertions := fun n cursor =>
      base.assertions n cursor ++
        ((k.assertions.lookup (w.typeNameOf n)).getD []).map fun t => fill t [⟨'c', cursor⟩]
    holders := match k.holders with
      | none => base.holders
      | some table => fun n => (table.lookup (w.typeNameOf n)).getD []
    replacement := fun _ child cursor =>
      (k.replacements.lookup (w.typeNameOf child)).map fun t => fill t [⟨'c', cursor⟩]
    identity := match k.identity with
      | none => base.identity
      | some t => fun cursor access child =>
        fill t [⟨'a', access⟩, ⟨'p', cursor⟩, ⟨'r', child⟩]
    typeExpression := typeExpression
    opening := fun n onlyRoot => match k.opening with
      | none => Transcript.plainOpening k.method (typeExpression n) k.moreArguments onlyRoot
      | some t => fill t [⟨'t', typeExpression n⟩]
    cursorName := match k.cursorName with
      | none => base.cursorName
      | some t => fun depth => fill t [⟨'d', toString depth⟩] }

end TranscriptHooks

/-! ## Dumps of attributes -/

mutual

/-- The literal of a value, where sequences of values with literals have one too. -/
def Value.sequenceLiteral? (h : Hierarchy) : Value → Option String
  | .list items => (sequenceLiterals? h items).map fun ls => "[" ++ ", ".intercalate ls ++ "]"
  | .tuple items => (sequenceLiterals? h items).map fun ls => "[" ++ ", ".intercalate ls ++ "]"
  | v => v.literal? h

/-- The literals of all items, if each has one. -/
def Value.sequenceLiterals? (h : Hierarchy) : List Value → Option (List String)
  | [] => some []
  | v :: vs =>
    match sequenceLiteral? h v, sequenceLiterals? h vs with
    | some l, some ls => some (l :: ls)
    | _, _ => none

end

/-- A selection of attributes given by data. -/
structure SelectionHooks where
  /-- The names to dump, and no others. -/
  names : Option (List String) := none
  takesPrivate : Bool := false
  sequences : Bool := false
  /-- The assertion that the attribute `n` of the node of `c` has the literal `v`. -/
  assertion : Option String := none

def SelectionHooks.selection (k : SelectionHooks) (h : Hierarchy) : AttributeDump.Selection where
  takes _ name := match k.names with
    | some names => names.contains name
    | none => k.takesPrivate || AttributeDump.isPublic name
  literal := if k.sequences then Value.sequenceLiteral? h else Value.literal? h
  assertion cursor name v literal := match k.assertion with
    | none => AttributeDump.plainAssertion cursor name v literal
    | some t => fill t [⟨'c', cursor⟩, ⟨'n', name⟩, ⟨'v', literal⟩]

/-- The style of dumps of attributes that the hooks describe, on a world. -/
def attributeStyle (k : TranscriptHooks) (s : SelectionHooks) (adapter : Adapter) (w : World) :
    Transcript.Style :=
  k.style w (AttributeDump.style (s.selection w.hierarchy) w (adapter.view w)
    (Transcript.plain k.indent w.typeNameOf))

namespace Printer

def hookedOutline (serial : Nat) (adapter : Adapter) (k : OutlineHooks) : Printer :=
  outline serial adapter (k.style adapter)

def hookedTranscript (serial : Nat) (adapter : Adapter) (k : TranscriptHooks) : Printer :=
  transcript serial adapter fun w => k.style w (Transcript.plain k.indent w.typeNameOf)

def hookedAttributes (serial : Nat) (adapter : Adapter) (k : TranscriptHooks)
    (s : SelectionHooks) : Printer :=
  attributes serial adapter (attributeStyle k s adapter)

end Printer

end TreeShape
