import TreeShape.DumpLimit

/-!
# Outlines

An outline shows a tree with one line for each node, indented under its parent and joined to it by
branches.  In front of a node's name stands one string for each ancestor, which says whether that
ancestor has a later sibling, and then the fork of the node itself.  Below a node at the limit that
has children, one more line says how many are hidden.
-/

namespace TreeShape.Outline

/-- The strings that draw the branches. -/
structure Strokes where
  /-- In front of a node that has a later sibling. -/
  fork : String
  /-- In front of a node that is the last of its siblings. -/
  lastFork : String
  /-- Below a node that has a later sibling. -/
  vertical : String
  /-- Below a node that is the last of its siblings. -/
  blank : String
  deriving DecidableEq, Repr

def Strokes.ascii : Strokes := ⟨"+--", "+--", "|  ", "   "⟩

def Strokes.boxes : Strokes := ⟨"├── ", "└── ", "│   ", "    "⟩

/-- What an outline says on the lines it draws. -/
structure Style where
  strokes : Strokes
  label : Node → String
  /-- The line below a node at the limit, given the number of its children; none for no line. -/
  boundary : Node → Nat → Option String

def hiddenText (count : Nat) : String :=
  if count = 1 then "1 child is not shown" else toString count ++ " children are not shown"

/-- The strings in front of a line: one for each node above, then the fork.  Each flag says whether
its node has a later sibling. -/
def indent (s : Strokes) (above : List Bool) (follows : Bool) : String :=
  String.join (above.map fun f => if f then s.vertical else s.blank)
    ++ if follows then s.fork else s.lastFork

/-- The line below a node at the limit. -/
def boundaryLines (s : Style) (above : List Bool) (follows : Bool) (n : Node) (count : Nat) :
    List String :=
  if count = 0 then []
  else match s.boundary n count with
    | none => []
    | some text => [indent s.strokes (above ++ [follows]) false ++ text]

mutual

/-- The lines of a tree whose root has the given nodes above it. -/
def lines (s : Style) (limit : DumpLimit) (above : List Bool) (follows : Bool) :
    Tree → List String
  | .branch n ts =>
    (indent s.strokes above follows ++ s.label n) ::
      if limit.isExhausted then boundaryLines s above follows n ts.length
      else linesOfAll s limit.below (above ++ [follows]) ts

/-- The lines of siblings, in order; all but the last have a later one. -/
def linesOfAll (s : Style) (limit : DumpLimit) (above : List Bool) : List Tree → List String
  | [] => []
  | t :: ts => lines s limit above (!ts.isEmpty) t ++ linesOfAll s limit above ts

end

/-- The outline of a tree.  Every line ends in a line feed. -/
def render (s : Style) (limit : DumpLimit) (t : Tree) : String :=
  String.join ((lines s limit [] false t).map (· ++ "\n"))

end TreeShape.Outline
