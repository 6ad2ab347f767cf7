import TreeShape.DumpLimit
import TreeShape.Text.Lines

/-!
# Transcripts

A transcript is the script that matches a given tree: a block for each node that has children or
assertions of its own, a single call for each of the others, and nothing below the limit, where
children are ignored.  The transcript of a child is indented one level deeper than its block's header.

What a transcript says about a node beside its place is a matter of style: assertions at the start of
the node's block, the attribute of the parent that holds it, or a text of its own in place of the call.
A style may also be at a loss about a node, and then there is no transcript.
-/

namespace TreeShape.Transcript

/-- How a transcript puts things. -/
structure Style where
  /-- The spaces of one level. -/
  indent : Nat
  /-- Why nothing can be asserted about a node. -/
  refusal : Node → Option Failure
  /-- Statements at the start of the block of a node, given the name of its cursor. -/
  assertions : Node → String → List String
  /-- The attributes of a node that hold its children, by the position of the child.  Positions where no
  child stands do not count. -/
  holders : Node → List (Int × String)
  /-- The text in place of the match of a child, given its parent and the name of the parent's cursor. -/
  replacement : Node → Node → String → Option String
  /-- The statement that an attribute of a cursor's node is the given child. -/
  identity : String → String → String → String
  /-- The expression for the type of a node. -/
  typeExpression : Node → String
  /-- The expression that opens the block of the root, and whether only the root is dumped. -/
  opening : Node → Bool → String
  /-- The name of the cursor at a depth. -/
  cursorName : Nat → String

/-- Whether the match of a child is replaced, given its parent and the depth of the parent. -/
def Style.replaces (s : Style) (depth : Nat) (parent child : Node) : Bool :=
  (s.replacement parent child (s.cursorName depth)).isSome

/-- The arguments of the match of a node: its type, and whether its children are ignored. -/
def arguments (typeExpression : String) (ignoring : Bool) : String :=
  typeExpression ++ if ignoring then ", ignore_children=True" else ""

/-- Puts one level of spaces in front of a line, unless it is empty. -/
def indentLine (width : Nat) (line : String) : String :=
  if line.isEmpty then line else String.ofList (List.replicate width ' ') ++ line

/-- The statements for a child whose block has the given body. -/
def childLines (s : Style) (depth : Nat) (child : Node) (ignoring : Bool)
    (holder : Option String) (body : List String) : List String :=
  let outer := s.cursorName depth
  let inner := s.cursorName (depth + 1)
  let call := arguments (s.typeExpression child) ignoring
  match body, holder with
  | [], none => [outer ++ ".child(" ++ call ++ ")"]
  | [], some access =>
    [inner ++ " = " ++ outer ++ ".child(" ++ call ++ ")", s.identity outer access inner]
  | body, holder =>
    (("with " ++ outer ++ ".child_block(" ++ call ++ ") as " ++ inner ++ ":")
      :: body.map (indentLine s.indent))
      ++ (holder.map fun access => s.identity outer access (inner ++ ".node")).toList

/-- Whether an empty line stands in front of a child: the first child after assertions, and every
child that some attribute holds. -/
def gap (asserted : Bool) (position : Nat) (holder : Option String) : List String :=
  if (asserted && position == 0) || holder.isSome then [""] else []

mutual

/-- The statements in the block of a node at a depth. -/
def body (s : Style) (limit : DumpLimit) (depth : Nat) : Tree → List String
  | .branch n ts =>
    let assertions := s.assertions n (s.cursorName depth)
    assertions.flatMap Text.lines ++
      if limit.isExhausted then []
      else children s limit depth n (s.holders n) (!assertions.isEmpty) 0 ts

/-- The statements for the children of a node, from a position on. -/
def children (s : Style) (limit : DumpLimit) (depth : Nat) (parent : Node)
    (holders : List (Int × String)) (asserted : Bool) (position : Nat) : List Tree → List String
  | [] => []
  | t :: ts =>
    let rest := children s limit depth parent holders asserted (position + 1) ts
    match s.replacement parent t.root (s.cursorName depth) with
    | some text => gap asserted position none ++ Text.lines text ++ rest
    | none =>
      let holder := holders.lookup (position : Int)
      gap asserted position holder
        ++ childLines s depth t.root limit.below.isExhausted holder
          (body s limit.below (depth + 1) t)
        ++ rest

end

/-! ## Skipping what is replaced -/

/-- The statements for the children depend on their roots and, where a match is not replaced, on the
body. -/
theorem children_map_congr {α : Type} (s : Style) {limit : DumpLimit} {depth : Nat} {parent : Node}
    {holders : List (Int × String)} {asserted : Bool} {f g : α → Tree} {cs : List α}
    (root : ∀ c ∈ cs, (f c).root = (g c).root)
    (same : ∀ c ∈ cs, s.replacement parent (g c).root (s.cursorName depth) = none →
      body s limit.below (depth + 1) (f c) = body s limit.below (depth + 1) (g c)) (position : Nat) :
    children s limit depth parent holders asserted position (cs.map f) =
      children s limit depth parent holders asserted position (cs.map g) := by
  induction cs generalizing position with
  | nil => rfl
  | cons c cs ih =>
    obtain ⟨hroot, hroots⟩ := List.forall_mem_cons.mp root
    obtain ⟨hsame, hsames⟩ := List.forall_mem_cons.mp same
    rw [List.map_cons, List.map_cons, children, children, hroot, ih hroots hsames]
    cases h : s.replacement parent (g c).root (s.cursorName depth) with
    | some text => rfl
    | none => rw [hsame h]

/-- What lies below a child whose match is replaced does not matter. -/
theorem body_pruned (s : Style) (v : View) (steps : Nat) (limit : DumpLimit) (depth : Nat)
    (n : Node) :
    body s limit depth (v.pruned s.replaces depth steps n) = body s limit depth (v.tree steps n) := by
  induction steps generalizing limit depth n with
  | zero => rfl
  | succ steps ih =>
    simp only [View.pruned, View.tree, body]
    congr 1
    split
    · rfl
    · refine children_map_congr s (fun c _ => ?_) (fun c _ h => ?_) 0
      · rw [View.root_tree]
        split
        · rfl
        · exact View.root_pruned ..
      · simp only [View.root_tree] at h
        simp [Style.replaces, h, ih]

/-- The lines of the transcript of a tree. -/
def lines (s : Style) (limit : DumpLimit) (t : Tree) : List String :=
  let statements := body s limit 0 t
  ("with " ++ s.opening t.root limit.isExhausted ++ " as " ++ s.cursorName 0 ++ ":")
    :: (if statements.isEmpty then ["pass"] else statements).map (indentLine s.indent)

def render (s : Style) (limit : DumpLimit) (t : Tree) : String := Text.join (lines s limit t)

/-- The transcript of a pruned tree is that of the whole one. -/
theorem render_pruned (s : Style) (v : View) (steps : Nat) (limit : DumpLimit) (n : Node) :
    render s limit (v.pruned s.replaces 0 steps n) = render s limit (v.tree steps n) := by
  simp only [render, lines, body_pruned, View.root_pruned, View.root_tree]

/-! ## The plain style -/

/-- The name of the cursor at a depth: the root's has no number. -/
def plainCursorName (depth : Nat) : String :=
  if depth = 0 then "it" else "it" ++ toString depth

/-- The statement that an attribute of a cursor's node is the given child. -/
def plainIdentity (cursor access child : String) : String :=
  "assert " ++ cursor ++ ".node." ++ access ++ " is " ++ child

/-- The expression that opens the block of the root. -/
def plainOpening (method typeExpression more : String) (onlyRoot : Bool) : String :=
  method ++ "(node, " ++ arguments typeExpression onlyRoot ++ more ++ ")"

/-- Structure only, with types called by their names. -/
def plain (indent : Nat) (typeName : Node → String) : Style where
  indent := indent
  refusal _ := none
  assertions _ _ := []
  holders _ := []
  replacement _ _ _ := none
  identity := plainIdentity
  typeExpression := typeName
  opening n := plainOpening "match_node" (typeName n) ""
  cursorName := plainCursorName

end TreeShape.Transcript
