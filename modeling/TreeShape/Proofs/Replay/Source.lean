import TreeShape.Syntax.Source
import TreeShape.Transcript

/-!
# Reading scripts

How the text of a script is read.  A line is a statement, the header of a block that is opened by a call, or
`pass`.  What stands inside a block is told by indentation alone: all lines below the block's header that are
indented deeper than it, of which there has to be at least one.  The lines of one block stand at one column,
which is that of its first line; anything else is an error, and so is a line that is none of the three.

Which statements there are does not matter to blocks, so all about these is said for any kind of statements.
The scripts of transcripts have calls for statements, and there are scripts with more.

`Suite.lines` goes the other way.  `suite?_lines` says that reading by indentation gets back what was
written, as long as a block is indented at all and none is empty.
-/

namespace TreeShape.Replay

/-! ## Words -/

/-- The words of a line. -/
inductive Word where
  | name (text : String)
  | symbol (c : Char)
  deriving DecidableEq, Repr

/-- The characters that are words by themselves. -/
def isSymbol (c : Char) : Bool := ['(', ')', '.', ',', '=', ':'].contains c

/-- The word that has been read so far, in reverse. -/
def wordOf : List Char → List Word
  | [] => []
  | cs => [.name (String.ofList cs.reverse)]

/-- The words of the rest of a line, with the word read so far in reverse. -/
def scan (word : List Char) : List Char → Option (List Word)
  | [] => some (wordOf word)
  | c :: rest =>
    if Syntax.isWordChar c then scan (c :: word) rest
    else if c = ' ' then (scan [] rest).map (wordOf word ++ ·)
    else if isSymbol c then (scan [] rest).map (wordOf word ++ .symbol c :: ·)
    else none

/-- The words that are no names. -/
def keywords : List String :=
  ["False", "None", "True", "and", "as", "assert", "async", "await", "break", "class", "continue",
    "def", "del", "elif", "else", "except", "finally", "for", "from", "global", "if", "import", "in",
    "is", "lambda", "nonlocal", "not", "or", "pass", "raise", "return", "try", "while", "with",
    "yield"]

/-- Whether a text is a name: it has only the characters of names, does not start with a digit, and is
not kept for anything else. -/
def isIdentifier (text : String) : Bool :=
  match text.toList with
  | [] => false
  | c :: cs => !c.isDigit && (c :: cs).all Syntax.isWordChar && !keywords.contains text

def name? : Word → Option String
  | .name text => if isIdentifier text then some text else none
  | .symbol _ => none

def truth? : Word → Option Bool
  | .name text => if text = "True" then some true else if text = "False" then some false else none
  | .symbol _ => none

/-! ## Calls -/

/-- A call of a function, or of a method of what a name stands for. -/
structure Call where
  owner? : Option String
  function : String
  arguments : List String
  options : List (String × Bool)
  deriving DecidableEq, Repr

/-- The options of a call, up to the end of its arguments. -/
def options? : List Word → Option (List (String × Bool) × List Word)
  | .symbol ')' :: rest => some ([], rest)
  | key :: .symbol '=' :: value :: .symbol c :: rest => do
    let option := (← name? key, ← truth? value)
    if c = ')' then return ([option], rest)
    else if c = ',' then
      let (more, rest) ← options? rest
      return (option :: more, rest)
    else none
  | _ => none

/-- The arguments of a call; the options come last. -/
def arguments? : List Word → Option ((List String × List (String × Bool)) × List Word)
  | .symbol ')' :: rest => some (([], []), rest)
  | first :: .symbol c :: rest => do
    if c = ')' then return (([← name? first], []), rest)
    else if c = ',' then
      let argument ← name? first
      let ((arguments, options), rest) ← arguments? rest
      return ((argument :: arguments, options), rest)
    else
      let (options, rest) ← options? (first :: .symbol c :: rest)
      return (([], options), rest)
  | _ => none

/-- A call at the start of a line, and what comes after it. -/
def call? : List Word → Option (Call × List Word)
  | function :: .symbol '(' :: rest => do
    let function ← name? function
    let ((arguments, options), rest) ← arguments? rest
    return (⟨none, function, arguments, options⟩, rest)
  | owner :: .symbol '.' :: function :: .symbol '(' :: rest => do
    let owner ← name? owner
    let function ← name? function
    let ((arguments, options), rest) ← arguments? rest
    return (⟨some owner, function, arguments, options⟩, rest)
  | _ => none

/-! ## Blocks -/

section

variable {S T : Type}

/-- What a line says, where there are statements of a kind. -/
inductive Head (S : Type) where
  | pass
  | statement (s : S)
  /-- The header of a block that a call opens, with the name for its cursor. -/
  | block (c : Call) (name : String)
  deriving DecidableEq, Repr

/-- A line, and how far it is indented. -/
structure Line (S : Type) where
  indent : Nat
  head : Head S
  deriving DecidableEq, Repr

def Head.map (f : S → T) : Head S → Head T
  | pass => pass
  | statement s => statement (f s)
  | block c name => block c name

/-- The line with another kind of statements. -/
def Line.map (f : S → T) (l : Line S) : Line T := ⟨l.indent, l.head.map f⟩

/-- The statements of a block, one after the other. -/
inductive Suite (S : Type) where
  | done
  | pass (rest : Suite S)
  | step (s : S) (rest : Suite S)
  | block (c : Call) (name : String) (inside rest : Suite S)
  deriving DecidableEq, Repr

/-- Reads the statements that stand at a column. -/
def suite? (column : Nat) : List (Line S) → Option (Suite S)
  | [] => some .done
  | ⟨indent, head⟩ :: lines =>
    if indent = column then
      match head with
      | .pass => (suite? column lines).map .pass
      | .statement s => (suite? column lines).map (.step s)
      | .block c name => do
        let first ← (lines.takeWhile (column < ·.indent)).head?
        let inside ← suite? first.indent (lines.takeWhile (column < ·.indent))
        let rest ← suite? column (lines.dropWhile (column < ·.indent))
        return .block c name inside rest
    else none
termination_by lines => lines.length
decreasing_by
  · exact Nat.lt_succ_self _
  · exact Nat.lt_succ_self _
  · exact Nat.lt_succ_of_le (List.takeWhile_sublist _).length_le
  · exact Nat.lt_succ_of_le (List.dropWhile_sublist _).length_le

/-! ### Writing blocks -/

/-- Moves a line to the right. -/
def Line.shift (width : Nat) (l : Line S) : Line S := { l with indent := width + l.indent }

theorem Line.shift_shift (i j : Nat) (l : Line S) : (l.shift i).shift j = l.shift (j + i) := by
  simp only [shift, Nat.add_assoc]

theorem Line.map_shift (f : S → T) (width : Nat) (l : Line S) :
    (l.shift width).map f = (l.map f).shift width := rfl

namespace Suite

/-- The lines of a suite whose blocks are indented by a width. -/
def lines (width : Nat) : Suite S → List (Line S)
  | done => []
  | pass rest => ⟨0, .pass⟩ :: rest.lines width
  | step s rest => ⟨0, .statement s⟩ :: rest.lines width
  | block c name inside rest =>
    ⟨0, .block c name⟩ :: ((inside.lines width).map (·.shift width) ++ rest.lines width)

/-- No block of the suite is empty. -/
def IsFull : Suite S → Prop
  | done => True
  | pass rest => rest.IsFull
  | step _ rest => rest.IsFull
  | block _ _ inside rest => inside ≠ done ∧ inside.IsFull ∧ rest.IsFull

/-- What stands in a block. -/
def orPass : Suite S → Suite S
  | done => pass done
  | inside => inside

/-- Statements in front of a suite. -/
def after (statements : List S) (rest : Suite S) : Suite S := statements.foldr step rest

theorem orPass_ne_done (p : Suite S) : p.orPass ≠ done := by
  cases p <;> simp [orPass]

theorem after_eq_done {statements : List S} {rest : Suite S} :
    after statements rest = done ↔ statements = [] ∧ rest = done := by
  cases statements <;> simp [after]

theorem lines_after (width : Nat) (statements : List S) (rest : Suite S) :
    (after statements rest).lines width =
      statements.map (fun s => ⟨0, .statement s⟩) ++ rest.lines width := by
  induction statements with
  | nil => rfl
  | cons s statements ih => exact congrArg (_ :: ·) ih

theorem IsFull.orPass {p : Suite S} (h : p.IsFull) : p.orPass.IsFull := by
  cases p with
  | done => trivial
  | _ => exact h

theorem IsFull.after {statements : List S} {rest : Suite S} (h : rest.IsFull) :
    (after statements rest).IsFull := by
  induction statements with
  | nil => exact h
  | cons s statements ih => exact ih

/-- The first line of a suite is not indented. -/
theorem indent_head (width : Nat) (p : Suite S) : ∀ l ∈ (p.lines width).head?, l.indent = 0 := by
  cases p <;> simp [lines]

theorem lines_ne_nil (width : Nat) {p : Suite S} (h : p ≠ done) : p.lines width ≠ [] := by
  cases p with
  | done => exact absurd rfl h
  | _ => simp [lines]

end Suite

/-- Deeper lines are all in front of lines that start at the column. -/
theorem takeWhile_deeper {column : Nat} {deeper others : List (Line S)}
    (hdeeper : ∀ l ∈ deeper, column < l.indent) (hothers : ∀ l ∈ others.head?, l.indent = column) :
    (deeper ++ others).takeWhile (column < ·.indent) = deeper ∧
      (deeper ++ others).dropWhile (column < ·.indent) = others := by
  have hpos : ∀ l ∈ deeper, decide (column < l.indent) = true := by
    intro l hl
    exact decide_eq_true (hdeeper l hl)
  rw [List.takeWhile_append_of_pos hpos, List.dropWhile_append_of_pos hpos]
  cases others with
  | nil => simp
  | cons l rest =>
      have hl : l.indent = column := hothers l rfl
      simp [hl]

/-- Reading by indentation gets back what was written, wherever that was moved. -/
theorem suite?_shift_lines {width : Nat} (hwidth : 0 < width) {p : Suite S} (hp : p.IsFull)
    (column : Nat) : suite? column ((p.lines width).map (·.shift column)) = some p := by
  -- The column is general, since what stands inside a block is read from a column of its own.
  induction p generalizing column with
  | done => simp [Suite.lines, suite?]
  | pass rest ih =>
      rw [Suite.lines, List.map_cons, Line.shift, suite?, if_pos (Nat.add_zero column), ih hp]
      rfl
  | step s rest ih =>
      rw [Suite.lines, List.map_cons, Line.shift, suite?, if_pos (Nat.add_zero column), ih hp]
      rfl
  | block c name inside rest ihinside ih =>
      obtain ⟨hne, hinside, hrest⟩ := hp
      have hshift : ((inside.lines width).map (·.shift width)).map (·.shift column) =
          (inside.lines width).map (·.shift (column + width)) := by
        rw [List.map_map]
        exact List.map_congr_left fun l _ => l.shift_shift width column
      -- What stands inside is deeper than the header, and what comes after it is not.
      have hdeeper : ∀ l ∈ (inside.lines width).map (·.shift (column + width)), column < l.indent := by
        intro l hl
        obtain ⟨m, -, rfl⟩ := List.mem_map.mp hl
        have hindent : (m.shift (column + width)).indent = column + width + m.indent := rfl
        omega
      have hothers : ∀ l ∈ ((rest.lines width).map (·.shift column)).head?, l.indent = column := by
        intro l hl
        rw [List.head?_map, Option.mem_def, Option.map_eq_some_iff] at hl
        obtain ⟨m, hm, rfl⟩ := hl
        have hindent : (m.shift column).indent = column + m.indent := rfl
        rw [hindent, rest.indent_head width m hm, Nat.add_zero]
      obtain ⟨htake, hdrop⟩ := takeWhile_deeper hdeeper hothers
      rw [Suite.lines, List.map_cons, List.map_append, hshift, Line.shift, suite?,
        if_pos (Nat.add_zero column)]
      rw [htake, hdrop, ih hrest]
      -- The first line inside tells at which column the block stands.
      obtain ⟨first, hfirst⟩ : ∃ first, (inside.lines width).head? = some first := by
        cases hlines : inside.lines width with
        | nil => exact absurd hlines (Suite.lines_ne_nil width hne)
        | cons first more => exact ⟨first, rfl⟩
      have hindent : (first.shift (column + width)).indent = column + width := by
        have hzero := inside.indent_head width first hfirst
        rw [Line.shift, hzero, Nat.add_zero]
      rw [List.head?_map, hfirst]
      dsimp only [Option.map_some, Option.bind_eq_bind, Option.bind_some]
      rw [hindent, ihinside hinside]
      rfl

/-- Reading by indentation gets back what was written. -/
theorem suite?_lines {width : Nat} (hwidth : 0 < width) {p : Suite S} (hp : p.IsFull) :
    suite? 0 (p.lines width) = some p := by
  have hshift : (p.lines width).map (·.shift 0) = p.lines width := by simp [Line.shift]
  have hread := suite?_shift_lines hwidth hp 0
  rwa [hshift] at hread

end

/-! ## Lines -/

/-- What follows the word that opens a block. -/
def block? (words : List Word) : Option (Head Call) := do
  match ← call? words with
  | (c, [.name text, name, .symbol ':']) =>
    if text = "as" then return .block c (← name? name) else none
  | _ => none

def head? (words : List Word) : Option (Head Call) :=
  if words = [.name "pass"] then some .pass
  else if words.head? = some (.name "with") then block? words.tail
  else do
    match ← call? words with
    | (c, []) => return .statement c
    | _ => none

/-- Reads a line.  A blank one says nothing. -/
def line? (text : String) : Option (List (Line Call)) := do
  match ← scan [] (text.toList.dropWhile (· == ' ')) with
  | [] => return []
  | words => return [⟨(text.toList.takeWhile (· == ' ')).length, ← head? words⟩]

/-- Reads several lines. -/
def lines? : List String → Option (List (Line Call))
  | [] => some []
  | text :: texts => do return (← line? text) ++ (← lines? texts)

/-- Reads a script. -/
def read (text : String) : Option (Suite Call) := (lines? (Text.lines text)).bind (suite? 0)

end TreeShape.Replay
