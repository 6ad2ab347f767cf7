import TreeShape.Text.Clipped
import TreeShape.Text.Lines
import TreeShape.Text.Normal

/-!
# Sources

A source is a list of lines, each an expression or an assignment of an expression to one or more names.
Expressions are names, decimal numbers, the three words for constants, sums and differences, and
products, which bind tighter.  Both levels associate to the left.  Blank lines and comments count for
nothing.  A line ends with a line feed, a carriage return, or the one behind the other.  Names that have
the same normal form are the same name, but the words for constants must stand as they are.

What is read keeps its place: the number of its line, and the columns between which it stands, counted
in bytes.
-/

namespace TreeShape.Syntax

/-- The words of a line. -/
inductive Word where
  | name (text : String)
  | number (value : Nat)
  | symbol (c : Char)
  deriving DecidableEq, Repr

/-- The columns between which something stands on its line. -/
structure Span where
  start : Nat
  stop : Nat
  deriving DecidableEq, Repr, Inhabited

/-- From the start of one span to the end of another. -/
def Span.to (first last : Span) : Span := ⟨first.start, last.stop⟩

/-- A word where it stands. -/
structure Token where
  word : Word
  span : Span
  deriving DecidableEq, Repr

inductive Operator where
  | add
  | subtract
  | multiply
  deriving DecidableEq, Repr

/-- The constants that have a word of their own. -/
inductive WordConstant where
  | nothing
  | truth (b : Bool)
  deriving DecidableEq, Repr

/-- An expression without operators. -/
inductive Atom where
  | name (text : String)
  | number (value : Nat)
  | word (c : WordConstant)
  deriving DecidableEq, Repr

inductive Expression where
  | atom (a : Atom) (span : Span)
  | binary (left : Expression) (op : Operator) (right : Expression)
  deriving DecidableEq, Repr

/-- Where an expression stands. -/
def Expression.span : Expression → Span
  | atom _ span => span
  | binary left _ right => left.span.to right.span

/-- A name that is assigned to. -/
structure Target where
  text : String
  span : Span
  deriving DecidableEq, Repr

/-- A statement; an expression by itself has no targets. -/
structure Statement where
  targets : List Target
  value : Expression
  deriving DecidableEq, Repr

/-- Where a statement stands: from its first target, if it has one, to the end of its value. -/
def Statement.span (s : Statement) : Span :=
  match s.targets with
  | [] => s.value.span
  | first :: _ => first.span.to s.value.span

/-! ## Words -/

/-- The characters of names and numbers: beyond the ASCII range, every character. -/
def isWordChar (c : Char) : Bool := c.isAlphanum || c == '_' || 0x80 ≤ c.toNat

/-- The characters between words. -/
def isBlank (c : Char) : Bool := c == ' ' || c == '\t' || c == '\x0c'

/-- The characters that are words by themselves. -/
def isSymbol (c : Char) : Bool := c == '+' || c == '-' || c == '*' || c == '='

/-- The value of a list of decimal digits, which may be grouped by underscores. -/
def decimal (digits : List Char) : Nat :=
  (digits.filter Char.isDigit).foldl (fun n c => 10 * n + (c.toNat - '0'.toNat)) 0

/-- The token of a word that ends at a column.  The word is a number if it starts with a digit; there is
no token if it is empty. -/
def wordTokens (word : List Char) (stop : Nat) : List Token :=
  let span : Span := ⟨stop - Text.byteCount word, stop⟩
  match word with
  | [] => []
  | c :: _ =>
    if c.isDigit then [⟨.number (decimal word), span⟩] else [⟨.name (String.ofList word), span⟩]

/-- The tokens of the rest of a line from a column on, with the word read so far in reverse.  Nothing is
returned for a character that no token has. -/
def tokens (column : Nat) (word : List Char) : List Char → Option (List Token)
  | [] => some (wordTokens word.reverse column)
  | c :: rest =>
    let next := column + c.utf8Size
    let before := wordTokens word.reverse column
    if isWordChar c then tokens next (c :: word) rest
    else if c == '#' then some before
    else if isBlank c then (tokens next [] rest).map (before ++ ·)
    else if isSymbol c then
      (tokens next [] rest).map (before ++ ⟨.symbol c, ⟨column, next⟩⟩ :: ·)
    else none

/-! ## Expressions and statements -/

/-- An expression of a single token. -/
def atom? (t : Token) : Option Expression :=
  match t.word with
  | .name "None" => some (.atom (.word .nothing) t.span)
  | .name "True" => some (.atom (.word (.truth true)) t.span)
  | .name "False" => some (.atom (.word (.truth false)) t.span)
  | .name text => some (.atom (.name (Text.normal text)) t.span)
  | .number value => some (.atom (.number value) t.span)
  | .symbol _ => none

/-- The operator that a symbol stands for. -/
def operator? : Word → Option Operator
  | .symbol '+' => some .add
  | .symbol '-' => some .subtract
  | .symbol '*' => some .multiply
  | _ => none

/-- A sum read so far, with the product read after it. -/
def close (sum : Option (Expression × Operator)) (product : Expression) : Expression :=
  match sum with
  | none => product
  | some (left, op) => .binary left op product

/-- Reads the rest of an expression after a product. -/
def expressionAfter (sum : Option (Expression × Operator)) (product : Expression) :
    List Token → Option Expression
  | [] => some (close sum product)
  | sign :: next :: rest =>
    match operator? sign.word, atom? next with
    | some .multiply, some a => expressionAfter sum (.binary product .multiply a) rest
    | some op, some a => expressionAfter (some (close sum product, op)) a rest
    | _, _ => none
  | [_] => none

def expression? : List Token → Option Expression
  | [] => none
  | first :: rest => (atom? first).bind fun a => expressionAfter none a rest

/-- Reads a statement: the names before equals signs, then an expression. -/
def statement? : List Token → Option Statement
  | ⟨.name text, span⟩ :: ⟨.symbol '=', _⟩ :: rest =>
    (statement? rest).map fun s => { s with targets := ⟨Text.normal text, span⟩ :: s.targets }
  | ts => (expression? ts).map fun e => ⟨[], e⟩

/-! ## Lines -/

/-- Writes every end of a line as a line feed. -/
def unifyLineEnds : List Char → List Char
  | [] => []
  | '\r' :: '\n' :: rest => '\n' :: unifyLineEnds rest
  | '\r' :: rest => '\n' :: unifyLineEnds rest
  | c :: rest => c :: unifyLineEnds rest

/-- Reads the statement of a line, with the number of the line; a line without words has none. -/
def lineStatement? (number : Nat) (line : List Char) : Option (List (Nat × Statement)) := do
  match ← tokens 0 [] line with
  | [] => return []
  | ts => return [(number, ← statement? ts)]

/-- Reads all statements of a source, each with the number of its line, from one on. -/
def statements? (source : String) : Option (List (Nat × Statement)) := do
  let lines := Text.cut (unifyLineEnds source.toList)
  let read ← (lines.zipIdx 1).mapM fun line => lineStatement? line.2 line.1
  return read.flatten

end TreeShape.Syntax
