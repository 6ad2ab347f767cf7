import TreeShape.Proofs.Replay.Source
import TreeShape.Value.Basic

/-!
# Reading scripts with assertions

The script of a dump of attributes has two more kinds of lines than that of a structure.  One asserts
that what stands on the left of a comparison is identical with, or equal to, what stands on its right;
the other binds a name to what a call gives.  What is compared is a *path*, a name with attributes behind
it and perhaps the position of an item; on the right there may also be a literal.

How the literals of texts and numbers are read is not said here.  The reader takes this as a parameter,
and asks it about what starts as such a literal does, with a quote, a digit or a minus, and about nothing
else.  Blocks are those of scripts without assertions, and so is their reading by indentation, `suite?`.
-/

namespace TreeShape.Audit

open Replay

/-! ## What lines say -/

/-- A name, attributes that are read one behind the other, and the position of an item. -/
structure Path where
  root : String
  attributes : List String
  index : Option Nat
  deriving DecidableEq, Repr

/-- What stands on the right of a comparison. -/
inductive Operand where
  | literal (v : Value)
  /-- A call that makes an infinite number from its name. -/
  | infinite (negative : Bool)
  | path (p : Path)
  deriving Repr

/-- An assertion: a comparison by identity or by equality. -/
structure Claim where
  target : Path
  identical : Bool
  operand : Operand
  deriving Repr

/-- What can be said beside opening blocks. -/
inductive Statement where
  | call (c : Call)
  /-- A name for what the call gives. -/
  | bind (name : String) (c : Call)
  | claim (c : Claim)
  deriving Repr

/-! ## Reading lines -/

/-- The attributes behind a name. -/
def attributes? : List Word → Option (List String)
  | [] => some []
  | .symbol '.' :: attr :: rest => do return (← name? attr) :: (← attributes? rest)
  | _ => none

/-- The position of an item between brackets, if there is one. -/
def index? : List Char → Option (Option Nat)
  | [] => some none
  | '[' :: rest =>
    let digits := rest.takeWhile Char.isDigit
    if rest.dropWhile Char.isDigit = [']'] && !digits.isEmpty then
      some (some (Nat.ofDigitChars 10 digits 0))
    else none
  | _ => none

def path? (cs : List Char) : Option Path := do
  match ← scan [] (cs.takeWhile (· != '[')) with
  | root :: rest => return ⟨← name? root, ← attributes? rest, ← index? (cs.dropWhile (· != '['))⟩
  | [] => none

/-- Whether the literal of a text or of a number can start with the character. -/
def startsLiteral (c : Char) : Bool := c.isDigit || c == '-' || c == '\'' || c == '"'

section

variable (literals : String → Option Value)

/-- Reads an operand that is none of the constants. -/
def term? (text : String) : Option Operand :=
  if text.toList.head?.any startsLiteral then (literals text).map .literal
  else (path? text.toList).map .path

def operand? (text : String) : Option Operand :=
  if text = "None" then some (.literal .nothing)
  else if text = "True" then some (.literal (.bool true))
  else if text = "False" then some (.literal (.bool false))
  else if text = "float(\"inf\")" then some (.infinite false)
  else if text = "float(\"-inf\")" then some (.infinite true)
  else term? literals text

/-- The operands that are read as they stand. -/
def constants : List String := ["None", "True", "False", "float(\"inf\")", "float(\"-inf\")"]

theorem operand?_eq_term {text : String} (h : ∀ constant ∈ constants, text ≠ constant) :
    operand? literals text = term? literals text := by
  simp only [constants, List.forall_mem_cons] at h
  obtain ⟨hnone, htrue, hfalse, hinfinite, hnegative, -⟩ := h
  rw [operand?, if_neg hnone, if_neg htrue, if_neg hfalse, if_neg hinfinite, if_neg hnegative]

/-- What stands behind the word that asserts. -/
def claim? (cs : List Char) : Option Claim := do
  let target ← path? (cs.takeWhile (· != ' '))
  match cs.dropWhile (· != ' ') with
  | ' ' :: 'i' :: 's' :: ' ' :: rest =>
    return ⟨target, true, ← operand? literals (String.ofList rest)⟩
  | ' ' :: '=' :: '=' :: ' ' :: rest =>
    return ⟨target, false, ← operand? literals (String.ofList rest)⟩
  | _ => none

/-- A name and the call that gives what it is bound to. -/
def bind? : List Word → Option Statement
  | name :: .symbol '=' :: words => do
    let name ← name? name
    match ← call? words with
    | (c, []) => return .bind name c
    | _ => none
  | _ => none

/-- The word that asserts, and the space behind it. -/
def assertWord : List Char := ['a', 's', 's', 'e', 'r', 't', ' ']

/-- Reads a line.  A blank one says nothing. -/
def line? (text : String) : Option (List (Line Statement)) :=
  let indent := (text.toList.takeWhile (· == ' ')).length
  let rest := text.toList.dropWhile (· == ' ')
  if assertWord.isPrefixOf rest then
    (claim? literals (rest.drop assertWord.length)).map fun c => [⟨indent, .statement (.claim c)⟩]
  else match Replay.line? text with
    | some ls => some (ls.map (·.map .call))
    | none => ((scan [] rest).bind bind?).map fun s => [⟨indent, .statement s⟩]

/-- Reads several lines. -/
def lines? : List String → Option (List (Line Statement))
  | [] => some []
  | text :: texts => do return (← line? literals text) ++ (← lines? texts)

/-- Reads a script, given how literals are read. -/
def read (text : String) : Option (Suite Statement) := (lines? literals (Text.lines text)).bind (suite? 0)

end

end TreeShape.Audit
