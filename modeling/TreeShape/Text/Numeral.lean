/-!
# Numerals

How numbers are written.  There may be blanks around a numeral and a sign in front of it, and single
underscores between its digits; the digits may be those of any script.  `readWhole` reads whole
numbers; `scientific?` reads what stands behind the sign of a decimal: digits with a point among them and
a power of ten.
-/

namespace TreeShape.Text

/-! ## Characters -/

/-- The digits zero of all scripts, in ascending order.  The other nine digits follow each of them. -/
def zeroDigits : List Nat :=
  [0x30, 0x660, 0x6f0, 0x7c0, 0x966, 0x9e6, 0xa66, 0xae6, 0xb66, 0xbe6, 0xc66, 0xce6, 0xd66,
   0xde6, 0xe50, 0xed0, 0xf20, 0x1040, 0x1090, 0x17e0, 0x1810, 0x1946, 0x19d0, 0x1a80, 0x1a90,
   0x1b50, 0x1bb0, 0x1c40, 0x1c50, 0xa620, 0xa8d0, 0xa900, 0xa9d0, 0xa9f0, 0xaa50, 0xabf0,
   0xff10, 0x104a0, 0x10d30, 0x11066, 0x110f0, 0x11136, 0x111d0, 0x112f0, 0x11450, 0x114d0,
   0x11650, 0x116c0, 0x11730, 0x118e0, 0x11950, 0x11c50, 0x11d50, 0x11da0, 0x16a60, 0x16ac0,
   0x16b50, 0x1d7ce, 0x1d7d8, 0x1d7e2, 0x1d7ec, 0x1d7f6, 0x1e140, 0x1e2f0, 0x1e950, 0x1fbf0]

/-- The value of a decimal digit. -/
def digit? (c : Char) : Option Nat :=
  (zeroDigits.find? fun first => first ≤ c.toNat && c.toNat < first + 10).map (c.toNat - ·)

/-- The ranges of blanks, line ends included. -/
def blankRanges : List (Nat × Nat) :=
  [(0x9, 0xd), (0x20, 0x20), (0x85, 0x85), (0xa0, 0xa0), (0x1680, 0x1680), (0x2000, 0x200a),
   (0x2028, 0x2029), (0x202f, 0x202f), (0x205f, 0x205f), (0x3000, 0x3000)]

/-- Whether a character is a blank, or ends a line. -/
def isBlank (c : Char) : Bool := blankRanges.any fun r => r.1 ≤ c.toNat && c.toNat ≤ r.2

/-- A character with the digits of all scripts replaced by the common ones. -/
def commonDigit (c : Char) : Char := ((digit? c).map fun d => Char.ofNat (0x30 + d)).getD c

/-- The characters of a numeral without the blanks around it, with common digits only. -/
def bare (numeral : String) : List Char :=
  let cs := numeral.toList.dropWhile isBlank
  (cs.reverse.dropWhile isBlank).reverse.map commonDigit

/-- Whether a numeral begins with a minus, and what stands behind its sign. -/
def splitSign : List Char → Bool × List Char
  | '-' :: rest => (true, rest)
  | '+' :: rest => (false, rest)
  | rest => (false, rest)

/-- Whether every underscore stands between two digits, given whether a digit stands in front. -/
def separatesDigits : Bool → List Char → Bool
  | _, [] => true
  | afterDigit, c :: rest =>
    if c = '_' then afterDigit && (rest.head?.any Char.isDigit) && separatesDigits false rest
    else separatesDigits c.isDigit rest

def digitsValue (digits : List Char) : Nat :=
  digits.foldl (fun n c => 10 * n + (c.toNat - 0x30)) 0

def withSign (negative : Bool) (n : Nat) : Int := if negative then -n else n

/-! ## Whole numbers -/

/-- The most digits that the numeral of a whole number may have, zeros in front included. -/
def digitLimit : Nat := 4300

/-- What is wrong with the numeral of a whole number. -/
inductive WholeFault where
  | malformed
  | tooLong (digits : Nat)
  deriving DecidableEq, Repr

/-- Reads a whole number.  A run of digits that is too long is refused even if something else follows
it. -/
def readWhole (numeral : String) : Except WholeFault Int :=
  let (negative, cs) := splitSign (bare numeral)
  let run := cs.takeWhile fun c => c.isDigit || c = '_'
  let digits := run.filter Char.isDigit
  if !separatesDigits false run then .error .malformed
  else if digitLimit < digits.length then .error (.tooLong digits.length)
  else if digits.isEmpty || run.length < cs.length then .error .malformed
  else .ok (withSign negative (digitsValue digits))

/-- The number that a numeral means; zero if it is none. -/
def wholeNumber (numeral : String) : Int :=
  match readWhole numeral with
  | .ok i => i
  | .error _ => 0

/-! ## Decimals -/

/-- The power of ten that stands behind the digits of a decimal. -/
def exponent? : List Char → Option Int
  | [] => some 0
  | mark :: rest =>
    let (negative, digits) := splitSign rest
    if mark.toLower != 'e' || digits.isEmpty || !digits.all Char.isDigit then none
    else some (withSign negative (digitsValue digits))

/-- The digits of a decimal without sign, and the power of ten that they are multiplied by.  There must
be a digit before the point or behind it. -/
def scientific? (cs : List Char) : Option (List Char × Int) :=
  let whole := cs.takeWhile Char.isDigit
  let (part, rest) := match cs.dropWhile Char.isDigit with
    | '.' :: more => (more.takeWhile Char.isDigit, more.dropWhile Char.isDigit)
    | rest => ([], rest)
  if whole.isEmpty && part.isEmpty then none
  else (exponent? rest).map fun e => (whole ++ part, e - part.length)

end TreeShape.Text
