import TreeShape.Text.Printable

/-!
# Quoted texts

A text as a quoted literal.  The quote is the single one unless the text holds a single quote and no
double one.  The backslash and the quote in use are escaped by a backslash, three controls have a
letter of their own, and the other characters that are not printable are written by their code point
in two, four or eight hexadecimal digits.
-/

namespace TreeShape.Text

def quoteFor (cs : List Char) : Char :=
  if '\'' ∈ cs && !('"' ∈ cs) then '"' else '\''

/-- A code point in at least `width` hexadecimal digits. -/
def hexDigits (width code : Nat) : List Char :=
  let digits := Nat.toDigits 16 code
  List.replicate (width - digits.length) '0' ++ digits

/-- The escape of a character that is not printable. -/
def escapeCode (c : Char) : List Char :=
  let code := c.toNat
  if code < 0x100 then '\\' :: 'x' :: hexDigits 2 code
  else if code < 0x10000 then '\\' :: 'u' :: hexDigits 4 code
  else '\\' :: 'U' :: hexDigits 8 code

/-- One character inside a literal with the given quote. -/
def escape (quote c : Char) : List Char :=
  if c = '\\' || c = quote then ['\\', c]
  else if c = '\n' then ['\\', 'n']
  else if c = '\r' then ['\\', 'r']
  else if c = '\t' then ['\\', 't']
  else if isPrintable c then [c]
  else escapeCode c

/-- A list of characters between quotes, each written by the given escape. -/
def between (escape : Char → Char → List Char) (cs : List Char) : String :=
  let quote := quoteFor cs
  String.ofList (quote :: (cs.flatMap (escape quote) ++ [quote]))

def quoted (text : String) : String := between escape text.toList

/-- One byte inside a literal with the given quote.  Only bytes of the ASCII range are shown. -/
def escapeByte (quote c : Char) : List Char :=
  if c.toNat < 0x80 then escape quote c else escapeCode c

def quotedBytes (bytes : List Nat) : String := "b" ++ between escapeByte (bytes.map Char.ofNat)

end TreeShape.Text
