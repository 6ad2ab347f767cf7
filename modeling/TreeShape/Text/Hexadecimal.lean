import TreeShape.Text.Numeral

/-!
# Bytes in hexadecimal digits

A list of bytes as a text: two hexadecimal digits for each byte, of either case, with blanks around the
bytes but not inside them.  A text that is none is refused with the position of the first character that
is out of place; a character beyond ASCII counts as such wherever it stands.
-/

namespace TreeShape.Text

def hexDigit? (c : Char) : Option Nat :=
  let code := c.toLower.toNat
  if c.isDigit then some (code - 0x30)
  else if 0x61 ≤ code && code ≤ 0x66 then some (code - 0x57)
  else none

/-- Reads bytes from characters that begin at a position. -/
def bytesFrom (position : Nat) : List Char → Except Nat (List Nat)
  | [] => .ok []
  | [c] =>
    if isBlank c then .ok []
    else .error (if (hexDigit? c).isSome then position + 1 else position)
  | c :: d :: rest =>
    if isBlank c then bytesFrom (position + 1) (d :: rest)
    else match hexDigit? c, hexDigit? d with
      | some high, some low => (bytesFrom (position + 2) rest).map ((16 * high + low) :: ·)
      | none, _ => .error position
      | some _, none => .error (position + 1)

def readBytes (digits : String) : Except Nat (List Nat) :=
  match digits.toList.findIdx? fun c => 0x7f < c.toNat with
  | some position => .error position
  | none => bytesFrom 0 digits.toList

end TreeShape.Text
