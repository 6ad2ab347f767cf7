/-!
# Clipped texts

A text cut off after a number of bytes.  The characters that fit are kept; a mark takes the place of a
character that is cut through.
-/

namespace TreeShape.Text

/-- The mark for a character that is cut through. -/
def brokenMark : Char := '\uFFFD'

/-- The beginning of a list of characters that fits into so many bytes. -/
def clip (room : Nat) : List Char → List Char
  | [] => []
  | c :: rest =>
    if c.utf8Size ≤ room then c :: clip (room - c.utf8Size) rest
    else if room = 0 then [] else [brokenMark]

/-- The beginning of a text that fits into so many bytes. -/
def clipped (room : Nat) (text : String) : String := String.ofList (clip room text.toList)

def byteCount : List Char → Nat
  | [] => 0
  | c :: rest => c.utf8Size + byteCount rest

end TreeShape.Text
