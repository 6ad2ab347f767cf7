import TreeShape.Text.CombiningClass
import TreeShape.Text.Decomposition

/-!
# Normal forms of texts

Texts that only differ in the form of their characters have the same normal form.  It is made in three
steps: every character is taken apart, the marks behind each letter are put in order of their classes,
and letters and marks are put together again as far as possible.
-/

namespace TreeShape.Text

/-! ## The order of marks -/

/-- Puts a character in front of an ordered text.  It goes behind the marks of lower classes. -/
def insertMark (c : Char) : List Char → List Char
  | [] => [c]
  | d :: rest =>
    if 0 < combiningClass d ∧ combiningClass d < combiningClass c then d :: insertMark c rest
    else c :: d :: rest

/-- The text with the marks behind each letter in order of their classes. -/
def ordered (cs : List Char) : List Char := cs.foldr insertMark []

/-! ## Composition -/

/-- Whether a character cannot reach the letter, given the marks that stand between the two. -/
def isBlocked (marks : List Char) (c : Char) : Bool :=
  match marks.getLast? with
  | none => false
  | some mark => combiningClass c ≤ combiningClass mark

/-- Composes the rest of a text with the letter before it, given the marks that stay between the two. -/
def composeAfter (letter : Char) (marks : List Char) : List Char → List Char
  | [] => letter :: marks
  | c :: rest =>
    match if isBlocked marks c then none else compose? letter c with
    | some whole => composeAfter whole marks rest
    | none =>
      if combiningClass c = 0 then letter :: marks ++ composeAfter c [] rest
      else composeAfter letter (marks ++ [c]) rest

/-- Puts letters and marks together as far as possible. -/
def recompose : List Char → List Char
  | [] => []
  | c :: rest => composeAfter c [] rest

/-! ## Normal forms -/

/-- Whether a text has only characters of the ASCII range, which stand for nothing but themselves. -/
def isAscii (s : String) : Bool := s.toList.all fun c => c.toNat < 0x80

/-- The normal form of a text. -/
def normal (s : String) : String :=
  if isAscii s then s
  else String.ofList (recompose (ordered (s.toList.flatMap decompose)))

end TreeShape.Text
