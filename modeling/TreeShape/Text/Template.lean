/-!
# Templates

A template is a text with places to fill, each a letter in curly brackets.  The places are filled
letter by letter, so a filling may itself hold a place of a later letter.
-/

namespace TreeShape.Text

/-- The place named by a letter. -/
def place (letter : Char) : String := String.ofList ['\x7b', letter, '\x7d']

/-- One filling: what stands at the places of a letter. -/
structure Filling where
  letter : Char
  text : String

/-- Fills the places of the first filling, then those of the next one in the result, and so on. -/
def fill (template : String) (fillings : List Filling) : String :=
  fillings.foldl (fun text f => text.replace (place f.letter) f.text) template

end TreeShape.Text
