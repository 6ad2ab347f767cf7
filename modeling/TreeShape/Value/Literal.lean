import TreeShape.Decimal.Shortest
import TreeShape.Hierarchy

/-!
# Literals and displays

A *literal* is an expression whose value is the given value; lists, nodes and some other values have
none.  A *display* is a text for messages and exists for every value.  Both write texts quoted and
floats by their shortest decimal.

Which texts count as literals goes by kinds, and the kinds are tried in an order: floats that are not
finite come first, then everything that is a text, a number or a truth value, then members of
enumerations and types.  A member of an enumeration of numbers or texts is met on the way as a number or
a text and gets its display.
-/

namespace TreeShape

/-- Floats are written positionally for leading digits from the fourth place after the point up to
the sixteenth before it, else with a signed exponent of two digits or more. -/
def floatLayout : Decimal.Layout := ⟨-4, 15, 2⟩

def Binary64.text : Binary64 → String
  | .notANumber => "nan"
  | .infinite negative => if negative then "-inf" else "inf"
  | .finite negative mantissa exponent =>
    let digits := if mantissa = 0 then ['0', '.', '0']
      else floatLayout.write (Decimal.shortest mantissa exponent)
    String.ofList (if negative then '-' :: digits else digits)

namespace Value

def boolText (b : Bool) : String := if b then "True" else "False"

/-- The text of a value without items. -/
def atomText (h : Hierarchy) : Value → String
  | .nothing => "None"
  | .bool b => boolText b
  | .int i => toString i
  | .float x => x.text
  | .text s => Text.quoted s
  | .type t => h.display t
  | .formless .mapping => "\x7b\x7d"
  | .formless .ellipsis => "Ellipsis"
  | .formless .complex => "1j"
  | .formless (.bytes content) => Text.quotedBytes content
  | _ => "<object>"

/-- Writes the member of an enumeration with the text of its content. -/
def memberText (h : Hierarchy) (family : NodeType) (name content : String) : String :=
  "<" ++ h.name family ++ "." ++ name ++ ": " ++ content ++ ">"

mutual

/-- A text for any value. -/
def display (h : Hierarchy) : Value → String
  | .member _ family name content => memberText h family name (display h content)
  | .list items => "[" ++ ", ".intercalate (displayAll h items) ++ "]"
  | .tuple [item] => "(" ++ display h item ++ ",)"
  | .tuple items => "(" ++ ", ".intercalate (displayAll h items) ++ ")"
  | v => atomText h v

def displayAll (h : Hierarchy) : List Value → List String
  | [] => []
  | v :: vs => display h v :: displayAll h vs

end

/-- A tuple of names, as displayed. -/
def displayNames (h : Hierarchy) (names : List Name) : String :=
  display h (.tuple (names.map ofName))

/-- The expression that makes an infinite float from a text. -/
def infiniteText (negative : Bool) : String :=
  if negative then "float(\"-inf\")" else "float(\"inf\")"

/-- The expression of a value that is no infinite float, and not the one that is no number. -/
def finiteLiteral? (h : Hierarchy) : Value → Option String
  | .member .plain family name _ => some (h.qualifiedName family ++ "." ++ name)
  | .member kind family name content => some (display h (.member kind family name content))
  | .type t => some (h.qualifiedName t)
  | .nothing => some (display h .nothing)
  | .bool b => some (display h (.bool b))
  | .int i => some (display h (.int i))
  | .float x => some (display h (.float x))
  | .text s => some (display h (.text s))
  | _ => none

/-- The expression whose value is the given one, if there is one.  Infinite floats are read from a
text; what is no number has none, for it equals nothing.  This goes for members of enumerations that are
floats as well. -/
def literal? (h : Hierarchy) (v : Value) : Option String :=
  match v.float? with
  | some .notANumber => none
  | some (.infinite negative) => some (infiniteText negative)
  | _ => v.finiteLiteral? h

/-- Whether the value is compared by identity: nothing and the truth values are. -/
def isIdentified : Value → Bool
  | .nothing => true
  | .bool _ => true
  | _ => false

end Value

end TreeShape
