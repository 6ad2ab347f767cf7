/-!
# Tables of code points

Tables about many characters are kept as rows of text.  A row holds entries with a space between them.
Code points are written in hexadecimal digits, and a range as its first and its last one.
-/

namespace TreeShape.Text

def hexDigit (c : Char) : Nat :=
  if c.isDigit then c.toNat - '0'.toNat else c.toNat - 'A'.toNat + 10

/-- The value of a hexadecimal number. -/
def hex (digits : String) : Nat := digits.toList.foldl (fun n c => 16 * n + hexDigit c) 0

/-- The code points from a first to a last one. -/
structure CodeRange where
  first : Nat
  last : Nat
  deriving DecidableEq, Repr

namespace CodeRange

def read (entry : String) : CodeRange :=
  match entry.splitOn "-" with
  | [first, last] => ⟨hex first, hex last⟩
  | _ => ⟨hex entry, hex entry⟩

def contains (r : CodeRange) (code : Nat) : Bool := r.first ≤ code && code ≤ r.last

end CodeRange

/-- The entries of a table, in order. -/
def entries (rows : List String) : List String := rows.flatMap (·.splitOn " ")

end TreeShape.Text
