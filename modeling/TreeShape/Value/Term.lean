import TreeShape.Decimal.Rounding
import TreeShape.Failure
import TreeShape.Text.Hexadecimal
import TreeShape.Value.Basic

/-!
# Terms

Values as programs write them.  A term mentions nodes, types and members of enumerations by name and
numbers by their numerals, and what it stands for is settled only when it is evaluated: by then there
may be more nodes than before.  A term that stands for nothing fails then, and not earlier.
-/

namespace TreeShape

/-- What a program writes for a value. -/
inductive Term where
  | value (v : Value)
  | node (ref : NodeRef)
  | type (name : TypeName)
  /-- A member of the enumeration of a name. -/
  | member (family name : String)
  | whole (numeral : String)
  | decimal (numeral : String)
  /-- A list of bytes by its hexadecimal digits. -/
  | bytes (digits : String)
  | list (items : List Term)
  | tuple (items : List Term)
  deriving Repr, Inhabited

/-- What the names in terms stand for. -/
structure Meaning where
  node : NodeRef → Except Failure Node
  type : TypeName → Except Failure NodeType
  member : String → String → Except Failure Value

namespace Term

def wholeValue (numeral : String) : Except Failure Value :=
  match Text.readWhole numeral with
  | .ok i => .ok (.int i)
  | .error .malformed => .error (.notWhole numeral)
  | .error (.tooLong digits) => .error (.tooManyDigits digits)

def decimalValue (numeral : String) : Except Failure Value :=
  match Binary64.read? numeral with
  | some x => .ok (.float x)
  | none => .error (.notDecimal numeral)

def bytesValue (digits : String) : Except Failure Value :=
  match Text.readBytes digits with
  | .ok content => .ok (.formless (.bytes content))
  | .error position => .error (.notBytes position)

mutual

/-- The value of a term, given what names stand for. -/
def evaluate (m : Meaning) : Term → Except Failure Value
  | .value v => .ok v
  | .node ref => (m.node ref).map .ofNode
  | .type name => (m.type name).map .type
  | .member family name => m.member family name
  | .whole numeral => wholeValue numeral
  | .decimal numeral => decimalValue numeral
  | .bytes digits => bytesValue digits
  | .list items => (evaluateAll m items).map .list
  | .tuple items => (evaluateAll m items).map .tuple

/-- The values of several terms, in order.  The first failure counts. -/
def evaluateAll (m : Meaning) : List Term → Except Failure (List Value)
  | [] => .ok []
  | t :: ts => do
    let v ← evaluate m t
    return v :: (← evaluateAll m ts)

end

end Term

end TreeShape
