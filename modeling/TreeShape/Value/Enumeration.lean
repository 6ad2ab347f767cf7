import TreeShape.Decimal.Rounding
import TreeShape.Text.Numeral
import TreeShape.Value.Equality
import TreeShape.Value.Literal

/-!
# Enumerations

An enumeration gives names to values.  A name whose value repeats that of an earlier name is another
name of the same member.  The members of an enumeration of whole numbers, of floats or of texts are whole
numbers, floats or texts themselves, whatever they were written as.  Not every name denotes a member: some are reserved, and some
belong to the enumeration itself.
-/

namespace TreeShape

/-- The whole number that a float is cut to. -/
def Binary64.truncate : Binary64 → Int
  | .finite negative mantissa exponent =>
    signed negative (mantissa * power 2 exponent.toNat / power 2 (-exponent).toNat)
  | _ => 0

/-- The number that a value becomes in an enumeration of numbers.  A tuple stands for its only item. -/
def Value.asNumber : Value → Value
  | .bool b => .int (if b then 1 else 0)
  | .float x => .int x.truncate
  | .text s => .int (Text.wholeNumber s)
  | .member .integer _ _ content => content
  | .member .float _ _ (.float x) => .int x.truncate
  | .member .text _ _ (.text s) => .int (Text.wholeNumber s)
  | .formless (.bytes content) =>
    .int (Text.wholeNumber (String.ofList (content.map Char.ofNat)))
  | .tuple [v] => v.asNumber
  | .tuple [] => .int 0
  | v => v

/-- The float nearest to a whole number. -/
def Binary64.ofInt (i : Int) : Binary64 := nearest (i < 0) ⟨i.natAbs, 1⟩

/-- The float that a text is read as, or zero. -/
def Binary64.ofText (s : String) : Binary64 := (read? s).getD (ofInt 0)

/-- The float that a value becomes in an enumeration of floats.  A tuple stands for its only item. -/
def Value.asFloat : Value → Value
  | .bool b => .float (.ofInt (if b then 1 else 0))
  | .int i => .float (.ofInt i)
  | .text s => .float (.ofText s)
  | .member .integer _ _ (.int i) => .float (.ofInt i)
  | .member .float _ _ content => content
  | .member .text _ _ (.text s) => .float (.ofText s)
  | .formless (.bytes content) => .float (.ofText (String.ofList (content.map Char.ofNat)))
  | .tuple [v] => v.asFloat
  | .tuple [] => .float (.ofInt 0)
  | v => v

/-- The text that a value becomes in an enumeration of texts.  A tuple stands for its only item. -/
def Value.asText (h : Hierarchy) : Value → Value
  | .text s => .text s
  | .member .integer _ _ content => .text (content.display h)
  | .member _ family name _ => .text (h.name family ++ "." ++ name)
  | .tuple [v] => v.asText h
  | .tuple [] => .text ""
  | v => .text (v.display h)

/-- What a value becomes as the content of a member. -/
def EnumKind.content (kind : EnumKind) (h : Hierarchy) (v : Value) : Value :=
  match kind with
  | plain => v
  | integer => v.asNumber
  | float => v.asFloat
  | text => v.asText h

/-- The names of an enumeration with their values, in order. -/
structure Enumeration where
  family : NodeType
  kind : EnumKind
  members : List (String × Value)

namespace Enumeration

/-- Whether a name stands between underscores, one or two on either side. -/
def isReserved (name : String) : Bool :=
  let letters := name.toList
  let before := (letters.takeWhile (· == '_')).length
  let behind := (letters.reverse.takeWhile (· == '_')).length
  letters.any (· != '_') && before == behind && (before == 1 || before == 2)

/-- Whether a name belongs to an enumeration itself: an underscore, the name of the enumeration and two
more stand in front of it, and no two stand behind. -/
def isPrivateTo (enumeration name : String) : Bool :=
  let mark := ("_" ++ enumeration ++ "__").toList
  let letters := name.toList
  mark.isPrefixOf letters && mark.length < letters.length
    && letters.reverse.take 2 != ['_', '_']

/-- Whether a name in an enumeration of a name denotes a member. -/
def isMemberName (enumeration name : String) : Bool :=
  !isReserved name && !isPrivateTo enumeration name

/-- The content of a member with the given value. -/
def content (e : Enumeration) (w : World) (v : Value) : Value := e.kind.content w.hierarchy v

/-- The entry that a name denotes: the first whose content equals that of the name.  Content that
equals nothing is an entry of its own. -/
def first? (e : Enumeration) (w : World) (name : String) : Option (String × Value) := do
  let own ← e.members.lookup name
  let first := e.members.find? fun m => (e.content w m.2).agrees w (e.content w own)
  return first.getD (name, own)

/-- The member that an entry makes. -/
def made (e : Enumeration) (w : World) (entry : String × Value) : Value :=
  .member e.kind e.family entry.1 (e.content w entry.2)

/-- The member that a name denotes. -/
def member? (e : Enumeration) (w : World) (name : String) : Option Value :=
  (e.first? w name).map (e.made w)

/-- The names in order, each with the member that it denotes. -/
def named (e : Enumeration) (w : World) : List (String × Value) :=
  e.members.filterMap fun m => (e.member? w m.1).map fun v => (m.1, v)

end Enumeration

end TreeShape
