import TreeShape.Node

/-!
# Names of nodes

What a node is called in messages and dumps.  A name is a text.  It may also be a member of an
enumeration of texts; such a name reads as its text where texts are put together, and is spoken as the
member where a message mentions it by itself.
-/

namespace TreeShape

/-- The member of an enumeration that a name is. -/
structure NameMember where
  family : NodeType
  /-- What the enumeration is called. -/
  familyName : String
  member : String
  deriving DecidableEq, Repr

structure Name where
  text : String
  member : Option NameMember := none
  deriving DecidableEq, Repr, Inhabited

namespace Name

/-- The name as a message mentions it. -/
def spoken (name : Name) : String :=
  match name.member with
  | none => name.text
  | some m => m.familyName ++ "." ++ m.member

end Name

end TreeShape
