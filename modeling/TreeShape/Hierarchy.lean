import TreeShape.Failure
import TreeShape.Value.Term

/-!
# Hierarchies of node types

A type has direct bases and is an instance of everything on its *lineage*: itself, then its ancestors in
the order in which attributes are looked up.  The lineage of a new type merges those of its bases: the
next type on it is the first head of a remaining list that stands behind no other head.

Types are declared one after the other, and the bases of a type come before it, so lineages are computed
once, when the type is declared, and stored.  Every step of a merge takes at least one type off the
lists, so the number of types on them is enough fuel.
-/

namespace TreeShape

/-- How an attribute that a type declares is computed from the node. -/
inductive Property where
  | constant (t : Term)
  /-- A child, which must exist.  Negative positions count from the end. -/
  | child (position : Int)
  /-- A child, or nothing beyond the last one.  Negative positions count from the end. -/
  | childOrNothing (position : Int)
  /-- What the node stores under a name. -/
  | stored (attr : String)
  /-- Another name of a stored attribute, by which it can also be set. -/
  | synonym (attr : String)
  | children
  | parent
  | failing (f : Failure)

/-- What is known of one type. -/
structure TypeInfo where
  /-- The name by which programs refer to the type, unless they cannot. -/
  key : Option TypeName
  name : String
  qualifiedName : String
  /-- What stands in front of the qualified name where a type is displayed: the place it comes from. -/
  home : String
  /-- The type, then its ancestors in the order of look-up. -/
  lineage : List NodeType
  /-- The attributes that the type itself declares, in order. -/
  properties : List (String × Property)
  storesAttributes : Bool
  equalsEverything : Bool
  /-- The attributes whose nodes are the children, for types whose nodes have named parts. -/
  parts : Option (List String)
  /-- Whether one node of the type serves many owners, so that it is nobody's child. -/
  isShared : Bool
  /-- The names of an enumeration in order, each with the member that it denotes. -/
  members : Option (List (String × Value))

namespace TypeInfo

/-- The place that declared types come from. -/
def declaredHome : String := "__main__."

/-- The place that the kinds of syntax nodes come from. -/
def syntaxHome : String := "ast."

/-- The place that the first types come from is not displayed. -/
def firstHome : String := ""

/-- The members of an enumeration in order, each once: under its own name. -/
def distinctMembers (info : TypeInfo) : Option (List Value) :=
  info.members.map fun named => named.filterMap fun m => match m with
    | (name, .member kind family own content) =>
      if name = own then some (.member kind family own content) else none
    | _ => none

end TypeInfo

instance : Inhabited TypeInfo :=
  ⟨⟨none, "", "", TypeInfo.declaredHome, [], [], true, false, none, false, none⟩⟩

/-- The types of a world, each at its number. -/
structure Hierarchy where
  types : Array TypeInfo

namespace Lineage

/-- Whether the type stands behind the head of some list. -/
def isBehind (t : NodeType) (lists : List (List NodeType)) : Bool :=
  lists.any fun l => l.tail.contains t

/-- The next type of a merge: the first head that stands behind no other. -/
def next? (lists : List (List NodeType)) : Option NodeType :=
  (lists.filterMap List.head?).find? fun t => !isBehind t lists

/-- Takes a type off the front of every list that starts with it. -/
def remove (t : NodeType) (lists : List (List NodeType)) : List (List NodeType) :=
  lists.map fun l => if l.head? = some t then l.tail else l

/-- Merges lists, of at most `fuel` types together.  Where no order respects all lists, what is left
follows as it stands. -/
def merge : Nat → List (List NodeType) → List NodeType
  | 0, _ => []
  | fuel + 1, lists =>
    match next? lists with
    | none => lists.flatten.eraseDups
    | some t => t :: merge fuel (remove t lists)

end Lineage

namespace Hierarchy

def empty : Hierarchy := ⟨#[]⟩

def info (h : Hierarchy) (t : NodeType) : TypeInfo := h.types[t.number]?.getD default

def name (h : Hierarchy) (t : NodeType) : String := (h.info t).name

def qualifiedName (h : Hierarchy) (t : NodeType) : String := (h.info t).qualifiedName

def lineage (h : Hierarchy) (t : NodeType) : List NodeType := (h.info t).lineage

/-- A type as failures to read attributes mention it: the kind that all nodes of syntax have is called
by its full name, every other type by its own. -/
def mention (h : Hierarchy) (t : NodeType) : String :=
  if (h.info t).key = some (.kind "AST") then "ast.AST" else h.name t

def isSubtype (h : Hierarchy) (t u : NodeType) : Bool := (h.lineage t).contains u

/-- The lineage of the next type to be declared, with the given bases. -/
def nextLineage (h : Hierarchy) (bases : List NodeType) : List NodeType :=
  let lists := bases.map h.lineage ++ [bases]
  ⟨h.types.size⟩ :: Lineage.merge lists.flatten.length lists

/-- Declares a type; its lineage follows from its bases. -/
def declare (h : Hierarchy) (bases : List NodeType) (t : TypeInfo) : Hierarchy :=
  ⟨h.types.push { t with lineage := h.nextLineage bases }⟩

/-- The type that programs refer to by a name, the latest one declared. -/
def find? (h : Hierarchy) (key : TypeName) : Option NodeType :=
  let number := (h.types.toList.reverse.findIdx? fun t => t.key == some key).map
    fun i => h.types.size - 1 - i
  number.map NodeType.mk

/-- How the nearest type on the lineage that declares an attribute computes it. -/
def property? (h : Hierarchy) (t : NodeType) (attr : String) : Option Property :=
  (h.lineage t).findSome? fun u => (h.info u).properties.lookup attr

/-- The names of the parts of a type's nodes, from the nearest type that names them. -/
def parts? (h : Hierarchy) (t : NodeType) : Option (List String) :=
  (h.lineage t).findSome? fun u => (h.info u).parts

/-- Whether nodes of the type have named parts, be they none at all. -/
def hasParts (h : Hierarchy) (t : NodeType) : Bool :=
  (h.lineage t).any fun u => (h.info u).parts.isSome

/-- Whether nodes of the type store attributes, as some type on the lineage lets them. -/
def storesAttributes (h : Hierarchy) (t : NodeType) : Bool :=
  (h.lineage t).any fun u => (h.info u).storesAttributes

/-- Whether nodes of the type are nobody's children. -/
def isShared (h : Hierarchy) (t : NodeType) : Bool :=
  (h.lineage t).any fun u => (h.info u).isShared

/-- The names of the latest enumeration of a name, with the members that they denote. -/
def members? (h : Hierarchy) (family : String) : Option (List (String × Value)) :=
  h.types.toList.reverse.findSome? fun t =>
    if t.key == some (.plain family) then t.members else none

/-- A type as messages display it: its qualified name as it is, with the place it comes from.
Enumerations are displayed by their name alone, as a quoted text. -/
def display (h : Hierarchy) (t : NodeType) : String :=
  let info := h.info t
  if info.members.isSome then "<enum " ++ Text.quoted info.name ++ ">"
  else "<class '" ++ info.home ++ info.qualifiedName ++ "'>"

end Hierarchy

/-- The name that a value is, if it is a text. -/
def Value.name? (h : Hierarchy) : Value → Option Name
  | .text s => some ⟨s, none⟩
  | .member .text family label (.text s) => some ⟨s, some ⟨family, h.name family, label⟩⟩
  | _ => none

end TreeShape
