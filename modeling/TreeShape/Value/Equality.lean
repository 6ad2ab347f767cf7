import TreeShape.World

/-!
# Equality of values

Whether two values are equal as scripts see it.  Numbers are equal by their value, whatever their
kind; truth values count as one and zero; a member of an enumeration that is also a number or a text
is equal to that.  Objects are equal when they are the same, and nodes of some types claim to be equal
to everything.  The items of nodes that are lists or tuples are not compared.
-/

namespace TreeShape

namespace Value

/-- The content of a member that is also a number or a text, else the value itself. -/
def plain : Value → Value
  | .member .integer _ _ content => content
  | .member .float _ _ content => content
  | .member .text _ _ content => content
  | v => v

/-- The number that a truth value counts as. -/
def asInt? : Value → Option Int
  | .int i => some i
  | .bool b => some (if b then 1 else 0)
  | _ => none

/-- Numeric equality, where both are numbers. -/
def sameNumber? (a b : Value) : Option Bool :=
  match a, b with
  | .float x, .float y => some (x.agrees y)
  | .float x, b => b.asInt?.map x.agreesWithInt
  | a, .float y => a.asInt?.map y.agreesWithInt
  | a, b => match a.asInt?, b.asInt? with
    | some i, some j => some (i == j)
    | _, _ => none

/-- Equality of two values without items. -/
def sameAtom (a b : Value) : Bool :=
  match a.sameNumber? b with
  | some same => same
  | none => match a, b with
    | .nothing, .nothing => true
    | .text s, .text t => s == t
    | .member .plain s m _, .member .plain t n _ => s == t && m == n
    | .type s, .type t => s == t
    | .node m, .node n => m == n
    | .formless .object, .formless .object => false
    | .formless f, .formless g => f == g
    | _, _ => false

/-- Whether the value is a node that claims to be equal to everything. -/
def equalsEverything (w : World) (v : Value) : Bool :=
  match v.asObject? with
  | some n => (w.hierarchy.lineage (w.typeOf n)).any fun t => (w.hierarchy.info t).equalsEverything
  | none => false

mutual

/-- Equality of values. -/
def agrees (w : World) (a b : Value) : Bool :=
  a.equalsEverything w || b.equalsEverything w ||
    match a, b with
    | .list xs, .list ys => allAgree w xs ys
    | .tuple xs, .tuple ys => allAgree w xs ys
    | a, b => sameAtom a.plain b.plain

def allAgree (w : World) : List Value → List Value → Bool
  | [], [] => true
  | x :: xs, y :: ys => agrees w x y && allAgree w xs ys
  | _, _ => false

end

end Value

end TreeShape
