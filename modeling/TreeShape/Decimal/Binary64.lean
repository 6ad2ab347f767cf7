/-!
# Binary floating point numbers

A 64 bit float as the exact number it stands for: a sign, a natural mantissa and a power of two.
`Binary64.agrees` is numeric equality, under which a number that is no number equals nothing and the two
zeros are equal.
-/

namespace TreeShape

/-- A 64 bit float.  The finite ones stand for `mantissa * 2 ^ exponent`, with a sign. -/
inductive Binary64 where
  | notANumber
  | infinite (negative : Bool)
  | finite (negative : Bool) (mantissa : Nat) (exponent : Int)
  deriving DecidableEq, Repr, Inhabited

def power (base exponent : Nat) : Nat := Nat.pow base exponent

namespace Binary64

/-- The mantissa of the smallest normal number: the bit that normal numbers do not store. -/
def hiddenBit : Nat := 0x10000000000000

/-- The exponent of the numbers below the smallest normal number. -/
def leastExponent : Int := -1074

/-- The mantissa with its sign. -/
def signed (negative : Bool) (mantissa : Nat) : Int :=
  if negative then -mantissa else mantissa

/-- Whether `a * 2 ^ e` and `b * 2 ^ f` are the same number. -/
def sameScaled (a : Int) (e : Int) (b : Int) (f : Int) : Bool :=
  a * (power 2 (e - f).toNat : Int) == b * (power 2 (f - e).toNat : Int)

def agrees : Binary64 → Binary64 → Bool
  | infinite s, infinite t => s == t
  | finite s m e, finite t n f => sameScaled (signed s m) e (signed t n) f
  | _, _ => false

def agreesWithInt : Binary64 → Int → Bool
  | finite s m e, i => sameScaled (signed s m) e i 0
  | _, _ => false

end Binary64

end TreeShape
