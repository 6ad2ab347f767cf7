import TreeShape.Decimal.Shortest
import TreeShape.Text.Numeral

/-!
# Floats from decimals

The float of a decimal is the nearest one to its exact value; of two equally near, the one with the even
mantissa.  What lies beyond the greatest float by half a step or more is infinite.  The value is kept as
a quotient of natural numbers until it is rounded, and rounded once.
-/

namespace TreeShape.Decimal

namespace Ratio

/-- The nearest whole number; of two equally near, the even one. -/
def round (a : Ratio) : Nat :=
  let whole := a.floor
  let twice := 2 * (a.numerator % a.denominator)
  if twice < a.denominator then whole
  else if a.denominator < twice then whole + 1
  else whole + whole % 2

/-- What is left of a quotient after division by a power of two. -/
def unscaled (a : Ratio) (e : Int) : Ratio :=
  ⟨a.numerator * power 2 (-e).toNat, a.denominator * power 2 e.toNat⟩

end Ratio

/-- The exponent of the float that a positive quotient is rounded to: fifty-three binary digits are kept,
unless the quotient is too small for that. -/
def floatExponent (v : Ratio) : Int :=
  let guess : Int := (Nat.log2 v.numerator : Int) - Nat.log2 v.denominator - 52
  let exact := if Binary64.hiddenBit ≤ (v.unscaled guess).floor then guess else guess - 1
  max exact Binary64.leastExponent

end TreeShape.Decimal

namespace TreeShape.Binary64

open Decimal (Ratio)

def greatestExponent : Int := 971

/-- The float nearest to a quotient, with a sign. -/
def nearest (negative : Bool) (v : Ratio) : Binary64 :=
  if v.numerator = 0 then .finite negative 0 leastExponent
  else
    let e := Decimal.floatExponent v
    let rounded := (v.unscaled e).round
    let (m, e) := if rounded = 2 * hiddenBit then (hiddenBit, e + 1) else (rounded, e)
    if greatestExponent < e then .infinite negative else .finite negative m e

/-- The float nearest to digits times a power of ten.  Numbers with a digit before the three hundred
and ninth place are infinite, and numbers whose first digit stands behind the three hundred and
twenty-fourth place after the point are zero. -/
def ofDigits (negative : Bool) (digits : List Char) (exponent : Int) : Binary64 :=
  let significant := digits.dropWhile (· == '0')
  let lead : Int := significant.length + exponent
  if significant.isEmpty || lead ≤ -324 then .finite negative 0 leastExponent
  else if 309 < lead then .infinite negative
  else nearest negative (.scaled (Text.digitsValue significant) 10 exponent)

/-- The words for what is infinite. -/
def infinityWords : List String := ["inf", "infinity"]

def read? (numeral : String) : Option Binary64 :=
  let cs := Text.bare numeral
  if !Text.separatesDigits false cs then none
  else
    let (negative, cs) := Text.splitSign (cs.filter (· != '_'))
    let word := String.ofList (cs.map Char.toLower)
    if infinityWords.contains word then some (.infinite negative)
    else if word = "nan" then some .notANumber
    else (Text.scientific? cs).map fun s => ofDigits negative s.1 s.2

end TreeShape.Binary64
