import TreeShape.Decimal.Binary64

/-!
# The shortest decimal of a float

The decimal of a float is the one with the fewest digits among those that read back as that float;
of several with that many digits it is the nearest, and of two equally near the one with an even last
digit.  The search runs over the digit counts one to seventeen.  On each grid of decimals only the
two neighbours of the number can be the nearest, so two candidates a grid are enough.
-/

namespace TreeShape.Decimal

/-- The decimal `digits * 10 ^ exponent`. -/
structure Scientific where
  digits : Nat
  exponent : Int
  deriving DecidableEq, Repr, Inhabited

/-- A quotient of natural numbers, kept unreduced. -/
structure Ratio where
  numerator : Nat
  denominator : Nat

namespace Ratio

/-- The quotient `n * base ^ e`. -/
def scaled (n base : Nat) (e : Int) : Ratio :=
  ⟨n * power base e.toNat, power base (-e).toNat⟩

/-- Comparison by cross multiplication. -/
def le (a b : Ratio) : Bool :=
  a.numerator * b.denominator ≤ b.numerator * a.denominator

def lt (a b : Ratio) : Bool :=
  a.numerator * b.denominator < b.numerator * a.denominator

def distance (a b : Ratio) : Ratio :=
  let p := a.numerator * b.denominator
  let q := b.numerator * a.denominator
  ⟨(p - q) + (q - p), a.denominator * b.denominator⟩

def floor (a : Ratio) : Nat := a.numerator / a.denominator

end Ratio

/-- How many decimal digits a natural number has; zero has one. -/
def digitCount (n : Nat) : Nat := (Nat.toDigits 10 n).length

/-- The power of ten of the leading digit of a positive quotient. -/
def leadingExponent (v : Ratio) : Int :=
  if v.denominator ≤ v.numerator then (digitCount v.floor : Int) - 1
  else
    let least := (v.denominator + v.numerator - 1) / v.numerator
    Int.negOfNat (digitCount (least - 1))

/-- The numbers that round to one float, between its two bounds. -/
structure RoundingInterval where
  low : Ratio
  high : Ratio
  closed : Bool

namespace RoundingInterval

/-- The interval of `m * 2 ^ e`.  Below a power of two the floats lie twice as close, and the bounds
round to the float just when its mantissa is even. -/
def of (m : Nat) (e : Int) : RoundingInterval :=
  let narrow := m == Binary64.hiddenBit && Binary64.leastExponent < e
  { low := .scaled (if narrow then 4 * m - 1 else 4 * m - 2) 2 (e - 2)
    high := .scaled (4 * m + 2) 2 (e - 2)
    closed := m % 2 == 0 }

def contains (i : RoundingInterval) (v : Ratio) : Bool :=
  if i.closed then i.low.le v && v.le i.high else i.low.lt v && v.lt i.high

end RoundingInterval

/-- The better of the two neighbours of `v` on the grid of multiples of `10 ^ exponent`, if one of
them lies in the interval. -/
def neighbour (i : RoundingInterval) (v : Ratio) (exponent : Int) : Option Scientific :=
  let below := Ratio.floor
    ⟨v.numerator * power 10 (-exponent).toNat, v.denominator * power 10 exponent.toNat⟩
  let above := below + 1
  let atBelow := Ratio.scaled below 10 exponent
  let atAbove := Ratio.scaled above 10 exponent
  match i.contains atBelow, i.contains atAbove with
  | false, false => none
  | true, false => some ⟨below, exponent⟩
  | false, true => some ⟨above, exponent⟩
  | true, true =>
    let left := v.distance atBelow
    let right := v.distance atAbove
    if left.lt right then some ⟨below, exponent⟩
    else if right.lt left then some ⟨above, exponent⟩
    else if below % 2 == 0 then some ⟨below, exponent⟩
    else some ⟨above, exponent⟩

/-- Drops the zeros at the end of the digits, at most `fuel` of them. -/
def Scientific.trim : Nat → Scientific → Scientific
  | 0, s => s
  | fuel + 1, s =>
    if s.digits != 0 && s.digits % 10 == 0 then trim fuel ⟨s.digits / 10, s.exponent + 1⟩ else s

/-- The shortest decimal that reads back as the positive float `m * 2 ^ e`. -/
def shortest (m : Nat) (e : Int) : Scientific :=
  let v := Ratio.scaled m 2 e
  let lead := leadingExponent v
  let i := RoundingInterval.of m e
  let found := (List.range 17).findSome? fun k : Nat => neighbour i v (lead - (k : Int))
  (found.getD ⟨0, 0⟩).trim 20

/-! ## Layout -/

/-- Where positional notation begins and ends, by the power of ten of the leading digit. -/
structure Layout where
  leastPositional : Int
  mostPositional : Int
  exponentDigits : Nat

/-- Fills up with zeros on the left. -/
def padLeft (width : Nat) (digits : List Char) : List Char :=
  List.replicate (width - digits.length) '0' ++ digits

/-- The exponent with its sign and at least as many digits as the layout asks for. -/
def Layout.exponentText (l : Layout) (e : Int) : List Char :=
  (if e < 0 then '-' else '+') :: padLeft l.exponentDigits (Nat.toDigits 10 e.natAbs)

/-- Writes a decimal.  Positional notation always has a point and a digit after it; scientific
notation has a point only between digits. -/
def Layout.write (l : Layout) (s : Scientific) : List Char :=
  let digits := Nat.toDigits 10 s.digits
  let lead : Int := s.exponent + digits.length - 1
  if l.leastPositional ≤ lead && lead ≤ l.mostPositional then
    if lead < 0 then '0' :: '.' :: (List.replicate (-lead - 1).toNat '0' ++ digits)
    else
      let whole := lead.toNat + 1
      let front := digits.take whole ++ List.replicate (whole - digits.length) '0'
      let back := digits.drop whole
      front ++ '.' :: (if back.isEmpty then ['0'] else back)
  else
    let back := digits.drop 1
    digits.take 1 ++ (if back.isEmpty then [] else '.' :: back) ++ 'e' :: l.exponentText lead

end TreeShape.Decimal
