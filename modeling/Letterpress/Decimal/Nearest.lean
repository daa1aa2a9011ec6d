import Letterpress.Decimal.Binary64

/-! The double nearest to an exact quotient. The quotient is scaled so that its whole part has fifty-three binary
digits (fewer below the least normal double), rounded half to even, and packed; a carry out of the rounding packs into
the next binade by itself. -/
namespace Letterpress.Decimal

/-- The quotient rounded to a whole number, a tie going to the even neighbour. -/
def roundHalfEven (num den : Nat) : Nat :=
  let q := num / den
  let r := num % den
  if 2 * r < den then q
  else if den < 2 * r then q + 1
  else q + q % 2

/-- The exponent `e` with `2 ^ e ≤ num / den < 2 ^ (e + 1)`. -/
def binaryExponent (num den : Nat) : Int :=
  let guess : Int := (num.log2 : Int) - den.log2
  let below := if 0 ≤ guess then num < den * twoTo guess.toNat else num * twoTo (-guess).toNat < den
  if below then guess - 1 else guess

/-- The bits of the double nearest to `num / den`, which has to be positive. -/
def quotientBits (num den : Nat) : Nat :=
  let q := max (binaryExponent num den - 52) (-1074)
  let n := if 0 ≤ q then roundHalfEven num (den * twoTo q.toNat) else roundHalfEven (num * twoTo (-q).toNat) den
  min ((q + 1074).toNat * twoTo 52 + n) (2047 * twoTo 52)

/-- The double nearest to `digits * 10 ^ exponent`. Beyond the range of doubles on either side the answer is known
without the power. -/
def ofDecimal (digits : Nat) (exponent : Int) : Float :=
  let width : Int := (Nat.toDigits 10 digits).length
  if digits = 0 || exponent + width < -330 then Float.ofBits 0
  else if 310 < exponent + width then Float.ofBits (.ofNat (2047 * twoTo 52))
  else if 0 ≤ exponent then Float.ofBits (.ofNat (quotientBits (digits * tenTo exponent.toNat) 1))
  else Float.ofBits (.ofNat (quotientBits digits (tenTo (-exponent).toNat)))

def ofNat (n : Nat) : Float := ofDecimal n 0

def ofInt (i : Int) : Float := if i < 0 then -ofNat i.natAbs else ofNat i.natAbs

end Letterpress.Decimal
