import Letterpress.Decimal.Power

/-! The anatomy of a double: its sign, and for a finite one the whole number and the power of two whose product it is.
Everything else that is said about doubles here is said through these parts, in exact arithmetic. -/
namespace Letterpress.Decimal

/-- A double taken apart: a finite one is `significand * 2 ^ exponent` with the given sign. -/
inductive Parts
  | finite (negative : Bool) (significand : Nat) (exponent : Int)
  | infinite (negative : Bool)
  | notANumber
  deriving DecidableEq, Repr

def partsOfBits (bits : Nat) : Parts :=
  let negative := bits / twoTo 63 % 2 == 1
  let biased : Nat := bits / twoTo 52 % twoTo 11
  let fraction : Nat := bits % twoTo 52
  if biased = 2047 then
    if fraction = 0 then .infinite negative else .notANumber
  else if biased = 0 then .finite negative fraction (-1074)
  else .finite negative (twoTo 52 + fraction) ((biased : Int) - 1075)

def parts (x : Float) : Parts := partsOfBits x.toBits.toNat

def isFinite (x : Float) : Bool :=
  match parts x with
  | .finite .. => true
  | _ => false

/-- The whole part of a finite double, rounded toward zero; nothing for the others. -/
def truncate? (x : Float) : Option Int :=
  match parts x with
  | .finite negative m e =>
    let magnitude : Nat := if 0 ≤ e then m * twoTo e.toNat else m / twoTo (-e).toNat
    some (if negative then -(magnitude : Int) else magnitude)
  | _ => none

/-- The value of a finite double without a fractional part. -/
def whole? (x : Float) : Option Int :=
  match parts x with
  | .finite negative m e =>
    if 0 ≤ e then some (if negative then -((m * twoTo e.toNat : Nat) : Int) else (m * twoTo e.toNat : Nat))
    else if m % twoTo (-e).toNat = 0 then
      some (if negative then -((m / twoTo (-e).toNat : Nat) : Int) else (m / twoTo (-e).toNat : Nat))
    else none
  | _ => none

/-- The word of sixty-four bits nearest to a double, a tie going up. There are no words for negative doubles, and zero
stands for them as for what is not a number. -/
def nearestWord (x : Float) : Nat :=
  match parts x with
  | .finite false m e =>
    min (if 0 ≤ e then m * twoTo e.toNat else (2 * m + twoTo (-e).toNat) / (2 * twoTo (-e).toNat)) greatestWord
  | .infinite false => greatestWord
  | _ => 0

end Letterpress.Decimal
