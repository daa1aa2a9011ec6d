import Letterpress.Decimal.Binary64

/-! The fewest digits that read back. The reals that round to a double form an interval around it; the coarsest decimal
grid with a point in that interval gives the digits, and of two such points the nearer one is taken. If a point of a
grid lies in the interval then so does one of the double's two neighbours on that grid, so only those are tried. -/
namespace Letterpress.Decimal

/-- A finite double with the reals around it that round to it, all over the common denominator `den`. The ends belong
to the interval when `closed` holds. -/
structure Rounding where
  low : Nat
  value : Nat
  high : Nat
  den : Nat
  closed : Bool

/-- The gap below a power of two is half the gap above it, unless the double is subnormal. -/
def Rounding.ofParts (significand : Nat) (exponent : Int) : Rounding :=
  let narrow := significand = twoTo 52 ∧ -1074 < exponent
  let up := if 2 ≤ exponent then twoTo (exponent - 2).toNat else 1
  let down := if 2 ≤ exponent then 1 else twoTo (2 - exponent).toNat
  { low := (if narrow then 4 * significand - 1 else 4 * significand - 2) * up
    value := 4 * significand * up
    high := (4 * significand + 2) * up
    den := down
    closed := significand % 2 == 0 }

def Rounding.holds (r : Rounding) (point scale : Nat) : Bool :=
  let at_ := point * r.den
  if r.closed then r.low * scale ≤ at_ && at_ ≤ r.high * scale
  else r.low * scale < at_ && at_ < r.high * scale

/-- The point of the grid of step `10 ^ step` that reads back, if there is one, counted in steps. -/
def Rounding.pointOn? (r : Rounding) (step : Int) : Option Nat :=
  let unit := if 0 ≤ step then tenTo step.toNat else 1
  let scale := if 0 ≤ step then 1 else tenTo (-step).toNat
  let below := r.value * scale / (r.den * unit)
  let holdsBelow := r.holds (below * unit) scale
  let holdsAbove := r.holds ((below + 1) * unit) scale
  if holdsBelow && holdsAbove then
    let left := r.value * scale - below * unit * r.den
    let right := (below + 1) * unit * r.den - r.value * scale
    some (if left < right then below else if right < left then below + 1 else below + below % 2)
  else if holdsBelow then some below
  else if holdsAbove then some (below + 1)
  else none

/-- Digits and the power of ten of the last of them. -/
structure Digits where
  digits : Nat
  exponent : Int
  deriving DecidableEq, Repr

/-- The first grid with a hit, from the coarsest on; seventeen digits always read back. -/
def Rounding.shortestFrom (r : Rounding) (step : Int) : Nat → Digits
  | 0 => ⟨(r.pointOn? step).getD 0, step⟩
  | fuel + 1 =>
    match r.pointOn? step with
    | some point => if point = 0 then shortestFrom r (step - 1) fuel else ⟨point, step⟩
    | none => shortestFrom r (step - 1) fuel

/-- Moves zeros at the end of the digits into the exponent. -/
def Digits.reduce (d : Digits) : Nat → Digits
  | 0 => d
  | fuel + 1 => if d.digits % 10 = 0 ∧ d.digits ≠ 0 then reduce ⟨d.digits / 10, d.exponent + 1⟩ fuel else d

/-- The shortest digits of a positive double `significand * 2 ^ exponent`. -/
def shortest (significand : Nat) (exponent : Int) : Digits :=
  let r := Rounding.ofParts significand exponent
  let top : Int :=
    if r.den ≤ r.value then ((Nat.toDigits 10 (r.value / r.den)).length : Int)
    else 2 - ((Nat.toDigits 10 (r.den / r.value)).length : Int)
  (r.shortestFrom top 20).reduce 20

end Letterpress.Decimal
