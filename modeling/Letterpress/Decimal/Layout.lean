import Letterpress.Decimal.Shortest

/-! Writing a double down: its shortest digits, laid out with or without an exponent. -/
namespace Letterpress.Decimal

/-- The digits with a point after the first `before` of them. A point outside the digits is reached by zeros; a whole
value has no point. -/
def positional (digits : List Char) (before : Int) : List Char :=
  if before ≤ 0 then '0' :: '.' :: (List.replicate (-before).toNat '0' ++ digits)
  else if digits.length ≤ before.toNat then digits ++ List.replicate (before.toNat - digits.length) '0'
  else digits.take before.toNat ++ '.' :: digits.drop before.toNat

def signed (negative : Bool) (s : List Char) : List Char := if negative then '-' :: s else s

/-- Never an exponent, and no point in a whole value: `0.1`, `1000000`, `-0`, `inf`, `NaN`. -/
def plain (x : Float) : String :=
  match parts x with
  | .notANumber => "NaN"
  | .infinite negative => String.ofList (signed negative ['i', 'n', 'f'])
  | .finite negative 0 _ => String.ofList (signed negative ['0'])
  | .finite negative m e =>
    let d := shortest m e
    let ds := Nat.toDigits 10 d.digits
    String.ofList (signed negative (positional ds (d.exponent + ds.length)))

/-- Positional while the point falls less than five zeros before the digits or within the first sixteen places, and
then with at least one digit after it; outside of that one digit, the others behind a point, and an exponent that
always shows its sign: `1.0`, `1e+21`, `1e-7`. -/
def scientific (x : Float) : String :=
  match parts x with
  | .notANumber => "NaN"
  | .infinite negative => String.ofList (signed negative ['i', 'n', 'f'])
  | .finite negative 0 _ => String.ofList (signed negative ['0', '.', '0'])
  | .finite negative m e =>
    let d := shortest m e
    let ds := Nat.toDigits 10 d.digits
    let point := d.exponent + ds.length
    let body :=
      if -5 < point ∧ point ≤ 16 then
        let s := positional ds point
        if s.contains '.' then s else s ++ ['.', '0']
      else
        let mantissa := match ds with
          | [] => []
          | [c] => [c]
          | c :: rest => c :: '.' :: rest
        let power := point - 1
        mantissa ++ 'e' :: (if power < 0 then '-' :: Nat.toDigits 10 power.natAbs
          else '+' :: Nat.toDigits 10 power.toNat)
    String.ofList (signed negative body)

end Letterpress.Decimal
