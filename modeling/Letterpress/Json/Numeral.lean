import Letterpress.Json.Basic
import Letterpress.Json.Fault

/-! JSON numbers. A number is put together from its first digits, as many as fit into a word, and one multiplication or
division by a power of ten; so a long number need not be the nearest double. -/
namespace Letterpress.Json

/-- The powers of ten up to the greatest that is a double. -/
def powerOfTen (exponent : Nat) : Float := Decimal.ofDecimal 1 exponent

/-- Divides by as many times `10 ^ 308` as needed to come within the table of powers. -/
def scaleDown (x : Float) (exponent : Nat) : Nat → Float
  | 0 => x
  | fuel + 1 =>
    if exponent ≤ 308 then x / powerOfTen exponent
    else if x == 0.0 then x
    else scaleDown (x / powerOfTen 308) (exponent - 308) fuel

/-- A double from the first digits of a number and a power of ten, by one multiplication or division. -/
def scaled (significand : Nat) (exponent : Int) : Except Fault Float :=
  let x := Decimal.ofNat significand
  if 0 ≤ exponent then
    if exponent ≤ 308 then
      let y := x * powerOfTen exponent.toNat
      if Decimal.isFinite y then .ok y else .error .numberOutOfRange
    else if significand = 0 then .ok x else .error .numberOutOfRange
  else .ok (scaleDown x exponent.natAbs 8)

/-- Takes digits while they fit into a word: the value, how many were taken, and the rest. -/
def takeDigits (value taken : Nat) : List Char → Nat × Nat × List Char
  | [] => (value, taken, [])
  | c :: s =>
    let next := 10 * value + (c.toNat - '0'.toNat)
    if c.isDigit && Decimal.fitsWord next then takeDigits next (taken + 1) s else (value, taken, c :: s)

/-- A scanned number: its value, or a tear, and the rest. -/
abbrev Scanned := Except Tear (Except Fault Number × List Char)

def signedFloat (negative : Bool) (x : Float) : Number := .float (if negative then -x else x)

/-- The greatest exponent that is taken at its word; a greater one is as good as infinite. -/
def greatestExponent : Nat := Decimal.twoTo 31 - 1

def scanExponent (negative : Bool) (significand : Nat) (exponent : Int) (s : List Char) : Scanned :=
  let (below, s) := match s with
    | '+' :: s => (false, s)
    | '-' :: s => (true, s)
    | s => (false, s)
  match s with
  | [] => .error ⟨.endInValue, .invalidNumber⟩
  | c :: _ =>
    if !c.isDigit then .error (.both .invalidNumber)
    else
      let digits := s.takeWhile Char.isDigit
      let rest := s.dropWhile Char.isDigit
      let power := digits.foldl (fun n c => 10 * n + (c.toNat - '0'.toNat)) 0
      if greatestExponent < power then
        if significand ≠ 0 && !below then .ok (.error .numberOutOfRange, rest)
        else .ok (.ok (signedFloat negative 0.0), rest)
      else
        let total := if below then exponent - power else exponent + power
        .ok ((scaled significand total).map (signedFloat negative), rest)

/-- Reads on behind the digits of a number that is not whole: an exponent, or nothing. -/
def scanScaled (negative : Bool) (significand : Nat) (exponent : Int) (s : List Char) : Scanned :=
  match s with
  | c :: rest =>
    if c = 'e' || c = 'E' then scanExponent negative significand exponent rest
    else .ok ((scaled significand exponent).map (signedFloat negative), s)
  | [] => .ok ((scaled significand exponent).map (signedFloat negative), s)

/-- Reads behind a point. Digits that no longer fit are dropped. -/
def scanFraction (negative : Bool) (significand : Nat) (exponent : Int) (s : List Char) : Scanned :=
  let (value, taken, rest) := takeDigits significand 0 s
  match rest with
  | c :: _ =>
    if c.isDigit then scanScaled negative value (exponent - taken) (rest.dropWhile Char.isDigit)
    else if taken = 0 then .error (.both .invalidNumber)
    else scanScaled negative value (exponent - taken) rest
  | [] => if taken = 0 then .error ⟨.endInValue, .invalidNumber⟩ else scanScaled negative value (exponent - taken) rest

/-- Reads behind the whole part of a number, whose last `dropped` digits did not fit. -/
def scanTail (negative : Bool) (significand dropped : Nat) (s : List Char) : Scanned :=
  match s with
  | '.' :: rest => scanFraction negative significand dropped rest
  | 'e' :: rest => scanExponent negative significand dropped rest
  | 'E' :: rest => scanExponent negative significand dropped rest
  | s =>
    if 0 < dropped then .ok ((scaled significand dropped).map (signedFloat negative), s)
    else if !negative then .ok (.ok (.int significand), s)
    else if significand = 0 || Decimal.twoTo 63 < significand then .ok (.ok (.float (-Decimal.ofNat significand)), s)
    else .ok (.ok (.int (-(significand : Int))), s)

def scanNumber (negative : Bool) (s : List Char) : Scanned :=
  match s with
  | [] => .error ⟨.endInValue, .invalidNumber⟩
  | '0' :: rest =>
    match rest with
    | c :: _ => if c.isDigit then .error (.both .invalidNumber) else scanTail negative 0 0 rest
    | [] => scanTail negative 0 0 rest
  | c :: _ =>
    if !c.isDigit then .error (.both .invalidNumber)
    else
      let (value, _, rest) := takeDigits 0 0 s
      let dropped := rest.takeWhile Char.isDigit
      scanTail negative value dropped.length (rest.dropWhile Char.isDigit)

end Letterpress.Json
