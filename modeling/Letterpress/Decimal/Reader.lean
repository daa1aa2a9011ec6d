import Letterpress.Decimal.Nearest

/-! Reading a decimal number. A number is an optional sign, digits with at most one point among or around them and at
least one digit in all, and an optional exponent; the words for infinity and for "not a number" are numbers too. -/
namespace Letterpress.Decimal

def digitsValue (s : List Char) : Nat := s.foldl (fun n c => 10 * n + (c.toNat - '0'.toNat)) 0

def takeSign : List Char → Bool × List Char
  | '-' :: s => (true, s)
  | '+' :: s => (false, s)
  | s => (false, s)

/-- The exponent behind a number: nothing at all, or a mark, an optional sign and digits to the end. -/
def exponent? : List Char → Option Int
  | [] => some 0
  | c :: s =>
    if c = 'e' || c = 'E' then
      let (negative, digits) := takeSign s
      if !digits.isEmpty && digits.all Char.isDigit then
        some (if negative then -(digitsValue digits : Int) else digitsValue digits)
      else none
    else none

def magnitude? (s : List Char) : Option Float :=
  let lower := s.map Char.toLower
  if lower = "inf".toList || lower = "infinity".toList then some (1.0 / 0.0)
  else if lower = "nan".toList then some (0.0 / 0.0)
  else
    let before := s.takeWhile Char.isDigit
    let afterBefore := s.dropWhile Char.isDigit
    let (after, rest) := match afterBefore with
      | '.' :: r => (r.takeWhile Char.isDigit, r.dropWhile Char.isDigit)
      | r => ([], r)
    if before.isEmpty && after.isEmpty then none
    else (exponent? rest).map fun e => ofDecimal (digitsValue (before ++ after)) (e - after.length)

def float? (s : List Char) : Option Float :=
  let (negative, rest) := takeSign s
  (magnitude? rest).map fun x => if negative then -x else x

/-- A number that is neither infinite nor "not a number". -/
def finite? (s : List Char) : Option Float := (float? s).filter isFinite

def int? (s : List Char) : Option Int :=
  let (negative, digits) := takeSign s
  if !digits.isEmpty && digits.all Char.isDigit then
    some (if negative then -(digitsValue digits : Int) else digitsValue digits)
  else none

/-- A whole number that fits into a word with its sign. -/
def signed? (s : List Char) : Option Int := (int? s).filter fitsSigned

/-- A whole number that fits into a word, with or without a plus in front. -/
def word? (s : List Char) : Option Nat :=
  match s with
  | '-' :: _ => none
  | s => ((int? s).map Int.toNat).filter fitsWord

end Letterpress.Decimal
