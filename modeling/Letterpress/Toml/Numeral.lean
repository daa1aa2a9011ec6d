import Letterpress.Decimal.Reader
import Letterpress.Text.HexDigit
import Letterpress.Toml.Basic

/-! TOML numbers. Single underscores may stand between digits. A whole number fits into sixty-four bits with its sign, and
has no zeros in front. -/
namespace Letterpress.Toml
open Letterpress.Text

/-- The digits behind a digit, and the rest; nothing if an underscore leads nowhere. -/
def moreDigits? (isDigit : Char → Bool) : List Char → Option (List Char × List Char)
  | '_' :: c :: s =>
    if isDigit c then (moreDigits? isDigit s).map fun (digits, rest) => (c :: digits, rest) else none
  | ['_'] => none
  | c :: s =>
    if isDigit c then (moreDigits? isDigit s).map fun (digits, rest) => (c :: digits, rest) else some ([], c :: s)
  | [] => some ([], [])

def digits? (isDigit : Char → Bool) : List Char → Option (List Char × List Char)
  | c :: s =>
    if isDigit c then (moreDigits? isDigit s).map fun (digits, rest) => (c :: digits, rest) else none
  | [] => none

/-- The digits before a point: a zero, or digits that begin with another one. -/
def wholeDigits? : List Char → Option (List Char × List Char)
  | '0' :: s => some (['0'], s)
  | s => digits? Char.isDigit s

/-- A number to another base than ten, behind its mark. -/
def based? (base : Nat) (s : List Char) : Option (Toml × List Char) := do
  let isDigit := fun c => match hexValue? c with
    | some n => n < base
    | none => false
  let (digits, rest) ← digits? isDigit s
  let n := digits.foldl (fun n c => base * n + (hexValue? c).getD 0) 0
  if Decimal.fitsSigned n then return (.int n, rest) else none

/-- The exponent of a number, as it is written without underscores; nothing if it has a mark but no digits. -/
def power? (s : List Char) : Option (List Char × List Char) :=
  match s with
  | c :: behind =>
    if c = 'e' ∨ c = 'E' then do
      let (negative, behind) := Decimal.takeSign behind
      let (digits, rest) ← digits? Char.isDigit behind
      return ('e' :: (if negative then '-' else '+') :: digits, rest)
    else some ([], s)
  | [] => some ([], [])

def fraction? (s : List Char) : Option (List Char × List Char) :=
  match s with
  | '.' :: behind => (digits? Char.isDigit behind).map fun (digits, rest) => ('.' :: digits, rest)
  | s => some ([], s)

def signedFloat (negative : Bool) (x : Float) : Float := if negative then -x else x

/-- A decimal number behind its sign. One that is too great is none, but one may be too small. -/
def decimal? (negative : Bool) (s : List Char) : Option (Toml × List Char) := do
  let (digits, rest) ← wholeDigits? s
  let (fraction, rest) ← fraction? rest
  let (power, rest) ← power? rest
  if fraction.isEmpty && power.isEmpty then
    let n : Int := Decimal.digitsValue digits
    let n := if negative then -n else n
    if Decimal.fitsSigned n then return (.int n, rest) else none
  else
    let x ← Decimal.float? (digits ++ fraction ++ power)
    if !negative && !Decimal.isFinite x then none else return (.float (signedFloat negative x), rest)

def number? (s : List Char) : Option (Toml × List Char) :=
  match s with
  | '0' :: 'x' :: rest => based? 16 rest
  | '0' :: 'o' :: rest => based? 8 rest
  | '0' :: 'b' :: rest => based? 2 rest
  | s =>
    let (negative, unsigned) := Decimal.takeSign s
    match unsigned with
    | 'i' :: 'n' :: 'f' :: rest => some (.float (signedFloat negative (1.0 / 0.0)), rest)
    | 'n' :: 'a' :: 'n' :: rest => some (.float (signedFloat negative (0.0 / 0.0)), rest)
    | unsigned => decimal? negative unsigned

end Letterpress.Toml
