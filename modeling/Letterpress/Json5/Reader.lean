import Letterpress.Decimal.Reader
import Letterpress.Json.Basic
import Letterpress.Json5.Quotation
import Letterpress.Text.Alphanumeric
import Letterpress.Text.Blank
import Letterpress.Text.Search

/-! Reading JSON5: JSON with comments, names as keys, single quotes, a comma behind the last item, and more ways to write
a number. -/
namespace Letterpress.Json5
open Letterpress.Text

def isGap (c : Char) : Bool := c == '\ufeff' || (isBlank c && c.toNat != 0x85)

/-- Skips blanks and comments. A comment that does not end is none. -/
def skipGap : Nat → List Char → List Char
  | 0, s => s
  | fuel + 1, s =>
    match s with
    | '/' :: '/' :: comment => skipGap fuel (comment.dropWhile (!isLineEnd ·))
    | '/' :: '*' :: comment =>
      match breakOn? ['*', '/'] comment with
      | some (_, rest) => skipGap fuel rest
      | none => s
    | c :: rest => if isGap c then skipGap fuel rest else s
    | [] => []

def afterGap (s : List Char) : List Char := skipGap (s.length + 1) s

def isNameStart (c : Char) : Bool := c == '$' || c == '_' || c.isAlpha || (0x80 ≤ c.toNat && isAlphanumeric c)

/-- The characters of a name behind its first: also digits, marks on letters, connectors and joiners. -/
def isNamePart (c : Char) : Bool :=
  let n := c.toNat
  isNameStart c || c.isDigit || (0x300 ≤ n && n ≤ 0x36f) || n == 0x200c || n == 0x200d || n == 0x203f || n == 0x2040

def nameFrom (isPart : Char → Bool) : Nat → List Char → Option (List Char × List Char)
  | 0, s => some ([], s)
  | _ + 1, [] => some ([], [])
  | fuel + 1, '\\' :: 'u' :: s => do
    let (c, rest) ← numbered? s
    let (name, rest) ← nameFrom isNamePart fuel rest
    return (c :: name, rest)
  | fuel + 1, c :: s =>
    if isPart c then (nameFrom isNamePart fuel s).map fun (name, rest) => (c :: name, rest) else some ([], c :: s)

def name? (s : List Char) : Option (String × List Char) := do
  let (name, rest) ← nameFrom isNameStart (s.length + 1) s
  if name.isEmpty then none else return (String.ofList name, rest)

def afterExponent (s : List Char) : List Char :=
  match s with
  | c :: power =>
    let digits := match power with
      | '+' :: digits => digits
      | '-' :: digits => digits
      | digits => digits
    if (c = 'e' ∨ c = 'E') ∧ !(digits.takeWhile Char.isDigit).isEmpty then digits.dropWhile Char.isDigit else s
  | [] => []

/-- The rest behind the digits of a decimal number: a zero alone, or digits that begin with another. -/
def afterWhole? : List Char → Option (List Char)
  | '0' :: s => some s
  | c :: s => if c.isDigit then some (s.dropWhile Char.isDigit) else none
  | [] => none

def afterDecimal? (s : List Char) : Option (List Char) :=
  match afterWhole? s, s with
  | some ('.' :: fraction), _ => some (afterExponent (fraction.dropWhile Char.isDigit))
  | some rest, _ => some (afterExponent rest)
  | none, '.' :: d :: fraction => if d.isDigit then some (afterExponent (fraction.dropWhile Char.isDigit)) else none
  | none, _ => none

/-- The digits of a hexadecimal number, and the rest. -/
def hexDigits? (s : List Char) : Option (List Char × List Char) :=
  match s with
  | '0' :: x :: digits =>
    let isHex := fun c => (hexValue? c).isSome
    if (x = 'x' ∨ x = 'X') ∧ !(digits.takeWhile isHex).isEmpty then
      some (digits.takeWhile isHex, digits.dropWhile isHex)
    else none
  | _ => none

/-- A number without a point and an exponent is whole, and then has to fit into a word with its sign. -/
def decimal? (s : List Char) : Option Json.Number :=
  if s.any fun c => c == '.' || c == 'e' || c == 'E' then (Decimal.finite? s).map .float
  else (Decimal.signed? s).map .int

/-- A number. One in hexadecimal digits has no sign and fits into half a word; infinity has no plus, and what is no
number has no sign but a minus. -/
def number? (s : List Char) : Option (Json.Number × List Char) :=
  let unsigned := match s with
    | '+' :: rest => rest
    | '-' :: rest => rest
    | rest => rest
  let (negative, positive) := (s.head? == some '-', s.head? == some '+')
  match hexDigits? unsigned with
  | some (digits, rest) => do
    let n ← hexNumber? digits
    if negative || positive || Decimal.twoTo 32 ≤ n then none else return (.int n, rest)
  | none =>
    match afterDecimal? unsigned with
    | some rest => (decimal? (s.take (s.length - rest.length))).map fun n => (n, rest)
    | none =>
      if positive then none
      else
        match stripLead? "Infinity".toList unsigned, stripLead? "NaN".toList unsigned with
        | some rest, _ => some (.float (if negative then -1.0 / 0.0 else 1.0 / 0.0), rest)
        | none, some rest => some (.float (0.0 / 0.0), rest)
        | none, none => none

mutual
def value? : Nat → List Char → Option (Json × List Char)
  | 0, _ => none
  | fuel + 1, s =>
    match s with
    | '[' :: rest => (items? fuel rest).map fun (items, rest) => (.array items, rest)
    | '\x7b' :: rest => (members? fuel rest).map fun (members, rest) => (.mk members, rest)
    | 'n' :: _ => (stripLead? "null".toList s).map (.null, ·)
    | 't' :: _ => (stripLead? "true".toList s).map (.bool true, ·)
    | 'f' :: _ => (stripLead? "false".toList s).map (.bool false, ·)
    | s =>
      match text? s with
      | some (text, rest) => some (.string text, rest)
      | none => (number? s).map fun (n, rest) => (.number n, rest)

/-- The items of a list up to its end. A comma may follow the last. -/
def items? : Nat → List Char → Option (List Json × List Char)
  | 0, _ => none
  | fuel + 1, s =>
    match afterGap s with
    | ']' :: rest => some ([], rest)
    | s => do
      let (item, rest) ← value? fuel s
      match afterGap rest with
      | ',' :: rest =>
        let (items, rest) ← items? fuel rest
        return (item :: items, rest)
      | ']' :: rest => return ([item], rest)
      | _ => none

/-- The members of an object up to its end. A comma may follow the last. -/
def members? : Nat → List Char → Option (List (String × Json) × List Char)
  | 0, _ => none
  | fuel + 1, s =>
    match afterGap s with
    | '\x7d' :: rest => some ([], rest)
    | s => do
      let (key, rest) ← (text? s).or (name? s)
      let rest ← stripLead? [':'] (afterGap rest)
      let (value, rest) ← value? fuel (afterGap rest)
      match afterGap rest with
      | ',' :: rest =>
        let (members, rest) ← members? fuel rest
        return ((key, value) :: members, rest)
      | '\x7d' :: rest => return ([(key, value)], rest)
      | _ => none
end

def ofText? (text : String) : Option Json := do
  let s := afterGap text.toList
  let (value, rest) ← value? (2 * s.length + 2) s
  if (afterGap rest).isEmpty then return value else none

end Letterpress.Json5
