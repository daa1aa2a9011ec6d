import Letterpress.Text.HexDigit
import Letterpress.Text.Search

/-! Texts and characters of RON. Between double quotes a backslash begins an escape; behind an `r` every character stands
for itself, and as many hash signs as before the text end it. -/
namespace Letterpress.Ron
open Letterpress.Text

/-- The character with a number in one to six hexadecimal digits, up to the brace behind it. -/
def numbered? (s : List Char) : Option (Char × List Char) := do
  let digits := (s.take 6).takeWhile (· != '\x7d')
  let n ← hexNumber? digits
  let rest ← stripLead? ['\x7d'] (s.drop digits.length)
  if !digits.isEmpty ∧ (n < 0xd800 ∨ (0xdfff < n ∧ n < 0x110000)) then return (Char.ofNat n, rest) else none

/-- What an escape stands for, behind its backslash. -/
def escape? : List Char → Option (Char × List Char)
  | '\'' :: s => some ('\'', s)
  | '"' :: s => some ('"', s)
  | '\\' :: s => some ('\\', s)
  | 'n' :: s => some ('\n', s)
  | 'r' :: s => some ('\r', s)
  | 't' :: s => some ('\t', s)
  | '0' :: s => some ('\x00', s)
  | 'x' :: a :: b :: s => (hexNumber? [a, b]).map fun n => (Char.ofNat n, s)
  | 'u' :: '\x7b' :: s => numbered? s
  | _ => none

/-- The text up to the next double quote, and what is left behind that. -/
def textFrom? : Nat → List Char → Option (List Char × List Char)
  | 0, _ => none
  | _ + 1, [] => none
  | _ + 1, '"' :: s => some ([], s)
  | fuel + 1, '\\' :: s => do
    let (c, rest) ← escape? s
    let (text, rest) ← textFrom? fuel rest
    return (c :: text, rest)
  | fuel + 1, c :: s => (textFrom? fuel s).map fun (text, rest) => (c :: text, rest)

def text? : List Char → Option (String × List Char)
  | '"' :: s => (textFrom? (s.length + 1) s).map fun (text, rest) => (String.ofList text, rest)
  | 'r' :: s => do
    let hashes := s.takeWhile (· == '#')
    let inside ← stripLead? ['"'] (s.dropWhile (· == '#'))
    let (text, rest) ← breakOn? ('"' :: hashes) inside
    return (String.ofList text, rest)
  | _ => none

def character? : List Char → Option (Char × List Char)
  | '\'' :: '\\' :: s => do
    let (c, rest) ← escape? s
    return (c, ← stripLead? ['\''] rest)
  | '\'' :: c :: '\'' :: s => if c = '\'' then none else some (c, s)
  | _ => none

end Letterpress.Ron
