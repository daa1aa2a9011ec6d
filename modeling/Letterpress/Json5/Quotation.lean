import Letterpress.Text.HexDigit
import Letterpress.Text.Search

/-! Texts and names of JSON5. A text stands in single or double quotes on one line, unless a backslash takes away the end
of the line; a name stands without quotes. -/
namespace Letterpress.Json5
open Letterpress.Text

def isLineEnd (c : Char) : Bool := c == '\n' || c == '\r' || c == '\u2028' || c == '\u2029'

/-- The number of the next `count` hexadecimal digits. -/
def hex? (count : Nat) (s : List Char) : Option (Nat × List Char) := do
  let n ← hexNumber? (s.take count)
  if (s.take count).length = count then return (n, s.drop count) else none

/-- The character of the escape `\u`, behind it. One outside of the basic plane takes two escapes. -/
def numbered? (s : List Char) : Option (Char × List Char) := do
  let (n, rest) ← hex? 4 s
  if n < 0xd800 ∨ 0xdfff < n then return (Char.ofNat n, rest)
  else if 0xdc00 ≤ n then none
  else
    let (m, rest) ← (stripLead? ['\\', 'u'] rest).bind (hex? 4)
    if 0xdc00 ≤ m ∧ m ≤ 0xdfff then return (Char.ofNat (0x10000 + (n - 0xd800) * 0x400 + (m - 0xdc00)), rest)
    else none

/-- What an escape stands for, behind its backslash. A character without a meaning of its own stands for itself. -/
def escape? : List Char → Option (List Char × List Char)
  | 'b' :: s => some (['\x08'], s)
  | 'f' :: s => some (['\x0c'], s)
  | 'n' :: s => some (['\n'], s)
  | 'r' :: s => some (['\r'], s)
  | 't' :: s => some (['\t'], s)
  | 'v' :: s => some (['\x0b'], s)
  | '0' :: s => some (['\x00'], s)
  | 'x' :: s => (hex? 2 s).map fun (n, rest) => ([Char.ofNat n], rest)
  | 'u' :: s => (numbered? s).map fun (c, rest) => ([c], rest)
  | '\r' :: '\n' :: s => some ([], s)
  | c :: s => if isLineEnd c then some ([], s) else if c.isDigit then none else some ([c], s)
  | [] => none

/-- The text up to `quote`, and what is left behind that. -/
def textUntil? (quote : Char) : Nat → List Char → Option (List Char × List Char)
  | 0, _ => none
  | _ + 1, [] => none
  | fuel + 1, '\\' :: s => do
    let (written, rest) ← escape? s
    let (text, rest) ← textUntil? quote fuel rest
    return (written ++ text, rest)
  | fuel + 1, c :: s =>
    if c = quote then some ([], s)
    else if isLineEnd c then none
    else (textUntil? quote fuel s).map fun (text, rest) => (c :: text, rest)

def text? (s : List Char) : Option (String × List Char) :=
  match s with
  | c :: rest =>
    if c = '"' ∨ c = '\'' then
      (textUntil? c (rest.length + 1) rest).map fun (text, rest) => (String.ofList text, rest)
    else none
  | [] => none

end Letterpress.Json5
