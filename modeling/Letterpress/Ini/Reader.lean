import Letterpress.Text.Blank
import Letterpress.Text.HexDigit

/-! Reading INI: sections of keys with texts. A key goes on to its `=` or `:` and a text to the end of its line; a
backslash begins an escape in both, and a text may begin with quoted parts. -/
namespace Letterpress.Ini
open Letterpress.Text

/-- What stands before the first section has no name. -/
structure Section where
  name : Option String
  pairs : List (String × String)
  deriving DecidableEq, Repr

/-- What an escape stands for, behind its backslash. A character without a meaning of its own stands for itself. -/
def escape? : List Char → Option (List Char × List Char)
  | '0' :: s => some (['\x00'], s)
  | 'a' :: s => some (['\x07'], s)
  | 'b' :: s => some (['\x08'], s)
  | 't' :: s => some (['\t'], s)
  | 'r' :: s => some (['\r'], s)
  | 'n' :: s => some (['\n'], s)
  | '\n' :: s => some ([], s)
  | 'x' :: a :: b :: c :: d :: s => do
    let n ← hexNumber? [a, b, c, d]
    if n < 0xd800 ∨ 0xdfff < n then return ([Char.ofNat n], s) else none
  | 'x' :: _ => none
  | c :: s => some ([c], s)
  | [] => none

/-- The text up to a character that ends it, which stays. `open_` says that the end of the source ends it as well. -/
def textUntil? (ends : Char → Bool) (open_ : Bool) : Nat → List Char → Option (List Char × List Char)
  | 0, _ => none
  | _ + 1, [] => if open_ then some ([], []) else none
  | fuel + 1, c :: s =>
    if ends c then some ([], c :: s)
    else if c = '\\' then do
      let (written, rest) ← escape? s
      let (text, rest) ← textUntil? ends open_ fuel rest
      return (written ++ text, rest)
    else (textUntil? ends open_ fuel s).map fun (text, rest) => (c :: text, rest)

def isLineEnd (c : Char) : Bool := c == '\n' || c == '\r'

/-- A text up to the end of its line. Blanks at its ends do not count, but those behind a quoted part do. -/
def value? (first : Bool) : Nat → List Char → Option (List Char × List Char)
  | 0, _ => none
  | _ + 1, [] => some ([], [])
  | fuel + 1, c :: s =>
    if c = '"' ∨ c = '\'' then do
      let (quoted, rest) ← textUntil? (· == c) false (s.length + 1) s
      let (text, rest) ← value? false fuel (rest.drop 1)
      return (quoted ++ text, rest)
    else
      (textUntil? isLineEnd true (s.length + 2) (c :: s)).map fun (text, rest) =>
        (if first then trimChars text else dropTrailingBlanks text, rest)

/-- Skips blanks and ends of lines, and tells whether what is left begins a line. -/
def skipBlanks (fresh : Bool) : List Char → Bool × List Char
  | [] => (fresh, [])
  | c :: s => if isBlank c then skipBlanks (c == '\n') s else (fresh, c :: s)

def addPair (pair : String × String) (sections : List Section) : List Section :=
  match sections.getLast? with
  | some last => sections.dropLast ++ [{ last with pairs := last.pairs ++ [pair] }]
  | none => [⟨none, [pair]⟩]

/-- Reads on with a key that waits for its text. A comment takes a line of its own. -/
def sections? : Nat → Bool → List Char → List Section → List Char → Option (List Section)
  | 0, _, _, _, _ => none
  | fuel + 1, fresh, key, sections, s =>
    let (fresh, s) := skipBlanks fresh s
    match s with
    | [] => some sections
    | c :: rest =>
      if c = ';' ∨ c = '#' then
        if fresh then sections? fuel true key sections ((rest.dropWhile (· != '\n')).drop 1) else none
      else if c = '[' then do
        let (name, rest) ← textUntil? (· == ']') false (rest.length + 1) rest
        sections? fuel false key (sections ++ [⟨some (String.ofList (trimChars name)), []⟩]) (rest.drop 1)
      else if c = '=' ∨ c = ':' then
        if key.isEmpty then none
        else do
          let inside := rest.dropWhile fun c => isBlank c && !isLineEnd c
          let (text, rest) ← value? true (inside.length + 1) inside
          sections? fuel false [] (addPair (String.ofList key, String.ofList text) sections) rest
      else do
        let (key, rest) ← textUntil? (fun c => c == '=' || c == ':') false (s.length + 1) s
        sections? fuel false (trimChars key) sections rest

/-- The sections of a document, in the order in which they begin. -/
def ofText? (text : String) : Option (List Section) := sections? (text.length + 1) true [] [] text.toList

end Letterpress.Ini
