import Letterpress.Text.HexDigit

/-! Texts in quotes. Between single quotes every character stands for itself; between double quotes a backslash begins an
escape. Three quotes instead of one enclose lines. -/
namespace Letterpress.Toml
open Letterpress.Text

/-- What texts and comments are made of: all but the controls, and the tab. -/
def isWritten (c : Char) : Bool := c == '\t' || (0x20 ≤ c.toNat && c.toNat != 0x7f)

def isGap (c : Char) : Bool := c == ' ' || c == '\t'

def newline? : List Char → Option (List Char)
  | '\n' :: s => some s
  | '\r' :: '\n' :: s => some s
  | _ => none

def skipBlankLines : List Char → List Char
  | ' ' :: s => skipBlankLines s
  | '\t' :: s => skipBlankLines s
  | '\n' :: s => skipBlankLines s
  | '\r' :: '\n' :: s => skipBlankLines s
  | s => s

/-- The character with a number of so many hexadecimal digits. -/
def numbered? (count : Nat) (s : List Char) : Option (List Char × List Char) := do
  let digits := s.take count
  let n ← hexNumber? digits
  if digits.length = count ∧ (n < 0xd800 ∨ (0xdfff < n ∧ n < 0x110000)) then return ([Char.ofNat n], s.drop count)
  else none

/-- What an escape stands for, behind its backslash. -/
def escape? : List Char → Option (List Char × List Char)
  | 'b' :: s => some (['\x08'], s)
  | 'f' :: s => some (['\x0c'], s)
  | 'n' :: s => some (['\n'], s)
  | 'r' :: s => some (['\r'], s)
  | 't' :: s => some (['\t'], s)
  | '\\' :: s => some (['\\'], s)
  | '"' :: s => some (['"'], s)
  | 'u' :: s => numbered? 4 s
  | 'U' :: s => numbered? 8 s
  | _ => none

/-- The quote that encloses a text, and whether there are three of it. -/
structure Quotation where
  quote : Char
  long : Bool

/-- What is left when the text ends here. Up to two of the quotes at the end of a long text belong to it. -/
def Quotation.close? (q : Quotation) (s : List Char) : Option (List Char × List Char) :=
  let run := (s.takeWhile (· == q.quote)).length
  if !q.long then (if 0 < run then some ([], s.drop 1) else none)
  else if 3 ≤ run then some (List.replicate (min run 5 - 3) q.quote, s.drop (min run 5))
  else none

/-- What the next characters stand for. The end of a line goes if a backslash stands before it, with all blanks behind. -/
def Quotation.piece? (q : Quotation) (s : List Char) : Option (List Char × List Char) :=
  match if q.long then newline? s else none with
  | some rest => some (['\n'], rest)
  | none =>
    match s with
    | [] => none
    | c :: rest =>
      if c = '\\' ∧ q.quote = '"' then
        match if q.long then newline? (rest.dropWhile isGap) else none with
        | some rest => some ([], skipBlankLines rest)
        | none => escape? rest
      else if isWritten c then some ([c], rest)
      else none

def Quotation.content? (q : Quotation) : Nat → List Char → Option (List Char × List Char)
  | 0, _ => none
  | fuel + 1, s =>
    match q.close? s with
    | some closed => some closed
    | none => do
      let (piece, rest) ← q.piece? s
      let (others, rest) ← q.content? fuel rest
      return (piece ++ others, rest)

def Quotation.text? (q : Quotation) (s : List Char) : Option (String × List Char) :=
  (q.content? (s.length + 1) s).map fun (content, rest) => (String.ofList content, rest)

def shortText? : List Char → Option (String × List Char)
  | '"' :: s => Quotation.text? ⟨'"', false⟩ s
  | '\'' :: s => Quotation.text? ⟨'\'', false⟩ s
  | _ => none

/-- A text. A line that ends right behind three quotes is not part of it. -/
def text? (s : List Char) : Option (String × List Char) :=
  match s with
  | '"' :: '"' :: '"' :: rest => Quotation.text? ⟨'"', true⟩ ((newline? rest).getD rest)
  | '\'' :: '\'' :: '\'' :: rest => Quotation.text? ⟨'\'', true⟩ ((newline? rest).getD rest)
  | s => shortText? s

end Letterpress.Toml
