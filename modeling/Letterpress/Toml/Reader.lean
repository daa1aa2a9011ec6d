import Letterpress.Text.Search
import Letterpress.Toml.Date
import Letterpress.Toml.Numeral
import Letterpress.Toml.Quotation

/-! Reading a TOML document: line by line, and then the lines together. -/
namespace Letterpress.Toml
open Letterpress.Text

def skipGap (s : List Char) : List Char := s.dropWhile isGap

/-- Skips blanks, comments and ends of lines; nothing if what is skipped could not be written. -/
def skipLines? (inComment : Bool) : List Char → Option (List Char)
  | '\n' :: s => skipLines? false s
  | '\r' :: '\n' :: s => skipLines? false s
  | '\r' :: _ => none
  | c :: s =>
    if inComment then (if isWritten c then skipLines? true s else none)
    else if c = '#' then skipLines? true s
    else if isGap c then skipLines? false s
    else some (c :: s)
  | [] => some []

/-- The end of a line, or of the document, behind blanks and a comment. -/
def endLine? (s : List Char) : Option (List Char) :=
  let rest := match skipGap s with
    | '#' :: comment => comment.dropWhile isWritten
    | rest => rest
  if rest.isEmpty then some [] else newline? rest

def isBare (c : Char) : Bool := c.isAlphanum || c == '_' || c == '-'

def simpleKey? (s : List Char) : Option (String × List Char) :=
  match shortText? s with
  | some read => some read
  | none =>
    if (s.takeWhile isBare).isEmpty then none else some (String.ofList (s.takeWhile isBare), s.dropWhile isBare)

/-- A dotted key of at most so many parts, with blanks around them. -/
def keyWithin? : Nat → List Char → Option (List String × List Char)
  | 0, _ => none
  | parts + 1, s => do
    let (first, rest) ← simpleKey? (skipGap s)
    match skipGap rest with
    | '.' :: rest =>
      let (others, rest) ← keyWithin? parts rest
      return (first :: others, rest)
    | rest => return ([first], rest)

/-- How deep tables and lists may lie in each other. -/
def greatestDepth : Nat := 79

def key? (s : List Char) : Option (List String × List Char) := keyWithin? greatestDepth s

def scalar? (s : List Char) : Option (Toml × List Char) :=
  match s with
  | '"' :: _ => (text? s).map fun (content, rest) => (.text content, rest)
  | '\'' :: _ => (text? s).map fun (content, rest) => (.text content, rest)
  | 't' :: _ => (stripLead? "true".toList s).map fun rest => (.flag true, rest)
  | 'f' :: _ => (stripLead? "false".toList s).map fun rest => (.flag false, rest)
  | s =>
    match date? s with
    | some (day, rest) => some (.date day, rest)
    | none => number? s

mutual
def value? : Nat → Nat → List Char → Option (Toml × List Char)
  | 0, _, _ => none
  | fuel + 1, depth, s =>
    match s, depth with
    | '[' :: rest, depth + 1 => (items? fuel depth rest).map fun (items, rest) => (.list false items, rest)
    | '\x7b' :: rest, depth + 1 => do
      let (pairs, rest) ← pairs? fuel depth true rest
      return (← braced? pairs, rest)
    | s, _ => scalar? s

/-- The items of a list up to its end. They may stand on lines of their own, and a comma may follow the last. -/
def items? : Nat → Nat → List Char → Option (List Toml × List Char)
  | 0, _, _ => none
  | fuel + 1, depth, s => do
    match ← skipLines? false s with
    | ']' :: rest => return ([], rest)
    | s =>
      let (item, rest) ← value? fuel depth s
      match ← skipLines? false rest with
      | ']' :: rest => return ([item], rest)
      | ',' :: rest =>
        let (items, rest) ← items? fuel depth rest
        return (item :: items, rest)
      | _ => none

def pairs? : Nat → Nat → Bool → List Char → Option (List (List String × Toml) × List Char)
  | 0, _, _, _ => none
  | fuel + 1, depth, first, s =>
    match skipGap s, first with
    | '\x7d' :: rest, true => some ([], rest)
    | s, _ => do
      let (key, rest) ← key? s
      let rest ← mark? '=' rest
      let (value, rest) ← value? fuel depth (skipGap rest)
      match skipGap rest with
      | '\x7d' :: rest => return ([(key, value)], rest)
      | ',' :: rest =>
        let (pairs, rest) ← pairs? fuel depth false rest
        return ((key, value) :: pairs, rest)
      | _ => none
end

def line? (s : List Char) : Option (Line × List Char) :=
  match s with
  | '[' :: '[' :: rest => do
    let (way, rest) ← key? rest
    let rest ← stripLead? [']', ']'] rest
    return (.item way, ← endLine? rest)
  | '[' :: rest => do
    let (way, rest) ← key? rest
    let rest ← mark? ']' rest
    return (.header way, ← endLine? rest)
  | s => do
    let (key, rest) ← key? s
    let rest ← mark? '=' rest
    let (value, rest) ← value? (2 * rest.length + 2) greatestDepth (skipGap rest)
    return (.pair key value, ← endLine? rest)

def lines? : Nat → List Char → Option (List Line)
  | 0, _ => none
  | fuel + 1, s => do
    match ← skipLines? false s with
    | [] => return []
    | s =>
      let (line, rest) ← line? s
      let lines ← lines? fuel rest
      return line :: lines

def ofText? (text : String) : Option Members :=
  let s := match text.toList with
    | '\ufeff' :: rest => rest
    | s => s
  (lines? (s.length + 1) s).bind ofLines?

end Letterpress.Toml
