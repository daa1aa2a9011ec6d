import Letterpress.Settings.Environment
import Letterpress.Text.Alphanumeric
import Letterpress.Text.Blank

/-! A file with names and values for the environment. Values may be in quotes, then also on several lines, and refer to
what is set already. A line that cannot be read ends the file. -/
namespace Letterpress.Environment
open Letterpress.Text

/-- Where a reader is in a line. A comment may begin in a gap. -/
inductive Stand
  | plain
  | gap
  | escaped
  | strong (escaped : Bool)
  | weak (escaped : Bool)
  deriving DecidableEq, Repr

/-- Where the reader is behind a character outside of quotes. -/
def Stand.opened (c : Char) : Stand :=
  if c = '\\' then .escaped
  else if c = '"' then .weak false
  else if c = '\'' then .strong false
  else .plain

/-- Where the reader is behind a character, or nowhere if a comment begins with it. -/
def Stand.next? : Stand → Char → Option Stand
  | gap, c => if c = '#' then none else some (opened c)
  | escaped, _ => some plain
  | plain, c => some (if isBlank c && c != '\n' && c != '\r' then .gap else opened c)
  | weak true, _ => some (.weak false)
  | weak false, c => some (if c = '\\' then .weak true else if c = '"' then .plain else .weak false)
  | strong true, _ => some (.strong false)
  | strong false, c => some (if c = '\\' then .strong true else if c = '\'' then .plain else .strong false)

def skipLine (s : List Char) : List Char := (s.dropWhile (· != '\n')).drop 1

/-- Takes a line off without the comment at its end, unless the text ends in quotes or behind a gap. -/
def line? (stand : Stand) : List Char → Option (List Char × List Char)
  | [] => if stand = .plain then some ([], []) else none
  | c :: s =>
    match stand.next? c with
    | none => some ([], skipLine s)
    | some next =>
      if c = '\n' ∧ next = .plain then some ([], s)
      else (line? next s).map fun (line, rest) => (c :: line, rest)

/-- What encloses a part of a value. Behind the `end_` of a value only a comment may stand. -/
inductive Enclosure
  | bare
  | weak
  | strong
  | end_
  deriving DecidableEq, Repr

def escapedChar? (c : Char) : Option Char :=
  if c = 'n' then some '\n' else if "\\'\"$ ".toList.contains c then some c else none

def valueOf (environment : Environment) (name : List Char) : List Char :=
  ((Keyed.lookup? (String.ofList name) environment).getD "").toList

/-- Reads a value on. A dollar sign and a name, which may be in braces, stand for a value that is set; the character
behind a name without braces is taken as it is. -/
def expand? (environment : Environment) : Nat → Enclosure → List Char → Option (List Char)
  | 0, _, _ => none
  | fuel + 1, enclosure, s =>
    let on := expand? environment fuel
    match enclosure, s with
    | .end_, c :: rest => if c = ' ' ∨ c = '\t' then on .end_ rest else if c = '#' then some [] else none
    | .strong, c :: rest => if c = '\'' then on .bare rest else (on .strong rest).map (c :: ·)
    | .strong, [] | .weak, [] => none
    | .end_, [] | .bare, [] => some []
    | enclosure, '$' :: '\x7b' :: rest =>
      match rest.dropWhile (· != '\x7d') with
      | _ :: after => (on enclosure after).map (valueOf environment (rest.takeWhile (· != '\x7d')) ++ ·)
      | [] => none
    | enclosure, '$' :: rest =>
      let value := valueOf environment (rest.takeWhile isAlphanumeric)
      match rest.dropWhile isAlphanumeric with
      | '$' :: after => (on enclosure ('$' :: after)).map (value ++ ·)
      | c :: after => (on enclosure after).map (value ++ c :: ·)
      | [] => (on enclosure []).map (value ++ ·)
    | enclosure, ['\\'] => on enclosure []
    | enclosure, '\\' :: c :: rest => do
      let c ← escapedChar? c
      return c :: (← on enclosure rest)
    | .weak, '"' :: rest => on .bare rest
    | .bare, '"' :: rest => on .weak rest
    | .bare, '\'' :: rest => on .strong rest
    | enclosure, c :: rest =>
      if enclosure = .bare ∧ (c = ' ' ∨ c = '\t') then on .end_ rest else (on enclosure rest).map (c :: ·)

/-- A name at the start of a line, and the rest behind it and the blanks there. -/
def name? (s : List Char) : Option (String × List Char) :=
  match s with
  | c :: _ =>
    if c.isAlpha || c == '_' then
      let isPart := fun (c : Char) => c.isAlphanum || c == '_' || c == '.'
      some (String.ofList (s.takeWhile isPart), dropBlanks (s.dropWhile isPart))
    else none
  | [] => none

/-- The name on a line, and the rest behind the equals sign. The word `export` before the name means nothing. -/
def named? (s : List Char) : Option (String × List Char) := do
  let (name, rest) ← name? s
  match rest with
  | '=' :: value => return (name, value)
  | rest =>
    if name = "export" then
      let (name, rest) ← name? rest
      let value ← stripLead? ['='] rest
      return (name, value)
    else none

/-- What a line sets, which has no blanks at its ends. -/
def entry? (environment : Environment) (line : List Char) : Option (String × String) := do
  let (name, rest) ← named? line
  match dropBlanks rest with
  | [] => return (name, "")
  | '#' :: _ => return (name, "")
  | value => return (name, String.ofList (← expand? environment (value.length + 1) .bare value))

def supply (environment : Environment) (name value : String) : Environment :=
  if (Keyed.lookup? name environment).isSome then environment else environment ++ [(name, value)]

def readLines (environment : Environment) : Nat → List Char → Environment
  | 0, _ => environment
  | fuel + 1, s =>
    match dropBlanks s with
    | [] => environment
    | '#' :: comment => readLines environment fuel (skipLine comment)
    | s =>
      match line? .plain s with
      | none => environment
      | some (line, rest) =>
        match entry? environment (trimChars line) with
        | some (name, value) => readLines (environment.supply name value) fuel rest
        | none => environment

def withFile (environment : Environment) (text : String) : Environment :=
  let s := match text.toList with
    | '\ufeff' :: rest => rest
    | s => s
  readLines environment (s.length + 1) s

end Letterpress.Environment
