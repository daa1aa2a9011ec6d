import Letterpress.Text.HexDigit
import Letterpress.Yaml.Cursor

/-! The texts of a YAML document: plain, in quotes, and in a block of their own lines. A single line break inside a text
reads as a space, of several the first is dropped. -/
namespace Letterpress.Yaml
open Letterpress.Text

/-- What stands between two pieces of a text: blanks on one line, or line breaks. `broken` says that a line has ended,
`first` that its break counts, and `more` how many follow. -/
structure Break where
  blanks : List Char := []
  broken : Bool := false
  first : Bool := false
  more : Nat := 0

def Break.text (b : Break) : List Char :=
  if b.broken then
    if b.first && b.more == 0 then [' '] else List.replicate b.more '\n'
  else b.blanks

/-- Skips blanks and line breaks; blanks at the beginning of a line do not count. A tab there stands too far left of
column `tabs`. -/
def takeBreak? (tabs : Int) : Nat → Break → Cursor → Option (Break × Cursor)
  | 0, _, _ => none
  | fuel + 1, b, c =>
    match c.peek? with
    | some ch =>
      if isBlank ch then
        if b.broken then if ch = '\t' ∧ c.column < tabs then none else takeBreak? tabs fuel b c.skip
        else takeBreak? tabs fuel { b with blanks := b.blanks ++ [ch] } c.skip
      else if isBreak ch then
        if b.broken then takeBreak? tabs fuel { b with more := b.more + 1 } c.skipBreak
        else takeBreak? tabs fuel ⟨[], true, true, 0⟩ c.skipBreak
      else some (b, c)
    | none => some (b, c)

/-- The characters up to what ends a plain text, a blank or a line break. -/
def plainRun (inFlow : Bool) : Nat → Cursor → List Char × Cursor
  | 0, c => ([], c)
  | fuel + 1, c =>
    match c.peek? with
    | none => ([], c)
    | some ch =>
      if isBlank ch || isBreak ch then ([], c)
      else if ch = ':' ∧ c.endsAt (fun next => isBlank next || (inFlow && isFlow next)) 1 then ([], c)
      else if inFlow && isFlow ch then ([], c)
      else
        let (run, c) := plainRun inFlow fuel c.skip
        (ch :: run, c)

/-- A plain text behind a break, whose lines are indented at least by `indent`. Also tells whether it ends behind a line
break. -/
def plainFrom? (inFlow : Bool) (indent : Int) : Nat → Break → Cursor → Option (List Char × Bool × Cursor)
  | 0, _, _ => none
  | fuel + 1, b, c =>
    if c.atAnyMark || c.peek? == some '#' then some ([], b.broken, c)
    else
      let (run, c) := plainRun inFlow (c.rest.length + 1) c
      let lead := if run.isEmpty then [] else b.text
      let b := if run.isEmpty then b else {}
      match c.peek? with
      | some ch =>
        if isBlank ch || isBreak ch then do
          let (b, c) ← takeBreak? indent (c.rest.length + 1) b c
          if !inFlow ∧ c.column < indent then return (lead ++ run, b.broken, c)
          else
            let (text, broken, c) ← plainFrom? inFlow indent fuel b c
            return (lead ++ run ++ text, broken, c)
        else some (lead ++ run, b.broken, c)
      | none => some (lead ++ run, b.broken, c)

/-- The character that an escape of one letter stands for. -/
def escaped? : Char → Option Char
  | '0' => some '\x00'
  | 'a' => some '\x07'
  | 'b' => some '\x08'
  | 't' => some '\t'
  | '\t' => some '\t'
  | 'n' => some '\n'
  | 'v' => some '\x0b'
  | 'f' => some '\x0c'
  | 'r' => some '\r'
  | 'e' => some '\x1b'
  | ' ' => some ' '
  | '"' => some '"'
  | '\'' => some '\''
  | '/' => some '/'
  | '\\' => some '\\'
  | 'N' => some '\u0085'
  | '_' => some '\u00a0'
  | 'L' => some '\u2028'
  | 'P' => some '\u2029'
  | _ => none

/-- How many digits follow the letter of an escape by number. -/
def digitsOf? : Char → Option Nat
  | 'x' => some 2
  | 'u' => some 4
  | 'U' => some 8
  | _ => none

def escape? (c : Cursor) : Option (Char × Cursor) := do
  let letter ← c.ahead? 1
  match digitsOf? letter with
  | some count =>
    let digits := (c.rest.drop 2).take count
    let n ← hexNumber? digits
    if digits.length = count ∧ (n < 0xd800 ∨ (0xdfff < n ∧ n < 0x110000)) then
      return (Char.ofNat n, c.skipMany (count + 2))
    else none
  | none => return (← escaped? letter, c.skipMany 2)

/-- The characters up to a quote, a blank or a line break, and whether a backslash takes away a line break there. -/
def quotedRun? (quote : Char) : Nat → Cursor → Option (List Char × Bool × Cursor)
  | 0, _ => none
  | fuel + 1, c =>
    match c.rest with
    | [] => some ([], false, c)
    | ch :: rest =>
      if isBlank ch || isBreak ch then some ([], false, c)
      else if ch = '\'' ∧ quote = '\'' ∧ rest.head? = some '\'' then do
        let (run, joined, c) ← quotedRun? quote fuel (c.skipMany 2)
        return ('\'' :: run, joined, c)
      else if ch = quote then some ([], false, c)
      else if ch = '\\' ∧ quote = '"' then
        if rest.head?.any isBreak then some ([], true, c.skip.skipBreak)
        else do
          let (written, c) ← escape? c
          let (run, joined, c) ← quotedRun? quote fuel c
          return (written :: run, joined, c)
      else do
        let (run, joined, c) ← quotedRun? quote fuel c.skip
        return (ch :: run, joined, c)

/-- A text up to its quote, which is skipped. No mark between documents may stand in it. -/
def quotedFrom? (quote : Char) : Nat → Cursor → Option (List Char × Cursor)
  | 0, _ => none
  | fuel + 1, c =>
    if c.atAnyMark || c.rest.isEmpty then none
    else do
      let (run, joined, c) ← quotedRun? quote (c.rest.length + 1) c
      if c.peek? = some quote then return (run, c.skip)
      else
        let (b, c) ← takeBreak? (-1) (c.rest.length + 1) { broken := joined } c
        let (text, c) ← quotedFrom? quote fuel c
        return (run ++ b.text ++ text, c)

/-- What becomes of the line breaks at the end of a block. -/
inductive Chomp
  | keep
  | clip
  | strip
  deriving DecidableEq, Repr

/-- The signs behind the character that begins a block: how its end is treated, and how far its lines are indented. -/
def blockSigns? (c : Cursor) : Option (Chomp × Nat × Cursor) :=
  let chomp? := fun (c : Cursor) =>
    match c.peek? with
    | some '+' => some (Chomp.keep, c.skip)
    | some '-' => some (Chomp.strip, c.skip)
    | _ => none
  let increment? := fun (c : Cursor) =>
    match c.peek? with
    | some ch =>
      if ch = '0' then none
      else if ch.isDigit then some (ch.toNat - '0'.toNat, c.skip)
      else some (0, c)
    | none => some (0, c)
  match chomp? c with
  | some (chomp, c) => (increment? c).map fun (n, c) => (chomp, n, c)
  | none => (increment? c).map fun (n, c) =>
      if n = 0 then (.clip, 0, c)
      else
        match chomp? c with
        | some (chomp, c) => (chomp, n, c)
        | none => (.clip, n, c)

/-- Skips indents and empty lines, and counts these. `indent` is zero where it is to be found; then also gives the
farthest column that is reached. No tab may stand in an indent. -/
def takeIndents? (indent : Nat) : Nat → Nat → Nat → Cursor → Option (Nat × Nat × Cursor)
  | 0, _, _, _ => none
  | fuel + 1, breaks, widest, c =>
    let spaces := (c.rest.takeWhile (· == ' ')).length
    let c := c.skipMany (if indent = 0 then spaces else min spaces (indent - c.column))
    let widest := max widest c.column
    if (indent = 0 ∨ c.column < indent) ∧ c.peek? = some '\t' then none
    else if c.peek?.any isBreak then takeIndents? indent fuel (breaks + 1) widest c.skipBreak
    else some (breaks, widest, c)

/-- The lines of a block: the text so far ends with `broken` saying that a line has ended, behind it `breaks` empty lines.
In a folded block the break between two lines that do not begin with blanks reads as a space. -/
def blockLines? (literal : Bool) (chomp : Chomp) (indent : Nat) :
    Nat → (broken leadBlank : Bool) → (breaks : Nat) → Cursor → Option (List Char × Cursor)
  | 0, _, _, _, _ => none
  | fuel + 1, broken, leadBlank, breaks, c =>
    if c.column = indent ∧ !c.rest.isEmpty then do
      let blank := c.peek?.any isBlank
      let lead :=
        if !literal && broken && !leadBlank && !blank then if breaks = 0 then [' '] else []
        else if broken then ['\n'] else []
      let (line, c) := c.takeWhile (!isBreak ·)
      let read := lead ++ List.replicate breaks '\n' ++ line
      if c.rest.isEmpty then return (read, c)
      else
        let c := c.skipBreak
        let (breaks, _, c) ← takeIndents? indent (c.rest.length + 1) 0 0 c
        let (text, c) ← blockLines? literal chomp indent fuel true blank breaks c
        return (read ++ text, c)
    else
      let last := if broken ∧ chomp ≠ .strip then ['\n'] else []
      let more := if chomp = .keep then List.replicate breaks '\n' else []
      some (last ++ more, c)

/-- The text of a block, which is indented farther than `indent`. -/
def block? (literal : Bool) (outer : Int) (c : Cursor) : Option (List Char × Cursor) := do
  let (chomp, increment, c) ← blockSigns? c.skip
  let c := c.dropWhile isBlank
  let c := if c.peek? = some '#' then c.skipRestOfLine else c
  if !(c.peek?.all isBreak) then none
  else
    let c := c.skipBreak
    let given := if increment = 0 then 0 else if 0 ≤ outer then outer.toNat + increment else increment
    let (breaks, widest, c) ← takeIndents? given (c.rest.length + 1) 0 0 c
    let indent := if given = 0 then max widest (max (outer + 1).toNat 1) else given
    blockLines? literal chomp indent (c.rest.length + 2) false false breaks c

end Letterpress.Yaml
