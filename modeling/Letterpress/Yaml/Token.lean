import Letterpress.Yaml.Passage

/-! Cutting a YAML text into tokens. Lists and tables that are told apart by their indent get tokens for their beginning
and end. A key is known as such only when its colon is found, so tokens are put in before one that has been cut. -/
namespace Letterpress.Yaml

/-- A tag has a handle and a suffix. Only plain texts can be other values than texts. -/
inductive Token
  | directive
  | documentStart
  | documentEnd
  | blockList
  | blockTable
  | blockEnd
  | flowList
  | flowListEnd
  | flowTable
  | flowTableEnd
  | item
  | comma
  | key
  | value
  | alias (name : String)
  | anchor (name : String)
  | tag (handle suffix : String)
  | scalar (plain : Bool) (text : String)
  deriving DecidableEq, Repr

/-- What may turn out to be a key: the token it begins with and its place. -/
structure Candidate where
  token : Nat
  place : Cursor
  required : Bool

/-- A text that is being cut: the tokens so far, the last one first, the indents around the current one, and what may be
a key at each level of brackets, the innermost first. -/
structure Cutting where
  cursor : Cursor
  tokens : List Token := []
  candidates : List (Option Candidate) := [none]
  keyAllowed : Bool := true
  indent : Int := -1
  indents : List Int := []
  adjacent : Option Nat := none

namespace Cutting

def inFlow (c : Cutting) : Bool := c.candidates.length != 1

def push (c : Cutting) (token : Token) : Cutting := { c with tokens := token :: c.tokens }

/-- Puts a token in front of the one with a number. -/
def insert (c : Cutting) (number : Nat) (token : Token) : Cutting :=
  let behind := c.tokens.length - number
  { c with tokens := c.tokens.take behind ++ token :: c.tokens.drop behind }

def allowKey (c : Cutting) (allowed : Bool) : Cutting := { c with keyAllowed := allowed }

def moveTo (c : Cutting) (cursor : Cursor) : Cutting := { c with cursor := cursor }

/-- Forgets the innermost candidate, which must not have to be a key. -/
def dropCandidate? (c : Cutting) : Option Cutting :=
  match c.candidates with
  | some candidate :: others => if candidate.required then none else some { c with candidates := none :: others }
  | _ => some c

def mayBeKey? (c : Cutting) : Option Cutting :=
  if !c.keyAllowed then some c
  else do
    let c ← c.dropCandidate?
    let candidate : Candidate := ⟨c.tokens.length, c.cursor, c.inFlow && c.indent == c.cursor.column⟩
    return { c with candidates := some candidate :: c.candidates.drop 1 }

/-- Forgets the candidates that began on another line or too far back. -/
def dropStale? (c : Cutting) : Option Cutting := do
  let candidates ← c.candidates.mapM fun candidate =>
    match candidate with
    | some found =>
      if found.place.line < c.cursor.line ∨ found.place.index + 1024 < c.cursor.index then
        if found.required then none else some none
      else some (some found)
    | none => some none
  return { c with candidates := candidates }

/-- Begins a list or a table in front of a token, or at the end, if it is indented farther than what is around it. -/
def enter (c : Cutting) (column : Nat) (number : Option Nat) (token : Token) : Cutting :=
  if c.inFlow || column ≤ c.indent then c
  else
    let c := { c with indents := c.indent :: c.indents, indent := column }
    match number with
    | some number => c.insert number token
    | none => c.push token

def leave (c : Cutting) (column : Int) : Cutting :=
  if c.inFlow then c
  else
    let ended := (c.indent :: c.indents).takeWhile (column < ·)
    let rest := (c.indent :: c.indents).dropWhile (column < ·)
    { c with
      tokens := ended.map (fun _ => Token.blockEnd) ++ c.tokens
      indent := rest.headD (-1)
      indents := rest.drop 1 }

/-- Skips blanks, line breaks and comments. Where a key may begin a tab is not blank. -/
def skipGap : Nat → Cutting → Cutting
  | 0, c => c
  | fuel + 1, c =>
    match c.cursor.peek? with
    | some ' ' => skipGap fuel (c.moveTo c.cursor.skip)
    | some '\t' => if c.inFlow || !c.keyAllowed then skipGap fuel (c.moveTo c.cursor.skip) else c
    | some '#' => skipGap fuel (c.moveTo c.cursor.skipRestOfLine)
    | some ch =>
      if isBreak ch then
        let c := c.moveTo c.cursor.skipBreak
        skipGap fuel (if c.inFlow then c else c.allowKey true)
      else c
    | none => c

def isUriPart (c : Char) : Bool := isWordPart c || ";/?:@&=+$,.!~*'()[]%".toList.contains c

/-- A byte written as a percent sign and two digits. -/
def uriByte? (c : Cursor) : Option (Nat × Cursor) :=
  if c.peek? = some '%' then (Text.hexNumber? ((c.rest.drop 1).take 2)).bind fun n =>
    if (c.rest.drop 3).length + 3 = c.rest.length then some (n, c.skipMany 3) else none
  else none

def uriTail? : Nat → Nat → Cursor → Option (Nat × Cursor)
  | 0, n, c => some (n, c)
  | count + 1, n, c => do
    let (byte, c) ← uriByte? c
    if byte / 64 = 2 then uriTail? count (64 * n + byte % 64) c else none

def uriEscape? (c : Cursor) : Option (Char × Cursor) := do
  let (byte, c) ← uriByte? c
  let (count, high) ←
    if byte < 0x80 then some (0, byte)
    else if byte / 32 = 6 then some (1, byte % 32)
    else if byte / 16 = 14 then some (2, byte % 16)
    else if byte / 8 = 30 then some (3, byte % 8)
    else none
  let (n, c) ← uriTail? count high c
  if n < 0xd800 ∨ (0xdfff < n ∧ n < 0x110000) then return (Char.ofNat n, c) else none

def uri? : Nat → Cursor → Option (List Char × Cursor)
  | 0, c => some ([], c)
  | fuel + 1, c =>
    match c.peek? with
    | some '%' => do
      let (ch, c) ← uriEscape? c
      let (text, c) ← uri? fuel c
      return (ch :: text, c)
    | some ch => if isUriPart ch then (uri? fuel c.skip).map fun (text, c) => (ch :: text, c) else some ([], c)
    | none => some ([], c)

/-- A handle: an exclamation mark, and perhaps a word with another. -/
def handle? (c : Cursor) : Option (List Char × Cursor) :=
  if c.peek? = some '!' then
    let (word, c) := c.skip.takeWhile isWordPart
    if c.peek? = some '!' then some ('!' :: word ++ ['!'], c.skip) else some ('!' :: word, c)
  else none

def tag? (c : Cursor) : Option (Token × Cursor) := do
  let ((handle, suffix), c) ←
    if c.ahead? 1 = some '<' then do
      let (suffix, c) ← uri? (c.rest.length + 1) (c.skipMany 2)
      if suffix.isEmpty ∨ c.peek? ≠ some '>' then none
      else some ((([], suffix) : List Char × List Char), c.skip)
    else do
      let (handle, c) ← handle? c
      let (rest, c) ← uri? (c.rest.length + 1) c
      if 2 ≤ handle.length ∧ handle.getLast? = some '!' then
        if rest.isEmpty then none else some ((handle, rest), c)
      else
        let suffix := handle.drop 1 ++ rest
        some (if suffix.isEmpty then ([], ['!']) else (['!'], suffix), c)
  if c.gapAt 0 then return (.tag (String.ofList handle) (String.ofList suffix), c) else none

/-- The name of an anchor or an alias, behind its sign. -/
def name? (c : Cursor) : Option (String × Cursor) :=
  let (name, c) := c.takeWhile isWordPart
  if !name.isEmpty ∧ c.endsAt (fun ch => isBlank ch || "?:,]\x7d%@`".toList.contains ch) 0 then
    some (String.ofList name, c)
  else none

def versionNumber? (c : Cursor) : Option Cursor :=
  let (digits, c) := c.takeWhile Char.isDigit
  if digits.isEmpty ∨ 9 < digits.length then none else some c

/-- What a directive says, behind its name. A directive of another name may say anything. -/
def directiveBody? (name : String) (c : Cursor) : Option Cursor :=
  if name = "YAML" then do
    let c ← versionNumber? (c.dropWhile isBlank)
    if c.peek? = some '.' then versionNumber? c.skip else none
  else if name = "TAG" then do
    let (handle, c) ← handle? (c.dropWhile isBlank)
    if 1 < handle.length ∧ handle.getLast? ≠ some '!' then none
    else
      let c := c.dropWhile isBlank
      let (text, c) ← uri? (c.rest.length + 1) c
      if text.isEmpty ∨ !c.gapAt 0 then none else return c
  else some c.skipRestOfLine

def directive? (c : Cursor) : Option Cursor := do
  let (name, c) := c.skip.takeWhile isWordPart
  if name.isEmpty ∨ !c.gapAt 0 then none
  else
    let c ← directiveBody? (String.ofList name) c
    let c := c.dropWhile isBlank
    let c := if c.peek? = some '#' then c.skipRestOfLine else c
    if c.peek?.all isBreak then return c.skipBreak else none

def take (c : Cutting) (token : Token) (length : Nat) : Cutting := (c.push token).moveTo (c.cursor.skipMany length)

/-- A mark between documents, or a directive, ends all that is indented. -/
def atMargin? (c : Cutting) : Option Cutting := do
  let c ← (c.leave (-1)).dropCandidate?
  return c.allowKey false

def greatestDepth : Nat := 255

def openFlow? (c : Cutting) (token : Token) : Option Cutting := do
  let c ← c.mayBeKey?
  if greatestDepth < c.candidates.length then none
  else return (({ c with candidates := none :: c.candidates }).allowKey true).take token 1

def closeFlow? (c : Cutting) (token : Token) : Option Cutting := do
  let c ← c.dropCandidate?
  let c := if c.inFlow then { c with candidates := c.candidates.drop 1 } else c
  return (c.allowKey false).take token 1

def comma? (c : Cutting) : Option Cutting := do
  let c ← c.dropCandidate?
  return (c.allowKey true).take .comma 1

def item? (c : Cutting) : Option Cutting :=
  if c.inFlow || !c.keyAllowed then none
  else do
    let c ← (c.enter c.cursor.column none .blockList).dropCandidate?
    return (c.allowKey true).take .item 1

def key? (c : Cutting) : Option Cutting :=
  if !c.inFlow && !c.keyAllowed then none
  else do
    let c ← (c.enter c.cursor.column none .blockTable).dropCandidate?
    return (c.allowKey (!c.inFlow)).take .key 1

def value? (c : Cutting) : Option Cutting :=
  match c.candidates with
  | some candidate :: others =>
    let c := (c.insert candidate.token .key).enter candidate.place.column (some candidate.token) .blockTable
    some (({ c with candidates := none :: others }.allowKey false).take .value 1)
  | _ =>
    if c.inFlow then some ((c.allowKey false).take .value 1)
    else if !c.keyAllowed then none
    else some (((c.enter c.cursor.column none .blockTable).allowKey true).take .value 1)

def alias? (c : Cutting) (token : String → Token) : Option Cutting := do
  let c ← c.mayBeKey?
  let (name, cursor) ← name? c.cursor.skip
  return ((c.allowKey false).push (token name)).moveTo cursor

def tagged? (c : Cutting) : Option Cutting := do
  let c ← c.mayBeKey?
  let (token, cursor) ← tag? c.cursor
  return ((c.allowKey false).push token).moveTo cursor

def scalar (c : Cutting) (plain : Bool) (text : List Char) (cursor : Cursor) : Cutting :=
  (c.push (.scalar plain (String.ofList text))).moveTo cursor

def blockText? (c : Cutting) (literal : Bool) : Option Cutting := do
  let c ← c.mayBeKey?
  let (text, cursor) ← block? literal c.indent c.cursor
  return (c.allowKey true).scalar false text cursor

/-- A text in quotes. Between brackets a colon may follow it at once. -/
def quoted? (c : Cutting) (quote : Char) : Option Cutting := do
  let c ← c.mayBeKey?
  let (text, cursor) ← quotedFrom? quote (c.cursor.rest.length + 1) c.cursor.skip
  return { (c.allowKey false).scalar false text cursor with adjacent := some cursor.index }

def plain? (c : Cutting) : Option Cutting := do
  let c ← c.mayBeKey?
  let (text, broken, cursor) ← plainFrom? c.inFlow (c.indent + 1) (c.cursor.rest.length + 1) {} c.cursor
  return (c.allowKey broken).scalar true text cursor

def tokenAt? (c : Cutting) (ch : Char) : Option Cutting :=
  let gap := c.cursor.gapAt 1
  let valued := gap || (c.inFlow && (c.cursor.endsAt isFlow 1 || c.adjacent == some c.cursor.index))
  if ch = '[' then c.openFlow? .flowList
  else if ch = '\x7b' then c.openFlow? .flowTable
  else if ch = ']' then c.closeFlow? .flowListEnd
  else if ch = '\x7d' then c.closeFlow? .flowTableEnd
  else if ch = ',' then c.comma?
  else if ch = '-' ∧ gap then c.item?
  else if ch = '?' ∧ gap then c.key?
  else if ch = ':' ∧ valued then c.value?
  else if ch = '*' then c.alias? .alias
  else if ch = '&' then c.alias? .anchor
  else if ch = '!' then c.tagged?
  else if ch = '|' ∧ !c.inFlow then c.blockText? true
  else if ch = '>' ∧ !c.inFlow then c.blockText? false
  else if ch = '\'' ∨ ch = '"' then c.quoted? ch
  else if ch = '%' ∨ ch = '@' ∨ ch = '`' then none
  else c.plain?

def takeDirective? (c : Cutting) : Option Cutting := do
  let c ← c.atMargin?
  return (c.push .directive).moveTo (← directive? c.cursor)

def next? (c : Cutting) (ch : Char) : Option Cutting :=
  if c.cursor.column = 0 ∧ ch = '%' then c.takeDirective?
  else if c.cursor.atMark '-' then c.atMargin?.map (·.take .documentStart 3)
  else if c.cursor.atMark '.' then c.atMargin?.map (·.take .documentEnd 3)
  else c.tokenAt? ch

/-- Takes all tokens. At the end of the text all ends that has begun. -/
def finish? : Nat → Cutting → Option (List Token)
  | 0, _ => none
  | fuel + 1, c => do
    let c ← (c.skipGap (c.cursor.rest.length + 1)).dropStale?
    let c := c.leave c.cursor.column
    match c.cursor.peek? with
    | some ch => finish? fuel (← c.next? ch)
    | none => return (← c.atMargin?).tokens.reverse

end Cutting

def tokens? (text : String) : Option (List Token) :=
  Cutting.finish? (text.length + 2) { cursor := .ofText text }

end Letterpress.Yaml
