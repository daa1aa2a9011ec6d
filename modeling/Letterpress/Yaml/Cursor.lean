/-! A place in a YAML text that is being read: what is left, and how far from the start, on which line and how far from
its beginning that is. -/
namespace Letterpress.Yaml

structure Cursor where
  rest : List Char
  index : Nat
  line : Nat
  column : Nat
  deriving DecidableEq, Repr

/-- The start of a text, which a null character ends. -/
def Cursor.ofText (text : String) : Cursor := ⟨text.toList.takeWhile (· != '\x00'), 0, 0, 0⟩

def isBreak (c : Char) : Bool := c == '\n' || c == '\r'

def isBlank (c : Char) : Bool := c == ' ' || c == '\t'

/-- The characters that take part in the notation of lists and tables in brackets. -/
def isFlow (c : Char) : Bool := c == ',' || c == '[' || c == ']' || c == '\x7b' || c == '\x7d'

/-- The characters of the names of anchors and tags. -/
def isWordPart (c : Char) : Bool := c.isAlphanum || c == '_' || c == '-'

namespace Cursor

def peek? (c : Cursor) : Option Char := c.rest.head?

def ahead? (c : Cursor) (n : Nat) : Option Char := c.rest[n]?

def skip (c : Cursor) : Cursor :=
  match c.rest with
  | [] => c
  | '\n' :: rest => ⟨rest, c.index + 1, c.line + 1, 0⟩
  | _ :: rest => ⟨rest, c.index + 1, c.line, c.column + 1⟩

def skipMany (c : Cursor) : Nat → Cursor
  | 0 => c
  | n + 1 => c.skip.skipMany n

def skipBreak (c : Cursor) : Cursor :=
  match c.rest with
  | '\r' :: '\n' :: _ => c.skipMany 2
  | ch :: _ => if isBreak ch then c.skip else c
  | [] => c

/-- The next characters of a class, and the place behind them. -/
def takeWhile (p : Char → Bool) (c : Cursor) : List Char × Cursor :=
  let taken := c.rest.takeWhile p
  (taken, c.skipMany taken.length)

def dropWhile (p : Char → Bool) (c : Cursor) : Cursor := (c.takeWhile p).2

def skipRestOfLine (c : Cursor) : Cursor := c.dropWhile (!isBreak ·)

/-- Whether nothing, a line break or a character of a class stands so far ahead. -/
def endsAt (c : Cursor) (p : Char → Bool) (n : Nat) : Bool :=
  match c.ahead? n with
  | some ch => isBreak ch || p ch
  | none => true

/-- Whether a blank, a line break or the end stands so far ahead. -/
def gapAt (c : Cursor) (n : Nat) : Bool := c.endsAt isBlank n

/-- Whether three characters at the beginning of a line are a mark between documents. -/
def atMark (c : Cursor) (ch : Char) : Bool :=
  c.column == 0 && c.rest.take 3 == [ch, ch, ch] && c.gapAt 3

def atAnyMark (c : Cursor) : Bool := c.atMark '-' || c.atMark '.'

end Cursor

end Letterpress.Yaml
