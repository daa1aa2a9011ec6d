import Letterpress.Placeholder.Cut
import Letterpress.Text.Blank

/-! What becomes of the text around tags. A `~` in a tag takes away all blanks on its side. A tag that prints nothing
and stands alone on its line takes the line with it: the blanks before it and the line break after it. -/
namespace Letterpress.Placeholder
open Letterpress.Text

def isLineBlank (c : Char) : Bool := c == ' ' || c == '\t'

def isLineBreak (c : Char) : Bool := c == '\n' || c == '\r'

def dropLineBlanks (s : List Char) : List Char := s.dropWhile isLineBlank

def dropTrailingLineBlanks (s : List Char) : List Char := (s.reverse.dropWhile isLineBlank).reverse

/-- Whether nothing more is on the line that the text continues; `last` says that the source ends with it. -/
def endsLine (last : Bool) (after : List Char) : Bool :=
  match dropLineBlanks after with
  | c :: _ => isLineBreak c
  | [] => last && after.isEmpty

/-- Whether nothing is on the line before the end of the text; an empty line counts only at the very beginning. -/
def beginsLine (first : Bool) (before : List Char) : Bool :=
  match before.reverse.dropWhile isLineBlank with
  | c :: _ => isLineBreak c
  | [] => first

/-- The text without the rest of a line that a tag has taken. -/
def dropLine (s : List Char) : List Char :=
  match dropLineBlanks s with
  | '\r' :: '\n' :: rest => rest
  | '\n' :: rest => rest
  | rest => rest

/-- A tag with the text that is left before it. `alone` says that it stands alone on its line, and `indent` what stands
before it on its line, if it leaves that there. -/
structure Trimmed where
  text : Option (List Char)
  tag : Tag
  place : Position
  alone : Bool
  indent : Option (List Char)

/-- What the tags so far do to the next text: take its blanks, or take the rest of the line. -/
structure Carry where
  trims : Bool
  takesLine : Bool

/-- What is left of a text at its beginning. A gap that is trimmed away leaves the line to the text after it. -/
def Run.after (run : Run) (carry : Carry) : Option (List Char) × Carry :=
  if run.source.isEmpty then (none, carry)
  else if run.blank && carry.trims then (none, carry)
  else
    let text := if carry.trims then dropBlanks run.reading
      else if carry.takesLine then dropLine run.reading else run.reading
    (some text, { carry with takesLine := false })

/-- Tags that print values do not take lines. -/
def Tag.takesLines : Tag → Bool
  | print .. => false
  | _ => true

def Tag.isComment : Tag → Bool
  | comment => true
  | _ => false

/-- What `pieces` become; `last` is the source of the text behind them. -/
def trimFrom (first : Bool) (carry : Carry) (last : Run) : List Piece → List Trimmed × Carry
  | [] => ([], carry)
  | piece :: pieces =>
    let (text, carry) := piece.run.after carry
    let text := if piece.mark.trimsBefore then text.map dropTrailingBlanks else text
    let following := match pieces with
      | next :: _ => next.run.source
      | [] => last.source
    let tag := piece.mark.tag
    let alone := tag.takesLines && endsLine pieces.isEmpty following && beginsLine first piece.run.source
    let text := if alone then text.map dropTrailingLineBlanks else text
    let before := (piece.run.source.reverse.takeWhile isLineBlank).reverse
    let indent := if before.isEmpty || piece.mark.trimsBefore then none else some before
    let carry : Carry :=
      ⟨if tag.isComment then carry.trims else piece.mark.trimsAfter, if tag.takesLines then alone else carry.takesLine⟩
    let (others, carry) := trimFrom false carry last pieces
    (⟨text, tag, piece.place, alone && !piece.mark.trimsBefore, indent⟩ :: others, carry)

/-- The tags of a source with the texts before them, and the text at the end. -/
def Pieces.trim (p : Pieces) : List Trimmed × Option (List Char) :=
  let (trimmed, carry) := trimFrom true ⟨false, false⟩ p.last p.pieces
  (trimmed, (p.last.after carry).1)

end Letterpress.Placeholder
