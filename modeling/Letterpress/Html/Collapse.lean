import Letterpress.Text.Blank
import Letterpress.Text.Search

/-! Collapsing blanks: every run of blanks becomes one space, except in preformatted blocks, which keep theirs. A block
begins at a `<pre` in any letter case with a tag's end or an ASCII blank behind it, and ends with the first `</pre>`
after that, or with the text. -/
namespace Letterpress.Html
open Letterpress.Text

/-- Whether `s` begins with `lead`, which is in lower case, in any letter case of ASCII. -/
def beginsWith (lead s : List Char) : Bool := (s.take lead.length).map Char.toLower == lead

def opensBlock (s : List Char) : Bool :=
  beginsWith "<pre".toList s &&
    match s.drop 4 with
    | c :: _ => c == '>' || c == '/' || c == ' ' || c == '\t' || c == '\n' || c == '\r'
    | [] => false

/-- The text before the first preformatted block, and the rest. -/
def beforeBlock : List Char → List Char × List Char
  | [] => ([], [])
  | c :: s =>
    if opensBlock (c :: s) then ([], c :: s)
    else
      let (text, rest) := beforeBlock s
      (c :: text, rest)

def closesBlock : List Char := "</pre>".toList

/-- The text through the first closing tag of a block, and the rest. -/
def throughBlock : List Char → List Char × List Char
  | [] => ([], [])
  | c :: s =>
    if beginsWith closesBlock (c :: s) then ((c :: s).take closesBlock.length, (c :: s).drop closesBlock.length)
    else
      let (block, rest) := throughBlock s
      (c :: block, rest)

inductive Piece
  | text (chars : List Char)
  | preformatted (chars : List Char)
  deriving DecidableEq, Repr

private theorem length_beforeBlock (s : List Char) : (beforeBlock s).2.length ≤ s.length := by
  induction s with
  | nil => simp [beforeBlock]
  | cons c s ih =>
    simp only [beforeBlock]
    split
    · simp
    · simp only [List.length_cons]
      omega

private theorem length_throughBlock (c : Char) (s : List Char) : (throughBlock (c :: s)).2.length ≤ s.length := by
  have bound : ∀ s : List Char, (throughBlock s).2.length ≤ s.length := by
    intro s
    induction s with
    | nil => simp [throughBlock]
    | cons c s ih =>
      simp only [throughBlock]
      split
      · simp
      · simp only [List.length_cons]
        omega
  simp only [throughBlock]
  split
  · have written : 0 < closesBlock.length := by decide
    simp only [List.length_drop,List.length_cons]
    omega
  · exact bound s

def pieces (s : List Char) : List Piece :=
  match _found : (beforeBlock s).2 with
  | [] => [.text (beforeBlock s).1]
  | c :: rest => .text (beforeBlock s).1 :: .preformatted (throughBlock (c :: rest)).1 :: pieces (throughBlock (c :: rest)).2
termination_by s.length
decreasing_by
  have first := length_beforeBlock s
  have second := length_throughBlock c rest
  rw [_found] at first
  simp only [List.length_cons] at first
  omega

/-- One space for every run of blanks; `inRun` tells whether the last character written is the space of a run. -/
def squeeze (inRun : Bool) : List Char → List Char
  | [] => []
  | c :: s =>
    if isBlank c then (if inRun then squeeze true s else ' ' :: squeeze true s)
    else c :: squeeze false s

def Piece.collapsed : Piece → List Char
  | text chars => squeeze false chars
  | preformatted chars => chars

def collapseChars (s : List Char) : List Char := (pieces s).flatMap Piece.collapsed

def collapse (s : String) : String := String.ofList (collapseChars s.toList)

end Letterpress.Html
