import Letterpress.Decimal.Layout
import Letterpress.Decimal.Reader
import Letterpress.Text.Blank
import Letterpress.Text.Search

/-! Lengths in pixels and in percent: reading them from attributes, resolving them against a box, and writing them
down. -/
namespace Letterpress.Css
open Letterpress.Text

/-- What is left of `s` before `tail`, if `s` ends with it. -/
def stripTail? (tail s : List Char) : Option (List Char) := (stripLead? tail.reverse s.reverse).map List.reverse

/-- A count of pixels, with or without its unit. Other units are no pixels, and neither is an infinite count. -/
def pixels? (s : String) : Option Float :=
  let text := trimChars s.toList
  Decimal.finite? (trimChars ((stripTail? "px".toList text).getD text))

inductive Width
  | pixels (count : Float)
  | percent (share : Float)

def Width.ofString? (s : String) : Option Width :=
  let text := trimChars s.toList
  match stripTail? ['%'] text with
  | some share => (Decimal.finite? (trimChars share)).map .percent
  | none => (pixels? s).map .pixels

/-- The width in pixels inside a box of `container` pixels. -/
def Width.resolve (container : Float) : Width → Float
  | pixels count => count
  | percent share => container * share / 100.0

/-- A number without a point if it is whole, and with all its digits but never an exponent if it is not. A whole number
that does not fit into a word is written as the nearest that does. -/
def number (x : Float) : String :=
  match Decimal.whole? x with
  | some n => toString (max Decimal.leastSigned (min n Decimal.greatestSigned))
  | none => Decimal.plain x

def px (x : Float) : String := number x ++ "px"

def Width.columnClass : Width → String
  | pixels count => "mj-column-px-" ++ String.ofList (replaceChar '.' ['-'] (number count).toList)
  | percent share => "mj-column-per-" ++ String.ofList (replaceChar '.' ['-'] (number share).toList)

def Width.value : Width → String
  | pixels count => px count
  | percent share => number share ++ "%"

structure Sides where
  top : Float
  right : Float
  bottom : Float
  left : Float

def Sides.zero : Sides := ⟨0.0, 0.0, 0.0, 0.0⟩

/-- Reads one to four lengths, as style sheets abbreviate the sides of a box. A part that is no pixel count is zero. -/
def Sides.ofShorthand (s : String) : Sides :=
  match (words s).map fun part => (pixels? part).getD 0.0 with
  | [] => .zero
  | [every] => ⟨every, every, every, every⟩
  | [vertical, horizontal] => ⟨vertical, horizontal, vertical, horizontal⟩
  | [top, horizontal, bottom] => ⟨top, horizontal, bottom, horizontal⟩
  | top :: right :: bottom :: left :: _ => ⟨top, right, bottom, left⟩

/-- The greater of two numbers; a "not a number" gives way to the other. -/
def greater (x y : Float) : Float := if x.isNaN then y else if y.isNaN then x else if x < y then y else x

def lesser (x y : Float) : Float := if x.isNaN then y else if y.isNaN then x else if y < x then y else x

end Letterpress.Css
