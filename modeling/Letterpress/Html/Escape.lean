import Letterpress.Text.Search

/-! Attribute values inside double quotes. A value is cut into expressions, each from a `{{` to the first `}}` behind it,
and the text around them; in the text every double quote is written as an entity, and the expressions are left alone
for whoever fills them in. -/
namespace Letterpress.Html
open Letterpress.Text

def opensExpression : List Char := ['\x7b', '\x7b']

def closesExpression : List Char := ['\x7d', '\x7d']

/-- A stretch of a value. An expression includes its braces. -/
inductive Stretch
  | text (chars : List Char)
  | expression (chars : List Char)
  deriving DecidableEq, Repr

/-- Text up to the first expression, that expression, and so on; the last stretch is text. -/
def stretches (s : List Char) : List Stretch :=
  match _opened : breakOn? opensExpression s with
  | none => [.text s]
  | some (before, inside) =>
    match _closed : breakOn? closesExpression inside with
    | none => [.text s]
    | some (body, after) =>
      .text before :: .expression (opensExpression ++ body ++ closesExpression) :: stretches after
termination_by s.length
decreasing_by
  have outer := length_of_breakOn? _opened
  have inner := length_of_breakOn? _closed
  simp [opensExpression,closesExpression] at outer inner
  omega

def quotEntity : List Char := "&quot;".toList

def Stretch.escaped : Stretch → List Char
  | text chars => replaceChar '"' quotEntity chars
  | expression chars => chars

def escapeChars (s : List Char) : List Char := (stretches s).flatMap Stretch.escaped

def escape (value : String) : String := String.ofList (escapeChars value.toList)

end Letterpress.Html
