import Letterpress.Css.Length
import Letterpress.Html.Fragment
import Letterpress.Html.Style
import Letterpress.Markup.Layers

/-! What the boxes of a page share: HTML attributes, padding, background and the frames of layout tables. -/
namespace Letterpress.Html
open Letterpress.Markup

/-- An HTML attribute with a space in front. The value is written as it is. -/
def attributeText (name value : String) : String := " " ++ name ++ "=\"" ++ value ++ "\""

/-- An HTML attribute taken over from the element, or nothing when that is blank. -/
def passed (s : Styled) (key : String) : String :=
  match s.filled? key with
  | some value => attributeText key (escape value)
  | none => ""

def classText (s : Styled) : String :=
  match s.filled? "css-class" with
  | some classes => attributeText "class" (escape classes)
  | none => ""

def paddingSides : List String := ["padding-top", "padding-right", "padding-bottom", "padding-left"]

def paddingStyle (s : Styled) : Style := ("padding" :: paddingSides).map fun key => (key, s.filled? key)

def hasPadding (s : Styled) : Bool := ("padding" :: paddingSides).any fun key => (s.filled? key).isSome

/-- The pixels that padding takes from the width of a box. -/
def horizontalPadding (s : Styled) : Float :=
  let sides := ((s.get? "padding").map Css.Sides.ofShorthand).getD .zero
  let left := ((s.filled? "padding-left").bind Css.pixels?).getD sides.left
  let right := ((s.filled? "padding-right").bind Css.pixels?).getD sides.right
  left + right

def background? (s : Styled) : Option String :=
  let color := s.filled? "background-color"
  match s.filled? "background-url" with
  | some url =>
    some (Text.trim (color.getD "" ++ " url('" ++ url ++ "') center top / " ++ s.getD "background-size" "auto" ++
      " " ++ s.getD "background-repeat" "repeat"))
  | none => color

def presentation : String := " border=\"0\" cellpadding=\"0\" cellspacing=\"0\" role=\"presentation\""

def tbody : String × String := ("<tbody>", "</tbody>")

def row : String × String := ("<tr>", "</tr>")

end Letterpress.Html
