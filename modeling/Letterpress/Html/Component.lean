import Letterpress.Html.Box

/-! The components that stand in a column: text, buttons, images, dividers, spacers and tables, each in a cell of a row
of its own. -/
namespace Letterpress.Html
open Letterpress.Markup

def textDivision (s : Styled) : String :=
  let style : Style :=
    [("font-family", s.filled? "font-family"), ("font-size", s.filled? "font-size"),
     ("font-style", s.filled? "font-style"), ("font-weight", s.filled? "font-weight"),
     ("letter-spacing", s.filled? "letter-spacing"), ("line-height", s.filled? "line-height"),
     ("text-align", some (s.getD "align" "left")), ("text-decoration", s.filled? "text-decoration"),
     ("text-transform", s.filled? "text-transform"), ("color", s.filled? "color"), ("height", s.filled? "height")]
  "<div" ++ style.html ++ ">"

def textBlock (s : Styled) : List Fragment := [.block (textDivision s) [.content s.element.content] "</div>"]

def buttonTable (s : Styled) : String :=
  let style : Style :=
    [("border-collapse", some "separate"), ("width", s.filled? "width"), ("line-height", some "100%")]
  "<table" ++ presentation ++ style.html ++ ">"

def buttonCell (s : Styled) : String :=
  let background := s.getD "background-color" "#414141"
  let style : Style :=
    [("border", some (s.getD "border" "none")), ("border-radius", s.filled? "border-radius"),
     ("cursor", some "auto"), ("height", s.filled? "height"), ("mso-padding-alt", s.filled? "inner-padding"),
     ("background", some background)]
  "<td align=\"center\"" ++ attributeText "bgcolor" (escape background) ++ " role=\"presentation\"" ++
    style.html ++ attributeText "valign" (escape (s.getD "vertical-align" "middle")) ++ ">"

/-- How the text of a button looks, whether it is a link or not. -/
def buttonStyle (s : Styled) : Style :=
  [("display", some "inline-block"), ("width", s.filled? "width"),
   ("background", some (s.getD "background-color" "#414141")), ("color", s.filled? "color"),
   ("font-family", s.filled? "font-family"), ("font-size", s.filled? "font-size"),
   ("font-style", s.filled? "font-style"), ("font-weight", s.filled? "font-weight"),
   ("letter-spacing", s.filled? "letter-spacing"), ("line-height", s.filled? "line-height"),
   ("margin", some "0"), ("text-align", some (s.getD "text-align" "center")),
   ("text-decoration", s.filled? "text-decoration"), ("text-transform", s.filled? "text-transform"),
   ("padding", s.filled? "inner-padding"), ("mso-padding-alt", some "0px"),
   ("border-radius", s.filled? "border-radius")]

def buttonLink (s : Styled) (style : Style) (href : String) : String :=
  "<a" ++ attributeText "href" (escape href) ++ passed s "rel" ++ passed s "title" ++ style.html ++
    attributeText "target" (escape (s.getD "target" "_blank")) ++ ">"

def buttonParagraph (style : Style) : String := "<p" ++ style.html ++ ">"

/-- The link of a button, or the paragraph that stands for it when there is no address. -/
def buttonFrame (s : Styled) (style : Style) : String × String :=
  match s.filled? "href" with
  | some href => (buttonLink s style href, "</a>")
  | none => (buttonParagraph style, "</p>")

def button (s : Styled) : List Fragment :=
  Fragment.nest [(buttonTable s, "</table>"), tbody, row, (buttonCell s, "</td>"), buttonFrame s (buttonStyle s)]
    [.content s.element.content]

/-- The width of an image: its own, but never wider than the box around it. -/
def imageWidth (s : Styled) (box : Float) : Float :=
  match (s.filled? "width").bind Css.pixels? with
  | some width => Css.lesser width box
  | none => box

def imageTag (s : Styled) (width : Float) : String :=
  let height := s.getD "height" "auto"
  let heightText := if height == "auto" then height else ((Css.pixels? height).map Css.number).getD height
  let style : Style :=
    [("border", some (s.getD "border" "0")), ("border-radius", s.filled? "border-radius"),
     ("display", some "block"), ("outline", some "none"), ("text-decoration", some "none"),
     ("height", some height), ("width", some "100%"), ("font-size", some "13px")]
  "<img" ++ attributeText "alt" (escape (s.getD "alt" "")) ++ attributeText "height" (escape heightText) ++
    attributeText "src" (escape (s.getD "src" "")) ++ passed s "title" ++ style.html ++
    attributeText "width" (Css.number width) ++ " />"

def imageTable : String := "<table" ++ presentation ++ " style=\"border-collapse:collapse;border-spacing:0px;\">"

def imageCell (width : Float) : String := "<td style=\"width:" ++ Css.px width ++ ";\">"

def imageLink (s : Styled) (href : String) : String :=
  "<a" ++ attributeText "href" (escape href) ++ passed s "rel" ++
    attributeText "target" (escape (s.getD "target" "_blank")) ++ ">"

def image (s : Styled) (box : Float) : List Fragment :=
  let width := imageWidth s box
  let link := match s.filled? "href" with
    | some href => [(imageLink s href, "</a>")]
    | none => []
  Fragment.nest ([(imageTable, "</table>"), tbody, row, (imageCell width, "</td>")] ++ link) [.line (imageTag s width)]

def dividerStyle (s : Styled) (width : String) : Style :=
  let border := s.getD "border-style" "solid" ++ " " ++ s.getD "border-width" "4px" ++ " " ++
    s.getD "border-color" "#000000"
  let margin := match s.getD "align" "center" with
    | "left" => "0px"
    | "right" => "0px 0px 0px auto"
    | _ => "0px auto"
  [("border-top", some border), ("font-size", some "1px"), ("margin", some margin), ("width", some width)]

def dividerRule (s : Styled) : String := "<p" ++ (dividerStyle s (s.getD "width" "100%")).html ++ "></p>"

/-- The table that stands for the rule in a reader of conditional comments. -/
def dividerTable (s : Styled) (box : Float) : String :=
  let width := ((Css.Width.ofString? (s.getD "width" "100%")).map (·.resolve box)).getD box
  "<!--[if mso | IE]><table" ++ attributeText "align" (escape (s.getD "align" "center")) ++
    " border=\"0\" cellpadding=\"0\" cellspacing=\"0\"" ++ (dividerStyle s (Css.px width)).html ++
    " role=\"presentation\"" ++ attributeText "width" (Css.px width) ++
    "><tr><td style=\"height:0;line-height:0;\">&nbsp;</td></tr></table><![endif]-->"

def divider (s : Styled) (box : Float) : List Fragment := [.line (dividerRule s), .line (dividerTable s box)]

def spacerDivision (s : Styled) : String :=
  let height := s.getD "height" "20px"
  let style : Style := [("height", some height), ("line-height", some height)]
  "<div" ++ style.html ++ ">&#8202;</div>"

def spacer (s : Styled) : List Fragment := [.line (spacerDivision s)]

def tableOpening (s : Styled) : String :=
  let width := s.getD "width" "100%"
  let widthText := ((Css.pixels? width).map Css.number).getD width
  let style : Style :=
    [("color", s.filled? "color"), ("font-family", s.filled? "font-family"), ("font-size", s.filled? "font-size"),
     ("line-height", s.filled? "line-height"), ("table-layout", some (s.getD "table-layout" "auto")),
     ("width", some width), ("border", some (s.getD "border" "none"))]
  "<table" ++ attributeText "cellpadding" (escape (s.getD "cellpadding" "0")) ++
    attributeText "cellspacing" (escape (s.getD "cellspacing" "0")) ++ passed s "role" ++
    attributeText "width" (escape widthText) ++ " border=\"0\"" ++ style.html ++ ">"

def table (s : Styled) : List Fragment := [.block (tableOpening s) [.content s.element.content] "</table>"]

def componentBody (s : Styled) (box : Float) : List Fragment :=
  match s.element.tag with
  | .text => textBlock s
  | .button => button s
  | .image => image s box
  | .divider => divider s box
  | .spacer => spacer s
  | .table => table s
  | _ => []

/-- The cell around a component. A spacer has no alignment. -/
def componentCell (s : Styled) : String :=
  let align := if s.element.tag = .spacer then "" else attributeText "align" (escape (s.getD "align" "left"))
  let style : Style :=
    [("background", s.filled? "container-background-color"), ("font-size", some "0px")] ++ paddingStyle s ++
      [("word-break", some "break-word")]
  "<td" ++ align ++ classText s ++ style.html ++ ">"

/-- The width that padding leaves for a component in a column whose content is `container` pixels wide. -/
def componentBox (s : Styled) (container : Float) : Float := Css.greater (container - horizontalPadding s) 0.0

/-- A component in a column whose content is `container` pixels wide. Raw content stands outside of the rows. -/
def component (defaults : Defaults) (element : Element) (container : Float) : List Fragment :=
  if element.tag = .raw then [.content element.content]
  else
    let s : Styled := ⟨element, defaults⟩
    Fragment.nest [row, (componentCell s, "</td>")] (componentBody s (componentBox s container))

end Letterpress.Html
