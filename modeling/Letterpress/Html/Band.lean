import Letterpress.Html.Component

/-! Bands and what divides them: a wrapper holds bands, a band holds columns, and a column holds components. Next to the
boxes that mail readers understand stand conditional comments with the tables that one family of readers needs. -/
namespace Letterpress.Html
open Letterpress.Markup

/-- The width of one of `siblings` columns: its own, or an equal share. -/
def columnWidth (s : Styled) (siblings : Nat) : Css.Width :=
  ((s.filled? "width").bind Css.Width.ofString?).getD (.percent (100.0 / Decimal.ofNat siblings))

/-- The line before a column of `pixels`, for readers of conditional comments. -/
def columnComment (s : Styled) (pixels : Float) : String :=
  "<!--[if mso | IE]><td style=\"vertical-align:" ++ escape (s.getD "vertical-align" "top") ++ ";width:" ++
    Css.px pixels ++ ";\"><![endif]-->"

def columnDivision (s : Styled) (width : Css.Width) : String :=
  let classes := match s.filled? "css-class" with
    | some more => width.columnClass ++ " mj-outlook-group-fix " ++ more
    | none => width.columnClass ++ " mj-outlook-group-fix"
  let style : Style :=
    [("font-size", some "0px"), ("text-align", some "left"), ("direction", some (s.getD "direction" "ltr")),
     ("display", some "inline-block"), ("vertical-align", some (s.getD "vertical-align" "top")),
     ("width", some "100%")]
  "<div" ++ attributeText "class" (escape classes) ++ style.html ++ ">"

def columnBox (s : Styled) : Style :=
  [("background-color", s.filled? "background-color"), ("border", s.filled? "border"),
   ("border-radius", s.filled? "border-radius"), ("vertical-align", some (s.getD "vertical-align" "top"))]

def columnTable (style : String) : String := "<table" ++ presentation ++ style ++ " width=\"100%\">"

/-- The cell that has the padding of a column, and with it the look of its box. -/
def columnPadding (s : Styled) : String := "<td" ++ Style.html (columnBox s ++ paddingStyle s) ++ ">"

/-- The tables around the rows of a column. A padded column needs one more, whose cell has the padding. -/
def columnFrames (s : Styled) : List (String × String) :=
  if hasPadding s then
    [(columnTable "", "</table>"), tbody, row, (columnPadding s, "</td>"), (columnTable "", "</table>"), tbody]
  else [(columnTable (columnBox s).html, "</table>"), tbody]

def columnEnd : String := "<!--[if mso | IE]></td><![endif]-->"

/-- A column among `siblings` in a band whose content is `container` pixels wide. -/
def column (defaults : Defaults) (element : Element) (container : Float) (siblings : Nat) : List Fragment :=
  let s : Styled := ⟨element, defaults⟩
  let width := columnWidth s siblings
  let pixels := width.resolve container
  let inside := element.children.flatMap fun child => component defaults child (pixels - horizontalPadding s)
  [.line (columnComment s pixels)] ++ Fragment.nest ((columnDivision s width, "</div>") :: columnFrames s) inside ++
  [.line columnEnd]

/-- How many columns share the width of a band; at least one, so that there is a share. -/
def columnCount (band : Element) : Nat := max 1 (band.children.countP (·.tag == .column))

/-- The line before the columns of a band, for readers of conditional comments. -/
def columnsComment : String :=
  "<!--[if mso | IE]><table role=\"presentation\" border=\"0\" cellpadding=\"0\" cellspacing=\"0\">" ++
  "<tr><![endif]-->"

def columnsEnd : String := "<!--[if mso | IE]></tr></table><![endif]-->"

def columns (defaults : Defaults) (band : Element) (container : Float) : List Fragment :=
  [.line columnsComment] ++
  (band.children.flatMap fun child =>
    match child.tag with
    | .column => column defaults child container (columnCount band)
    | .raw => [.content child.content]
    | _ => []) ++
  [.line columnsEnd]

def isFullWidth (s : Styled) : Bool := s.filled? "full-width" == some "full-width"

def backgroundUrl (s : Styled) : String :=
  match s.filled? "background-url" with
  | some url => attributeText "background" (escape url)
  | none => ""

/-- The background of the box itself. With full width the table around it has the background. -/
def boxed? (s : Styled) : Option String := if isFullWidth s then none else background? s

/-- The table around a box with full width. -/
def fullTable (s : Styled) : String :=
  let style : Style := [("background", background? s), ("width", some "100%")]
  "<table align=\"center\"" ++ backgroundUrl s ++ presentation ++ style.html ++ ">"

/-- The line before a box of `container` pixels, for readers of conditional comments. -/
def bandComment (container : Float) : String :=
  "<!--[if mso | IE]><table align=\"center\"" ++ presentation ++ " style=\"width:" ++ Css.px container ++
    ";\"" ++ attributeText "width" (Css.number container) ++
    "><tr><td style=\"line-height:0px;font-size:0px;mso-line-height-rule:exactly;\"><![endif]-->"

def bandDivision (s : Styled) (container : Float) : String :=
  let style : Style :=
    [("background", boxed? s), ("margin", some "0px auto"), ("border-radius", s.filled? "border-radius"),
     ("max-width", some (Css.px container))]
  "<div" ++ classText s ++ style.html ++ ">"

def bandTable (s : Styled) : String :=
  let style : Style :=
    [("background", boxed? s), ("width", some "100%"), ("border-radius", s.filled? "border-radius")]
  "<table align=\"center\"" ++ (if isFullWidth s then "" else backgroundUrl s) ++ presentation ++ style.html ++ ">"

def bandCell (s : Styled) : String :=
  let style : Style :=
    [("border", s.filled? "border"), ("direction", some (s.getD "direction" "ltr")), ("font-size", some "0px")] ++
      paddingStyle s ++ [("text-align", some (s.getD "text-align" "center"))]
  "<td" ++ style.html ++ ">"

def bandEnd : String := "<!--[if mso | IE]></td></tr></table><![endif]-->"

/-- The frames of a band or wrapper of `container` pixels around its inside. With full width there is one more table
around the box. -/
def bandFrame (s : Styled) (container : Float) (inside : List Fragment) : List Fragment :=
  let boxes : List Fragment :=
    [.line (bandComment container)] ++
    Fragment.nest [(bandDivision s container, "</div>"), (bandTable s, "</table>"), tbody, row, (bandCell s, "</td>")]
      inside ++
    [.line bandEnd]
  if isFullWidth s then Fragment.nest [(fullTable s, "</table>"), tbody, row, ("<td>", "</td>")] boxes else boxes

def band (defaults : Defaults) (element : Element) (container : Float) : List Fragment :=
  let s : Styled := ⟨element, defaults⟩
  bandFrame s container (columns defaults element (container - horizontalPadding s))

def wrapper (defaults : Defaults) (element : Element) (container : Float) : List Fragment :=
  let s : Styled := ⟨element, defaults⟩
  let inner := container - horizontalPadding s
  bandFrame s container (element.children.flatMap fun child =>
    match child.tag with
    | .band => band defaults child inner
    | .raw => [.content child.content]
    | _ => [])

end Letterpress.Html
