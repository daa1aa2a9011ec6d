import Letterpress.Html.Page
import Letterpress.Html.Writer

/-! A page told to a writer. Each element makes its calls one after the other, and every line that opens something and
every line that closes it is a call of its own. Some of them are made only for some elements: a padded column has one more
table, and so has a band with full width; a button is a link or a paragraph, and an image may be a link. The body is
written by a writer of its own, which begins one level down, and taken over behind the head. -/
namespace Letterpress.Html.Renderer
open Letterpress.Markup

def text (s : Styled) : List Call := [.opening (textDivision s), .content s.element.content, .closing "</div>"]

/-- What closes the text of a button depends on what has opened it. -/
def button (s : Styled) : List Call :=
  let link := match s.filled? "href" with
    | some href => (buttonLink s (buttonStyle s) href, "</a>")
    | none => (buttonParagraph (buttonStyle s), "</p>")
  [.opening (buttonTable s), .opening "<tbody>", .opening "<tr>", .opening (buttonCell s), .opening link.1,
    .content s.element.content, .closing link.2, .closing "</td>", .closing "</tr>", .closing "</tbody>",
    .closing "</table>"]

def image (s : Styled) (box : Float) : List Call :=
  let width := imageWidth s box
  [.opening imageTable, .opening "<tbody>", .opening "<tr>", .opening (imageCell width)] ++
  (match s.filled? "href" with
    | some href => [.opening (imageLink s href), .line (imageTag s width), .closing "</a>"]
    | none => [.line (imageTag s width)]) ++
  [.closing "</td>", .closing "</tr>", .closing "</tbody>", .closing "</table>"]

def divider (s : Styled) (box : Float) : List Call := [.line (dividerRule s), .line (dividerTable s box)]

def spacer (s : Styled) : List Call := [.line (spacerDivision s)]

def table (s : Styled) : List Call := [.opening (tableOpening s), .content s.element.content, .closing "</table>"]

/-- A component in a column whose content is `container` pixels wide. -/
def component (defaults : Defaults) (element : Element) (container : Float) : List Call :=
  if element.tag = .raw then [.content element.content]
  else
    let s : Styled := ⟨element, defaults⟩
    let box := componentBox s container
    [.opening "<tr>", .opening (componentCell s)] ++
    (match element.tag with
      | .text => text s
      | .button => button s
      | .image => image s box
      | .divider => divider s box
      | .spacer => spacer s
      | .table => table s
      | _ => []) ++
    [.closing "</td>", .closing "</tr>"]

def column (defaults : Defaults) (element : Element) (container : Float) (siblings : Nat) : List Call :=
  let s : Styled := ⟨element, defaults⟩
  let width := columnWidth s siblings
  let pixels := width.resolve container
  [.line (columnComment s pixels), .opening (columnDivision s width)] ++
  (if hasPadding s then
    [.opening (columnTable ""), .opening "<tbody>", .opening "<tr>", .opening (columnPadding s), .opening (columnTable "")]
  else [.opening (columnTable (columnBox s).html)]) ++
  [.opening "<tbody>"] ++
  (element.children.flatMap fun child => component defaults child (pixels - horizontalPadding s)) ++
  [.closing "</tbody>", .closing "</table>"] ++
  (if hasPadding s then [.closing "</td>", .closing "</tr>", .closing "</tbody>", .closing "</table>"] else []) ++
  [.closing "</div>", .line columnEnd]

def columns (defaults : Defaults) (band : Element) (container : Float) : List Call :=
  [.line columnsComment] ++
  (band.children.flatMap fun child =>
    match child.tag with
    | .column => column defaults child container (columnCount band)
    | .raw => [.content child.content]
    | _ => []) ++
  [.line columnsEnd]

/-- The calls of a band or wrapper of `container` pixels around those of its inside. -/
def boxed (s : Styled) (container : Float) (inside : List Call) : List Call :=
  (if isFullWidth s then [.opening (fullTable s), .opening "<tbody>", .opening "<tr>", .opening "<td>"] else []) ++
  [.line (bandComment container), .opening (bandDivision s container), .opening (bandTable s), .opening "<tbody>",
    .opening "<tr>", .opening (bandCell s)] ++
  inside ++
  [.closing "</td>", .closing "</tr>", .closing "</tbody>", .closing "</table>", .closing "</div>", .line bandEnd] ++
  (if isFullWidth s then [.closing "</td>", .closing "</tr>", .closing "</tbody>", .closing "</table>"] else [])

def band (defaults : Defaults) (element : Element) (container : Float) : List Call :=
  let s : Styled := ⟨element, defaults⟩
  boxed s container (columns defaults element (container - horizontalPadding s))

def wrapper (defaults : Defaults) (element : Element) (container : Float) : List Call :=
  let s : Styled := ⟨element, defaults⟩
  boxed s container (element.children.flatMap fun child =>
    match child.tag with
    | .band => band defaults child (container - horizontalPadding s)
    | .raw => [.content child.content]
    | _ => [])

def bodyContent (defaults : Defaults) (body : Element) : List Call :=
  let width := bodyWidth ⟨body, defaults⟩
  body.children.flatMap fun child =>
    match child.tag with
    | .band => band defaults child width
    | .wrapper => wrapper defaults child width
    | .raw => [.content child.content]
    | _ => []

def body (defaults : Defaults) (body : Option Element) (preview language : String) : List Call :=
  match body with
  | none => [.line emptyBody]
  | some body =>
    let s : Styled := ⟨body, defaults⟩
    [.opening (bodyOpening s)] ++
    (if preview.isEmpty then [] else [.line (previewDivision preview)]) ++
    [.opening (bodyDivision s language)] ++
    bodyContent defaults body ++
    [.closing "</div>", .closing "</body>"]

def head (matter : HeadMatter) (rules : List (String × String)) : List Call :=
  [.opening "<head>", .line (titleElement matter.title), .line compatibility, .line contentType, .line viewport,
    .line (styleElement resetStyle), .line outlookSettings, .line outlookGroupFix] ++
  (matter.fonts.flatMap fun href =>
    [.line "<!--[if !mso]><!-->", .line (fontLink href), .line (fontImport href), .line "<!--<![endif]-->"]) ++
  (if rules.isEmpty then [] else [.line (columnStyle matter.breakpoint rules)]) ++
  (matter.styles.map fun css => .line (styleElement css)) ++
  matter.raw.map .content ++
  [.closing "</head>"]

/-- The calls for what stands before the body of a document. -/
def beforeBody (root : Element) : List Call :=
  let rules := columnRules (columnWidths (Defaults.ofHead (root.child? .head)) (root.child? .body))
  [.line "<!doctype html>", .opening (documentOpening (languageOf root))] ++
  head (HeadMatter.ofHead (root.child? .head)) rules

def bodyOf (root : Element) : List Call :=
  body (Defaults.ofHead (root.child? .head)) (root.child? .body) (HeadMatter.ofHead (root.child? .head)).preview
    (languageOf root)

def afterBody : List Call := [.closing "</html>"]

/-- The writer of a document behind its last call. -/
def document (layout : Layout) (root : Element) : Writer :=
  let part := (Writer.start layout 1).run (bodyOf root)
  (((Writer.start layout 0).run (beforeBody root)).embed part.out).run afterBody

end Letterpress.Html.Renderer
