import Letterpress.Html.Band
import Letterpress.Keyed

/-! The whole page of a document: the head with its fixed style, fonts, column rules and the author's own styles, and the
body. -/
namespace Letterpress.Html
open Letterpress.Markup

/-- What the head of a document says. Of a title, a preview and a breakpoint the last one counts. -/
structure HeadMatter where
  title : String
  preview : String
  breakpoint : String
  fonts : List String
  styles : List String
  raw : List String

namespace HeadMatter

def initial : HeadMatter := ⟨"", "", "480px", [], [], []⟩

def add (matter : HeadMatter) (child : Element) : HeadMatter :=
  match child.tag with
  | .title => { matter with title := child.content }
  | .preview => { matter with preview := child.content }
  | .breakpoint => { matter with breakpoint := (child.attribute? "width").getD matter.breakpoint }
  | .font =>
    match child.attribute? "name", child.attribute? "href" with
    | some _, some href => { matter with fonts := matter.fonts ++ [href] }
    | _, _ => matter
  | .style => { matter with styles := matter.styles ++ [child.content] }
  | .raw => { matter with raw := matter.raw ++ [child.content] }
  | _ => matter

def ofHead (head : Option Element) : HeadMatter :=
  match head with
  | some head => head.children.foldl add initial
  | none => initial

end HeadMatter

def resetStyle : String :=
  "#outlook a \x7b padding:0; \x7d " ++
  "body \x7b margin:0;padding:0;-webkit-text-size-adjust:100%;-ms-text-size-adjust:100%; \x7d " ++
  "table, td \x7b border-collapse:collapse;mso-table-lspace:0pt;mso-table-rspace:0pt; \x7d " ++
  "img \x7b border:0;height:auto;line-height:100%; outline:none;text-decoration:none;" ++
  "-ms-interpolation-mode:bicubic; \x7d " ++
  "p \x7b display:block;margin:13px 0; \x7d"

def outlookSettings : String :=
  "<!--[if mso]><noscript><xml><o:OfficeDocumentSettings><o:AllowPNG/><o:PixelsPerInch>96</o:PixelsPerInch>" ++
  "</o:OfficeDocumentSettings></xml></noscript><![endif]-->"

def outlookGroupFix : String :=
  "<!--[if lte mso 11]><style type=\"text/css\">.mj-outlook-group-fix \x7b width:100% !important; \x7d</style>" ++
  "<![endif]-->"

def styleElement (css : String) : String := "<style type=\"text/css\">" ++ css ++ "</style>"

def titleElement (title : String) : String := "<title>" ++ title ++ "</title>"

def compatibility : String :=
  "<!--[if !mso]><!--><meta http-equiv=\"X-UA-Compatible\" content=\"IE=edge\">" ++ "<!--<![endif]-->"

def contentType : String := "<meta http-equiv=\"Content-Type\" content=\"text/html; charset=UTF-8\">"

def viewport : String := "<meta name=\"viewport\" content=\"width=device-width, initial-scale=1\">"

def fontLink (href : String) : String :=
  "<link href=\"" ++ escape href ++ "\" rel=\"stylesheet\" type=\"text/css\">"

def fontImport (href : String) : String := styleElement ("@import url(" ++ escape href ++ ");")

/-- The links to a font, hidden from readers that cannot load it. -/
def fontLinks (href : String) : List Fragment :=
  [.line "<!--[if !mso]><!-->", .line (fontLink href), .line (fontImport href), .line "<!--<![endif]-->"]

def bandWidths (defaults : Defaults) (element : Element) : List Css.Width :=
  (element.children.filter (·.tag == .column)).map fun child =>
    columnWidth ⟨child, defaults⟩ (columnCount element)

/-- The widths of all columns of a body, in document order. -/
def columnWidths (defaults : Defaults) (body : Option Element) : List Css.Width :=
  match body with
  | none => []
  | some body =>
    body.children.flatMap fun child =>
      match child.tag with
      | .band => bandWidths defaults child
      | .wrapper => (child.children.filter (·.tag == .band)).flatMap (bandWidths defaults)
      | _ => []

/-- The column classes in ascending order, each with its width. -/
def columnRules (widths : List Css.Width) : List (String × String) :=
  widths.foldl (fun rules width => Keyed.insert width.columnClass width.value rules) []

/-- The style that gives the columns their widths on wide screens. -/
def columnStyle (breakpoint : String) (rules : List (String × String)) : String :=
  let text := rules.map fun (name, width) =>
    "." ++ name ++ " \x7b width:" ++ width ++ " !important; max-width:" ++ width ++ "; \x7d"
  styleElement ("@media only screen and (min-width:" ++ breakpoint ++ ") \x7b " ++ " ".intercalate text ++ " \x7d")

def headPart (matter : HeadMatter) (rules : List (String × String)) : Fragment :=
  .block "<head>"
    ([.line (titleElement matter.title), .line compatibility, .line contentType, .line viewport,
      .line (styleElement resetStyle), .line outlookSettings, .line outlookGroupFix] ++
      matter.fonts.flatMap fontLinks ++
      (if rules.isEmpty then [] else [.line (columnStyle matter.breakpoint rules)]) ++
      matter.styles.map (fun css => .line (styleElement css)) ++
      matter.raw.map .content)
    "</head>"

/-- The preview, for readers of lists of mail and hidden on the page. -/
def previewDivision (preview : String) : String :=
  "<div style=\"display:none;font-size:1px;color:#ffffff;line-height:1px;max-height:0px;max-width:0px;" ++
    "opacity:0;overflow:hidden;\">" ++ preview ++ "</div>"

def previewText (preview : String) : List Fragment :=
  if preview.isEmpty then [] else [.line (previewDivision preview)]

def bodyWidth (s : Styled) : Float := ((s.filled? "width").bind Css.pixels?).getD 600.0

/-- Bands, wrappers and raw content of a body, in order. -/
def bodyContent (defaults : Defaults) (body : Element) : List Fragment :=
  let width := bodyWidth ⟨body, defaults⟩
  body.children.flatMap fun child =>
    match child.tag with
    | .band => band defaults child width
    | .wrapper => wrapper defaults child width
    | .raw => [.content child.content]
    | _ => []

def emptyBody : String := "<body style=\"word-spacing:normal;\"></body>"

def bodyOpening (s : Styled) : String :=
  let style : Style := [("word-spacing", some "normal"), ("background-color", s.filled? "background-color")]
  "<body" ++ style.html ++ ">"

def bodyDivision (s : Styled) (language : String) : String :=
  let style : Style := [("background-color", s.filled? "background-color")]
  "<div" ++ classText s ++ style.html ++ language ++ ">"

def bodyPart (defaults : Defaults) (body : Option Element) (preview language : String) : Fragment :=
  match body with
  | none => .line emptyBody
  | some body =>
    let s : Styled := ⟨body, defaults⟩
    .block (bodyOpening s)
      (previewText preview ++ [.block (bodyDivision s language) (bodyContent defaults body) "</div>"]) "</body>"

/-- The attributes that tell the language of a document and its direction. -/
def languageOf (root : Element) : String :=
  let s : Styled := ⟨root, Defaults.ofHead (root.child? .head)⟩
  attributeText "lang" (escape (s.getD "lang" "und")) ++ attributeText "dir" (escape (s.getD "dir" "auto"))

def documentOpening (language : String) : String :=
  "<html" ++ language ++ " xmlns=\"http://www.w3.org/1999/xhtml\"" ++
    " xmlns:v=\"urn:schemas-microsoft-com:vml\" xmlns:o=\"urn:schemas-microsoft-com:office:office\">"

def page (root : Element) : List Fragment :=
  let defaults := Defaults.ofHead (root.child? .head)
  let matter := HeadMatter.ofHead (root.child? .head)
  let body := root.child? .body
  [.line "<!doctype html>",
   .block (documentOpening (languageOf root))
    [headPart matter (columnRules (columnWidths defaults body)),
     bodyPart defaults body matter.preview (languageOf root)]
    "</html>"]

end Letterpress.Html
