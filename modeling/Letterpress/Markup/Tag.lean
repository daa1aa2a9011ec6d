/-! The elements of a mail document: their names, which may stand in which, which keep their content as written, and
the attributes of each with their built-in values. -/
namespace Letterpress.Markup

inductive Tag
  | document | head | title | preview | defaults | forAll | forClass | style | font | breakpoint
  | body | wrapper | band | column | text | button | image | divider | spacer | table | raw
  deriving DecidableEq, Repr

namespace Tag

def every : List Tag :=
  [document, head, title, preview, defaults, forAll, forClass, style, font, breakpoint,
   body, wrapper, band, column, text, button, image, divider, spacer, table, raw]

def name : Tag → String
  | document => "mjml"
  | head => "mj-head"
  | title => "mj-title"
  | preview => "mj-preview"
  | defaults => "mj-attributes"
  | forAll => "mj-all"
  | forClass => "mj-class"
  | style => "mj-style"
  | font => "mj-font"
  | breakpoint => "mj-breakpoint"
  | body => "mj-body"
  | wrapper => "mj-wrapper"
  | band => "mj-section"
  | column => "mj-column"
  | text => "mj-text"
  | button => "mj-button"
  | image => "mj-image"
  | divider => "mj-divider"
  | spacer => "mj-spacer"
  | table => "mj-table"
  | raw => "mj-raw"

def ofName? (name : String) : Option Tag := every.find? (·.name == name)

/-- An element of this kind keeps everything up to its closing tag as written. -/
def isVerbatim : Tag → Bool
  | title | preview | style | text | button | table | raw => true
  | _ => false

def children : Tag → List Tag
  | document => [head, body]
  | head => [title, preview, defaults, style, font, breakpoint, raw]
  | defaults =>
    [forAll, forClass, body, wrapper, band, column, text, button, image, divider, spacer, table]
  | body => [wrapper, band, raw]
  | wrapper => [band, raw]
  | band => [column, raw]
  | column => [text, button, image, divider, spacer, table, raw]
  | _ => []

/-- The elements with a box of their own in the page; only these take class attributes. -/
def isBox : Tag → Bool
  | body | wrapper | band | column | text | button | image | divider | spacer | table => true
  | _ => false

def isPadded (tag : Tag) : Bool := tag.isBox && tag != body

def paddings : List String := ["padding", "padding-top", "padding-right", "padding-bottom", "padding-left"]

def ownAttributes : Tag → List String
  | document => ["lang", "dir", "owa"]
  | style => ["inline"]
  | font => ["name", "href"]
  | breakpoint => ["width"]
  | body => ["width", "background-color"]
  | wrapper | band =>
    ["background-color", "background-url", "background-repeat", "background-size", "border", "border-radius",
     "direction", "full-width", "text-align"]
  | column => ["background-color", "border", "border-radius", "direction", "vertical-align", "width"]
  | text =>
    ["align", "color", "container-background-color", "font-family", "font-size", "font-style", "font-weight",
     "height", "letter-spacing", "line-height", "text-decoration", "text-transform"]
  | button =>
    ["align", "background-color", "border", "border-radius", "color", "container-background-color", "font-family",
     "font-size", "font-style", "font-weight", "height", "href", "inner-padding", "letter-spacing", "line-height",
     "rel", "target", "text-align", "text-decoration", "text-transform", "title", "vertical-align", "width"]
  | image =>
    ["align", "alt", "border", "border-radius", "container-background-color", "height", "href", "rel", "src",
     "target", "title", "width"]
  | divider => ["align", "border-color", "border-style", "border-width", "container-background-color", "width"]
  | spacer => ["container-background-color", "height"]
  | table =>
    ["align", "border", "cellpadding", "cellspacing", "color", "container-background-color", "font-family",
     "font-size", "line-height", "role", "table-layout", "width"]
  | _ => []

/-- Whether the element may carry an attribute of this name. Groups of defaults take any; what they hold is filtered
where it is used. -/
def accepts (tag : Tag) (key : String) : Bool :=
  match tag with
  | forAll | forClass => true
  | tag =>
    if key == "mj-class" then tag.isBox
    else (key == "css-class" && tag.isBox) || (paddings.contains key && tag.isPadded) ||
      tag.ownAttributes.contains key

/-- The attributes that the element has to carry, unless it declares defaults. -/
def required : Tag → List String
  | image => ["src"]
  | font => ["name", "href"]
  | forClass => ["name"]
  | _ => []

def fontFamily : String := "Ubuntu, Helvetica, Arial, sans-serif"

def builtIn : Tag → List (String × String)
  | document => [("lang", "und"), ("dir", "auto")]
  | breakpoint => [("width", "480px")]
  | body => [("width", "600px")]
  | wrapper | band =>
    [("background-repeat", "repeat"), ("background-size", "auto"), ("direction", "ltr"), ("padding", "20px 0"),
     ("text-align", "center")]
  | column => [("direction", "ltr"), ("vertical-align", "top")]
  | text =>
    [("align", "left"), ("color", "#000000"), ("font-family", fontFamily), ("font-size", "13px"),
     ("line-height", "1"), ("padding", "10px 25px")]
  | button =>
    [("align", "center"), ("background-color", "#414141"), ("border", "none"), ("border-radius", "3px"),
     ("color", "#ffffff"), ("font-family", fontFamily), ("font-size", "13px"), ("font-weight", "normal"),
     ("inner-padding", "10px 25px"), ("line-height", "120%"), ("padding", "10px 25px"), ("target", "_blank"),
     ("text-decoration", "none"), ("text-transform", "none"), ("vertical-align", "middle")]
  | image =>
    [("align", "center"), ("border", "0"), ("height", "auto"), ("padding", "10px 25px"), ("target", "_blank")]
  | divider =>
    [("align", "center"), ("border-color", "#000000"), ("border-style", "solid"), ("border-width", "4px"),
     ("padding", "10px 25px"), ("width", "100%")]
  | spacer => [("height", "20px")]
  | table =>
    [("align", "left"), ("border", "none"), ("cellpadding", "0"), ("cellspacing", "0"), ("color", "#000000"),
     ("font-family", fontFamily), ("font-size", "13px"), ("line-height", "22px"), ("padding", "10px 25px"),
     ("table-layout", "auto"), ("width", "100%")]
  | _ => []

theorem mem_every (tag : Tag) : tag ∈ every := by cases tag <;> decide

end Tag
end Letterpress.Markup
