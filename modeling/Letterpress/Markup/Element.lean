import Letterpress.Markup.Attribute
import Letterpress.Markup.Tag

/-! A document as a tree of elements. -/
namespace Letterpress.Markup

/-- An element, with its attributes as written, the content that a verbatim element keeps (empty for every other one),
and the byte offset of its `<`. -/
structure Element where
  tag : Tag
  attributes : List Attribute
  children : List Element
  content : String
  offset : Nat

namespace Element

def attribute? (element : Element) (key : String) : Option String :=
  (element.attributes.find? (·.key == key)).map (·.value)

def child? (element : Element) (tag : Tag) : Option Element := element.children.find? (·.tag == tag)

def attach (element child : Element) : Element := { element with children := element.children ++ [child] }

end Element
end Letterpress.Markup
