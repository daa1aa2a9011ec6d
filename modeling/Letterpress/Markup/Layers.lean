import Letterpress.Markup.Element
import Letterpress.Text.Blank

/-! Where an element gets its attributes from. What it carries itself is strongest; below that come the classes it
names, the last one first, then the defaults for its kind, the defaults for all kinds, and the built-in value. Within
a layer the last declaration counts. -/
namespace Letterpress.Markup

/-- The declarations of every block of defaults in the head, in document order. -/
structure Defaults where
  forAll : List Attribute
  forTag : List (Tag × Attribute)
  forClass : List (String × Attribute)

namespace Defaults

def none : Defaults := ⟨[], [], []⟩

/-- Adds one entry of a block. An entry for a class counts only if the class has a name. -/
def add (defaults : Defaults) (entry : Element) : Defaults :=
  match entry.tag with
  | .forAll => { defaults with forAll := defaults.forAll ++ entry.attributes }
  | .forClass =>
    match entry.attribute? "name" with
    | some name =>
      let declared := entry.attributes.filter (·.key != "name")
      { defaults with forClass := defaults.forClass ++ declared.map (name, ·) }
    | Option.none => defaults
  | tag => { defaults with forTag := defaults.forTag ++ entry.attributes.map (tag, ·) }

def entries (head : Option Element) : List Element :=
  match head with
  | some head => (head.children.filter (·.tag == .defaults)).flatMap (·.children)
  | Option.none => []

def ofHead (head : Option Element) : Defaults := (entries head).foldl add none

end Defaults

def lastValue? (attributes : List Attribute) (key : String) : Option String :=
  (attributes.reverse.find? (·.key == key)).map (·.value)

def Defaults.classValue? (defaults : Defaults) (name key : String) : Option String :=
  lastValue? ((defaults.forClass.filter (·.1 == name)).map (·.2)) key

def Defaults.tagValue? (defaults : Defaults) (tag : Tag) (key : String) : Option String :=
  lastValue? ((defaults.forTag.filter (·.1 == tag)).map (·.2)) key

structure Styled where
  element : Element
  defaults : Defaults

namespace Styled

/-- The value that the classes named by the element give. -/
def fromClasses? (s : Styled) (key : String) : Option String :=
  (s.element.attribute? "mj-class").bind fun names =>
    (Text.words names).reverse.findSome? (s.defaults.classValue? · key)

def get? (s : Styled) (key : String) : Option String :=
  (s.element.attribute? key).or <|
  (s.fromClasses? key).or <|
  (s.defaults.tagValue? s.element.tag key).or <|
  (if s.element.tag.accepts key then lastValue? s.defaults.forAll key else none).or <|
  (s.element.tag.builtIn.find? (·.1 == key)).map (·.2)

def filled? (s : Styled) (key : String) : Option String := (s.get? key).filter (!Text.isBlankText ·)

def getD (s : Styled) (key fallback : String) : String := (s.filled? key).getD fallback

end Styled
end Letterpress.Markup
