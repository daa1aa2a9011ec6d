import Letterpress.Html.Escape
import Letterpress.Text.Blank

/-! Inline style: declarations in order, of which the blank ones are left out. -/
namespace Letterpress.Html

/-- Properties and their values. A property without a value is not declared. -/
abbrev Style := List (String × Option String)

namespace Style

/-- The text of one declaration, empty if its value is blank. -/
def declaration (property : String) (value : Option String) : String :=
  let value := Text.trim (value.getD "")
  if value.isEmpty then "" else property ++ ":" ++ value ++ ";"

def declarations (style : Style) : String := String.join (style.map fun (property, value) => declaration property value)

/-- The whole attribute with a space in front, or nothing when nothing is declared. -/
def html (style : Style) : String :=
  let text := style.declarations
  if text.isEmpty then "" else " style=\"" ++ escape text ++ "\""

end Style
end Letterpress.Html
