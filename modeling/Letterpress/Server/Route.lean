import Letterpress.Server.Exchange
import Letterpress.Template.Check
import Letterpress.Text.HexDigit

/-! The places that a server answers at. -/
namespace Letterpress.Server

inductive Route
  | health
  | metrics
  | preview
  | send
  | templates
  | template (id : String)
  deriving DecidableEq, Repr

namespace Route

/-- The route of a path. The id of a template is as it stands in the path. -/
def ofPath? (path : String) : Option Route :=
  match segments path with
  | ["", "health"] => some health
  | ["", "metrics"] => some metrics
  | ["", "api", "preview"] => some preview
  | ["", "api", "send"] => some send
  | ["", "api", "templates"] => some templates
  | ["", "api", "templates", id] => if id = "" then none else some (template id)
  | _ => none

def takesBody : Route → Bool
  | preview | send => true
  | _ => false

/-- The methods that a route answers to, as they are listed. -/
def methods (r : Route) : String := if r.takesBody then "POST" else "GET,HEAD"

def answers (r : Route) (method : String) : Bool :=
  if r.takesBody then method == "POST" else method == "GET" || method == "HEAD"

end Route

/-- The bytes of a text in which a percent sign with two hexadecimal digits stands for a byte. -/
def percentBytes : List Char → List UInt8
  | [] => []
  | [c] => (String.singleton c).toUTF8.toList
  | [c, d] => (String.ofList [c, d]).toUTF8.toList
  | c :: high :: low :: s =>
    match c, Text.hexValue? high, Text.hexValue? low with
    | '%', some h, some l => UInt8.ofNat (16 * h + l) :: percentBytes s
    | _, _, _ => (String.singleton c).toUTF8.toList ++ percentBytes (high :: low :: s)

/-- The text behind percent signs, unless its bytes are no UTF-8. -/
def percentDecoded? (s : String) : Option String :=
  String.fromUTF8? ⟨(percentBytes s.toList).toArray⟩

end Letterpress.Server
