import Letterpress.Decimal.Layout
import Letterpress.Decimal.Nearest
import Letterpress.Keyed

/-! JSON values. An object is a list of members in strictly ascending order of their keys, so equal objects are equal
lists; order on keys is that of their code points, which is also that of their UTF-8 bytes. -/
namespace Letterpress

/-- A number is whole, between `-2 ^ 63` and `2 ^ 64 - 1`, or a double; `1.0` is a double and differs from `1`. -/
inductive Json.Number
  | int (value : Int)
  | float (value : Float)

inductive Json
  | null
  | bool (value : Bool)
  | number (value : Json.Number)
  | string (value : String)
  | array (items : List Json)
  | object (members : List (String × Json))

instance : Inhabited Json := ⟨.null⟩

namespace Json

def mk (members : List (String × Json)) : Json := .object (Keyed.ofList members)

def nat (n : Nat) : Json := .number (.int n)

def ofOption {α : Type} (encode : α → Json) : Option α → Json
  | some value => encode value
  | none => .null

def get? (key : String) : Json → Option Json
  | object members => Keyed.lookup? key members
  | _ => none

end Json

def Json.Number.text : Json.Number → String
  | .int value => toString value
  | .float value => Decimal.scientific value

def Json.Number.toFloat : Json.Number → Float
  | .int value => Decimal.ofInt value
  | .float value => value

end Letterpress
