import Letterpress.Decimal.Reader
import Letterpress.Json.Basic
import Letterpress.Text.HexDigit
import Letterpress.Text.Search

/-! YAML values, and what plain texts stand for. -/
namespace Letterpress

/-- A value whose tag it does not fit is void. A double keeps its text. -/
inductive Yaml
  | void
  | null
  | flag (value : Bool)
  | int (value : Int)
  | float (text : String)
  | string (value : String)
  | list (items : List Yaml)
  | table (members : List (Yaml × Yaml))

namespace Yaml
open Letterpress.Text

instance : Inhabited Yaml := ⟨.null⟩

/-- A whole number in another base than ten, with an optional sign. -/
def based? (base : Nat) (s : List Char) : Option Int := do
  let (negative, digits) := Decimal.takeSign s
  let n ← digits.foldlM (fun n c => ((hexValue? c).filter (· < base)).map (base * n + ·)) 0
  let value : Int := if negative then -n else n
  if digits.isEmpty ∨ !Decimal.fitsSigned value then none else return value

/-- A whole number: after `0x` in base sixteen, after `0o` in base eight, after a plus with a sign of its own. -/
def int? (s : List Char) : Option Int :=
  let marked := match s with
    | '0' :: 'x' :: digits => based? 16 digits
    | '0' :: 'o' :: digits => based? 8 digits
    | '+' :: digits => Decimal.signed? digits
    | _ => none
  marked.or (Decimal.signed? s)

def infinities : List String := [".inf", ".Inf", ".INF", "+.inf", "+.Inf", "+.INF", "-.inf", "-.Inf", "-.INF"]

def isFloat (s : String) : Bool :=
  infinities.contains s || s == ".nan" || s == ".NAN" || (Decimal.float? s.toList).isSome

def flag? (s : String) : Option Bool := if s = "true" then some true else if s = "false" then some false else none

def isNull (s : String) : Bool := s == "~" || s == "null"

def ofPlain (s : String) : Yaml :=
  match int? s.toList with
  | some n => .int n
  | none =>
    if isNull s then .null
    else
      match flag? s with
      | some value => .flag value
      | none => if isFloat s then .float s else .string s

def ofTagged (handle suffix s : String) : Yaml :=
  if handle ≠ "!!" then .string s
  else if suffix = "bool" then ((flag? s).map .flag).getD .void
  else if suffix = "int" then ((Decimal.signed? s.toList).map .int).getD .void
  else if suffix = "float" then if isFloat s then .float s else .void
  else if suffix = "null" then if isNull s then .null else .void
  else .string s

/-- A table from keys and values that follow each other. What is void does not count as a key. -/
def tableOf : List Yaml → List (Yaml × Yaml)
  | .void :: nodes => tableOf nodes
  | key :: value :: nodes => (key, value) :: tableOf nodes
  | _ => []

def keyText? : Yaml → Option String
  | string s => some s
  | int n => some (toString n)
  | _ => none

mutual
/-- The value as JSON, if all of its keys are texts or whole numbers and all of its doubles read as decimals. -/
def toJson? : Yaml → Option Json
  | void => some .null
  | null => some .null
  | flag value => some (.bool value)
  | int value => some (.number (.int value))
  | float s => (Decimal.float? s.toList).map fun x => .number (.float x)
  | string value => some (.string value)
  | list items => (itemsToJson? items).map .array
  | table members => (membersToJson? members).map .mk

def itemsToJson? : List Yaml → Option (List Json)
  | [] => some []
  | item :: items => do
    let item ← item.toJson?
    let items ← itemsToJson? items
    return item :: items

def membersToJson? : List (Yaml × Yaml) → Option (List (String × Json))
  | [] => some []
  | (key, value) :: members => do
    let key ← key.keyText?
    let value ← value.toJson?
    let members ← membersToJson? members
    return (key, value) :: members
end

end Yaml

end Letterpress
