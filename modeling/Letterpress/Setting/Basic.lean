import Letterpress.Ini.Reader
import Letterpress.Json.Value
import Letterpress.Text.LetterCase
import Letterpress.Toml.Basic

/-! A setting as it is found, with the place that it comes from. Tables that were put together from several places come
from none. -/
namespace Letterpress

inductive Scalar
  | absent
  | flag (value : Bool)
  | int (value : Int)
  | float (value : Float)
  | text (value : String)

inductive Setting
  | scalar (origin : Option String) (value : Scalar)
  | list (origin : Option String) (items : List Setting)
  | table (origin : Option String) (members : List (String × Setting))

namespace Setting

instance : Inhabited Setting := ⟨.scalar none .absent⟩

def origin : Setting → Option String
  | scalar origin _ => origin
  | list origin _ => origin
  | table origin _ => origin

def ofText (value : String) : Setting := .scalar none (.text value)

def ofNat (value : Nat) : Setting := .scalar none (.int value)

mutual
/-- A value of a TOML document. Dates are texts. -/
def ofToml (origin : Option String) : Toml → Setting
  | .text value => .scalar origin (.text value)
  | .int value => .scalar origin (.int value)
  | .float value => .scalar origin (.float value)
  | .flag value => .scalar origin (.flag value)
  | .date value => .scalar origin (.text value)
  | .list _ items => .list origin (itemsOfToml origin items)
  | .table _ members => .table origin (membersOfToml origin members)

def itemsOfToml (origin : Option String) : List Toml → List Setting
  | [] => []
  | item :: items => ofToml origin item :: itemsOfToml origin items

def membersOfToml (origin : Option String) : List (String × Toml) → List (String × Setting)
  | [] => []
  | (key, value) :: members => (key, ofToml origin value) :: membersOfToml origin members
end

/-- A number; one that does not fit into sixty-four bits with its sign becomes a double. -/
def numberOfJson : Json.Number → Scalar
  | .int value => if Decimal.fitsSigned value then .int value else .float (Decimal.ofInt value)
  | .float value => .float value

mutual
def ofJson (origin : Option String) : Json → Setting
  | .null => .scalar origin .absent
  | .bool value => .scalar origin (.flag value)
  | .number value => .scalar origin (numberOfJson value)
  | .string value => .scalar origin (.text value)
  | .array items => .list origin (itemsOfJson origin items)
  | .object members => .table origin (membersOfJson origin members)

def itemsOfJson (origin : Option String) : List Json → List Setting
  | [] => []
  | item :: items => ofJson origin item :: itemsOfJson origin items

def membersOfJson (origin : Option String) : List (String × Json) → List (String × Setting)
  | [] => []
  | (key, value) :: members => (key, ofJson origin value) :: membersOfJson origin members
end

def pairsOfIni (origin : Option String) (pairs : List (String × String)) : List (String × Setting) :=
  Keyed.ofList (pairs.map fun (key, text) => (key, .scalar origin (.text text)))

/-- The sections of an INI document. Of two with one name the later counts; what has no section stands beside them. -/
def membersOfIni (origin : Option String) (sections : List Ini.Section) : List (String × Setting) :=
  Keyed.ofList (sections.flatMap fun part =>
    match part.name with
    | some name => [(name, .table origin (pairsOfIni origin part.pairs))]
    | none => pairsOfIni origin part.pairs)

mutual
def lowered : Setting → Setting
  | .scalar origin value => .scalar origin value
  | .list origin items => .list origin items
  | .table origin members => .table origin (loweredMembers members)

def loweredMembers : List (String × Setting) → List (String × Setting)
  | [] => []
  | (key, value) :: members => (Text.lower key, lowered value) :: loweredMembers members
end

end Setting

end Letterpress
