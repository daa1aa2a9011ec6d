import Letterpress.Placeholder.Scope
import Letterpress.Placeholder.Value
import Letterpress.Text.LetterCase

/-! Helpers: what a call can do besides naming a value. -/
namespace Letterpress.Placeholder

inductive Relation
  | equal | different | greater | atLeast | less | atMost
  deriving DecidableEq, Repr

inductive Helper
  | when | whenNot | each | within | raw | lookup | log
  | relation (relation : Relation)
  | all | any | not | length | upper | lower
  deriving DecidableEq, Repr

def Relation.name : Relation → String
  | equal => "eq"
  | different => "ne"
  | greater => "gt"
  | atLeast => "gte"
  | less => "lt"
  | atMost => "lte"

def Relation.holds (relation : Relation) (x y : Json) : Bool :=
  match relation with
  | equal => same x y
  | different => !same x y
  | greater => compare? x y == some .gt
  | atLeast => compare? x y == some .gt || compare? x y == some .eq
  | less => compare? x y == some .lt
  | atMost => compare? x y == some .lt || compare? x y == some .eq

namespace Helper

def name : Helper → String
  | when => "if"
  | whenNot => "unless"
  | each => "each"
  | within => "with"
  | raw => "raw"
  | lookup => "lookup"
  | log => "log"
  | relation r => r.name
  | all => "and"
  | any => "or"
  | not => "not"
  | length => "len"
  | upper => "uppercase"
  | lower => "lowercase"

def every : List Helper :=
  [when, whenNot, each, within, raw, lookup, log, relation .equal, relation .different, relation .greater,
   relation .atLeast, relation .less, relation .atMost, all, any, not, length, upper, lower]

def ofName? (name : String) : Option Helper := every.find? (·.name == name)

end Helper

/-- The values that a call hands to its helper. Of two options with one name the later counts. -/
structure Arguments where
  values : List Value
  options : List (String × Value)

namespace Arguments

/-- The value at a position, which has to be there. -/
def need (a : Arguments) (helper : String) (index : Nat) : Except Reason Json :=
  match a.values[index]? with
  | some found => .ok found.json
  | none => .error (.missingArgument helper index)

def option? (a : Arguments) (name : String) : Option Json := (Keyed.lookup? name a.options.reverse).map (·.json)

/-- The first value as text; nothing else counts as text. -/
def text (a : Arguments) : String :=
  match a.values with
  | ⟨.string s, _⟩ :: _ => s
  | _ => ""

end Arguments

/-- What a helper gives where it has no body: a value, which is escaped when it is printed, its truth, or text as it
is. -/
inductive Answer
  | value (json : Json)
  | truth (holds : Bool)
  | text (text : String)

def logLevels : List String := ["error", "warn", "info", "debug", "trace"]

/-- The length of a list or an object, or the bytes of a text. -/
def lengthOf : Json → Nat
  | .array items => items.length
  | .object members => members.length
  | .string s => s.utf8ByteSize
  | _ => 0

def entryOf (collection key : Json) : Json :=
  match collection, key with
  | .array items, .number (.int i) => if 0 ≤ i then (items[i.toNat]?).getD .null else .null
  | .object members, .string key => (Keyed.lookup? key members).getD .null
  | _, _ => .null

/-- The truth of a helper that has one, for which a body or its inverse is chosen. -/
def Helper.truth? (helper : Helper) (a : Arguments) : Option (Except Reason Bool) :=
  match helper with
  | .when => some (do
      let value ← a.need "if" 0
      return isTruthy (match a.option? "includeZero" with | some (.bool b) => b | _ => false) value)
  | .whenNot => some (do
      let value ← a.need "if" 0
      return !isTruthy (match a.option? "includeZero" with | some (.bool b) => b | _ => false) value)
  | .relation r => some (do
      let x ← a.need r.name 0
      let y ← a.need r.name 1
      return r.holds x y)
  | .all => some (.ok (a.values.all fun value => isTruthy false value.json))
  | .any => some (.ok (a.values.any fun value => isTruthy false value.json))
  | .not => some (do
      let value ← a.need "not" 0
      return !isTruthy false value)
  | _ => none

def Helper.answer (helper : Helper) (a : Arguments) : Except Reason Answer :=
  match helper with
  | .when => (a.need "if" 0).map fun _ => .text ""
  | .whenNot => (a.need "if" 0).map fun _ => .text ""
  | .each => (a.need "each" 0).map fun _ => .text ""
  | .within => (a.need "with" 0).map fun _ => .text ""
  | .raw => .ok (.text "")
  | .lookup => do
    let collection ← a.need "lookup" 0
    let key ← a.need "lookup" 1
    return .value (entryOf collection key)
  | .log =>
    let level := match a.option? "level" with
      | some (.string s) => s
      | _ => "info"
    if logLevels.contains (String.ofList (level.toList.map Char.toLower)) then .ok (.text "")
    else .error (.badLevel level)
  | .length =>
    match a.values with
    | found :: _ => .ok (.value (.nat (lengthOf found.json)))
    | [] => .error (.missingNamedArgument "len" "x")
  | .upper => .ok (.text (escapeHtml (Text.upper a.text)))
  | .lower => .ok (.text (escapeHtml (Text.lower a.text)))
  | helper =>
    match helper.truth? a with
    | some truth => truth.map .truth
    | none => .ok (.text "")

/-- The answer as a value, for a call inside a call. -/
def Answer.json : Answer → Json
  | .value json => json
  | .truth holds => .bool holds
  | .text s => .string s

end Letterpress.Placeholder
