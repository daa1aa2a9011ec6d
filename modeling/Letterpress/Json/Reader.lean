import Letterpress.Json.Value

/-! Readers: how a draft is read as a value of some type. -/
namespace Letterpress.Json

/-- How a draft is read: as text, or as a value that has been read before; and how much deeper lists and objects may
lie. -/
structure Manner where
  fromText : Bool
  depth : Nat
  deriving DecidableEq, Repr

abbrev Reader (α : Type) := Manner → Draft → Except Misfit α

namespace Manner

def text : Manner := ⟨true, greatestDepth⟩

def value : Manner := ⟨false, greatestDepth⟩

def enter (m : Manner) : Except Misfit Manner :=
  match m.depth with
  | 0 => raiseFault .tooDeep
  | depth + 1 => .ok { m with depth := depth }

end Manner

namespace Reader

def map {α β : Type} (f : α → β) (reader : Reader α) : Reader β := fun m d => (reader m d).map f

def text : Reader String := fun _ d =>
  match d with
  | .string (.ok s) => .ok s
  | d => refuse "a string" d

def flag : Reader Bool := fun _ d =>
  match d with
  | .bool b => .ok b
  | d => refuse "a boolean" d

/-- A whole number from zero up to some limit, which has a name. -/
def natural (limit : Nat) (name : String) : Reader Nat := fun _ d =>
  match d with
  | .number (.ok (.int n)) =>
    if 0 ≤ n ∧ n ≤ limit then .ok n.toNat else raise (.wrongValue (Number.described (.int n)) name)
  | d => refuse name d

def count : Reader Nat := natural Decimal.greatestWord "usize"

def double : Reader Float := fun _ d =>
  match d with
  | .number (.ok n) => .ok n.toFloat
  | d => refuse "f64" d

def optional {α : Type} (reader : Reader α) : Reader (Option α) := fun m d =>
  match d with
  | .null => .ok none
  | d => (reader m d).map some

def anything : Reader Json := fun m d => d.value m.depth

/-- Reads nothing; only what tears the text matters. -/
def ignored : Reader Unit := fun _ d =>
  match d.passed? with
  | some fault => raiseFault fault
  | none => .ok ()

def itemsFrom {α : Type} (reader : Reader α) (m : Manner) (index : Nat) : List Draft → Except Misfit (List α)
  | [] => .ok []
  | item :: items => do
    let value ← along (.item index) (reader m item)
    let values ← itemsFrom reader m (index + 1) items
    return value :: values

def list {α : Type} (reader : Reader α) : Reader (List α) := fun m d =>
  match d with
  | .array items tear => do
    let m ← m.enter
    let values ← itemsFrom reader m 0 items
    match tear with
    | some tear => raiseFault tear.read
    | none => return values
  | d => refuse "a sequence" d

def membersOf {α : Type} (reader : Reader α) (m : Manner) :
    List (Spelling × Draft) → Except Misfit (List (String × α))
  | [] => .ok []
  | (.error fault, _) :: _ => along .unnamed (raiseFault fault)
  | (.ok key, value) :: members => do
    let value ← alongMember key value (reader m value)
    let values ← membersOf reader m members
    return (key, value) :: values

/-- An object with any keys, in the order of its keys. Of two members with one key the later counts. -/
def table {α : Type} (reader : Reader α) : Reader (List (String × α)) := fun m d =>
  match d with
  | .object members tear => do
    let m ← m.enter
    let values ← membersOf reader m members
    match tear with
    | some tear => along .unnamed (raiseFault tear.read)
    | none => return Keyed.ofList values
  | d => refuse "a map" d

def choose {α : Type} (choices : List (String × α)) (name : String) : Except Misfit α :=
  match Keyed.lookup? name choices with
  | some value => .ok value
  | none => raise (.unknownChoice name (choices.map (·.1)))

/-- What may be under the name of a choice: nothing. -/
def nothing : Reader Unit := fun _ d =>
  match d with
  | .null => .ok ()
  | d => refuse "unit" d

/-- The fault of a text that goes on after a choice in an object. -/
def behindChoice (rest : List (Spelling × Draft)) (tear : Option Tear) : Option Fault :=
  match rest, tear with
  | [], none => none
  | [], some tear => some (if tear.read = .endInObject then .endInObject else .expectedValue)
  | _ :: _, _ => some .expectedValue

def noChoice : Draft → Fault
  | .string (.error fault) => fault
  | .missing tear => tear.read
  | .torn tear => if tear.read = .expectedIdentifier ∨ tear.read = .invalidNumber then .expectedValue else tear.read
  | _ => .expectedValue

/-- A choice from the beginning of an object in text. -/
def textChoice {α : Type} (choices : List (String × α)) (m : Manner) (members : List (Spelling × Draft))
    (tear : Option Tear) : Except Misfit α := do
  let m ← m.enter
  match members, tear with
  | [], none => raiseFault .expectedValue
  | [], some tear => raiseFault (if tear.read = .endInObject then .endInValue else tear.read)
  | (.error .keyNotString, key) :: _, _ => refuse "variant identifier" key
  | (.error fault, _) :: _, _ => raiseFault fault
  | (.ok name, value) :: rest, tear =>
    let chosen ← choose choices name
    alongMember name value (nothing m value)
    match behindChoice rest tear with
    | some fault => raiseFault fault
    | none => return chosen

/-- One of some names, each of which stands for a value. A name can also be the only key of an object. -/
def choice {α : Type} (choices : List (String × α)) : Reader α := fun m d =>
  match d with
  | .string (.ok name) => choose choices name
  | .object members tear =>
    if m.fromText then textChoice choices m members tear
    else
      match members with
      | [(.ok name, value)] => do
        let chosen ← choose choices name
        along (.key name) (nothing m value)
        return chosen
      | _ => raise (.wrongValue "map" "map with a single key")
  | d => if m.fromText then raiseFault (noChoice d) else refuse "string or map" d

end Reader

end Letterpress.Json
