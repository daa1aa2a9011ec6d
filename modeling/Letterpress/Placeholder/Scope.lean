import Letterpress.Decimal.Reader
import Letterpress.Placeholder.Syntax

/-! Scopes: what names mean inside the blocks around a place. A scope stands somewhere in the data, or on a value of its
own; loops add variables to it, and a block or an inclusion can give names to values. -/
namespace Letterpress.Placeholder

/-- Where a scope stands: at a place in the data, or on a value. -/
inductive Base
  | place (keys : List String)
  | value (value : Json)

/-- What a name given with a scope means: the place that the scope stands on, or a value. -/
inductive Given
  | place
  | value (value : Json)

structure Scope where
  base : Base
  loop : List (String × Json)
  locals : List (String × Given)

def Scope.root : Scope := ⟨.place [], [], []⟩

/-- A value, and where in the data it stands if it stands there. What is missing reads as null. -/
structure Value where
  json : Json
  keys : Option (List String)

def Value.missing : Value := ⟨.null, none⟩

def Value.base (value : Value) : Base :=
  match value.keys with
  | some keys => .place keys
  | none => .value value.json

inductive Reason
  | noHelper (name : String)
  | noDecorator (name : String)
  | noPart (name : String)
  | noBody
  | ownPart
  | missingArgument (helper : String) (index : Nat)
  | missingNamedArgument (helper name : String)
  | wrongKind (expected : String)
  | bodyRequired
  | badLevel (level : String)
  | badIndex (key : String)
  | tooDeep
  deriving DecidableEq, Repr

def Reason.message : Reason → String
  | noHelper name => "Helper not found " ++ name
  | noDecorator name => "Decorator not found " ++ name
  | noPart name => "Partial not found " ++ name
  | noBody => "Partial block cound not be found"
  | ownPart => "Can not include current template in partial"
  | missingArgument helper index =>
    "Helper/Decorator " ++ helper ++ " param at index " ++ toString index ++ " required but not found"
  | missingNamedArgument helper name =>
    "Helper/Decorator " ++ helper ++ " param with name " ++ name ++ " required but not found"
  | wrongKind expected => "Invalid param type, " ++ expected ++ " expected"
  | bodyRequired => "Block content required"
  | badLevel level => "Invalid logging level: " ++ level
  | badIndex key => "Cannot access array/vector with string index, " ++ key
  | tooDeep => "Partials are nested too deeply"

/-- A list index: digits, with or without a plus in front, within the range of a word. -/
def index? (key : String) : Option Nat := Decimal.word? key.toList

/-- The value under a key, if there is one. A key of a list has to be an index. -/
def stepInto (value : Option Json) (key : String) : Except Reason (Option Json) :=
  match value with
  | some (.array items) =>
    match index? key with
    | some i => .ok items[i]?
    | none => .error (.badIndex key)
  | some (.object members) => .ok (Keyed.lookup? key members)
  | _ => .ok none

def follow (value : Json) (keys : List String) : Except Reason (Option Json) := keys.foldlM stepInto (some value)

def atPlace (data : Json) (keys : List String) : Except Reason Value := do
  match ← follow data keys with
  | some json => return ⟨json, some keys⟩
  | none => return .missing

def under (value : Json) (keys : List String) : Except Reason Value := do
  match ← follow value keys with
  | some json => return ⟨json, none⟩
  | none => return .missing

def Scope.look (scope : Scope) (data : Json) (keys : List String) : Except Reason Value :=
  match scope.base with
  | .place base => atPlace data (base ++ keys)
  | .value value => under value keys

/-- The innermost scope that gives a name, with what it gives. -/
def given? (scopes : List Scope) (name : String) : Option (Scope × Given) :=
  scopes.findSome? fun scope => (Keyed.lookup? name scope.locals).map (scope, ·)

/-- A variable of the innermost loop that is at least `ups` scopes up. -/
def loopValue (scopes : List Scope) (ups : Nat) (name : String) : Value :=
  match ((scopes.drop ups).find? fun scope => !scope.loop.isEmpty).bind fun scope => Keyed.lookup? name scope.loop with
  | some json => ⟨json, none⟩
  | none => .missing

/-- The scope that a path without a name of its own starts from. Further up than there are scopes, it is the current
one. -/
def startScope (scopes : List Scope) (ups : Nat) : Scope :=
  (scopes[ups]?).getD (scopes.headD .root)

def Path.look (path : Path) (data : Json) (scopes : List Scope) : Except Reason Value :=
  if path.fromRoot then atPlace data path.names
  else if path.ofLoop then
    match path.names with
    | name :: _ => .ok (loopValue scopes path.ups name)
    | [] => (startScope scopes 0).look data []
  else
    let plain := (startScope scopes path.ups).look data path.names
    match path.names with
    | [] => plain
    | name :: keys =>
      match given? scopes name with
      | some (_, .value value) => under value keys
      | some (scope, .place) =>
        match scope.base with
        | .place base => atPlace data (base ++ keys)
        | .value _ => atPlace data keys
      | none => plain

end Letterpress.Placeholder
