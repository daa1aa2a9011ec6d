import Letterpress.Yaml.Basic
import Letterpress.Yaml.Token

/-! Putting the tokens of a YAML document together. Where a value may stand and none does, there is null. -/
namespace Letterpress.Yaml

/-- What is left of the tokens, and what the anchors so far stand for, the latest first. An anchor whose value has not
ended stands for nothing yet. -/
structure Reading where
  tokens : List Token
  anchors : List (String × Option Yaml) := []

abbrev Read := StateT Reading Option

namespace Read

def peek? : Read (Option Token) := return (← get).tokens.head?

def skip : Read Unit := modify fun r => { r with tokens := r.tokens.drop 1 }

/-- Whether one of some tokens, or the end, comes next. -/
def at_ (tokens : List Token) : Read Bool := return (← peek?).all tokens.contains

def fail {α : Type} : Read α := fun _ => none

/-- The number of the anchor that is set here, if there is one. -/
def anchor? : Read (Option Nat) := do
  match ← peek? with
  | some (.anchor name) =>
    skip
    modify fun r => { r with anchors := (name, none) :: r.anchors }
    return some ((← get).anchors.length)
  | _ => return none

def tag? : Read (Option (String × String)) := do
  match ← peek? with
  | some (.tag handle suffix) =>
    skip
    return some (handle, suffix)
  | _ => return none

def settle (anchor : Option Nat) (value : Yaml) : Read Yaml := do
  match anchor with
  | some number =>
    modify fun r =>
      let place := r.anchors.length - number
      { r with anchors := r.anchors.modify place fun (name, _) => (name, some value) }
  | none => pure ()
  return value

/-- The properties in front of a value, in either order. -/
def properties : Read (Option Nat × Option (String × String)) := do
  match ← anchor? with
  | some number => return (some number, ← tag?)
  | none =>
    match ← tag? with
    | some tag => return (← anchor?, some tag)
    | none => return (none, none)

def scalarOf (plain : Bool) (tag : Option (String × String)) (content : String) : Yaml :=
  match plain, tag with
  | false, _ => .string content
  | true, some (handle, suffix) => .ofTagged handle suffix content
  | true, none => .ofPlain content

mutual
/-- A value. Where `block` holds it may be indented, and where `loose` holds its items may stand at the indent of what
is around it. -/
def value : Nat → (block loose : Bool) → Read Yaml
  | 0, _, _ => fail
  | fuel + 1, block, loose => do
    match ← peek? with
    | some (.alias name) =>
      skip
      match (← get).anchors.find? (·.1 == name) with
      | some (_, found) => return found.getD .void
      | none => fail
    | _ =>
      let (anchor, tag) ← properties
      match ← peek? with
      | some .item => if loose then settle anchor (.list (← looseItems fuel)) else bare anchor tag
      | some (.scalar plain content) =>
        skip
        settle anchor (scalarOf plain tag content)
      | some .flowList =>
        skip
        settle anchor (.list (← flowItems fuel true))
      | some .flowTable =>
        skip
        settle anchor (.table (tableOf (← flowMembers fuel true)))
      | some .blockList =>
        if block then
          skip
          settle anchor (.list (← blockItems fuel))
        else bare anchor tag
      | some .blockTable =>
        if block then
          skip
          settle anchor (.table (tableOf (← blockMembers fuel)))
        else bare anchor tag
      | _ => bare anchor tag

/-- Properties without a value stand for an empty text. -/
def bare (anchor : Option Nat) (tag : Option (String × String)) : Read Yaml :=
  if anchor.isSome || tag.isSome then settle anchor (scalarOf true tag "") else fail

/-- A value, or null if one of some tokens comes next. -/
def valueUnless : Nat → List Token → (block loose : Bool) → Read Yaml
  | 0, _, _, _ => fail
  | fuel + 1, tokens, block, loose => do
    if (← peek?).any tokens.contains then return .null else value fuel block loose

/-- The items at the indent of what is around them. -/
def looseItems : Nat → Read (List Yaml)
  | 0 => fail
  | fuel + 1 => do
    if (← peek?) = some .item then
      skip
      let item ← valueUnless fuel [.item, .key, .value, .blockEnd] true false
      return item :: (← looseItems fuel)
    else return []

def blockItems : Nat → Read (List Yaml)
  | 0 => fail
  | fuel + 1 => do
    match ← peek? with
    | some .blockEnd =>
      skip
      return []
    | some .item =>
      skip
      let item ← valueUnless fuel [.item, .blockEnd] true false
      return item :: (← blockItems fuel)
    | _ => fail

def blockMembers : Nat → Read (List Yaml)
  | 0 => fail
  | fuel + 1 => do
    let ends := [Token.key, .value, .blockEnd]
    match ← peek? with
    | some .blockEnd =>
      skip
      return []
    | some .key =>
      skip
      let key ← valueUnless fuel ends true true
      let value ← blockValue fuel
      return key :: value :: (← blockMembers fuel)
    | some .value =>
      let value ← blockValue fuel
      return .null :: value :: (← blockMembers fuel)
    | _ => fail

def blockValue : Nat → Read Yaml
  | 0 => fail
  | fuel + 1 => do
    if (← peek?) = some .value then
      skip
      valueUnless fuel [.key, .value, .blockEnd] true true
    else return .null

def flowMembers : Nat → (first : Bool) → Read (List Yaml)
  | 0, _ => fail
  | fuel + 1, first => do
    if (← peek?) = some .flowTableEnd then
      skip
      return []
    else
      if !first then (if (← peek?) = some .comma then skip else fail)
      match ← peek? with
      | some .flowTableEnd =>
        skip
        return []
      | some .key =>
        skip
        let key ← valueUnless fuel [.value, .comma, .flowTableEnd] false false
        let value ← flowValue fuel [.comma, .flowTableEnd]
        return key :: value :: (← flowMembers fuel false)
      | some .value =>
        let value ← flowValue fuel [.comma, .flowTableEnd]
        return .null :: value :: (← flowMembers fuel false)
      | _ =>
        let key ← value fuel false false
        return key :: .null :: (← flowMembers fuel false)

def flowValue : Nat → List Token → Read Yaml
  | 0, _ => fail
  | fuel + 1, ends => do
    if (← peek?) = some .value then
      skip
      valueUnless fuel ends false false
    else return .null

/-- The items between brackets; one with a key is a table of its own. -/
def flowItems : Nat → (first : Bool) → Read (List Yaml)
  | 0, _ => fail
  | fuel + 1, first => do
    if (← peek?) = some .flowListEnd then
      skip
      return []
    else
      if !first then (if (← peek?) = some .comma then skip else fail)
      match ← peek? with
      | some .flowListEnd =>
        skip
        return []
      | some .key =>
        skip
        let key ← flowKey fuel
        let value ← flowValue fuel [.comma, .flowListEnd]
        return .table (tableOf [key, value]) :: (← flowItems fuel false)
      | _ =>
        let item ← value fuel false false
        return item :: (← flowItems fuel false)

/-- The key of an item. Where it is missing the token in its place is skipped. -/
def flowKey : Nat → Read Yaml
  | 0 => fail
  | fuel + 1 => do
    if (← peek?).any [Token.value, .comma, .flowListEnd].contains then
      skip
      return .null
    else value fuel false false
end

def skipWhile (token : Token) : Read Unit := modify fun r => { r with tokens := r.tokens.dropWhile (· == token) }

def document (fuel : Nat) : Read Yaml := do
  skipWhile .directive
  if (← peek?) = some .documentStart then
    skip
    if ← at_ [.directive, .documentStart, .documentEnd] then return .null else value fuel true false
  else fail

/-- The document of a text that holds only one. Only the first may begin without a mark. -/
def only : Read (Option Yaml) := do
  let fuel := 4 * (← get).tokens.length + 4
  match ← peek? with
  | none => return none
  | some token =>
    let found ←
      if token == .directive || token == .documentStart then document fuel
      else value fuel true false
    skipWhile .documentEnd
    if (← peek?).isSome then fail else return some found

end Read

/-- The value of a text, which may be empty but holds no second document. -/
def ofText? (text : String) : Option (Option Yaml) := do
  let tokens ← tokens? text
  return (← Read.only.run { tokens := tokens }).1

end Letterpress.Yaml
