import Letterpress.Json.Misfit

/-! The value of a draft, if it has one: no part of it is torn, every scalar has a value, and lists and objects do not
lie too deep in each other. A value is a draft in turn. -/
namespace Letterpress.Json

/-- How deep lists and objects may lie in each other. -/
def greatestDepth : Nat := 127

mutual
/-- The value of a draft, or the first fault that a reader meets. `depth` is how much deeper the reader may go. -/
def Draft.value : Nat → Draft → Except Misfit Json
  | _, .null => .ok .null
  | _, .bool b => .ok (.bool b)
  | _, .number (.ok n) => .ok (.number n)
  | _, .number (.error fault) => raiseFault fault
  | _, .string (.ok s) => .ok (.string s)
  | _, .string (.error fault) => raiseFault fault
  | _, .torn tear | _, .missing tear => raiseFault tear.read
  | 0, .array _ _ => raiseFault .tooDeep
  | depth + 1, .array items tear => do
    let values ← Draft.values depth 0 items
    match tear with
    | some tear => raiseFault tear.read
    | none => .ok (.array values)
  | 0, .object _ _ => raiseFault .tooDeep
  | depth + 1, .object members tear => do
    let values ← Draft.memberValues depth members
    match tear with
    | some tear => along .unnamed (raiseFault tear.read)
    | none => .ok (.mk values)

def Draft.values : Nat → Nat → List Draft → Except Misfit (List Json)
  | _, _, [] => .ok []
  | depth, index, item :: items => do
    let value ← along (.item index) (item.value depth)
    let values ← Draft.values depth (index + 1) items
    return value :: values

def Draft.memberValues : Nat → List (Spelling × Draft) → Except Misfit (List (String × Json))
  | _, [] => .ok []
  | _, (.error fault, _) :: _ => along .unnamed (raiseFault fault)
  | depth, (.ok key, item) :: members => do
    let value ← alongMember key item (item.value depth)
    let values ← Draft.memberValues depth members
    return (key, value) :: values
end

def ofText (s : String) : Except Misfit Json := do
  let (draft, more) := Draft.ofText s.toList
  let value ← draft.value greatestDepth
  if more then raiseFault .trailingCharacters
  return value

mutual
/-- The first fault that is met when a draft is passed over. -/
def Draft.passed? : Draft → Option Fault
  | .array items tear => (Draft.passedItems? items).or (tear.map (·.passed))
  | .object members tear => (Draft.passedMembers? members).or (tear.map (·.passed))
  | .torn tear | .missing tear => some tear.passed
  | _ => none

def Draft.passedItems? : List Draft → Option Fault
  | [] => none
  | item :: items => item.passed?.or (Draft.passedItems? items)

def Draft.passedMembers? : List (Spelling × Draft) → Option Fault
  | [] => none
  | (.error .keyNotString, _) :: _ => some .keyNotString
  | (_, item) :: members => item.passed?.or (Draft.passedMembers? members)
end

mutual
def toDraft : Json → Draft
  | .null => .null
  | .bool b => .bool b
  | .number n => .number (.ok n)
  | .string s => .string (.ok s)
  | .array items => .array (toDrafts items) none
  | .object members => .object (memberDrafts members) none

def toDrafts : List Json → List Draft
  | [] => []
  | item :: items => toDraft item :: toDrafts items

def memberDrafts : List (String × Json) → List (Spelling × Draft)
  | [] => []
  | (key, value) :: members => (.ok key, toDraft value) :: memberDrafts members
end

end Letterpress.Json
