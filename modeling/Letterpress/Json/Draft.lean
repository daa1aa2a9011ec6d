import Letterpress.Json.Numeral
import Letterpress.Json.Spelling

/-! JSON text, read as far as it goes. Where the grammar breaks, the tree ends in a tear that says how. Whoever walks the
tree in document order meets the first fault of the text at its place, among the faults of meaning that come before
it. -/
namespace Letterpress.Json

inductive Draft
  | null
  | bool (value : Bool)
  | number (value : Except Fault Number)
  | string (value : Spelling)
  | array (items : List Draft) (tear : Option Tear)
  | object (members : List (Spelling × Draft)) (tear : Option Tear)
  | torn (tear : Tear)
  /-- No value, since the colon before it is not there: the tear is one of the object. -/
  | missing (tear : Tear)

instance : Inhabited Draft := ⟨.null⟩

def isJsonBlank (c : Char) : Bool := c == ' ' || c == '\n' || c == '\t' || c == '\r'

def skip (s : List Char) : List Char := s.dropWhile isJsonBlank

/-- A word such as `null`, of which the first letter has been seen. -/
def scanWord (letters s : List Char) : Except Tear (List Char) :=
  match letters, s with
  | [], s => .ok s
  | _ :: _, [] => .error (.both .endInValue)
  | l :: letters, c :: s => if l = c then scanWord letters s else .error (.both .expectedIdentifier)

/-- A draft, and the rest of the text unless the draft is torn. -/
abbrev Drafted := Draft × Option (List Char)

mutual
def draftValue : Nat → List Char → Drafted
  | 0, _ => (.torn (.both .endInValue), none)
  | fuel + 1, s =>
    let word := fun (letters : List Char) (value : Draft) (rest : List Char) =>
      match scanWord letters rest with
      | .ok rest => (value, some rest)
      | .error tear => (.torn tear, none)
    let number := fun (negative : Bool) (rest : List Char) =>
      match scanNumber negative rest with
      | .ok (value, rest) => (.number value, some rest)
      | .error tear => (.torn tear, none)
    match skip s with
    | [] => (.torn (.both .endInValue), none)
    | 'n' :: rest => word ['u', 'l', 'l'] .null rest
    | 't' :: rest => word ['r', 'u', 'e'] (.bool true) rest
    | 'f' :: rest => word ['a', 'l', 's', 'e'] (.bool false) rest
    | '"' :: rest =>
      match scanString rest with
      | .ok (spelling, rest) => (.string spelling, some rest)
      | .error tear => (.torn tear, none)
    | '[' :: rest =>
      let (items, tear, rest) := draftItems fuel true rest
      (.array items tear, rest)
    | '\x7b' :: rest =>
      let (members, tear, rest) := draftMembers fuel true rest
      (.object members tear, rest)
    | '-' :: rest => number true rest
    | c :: rest => if c.isDigit then number false (c :: rest) else (.torn (.both .expectedValue), none)

/-- Reads the items of a list up to its end. A tear belongs to the list if it stands between items. -/
def draftItems : Nat → Bool → List Char → List Draft × Option Tear × Option (List Char)
  | 0, _, _ => ([], some (.both .endInList), none)
  | fuel + 1, first, s =>
    let item := fun (s : List Char) =>
      match draftValue fuel s with
      | (draft, none) => ([draft], none, none)
      | (draft, some rest) =>
        let (items, tear, rest) := draftItems fuel false rest
        (draft :: items, tear, rest)
    match skip s with
    | [] => ([], some (.both .endInList), none)
    | ']' :: rest => ([], none, some rest)
    | c :: rest =>
      if first then item (c :: rest)
      else if c = ',' then
        match skip rest with
        | ']' :: _ => ([], some ⟨.trailingComma, .expectedValue⟩, none)
        | [] => ([], some (.both .endInValue), none)
        | rest => item rest
      else ([], some (.both .expectedListEnd), none)

/-- Reads the members of an object up to its end. Where the colon is missing, the value behind it is.
A first key that is no text ends the reading, and is kept as the value of a member that has no key. -/
def draftMembers : Nat → Bool → List Char → List (Spelling × Draft) × Option Tear × Option (List Char)
  | 0, _, _ => ([], some (.both .endInObject), none)
  | fuel + 1, first, s =>
    let member := fun (s : List Char) =>
      match scanString s with
      | .error tear => ([], some tear, none)
      | .ok (key, rest) =>
        match skip rest with
        | ':' :: rest =>
          match draftValue fuel rest with
          | (draft, none) => ([(key, draft)], none, none)
          | (draft, some rest) =>
            let (members, tear, rest) := draftMembers fuel false rest
            ((key, draft) :: members, tear, rest)
        | [] => ([(key, .missing (.both .endInObject))], none, none)
        | _ => ([(key, .missing (.both .expectedColon))], none, none)
    match skip s with
    | [] => ([], some (.both .endInObject), none)
    | '\x7d' :: rest => ([], none, some rest)
    | c :: rest =>
      if first then (if c = '"' then member rest
        else ([(.error .keyNotString, (draftValue fuel (c :: rest)).1)], none, none))
      else if c = ',' then
        match skip rest with
        | '"' :: rest => member rest
        | '\x7d' :: _ => ([], some ⟨.trailingComma, .keyNotString⟩, none)
        | [] => ([], some ⟨.endInValue, .endInObject⟩, none)
        | _ => ([], some (.both .keyNotString), none)
      else ([], some (.both .expectedObjectEnd), none)
end

/-- The draft of a whole text, and whether anything but blanks follows the value. -/
def Draft.ofText (s : List Char) : Draft × Bool :=
  match draftValue (2 * s.length + 2) s with
  | (draft, none) => (draft, false)
  | (draft, some rest) => (draft, !(skip rest).isEmpty)

end Letterpress.Json
