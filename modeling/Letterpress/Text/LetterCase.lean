import Letterpress.Text.CaseTable

/-! Upper and lower case of whole texts. Most characters map alone and to one character; a few map to several, and a
capital sigma becomes the final form where a word ends: after a letter and before none, where characters such as
apostrophes and combining marks are looked through. -/
namespace Letterpress.Text

/-- The code point that the first fitting run gives. -/
def CaseRun.image? (run : CaseRun) (n : Nat) : Option Nat :=
  if run.first ≤ n ∧ n ≤ run.last ∧ (n - run.first) % run.stride = 0 then some ((n : Int) + run.shift).toNat else none

def mappedChar (sequences : List (Nat × List Nat)) (runs : List CaseRun) (c : Char) : List Char :=
  match sequences.find? (·.1 == c.toNat) with
  | some (_, points) => points.map Char.ofNat
  | none => [((runs.findSome? (·.image? c.toNat)).map Char.ofNat).getD c]

def upperChar (c : Char) : List Char :=
  if c.toNat < 0x80 then [c.toUpper] else mappedChar upperSequences upperRuns c

def lowerChar (c : Char) : List Char :=
  if c.toNat < 0x80 then [c.toLower] else mappedChar lowerSequences lowerRuns c

def isCased (c : Char) : Bool := casedRanges.any fun (first, last) => first ≤ c.toNat && c.toNat ≤ last

def isCaseIgnorable (c : Char) : Bool :=
  caseIgnorableRanges.any fun (first, last) => first ≤ c.toNat && c.toNat ≤ last

/-- Whether a cased character comes first, once the ignorable ones are looked through. -/
def meetsCased (s : List Char) : Bool :=
  match s.dropWhile isCaseIgnorable with
  | c :: _ => isCased c
  | [] => false

/-- `before` holds what has been read, the nearest character first. -/
def lowerFrom (before : List Char) : List Char → List Char
  | [] => []
  | c :: rest =>
    let here := if c = 'Σ' then [if meetsCased before && !meetsCased rest then 'ς' else 'σ'] else lowerChar c
    here ++ lowerFrom (c :: before) rest

def upper (s : String) : String := String.ofList (s.toList.flatMap upperChar)

def lower (s : String) : String := String.ofList (lowerFrom [] s.toList)

end Letterpress.Text
