import Letterpress.Json.Value

/-! What values do in a template: print, count as true or false, equal each other, and come before one another. -/
namespace Letterpress.Placeholder

/-- The characters that have a meaning in HTML, as entities. -/
def escapedChar (c : Char) : List Char :=
  match c with
  | '<' => "&lt;".toList
  | '>' => "&gt;".toList
  | '"' => "&quot;".toList
  | '&' => "&amp;".toList
  | '\'' => "&#x27;".toList
  | '`' => "&#x60;".toList
  | '=' => "&#x3D;".toList
  | c => [c]

def escapeHtml (s : String) : String := String.ofList (s.toList.flatMap escapedChar)

mutual
def printed : Json → String
  | .null => ""
  | .bool b => if b then "true" else "false"
  | .number n => n.text
  | .string s => s
  | .array items => "[" ++ ", ".intercalate (printedItems items) ++ "]"
  | .object _ => "[object]"

def printedItems : List Json → List String
  | [] => []
  | item :: items => printed item :: printedItems items
end

/-- A number counts as true unless it is zero or so small that it has lost digits. -/
def isNormal : Json.Number → Bool
  | .int n => n ≠ 0
  | .float x =>
    match Decimal.parts x with
    | .finite _ m _ => Decimal.twoTo 52 ≤ m
    | _ => false

def isTruthy (includeZero : Bool) : Json → Bool
  | .null => false
  | .bool b => b
  | .number n => includeZero || isNormal n
  | .string s => !s.isEmpty
  | .array items => !items.isEmpty
  | .object members => !members.isEmpty

def sameNumber : Json.Number → Json.Number → Bool
  | .int m, .int n => m == n
  | .float x, .float y => x == y
  | _, _ => false

mutual
/-- Equality. A whole number never equals a double. -/
def same : Json → Json → Bool
  | .null, .null => true
  | .bool a, .bool b => a == b
  | .number m, .number n => sameNumber m n
  | .string s, .string t => s == t
  | .array xs, .array ys => sameItems xs ys
  | .object xs, .object ys => sameMembers xs ys
  | _, _ => false

def sameItems : List Json → List Json → Bool
  | [], [] => true
  | x :: xs, y :: ys => same x y && sameItems xs ys
  | _, _ => false

def sameMembers : List (String × Json) → List (String × Json) → Bool
  | [], [] => true
  | (k, x) :: xs, (l, y) :: ys => k == l && same x y && sameMembers xs ys
  | _, _ => false
end

def fraction? : Json.Number → Option (Int × Nat)
  | .int n => some (n, 1)
  | .float x =>
    match Decimal.parts x with
    | .finite negative m e =>
      let numerator : Int := if 0 ≤ e then m * Decimal.twoTo e.toNat else m
      some (if negative then -numerator else numerator, if 0 ≤ e then 1 else Decimal.twoTo (-e).toNat)
    | _ => none

def compareNumbers? (m n : Json.Number) : Option Ordering := do
  let (a, b) ← fraction? m
  let (c, d) ← fraction? n
  return compare (a * d) (c * b)

/-- The number that a text is, if it is one from end to end. -/
def numberOfText? (s : String) : Option Json.Number :=
  let read := match s.toList with
    | '-' :: rest => Json.scanNumber true rest
    | rest => Json.scanNumber false rest
  match read with
  | .ok (.ok n, []) => some n
  | _ => none

/-- The order of two values: numbers and texts that are numbers by size, texts by code points, and `false` before
`true`. Other values are in no order. -/
def compare? : Json → Json → Option Ordering
  | .number m, .number n => compareNumbers? m n
  | .string s, .string t => some (compare s t)
  | .bool a, .bool b => some (compare a b)
  | .number m, .string t => (numberOfText? t).bind (compareNumbers? m)
  | .string s, .number n => (numberOfText? s).bind (compareNumbers? · n)
  | _, _ => none

end Letterpress.Placeholder
