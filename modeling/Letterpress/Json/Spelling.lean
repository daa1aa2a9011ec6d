import Letterpress.Json.Fault
import Letterpress.Text.HexDigit
import Letterpress.Text.Position

/-! JSON texts in quotes. A text can be well formed and still have no characters: an escape may be half of a pair. -/
namespace Letterpress.Json
open Letterpress.Text

/-- A text in quotes: its characters, or why it has none. -/
abbrev Spelling := Except Fault String

def scanUnit (s : List Char) : Except Fault (Nat × List Char) :=
  if byteLength s < 4 then .error .endInString
  else
    match s with
    | a :: b :: c :: d :: rest =>
      match hexNumber? [a, b, c, d] with
      | some unit => .ok (unit, rest)
      | none => .error .invalidEscape
    | _ => .error .invalidEscape

def simpleEscape? (c : Char) : Option Char :=
  match c with
  | '"' => some '"'
  | '\\' => some '\\'
  | '/' => some '/'
  | 'b' => some '\x08'
  | 'f' => some '\x0c'
  | 'n' => some '\n'
  | 'r' => some '\r'
  | 't' => some '\t'
  | _ => none

/-- What an escape stands for: a character, nothing because half a pair is missing, or a tear; and the rest. -/
def scanEscape (s : List Char) : Except Fault (Except Fault Char × List Char) :=
  match s with
  | [] => .error .endInString
  | 'u' :: s => do
    let (unit, rest) ← scanUnit s
    if 0xdc00 ≤ unit ∧ unit ≤ 0xdfff then return (.error .loneSurrogate, rest)
    else if unit < 0xd800 ∨ 0xdbff < unit then return (.ok (Char.ofNat unit), rest)
    else
      match rest with
      | [] => throw .endInString
      | ['\\'] => throw .endInString
      | '\\' :: 'u' :: behind =>
        let (second, rest) ← scanUnit behind
        if second < 0xdc00 ∨ 0xdfff < second then return (.error .loneSurrogate, rest)
        else return (.ok (Char.ofNat ((unit - 0xd800) * 0x400 + (second - 0xdc00) + 0x10000)), rest)
      | rest => return (.error .cutSurrogate, rest)
  | c :: rest =>
    match simpleEscape? c with
    | some x => .ok (.ok x, rest)
    | none => .error .invalidEscape

def scanText (sofar : Except Fault (List Char)) : Nat → List Char → Except Tear (Spelling × List Char)
  | 0, _ => .error (.both .endInString)
  | fuel + 1, s =>
    let torn := fun fault : Fault =>
      (⟨match sofar with | .ok _ => fault | .error earlier => earlier, fault⟩ : Tear)
    match s with
    | [] => .error (torn .endInString)
    | '"' :: rest => .ok (sofar.map fun cs => String.ofList cs.reverse, rest)
    | '\\' :: rest =>
      match scanEscape rest with
      | .error fault => .error (torn fault)
      | .ok (c, rest) =>
        scanText (match sofar, c with
          | .ok cs, .ok c => .ok (c :: cs)
          | .ok _, .error fault => .error fault
          | .error fault, _ => .error fault) fuel rest
    | c :: rest =>
      if c.toNat < 0x20 then .error (torn .controlCharacter)
      else scanText (sofar.map (c :: ·)) fuel rest

def scanString (s : List Char) : Except Tear (Spelling × List Char) := scanText (.ok []) (s.length + 1) s

end Letterpress.Json
