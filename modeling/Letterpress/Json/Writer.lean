import Letterpress.Json.Basic

/-! Writing JSON without blanks. -/
namespace Letterpress.Json

def hexDigits (n : Nat) : List Char :=
  let digits := Nat.toDigits 16 n
  List.replicate (4 - digits.length) '0' ++ digits

def escapedChar (c : Char) : List Char :=
  match c with
  | '"' => ['\\', '"']
  | '\\' => ['\\', '\\']
  | '\x08' => ['\\', 'b']
  | '\x0c' => ['\\', 'f']
  | '\n' => ['\\', 'n']
  | '\r' => ['\\', 'r']
  | '\t' => ['\\', 't']
  | c => if c.toNat < 0x20 then '\\' :: 'u' :: hexDigits c.toNat else [c]

def quotedText (s : String) : String := String.ofList ('"' :: s.toList.flatMap escapedChar ++ ['"'])

mutual
def text : Json → String
  | null => "null"
  | bool true => "true"
  | bool false => "false"
  | number n => n.text
  | string s => quotedText s
  | array items => "[" ++ ",".intercalate (texts items) ++ "]"
  | object members => "\x7b" ++ ",".intercalate (memberTexts members) ++ "\x7d"

def texts : List Json → List String
  | [] => []
  | item :: items => text item :: texts items

def memberTexts : List (String × Json) → List String
  | [] => []
  | (key, value) :: members => (quotedText key ++ ":" ++ text value) :: memberTexts members
end

end Letterpress.Json
