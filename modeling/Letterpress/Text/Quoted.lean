import Letterpress.Text.Unprintable

/-! A text shown between double quotes, so that nothing in it can be mistaken for something else: the quote, the
backslash and the common controls are written with a backslash, other unprintable characters by number. -/
namespace Letterpress.Text

def quotedChar (c : Char) : List Char :=
  match c with
  | '\x00' => ['\\', '0']
  | '\t' => ['\\', 't']
  | '\n' => ['\\', 'n']
  | '\r' => ['\\', 'r']
  | '"' => ['\\', '"']
  | '\\' => ['\\', '\\']
  | c => if isUnprintable c then '\\' :: 'u' :: '\x7b' :: Nat.toDigits 16 c.toNat ++ ['\x7d'] else [c]

def quoted (s : String) : String := String.ofList ('"' :: s.toList.flatMap quotedChar ++ ['"'])

end Letterpress.Text
