/-! Places in a source text. A place is found from a byte offset: lines end at a line feed, columns count characters,
and an offset inside a character or past the end falls back to the nearest character boundary before it. -/
namespace Letterpress

structure Position where
  line : Nat
  column : Nat
  deriving DecidableEq, Repr

namespace Position

def start : Position := ⟨1, 1⟩

/-- The place after `c`, when `c` stands at `place`. -/
def advance (place : Position) (c : Char) : Position :=
  if c = '\n' then ⟨place.line + 1, 1⟩ else ⟨place.line, place.column + 1⟩

/-- The characters that lie whole in the first `offset` bytes of `source`. -/
def charsBefore : List Char → Nat → List Char
  | [], _ => []
  | c :: source, offset =>
    if c.utf8Size ≤ offset then c :: charsBefore source (offset - c.utf8Size) else []

/-- The place of the character that holds the byte at `offset`. -/
def ofOffset (source : List Char) (offset : Nat) : Position :=
  (charsBefore source offset).foldl advance start

def text (place : Position) : String :=
  "line " ++ toString place.line ++ ", column " ++ toString place.column

end Position

def Text.byteLength : List Char → Nat
  | [] => 0
  | c :: s => c.utf8Size + byteLength s

end Letterpress
