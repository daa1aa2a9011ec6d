import Letterpress.Html.Collapse

/-! Pieces of a page, and how they are set. A page is lines, content taken over as it is, and blocks with an opening and
a closing line around other pieces. Indented, every line stands on its own behind two spaces for each block around
it; minified, lines follow each other without a break and content has its blanks collapsed. -/
namespace Letterpress.Html

inductive Layout
  | indented
  | minified
  deriving DecidableEq, Repr

inductive Fragment
  | line (html : String)
  | content (raw : String)
  | block (opening : String) (inside : List Fragment) (closing : String)

namespace Fragment

def indent (depth : Nat) (html : String) : String := String.ofList (List.replicate (2 * depth) ' ') ++ html

mutual
/-- The lines of a fragment inside `depth` blocks. Empty content makes no line. -/
def lines (depth : Nat) : Fragment → List String
  | line html => [indent depth html]
  | content raw => if raw.isEmpty then [] else [indent depth raw]
  | block opening inside closing =>
    indent depth opening :: allLines (depth + 1) inside ++ [indent depth closing]

def allLines (depth : Nat) : List Fragment → List String
  | [] => []
  | fragment :: rest => lines depth fragment ++ allLines depth rest
end

mutual
def joined : Fragment → String
  | line html => html
  | content raw => collapse (Text.trim raw)
  | block opening inside closing => opening ++ allJoined inside ++ closing

def allJoined : List Fragment → String
  | [] => ""
  | fragment :: rest => joined fragment ++ allJoined rest
end

/-- Blocks around blocks, the first frame outermost. -/
def nest (frames : List (String × String)) (inside : List Fragment) : List Fragment :=
  frames.foldr (fun (opening, closing) inside => [.block opening inside closing]) inside

end Fragment

def Layout.set (layout : Layout) (page : List Fragment) : String :=
  match layout with
  | .indented => "\n".intercalate (Fragment.allLines 0 page)
  | .minified => Fragment.allJoined page

end Letterpress.Html
