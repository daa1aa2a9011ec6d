import Letterpress.Html.Fragment

/-! Writing call by call. A writer keeps what it has written and how deep it is: an opening line leads one level down, a
closing line leads back up, and no call leads above the top. -/
namespace Letterpress.Html

inductive Call
  | line (html : String)
  | content (raw : String)
  | opening (html : String)
  | closing (html : String)
  deriving DecidableEq, Repr

structure Writer where
  layout : Layout
  out : String
  depth : Nat

/-- A text in a line of its own behind what stands there. -/
def below (out text : String) : String := if out.isEmpty then text else out ++ "\n" ++ text

namespace Writer

def start (layout : Layout) (depth : Nat) : Writer := ⟨layout, "", depth⟩

def line (w : Writer) (html : String) : Writer :=
  match w.layout with
  | .indented => { w with out := below w.out (Fragment.indent w.depth html) }
  | .minified => { w with out := w.out ++ html }

def content (w : Writer) (raw : String) : Writer :=
  if raw.isEmpty then w
  else
    match w.layout with
    | .indented => w.line raw
    | .minified => { w with out := w.out ++ collapse (Text.trim raw) }

def opening (w : Writer) (html : String) : Writer := { w.line html with depth := w.depth + 1 }

/-- At the top the depth stays zero. -/
def closing (w : Writer) (html : String) : Writer := { w with depth := w.depth - 1 }.line html

/-- Takes over what another writer has written. -/
def embed (w : Writer) (part : String) : Writer :=
  if part.isEmpty then w
  else
    match w.layout with
    | .indented => { w with out := below w.out part }
    | .minified => { w with out := w.out ++ part }

def step (w : Writer) : Call → Writer
  | .line html => w.line html
  | .content raw => w.content raw
  | .opening html => w.opening html
  | .closing html => w.closing html

def run (w : Writer) (calls : List Call) : Writer := calls.foldl step w

end Writer
end Letterpress.Html
