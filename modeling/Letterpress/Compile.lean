import Letterpress.Html.Page
import Letterpress.Markup.Assembly

/-! Setting a document: its source is read into a tree, and the tree is laid out as a page. -/
namespace Letterpress

structure CompileOptions where
  minify : Bool := false
  deriving DecidableEq, Repr

def CompileOptions.layout (options : CompileOptions) : Html.Layout := if options.minify then .minified else .indented

/-- The HTML of a document, or the first thing wrong with it. -/
def compile (options : CompileOptions) (source : String) : Except Markup.CompileError String :=
  match Markup.Element.ofSource source.toList with
  | .ok root => .ok (options.layout.set (Html.page root))
  | .error misprint => .error (misprint.report source.toList)

end Letterpress
