import Letterpress.Compile
import Letterpress.Placeholder.Fill
import Letterpress.Request.Context
import Letterpress.Store.Basic
import Letterpress.Template.Supplies

/-! Plates: a template as it is printed from, with its definition and its page, whose placeholders have been read. What
goes wrong first, from the store to the filled page, is what is reported. -/
namespace Letterpress

inductive PressError
  | notFound (id : String)
  | unreadable (id reason : String)
  | misset (error : Markup.CompileError)
  | injection (error : InjectionError)
  deriving DecidableEq, Repr

namespace PressError

def message : PressError → String
  | notFound id => "Template not found: " ++ id
  | unreadable id reason => "Failed to read template " ++ id ++ ": " ++ reason
  | misset e => "Markup error at " ++ e.text
  | injection e => e.message

def kind : PressError → String
  | notFound _ => "not_found"
  | unreadable _ _ => "io"
  | misset _ => "compile"
  | injection _ => "injection"

/-- What an error of the store means for the template with this id. -/
def ofTemplateError (id : String) : TemplateError → PressError
  | .notFound _ | .invalidId _ => .notFound id
  | .unreadable id reason => .unreadable id reason
  | e => .unreadable id e.message

end PressError

structure Plate where
  definition : Template
  page : Placeholder.Template

/-- A rendered page, and the namespace that its placeholders were looked up in. -/
structure Rendered where
  templateId : String
  html : String
  context : List (String × Json)

namespace Plate

def readPage (html : String) : Except InjectionError Placeholder.Template :=
  (Placeholder.Template.ofSource html).mapError fun e => .malformed e.message

def fillPage (page : Placeholder.Template) (data : Json) : Except InjectionError String :=
  (page.fill data).mapError fun e => .unfilled e.message

def ofMarkup (definition : Template) (markup : String) : Except PressError Plate := do
  let html ← (compile ⟨true⟩ markup).mapError .misset
  let page ← (readPage html).mapError .injection
  return ⟨definition, page⟩

def make (store : Store) (disk : Disk) (id : String) : Except PressError Plate := do
  let definition ← (store.definition id).mapError (.ofTemplateError id)
  let markup ← (store.load disk id).mapError (.ofTemplateError id)
  ofMarkup definition markup

def print (plate : Plate) (request : RenderRequest) : Except PressError Rendered := do
  (plate.definition.checkSupplies request.supplies).mapError .injection
  let html ← (fillPage plate.page (.object request.context)).mapError .injection
  return ⟨request.templateId, html, request.context⟩

end Plate

end Letterpress
