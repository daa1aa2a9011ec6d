import Letterpress.Json.Record
import Letterpress.Template.Basic

/-! The JSON forms of templates, their injections and what is supplied for them. -/
namespace Letterpress
open Json (Fields Reader)
open Json.Fields (need withDefault)

namespace Injection

def Kind.reader : Reader Kind := .choice [("text", .text), ("radio", .radio)]

def reader : Reader Injection :=
  .record "InjectionSpec"
    (Injection.mk <$> need "name" .text <*> need "displayName" .text <*> need "type" Kind.reader <*>
      withDefault "options" [] (.list .text))

def toJson (i : Injection) : Json :=
  .mk ([("name", .string i.name), ("displayName", .string i.label), ("type", .string i.kind.name)] ++
    if i.options.isEmpty then [] else [("options", .array (i.options.map .string))])

end Injection

namespace Supply

def reader : Reader Supply :=
  .record "InjectionValue"
    (Supply.mk <$> need "name" .text <*> withDefault "displayName" none (.optional .text) <*>
      need "type" Injection.Kind.reader <*> withDefault "options" [] (.list .text) <*> withDefault "data" "" .text)

def toJson (s : Supply) : Json :=
  .mk ([("name", .string s.name), ("type", .string s.kind.name), ("options", .array (s.options.map .string)),
      ("data", .string s.data)] ++
    match s.label with
    | some label => [("displayName", .string label)]
    | none => [])

end Supply

namespace Template

def reader : Reader Template :=
  .record "Template"
    (Template.mk <$> need "id" .text <*> need "name" .text <*> need "source" .text <*>
      withDefault "description" none (.optional .text) <*> withDefault "injections" [] (.list Injection.reader))

def toJson (t : Template) : Json :=
  .mk ([("id", .string t.id), ("name", .string t.name), ("source", .string t.source),
      ("injections", .array (t.injections.map Injection.toJson))] ++
    match t.description with
    | some description => [("description", .string description)]
    | none => [])

/-- A list of templates, as it is kept beside their markup. -/
def catalogReader : Reader (List Template) :=
  .record "TemplateCatalog" (withDefault "templates" [] (.list reader))

end Template

end Letterpress
