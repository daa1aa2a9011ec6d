/-! Templates: what a mail document is called, where its markup is kept, and which values have to be injected into it. -/
namespace Letterpress

inductive Injection.Kind
  | text
  | radio
  deriving DecidableEq, Repr

def Injection.Kind.name : Injection.Kind → String
  | text => "text"
  | radio => "radio"

/-- A value that a template asks for. Only a radio injection has options, one of which is to be chosen. -/
structure Injection where
  name : String
  label : String
  kind : Injection.Kind
  options : List String
  deriving DecidableEq, Repr

/-- A value that somebody supplies for an injection. What it says about label and options is not heeded. -/
structure Supply where
  name : String
  label : Option String
  kind : Injection.Kind
  options : List String
  data : String
  deriving DecidableEq, Repr

structure Template where
  id : String
  name : String
  source : String
  description : Option String
  injections : List Injection
  deriving DecidableEq, Repr

namespace Template

def injection? (t : Template) (name : String) : Option Injection := t.injections.find? (·.name == name)

end Template

inductive TemplateError
  | notFound (id : String)
  | invalidId (reason : String)
  | invalidTemplate (reason : String)
  | unreadable (id reason : String)
  | badCatalog (reason : String)
  deriving DecidableEq, Repr

def TemplateError.message : TemplateError → String
  | notFound id => "Template not found: " ++ id
  | invalidId reason => "Invalid template ID: " ++ reason
  | invalidTemplate reason => "Invalid template: " ++ reason
  | unreadable id reason => "Failed to read template " ++ id ++ ": " ++ reason
  | badCatalog reason => "Invalid template catalog: " ++ reason

end Letterpress
