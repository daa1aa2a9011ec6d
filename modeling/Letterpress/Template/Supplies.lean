import Letterpress.Template.Basic

/-! Whether the values supplied for a template are those it asks for: each injection gets one value, of its kind, and a
radio value is one of the options. Values are matched by name, in any order. -/
namespace Letterpress

/-- What can be wrong between a template and the values injected into it. Its text with placeholders may be no template,
or stop in the middle of being filled. -/
inductive InjectionError
  | malformed (reason : String)
  | unfilled (reason : String)
  | missing (name : String)
  | undeclared (name : String)
  | repeated (name : String)
  | wrongKind (name expected found : String)
  | notAnOption (name value : String) (options : List String)
  deriving DecidableEq, Repr

def InjectionError.message : InjectionError → String
  | malformed reason => "Template syntax error: " ++ reason
  | unfilled reason => "Template render error: " ++ reason
  | missing name => "Missing value for injection `" ++ name ++ "`"
  | undeclared name => "Injection `" ++ name ++ "` is not declared by the template"
  | repeated name => "Injection `" ++ name ++ "` was supplied more than once"
  | wrongKind name expected found => "Injection `" ++ name ++ "` is declared as " ++ expected ++ ", got " ++ found
  | notAnOption name value options =>
    "Value `" ++ value ++ "` is not an option of injection `" ++ name ++ "` (allowed: " ++ ", ".intercalate options ++
      ")"

namespace Template

/-- What is wrong with a value, after values with the names `earlier`. -/
def supplyError? (t : Template) (earlier : List String) (s : Supply) : Option InjectionError :=
  match t.injection? s.name with
  | none => some (.undeclared s.name)
  | some i =>
    if earlier.contains s.name then some (.repeated s.name)
    else if i.kind ≠ s.kind then some (.wrongKind s.name i.kind.name s.kind.name)
    else if i.kind = .radio ∧ !i.options.contains s.data then some (.notAnOption s.name s.data i.options)
    else none

def suppliesError? (t : Template) (earlier : List String) : List Supply → Option InjectionError
  | [] => none
  | s :: rest => (t.supplyError? earlier s).or (t.suppliesError? (earlier ++ [s.name]) rest)

def unsupplied? (t : Template) (supplies : List Supply) : Option Injection :=
  t.injections.find? fun i => !supplies.any (·.name == i.name)

def checkSupplies (t : Template) (supplies : List Supply) : Except InjectionError Unit :=
  match t.suppliesError? [] supplies with
  | some e => .error e
  | none =>
    match t.unsupplied? supplies with
    | some i => .error (.missing i.name)
    | none => .ok ()

end Template

end Letterpress
