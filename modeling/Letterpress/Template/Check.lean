import Letterpress.Template.Basic
import Letterpress.Text.Blank

/-! Which templates are sound: how they may be called, where their markup may be kept, and what their injections may be.
Lengths are those of the UTF-8 text. -/
namespace Letterpress

inductive IdFlaw
  | length
  | characters
  deriving DecidableEq, Repr

def IdFlaw.message : IdFlaw → String
  | length => "ID must be 1-64 characters"
  | characters => "ID must contain only alphanumeric, dash, or underscore"

def isIdChar (c : Char) : Bool := c.isAlphanum || c == '-' || c == '_'

def idFlaw? (id : String) : Option IdFlaw :=
  if id.utf8ByteSize = 0 ∨ 64 < id.utf8ByteSize then some .length
  else if id.toList.all isIdChar then none
  else some .characters

def segments (path : String) : List String := (Text.fields (· == '/') path.toList).map String.ofList

/-- Whether a path stays below the place that it starts from: it is not absolute, does not begin with a dot of its own,
and never goes up. -/
def staysInside (path : String) : Bool :=
  match segments path with
  | first :: others => first ≠ "" && first ≠ "." && (first :: others).all (· ≠ "..")
  | [] => false

inductive Flaw
  | id (flaw : IdFlaw)
  | name
  | source
  | unnamed (index : Nat)
  | repeated (name : String)
  | noOptions (name : String)
  | optionsOnText (name : String)
  deriving DecidableEq, Repr

/-- What is wrong with the options of an injection. -/
def Injection.flaw? (i : Injection) : Option Flaw :=
  match i.kind with
  | .radio => if i.options.isEmpty then some (.noOptions i.name) else none
  | .text => if i.options.isEmpty then none else some (.optionsOnText i.name)

/-- The first flaw among injections, behind others with the names `earlier`. -/
def injectionsFlaw? (earlier : List String) : List Injection → Option Flaw
  | [] => none
  | i :: rest =>
    if i.name = "" then some (.unnamed earlier.length)
    else if earlier.contains i.name then some (.repeated i.name)
    else (i.flaw?).or (injectionsFlaw? (earlier ++ [i.name]) rest)

def Template.flaw? (t : Template) : Option Flaw :=
  match idFlaw? t.id with
  | some flaw => some (.id flaw)
  | none =>
    if t.name.utf8ByteSize = 0 ∨ 256 < t.name.utf8ByteSize then some .name
    else if staysInside t.source then injectionsFlaw? [] t.injections
    else some .source

def Flaw.error (id : String) : Flaw → TemplateError
  | .id flaw => .invalidId flaw.message
  | .name => .invalidTemplate (id ++ ": name must be 1-256 characters")
  | .source => .invalidTemplate (id ++ ": source must be a relative path inside the template root")
  | .unnamed index => .invalidTemplate (id ++ ": injection #" ++ toString index ++ " has an empty name")
  | .repeated i => .invalidTemplate (id ++ ": duplicate injection name `" ++ i ++ "`")
  | .noOptions i => .invalidTemplate (id ++ ": radio injection `" ++ i ++ "` declares no options")
  | .optionsOnText i => .invalidTemplate (id ++ ": text injection `" ++ i ++ "` cannot declare options")

def checkId (id : String) : Except TemplateError Unit :=
  match idFlaw? id with
  | some flaw => .error (.invalidId flaw.message)
  | none => .ok ()

def Template.check (t : Template) : Except TemplateError Unit :=
  match t.flaw? with
  | some flaw => .error (flaw.error t.id)
  | none => .ok ()

end Letterpress
