import Letterpress.Json.Basic

/-! The language of placeholders: what may stand between double braces. -/
namespace Letterpress.Placeholder

/-- A way to a value: from the root of the data, from a variable of a loop, or from `ups` scopes above the current one;
then by name. Steps that stay where they are have been dropped. -/
structure Path where
  raw : String
  fromRoot : Bool
  ofLoop : Bool
  ups : Nat
  names : List String
  deriving DecidableEq, Repr

mutual
/-- A literal has no value if its text is no JSON. -/
inductive Term
  | word (name : String)
  | path (path : Path)
  | literal (source : String) (value : Option Json)
  | call (name : Term) (arguments : List Argument)

/-- An argument with a key is an option of the call, one without has a position. -/
inductive Argument
  | mk (key : Option String) (value : Term)
end

instance : Inhabited Term := ⟨.word ""⟩

/-- A name with its arguments, in the order of the source. -/
structure Call where
  name : Term
  arguments : List Argument

/-- Every form of a tag. A block, a decoration or an inclusion with a body is opened and closed by tags of its own, and
so is a verbatim block. A closing tag may leave the name out. -/
inductive Tag
  | print (escaped : Bool) (call : Call)
  | comment
  | openBlock (call : Call) (locals : List String)
  | orElse
  | orElseCall (call : Call) (locals : List String)
  | decorate (call : Call)
  | openDecoration (call : Call)
  | «include» (call : Call)
  | openInclusion (call : Call)
  | close (name : String)
  | openVerbatim (call : Call) (locals : List String)
  | closeVerbatim (name : String)

/-- A tag, and whether it trims the text before and after it. A comment says nothing about the text after it. -/
structure Mark where
  tag : Tag
  trimsBefore : Bool
  trimsAfter : Bool

def Argument.key? : Argument → Option String
  | .mk key _ => key

mutual
/-- The source of the first literal that has no value. -/
def Term.invalid? : Term → Option String
  | .literal source none => some source
  | .call name arguments => (name.invalid?).or (invalidAmong? arguments)
  | _ => none

def Argument.invalid? : Argument → Option String
  | .mk _ value => value.invalid?

def invalidAmong? : List Argument → Option String
  | [] => none
  | argument :: arguments => (argument.invalid?).or (invalidAmong? arguments)
end

def Call.invalid? (call : Call) : Option String := (call.name.invalid?).or (invalidAmong? call.arguments)

def Tag.call? : Tag → Option Call
  | print _ call | openBlock call _ | orElseCall call _ | decorate call | openDecoration call | «include» call
  | openInclusion call | openVerbatim call _ => some call
  | _ => none

def Term.name? : Term → Option String
  | .word name => some name
  | .path p => some p.raw
  | _ => none

end Letterpress.Placeholder
