import Letterpress.Json.Draft
import Letterpress.Text.Quoted

/-! Why a draft is not what its reader expects, and where in it. -/
namespace Letterpress.Json
open Letterpress.Text

/-- A step into a value. The step to a member without a readable key is unnamed. -/
inductive Step
  | key (name : String)
  | item (index : Nat)
  | unnamed
  deriving DecidableEq, Repr

inductive Objection
  | fault (fault : Fault)
  | wrongKind (found expected : String)
  | wrongValue (found expected : String)
  | wrongCount (count : Nat) (expected : String)
  | unknownChoice (found : String) (choices : List String)
  | missingMember (name : String)
  | repeatedMember (name : String)
  | noAlternative (name : String)
  deriving DecidableEq, Repr

structure Misfit where
  path : List Step
  objection : Objection
  deriving DecidableEq, Repr

/-- A choice as it is offered: the last two are joined by a word, if there are only two. -/
def offered (choices : List String) : String :=
  match choices.map fun choice => "`" ++ choice ++ "`" with
  | [] => "there are no variants"
  | [choice] => "expected " ++ choice
  | [one, other] => "expected " ++ one ++ " or " ++ other
  | many => "expected one of " ++ ", ".intercalate many

def Objection.message : Objection → String
  | fault f => f.message
  | wrongKind found expected => "invalid type: " ++ found ++ ", expected " ++ expected
  | wrongValue found expected => "invalid value: " ++ found ++ ", expected " ++ expected
  | wrongCount count expected => "invalid length " ++ toString count ++ ", expected " ++ expected
  | unknownChoice found choices => "unknown variant `" ++ found ++ "`, " ++ offered choices
  | missingMember name => "missing field `" ++ name ++ "`"
  | repeatedMember name => "duplicate field `" ++ name ++ "`"
  | noAlternative name => "data did not match any variant of untagged enum " ++ name

/-- The text of a step; keys are set off from what is before them. -/
def Step.text (first : Bool) : Step → String
  | .item index => "[" ++ toString index ++ "]"
  | .key name => (if first then "" else ".") ++ name
  | .unnamed => if first then "?" else ".?"

def pathText : List Step → String
  | [] => ""
  | step :: steps => step.text true ++ String.join (steps.map (Step.text false))

/-- The objection behind its path, unless the path says nothing. -/
def Misfit.text (m : Misfit) : String :=
  if m.path.all (· == .unnamed) then m.objection.message else pathText m.path ++ ": " ++ m.objection.message

def Misfit.under (step : Step) (m : Misfit) : Misfit := { m with path := step :: m.path }

def along {α : Type} (step : Step) (x : Except Misfit α) : Except Misfit α := x.mapError (·.under step)

/-- Looks at the value of a member. Where there is none, the object itself is looked at. -/
def alongMember {α : Type} (key : String) (value : Draft) (x : Except Misfit α) : Except Misfit α :=
  match value with
  | .missing _ => x
  | _ => along (.key key) x

def raise {α : Type} (objection : Objection) : Except Misfit α := .error ⟨[], objection⟩

def raiseFault {α : Type} (fault : Fault) : Except Misfit α := .error ⟨[], .fault fault⟩

def Number.described : Number → String
  | .int n => "integer `" ++ toString n ++ "`"
  | .float x => "floating point `" ++ Number.text (.float x) ++ "`"

/-- What a draft is called when it is of the wrong kind. Of a list or an object only the beginning is seen. -/
def Draft.described : Draft → Except Fault String
  | .null => .ok "null"
  | .bool b => .ok (if b then "boolean `true`" else "boolean `false`")
  | .number n => n.map Number.described
  | .string s => s.map fun s => "string " ++ quoted s
  | .array _ _ => .ok "sequence"
  | .object _ _ => .ok "map"
  | .torn tear | .missing tear => .error tear.read

def refuse {α : Type} (expected : String) (d : Draft) : Except Misfit α :=
  match d.described with
  | .ok found => raise (.wrongKind found expected)
  | .error fault => raiseFault fault

end Letterpress.Json
