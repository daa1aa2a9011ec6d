import Letterpress.Decimal.Reader
import Letterpress.Setting.Basic
import Letterpress.Text.Blank
import Letterpress.Text.LetterCase
import Letterpress.Text.Search

/-! The environment, and the settings in it. Their names begin with `MAILER__` and have two underscores where a path has
a point; case does not matter. -/
namespace Letterpress
open Letterpress.Text

/-- Names and values, in the order in which they were set. -/
abbrev Environment := List (String × String)

namespace Environment

/-- Two underscores make a point. -/
def dotted : List Char → List Char
  | '_' :: '_' :: s => '.' :: dotted s
  | c :: s => c :: dotted s
  | [] => []

/-- The path that a name stands for, if it names a setting. -/
def key? (name : String) : Option String :=
  (stripLead? "mailer__".toList (lower name).toList).map fun rest => String.ofList (dotted rest)

def origin : Option String := some "the environment"

/-- A value is a flag or a number if it reads as one. Commas separate origins. -/
def setting (key value : String) : Setting :=
  let word := lower value
  if word = "true" then .scalar origin (.flag true)
  else if word = "false" then .scalar origin (.flag false)
  else
    match Decimal.signed? value.toList with
    | some n => .scalar origin (.int n)
    | none =>
      match Decimal.float? value.toList with
      | some x => .scalar origin (.float x)
      | none =>
        if key = "server.cors_origins" then
          .list origin ((fields (· == ',') value.toList).map fun s => .scalar origin (.text (String.ofList s)))
        else .scalar origin (.text value)

/-- The settings, by their paths. Of two names that differ in case the later counts. -/
def settings (environment : Environment) : List (String × Setting) :=
  Keyed.ofList (environment.filterMap fun (name, value) => (key? name).map fun key => (key, setting key value))

end Environment

end Letterpress
