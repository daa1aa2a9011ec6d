import Letterpress.Json.Basic
import Letterpress.Template.Basic
import Letterpress.Text.Blank

/-! A request to render a template: for whom, by whom, and with which values. -/
namespace Letterpress

structure Recipient where
  email : String
  name : Option String
  deriving DecidableEq, Repr

/-- The user who composes the mail: any attributes, in the order of their keys. -/
structure User where
  attributes : List (String × Json)

namespace User

def text? (user : User) (key : String) : Option String :=
  match Keyed.lookup? key user.attributes with
  | some (.string s) => if Text.isBlankText s then none else some s
  | _ => none

def name? (user : User) : Option String := user.text? "name"

def email? (user : User) : Option String := user.text? "email"

end User

/-- Form fields are in the order of their keys. -/
structure RenderRequest where
  templateId : String
  supplies : List Supply
  fields : List (String × String)
  user : User
  recipients : List Recipient

def Recipient.toJson (r : Recipient) : Json :=
  .mk (("email", .string r.email) :: match r.name with
    | some name => [("name", .string name)]
    | none => [])

end Letterpress
