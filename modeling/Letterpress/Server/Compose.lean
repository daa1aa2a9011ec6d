import Letterpress.Request.Form
import Letterpress.Server.MediaType
import Letterpress.Server.Problem

/-! The body of a request to preview or send: a form, the user who fills it in, and the recipients. -/
namespace Letterpress.Server
open Json (Fields Reader)
open Json.Fields (need withDefault)

/-- A template with its injected values; what else is in the form are its fields. -/
structure Form where
  templateId : String
  supplies : List Supply
  fields : List (String × Json)

structure Composition where
  form : Form
  user : User
  recipients : List Recipient
  acknowledged : Option Nat

def Form.reader : Reader Form :=
  .map (fun ((id, supplies), fields) => ⟨id, supplies, fields⟩)
    (.openRecord "ComposeForm"
      (Prod.mk <$> need "templateId" .text <*> withDefault "injections" [] (.list Supply.reader)))

def Composition.reader : Reader Composition :=
  .record "ComposeRequest"
    (Composition.mk <$> need "form" Form.reader <*> withDefault "currentUser" ⟨[]⟩ User.reader <*>
      withDefault "recipients" [] (.list Recipient.reader) <*>
      withDefault "confirmedRecipientCount" none (.optional .count))

/-- The text of a form field; nothing for one that is null. -/
def fieldText (key : String) : Json → Except Problem (Option String)
  | .null => .ok none
  | .string s => .ok (some s)
  | .bool b => .ok (some (if b then "true" else "false"))
  | .number n => .ok (some n.text)
  | .array _ | .object _ =>
    .error (.validation ("form field `" ++ key ++ "` must be a string, number or boolean"))

def fieldTexts : List (String × Json) → Except Problem (List (String × String))
  | [] => .ok []
  | (key, value) :: fields => do
    let text ← fieldText key value
    let texts ← fieldTexts fields
    return match text with
      | some text => (key, text) :: texts
      | none => texts

def Composition.request (c : Composition) : Except Problem RenderRequest := do
  let fields ← fieldTexts c.form.fields
  return ⟨c.form.templateId, c.form.supplies, fields, c.user, c.recipients⟩

/-- The greatest body that is ever taken, in bytes. -/
def greatestBody : Nat := 2097152

/-- What is wrong with a body that is no value of the kind asked for. -/
def bodyProblem (m : Json.Misfit) : Problem :=
  match m.objection with
  | .fault _ => .validation ("Failed to parse the request body as JSON: " ++ m.text)
  | _ => .validation ("Failed to deserialize the JSON body into the target type: " ++ m.text)

/-- Reads the body of a request, of which `allowance` bytes are let through. -/
def readBody {α : Type} (reader : Reader α) (allowance : Nat) (r : Request) : Except Problem α :=
  if !saysJson r then .error (.validation "Expected request with `Content-Type: application/json`")
  else if min allowance greatestBody < r.body.utf8ByteSize then
    .error (.validation "Failed to buffer the request body: length limit exceeded")
  else (Reader.ofText reader r.body).mapError bodyProblem

end Letterpress.Server
