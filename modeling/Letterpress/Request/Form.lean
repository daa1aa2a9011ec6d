import Letterpress.Request.Basic
import Letterpress.Template.Form

/-! The JSON forms of recipients and requests. -/
namespace Letterpress
open Json (Draft Fields Reader Spelling)
open Json.Fields (need withDefault)

namespace Recipient

def membersNamed (key : String) (members : List (Spelling × Draft)) : List Draft :=
  members.filterMap fun (name, d) =>
    match name with
    | .ok name => if name = key then some d else none
    | .error _ => none

/-- The recipient that a whole draft is: an address, or an object with one, and perhaps a name. -/
def ofDraft? : Draft → Option Recipient
  | .string (.ok email) => some ⟨email, none⟩
  | .object members _ =>
    match membersNamed "email" members, membersNamed "name" members with
    | [.string (.ok email)], [] => some ⟨email, none⟩
    | [.string (.ok email)], [.null] => some ⟨email, none⟩
    | [.string (.ok email)], [.string (.ok name)] => some ⟨email, some name⟩
    | _, _ => none
  | _ => none

/-- A recipient is read as any value first. -/
def reader : Reader Recipient := fun m d => do
  let _ ← Reader.anything m d
  match ofDraft? d with
  | some r => return r
  | none => Json.raise (.noAlternative "RecipientRepr")

end Recipient

def User.reader : Reader User := Reader.map User.mk (.table .anything)

namespace RenderRequest

def reader : Reader RenderRequest :=
  .record "RenderRequest"
    (RenderRequest.mk <$> need "templateId" .text <*> withDefault "injections" [] (.list Supply.reader) <*>
      withDefault "fields" [] (.table .text) <*> withDefault "currentUser" ⟨[]⟩ User.reader <*>
      withDefault "recipients" [] (.list Recipient.reader))

def toJson (r : RenderRequest) : Json :=
  .mk [("templateId", .string r.templateId), ("injections", .array (r.supplies.map Supply.toJson)),
    ("fields", .object (r.fields.map fun (key, value) => (key, .string value))),
    ("currentUser", .object r.user.attributes), ("recipients", .array (r.recipients.map Recipient.toJson))]

end RenderRequest

end Letterpress
