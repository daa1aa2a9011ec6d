import Letterpress.Request.Basic

/-! The one namespace that placeholders are looked up in. Where sources give the same key, form fields come before
attributes of the user, those before injected values, and those before the list of recipients. -/
namespace Letterpress

def recipientsKey : String := "recipients"

/-- The entries of all sources, the strongest last. -/
def contextEntries (supplies : List Supply) (user : User) (fields : List (String × String))
    (recipients : List Recipient) : List (String × Json) :=
  [(recipientsKey, .array (recipients.map Recipient.toJson))] ++
    supplies.map (fun s => (s.name, .string s.data)) ++ user.attributes ++
    fields.map (fun (key, value) => (key, .string value))

def mergeContext (supplies : List Supply) (user : User) (fields : List (String × String))
    (recipients : List Recipient) : List (String × Json) :=
  Keyed.ofList (contextEntries supplies user fields recipients)

def RenderRequest.context (r : RenderRequest) : List (String × Json) :=
  mergeContext r.supplies r.user r.fields r.recipients

end Letterpress
