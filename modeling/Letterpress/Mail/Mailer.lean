import Letterpress.Mail.Confirmation
import Letterpress.Mail.Transport
import Letterpress.Press.Basic

/-! Composing mail: a request is rendered, addressed and handed to a transport, once it is confirmed. -/
namespace Letterpress

/-- Who mail comes from where the user does not say, and which form field holds its subject. -/
structure MailConfig where
  transport : String := "log"
  fromAddress : String := "no-reply@localhost"
  fromName : Option String := none
  subjectField : String := "subjectLine"
  deriving DecidableEq, Repr

inductive SendError
  | confirmation (error : ConfirmationError)
  | render (error : PressError)
  | transport (error : TransportError)
  deriving DecidableEq, Repr

namespace SendError

def reason : SendError → String
  | confirmation _ => "confirmation"
  | render _ => "render"
  | transport _ => "transport"

def message : SendError → String
  | confirmation e => e.message
  | render e => e.message
  | transport e => e.message

end SendError

namespace MailConfig

/-- The sender: the user, if the user has an address. -/
def senderOf (config : MailConfig) (user : User) : Mailbox :=
  match user.email? with
  | some email => ⟨user.name?, email⟩
  | none => ⟨user.name?.or config.fromName, config.fromAddress⟩

/-- The mail of a request, with a page that has been rendered for it. -/
def compose (config : MailConfig) (request : RenderRequest) (html : String) : Email :=
  ⟨config.senderOf request.user, request.recipients.map .ofRecipient,
    (Keyed.lookup? config.subjectField request.fields).getD "", html⟩

end MailConfig

structure Mailer where
  press : Press
  transport : Transport
  config : MailConfig

namespace Mailer

def preview (m : Mailer) (store : Store) (disk : Disk) (request : RenderRequest) :
    Except PressError Rendered × Mailer × List Event :=
  let (rendered, press, events) := m.press.render store disk request
  (rendered, { m with press := press }, events)

/-- Renders and delivers a request that a confirmation has to cover. -/
def deliver (m : Mailer) (store : Store) (disk : Disk) (request : RenderRequest) (confirmation : Confirmation) :
    Except SendError Nat × Mailer × List Event :=
  if !confirmation.covers request.recipients then
    (.error (.confirmation (.countMismatch request.recipients.length confirmation.recipients)), m, [])
  else if request.recipients.isEmpty then (.error (.transport .noRecipients), m, [])
  else
    match m.preview store disk request with
    | (.error e, m, events) => (.error (.render e), m, events)
    | (.ok rendered, m, events) =>
      let (accepted, transport) := m.transport.deliver (m.config.compose request rendered.html)
      (accepted.mapError .transport, { m with transport := transport }, events)

def outcomeEvent (transport : Transport) : Except SendError Nat → Event
  | .ok accepted => .sent transport.name accepted
  | .error e => .sendFailed e.reason

/-- Sends a request: how many recipients were accepted, or the first error; the mailer afterwards; what happened. -/
def send (m : Mailer) (store : Store) (disk : Disk) (request : RenderRequest) (confirmation : Confirmation) :
    Except SendError Nat × Mailer × List Event :=
  let (accepted, after, events) := m.deliver store disk request confirmation
  (accepted, after, events ++ [outcomeEvent m.transport accepted])

end Mailer

end Letterpress
