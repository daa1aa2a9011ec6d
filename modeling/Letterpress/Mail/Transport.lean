import Letterpress.Request.Basic

/-! Mail and the transports that take it: one only notes that there was some, one keeps it in an outbox and can be made
to reject everything. -/
namespace Letterpress

structure Mailbox where
  name : Option String
  email : String
  deriving DecidableEq, Repr

namespace Mailbox

def text (m : Mailbox) : String :=
  match m.name with
  | some name => name ++ " <" ++ m.email ++ ">"
  | none => m.email

def ofRecipient (r : Recipient) : Mailbox := ⟨r.name, r.email⟩

end Mailbox

structure Email where
  sender : Mailbox
  recipients : List Mailbox
  subject : String
  html : String
  deriving DecidableEq, Repr

inductive TransportError
  | noRecipients
  | rejected (reason : String)
  deriving DecidableEq, Repr

def TransportError.message : TransportError → String
  | noRecipients => "Email has no recipients"
  | rejected reason => "Transport rejected the email: " ++ reason

/-- The outbox holds what was accepted, the oldest first. -/
inductive Transport
  | log
  | memory (outbox : List Email) (failure : Option String)
  deriving DecidableEq, Repr

namespace Transport

def empty : Transport := memory [] none

def name : Transport → String
  | log => "log"
  | memory _ _ => "memory"

/-- The transport with this name; any other name means the one that only notes. -/
def ofName (name : String) : Transport := if name = "memory" then empty else log

def outbox? : Transport → Option (List Email)
  | log => none
  | memory outbox _ => some outbox

/-- Hands over a mail: how many recipients were accepted, and the transport afterwards. -/
def deliver (transport : Transport) (email : Email) : Except TransportError Nat × Transport :=
  if email.recipients.isEmpty then (.error .noRecipients, transport)
  else
    match transport with
    | log => (.ok email.recipients.length, log)
    | memory outbox (some reason) => (.error (.rejected reason), memory outbox (some reason))
    | memory outbox none => (.ok email.recipients.length, memory (outbox ++ [email]) none)

end Transport

end Letterpress
