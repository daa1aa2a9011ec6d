import Letterpress.Request.Basic

/-! Before mail is sent, somebody has to say to how many people it goes. -/
namespace Letterpress

inductive ConfirmationError
  | missing (expected : Nat)
  | countMismatch (expected acknowledged : Nat)
  deriving DecidableEq, Repr

def ConfirmationError.message : ConfirmationError → String
  | missing expected => "Sending to " ++ toString expected ++ " recipients requires confirmation"
  | countMismatch expected acknowledged =>
    "Confirmed " ++ toString acknowledged ++ " recipients but the email goes to " ++ toString expected

/-- The number of recipients that somebody acknowledged rightly. -/
structure Confirmation where
  recipients : Nat
  deriving DecidableEq, Repr

namespace Confirmation

def confirm (recipients : List Recipient) (acknowledged : Option Nat) : Except ConfirmationError Confirmation :=
  match acknowledged with
  | none => .error (.missing recipients.length)
  | some n => if n = recipients.length then .ok ⟨n⟩ else .error (.countMismatch recipients.length n)

def covers (c : Confirmation) (recipients : List Recipient) : Bool := c.recipients == recipients.length

end Confirmation

end Letterpress
