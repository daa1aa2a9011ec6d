import Letterpress.Mail.Mailer
import Letterpress.Proofs.Basic

/-! Errors without what they tell of the inside: which file could not be read and why, what is wrong with a catalog or with a
template in it, and why a mail was rejected. Where stores and transports differ in nothing else, renders and sends do not
either, and leave the same press behind. -/
namespace Letterpress

/-- All errors about the inside of a store are one, whatever their kind. -/
def TemplateError.redacted : TemplateError → TemplateError
  | invalidTemplate _ | unreadable _ _ | badCatalog _ => badCatalog ""
  | e => e

def PressError.redacted : PressError → PressError
  | unreadable _ _ => unreadable "" ""
  | e => e

def TransportError.redacted : TransportError → TransportError
  | rejected _ => rejected ""
  | noRecipients => noRecipients

def SendError.redacted : SendError → SendError
  | confirmation e => confirmation e
  | render e => render e.redacted
  | transport e => transport e.redacted

/-- A transport that does not say why it rejects everything. -/
def Transport.redacted : Transport → Transport
  | log => log
  | memory outbox failure => memory outbox (failure.map fun _ => "")

/-- Two stores, each with its disk, that give the same answers but for the texts of errors about their inside. -/
structure Store.Resembles (store : Store) (disk : Disk) (other : Store) (otherDisk : Disk) : Prop where
  definition : ∀ id, (store.definition id).mapError TemplateError.redacted =
    (other.definition id).mapError TemplateError.redacted
  load : ∀ id, (store.load disk id).mapError TemplateError.redacted = (other.load otherDisk id).mapError TemplateError.redacted
  list : store.list.mapError TemplateError.redacted = other.list.mapError TemplateError.redacted

private theorem PressError.redacted_ofTemplateError (id : String) (e : TemplateError) :
    (ofTemplateError id e).redacted = (ofTemplateError id e.redacted).redacted := by
  cases e <;> rfl

namespace Store.Resembles
variable {store other : Store} {disk otherDisk : Disk}

private theorem asked {α : Type} (id : String) {x y : Except TemplateError α}
    (same : x.mapError TemplateError.redacted = y.mapError TemplateError.redacted) :
    (x.mapError (PressError.ofTemplateError id)).mapError PressError.redacted =
      (y.mapError (PressError.ofTemplateError id)).mapError PressError.redacted := by
  rcases cases_of_mapError same with ⟨a,rfl,rfl⟩ | ⟨e,e',rfl,rfl,alike⟩
  · rfl
  · simp only [mapError_error]
    rw [PressError.redacted_ofTemplateError id e,PressError.redacted_ofTemplateError id e',alike]

private theorem make (resembles : store.Resembles disk other otherDisk) (id : String) :
    (Plate.make store disk id).mapError PressError.redacted = (Plate.make other otherDisk id).mapError PressError.redacted := by
  simp only [Plate.make,mapError_bind,asked id (resembles.definition id),asked id (resembles.load id)]

private theorem plate (resembles : store.Resembles disk other otherDisk) (press : Press) (id : String) :
    (press.plate store disk id).1.mapError PressError.redacted = (press.plate other otherDisk id).1.mapError PressError.redacted ∧
      (press.plate store disk id).2 = (press.plate other otherDisk id).2 := by
  unfold Press.plate
  cases press.kept? id with
  | some plate => exact ⟨rfl,rfl⟩
  | none =>
    rcases cases_of_mapError (resembles.make id) with ⟨made,done,doneToo⟩ | ⟨e,e',failed,failedToo,same⟩
    · simp only [done,doneToo,and_self]
    · simp only [failed,failedToo,mapError_error,same,and_self]

private theorem preview (resembles : store.Resembles disk other otherDisk) (m : Mailer) (request : RenderRequest) :
    (m.preview store disk request).1.mapError PressError.redacted =
        (m.preview other otherDisk request).1.mapError PressError.redacted ∧
      (m.preview store disk request).2.1 = (m.preview other otherDisk request).2.1 := by
  obtain ⟨outcome,after⟩ := resembles.plate m.press request.templateId
  have printed : ((m.press.plate store disk request.templateId).1 >>= (·.print request)).mapError PressError.redacted =
      ((m.press.plate other otherDisk request.templateId).1 >>= (·.print request)).mapError PressError.redacted := by
    rw [mapError_bind,mapError_bind,outcome]
  refine ⟨printed,?_⟩
  simp only [Mailer.preview,Press.render,after]

end Store.Resembles

namespace Transport
variable {transport other : Transport}

private theorem deliver_of_redacted (same : transport.redacted = other.redacted) (email : Email) :
    (transport.deliver email).1.mapError TransportError.redacted = (other.deliver email).1.mapError TransportError.redacted ∧
      (transport.deliver email).2.redacted = (other.deliver email).2.redacted := by
  unfold deliver
  split
  next => exact ⟨rfl,same⟩
  next =>
    cases transport with
    | log =>
      cases other with
      | log => exact ⟨rfl,rfl⟩
      | memory outbox failure => contradiction
    | memory outbox failure =>
      cases other with
      | log => contradiction
      | memory outbox' failure' =>
        simp only [redacted,memory.injEq] at same
        obtain ⟨rfl,failing⟩ := same
        cases failure <;> cases failure' <;> first | exact ⟨rfl,rfl⟩ | contradiction

end Transport

/-- Two mailers that differ at most in why their transport rejects everything. -/
structure Mailer.Resembles (m other : Mailer) : Prop where
  press : m.press = other.press
  transport : m.transport.redacted = other.transport.redacted
  config : m.config = other.config

theorem Mailer.Resembles.preview {m n : Mailer} {store other : Store} {disk otherDisk : Disk} (mailers : m.Resembles n)
    (stores : store.Resembles disk other otherDisk) (request : RenderRequest) :
    (m.preview store disk request).1.mapError PressError.redacted =
        (n.preview other otherDisk request).1.mapError PressError.redacted ∧
      (m.preview store disk request).2.1.Resembles (n.preview other otherDisk request).2.1 := by
  obtain ⟨outcome,after⟩ := stores.preview m request
  have press : (m.preview other otherDisk request).1 = (n.preview other otherDisk request).1 := by
    simp only [Mailer.preview,mailers.press]
  rw [outcome,after,press]
  refine ⟨rfl,⟨?_,mailers.transport,mailers.config⟩⟩
  simp only [Mailer.preview,mailers.press]

theorem Mailer.Resembles.send {m n : Mailer} {store other : Store} {disk otherDisk : Disk} (mailers : m.Resembles n)
    (stores : store.Resembles disk other otherDisk) (request : RenderRequest) (c : Confirmation) :
    (m.send store disk request c).1.mapError SendError.redacted = (n.send other otherDisk request c).1.mapError SendError.redacted ∧
      (m.send store disk request c).2.1.Resembles (n.send other otherDisk request c).2.1 := by
  simp only [Mailer.send,Mailer.deliver]
  split
  next => exact ⟨rfl,mailers⟩
  next =>
    split
    next => exact ⟨rfl,mailers⟩
    next =>
      obtain ⟨outcome,after⟩ := mailers.preview stores request
      rcases first : m.preview store disk request with ⟨x,m',events⟩
      rcases second : n.preview other otherDisk request with ⟨y,n',events'⟩
      rw [first,second] at outcome after
      rcases cases_of_mapError outcome with ⟨rendered,rfl,rfl⟩ | ⟨e,e',rfl,rfl,same⟩
      · have config : m'.config = n'.config := after.config
        obtain ⟨accepted,left⟩ := Transport.deliver_of_redacted after.transport (n'.config.compose request rendered.html)
        simp only [config]
        refine ⟨?_,after.press,left,rfl⟩
        rcases cases_of_mapError accepted with ⟨n,taken,takenToo⟩ | ⟨e,e',refused,refusedToo,same⟩
        · rw [taken,takenToo]
        · simp only [refused,refusedToo,mapError_error,SendError.redacted,same]
      · simp only [mapError_error,SendError.redacted,same]
        exact ⟨trivial,after⟩

end Letterpress
