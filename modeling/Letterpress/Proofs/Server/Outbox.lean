import Letterpress.Proofs.Mail.Sending
import Letterpress.Server.App

/-! The outbox of a server holds one mail for each request to send that was answered with success, in the order of the
requests. -/
namespace Letterpress.Server

def Request.sends (r : Request) : Bool := r.method == "POST" && Route.ofPath? r.path == some .send

def isAccepted : Request × Response → Bool
  | (r, response) => r.sends && response.status == 200

/-- The response is a receipt for this number of recipients. -/
def Response.Reports (response : Response) (accepted : Nat) : Prop :=
  ∃ value, response.body = .json value ∧ (value.get? "data").bind (·.get? "accepted") = some (.nat accepted)

theorem Problem.status_ne_ok (p : Problem) : p.status ≠ 200 := by
  unfold status
  split <;> decide

theorem withOrigin_status (config : ServerConfig) (r : Request) (response : Response) :
    (withOrigin config r response).status = response.status := by
  unfold withOrigin
  split <;> rfl

private theorem withOrigin_body (config : ServerConfig) (r : Request) (response : Response) :
    (withOrigin config r response).body = response.body := by
  unfold withOrigin
  split <;> rfl

namespace App

/-- A request that was answered so has put this mail into the outbox. -/
def Posted (settings : Settings) (exchange : Request × Response) (email : Email) : Prop :=
  ∃ allowance request acknowledged c n,
    allowance? settings.server.bodyLimit exchange.1 = some allowance ∧
      readComposition allowance exchange.1 = .ok (request, acknowledged) ∧
      Confirmation.confirm request.recipients acknowledged = .ok c ∧ exchange.2.Reports n ∧
      Delivered request c n email

private theorem receipt_accepted (app : App) (n : Nat) :
    ((app.receipt n).get? "data").bind (·.get? "accepted") = some (.nat n) := by
  simp [receipt,Json.mk,Json.get?,Keyed.ofList,Keyed.insertAll,Keyed.lookup?_insert]

private theorem send_transport (app : App) (allowance : Nat) (r : Request) :
    ((app.send allowance r).1.status = 200 ∧ ∃ request acknowledged c n email,
      readComposition allowance r = .ok (request, acknowledged) ∧
      Confirmation.confirm request.recipients acknowledged = .ok c ∧ (app.send allowance r).1.Reports n ∧
      Delivered request c n email ∧
      (app.send allowance r).2.mailer.transport = app.mailer.transport.withMail [email]) ∨
    ((app.send allowance r).1.status ≠ 200 ∧ (app.send allowance r).2.mailer.transport = app.mailer.transport) := by
  rcases composition : readComposition allowance r with p | ⟨request,acknowledged⟩
  · right
    simp only [send,composition]
    exact ⟨p.status_ne_ok,rfl⟩
  · cases confirmed : Confirmation.confirm request.recipients acknowledged with
    | error e =>
      right
      simp only [send,composition,confirmed]
      exact ⟨Problem.status_ne_ok (.confirmation e),rfl⟩
    | ok c =>
      simp only [send,composition,confirmed,Mailer.send]
      rcases Mailer.deliver_transport app.mailer app.store app.disk request c with
        ⟨n,email,accepted,delivered,posted⟩ | ⟨e,failed,still⟩
      · left
        simp only [accepted]
        exact ⟨rfl,request,acknowledged,c,n,email,rfl,confirmed,⟨_,rfl,receipt_accepted _ n⟩,delivered,posted⟩
      · right
        simp only [failed]
        exact ⟨(Problem.ofSendError e).status_ne_ok,still⟩

private theorem preview_transport (app : App) (allowance : Nat) (r : Request) :
    (app.preview allowance r).2.mailer.transport = app.mailer.transport := by
  unfold preview
  rcases readComposition allowance r with p | ⟨request,acknowledged⟩
  · rfl
  · simp only [Mailer.preview]
    split <;> rfl

private theorem answerAt_transport (app : App) {route : Route} (other : route ≠ .send) (allowance : Nat) (r : Request) :
    (app.answerAt route allowance r).2.mailer.transport = app.mailer.transport := by
  cases route with
  | send => contradiction
  | preview => exact preview_transport app allowance r
  | _ => rfl

theorem answer_snd (app : App) (r : Request) :
    (app.answer r).2 = if r.method = "OPTIONS" then app else (app.answerWithin (Route.ofPath? r.path) r).2 := by
  unfold answer
  split <;> rfl

theorem answer_status {app : App} {r : Request} (post : r.method = "POST") :
    (app.answer r).1.status = (app.answerWithin (Route.ofPath? r.path) r).1.status := by
  have asks : ¬ "POST" = "OPTIONS" := by decide
  have reads : ¬ "POST" = "HEAD" := by decide
  simp only [answer,post,if_neg asks,if_neg reads]
  split
  · split
    · exact withOrigin_status _ _ _
    · exact withOrigin_status _ _ _
  · exact withOrigin_status _ _ _

theorem answer_body {app : App} {r : Request} (post : r.method = "POST") :
    (app.answer r).1.body = (app.answerWithin (Route.ofPath? r.path) r).1.body := by
  have asks : ¬ "POST" = "OPTIONS" := by decide
  have reads : ¬ "POST" = "HEAD" := by decide
  simp only [answer,post,if_neg asks,if_neg reads]
  split
  · split
    · exact withOrigin_body _ _ _
    · exact withOrigin_body _ _ _
  · exact withOrigin_body _ _ _

private theorem answer_of_other {r : Request} (other : r.sends = false) (app : App) :
    (app.answer r).2.mailer.transport = app.mailer.transport := by
  rw [answer_snd]
  split
  next => rfl
  next =>
    unfold answerWithin
    split
    next => rfl
    next =>
      split
      next => rfl
      next route there =>
        split
        next answers =>
          refine answerAt_transport app ?_ _ r
          rintro rfl
          have post : r.method = "POST" := by simpa [Route.answers,Route.takesBody] using answers
          simp [Request.sends,post,there] at other
        next => rfl

private theorem answer_of_sends {r : Request} (sends : r.sends = true) (app : App) :
    ((app.answer r).1.status = 200 ∧ ∃ email, Posted app.settings (r, (app.answer r).1) email ∧
      (app.answer r).2.mailer.transport = app.mailer.transport.withMail [email]) ∨
    ((app.answer r).1.status ≠ 200 ∧ (app.answer r).2.mailer.transport = app.mailer.transport) := by
  have asks : ¬ "POST" = "OPTIONS" := by decide
  simp only [Request.sends,Bool.and_eq_true,beq_iff_eq] at sends
  obtain ⟨post,route⟩ := sends
  have answers : Route.send.answers r.method = true := by rw [post]; rfl
  simp only [Posted,Response.Reports]
  rw [answer_snd,answer_status post,answer_body post,route,post,if_neg asks]
  cases allowed : allowance? app.settings.server.bodyLimit r with
  | none =>
    simp only [answerWithin,allowed]
    exact .inr ⟨by decide,trivial⟩
  | some allowance =>
    simp only [answerWithin,allowed,answers,if_true,answerAt]
    rcases send_transport app allowance r with
      ⟨ok,request,acknowledged,c,n,email,composition,confirmed,reports,delivered,posted⟩ | ⟨failed,still⟩
    · exact .inl ⟨ok,email,⟨allowance,request,acknowledged,c,n,rfl,composition,confirmed,reports,delivered⟩,posted⟩
    · exact .inr ⟨failed,still⟩

theorem answer_transport (app : App) (r : Request) :
    app.mailer.transport.Takes (app.answer r).2.mailer.transport (isAccepted (r, (app.answer r).1))
      (Posted app.settings (r, (app.answer r).1)) := by
  cases sends : r.sends with
  | false =>
    right
    simp only [isAccepted,sends,Bool.false_and]
    exact ⟨trivial,answer_of_other sends app⟩
  | true =>
    rcases answer_of_sends sends app with ⟨ok,posted⟩ | ⟨failed,still⟩
    · left
      simp only [isAccepted,sends,ok,Bool.true_and,beq_self_eq_true]
      exact ⟨trivial,posted⟩
    · right
      simp only [isAccepted,sends,Bool.true_and,beq_eq_false_iff_ne]
      exact ⟨failed,still⟩

theorem answer_settings (app : App) (r : Request) : (app.answer r).2.settings = app.settings := by
  have sending (allowance : Nat) : (app.send allowance r).2.settings = app.settings := by
    unfold send
    split
    · rfl
    · split
      · rfl
      · simp only [Mailer.send]
        split <;> rfl
  have showing (allowance : Nat) : (app.preview allowance r).2.settings = app.settings := by
    unfold preview
    split
    · rfl
    · simp only [Mailer.preview]
      split <;> rfl
  rw [answer_snd]
  split
  next => rfl
  next =>
    unfold answerWithin
    split
    next => rfl
    next allowance _ =>
      split
      next => rfl
      next route there =>
        split
        next =>
          cases route with
          | send => exact sending _
          | preview => exact showing _
          | _ => rfl
        next => rfl

theorem answerAll_transport (app : App) (requests : List Request) :
    app.mailer.transport.Records (app.answerAll requests).2.mailer.transport
      (requests.zip (app.answerAll requests).1) isAccepted (Posted app.settings) := by
  induction requests generalizing app with
  | nil => exact Transport.records_nil app.mailer.transport
  | cons r rest ih =>
    have later := ih (app.answer r).2
    rw [answer_settings] at later
    exact Transport.records_cons (answer_transport app r) later

end App

end Letterpress.Server
