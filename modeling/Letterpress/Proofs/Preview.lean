import Letterpress.Proofs.Mail.Sending
import Letterpress.Proofs.Session.Steps

/-! A preview shows what is sent. The preview itself may make a plate and keep it, and so may all that is rendered between it
and the send; as long as the store stays as it is, none of that changes what the request is rendered to. -/
namespace Letterpress

namespace Session
variable {s : Session}

/-- None of these steps changes the store or the disk, or replaces the press. -/
def Undisturbed (s : Session) : List Step → Prop
  | [] => True
  | step :: rest =>
    ((s.step step).2.store = s.store ∧ (s.step step).2.disk = s.disk ∧
      ∀ caches config, step ≠ .replacePress caches config) ∧ (s.step step).2.Undisturbed rest

def rendering (s : Session) (request : RenderRequest) : Except PressError Rendered :=
  (s.mailer.press.render s.store s.disk request).1

private theorem rendering_eq (s : Session) (request : RenderRequest) :
    s.rendering request = (s.mailer.press.plate s.store s.disk request.templateId).1.bind (·.print request) := rfl

private theorem rendering_step (request : RenderRequest) {step : Step} (store : (s.step step).2.store = s.store)
    (disk : (s.step step).2.disk = s.disk) (stays : ∀ caches config, step ≠ .replacePress caches config) :
    (s.step step).2.rendering request = s.rendering request := by
  rw [rendering_eq,rendering_eq,store,disk]
  -- of all steps only one that makes a plate can change the press, and a plate that is made now is what the store gives
  rcases step_press s step with ⟨caches,config,replaced,_⟩ | same | ⟨id,asked⟩
  · exact absurd replaced (stays caches config)
  · rw [same]
  · rw [asked,Press.plate_after_plate]

private theorem rendering_run (request : RenderRequest) {steps : List Step} (undisturbed : s.Undisturbed steps) :
    (s.run steps).2.rendering request = s.rendering request := by
  induction steps generalizing s with
  | nil => rfl
  | cons step rest ih =>
    obtain ⟨⟨store,disk,stays⟩,later⟩ := undisturbed
    exact (ih later).trans (rendering_step request store disk stays)

private theorem step_preview_fst (s : Session) (request : RenderRequest) :
    (s.step (.preview request)).1 = match s.rendering request with
      | .ok rendered => .previewed rendered.html
      | .error e => .failed (.render e) := by
  simp only [step,render_eq,rendering]
  cases (s.mailer.press.render s.store s.disk request).1 <;> rfl

private theorem rendering_preview (s : Session) (previewed request : RenderRequest) :
    (s.step (.preview previewed)).2.rendering request = s.rendering request := by
  apply rendering_step
  · rw [step_preview_snd]
    rfl
  · rw [step_preview_snd]
    rfl
  · intro caches config same
    contradiction

private theorem step_send_of_clear {request : RenderRequest} {confirmedFor : List Recipient} {acknowledged : Option Nat}
    {c : Confirmation} (confirmed : Confirmation.confirm confirmedFor acknowledged = .ok c)
    (clear : c.obstacle? request = none) (s : Session) :
    (∃ e, s.rendering request = .error e ∧
      (s.step (.send request confirmedFor acknowledged)).1 = .failed (.send (.render e)) ∧
      (s.step (.send request confirmedFor acknowledged)).2.mailer.transport = s.mailer.transport) ∨
    (∃ rendered, s.rendering request = .ok rendered ∧
      (s.step (.send request confirmedFor acknowledged)).1 =
        (match (s.mailer.transport.deliver (s.mailer.config.compose request rendered.html)).1 with
          | .ok n => .accepted n s.mailer.transport.name
          | .error e => .failed (.send (.transport e))) ∧
      (s.step (.send request confirmedFor acknowledged)).2.mailer.transport =
        (s.mailer.transport.deliver (s.mailer.config.compose request rendered.html)).2) := by
  have result := Mailer.deliver_of_clear clear s.mailer s.store s.disk
  simp only [rendering,step,send_of_confirmed confirmed]
  rcases rendering : s.mailer.press.render s.store s.disk request with ⟨e | rendered,press,events⟩
  · rw [rendering] at result
    rw [result]
    exact .inl ⟨e,rfl,rfl,rfl⟩
  · rw [rendering] at result
    rw [result]
    refine .inr ⟨rendered,rfl,?_,rfl⟩
    dsimp only
    cases (s.mailer.transport.deliver (s.mailer.config.compose request rendered.html)).1 <;> rfl

end Session

/-- Whatever has happened before, a request that is previewed and then sent, with a confirmation that covers it, and with the
store left alone in between, comes to one end. If the preview shows a page, a mail with that page is handed to the transport,
which says how the send ends; the mail of a send that was accepted has the page of the preview; the preview fails with an
error of the render if and only if the send does, with the same one; and then nothing reaches the transport. -/
theorem preview_is_sent (s : Session) (between : List Step) (request : RenderRequest) (confirmedFor : List Recipient)
    (acknowledged : Option Nat) (c : Confirmation)
    (confirmed : Confirmation.confirm confirmedFor acknowledged = .ok c) (covers : c.covers request.recipients = true)
    (somebody : request.recipients ≠ []) (undisturbed : (s.step (.preview request)).2.Undisturbed between) :
    let shown := s.step (.preview request)
    let later := (shown.2.run between).2
    let sent := later.step (.send request confirmedFor acknowledged)
    (∀ html, shown.1 = .previewed html →
      let handed := later.mailer.transport.deliver (later.mailer.config.compose request html)
      sent.2.mailer.transport = handed.2 ∧ sent.1 = match handed.1 with
        | .ok n => .accepted n later.mailer.transport.name
        | .error e => .failed (.send (.transport e))) ∧
    (∀ n name, sent.1 = .accepted n name → ∃ email, shown.1 = .previewed email.html ∧
      sent.2.mailer.transport = later.mailer.transport.withMail [email]) ∧
    (∀ e, shown.1 = .failed (.render e) ↔ sent.1 = .failed (.send (.render e))) ∧
    ∀ e, shown.1 = .failed (.render e) → sent.2.mailer.transport = later.mailer.transport := by
  intro shown later sent
  have clear : c.obstacle? request = none :=
    (Confirmation.obstacle?_eq_none_iff c request).mpr ⟨by simpa [Confirmation.covers] using covers,somebody⟩
  have same : later.rendering request = s.rendering request := by
    rw [Session.rendering_run request undisturbed,Session.rendering_preview]
  have showing := Session.step_preview_fst s request
  rcases Session.step_send_of_clear confirmed clear later with
    ⟨e,failed,answer,still⟩ | ⟨rendered,printed,answer,handed⟩
  · have shows : shown.1 = .failed (.render e) := by rw [showing,← same,failed]
    rw [shows,answer]
    refine ⟨?_,?_,?_,?_⟩
    · intro html contrary
      contradiction
    · intro n name contrary
      contradiction
    · intro other
      simp
    · intro other _
      exact still
  · have shows : shown.1 = .previewed rendered.html := by rw [showing,← same,printed]
    rw [shows]
    refine ⟨?_,?_,?_,?_⟩
    · intro html equal
      cases equal
      exact ⟨handed,answer⟩
    · intro n name accepted
      refine ⟨later.mailer.config.compose request rendered.html,rfl,?_⟩
      rw [handed]
      rw [answer] at accepted
      split at accepted
      next taken => exact Transport.deliver_of_ok taken
      next => contradiction
    · intro e
      constructor
      · intro contrary
        contradiction
      · intro failed
        rw [answer] at failed
        split at failed
        next => contradiction
        next => simp at failed
    · intro e contrary
      contradiction

/-- A plate that is kept is previewed from, and after another render sent from. -/
theorem preview_is_sent_to_one :
    let request : RenderRequest := ⟨"a", [], [], ⟨[]⟩, [⟨"to@example.com", some "To"⟩]⟩
    let press : Press := ⟨some [("a", ⟨⟨"a", "A", "a.mjml", none, []⟩, ⟨[.text "Hello"]⟩⟩)]⟩
    let s : Session := ⟨.empty "", .memory [], true, ⟨press, .empty, {}⟩, []⟩
    let between : List Step := [.render ⟨"b", [], [], ⟨[]⟩, []⟩]
    ∃ email, email.html = "Hello" ∧
      (s.run (.preview request :: between ++ [.send request request.recipients (some 1)])).2.mailer.transport =
        .memory [email] none := by
  intro request press s between
  obtain ⟨_,accepted,_,_⟩ := preview_is_sent s between request request.recipients (some 1) ⟨1⟩ rfl rfl
    (by simp [request]) ⟨⟨rfl,rfl,by simp⟩,trivial⟩
  obtain ⟨email,shown,sent⟩ := accepted 1 "memory" rfl
  exact ⟨email,(Answer.previewed.inj shown).symm,sent⟩

end Letterpress
