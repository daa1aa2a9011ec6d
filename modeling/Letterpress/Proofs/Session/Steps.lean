import Letterpress.Session
import Letterpress.Proofs.Mail.Sending
import Letterpress.Proofs.Press.Keeping

/-! What one step of a session can change, and how a run is put together from its parts. The outbox holds one mail for each
send that was answered with success, in the order of the steps. -/
namespace Letterpress

def Answer.isAccepted : Answer → Bool
  | accepted _ _ => true
  | _ => false

namespace Session

private theorem run_append (s : Session) (before after : List Step) :
    s.run (before ++ after) =
      ((s.run before).1 ++ ((s.run before).2.run after).1, ((s.run before).2.run after).2) := by
  induction before generalizing s with
  | nil => rfl
  | cons step rest ih =>
    simp only [List.cons_append,run,ih]

private theorem run_fst_length (s : Session) (steps : List Step) : (s.run steps).1.length = steps.length := by
  induction steps generalizing s with
  | nil => rfl
  | cons step rest ih => simp only [run,List.length_cons,ih]

theorem run_answer (s : Session) (before : List Step) (step : Step) (after : List Step) :
    (s.run (before ++ step :: after)).1[before.length]? = some (((s.run before).2.step step).1) := by
  have size : (s.run before).1.length = before.length := run_fst_length s before
  rw [run_append,List.getElem?_append_right (Nat.le_of_eq size),size,Nat.sub_self]
  rfl

theorem run_induction {holds : Session → Prop} (kept : ∀ s step, holds s → holds (s.step step).2)
    (s : Session) (initial : holds s) (steps : List Step) : holds (s.run steps).2 := by
  induction steps generalizing s with
  | nil => exact initial
  | cons step rest ih => exact ih (s.step step).2 (kept s step initial)

theorem render_eq (s : Session) (request : RenderRequest) :
    s.render request = ((s.mailer.press.render s.store s.disk request).1,
      { s with
        mailer := { s.mailer with press := (s.mailer.press.plate s.store s.disk request.templateId).2 }
        events := s.events ++ (s.mailer.press.render s.store s.disk request).2.2 }) := rfl

theorem step_render_snd (s : Session) (request : RenderRequest) :
    (s.step (.render request)).2 = (s.render request).2 := by
  simp only [step]
  rcases s.render request with ⟨_ | _,_⟩ <;> rfl

theorem step_preview_snd (s : Session) (request : RenderRequest) :
    (s.step (.preview request)).2 = (s.render request).2 := by
  simp only [step]
  rcases s.render request with ⟨_ | _,_⟩ <;> rfl

theorem send_of_unconfirmed {confirmedFor : List Recipient} {acknowledged : Option Nat} {e : ConfirmationError}
    (refused : Confirmation.confirm confirmedFor acknowledged = .error e) (s : Session) (request : RenderRequest) :
    s.send request confirmedFor acknowledged = (.failed (.confirmation e), s) := by
  simp only [send,refused]

theorem send_of_confirmed {confirmedFor : List Recipient} {acknowledged : Option Nat} {c : Confirmation}
    (confirmed : Confirmation.confirm confirmedFor acknowledged = .ok c) (s : Session) (request : RenderRequest) :
    s.send request confirmedFor acknowledged =
      let (accepted, mailer, events) := s.mailer.deliver s.store s.disk request c
      (match accepted with
        | .ok n => .accepted n s.mailer.transport.name
        | .error e => .failed (.send e),
        { s with
          mailer := mailer
          events := s.events ++ (events ++ [Mailer.outcomeEvent s.mailer.transport accepted]) }) := by
  simp only [send,confirmed,Mailer.send]
  rcases s.mailer.deliver s.store s.disk request c with ⟨_ | _,_,_⟩ <;> rfl

/-- A press is replaced, left alone, or asked for a plate. -/
theorem step_press (s : Session) (step : Step) :
    (∃ caches config, step = .replacePress caches config ∧ (s.step step).2.mailer.press = .ofCaching caches) ∨
    (s.step step).2.mailer.press = s.mailer.press ∨
    ∃ id, (s.step step).2.mailer.press = (s.mailer.press.plate s.store s.disk id).2 := by
  cases step with
  | insert t markup =>
    right; left
    simp only [Session.step,insert]
    split
    · rfl
    · split <;> rfl
  | remove path =>
    right; left
    simp only [Session.step]
    split <;> rfl
  | render request =>
    right; right
    exact ⟨request.templateId,by rw [step_render_snd]; rfl⟩
  | preview request =>
    right; right
    exact ⟨request.templateId,by rw [step_preview_snd]; rfl⟩
  | send request confirmedFor acknowledged =>
    right
    simp only [Session.step]
    cases confirmed : Confirmation.confirm confirmedFor acknowledged with
    | error e =>
      left
      rw [send_of_unconfirmed confirmed]
    | ok c =>
      rw [send_of_confirmed confirmed]
      rcases Mailer.deliver_press s.mailer s.store s.disk request c with same | asked
      · exact .inl same
      · exact .inr ⟨request.templateId,asked⟩
  | replacePress caches config => exact .inl ⟨caches,config,rfl,rfl⟩
  | _ => exact .inr (.inl rfl)

/-- The only step that changes a store puts a template on its shelf. -/
theorem step_store (s : Session) (step : Step) :
    (s.step step).2.store = s.store ∨
    ∃ t markup shelf grown, step = .insert t markup ∧ s.store = .memory shelf ∧
      Store.shelve shelf t markup = .ok grown ∧ (s.step step).2.store = .memory grown := by
  cases step with
  | insert t markup =>
    simp only [Session.step,insert]
    cases found : s.shelf? with
    | none => exact .inl rfl
    | some shelf =>
      have memory : s.store = .memory shelf := by
        unfold shelf? at found
        split at found
        next same =>
          split at found
          · rw [same,Option.some.inj found]
          · contradiction
        next => contradiction
      cases shelved : Store.shelve shelf t markup with
      | error e => left; simp only [shelved]
      | ok grown =>
        refine .inr ⟨t,markup,shelf,grown,rfl,memory,shelved,?_⟩
        simp only [shelved]
  | remove path =>
    left
    simp only [Session.step]
    split <;> rfl
  | render request => left; rw [step_render_snd]; rfl
  | preview request => left; rw [step_preview_snd]; rfl
  | send request confirmedFor acknowledged =>
    left
    simp only [Session.step]
    cases confirmed : Confirmation.confirm confirmedFor acknowledged with
    | error e => rw [send_of_unconfirmed confirmed]
    | ok c => rw [send_of_confirmed confirmed]
  | _ => exact .inl rfl

/-- A step that was answered so has put this mail into the outbox. -/
def Posted : Step × Answer → Email → Prop
  | (.send request confirmedFor acknowledged, .accepted n _), email =>
    ∃ c, Confirmation.confirm confirmedFor acknowledged = .ok c ∧ Delivered request c n email
  | _, _ => False

theorem step_transport (s : Session) (step : Step) :
    s.mailer.transport.Takes (s.step step).2.mailer.transport (s.step step).1.isAccepted
      (Posted (step, (s.step step).1)) := by
  cases step with
  | insert t markup =>
    right
    simp only [Session.step,insert]
    split
    · exact ⟨rfl,rfl⟩
    · split <;> exact ⟨rfl,rfl⟩
  | definition id =>
    right
    refine ⟨?_,rfl⟩
    simp only [Session.step,ofTemplate]
    split <;> rfl
  | load id =>
    right
    refine ⟨?_,rfl⟩
    simp only [Session.step,ofTemplate]
    split <;> rfl
  | list =>
    right
    refine ⟨?_,rfl⟩
    simp only [Session.step,ofTemplate]
    split <;> rfl
  | remove path =>
    right
    simp only [Session.step]
    split <;> exact ⟨rfl,rfl⟩
  | render request =>
    right
    simp only [Session.step,render_eq]
    cases (s.mailer.press.render s.store s.disk request).1 <;> exact ⟨rfl,rfl⟩
  | preview request =>
    right
    simp only [Session.step,render_eq]
    cases (s.mailer.press.render s.store s.disk request).1 <;> exact ⟨rfl,rfl⟩
  | send request confirmedFor acknowledged =>
    simp only [Session.step]
    cases confirmed : Confirmation.confirm confirmedFor acknowledged with
    | error e =>
      rw [send_of_unconfirmed confirmed]
      exact .inr ⟨rfl,rfl⟩
    | ok c =>
      rw [send_of_confirmed confirmed]
      rcases Mailer.deliver_transport s.mailer s.store s.disk request c with
        ⟨n,email,accepted,delivered,posted⟩ | ⟨e,failed,still⟩
      · left
        simp only [accepted]
        exact ⟨rfl,email,⟨c,confirmed,delivered⟩,posted⟩
      · right
        simp only [failed]
        exact ⟨rfl,still⟩
  | _ => exact .inr ⟨rfl,rfl⟩

theorem run_transport (s : Session) (steps : List Step) :
    s.mailer.transport.Records (s.run steps).2.mailer.transport (steps.zip (s.run steps).1) (·.2.isAccepted) Posted := by
  induction steps generalizing s with
  | nil => exact Transport.records_nil s.mailer.transport
  | cons step rest ih => exact Transport.records_cons (step_transport s step) (ih (s.step step).2)

end Session

end Letterpress
