import Letterpress.Proofs.Ledger
import Letterpress.Proofs.Session.Steps

/-! The samples of a session. Each step adds to them what it has done, and a run what its steps have done, whatever fails in it. -/
namespace Letterpress

def Step.renders : Step → Bool
  | .render _ | .preview _ => true
  | .send request confirmedFor acknowledged => Confirmation.clears confirmedFor acknowledged request
  | _ => false

/-- Whether the press keeps plates after a step. -/
def Step.keepsAfter (keeps : Bool) : Step → Bool
  | .replacePress caches _ => caches
  | _ => keeps

/-- How many of the renders of a run are made by a press that keeps plates. -/
def Step.lookups (keeps : Bool) : List Step → Nat
  | [] => 0
  | step :: steps => (keeps && step.renders).toNat + lookups (step.keepsAfter keeps) steps

/-- How a send ended, if a step made one. Where the confirmation is refused nothing is sent yet. -/
def Answer.send? : Answer → Option (Except SendError Nat)
  | .accepted recipients _ => some (.ok recipients)
  | .failed (.send e) => some (.error e)
  | _ => none

private theorem Transport.name_withMail (transport : Transport) (emails : List Email) :
    (transport.withMail emails).name = transport.name := by
  cases transport <;> rfl

theorem Transport.Takes.name {before after : Transport} {accepted : Bool} {posted : Email → Prop}
    (takes : before.Takes after accepted posted) : after.name = before.name := by
  rcases takes with ⟨_,email,_,grown⟩ | ⟨_,same⟩
  · rw [grown,name_withMail]
  · rw [same]

private theorem Press.isSome_kept_ofCaching (caches : Bool) : (ofCaching caches).kept.isSome = caches := by
  cases caches <;> rfl

theorem Press.isSome_kept_plate (press : Press) (store : Store) (disk : Disk) (id : String) :
    (press.plate store disk id).2.kept.isSome = press.kept.isSome := by
  unfold Press.plate
  split
  · rfl
  · split
    · rfl
    · exact isSome_kept_keep press id _

namespace Session

private theorem step_transport_name (s : Session) (step : Step) :
    (s.step step).2.mailer.transport.name = s.mailer.transport.name :=
  (step_transport s step).name

private theorem step_keeps (s : Session) (step : Step) :
    (s.step step).2.mailer.press.kept.isSome = step.keepsAfter s.mailer.press.kept.isSome := by
  have press := step_press s step
  cases step with
  | replacePress caches config => exact Press.isSome_kept_ofCaching caches
  | _ =>
    rcases press with ⟨caches,config,other,_⟩ | same | ⟨id,asked⟩
    · contradiction
    · rw [same]
      rfl
    · rw [asked,Press.isSome_kept_plate]
      rfl

private theorem render_accounts (s : Session) (request : RenderRequest) :
    Accounts s.events (s.render request).2.events s.mailer.transport.name (.one true s.mailer.press.kept.isSome none) :=
  accounts_append s.events (Press.render_balances s.mailer.transport.name s.mailer.press s.store s.disk request)

private theorem send_accounts (s : Session) (request : RenderRequest) (confirmedFor : List Recipient)
    (acknowledged : Option Nat) :
    Accounts s.events (s.send request confirmedFor acknowledged).2.events s.mailer.transport.name
      (.one (Confirmation.clears confirmedFor acknowledged request) s.mailer.press.kept.isSome
        (s.send request confirmedFor acknowledged).1.send?) := by
  cases confirmed : Confirmation.confirm confirmedFor acknowledged with
  | error e =>
    have held : Confirmation.clears confirmedFor acknowledged request = false := by simp only [Confirmation.clears,confirmed]
    rw [send_of_unconfirmed confirmed,held]
    change Accounts s.events s.events s.mailer.transport.name (.one false s.mailer.press.kept.isSome none)
    rw [Work.one_still]
    exact accounts_nothing s.events s.mailer.transport.name
  | ok c =>
    have balanced := s.mailer.send_balances s.store s.disk request c
    rw [Confirmation.clears_eq confirmed]
    simp only [send,confirmed]
    rcases sent : s.mailer.send s.store s.disk request c with ⟨e | n,mailer,events⟩
    all_goals
      rw [sent] at balanced
      exact accounts_append s.events balanced

private theorem ofTemplate_send? {α : Type} {answer : α → Answer} (plain : ∀ value, (answer value).send? = none)
    (x : Except TemplateError α) : (ofTemplate answer x).send? = none := by
  cases x with
  | ok value => exact plain value
  | error e => rfl

/-- The steps that neither render nor send leave the events alone. -/
theorem step_still (s : Session) (step : Step) (noRender : ∀ request, step ≠ .render request)
    (noPreview : ∀ request, step ≠ .preview request)
    (noSend : ∀ request confirmedFor acknowledged, step ≠ .send request confirmedFor acknowledged) :
    step.renders = false ∧ (s.step step).2.events = s.events ∧ (s.step step).1.send? = none := by
  cases step with
  | insert t markup =>
    simp only [Session.step,insert]
    split
    · exact ⟨rfl,rfl,rfl⟩
    · split <;> exact ⟨rfl,rfl,rfl⟩
  | definition id => exact ⟨rfl,rfl,ofTemplate_send? (fun _ => rfl) (s.store.definition id)⟩
  | load id => exact ⟨rfl,rfl,ofTemplate_send? (fun _ => rfl) (s.store.load s.disk id)⟩
  | list => exact ⟨rfl,rfl,ofTemplate_send? (fun _ => rfl) s.store.list⟩
  | remove path =>
    simp only [Session.step]
    split <;> exact ⟨rfl,rfl,rfl⟩
  | render request => exact absurd rfl (noRender request)
  | preview request => exact absurd rfl (noPreview request)
  | send request confirmedFor acknowledged => exact absurd rfl (noSend request confirmedFor acknowledged)
  | _ => exact ⟨rfl,rfl,rfl⟩

private theorem step_accounts (s : Session) (step : Step) : Accounts s.events (s.step step).2.events s.mailer.transport.name
    (.one step.renders s.mailer.press.kept.isSome (s.step step).1.send?) := by
  have still := s.step_still step
  cases step with
  | render request =>
    have accounts := s.render_accounts request
    simp only [Step.renders,Session.step]
    rcases rendering : s.render request with ⟨e | rendered,after⟩
    all_goals
      rw [rendering] at accounts
      exact accounts
  | preview request =>
    have accounts := s.render_accounts request
    simp only [Step.renders,Session.step]
    rcases rendering : s.render request with ⟨e | rendered,after⟩
    all_goals
      rw [rendering] at accounts
      exact accounts
  | send request confirmedFor acknowledged => exact s.send_accounts request confirmedFor acknowledged
  | _ =>
    obtain ⟨silent,same,nothing⟩ := still (by simp) (by simp) (by simp)
    rw [silent,same,nothing,Work.one_still]
    exact accounts_nothing s.events s.mailer.transport.name

/-- What a run has to have done, by its steps and how they were answered. -/
def workOf (keeps : Bool) (steps : List Step) (answers : List Answer) : Work :=
  ⟨steps.countP Step.renders, Step.lookups keeps steps, answers.filterMap Answer.send?⟩

private theorem workOf_cons (keeps : Bool) (step : Step) (steps : List Step) (answer : Answer) (answers : List Answer) :
    workOf keeps (step :: steps) (answer :: answers) =
      (Work.one step.renders keeps answer.send?).andThen (workOf (step.keepsAfter keeps) steps answers) := by
  have sends : (answer :: answers).filterMap Answer.send? = answer.send?.toList ++ answers.filterMap Answer.send? := by
    rw [List.filterMap_cons]
    cases answer.send? <;> rfl
  rw [workOf,countP_cons_toNat,sends]
  rfl

theorem run_accounts (s : Session) (steps : List Step) : Accounts s.events (s.run steps).2.events s.mailer.transport.name
    (workOf s.mailer.press.kept.isSome steps (s.run steps).1) := by
  induction steps generalizing s with
  | nil => exact accounts_nothing s.events s.mailer.transport.name
  | cons step steps ih =>
    have later := ih (s.step step).2
    rw [step_transport_name,step_keeps] at later
    have both := (s.step_accounts step).andThen later
    rw [← workOf_cons] at both
    exact both

end Session

end Letterpress
