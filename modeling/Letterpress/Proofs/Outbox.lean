import Letterpress.Proofs.Session.Steps
import Letterpress.Proofs.Workshop.Jobs
import Letterpress.Proofs.Server.Outbox

/-! The outbox as a ledger: what is in it is what was in it at first and one mail for each send that succeeded, in the order
of the answers. In a workshop it is found out when an order is taken up that it may be sent; its mail is handed over much
later, and what was found still holds. -/
namespace Letterpress

/-- An order that has been taken up has nothing that keeps it from being sent. -/
def Stage.Admits (order : Order) : Stage → Prop
  | waiting | refused _ => True
  | _ => order.obstacle? = none

private theorem Stage.Admits.of_next {order : Order} {store : Store} {disk : Disk} {m after : Mailer} {stage later : Stage}
    (admits : stage.Admits order) (next : Next order store disk m stage later after) : later.Admits order := by
  cases next with
  | refuse held => trivial
  | takeUp clear => exact clear
  | _ => exact admits

private theorem Stage.Next.answer?_of_some {order : Order} {store : Store} {disk : Disk} {m after : Mailer}
    {stage later : Stage}
    {answer : Answer} (next : Next order store disk m stage later after) (given : stage.answer? = some answer) :
    later.answer? = some answer := by
  cases next with
  | rest _ => exact given
  | _ => contradiction

private theorem Order.finish_transport {order : Order} (clear : order.obstacle? = none) (m : Mailer)
    (rendered : Except PressError Rendered) :
    m.transport.Takes (order.finish m rendered).2.transport (order.finish m rendered).1.isAccepted
      (Session.Posted (order.step, (order.finish m rendered).1)) := by
  cases rendered with
  | error e => exact Transport.takes_nothing m.transport _
  | ok page =>
    cases order with
    | render request => exact Transport.takes_nothing m.transport _
    | preview request => exact Transport.takes_nothing m.transport _
    | send request confirmedFor acknowledged =>
      cases confirmed : Confirmation.confirm confirmedFor acknowledged with
      | error e =>
        simp only [obstacle?,confirmed] at clear
        contradiction
      | ok c =>
        simp only [obstacle?,confirmed,Option.map_eq_none_iff] at clear
        simp only [finish,deliver]
        cases outcome : (m.transport.deliver (m.config.compose request page.html)).1 with
        | error e => exact .inr ⟨rfl,Transport.deliver_of_error outcome⟩
        | ok n =>
          have delivered := delivered_of_ok clear m.config page.html outcome
          exact .inl ⟨rfl,_,⟨c,confirmed,delivered⟩,Transport.deliver_of_ok outcome⟩

namespace Workshop
variable {w : Workshop} {move : Move} {i : Nat} {answer : Answer}

def Admitted (w : Workshop) : Prop := ∀ (i : Nat) (job : Job), w.jobs[i]? = some job → job.stage.Admits job.order

private theorem admitted_start (store : Store) (disk : Disk) (m : Mailer) : (start store disk m).Admitted := by
  intro i job present
  simp [start] at present

private theorem admitted_step (w : Workshop) (move : Move) (admitted : w.Admitted) : (w.step move).2.Admitted := by
  intro i later there
  rcases jobs_step_cases there with ⟨order,_,_,new⟩ | ⟨job,_,present,advanced⟩ | present
  · rw [new]
    trivial
  · rw [advanced]
    exact (admitted i job present).of_next (job.next_advance w.store w.disk w.mailer)
  · exact admitted i later present

/-- A job with this number has the order that was answered so and has put this mail into the outbox. -/
def Posted (w : Workshop) (given : Nat × Answer) (email : Email) : Prop :=
  ∃ job, w.jobs[given.1]? = some job ∧ Session.Posted (job.order.step, given.2) email

/-- A move gives no answer and leaves the transport as it was, or the answer tells what the transport has taken. -/
theorem step_transport (admitted : w.Admitted) (move : Move) :
    ((w.step move).1 = none ∧ (w.step move).2.mailer.transport = w.mailer.transport) ∨
    ∃ given, (w.step move).1 = some given ∧
      w.mailer.transport.Takes (w.step move).2.mailer.transport given.2.isAccepted (Posted (w.step move).2 given) := by
  rcases step_cases w move with ⟨order,_,result⟩ | ⟨i,⟨order,stage⟩,moving,present,_⟩ | ⟨silent,same,_⟩
  · rw [result]
    exact .inl ⟨rfl,rfl⟩
  · subst moving
    have there : (w.step (.advance i)).2.jobs[i]? = some (Job.advance ⟨order,stage⟩ w.store w.disk w.mailer).1 :=
      jobs_advance_self present
    have admits : stage.Admits order := admitted i _ present
    have next := Stage.next_advance order w.store w.disk w.mailer stage
    rw [step_advance_of_some present] at there ⊢
    simp only [Job.advance] at there ⊢
    generalize stage.advance order w.store w.disk w.mailer = moved at next there ⊢
    obtain ⟨ahead,after⟩ := moved
    cases next with
    | refuse held => exact .inr ⟨(i,.failed _),rfl,Transport.takes_nothing w.mailer.transport _⟩
    | finish plate =>
      right
      refine ⟨(i,(order.finish w.mailer (plate.bind (·.print order.request))).1),rfl,?_⟩
      have takes := Order.finish_transport admits w.mailer (plate.bind (·.print order.request))
      exact takes.imp fun email posted => ⟨_,there,posted⟩
    | rest given =>
      left
      simp only [given]
      exact ⟨trivial,trivial⟩
    | _ => exact .inl ⟨rfl,rfl⟩
  · exact .inl ⟨silent,congrArg Mailer.transport same⟩

private theorem Posted.of_run {given : Nat × Answer} {email : Email} (posted : w.Posted given email) (moves : List Move) :
    (w.run moves).2.Posted given email := by
  obtain ⟨job,present,post⟩ := posted
  obtain ⟨later,there,same,_⟩ := job_stays_run present moves
  exact ⟨later,there,by rw [same]; exact post⟩

private theorem run_transport (admitted : w.Admitted) (moves : List Move) :
    w.mailer.transport.Records (w.run moves).2.mailer.transport (w.run moves).1 (·.2.isAccepted)
      (w.run moves).2.Posted := by
  induction moves generalizing w with
  | nil => exact Transport.records_nil w.mailer.transport
  | cons move rest ih =>
    have later := ih (admitted_step w move admitted)
    simp only [run]
    rcases step_transport admitted move with ⟨silent,same⟩ | ⟨given,answered,takes⟩
    · rw [silent,← same]
      exact later
    · rw [answered]
      -- the order is still that of the job when the run is over
      exact Transport.records_cons (takes.imp fun email posted => posted.of_run rest) later

private theorem step_answer (given : (w.step move).1 = some (i, answer)) :
    ∃ job later, w.jobs[i]? = some job ∧ job.stage.answer? = none ∧
      (w.step move).2.jobs[i]? = some later ∧ later.stage.answer? = some answer := by
  rcases step_cases w move with ⟨order,_,result⟩ | ⟨j,job,moving,present,_⟩ | ⟨silent,_,_⟩
  · rw [result] at given
    contradiction
  · subst moving
    rw [step_advance_of_some present] at given
    cases known : job.stage.answer? with
    | some first =>
      simp only [known] at given
      contradiction
    | none =>
      simp only [known] at given
      obtain ⟨other,got,same⟩ := Option.map_eq_some_iff.mp given
      cases same
      exact ⟨job,_,present,known,jobs_advance_self present,got⟩
  · rw [silent] at given
    contradiction

private theorem answered_stays {job : Job} (present : w.jobs[i]? = some job) (given : job.stage.answer? = some answer)
    (move : Move) : ∃ later, (w.step move).2.jobs[i]? = some later ∧ later.stage.answer? = some answer := by
  obtain ⟨later,there,_,_⟩ := job_stays present move
  refine ⟨later,there,?_⟩
  rcases jobs_step_cases there with ⟨_,_,absent,_⟩ | ⟨other,_,found,advanced⟩ | same
  · rw [present] at absent
    contradiction
  · rw [present] at found
    cases found
    rw [advanced]
    exact (job.next_advance w.store w.disk w.mailer).answer?_of_some given
  · rw [present] at same
    cases same
    exact given

private theorem unanswered_before {moves : List Move} (given : (i, answer) ∈ (w.run moves).1) {job : Job}
    (present : w.jobs[i]? = some job) : job.stage.answer? = none := by
  induction moves generalizing w job with
  | nil => contradiction
  | cons move rest ih =>
    rcases List.mem_append.mp given with now | later
    · obtain ⟨before,_,there,pending,_⟩ := step_answer (Option.mem_toList.mp now)
      rw [present] at there
      cases there
      exact pending
    · cases known : job.stage.answer? with
      | none => rfl
      | some first =>
        obtain ⟨next,there,still⟩ := answered_stays present known move
        rw [ih later there] at still
        contradiction

private theorem answered_once (w : Workshop) (moves : List Move) : ((w.run moves).1.map (·.1)).Nodup := by
  induction moves generalizing w with
  | nil => exact List.nodup_nil
  | cons move rest ih =>
    simp only [run,List.map_append]
    cases given : (w.step move).1 with
    | none => exact ih (w.step move).2
    | some first =>
      obtain ⟨i,answer⟩ := first
      obtain ⟨_,next,_,_,there,known⟩ := step_answer given
      refine List.nodup_cons.mpr ⟨?_,ih (w.step move).2⟩
      intro again
      obtain ⟨⟨j,second⟩,member,same⟩ := List.mem_map.mp again
      cases same
      rw [unanswered_before member there] at known
      contradiction

end Workshop

/-- In a session, in a server and in a workshop the outbox grows by one mail for each send that is answered with success, in
the order in which they are handed over, and by nothing else: whatever is not answered so leaves the transport as it was. Each
mail goes to the recipients of a request which were as many as had been confirmed, and which are as many as the answer says. -/
theorem outbox_is_ledger (outbox : List Email) (failure : Option String) :
    (∀ (s : Session) steps, s.mailer.transport = .memory outbox failure →
      ∃ emails, List.Forall₂ Session.Posted ((steps.zip (s.run steps).1).filter (·.2.isAccepted)) emails ∧
        (s.run steps).2.mailer.transport = .memory (outbox ++ emails) failure) ∧
    (∀ (s : Session) step, (s.step step).1.isAccepted = false →
      (s.step step).2.mailer.transport = s.mailer.transport) ∧
    (∀ (app : Server.App) requests, app.mailer.transport = .memory outbox failure →
      ∃ emails, List.Forall₂ (Server.App.Posted app.settings)
          ((requests.zip (app.answerAll requests).1).filter Server.isAccepted) emails ∧
        (app.answerAll requests).2.mailer.transport = .memory (outbox ++ emails) failure) ∧
    (∀ (app : Server.App) r, Server.isAccepted (r, (app.answer r).1) = false →
      (app.answer r).2.mailer.transport = app.mailer.transport) ∧
    (∀ store disk (m : Mailer) moves, m.transport = .memory outbox failure →
      let (answers, w) := (Workshop.start store disk m).run moves
      (answers.map (·.1)).Nodup ∧
        (∃ emails, List.Forall₂ w.Posted (answers.filter (·.2.isAccepted)) emails ∧
          w.mailer.transport = .memory (outbox ++ emails) failure) ∧
        ∀ move, (∀ given, (w.step move).1 = some given → given.2.isAccepted = false) →
          (w.step move).2.mailer.transport = w.mailer.transport) := by
  refine ⟨?_,?_,?_,?_,?_⟩
  · intro s steps same
    exact (Session.run_transport s steps).memory same
  · intro s step refused
    exact (Session.step_transport s step).unchanged refused
  · intro app requests same
    exact (Server.App.answerAll_transport app requests).memory same
  · intro app r refused
    exact (Server.App.answer_transport app r).unchanged refused
  · intro store disk m moves same
    have first : (Workshop.start store disk m).Admitted := Workshop.admitted_start store disk m
    have admitted : ((Workshop.start store disk m).run moves).2.Admitted :=
      Workshop.run_induction Workshop.admitted_step _ first moves
    refine ⟨Workshop.answered_once _ moves,(Workshop.run_transport first moves).memory same,?_⟩
    intro move refused
    rcases Workshop.step_transport admitted move with ⟨_,still⟩ | ⟨given,answered,takes⟩
    · exact still
    · exact takes.unchanged (refused given answered)

/-- Of two sends the first states a wrong number; the other one is all that comes into the outbox. -/
theorem outbox_is_ledger_of_one :
    let request : RenderRequest := ⟨"a", [], [], ⟨[]⟩, [⟨"to@example.com", some "To"⟩]⟩
    let press : Press := ⟨some [("a", ⟨⟨"a", "A", "a.mjml", none, []⟩, ⟨[.text "Hello"]⟩⟩)]⟩
    let s : Session := ⟨.empty "", .memory [], true, ⟨press, .empty, {}⟩, []⟩
    let steps : List Step := [.send request request.recipients (some 2), .send request request.recipients (some 1)]
    ∃ email, (s.run steps).2.mailer.transport = .memory [email] none ∧
      email.recipients = [⟨some "To", "to@example.com"⟩] := by
  intro request press s steps
  have answers : (s.run steps).1 = [.failed (.confirmation (.countMismatch 1 2)), .accepted 1 "memory"] := by rfl
  obtain ⟨emails,each,result⟩ := (outbox_is_ledger [] none).1 s steps rfl
  rw [answers] at each
  rcases each with _ | ⟨⟨c,_,delivered⟩,rest⟩
  cases rest
  exact ⟨_,result,delivered.addressed⟩

end Letterpress
