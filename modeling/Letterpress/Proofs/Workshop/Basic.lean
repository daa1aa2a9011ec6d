import Letterpress.Session
import Letterpress.Proofs.Mail.Sending

/-! A workshop, in which many orders are under way at once over one store, one press and one transport. Each order goes
through its stages one by one. Between two of them any other order may move, and the store may come to answer otherwise; a
stage itself is not divided, because it touches what is shared at most once. -/
namespace Letterpress

inductive Order
  | render (request : RenderRequest)
  | preview (request : RenderRequest)
  | send (request : RenderRequest) (confirmedFor : List Recipient) (acknowledged : Option Nat)

/-- How far an order has come. A render has ended once it is prepared: with a plate it is printed, without one it fails. -/
inductive Stage
  | waiting
  | refused (error : StepError)
  | lookingUp
  | defining
  | loading (definition : Template)
  | setting (definition : Template) (markup : String)
  | keeping (made : Plate)
  | prepared (plate : Except PressError Plate)
  | answered (plate : Except PressError Plate) (answer : Answer)

namespace Order

def request : Order → RenderRequest
  | render request | preview request | send request _ _ => request

def id (order : Order) : String := order.request.templateId

def step : Order → Step
  | render request => .render request
  | preview request => .preview request
  | send request confirmedFor acknowledged => .send request confirmedFor acknowledged

/-- What keeps an order from being rendered at all. -/
def obstacle? : Order → Option StepError
  | send request confirmedFor acknowledged =>
    match Confirmation.confirm confirmedFor acknowledged with
    | .error e => some (.confirmation e)
    | .ok confirmation => (confirmation.obstacle? request).map .send
  | _ => none

def failure : Order → PressError → StepError
  | send _ _ _, e => .send (.render e)
  | _, e => .render e

/-- What becomes of an order whose page has been rendered: it is shown, or handed to the transport. -/
def deliver (order : Order) (m : Mailer) (rendered : Rendered) : Answer × Mailer :=
  match order with
  | render _ => (.rendered rendered, m)
  | preview _ => (.previewed rendered.html, m)
  | send request _ _ =>
    let (accepted, transport) := m.transport.deliver (m.config.compose request rendered.html)
    (match accepted with
      | .ok n => .accepted n m.transport.name
      | .error e => .failed (.send (.transport e)), { m with transport := transport })

def finish (order : Order) (m : Mailer) : Except PressError Rendered → Answer × Mailer
  | .ok rendered => order.deliver m rendered
  | .error e => (.failed (order.failure e), m)

end Order

namespace Stage

def outcome? : Stage → Option (Except PressError Plate)
  | prepared plate | answered plate _ => some plate
  | _ => none

def answer? : Stage → Option Answer
  | refused e => some (.failed e)
  | answered _ answer => some answer
  | _ => none

/-- The next stage, with the answers that the store gives now, and the mailer afterwards. -/
def advance (order : Order) (store : Store) (disk : Disk) (m : Mailer) : Stage → Stage × Mailer
  | waiting =>
    match order.obstacle? with
    | some e => (refused e, m)
    | none => (lookingUp, m)
  | lookingUp =>
    match m.press.kept? order.id with
    | some plate => (prepared (.ok plate), m)
    | none => (defining, m)
  | defining =>
    match store.definition order.id with
    | .ok definition => (loading definition, m)
    | .error e => (prepared (.error (.ofTemplateError order.id e)), m)
  | loading definition =>
    match store.load disk order.id with
    | .ok markup => (setting definition markup, m)
    | .error e => (prepared (.error (.ofTemplateError order.id e)), m)
  | setting definition markup =>
    match Plate.ofMarkup definition markup with
    | .ok made => (keeping made, m)
    | .error e => (prepared (.error e), m)
  | keeping made =>
    let (plate, press) := m.press.keep order.id made
    (prepared (.ok plate), { m with press := press })
  | prepared plate =>
    let (answer, m) := order.finish m (plate.bind (·.print order.request))
    (answered plate answer, m)
  | stage => (stage, m)

end Stage

structure Job where
  order : Order
  stage : Stage

namespace Job

def outcome? (job : Job) : Option (Except PressError Plate) := job.stage.outcome?

def rendered? (job : Job) : Option (Except PressError Rendered) :=
  job.outcome?.map (·.bind (·.print job.order.request))

def advance (job : Job) (store : Store) (disk : Disk) (m : Mailer) : Job × Mailer :=
  let (stage, m) := job.stage.advance job.order store disk m
  ({ job with stage := stage }, m)

end Job

structure Workshop where
  store : Store
  disk : Disk
  mailer : Mailer
  jobs : List Job

/-- What can happen next: an order comes in, a job moves on, a template is put on the shelf, or the store changes in any
way whatever. -/
inductive Move
  | arrive (order : Order)
  | advance (job : Nat)
  | insert (template : Template) (markup : String)
  | restock (store : Store) (disk : Disk)

def Move.restocks : Move → Bool
  | restock _ _ => true
  | _ => false

namespace Workshop

def start (store : Store) (disk : Disk) (m : Mailer) : Workshop := ⟨store, disk, m, []⟩

/-- A move, with the answer that it gives to a job, if it gives one. -/
def step (w : Workshop) : Move → Option (Nat × Answer) × Workshop
  | .arrive order => (none, { w with jobs := w.jobs ++ [⟨order, .waiting⟩] })
  | .advance i =>
    match w.jobs[i]? with
    | none => (none, w)
    | some job =>
      let (next, m) := job.advance w.store w.disk w.mailer
      (match job.stage.answer? with
        | some _ => none
        | none => next.stage.answer?.map fun answer => (i, answer),
        { w with mailer := m, jobs := w.jobs.set i next })
  | .insert t markup =>
    match w.store with
    | .memory shelf =>
      match Store.shelve shelf t markup with
      | .ok shelf => (none, { w with store := .memory shelf })
      | .error _ => (none, w)
    | _ => (none, w)
  | .restock store disk => (none, { w with store := store, disk := disk })

/-- The moves one after the other: the answers in the order in which they are given, and the workshop afterwards. -/
def run (w : Workshop) : List Move → List (Nat × Answer) × Workshop
  | [] => ([], w)
  | move :: moves =>
    let (answer, w) := w.step move
    let (answers, w) := w.run moves
    (answer.toList ++ answers, w)

private theorem run_append (w : Workshop) (before after : List Move) :
    w.run (before ++ after) =
      ((w.run before).1 ++ ((w.run before).2.run after).1, ((w.run before).2.run after).2) := by
  induction before generalizing w with
  | nil => rfl
  | cons move rest ih =>
    simp only [List.cons_append,run,ih,List.append_assoc]

theorem run_append_snd (w : Workshop) (before after : List Move) :
    (w.run (before ++ after)).2 = ((w.run before).2.run after).2 := by
  rw [run_append]

theorem run_induction {holds : Workshop → Prop} (kept : ∀ w move, holds w → holds (w.step move).2)
    (w : Workshop) (initial : holds w) (moves : List Move) : holds (w.run moves).2 := by
  induction moves generalizing w with
  | nil => exact initial
  | cons move rest ih => exact ih (w.step move).2 (kept w move initial)

theorem step_advance_of_none {w : Workshop} {i : Nat} (absent : w.jobs[i]? = none) :
    w.step (.advance i) = (none, w) := by
  simp only [step,absent]

theorem step_advance_of_some {w : Workshop} {i : Nat} {job : Job} (present : w.jobs[i]? = some job) :
    w.step (.advance i) =
      (match job.stage.answer? with
        | some _ => none
        | none => (job.advance w.store w.disk w.mailer).1.stage.answer?.map fun answer => (i, answer),
        { w with
          mailer := (job.advance w.store w.disk w.mailer).2
          jobs := w.jobs.set i (job.advance w.store w.disk w.mailer).1 }) := by
  simp only [step,present]

/-- A move takes in an order, moves a job on, or touches neither the jobs nor the mailer. -/
theorem step_cases (w : Workshop) (move : Move) :
    (∃ order, move = .arrive order ∧ w.step move = (none, { w with jobs := w.jobs ++ [⟨order, .waiting⟩] })) ∨
    (∃ i job, move = .advance i ∧ w.jobs[i]? = some job ∧
      (w.step move).2 = { w with
        mailer := (job.advance w.store w.disk w.mailer).2
        jobs := w.jobs.set i (job.advance w.store w.disk w.mailer).1 }) ∨
    ((w.step move).1 = none ∧ (w.step move).2.mailer = w.mailer ∧ (w.step move).2.jobs = w.jobs) := by
  cases move with
  | arrive order => exact .inl ⟨order,rfl,rfl⟩
  | advance i =>
    cases present : w.jobs[i]? with
    | none =>
      rw [step_advance_of_none present]
      exact .inr (.inr ⟨rfl,rfl,rfl⟩)
    | some job =>
      rw [step_advance_of_some present]
      exact .inr (.inl ⟨i,job,rfl,present,rfl⟩)
  | insert t markup =>
    right; right
    simp only [step]
    split
    · split <;> exact ⟨rfl,rfl,rfl⟩
    · exact ⟨rfl,rfl,rfl⟩
  | restock store disk => exact .inr (.inr ⟨rfl,rfl,rfl⟩)

end Workshop

end Letterpress
