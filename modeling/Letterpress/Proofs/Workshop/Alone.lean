import Letterpress.Proofs.Session.Steps
import Letterpress.Proofs.Workshop.Basic

/-! An order that nothing comes between. Moves of its job alone take it through its stages one by one; taken through all of
them it gets the answer that a session gives to the step of the same name, and leaves the same mailer behind. -/
namespace Letterpress

namespace Stage
variable {order : Order} {store : Store} {disk : Disk}

def advanceAlone (order : Order) (store : Store) (disk : Disk) : Nat → Stage × Mailer → Stage × Mailer
  | 0, (stage, m) => (stage, m)
  | n + 1, (stage, m) => advanceAlone order store disk n (stage.advance order store disk m)

private theorem advanceAlone_answered (n : Nat) (plate : Except PressError Plate) (answer : Answer) (m : Mailer) :
    advanceAlone order store disk n (answered plate answer, m) = (answered plate answer, m) := by
  induction n with
  | zero => rfl
  | succ n ih => exact ih

private theorem advanceAlone_refused (n : Nat) (e : StepError) (m : Mailer) :
    advanceAlone order store disk n (refused e, m) = (refused e, m) := by
  induction n with
  | zero => rfl
  | succ n ih => exact ih

theorem advanceAlone_to_setting {definition : Template} {markup : String} {m : Mailer} (clear : order.obstacle? = none)
    (absent : m.press.kept? order.id = none) (found : store.definition order.id = .ok definition)
    (read : store.load disk order.id = .ok markup) :
    advanceAlone order store disk 4 (waiting, m) = (setting definition markup, m) := by
  simp only [advanceAlone,advance,clear,absent,found,read]

theorem advanceAlone_setting {definition : Template} {markup : String} {made : Plate}
    (done : Plate.ofMarkup definition markup = .ok made) (m : Mailer) :
    advanceAlone order store disk 2 (setting definition markup, m) =
      (prepared (.ok (m.press.keep order.id made).1), { m with press := (m.press.keep order.id made).2 }) := by
  simp only [advanceAlone,advance,done]

private theorem advanceAlone_of_obstacle {e : StepError} (obstacle : order.obstacle? = some e) (n : Nat) (m : Mailer) :
    advanceAlone order store disk (n + 1) (waiting, m) = (refused e, m) := by
  simp only [advanceAlone,advance,obstacle,advanceAlone_refused]

private theorem advanceAlone_prepared (n : Nat) (plate : Except PressError Plate) (m : Mailer) :
    advanceAlone order store disk (n + 1) (prepared plate, m) =
      (answered plate (order.finish m (plate.bind (·.print order.request))).1,
        (order.finish m (plate.bind (·.print order.request))).2) := by
  exact advanceAlone_answered n plate _ _

private theorem advanceAlone_lookingUp (order : Order) (store : Store) (disk : Disk) (m : Mailer) :
    advanceAlone order store disk 6 (lookingUp, m) =
      advanceAlone order store disk 1 (prepared (m.press.plate store disk order.id).1,
        { m with press := (m.press.plate store disk order.id).2 }) := by
  rw [advanceAlone_prepared 0]
  cases kept : m.press.kept? order.id with
  | some plate =>
    rw [Press.plate_of_kept kept]
    simp only [advanceAlone,advance,kept]
  | none =>
    cases found : store.definition order.id with
    | error e =>
      have failed : Plate.make store disk order.id = .error (.ofTemplateError order.id e) := by
        simp only [Plate.make,found]; rfl
      rw [Press.plate_of_error kept failed]
      simp only [advanceAlone,advance,kept,found]
    | ok definition =>
      cases read : store.load disk order.id with
      | error e =>
        have failed : Plate.make store disk order.id = .error (.ofTemplateError order.id e) := by
          simp only [Plate.make,found,read]; rfl
        rw [Press.plate_of_error kept failed]
        simp only [advanceAlone,advance,kept,found,read]
      | ok markup =>
        have same : Plate.make store disk order.id = Plate.ofMarkup definition markup := by
          simp only [Plate.make,found,read]; rfl
        cases set : Plate.ofMarkup definition markup with
        | error e =>
          rw [Press.plate_of_error kept (same.trans set)]
          simp only [advanceAlone,advance,kept,found,read,set]
        | ok made =>
          have first : (m.press.keep order.id made).1 = made := by rw [Press.keep_fst,kept]; rfl
          rw [Press.plate_of_ok kept (same.trans set)]
          simp only [advanceAlone,advance,kept,found,read,set,first]

end Stage

namespace Order

private theorem finish_alone_render (s : Session) (request : RenderRequest) :
    (render request).finish { s.mailer with press := (s.mailer.press.plate s.store s.disk request.templateId).2 }
        (s.mailer.press.render s.store s.disk request).1 =
      ((s.step (.render request)).1, (s.step (.render request)).2.mailer) := by
  rw [Session.step_render_snd,Session.render_eq]
  simp only [Session.step,Session.render_eq]
  cases (s.mailer.press.render s.store s.disk request).1 <;> rfl

private theorem finish_alone_preview (s : Session) (request : RenderRequest) :
    (preview request).finish { s.mailer with press := (s.mailer.press.plate s.store s.disk request.templateId).2 }
        (s.mailer.press.render s.store s.disk request).1 =
      ((s.step (.preview request)).1, (s.step (.preview request)).2.mailer) := by
  rw [Session.step_preview_snd,Session.render_eq]
  simp only [Session.step,Session.render_eq]
  cases (s.mailer.press.render s.store s.disk request).1 <;> rfl

private theorem finish_alone_send (s : Session) (request : RenderRequest) (confirmedFor : List Recipient)
    (acknowledged : Option Nat) {c : Confirmation} (confirmed : Confirmation.confirm confirmedFor acknowledged = .ok c)
    (clear : c.obstacle? request = none) :
    (send request confirmedFor acknowledged).finish
        { s.mailer with press := (s.mailer.press.plate s.store s.disk request.templateId).2 }
        (s.mailer.press.render s.store s.disk request).1 =
      ((s.step (.send request confirmedFor acknowledged)).1,
        (s.step (.send request confirmedFor acknowledged)).2.mailer) := by
  have press : (s.mailer.press.render s.store s.disk request).2.1 =
      (s.mailer.press.plate s.store s.disk request.templateId).2 := rfl
  simp only [Session.step,Session.send_of_confirmed confirmed,Mailer.deliver_of_clear clear]
  rcases rendering : s.mailer.press.render s.store s.disk request with ⟨e | rendered,after,events⟩
  · rw [rendering] at press
    simp only [finish,failure,← press]
  · rw [rendering] at press
    simp only [finish,deliver,← press]
    rcases s.mailer.transport.deliver (s.mailer.config.compose request rendered.html) with ⟨e | n,transport⟩
    · rfl
    · rfl

end Order

theorem Workshop.run_replicate_advance {w : Workshop} {i : Nat} (order : Order) (stage : Stage)
    (present : w.jobs[i]? = some ⟨order, stage⟩) (n : Nat) :
    (w.run (List.replicate n (.advance i))).2 = { w with
      mailer := (Stage.advanceAlone order w.store w.disk n (stage, w.mailer)).2
      jobs := w.jobs.set i ⟨order, (Stage.advanceAlone order w.store w.disk n (stage, w.mailer)).1⟩ } := by
  induction n generalizing w stage with
  | zero =>
    obtain ⟨_,same⟩ := List.getElem?_eq_some_iff.mp present
    simp only [List.replicate_zero,run,Stage.advanceAlone,← same,List.set_getElem_self]
  | succ n ih =>
    obtain ⟨bound,_⟩ := List.getElem?_eq_some_iff.mp present
    rcases advanced : stage.advance order w.store w.disk w.mailer with ⟨later,m⟩
    have next : (w.step (.advance i)).2 = { w with mailer := m, jobs := w.jobs.set i ⟨order, later⟩ } := by
      rw [step_advance_of_some present]
      simp only [Job.advance,advanced]
    have rest := ih (w := { w with mailer := m, jobs := w.jobs.set i ⟨order, later⟩ }) later (List.getElem?_set_self bound)
    simp only [List.replicate_succ,run,next,rest,Stage.advanceAlone,advanced,List.set_set]

/-- An order that is carried out without a break is the step of a session. -/
theorem Session.step_eq_advanceAlone (s : Session) (order : Order) :
    (Stage.advanceAlone order s.store s.disk 7 (.waiting, s.mailer)).1.answer? = some (s.step order.step).1 ∧
    (Stage.advanceAlone order s.store s.disk 7 (.waiting, s.mailer)).2 = (s.step order.step).2.mailer := by
  have ends (clear : order.obstacle? = none) (result : order.finish
      { s.mailer with press := (s.mailer.press.plate s.store s.disk order.id).2 }
      (s.mailer.press.render s.store s.disk order.request).1 = ((s.step order.step).1, (s.step order.step).2.mailer)) :
      (Stage.advanceAlone order s.store s.disk 7 (.waiting, s.mailer)).1.answer? = some (s.step order.step).1 ∧
      (Stage.advanceAlone order s.store s.disk 7 (.waiting, s.mailer)).2 = (s.step order.step).2.mailer := by
    have first : Stage.advanceAlone order s.store s.disk 7 (.waiting, s.mailer) =
        Stage.advanceAlone order s.store s.disk 6 (.lookingUp, s.mailer) := by
      simp only [Stage.advanceAlone,Stage.advance,clear]
    rw [first,Stage.advanceAlone_lookingUp,Stage.advanceAlone_prepared]
    exact ⟨congrArg some (congrArg (·.1) result),congrArg (·.2) result⟩
  cases order with
  | render request => exact ends rfl (Order.finish_alone_render s request)
  | preview request => exact ends rfl (Order.finish_alone_preview s request)
  | send request confirmedFor acknowledged =>
    cases confirmed : Confirmation.confirm confirmedFor acknowledged with
    | error e =>
      have obstacle : (Order.send request confirmedFor acknowledged).obstacle? = some (.confirmation e) := by
        simp only [Order.obstacle?,confirmed]
      have refused : s.step (.send request confirmedFor acknowledged) = (.failed (.confirmation e), s) :=
        Session.send_of_unconfirmed confirmed s request
      rw [Stage.advanceAlone_of_obstacle obstacle,Order.step,refused]
      exact ⟨rfl,rfl⟩
    | ok c =>
      cases held : c.obstacle? request with
      | some e =>
        have obstacle : (Order.send request confirmedFor acknowledged).obstacle? = some (.send e) := by
          simp only [Order.obstacle?,confirmed,held,Option.map_some]
        rw [Stage.advanceAlone_of_obstacle obstacle]
        simp only [Order.step,Session.step,Session.send_of_confirmed confirmed,Mailer.deliver_of_obstacle held]
        exact ⟨rfl,trivial⟩
      | none =>
        have clear : (Order.send request confirmedFor acknowledged).obstacle? = none := by
          simp only [Order.obstacle?,confirmed,held,Option.map_none]
        exact ends clear (Order.finish_alone_send s request confirmedFor acknowledged confirmed held)

end Letterpress
