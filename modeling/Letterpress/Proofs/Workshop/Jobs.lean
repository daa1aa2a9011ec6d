import Letterpress.Proofs.Press.Keeping
import Letterpress.Proofs.Workshop.Basic

/-! What happens to the jobs of a workshop. A job keeps its number and its order, and what it has been prepared with; only
the stage `keeping` touches the press, and only the stage `prepared` the transport. -/
namespace Letterpress

private theorem Order.finish_press (order : Order) (m : Mailer) (rendered : Except PressError Rendered) :
    (order.finish m rendered).2.press = m.press := by
  cases rendered with
  | error e => rfl
  | ok page => cases order <;> rfl

/-- The ways in which an order gets to its next stage, each with the mailer that it leaves behind. -/
inductive Stage.Next (order : Order) (store : Store) (disk : Disk) (m : Mailer) : Stage → Stage → Mailer → Prop
  | refuse {e : StepError} (held : order.obstacle? = some e) : Next order store disk m waiting (refused e) m
  | takeUp (clear : order.obstacle? = none) : Next order store disk m waiting lookingUp m
  | hit {plate : Plate} (kept : m.press.kept? order.id = some plate) :
    Next order store disk m lookingUp (prepared (.ok plate)) m
  | miss (absent : m.press.kept? order.id = none) : Next order store disk m lookingUp defining m
  | define {definition : Template} (found : store.definition order.id = .ok definition) :
    Next order store disk m defining (loading definition) m
  | lack {e : TemplateError} (lacking : store.definition order.id = .error e) :
    Next order store disk m defining (prepared (.error (.ofTemplateError order.id e))) m
  | load {definition : Template} {markup : String} (read : store.load disk order.id = .ok markup) :
    Next order store disk m (loading definition) (setting definition markup) m
  | misread {definition : Template} {e : TemplateError} (unread : store.load disk order.id = .error e) :
    Next order store disk m (loading definition) (prepared (.error (.ofTemplateError order.id e))) m
  | set {definition : Template} {markup : String} {made : Plate} (done : Plate.ofMarkup definition markup = .ok made) :
    Next order store disk m (setting definition markup) (keeping made) m
  | misset {definition : Template} {markup : String} {e : PressError}
      (failed : Plate.ofMarkup definition markup = .error e) :
    Next order store disk m (setting definition markup) (prepared (.error e)) m
  | keep (made : Plate) : Next order store disk m (keeping made) (prepared (.ok (m.press.keep order.id made).1))
      { m with press := (m.press.keep order.id made).2 }
  | finish (plate : Except PressError Plate) : Next order store disk m (prepared plate)
      (answered plate (order.finish m (plate.bind (·.print order.request))).1)
      (order.finish m (plate.bind (·.print order.request))).2
  | rest {stage : Stage} {answer : Answer} (given : stage.answer? = some answer) : Next order store disk m stage stage m

namespace Stage
variable {order : Order} {store : Store} {disk : Disk} {m after : Mailer} {stage later : Stage}

theorem next_advance (order : Order) (store : Store) (disk : Disk) (m : Mailer) (stage : Stage) :
    Next order store disk m stage (stage.advance order store disk m).1 (stage.advance order store disk m).2 := by
  cases stage with
  | waiting =>
    simp only [advance]
    split
    next held => exact .refuse held
    next clear => exact .takeUp clear
  | lookingUp =>
    simp only [advance]
    split
    next kept => exact .hit kept
    next absent => exact .miss absent
  | defining =>
    simp only [advance]
    split
    next found => exact .define found
    next lacking => exact .lack lacking
  | loading definition =>
    simp only [advance]
    split
    next read => exact .load read
    next unread => exact .misread unread
  | setting definition markup =>
    simp only [advance]
    split
    next done => exact .set done
    next failed => exact .misset failed
  | keeping made => exact .keep made
  | prepared plate => exact .finish plate
  | refused e => exact .rest rfl
  | answered plate answer => exact .rest rfl

private theorem Next.press (next : Next order store disk m stage later after) :
    after.press = m.press ∨ ∃ made, stage = keeping made ∧ later = prepared (.ok (m.press.keep order.id made).1) ∧
      after = { m with press := (m.press.keep order.id made).2 } := by
  cases next with
  | keep made => exact .inr ⟨made,rfl,rfl,rfl⟩
  | finish plate => exact .inl (Order.finish_press order m _)
  | _ => exact .inl rfl

private theorem Next.outcome?_of_some {plate : Except PressError Plate} (next : Next order store disk m stage later after)
    (known : stage.outcome? = some plate) : later.outcome? = some plate := by
  cases next with
  | finish other => exact known
  | rest given => exact known
  | _ => contradiction

theorem Next.outcome?_ok {plate : Plate} (next : Next order store disk m stage later after)
    (pending : stage.outcome? = none) (got : later.outcome? = some (.ok plate)) :
    stage = lookingUp ∧ m.press.kept? order.id = some plate ∨
    ∃ made, stage = keeping made ∧ plate = (m.press.keep order.id made).1 := by
  cases next with
  | hit kept =>
    cases got
    exact .inl ⟨rfl,kept⟩
  | keep made =>
    cases got
    exact .inr ⟨made,rfl,rfl⟩
  | finish other => contradiction
  | rest given =>
    rw [pending] at got
    contradiction
  | _ => cases got

end Stage

namespace Job

theorem order_advance (job : Job) (store : Store) (disk : Disk) (m : Mailer) :
    (job.advance store disk m).1.order = job.order := rfl

theorem next_advance (job : Job) (store : Store) (disk : Disk) (m : Mailer) :
    Stage.Next job.order store disk m job.stage (job.advance store disk m).1.stage (job.advance store disk m).2 :=
  Stage.next_advance job.order store disk m job.stage

theorem outcome?_advance_of_some {job : Job} {plate : Except PressError Plate} (known : job.outcome? = some plate)
    (store : Store) (disk : Disk) (m : Mailer) : (job.advance store disk m).1.outcome? = some plate :=
  (job.next_advance store disk m).outcome?_of_some known

end Job

namespace Workshop
variable {w : Workshop} {move : Move} {i : Nat} {job later : Job}

theorem jobs_advance_self (present : w.jobs[i]? = some job) :
    (w.step (.advance i)).2.jobs[i]? = some (job.advance w.store w.disk w.mailer).1 := by
  rw [step_advance_of_some present]
  obtain ⟨bound,_⟩ := List.getElem?_eq_some_iff.mp present
  exact List.getElem?_set_self bound

/-- What has become of a job after a move: it has come in, it has moved on, or it is as it was. -/
theorem jobs_step_cases (there : (w.step move).2.jobs[i]? = some later) :
    (∃ order, move = .arrive order ∧ w.jobs[i]? = none ∧ later = ⟨order, .waiting⟩) ∨
    (∃ job, move = .advance i ∧ w.jobs[i]? = some job ∧ later = (job.advance w.store w.disk w.mailer).1) ∨
    w.jobs[i]? = some later := by
  rcases step_cases w move with ⟨order,arrival,result⟩ | ⟨j,job,moving,present,result⟩ | ⟨_,_,same⟩
  · rw [result] at there
    simp only [List.getElem?_append] at there
    split at there
    next => exact .inr (.inr there)
    next beyond =>
      obtain ⟨_,same⟩ := List.getElem?_eq_some_iff.mp there
      have last : later = ⟨order,.waiting⟩ := by simpa using same.symm
      exact .inl ⟨order,arrival,List.getElem?_eq_none (Nat.le_of_not_lt beyond),last⟩
  · rw [result] at there
    by_cases here : j = i
    · subst here
      obtain ⟨bound,_⟩ := List.getElem?_eq_some_iff.mp present
      rw [List.getElem?_set_self bound] at there
      exact .inr (.inl ⟨job,moving,present,(Option.some.inj there).symm⟩)
    · rw [List.getElem?_set_ne here] at there
      exact .inr (.inr there)
  · rw [same] at there
    exact .inr (.inr there)

/-- A job is still there after a move, with its order and with what it was prepared with. -/
theorem job_stays (present : w.jobs[i]? = some job) (move : Move) :
    ∃ later, (w.step move).2.jobs[i]? = some later ∧ later.order = job.order ∧
      ∀ plate, job.outcome? = some plate → later.outcome? = some plate := by
  obtain ⟨bound,_⟩ := List.getElem?_eq_some_iff.mp present
  rcases step_cases w move with ⟨order,_,result⟩ | ⟨j,other,_,there,result⟩ | ⟨_,_,same⟩
  · refine ⟨job,?_,rfl,fun _ known => known⟩
    rw [result,List.getElem?_append_left bound]
    exact present
  · rw [result]
    by_cases here : j = i
    · subst here
      have equal : other = job := Option.some.inj (there.symm.trans present)
      subst equal
      exact ⟨_,List.getElem?_set_self bound,rfl,
        fun _ known => Job.outcome?_advance_of_some known w.store w.disk w.mailer⟩
    · exact ⟨job,by rw [List.getElem?_set_ne here]; exact present,rfl,fun _ known => known⟩
  · exact ⟨job,by rw [same]; exact present,rfl,fun _ known => known⟩

theorem job_stays_run (present : w.jobs[i]? = some job) (moves : List Move) :
    ∃ later, (w.run moves).2.jobs[i]? = some later ∧ later.order = job.order ∧
      ∀ plate, job.outcome? = some plate → later.outcome? = some plate := by
  induction moves generalizing w job with
  | nil => exact ⟨job,present,rfl,fun _ known => known⟩
  | cons move rest ih =>
    obtain ⟨next,there,same,keeps⟩ := job_stays present move
    obtain ⟨later,found,equal,kept⟩ := ih there
    exact ⟨later,found,equal.trans same,fun plate known => kept plate (keeps plate known)⟩

theorem step_press (w : Workshop) (move : Move) :
    (w.step move).2.mailer.press = w.mailer.press ∨
    ∃ i order made, move = .advance i ∧ w.jobs[i]? = some ⟨order, .keeping made⟩ ∧
      (w.step move).2.mailer.press = (w.mailer.press.keep order.id made).2 ∧
      (w.step move).2.jobs[i]? = some ⟨order, .prepared (.ok (w.mailer.press.keep order.id made).1)⟩ := by
  rcases step_cases w move with ⟨order,_,result⟩ | ⟨i,⟨order,stage⟩,moving,present,result⟩ | ⟨_,same,_⟩
  · left
    rw [result]
  · rcases (Stage.next_advance order w.store w.disk w.mailer stage).press with still | ⟨made,same,keeps,mailer⟩
    · left
      rw [result]
      exact still
    · right
      subst moving; subst same
      refine ⟨i,order,made,rfl,present,?_,?_⟩
      · rw [result]
        exact congrArg Mailer.press mailer
      · rw [jobs_advance_self present]
        exact congrArg (fun later => some (Job.mk order later)) keeps
  · exact .inl (congrArg Mailer.press same)

end Workshop

end Letterpress
