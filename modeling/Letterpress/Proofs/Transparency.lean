import Letterpress.Proofs.Workshop.Jobs
import Letterpress.Proofs.Session.Steps

/-! Keeping plates is transparent. Over a store in memory nothing that a job has read grows old: what it carries from stage to
stage is what the store would give now, and so is every plate that the press keeps. A render therefore ends as one that starts
afresh in the same moment, when one step follows the other and when many orders are under way at once. -/
namespace Letterpress

/-- What a stage carries is what the store gives now. -/
def Stage.Current (store : Store) (disk : Disk) (id : String) : Stage → Prop
  | loading definition => store.definition id = .ok definition
  | setting definition markup => store.definition id = .ok definition ∧ store.load disk id = .ok markup
  | keeping made => Plate.make store disk id = .ok made
  | _ => True

namespace Stage
variable {order : Order} {store grown : Store} {disk later : Disk} {m after : Mailer} {stage ahead : Stage}
  {id : String}

private theorem Current.of_within (current : stage.Current store disk id) (within : store.Within disk grown later) :
    stage.Current grown later id := by
  cases stage with
  | loading definition => exact within.definition id definition current
  | setting definition markup =>
    obtain ⟨found,read⟩ := current
    exact ⟨within.definition id definition found,within.load id markup read⟩
  | keeping made => exact within.make current
  | _ => trivial

private theorem Current.of_next (current : stage.Current store disk order.id)
    (next : Next order store disk m stage ahead after) : ahead.Current store disk order.id := by
  cases next with
  | define found => exact found
  | load read => exact ⟨current,read⟩
  | @set definition markup made done =>
    obtain ⟨found,read⟩ := current
    exact (Plate.make_eq_ok_iff store disk order.id made).mpr ⟨definition,markup,found,read,done⟩
  | rest given => exact current
  | _ => trivial

/-- A render that ends now ends with what the store gives now, whichever stage it ends in. -/
theorem Current.outcome?_next (current : stage.Current store disk order.id) (kept : m.press.Current store disk)
    (next : Next order store disk m stage ahead after) (pending : stage.outcome? = none)
    {plate : Except PressError Plate} (ended : ahead.outcome? = some plate) :
    plate = Plate.make store disk order.id := by
  cases next with
  | @hit first found =>
    cases ended
    exact (kept order.id first found).symm
  | lack lacking =>
    cases ended
    rw [Plate.make,lacking]
    rfl
  | misread unread =>
    have found : store.definition order.id = .ok _ := current
    cases ended
    rw [Plate.make,found,unread]
    rfl
  | misset failed =>
    obtain ⟨found,read⟩ := current
    cases ended
    rw [Plate.make,found,read]
    exact failed.symm
  | keep made =>
    have done : Plate.make store disk order.id = .ok made := current
    -- another job may have handed in its plate meanwhile, but that one is what the store gives as well
    have adopted : (m.press.keep order.id made).1 = made := by
      rw [Press.keep_fst]
      cases before : m.press.kept? order.id with
      | none => rfl
      | some first => exact Except.ok.inj ((kept order.id first before).symm.trans done)
    cases ended
    rw [adopted,done]
  | finish other => contradiction
  | rest given =>
    rw [pending] at ended
    contradiction
  | _ => contradiction

end Stage

namespace Workshop
variable {w : Workshop} {move : Move}

structure Current (w : Workshop) : Prop where
  memory : ∃ shelf, w.store = .memory shelf
  press : w.mailer.press.Current w.store w.disk
  jobs : ∀ (i : Nat) (job : Job), w.jobs[i]? = some job → job.stage.Current w.store w.disk job.order.id

private theorem current_start (shelf : List (String × Template × String)) (disk : Disk) (caches : Bool) (transport : Transport)
    (config : MailConfig) : (start (.memory shelf) disk ⟨.ofCaching caches, transport, config⟩).Current where
  memory := ⟨shelf,rfl⟩
  press := Press.current_ofCaching caches _ disk
  jobs i job present := by simp [start] at present

private theorem step_within (calm : move.restocks = false) {shelf : List (String × Template × String)}
    (memory : w.store = .memory shelf) : (∃ grown, (w.step move).2.store = .memory grown) ∧
      w.store.Within w.disk (w.step move).2.store (w.step move).2.disk := by
  have still (store : (w.step move).2.store = w.store) (disk : (w.step move).2.disk = w.disk) :
      (∃ grown, (w.step move).2.store = .memory grown) ∧
        w.store.Within w.disk (w.step move).2.store (w.step move).2.disk := by
    rw [store,disk]
    exact ⟨⟨shelf,memory⟩,⟨fun _ _ found => found,fun _ _ found => found⟩⟩
  cases move with
  | restock store disk => contradiction
  | arrive order => exact still rfl rfl
  | advance i =>
    cases present : w.jobs[i]? with
    | none => exact still (by rw [step_advance_of_none present]) (by rw [step_advance_of_none present])
    | some job => exact still (by rw [step_advance_of_some present]) (by rw [step_advance_of_some present])
  | insert t markup =>
    cases shelved : Store.shelve shelf t markup with
    | error e =>
      have same : (w.step (.insert t markup)).2 = w := by simp only [step,memory,shelved]
      exact still (by rw [same]) (by rw [same])
    | ok grown =>
      have grows : (w.step (.insert t markup)).2 = { w with store := .memory grown } := by
        simp only [step,memory,shelved]
      rw [grows,memory]
      exact ⟨⟨grown,rfl⟩,Store.within_shelve shelved w.disk w.disk⟩

private theorem current_step (w : Workshop) (move : Move) (calm : move.restocks = false) (current : w.Current) :
    (w.step move).2.Current := by
  obtain ⟨shelf,memory⟩ := current.memory
  obtain ⟨still,within⟩ := step_within calm memory
  refine ⟨still,?_,?_⟩
  · rcases step_press w move with same | ⟨i,order,made,_,present,keeps,_⟩
    · rw [same]
      exact current.press.of_within within
    · have done : Plate.make w.store w.disk order.id = .ok made := current.jobs i _ present
      rw [keeps]
      exact (current.press.after_keep done).of_within within
  · intro i later there
    rcases jobs_step_cases there with ⟨order,_,_,new⟩ | ⟨job,_,present,advanced⟩ | present
    · rw [new]
      trivial
    · rw [advanced]
      exact ((current.jobs i job present).of_next (job.next_advance w.store w.disk w.mailer)).of_within within
    · exact (current.jobs i later present).of_within within

private theorem current_run (w : Workshop) (moves : List Move) (calm : ∀ move ∈ moves, move.restocks = false)
    (current : w.Current) : (w.run moves).2.Current := by
  induction moves generalizing w with
  | nil => exact current
  | cons move rest ih =>
    refine ih (w.step move).2 (fun other member => calm other (List.mem_cons_of_mem move member)) ?_
    exact current_step w move (calm move List.mem_cons_self) current

/-- A render that returns in the next move of its job returns what a render from scratch would give now. -/
theorem Current.rendered? (current : w.Current) {i : Nat} {job : Job} {rendered : Except PressError Rendered}
    (present : w.jobs[i]? = some job) (pending : job.rendered? = none)
    (returned : (job.advance w.store w.disk w.mailer).1.rendered? = some rendered) :
    rendered = job.order.request.fromScratch w.store w.disk := by
  obtain ⟨order,stage⟩ := job
  have waiting : stage.outcome? = none := Option.map_eq_none_iff.mp pending
  obtain ⟨plate,ended,same⟩ := Option.map_eq_some_iff.mp returned
  have fresh := (current.jobs i _ present).outcome?_next current.press
    (Stage.next_advance order w.store w.disk w.mailer stage) waiting ended
  rw [← same,fresh]
  exact Plate.make_bind_print w.store w.disk order.request

end Workshop

namespace Session

def ofRender : Except PressError Rendered → Answer
  | .ok rendered => .rendered rendered
  | .error e => .failed (.render e)

private theorem step_render_fst (s : Session) (request : RenderRequest) :
    (s.step (.render request)).1 = ofRender (s.mailer.press.render s.store s.disk request).1 := by
  simp only [step,render_eq]
  cases (s.mailer.press.render s.store s.disk request).1 <;> rfl

structure Current (s : Session) : Prop where
  memory : ∃ shelf, s.store = .memory shelf
  press : s.mailer.press.Current s.store s.disk

private theorem current_start (disk : Disk) (shelf : List (String × Template × String)) (atHand caches : Bool)
    (transport : Transport) (config : MailConfig) :
    (start disk (.memory shelf) atHand caches transport config).Current where
  memory := ⟨shelf,rfl⟩
  press := Press.current_ofCaching caches _ disk

private theorem step_within (s : Session) (step : Step) {shelf : List (String × Template × String)}
    (memory : s.store = .memory shelf) : (∃ grown, (s.step step).2.store = .memory grown) ∧
      s.store.Within s.disk (s.step step).2.store (s.step step).2.disk := by
  rcases step_store s step with same | ⟨t,markup,before,grown,_,there,shelved,result⟩
  · rw [same,memory]
    exact ⟨⟨shelf,rfl⟩,Store.within_of_lookup? (fun _ _ found => found) s.disk _⟩
  · rw [result,there]
    exact ⟨⟨grown,rfl⟩,Store.within_shelve shelved s.disk _⟩

private theorem current_step (s : Session) (step : Step) (current : s.Current) : (s.step step).2.Current := by
  obtain ⟨shelf,memory⟩ := current.memory
  obtain ⟨still,within⟩ := step_within s step memory
  refine ⟨still,?_⟩
  rcases step_press s step with ⟨caches,config,_,fresh⟩ | same | ⟨id,asked⟩
  · rw [fresh]
    exact Press.current_ofCaching caches _ _
  · rw [same]
    exact current.press.of_within within
  · rw [asked]
    exact (current.press.after_plate id).of_within within

private theorem current_run (s : Session) (steps : List Step) (current : s.Current) : (s.run steps).2.Current :=
  run_induction current_step s current steps

end Session

/-- Every render over a store in memory ends as on a press that keeps nothing, from the store as it is in that moment: in a
session after any steps, and in a workshop after any moves but a change of the whole store. A press that keeps nothing goes
through all stages from the definition of the template to the filled page, and stops at the first that fails. -/
theorem keeping_is_transparent (shelf : List (String × Template × String)) (disk : Disk) (atHand caches : Bool)
    (transport : Transport) (config : MailConfig) :
    (∀ before request after,
      let opened := Session.start disk (.memory shelf) atHand caches transport config
      let s := (opened.run before).2
      (opened.run (before ++ .render request :: after)).1[before.length]? =
        some (Session.ofRender ((Press.ofCaching false).render s.store s.disk request).1)) ∧
    (∀ moves : List Move, (∀ move ∈ moves, move.restocks = false) →
      let w := ((Workshop.start (.memory shelf) disk ⟨.ofCaching caches, transport, config⟩).run moves).2
      ∀ (i : Nat) job rendered, w.jobs[i]? = some job → job.rendered? = none →
        (job.advance w.store w.disk w.mailer).1.rendered? = some rendered →
        rendered = ((Press.ofCaching false).render w.store w.disk job.order.request).1) ∧
    ∀ store disk request, ((Press.ofCaching false).render store disk request).1 = request.fromScratch store disk := by
  refine ⟨?_,?_,Press.uncaching_render_fst⟩
  · intro before request after opened s
    have current : s.Current :=
      Session.current_run opened before (Session.current_start disk shelf atHand caches transport config)
    rw [Session.run_answer,Session.step_render_fst,current.press.render_fst,Press.uncaching_render_fst]
  · intro moves calm w i job rendered present pending returned
    have current : w.Current :=
      Workshop.current_run _ moves calm (Workshop.current_start shelf disk caches transport config)
    rw [Press.uncaching_render_fst]
    exact current.rendered? present pending returned

/-- The template comes in after the press has been looked through for it in vain, and its markup is empty. -/
theorem keeping_is_transparent_after_a_miss :
    let request : RenderRequest := ⟨"a", [], [], ⟨[]⟩, []⟩
    let w := ((Workshop.start (.memory []) (.empty "") ⟨.ofCaching true, .empty, {}⟩).run
      [.arrive (.render request), .advance 0, .advance 0, .insert ⟨"a", "A", "a.mjml", none, []⟩ "", .advance 0,
        .advance 0]).2
    ((Press.ofCaching false).render w.store w.disk request).1 =
      .error (.misset ⟨⟨1, 1⟩, "document has no <mjml> root element"⟩) := by
  intro request w
  have blank : compile ⟨true⟩ "" = .error ⟨⟨1, 1⟩, "document has no <mjml> root element"⟩ := by
    have nothing : Markup.withoutMark "".toList = [] := rfl
    simp only [compile,Markup.Element.ofSource,Markup.lexemes]
    rw [nothing,Markup.lexemesFrom]
    rfl
  have present : w.jobs[0]? = some ⟨.render request, .setting ⟨"a", "A", "a.mjml", none, []⟩ ""⟩ := by rfl
  have returned : (Job.advance ⟨.render request, .setting ⟨"a", "A", "a.mjml", none, []⟩ ""⟩ w.store w.disk
      w.mailer).1.rendered? = some (.error (.misset ⟨⟨1, 1⟩, "document has no <mjml> root element"⟩)) := by
    simp only [Job.advance,Stage.advance,Plate.ofMarkup,blank]
    rfl
  exact ((keeping_is_transparent [] (.empty "") false true .empty {}).2.1
    [.arrive (.render request), .advance 0, .advance 0, .insert ⟨"a", "A", "a.mjml", none, []⟩ "", .advance 0,
      .advance 0] (by decide) 0 _ _ present rfl returned).symm

end Letterpress
