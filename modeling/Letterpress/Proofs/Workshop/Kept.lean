import Letterpress.Proofs.Plain
import Letterpress.Proofs.Workshop.Alone
import Letterpress.Proofs.Workshop.Jobs
import Mathlib.Data.List.Dedup

/-! The plates that a workshop keeps. Of several renders that make a plate for one id the first to hand it in wins, and all
that come after print from that plate, however the store has changed meanwhile. -/
namespace Letterpress

namespace Job

def preparedId? (job : Job) : Option String :=
  match job.outcome? with
  | some (.ok _) => some job.order.id
  | _ => none

private theorem preparedId?_eq_some_iff (job : Job) (id : String) :
    job.preparedId? = some id ↔ job.order.id = id ∧ ∃ plate, job.outcome? = some (.ok plate) := by
  unfold preparedId?
  rcases job.outcome? with _ | _ | plate <;> simp

end Job

namespace Press

def keptIds (press : Press) : List String := (press.kept.getD []).map (·.1)

private theorem length_keptIds (press : Press) : press.keptIds.length = press.cached := List.length_map _

private theorem mem_keptIds_iff (press : Press) (id : String) :
    id ∈ press.keptIds ↔ ∃ plate, press.kept? id = some plate := by
  obtain ⟨_ | plates⟩ := press
  · simp [keptIds,kept?]
  · rw [← Option.ne_none_iff_exists']
    change id ∈ plates.map (·.1) ↔ Keyed.lookup? id plates ≠ none
    rw [ne_eq,Keyed.lookup?_eq_none_iff,not_not]

private theorem nodup_keptIds_keep {press : Press} (distinct : press.keptIds.Nodup) (id : String) (made : Plate) :
    (press.keep id made).2.keptIds.Nodup := by
  obtain ⟨_ | plates⟩ := press
  · exact distinct
  · simp only [keep]
    split
    next => exact distinct
    next absent =>
      have fresh : id ∉ plates.map (·.1) := (Keyed.lookup?_eq_none_iff id plates).mp absent
      simp only [keptIds,Option.getD_some,List.map_append,List.map_cons,List.map_nil]
      exact List.nodup_append.mpr ⟨distinct,List.nodup_singleton id,fun a member b last => by
        rw [List.mem_singleton.mp last]
        rintro rfl
        exact fresh member⟩

end Press

namespace Workshop
variable {w : Workshop}

/-- The press keeps plates, one for each id; every job that has got a plate has got the kept one, and every kept plate has
been got by some job. -/
structure Tidy (w : Workshop) : Prop where
  caching : w.mailer.press.kept.isSome
  distinct : w.mailer.press.keptIds.Nodup
  agreed : ∀ (i : Nat) (job : Job) plate, w.jobs[i]? = some job → job.outcome? = some (.ok plate) →
    w.mailer.press.kept? job.order.id = some plate
  vouched : ∀ id plate, w.mailer.press.kept? id = some plate →
    ∃ (i : Nat) (job : Job), w.jobs[i]? = some job ∧ job.order.id = id ∧ job.outcome? = some (.ok plate)

private theorem tidy_start (store : Store) (disk : Disk) (transport : Transport) (config : MailConfig) :
    (start store disk ⟨.ofCaching true, transport, config⟩).Tidy where
  caching := rfl
  distinct := List.nodup_nil
  agreed i job plate present := by simp [start] at present
  vouched id plate kept := by
    change (Press.ofCaching true).kept? id = some plate at kept
    rw [Press.kept?_ofCaching] at kept
    contradiction

private theorem kept?_step {id : String} {plate : Plate} (kept : w.mailer.press.kept? id = some plate) (move : Move) :
    (w.step move).2.mailer.press.kept? id = some plate := by
  rcases step_press w move with same | ⟨i,order,made,_,_,keeps,_⟩
  · rw [same]
    exact kept
  · rw [keeps]
    exact Press.kept?_keep_of_kept kept order.id made

private theorem kept?_run {id : String} {plate : Plate} (kept : w.mailer.press.kept? id = some plate) (moves : List Move) :
    (w.run moves).2.mailer.press.kept? id = some plate :=
  @run_induction (fun w => w.mailer.press.kept? id = some plate) (fun _ move held => kept?_step held move) w kept moves

private theorem kept?_of_outcome? (caching : w.mailer.press.kept.isSome) {i : Nat} {job : Job} {plate : Plate}
    (present : w.jobs[i]? = some job) (pending : job.outcome? = none)
    (got : (job.advance w.store w.disk w.mailer).1.outcome? = some (.ok plate)) :
    (w.step (.advance i)).2.mailer.press.kept? job.order.id = some plate := by
  obtain ⟨order,stage⟩ := job
  have next := Stage.next_advance order w.store w.disk w.mailer stage
  rcases next.outcome?_ok pending got with ⟨_,kept⟩ | ⟨made,same,adopted⟩
  · exact kept?_step kept (.advance i)
  · subst same; subst adopted
    rw [step_advance_of_some present]
    exact Press.kept?_keep_self caching order.id made

private theorem agreed_step (tidy : w.Tidy) (move : Move) {i : Nat} {later : Job} {plate : Plate}
    (there : (w.step move).2.jobs[i]? = some later) (got : later.outcome? = some (.ok plate)) :
    (w.step move).2.mailer.press.kept? later.order.id = some plate := by
  rcases jobs_step_cases there with ⟨order,_,_,new⟩ | ⟨job,moving,present,advanced⟩ | present
  · rw [new] at got
    contradiction
  · subst moving; subst advanced
    rw [Job.order_advance]
    cases known : job.outcome? with
    | none => exact kept?_of_outcome? tidy.caching present known got
    | some outcome =>
      have same := Job.outcome?_advance_of_some known w.store w.disk w.mailer
      rw [got,← known] at same
      exact kept?_step (tidy.agreed i job plate present same.symm) (.advance i)
  · exact kept?_step (tidy.agreed i later plate present got) move

private theorem vouched_step (tidy : w.Tidy) (move : Move) {id : String} {plate : Plate}
    (kept : (w.step move).2.mailer.press.kept? id = some plate) :
    ∃ (i : Nat) (job : Job), (w.step move).2.jobs[i]? = some job ∧ job.order.id = id ∧
      job.outcome? = some (.ok plate) := by
  have held (before : w.mailer.press.kept? id = some plate) :
      ∃ (i : Nat) (job : Job), (w.step move).2.jobs[i]? = some job ∧ job.order.id = id ∧
        job.outcome? = some (.ok plate) := by
    obtain ⟨i,job,present,same,got⟩ := tidy.vouched id plate before
    obtain ⟨later,there,equal,keeps⟩ := job_stays present move
    exact ⟨i,later,there,by rw [equal]; exact same,keeps _ got⟩
  rcases step_press w move with same | ⟨i,order,made,_,_,keeps,there⟩
  · rw [same] at kept
    exact held kept
  · rw [keeps] at kept
    rcases Press.kept?_keep_cases kept with before | ⟨same,fresh,absent⟩
    · exact held before
    · -- nothing was kept for this id, so the job adopts the plate that it has made itself
      refine ⟨i,_,there,same.symm,?_⟩
      rw [Press.keep_fst,absent,fresh]
      rfl

private theorem tidy_step (w : Workshop) (move : Move) (tidy : w.Tidy) : (w.step move).2.Tidy := by
  refine ⟨?_,?_,fun _ _ _ there got => agreed_step tidy move there got,fun _ _ kept => vouched_step tidy move kept⟩
  · rcases step_press w move with same | ⟨_,order,made,_,_,keeps,_⟩
    · rw [same]
      exact tidy.caching
    · rw [keeps,Press.isSome_kept_keep]
      exact tidy.caching
  · rcases step_press w move with same | ⟨_,order,made,_,_,keeps,_⟩
    · rw [same]
      exact tidy.distinct
    · rw [keeps]
      exact Press.nodup_keptIds_keep tidy.distinct order.id made

private theorem tidy_run (store : Store) (disk : Disk) (transport : Transport) (config : MailConfig) (moves : List Move) :
    ((start store disk ⟨.ofCaching true, transport, config⟩).run moves).2.Tidy :=
  run_induction tidy_step _ (tidy_start store disk transport config) moves

private theorem Tidy.cached (tidy : w.Tidy) : w.mailer.press.cached = (w.jobs.filterMap Job.preparedId?).dedup.length := by
  have same : w.mailer.press.keptIds.Perm (w.jobs.filterMap Job.preparedId?).dedup := by
    apply (List.perm_ext_iff_of_nodup tidy.distinct (List.nodup_dedup _)).mpr
    intro id
    rw [Press.mem_keptIds_iff,List.mem_dedup,List.mem_filterMap]
    constructor
    · rintro ⟨plate,kept⟩
      obtain ⟨i,job,present,equal,got⟩ := tidy.vouched id plate kept
      exact ⟨job,List.mem_of_getElem? present,(job.preparedId?_eq_some_iff id).mpr ⟨equal,plate,got⟩⟩
    · rintro ⟨job,member,prepared⟩
      obtain ⟨i,present⟩ := List.mem_iff_getElem?.mp member
      obtain ⟨equal,plate,got⟩ := (job.preparedId?_eq_some_iff id).mp prepared
      subst equal
      exact ⟨plate,tidy.agreed i job plate present got⟩
  rw [← Press.length_keptIds]
  exact same.length_eq

/-- A move that changes the press puts a new plate under an id that had none, on behalf of a job that has made that plate. -/
theorem kept_first (w : Workshop) (move : Move) (changed : (w.step move).2.mailer.press ≠ w.mailer.press) :
    ∃ i order made, move = .advance i ∧ w.jobs[i]? = some ⟨order, .keeping made⟩ ∧
      w.mailer.press.kept? order.id = none ∧ (w.step move).2.jobs[i]? = some ⟨order, .prepared (.ok made)⟩ := by
  rcases step_press w move with same | ⟨i,order,made,moving,present,keeps,there⟩
  · contradiction
  · cases before : w.mailer.press.kept? order.id with
    | none =>
      rw [Press.keep_fst,before] at there
      exact ⟨i,order,made,moving,present,before,there⟩
    | some first =>
      have still : (w.mailer.press.keep order.id made).2 = w.mailer.press := Press.keep_snd_of_kept before made
      exact absurd (keeps.trans still) changed

/-- In this move a job brings in the plate that it has made, under an id that had none. Later on the plate is still kept, and
the job is prepared with it. -/
def Brings (w : Workshop) (move : Move) (later : Workshop) : Prop :=
  ∃ i order made job, move = .advance i ∧ w.jobs[i]? = some ⟨order, .keeping made⟩ ∧
    w.mailer.press.kept? order.id = none ∧ later.mailer.press.kept? order.id = some made ∧
    later.jobs[i]? = some job ∧ job.outcome? = some (.ok made)

private theorem brings_of_changed (w : Workshop) (move : Move) (after : List Move) (tidy : (w.step move).2.Tidy)
    (changed : (w.step move).2.mailer.press ≠ w.mailer.press) : w.Brings move (w.run (move :: after)).2 := by
  obtain ⟨i,order,made,moving,present,absent,there⟩ := kept_first w move changed
  obtain ⟨later,found,_,keeps⟩ := job_stays_run there after
  have kept : (w.step move).2.mailer.press.kept? order.id = some made := tidy.agreed i _ made there rfl
  exact ⟨i,order,made,later,moving,present,absent,kept?_run kept after,found,keeps _ rfl⟩

/-- The first plate that is handed in for an id stays. However the moves of any number of orders fall between each other,
and however the store changes: what is kept stays kept; all jobs with an id that have got a plate have got the kept one; the
press changes only where a job brings in a plate, under an id that had none; a job whose preparation fails has changed
nothing; and there are as many plates as ids that some job has been prepared for. -/
theorem first_plate_stays (store : Store) (disk : Disk) (transport : Transport) (config : MailConfig) (moves : List Move) :
    let opened := start store disk ⟨.ofCaching true, transport, config⟩
    let late := (opened.run moves).2
    (∀ before after, moves = before ++ after → ∀ id plate,
      (opened.run before).2.mailer.press.kept? id = some plate → late.mailer.press.kept? id = some plate) ∧
    (∀ job ∈ late.jobs, ∀ plate, job.outcome? = some (.ok plate) →
      late.mailer.press.kept? job.order.id = some plate) ∧
    (∀ before move after, moves = before ++ move :: after →
      ((opened.run before).2.step move).2.mailer.press ≠ (opened.run before).2.mailer.press →
      (opened.run before).2.Brings move late) ∧
    (∀ before i after, moves = before ++ .advance i :: after → ∀ job e, late.jobs[i]? = some job →
      job.outcome? = some (.error e) →
      ((opened.run before).2.step (.advance i)).2.mailer.press = (opened.run before).2.mailer.press) ∧
    late.mailer.press.cached = (late.jobs.filterMap Job.preparedId?).dedup.length := by
  intro opened late
  have tidy (moves : List Move) : (opened.run moves).2.Tidy := tidy_run store disk transport config moves
  have ends {before after : List Move} (parts : moves = before ++ after) :
      late = ((opened.run before).2.run after).2 := by
    rw [← run_append_snd,← parts]
  have first (before : List Move) (move : Move) (after : List Move) (parts : moves = before ++ move :: after)
      (changed : ((opened.run before).2.step move).2.mailer.press ≠ (opened.run before).2.mailer.press) :
      (opened.run before).2.Brings move late := by
    have next : ((opened.run before).2.step move).2 = (opened.run (before ++ [move])).2 := by
      rw [run_append_snd]
      rfl
    rw [ends parts]
    exact brings_of_changed (opened.run before).2 move after (next ▸ tidy (before ++ [move])) changed
  refine ⟨?_,?_,first,?_,(tidy moves).cached⟩
  · intro before after parts id plate kept
    rw [ends parts]
    exact kept?_run kept after
  · intro job member plate got
    obtain ⟨i,present⟩ := List.mem_iff_getElem?.mp member
    exact (tidy moves).agreed i job plate present got
  · intro before i after parts job e present failed
    -- a job that changes the press ends with a plate, and this one has ended with an error
    by_contra changed
    obtain ⟨j,order,made,later,moving,_,_,_,there,got⟩ := first before (.advance i) after parts changed
    cases moving
    rw [present] at there
    cases there
    rw [failed] at got
    cases got

/-- Of two renders of one id the second finds the store changed, and is through before the first has set its page. -/
def overtaking (request : RenderRequest) (later : Store) (disk : Disk) : List Move :=
  [.arrive (.render request), .arrive (.render request)] ++ List.replicate 4 (.advance 0) ++ [.restock later disk] ++
    List.replicate 6 (.advance 1)

private theorem exists_page_of_plain {markup html : String} (compiled : compile ⟨true⟩ markup = .ok html)
    (plain : IsPlain html) :
    ∃ page, ∀ definition : Template, Plate.ofMarkup definition markup = .ok ⟨definition, page⟩ := by
  obtain ⟨page,read,_⟩ := Placeholder.filled_of_plain plain.1
  have taken : Plate.readPage html = .ok page := by
    unfold Plate.readPage
    rw [read]
    rfl
  refine ⟨page,fun definition => ?_⟩
  unfold Plate.ofMarkup
  rw [compiled]
  change ((Plate.readPage html).mapError PressError.injection >>= _) = _
  rw [taken]
  rfl

def named (name : String) : Template := ⟨"a", name, "a.mjml", none, []⟩

/-- A shelf whose one template has got the name `name`. -/
def shelving (name : String) : Store := .memory [("a", named name, quietSource)]

/-- Two renders over such a shelf, with a press that keeps these plates. -/
def racing (request : RenderRequest) (name : String) (plates : List (String × Plate)) (first second : Stage) : Workshop :=
  ⟨shelving name, .empty "", ⟨⟨some plates⟩, .empty, {}⟩, [⟨.render request, first⟩, ⟨.render request, second⟩]⟩

private theorem definition_shelving (name : String) : (shelving name).definition "a" = .ok (named name) := by
  simp only [shelving,Store.definition,Keyed.lookup?,reduceIte]

private theorem load_shelving (name : String) : (shelving name).load (.empty "") "a" = .ok quietSource := by
  simp only [shelving,Store.load,Keyed.lookup?,reduceIte]

/-- The template gets another name while the first render is under way. Both print from the plate of the second, which has
the new name. -/
theorem first_plate_stays_in_a_race :
    let request : RenderRequest := ⟨"a", [], [], ⟨[]⟩, []⟩
    let opened := start (shelving "A") (.empty "") ⟨.ofCaching true, .empty, {}⟩
    let moves := overtaking request (shelving "B") (.empty "") ++ List.replicate 2 (.advance 0)
    ∃ plate, plate.definition = named "B" ∧
      (opened.run moves).2.jobs.map Job.outcome? = [some (.ok plate), some (.ok plate)] := by
  intro request opened moves
  have plain : IsPlain quietSource := isPlain_iff.mpr (Html.lone_ofList _ rfl)
  have still := (isPlain_page_iff ⟨true⟩ (Markup.assembled_of_source ofSource_quietSource) plain).mpr fun _ =>
    keepsRawApart_quietDocument
  obtain ⟨page,set⟩ := exists_page_of_plain (compile_of_root ⟨true⟩ ofSource_quietSource) still
  let arrivals : List Move := [.arrive (.render request), .arrive (.render request)]
  let kept := [("a", Plate.mk (named "B") page)]
  have first : (opened.run (arrivals ++ List.replicate 4 (.advance 0))).2 =
      racing request "A" [] (.setting (named "A") quietSource) .waiting := by
    rw [run_append_snd,run_replicate_advance (.render request) .waiting rfl]
    rw [Stage.advanceAlone_to_setting rfl rfl (definition_shelving "A") (load_shelving "A")]
    rfl
  have loaded : ((racing request "B" [] (.setting (named "A") quietSource) .waiting).run (List.replicate 4 (.advance 1))).2 =
      racing request "B" [] (.setting (named "A") quietSource) (.setting (named "B") quietSource) := by
    rw [run_replicate_advance (.render request) .waiting rfl]
    rw [Stage.advanceAlone_to_setting rfl rfl (definition_shelving "B") (load_shelving "B")]
    rfl
  have second : (opened.run (overtaking request (shelving "B") (.empty ""))).2 =
      racing request "B" kept (.setting (named "A") quietSource) (.prepared (.ok ⟨named "B",page⟩)) := by
    rw [overtaking,run_append_snd,run_append_snd,first]
    change ((racing request "B" [] (.setting (named "A") quietSource) .waiting).run
      (List.replicate 4 (.advance 1) ++ List.replicate 2 (.advance 1))).2 = _
    rw [run_append_snd,loaded,run_replicate_advance (.render request) (.setting (named "B") quietSource) rfl]
    rw [Stage.advanceAlone_setting (set (named "B"))]
    rfl
  have ended : ∃ plate, (opened.run moves).2.jobs =
      [⟨.render request, .prepared (.ok plate)⟩, ⟨.render request, .prepared (.ok ⟨named "B",page⟩)⟩] := by
    rw [run_append_snd,second,run_replicate_advance (.render request) (.setting (named "A") quietSource) rfl]
    rw [Stage.advanceAlone_setting (set (named "A"))]
    exact ⟨_,rfl⟩
  -- which plate the first render gets is not worked out here: it is the kept one, which the second render has brought in
  obtain ⟨plate,jobs⟩ := ended
  obtain ⟨stays,agreed,_⟩ := first_plate_stays (shelving "A") (.empty "") .empty {} moves
  have shown := stays (overtaking request (shelving "B") (.empty "")) _ rfl "a" ⟨named "B",page⟩ (by rw [second]; rfl)
  have got := agreed ⟨.render request, .prepared (.ok plate)⟩ (by rw [jobs]; exact List.mem_cons_self) plate rfl
  have same : plate = ⟨named "B",page⟩ := Option.some.inj (got.symm.trans shown)
  refine ⟨plate,by rw [same],?_⟩
  rw [jobs,same]
  rfl

end Workshop

end Letterpress
