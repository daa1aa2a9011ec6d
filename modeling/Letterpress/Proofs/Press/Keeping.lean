import Letterpress.Press.Basic
import Letterpress.Proofs.Store.Shelf

/-! What a press keeps. The first plate that is made for an id stays, and while the store stays as it is a press gives the
same plate for an id however often it is asked, and for whichever ids it is asked before. It is current when every plate that
it keeps is the one that the store would give now, and renders each request then as if it kept nothing. A press stays current
while it makes plates, and while its store only gains templates. -/
namespace Letterpress

/-- A request rendered straight from a store, stage by stage; the first stage that fails says how the render fails. -/
def RenderRequest.fromScratch (request : RenderRequest) (store : Store) (disk : Disk) : Except PressError Rendered := do
  let id := request.templateId
  let definition ← (store.definition id).mapError (.ofTemplateError id)
  let markup ← (store.load disk id).mapError (.ofTemplateError id)
  let html ← (compile ⟨true⟩ markup).mapError .misset
  let page ← ((Placeholder.Template.ofSource html).mapError fun e => .malformed e.message).mapError .injection
  (definition.checkSupplies request.supplies).mapError .injection
  let context := mergeContext request.supplies request.user request.fields request.recipients
  let filled ← ((page.fill (.object context)).mapError fun e => .unfilled e.message).mapError .injection
  return ⟨id, filled, context⟩

namespace Plate
variable {store grown : Store} {disk later : Disk} {id : String} {plate : Plate}

theorem make_bind_print (store : Store) (disk : Disk) (request : RenderRequest) :
    (make store disk request.templateId).bind (·.print request) = request.fromScratch store disk := by
  change (make store disk request.templateId >>= fun plate => plate.print request) = _
  simp only [make,ofMarkup,bind_assoc,pure_bind]
  rfl

theorem make_eq_ok_iff (store : Store) (disk : Disk) (id : String) (plate : Plate) :
    make store disk id = .ok plate ↔
      ∃ definition markup, store.definition id = .ok definition ∧ store.load disk id = .ok markup ∧
        ofMarkup definition markup = .ok plate := by
  unfold make
  cases store.definition id with
  | error e =>
    constructor
    · intro made
      contradiction
    · rintro ⟨_,_,found,_⟩
      contradiction
  | ok definition =>
    cases store.load disk id with
    | error e =>
      constructor
      · intro made
        contradiction
      · rintro ⟨_,_,_,read,_⟩
        contradiction
    | ok markup =>
      constructor
      · intro made
        exact ⟨definition,markup,rfl,rfl,made⟩
      · rintro ⟨_,_,found,read,set⟩
        rw [Except.ok.inj found,Except.ok.inj read]
        exact set

end Plate

/-- Whatever the one store has, the other has, and the same. -/
structure Store.Within (store : Store) (disk : Disk) (grown : Store) (later : Disk) : Prop where
  definition : ∀ id t, store.definition id = .ok t → grown.definition id = .ok t
  load : ∀ id markup, store.load disk id = .ok markup → grown.load later id = .ok markup

namespace Store
variable {store grown : Store} {disk later : Disk} {shelf : List (String × Template × String)}

theorem Within.make (within : store.Within disk grown later) {id : String} {plate : Plate}
    (made : Plate.make store disk id = .ok plate) : Plate.make grown later id = .ok plate := by
  obtain ⟨definition,markup,found,read,set⟩ := (Plate.make_eq_ok_iff store disk id plate).mp made
  exact (Plate.make_eq_ok_iff grown later id plate).mpr
    ⟨definition,markup,within.definition id definition found,within.load id markup read,set⟩

theorem within_of_lookup? {shelf grown : List (String × Template × String)}
    (stays : ∀ id entry, Keyed.lookup? id shelf = some entry → Keyed.lookup? id grown = some entry)
    (disk later : Disk) : (memory shelf).Within disk (memory grown) later := by
  constructor
  · intro id t found
    simp only [Store.definition] at found ⊢
    cases entry : Keyed.lookup? id shelf with
    | none => rw [entry] at found; contradiction
    | some pair => rw [entry] at found; rw [stays id pair entry]; exact found
  · intro id markup found
    simp only [Store.load] at found ⊢
    cases entry : Keyed.lookup? id shelf with
    | none => rw [entry] at found; contradiction
    | some pair => rw [entry] at found; rw [stays id pair entry]; exact found

theorem within_shelve {t : Template} {markup : String} {shelf grown : List (String × Template × String)}
    (shelved : shelve shelf t markup = .ok grown) (disk later : Disk) :
    (memory shelf).Within disk (memory grown) later := by
  obtain ⟨_,absent,same⟩ := shelve_eq_ok_iff.mp shelved
  refine within_of_lookup? ?_ disk later
  intro id entry found
  have different : id ≠ t.id := by
    intro equal
    rw [equal,absent] at found
    contradiction
  rw [same,Keyed.lookup?_insert_of_ne different]
  exact found

end Store

namespace Press
variable {press : Press} {store grown : Store} {disk later : Disk} {id other : String} {made plate : Plate}

theorem kept?_ofCaching (caches : Bool) (id : String) : (ofCaching caches).kept? id = none := by
  cases caches <;> rfl

theorem keep_fst (press : Press) (id : String) (made : Plate) :
    (press.keep id made).1 = (press.kept? id).getD made := by
  obtain ⟨_ | plates⟩ := press
  · rfl
  · simp only [keep,kept?,Option.bind_some]
    split
    next first found => rw [found]; rfl
    next absent => rw [absent]; rfl

theorem keep_snd_of_kept (kept : press.kept? id = some plate) (made : Plate) : (press.keep id made).2 = press := by
  obtain ⟨_ | plates⟩ := press
  · rfl
  · simp only [kept?,Option.bind_some] at kept
    simp only [keep,kept]

private theorem kept?_keep (press : Press) (id : String) (made : Plate) (other : String) :
    (press.keep id made).2.kept? other = (press.kept? other).or
      (if press.kept.isSome ∧ other = id then some made else none) := by
  obtain ⟨_ | plates⟩ := press
  · rfl
  · cases found : Keyed.lookup? id plates with
    | some first =>
      simp only [keep,kept?,found,Option.bind_some,Option.isSome_some,true_and]
      split
      next same => rw [same,found]; rfl
      next => exact (Option.or_none).symm
    | none =>
      simp only [keep,kept?,found,Option.bind_some,Option.isSome_some,true_and,Keyed.lookup?_append,Keyed.lookup?]

theorem kept?_keep_of_kept (kept : press.kept? other = some plate) (id : String) (made : Plate) :
    (press.keep id made).2.kept? other = some plate := by
  rw [kept?_keep,kept]
  rfl

theorem kept?_keep_self (caching : press.kept.isSome) (id : String) (made : Plate) :
    (press.keep id made).2.kept? id = some (press.keep id made).1 := by
  rw [kept?_keep,keep_fst]
  cases press.kept? id <;> simp [caching]

theorem kept?_keep_cases (kept : (press.keep id made).2.kept? other = some plate) :
    press.kept? other = some plate ∨ other = id ∧ plate = made ∧ press.kept? id = none := by
  rw [kept?_keep] at kept
  cases before : press.kept? other with
  | some first => rw [before] at kept; exact .inl kept
  | none =>
    simp only [before,Option.none_or] at kept
    split at kept
    next same =>
      obtain ⟨_,same⟩ := same
      subst same
      exact .inr ⟨rfl,(Option.some.inj kept).symm,before⟩
    next => contradiction

theorem isSome_kept_keep (press : Press) (id : String) (made : Plate) :
    (press.keep id made).2.kept.isSome = press.kept.isSome := by
  obtain ⟨_ | plates⟩ := press
  · rfl
  · simp only [keep]
    split <;> rfl

theorem plate_of_kept (kept : press.kept? id = some plate) (store : Store) (disk : Disk) :
    press.plate store disk id = (.ok plate, press) := by
  simp only [Press.plate,kept]

theorem plate_of_error {e : PressError} (absent : press.kept? id = none)
    (failed : Plate.make store disk id = .error e) : press.plate store disk id = (.error e, press) := by
  simp only [Press.plate,absent,failed]

theorem plate_of_ok (absent : press.kept? id = none) (done : Plate.make store disk id = .ok made) :
    press.plate store disk id = (.ok made, (press.keep id made).2) := by
  have first : (press.keep id made).1 = made := by rw [keep_fst,absent]; rfl
  simp only [Press.plate,absent,done]
  rw [first]

/-- The three ways to a plate: it is kept, it cannot be made, or it is made and kept. -/
theorem plate_cases (press : Press) (store : Store) (disk : Disk) (id : String) :
    (∃ plate, press.kept? id = some plate ∧ press.plate store disk id = (.ok plate, press)) ∨
    (∃ e, press.kept? id = none ∧ Plate.make store disk id = .error e ∧
      press.plate store disk id = (.error e, press)) ∨
    (∃ made, press.kept? id = none ∧ Plate.make store disk id = .ok made ∧
      press.plate store disk id = (.ok made, (press.keep id made).2)) := by
  cases kept : press.kept? id with
  | some plate => exact .inl ⟨plate,rfl,plate_of_kept kept store disk⟩
  | none =>
    cases result : Plate.make store disk id with
    | error e => exact .inr (.inl ⟨e,rfl,rfl,plate_of_error kept result⟩)
    | ok made => exact .inr (.inr ⟨made,rfl,rfl,plate_of_ok kept result⟩)

private theorem plate_fst (press : Press) (store : Store) (disk : Disk) (id : String) :
    (press.plate store disk id).1 = match press.kept? id with
      | some plate => .ok plate
      | none => Plate.make store disk id := by
  rcases plate_cases press store disk id with
    ⟨plate,kept,result⟩ | ⟨e,absent,failed,result⟩ | ⟨made,absent,done,result⟩
  · rw [kept,result]
  · rw [absent,failed,result]
  · rw [absent,done,result]

private theorem kept?_plate_of_kept (kept : press.kept? other = some plate) (store : Store) (disk : Disk) (id : String) :
    (press.plate store disk id).2.kept? other = some plate := by
  rcases plate_cases press store disk id with ⟨_,_,result⟩ | ⟨_,_,_,result⟩ | ⟨made,_,_,result⟩
  · rw [result]; exact kept
  · rw [result]; exact kept
  · rw [result]; exact kept?_keep_of_kept kept id made

private theorem kept?_plate_cases (kept : (press.plate store disk id).2.kept? other = some plate) :
    press.kept? other = some plate ∨ press.kept? other = none ∧ Plate.make store disk other = .ok plate := by
  rcases plate_cases press store disk id with ⟨_,_,result⟩ | ⟨_,_,_,result⟩ | ⟨made,_,done,result⟩
  · rw [result] at kept; exact .inl kept
  · rw [result] at kept; exact .inl kept
  · rw [result] at kept
    rcases kept?_keep_cases kept with before | ⟨same,fresh,absent⟩
    · exact .inl before
    · subst same; subst fresh
      exact .inr ⟨absent,done⟩

/-- Asking for plates changes none of the answers, as long as the store stays as it is. -/
theorem plate_after_plate (press : Press) (store : Store) (disk : Disk) (other id : String) :
    ((press.plate store disk other).2.plate store disk id).1 = (press.plate store disk id).1 := by
  rw [plate_fst (press.plate store disk other).2,plate_fst press]
  cases before : press.kept? id with
  | some plate => rw [kept?_plate_of_kept before store disk other]
  | none =>
    cases after : (press.plate store disk other).2.kept? id with
    | none => rfl
    | some plate =>
      rcases kept?_plate_cases after with kept | ⟨_,done⟩
      · rw [before] at kept; contradiction
      · exact done.symm

def Current (press : Press) (store : Store) (disk : Disk) : Prop :=
  ∀ id plate, press.kept? id = some plate → Plate.make store disk id = .ok plate

theorem current_ofCaching (caches : Bool) (store : Store) (disk : Disk) : (ofCaching caches).Current store disk := by
  intro id plate kept
  rw [kept?_ofCaching] at kept
  contradiction

theorem Current.of_within (current : press.Current store disk) (within : store.Within disk grown later) :
    press.Current grown later :=
  fun id plate kept => within.make (current id plate kept)

theorem Current.after_keep (current : press.Current store disk) {id : String} {made : Plate}
    (done : Plate.make store disk id = .ok made) : (press.keep id made).2.Current store disk := by
  intro other plate kept
  rcases kept?_keep_cases kept with before | ⟨same,fresh,_⟩
  · exact current other plate before
  · rw [same,fresh]
    exact done

theorem Current.after_plate (current : press.Current store disk) (id : String) :
    (press.plate store disk id).2.Current store disk := by
  intro other plate kept
  rcases kept?_plate_cases kept with before | ⟨_,done⟩
  · exact current other plate before
  · exact done

private theorem Current.plate_fst (current : press.Current store disk) (id : String) :
    (press.plate store disk id).1 = Plate.make store disk id := by
  rw [Press.plate_fst]
  cases kept : press.kept? id with
  | none => rfl
  | some plate => exact (current id plate kept).symm

theorem Current.render_fst (current : press.Current store disk) (request : RenderRequest) :
    (press.render store disk request).1 = request.fromScratch store disk := by
  rw [← Plate.make_bind_print,← current.plate_fst]
  rfl

theorem uncaching_render_fst (store : Store) (disk : Disk) (request : RenderRequest) :
    ((ofCaching false).render store disk request).1 = request.fromScratch store disk :=
  (current_ofCaching false store disk).render_fst request

end Press

end Letterpress
