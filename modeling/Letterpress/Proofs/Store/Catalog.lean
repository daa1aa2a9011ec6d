import Letterpress.Proofs.Store.Shelf
import Letterpress.Proofs.Basic

/-! The catalog of a directory. It is accepted if every template in it is sound and no id comes twice; the store then has
the templates in the order of their ids, whatever their order in the catalog. The same templates, each with its markup, can be
put on an empty shelf one after the other exactly when a catalog of them would be accepted, and the shelf then says about them
what a directory with that catalog says. -/
namespace Letterpress.Store

/-- Templates, each with its markup. -/
abbrev Stock := List (Template × String)

/-- Puts the stock on a shelf, up to the first template that is refused. -/
def shelveAll (shelf : List (String × Template × String)) (stock : Stock) :
    Except TemplateError (List (String × Template × String)) :=
  stock.foldlM (fun shelf (t, markup) => shelve shelf t markup) shelf

def Stock.templates (stock : Stock) : List Template := stock.map (·.1)

def Stock.entries (stock : Stock) : List (String × Template × String) := stock.map fun (t, markup) => (t.id, t, markup)

variable {templates : List Template} {disk : Disk} {store : Store} {id : String} {t : Template} {stock : Stock}
  {shelf grown : List (String × Template × String)}

private theorem checkCatalog_eq_ok_iff (templates : List Template) (earlier : List String) :
    checkCatalog earlier templates = .ok () ↔ (∀ t ∈ templates, t.check = .ok ()) ∧
      (templates.map (·.id)).Nodup ∧ ∀ t ∈ templates, t.id ∉ earlier := by
  induction templates generalizing earlier with
  | nil => simp [checkCatalog]
  | cons t rest ih =>
    rw [checkCatalog]
    simp only [List.forall_mem_cons,List.map_cons,List.nodup_cons,List.mem_map,not_exists,not_and]
    cases checked : t.check with
    | error e => simp [bind,Except.bind]
    | ok done =>
      rw [ok_bind]
      by_cases repeated : t.id ∈ earlier
      · simp [repeated,throw,throwThe,MonadExceptOf.throw,bind,Except.bind]
      · simp only [List.contains_iff_mem,repeated,if_false]
        refine Iff.trans (ih (earlier ++ [t.id])) ?_
        simp only [List.mem_append,List.mem_singleton,not_or]
        constructor
        · rintro ⟨sound,distinct,later⟩
          exact ⟨⟨trivial,sound⟩,⟨fun other member same => (later other member).2 same,distinct⟩,not_false,
            fun other member => (later other member).1⟩
        · rintro ⟨⟨_,sound⟩,⟨single,distinct⟩,_,later⟩
          exact ⟨sound,distinct,fun other member => ⟨later other member,single other member⟩⟩

structure Accepted (templates : List Template) : Prop where
  sound : ∀ t ∈ templates, t.check = .ok ()
  distinct : (templates.map (·.id)).Nodup

theorem checkCatalog_nil_eq_ok_iff : checkCatalog [] templates = .ok () ↔ Accepted templates := by
  rw [checkCatalog_eq_ok_iff]
  constructor
  · rintro ⟨sound,distinct,_⟩
    exact ⟨sound,distinct⟩
  · rintro ⟨sound,distinct⟩
    exact ⟨sound,distinct,fun _ _ => List.not_mem_nil⟩

/-- A directory has a catalog file, and that is read as these templates. -/
def Catalogs (disk : Disk) (templates : List Template) : Prop :=
  ∃ raw, disk.read catalogFile = .ok raw ∧ Json.Reader.ofText Template.catalogReader raw = .ok templates

theorem Catalogs.unique {others : List Template} (catalogs : Catalogs disk templates) (more : Catalogs disk others) :
    templates = others := by
  obtain ⟨raw,there,read⟩ := catalogs
  obtain ⟨text,found,parsed⟩ := more
  cases there.symm.trans found
  exact Except.ok.inj (read.symm.trans parsed)

theorem openDirectory_eq_ok_iff : openDirectory disk = .ok store ↔
    ∃ templates, Catalogs disk templates ∧ Accepted templates ∧ store = .directory (sortById templates) := by
  unfold openDirectory Catalogs
  cases disk.read catalogFile with
  | error fault => simp [ofCatalog]
  | ok raw =>
    cases parsed : Json.Reader.ofText Template.catalogReader raw with
    | error misfit => simp [ofCatalog,parsed,bind,Except.bind,throw,throwThe,MonadExceptOf.throw]
    | ok templates =>
      have accepted : checkCatalog [] templates = .ok () ↔ Accepted templates := checkCatalog_nil_eq_ok_iff
      have pending : ofCatalog disk.root (.ok raw) =
          checkCatalog [] templates >>= fun _ => .ok (.directory (sortById templates)) := by
        rw [ofCatalog,parsed]
        rfl
      rw [pending]
      cases checked : checkCatalog [] templates with
      | error e =>
        rw [checked] at accepted
        simp [parsed,bind,Except.bind,← accepted]
      | ok done =>
        rw [checked] at accepted
        simp [parsed,bind,Except.bind,← accepted,eq_comm]

theorem sortById_perm (templates : List Template) : (sortById templates).Perm templates := List.mergeSort_perm _ _

theorem ascending_sortById (distinct : (templates.map (·.id)).Nodup) :
    (sortById templates).Pairwise fun a b => a.id < b.id := by
  have sorted : (sortById templates).Pairwise fun a b => a.id ≤ b.id := by
    refine (List.pairwise_mergeSort (fun a b c first second => ?_) (fun a b => ?_) templates).imp fun below =>
      of_decide_eq_true below
    · simp only [decide_eq_true_eq] at first second ⊢
      exact String.le_trans first second
    · rw [Bool.or_eq_true,decide_eq_true_eq,decide_eq_true_eq]
      exact String.le_total a.id b.id
  have distinctToo : ((sortById templates).map (·.id)).Nodup :=
    ((sortById_perm templates).map (·.id)).nodup_iff.mpr distinct
  have different : (sortById templates).Pairwise fun a b => a.id ≠ b.id := List.pairwise_map.mp distinctToo
  exact sorted.imp₂ (fun _ _ below apart => Std.lt_of_le_of_ne below apart) different

/-- Templates with different ids have one ascending order. -/
theorem eq_of_ascending {more : List Template} (same : templates.Perm more)
    (ascending : templates.Pairwise fun a b => a.id < b.id) (ascendingToo : more.Pairwise fun a b => a.id < b.id) :
    templates = more :=
  same.eq_of_pairwise (fun _ _ _ _ below above => absurd above (String.lt_asymm below)) ascending ascendingToo

private theorem find?_eq_some_iff (distinct : (templates.map (·.id)).Nodup) :
    templates.find? (·.id == id) = some t ↔ t ∈ templates ∧ t.id = id := by
  constructor
  · intro found
    exact ⟨List.mem_of_find?_eq_some found,by simpa using List.find?_some found⟩
  · rintro ⟨member,rfl⟩
    cases found : templates.find? (·.id == t.id) with
    | none =>
      have other := List.find?_eq_none.mp found t member
      simp at other
    | some u =>
      have same : u.id = t.id := by simpa using List.find?_some found
      rw [List.inj_on_of_nodup_map distinct (List.mem_of_find?_eq_some found) member same]

/-- Only one template has the id of a template. -/
theorem filter_eq_singleton (distinct : (templates.map (·.id)).Nodup) (member : t ∈ templates) :
    templates.filter (·.id == t.id) = [t] := by
  induction templates with
  | nil => contradiction
  | cons first rest ih =>
    obtain ⟨single,later⟩ := List.nodup_cons.mp distinct
    rcases List.mem_cons.mp member with rfl | behind
    · have others : rest.filter (·.id == t.id) = [] := by
        refine List.filter_eq_nil_iff.mpr fun u among same => single ?_
        exact List.mem_map.mpr ⟨u,among,eq_of_beq same⟩
      rw [List.filter_cons,if_pos (beq_self_eq_true t.id),others]
    · have different : ¬(first.id == t.id) = true := fun same => single (List.mem_map.mpr ⟨t,behind,(eq_of_beq same).symm⟩)
      rw [List.filter_cons,if_neg different]
      exact ih later behind

/-- The store of an accepted catalog has exactly the templates of the catalog. -/
theorem definition_eq_ok_iff (accepted : Accepted templates) :
    (directory (sortById templates)).definition id = .ok t ↔ t ∈ templates ∧ t.id = id := by
  have sorted : ((sortById templates).map (·.id)).Nodup :=
    ((sortById_perm templates).map (·.id)).nodup_iff.mpr accepted.distinct
  have found : (sortById templates).find? (·.id == id) = some t ↔ t ∈ templates ∧ t.id = id := by
    rw [find?_eq_some_iff sorted,(sortById_perm templates).mem_iff]
  rw [← found,definition]
  cases legal : idFlaw? id with
  | some flaw =>
    -- no template has an id that is not legal, since all of them have been checked
    have unfound : (sortById templates).find? (·.id == id) ≠ some t := by
      rw [ne_eq,found]
      rintro ⟨member,rfl⟩
      rw [Template.idFlaw?_of_check (accepted.sound t member)] at legal
      contradiction
    simp [unfound]
  | none => cases (sortById templates).find? (·.id == id) <;> simp

theorem definition_directory_eq_error {e : TemplateError} (failed : (directory templates).definition id = .error e) :
    e = .notFound id := by
  simp only [definition] at failed
  split at failed
  · exact (Except.error.inj failed).symm
  · split at failed
    · contradiction
    · exact (Except.error.inj failed).symm

private theorem Stock.keys_entries (stock : Stock) : stock.entries.map (·.1) = stock.templates.map (·.id) := by
  simp [entries,templates,Function.comp_def]

private theorem Stock.templatesOn_entries (stock : Stock) : templatesOn stock.entries = stock.templates := by
  simp [templatesOn,entries,templates,Function.comp_def]

private theorem shelveAll_eq_ok_iff (stock : Stock) (shelf grown : List (String × Template × String)) :
    shelveAll shelf stock = .ok grown ↔ Accepted stock.templates ∧
      (∀ t ∈ stock.templates, Keyed.lookup? t.id shelf = none) ∧ grown = Keyed.insertAll stock.entries shelf := by
  induction stock generalizing shelf with
  | nil =>
    constructor
    · intro done
      exact ⟨⟨by simp [Stock.templates],List.nodup_nil⟩,by simp [Stock.templates],(Except.ok.inj done).symm⟩
    · rintro ⟨_,_,rfl⟩
      rfl
  | cons pair rest ih =>
    obtain ⟨t,markup⟩ := pair
    have first : shelveAll shelf ((t, markup) :: rest) = shelve shelf t markup >>= fun shelf => shelveAll shelf rest :=
      List.foldlM_cons
    rw [first]
    constructor
    · intro done
      obtain ⟨between,shelved,later⟩ := exists_of_bind_ok done
      obtain ⟨sound,absent,rfl⟩ := shelve_eq_ok_iff.mp shelved
      obtain ⟨⟨others,distinct⟩,fresh,rfl⟩ := (ih _).mp later
      have apart (u : Template) (member : u ∈ Stock.templates rest) : u.id ≠ t.id ∧ Keyed.lookup? u.id shelf = none := by
        have lacking := fresh u member
        rw [Keyed.lookup?_insert] at lacking
        split at lacking
        · contradiction
        · exact ⟨‹_›,lacking⟩
      refine ⟨⟨List.forall_mem_cons.mpr ⟨sound,others⟩,List.nodup_cons.mpr ⟨?_,distinct⟩⟩,
        List.forall_mem_cons.mpr ⟨absent,fun u member => (apart u member).2⟩,rfl⟩
      intro repeated
      obtain ⟨u,member,same⟩ := List.mem_map.mp repeated
      exact (apart u member).1 same
    · rintro ⟨⟨sound,distinct⟩,fresh,rfl⟩
      obtain ⟨own,others⟩ := List.forall_mem_cons.mp sound
      obtain ⟨absent,later⟩ := List.forall_mem_cons.mp fresh
      obtain ⟨single,apart⟩ := List.nodup_cons.mp distinct
      rw [shelve_eq_ok_iff.mpr ⟨own,absent,rfl⟩,ok_bind]
      refine (ih _).mpr ⟨⟨others,apart⟩,fun u member => ?_,rfl⟩
      have different : u.id ≠ t.id := fun same => single (List.mem_map.mpr ⟨u,member,same⟩)
      rw [Keyed.lookup?_insert_of_ne different]
      exact later u member

/-- All of the stock can be put on an empty shelf exactly when it would be accepted as a catalog. -/
theorem exists_shelveAll_iff : (∃ shelf, shelveAll [] stock = .ok shelf) ↔ Accepted stock.templates := by
  constructor
  · rintro ⟨shelf,done⟩
    exact ((shelveAll_eq_ok_iff stock [] shelf).mp done).1
  · intro accepted
    exact ⟨_,(shelveAll_eq_ok_iff stock [] _).mpr ⟨accepted,fun _ _ => rfl,rfl⟩⟩

theorem exists_openDirectory_iff {templates : List Template} (catalogs : Catalogs disk templates) :
    (∃ store, openDirectory disk = .ok store) ↔ Accepted templates := by
  constructor
  · rintro ⟨store,opened⟩
    obtain ⟨others,more,accepted,_⟩ := openDirectory_eq_ok_iff.mp opened
    exact catalogs.unique more ▸ accepted
  · intro accepted
    exact ⟨_,openDirectory_eq_ok_iff.mpr ⟨templates,catalogs,accepted,rfl⟩⟩

theorem openDirectory_of_catalogs {templates : List Template} {store : Store} (catalogs : Catalogs disk templates)
    (opened : openDirectory disk = .ok store) : store = directory (sortById templates) := by
  obtain ⟨others,more,_,rfl⟩ := openDirectory_eq_ok_iff.mp opened
  rw [catalogs.unique more]

private theorem Orderly.shelveAll (orderly : Orderly shelf) (filled : shelveAll shelf stock = .ok grown) : Orderly grown := by
  induction stock generalizing shelf with
  | nil =>
    cases filled
    exact orderly
  | cons pair rest ih =>
    obtain ⟨between,shelved,later⟩ := exists_of_bind_ok (List.foldlM_cons.symm.trans filled)
    exact ih (orderly.shelve shelved) later

section Filled
variable (filled : shelveAll [] stock = .ok shelf)
include filled

theorem accepted_of_shelveAll : Accepted stock.templates := ((shelveAll_eq_ok_iff stock [] shelf).mp filled).1

private theorem orderly_of_shelveAll : Orderly shelf := orderly_nil.shelveAll filled

private theorem perm_of_shelveAll : shelf.Perm stock.entries := by
  obtain ⟨accepted,_,rfl⟩ := (shelveAll_eq_ok_iff stock [] shelf).mp filled
  exact Keyed.ofList_perm (stock.keys_entries ▸ accepted.distinct)

theorem lookup?_of_shelveAll {id : String} {t : Template} {markup : String} :
    Keyed.lookup? id shelf = some (t, markup) ↔ (t, markup) ∈ stock ∧ t.id = id := by
  rw [Keyed.lookup?_eq_some_iff (orderly_of_shelveAll filled).ascending.nodup,(perm_of_shelveAll filled).mem_iff]
  simp only [Stock.entries,List.mem_map,Prod.mk.injEq,Prod.exists]
  constructor
  · rintro ⟨u,text,member,same,rfl,rfl⟩
    exact ⟨member,same⟩
  · rintro ⟨member,same⟩
    exact ⟨t,markup,member,same,rfl,rfl⟩

theorem list_of_shelveAll : (memory shelf).list = (directory (sortById stock.templates)).list := by
  have same : (templatesOn shelf).Perm (sortById stock.templates) := by
    rw [← stock.templatesOn_entries]
    exact ((perm_of_shelveAll filled).map _).trans (sortById_perm _).symm
  rw [list_memory]
  exact congrArg Except.ok (eq_of_ascending same (orderly_of_shelveAll filled).ascending_templates
    (ascending_sortById (accepted_of_shelveAll filled).distinct))

end Filled

end Letterpress.Store
