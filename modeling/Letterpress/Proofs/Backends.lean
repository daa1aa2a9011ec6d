import Letterpress.Proofs.Session.Steps
import Letterpress.Proofs.Store.Catalog

/-! Stores that answer alike. Whoever renders, previews or sends asks a store for definitions and markup only, so that
stores that agree on these cannot be told apart by any of it, in one request or in many. A store in memory and a store in a
directory, over the same templates with the same markup, are two such stores, and accept the same catalogs. -/
namespace Letterpress

/-- Two stores over one disk that give the same definitions and the same markup. -/
structure Store.Alike (store other : Store) (disk : Disk) : Prop where
  definition : ∀ id, store.definition id = other.definition id
  load : ∀ id, store.load disk id = other.load disk id

namespace Store.Alike
variable {store other : Store} {disk : Disk}

private theorem make (alike : store.Alike other disk) (id : String) : Plate.make store disk id = Plate.make other disk id := by
  simp only [Plate.make,alike.definition,alike.load]

private theorem render (alike : store.Alike other disk) (press : Press) (request : RenderRequest) :
    press.render store disk request = press.render other disk request := by
  simp only [Press.render,Press.plate,alike.make]

private theorem preview (alike : store.Alike other disk) (m : Mailer) (request : RenderRequest) :
    m.preview store disk request = m.preview other disk request := by
  simp only [Mailer.preview,alike.render]

private theorem send (alike : store.Alike other disk) (m : Mailer) (request : RenderRequest) (c : Confirmation) :
    m.send store disk request c = m.send other disk request c := by
  simp only [Mailer.send,Mailer.deliver,alike.preview]

end Store.Alike

/-- The step asks for single templates, renders, sends, or looks at what has come of that; it leaves store and disk alone.
-/
def Step.asks : Step → Bool
  | .insert _ _ | .list | .count | .write _ | .remove _ => false
  | _ => true

namespace Session
variable {s : Session} {store other : Store}

def withStore (s : Session) (store : Store) : Session := { s with store := store }

private theorem render_withStore (alike : store.Alike other s.disk) (request : RenderRequest) :
    (s.withStore store).render request =
      (((s.withStore other).render request).1, ((s.withStore other).render request).2.withStore store) := by
  simp only [render,withStore,alike.preview]

private theorem send_withStore (alike : store.Alike other s.disk) (request : RenderRequest) (confirmedFor : List Recipient)
    (acknowledged : Option Nat) : (s.withStore store).send request confirmedFor acknowledged =
      (((s.withStore other).send request confirmedFor acknowledged).1,
        ((s.withStore other).send request confirmedFor acknowledged).2.withStore store) := by
  unfold send
  cases Confirmation.confirm confirmedFor acknowledged with
  | error e => rfl
  | ok c =>
    simp only [withStore,alike.send]
    rcases s.mailer.send other s.disk request c with ⟨_ | _,_,_⟩ <;> rfl

private theorem step_withStore (alike : store.Alike other s.disk) {step : Step} (asks : step.asks = true) :
    (s.withStore store).step step =
      (((s.withStore other).step step).1, ((s.withStore other).step step).2.withStore store) := by
  cases step with
  | definition id => simp only [Session.step,withStore,alike.definition]
  | load id => simp only [Session.step,withStore,alike.load]
  | render request =>
    simp only [Session.step,render_withStore alike]
    rcases (s.withStore other).render request with ⟨_ | _,_⟩ <;> rfl
  | preview request =>
    simp only [Session.step,render_withStore alike]
    rcases (s.withStore other).render request with ⟨_ | _,_⟩ <;> rfl
  | send request confirmedFor acknowledged => exact send_withStore alike request confirmedFor acknowledged
  | outbox => rfl
  | cached => rfl
  | replacePress caches config => rfl
  | samples => rfl
  | _ => contradiction

private theorem step_asks {step : Step} (asks : step.asks = true) (s : Session) :
    (s.step step).2.store = s.store ∧ (s.step step).2.disk = s.disk := by
  constructor
  · rcases step_store s step with same | ⟨t,markup,_,_,rfl,_⟩
    · exact same
    · contradiction
  · cases step with
    | render request => rw [step_render_snd]; rfl
    | preview request => rw [step_preview_snd]; rfl
    | send request confirmedFor acknowledged =>
      simp only [step]
      cases confirmed : Confirmation.confirm confirmedFor acknowledged with
      | error e => rw [send_of_unconfirmed confirmed]
      | ok c => rw [send_of_confirmed confirmed]
    | definition id => rfl
    | load id => rfl
    | outbox => rfl
    | cached => rfl
    | replacePress caches config => rfl
    | samples => rfl
    | _ => contradiction

/-- Over stores that answer alike a session gives the same answers, step for step, and is left with the same mailer. -/
theorem run_withStore (alike : store.Alike other s.disk) {steps : List Step} (asks : ∀ step ∈ steps, step.asks = true) :
    (s.withStore store).run steps =
      (((s.withStore other).run steps).1, ((s.withStore other).run steps).2.withStore store) := by
  induction steps generalizing s with
  | nil => rfl
  | cons step rest ih =>
    obtain ⟨first,later⟩ := List.forall_mem_cons.mp asks
    obtain ⟨storeStays,diskStays⟩ := step_asks first (s.withStore other)
    have next : ((s.withStore other).step step).2.withStore other = ((s.withStore other).step step).2 := by
      rw [withStore]
      change { ((s.withStore other).step step).2 with store := (s.withStore other).store } = _
      rw [← storeStays]
    have others : store.Alike other ((s.withStore other).step step).2.disk := by
      rw [diskStays]
      exact alike
    have ending := ih others later
    rw [next] at ending
    simp only [run,step_withStore alike first,ending]

end Session

namespace Store
variable {stock : Stock} {shelf : List (String × Template × String)} {disk : Disk} {id : String}

private theorem definition_of_shelveAll (filled : shelveAll [] stock = .ok shelf) (id : String) :
    (memory shelf).definition id = (directory (sortById stock.templates)).definition id := by
  have accepted := accepted_of_shelveAll filled
  cases found : (directory (sortById stock.templates)).definition id with
  | ok t =>
    obtain ⟨member,same⟩ := (definition_eq_ok_iff accepted).mp found
    obtain ⟨⟨u,markup⟩,stocked,rfl⟩ := List.mem_map.mp member
    simp only [definition,(lookup?_of_shelveAll filled).mpr ⟨stocked,same⟩]
  | error e =>
    rw [definition_directory_eq_error found]
    cases kept : Keyed.lookup? id shelf with
    | none => simp only [definition,kept]
    | some entry =>
      obtain ⟨stocked,same⟩ := (lookup?_of_shelveAll filled).mp kept
      have there := (definition_eq_ok_iff accepted).mpr ⟨List.mem_map_of_mem (f := (·.1)) stocked,same⟩
      rw [there] at found
      contradiction

private theorem load_of_shelveAll (filled : shelveAll [] stock = .ok shelf)
    (unchanged : ∀ pair ∈ stock, disk.read pair.1.source = .ok pair.2) (id : String) :
    (memory shelf).load disk id = (directory (sortById stock.templates)).load disk id := by
  have same := definition_of_shelveAll filled id
  cases kept : Keyed.lookup? id shelf with
  | none =>
    simp only [definition,kept] at same
    simp only [load,kept,definition,← same]
    rfl
  | some entry =>
    simp only [definition,kept] at same
    have there := unchanged entry ((lookup?_of_shelveAll filled).mp kept).1
    simp only [load,kept,definition,← same,ok_bind,there]
    rfl

/-- What has been stocked under an id, or that there is nothing. -/
theorem answers_of_shelveAll (filled : shelveAll [] stock = .ok shelf) (disk : Disk) (id : String) :
    (∃ t markup, (t, markup) ∈ stock ∧ t.id = id ∧ (memory shelf).definition id = .ok t ∧
      (memory shelf).load disk id = .ok markup) ∨
    ((∀ pair ∈ stock, pair.1.id ≠ id) ∧ (memory shelf).definition id = .error (.notFound id) ∧
      (memory shelf).load disk id = .error (.notFound id)) := by
  cases kept : Keyed.lookup? id shelf with
  | none =>
    right
    simp only [definition,load,kept]
    refine ⟨fun pair stocked same => ?_,trivial,trivial⟩
    rw [(lookup?_of_shelveAll filled).mpr ⟨stocked,same⟩] at kept
    contradiction
  | some entry =>
    left
    obtain ⟨stocked,same⟩ := (lookup?_of_shelveAll filled).mp kept
    refine ⟨entry.1,entry.2,stocked,same,?_,?_⟩
    · simp only [definition,kept]
    · simp only [load,kept]

end Store

/-- A directory with a catalog opens exactly when the templates of the catalog can all be put on an empty shelf. If they
can, with the markup that stands in their files, the two stores list the same templates; and as long as those files stay
as they are, the stores answer for every id alike, with what has been stocked under it or with the error that nothing has,
every request is rendered alike over both, whatever the press keeps, and so whole sessions over them go alike. -/
theorem backends_agree (disk : Disk) (stock : Store.Stock) (catalogs : Store.Catalogs disk stock.templates) :
    ((∃ store, Store.openDirectory disk = .ok store) ↔ ∃ shelf, Store.shelveAll [] stock = .ok shelf) ∧
    ∀ store shelf, Store.openDirectory disk = .ok store → Store.shelveAll [] stock = .ok shelf →
      (Store.memory shelf).list = store.list ∧
      ∀ later : Disk, (∀ pair ∈ stock, later.read pair.1.source = .ok pair.2) →
        (∀ id, (Store.memory shelf).definition id = store.definition id ∧
          (Store.memory shelf).load later id = store.load later id ∧
          ((∃ t markup, (t, markup) ∈ stock ∧ t.id = id ∧ store.definition id = .ok t ∧ store.load later id = .ok markup) ∨
            ((∀ pair ∈ stock, pair.1.id ≠ id) ∧ store.definition id = .error (.notFound id) ∧
              store.load later id = .error (.notFound id)))) ∧
        (∀ (press : Press) request, press.render (.memory shelf) later request = press.render store later request) ∧
        ∀ (s : Session) steps, s.disk = later → (∀ step ∈ steps, step.asks = true) →
          ((s.withStore (.memory shelf)).run steps).1 = ((s.withStore store).run steps).1 := by
  refine ⟨(Store.exists_openDirectory_iff catalogs).trans Store.exists_shelveAll_iff.symm,?_⟩
  intro store shelf opened filled
  obtain rfl := Store.openDirectory_of_catalogs catalogs opened
  refine ⟨Store.list_of_shelveAll filled,fun later unchanged => ?_⟩
  have alike : (Store.memory shelf).Alike (.directory (Store.sortById stock.templates)) later :=
    ⟨Store.definition_of_shelveAll filled,Store.load_of_shelveAll filled unchanged⟩
  refine ⟨fun id => ⟨alike.definition id,alike.load id,?_⟩,alike.render,fun s steps same asks => ?_⟩
  · rw [← alike.definition,← alike.load]
    exact Store.answers_of_shelveAll filled later id
  · subst same
    rw [Session.run_withStore alike asks]

/-- Two templates, the later id first. -/
def backwardStock : Store.Stock :=
  [(⟨"news", "News", "parts/news.mjml", none, []⟩, "<mjml></mjml>"),
    (⟨"hello", "Hello", "hello.mjml", none, []⟩, "<mjml/>")]

def backwardDisk : Disk where
  root := "templates"
  entries := [
    (["catalog.json"], .text ("\x7b\"templates\":[\x7b\"id\":\"news\",\"name\":\"News\",\"source\":\"parts/news.mjml\"\x7d," ++
      "\x7b\"id\":\"hello\",\"name\":\"Hello\",\"source\":\"hello.mjml\"\x7d]\x7d")),
    (["parts"], .directory), (["parts", "news.mjml"], .text "<mjml></mjml>"), (["hello.mjml"], .text "<mjml/>")]

private theorem catalogs_backwardDisk : Store.Catalogs backwardDisk backwardStock.templates := ⟨_,rfl,by cbv⟩

private theorem read_backwardDisk : ∀ pair ∈ backwardStock, backwardDisk.read pair.1.source = .ok pair.2 := by decide +kernel

private theorem shelveAll_backwardStock :
    Store.shelveAll [] backwardStock = .ok (backwardStock.reverse.map fun (t, markup) => (t.id, t, markup)) := by
  rfl

theorem backends_agree_backwards : Store.Catalogs backwardDisk backwardStock.templates ∧
    ∃ store, Store.openDirectory backwardDisk = .ok store ∧ store.list = .ok (backwardStock.reverse.map (·.1)) ∧
      store.load backwardDisk "news" = .ok "<mjml></mjml>" := by
  obtain ⟨opens,agree⟩ := backends_agree backwardDisk backwardStock catalogs_backwardDisk
  obtain ⟨store,opened⟩ := opens.mpr ⟨_,shelveAll_backwardStock⟩
  obtain ⟨listed,later⟩ := agree store _ opened shelveAll_backwardStock
  obtain ⟨answers,_,_⟩ := later backwardDisk read_backwardDisk
  exact ⟨catalogs_backwardDisk,store,opened,listed.symm,(answers "news").2.1.symm⟩

end Letterpress
