import Letterpress.Proofs.Store.Catalog
import Letterpress.Proofs.Store.Volume

/-! What a store in a directory reads of a whole volume: its catalog when it is opened, and for every id either nothing or
one file, which is below the directory whatever the catalog says. -/
namespace Letterpress

/-- An answer that is known, or one that depends on the file at one path. -/
inductive Inquiry (α : Type)
  | known (answer : α)
  | reading (path : String) (answer : Except ReadFault String → α)

/-- The answer, if files are read like this. -/
def Inquiry.run {α : Type} (read : String → Except ReadFault String) : Inquiry α → α
  | known answer => answer
  | reading path answer => answer (read path)

namespace Store
variable {v : Volume} {root id : String} {disk : Disk} {store : Store} {templates : List Template} {t : Template}

def opening (root : String) : Inquiry (Except TemplateError Store) := .reading (joinPath root catalogFile) (ofCatalog root)

/-- Asks a store for the markup of a template. Only a store in a directory, here that at `root`, has to read for it. -/
def loading (store : Store) (root id : String) : Inquiry (Except TemplateError String) :=
  match store with
  | directory _ =>
    match store.definition id with
    | .ok t => .reading (joinPath root t.source) (ofSource id)
    | .error e => .known (.error e)
  | other => .known (other.load (.empty root) id)

private theorem openDirectory_eq_opening (mounted : v.disk? root = some disk) :
    openDirectory disk = (opening root).run v.read := by
  have same : disk.root = root := by
    obtain ⟨_,_,_,_,rfl⟩ := Volume.disk?_eq_some_iff.mp mounted
    rfl
  rw [openDirectory,opening,Inquiry.run,Volume.read_joinPath mounted (by rfl),same]

private theorem load_eq_loading (mounted : v.disk? root = some disk)
    (inside : ∀ t, store.definition id = .ok t → staysInside t.source = true) :
    store.load disk id = (store.loading root id).run v.read := by
  cases store with
  | memory shelf => rfl
  | refusing error => rfl
  | directory templates =>
    cases found : (directory templates).definition id with
    | error e =>
      simp only [load,loading,found]
      rfl
    | ok t =>
      simp only [load,loading,found,ok_bind,Inquiry.run]
      rw [Volume.read_joinPath mounted (inside t found)]

/-- An id of an accepted catalog, or of none of its templates. -/
theorem definition_cases (accepted : Accepted templates) (id : String) :
    (templates.filter (·.id == id) = [] ∧ (directory (sortById templates)).definition id = .error (.notFound id)) ∨
    ∃ t ∈ templates, templates.filter (·.id == id) = [t] ∧ (directory (sortById templates)).definition id = .ok t := by
  cases found : (directory (sortById templates)).definition id with
  | ok t =>
    obtain ⟨member,rfl⟩ := (definition_eq_ok_iff accepted).mp found
    exact .inr ⟨t,member,filter_eq_singleton accepted.distinct member,rfl⟩
  | error e =>
    have absent : templates.filter (·.id == id) = [] := by
      refine List.filter_eq_nil_iff.mpr fun t member same => ?_
      rw [(definition_eq_ok_iff accepted).mpr ⟨member,eq_of_beq same⟩] at found
      contradiction
    exact .inl ⟨absent,by rw [definition_directory_eq_error found]⟩

end Store

/-- A source that leads below any directory it is joined to: there are names only on it, at least one, and on every volume
they follow the way to that directory. -/
structure Descends (root source : String) : Prop where
  nonempty : steps source ≠ []
  named : ∀ s ∈ steps source, IsStep s
  parts : pathParts source = (steps source).map .name
  joined : pathParts (joinPath root source) = pathParts root ++ (steps source).map .name
  leads : ∀ (v : Volume) reached, v.wayTo (joinPath root source) = .ok reached →
    ∃ way, v.wayTo root = .ok way ∧ reached = way ++ steps source

private theorem descends_of_staysInside {source : String} (inside : staysInside source = true) (root : String) :
    Descends root source where
  nonempty := steps_ne_nil inside
  named _ := isStep_of_mem_steps inside
  parts := pathParts_of_staysInside inside
  joined := pathParts_joinPath inside root
  leads _ _ := Volume.eq_of_wayTo_joinPath inside

/-- A store in a directory never reads outside of it. To open it is to read its catalog there. Once that is accepted, an
id is unknown without anything being read, or the one file that is read is the source of the only template with that id,
joined to the directory and below it; and this is how it stays, whatever becomes of the volume. -/
theorem directory_reads_below_root (v : Volume) (root : String) (disk : Disk) (mounted : v.disk? root = some disk) :
    Store.openDirectory disk = (Store.opening root).run v.read ∧ Descends root Store.catalogFile ∧
    ∀ store, Store.openDirectory disk = .ok store → ∃ templates, Store.Catalogs disk templates ∧
      (∀ id,
        (templates.filter (·.id == id) = [] ∧ store.loading root id = .known (.error (.notFound id))) ∨
        ∃ t, templates.filter (·.id == id) = [t] ∧ Descends root t.source ∧
          store.loading root id = .reading (joinPath root t.source) (Store.ofSource id)) ∧
      ∀ (later : Volume) (changed : Disk), later.disk? root = some changed →
        ∀ id, store.load changed id = (store.loading root id).run later.read := by
  refine ⟨Store.openDirectory_eq_opening mounted,descends_of_staysInside (by rfl) root,fun store opened => ?_⟩
  obtain ⟨templates,catalogs,accepted,rfl⟩ := Store.openDirectory_eq_ok_iff.mp opened
  have inside {t : Template} (member : t ∈ templates) : staysInside t.source = true :=
    Template.staysInside_of_check (accepted.sound t member)
  refine ⟨templates,catalogs,fun id => ?_,fun later changed there id => ?_⟩
  · rcases Store.definition_cases accepted id with ⟨absent,failed⟩ | ⟨t,member,single,found⟩
    · left
      refine ⟨absent,?_⟩
      simp only [Store.loading,failed]
    · right
      refine ⟨t,single,descends_of_staysInside (inside member) root,?_⟩
      simp only [Store.loading,found]
  · refine Store.load_eq_loading there fun t found => ?_
    exact inside ((Store.definition_eq_ok_iff accepted).mp found).1

def dottedTemplate : Template := ⟨"news", "News", "parts/.//news.mjml", none, []⟩

def dottedCatalog : String :=
  "\x7b\"templates\":[\x7b\"id\":\"news\",\"name\":\"News\",\"source\":\"parts/.//news.mjml\"\x7d]\x7d"

/-- One works in `/srv`, where the templates are next to the keys. -/
def templateVolume : Volume where
  here := ["srv"]
  entries := [
    (["srv"], .directory), (["srv", "keys"], .text "secret"), (["srv", "templates"], .directory),
    (["srv", "templates", "catalog.json"], .text dottedCatalog), (["srv", "templates", "parts"], .directory),
    (["srv", "templates", "parts", "news.mjml"], .text "<mjml/>")]

def templateDisk : Disk where
  root := "templates/"
  entries := [
    ([], .directory), (["catalog.json"], .text dottedCatalog), (["parts"], .directory),
    (["parts", "news.mjml"], .text "<mjml/>")]

private theorem disk?_templateVolume : templateVolume.disk? "templates/" = some templateDisk := by decide +kernel

private theorem catalogs_templateDisk : Store.Catalogs templateDisk [dottedTemplate] := ⟨dottedCatalog,by decide +kernel,by cbv⟩

theorem directory_reads_below_templates : ∃ store, templateVolume.disk? "templates/" = some templateDisk ∧
    Store.openDirectory templateDisk = .ok store ∧ store.load templateDisk "news" = .ok "<mjml/>" ∧
    store.loading "templates/" "news" = .reading "templates/parts/.//news.mjml" (Store.ofSource "news") ∧
    store.loading "templates/" "../keys" = .known (.error (.notFound "../keys")) := by
  have accepted : Store.Accepted [dottedTemplate] := Store.checkCatalog_nil_eq_ok_iff.mp (by rfl)
  have opened := Store.openDirectory_eq_ok_iff.mpr ⟨_,catalogs_templateDisk,accepted,rfl⟩
  obtain ⟨_,_,stores⟩ := directory_reads_below_root templateVolume "templates/" templateDisk disk?_templateVolume
  obtain ⟨templates,more,ids,loads⟩ := stores _ opened
  obtain rfl := catalogs_templateDisk.unique more
  have joined : joinPath "templates/" dottedTemplate.source = "templates/parts/.//news.mjml" := by decide +kernel
  have reads : (Store.directory (Store.sortById [dottedTemplate])).loading "templates/" "news" =
      .reading "templates/parts/.//news.mjml" (Store.ofSource "news") := by
    have found : [dottedTemplate].filter (·.id == "news") = [dottedTemplate] := by decide
    rcases ids "news" with ⟨absent,_⟩ | ⟨t,single,_,reads⟩
    · exact absurd (found.symm.trans absent) (List.cons_ne_nil _ _)
    · obtain rfl : dottedTemplate = t := List.singleton_inj.mp (found.symm.trans single)
      rw [reads,joined]
  have unread : (Store.directory (Store.sortById [dottedTemplate])).loading "templates/" "../keys" =
      .known (.error (.notFound "../keys")) := by
    have unmatched : [dottedTemplate].filter (·.id == "../keys") = [] := by decide
    rcases ids "../keys" with ⟨_,unread⟩ | ⟨t,single,_,_⟩
    · exact unread
    · exact absurd (unmatched.symm.trans single).symm (List.cons_ne_nil _ _)
  have markup : templateVolume.read "templates/parts/.//news.mjml" = .ok "<mjml/>" := by decide +kernel
  refine ⟨_,disk?_templateVolume,opened,?_,reads,unread⟩
  rw [loads templateVolume templateDisk disk?_templateVolume,reads,Inquiry.run,markup]
  rfl

end Letterpress
