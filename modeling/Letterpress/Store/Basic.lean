import Letterpress.Store.Disk
import Letterpress.Template.Form

/-! Where templates and their markup are kept: in memory, where they are added one by one, or in a directory, which has
a catalog. A store can also be out of order and refuse everything. -/
namespace Letterpress

/-- The shelf of a store in memory is in the order of the ids. -/
inductive Store
  | memory (shelf : List (String × Template × String))
  | directory (templates : List Template)
  | refusing (error : String → TemplateError)

namespace Store

def catalogFile : String := "catalog.json"

def backend : Store → String
  | memory _ => "memory"
  | directory _ => "file"
  | refusing _ => "failing"

/-- Puts a template on a shelf if nothing stands under its id there. Nothing on a shelf is ever replaced. -/
def enter (shelf : List (String × Template × String)) (t : Template) (markup : String) :
    Except TemplateError (List (String × Template × String)) :=
  match Keyed.lookup? t.id shelf with
  | some _ => .error (.invalidTemplate (t.id ++ ": template already exists"))
  | none => .ok (Keyed.insert t.id (t, markup) shelf)

def shelve (shelf : List (String × Template × String)) (t : Template) (markup : String) :
    Except TemplateError (List (String × Template × String)) := do
  t.check
  enter shelf t markup

/-- Checks the templates of a catalog one after the other, behind others with the ids `earlier`. -/
def checkCatalog (earlier : List String) : List Template → Except TemplateError Unit
  | [] => .ok ()
  | t :: rest => do
    t.check
    if earlier.contains t.id then throw (.badCatalog ("duplicate template id `" ++ t.id ++ "`"))
    checkCatalog (earlier ++ [t.id]) rest

def sortById (templates : List Template) : List Template := templates.mergeSort fun a b => decide (a.id ≤ b.id)

/-- The store that comes of reading the catalog of the directory `root`. -/
def ofCatalog (root : String) : Except ReadFault String → Except TemplateError Store
  | .error fault => .error (.unreadable catalogFile fault.message)
  | .ok raw => do
    let templates ← match Json.Reader.ofText Template.catalogReader raw with
      | .ok templates => pure templates
      | .error misfit => throw (.badCatalog (joinPath root catalogFile ++ ": " ++ misfit.objection.message))
    checkCatalog [] templates
    return .directory (sortById templates)

/-- Opens a directory: its catalog is read and checked once. -/
def openDirectory (disk : Disk) : Except TemplateError Store := ofCatalog disk.root (disk.read catalogFile)

/-- The store with a backend of this name. Every name but that of the memory means a directory. -/
def ofBackend (name : String) (disk : Disk) : Except TemplateError Store :=
  if name = "memory" then .ok (.memory []) else openDirectory disk

def definition (store : Store) (id : String) : Except TemplateError Template :=
  match store with
  | memory shelf =>
    match Keyed.lookup? id shelf with
    | some (t, _) => .ok t
    | none => .error (.notFound id)
  | directory templates =>
    if (idFlaw? id).isSome then .error (.notFound id)
    else
      match templates.find? (·.id == id) with
      | some t => .ok t
      | none => .error (.notFound id)
  | refusing error => .error (error id)

/-- What comes of reading the markup of the template `id`. -/
def ofSource (id : String) : Except ReadFault String → Except TemplateError String
  | .ok markup => .ok markup
  | .error .missing => .error (.notFound id)
  | .error fault => .error (.unreadable id fault.message)

/-- The markup of a template. A directory is read anew each time, as it stands then. -/
def load (store : Store) (disk : Disk) (id : String) : Except TemplateError String :=
  match store with
  | memory shelf =>
    match Keyed.lookup? id shelf with
    | some (_, markup) => .ok markup
    | none => .error (.notFound id)
  | directory _ => do
    let t ← store.definition id
    ofSource id (disk.read t.source)
  | refusing error => .error (error id)

def list : Store → Except TemplateError (List Template)
  | memory shelf => .ok (shelf.map fun (_, t, _) => t)
  | directory templates => .ok templates
  | refusing error => .error (error "list")

end Store

end Letterpress
