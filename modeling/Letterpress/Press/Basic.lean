import Letterpress.Ledger
import Letterpress.Press.Plate

/-! A press renders requests. It may keep the plates that it has made; of two plates for one id the first one stays. -/
namespace Letterpress

structure Press where
  kept : Option (List (String × Plate))

namespace Press

def ofCaching (caches : Bool) : Press := ⟨if caches then some [] else none⟩

def cached (press : Press) : Nat := (press.kept.getD []).length

def kept? (press : Press) (id : String) : Option Plate := press.kept.bind (Keyed.lookup? id)

/-- Keeps a plate, unless there is one for its id, and gives the one that is in use from now on. -/
def keep (press : Press) (id : String) (plate : Plate) : Plate × Press :=
  match press.kept with
  | none => (plate, press)
  | some plates =>
    match Keyed.lookup? id plates with
    | some first => (first, press)
    | none => (plate, ⟨some (plates ++ [(id, plate)])⟩)

def lookUpEvents (press : Press) (id : String) : List Event :=
  match press.kept with
  | none => []
  | some plates => if (Keyed.lookup? id plates).isSome then [.cacheHit] else [.cacheMiss]

/-- The plate for an id, a kept one or one that is made now. -/
def plate (press : Press) (store : Store) (disk : Disk) (id : String) : Except PressError Plate × Press :=
  match press.kept? id with
  | some plate => (.ok plate, press)
  | none =>
    match Plate.make store disk id with
    | .error e => (.error e, press)
    | .ok made =>
      let (plate, press) := press.keep id made
      (.ok plate, press)

def outcomeEvent : Except PressError Rendered → Event
  | .ok _ => .rendered
  | .error e => .renderFailed e.kind

/-- Renders a request: the page or the first error, the press afterwards, and what happened. -/
def render (press : Press) (store : Store) (disk : Disk) (request : RenderRequest) :
    Except PressError Rendered × Press × List Event :=
  let (plate, after) := press.plate store disk request.templateId
  let rendered := plate.bind (·.print request)
  (rendered, after, press.lookUpEvents request.templateId ++ [outcomeEvent rendered])

end Press

end Letterpress
