import Letterpress.Json.Reader

/-! Records: objects with known members, each of which has its own reader. A list with the members in their order is a
record, too. A member is read where it stands; what is missing is found at the end. -/
namespace Letterpress.Json

/-- The items of a list that have not been read yet. -/
structure Queue where
  index : Nat
  items : List Draft
  tear : Option Tear

/-- The members of a record: which there are, and how a value is put together from them. -/
structure Fields (α : Type) where
  known : List (String × Reader Unit)
  ofMembers : Manner → List (String × Draft) → Except Misfit α
  ofQueue : Manner → String → Queue → Except Misfit (α × Queue)

namespace Fields

def next {α : Type} (reader : Reader α) (m : Manner) (queue : Queue) : Except Misfit (Option α × Queue) :=
  match queue.items, queue.tear with
  | item :: items, _ => do
    let value ← along (.item queue.index) (reader m item)
    return (some value, { queue with index := queue.index + 1, items := items })
  | [], some tear => raiseFault tear.read
  | [], none => .ok (none, queue)

def need {α : Type} (name : String) (reader : Reader α) : Fields α where
  known := [(name, reader.map fun _ => ())]
  ofMembers m members :=
    match Keyed.lookup? name members with
    | some d => along (.key name) (reader m d)
    | none => raise (.missingMember name)
  ofQueue m expected queue := do
    match ← next reader m queue with
    | (some value, queue) => return (value, queue)
    | (none, queue) => raise (.wrongCount queue.index expected)

/-- A member that is `absent` where it is not given. -/
def withDefault {α : Type} (name : String) (absent : α) (reader : Reader α) : Fields α where
  known := [(name, reader.map fun _ => ())]
  ofMembers m members :=
    match Keyed.lookup? name members with
    | some d => along (.key name) (reader m d)
    | none => .ok absent
  ofQueue m _ queue := do
    let (value, queue) ← next reader m queue
    return (value.getD absent, queue)

def map {α β : Type} (f : α → β) (fields : Fields α) : Fields β where
  known := fields.known
  ofMembers m members := (fields.ofMembers m members).map f
  ofQueue m expected queue := (fields.ofQueue m expected queue).map fun (value, queue) => (f value, queue)

def apply {α β : Type} (f : Fields (α → β)) (x : Fields α) : Fields β where
  known := f.known ++ x.known
  ofMembers m members := do
    let f ← f.ofMembers m members
    let x ← x.ofMembers m members
    return f x
  ofQueue m expected queue := do
    let (f, queue) ← f.ofQueue m expected queue
    let (x, queue) ← x.ofQueue m expected queue
    return (f x, queue)

instance : Functor Fields where
  map := map

instance : Seq Fields where
  seq f x := f.apply (x ())

end Fields

/-- Reads the known members where they stand, none of them twice, and the others with a reader of their own. The answer
is the known members and the values of the others. -/
def survey {β : Type} (known : List (String × Reader Unit)) (other : Reader β) (m : Manner) (seen : List (String × Draft)) :
    List (Spelling × Draft) → Except Misfit (List (String × Draft) × List (String × β))
  | [] => .ok (seen, [])
  | (.error fault, _) :: _ => along .unnamed (raiseFault fault)
  | (.ok key, value) :: members =>
    match Keyed.lookup? key known with
    | some reader =>
      if (Keyed.lookup? key seen).isSome then raise (.repeatedMember key)
      else do
        alongMember key value (reader m value)
        survey known other m (seen ++ [(key, value)]) members
    | none => do
      let value ← alongMember key value (other m value)
      let (seen, others) ← survey known other m seen members
      return (seen, (key, value) :: others)

/-- The known members of an object, and the others. -/
def surveyAll {β : Type} (known : List (String × Reader Unit)) (other : Reader β) (m : Manner)
    (members : List (Spelling × Draft)) (tear : Option Tear) :
    Except Misfit (List (String × Draft) × List (String × β)) := do
  let surveyed ← survey known other m [] members
  match tear with
  | some tear => along .unnamed (raiseFault tear.read)
  | none => return surveyed

/-- What is wrong with a list that goes on behind the last member. -/
def Queue.left? (queue : Queue) (m : Manner) : Option Objection :=
  match queue.items, queue.tear with
  | [], none => none
  | [], some tear =>
    some (.fault (if tear.read = .endInList ∨ tear.read = .trailingComma then tear.read else .trailingCharacters))
  | _ :: _, _ =>
    if m.fromText then some (.fault .trailingCharacters)
    else some (.wrongCount (queue.index + queue.items.length) "fewer elements in array")

def membersCounted (n : Nat) : String := toString n ++ if n = 1 then " element" else " elements"

namespace Reader

/-- A record. Members that it does not know are passed over. -/
def record {α : Type} (name : String) (fields : Fields α) : Reader α := fun m d =>
  match d with
  | .object members tear => do
    let m ← m.enter
    let (known, _) ← surveyAll fields.known ignored m members tear
    fields.ofMembers m known
  | .array items tear => do
    let m ← m.enter
    let expected := "struct " ++ name ++ " with " ++ membersCounted fields.known.length
    let (value, queue) ← fields.ofQueue m expected ⟨0, items, tear⟩
    match queue.left? m with
    | some objection => raise objection
    | none => return value
  | d => refuse ("struct " ++ name) d

/-- A record that keeps the members it does not know, in the order of their keys. It is never a list. -/
def openRecord {α : Type} (name : String) (fields : Fields α) : Reader (α × List (String × Json)) := fun m d =>
  match d with
  | .object members tear => do
    let m ← m.enter
    let (known, others) ← surveyAll fields.known anything m members tear
    let value ← fields.ofMembers m known
    return (value, Keyed.ofList others)
  | d => refuse ("struct " ++ name) d

def ofValue {α : Type} (reader : Reader α) (value : Json) : Except Misfit α := reader .value value.toDraft

def ofText {α : Type} (reader : Reader α) (s : String) : Except Misfit α := do
  let (draft, more) := Draft.ofText s.toList
  let value ← reader .text draft
  if more then raiseFault .trailingCharacters
  return value

end Reader

end Letterpress.Json
