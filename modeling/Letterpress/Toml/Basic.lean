import Letterpress.Keyed

/-! TOML values. A table remembers how it came about and a list whether headers made it, for that decides what may still
be put into them while a document is read. -/
namespace Letterpress

/-- What brought a table about: a header on its way to another table, a dotted key on its way to a value, a header of its
own, or a pair of braces. -/
inductive Toml.Standing
  | passed
  | dotted
  | headed
  | braced
  deriving DecidableEq, Repr

/-- A list is `headed` if each of its items is a table under a header. Dates and times are kept as texts. -/
inductive Toml
  | text (value : String)
  | int (value : Int)
  | float (value : Float)
  | flag (value : Bool)
  | date (text : String)
  | list (headed : Bool) (items : List Toml)
  | table (standing : Toml.Standing) (members : List (String × Toml))

namespace Toml

abbrev Members := List (String × Toml)

/-- What leads through tables: a header, or the keys of a dotted key before the last. -/
inductive Guide
  | header
  | dots
  deriving DecidableEq, Repr

/-- How a table comes about that is missing on the way. -/
def Guide.makes : Guide → Standing
  | header => .passed
  | dots => .dotted

/-- A table in braces is closed. A dotted key does not reach into tables with a header of their own, either. -/
def Guide.enters (guide : Guide) : Standing → Bool
  | .passed | .dotted => true
  | .headed => guide == .header
  | .braced => false

/-- Changes the table at the end of a way. On the way, a list of headed tables stands for the last of them. -/
def within? (guide : Guide) (change : Standing → Members → Option Members) (standing : Standing) (members : Members) :
    List String → Option Members
  | [] => change standing members
  | key :: way =>
    match Keyed.lookup? key members with
    | none => do
      let inner ← within? guide change guide.makes [] way
      return Keyed.insert key (.table guide.makes inner) members
    | some (.table inside inner) =>
      if guide.enters inside then do
        let inner ← within? guide change inside inner way
        return Keyed.insert key (.table inside inner) members
      else none
    | some (.list true items) =>
      match items.getLast? with
      | some (.table inside inner) => do
        let inner ← within? guide change inside inner way
        return Keyed.insert key (.list true (items.dropLast ++ [.table inside inner])) members
      | _ => none
    | some _ => none

/-- Puts a value under a dotted key that has not been used. The keys before the last lead to a table that dotted keys
alone have made. -/
def assign? (key : List String) (value : Toml) (standing : Standing) (members : Members) : Option Members := do
  let last ← key.getLast?
  let way := key.dropLast
  within? .dots (fun reached members =>
    if (reached == .dotted) == way.isEmpty then none
    else if (Keyed.lookup? last members).isSome then none
    else some (Keyed.insert last value members)) standing members way

def braced? (pairs : List (List String × Toml)) : Option Toml :=
  (pairs.foldlM (fun members (key, value) => assign? key value .braced members) []).map (.table .braced)

/-- What a document is made of: a value under a key, the header of a table, and the header of a table in a list. -/
inductive Line
  | pair (key : List String) (value : Toml)
  | header (way : List String)
  | item (way : List String)

/-- A document so far, and the way to the table that is being filled. -/
structure Draft where
  members : Members := []
  way : List String := []

/-- Gives a table its header. It is new, or has been passed by other headers only. -/
def head? (key : String) (members : Members) : Option Members :=
  match Keyed.lookup? key members with
  | none => some (Keyed.insert key (.table .headed []) members)
  | some (.table .passed inner) => some (Keyed.insert key (.table .headed inner) members)
  | some _ => none

/-- Adds an empty table to a list of headed tables. -/
def grow? (key : String) (members : Members) : Option Members :=
  match Keyed.lookup? key members with
  | none => some (Keyed.insert key (.list true [.table .headed []]) members)
  | some (.list true items) => some (Keyed.insert key (.list true (items ++ [.table .headed []])) members)
  | some _ => none

def Draft.extend? (draft : Draft) : Line → Option Draft
  | .pair key value => do
    let members ← within? .header (assign? key value) .headed draft.members draft.way
    return { draft with members := members }
  | .header way => do
    let last ← way.getLast?
    let members ← within? .header (fun _ => head? last) .headed draft.members way.dropLast
    return ⟨members, way⟩
  | .item way => do
    let last ← way.getLast?
    let members ← within? .header (fun _ => grow? last) .headed draft.members way.dropLast
    return ⟨members, way⟩

/-- The members of the document with these lines, unless one of them contradicts another. -/
def ofLines? (lines : List Line) : Option Members :=
  (lines.foldlM Draft.extend? {}).map (·.members)

end Toml

end Letterpress
