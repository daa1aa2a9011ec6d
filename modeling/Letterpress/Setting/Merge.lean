import Letterpress.Decimal.Reader
import Letterpress.Setting.Basic

/-! Settings on top of settings. A table is merged member by member; everything else takes the place of what was there.
A key may be a path: names behind points and positions in brackets, which lead through tables and lists that come about
where they are missing. -/
namespace Letterpress.Setting

/-- A setting as a table: itself, or a new one in its place. -/
def asTable : Setting → Option String × List (String × Setting)
  | .table origin members => (origin, members)
  | _ => (none, [])

def asList : Setting → Option String × List Setting
  | .list origin items => (origin, items)
  | _ => (none, [])

mutual
def put (key : String) (members : List (String × Setting)) : Setting → List (String × Setting)
  | .table _ incoming =>
    Keyed.insert key (mergeAll ((Keyed.lookup? key members).getD (.table none [])) incoming) members
  | .list origin items => Keyed.insert key (.list origin items) members
  | .scalar origin value => Keyed.insert key (.scalar origin value) members

/-- Puts members into a setting, which becomes a table if there are any. -/
def mergeAll (target : Setting) : List (String × Setting) → Setting
  | [] => target
  | (key, value) :: incoming =>
    let (origin, members) := target.asTable
    mergeAll (.table origin (put key members value)) incoming
end

theorem lookup?_put_of_ne {key other : String} (different : other ≠ key) (members : List (String × Setting))
    (value : Setting) : Keyed.lookup? other (put key members value) = Keyed.lookup? other members := by
  cases value <;> simp only [put,Keyed.lookup?_insert_of_ne different]

inductive Leg
  | member (name : String)
  | item (position : Int)
  deriving DecidableEq, Repr

def isNameChar (c : Char) : Bool := c.isAlphanum || c == ' ' || c == '_' || c == '-'

def name? (s : List Char) : Option (Leg × List Char) :=
  if (s.takeWhile isNameChar).isEmpty then none
  else some (.member (String.ofList (s.takeWhile isNameChar)), s.dropWhile isNameChar)

/-- A position inside brackets, with blanks around it. -/
def position? (s : List Char) : Option Int :=
  let isGap := fun c => c == ' ' || c == '\t'
  let s := ((s.dropWhile isGap).reverse.dropWhile isGap).reverse
  match s with
  | '+' :: _ => none
  | s => Decimal.signed? s

/-- The legs of a path behind its first name; nothing if the text is no path. -/
def legs? : Nat → List Char → Option (List Leg)
  | _, [] => some []
  | 0, _ :: _ => none
  | fuel + 1, '.' :: s => do
    let (leg, rest) ← name? s
    return leg :: (← legs? fuel rest)
  | fuel + 1, '[' :: s => do
    let position ← position? (s.takeWhile (· != ']'))
    match s.dropWhile (· != ']') with
    | _ :: rest => return .item position :: (← legs? fuel rest)
    | [] => none
  | _ + 1, _ :: _ => none

/-- What a key means. One that is no path is a name. -/
def path (key : String) : List Leg :=
  let read := do
    let (first, rest) ← name? key.toList
    return first :: (← legs? rest.length rest)
  read.getD [.member key]

/-- Where a position is in a list of some length. Negative ones count from the end. -/
def place (position : Int) (length : Nat) : Nat :=
  if 0 ≤ position then position.toNat else length - position.natAbs

def at_ (value : Setting) : List Leg → Setting → Setting
  | [], _ => value
  | [.member name], target =>
    let (origin, members) := target.asTable
    .table origin (put name members value)
  | .member name :: legs, target =>
    let (origin, members) := target.asTable
    .table origin (Keyed.insert name (at_ value legs ((Keyed.lookup? name members).getD default)) members)
  | .item position :: legs, target =>
    let (origin, items) := target.asList
    let index := place position items.length
    let items := items ++ List.replicate (index + 1 - items.length) default
    .list origin (items.set index (at_ value legs (items.getD index default)))

/-- Puts settings under their keys, one after the other. -/
def overlay (target : Setting) (incoming : List (String × Setting)) : Setting :=
  incoming.foldl (fun target (key, value) => at_ value (path key) target) target

theorem overlay_append (target : Setting) (first second : List (String × Setting)) :
    overlay target (first ++ second) = overlay (overlay target first) second := by
  simp only [overlay,List.foldl_append]

end Letterpress.Setting
