import Letterpress.Decimal.Reader
import Letterpress.Json.Misfit
import Letterpress.Setting.Basic
import Letterpress.Text.LetterCase

/-! What a setting is taken for. A text will do for a number or a flag, and a number for a flag or a text. -/
namespace Letterpress

/-- What is found where something else is expected. A word is a whole number without a sign. -/
inductive Found
  | scalar (value : Scalar)
  | word (value : Nat)
  | list
  | table

def Setting.found : Setting → Found
  | .scalar _ value => .scalar value
  | .list _ _ => .list
  | .table _ _ => .table

/-- What is found, named with the width of numbers. -/
def Found.exact : Found → String
  | .scalar .absent => "unit value"
  | .scalar (.flag value) => "boolean `" ++ toString value ++ "`"
  | .scalar (.int value) => "64-bit integer `" ++ toString value ++ "`"
  | .scalar (.float value) => "floating point `" ++ Decimal.plain value ++ "`"
  | .scalar (.text value) => "string " ++ Text.quoted value
  | .word value => "64-bit unsigned integer `" ++ toString value ++ "`"
  | .list => "sequence"
  | .table => "map"

def Found.short : Found → String
  | .scalar (.int value) => "integer `" ++ toString value ++ "`"
  | .scalar (.float value) =>
    let text := Decimal.plain value
    "floating point `" ++ (if (Decimal.whole? value).isSome then text ++ ".0" else text) ++ "`"
  | .word value => "integer `" ++ toString value ++ "`"
  | found => found.exact

inductive SettingsError
  | malformedFile
  | wrongKind (path : List Json.Step) (origin : Option String) (found : Found) (expected : String)
  | wrongShape (found : Found) (expected : String)

namespace SettingsError

def message : SettingsError → String
  | malformedFile => "a file cannot be read"
  | wrongKind path origin found expected =>
    "invalid type: " ++ found.exact ++ ", expected " ++ expected ++
      (if path.isEmpty then "" else " for key `" ++ Json.pathText path ++ "`") ++
      (match origin with
        | some origin => " in " ++ origin
        | none => "")
  | wrongShape found expected => "invalid type: " ++ found.short ++ ", expected " ++ expected

/-- What is wrong with a part, seen from the whole. -/
def under (step : Json.Step) : SettingsError → SettingsError
  | wrongKind path origin found expected => .wrongKind (step :: path) origin found expected
  | error => error

end SettingsError

namespace Setting

abbrev Reading (α : Type) := Setting → Except SettingsError α

def expected {α : Type} (kind : String) (s : Setting) : Except SettingsError α :=
  .error (.wrongKind [] s.origin s.found kind)

def text : Reading String := fun s =>
  match s with
  | .scalar _ (.text value) => .ok value
  | .scalar _ (.flag value) => .ok (toString value)
  | .scalar _ (.int value) => .ok (toString value)
  | .scalar _ (.float value) => .ok (Decimal.plain value)
  | s => s.expected "a string"

def flagNamed? (word : String) : Option Bool :=
  if word = "true" ∨ word = "on" ∨ word = "yes" then some true
  else if word = "false" ∨ word = "off" ∨ word = "no" then some false
  else none

def flag : Reading Bool := fun s =>
  match s with
  | .scalar _ (.flag value) => .ok value
  | .scalar _ (.int value) => .ok (value != 0)
  | .scalar _ (.float value) => .ok (value != 0.0)
  | .scalar origin (.text value) =>
    let word := Text.lower value
    match if word = "1" then some true else if word = "0" then some false else flagNamed? word with
    | some value => .ok value
    | none => .error (.wrongKind [] origin (.scalar (.text word)) "a boolean")
  | s => s.expected "a boolean"

def word : Reading Nat := fun s =>
  match s with
  | .scalar origin (.int value) =>
    if 0 ≤ value then .ok value.toNat
    else .error (.wrongKind [] origin (.scalar (.int value)) "an unsigned 64 bit or less integer")
  | .scalar _ (.flag value) => .ok value.toNat
  | .scalar _ (.float value) => .ok (Decimal.nearestWord value)
  | .scalar origin (.text value) =>
    match flagNamed? (Text.lower value) with
    | some value => .ok value.toNat
    | none =>
      match Decimal.word? value.toList with
      | some n => .ok n
      | none => .error (.wrongKind [] origin (.scalar (.text value)) "an integer")
  | s => s.expected "an integer"

/-- A word of sixteen bits. -/
def port : Reading Nat := fun s => do
  let n ← s.word
  if n < Decimal.twoTo 16 then return n else throw (.wrongKind [] none (.word n) "an unsigned 16 bit integer")

def ratio : Reading Float := fun s =>
  match s with
  | .scalar _ (.float value) => .ok value
  | .scalar _ (.int value) => .ok (Decimal.ofInt value)
  | .scalar _ (.flag value) => .ok (if value then 1.0 else 0.0)
  | .scalar origin (.text value) =>
    match flagNamed? (Text.lower value) with
    | some value => .ok (if value then 1.0 else 0.0)
    | none =>
      match Decimal.float? value.toList with
      | some x => .ok x
      | none => .error (.wrongKind [] origin (.scalar (.text value)) "a floating point")
  | s => s.expected "a floating point"

def optional {α : Type} (reading : Reading α) : Reading (Option α) := fun s =>
  match s with
  | .scalar _ .absent => .ok none
  | s => (reading s).map some

def items {α : Type} (reading : Reading α) (index : Nat) : List Setting → Except SettingsError (List α)
  | [] => .ok []
  | s :: rest => do
    let value ← (reading s).mapError (·.under (.item index))
    return value :: (← items reading (index + 1) rest)

def listOf {α : Type} (reading : Reading α) : Reading (List α) := fun s =>
  match s with
  | .list _ settings => items reading 0 settings
  | s => .error (.wrongShape s.found "a sequence")

/-- The settings of a section, by name in a table and by position in a list. -/
inductive Section
  | named (members : List (String × Setting))
  | ordered (items : List Setting)

def Section.find? (s : Section) (name : String) (index : Nat) : Option (Json.Step × Setting) :=
  match s with
  | .named members => (Keyed.lookup? name members).map (.key name, ·)
  | .ordered items => items[index]?.map (.item index, ·)

/-- What a section says, or what holds where it says nothing. -/
def Section.get {α : Type} (s : Section) (name : String) (index : Nat) (builtIn : α) (reading : Reading α) :
    Except SettingsError α :=
  match s.find? name index with
  | some (step, setting) => (reading setting).mapError (·.under step)
  | none => .ok builtIn

/-- Reads a section, which goes by a title where it is none. -/
def sectionOf {α : Type} (title : String) (read : Section → Except SettingsError α) : Reading α := fun s =>
  match s with
  | .table _ members => read (.named members)
  | .list _ settings => read (.ordered settings)
  | s => .error (.wrongShape s.found ("struct " ++ title))

end Setting

end Letterpress
