import Letterpress.Template.Check

/-! A directory as it stands at some moment: which files and directories are in it, by the names on the way to them.
Links are not modelled. -/
namespace Letterpress

/-- A file holds a text, or bytes that are none. -/
inductive Entry
  | text (content : String)
  | bytes
  | directory
  deriving DecidableEq, Repr

/-- What is below the directory `root`. All directories on the way to an entry are entries, too. -/
structure Disk where
  root : String
  entries : List (List String × Entry)
  deriving DecidableEq, Repr

inductive ReadFault
  | missing
  | notADirectory
  | isADirectory
  | nameTooLong
  | noText
  | zeroInName
  deriving DecidableEq, Repr

def ReadFault.message : ReadFault → String
  | missing => "No such file or directory (os error 2)"
  | notADirectory => "Not a directory (os error 20)"
  | isADirectory => "Is a directory (os error 21)"
  | nameTooLong => "File name too long (os error 36)"
  | noText => "stream did not contain valid UTF-8"
  | zeroInName => "file name contained an unexpected NUL byte"

/-- The names on a path. Slashes may be repeated, and a dot stays where it is. -/
def steps (path : String) : List String := (segments path).filter fun s => s ≠ "" && s ≠ "."

/-- The path `path` from the directory `base`. An absolute path leads away from there. -/
def joinPath (base path : String) : String :=
  if base = "" ∨ path.toList.head? = some '/' then path
  else if base.toList.getLast? = some '/' then base ++ path
  else base ++ "/" ++ path

namespace Disk

def empty (root : String) : Disk := ⟨root, []⟩

/-- What is at the end of a way; the way that goes nowhere ends at the root. -/
def entry? (disk : Disk) (way : List String) : Option Entry :=
  if way.isEmpty then some .directory else (disk.entries.find? (·.1 == way)).map (·.2)

/-- Goes on from `way`, which has to lead to a directory, through the parts of a path, and never above the root. -/
def find (disk : Disk) (way : List String) : List String → Except ReadFault Entry
  | [] =>
    match disk.entry? way with
    | some entry => .ok entry
    | none => .error .missing
  | s :: rest =>
    match disk.entry? way with
    | none => .error .missing
    | some .directory =>
      if s = "" ∨ s = "." then disk.find way rest
      else if s = ".." then (if way.isEmpty then .error .missing else disk.find way.dropLast rest)
      else if 255 < s.utf8ByteSize then .error .nameTooLong
      else disk.find (way ++ [s]) rest
    | some _ => .error .notADirectory

def read (disk : Disk) (path : String) : Except ReadFault String :=
  if path.toList.contains '\x00' then .error .zeroInName
  else
    match disk.find [] (segments path) with
    | .ok (.text content) => .ok content
    | .ok .bytes => .error .noText
    | .ok .directory => .error .isADirectory
    | .error fault => .error fault

def put (disk : Disk) (way : List String) (entry : Entry) : Disk :=
  { disk with entries := disk.entries.filter (·.1 != way) ++ [(way, entry)] }

/-- The disk with all directories on a way that goes on from `way`. -/
def ensure (disk : Disk) (way : List String) : List String → Disk
  | [] => disk
  | s :: rest =>
    let way := way ++ [s]
    (if (disk.entry? way).isSome then disk else disk.put way .directory).ensure way rest

/-- Writes a file, or makes a directory, with all directories on the way to it. -/
def write (disk : Disk) (path : String) (entry : Entry) : Disk :=
  let way := steps path
  (disk.ensure [] way.dropLast).put way entry

def remove? (disk : Disk) (path : String) : Option Disk :=
  let way := steps path
  match disk.entry? way with
  | some (.text _) | some .bytes => some { disk with entries := disk.entries.filter (·.1 != way) }
  | _ => none

end Disk

end Letterpress
