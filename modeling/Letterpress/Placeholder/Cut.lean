import Letterpress.Placeholder.Grammar
import Letterpress.Text.Position

/-! Cutting a source into tags and the text between them. A backslash before double braces makes text of them; in a run
of backslashes before braces the first is dropped and the braces stay a tag. -/
namespace Letterpress.Placeholder
open Letterpress.Text

/-- Text between tags: as it stands in the source, and as it reads. A blank run holds nothing but gap characters. -/
structure Run where
  source : List Char
  reading : List Char
  blank : Bool
  deriving DecidableEq, Repr

/-- A tag, the text before it, and where it begins. -/
structure Piece where
  run : Run
  mark : Mark
  place : Position

structure Pieces where
  pieces : List Piece
  last : Run

/-- Reads text up to the next `opener` that no backslash takes away: its source, its reading, and the rest. -/
def scanRun (opener : List Char) (s : List Char) : List Char × List Char × List Char :=
  match s with
  | [] => ([], [], [])
  | c :: rest =>
    if (stripLead? opener (c :: rest)).isSome then ([], [], c :: rest)
    else
      let backslashes := rest.takeWhile (· == '\\')
      let behind := rest.dropWhile (· == '\\')
      if c = '\\' ∧ (stripLead? doubleOpen behind).isSome then
        if backslashes.isEmpty then
          let braces := if (stripLead? quadrupleOpen behind).isSome then quadrupleOpen else doubleOpen
          let (source, reading, rest) := scanRun opener (behind.drop braces.length)
          (c :: braces ++ source, braces ++ reading, rest)
        else
          let (source, reading, rest) := scanRun opener (rest.drop backslashes.length)
          (c :: backslashes ++ source, backslashes ++ reading, rest)
      else
        let (source, reading, rest) := scanRun opener rest
        (c :: source, c :: reading, rest)
termination_by s.length
decreasing_by
  · have shorter := (List.dropWhile_suffix (· == '\\') (l := rest)).length_le
    simp only [List.length_cons,List.length_drop]
    omega
  · simp only [List.length_cons,List.length_drop]
    omega
  · simp

/-- The text of a run; in a verbatim block blanks at its beginning are no part of what it reads. -/
def Run.scan (verbatim : Bool) (s : List Char) : Run × List Char :=
  if verbatim then
    let lead := s.takeWhile isGap
    let (source, reading, rest) := scanRun quadrupleOpen (skipGap s)
    (⟨lead ++ source, reading, false⟩, rest)
  else
    let (source, reading, rest) := scanRun doubleOpen s
    (⟨source, reading, source.all isGap⟩, rest)

def Tag.opensVerbatim : Tag → Bool
  | openVerbatim .. => true
  | _ => false

/-- Cuts a source that begins at `place`; nothing if some tag cannot be read. -/
def piecesFrom? : Nat → Bool → Position → List Char → Option Pieces
  | 0, _, _, _ => none
  | fuel + 1, verbatim, place, s =>
    let (run, rest) := Run.scan verbatim s
    let place := run.source.foldl Position.advance place
    if rest.isEmpty then if verbatim then none else some ⟨[], run⟩
    else do
      let (mark, behind) ← if verbatim then closeVerbatim? rest else mark? rest
      let next := (readPart rest behind).foldl Position.advance place
      let others ← piecesFrom? fuel mark.tag.opensVerbatim next behind
      return { others with pieces := ⟨run, mark, place⟩ :: others.pieces }

def pieces? (s : List Char) : Option Pieces := piecesFrom? (s.length + 1) false .start s

end Letterpress.Placeholder
