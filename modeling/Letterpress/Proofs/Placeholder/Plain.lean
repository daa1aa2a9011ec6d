import Letterpress.Placeholder.Fill
import Mathlib.Data.List.Infix

/-! Texts without placeholders. Where no tag is opened, a source is one run of text, and whatever it is filled with, that text
comes out. -/
namespace Letterpress.Placeholder
open Letterpress.Text

variable {s : List Char} {text : String}

theorem stripLead?_eq_none {lead : List Char} (absent : ¬ lead <+: s) : stripLead? lead s = none := by
  cases stripped : stripLead? lead s with
  | none => rfl
  | some rest => exact absurd ⟨rest,(stripLead?_eq_some stripped).symm⟩ absent

/-- A backslash matters only before braces. -/
theorem scanRun_of_plain (plain : ¬ doubleOpen <:+: s) : scanRun doubleOpen s = (s, s, []) := by
  induction s with
  | nil => rw [scanRun]
  | cons c rest ih =>
    have here : stripLead? doubleOpen (c :: rest) = none := stripLead?_eq_none fun lead => plain lead.isInfix
    have behind : stripLead? doubleOpen (rest.dropWhile (· == '\\')) = none := stripLead?_eq_none fun lead =>
      plain ((lead.isInfix.trans (List.dropWhile_suffix _).isInfix).trans (List.suffix_cons c rest).isInfix)
    have later := ih fun within => plain (within.trans (List.suffix_cons c rest).isInfix)
    rw [scanRun]
    simp [here,behind,later]

private theorem pieces?_of_plain (plain : ¬ doubleOpen <:+: s) : pieces? s = some ⟨[], ⟨s, s, s.all isGap⟩⟩ := by
  simp [pieces?,piecesFrom?,Run.scan,scanRun_of_plain plain]

private theorem ofSource_of_plain (plain : ¬ doubleOpen <:+: text.toList) :
    Template.ofSource text = .ok ⟨if text = "" then [] else [.text text]⟩ := by
  have after : (Run.after ⟨text.toList, text.toList, text.toList.all isGap⟩ ⟨false, false⟩).1 =
      if text = "" then none else some text.toList := by
    by_cases empty : text = ""
    · subst empty
      rfl
    · simp [Run.after,empty]
  have trimmed : Pieces.trim ⟨[], ⟨text.toList, text.toList, text.toList.all isGap⟩⟩ =
      ([], if text = "" then none else some text.toList) := by
    rw [← after]
    rfl
  have nested : isNested [] = true := by decide
  simp only [Template.ofSource,pieces?_of_plain plain,List.map_nil,nested,trimmed]
  by_cases empty : text = ""
  · simp only [empty]
    rfl
  · simp only [empty,if_false]
    change Except.ok _ = Except.ok _
    simp [Building.addText,Building.add]

private theorem fill_text (data : Json) (text : String) :
    Template.fill ⟨if text = "" then [] else [.text text]⟩ data = .ok text := by
  by_cases empty : text = ""
  · subst empty
    rfl
  · have written : (Filling.start.write text).written = text := by simp [Filling.write,Filling.start,empty]
    simp only [empty,if_false]
    change Except.ok (Filling.start.write text).written = _
    rw [written]

/-- A text in which nothing opens a placeholder is read, and comes out as it is whatever it is filled with. -/
theorem filled_of_plain (plain : ¬ doubleOpen <:+: text.toList) :
    ∃ template, Template.ofSource text = .ok template ∧ ∀ data, template.fill data = .ok text :=
  ⟨_,ofSource_of_plain plain,fun data => fill_text data text⟩

end Letterpress.Placeholder
