import Letterpress.Text.Blank
import Letterpress.Text.Position
import Mathlib.Algebra.GroupWithZero.Nat
import Mathlib.Data.List.Induction
import Mathlib.Data.List.TakeWhile
import Mathlib.Order.Nat

/-! Places and bytes. A place takes no walk: what lies in front of it is counted. Who goes down as many lines and along as many
characters as it says comes to the byte that it was made from, and to no other place does that byte belong; and the further the
byte, the further the place. -/
namespace Letterpress
open Letterpress.Text

theorem Text.byteLength_append (s t : List Char) : byteLength (s ++ t) = byteLength s + byteLength t := by
  induction s with
  | nil => exact (Nat.zero_add _).symm
  | cons c s ih => simp only [List.cons_append,byteLength,ih,Nat.add_assoc]

private theorem Text.byteLength_mono {s t : List Char} (lead : s <+: t) : byteLength s ≤ byteLength t := by
  obtain ⟨rest,rfl⟩ := lead
  rw [byteLength_append]
  exact Nat.le_add_right _ _

namespace Position

/-- The place right behind a text, by its line feeds and by the characters behind the last of them. -/
def behind (s : List Char) : Position := ⟨s.count '\n' + 1, (s.reverse.takeWhile (· != '\n')).length + 1⟩

/-- Places are in the order of their lines, and on one line in that of their columns. -/
instance : LE Position := ⟨fun p q => p.line < q.line ∨ p.line = q.line ∧ p.column ≤ q.column⟩

/-- Whether a byte begins a character of the source, or ends the source. -/
def IsBoundary (source : List Char) (byte : Nat) : Prop := ∃ before, before <+: source ∧ byteLength before = byte

def lines (source : List Char) : List (List Char) := fields (· == '\n') source

/-- The byte that a place leads to: down to its line, past the line feeds of those above, and then along it. -/
def goTo? (source : List Char) : Position → Option Nat
  | ⟨above + 1, along + 1⟩ =>
    match (lines source)[above]? with
    | some line =>
      if along ≤ line.length then
        some ((((lines source).take above).map (byteLength · + 1)).sum + byteLength (line.take along))
      else none
    | none => none
  | _ => none

variable {source s t rest line : List Char} {above below : List (List Char)} {place : Position} {offset byte : Nat}

private theorem behind_concat (s : List Char) (c : Char) : behind (s ++ [c]) = (behind s).advance c := by
  by_cases feed : c = '\n'
  · simp [behind,advance,feed]
  · simp [behind,advance,feed]

private theorem foldl_advance (s : List Char) : s.foldl advance start = behind s := by
  induction s using List.reverseRecOn with
  | nil => rfl
  | append_singleton s c ih => rw [List.foldl_append,ih,behind_concat,List.foldl_cons,List.foldl_nil]

private theorem charsBefore_append (s rest : List Char) : charsBefore (s ++ rest) (byteLength s) = s := by
  induction s with
  | nil =>
    cases rest with
    | nil => rfl
    | cons c rest =>
      have wide := Char.utf8Size_pos c
      simp only [List.nil_append,byteLength,charsBefore]
      exact if_neg (by omega)
  | cons c s ih =>
    simp only [List.cons_append,byteLength,charsBefore,Nat.le_add_right,if_true,Nat.add_sub_cancel_left,ih]

theorem ofOffset_append (s rest : List Char) : ofOffset (s ++ rest) (byteLength s) = behind s := by
  rw [ofOffset,charsBefore_append,foldl_advance]

private theorem charsBefore_isPrefix (source : List Char) (offset : Nat) : charsBefore source offset <+: source := by
  fun_induction charsBefore source offset with
  | case1 => exact List.prefix_refl []
  | case2 c source offset fits ih => exact List.cons_prefix_cons.mpr ⟨rfl,ih⟩
  | case3 => exact List.nil_prefix

private theorem byteLength_charsBefore_le (source : List Char) (offset : Nat) :
    byteLength (charsBefore source offset) ≤ offset := by
  fun_induction charsBefore source offset with
  | case1 => exact Nat.zero_le _
  | case2 c source offset fits ih =>
    rw [byteLength]
    omega
  | case3 => exact Nat.zero_le _

/-- No more of the source lies whole in front of an offset. -/
theorem isPrefix_charsBefore (lead : s <+: source) (fits : byteLength s ≤ offset) : s <+: charsBefore source offset := by
  induction s generalizing source offset with
  | nil => exact List.nil_prefix
  | cons c s ih =>
    obtain ⟨rest,rfl⟩ := lead
    rw [byteLength] at fits
    rw [List.cons_append,charsBefore,if_pos (by omega)]
    exact List.cons_prefix_cons.mpr ⟨rfl,ih (List.prefix_append s rest) (by omega)⟩

private theorem isGreatest_byteLength (source : List Char) (offset : Nat) :
    IsGreatest {byte | IsBoundary source byte ∧ byte ≤ min offset (byteLength source)}
      (byteLength (charsBefore source offset)) := by
  have lead := charsBefore_isPrefix source offset
  constructor
  · exact ⟨⟨_,lead,rfl⟩,le_min (byteLength_charsBefore_le source offset) (byteLength_mono lead)⟩
  · rintro _ ⟨⟨s,begins,rfl⟩,fits⟩
    exact byteLength_mono (isPrefix_charsBefore begins (fits.trans (min_le_left _ _)))

private theorem le_advance (place : Position) (c : Char) : place ≤ place.advance c := by
  rw [advance]
  split
  · exact .inl (Nat.lt_succ_self _)
  · exact .inr ⟨rfl,Nat.le_succ _⟩

private theorem le_trans {p q r : Position} (first : p ≤ q) (second : q ≤ r) : p ≤ r := by
  change p.line < q.line ∨ p.line = q.line ∧ p.column ≤ q.column at first
  change q.line < r.line ∨ q.line = r.line ∧ q.column ≤ r.column at second
  change p.line < r.line ∨ p.line = r.line ∧ p.column ≤ r.column
  omega

private theorem le_foldl_advance (place : Position) (s : List Char) : place ≤ s.foldl advance place := by
  induction s generalizing place with
  | nil => exact .inr ⟨rfl,Nat.le_refl _⟩
  | cons c s ih => exact le_trans (le_advance place c) (ih _)

private theorem ofOffset_le (source : List Char) (offset more : Nat) :
    ofOffset source offset ≤ ofOffset source (offset + more) := by
  have fits := byteLength_charsBefore_le source offset
  obtain ⟨rest,whole⟩ := isPrefix_charsBefore (charsBefore_isPrefix source offset) (fits.trans (Nat.le_add_right _ more))
  rw [ofOffset,ofOffset,← whole,List.foldl_append]
  exact le_foldl_advance _ rest

/-- The text above a line, by its lines. -/
def textOf (above : List (List Char)) : List Char := above.flatMap (· ++ ['\n'])

private theorem byteLength_textOf (above : List (List Char)) :
    byteLength (textOf above) = (above.map (byteLength · + 1)).sum := by
  induction above with
  | nil => rfl
  | cons line above ih =>
    have feed : byteLength ['\n'] = 1 := by decide
    rw [textOf,List.flatMap_cons,byteLength_append,byteLength_append,feed,← textOf,ih,List.map_cons,List.sum_cons]

private theorem count_textOf (unbroken : ∀ line ∈ above, '\n' ∉ line) : (textOf above).count '\n' = above.length := by
  induction above with
  | nil => rfl
  | cons line above ih =>
    obtain ⟨own,others⟩ := List.forall_mem_cons.mp unbroken
    rw [textOf,List.flatMap_cons,List.count_append,List.count_append,← textOf,ih others,List.count_eq_zero.mpr own]
    simp [Nat.add_comm]

private theorem getLast?_textOf : ∀ c ∈ (textOf above).getLast?, c = '\n' := by
  rcases List.eq_nil_or_concat above with rfl | ⟨above,line,rfl⟩
  · simp [textOf]
  · intro c last
    simpa [textOf,eq_comm] using last

private theorem behind_textOf (unbroken : ∀ line ∈ above, '\n' ∉ line) (own : '\n' ∉ s) :
    behind (textOf above ++ s) = ⟨above.length + 1, s.length + 1⟩ := by
  have along : s.reverse.takeWhile (· != '\n') = s.reverse :=
    List.takeWhile_eq_self_iff.mpr fun c member => by
      have differs : c ≠ '\n' := fun same => own (same ▸ List.mem_reverse.mp member)
      simpa using differs
  have stops : ((textOf above).reverse.takeWhile (· != '\n')) = [] := by
    cases reversed : (textOf above).reverse with
    | nil => rfl
    | cons c front =>
      have last : c ∈ (textOf above).getLast? := by
        rw [← List.head?_reverse,reversed]
        rfl
      rw [getLast?_textOf c last]
      rfl
  rw [behind,List.count_append,count_textOf unbroken,List.count_eq_zero.mpr own,List.reverse_append,List.takeWhile_append]
  rw [along,if_pos rfl,stops,List.append_nil,List.length_reverse]

private theorem unbroken_of_mem_lines (member : line ∈ lines source) : '\n' ∉ line := fun feed => by
  have kept := not_separates_of_mem_fields member '\n' feed
  contradiction

/-- A text is cut at its line feeds into the lines above and the beginning of the last one. -/
theorem exists_textOf (s : List Char) :
    ∃ above tail, s = textOf above ++ tail ∧ (∀ line ∈ above, '\n' ∉ line) ∧ '\n' ∉ tail := by
  induction s using List.reverseRecOn with
  | nil => exact ⟨[],[],rfl,by simp,by simp⟩
  | append_singleton s c ih =>
    obtain ⟨above,tail,rfl,unbroken,own⟩ := ih
    by_cases feed : c = '\n'
    · refine ⟨above ++ [tail],[],?_,?_,by simp⟩
      · simp [textOf,feed]
      · intro line member
        rcases List.mem_append.mp member with earlier | last
        · exact unbroken line earlier
        · rwa [List.mem_singleton.mp last]
    · refine ⟨above,tail ++ [c],by simp,unbroken,?_⟩
      simpa [own,eq_comm] using feed

private theorem lines_append (unbroken : '\n' ∉ s) (rest : List Char) :
    lines (s ++ rest) = (s ++ (lines rest).headD []) :: (lines rest).tail := by
  induction s with
  | nil =>
    cases cut : lines rest with
    | nil => exact absurd cut (fields_ne_nil _ _)
    | cons first others => exact cut
  | cons c s ih =>
    rw [List.mem_cons,not_or] at unbroken
    have inner := ih unbroken.2
    rw [lines] at inner
    rw [lines,List.cons_append,fields,if_neg (by simpa using Ne.symm unbroken.1),inner]
    rfl

private theorem lines_unbroken (unbroken : '\n' ∉ s) : lines s = [s] := by
  have cut := lines_append unbroken []
  rw [List.append_nil] at cut
  rw [cut]
  exact congrArg (· :: []) (List.append_nil s)

private theorem lines_textOf (unbroken : ∀ line ∈ above, '\n' ∉ line) (rest : List Char) :
    lines (textOf above ++ rest) = above ++ lines rest := by
  induction above with
  | nil => rfl
  | cons line above ih =>
    obtain ⟨own,others⟩ := List.forall_mem_cons.mp unbroken
    have whole : textOf (line :: above) ++ rest = line ++ '\n' :: (textOf above ++ rest) := by simp [textOf]
    rw [whole,lines,fields_append (by rfl),← lines,← lines,lines_unbroken own,ih others]
    rfl

private theorem source_of_lines (cut : lines source = above ++ line :: below) :
    ∃ rest, source = textOf above ++ (line ++ rest) := by
  obtain ⟨all,tail,rfl,unbroken,own⟩ := exists_textOf source
  rw [lines_textOf unbroken,lines_unbroken own] at cut
  rcases List.eq_nil_or_concat below with rfl | ⟨below,last,rfl⟩
  · obtain ⟨rfl,same⟩ := List.append_inj' cut rfl
    obtain ⟨rfl,-⟩ := List.cons.inj same
    exact ⟨[],by rw [List.append_nil]⟩
  · have parts : all ++ [tail] = (above ++ line :: below) ++ [last] := by simpa using cut
    obtain ⟨rfl,-⟩ := List.append_inj' parts rfl
    exact ⟨'\n' :: (textOf below ++ tail),by simp [textOf]⟩

private theorem goTo?_behind (before rest : List Char) : goTo? (before ++ rest) (behind before) = some (byteLength before) := by
  obtain ⟨above,tail,rfl,unbroken,own⟩ := exists_textOf before
  have cut : lines (textOf above ++ tail ++ rest) = above ++ (tail ++ (lines rest).headD []) :: (lines rest).tail := by
    rw [List.append_assoc,lines_textOf unbroken,lines_append own]
  rw [behind_textOf unbroken own,goTo?,cut]
  simp [byteLength_append,byteLength_textOf]

/-- A place that leads anywhere is the place behind what it leads past. -/
theorem exists_of_goTo? (found : goTo? source place = some byte) :
    ∃ before rest, source = before ++ rest ∧ behind before = place ∧ byteLength before = byte := by
  unfold goTo? at found
  split at found
  · next above along =>
    split at found
    · next line there =>
      split at found
      · next fits =>
        cases found
        obtain ⟨within,rfl⟩ := List.getElem?_eq_some_iff.mp there
        have cut : lines source = (lines source).take above ++ (lines source)[above] :: (lines source).drop (above + 1) := by
          rw [List.getElem_cons_drop,List.take_append_drop]
        obtain ⟨rest,whole⟩ := source_of_lines cut
        have unbroken : ∀ line ∈ (lines source).take above, '\n' ∉ line := fun line member =>
          unbroken_of_mem_lines (List.mem_of_mem_take member)
        have own : '\n' ∉ ((lines source)[above]).take along := fun feed =>
          unbroken_of_mem_lines (List.getElem_mem within) (List.mem_of_mem_take feed)
        refine ⟨_,((lines source)[above]).drop along ++ rest,?_,behind_textOf unbroken own |>.trans ?_,?_⟩
        · rw [List.append_assoc,← List.append_assoc (List.take _ _),List.take_append_drop]
          exact whole
        · rw [List.length_take_of_le (Nat.le_of_lt within),List.length_take_of_le fits]
        · rw [byteLength_append,byteLength_textOf]
      · contradiction
    · contradiction
  · contradiction

/-- The place of an offset leads back to the last boundary that is neither behind the offset nor behind the source, and no
other place leads there; and a larger offset has no smaller place. -/
theorem places_lead_back (source : List Char) (offset : Nat) :
    ∃ byte, IsGreatest {byte | IsBoundary source byte ∧ byte ≤ min offset (byteLength source)} byte ∧
      (∀ place, goTo? source place = some byte ↔ place = ofOffset source offset) ∧
      ∀ more, ofOffset source offset ≤ ofOffset source (offset + more) := by
  refine ⟨_,isGreatest_byteLength source offset,fun place => ⟨fun found => ?_,?_⟩,ofOffset_le source offset⟩
  all_goals obtain ⟨rest,whole⟩ := charsBefore_isPrefix source offset
  · obtain ⟨before,others,rfl,rfl,same⟩ := exists_of_goTo? found
    have here := ofOffset_append (charsBefore (before ++ others) offset) rest
    rw [whole,← same,ofOffset_append before others] at here
    rw [here,ofOffset,foldl_advance]
  · rintro rfl
    have there := goTo?_behind (charsBefore source offset) rest
    rwa [whole,← foldl_advance] at there

example : ofOffset "é\nàb".toList 4 = ⟨2, 1⟩ ∧ goTo? "é\nàb".toList ⟨2, 1⟩ = some 3 := by decide

end Position
end Letterpress
