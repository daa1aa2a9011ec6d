import Letterpress.Proofs.Html.Blocks
import Letterpress.Proofs.Text.Searching
import Mathlib.Data.List.Forall2

/-! Preformatted blocks and the text between them. There is one way to cut a text into its blocks and what stands around them.
Collapsing keeps the blocks, and writes one space for every run of blanks in the rest. That may make an opening tag of what was
none, with another blank behind its name; but the block that begins there holds nothing to collapse up to the end of the first
one that was there before, so collapsing a second time changes nothing. -/
namespace Letterpress.Html
open Letterpress.Text

/-- A text begins with the opening tag of a block, in any letter case. -/
def Opens (s : List Char) : Prop :=
  ∃ tag c rest, s = tag ++ c :: rest ∧ tag.map Char.toLower = "<pre".toList ∧ c ∈ ['>', '/', ' ', '\t', '\n', '\r']

/-- A text begins with a closing tag, in any letter case. -/
def Closes (s : List Char) : Prop := ∃ tag rest, s = tag ++ rest ∧ tag.map Char.toLower = "</pre>".toList

/-- A block goes on through its first closing tag, or to the end of the text. -/
def Ends (block after : List Char) : Prop :=
  (∃ inside tag, block = inside ++ tag ∧ tag.map Char.toLower = "</pre>".toList ∧
    FirstPlace Closes (block ++ after) inside (tag ++ after)) ∨ after = [] ∧ NoPlace Closes block

/-- A text is cut from left to right, at the first opening tag of a block and at the end of that block. -/
inductive Splits : List Char → List Piece → Prop
  | text {s : List Char} (unopened : NoPlace Opens s) : Splits s [.text s]
  | block {s before block after : List Char} {rest : List Piece} (opens : FirstPlace Opens s before (block ++ after))
      (ends : Ends block after) (further : Splits after rest) : Splits s (.text before :: .preformatted block :: rest)

/-- Every run of blanks, as long as it is, becomes one space, and nothing else changes. -/
inductive SpacedAs : List Char → List Char → Prop
  | nil : SpacedAs [] []
  | filled {c : Char} {s t : List Char} (other : isBlank c = false) (further : SpacedAs s t) : SpacedAs (c :: s) (c :: t)
  | run {run s t : List Char} (nonempty : run ≠ []) (blank : ∀ c ∈ run, isBlank c = true)
      (ends : ∀ c ∈ s.head?, isBlank c = false) (further : SpacedAs s t) : SpacedAs (run ++ s) (' ' :: t)

inductive Piece.CollapsesTo : Piece → List Char → Prop
  | text {chars t : List Char} (spaced : SpacedAs chars t) : CollapsesTo (.text chars) t
  | preformatted (chars : List Char) : CollapsesTo (.preformatted chars) chars

variable {c : Char} {s t before rest block after chars : List Char} {list : List Piece}

private theorem closes_iff : Closes s ↔ beginsWith closesBlock s = true := by
  rw [beginsWith_iff]
  constructor
  · rintro ⟨tag,rest,rfl,lower⟩
    have length : tag.length = closesBlock.length := by rw [closesBlock,← lower,List.length_map]
    rw [List.take_left' length]
    exact lower
  · exact fun lower => ⟨_,_,(List.take_append_drop closesBlock.length s).symm,lower⟩

private theorem opens_iff : Opens s ↔ opensBlock s = true := by
  rw [opensBlock,Bool.and_eq_true,beginsWith_iff]
  constructor
  · rintro ⟨tag,c,rest,rfl,lower,ends⟩
    have length : tag.length = "<pre".toList.length := by rw [← lower,List.length_map]
    have four : tag.length = 4 := length
    rw [List.take_left' length,List.drop_left' four]
    exact ⟨lower,by simpa [or_assoc] using ends⟩
  · rintro ⟨lower,ends⟩
    split at ends
    · next c rest found => 
      refine ⟨s.take 4,c,rest,?_,lower,by simpa [or_assoc] using ends⟩
      rw [← found,List.take_append_drop]
    · contradiction

private theorem beforeBlock_of_noPlace (unopened : NoPlace Opens s) : beforeBlock s = (s, []) := by
  induction s with
  | nil => rfl
  | cons c s ih =>
    obtain ⟨bare,later⟩ := noPlace_cons_iff.mp unopened
    rw [beforeBlock,if_neg (opens_iff.not.mp bare),ih later]

private theorem beforeBlock_of_firstPlace (first : FirstPlace Opens s before rest) : beforeBlock s = (before, rest) := by
  induction before generalizing s with
  | nil =>
    obtain rfl : s = rest := first.whole
    obtain ⟨p,r,e,c,t,rfl,_⟩ := exists_of_opensBlock (opens_iff.mp first.here)
    rw [beforeBlock,if_pos (opens_iff.mp first.here)]
  | cons c before ih =>
    obtain rfl := first.whole
    rw [List.cons_append] at first ⊢
    obtain ⟨bare,later⟩ := first.tail
    rw [beforeBlock,if_neg (opens_iff.not.mp bare),ih later]

private theorem noPlace_of_beforeBlock (ends : (beforeBlock s).2 = []) : NoPlace Opens s := by
  induction s with
  | nil =>
    intro b a whole opens
    obtain ⟨_,_,_,_,_,rfl,_⟩ := exists_of_opensBlock (opens_iff.mp opens)
    simp at whole
  | cons c s ih =>
    rw [beforeBlock] at ends
    split at ends
    · contradiction
    · next bare => exact noPlace_cons_iff.mpr ⟨opens_iff.not.mpr bare,ih ends⟩

private theorem firstPlace_beforeBlock (found : (beforeBlock s).2 ≠ []) :
    FirstPlace Opens s (beforeBlock s).1 (beforeBlock s).2 := by
  induction s with
  | nil => exact absurd rfl found
  | cons c s ih =>
    rw [beforeBlock] at found ⊢
    split
    · next opens => exact firstPlace_here (opens_iff.mpr opens)
    · next bare =>
      rw [if_neg bare] at found
      exact firstPlace_cons (opens_iff.not.mpr bare) (ih found)

private theorem throughBlock_of_ends (ends : Ends block after) : throughBlock (block ++ after) = (block, after) := by
  rcases ends with ⟨inside,tag,rfl,lower,first⟩ | ⟨rfl,endless⟩
  · have length : tag.length = closesBlock.length := by rw [closesBlock,← lower,List.length_map]
    induction inside with
    | nil =>
      rw [List.nil_append,throughBlock_of_closes (closes_iff.mp first.here),List.take_left' length,List.drop_left' length]
    | cons c inside ih =>
      rw [List.cons_append,List.cons_append] at first ⊢
      obtain ⟨onwards,later⟩ := first.tail
      rw [throughBlock_of_inside (closes_iff.not.mp onwards),ih later]
  · rw [List.append_nil]
    induction block with
    | nil => rfl
    | cons c block ih =>
      obtain ⟨onwards,later⟩ := noPlace_cons_iff.mp endless
      rw [throughBlock_of_inside (closes_iff.not.mp onwards),ih later]

private theorem ends_throughBlock (s : List Char) : Ends (throughBlock s).1 (throughBlock s).2 := by
  induction s with
  | nil => exact .inr ⟨rfl,fun b a whole closes => by
      obtain ⟨tag,rest,rfl,lower⟩ := closes
      simp_all [throughBlock]⟩
  | cons c s ih =>
    by_cases closes : beginsWith closesBlock (c :: s) = true
    · rw [throughBlock_of_closes closes]
      refine .inl ⟨[],_,rfl,beginsWith_iff.mp closes,firstPlace_here ?_⟩
      rw [List.take_append_drop]
      exact closes_iff.mpr closes
    · have onwards : ¬ Closes (c :: s) := closes_iff.not.mpr closes
      rw [throughBlock_of_inside closes]
      rcases ih with ⟨inside,tag,same,lower,first⟩ | ⟨exhausted,unclosed⟩
      · refine .inl ⟨c :: inside,tag,by rw [same]; rfl,lower,?_⟩
        rw [throughBlock_append] at first
        rw [List.cons_append,throughBlock_append]
        exact firstPlace_cons onwards first
      · have whole := throughBlock_append s
        rw [exhausted,List.append_nil] at whole
        rw [whole] at unclosed ⊢
        exact .inr ⟨exhausted,noPlace_cons_iff.mpr ⟨onwards,unclosed⟩⟩

private theorem splits_pieces (s : List Char) : Splits s (pieces s) := by
  fun_induction pieces s with
  | case1 s ends =>
    have whole := beforeBlock_append s
    rw [ends,List.append_nil] at whole
    rw [whole]
    exact .text (noPlace_of_beforeBlock ends)
  | case2 s c rest found ih =>
    have first := firstPlace_beforeBlock (s := s) (by rw [found]; exact List.cons_ne_nil c rest)
    rw [found,← throughBlock_append (c :: rest)] at first
    exact .block first (ends_throughBlock _) ih

private theorem Splits.eq_pieces (splits : Splits s list) : list = pieces s := by
  induction splits with
  | text unopened =>
    rw [pieces]
    split
    · rw [beforeBlock_of_noPlace unopened]
    · next found =>
      rw [beforeBlock_of_noPlace unopened] at found
      contradiction
  | @block s before block after rest first ends further ih =>
    have cut := beforeBlock_of_firstPlace first
    rw [pieces]
    split
    · next found =>
      obtain ⟨_,_,_,_,_,same,_⟩ := exists_of_opensBlock (opens_iff.mp first.here)
      rw [cut] at found
      rw [show block ++ after = [] from found] at same
      contradiction
    · next c t found =>
      rw [cut] at found
      have through := throughBlock_of_ends ends
      rw [cut,← found,through,ih]

private theorem splits_iff : Splits s list ↔ list = pieces s := by
  constructor
  · exact Splits.eq_pieces
  · rintro rfl
    exact splits_pieces s

private theorem squeeze_behind (blank : ∀ c ∈ t, isBlank c = true) (s : List Char) :
    squeeze true (t ++ s) = squeeze true s := by
  induction t with
  | nil => rfl
  | cons c t ih =>
    obtain ⟨own,others⟩ := List.forall_mem_cons.mp blank
    rw [List.cons_append,squeeze,if_pos own,if_pos rfl,ih others]

private theorem squeeze_of_head (filled : ∀ c ∈ s.head?, isBlank c = false) (inRun : Bool) :
    squeeze inRun s = squeeze false s := by
  cases s with
  | nil => rfl
  | cons c s => simp [squeeze,filled c rfl]

private theorem SpacedAs.eq_squeeze (spaced : SpacedAs s t) : t = squeeze false s := by
  induction spaced with
  | nil => rfl
  | filled other further ih => simp [squeeze,other,ih]
  | @run run s t nonempty blank ends further ih =>
    cases run with
    | nil => contradiction
    | cons c run =>
      obtain ⟨own,others⟩ := List.forall_mem_cons.mp blank
      rw [List.cons_append,squeeze,if_pos own,squeeze_behind others,squeeze_of_head ends true,ih]
      rfl

private theorem spacedAs_squeeze (s : List Char) : SpacedAs s (squeeze false s) := by
  -- inside of a run, the rest of the run is still to be passed
  have both : SpacedAs s (squeeze false s) ∧ ∃ run rest, s = run ++ rest ∧ (∀ c ∈ run, isBlank c = true) ∧
      (∀ c ∈ rest.head?, isBlank c = false) ∧ SpacedAs rest (squeeze true s) := by
    induction s with
    | nil => exact ⟨.nil,[],[],rfl,by simp,by simp,.nil⟩
    | cons c s ih =>
      obtain ⟨fresh,run,rest,whole,blank,ends,further⟩ := ih
      cases own : isBlank c with
      | false =>
        have filled : SpacedAs (c :: s) (c :: squeeze false s) := .filled own fresh
        simp only [squeeze,own,Bool.false_eq_true,if_false]
        exact ⟨filled,[],c :: s,rfl,by simp,by simpa using own,filled⟩
      | true =>
        have spaced := SpacedAs.run (List.cons_ne_nil c run) (List.forall_mem_cons.mpr ⟨own,blank⟩) ends further
        simp only [squeeze,own,if_true,Bool.false_eq_true,if_false]
        exact ⟨by rw [whole] at spaced ⊢; exact spaced,c :: run,rest,by rw [whole]; rfl,
          List.forall_mem_cons.mpr ⟨own,blank⟩,ends,further⟩
  exact both.1

private theorem collapsesTo_iff {piece : Piece} : piece.CollapsesTo t ↔ piece.collapsed = t := by
  constructor
  · intro collapses
    cases collapses with
    | text spaced => exact spaced.eq_squeeze.symm
    | preformatted chars => rfl
  · rintro rfl
    cases piece with
    | text chars => exact .text (spacedAs_squeeze chars)
    | preformatted chars => exact .preformatted chars

private theorem forall₂_collapsesTo_iff {outcome : List (List Char)} :
    List.Forall₂ Piece.CollapsesTo list outcome ↔ outcome = list.map Piece.collapsed := by
  have same : Piece.CollapsesTo = fun piece t => piece.collapsed = t := by
    funext piece t
    exact propext collapsesTo_iff
  rw [same,← List.forall₂_map_left_iff,List.forall₂_eq_eq_eq,eq_comm]

/-- A text begins with no blank but a space that stands alone. -/
def Calm : List Char → Prop
  | [] => True
  | c :: s => isBlank c = true → c = ' ' ∧ ∀ d ∈ s.head?, isBlank d = false

private theorem Settled.calm (settled : Settled s) : Calm s := by
  cases s with
  | nil => trivial
  | cons c s =>
    intro blank
    obtain rfl := settled.1 c List.mem_cons_self blank
    refine ⟨rfl,fun d first => ?_⟩
    by_contra other
    obtain ⟨rest,rfl⟩ := List.head?_eq_some_iff.mp first
    obtain rfl := settled.1 d (by simp) (by simpa using other)
    exact settled.2 (List.prefix_append [' ', ' '] rest).isInfix

private theorem Calm.append (calm : Calm (c :: s)) (ending : s = [] → ∀ d ∈ t.head?, isBlank d = false) :
    Calm (c :: s ++ t) := by
  intro blank
  refine ⟨(calm blank).1,?_⟩
  cases s with
  | nil => exact ending rfl
  | cons d s => exact (calm blank).2

private theorem settled_of_calm (calm : ∀ c t, c :: t <:+ s → ∃ after, Calm (c :: t ++ after)) : Settled s := by
  constructor
  · intro c member blank
    obtain ⟨before,rest,rfl⟩ := List.append_of_mem member
    obtain ⟨after,own⟩ := calm c rest (List.suffix_append _ _)
    exact (own blank).1
  · rintro ⟨before,rest,rfl⟩
    obtain ⟨after,own⟩ := calm ' ' (' ' :: rest) ⟨before,by simp⟩
    exact absurd ((own (by decide)).2 ' ' rfl) (by decide)

private theorem squeeze_of_settled (settled : Settled s) : squeeze false s = s := by
  obtain ⟨rest,same,ends⟩ := settled.squeeze_append false (by simp) []
  rwa [List.append_nil,ends rfl,List.append_nil] at same

private theorem settled_squeeze (s : List Char) : Settled (squeeze false s) := by
  have spaces : ∀ inRun, ∀ c ∈ squeeze inRun s, isBlank c = true → c = ' ' := by
    intro inRun
    fun_induction squeeze inRun s with
    | case1 => simp
    | case2 c s blank ih => exact ih
    | case3 inRun c s blank outside ih => exact List.forall_mem_cons.mpr ⟨fun _ => rfl,ih⟩
    | case4 inRun c s filled ih => exact List.forall_mem_cons.mpr ⟨fun blank => absurd blank filled,ih⟩
  refine ⟨spaces false,fun doubled => ?_⟩
  have apart := (List.isChain_cons_cons.mp ((smooth_squeeze false s).within doubled).2).1 (by decide)
  contradiction

private theorem collapseChars_of_calm (calm : ∀ tail, Exposed s tail → Calm tail) : collapseChars s = s := by
  conv_rhs => rw [← flatMap_pieces s]
  refine List.flatMap_congr fun piece member => ?_
  cases piece with
  | text chars =>
    refine squeeze_of_settled (settled_of_calm fun c t suffix => ?_)
    obtain ⟨after,exposed⟩ := exposed_of_text member suffix
    exact ⟨after,calm _ exposed⟩
  | preformatted chars => rfl

private theorem calm_of_exposed {tail : List Char} (exposed : Exposed (collapseChars s) tail) : Calm tail := by
  rw [collapseChars] at exposed
  fun_induction pieces s with
  | case1 s ends =>
    rw [List.flatMap_singleton] at exposed
    exact Settled.calm (Settled.of_infix (settled_squeeze _) exposed.isSuffix.isInfix)
  | case2 s c rest found ih =>
    have opens := opensBlock_beforeBlock found
    simp only [List.flatMap_cons,Piece.collapsed] at exposed
    generalize same : (pieces (throughBlock (c :: rest)).2).flatMap Piece.collapsed = further at exposed ih
    have opensToo := opensBlock_throughBlock opens further
    rcases exposed.skips _ rfl opensToo with longer | behind
    · -- the place is in the text in front of the block, of which only the last character has the block behind it
      obtain ⟨own,rfl⟩ := List.suffix_of_suffix_length_le (List.suffix_append _ _) exposed.isSuffix (Nat.le_of_lt longer)
      have suffix := List.suffix_append_self_iff.mp exposed.isSuffix
      cases own with
      | nil => simp at longer
      | cons d own =>
        refine Calm.append (Settled.calm (Settled.of_infix (settled_squeeze _) suffix.isInfix)) fun _ e first => ?_
        obtain ⟨_,_,_,_,_,whole,_⟩ := exists_of_opensBlock opensToo
        rw [whole] at first
        cases first
        decide
    · have through : throughBlock ((throughBlock (c :: rest)).1 ++ further) = ((throughBlock (c :: rest)).1, further) :=
        throughBlock_before fun closed => by
          rw [← same,closed]
          exact collapseChars_nil
      rw [through] at behind
      exact ih behind

private theorem collapseChars_collapseChars (s : List Char) : collapseChars (collapseChars s) = collapseChars s :=
  collapseChars_of_calm fun _ => calm_of_exposed

/-- A text has one cut into preformatted blocks and the text around them, which are the whole of it. Collapsing takes over the
blocks, writes one space for every run of blanks in the text around them and changes nothing else; and collapsing a second time
changes nothing. -/
theorem collapsing_keeps_blocks (s : String) : ∃ cut outcome,
    (∀ list, Splits s.toList list ↔ list = cut) ∧ cut.flatMap Piece.chars = s.toList ∧
      (∀ list, List.Forall₂ Piece.CollapsesTo cut list ↔ list = outcome) ∧ (collapse s).toList = outcome.flatten ∧
      collapse (collapse s) = collapse s := by
  have collapsed : (collapse s).toList = collapseChars s.toList := String.toList_ofList
  refine ⟨pieces s.toList,(pieces s.toList).map Piece.collapsed,fun list => splits_iff,flatMap_pieces _,
    fun list => forall₂_collapsesTo_iff,?_,?_⟩
  · rw [collapsed,collapseChars,List.flatMap_def]
  · rw [collapse,collapsed,collapseChars_collapseChars]
    rfl

end Letterpress.Html
