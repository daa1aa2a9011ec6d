import Letterpress.Html.Collapse
import Letterpress.Proofs.Text.Searching
import Mathlib.Data.List.Chain

/-! What collapsing keeps. The pieces of a text are the whole of it, in order; a preformatted one stays as it is, and of the
others only blanks are rewritten. So a stretch with nothing to collapse stays, and so do both ends of a trimmed text. -/
namespace Letterpress.Html
open Letterpress.Text

def Piece.chars : Piece → List Char
  | text chars => chars
  | preformatted chars => chars

/-- Nothing to collapse: every blank is a space, and no two spaces stand together. -/
def Settled (s : List Char) : Prop := (∀ c ∈ s, isBlank c = true → c = ' ') ∧ ¬ [' ', ' '] <:+: s

variable {s e before after chars : List Char} {inRun : Bool}

theorem beforeBlock_append (s : List Char) : (beforeBlock s).1 ++ (beforeBlock s).2 = s := by
  induction s with
  | nil => rfl
  | cons c s ih =>
    simp only [beforeBlock]
    split
    · rfl
    · simp only [List.cons_append,ih]

theorem throughBlock_append (s : List Char) : (throughBlock s).1 ++ (throughBlock s).2 = s := by
  induction s with
  | nil => rfl
  | cons c s ih =>
    simp only [throughBlock]
    split
    · exact List.take_append_drop _ _
    · simp only [List.cons_append,ih]

theorem flatMap_pieces (s : List Char) : (pieces s).flatMap Piece.chars = s := by
  fun_induction pieces s with
  | case1 s ends =>
    have whole := beforeBlock_append s
    rw [ends] at whole
    simpa [Piece.chars] using whole
  | case2 s c rest found ih =>
    have whole := beforeBlock_append s
    rw [found,← throughBlock_append (c :: rest)] at whole
    simpa [Piece.chars,ih] using whole

theorem collapseChars_of_blockless (blockless : (beforeBlock s).2 = []) : collapseChars s = squeeze false s := by
  have whole := beforeBlock_append s
  rw [blockless,List.append_nil] at whole
  rw [collapseChars,pieces]
  split
  · simp [Piece.collapsed,whole]
  · simp_all

theorem infix_of_preformatted (piece : .preformatted chars ∈ pieces s) (within : e <:+: chars) :
    e <:+: collapseChars s := by
  obtain ⟨sooner,later,parts⟩ := List.append_of_mem piece
  have stretch : chars <:+: collapseChars s :=
    ⟨sooner.flatMap Piece.collapsed,later.flatMap Piece.collapsed,by simp [collapseChars,parts,Piece.collapsed]⟩
  exact within.trans stretch

private theorem filter_squeeze (inRun : Bool) (s : List Char) :
    (squeeze inRun s).filter (!isBlank ·) = s.filter (!isBlank ·) := by
  fun_induction squeeze inRun s with
  | case1 => rfl
  | case2 => simp_all
  | case3 =>
    have space : isBlank ' ' = true := by decide
    simp_all
  | case4 => simp_all

theorem filter_collapseChars (s : List Char) : (collapseChars s).filter (!isBlank ·) = s.filter (!isBlank ·) := by
  have same (piece : Piece) : piece.collapsed.filter (!isBlank ·) = piece.chars.filter (!isBlank ·) := by
    cases piece with
    | text chars => exact filter_squeeze false chars
    | preformatted chars => rfl
  conv_rhs => rw [← flatMap_pieces s]
  simp only [collapseChars,List.filter_flatMap,same]

theorem Settled.of_infix (settled : Settled s) (within : e <:+: s) : Settled e :=
  ⟨fun c member => settled.1 c (within.mem member),fun doubled => settled.2 (doubled.trans within)⟩

theorem Settled.squeeze_append (settled : Settled e) (inRun : Bool) (start : ∀ c ∈ e.head?, inRun = true → isBlank c = false)
    (after : List Char) : ∃ rest, squeeze inRun (e ++ after) = e ++ rest ∧ (after = [] → rest = []) := by
  induction e generalizing inRun with
  | nil =>
    refine ⟨squeeze inRun after,rfl,?_⟩
    rintro rfl
    rfl
  | cons c e ih =>
    have tail := settled.of_infix (List.suffix_cons c e).isInfix
    cases blank : isBlank c with
    | false =>
      obtain ⟨rest,same,ends⟩ := ih tail false (by simp)
      exact ⟨rest,by simp [squeeze,blank,same],ends⟩
    | true =>
      have outside : inRun = false := by
        by_contra running
        have := start c rfl (by simpa using running)
        simp [blank] at this
      obtain rfl : c = ' ' := settled.1 c List.mem_cons_self blank
      have next : ∀ d ∈ e.head?, true = true → isBlank d = false := by
        intro d first _
        by_contra other
        obtain ⟨more,rfl⟩ := List.head?_eq_some_iff.mp first
        obtain rfl : d = ' ' := settled.1 d (by simp) (by simpa using other)
        exact settled.2 (List.prefix_append [' ', ' '] more).isInfix
      obtain ⟨rest,same,ends⟩ := ih tail true next
      exact ⟨rest,by simp [squeeze,blank,outside,same],ends⟩

theorem squeeze_append (inRun : Bool) (before s : List Char) :
    ∃ running, squeeze inRun (before ++ s) = squeeze inRun before ++ squeeze running s ∧ (before = [] → running = inRun) := by
  induction before generalizing inRun with
  | nil => exact ⟨inRun,rfl,fun _ => rfl⟩
  | cons c before ih =>
    cases blank : isBlank c with
    | false =>
      obtain ⟨running,same,_⟩ := ih false
      exact ⟨running,by simp [squeeze,blank,same],by simp⟩
    | true =>
      obtain ⟨running,same,_⟩ := ih true
      cases inRun <;> exact ⟨running,by simp [squeeze,blank,same],by simp⟩

/-- A settled stretch of a piece stays, also at either end of it. Behind something else it must not begin with a blank, which
might belong to a run of blanks that begins before it. -/
theorem Piece.keeps (piece : Piece) (settled : Settled e) (whole : piece.chars = before ++ (e ++ after))
    (start : before ≠ [] → ∀ c ∈ e.head?, isBlank c = false) : ∃ sooner later,
      piece.collapsed = sooner ++ (e ++ later) ∧ (before = [] → sooner = []) ∧ (after = [] → later = []) := by
  cases piece with
  | preformatted chars => exact ⟨before,after,whole,id,id⟩
  | text chars =>
    change chars = _ at whole
    subst whole
    obtain ⟨running,split,outside⟩ := squeeze_append false before (e ++ after)
    have begun : ∀ c ∈ e.head?, running = true → isBlank c = false := by
      intro c first runs
      by_cases bare : before = []
      · rw [outside bare] at runs
        contradiction
      · exact start bare c first
    obtain ⟨later,kept,ends⟩ := settled.squeeze_append running begun after
    refine ⟨squeeze false before,later,?_,?_,ends⟩
    · change squeeze false _ = _
      rw [split,kept]
    · rintro rfl
      rfl

private theorem Piece.collapsed_eq_nil {piece : Piece} (bare : piece.chars = []) : piece.collapsed = [] := by
  cases piece <;> cases bare <;> rfl

private theorem flatMap_collapsed_eq_nil {list : List Piece} (bare : list.flatMap Piece.chars = []) :
    list.flatMap Piece.collapsed = [] :=
  List.flatMap_eq_nil_iff.mpr fun piece member =>
    Piece.collapsed_eq_nil (List.flatMap_eq_nil_iff.mp bare piece member)

private theorem keeps_of_pieces (settled : Settled e) (list : List Piece)
    (whole : list.flatMap Piece.chars = before ++ (e ++ after))
    (start : before ≠ [] → ∀ c ∈ e.head?, isBlank c = false) : ∃ sooner later,
      list.flatMap Piece.collapsed = sooner ++ (e ++ later) ∧ (before = [] → sooner = []) ∧ (after = [] → later = []) := by
  induction list generalizing before e with
  | nil =>
    simp only [List.flatMap_nil,List.nil_eq,List.append_eq_nil_iff] at whole
    obtain ⟨rfl,rfl,rfl⟩ := whole
    exact ⟨[],[],rfl,id,id⟩
  | cons piece list ih =>
    rw [List.flatMap_cons] at whole ⊢
    rcases List.append_eq_append_iff.mp whole with ⟨lead,rfl,rest⟩ | ⟨begun,own,whole⟩
    · -- the stretch begins behind this piece
      obtain ⟨sooner,later,kept,starts,ends⟩ := ih settled rest fun filled =>
        start fun bare => filled (List.append_eq_nil_iff.mp bare).2
      refine ⟨piece.collapsed ++ sooner,later,by rw [kept,List.append_assoc],fun bare => ?_,ends⟩
      obtain ⟨first,second⟩ := List.append_eq_nil_iff.mp bare
      rw [Piece.collapsed_eq_nil first,starts second,List.nil_append]
    · rcases List.append_eq_append_iff.mp whole with ⟨more,rfl,rest⟩ | ⟨others,rfl,rest⟩
      · -- it ends in this piece
        obtain ⟨sooner,later,kept,starts,ends⟩ := piece.keeps settled own start
        refine ⟨sooner,later ++ list.flatMap Piece.collapsed,by simp [kept],starts,fun bare => ?_⟩
        obtain ⟨first,second⟩ := List.append_eq_nil_iff.mp (rest ▸ bare)
        rw [ends first,flatMap_collapsed_eq_nil second,List.nil_append]
      · -- it begins in this piece and goes on in the next
        have first := settled.of_infix (List.prefix_append begun others).isInfix
        have second := settled.of_infix (List.suffix_append begun others).isInfix
        have lead : before ≠ [] → ∀ c ∈ begun.head?, isBlank c = false := fun filled c head =>
          start filled c (by rw [List.head?_append,head]; rfl)
        have here : piece.chars = before ++ (begun ++ []) := by rwa [List.append_nil]
        have there : list.flatMap Piece.chars = [] ++ (others ++ after) := rest
        obtain ⟨sooner,_,kept,starts,ends⟩ := piece.keeps first here lead
        obtain ⟨_,later,followed,begins,closes⟩ := ih second there (by simp)
        exact ⟨sooner,later,by simp [kept,followed,ends rfl,begins rfl],starts,closes⟩

/-- A settled stretch of a text stays if it begins with no blank, or with the text; and at an end of the text, it stays
there. -/
theorem collapseChars_keeps (before after : List Char) (settled : Settled e)
    (start : before ≠ [] → ∀ c ∈ e.head?, isBlank c = false) :
    ∃ sooner later, collapseChars (before ++ (e ++ after)) = sooner ++ (e ++ later) ∧
      (before = [] → sooner = []) ∧ (after = [] → later = []) :=
  keeps_of_pieces settled _ (flatMap_pieces _) start

theorem settled_of_all (filled : s.all (!isBlank ·) = true) : Settled s := by
  have filled : ∀ c ∈ s, isBlank c = false := by simpa using filled
  refine ⟨fun c member blank => ?_,fun doubled => ?_⟩
  · rw [filled c member] at blank
    contradiction
  · exact absurd (filled ' ' (doubled.mem List.mem_cons_self)) (by decide)

private theorem settled_singleton {c : Char} (filled : isBlank c = false) : Settled [c] := settled_of_all (by simp [filled])

theorem collapseChars_nil : collapseChars [] = [] := by
  rw [collapseChars,pieces]
  rfl

theorem head?_collapseChars (trimmed : IsTrimmed s) : (collapseChars s).head? = s.head? := by
  cases s with
  | nil => rw [collapseChars_nil]
  | cons c rest =>
    have filled := trimmed.1 c rfl
    obtain ⟨sooner,later,kept,starts,_⟩ :=
      collapseChars_keeps [] rest (settled_singleton filled) (by simp)
    simp only [List.nil_append,List.singleton_append,starts rfl] at kept
    rw [kept]
    rfl

theorem getLast?_collapseChars (trimmed : IsTrimmed s) : (collapseChars s).getLast? = s.getLast? := by
  rcases s.eq_nil_or_concat' with rfl | ⟨rest,c,rfl⟩
  · rw [collapseChars_nil]
  · have filled := trimmed.2 c (by simp)
    obtain ⟨sooner,later,kept,_,ends⟩ := collapseChars_keeps rest [] (settled_singleton filled)
      fun _ d head => by
        cases head
        exact filled
    simp only [List.append_nil,ends rfl] at kept
    rw [kept]
    simp

section Neighbours
variable {R : Char → Char → Prop} (blankLeft : ∀ c d, isBlank c = true → R c d)
  (blankRight : ∀ c d, isBlank d = true → R c d)
include blankLeft blankRight

/-- Where a text goes on after some blanks have been left out, the neighbours are no worse. -/
theorem isChain_squeeze {p : Char} {rest shorter : List Char} (running : inRun = true → isBlank p = true)
    (chain : (p :: (s ++ rest)).IsChain R) (next : ∀ q, (q :: rest).IsChain R → (q :: shorter).IsChain R) :
    (p :: (squeeze inRun s ++ shorter)).IsChain R := by
  have space : isBlank ' ' = true := by decide
  have behind (q : Char) (blank : isBlank q = true) (t : List Char) (inner : t.IsChain R) : (q :: t).IsChain R :=
    List.isChain_cons.mpr ⟨fun d _ => blankLeft q d blank,inner⟩
  fun_induction squeeze inRun s generalizing p with
  | case1 inRun => exact next p chain
  | case2 c s blank ih =>
    have inner := (List.isChain_cons.mp (List.isChain_cons.mp chain).2).2
    exact ih running (behind p (running rfl) _ inner)
  | case3 inRun c s blank outside ih =>
    have inner := (List.isChain_cons.mp (List.isChain_cons.mp chain).2).2
    exact List.isChain_cons_cons.mpr ⟨blankRight p ' ' space,ih (fun _ => space) (behind ' ' space _ inner)⟩
  | case4 inRun c s filled ih =>
    obtain ⟨first,inner⟩ := List.isChain_cons_cons.mp chain
    exact List.isChain_cons_cons.mpr ⟨first,ih (by simp) inner⟩

private theorem isChain_pieces {p : Char} (list : List Piece) (chain : (p :: list.flatMap Piece.chars).IsChain R) :
    (p :: list.flatMap Piece.collapsed).IsChain R := by
  induction list generalizing p with
  | nil => exact chain
  | cons piece list ih =>
    rw [List.flatMap_cons] at chain ⊢
    cases piece with
    | text chars => exact isChain_squeeze blankLeft blankRight (by simp) chain fun q => ih
    | preformatted chars =>
      change (p :: (chars ++ _)).IsChain R at chain
      change (p :: (chars ++ _)).IsChain R
      induction chars generalizing p with
      | nil => exact ih chain
      | cons c chars more =>
        obtain ⟨first,inner⟩ := List.isChain_cons_cons.mp chain
        exact List.isChain_cons_cons.mpr ⟨first,more inner⟩

/-- What may stand next to any blank, and next to its neighbours in a text, may stand next to those it gets when the text is
collapsed. -/
theorem isChain_collapseChars (chain : s.IsChain R) : (collapseChars s).IsChain R := by
  have space : isBlank ' ' = true := by decide
  have led : (' ' :: s).IsChain R := List.isChain_cons.mpr ⟨fun d _ => blankLeft ' ' d space,chain⟩
  rw [← flatMap_pieces s] at led
  exact (List.isChain_cons.mp (isChain_pieces blankLeft blankRight _ led)).2

end Neighbours
end Letterpress.Html
