import Letterpress.Proofs.Html.Collapsing
import Letterpress.Proofs.Html.Fragment
import Letterpress.Proofs.Html.Smooth

/-! Where preformatted blocks stand. What is outside of the blocks of a text need not be outside of those of a page that the
text is set in: what stands before it there may leave a block open. But then it is inside of one, and no text can end a block
sooner than the next closing tag. So a text that is smooth outside of its own blocks is smooth wherever it comes to stand. -/
namespace Letterpress.Html
open Letterpress.Text

/-- Outside of its blocks, a text is smooth. -/
def Collapsed (s : List Char) : Prop := ∀ chars, .text chars ∈ pieces s → Smooth chars

/-- Reading `s`, one comes upon `tail` outside of all blocks. -/
inductive Exposed : List Char → List Char → Prop
  | here {s : List Char} (bare : opensBlock s = false) : Exposed s s
  | step {c : Char} {s tail : List Char} (bare : opensBlock (c :: s) = false) (further : Exposed s tail) :
      Exposed (c :: s) tail
  | past {s tail : List Char} (opens : opensBlock s = true) (further : Exposed (throughBlock s).2 tail) : Exposed s tail

/-- Wherever a text comes to stand, nothing in it that is outside of all blocks begins with a line break or two blanks. -/
def Sheltered (s : List Char) : Prop := ∀ before after tail, Exposed (before ++ s ++ after) tail →
  after.length < tail.length → tail.length ≤ (s ++ after).length → Eases tail

variable {c d : Char} {s t tail lead block before after chars : List Char}

private theorem eq_of_toLower_eq (same : c.toLower = d) (other : d.isAlpha = false) : c = d := by
  subst same
  delta Char.toLower at other ⊢
  split
  · next upper =>
    rw [dif_pos upper] at other
    delta Char.isAlpha Char.isUpper Char.isLower at other
    simp only [UInt32.le_iff_toNat_le,UInt32.toNat_add] at other upper
    simp at other upper
    omega
  · rfl

theorem beginsWith_iff : beginsWith lead s = true ↔ (s.take lead.length).map Char.toLower = lead := by
  rw [beginsWith,beq_iff_eq]

private theorem length_of_beginsWith (begins : beginsWith lead s = true) : lead.length ≤ s.length := by
  have same := congrArg List.length (beginsWith_iff.mp begins)
  rw [List.length_map,List.length_take] at same
  omega

private theorem beginsWith_append_iff (long : lead.length ≤ s.length) :
    beginsWith lead (s ++ t) = true ↔ beginsWith lead s = true := by
  rw [beginsWith_iff,beginsWith_iff,List.take_append_of_le_length long]

theorem exists_of_opensBlock (opens : opensBlock s = true) : ∃ p r e c t, s = '<' :: p :: r :: e :: c :: t ∧
    (p.toLower = 'p' ∧ r.toLower = 'r' ∧ e.toLower = 'e') ∧ c ≠ '<' ∧ ∀ t, opensBlock ('<' :: p :: r :: e :: c :: t) = true := by
  simp only [opensBlock,Bool.and_eq_true,beginsWith_iff] at opens
  obtain ⟨tag,ends⟩ := opens
  rcases s with _ | ⟨a,_ | ⟨p,_ | ⟨r,_ | ⟨e,_ | ⟨c,t⟩⟩⟩⟩⟩
  all_goals simp at tag ends
  obtain ⟨first,second,third,fourth⟩ := tag
  obtain rfl := eq_of_toLower_eq first (by decide)
  refine ⟨p,r,e,c,t,rfl,⟨second,third,fourth⟩,?_,?_⟩
  · rintro rfl
    simp at ends
  · intro t
    simp [opensBlock,beginsWith,second,third,fourth,ends]

private theorem throughBlock_of_opens (opens : opensBlock s = true) : ∃ p r e c t, s = '<' :: p :: r :: e :: c :: t ∧
    throughBlock s = ('<' :: p :: r :: e :: c :: (throughBlock t).1, (throughBlock t).2) := by
  obtain ⟨p,r,e,c,t,rfl,⟨second,third,fourth⟩,other,_⟩ := exists_of_opensBlock opens
  have fifth : c.toLower ≠ '<' := fun same => other (eq_of_toLower_eq same (by decide))
  exact ⟨p,r,e,c,t,rfl,by simp [throughBlock,beginsWith,closesBlock,second,third,fourth,fifth]⟩

/-- A closing tag does not reach into what begins like a tag. -/
theorem length_of_closing (closes : beginsWith closesBlock (before ++ '<' :: t) = true) (begun : before ≠ []) :
    closesBlock.length ≤ before.length := by
  rw [beginsWith_iff] at closes
  rcases before with _ | ⟨a,_ | ⟨b,_ | ⟨c,_ | ⟨d,_ | ⟨e,_ | ⟨f,before⟩⟩⟩⟩⟩⟩
  · contradiction
  all_goals simp [closesBlock] at closes ⊢

theorem throughBlock_of_closes (closes : beginsWith closesBlock s = true) :
    throughBlock s = (s.take closesBlock.length, s.drop closesBlock.length) := by
  cases s with
  | nil => simp [throughBlock]
  | cons c s => rw [throughBlock,if_pos closes]

theorem throughBlock_of_inside (inside : ¬ beginsWith closesBlock (c :: s) = true) :
    throughBlock (c :: s) = (c :: (throughBlock s).1, (throughBlock s).2) := by
  rw [throughBlock,if_neg inside]

private theorem throughBlock_isSuffix (s : List Char) : (throughBlock s).2 <:+ s := ⟨_,throughBlock_append s⟩

/-- Where a block ends, one that begins inside of it ends too. -/
theorem throughBlock_inner (opens : opensBlock block = true)
    (shorter : (throughBlock (before ++ block)).2.length < block.length) :
    (throughBlock (before ++ block)).2 = (throughBlock block).2 := by
  induction before with
  | nil => rfl
  | cons c before ih =>
    by_cases closes : beginsWith closesBlock (c :: before ++ block) = true
    · obtain ⟨p,r,e,d,t,rfl,_⟩ := exists_of_opensBlock opens
      have long := length_of_closing closes (List.cons_ne_nil c before)
      rw [throughBlock_of_closes closes,List.length_drop,List.length_append] at shorter
      omega
    · have same : (throughBlock (c :: before ++ block)).2 = (throughBlock (before ++ block)).2 := by
        rw [List.cons_append] at closes ⊢
        rw [throughBlock_of_inside closes]
      rw [same] at shorter ⊢
      exact ih shorter

private theorem length_le_throughBlock (ended : (throughBlock s).2 ≠ []) : closesBlock.length ≤ (throughBlock s).1.length := by
  induction s with
  | nil => exact absurd rfl ended
  | cons c s ih =>
    by_cases closes : beginsWith closesBlock (c :: s) = true
    · have long := length_of_beginsWith closes
      rw [throughBlock_of_closes closes,List.length_take]
      omega
    · rw [throughBlock_of_inside closes] at ended ⊢
      exact (ih ended).trans (Nat.le_succ _)

/-- The block at the beginning of a text is a block before any other text, or if it is left open, before none. -/
theorem throughBlock_before (alone : (throughBlock s).2 = [] → after = []) :
    throughBlock ((throughBlock s).1 ++ after) = ((throughBlock s).1, after) := by
  induction s with
  | nil =>
    cases alone rfl
    rfl
  | cons c s ih =>
    by_cases closes : beginsWith closesBlock (c :: s) = true
    · have long := length_of_beginsWith closes
      rw [throughBlock_of_closes closes]
      have tag : ((c :: s).take closesBlock.length).length = closesBlock.length := List.length_take_of_le long
      have own : beginsWith closesBlock ((c :: s).take closesBlock.length) = true := by
        rw [beginsWith_iff,List.take_take,Nat.min_self]
        exact beginsWith_iff.mp closes
      rw [throughBlock_of_closes ((beginsWith_append_iff tag.ge).mpr own),List.take_left' tag,List.drop_left' tag]
    · rw [throughBlock_of_inside closes] at alone ⊢
      have further : ¬ beginsWith closesBlock (c :: ((throughBlock s).1 ++ after)) = true := by
        intro begins
        have whole := throughBlock_append s
        by_cases ended : (throughBlock s).2 = []
        · rw [ended,List.append_nil] at whole
          rw [whole,alone ended,List.append_nil] at begins
          exact closes begins
        · -- the block is as long as its closing tag, so what follows it does not matter
          have long : closesBlock.length ≤ (c :: (throughBlock s).1).length :=
            (length_le_throughBlock ended).trans (Nat.le_succ _)
          rw [← List.cons_append,beginsWith_append_iff long,← beginsWith_append_iff (t := (throughBlock s).2) long,
            List.cons_append,whole] at begins
          exact closes begins
      rw [List.cons_append,throughBlock_of_inside further,ih alone]

/-- The block at the beginning of a text is a block, and ends at its end or is left open. -/
theorem throughBlock_throughBlock (s : List Char) : (throughBlock (throughBlock s).1).2 = [] := by
  have alone : throughBlock ((throughBlock s).1 ++ []) = ((throughBlock s).1, []) := throughBlock_before fun _ => rfl
  rw [List.append_nil] at alone
  rw [alone]

theorem opensBlock_throughBlock (opens : opensBlock s = true) (after : List Char) :
    opensBlock ((throughBlock s).1 ++ after) = true := by
  obtain ⟨p,r,e,c,t,rfl,same⟩ := throughBlock_of_opens opens
  obtain ⟨_,_,_,_,_,parts,_,_,any⟩ := exists_of_opensBlock opens
  cases parts
  rw [same]
  exact any _

/-- What stands behind a block that ends with its text, or is left open there, is all that can be behind it. -/
theorem length_throughBlock_append_le (ended : (throughBlock block).2 = []) (after : List Char) :
    (throughBlock (block ++ after)).2.length ≤ after.length := by
  induction block with
  | nil => exact (throughBlock_isSuffix after).length_le
  | cons c block ih =>
    by_cases closes : beginsWith closesBlock (c :: block) = true
    · have long := length_of_beginsWith closes
      rw [throughBlock_of_closes closes,List.drop_eq_nil_iff] at ended
      rw [throughBlock_of_closes ((beginsWith_append_iff long).mpr closes),List.length_drop,List.length_append]
      omega
    · rw [throughBlock_of_inside closes] at ended
      by_cases reaches : beginsWith closesBlock (c :: block ++ after) = true
      · -- the closing tag is completed by what follows
        have short : (c :: block).length < closesBlock.length := by
          by_contra long
          exact closes ((beginsWith_append_iff (by omega)).mp reaches)
        rw [throughBlock_of_closes reaches,List.length_drop,List.length_append]
        omega
      · rw [List.cons_append] at reaches ⊢
        rw [throughBlock_of_inside reaches]
        exact ih ended

theorem Exposed.isSuffix (exposed : Exposed s tail) : tail <:+ s := by
  induction exposed with
  | here => exact List.suffix_refl _
  | step bare further ih => exact ih.trans (List.suffix_cons _ _)
  | past opens further ih => exact ih.trans (throughBlock_isSuffix _)

/-- No place inside of a block is exposed, even if the block stands inside of another one; and what is exposed behind it is
so from its end on. -/
theorem Exposed.skips (exposed : Exposed s tail) (before : List Char) (parts : s = before ++ block)
    (opens : opensBlock block = true) : block.length < tail.length ∨ Exposed (throughBlock block).2 tail := by
  induction exposed generalizing before with
  | here bare =>
    cases before with
    | nil =>
      rw [parts,List.nil_append,opens] at bare
      contradiction
    | cons c before =>
      rw [parts,List.length_append,List.length_cons]
      omega
  | step bare further ih =>
    cases before with
    | nil =>
      rw [parts,List.nil_append,opens] at bare
      contradiction
    | cons c before => exact ih before (List.cons.inj parts).2
  | @past s tail outer further ih =>
    -- a block inside of the one that is passed ends with it, and any other one is still to come
    by_cases shorter : (throughBlock s).2.length < block.length
    · rw [parts] at shorter
      have ends := throughBlock_inner opens shorter
      rw [← ends,← parts]
      exact .inr further
    · have rest : block <:+ (throughBlock s).2 :=
        List.suffix_of_suffix_length_le ⟨before,parts.symm⟩ (throughBlock_isSuffix s) (by omega)
      obtain ⟨skipped,same⟩ := rest
      exact ih skipped same.symm

private theorem Exposed.of_beforeBlock (exposed : Exposed (beforeBlock s).2 tail) : Exposed s tail := by
  induction s with
  | nil => exact exposed
  | cons c s ih =>
    rw [beforeBlock] at exposed
    split at exposed
    · exact exposed
    · next bare => exact .step (by simpa using bare) (ih exposed)

theorem opensBlock_beforeBlock (found : (beforeBlock s).2 = c :: t) : opensBlock (c :: t) = true := by
  induction s with
  | nil => contradiction
  | cons d s ih =>
    rw [beforeBlock] at found
    split at found
    · next opens => rwa [← found]
    · exact ih found

private theorem exposed_beforeBlock (suffix : c :: t <:+ (beforeBlock s).1) : Exposed s (c :: t ++ (beforeBlock s).2) := by
  induction s with
  | nil => exact absurd (List.suffix_nil.mp suffix) (List.cons_ne_nil c t)
  | cons d s ih =>
    rw [beforeBlock] at suffix ⊢
    split at suffix
    · exact absurd (List.suffix_nil.mp suffix) (List.cons_ne_nil c t)
    · next opens =>
      have bare : opensBlock (d :: s) = false := by simpa using opens
      rw [if_neg opens]
      rcases List.suffix_cons_iff.mp suffix with whole | inner
      · rw [whole,List.cons_append,beforeBlock_append]
        exact .here bare
      · exact .step bare (ih inner)

/-- Every place in a piece that is no block is exposed. -/
theorem exposed_of_text (piece : .text chars ∈ pieces s) (suffix : c :: t <:+ chars) :
    ∃ after, Exposed s (c :: t ++ after) := by
  fun_induction pieces s with
  | case1 s ends =>
    cases List.mem_singleton.mp piece
    exact ⟨_,exposed_beforeBlock suffix⟩
  | case2 s d rest found ih =>
    rcases List.mem_cons.mp piece with same | later
    · cases same
      exact ⟨_,exposed_beforeBlock suffix⟩
    · obtain ⟨after,exposed⟩ := ih ((List.mem_cons.mp later).resolve_left (by simp))
      refine ⟨after,Exposed.of_beforeBlock ?_⟩
      rw [found]
      exact .past (opensBlock_beforeBlock found) exposed

private theorem collapsed_of_eases (eases : ∀ tail, Exposed s tail → Eases tail) : Collapsed s := by
  intro chars member
  have each : ∀ c t, c :: t <:+ chars → Eases (c :: t) := fun c t suffix => by
    obtain ⟨after,exposed⟩ := exposed_of_text member suffix
    exact (eases _ exposed).within
  clear member
  induction chars with
  | nil => exact smooth_nil
  | cons c chars ih =>
    exact smooth_cons_iff.mpr ⟨each c chars List.suffix_rfl,
      ih fun d t suffix => each d t (suffix.trans (List.suffix_cons c chars))⟩

private theorem pieces_of_opens (opens : opensBlock s = true) :
    pieces s = .text [] :: .preformatted (throughBlock s).1 :: pieces (throughBlock s).2 := by
  obtain ⟨p,r,e,c,t,rfl,_⟩ := exists_of_opensBlock opens
  have start : beforeBlock ('<' :: p :: r :: e :: c :: t) = ([],'<' :: p :: r :: e :: c :: t) := by
    rw [beforeBlock,if_pos opens]
  rw [pieces]
  split
  · next ends =>
    rw [start] at ends
    contradiction
  · next d rest found =>
    rw [start] at found
    obtain ⟨rfl,rfl⟩ := List.cons.inj found
    rw [start]

private theorem pieces_of_bare (bare : opensBlock (c :: s) = false) :
    ∃ text rest, pieces s = .text text :: rest ∧ pieces (c :: s) = .text (c :: text) :: rest ∧
      ∀ d ∈ s.head?, isBlank d = true → d ∈ text.head? := by
  have later : beforeBlock (c :: s) = (c :: (beforeBlock s).1,(beforeBlock s).2) := by
    rw [beforeBlock,if_neg (by simp [bare])]
  have begins : ∀ d ∈ s.head?, isBlank d = true → d ∈ (beforeBlock s).1.head? := by
    intro d first blank
    rw [← beforeBlock_append s,List.head?_append] at first
    cases text : (beforeBlock s).1 with
    | cons x text =>
      rw [text] at first
      exact first
    | nil =>
      -- what follows is a block, which begins with no blank
      rw [text] at first
      obtain ⟨rest,found⟩ := List.head?_eq_some_iff.mp first
      obtain ⟨p,r,e,x,t,same,_⟩ := exists_of_opensBlock (opensBlock_beforeBlock found)
      cases same
      exact absurd blank (by decide)
  rw [pieces,pieces]
  split <;> split <;> simp_all

theorem Collapsed.eases (collapsed : Collapsed s) (exposed : Exposed s tail) : Eases tail := by
  induction exposed with
  | @here s bare =>
    cases s with
    | nil => trivial
    | cons c s =>
      obtain ⟨text,rest,_,parts,begins⟩ := pieces_of_bare bare
      have smooth := collapsed (c :: text) (by rw [parts]; exact List.mem_cons_self)
      have own := smooth.eases
      refine ⟨own.1,fun d first blank => ?_⟩
      by_contra other
      exact other (own.2 d (begins d first (by simpa using other)) blank)
  | step bare further ih =>
    obtain ⟨text,rest,inner,parts,_⟩ := pieces_of_bare bare
    apply ih
    intro chars member
    rw [inner] at member
    rcases List.mem_cons.mp member with same | later
    · cases same
      have smooth := collapsed _ (by rw [parts]; exact List.mem_cons_self)
      exact (smooth_cons_iff.mp smooth).2
    · exact collapsed chars (by rw [parts]; exact List.mem_cons_of_mem _ later)
  | past opens further ih =>
    apply ih
    intro chars member
    refine collapsed chars ?_
    rw [pieces_of_opens opens]
    exact List.mem_cons_of_mem _ (List.mem_cons_of_mem _ member)

theorem sheltered_nil : Sheltered [] := by
  intro before after tail _ longer within
  rw [List.nil_append] at within
  omega

private theorem Sheltered.append (left : Sheltered s) (right : Sheltered t) : Sheltered (s ++ t) := by
  intro before after tail exposed longer within
  by_cases behind : tail.length ≤ (t ++ after).length
  · refine right (before ++ s) after tail ?_ longer behind
    simpa using exposed
  · refine left before (t ++ after) tail ?_ (by omega) ?_
    · simpa using exposed
    · simpa using within

private theorem sheltered_flatMap {α : Type} {f : α → List Char} {xs : List α} (each : ∀ x ∈ xs, Sheltered (f x)) :
    Sheltered (xs.flatMap f) := by
  induction xs with
  | nil => exact sheltered_nil
  | cons x xs ih =>
    rw [List.flatMap_cons]
    exact (each x List.mem_cons_self).append (ih fun y member => each y (List.mem_cons_of_mem x member))

/-- A smooth text may lead a sheltered one, unless blanks meet. -/
theorem Sheltered.behind (sheltered : Sheltered t) (smooth : Smooth s)
    (meet : ∀ c ∈ s.getLast?, isBlank c = true → ∃ d ∈ t.head?, isBlank d = false) : Sheltered (s ++ t) := by
  intro before after tail exposed longer within
  by_cases behind : tail.length ≤ (t ++ after).length
  · refine sheltered (before ++ s) after tail ?_ longer behind
    simpa using exposed
  · have place : tail <:+ s ++ (t ++ after) := by
      have whole := exposed.isSuffix
      rw [List.append_assoc,List.append_assoc] at whole
      rw [List.append_assoc] at within
      exact List.suffix_of_suffix_length_le whole (List.suffix_append _ _) within
    obtain ⟨rest,rfl⟩ := List.suffix_of_suffix_length_le (List.suffix_append s (t ++ after)) place (by omega)
    have suffix : rest <:+ s := List.suffix_append_self_iff.mp place
    cases rest with
    | nil => simp at behind
    | cons c rest =>
      apply (smooth.within suffix.isInfix).eases.append
      rintro rfl d first blank
      have last : c ∈ s.getLast? := by
        obtain ⟨sooner,rfl⟩ := suffix
        simp
      obtain ⟨e,begins,filled⟩ := meet c last blank
      rw [List.head?_append,begins] at first
      cases first
      exact filled

private theorem sheltered_of_smooth (smooth : Smooth s) (ends : ∀ c ∈ s.getLast?, isBlank c = false) : Sheltered s := by
  have alone := sheltered_nil.behind smooth fun c last blank => by
    rw [ends c last] at blank
    contradiction
  rwa [List.append_nil] at alone

private theorem sheltered_block (opens : ∀ after, opensBlock (block ++ after) = true) (ended : (throughBlock block).2 = []) :
    Sheltered block := by
  intro before after tail exposed longer within
  have most := length_throughBlock_append_le ended after
  rw [List.append_assoc] at exposed
  rcases exposed.skips before rfl (opens after) with beyond | behind
  · omega
  · have inside := behind.isSuffix.length_le
    omega

/-- The pieces of a text again, the blocks as they are. -/
def Piece.recast (f : List Char → List Char) : Piece → List Char
  | text chars => f chars
  | preformatted chars => chars

private theorem sheltered_pieces {f : List Char → List Char} (smooth : ∀ chars, .text chars ∈ pieces s → Smooth (f chars))
    (ends : ∀ c ∈ s.getLast?, isBlank c = false)
    (still : ∀ t : List Char, (∀ c ∈ t.getLast?, isBlank c = false) → ∀ c ∈ (f t).getLast?, isBlank c = false) :
    Sheltered ((pieces s).flatMap (Piece.recast f)) := by
  fun_induction pieces s with
  | case1 s last =>
    have whole := beforeBlock_append s
    rw [last,List.append_nil] at whole
    rw [whole] at smooth ⊢
    simpa [Piece.recast] using sheltered_of_smooth (smooth s List.mem_cons_self) (still s ends)
  | case2 s c rest found ih =>
    have opens := opensBlock_beforeBlock found
    have block := sheltered_block (opensBlock_throughBlock opens) (throughBlock_throughBlock _)
    have further : Sheltered ((pieces (throughBlock (c :: rest)).2).flatMap (Piece.recast f)) := by
      apply ih
      · intro chars member
        exact smooth chars (List.mem_cons_of_mem _ (List.mem_cons_of_mem _ member))
      · intro d last
        apply ends
        obtain ⟨sooner,same⟩ := throughBlock_isSuffix (c :: rest)
        rw [← beforeBlock_append s,found,← same,← List.append_assoc,List.getLast?_append,last]
        rfl
    simp only [List.flatMap_cons,Piece.recast]
    refine (block.append further).behind (smooth _ List.mem_cons_self) fun d _ _ => ?_
    obtain ⟨p,r,e,x,t,_,same⟩ := throughBlock_of_opens opens
    rw [same]
    exact ⟨'<',rfl,by decide⟩

theorem sheltered_of_collapsed (collapsed : Collapsed s) (ends : ∀ c ∈ s.getLast?, isBlank c = false) : Sheltered s := by
  have parts : (pieces s).flatMap (Piece.recast id) = s := by
    conv_rhs => rw [← flatMap_pieces s]
    refine List.flatMap_congr fun piece _ => ?_
    cases piece <;> rfl
  rw [← parts]
  exact sheltered_pieces collapsed ends fun _ last => last

private theorem head?_squeeze (s : List Char) : ∀ c ∈ (squeeze true s).head?, isBlank c = false := by
  induction s with
  | nil => simp [squeeze]
  | cons c s ih =>
    cases blank : isBlank c with
    | true => simpa [squeeze,blank] using ih
    | false => simp [squeeze,blank]

theorem smooth_squeeze (inRun : Bool) (s : List Char) : Smooth (squeeze inRun s) := by
  fun_induction squeeze inRun s with
  | case1 => exact smooth_nil
  | case2 c s blank ih => exact ih
  | case3 inRun c s blank outside ih =>
    exact smooth_cons_iff.mpr ⟨⟨by decide,fun d first => parts_right (head?_squeeze s d first)⟩,ih⟩
  | case4 inRun c s filled ih =>
    have bare : isBlank c = false := by simpa using filled
    refine smooth_cons_iff.mpr ⟨⟨?_,fun d _ => parts_left bare⟩,ih⟩
    rintro rfl
    exact absurd bare (by decide)

private theorem getLast?_squeeze (ends : ∀ c ∈ s.getLast?, isBlank c = false) (inRun : Bool) :
    ∀ c ∈ (squeeze inRun s).getLast?, isBlank c = false := by
  rcases s.eq_nil_or_concat' with rfl | ⟨rest,c,rfl⟩
  · simp [squeeze]
  · have filled := ends c (by simp)
    obtain ⟨running,same,_⟩ := squeeze_append inRun rest [c]
    intro d last
    rw [same] at last
    simp [squeeze,filled] at last
    rwa [← last]

private theorem sheltered_collapseChars (ends : ∀ c ∈ s.getLast?, isBlank c = false) : Sheltered (collapseChars s) := by
  have parts : collapseChars s = (pieces s).flatMap (Piece.recast (squeeze false)) := by
    refine List.flatMap_congr fun piece _ => ?_
    cases piece <;> rfl
  rw [parts]
  exact sheltered_pieces (fun _ _ => smooth_squeeze false _) ends fun _ last => getLast?_squeeze last false

theorem Sheltered.collapsed (sheltered : Sheltered s) : Collapsed s := by
  apply collapsed_of_eases
  intro tail exposed
  cases tail with
  | nil => trivial
  | cons c tail =>
    refine sheltered [] [] (c :: tail) (by simpa using exposed) (by simp) ?_
    rw [List.append_nil]
    exact exposed.isSuffix.length_le

abbrev ShelteredText (text : String) : Prop := Sheltered text.toList

theorem Steady.sheltered {a : String} (steady : Steady a) : ShelteredText a := sheltered_of_smooth steady.smooth steady.ending

theorem ShelteredText.append {a b : String} (left : ShelteredText a) (right : ShelteredText b) : ShelteredText (a ++ b) := by
  rw [ShelteredText,String.toList_append]
  exact Sheltered.append left right

theorem sheltered_minified {fragments : List Fragment} (scaffold : Scaffolded ShelteredText fragments) :
    Sheltered (Layout.minified.set fragments).toList := by
  change Sheltered (Fragment.allJoined fragments).toList
  rw [Fragment.toList_allJoined]
  refine sheltered_flatMap fun leaf member => ?_
  cases leaf with
  | scaffold html => exact scaffold html member
  | content raw =>
    rw [Leaf.minified,collapse,String.toList_ofList,Text.trim,String.toList_ofList]
    exact sheltered_collapseChars (isTrimmed_trimChars _).2

end Letterpress.Html
