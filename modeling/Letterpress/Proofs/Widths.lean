import Letterpress.Proofs.Columns
import Letterpress.Proofs.Decimal.Amount
import Letterpress.Proofs.Plain

/-! The widths that a page states, from the body down to images and dividers. As long as the numbers that an author writes stay
within limits, they are finite, since only three of them are ever multiplied; and they are not negative as long as those numbers
are not, and no band or wrapper is padded by more than its width. The box of a component is cut off at zero, so there no padding
is too much. -/
namespace Letterpress.Css
open Letterpress.Decimal (IsAmount IsBelow)

variable {top : Int} {x y : Float}

def Width.amount : Width → Float
  | pixels count => count
  | percent share => share

private theorem lesser_cases (x y : Float) : lesser x y = x ∨ lesser x y = y := by
  unfold lesser
  split
  · exact .inr rfl
  · split
    · exact .inl rfl
    · split
      · exact .inr rfl
      · exact .inl rfl

private theorem greater_zero_cases (x : Float) : greater x 0.0 = 0.0 ∨ greater x 0.0 = x ∧ 0.0 ≤ x := by
  unfold greater
  split
  · exact .inl rfl
  · next number =>
    split
    · contradiction
    · split
      · exact .inl rfl
      · next least => exact .inr ⟨rfl,Decimal.le_zero_of_not_lt (by simpa using number) least⟩

/-- Nothing is negative that is cut off at zero, not even what was no number. -/
theorem le_greater_zero (x : Float) : 0.0 ≤ greater x 0.0 := by
  rcases greater_zero_cases x with same | ⟨same,least⟩
  · rw [same]
    decide +kernel
  · rw [same]
    exact least

/-- Only zero can have a minus sign and be no less than zero. -/
theorem exists_parts (amount : IsAmount top x) :
    ∃ negative m e, Decimal.parts x = .finite negative m e ∧ (negative = true → m = 0) := by
  have parts := Decimal.parts_eq x
  rcases Decimal.cases_of_amount amount with ⟨s,same⟩ | ⟨m,e,positive,same,_⟩
  · rw [same] at parts
    exact ⟨_,0,_,parts,fun _ => rfl⟩
  · rw [same] at parts
    exact ⟨false,m,e,parts,fun sign => nomatch sign⟩

def IsCipher (c : Char) : Prop := c.isDigit = true ∨ c = '.'

private theorem isCipher_of_mem_toDigits {n : Nat} : ∀ c ∈ Nat.toDigits 10 n, IsCipher c := by
  intro c member
  exact .inl (Nat.isDigit_of_mem_toDigits (by decide) (by decide) member)

private theorem isCipher_of_mem_word (n : Nat) :
    ∀ c ∈ (toString (max Decimal.leastSigned (min (n : Int) Decimal.greatestSigned))).toList, IsCipher c := by
  have least : Decimal.leastSigned ≤ 0 := by decide
  have greatest : 0 ≤ Decimal.greatestSigned := by decide
  obtain ⟨k,same⟩ : ∃ k : Nat, max Decimal.leastSigned (min (n : Int) Decimal.greatestSigned) = k :=
    Int.eq_ofNat_of_zero_le (by omega)
  rw [same]
  change ∀ c ∈ k.repr.toList, _
  rw [Nat.toList_repr]
  exact isCipher_of_mem_toDigits

/-- The value without a fractional part has no sign either. -/
theorem whole?_of_parts {negative : Bool} {m : Nat} {e : Int} (parts : Decimal.parts x = .finite negative m e)
    (sign : negative = true → m = 0) :
    (∃ k : Nat, Decimal.whole? x = some (k : Int)) ∨ Decimal.whole? x = none ∧ negative = false := by
  unfold Decimal.whole?
  rw [parts]
  cases negative with
  | true =>
    obtain rfl := sign rfl
    exact .inl ⟨0,by simp⟩
  | false =>
    simp only [Bool.false_eq_true,if_false]
    split
    · exact .inl ⟨_,rfl⟩
    · split
      · exact .inl ⟨_,rfl⟩
      · exact .inr ⟨rfl,trivial⟩

private theorem isCipher_of_mem_plain {m : Nat} {e : Int} (parts : Decimal.parts x = .finite false m e) :
    ∀ c ∈ (Decimal.plain x).toList, IsCipher c := by
  unfold Decimal.plain
  rw [parts]
  split
  · contradiction
  · contradiction
  · next shown =>
    cases shown
    rw [String.toList_ofList]
    intro c member
    rw [List.mem_singleton.mp member]
    exact .inl (by decide)
  · next shown =>
    cases shown
    rw [String.toList_ofList]
    exact Decimal.forall_mem_positional (.inl (by decide)) (.inr rfl) isCipher_of_mem_toDigits

private theorem isCipher_of_mem_number (amount : IsAmount top x) : ∀ c ∈ (number x).toList, IsCipher c := by
  obtain ⟨negative,m,e,parts,sign⟩ := exists_parts amount
  unfold number
  rcases whole?_of_parts parts sign with ⟨k,whole⟩ | ⟨broken,positive⟩
  · rw [whole]
    exact isCipher_of_mem_word k
  · rw [broken]
    rw [positive] at parts
    exact isCipher_of_mem_plain parts

end Letterpress.Css

namespace Letterpress.Html
open Letterpress.Markup Letterpress.Css
open Letterpress.Decimal (IsAmount IsBelow limit)

variable {P : String → Prop} {defaults : Defaults} {root body e : Element} {text : List Char} {s : Styled} {x : Float}

/-- The width of an element of a body: the container of a band or wrapper, the cell of a column, and the box that is around an
image or a divider. -/
inductive HasWidth (defaults : Defaults) (body : Element) : Element → Float → Prop
  | outer {e : Element} (member : e ∈ body.children) (kind : e.tag = .band ∨ e.tag = .wrapper) :
      HasWidth defaults body e (bodyWidth ⟨body, defaults⟩)
  | inner {wrapper e : Element} {x : Float} (around : HasWidth defaults body wrapper x) (isWrapper : wrapper.tag = .wrapper)
      (member : e ∈ wrapper.children) (isBand : e.tag = .band) :
      HasWidth defaults body e (x - horizontalPadding ⟨wrapper, defaults⟩)
  | column {band e : Element} {x : Float} (around : HasWidth defaults body band x) (isBand : band.tag = .band)
      (member : e ∈ band.children) (isColumn : e.tag = .column) :
      HasWidth defaults body e
        ((columnWidth ⟨e, defaults⟩ (columnCount band)).resolve (x - horizontalPadding ⟨band, defaults⟩))
  | component {column e : Element} {x : Float} (around : HasWidth defaults body column x) (isColumn : column.tag = .column)
      (member : e ∈ column.children) (kind : e.tag = .image ∨ e.tag = .divider) :
      HasWidth defaults body e
        (greater (x - horizontalPadding ⟨column, defaults⟩ - horizontalPadding ⟨e, defaults⟩) 0.0)

/-- The width that an author gives an element. That of a body or image is in pixels. -/
def ownWidth? (s : Styled) : Option Width :=
  match s.element.tag with
  | .body | .image => ((s.filled? "width").bind pixels?).map .pixels
  | .column => (s.filled? "width").bind Width.ofString?
  | .divider => Width.ofString? (s.getD "width" "100%")
  | _ => none

private theorem ownWidth?_of_pixels (kind : s.element.tag = .body ∨ s.element.tag = .image) :
    ownWidth? s = ((s.filled? "width").bind pixels?).map .pixels := by
  unfold ownWidth?
  rcases kind with same | same
  · rw [same]
  · rw [same]

/-- The width that a page states for an element in a box. -/
def statedWidth (s : Styled) (box : Float) : Float :=
  match s.element.tag with
  | .image => imageWidth s box
  | .divider => ((ownWidth? s).map (·.resolve box)).getD box
  | _ => box

/-- How a page states it. -/
def widthTexts (tag : Tag) (x : Float) : List String :=
  match tag with
  | .wrapper | .band => [" style=\"width:" ++ px x ++ ";\"" ++ attributeText "width" (number x)]
  | .column => [";width:" ++ px x ++ ";\">"]
  | .image => ["<td style=\"width:" ++ px x ++ ";\">", attributeText "width" (number x)]
  | .divider => [attributeText "width" (px x)]
  | _ => []

private theorem infix_of_parts {lead stretch tail : String} (whole : (lead ++ stretch ++ tail).toList <:+: text) :
    stretch.toList <:+: text := by
  rw [String.toList_append,String.toList_append] at whole
  exact (List.infix_append _ _ _).trans whole

private theorem bandFrame_states {container : Float} {inside : List Fragment}
    (all : Scaffolded (·.toList <:+: text) (bandFrame s container inside)) :
    (" style=\"width:" ++ px container ++ ";\"" ++ attributeText "width" (number container)).toList <:+: text := by
  have parted (lead a b c d tail : String) : lead ++ a ++ b ++ c ++ d ++ tail = lead ++ (a ++ b ++ c ++ d) ++ tail := by
    simp only [String.append_assoc]
  unfold bandFrame bandComment at all
  dsimp only at all
  split at all
  · simp only [scaffolded_nest_iff,scaffolded_append_iff,scaffolded_line_iff] at all
    have line := all.2.1.1.1
    rw [parted] at line
    exact infix_of_parts line
  · simp only [scaffolded_nest_iff,scaffolded_append_iff,scaffolded_line_iff] at all
    have line := all.1.1.1
    rw [parted] at line
    exact infix_of_parts line

private theorem column_states {container : Float} {siblings : Nat}
    (all : Scaffolded (·.toList <:+: text) (column defaults e container siblings)) :
    (";width:" ++ px ((columnWidth ⟨e,defaults⟩ siblings).resolve container) ++ ";\">").toList <:+: text := by
  have ending : ";\"><![endif]-->" = ";\">" ++ "<![endif]-->" := rfl
  have parted (lead a b c tail : String) : lead ++ a ++ b ++ (c ++ tail) = lead ++ (a ++ b ++ c) ++ tail := by
    simp only [String.append_assoc]
  unfold column columnComment at all
  simp only [scaffolded_append_iff,scaffolded_line_iff] at all
  have line := all.1.1.1
  rw [ending,parted] at line
  exact infix_of_parts line

private theorem image_states {box : Float} (all : Scaffolded (·.toList <:+: text) (image s box)) :
    ("<td style=\"width:" ++ px (imageWidth s box) ++ ";\">").toList <:+: text ∧
      (attributeText "width" (number (imageWidth s box))).toList <:+: text := by
  unfold image at all
  simp only [scaffolded_nest_iff,scaffolded_line_iff,List.forall_mem_append,List.forall_mem_cons] at all
  obtain ⟨⟨⟨_,_,_,cell,_⟩,_⟩,line,_⟩ := all
  exact ⟨cell.1,infix_of_parts line⟩

private theorem divider_states {box : Float} (isDivider : s.element.tag = .divider)
    (all : Scaffolded (·.toList <:+: text) (divider s box)) :
    (attributeText "width" (px (statedWidth s box))).toList <:+: text := by
  have stated : statedWidth s box = ((Width.ofString? (s.getD "width" "100%")).map (·.resolve box)).getD box := by
    unfold statedWidth ownWidth?
    rw [isDivider]
  unfold divider at all
  simp only [scaffolded_line_iff] at all
  rw [stated]
  exact infix_of_parts all.2.1

private theorem wrapper_of_hasWidth (all : Scaffolded P (bodyContent defaults body)) (has : HasWidth defaults body e x)
    (isWrapper : e.tag = .wrapper) : Scaffolded P (wrapper defaults e x) := by
  cases has with
  | outer member kind =>
    have own := scaffolded_flatMap_iff.mp all e member
    rw [isWrapper] at own
    exact own
  | inner around holder member isBand => simp [isBand] at isWrapper
  | column around isBand member isColumn => simp [isColumn] at isWrapper
  | component around isColumn member kind => simp [isWrapper] at kind

private theorem band_of_hasWidth (all : Scaffolded P (bodyContent defaults body)) (has : HasWidth defaults body e x)
    (isBand : e.tag = .band) : Scaffolded P (band defaults e x) := by
  cases has with
  | outer member kind =>
    have own := scaffolded_flatMap_iff.mp all e member
    rw [isBand] at own
    exact own
  | inner around isWrapper member kind =>
    have own := scaffolded_flatMap_iff.mp (inside_of_bandFrame (wrapper_of_hasWidth all around isWrapper)) e member
    rw [isBand] at own
    exact own
  | column around holder member isColumn => simp [isColumn] at isBand
  | component around isColumn member kind => simp [isBand] at kind

private theorem column_of_hasWidth (all : Scaffolded P (bodyContent defaults body)) (has : HasWidth defaults body e x)
    (isColumn : e.tag = .column) : ∃ container siblings, (columnWidth ⟨e,defaults⟩ siblings).resolve container = x ∧
      Scaffolded P (column defaults e container siblings) := by
  cases has with
  | outer member kind => simp [isColumn] at kind
  | inner around isWrapper member isBand => simp [isBand] at isColumn
  | @column band _ y around isBand member kind =>
    have columns := inside_of_bandFrame (band_of_hasWidth all around isBand)
    rw [Html.columns,scaffolded_append_iff,scaffolded_append_iff,scaffolded_flatMap_iff] at columns
    have own := columns.1.2 e member
    rw [isColumn] at own
    exact ⟨_,_,rfl,own⟩
  | component around holder member kind => simp [isColumn] at kind

/-- An image or divider stands in a column, in a box that is cut off at zero. -/
theorem exists_column_of_hasWidth (has : HasWidth defaults body e x) (kind : e.tag = .image ∨ e.tag = .divider) :
    ∃ column y, HasWidth defaults body column y ∧ column.tag = .column ∧ e ∈ column.children ∧
      x = greater (y - horizontalPadding ⟨column,defaults⟩ - horizontalPadding ⟨e,defaults⟩) 0.0 := by
  cases has with
  | outer member other => rcases kind with same | same <;> simp [same] at other
  | inner around isWrapper member isBand => simp [isBand] at kind
  | column around isBand member isColumn => simp [isColumn] at kind
  | component around isColumn member => exact ⟨_,_,around,isColumn,member,rfl⟩

private theorem component_of_hasWidth (all : Scaffolded P (bodyContent defaults body)) (has : HasWidth defaults body e x)
    (kind : e.tag = .image ∨ e.tag = .divider) : Scaffolded P (componentBody ⟨e,defaults⟩ x) := by
  obtain ⟨holder,y,around,isColumn,member,rfl⟩ := exists_column_of_hasWidth has kind
  obtain ⟨container,siblings,rfl,own⟩ := column_of_hasWidth all around isColumn
  unfold column at own
  simp only [scaffolded_append_iff,scaffolded_nest_iff,scaffolded_flatMap_iff] at own
  have inside := own.1.2.2 e member
  have shown : e.tag ≠ .raw := by rcases kind with same | same <;> simp [same]
  rw [component,if_neg shown,scaffolded_nest_iff] at inside
  exact inside.2

/-- A page states the width of every element that has one. -/
theorem widths_are_stated (all : Scaffolded (·.toList <:+: text) (bodyContent defaults body)) (has : HasWidth defaults body e x) :
    ∀ written ∈ widthTexts e.tag (statedWidth ⟨e,defaults⟩ x), written.toList <:+: text := by
  intro written member
  unfold widthTexts at member
  split at member
  · next isWrapper =>
    rw [List.mem_singleton.mp member,statedWidth,isWrapper]
    exact bandFrame_states (wrapper_of_hasWidth all has isWrapper)
  · next isBand =>
    rw [List.mem_singleton.mp member,statedWidth,isBand]
    exact bandFrame_states (band_of_hasWidth all has isBand)
  · next isColumn =>
    obtain ⟨container,siblings,rfl,own⟩ := column_of_hasWidth all has isColumn
    rw [List.mem_singleton.mp member,statedWidth,isColumn]
    exact column_states own
  · next isImage =>
    have own := component_of_hasWidth all has (.inl isImage)
    rw [componentBody,isImage] at own
    rw [statedWidth,isImage] at member
    obtain ⟨cell,image⟩ := image_states own
    rcases List.mem_cons.mp member with rfl | last
    · exact cell
    · rw [List.mem_singleton.mp last]
      exact image
  · next isDivider =>
    have own := component_of_hasWidth all has (.inr isDivider)
    rw [componentBody,isDivider] at own
    rw [List.mem_singleton.mp member]
    exact divider_states isDivider own
  · contradiction

/-- A number that is no greater than anything sensible, on either side of zero. -/
def WithinLimits (x : Float) : Prop := -limit ≤ x ∧ x ≤ limit

instance (x : Float) : Decidable (WithinLimits x) := inferInstanceAs (Decidable (_ ∧ _))

/-- The numbers that an author gives for the body and for the elements that have a width, or lets stand, are within limits. -/
structure Modest (defaults : Defaults) (body : Element) : Prop where
  width : ∀ own ∈ ownWidth? ⟨body,defaults⟩, WithinLimits own.amount
  own : ∀ e x, HasWidth defaults body e x → ∀ own ∈ ownWidth? ⟨e,defaults⟩, WithinLimits own.amount
  padding : ∀ e x, HasWidth defaults body e x → WithinLimits (horizontalPadding ⟨e,defaults⟩)

/-- No width that an author gives is negative, and what is in a band or wrapper has room beside its padding. -/
structure Fitting (defaults : Defaults) (body : Element) : Prop where
  width : ∀ own ∈ ownWidth? ⟨body,defaults⟩, 0.0 ≤ own.amount
  own : ∀ e x, HasWidth defaults body e x → ∀ own ∈ ownWidth? ⟨e,defaults⟩, 0.0 ≤ own.amount
  room : ∀ e x, HasWidth defaults body e x → e.tag = .band ∨ e.tag = .wrapper → horizontalPadding ⟨e,defaults⟩ ≤ x

/-- Below this power of two are the widths of elements of a kind. -/
def reach : Tag → Int
  | .wrapper => 299
  | .band => 301
  | .column => 656
  | _ => 660

/-- A number below a power of two that is not negative if everything fits. -/
structure Sized (fits : Prop) (top : Int) (x : Float) : Prop where
  below : IsBelow top x
  least : fits → 0.0 ≤ x

section Sized
variable {fits : Prop} {top upper : Int} {y : Float} {width : Width}

private theorem Sized.mono (sized : Sized fits top x) (more : top ≤ upper) :
    Sized fits upper x := ⟨sized.below.mono more,sized.least⟩

private theorem Sized.isAmount (sized : Sized fits top x) (fit : fits) : IsAmount top x :=
  Decimal.isAmount_iff.mpr ⟨sized.below,sized.least fit⟩

private theorem sized_of_limits (within : WithinLimits x) (least : fits → 0.0 ≤ x) : Sized fits 299 x :=
  ⟨Decimal.isBelow_of_limits within.1 within.2,least⟩

private theorem Sized.sub (sized : Sized fits top x) (taken : IsBelow 299 y) (room : fits → y ≤ x) (lower : 299 ≤ top)
    (most : top + 2 ≤ 1024) : Sized fits (top + 2) (x - y) := by
  have other : IsBelow top y := taken.mono lower
  refine ⟨Decimal.isBelow_sub sized.below other (by omega) most,fun fit => ?_⟩
  have amount := Decimal.isAmount_sub (sized.isAmount fit) other (by omega) most (room fit)
  exact (Decimal.isAmount_iff.mp amount).2

private theorem Sized.resolve (box : Sized fits top x) (own : Sized fits upper width.amount) (least : 0 ≤ top)
    (lower : 0 ≤ upper) (most : top + upper + 54 ≤ 1024) : Sized fits (top + upper + 54) (width.resolve x) := by
  cases width with
  | pixels count => exact own.mono (by omega)
  | percent share =>
    have product := Decimal.isBelow_mul box.below own.below (by omega) (by omega)
    have quotient := Decimal.isBelow_div_hundred product (by omega) (by omega)
    refine ⟨quotient.mono (by omega),fun fit => ?_⟩
    have amount := Decimal.isAmount_mul (box.isAmount fit) (own.isAmount fit) (by omega) (by omega)
    exact (Decimal.isAmount_iff.mp (Decimal.isAmount_div_hundred amount (by omega) (by omega))).2

private theorem sized_greater_zero (below : IsBelow top x) : Sized fits top (greater x 0.0) := by
  refine ⟨?_,fun _ => le_greater_zero x⟩
  rcases greater_zero_cases x with same | ⟨same,_⟩
  · rw [same]
    exact (Decimal.isAmount_zero top).below
  · rw [same]
    exact below

private theorem Sized.lesser (first : Sized fits top x) (second : Sized fits top y) : Sized fits top (lesser x y) := by
  rcases lesser_cases x y with same | same
  · rw [same]
    exact first
  · rw [same]
    exact second

end Sized

private theorem sized_bodyWidth (isBody : body.tag = .body) (modest : Modest defaults body) :
    Sized (Fitting defaults body) 299 (bodyWidth ⟨body,defaults⟩) := by
  have own : ownWidth? ⟨body,defaults⟩ = _ := ownWidth?_of_pixels (.inl isBody)
  unfold bodyWidth
  cases given : (Styled.filled? ⟨body,defaults⟩ "width").bind pixels? with
  | none => exact sized_of_limits ⟨by decide +kernel,by decide +kernel⟩ fun _ => by decide +kernel
  | some count =>
    rw [given] at own
    have within : WithinLimits count := modest.width (.pixels count) own
    have least (fitting : Fitting defaults body) : 0.0 ≤ count := fitting.width (.pixels count) own
    exact sized_of_limits within least

private theorem sized_columnWidth (modest : Modest defaults body) (has : HasWidth defaults body e x)
    (isColumn : e.tag = .column) {siblings : Nat} (several : siblings ≠ 0) :
    Sized (Fitting defaults body) 299 (columnWidth ⟨e,defaults⟩ siblings).amount := by
  have own : ownWidth? ⟨e,defaults⟩ = (Styled.filled? ⟨e,defaults⟩ "width").bind Width.ofString? := by
    unfold ownWidth?
    rw [isColumn]
  unfold columnWidth
  cases given : (Styled.filled? ⟨e,defaults⟩ "width").bind Width.ofString? with
  | none =>
    have share := Decimal.isAmount_iff.mp (Decimal.isAmount_share several)
    exact ⟨share.1.mono (by decide),fun _ => share.2⟩
  | some width =>
    rw [given] at own
    exact sized_of_limits (modest.own e x has _ own) fun fitting => fitting.own e x has _ own

/-- From the body inward every width is below its power of two, and not negative if everything fits. -/
theorem sized_of_hasWidth (isBody : body.tag = .body) (modest : Modest defaults body) (has : HasWidth defaults body e x) :
    Sized (Fitting defaults body) (reach e.tag) x := by
  have taken {outer : Element} {y : Float} (around : HasWidth defaults body outer y) :
      IsBelow 299 (horizontalPadding ⟨outer,defaults⟩) :=
    Decimal.isBelow_of_limits (modest.padding outer y around).1 (modest.padding outer y around).2
  induction has with
  | outer member kind =>
    have width := sized_bodyWidth isBody modest
    rcases kind with isBand | isWrapper
    · rw [isBand]
      exact width.mono (by decide)
    · rw [isWrapper]
      exact width
  | inner around isWrapper member isBand ih =>
    rw [isWrapper] at ih
    rw [isBand]
    exact ih.sub (taken around) (fun fitting => fitting.room _ _ around (.inr isWrapper)) (by decide) (by decide)
  | @column band e y around isBand member isColumn ih =>
    have several : columnCount band ≠ 0 := by
      unfold columnCount
      omega
    have own := sized_columnWidth modest (.column around isBand member isColumn) isColumn several
    rw [isBand] at ih
    rw [isColumn]
    have container := ih.sub (taken around) (fun fitting => fitting.room _ _ around (.inl isBand)) (by decide) (by decide)
    exact container.resolve own (by decide) (by decide) (by decide)
  | component around isColumn member kind ih =>
    -- padding may take more than there is here, so that only the bound is kept before the cut
    have here := taken (.component around isColumn member kind)
    rw [isColumn] at ih
    have inside := Decimal.isBelow_sub ih.below ((taken around).mono (by decide)) (by decide) (by decide)
    have box := Decimal.isBelow_sub inside (here.mono (by decide)) (by decide) (by decide)
    rcases kind with isImage | isDivider
    · rw [isImage]
      exact sized_greater_zero box
    · rw [isDivider]
      exact sized_greater_zero box

private theorem sized_statedWidth (isBody : body.tag = .body) (modest : Modest defaults body)
    (has : HasWidth defaults body e x) : Sized (Fitting defaults body) 1013 (statedWidth ⟨e,defaults⟩ x) := by
  have sized := sized_of_hasWidth isBody modest has
  have given {own : Width} (same : ownWidth? ⟨e,defaults⟩ = some own) : Sized (Fitting defaults body) 299 own.amount :=
    sized_of_limits (modest.own e x has own same) fun fitting => fitting.own e x has own same
  unfold statedWidth
  split
  · next isImage =>
    have own : ownWidth? ⟨e,defaults⟩ = _ := ownWidth?_of_pixels (.inr isImage)
    rw [show e.tag = .image from isImage] at sized
    unfold imageWidth
    split
    · next count found =>
      rw [found] at own
      exact ((given own).mono (by decide)).lesser (sized.mono (by decide))
    · exact sized.mono (by decide)
  · next isDivider =>
    rw [show e.tag = .divider from isDivider] at sized
    cases found : ownWidth? ⟨e,defaults⟩ with
    | none => exact sized.mono (by decide)
    | some own => exact sized.resolve (given found) (by decide) (by decide) (by decide)
  · refine sized.mono ?_
    cases e.tag <;> decide

end Letterpress.Html

namespace Letterpress
open Markup Html Css

/-- Every width of the body of a document stands in its page. If the numbers that the author gives are within limits, all of them
are finite; and if those numbers are not negative and there is room beside the padding of bands and wrappers, none is negative, and
they are written without a sign. The box of an image or divider is never negative, whatever is written. -/
theorem stated_widths_are_sane (options : CompileOptions) (source html : String) (compiled : compile options source = .ok html) :
    ∃ root, Element.ofSource source.toList = .ok root ∧ ∀ body ∈ root.child? .body,
      let defaults := Defaults.ofHead (root.child? .head)
      (∀ e x, HasWidth defaults body e x →
        (∀ written ∈ widthTexts e.tag (statedWidth ⟨e,defaults⟩ x), written.toList <:+: html.toList) ∧
        (e.tag = .image ∨ e.tag = .divider → 0.0 ≤ x)) ∧
      (Modest defaults body → ∀ e x, HasWidth defaults body e x →
        (statedWidth ⟨e,defaults⟩ x).isFinite = true ∧
        (Fitting defaults body → 0.0 ≤ statedWidth ⟨e,defaults⟩ x ∧
          ∀ c ∈ (number (statedWidth ⟨e,defaults⟩ x)).toList, IsCipher c)) := by
  obtain ⟨root,read,rfl⟩ := exists_root_of_compile compiled
  refine ⟨root,read,fun body found => ?_⟩
  intro defaults
  have isBody := (tag_of_child? found).1
  have content := bodyContent_of_page (scaffolded_set options.layout (page root)) found
  refine ⟨fun e x has => ⟨widths_are_stated content has,fun kind => ?_⟩,fun modest e x has => ?_⟩
  · obtain ⟨_,_,_,_,_,rfl⟩ := exists_column_of_hasWidth has kind
    exact le_greater_zero _
  · have sized := sized_statedWidth isBody modest has
    refine ⟨Decimal.isFinite_of_isBelow sized.below,fun fitting => ?_⟩
    exact ⟨sized.least fitting,isCipher_of_mem_number (sized.isAmount fitting)⟩

def pictureOpening : String := "<mjml><mj-body><mj-section><mj-column><mj-image src=\"a.png\" width=\"700px\"/>"

def pictureClosing : String := "</mj-column></mj-section></mj-body></mjml>"

def pictureSource : String := pictureOpening ++ pictureClosing

def picture : Element := ⟨.image, [⟨"src", "a.png"⟩, ⟨"width", "700px"⟩], [], "", 38⟩

def pictureColumn : Element := ⟨.column, [], [picture], "", 27⟩

def pictureBand : Element := ⟨.band, [], [pictureColumn], "", 15⟩

def pictureBody : Element := ⟨.body, [], [pictureBand], "", 6⟩

def pictureDocument : Element := ⟨.document, [], [pictureBody], "", 0⟩

def picturePile : List Element :=
  [pictureColumn, ⟨.band, [], [], "", 15⟩, ⟨.body, [], [], "", 6⟩, ⟨.document, [], [], "", 0⟩]

private theorem ofSource_pictureSource : Element.ofSource pictureSource.toList = .ok pictureDocument := by
  rw [ofSource_eq_read (by simp [pictureSource,pictureOpening]),pictureSource]
  rw [Assembly.read_append ⟨picturePile,none,none⟩ 75 4 rfl (by with_unfolding_all rfl) (by with_unfolding_all rfl)]
  with_unfolding_all rfl

private theorem cases_of_hasWidth_picture {e : Element} {x : Float} (has : HasWidth .none pictureBody e x) :
    e = pictureBand ∧ x = bodyWidth ⟨pictureBody, .none⟩ ∨ e = pictureColumn ∨ e = picture := by
  induction has with
  | outer member kind => exact .inl ⟨List.mem_singleton.mp member,rfl⟩
  | inner around isWrapper member isBand ih =>
    rcases ih with ⟨rfl,_⟩ | rfl | rfl
    · contradiction
    · contradiction
    · contradiction
  | column around isBand member isColumn ih =>
    rcases ih with ⟨rfl,_⟩ | rfl | rfl
    · exact .inr (.inl (List.mem_singleton.mp member))
    · contradiction
    · contradiction
  | component around isColumn member kind ih =>
    rcases ih with ⟨rfl,_⟩ | rfl | rfl
    · contradiction
    · exact .inr (.inr (List.mem_singleton.mp member))
    · contradiction

private theorem modest_picture : Modest .none pictureBody where
  width := by decide +kernel
  own e x has := by
    rcases cases_of_hasWidth_picture has with ⟨rfl,_⟩ | rfl | rfl <;> decide +kernel
  padding e x has := by
    rcases cases_of_hasWidth_picture has with ⟨rfl,_⟩ | rfl | rfl <;> decide +kernel

private theorem fitting_picture : Fitting .none pictureBody where
  width := by decide +kernel
  own e x has := by
    rcases cases_of_hasWidth_picture has with ⟨rfl,_⟩ | rfl | rfl <;> decide +kernel
  room e x has kind := by
    rcases cases_of_hasWidth_picture has with ⟨rfl,rfl⟩ | rfl | rfl
    · decide +kernel
    · simp [pictureColumn] at kind
    · simp [picture] at kind

def pictureBox : Float :=
  greater ((columnWidth ⟨pictureColumn, .none⟩ (columnCount pictureBand)).resolve
    (bodyWidth ⟨pictureBody, .none⟩ - horizontalPadding ⟨pictureBand, .none⟩) - horizontalPadding ⟨pictureColumn, .none⟩ -
      horizontalPadding ⟨picture, .none⟩) 0.0

private theorem hasWidth_picture : HasWidth .none pictureBody picture pictureBox :=
  .component (.column (.outer List.mem_cons_self (.inl rfl)) rfl List.mem_cons_self rfl) rfl List.mem_cons_self (.inl rfl)

/-- An image that is wider than its box is stated as wide as the box. -/
theorem stated_widths_are_sane_for_a_picture : ∃ html, compile ⟨true⟩ pictureSource = .ok html ∧
    "<td style=\"width:550px;\">".toList <:+: html.toList ∧ (statedWidth ⟨picture, .none⟩ pictureBox).isFinite = true ∧
    0.0 ≤ statedWidth ⟨picture, .none⟩ pictureBox := by
  have compiled := compile_of_root ⟨true⟩ ofSource_pictureSource
  obtain ⟨root,read,sane⟩ := stated_widths_are_sane ⟨true⟩ pictureSource _ compiled
  rw [ofSource_pictureSource] at read
  cases read
  obtain ⟨stated,bounded⟩ := sane pictureBody rfl
  obtain ⟨finite,least⟩ := bounded modest_picture picture pictureBox hasWidth_picture
  have written : "<td style=\"width:550px;\">" ∈ widthTexts .image (statedWidth ⟨picture, .none⟩ pictureBox) := by
    decide +kernel
  exact ⟨_,compiled,(stated picture pictureBox hasWidth_picture).1 _ written,finite,(least fitting_picture).1⟩

def paddedSource : String :=
  "<mjml><mj-body><mj-section padding=\"0 400px\"><mj-column></mj-column></mj-section></mj-body></mjml>"

def paddedColumn : Element := ⟨.column, [], [], "", 45⟩

def paddedBand : Element := ⟨.band, [⟨"padding", "0 400px"⟩], [paddedColumn], "", 15⟩

def paddedBody : Element := ⟨.body, [], [paddedBand], "", 6⟩

def paddedDocument : Element := ⟨.document, [], [paddedBody], "", 0⟩

private theorem ofSource_paddedSource : Element.ofSource paddedSource.toList = .ok paddedDocument := by with_unfolding_all rfl

def paddedCell : Float :=
  (columnWidth ⟨paddedColumn, .none⟩ (columnCount paddedBand)).resolve
    (bodyWidth ⟨paddedBody, .none⟩ - horizontalPadding ⟨paddedBand, .none⟩)

private theorem hasWidth_paddedCell : HasWidth .none paddedBody paddedColumn paddedCell :=
  .column (.outer List.mem_cons_self (.inl rfl)) rfl List.mem_cons_self rfl

/-- A column in a band that is padded by more than its width gets less than nothing. -/
theorem wide_padding_is_negative : ¬ ∀ (options : CompileOptions) (source html : String), compile options source = .ok html →
    ∀ root, Element.ofSource source.toList = .ok root → ∀ body ∈ root.child? .body, ∀ e x,
      HasWidth (Defaults.ofHead (root.child? .head)) body e x →
      ∀ written ∈ widthTexts e.tag (statedWidth ⟨e,Defaults.ofHead (root.child? .head)⟩ x), written.toList <:+: html.toList →
        (statedWidth ⟨e,Defaults.ofHead (root.child? .head)⟩ x).isFinite = true ∧
          0.0 ≤ statedWidth ⟨e,Defaults.ofHead (root.child? .head)⟩ x := by
  intro sane
  have compiled := compile_of_root ⟨true⟩ ofSource_paddedSource
  have found : paddedDocument.child? .body = some paddedBody := rfl
  have content := bodyContent_of_page (scaffolded_set .minified (page paddedDocument)) found
  have listed : ";width:-200px;\">" ∈ widthTexts .column (statedWidth ⟨paddedColumn, .none⟩ paddedCell) := by decide +kernel
  have written := widths_are_stated content hasWidth_paddedCell _ listed
  have least := (sane _ _ _ compiled _ ofSource_paddedSource paddedBody found _ _ hasWidth_paddedCell _ listed written).2
  have negative : ¬ 0.0 ≤ statedWidth ⟨paddedColumn, .none⟩ paddedCell := by decide +kernel
  exact negative least

end Letterpress
