import Letterpress.Html.Page
import Letterpress.Proofs.Markup.Twins

/-! Pages of documents whose elements answer alike. An element is asked for nothing but attributes that its kind accepts, so two
bodies that agree on these are set as one page. -/
namespace Letterpress.Html
open Letterpress.Markup

/-- Two elements under their defaults that have one content and answer alike to what they are asked for. -/
structure Alike (asked : String → Prop) (s other : Styled) : Prop where
  tag : s.element.tag = other.element.tag
  content : s.element.content = other.element.content
  values : ∀ key, asked key → s.get? key = other.get? key

/-- Alike under all the attributes that a kind accepts. -/
abbrev AlikeAs (kind : Tag) (s other : Styled) : Prop := Alike (fun key => kind.accepts key = true) s other

variable {asked : String → Prop} {kind : Tag} {s other : Styled} {key : String}

section Boxes
variable (alike : Alike asked s other)
include alike

private theorem Alike.filled (isAsked : asked key) : s.filled? key = other.filled? key := by
  rw [Styled.filled?,alike.values key isAsked,Styled.filled?]

private theorem Alike.getD (isAsked : asked key) (fallback : String) : s.getD key fallback = other.getD key fallback := by
  rw [Styled.getD,alike.filled isAsked,Styled.getD]

private theorem Alike.passed (isAsked : asked key) : passed s key = passed other key := by
  rw [Html.passed,alike.filled isAsked,Html.passed]

private theorem Alike.classText (isAsked : asked "css-class") : classText s = classText other := by
  rw [Html.classText,alike.filled isAsked,Html.classText]

section Padding
variable (padded : ∀ key ∈ "padding" :: paddingSides, asked key)
include padded

private theorem Alike.paddingStyle : paddingStyle s = paddingStyle other :=
  List.map_congr_left fun key listed => by rw [alike.filled (padded key listed)]

private theorem Alike.hasPadding : hasPadding s = hasPadding other := by
  simp only [Html.hasPadding,paddingSides,List.any_cons,List.any_nil]
  simp (disch := decide) only [alike.filled (padded _ _)]

private theorem Alike.horizontalPadding : horizontalPadding s = horizontalPadding other := by
  simp (disch := decide) only [Html.horizontalPadding,alike.values _ (padded _ _),alike.filled (padded _ _)]

end Padding
end Boxes

/-- All kinds of boxes but the body accept padding. -/
theorem accepts_padding (kind : Tag) (padded : kind.isPadded = true) :
    ∀ key ∈ "padding" :: paddingSides, kind.accepts key = true := by
  have checked : ∀ kind ∈ Tag.every, kind.isPadded = true → ∀ key ∈ "padding" :: paddingSides, kind.accepts key = true := by
    decide
  exact checked kind kind.mem_every padded

private theorem textBlock_congr (alike : AlikeAs .text s other) : textBlock s = textBlock other := by
  unfold textBlock textDivision
  simp (disch := decide) only [alike.filled,alike.getD,alike.content]

private theorem buttonFrame_congr (alike : AlikeAs .button s other) (style : Style) :
    buttonFrame s style = buttonFrame other style := by
  unfold buttonFrame buttonLink
  simp (disch := decide) only [alike.filled,alike.getD,alike.passed]

private theorem button_congr (alike : AlikeAs .button s other) : button s = button other := by
  unfold button buttonTable buttonCell buttonStyle
  simp (disch := decide) only [alike.filled,alike.getD,buttonFrame_congr alike,alike.content]

private theorem image_congr (alike : AlikeAs .image s other) (box : Float) : image s box = image other box := by
  unfold image imageTag imageWidth imageLink
  simp (disch := decide) only [alike.filled,alike.getD,alike.passed]

private theorem divider_congr (alike : AlikeAs .divider s other) (box : Float) : divider s box = divider other box := by
  unfold divider dividerRule dividerTable dividerStyle
  simp (disch := decide) only [alike.getD]

private theorem spacer_congr (alike : AlikeAs .spacer s other) : spacer s = spacer other := by
  unfold spacer spacerDivision
  simp (disch := decide) only [alike.getD]

private theorem table_congr (alike : AlikeAs .table s other) : table s = table other := by
  unfold table tableOpening
  simp (disch := decide) only [alike.filled,alike.getD,alike.passed,alike.content]

private theorem componentBody_congr (alike : AlikeAs s.element.tag s other) (box : Float) :
    componentBody s box = componentBody other box := by
  simp only [componentBody,← alike.tag]
  split
  · next tag => exact textBlock_congr (tag ▸ alike)
  · next tag => exact button_congr (tag ▸ alike)
  · next tag => exact image_congr (tag ▸ alike) box
  · next tag => exact divider_congr (tag ▸ alike) box
  · next tag => exact spacer_congr (tag ▸ alike)
  · next tag => exact table_congr (tag ▸ alike)
  · rfl

/-- What the cell of a component is asked for, of whatever kind the component is. -/
def cellKeys (kind : Tag) : List String :=
  (if kind = .spacer then [] else ["align"]) ++ ["container-background-color", "css-class"] ++ "padding" :: paddingSides

/-- A component accepts whatever its cell is asked for. -/
theorem accepts_of_mem_cellKeys (placed : kind ∈ Tag.column.children) (isBox : kind ≠ .raw) :
    ∀ key ∈ cellKeys kind, kind.accepts key = true := by
  have checked : ∀ kind ∈ Tag.column.children, kind ≠ .raw → ∀ key ∈ cellKeys kind, kind.accepts key = true := by decide
  exact checked kind placed isBox

private theorem background?_congr (alike : AlikeAs .band s other) : background? s = background? other := by
  simp (disch := decide) only [background?,alike.filled,alike.getD]

private theorem bandFrame_congr (alike : AlikeAs .band s other) (container : Float) (inside : List Fragment) :
    bandFrame s container inside = bandFrame other container inside := by
  have padded := accepts_padding .band rfl
  unfold bandFrame bandDivision bandTable bandCell fullTable boxed? isFullWidth backgroundUrl
  simp (disch := decide) only [background?_congr alike,alike.filled,alike.getD,alike.classText,
    alike.paddingStyle padded]

/-- Trees of one shape whose elements are alike: each of them answers alike to what its kind is asked for, and what the cells
in a column are asked for is among that. -/
inductive Lookalike (asked : Tag → String → Prop) (defaults others : Defaults) : Element → Element → Prop
  | mk {e other : Element} (alike : Alike (asked e.tag) ⟨e, defaults⟩ ⟨other, others⟩)
      (cells : e.tag = .column → ∀ child ∈ e.children, child.tag ≠ .raw → ∀ key ∈ cellKeys child.tag, asked child.tag key)
      (inside : List.Forall₂ (Lookalike asked defaults others) e.children other.children) :
      Lookalike asked defaults others e other

section Trees
variable {asked : Tag → String → Prop} {defaults others : Defaults} {e other : Element}

private theorem Lookalike.alike (like : Lookalike asked defaults others e other) :
    Alike (asked e.tag) ⟨e, defaults⟩ ⟨other, others⟩ := by
  cases like with
  | mk alike cells inside => exact alike

private theorem Lookalike.cells (like : Lookalike asked defaults others e other) (isColumn : e.tag = .column) :
    ∀ child ∈ e.children, child.tag ≠ .raw → ∀ key ∈ cellKeys child.tag, asked child.tag key := by
  cases like with
  | mk alike cells inside => exact cells isColumn

private theorem Lookalike.inside (like : Lookalike asked defaults others e other) :
    List.Forall₂ (Lookalike asked defaults others) e.children other.children := by
  cases like with
  | mk alike cells inside => exact inside

private theorem Lookalike.tag (like : Lookalike asked defaults others e other) : e.tag = other.tag := like.alike.tag

private theorem Lookalike.filter (like : Lookalike asked defaults others e other) (kind : Tag) :
    List.Forall₂ (Lookalike asked defaults others) (e.children.filter (·.tag == kind))
      (other.children.filter (·.tag == kind)) :=
  List.rel_filter (p := (·.tag == kind)) (q := (·.tag == kind)) (fun x y related => by simp only [related.tag]) like.inside

private theorem Lookalike.columnCount (like : Lookalike asked defaults others e other) : columnCount e = columnCount other := by
  rw [Html.columnCount,Html.columnCount,List.countP_eq_length_filter,List.countP_eq_length_filter,
    (like.filter .column).length_eq]

variable (accepted : ∀ kind key, kind.accepts key = true → asked kind key)
include accepted

private theorem Lookalike.as (like : Lookalike asked defaults others e other) : AlikeAs e.tag ⟨e, defaults⟩ ⟨other, others⟩ :=
  ⟨like.alike.tag,like.alike.content,fun key accepts => like.alike.values key (accepted e.tag key accepts)⟩

private theorem component_congr (like : Lookalike asked defaults others e other)
    (cell : e.tag ≠ .raw → ∀ key ∈ cellKeys e.tag, asked e.tag key) (container : Float) :
    component defaults e container = component others other container := by
  have alike := like.alike
  unfold component componentCell componentBox
  dsimp only
  rw [← like.tag]
  split
  · have content : e.content = other.content := alike.content
    rw [content]
  · next isBox =>
    have cell := cell isBox
    have padded : ∀ key ∈ "padding" :: paddingSides, asked e.tag key := fun key listed =>
      cell key (List.mem_append_right _ listed)
    have background : asked e.tag "container-background-color" := cell _ (by simp [cellKeys])
    have classes : asked e.tag "css-class" := cell _ (by simp [cellKeys])
    have align : (if e.tag = .spacer then "" else attributeText "align" (escape (Styled.getD ⟨e, defaults⟩ "align" "left"))) =
        if e.tag = .spacer then "" else attributeText "align" (escape (Styled.getD ⟨other, others⟩ "align" "left")) := by
      split
      · rfl
      · next aligned => rw [alike.getD (cell _ (by simp [cellKeys,aligned]))]
    have body := componentBody_congr (s := ⟨e, defaults⟩) (like.as accepted)
    simp only [alike.horizontalPadding padded,alike.paddingStyle padded,alike.filled background,alike.classText classes,body,
      align]

private theorem column_congr (like : Lookalike asked defaults others e other) (isColumn : e.tag = .column) (container : Float)
    (siblings : Nat) : column defaults e container siblings = column others other container siblings := by
  have alike : AlikeAs .column ⟨e, defaults⟩ ⟨other, others⟩ := isColumn ▸ like.as accepted
  have padded := accepts_padding .column rfl
  have children (container : Float) : (e.children.flatMap fun child => component defaults child container) =
      other.children.flatMap fun child => component others child container := by
    have related := forall₂_of_mem (S := fun x y => component defaults x container = component others y container)
      like.inside fun child member y related => component_congr accepted related (like.cells isColumn child member) container
    exact flatMap_eq_of_forall₂ related fun _ _ same => same
  unfold column columnComment columnDivision columnFrames columnPadding columnBox columnWidth
  simp (disch := decide) only [alike.filled,alike.getD,alike.horizontalPadding padded,
    alike.hasPadding padded,alike.paddingStyle padded,children]

private theorem columns_congr (like : Lookalike asked defaults others e other) (container : Float) :
    columns defaults e container = columns others other container := by
  unfold columns
  rw [like.columnCount]
  refine congrArg (fun inside => [_] ++ inside ++ [_]) (flatMap_eq_of_forall₂ like.inside fun x y related => ?_)
  rw [← related.tag]
  split
  · next isColumn => exact column_congr accepted related isColumn container _
  · exact congrArg (fun raw => [Fragment.content raw]) related.alike.content
  · rfl

private theorem band_congr (like : Lookalike asked defaults others e other) (isBand : e.tag = .band) (container : Float) :
    band defaults e container = band others other container := by
  have alike : AlikeAs .band ⟨e, defaults⟩ ⟨other, others⟩ := isBand ▸ like.as accepted
  have padded := accepts_padding .band rfl
  simp only [band,alike.horizontalPadding padded,columns_congr accepted like,bandFrame_congr alike]

private theorem wrapper_congr (like : Lookalike asked defaults others e other) (isWrapper : e.tag = .wrapper)
    (container : Float) : wrapper defaults e container = wrapper others other container := by
  -- a wrapper accepts the same as a band
  have alike : AlikeAs .band ⟨e, defaults⟩ ⟨other, others⟩ := (isWrapper ▸ like.as accepted : AlikeAs .wrapper _ _)
  have padded := accepts_padding .band rfl
  simp only [wrapper,alike.horizontalPadding padded,bandFrame_congr alike]
  refine congrArg (bandFrame _ _) (flatMap_eq_of_forall₂ like.inside fun x y related => ?_)
  rw [← related.tag]
  split
  · next isBand => exact band_congr accepted related isBand _
  · exact congrArg (fun raw => [Fragment.content raw]) related.alike.content
  · rfl

private theorem bodyContent_congr (like : Lookalike asked defaults others e other) (isBody : e.tag = .body) :
    bodyContent defaults e = bodyContent others other := by
  have alike : AlikeAs .body ⟨e, defaults⟩ ⟨other, others⟩ := isBody ▸ like.as accepted
  have width : bodyWidth ⟨e, defaults⟩ = bodyWidth ⟨other, others⟩ := by
    simp (disch := decide) only [bodyWidth,alike.filled]
  unfold bodyContent
  simp only [width]
  refine flatMap_eq_of_forall₂ like.inside fun x y related => ?_
  rw [← related.tag]
  split
  · next isBand => exact band_congr accepted related isBand _
  · next isWrapper => exact wrapper_congr accepted related isWrapper _
  · exact congrArg (fun raw => [Fragment.content raw]) related.alike.content
  · rfl

private theorem bodyPart_congr {body body' : Option Element} (like : Option.Rel (Lookalike asked defaults others) body body')
    (isBody : ∀ e ∈ body, e.tag = .body) (preview language : String) :
    bodyPart defaults body preview language = bodyPart others body' preview language := by
  cases like with
  | none => rfl
  | @some e other like =>
    have isBody := isBody e rfl
    have alike : AlikeAs .body ⟨e, defaults⟩ ⟨other, others⟩ := isBody ▸ like.as accepted
    unfold bodyPart bodyOpening bodyDivision
    simp (disch := decide) only [alike.filled,alike.classText,bodyContent_congr accepted like isBody]

private theorem bandWidths_congr (like : Lookalike asked defaults others e other) :
    bandWidths defaults e = bandWidths others other := by
  unfold bandWidths
  rw [like.columnCount]
  have related := forall₂_of_mem (like.filter .column) fun x member y related => And.intro related (List.mem_filter.mp member).2
  refine map_eq_of_forall₂ related fun x y both => ?_
  obtain ⟨like,isColumn⟩ := both
  have alike : AlikeAs .column ⟨x, defaults⟩ ⟨y, others⟩ := eq_of_beq isColumn ▸ like.as accepted
  simp (disch := decide) only [columnWidth,alike.filled]

private theorem columnWidths_congr {body body' : Option Element}
    (like : Option.Rel (Lookalike asked defaults others) body body') :
    columnWidths defaults body = columnWidths others body' := by
  cases like with
  | none => rfl
  | some like =>
    refine flatMap_eq_of_forall₂ like.inside fun x y related => ?_
    rw [← related.tag]
    split
    · exact bandWidths_congr accepted related
    · exact flatMap_eq_of_forall₂ (related.filter .band) fun _ _ inner => bandWidths_congr accepted inner
    · rfl

end Trees

section Twins
open Element
variable {R : Tag → List Attribute → List Attribute → Prop} {keys : String → Prop} {settled : Tag → Prop}
  {asked : Tag → String → Prop} {defaults others : Defaults} {e other root : Element}

/-- What an element has to be like for all its twins to be alike: its own attributes are settled, and it is asked only for names
under which the defaults agree. -/
structure Steadfast (keys : String → Prop) (settled : Tag → Prop) (asked : Tag → String → Prop) (e : Element) : Prop where
  isSettled : settled e.tag
  answered : ∀ key, asked e.tag key → keys key
  cells : e.tag = .column → ∀ child ∈ e.children, child.tag ≠ .raw → ∀ key ∈ cellKeys child.tag, asked child.tag key

private theorem lookalike_of_twins {e other : Element} (respects : Respects keys settled R)
    (agree : defaults.AgreeOn keys others)
    (steadfast : e.Everywhere (Steadfast keys settled asked)) (twins : Twins R e other) :
    Lookalike asked defaults others e other := by
  have inside := forall₂_of_mem (S := Lookalike asked defaults others) twins.inside fun child member twin related =>
    lookalike_of_twins respects agree (steadfast.inside member) related
  have own := steadfast.own
  exact .mk ⟨twins.tag,twins.content,fun key isAsked => twins.get? respects own.isSettled agree (own.answered key isAsked)⟩
    own.cells inside
termination_by sizeOf e
decreasing_by exact Element.sizeOf_lt_of_mem member

private theorem HeadMatter.add_twins (respects : Respects keys settled R) (fonts : settled .font)
    (breakpoints : settled .breakpoint)
    (matter : HeadMatter) (twins : Twins R e other) : matter.add e = matter.add other := by
  unfold HeadMatter.add
  rw [← twins.tag,← twins.content]
  split
  · rfl
  · rfl
  · next tag => rw [twins.attribute? respects (tag ▸ breakpoints)]
  · next tag => rw [twins.attribute? respects (tag ▸ fonts),twins.attribute? respects (tag ▸ fonts)]
  · rfl
  · rfl
  · rfl

private theorem HeadMatter.ofHead_twins (respects : Respects keys settled R) (fonts : settled .font)
    (breakpoints : settled .breakpoint) {head head' : Option Element} (twins : Option.Rel (Twins R) head head') :
    HeadMatter.ofHead head = HeadMatter.ofHead head' := by
  cases twins with
  | none => rfl
  | some twins =>
    refine List.rel_foldl (R := Twins R) (P := Eq) (fun matter matter' same e other twins => ?_) rfl twins.inside
    rw [same]
    exact add_twins respects fonts breakpoints matter' twins

/-- Twins have one page if their bodies are steadfast and the defaults agree on what the document itself is asked for. -/
theorem page_of_twins (respects : Respects keys settled R) (accepted : ∀ kind key, kind.accepts key = true → asked kind key)
    (twins : Twins R root other) (document : settled root.tag) (fonts : settled .font) (breakpoints : settled .breakpoint)
    (language : keys "lang") (direction : keys "dir")
    (steadfast : ∀ body ∈ root.child? .body, body.Everywhere (Steadfast keys settled asked)) : page root = page other := by
  have agree := Twins.agreeOn_ofHead respects (twins.child? .head)
  have matter := HeadMatter.ofHead_twins respects fonts breakpoints (twins.child? .head)
  have spoken (key fallback : String) (asked : keys key) :
      Styled.getD ⟨root, Defaults.ofHead (root.child? .head)⟩ key fallback =
        Styled.getD ⟨other, Defaults.ofHead (other.child? .head)⟩ key fallback := by
    rw [Styled.getD,Styled.filled?,twins.get? respects document agree asked,← Styled.filled?,← Styled.getD]
  have bodies : Option.Rel (Lookalike asked (Defaults.ofHead (root.child? .head)) (Defaults.ofHead (other.child? .head)))
      (root.child? .body) (other.child? .body) := by
    have related := twins.child? .body
    generalize root.child? .body = body at related steadfast ⊢
    generalize other.child? .body = body' at related ⊢
    cases related with
    | none => exact .none
    | some related => exact .some (lookalike_of_twins respects agree (steadfast _ rfl) related)
  have isBody : ∀ body ∈ root.child? .body, body.tag = .body := fun body found => by
    simpa using List.find?_some found
  unfold page languageOf
  simp only [matter,spoken _ _ language,spoken _ _ direction,columnWidths_congr accepted bodies,
    bodyPart_congr accepted bodies isBody]

end Twins

end Letterpress.Html
