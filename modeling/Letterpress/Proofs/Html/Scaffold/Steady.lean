import Letterpress.Html.Page
import Letterpress.Proofs.Html.Blocks
import Letterpress.Proofs.Html.Scaffold.Page

/-! The scaffold of a page is steady when all attributes of its document are neat. Titles, previews and styles make an exception:
the page has them in its scaffold as they are, so there it can be no better than these are. -/
namespace Letterpress.Html
open Letterpress.Markup Letterpress.Css

abbrev SmoothText (text : String) : Prop := Smooth text.toList

variable {s : Styled} {style : Style} {name key value fallback : String} {inside : List Fragment}

private theorem isBlank_of_isFigure {c : Char} (figure : IsFigure c) : Text.isBlank c = false := by
  rcases figure with letter | rfl | rfl
  · delta Char.isAlphanum Char.isAlpha Char.isUpper Char.isLower Char.isDigit at letter
    simp only [Bool.or_eq_true,decide_eq_true_eq,Bool.and_eq_true,UInt32.le_iff_toNat_le,ge_iff_le] at letter
    simp [Text.isBlank]
    simp at letter
    omega
  · decide
  · decide

private theorem steady_number (x : Float) : Steady (number x) :=
  steady_of_plain fun c member => isBlank_of_isFigure (isFigure_of_mem_number c member)

private theorem steady_px (x : Float) : Steady (px x) := (steady_number x).append (steady_ofList _ rfl)

private theorem filled_columnClass (width : Width) : Filled width.columnClass := by
  have dashed (x : Float) : Steady (String.ofList (Text.replaceChar '.' ['-'] (number x).toList)) :=
    steady_of_plain fun c member => isBlank_of_isFigure (isFigure_of_mem_dashed c member)
  cases width with
  | pixels count => exact (filled_ofList _ _ rfl rfl).append (dashed count)
  | percent share => exact (filled_ofList _ _ rfl rfl).append (dashed share)

private theorem steady_value (width : Width) : Steady width.value := by
  cases width with
  | pixels count => exact steady_px count
  | percent share => exact (steady_number share).append (steady_ofList _ rfl)

private theorem steady_attributeText (named : Filled name) (steady : Steady value) : Steady (attributeText name value) := by
  have led : Steady (" " ++ name) := named.behind (smooth_ofList _ rfl)
  have equals : Steady "=\"" := steady_ofList _ rfl
  have quote : Steady "\"" := steady_ofList _ rfl
  exact ((led.append equals).append steady).append quote

private theorem Style.Declares.steady_html (smooth : style.Declares Steady SmoothText) : Steady style.html := by
  have declarations : Steady style.declarations := by
    refine steady_join fun text member => ?_
    obtain ⟨⟨property,value⟩,listed,rfl⟩ := List.mem_map.mp member
    obtain ⟨named,written⟩ := smooth _ listed
    have given : SmoothText (value.getD "") := by
      cases value with
      | none => exact smooth_nil
      | some value => exact written value rfl
    dsimp only [Style.declaration]
    split
    · exact steady_empty
    · exact ((named.append (steady_ofList [':'] rfl)).append given.trim).append (steady_ofList [';'] rfl)
  unfold Style.html
  dsimp only
  split
  · exact steady_empty
  · exact ((steady_ofList _ rfl).append declarations.escape).append (steady_ofList _ rfl)

private theorem steady_presentation : Steady presentation := steady_ofList _ rfl

private theorem steady_tbody : Steady tbody.1 ∧ Steady tbody.2 := ⟨steady_ofList _ rfl,steady_ofList _ rfl⟩

private theorem steady_row : Steady row.1 ∧ Steady row.2 := ⟨steady_ofList _ rfl,steady_ofList _ rfl⟩

section Values
variable (neat : s.Draws Neat)
include neat

private theorem filled_of_filled? (found : s.filled? key = some value) : Filled value := by
  refine (neat.filled found).filled ?_
  rintro rfl
  exact absurd (Option.filter_eq_some_iff.mp found).2 (by decide)

private theorem filled_getD (last : Filled fallback) : Filled (s.getD key fallback) := by
  unfold Styled.getD
  cases found : s.filled? key with
  | none => exact last
  | some value => exact filled_of_filled? neat found

private theorem steady_getD (last : Steady fallback) : Steady (s.getD key fallback) := by
  unfold Styled.getD
  cases found : s.filled? key with
  | none => exact last
  | some value => exact (neat.filled found).steady

private theorem steady_attribute (named : Filled name) (last : Steady fallback) :
    Steady (attributeText name (escape (s.getD key fallback))) :=
  steady_attributeText named (steady_getD neat last).escape

private theorem steady_written (named : Filled name) (found : s.filled? key = some value) :
    Steady (attributeText name (escape value)) :=
  steady_attributeText named (neat.filled found).steady.escape

private theorem steady_passed (named : Filled key) : Steady (passed s key) := by
  unfold passed
  split
  · next value found => exact steady_written neat named found
  · exact steady_empty

private theorem steady_classText : Steady (classText s) := by
  unfold classText
  split
  · next classes found => exact steady_written neat (filled_ofList _ _ rfl rfl) found
  · exact steady_empty

private theorem smooth_shown (key : String) :
    ∀ value ∈ s.filled? key, SmoothText value := fun _ found => (neat.filled found).smooth

private theorem smooth_given {key fallback : String} (last : Steady fallback) :
    ∀ value ∈ some (s.getD key fallback), SmoothText value :=
  fixed (steady_getD neat last).smooth

private theorem smooth_paddingStyle : (paddingStyle s).Declares Steady SmoothText := by
  have sides : ∀ key ∈ "padding" :: paddingSides, Steady key := by
    simp only [paddingSides,List.forall_mem_cons]
    and_intros
    all_goals first | exact steady_ofList _ rfl | exact List.forall_mem_nil _
  exact Style.declares_paddingStyle sides (smooth_shown neat)

private theorem steady_textBlock : Scaffolded Steady (textBlock s) := by
  unfold textBlock textDivision
  simp only [scaffolded_block_iff,scaffolded_content_iff,scaffolded_nil,and_true]
  refine ⟨((steady_ofList _ rfl).append (Style.Declares.steady_html ?_)).append (steady_ofList _ rfl),steady_ofList _ rfl⟩
  simp only [Style.declares_cons_iff]
  and_intros
  all_goals first
    | exact steady_ofList _ rfl
    | exact smooth_shown neat _
    | exact smooth_given neat (steady_ofList _ rfl)
    | exact Style.declares_nil

private theorem steady_buttonFrame (smooth : style.Declares Steady SmoothText) :
    Steady (buttonFrame s style).1 ∧ Steady (buttonFrame s style).2 := by
  have closing : Steady ">" := steady_ofList _ rfl
  unfold buttonFrame buttonLink buttonParagraph
  split
  · next href found =>
    have address : Steady (attributeText "href" (escape href)) :=
      steady_written neat (filled_ofList _ _ rfl rfl) found
    have rel : Steady (passed s "rel") := steady_passed neat (filled_ofList _ _ rfl rfl)
    have title : Steady (passed s "title") := steady_passed neat (filled_ofList _ _ rfl rfl)
    have target : Steady (attributeText "target" (escape (s.getD "target" "_blank"))) :=
      steady_attribute neat (filled_ofList _ _ rfl rfl) (steady_ofList _ rfl)
    have opening : Steady "<a" := steady_ofList _ rfl
    exact ⟨(((((opening.append address).append rel).append title).append smooth.steady_html).append target).append closing,
      steady_ofList _ rfl⟩
  · exact ⟨((steady_ofList _ rfl).append smooth.steady_html).append closing,steady_ofList _ rfl⟩

private theorem steady_button : Scaffolded Steady (button s) := by
  have closing : Steady ">" := steady_ofList _ rfl
  have color : Steady (attributeText "bgcolor" (escape (s.getD "background-color" "#414141"))) :=
    steady_attribute neat (filled_ofList _ _ rfl rfl) (steady_ofList _ rfl)
  have alignment : Steady (attributeText "valign" (escape (s.getD "vertical-align" "middle"))) :=
    steady_attribute neat (filled_ofList _ _ rfl rfl) (steady_ofList _ rfl)
  have role : Steady " role=\"presentation\"" := steady_ofList _ rfl
  have cell : Steady "<td align=\"center\"" := steady_ofList _ rfl
  have table : Steady "<table" := steady_ofList _ rfl
  unfold button buttonTable buttonCell buttonStyle
  simp only [scaffolded_nest_iff,scaffolded_content_iff,scaffolded_nil,and_true,List.forall_mem_cons]
  refine ⟨⟨((table.append steady_presentation).append (Style.Declares.steady_html ?_)).append closing,steady_ofList _ rfl⟩,
    steady_tbody,steady_row,⟨((((cell.append color).append role).append (Style.Declares.steady_html ?_)).append
      alignment).append closing,steady_ofList _ rfl⟩,steady_buttonFrame neat ?_,List.forall_mem_nil _⟩
  all_goals simp only [Style.declares_cons_iff]
  all_goals and_intros
  all_goals first
    | exact steady_ofList _ rfl
    | exact smooth_shown neat _
    | exact smooth_given neat (steady_ofList _ rfl)
    | exact fixed (smooth_ofList _ rfl)
    | exact Style.declares_nil

private theorem steady_imageTag (width : Float) : Steady (imageTag s width) := by
  have height : Steady (s.getD "height" "auto") := steady_getD neat (steady_ofList _ rfl)
  have shown : Steady (if s.getD "height" "auto" == "auto" then s.getD "height" "auto"
      else ((pixels? (s.getD "height" "auto")).map number).getD (s.getD "height" "auto")) := by
    split
    · exact height
    · cases pixels? (s.getD "height" "auto") with
      | none => exact height
      | some count => exact steady_number count
  have alt : Steady (attributeText "alt" (escape (s.getD "alt" ""))) :=
    steady_attribute neat (filled_ofList _ _ rfl rfl) steady_empty
  have source : Steady (attributeText "src" (escape (s.getD "src" ""))) :=
    steady_attribute neat (filled_ofList _ _ rfl rfl) steady_empty
  have high : Steady (attributeText "height" _) := steady_attributeText (filled_ofList _ _ rfl rfl) shown.escape
  have wide : Steady (attributeText "width" _) := steady_attributeText (filled_ofList _ _ rfl rfl) (steady_number width)
  have title : Steady (passed s "title") := steady_passed neat (filled_ofList _ _ rfl rfl)
  have opening : Steady "<img" := steady_ofList _ rfl
  have closing : Steady " />" := steady_ofList _ rfl
  unfold imageTag
  refine ((((((opening.append alt).append high).append source).append title).append
    (Style.Declares.steady_html ?_)).append wide).append closing
  simp only [Style.declares_cons_iff]
  and_intros
  all_goals first
    | exact steady_ofList _ rfl
    | exact fixed height.smooth
    | exact smooth_shown neat _
    | exact smooth_given neat (steady_ofList _ rfl)
    | exact fixed (smooth_ofList _ rfl)
    | exact Style.declares_nil

private theorem steady_image (box : Float) : Scaffolded Steady (image s box) := by
  have closing : Steady ">" := steady_ofList _ rfl
  have table : Steady "<table" := steady_ofList _ rfl
  have style : Steady " style=\"border-collapse:collapse;border-spacing:0px;\">" := steady_ofList _ rfl
  have cell : Steady "<td style=\"width:" := steady_ofList _ rfl
  have ending : Steady ";\">" := steady_ofList _ rfl
  unfold image imageTable imageCell imageLink
  simp only [scaffolded_nest_iff,scaffolded_line_iff,scaffolded_nil,and_true,List.forall_mem_append,List.forall_mem_cons]
  refine ⟨⟨⟨⟨(table.append steady_presentation).append style,steady_ofList _ rfl⟩,steady_tbody,steady_row,
    ⟨(cell.append (steady_px _)).append ending,steady_ofList _ rfl⟩,List.forall_mem_nil _⟩,?_⟩,steady_imageTag neat _⟩
  split
  · next href found =>
    have address : Steady (attributeText "href" (escape href)) :=
      steady_written neat (filled_ofList _ _ rfl rfl) found
    have rel : Steady (passed s "rel") := steady_passed neat (filled_ofList _ _ rfl rfl)
    have target : Steady (attributeText "target" (escape (s.getD "target" "_blank"))) :=
      steady_attribute neat (filled_ofList _ _ rfl rfl) (steady_ofList _ rfl)
    have opening : Steady "<a" := steady_ofList _ rfl
    exact List.forall_mem_singleton.mpr
      ⟨(((opening.append address).append rel).append target).append closing,steady_ofList _ rfl⟩
  · exact List.forall_mem_nil _

omit neat in
private theorem smooth_dividerStyle {border margin width : String} (edge : Steady border) (around : SmoothText margin)
    (wide : Steady width) : Style.Declares Steady SmoothText [("border-top", some border), ("font-size", some "1px"),
      ("margin", some margin), ("width", some width)] := by
  simp only [Style.declares_cons_iff]
  exact ⟨steady_ofList _ rfl,fixed edge.smooth,steady_ofList _ rfl,fixed (smooth_ofList _ rfl),steady_ofList _ rfl,
    fixed around,steady_ofList _ rfl,fixed wide.smooth,Style.declares_nil⟩

private theorem steady_divider (box : Float) : Scaffolded Steady (divider s box) := by
  have border : Steady (s.getD "border-style" "solid" ++ " " ++ s.getD "border-width" "4px" ++ " " ++
      s.getD "border-color" "#000000") := by
    have blank : SmoothText " " := smooth_ofList _ rfl
    have kind : Steady (s.getD "border-style" "solid") := steady_getD neat (steady_ofList _ rfl)
    have wide : Filled (s.getD "border-width" "4px") := filled_getD neat (filled_ofList _ _ rfl rfl)
    have color : Filled (s.getD "border-color" "#000000") := filled_getD neat (filled_ofList _ _ rfl rfl)
    exact (kind.spaced blank wide).spaced blank color
  have width : Steady (s.getD "width" "100%") := steady_getD neat (steady_ofList _ rfl)
  have align : Steady (attributeText "align" (escape (s.getD "align" "center"))) :=
    steady_attribute neat (filled_ofList _ _ rfl rfl) (steady_ofList _ rfl)
  have pixels (x : Float) : Steady (attributeText "width" (px x)) :=
    steady_attributeText (filled_ofList _ _ rfl rfl) (steady_px x)
  have table : Steady "<!--[if mso | IE]><table" := steady_ofList _ rfl
  have bare : Steady " border=\"0\" cellpadding=\"0\" cellspacing=\"0\"" := steady_ofList _ rfl
  have role : Steady " role=\"presentation\"" := steady_ofList _ rfl
  have ending : Steady ("><tr><td style=\"height:0;line-height:0;\">&nbsp;</td></tr></table><![endif]-->") :=
    steady_ofList _ rfl
  unfold divider dividerRule dividerTable dividerStyle
  simp only [scaffolded_line_iff,scaffolded_nil,and_true]
  refine ⟨((steady_ofList _ rfl).append (smooth_dividerStyle border ?_ width).steady_html).append (steady_ofList _ rfl),
    (((((table.append align).append bare).append (smooth_dividerStyle border ?_ (steady_px _)).steady_html).append
      role).append (pixels _)).append ending⟩
  all_goals split <;> exact smooth_ofList _ rfl

private theorem steady_spacer : Scaffolded Steady (spacer s) := by
  have height : ∀ value ∈ some (s.getD "height" "20px"), SmoothText value := smooth_given neat (steady_ofList _ rfl)
  unfold spacer spacerDivision
  simp only [scaffolded_line_iff,scaffolded_nil,and_true]
  refine ((steady_ofList _ rfl).append (Style.Declares.steady_html ?_)).append (steady_ofList _ rfl)
  simp only [Style.declares_cons_iff]
  exact ⟨steady_ofList _ rfl,height,steady_ofList _ rfl,height,Style.declares_nil⟩

private theorem steady_table : Scaffolded Steady (table s) := by
  have width : Steady (s.getD "width" "100%") := steady_getD neat (steady_ofList _ rfl)
  have shown : Steady (((pixels? (s.getD "width" "100%")).map number).getD (s.getD "width" "100%")) := by
    cases pixels? (s.getD "width" "100%") with
    | none => exact width
    | some count => exact steady_number count
  have padding : Steady (attributeText "cellpadding" (escape (s.getD "cellpadding" "0"))) :=
    steady_attribute neat (filled_ofList _ _ rfl rfl) (steady_ofList _ rfl)
  have spacing : Steady (attributeText "cellspacing" (escape (s.getD "cellspacing" "0"))) :=
    steady_attribute neat (filled_ofList _ _ rfl rfl) (steady_ofList _ rfl)
  have role : Steady (passed s "role") := steady_passed neat (filled_ofList _ _ rfl rfl)
  have wide : Steady (attributeText "width" _) := steady_attributeText (filled_ofList _ _ rfl rfl) shown.escape
  have bare : Steady " border=\"0\"" := steady_ofList _ rfl
  have opening : Steady "<table" := steady_ofList _ rfl
  have closing : Steady ">" := steady_ofList _ rfl
  unfold table tableOpening
  simp only [scaffolded_block_iff,scaffolded_content_iff,scaffolded_nil,and_true]
  refine ⟨((((((opening.append padding).append spacing).append role).append wide).append bare).append
    (Style.Declares.steady_html ?_)).append closing,steady_ofList _ rfl⟩
  simp only [Style.declares_cons_iff]
  and_intros
  all_goals first
    | exact steady_ofList _ rfl
    | exact smooth_shown neat _
    | exact fixed width.smooth
    | exact smooth_given neat (steady_ofList _ rfl)
    | exact Style.declares_nil

private theorem steady_columnFrames : ∀ frame ∈ columnFrames s, Steady frame.1 ∧ Steady frame.2 := by
  have closing : Steady ">" := steady_ofList _ rfl
  have wide : Steady " width=\"100%\">" := steady_ofList _ rfl
  have opening : Steady "<table" := steady_ofList _ rfl
  have cell : Steady "<td" := steady_ofList _ rfl
  have table {style : String} (steady : Steady style) :
      Steady ("<table" ++ presentation ++ style ++ " width=\"100%\">") ∧ Steady "</table>" :=
    ⟨((opening.append steady_presentation).append steady).append wide,steady_ofList _ rfl⟩
  have style : Style.Declares Steady SmoothText [("background-color", s.filled? "background-color"),
      ("border", s.filled? "border"), ("border-radius", s.filled? "border-radius"),
      ("vertical-align", some (s.getD "vertical-align" "top"))] := by
    simp only [Style.declares_cons_iff]
    exact ⟨steady_ofList _ rfl,smooth_shown neat _,steady_ofList _ rfl,smooth_shown neat _,steady_ofList _ rfl,
      smooth_shown neat _,steady_ofList _ rfl,smooth_given neat (steady_ofList _ rfl),Style.declares_nil⟩
  have padded := Style.declares_append_iff.mpr ⟨style,smooth_paddingStyle neat⟩
  unfold columnFrames columnTable columnPadding columnBox
  split
  · simp only [List.forall_mem_cons]
    exact ⟨table steady_empty,steady_tbody,steady_row,⟨(cell.append padded.steady_html).append closing,steady_ofList _ rfl⟩,
      table steady_empty,steady_tbody,List.forall_mem_nil _⟩
  · simp only [List.forall_mem_cons]
    exact ⟨table style.steady_html,steady_tbody,List.forall_mem_nil _⟩

private theorem smooth_background : ∀ value ∈ background? s, SmoothText value := by
  have color : Steady ((s.filled? "background-color").getD "") := by
    cases found : s.filled? "background-color" with
    | none => exact steady_empty
    | some value => exact (neat.filled found).steady
  have size : Filled (s.getD "background-size" "auto") := filled_getD neat (filled_ofList _ _ rfl rfl)
  have tiling : Filled (s.getD "background-repeat" "repeat") := filled_getD neat (filled_ofList _ _ rfl rfl)
  unfold background?
  dsimp only
  split
  · next url found =>
    have image := color.spaced (b := " url('") (smooth_ofList _ rfl) (filled_of_filled? neat found)
    have placed := image.spaced (b := "') center top / ") (smooth_ofList _ rfl) size
    exact fixed (placed.spaced (smooth_ofList _ rfl) tiling).smooth.trim.smooth
  · exact smooth_shown neat _

private theorem steady_bandFrame (container : Float) (steady : Scaffolded Steady inside) :
    Scaffolded Steady (bandFrame s container inside) := by
  have background := smooth_background neat
  have closing : Steady ">" := steady_ofList _ rfl
  have centered : Steady "<table align=\"center\"" := steady_ofList _ rfl
  have outlook : Steady "<!--[if mso | IE]><table align=\"center\"" := steady_ofList _ rfl
  have wide : Steady " style=\"width:" := steady_ofList _ rfl
  have ending : Steady ";\"" := steady_ofList _ rfl
  have cell : Steady "><tr><td style=\"line-height:0px;font-size:0px;mso-line-height-rule:exactly;\"><![endif]-->" :=
    steady_ofList _ rfl
  have pixels : Steady (attributeText "width" (number container)) :=
    steady_attributeText (filled_ofList _ _ rfl rfl) (steady_number container)
  have greatest : ∀ value ∈ some (px container), SmoothText value := fixed (steady_px container).smooth
  have division : Steady "<div" := steady_ofList _ rfl
  have data : Steady "<td" := steady_ofList _ rfl
  unfold bandFrame bandComment bandDivision bandTable bandCell fullTable boxed? isFullWidth backgroundUrl
  refine scaffolded_ite_nest ?_ ?_
  · simp only [List.forall_mem_cons]
    refine ⟨⟨(((centered.append ?_).append steady_presentation).append (Style.Declares.steady_html ?_)).append closing,
      steady_ofList _ rfl⟩,steady_tbody,steady_row,⟨steady_ofList _ rfl,steady_ofList _ rfl⟩,List.forall_mem_nil _⟩
    · split
      · next url found => exact steady_written neat (filled_ofList _ _ rfl rfl) found
      · exact steady_empty
    · simp only [Style.declares_cons_iff]
      exact ⟨steady_ofList _ rfl,background,steady_ofList _ rfl,fixed (smooth_ofList _ rfl),Style.declares_nil⟩
  · generalize (s.filled? "full-width" == some "full-width") = full
    have boxed : ∀ value ∈ (if full then none else background? s), SmoothText value := by
      cases full with
      | true => intro value found; contradiction
      | false => exact background
    simp only [scaffolded_append_iff,scaffolded_nest_iff,scaffolded_line_iff,scaffolded_nil,List.forall_mem_cons,and_true]
    refine ⟨⟨(((((outlook.append steady_presentation).append wide).append (steady_px _)).append ending).append
      pixels).append cell,⟨⟨((division.append (steady_classText neat)).append (Style.Declares.steady_html ?_)).append closing,
        steady_ofList _ rfl⟩,
      ⟨(((centered.append ?picture).append steady_presentation).append (Style.Declares.steady_html ?_)).append closing,
        steady_ofList _ rfl⟩,steady_tbody,steady_row,⟨(data.append (Style.Declares.steady_html ?_)).append closing,
        steady_ofList _ rfl⟩,List.forall_mem_nil _⟩,steady⟩,steady_ofList _ rfl⟩
    case picture =>
      split
      · exact steady_empty
      · split
        · next url found => exact steady_written neat (filled_ofList _ _ rfl rfl) found
        · exact steady_empty
    all_goals simp only [Style.declares_append_iff,Style.declares_cons_iff]
    all_goals and_intros
    all_goals first
      | exact steady_ofList _ rfl
      | exact boxed
      | exact smooth_shown neat _
      | exact smooth_paddingStyle neat
      | exact greatest
      | exact smooth_given neat (steady_ofList _ rfl)
      | exact fixed (smooth_ofList _ rfl)
      | exact Style.declares_nil

end Values

private theorem steady_component {defaults : Defaults} {e : Element} (neat : Styled.Draws Neat ⟨e,defaults⟩)
    (container : Float) : Scaffolded Steady (component defaults e container) := by
  unfold component componentCell
  split
  · exact scaffolded_content_iff.mpr scaffolded_nil
  · have align : Steady (if e.tag = .spacer then "" else
        attributeText "align" (escape (Styled.getD ⟨e,defaults⟩ "align" "left"))) := by
      split
      · exact steady_empty
      · exact steady_attribute neat (filled_ofList _ _ rfl rfl) (steady_ofList _ rfl)
    have style : Style.Declares Steady SmoothText ([("background", Styled.filled? ⟨e,defaults⟩ "container-background-color"),
        ("font-size", some "0px")] ++ paddingStyle ⟨e,defaults⟩ ++ [("word-break", some "break-word")]) := by
      simp only [Style.declares_append_iff,Style.declares_cons_iff]
      exact ⟨⟨⟨steady_ofList _ rfl,smooth_shown neat _,steady_ofList _ rfl,fixed (smooth_ofList _ rfl),Style.declares_nil⟩,
        smooth_paddingStyle neat⟩,steady_ofList _ rfl,fixed (smooth_ofList _ rfl),Style.declares_nil⟩
    have opening : Steady "<td" := steady_ofList _ rfl
    have closing : Steady ">" := steady_ofList _ rfl
    have cell := (((opening.append align).append (steady_classText neat)).append style.steady_html).append closing
    simp only [scaffolded_nest_iff,List.forall_mem_cons]
    refine ⟨⟨steady_row,⟨cell,steady_ofList _ rfl⟩,List.forall_mem_nil _⟩,?_⟩
    unfold componentBody
    split
    · exact steady_textBlock neat
    · exact steady_button neat
    · exact steady_image neat _
    · exact steady_divider neat _
    · exact steady_spacer neat
    · exact steady_table neat
    · exact scaffolded_nil

/-- Every attribute of the element has a neat value. -/
def IsNeat (e : Element) : Prop := ∀ a ∈ e.attributes, Neat a.value

private theorem neat_builtIn (tag : Tag) : ∀ entry ∈ tag.builtIn, Neat entry.2 := by
  have checked : ∀ tag ∈ Tag.every, ∀ entry ∈ tag.builtIn,
      (isSteady entry.2.toList && !entry.2.toList.head?.any Text.isBlank) = true := by decide +kernel
  intro entry member
  have own := checked tag tag.mem_every entry member
  simp only [Bool.and_eq_true,Bool.not_eq_true',Option.any_eq_false] at own
  have whole := steady_ofList _ own.1
  rw [String.ofList_toList] at whole
  exact ⟨whole.smooth,fun c first => by simpa using own.2 c first,whole.ending⟩

section Elements
variable {defaults : Defaults} {e : Element} (declared : defaults.Declares Neat)
include declared

private theorem draws_of_isNeat (neat : IsNeat e) : Styled.Draws Neat ⟨e,defaults⟩ := ⟨neat,declared,neat_builtIn⟩

private theorem steady_column (neat : e.Everywhere IsNeat) (container : Float) (siblings : Nat) :
    Scaffolded Steady (column defaults e container siblings) := by
  have draws := draws_of_isNeat declared neat.own
  have align : Steady (Styled.getD ⟨e,defaults⟩ "vertical-align" "top") := steady_getD draws (steady_ofList _ rfl)
  have named := (filled_columnClass (columnWidth ⟨e,defaults⟩ siblings)).steady
  have closing : Steady ">" := steady_ofList _ rfl
  have cell : Steady "<!--[if mso | IE]><td style=\"vertical-align:" := steady_ofList _ rfl
  have width : Steady ";width:" := steady_ofList _ rfl
  have ending : Steady ";\"><![endif]-->" := steady_ofList _ rfl
  have division : Steady "<div" := steady_ofList _ rfl
  unfold column columnComment columnDivision
  simp only [scaffolded_append_iff,scaffolded_nest_iff,scaffolded_line_iff,scaffolded_nil,scaffolded_flatMap_iff,
    List.forall_mem_cons,and_true]
  refine ⟨⟨(((cell.append align.escape).append width).append (steady_px _)).append ending,
    ⟨⟨((division.append (steady_attributeText (filled_ofList _ _ rfl rfl) (Steady.escape ?_))).append
      (Style.Declares.steady_html ?_)).append closing,steady_ofList _ rfl⟩,steady_columnFrames draws⟩,fun child member => ?_⟩,
    steady_ofList _ rfl⟩
  · split
    · next more found => exact named.spaced (smooth_ofList _ rfl) (filled_of_filled? draws found)
    · exact named.append (steady_ofList _ rfl)
  · simp only [Style.declares_cons_iff]
    and_intros
    all_goals first
      | exact steady_ofList _ rfl
      | exact fixed align.smooth
      | exact smooth_given draws (steady_ofList _ rfl)
      | exact fixed (smooth_ofList _ rfl)
      | exact Style.declares_nil
  · exact steady_component (draws_of_isNeat declared (neat.inside member).own) _

private theorem steady_columns (neat : e.Everywhere IsNeat) (container : Float) :
    Scaffolded Steady (columns defaults e container) := by
  have table : Steady "<!--[if mso | IE]><table role=\"presentation\" border=\"0\" cellpadding=\"0\" cellspacing=\"0\">" :=
    steady_ofList _ rfl
  unfold columns columnsComment
  simp only [scaffolded_append_iff,scaffolded_line_iff,scaffolded_nil,scaffolded_flatMap_iff,and_true]
  refine ⟨⟨table.append (steady_ofList _ rfl),fun child member => ?_⟩,steady_ofList _ rfl⟩
  split
  · exact steady_column declared (neat.inside member) container _
  · exact scaffolded_content_iff.mpr scaffolded_nil
  · exact scaffolded_nil

private theorem steady_band (neat : e.Everywhere IsNeat) (container : Float) : Scaffolded Steady (band defaults e container) :=
  steady_bandFrame (draws_of_isNeat declared neat.own) container (steady_columns declared neat _)

private theorem steady_wrapper (neat : e.Everywhere IsNeat) (container : Float) :
    Scaffolded Steady (wrapper defaults e container) := by
  refine steady_bandFrame (draws_of_isNeat declared neat.own) container (scaffolded_flatMap_iff.mpr fun child member => ?_)
  split
  · exact steady_band declared (neat.inside member) _
  · exact scaffolded_content_iff.mpr scaffolded_nil
  · exact scaffolded_nil

private theorem steady_bodyContent (neat : e.Everywhere IsNeat) : Scaffolded Steady (bodyContent defaults e) := by
  refine scaffolded_flatMap_iff.mpr fun child member => ?_
  split
  · exact steady_band declared (neat.inside member) _
  · exact steady_wrapper declared (neat.inside member) _
  · exact scaffolded_content_iff.mpr scaffolded_nil
  · exact scaffolded_nil

end Elements

private theorem steady_styleElement {css : String} (steady : Steady css) : Steady (styleElement css) :=
  ((steady_ofList _ rfl).append steady).append (steady_ofList _ rfl)

private theorem steady_resetStyle : Steady resetStyle := by
  have first : SmoothText "#outlook a \x7b padding:0; \x7d " := smooth_ofList _ rfl
  have last : Filled "p \x7b display:block;margin:13px 0; \x7d" := filled_ofList _ _ rfl rfl
  exact last.behind ((((first.append_ofList (by decide) rfl).append_ofList (by decide) rfl).append_ofList
    (by decide) rfl).append_ofList (by decide) rfl)

private theorem steady_fontLinks {href : String} (steady : Steady href) : Scaffolded Steady (fontLinks href) := by
  have link : Steady ("<link href=\"" ++ escape href ++ "\" rel=\"stylesheet\" type=\"text/css\">") :=
    ((steady_ofList _ rfl).append steady.escape).append (steady_ofList _ rfl)
  have imported : Steady ("@import url(" ++ escape href ++ ");") :=
    ((steady_ofList _ rfl).append steady.escape).append (steady_ofList _ rfl)
  unfold fontLinks
  simp only [scaffolded_line_iff]
  exact ⟨steady_ofList _ rfl,link,steady_styleElement imported,steady_ofList _ rfl,scaffolded_nil⟩

private theorem steady_columnStyle {breakpoint : String} {rules : List (String × String)} (point : Steady breakpoint)
    (steady : ∀ rule ∈ rules, Steady rule.1 ∧ Steady rule.2) (written : rules ≠ []) :
    Steady (columnStyle breakpoint rules) := by
  have dot : Filled "." := filled_ofList _ _ rfl rfl
  have wide : Steady " \x7b width:" := steady_ofList _ rfl
  have most : Steady " !important; max-width:" := steady_ofList _ rfl
  have ending : Steady "; \x7d" := steady_ofList _ rfl
  have queried : Steady ("@media only screen and (min-width:" ++ breakpoint) := (steady_ofList _ rfl).append point
  refine steady_styleElement ((queried.spaced (smooth_ofList _ rfl) (filled_intercalate (smooth_ofList _ rfl) ?_ ?_)).append
    (steady_ofList _ rfl))
  · intro text member
    obtain ⟨⟨name,width⟩,listed,rfl⟩ := List.mem_map.mp member
    obtain ⟨named,shown⟩ := steady _ listed
    exact (((((dot.append named).append wide).append shown).append most).append shown).append ending
  · rwa [ne_eq,List.map_eq_nil_iff]

private theorem sheltered_headPart {matter : HeadMatter} {rules : List (String × String)}
    (tells : matter.Tells Neat ShelteredText)
    (steady : ∀ rule ∈ rules, Steady rule.1 ∧ Steady rule.2) : Scaffolded ShelteredText [headPart matter rules] := by
  have around {opening inside closing : String} (first : Steady opening) (middle : ShelteredText inside)
      (last : Steady closing) : ShelteredText (opening ++ inside ++ closing) :=
    (first.sheltered.append middle).append last.sheltered
  have fixed (a : List Char) (checked : isSteady a = true) : ShelteredText (String.ofList a) :=
    (steady_ofList a checked).sheltered
  have settings : Steady outlookSettings := Steady.append (steady_ofList _ rfl) (steady_ofList _ rfl)
  have groups : Steady outlookGroupFix := Steady.append (steady_ofList _ rfl) (steady_ofList _ rfl)
  have compatible : Steady ("<!--[if !mso]><!--><meta http-equiv=\"X-UA-Compatible\" content=\"IE=edge\">" ++
      "<!--<![endif]-->") := Steady.append (steady_ofList _ rfl) (steady_ofList _ rfl)
  have columns : Scaffolded ShelteredText (if rules.isEmpty then [] else [.line (columnStyle matter.breakpoint rules)]) := by
    split
    · exact scaffolded_nil
    · next written =>
      have column := steady_columnStyle tells.breakpoint.steady steady (by simpa using written)
      exact scaffolded_line_iff.mpr ⟨column.sheltered,scaffolded_nil⟩
  have styles : Scaffolded ShelteredText (matter.styles.map fun css => .line (styleElement css)) :=
    scaffolded_map_line_iff.mpr fun css member => around (steady_ofList _ rfl) (tells.styles css member) (steady_ofList _ rfl)
  have fonts (href : String) (listed : href ∈ matter.fonts) : Scaffolded ShelteredText (fontLinks href) :=
    (steady_fontLinks (tells.fonts href listed).steady).mono fun _ => Steady.sheltered
  unfold headPart
  simp only [scaffolded_block_iff,scaffolded_append_iff,scaffolded_line_iff,scaffolded_flatMap_iff,scaffolded_nil,and_true]
  exact ⟨⟨fixed _ rfl,fixed _ rfl⟩,⟨⟨⟨⟨around (steady_ofList _ rfl) tells.title (steady_ofList _ rfl),compatible.sheltered,
    fixed _ rfl,fixed _ rfl,(steady_styleElement steady_resetStyle).sheltered,settings.sheltered,groups.sheltered⟩,fonts⟩,
    columns⟩,styles⟩,scaffolded_map_content matter.raw⟩

private theorem sheltered_previewText {preview : String} (sheltered : ShelteredText preview) :
    Scaffolded ShelteredText (previewText preview) := by
  have hidden : Steady ("<div style=\"display:none;font-size:1px;color:#ffffff;line-height:1px;max-height:0px;max-width:0px;" ++
      "opacity:0;overflow:hidden;\">") := Steady.append (steady_ofList _ rfl) (steady_ofList _ rfl)
  unfold previewText
  split
  · exact scaffolded_nil
  · exact scaffolded_line_iff.mpr ⟨(hidden.sheltered.append sheltered).append (steady_ofList _ rfl).sheltered,scaffolded_nil⟩

private theorem sheltered_bodyPart {defaults : Defaults} {body : Option Element} {preview language : String}
    (declared : defaults.Declares Neat) (neat : ∀ e ∈ body, e.Everywhere IsNeat) (hidden : ShelteredText preview)
    (spoken : Steady language) : Scaffolded ShelteredText [bodyPart defaults body preview language] := by
  have opening : Steady "<body" := steady_ofList _ rfl
  have division : Steady "<div" := steady_ofList _ rfl
  have closing : Steady ">" := steady_ofList _ rfl
  unfold bodyPart
  split
  · exact scaffolded_line_iff.mpr ⟨(steady_ofList _ rfl).sheltered,scaffolded_nil⟩
  · next body =>
    have draws := draws_of_isNeat declared (neat body rfl).own
    have inner : Style.Declares Steady SmoothText [("background-color", Styled.filled? ⟨body,defaults⟩ "background-color")] :=
      Style.declares_cons_iff.mpr ⟨steady_ofList _ rfl,smooth_shown draws _,Style.declares_nil⟩
    have outer : Style.Declares Steady SmoothText [("word-spacing", some "normal"),
        ("background-color", Styled.filled? ⟨body,defaults⟩ "background-color")] :=
      Style.declares_cons_iff.mpr ⟨steady_ofList _ rfl,fixed (smooth_ofList _ rfl),inner⟩
    have content := (steady_bodyContent declared (neat body rfl)).mono fun _ => Steady.sheltered
    have frame := (((division.append (steady_classText draws)).append inner.steady_html).append spoken).append closing
    simp only [scaffolded_block_iff,scaffolded_append_iff,scaffolded_nil,and_true]
    exact ⟨⟨((opening.append outer.steady_html).append closing).sheltered,(steady_ofList _ rfl).sheltered⟩,
      sheltered_previewText hidden,⟨frame.sheltered,(steady_ofList _ rfl).sheltered⟩,content⟩

/-- The scaffold of a page is sheltered where its attributes are neat and the contents that it takes over are sheltered. -/
theorem sheltered_page {root : Element} (neat : root.Everywhere IsNeat)
    (content : root.Everywhere fun e => e.tag = .title ∨ e.tag = .preview ∨ e.tag = .style → ShelteredText e.content) :
    Scaffolded ShelteredText (page root) := by
  have declared : (Defaults.ofHead (root.child? .head)).Declares Neat := Defaults.declares_ofHead neat
  have draws := draws_of_isNeat declared neat.own
  have initial : HeadMatter.initial.Tells Neat ShelteredText := by
    have width : Filled "480px" := filled_ofList _ _ rfl rfl
    exact ⟨sheltered_nil,sheltered_nil,width.neat,List.forall_mem_nil _,List.forall_mem_nil _⟩
  have matter := HeadMatter.tells_ofHead initial neat content
  have language : Steady (attributeText "lang" (escape (Styled.getD ⟨root,Defaults.ofHead (root.child? .head)⟩ "lang" "und")) ++
      attributeText "dir" (escape (Styled.getD ⟨root,Defaults.ofHead (root.child? .head)⟩ "dir" "auto"))) :=
    (steady_attribute draws (filled_ofList _ _ rfl rfl) (steady_ofList _ rfl)).append
      (steady_attribute draws (filled_ofList _ _ rfl rfl) (steady_ofList _ rfl))
  have opening : Steady "<html" := steady_ofList _ rfl
  have xhtml : Steady " xmlns=\"http://www.w3.org/1999/xhtml\"" := steady_ofList _ rfl
  have office : Steady " xmlns:v=\"urn:schemas-microsoft-com:vml\" xmlns:o=\"urn:schemas-microsoft-com:office:office\">" :=
    steady_ofList _ rfl
  have rules : ∀ rule ∈ columnRules (columnWidths (Defaults.ofHead (root.child? .head)) (root.child? .body)),
      Steady rule.1 ∧ Steady rule.2 :=
    of_mem_columnRules fun width => ⟨(filled_columnClass width).steady,steady_value width⟩
  have head := sheltered_headPart matter rules
  have within : ∀ e ∈ root.child? .body, e.Everywhere IsNeat := fun e found => neat.inside (List.mem_of_find?_eq_some found)
  have body := sheltered_bodyPart declared within matter.preview language
  unfold page
  simp only [scaffolded_line_iff,scaffolded_block_iff,scaffolded_nil,and_true]
  exact ⟨(steady_ofList _ rfl).sheltered,⟨(((opening.append language).append xhtml).append office).sheltered,
    (steady_ofList _ rfl).sheltered⟩,scaffolded_append_iff.mpr ⟨head,body⟩⟩

end Letterpress.Html
