import Letterpress.Html.Component
import Letterpress.Proofs.Html.Scaffold.Basic

/-! The scaffold of components is firm. -/
namespace Letterpress.Html
open Letterpress.Markup Letterpress.Css

variable {s : Styled} {style : Style}

private theorem firmly_textBlock (values : Values s) : Firmly (textBlock s) := by
  unfold textBlock textDivision
  simp only [firmly_block_iff,firmly_content_iff,firmly_nil,and_true]
  refine ⟨((firm_ofList _ rfl).append (Style.Sound.tame_html ?_)).append (firm_ofList _ rfl).tame,firm_ofList _ rfl⟩
  simp only [Style.sound_cons_iff]
  and_intros
  all_goals first
    | exact firm_ofList _ rfl
    | exact values.shown _
    | exact values.given (lone_ofList _ rfl)
    | exact fixed (lone_ofList _ rfl)
    | exact Style.sound_nil

private theorem firm_buttonFrame (values : Values s) (sound : style.Sound) :
    Firm (buttonFrame s style).1 ∧ Firm (buttonFrame s style).2 := by
  have closing : Tame ">" := (firm_ofList _ rfl).tame
  unfold buttonFrame buttonLink buttonParagraph
  split
  · next href found =>
    have address : Firm (attributeText "href" (escape href)) :=
      firm_attributeText (firm_ofList _ rfl) (values.filled found).escape
    have rel : Tame (passed s "rel") := tame_passed values (firm_ofList _ rfl)
    have title : Tame (passed s "title") := tame_passed values (firm_ofList _ rfl)
    have target : Firm (attributeText "target" (escape (s.getD "target" "_blank"))) :=
      values.attribute (firm_ofList _ rfl) (lone_ofList _ rfl)
    have opening : Firm "<a" := firm_ofList _ rfl
    exact ⟨(((((opening.append address.tame).append rel).append title).append sound.tame_html).append
      target.tame).append closing,firm_ofList _ rfl⟩
  · exact ⟨((firm_ofList _ rfl).append sound.tame_html).append closing,firm_ofList _ rfl⟩

private theorem firmly_button (values : Values s) : Firmly (button s) := by
  have closing : Tame ">" := (firm_ofList _ rfl).tame
  have color : Firm (attributeText "bgcolor" (escape (s.getD "background-color" "#414141"))) :=
    values.attribute (firm_ofList _ rfl) (lone_ofList _ rfl)
  have alignment : Firm (attributeText "valign" (escape (s.getD "vertical-align" "middle"))) :=
    values.attribute (firm_ofList _ rfl) (lone_ofList _ rfl)
  have role : Firm " role=\"presentation\"" := firm_ofList _ rfl
  have cell : Firm "<td align=\"center\"" := firm_ofList _ rfl
  have table : Firm "<table" := firm_ofList _ rfl
  unfold button buttonTable buttonCell buttonStyle
  simp only [firmly_nest_iff,firmly_content_iff,firmly_nil,and_true,List.forall_mem_cons]
  refine ⟨⟨((table.append firm_presentation.tame).append (Style.Sound.tame_html ?_)).append closing,firm_ofList _ rfl⟩,
    firm_tbody,firm_row,⟨((((cell.append color.tame).append role.tame).append (Style.Sound.tame_html ?_)).append
      alignment.tame).append closing,firm_ofList _ rfl⟩,firm_buttonFrame values ?_,List.forall_mem_nil _⟩
  all_goals simp only [Style.sound_cons_iff]
  all_goals and_intros
  all_goals first
    | exact firm_ofList _ rfl
    | exact values.shown _
    | exact values.given (lone_ofList _ rfl)
    | exact fixed (lone_ofList _ rfl)
    | exact Style.sound_nil

private theorem firm_imageTag (values : Values s) (width : Float) : Firm (imageTag s width) := by
  have height : LoneText (s.getD "height" "auto") := values.getD (lone_ofList _ rfl)
  have shown : LoneText (if s.getD "height" "auto" == "auto" then s.getD "height" "auto"
      else ((pixels? (s.getD "height" "auto")).map number).getD (s.getD "height" "auto")) := by
    split
    · exact height
    · cases pixels? (s.getD "height" "auto") with
      | none => exact height
      | some count => exact (tame_number count).lone
  have alt : Firm (attributeText "alt" (escape (s.getD "alt" ""))) :=
    values.attribute (firm_ofList _ rfl) lone_nil
  have source : Firm (attributeText "src" (escape (s.getD "src" ""))) :=
    values.attribute (firm_ofList _ rfl) lone_nil
  have high : Firm (attributeText "height" _) := firm_attributeText (firm_ofList _ rfl) shown.escape
  have wide : Firm (attributeText "width" _) := firm_attributeText (firm_ofList _ rfl) (tame_number width).lone
  have title : Tame (passed s "title") := tame_passed values (firm_ofList _ rfl)
  have opening : Firm "<img" := firm_ofList _ rfl
  have closing : Tame " />" := (firm_ofList _ rfl).tame
  unfold imageTag
  refine ((((((opening.append alt.tame).append high.tame).append source.tame).append title).append
    (Style.Sound.tame_html ?_)).append wide.tame).append closing
  simp only [Style.sound_cons_iff]
  and_intros
  all_goals first
    | exact firm_ofList _ rfl
    | exact fixed height
    | exact values.shown _
    | exact values.given (lone_ofList _ rfl)
    | exact fixed (lone_ofList _ rfl)
    | exact Style.sound_nil

private theorem firmly_image (values : Values s) (box : Float) : Firmly (image s box) := by
  have closing : Tame ">" := (firm_ofList _ rfl).tame
  have table : Firm "<table" := firm_ofList _ rfl
  have style : Firm " style=\"border-collapse:collapse;border-spacing:0px;\">" := firm_ofList _ rfl
  have cell : Firm "<td style=\"width:" := firm_ofList _ rfl
  have ending : Firm ";\">" := firm_ofList _ rfl
  unfold image imageTable imageCell imageLink
  simp only [firmly_nest_iff,firmly_line_iff,firmly_nil,and_true,List.forall_mem_append,List.forall_mem_cons]
  refine ⟨⟨⟨⟨(table.append firm_presentation.tame).append style.tame,firm_ofList _ rfl⟩,firm_tbody,firm_row,
    ⟨(cell.append (tame_px _)).append ending.tame,firm_ofList _ rfl⟩,List.forall_mem_nil _⟩,?_⟩,firm_imageTag values _⟩
  split
  · next href found =>
    have address : Firm (attributeText "href" (escape href)) :=
      firm_attributeText (firm_ofList _ rfl) (values.filled found).escape
    have rel : Tame (passed s "rel") := tame_passed values (firm_ofList _ rfl)
    have target : Firm (attributeText "target" (escape (s.getD "target" "_blank"))) :=
      values.attribute (firm_ofList _ rfl) (lone_ofList _ rfl)
    have opening : Firm "<a" := firm_ofList _ rfl
    exact List.forall_mem_singleton.mpr
      ⟨(((opening.append address.tame).append rel).append target.tame).append closing,firm_ofList _ rfl⟩
  · exact List.forall_mem_nil _

private theorem sound_dividerStyle {border margin width : String} (edge : LoneText border) (around : LoneText margin)
    (wide : LoneText width) : Style.Sound [("border-top", some border), ("font-size", some "1px"),
      ("margin", some margin), ("width", some width)] := by
  simp only [Style.sound_cons_iff]
  exact ⟨firm_ofList _ rfl,fixed edge,firm_ofList _ rfl,fixed (lone_ofList _ rfl),firm_ofList _ rfl,fixed around,
    firm_ofList _ rfl,fixed wide,Style.sound_nil⟩

private theorem firmly_divider (values : Values s) (box : Float) : Firmly (divider s box) := by
  have border : LoneText (s.getD "border-style" "solid" ++ " " ++ s.getD "border-width" "4px" ++ " " ++
      s.getD "border-color" "#000000") := by
    have blank : Firm " " := firm_ofList _ rfl
    have kind : LoneText (s.getD "border-style" "solid") := values.getD (lone_ofList _ rfl)
    have wide : LoneText (s.getD "border-width" "4px") := values.getD (lone_ofList _ rfl)
    have color : LoneText (s.getD "border-color" "#000000") := values.getD (lone_ofList _ rfl)
    exact (kind.spaced blank wide).spaced blank color
  have width : LoneText (s.getD "width" "100%") := values.getD (lone_ofList _ rfl)
  have align : Firm (attributeText "align" (escape (s.getD "align" "center"))) :=
    values.attribute (firm_ofList _ rfl) (lone_ofList _ rfl)
  have pixels (x : Float) : Firm (attributeText "width" (px x)) :=
    firm_attributeText (firm_ofList _ rfl) (tame_px x).lone
  have table : Firm "<!--[if mso | IE]><table" := firm_ofList _ rfl
  have bare : Firm " border=\"0\" cellpadding=\"0\" cellspacing=\"0\"" := firm_ofList _ rfl
  have role : Firm " role=\"presentation\"" := firm_ofList _ rfl
  have ending : Firm ("><tr><td style=\"height:0;line-height:0;\">&nbsp;</td></tr></table><![endif]-->") :=
    firm_ofList _ rfl
  unfold divider dividerRule dividerTable dividerStyle
  simp only [firmly_line_iff,firmly_nil,and_true]
  refine ⟨((firm_ofList _ rfl).append (sound_dividerStyle border ?_ width).tame_html).append (firm_ofList _ rfl).tame,
    (((((table.append align.tame).append bare.tame).append (sound_dividerStyle border ?_ (tame_px _).lone).tame_html).append
      role.tame).append (pixels _).tame).append ending.tame⟩
  all_goals split <;> exact lone_ofList _ rfl

private theorem firmly_spacer (values : Values s) : Firmly (spacer s) := by
  have height : LoneText (s.getD "height" "20px") := values.getD (lone_ofList _ rfl)
  unfold spacer spacerDivision
  simp only [firmly_line_iff,firmly_nil,and_true]
  refine ((firm_ofList _ rfl).append (Style.Sound.tame_html ?_)).append (firm_ofList _ rfl).tame
  simp only [Style.sound_cons_iff]
  exact ⟨firm_ofList _ rfl,fixed height,firm_ofList _ rfl,fixed height,Style.sound_nil⟩

private theorem firmly_table (values : Values s) : Firmly (table s) := by
  have width : LoneText (s.getD "width" "100%") := values.getD (lone_ofList _ rfl)
  have shown : LoneText (((pixels? (s.getD "width" "100%")).map number).getD (s.getD "width" "100%")) := by
    cases pixels? (s.getD "width" "100%") with
    | none => exact width
    | some count => exact (tame_number count).lone
  have padding : Firm (attributeText "cellpadding" (escape (s.getD "cellpadding" "0"))) :=
    values.attribute (firm_ofList _ rfl) (lone_ofList _ rfl)
  have spacing : Firm (attributeText "cellspacing" (escape (s.getD "cellspacing" "0"))) :=
    values.attribute (firm_ofList _ rfl) (lone_ofList _ rfl)
  have role : Tame (passed s "role") := tame_passed values (firm_ofList _ rfl)
  have wide : Firm (attributeText "width" _) := firm_attributeText (firm_ofList _ rfl) shown.escape
  have bare : Firm " border=\"0\"" := firm_ofList _ rfl
  have opening : Firm "<table" := firm_ofList _ rfl
  have closing : Tame ">" := (firm_ofList _ rfl).tame
  unfold table tableOpening
  simp only [firmly_block_iff,firmly_content_iff,firmly_nil,and_true]
  refine ⟨((((((opening.append padding.tame).append spacing.tame).append role).append wide.tame).append bare.tame).append
    (Style.Sound.tame_html ?_)).append closing,firm_ofList _ rfl⟩
  simp only [Style.sound_cons_iff]
  and_intros
  all_goals first
    | exact firm_ofList _ rfl
    | exact values.shown _
    | exact fixed width
    | exact values.given (lone_ofList _ rfl)
    | exact Style.sound_nil

theorem firmly_component {defaults : Defaults} {e : Element} (values : Values ⟨e,defaults⟩) (container : Float) :
    Firmly (component defaults e container) := by
  unfold component componentCell
  split
  · exact firmly_content_iff.mpr firmly_nil
  · have align : Tame (if e.tag = .spacer then "" else
        attributeText "align" (escape (Styled.getD ⟨e,defaults⟩ "align" "left"))) := by
      split
      · exact tame_empty
      · exact (values.attribute (firm_ofList _ rfl) (lone_ofList _ rfl)).tame
    have style : Style.Sound ([("background", Styled.filled? ⟨e,defaults⟩ "container-background-color"),
        ("font-size", some "0px")] ++ paddingStyle ⟨e,defaults⟩ ++ [("word-break", some "break-word")]) := by
      simp only [Style.sound_append_iff,Style.sound_cons_iff]
      exact ⟨⟨⟨firm_ofList _ rfl,values.shown _,firm_ofList _ rfl,fixed (lone_ofList _ rfl),Style.sound_nil⟩,
        sound_paddingStyle values⟩,firm_ofList _ rfl,fixed (lone_ofList _ rfl),Style.sound_nil⟩
    have opening : Firm "<td" := firm_ofList _ rfl
    have closing : Tame ">" := (firm_ofList _ rfl).tame
    have cell := (((opening.append align).append (tame_classText values)).append style.tame_html).append closing
    simp only [firmly_nest_iff,List.forall_mem_cons]
    refine ⟨⟨firm_row,⟨cell,firm_ofList _ rfl⟩,List.forall_mem_nil _⟩,?_⟩
    unfold componentBody
    split
    · exact firmly_textBlock values
    · exact firmly_button values
    · exact firmly_image values _
    · exact firmly_divider values _
    · exact firmly_spacer values
    · exact firmly_table values
    · exact firmly_nil

end Letterpress.Html
