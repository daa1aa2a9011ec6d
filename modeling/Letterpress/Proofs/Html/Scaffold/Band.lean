import Letterpress.Html.Band
import Letterpress.Proofs.Html.Scaffold.Component

/-! The scaffold of bands, and of the columns in them, is firm when braces stand alone in the values of their elements. -/
namespace Letterpress.Html
open Letterpress.Markup Letterpress.Css

variable {s : Styled} {inside : List Fragment}

private theorem firm_columnFrames (values : Values s) : ∀ frame ∈ columnFrames s, Firm frame.1 ∧ Firm frame.2 := by
  have closing : Tame ">" := (firm_ofList _ rfl).tame
  have wide : Firm " width=\"100%\">" := firm_ofList _ rfl
  have opening : Firm "<table" := firm_ofList _ rfl
  have cell : Firm "<td" := firm_ofList _ rfl
  have table {style : String} (tame : Tame style) :
      Firm ("<table" ++ presentation ++ style ++ " width=\"100%\">") ∧ Firm "</table>" :=
    ⟨((opening.append firm_presentation.tame).append tame).append wide.tame,firm_ofList _ rfl⟩
  have style : Style.Sound [("background-color", s.filled? "background-color"), ("border", s.filled? "border"),
      ("border-radius", s.filled? "border-radius"), ("vertical-align", some (s.getD "vertical-align" "top"))] := by
    simp only [Style.sound_cons_iff]
    exact ⟨firm_ofList _ rfl,values.shown _,firm_ofList _ rfl,values.shown _,firm_ofList _ rfl,values.shown _,
      firm_ofList _ rfl,values.given (lone_ofList _ rfl),Style.sound_nil⟩
  have padded := Style.sound_append_iff.mpr ⟨style,sound_paddingStyle values⟩
  unfold columnFrames columnTable columnPadding columnBox
  split
  · simp only [List.forall_mem_cons]
    exact ⟨table tame_empty,firm_tbody,firm_row,⟨(cell.append padded.tame_html).append closing,firm_ofList _ rfl⟩,
      table tame_empty,firm_tbody,List.forall_mem_nil _⟩
  · simp only [List.forall_mem_cons]
    exact ⟨table style.tame_html,firm_tbody,List.forall_mem_nil _⟩

private theorem lone_background (values : Values s) : ∀ value ∈ background? s, LoneText value := by
  have color : LoneText ((s.filled? "background-color").getD "") := by
    cases found : s.filled? "background-color" with
    | none => exact lone_nil
    | some value => exact values.filled found
  have size : LoneText (s.getD "background-size" "auto") := values.getD (lone_ofList _ rfl)
  have tiling : LoneText (s.getD "background-repeat" "repeat") := values.getD (lone_ofList _ rfl)
  unfold background?
  dsimp only
  split
  · next url found =>
    have image := color.spaced (a := " url('") (firm_ofList _ rfl) (values.filled found)
    have placed := image.spaced (a := "') center top / ") (firm_ofList _ rfl) size
    exact fixed (placed.spaced (firm_ofList _ rfl) tiling).trim
  · exact values.shown _

private theorem firmly_bandFrame (values : Values s) (container : Float) (firmly : Firmly inside) :
    Firmly (bandFrame s container inside) := by
  have background := lone_background values
  have pictured (url : String) (found : s.filled? "background-url" = some url) :
      Tame (attributeText "background" (escape url)) :=
    (firm_attributeText (firm_ofList _ rfl) (values.filled found).escape).tame
  have closing : Tame ">" := (firm_ofList _ rfl).tame
  have centered : Firm "<table align=\"center\"" := firm_ofList _ rfl
  have outlook : Firm "<!--[if mso | IE]><table align=\"center\"" := firm_ofList _ rfl
  have wide : Firm " style=\"width:" := firm_ofList _ rfl
  have ending : Firm ";\"" := firm_ofList _ rfl
  have cell : Firm "><tr><td style=\"line-height:0px;font-size:0px;mso-line-height-rule:exactly;\"><![endif]-->" :=
    firm_ofList _ rfl
  have pixels : Firm (attributeText "width" (number container)) :=
    firm_attributeText (firm_ofList _ rfl) (tame_number container).lone
  have greatest : ∀ value ∈ some (px container), LoneText value := fixed (tame_px container).lone
  have division : Firm "<div" := firm_ofList _ rfl
  have data : Firm "<td" := firm_ofList _ rfl
  unfold bandFrame bandComment bandDivision bandTable bandCell fullTable boxed? isFullWidth backgroundUrl
  refine firmly_ite_nest ?_ ?_
  · simp only [List.forall_mem_cons]
    refine ⟨⟨(((centered.append ?_).append firm_presentation.tame).append (Style.Sound.tame_html ?_)).append closing,
      firm_ofList _ rfl⟩,firm_tbody,firm_row,⟨firm_ofList _ rfl,firm_ofList _ rfl⟩,List.forall_mem_nil _⟩
    · split
      · next url found => exact pictured url found
      · exact tame_empty
    · simp only [Style.sound_cons_iff]
      exact ⟨firm_ofList _ rfl,background,firm_ofList _ rfl,fixed (lone_ofList _ rfl),Style.sound_nil⟩
  · generalize (s.filled? "full-width" == some "full-width") = full
    have boxed : ∀ value ∈ (if full then none else background? s), LoneText value := by
      cases full with
      | true => intro value found; contradiction
      | false => exact background
    simp only [firmly_append_iff,firmly_nest_iff,firmly_line_iff,firmly_nil,List.forall_mem_cons,and_true]
    refine ⟨⟨(((((outlook.append firm_presentation.tame).append wide.tame).append (tame_px _)).append ending.tame).append
      pixels.tame).append cell.tame,⟨⟨((division.append (tame_classText values)).append
        (Style.Sound.tame_html ?_)).append closing,firm_ofList _ rfl⟩,
      ⟨(((centered.append ?picture).append firm_presentation.tame).append (Style.Sound.tame_html ?_)).append closing,
        firm_ofList _ rfl⟩,firm_tbody,firm_row,⟨(data.append (Style.Sound.tame_html ?_)).append closing,
        firm_ofList _ rfl⟩,List.forall_mem_nil _⟩,firmly⟩,firm_ofList _ rfl⟩
    case picture =>
      split
      · exact tame_empty
      · split
        · next url found => exact pictured url found
        · exact tame_empty
    all_goals simp only [Style.sound_append_iff,Style.sound_cons_iff]
    all_goals and_intros
    all_goals first
      | exact firm_ofList _ rfl
      | exact boxed
      | exact values.shown _
      | exact sound_paddingStyle values
      | exact greatest
      | exact values.given (lone_ofList _ rfl)
      | exact fixed (lone_ofList _ rfl)
      | exact Style.sound_nil

private theorem lone_builtIn (tag : Tag) : ∀ entry ∈ tag.builtIn, LoneText entry.2 := by
  have checked : ∀ tag ∈ Tag.every, ∀ entry ∈ tag.builtIn, isLone entry.2.toList = true := by decide +kernel
  exact fun entry member => lone_of_isLone (checked tag tag.mem_every entry member)

section Elements
variable {defaults : Defaults} {e : Element} (declared : defaults.Declares LoneText)
include declared

theorem values_of_carries (carries : e.Carries LoneText) : Values ⟨e,defaults⟩ := ⟨carries,declared,lone_builtIn⟩

private theorem firmly_column (carries : e.Everywhere (Element.Carries LoneText)) (container : Float) (siblings : Nat) :
    Firmly (column defaults e container siblings) := by
  have values := values_of_carries declared carries.own
  have align : LoneText (Styled.getD ⟨e,defaults⟩ "vertical-align" "top") := values.getD (lone_ofList _ rfl)
  have named := firm_columnClass (columnWidth ⟨e,defaults⟩ siblings)
  have closing : Tame ">" := (firm_ofList _ rfl).tame
  have cell : Firm "<!--[if mso | IE]><td style=\"vertical-align:" := firm_ofList _ rfl
  have width : Firm ";width:" := firm_ofList _ rfl
  have ending : Firm ";\"><![endif]-->" := firm_ofList _ rfl
  have division : Firm "<div" := firm_ofList _ rfl
  unfold column columnComment columnDivision
  simp only [firmly_append_iff,firmly_nest_iff,firmly_line_iff,firmly_nil,firmly_flatMap_iff,List.forall_mem_cons,and_true]
  refine ⟨⟨((cell.around align.escape width).append (tame_px _)).append ending.tame,
    ⟨⟨((division.append (firm_attributeText (firm_ofList _ rfl) (Lone.escape ?_)).tame).append
      (Style.Sound.tame_html ?_)).append closing,firm_ofList _ rfl⟩,firm_columnFrames values⟩,fun child member => ?_⟩,
    firm_ofList _ rfl⟩
  · split
    · next more found => exact named.lone.spaced (firm_ofList _ rfl) (values.filled found)
    · exact (named.append (firm_ofList _ rfl).tame).lone
  · simp only [Style.sound_cons_iff]
    and_intros
    all_goals first
      | exact firm_ofList _ rfl
      | exact fixed align
      | exact values.given (lone_ofList _ rfl)
      | exact fixed (lone_ofList _ rfl)
      | exact Style.sound_nil
  · exact firmly_component (values_of_carries declared (carries.inside member).own) _

private theorem firmly_columns (carries : e.Everywhere (Element.Carries LoneText)) (container : Float) :
    Firmly (columns defaults e container) := by
  have table : Firm "<!--[if mso | IE]><table role=\"presentation\" border=\"0\" cellpadding=\"0\" cellspacing=\"0\">" :=
    firm_ofList _ rfl
  unfold columns columnsComment
  simp only [firmly_append_iff,firmly_line_iff,firmly_nil,firmly_flatMap_iff,and_true]
  refine ⟨⟨table.append (firm_ofList _ rfl).tame,fun child member => ?_⟩,firm_ofList _ rfl⟩
  split
  · exact firmly_column declared (carries.inside member) container _
  · exact firmly_content_iff.mpr firmly_nil
  · exact firmly_nil

theorem firmly_band (carries : e.Everywhere (Element.Carries LoneText)) (container : Float) :
    Firmly (band defaults e container) :=
  firmly_bandFrame (values_of_carries declared carries.own) container (firmly_columns declared carries _)

theorem firmly_wrapper (carries : e.Everywhere (Element.Carries LoneText)) (container : Float) :
    Firmly (wrapper defaults e container) := by
  refine firmly_bandFrame (values_of_carries declared carries.own) container (firmly_flatMap_iff.mpr fun child member => ?_)
  split
  · exact firmly_band declared (carries.inside member) _
  · exact firmly_content_iff.mpr firmly_nil
  · exact firmly_nil

end Elements
end Letterpress.Html
