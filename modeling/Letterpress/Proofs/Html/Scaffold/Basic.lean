import Letterpress.Html.Box
import Letterpress.Proofs.Css.Length
import Letterpress.Proofs.Html.Braces
import Letterpress.Proofs.Html.Fragment
import Letterpress.Proofs.Markup.Values

/-! The scaffold of a page is everything but its content. When braces stand alone in all values that an element gets, then the
attributes, the style and the numbers written from them join with what is around them, and no expression begins or ends. -/
namespace Letterpress.Html
open Letterpress.Markup Letterpress.Css

abbrev LoneText (text : String) : Prop := Lone text.toList

abbrev Values (s : Styled) : Prop := s.Holds LoneText

variable {a b name value : String} {s : Styled} {style more : Style} {key : String} {x : Float}

private theorem isBrace_of_isFigure {c : Char} (figure : IsFigure c) : isBrace c = false := by
  by_contra brace
  simp only [isBrace,Bool.not_eq_false,Bool.or_eq_true,beq_iff_eq] at brace
  rcases brace with rfl | rfl <;> exact absurd figure (by decide)

theorem tame_number (x : Float) : Tame (number x) :=
  tame_of_plain fun c member => isBrace_of_isFigure (isFigure_of_mem_number c member)

theorem tame_px (x : Float) : Tame (px x) := (tame_number x).append (firm_ofList _ rfl).tame

theorem firm_columnClass (width : Width) : Firm width.columnClass := by
  have dashed (x : Float) : Tame (String.ofList (Text.replaceChar '.' ['-'] (number x).toList)) :=
    tame_of_plain fun c member => isBrace_of_isFigure (isFigure_of_mem_dashed c member)
  cases width with
  | pixels count => exact (firm_ofList _ rfl).append (dashed count)
  | percent share => exact (firm_ofList _ rfl).append (dashed share)

theorem tame_value (width : Width) : Tame width.value := by
  cases width with
  | pixels count => exact tame_px count
  | percent share => exact (tame_number share).append (firm_ofList _ rfl).tame

theorem firm_attributeText (named : Firm name) (lone : LoneText value) : Firm (attributeText name value) := by
  have blank : Firm " " := firm_ofList _ rfl
  have equals : Firm "=\"" := firm_ofList _ rfl
  have quote : Firm "\"" := firm_ofList _ rfl
  exact ((blank.append named.tame).append equals.tame).around lone quote

theorem tame_passed (values : Values s) (named : Firm key) : Tame (passed s key) := by
  unfold passed
  split
  · next value found => exact (firm_attributeText named (values.filled found).escape).tame
  · exact tame_empty

theorem Values.attribute (values : Values s) {fallback : String} (named : Firm name) (last : LoneText fallback) :
    Firm (attributeText name (escape (s.getD key fallback))) :=
  firm_attributeText named (Lone.escape (values.getD last))

theorem tame_classText (values : Values s) : Tame (classText s) := by
  unfold classText
  split
  · next classes found => exact (firm_attributeText (firm_ofList _ rfl) (values.filled found).escape).tame
  · exact tame_empty

/-- Of all declarations, the property has the one property and the value the other. -/
def Style.Declares (P Q : String → Prop) (style : Style) : Prop := ∀ entry ∈ style, P entry.1 ∧ ∀ value ∈ entry.2, Q value

section Declares
variable {P Q : String → Prop}

theorem Style.declares_nil : Style.Declares P Q [] := List.forall_mem_nil _

theorem Style.declares_cons_iff {value : Option String} :
    Style.Declares P Q ((key, value) :: style) ↔ P key ∧ (∀ text ∈ value, Q text) ∧ style.Declares P Q := by
  rw [Style.Declares,List.forall_mem_cons,and_assoc]
  rfl

theorem Style.declares_append_iff : Style.Declares P Q (style ++ more) ↔ style.Declares P Q ∧ more.Declares P Q :=
  List.forall_mem_append

theorem Style.declares_paddingStyle (named : ∀ key ∈ "padding" :: paddingSides, P key)
    (filled : ∀ key, ∀ value ∈ s.filled? key, Q value) : (paddingStyle s).Declares P Q := by
  intro entry member
  obtain ⟨key,listed,rfl⟩ := List.mem_map.mp member
  exact ⟨named key listed,filled key⟩

end Declares

def Style.Sound (style : Style) : Prop := ∀ entry ∈ style, Firm entry.1 ∧ ∀ value ∈ entry.2, LoneText value

theorem Style.sound_nil : Style.Sound [] := declares_nil

theorem Style.sound_cons_iff {value : Option String} :
    Style.Sound ((key, value) :: style) ↔ Firm key ∧ (∀ text ∈ value, LoneText text) ∧ style.Sound := declares_cons_iff

theorem Style.sound_append_iff : Style.Sound (style ++ more) ↔ style.Sound ∧ more.Sound := declares_append_iff

theorem Style.Sound.tame_html (sound : style.Sound) : Tame style.html := by
  have declarations : Tame style.declarations := by
    refine tame_join fun text member => ?_
    obtain ⟨⟨property,value⟩,listed,rfl⟩ := List.mem_map.mp member
    obtain ⟨named,lone⟩ := sound _ listed
    have given : LoneText (value.getD "") := by
      cases value with
      | none => exact lone_nil
      | some value => exact lone value rfl
    dsimp only [Style.declaration]
    split
    · exact tame_empty
    · exact ((named.append (firm_ofList [':'] rfl).tame).around given.trim (firm_ofList [';'] rfl)).tame
  unfold Style.html
  dsimp only
  split
  · exact tame_empty
  · exact (Firm.around (firm_ofList _ rfl) declarations.lone.escape (firm_ofList _ rfl)).tame

theorem sound_paddingStyle (values : Values s) : (paddingStyle s).Sound := by
  have sides : ∀ key ∈ "padding" :: paddingSides, Firm key := by
    simp only [paddingSides,List.forall_mem_cons]
    and_intros
    all_goals first | exact firm_ofList _ rfl | exact List.forall_mem_nil _
  exact Style.declares_paddingStyle sides fun _ _ found => values.filled found

theorem Values.shown (values : Values s) (key : String) : ∀ value ∈ s.filled? key, LoneText value :=
  fun _ found => values.filled found

theorem Values.given (values : Values s) {key fallback : String} (last : LoneText fallback) :
    ∀ value ∈ some (s.getD key fallback), LoneText value := by
  intro value same
  cases same
  exact values.getD last

theorem fixed {Q : String → Prop} (own : Q a) : ∀ value ∈ some a, Q value := by
  intro value same
  cases same
  exact own

def Firmly (fragments : List Fragment) : Prop := ∀ html, .scaffold html ∈ Fragment.allLeaves fragments → Firm html

section Fragments
open Fragment
variable {α : Type} {html raw opening closing : String} {inside rest : List Fragment}
  {frames : List (String × String)} {f : α → List Fragment} {xs : List α}

theorem firmly_nil : Firmly [] := scaffolded_nil

theorem firmly_append_iff : Firmly (inside ++ rest) ↔ Firmly inside ∧ Firmly rest := scaffolded_append_iff

theorem firmly_line_iff : Firmly (line html :: rest) ↔ Firm html ∧ Firmly rest := scaffolded_line_iff

theorem firmly_content_iff : Firmly (content raw :: rest) ↔ Firmly rest := scaffolded_content_iff

theorem firmly_block_iff :
    Firmly (block opening inside closing :: rest) ↔ (Firm opening ∧ Firm closing) ∧ Firmly inside ∧ Firmly rest :=
  scaffolded_block_iff

theorem firmly_nest_iff :
    Firmly (nest frames inside) ↔ (∀ frame ∈ frames, Firm frame.1 ∧ Firm frame.2) ∧ Firmly inside := scaffolded_nest_iff

theorem firmly_flatMap_iff : Firmly (xs.flatMap f) ↔ ∀ x ∈ xs, Firmly (f x) := scaffolded_flatMap_iff

theorem firmly_ite_nest {c : Prop} [Decidable c] (outer : ∀ frame ∈ frames, Firm frame.1 ∧ Firm frame.2)
    (firmly : Firmly inside) : Firmly (if c then nest frames inside else inside) := scaffolded_ite_nest outer firmly

end Fragments

theorem firm_presentation : Firm presentation := firm_ofList _ rfl

theorem firm_tbody : Firm tbody.1 ∧ Firm tbody.2 := ⟨firm_ofList _ rfl,firm_ofList _ rfl⟩

theorem firm_row : Firm row.1 ∧ Firm row.2 := ⟨firm_ofList _ rfl,firm_ofList _ rfl⟩

end Letterpress.Html
