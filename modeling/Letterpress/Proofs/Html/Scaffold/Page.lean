import Letterpress.Html.Page
import Letterpress.Proofs.Html.Scaffold.Band
import Letterpress.Proofs.Keyed

/-! The scaffold of a whole page is firm when braces stand alone in all that the document says but its content. -/
namespace Letterpress.Html
open Letterpress.Markup Letterpress.Css

structure HeadMatter.Carries (Q : String → Prop) (matter : HeadMatter) : Prop where
  title : Q matter.title
  preview : Q matter.preview
  breakpoint : Q matter.breakpoint
  fonts : ∀ href ∈ matter.fonts, Q href
  styles : ∀ css ∈ matter.styles, Q css

/-- What comes from attributes has the one property, and what comes from content has the other. -/
structure HeadMatter.Tells (Q R : String → Prop) (matter : HeadMatter) : Prop where
  title : R matter.title
  preview : R matter.preview
  breakpoint : Q matter.breakpoint
  fonts : ∀ href ∈ matter.fonts, Q href
  styles : ∀ css ∈ matter.styles, R css

variable {Q R : String → Prop} {matter : HeadMatter} {e root : Element}

private theorem HeadMatter.Tells.add (tells : matter.Tells Q R) (values : ∀ a ∈ e.attributes, Q a.value)
    (content : e.tag = .title ∨ e.tag = .preview ∨ e.tag = .style → R e.content) : (matter.add e).Tells Q R := by
  obtain ⟨title,preview,breakpoint,fonts,styles⟩ := tells
  unfold HeadMatter.add
  split
  · next tag => exact ⟨content (.inl tag),preview,breakpoint,fonts,styles⟩
  · next tag => exact ⟨title,content (.inr (.inl tag)),breakpoint,fonts,styles⟩
  · refine ⟨title,preview,?_,fonts,styles⟩
    cases width : e.attribute? "width" with
    | none => exact breakpoint
    | some width' => exact e.of_attribute? values width
  · split
    · next name href named addressed =>
      have address : ∀ other ∈ [href], Q other := List.forall_mem_singleton.mpr (e.of_attribute? values addressed)
      exact ⟨title,preview,breakpoint,List.forall_mem_append.mpr ⟨fonts,address⟩,styles⟩
    · exact ⟨title,preview,breakpoint,fonts,styles⟩
  · next tag =>
    have css : ∀ other ∈ [e.content], R other := List.forall_mem_singleton.mpr (content (.inr (.inr tag)))
    exact ⟨title,preview,breakpoint,fonts,List.forall_mem_append.mpr ⟨styles,css⟩⟩
  · exact ⟨title,preview,breakpoint,fonts,styles⟩
  · exact ⟨title,preview,breakpoint,fonts,styles⟩

theorem HeadMatter.tells_ofHead (initial : HeadMatter.initial.Tells Q R)
    (values : root.Everywhere fun e => ∀ a ∈ e.attributes, Q a.value)
    (content : root.Everywhere fun e => e.tag = .title ∨ e.tag = .preview ∨ e.tag = .style → R e.content) :
    (HeadMatter.ofHead (root.child? .head)).Tells Q R := by
  unfold HeadMatter.ofHead
  split
  · next head found =>
    have listed := List.mem_of_find?_eq_some found
    exact List.foldlRecOn _ _ initial fun matter tells child member =>
      tells.add ((values.inside listed).inside member).own ((content.inside listed).inside member).own
  · exact initial

private theorem carries_ofHead (carries : root.Everywhere (Element.Carries LoneText)) :
    (HeadMatter.ofHead (root.child? .head)).Carries LoneText := by
  have initial : HeadMatter.initial.Tells LoneText LoneText :=
    ⟨lone_nil,lone_nil,lone_ofList _ rfl,List.forall_mem_nil _,List.forall_mem_nil _⟩
  obtain ⟨title,preview,breakpoint,fonts,styles⟩ := HeadMatter.tells_ofHead initial
    (carries.mono fun _ own => own.values) (carries.mono fun _ own => own.content)
  exact ⟨title,preview,breakpoint,fonts,styles⟩

private theorem firm_styleElement {css : String} (lone : LoneText css) : Firm (styleElement css) :=
  Firm.around (firm_ofList _ rfl) lone (firm_ofList _ rfl)

private theorem lone_resetStyle : LoneText resetStyle := by
  have first : Firm "#outlook a \x7b padding:0; \x7d " := firm_ofList _ rfl
  have second : Firm "body \x7b margin:0;padding:0;-webkit-text-size-adjust:100%;-ms-text-size-adjust:100%; \x7d " :=
    firm_ofList _ rfl
  have third : Firm "table, td \x7b border-collapse:collapse;mso-table-lspace:0pt;mso-table-rspace:0pt; \x7d " :=
    firm_ofList _ rfl
  have fourth : Firm "img \x7b border:0;height:auto;line-height:100%; outline:none;text-decoration:none;" :=
    firm_ofList _ rfl
  have fifth : Firm "-ms-interpolation-mode:bicubic; \x7d " := firm_ofList _ rfl
  exact ((((first.append second.tame).append third.tame).append fourth.tame).append fifth.tame).before (lone_ofList _ rfl)

private theorem firm_outlookSettings : Firm outlookSettings := Firm.append (firm_ofList _ rfl) (firm_ofList _ rfl).tame

private theorem firm_outlookGroupFix : Firm outlookGroupFix := Firm.append (firm_ofList _ rfl) (firm_ofList _ rfl).tame

private theorem firmly_fontLinks {href : String} (lone : LoneText href) : Firmly (fontLinks href) := by
  have link : Firm ("<link href=\"" ++ escape href ++ "\" rel=\"stylesheet\" type=\"text/css\">") :=
    Firm.around (firm_ofList _ rfl) lone.escape (firm_ofList _ rfl)
  have imported : Firm ("@import url(" ++ escape href ++ ");") :=
    Firm.around (firm_ofList _ rfl) lone.escape (firm_ofList _ rfl)
  unfold fontLinks
  simp only [firmly_line_iff]
  exact ⟨firm_ofList _ rfl,link,firm_styleElement imported.lone,firm_ofList _ rfl,firmly_nil⟩

theorem columnRules_eq (widths : List Width) :
    columnRules widths = Keyed.ofList (widths.map fun width => (width.columnClass, width.value)) := by
  simp only [columnRules,Keyed.ofList,Keyed.insertAll,List.foldl_map]

def RulesSound (rules : List (String × String)) : Prop := ∀ rule ∈ rules, Firm rule.1 ∧ Tame rule.2

theorem exists_of_mem_columnRules {widths : List Width} {rule : String × String} (member : rule ∈ columnRules widths) :
    ∃ width ∈ widths, (width.columnClass, width.value) = rule :=
  List.mem_map.mp (Keyed.mem_of_mem_ofList (columnRules_eq widths ▸ member))

theorem of_mem_columnRules {P : String × String → Prop} (each : ∀ width : Width, P (width.columnClass, width.value))
    {widths : List Width} : ∀ rule ∈ columnRules widths, P rule := by
  intro rule member
  obtain ⟨width,_,rfl⟩ := exists_of_mem_columnRules member
  exact each width

private theorem sound_columnRules (widths : List Width) : RulesSound (columnRules widths) :=
  of_mem_columnRules fun width => ⟨firm_columnClass width,tame_value width⟩

private theorem firm_columnStyle {breakpoint : String} {rules : List (String × String)} (lone : LoneText breakpoint)
    (sound : RulesSound rules) : Firm (columnStyle breakpoint rules) := by
  have dot : Firm "." := firm_ofList _ rfl
  have wide : Firm " \x7b width:" := firm_ofList _ rfl
  have most : Firm " !important; max-width:" := firm_ofList _ rfl
  have queried : Firm ("@media only screen and (min-width:" ++ breakpoint ++ ") \x7b ") :=
    Firm.around (firm_ofList _ rfl) lone (firm_ofList _ rfl)
  refine firm_styleElement ((queried.before (lone_intercalate (firm_ofList _ rfl) fun text member => ?_)).append_ofList
    (by decide) rfl)
  obtain ⟨⟨name,width⟩,listed,rfl⟩ := List.mem_map.mp member
  obtain ⟨named,shown⟩ := sound _ listed
  have rule := ((((dot.append named.tame).append wide.tame).append shown).append most.tame).append shown
  exact rule.lone.append_ofList (by decide) rfl

private theorem firmly_map_content (raws : List String) : Firmly (raws.map .content) := scaffolded_map_content raws

private theorem firmly_map_styleElement {styles : List String} (lone : ∀ css ∈ styles, LoneText css) :
    Firmly (styles.map fun css => .line (styleElement css)) :=
  scaffolded_map_line_iff.mpr fun css member => firm_styleElement (lone css member)

private theorem firmly_headPart {rules : List (String × String)} (carries : matter.Carries LoneText)
    (sound : RulesSound rules) : Firmly [headPart matter rules] := by
  have title : Firm ("<title>" ++ matter.title ++ "</title>") :=
    Firm.around (firm_ofList _ rfl) carries.title (firm_ofList _ rfl)
  have compatible : Firm ("<!--[if !mso]><!--><meta http-equiv=\"X-UA-Compatible\" content=\"IE=edge\">" ++
      "<!--<![endif]-->") := Firm.append (firm_ofList _ rfl) (firm_ofList _ rfl).tame
  have columns : Firmly (if rules.isEmpty then [] else [.line (columnStyle matter.breakpoint rules)]) := by
    split
    · exact firmly_nil
    · exact firmly_line_iff.mpr ⟨firm_columnStyle carries.breakpoint sound,firmly_nil⟩
  unfold headPart
  simp only [firmly_block_iff,firmly_append_iff,firmly_line_iff,firmly_flatMap_iff,firmly_nil,and_true]
  exact ⟨⟨firm_ofList _ rfl,firm_ofList _ rfl⟩,⟨⟨⟨⟨title,compatible,firm_ofList _ rfl,firm_ofList _ rfl,
    firm_styleElement lone_resetStyle,firm_outlookSettings,firm_outlookGroupFix⟩,
    fun href listed => firmly_fontLinks (carries.fonts href listed)⟩,columns⟩,
    firmly_map_styleElement carries.styles⟩,firmly_map_content matter.raw⟩

section Body
variable {defaults : Defaults} {preview language : String} (declared : defaults.Declares LoneText)

private theorem firmly_previewText (lone : LoneText preview) : Firmly (previewText preview) := by
  have hidden : Firm ("<div style=\"display:none;font-size:1px;color:#ffffff;line-height:1px;max-height:0px;max-width:0px;" ++
      "opacity:0;overflow:hidden;\">") := Firm.append (firm_ofList _ rfl) (firm_ofList _ rfl).tame
  unfold previewText
  split
  · exact firmly_nil
  · exact firmly_line_iff.mpr ⟨hidden.around lone (firm_ofList _ rfl),firmly_nil⟩

include declared

private theorem firmly_bodyContent (carries : e.Everywhere (Element.Carries LoneText)) : Firmly (bodyContent defaults e) := by
  refine firmly_flatMap_iff.mpr fun child member => ?_
  split
  · exact firmly_band declared (carries.inside member) _
  · exact firmly_wrapper declared (carries.inside member) _
  · exact firmly_content_iff.mpr firmly_nil
  · exact firmly_nil

private theorem firmly_bodyPart {body : Option Element} (carries : ∀ e ∈ body, e.Everywhere (Element.Carries LoneText))
    (hidden : LoneText preview) (spoken : Tame language) : Firmly [bodyPart defaults body preview language] := by
  have opening : Firm "<body" := firm_ofList _ rfl
  have division : Firm "<div" := firm_ofList _ rfl
  have closing : Tame ">" := (firm_ofList _ rfl).tame
  unfold bodyPart
  split
  · exact firmly_line_iff.mpr ⟨firm_ofList _ rfl,firmly_nil⟩
  · next body =>
    have values := values_of_carries declared (carries body rfl).own
    have inner : Style.Sound [("background-color", Styled.filled? ⟨body,defaults⟩ "background-color")] :=
      Style.sound_cons_iff.mpr ⟨firm_ofList _ rfl,values.shown _,Style.sound_nil⟩
    have outer : Style.Sound [("word-spacing", some "normal"),
        ("background-color", Styled.filled? ⟨body,defaults⟩ "background-color")] :=
      Style.sound_cons_iff.mpr ⟨firm_ofList _ rfl,fixed (lone_ofList _ rfl),inner⟩
    simp only [firmly_block_iff,firmly_append_iff,firmly_nil,and_true]
    exact ⟨⟨(opening.append outer.tame_html).append closing,firm_ofList _ rfl⟩,firmly_previewText hidden,
      ⟨(((division.append (tame_classText values)).append inner.tame_html).append spoken).append closing,
        firm_ofList _ rfl⟩,firmly_bodyContent declared (carries body rfl)⟩

end Body

/-- Where braces stand alone in all that a document says but its content, they do so in the scaffold of its page, which is
firm. -/
theorem firmly_page (carries : root.Everywhere (Element.Carries LoneText)) : Firmly (page root) := by
  have declared : (Defaults.ofHead (root.child? .head)).Declares LoneText :=
    Defaults.declares_ofHead (carries.mono fun _ own => own.values)
  have values := values_of_carries declared carries.own
  have matter := carries_ofHead carries
  have language : Tame (attributeText "lang" (escape (Styled.getD ⟨root,Defaults.ofHead (root.child? .head)⟩ "lang" "und")) ++
      attributeText "dir" (escape (Styled.getD ⟨root,Defaults.ofHead (root.child? .head)⟩ "dir" "auto"))) :=
    (Firm.append (values.attribute (firm_ofList _ rfl) (lone_ofList _ rfl))
      (values.attribute (firm_ofList _ rfl) (lone_ofList _ rfl)).tame).tame
  have opening : Firm "<html" := firm_ofList _ rfl
  have xhtml : Firm " xmlns=\"http://www.w3.org/1999/xhtml\"" := firm_ofList _ rfl
  have office : Firm " xmlns:v=\"urn:schemas-microsoft-com:vml\" xmlns:o=\"urn:schemas-microsoft-com:office:office\">" :=
    firm_ofList _ rfl
  have head := firmly_headPart matter
    (sound_columnRules (columnWidths (Defaults.ofHead (root.child? .head)) (root.child? .body)))
  have within : ∀ e ∈ root.child? .body, e.Everywhere (Element.Carries LoneText) := fun e found =>
    carries.inside (List.mem_of_find?_eq_some found)
  have body := firmly_bodyPart declared within matter.preview language
  unfold page
  simp only [firmly_line_iff,firmly_block_iff,firmly_nil,and_true]
  exact ⟨firm_ofList _ rfl,⟨((opening.append language).append xhtml.tame).append office.tame,firm_ofList _ rfl⟩,
    firmly_append_iff.mpr ⟨head,body⟩⟩

end Letterpress.Html
