import Letterpress.Compile
import Letterpress.Proofs.Css.Length
import Letterpress.Proofs.Html.Brackets

/-! The calls that write a page are bracketed, box by box, whatever the document says: what they open they close, the last
element first, for readers of conditional comments and for all others, and the depth of the writer goes along with that. -/
namespace Letterpress.Html
open Letterpress.Markup Letterpress.Css Fragment

variable {s : Styled} {lead name html : String}

private theorem Begun.frames (begun : Begun "" name html) (named : isName name.toList = true) {tail : List Char}
    (checked : isTail [] tail = true) : Frames name (html ++ String.ofList tail, closingTag name) :=
  ⟨begun.read silent_empty named checked,tagsIn_closingTag named⟩

private theorem begun_with (attributes : List Char) (checked : isPart false attributes = true)
    (spelled : html.toList = lead.toList ++ '<' :: (name.toList ++ attributes)) : Begun lead name html :=
  ⟨String.ofList attributes,inert_ofList attributes checked,by rwa [String.toList_ofList]⟩

private theorem frames_tbody : Frames "tbody" tbody := ⟨tagsIn_ofList _ rfl,tagsIn_ofList _ rfl⟩

private theorem frames_row : Frames "tr" row := ⟨tagsIn_ofList _ rfl,tagsIn_ofList _ rfl⟩

private theorem inert_presentation : Inert presentation := inert_ofList _ rfl

private theorem inert_attribute (name value : String) (checked : isPart true (' ' :: name.toList ++ ['=', '"']) = true) :
    Inert (attributeText name (escape value)) := inert_attributeText name checked (hushed_escape value)

private theorem hushed_number (x : Float) : Hushed (number x).toList := by
  refine hushed_of_unquoted fun c member => ?_
  rintro rfl
  exact absurd (isFigure_of_mem_number _ member) (by decide)

private theorem hushed_px (x : Float) : Hushed (px x).toList := by
  rw [px,String.toList_append]
  exact (hushed_number x).append (hushed_of_unquoted (unquoted_of_all rfl))

private theorem bracketed_text (s : Styled) : Bracketed (Renderer.text s) := by
  have opening : Begun "" "div" "<div" := begun rfl
  have frames : Frames "div" (textDivision s, "</div>") := (opening.append (inert_html _)).frames rfl rfl
  exact (bracketed_content _).within frames

private theorem frames_buttonFrame (s : Styled) (style : Style) : ∃ name, Frames name (buttonFrame s style) := by
  unfold buttonFrame
  split
  · next href found =>
    have opening : Begun "" "a" "<a" := begun rfl
    have address := opening.append (inert_attribute "href" href rfl)
    have described := (address.append (inert_passed s "rel" rfl)).append (inert_passed s "title" rfl)
    have whole := (described.append (inert_html style)).append (inert_attribute "target" (s.getD "target" "_blank") rfl)
    exact ⟨"a",whole.frames rfl rfl⟩
  · have opening : Begun "" "p" "<p" := begun rfl
    exact ⟨"p",(opening.append (inert_html style)).frames rfl rfl⟩

private theorem bracketed_button (s : Styled) : Bracketed (Renderer.button s) := by
  have table : Begun "" "table" "<table" := begun rfl
  have cell : Begun "" "td" "<td align=\"center\"" := begun_with " align=\"center\"".toList rfl rfl
  have role : Inert " role=\"presentation\"" := inert_ofList _ rfl
  have color := inert_attribute "bgcolor" (s.getD "background-color" "#414141") rfl
  have alignment := inert_attribute "valign" (s.getD "vertical-align" "middle") rfl
  rw [Renderer.button_eq,button,allCalls_nest]
  refine (bracketed_content _).around ?_
  simp only [List.forall_mem_cons]
  refine ⟨⟨"table",?_⟩,⟨_,frames_tbody⟩,⟨_,frames_row⟩,⟨"td",?_⟩,frames_buttonFrame s _,List.forall_mem_nil _⟩
  · exact ((table.append inert_presentation).append (inert_html _)).frames rfl rfl
  · exact ((((cell.append color).append role).append (inert_html _)).append alignment).frames rfl rfl

private theorem otherwise_imageTag (s : Styled) (width : Float) : Otherwise (imageTag s width) := by
  have opening : Otherwise "<img" := otherwise_ofList _ rfl
  unfold imageTag
  exact (((((((opening.append _).append _).append _).append _).append _).append _).append _)

/-- The cell of an image, of which the width is a number of pixels. -/
theorem frames_imageCell (width : Float) : Frames "td" ("<td style=\"width:" ++ px width ++ ";\">", "</td>") := by
  have opening : Begun "" "td" "<td" := begun rfl
  have cell := opening.around " style=\"width:".toList [';'] rfl (hushed_px width) rfl
  have spelled : "<td style=\"width:" ++ px width ++ ";\">" =
      "<td" ++ String.ofList " style=\"width:".toList ++ px width ++ String.ofList ([';'] ++ ['"']) ++ ">" := by
    simp [← String.toList_inj]
  rw [spelled]
  exact cell.frames rfl rfl

private theorem bracketed_image (s : Styled) (box : Float) : Bracketed (Renderer.image s box) := by
  have table : Begun "" "table" "<table" := begun rfl
  have link (href : String) : Frames "a" ("<a" ++ attributeText "href" (escape href) ++ passed s "rel" ++
      attributeText "target" (escape (s.getD "target" "_blank")) ++ ">", "</a>") := by
    have opening : Begun "" "a" "<a" := begun rfl
    have address := opening.append (inert_attribute "href" href rfl)
    have described := address.append (inert_passed s "rel" rfl)
    have whole := described.append (inert_attribute "target" (s.getD "target" "_blank") rfl)
    exact whole.frames rfl rfl
  rw [Renderer.image_eq,image,allCalls_nest]
  refine (bracketed_line (otherwise_imageTag s _).plain).around ?_
  simp only [List.forall_mem_append,List.forall_mem_cons]
  refine ⟨⟨⟨"table",?_⟩,⟨_,frames_tbody⟩,⟨_,frames_row⟩,⟨"td",frames_imageCell _⟩,List.forall_mem_nil _⟩,?_⟩
  · exact (table.append inert_presentation).frames rfl rfl
  · split
    · exact List.forall_mem_singleton.mpr ⟨"a",link _⟩
    · exact List.forall_mem_nil _

private theorem bracketed_divider (s : Styled) (box : Float) : Bracketed (Renderer.divider s box) := by
  have rule : Otherwise "<p" := otherwise_ofList _ rfl
  have table : Begun conditional "table" "<!--[if mso | IE]><table" := begun rfl
  have bare : Inert " border=\"0\" cellpadding=\"0\" cellspacing=\"0\"" := inert_ofList _ rfl
  have role : Inert " role=\"presentation\"" := inert_ofList _ rfl
  have align := inert_attribute "align" (s.getD "align" "center") rfl
  have wide (width : Float) : Inert (attributeText "width" (px width)) := inert_attributeText _ rfl (hushed_px width)
  have opening (style : Style) (width : Float) :=
    ((((table.append align).append bare).append (inert_html style)).append role).append (wide width)
  have tags : tagsIn (dividerTable s box) =
      [.opens "table", .opens "tr", .opens "td", .closes "td", .closes "tr", .closes "table"] :=
    (opening _ _).read silent_conditional rfl rfl
  have whole := matched_nil.around true ["table", "tr", "td"]
  refine Bracketed.append (bracketed_line ((rule.append _).append _).plain)
    (bracketed_comment ((opening _ _).isConditional _) ?_)
  rw [tags]
  simpa using whole

private theorem bracketed_spacer (s : Styled) : Bracketed (Renderer.spacer s) := by
  have opening : Otherwise "<div" := otherwise_ofList _ rfl
  exact bracketed_line ((opening.append _).append _).plain

private theorem bracketed_table (s : Styled) : Bracketed (Renderer.table s) := by
  have opening : Begun "" "table" "<table" := begun rfl
  have bare : Inert " border=\"0\"" := inert_ofList _ rfl
  have padding := opening.append (inert_attribute "cellpadding" (s.getD "cellpadding" "0") rfl)
  have spacing := padding.append (inert_attribute "cellspacing" (s.getD "cellspacing" "0") rfl)
  have role := spacing.append (inert_passed s "role" rfl)
  have whole (width : String) (style : Style) :=
    ((role.append (inert_attribute "width" width rfl)).append bare).append (inert_html style)
  have frames : Frames "table" (tableOpening s, "</table>") := (whole _ _).frames rfl rfl
  exact (bracketed_content _).within frames

private theorem bracketed_component (defaults : Defaults) (e : Element) (container : Float) :
    Bracketed (Renderer.component defaults e container) := by
  have opening : Begun "" "td" "<td" := begun rfl
  have align : Inert (if e.tag = .spacer then "" else
      attributeText "align" (escape (Styled.getD ⟨e,defaults⟩ "align" "left"))) := by
    split
    · exact inert_empty
    · exact inert_attribute _ _ rfl
  have cell : Frames "td" (componentCell ⟨e,defaults⟩, "</td>") :=
    (((opening.append align).append (inert_classText ⟨e,defaults⟩)).append (inert_html _)).frames rfl rfl
  unfold Renderer.component
  split
  · exact bracketed_content _
  · have framed : ∀ frame ∈ [row, (componentCell ⟨e,defaults⟩, "</td>")], ∃ name, Frames name frame := by
      simp only [List.forall_mem_cons]
      exact ⟨⟨_,frames_row⟩,⟨_,cell⟩,List.forall_mem_nil _⟩
    refine Bracketed.around ?_ framed
    split
    · exact bracketed_text _
    · exact bracketed_button _
    · exact bracketed_image _ _
    · exact bracketed_divider _ _
    · exact bracketed_spacer _
    · exact bracketed_table _
    · exact bracketed_nil

private theorem frames_columnFrames (s : Styled) : ∀ frame ∈ columnFrames s, ∃ name, Frames name frame := by
  have opening : Begun "" "table" "<table" := begun rfl
  have cell : Begun "" "td" "<td" := begun rfl
  have table {style : String} (inert : Inert style) :
      Frames "table" ("<table" ++ presentation ++ style ++ " width=\"100%\">", "</table>") :=
    ((opening.append inert_presentation).append inert).frames rfl rfl
  have padded (style : Style) : Frames "td" ("<td" ++ style.html ++ ">", "</td>") :=
    (cell.append (inert_html style)).frames rfl rfl
  unfold columnFrames
  split
  · simp only [List.forall_mem_cons]
    exact ⟨⟨_,table inert_empty⟩,⟨_,frames_tbody⟩,⟨_,frames_row⟩,⟨_,padded _⟩,⟨_,table inert_empty⟩,⟨_,frames_tbody⟩,
      List.forall_mem_nil _⟩
  · simp only [List.forall_mem_cons]
    exact ⟨⟨_,table (inert_html _)⟩,⟨_,frames_tbody⟩,List.forall_mem_nil _⟩

/-- The line before a column opens a cell. The alignment in it is for the author to choose. -/
theorem tags_columnComment (align : String) (pixels : Float) :
    isConditional ("<!--[if mso | IE]><td style=\"vertical-align:" ++ escape align ++ ";width:" ++ px pixels ++
        ";\"><![endif]-->") = true ∧
      tagsIn ("<!--[if mso | IE]><td style=\"vertical-align:" ++ escape align ++ ";width:" ++ px pixels ++
        ";\"><![endif]-->") = [.opens "td"] := by
  have value : Hushed (escape align ++ ";width:" ++ px pixels).toList := by
    simp only [String.toList_append]
    exact ((hushed_escape align).append (hushed_of_unquoted (unquoted_of_all rfl))).append (hushed_px pixels)
  have opening : Begun conditional "td" "<!--[if mso | IE]><td" := begun rfl
  have cell := opening.around " style=\"vertical-align:".toList [';'] rfl value rfl
  have spelled : "<!--[if mso | IE]><td style=\"vertical-align:" ++ escape align ++ ";width:" ++ px pixels ++
      ";\"><![endif]-->" = "<!--[if mso | IE]><td" ++ String.ofList " style=\"vertical-align:".toList ++
        (escape align ++ ";width:" ++ px pixels) ++ String.ofList ([';'] ++ ['"']) ++ "><![endif]-->" := by
    simp [← String.toList_inj]
  rw [spelled]
  exact ⟨cell.isConditional _,cell.read silent_conditional rfl rfl⟩

private theorem enclosed_column (defaults : Defaults) (e : Element) (container : Float) (siblings : Nat) :
    Enclosed ["td"] (Renderer.column defaults e container siblings) := by
  have opening : Begun "" "div" "<div" := begun rfl
  have division (width : Width) : Frames "div" (columnDivision ⟨e,defaults⟩ width, "</div>") :=
    ((opening.append (inert_attribute "class" _ rfl)).append (inert_html _)).frames rfl rfl
  have inside (width : Float) : Bracketed (e.children.flatMap fun child => Renderer.component defaults child width) :=
    bracketed_flatMap fun child _ => bracketed_component defaults child width
  obtain ⟨begins,opens⟩ := tags_columnComment (Styled.getD ⟨e,defaults⟩ "vertical-align" "top")
    ((columnWidth ⟨e,defaults⟩ siblings).resolve container)
  rw [Renderer.column_eq,column,allCalls_append,allCalls_append,allCalls_nest,allCalls_flatMap]
  simp only [← Renderer.component_eq]
  exact .between begins rfl opens (tagsIn_ofList _ rfl)
    ((inside _).around (List.forall_mem_cons.mpr ⟨⟨_,division _⟩,frames_columnFrames _⟩))

private theorem enclosed_columns (defaults : Defaults) (e : Element) (container : Float) :
    Enclosed ["table", "tr"] (Renderer.columns defaults e container) := by
  refine .between rfl rfl (by cbv) (by cbv) (bracketed_flatMap fun child _ => ?_)
  split
  · exact (enclosed_column ..).bracketed
  · exact bracketed_content _
  · exact bracketed_nil

/-- The line before the box of a band or wrapper begins with a table as wide as that. -/
theorem begun_bandComment (container : Float) :
    Begun conditional "table" ("<!--[if mso | IE]><table align=\"center\"" ++ presentation ++ " style=\"width:" ++
      px container ++ ";\"" ++ attributeText "width" (number container)) := by
  have opening : Begun conditional "table" "<!--[if mso | IE]><table align=\"center\"" :=
    begun_with " align=\"center\"".toList rfl rfl
  have wide := (opening.append inert_presentation).around " style=\"width:".toList [';'] rfl
    (hushed_px container) rfl
  exact wide.append (inert_attributeText "width" rfl (hushed_number container))

private theorem inert_backgroundUrl (s : Styled) : Inert (backgroundUrl s) := by
  unfold backgroundUrl
  split
  · exact inert_attribute _ _ rfl
  · exact inert_empty

private theorem housed_boxed (s : Styled) (container : Float) {inside : List Call} (bracketed : Bracketed inside) :
    Housed ["table", "tr", "td"] (Renderer.boxed s container inside) := by
  have line := begun_bandComment container
  have opening : Begun "" "div" "<div" := begun rfl
  have centered : Begun "" "table" "<table align=\"center\"" := begun_with " align=\"center\"".toList rfl rfl
  have cell : Begun "" "td" "<td" := begun rfl
  have pictured : Inert (if isFullWidth s then "" else backgroundUrl s) := by
    split
    · exact inert_empty
    · exact inert_backgroundUrl s
  have division : Frames "div" (bandDivision s container, "</div>") :=
    ((opening.append (inert_classText s)).append (inert_html _)).frames rfl rfl
  have table : Frames "table" (bandTable s, "</table>") :=
    (((centered.append pictured).append inert_presentation).append (inert_html _)).frames rfl rfl
  have full : Frames "table" (fullTable s, "</table>") :=
    (((centered.append (inert_backgroundUrl s)).append inert_presentation).append (inert_html _)).frames rfl rfl
  have padded : Frames "td" (bandCell s, "</td>") := (cell.append (inert_html _)).frames rfl rfl
  have bare : Frames "td" ("<td>", "</td>") := ⟨tagsIn_ofList _ rfl,tagsIn_ofList _ rfl⟩
  have opens : tagsIn (bandComment container) = [.opens "table", .opens "tr", .opens "td"] :=
    line.read silent_conditional rfl rfl
  have begins : isConditional (bandComment container) = true := line.isConditional _
  have closes : tagsIn bandEnd = [.closes "td", .closes "tr", .closes "table"] := tagsIn_ofList _ rfl
  have framed : ∀ frame ∈ [(bandDivision s container, "</div>"), (bandTable s, "</table>"), tbody, row,
      (bandCell s, "</td>")], ∃ name, Frames name frame := by
    simp only [List.forall_mem_cons]
    exact ⟨⟨_,division⟩,⟨_,table⟩,⟨_,frames_tbody⟩,⟨_,frames_row⟩,⟨_,padded⟩,List.forall_mem_nil _⟩
  have boxes : Enclosed ["table", "tr", "td"] _ :=
    .between begins rfl opens closes (bracketed.around framed)
  unfold Renderer.boxed
  cases isFullWidth s with
  | true =>
    have framed : ∀ frame ∈ [(fullTable s, "</table>"), tbody, row, ("<td>", "</td>")], ∃ name, Frames name frame := by
      simp only [List.forall_mem_cons]
      exact ⟨⟨_,full⟩,⟨_,frames_tbody⟩,⟨_,frames_row⟩,⟨_,bare⟩,List.forall_mem_nil _⟩
    have whole := Housed.within framed boxes
    simpa [tbody,row] using whole
  | false =>
    have whole := Housed.within (List.forall_mem_nil _) boxes
    simpa [tbody,row] using whole

private theorem housed_band (defaults : Defaults) (e : Element) (container : Float) :
    Housed ["table", "tr", "td"] (Renderer.band defaults e container) :=
  housed_boxed _ container (enclosed_columns defaults e _).bracketed

private theorem housed_wrapper (defaults : Defaults) (e : Element) (container : Float) :
    Housed ["table", "tr", "td"] (Renderer.wrapper defaults e container) := by
  refine housed_boxed _ container (bracketed_flatMap fun child _ => ?_)
  split
  · exact (housed_band ..).bracketed
  · exact bracketed_content _
  · exact bracketed_nil

private theorem bracketed_bodyContent (defaults : Defaults) (e : Element) : Bracketed (Renderer.bodyContent defaults e) := by
  refine bracketed_flatMap fun child _ => ?_
  split
  · exact (housed_band ..).bracketed
  · exact (housed_wrapper ..).bracketed
  · exact bracketed_content _
  · exact bracketed_nil

private theorem inert_languageOf (root : Element) : Inert (languageOf root) :=
  (inert_attribute _ _ rfl).append (inert_attribute _ _ rfl)

private theorem bracketed_body (defaults : Defaults) (body : Option Element) (preview : String) {language : String}
    (inert : Inert language) : Bracketed (Renderer.body defaults body preview language) := by
  have opening : Begun "" "body" "<body" := begun rfl
  have division : Begun "" "div" "<div" := begun rfl
  have shown : Bracketed (if preview.isEmpty then [] else [.line (previewDivision preview)]) := by
    split
    · exact bracketed_nil
    · exact bracketed_line (Otherwise.append (Otherwise.append (Otherwise.append (otherwise_ofList _ rfl) _) _) _).plain
  unfold Renderer.body
  split
  · exact bracketed_line rfl
  · next body =>
    have outer : Frames "body" (bodyOpening ⟨body,defaults⟩, "</body>") :=
      (opening.append (inert_html _)).frames rfl rfl
    have inner : Frames "div" (bodyDivision ⟨body,defaults⟩ language, "</div>") :=
      (((division.append (inert_classText ⟨body,defaults⟩)).append (inert_html _)).append inert).frames rfl rfl
    have whole := (shown.append ((bracketed_bodyContent defaults body).within inner)).within outer
    simpa using whole

private theorem bracketed_head (matter : HeadMatter) (rules : List (String × String)) :
    Bracketed (Renderer.head matter rules) := by
  have style (css : String) : Bracketed [.line (styleElement css)] := by
    have opening : Otherwise "<style type=\"text/css\">" := otherwise_ofList _ rfl
    exact bracketed_line ((opening.append _).append _).plain
  have title : Otherwise "<title>" := otherwise_ofList _ rfl
  have compatible : Otherwise compatibility := Otherwise.append (otherwise_ofList _ rfl) _
  have settings : Otherwise outlookSettings := Otherwise.append (otherwise_ofList _ rfl) _
  have groupFix : Otherwise outlookGroupFix := Otherwise.append (otherwise_ofList _ rfl) _
  have font (href : String) : Bracketed [.line "<!--[if !mso]><!-->", .line (fontLink href), .line (fontImport href),
      .line "<!--<![endif]-->"] := by
    have link : Otherwise "<link href=\"" := otherwise_ofList _ rfl
    refine bracketed_of_each ?_
    simp only [List.forall_mem_cons]
    exact ⟨bracketed_line rfl,bracketed_line ((link.append _).append _).plain,style _,bracketed_line rfl,List.forall_mem_nil _⟩
  have columns : Bracketed (if rules.isEmpty then [] else [.line (columnStyle matter.breakpoint rules)]) := by
    split
    · exact bracketed_nil
    · exact style _
  have styles : Bracketed (matter.styles.map fun css => .line (styleElement css)) :=
    bracketed_of_each (List.forall_mem_map.mpr fun css _ => style css)
  have raw : Bracketed (matter.raw.map .content) :=
    bracketed_of_each (List.forall_mem_map.mpr fun text _ => bracketed_content text)
  have fixed : Bracketed [.line (titleElement matter.title), .line compatibility, .line contentType, .line viewport,
      .line (styleElement resetStyle), .line outlookSettings, .line outlookGroupFix] := by
    refine bracketed_of_each ?_
    simp only [List.forall_mem_cons]
    exact ⟨bracketed_line ((title.append _).append _).plain,bracketed_line compatible.plain,bracketed_line rfl,
      bracketed_line rfl,style _,bracketed_line settings.plain,bracketed_line groupFix.plain,List.forall_mem_nil _⟩
  have frames : Frames "head" ("<head>", "</head>") := ⟨tagsIn_ofList _ rfl,tagsIn_ofList _ rfl⟩
  exact ((((fixed.append (bracketed_flatMap fun href _ => font href)).append columns).append styles).append raw).within frames

private theorem bracketed_bodyOf (root : Element) :
    Bracketed (Renderer.bodyOf root) := bracketed_body _ _ _ (inert_languageOf root)

private theorem bracketed_document (root : Element) :
    Bracketed (Renderer.beforeBody root ++ Renderer.bodyOf root ++ Renderer.afterBody) := by
  have opening : Begun "" "html" "<html" := begun rfl
  have spaces : Inert " xmlns=\"http://www.w3.org/1999/xhtml\"" := inert_ofList _ rfl
  have frames : Frames "html" (documentOpening (languageOf root), "</html>") :=
    ((opening.append (inert_languageOf root)).append spaces).frames rfl rfl
  have doctype : Bracketed [.line "<!doctype html>"] := bracketed_line rfl
  have head := bracketed_head (HeadMatter.ofHead (root.child? .head))
    (columnRules (columnWidths (Defaults.ofHead (root.child? .head)) (root.child? .body)))
  have whole := doctype.append ((head.append (bracketed_bodyOf root)).within frames)
  simpa [Renderer.beforeBody,Renderer.afterBody] using whole

/-- What holds of the calls for some part of a page. -/
structure WellBracketed (calls : List Call) : Prop where
  /-- An opening line opens one element and a closing line closes one. -/
  single : ∀ call ∈ calls, call.Single
  /-- A reader of all tags closes what was opened last, wherever the part stands, and in the end all that was opened. -/
  matched : Matched (calls.flatMap Call.marks)
  /-- So does a reader who passes over conditional comments. -/
  matched_visible : read? [] ((calls.flatMap Call.marks).filter (!·.1)) = some []
  /-- The writer is as deep behind the calls as before them. -/
  kept : ∀ w : Writer, (w.run calls).depth = w.depth
  /-- Before a closing line it is deeper, so no closing line finds it at zero. -/
  deeper : ∀ (before after : List Call) (html : String), calls = before ++ .closing html :: after →
    ∀ w : Writer, w.depth < (w.run before).depth

private theorem Bracketed.wellBracketed {calls : List Call} (bracketed : Bracketed calls) : WellBracketed calls where
  single := bracketed.single
  matched := bracketed.matched
  matched_visible := bracketed.matched_visible
  kept := bracketed.run_depth
  deeper _ _ _ parts := bracketed.lt_depth parts

end Letterpress.Html

namespace Letterpress
open Letterpress.Markup Letterpress.Html

/-- What is set for a source is what a writer has written that makes the calls of its document, the ones of the body by a
writer of its own one level down. In a document, in its body and in every component, column, row of columns, band and wrapper
the lines that open and close elements match, and the depth is kept and never asked to fall below zero. What a conditional
comment opens around a column, a row of columns, a band or a wrapper, another one closes behind it. -/
theorem scaffolding_is_bracketed (options : CompileOptions) (source : String) :
    compile options source = ((Element.ofSource source.toList).map fun root =>
      (Renderer.document options.layout root).out).mapError (·.report source.toList) ∧
    ∀ (root : Element) (layout : Layout),
      Renderer.document layout root = ⟨layout, layout.set (page root), 0⟩ ∧
      ((Writer.start layout 1).run (Renderer.bodyOf root)).depth = 1 ∧
      WellBracketed (Renderer.beforeBody root ++ Renderer.bodyOf root ++ Renderer.afterBody) ∧
      WellBracketed (Renderer.bodyOf root) ∧
      ∀ (defaults : Defaults) (e : Element) (container : Float) (siblings : Nat),
        WellBracketed (Renderer.component defaults e container) ∧
        (WellBracketed (Renderer.column defaults e container siblings) ∧
          Enclosed ["td"] (Renderer.column defaults e container siblings)) ∧
        (WellBracketed (Renderer.columns defaults e container) ∧
          Enclosed ["table", "tr"] (Renderer.columns defaults e container)) ∧
        (WellBracketed (Renderer.band defaults e container) ∧
          Housed ["table", "tr", "td"] (Renderer.band defaults e container)) ∧
        (WellBracketed (Renderer.wrapper defaults e container) ∧
          Housed ["table", "tr", "td"] (Renderer.wrapper defaults e container)) := by
  have written (layout : Layout) (root : Element) := Renderer.document_eq layout root
  refine ⟨?_,fun root layout => ⟨written layout root,(bracketed_bodyOf root).run_depth _,
    (bracketed_document root).wellBracketed,(bracketed_bodyOf root).wellBracketed,
    fun defaults e container siblings => ?_⟩⟩
  · simp only [written]
    unfold compile
    cases Element.ofSource source.toList <;> rfl
  · have cell := enclosed_column defaults e container siblings
    have table := enclosed_columns defaults e container
    have box := housed_band defaults e container
    have outer := housed_wrapper defaults e container
    exact ⟨(bracketed_component defaults e container).wellBracketed,⟨cell.bracketed.wellBracketed,cell⟩,
      ⟨table.bracketed.wellBracketed,table⟩,⟨box.bracketed.wellBracketed,box⟩,⟨outer.bracketed.wellBracketed,outer⟩⟩

end Letterpress
