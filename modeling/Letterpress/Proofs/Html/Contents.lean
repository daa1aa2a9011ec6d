import Letterpress.Html.Page
import Letterpress.Proofs.Html.Fragment
import Letterpress.Proofs.Markup.Dialect

/-! The content of a page. What the verbatim elements of a body hold is taken over into the page, all of it and in the order
of the document, and behind what the head has to be taken over. -/
namespace Letterpress.Markup.Element

mutual
/-- What the verbatim elements of a tree hold, in document order. -/
def contents : Element → List String
  | ⟨tag, _, children, content, _⟩ => if tag.isVerbatim then [content] else allContents children

def allContents : List Element → List String
  | [] => []
  | e :: rest => contents e ++ allContents rest
end

variable {source : List Char} {root e : Element} {above : List Element} {holder : Option Tag}

private theorem allContents_eq (elements : List Element) : allContents elements = elements.flatMap contents := by
  induction elements with
  | nil => rfl
  | cons e rest ih => rw [allContents,ih,List.flatMap_cons]

private theorem contents_of_verbatim (verbatim : e.tag.isVerbatim = true) : e.contents = [e.content] := by
  obtain ⟨tag,attributes,children,content,offset⟩ := e
  simp only [contents]
  exact if_pos verbatim

private theorem contents_of_plain (plain : e.tag.isVerbatim = false) : e.contents = e.children.flatMap contents := by
  obtain ⟨tag,attributes,children,content,offset⟩ := e
  change tag.isVerbatim = false at plain
  simp only [contents,plain,allContents_eq]
  rfl

private theorem Assembled.contents_subset (made : root.Assembled source holder) (stands : Stands root above e) :
    e.contents ⊆ root.contents := by
  induction stands with
  | root => exact fun _ member => member
  | @child above parent e outer member ih =>
    refine List.Subset.trans ?_ ih
    have dialect := Assembled.inDialect (Throughout.stands made outer)
    have plain : parent.tag.isVerbatim = false := by
      by_contra verbatim
      have childless := (dialect.verbatim (by simpa using verbatim)).1
      rw [childless] at member
      contradiction
    rw [contents_of_plain plain]
    exact fun raw held => List.mem_flatMap.mpr ⟨e,member,held⟩

theorem Assembled.content_mem (made : root.Assembled source holder) (stands : Stands root above e)
    (verbatim : e.tag.isVerbatim = true) : e.content ∈ root.contents := by
  have within := Assembled.contents_subset made stands
  rw [contents_of_verbatim verbatim] at within
  exact within List.mem_cons_self

private theorem Assembled.of_mem_contents {raw : String} (made : e.Assembled source holder) (member : raw ∈ e.contents) :
    ∃ holder inner, Made source holder inner ∧ raw = inner.content := by
  induction made with
  | @mk holder e own inside ih =>
    cases verbatim : e.tag.isVerbatim with
    | true =>
      rw [contents_of_verbatim verbatim] at member
      exact ⟨holder,e,own,List.mem_singleton.mp member⟩
    | false =>
      rw [contents_of_plain verbatim] at member
      obtain ⟨child,listed,held⟩ := List.mem_flatMap.mp member
      exact ih child listed held

end Letterpress.Markup.Element

namespace Letterpress.Html
open Letterpress.Markup Fragment

variable {source : List Char} {e root : Element} {holder : Option Tag}

private theorem contents_textBlock (s : Styled) : contents (textBlock s) = [s.element.content] := by
  simp only [textBlock,contents_block,contents_content]
  rfl

private theorem contents_button (s : Styled) : contents (button s) = [s.element.content] := by
  simp only [button,contents_nest,contents_content]
  rfl

private theorem contents_table (s : Styled) : contents (table s) = [s.element.content] := by
  simp only [table,contents_block,contents_content]
  rfl

private theorem contents_image (s : Styled) (box : Float) : contents (image s box) = [] := by
  simp only [image,contents_nest,contents_line]
  rfl

private theorem contents_divider (s : Styled) (box : Float) : contents (divider s box) = [] := by
  simp only [divider,contents_line]
  rfl

private theorem contents_spacer (s : Styled) : contents (spacer s) = [] := by
  simp only [spacer,contents_line]
  rfl

private theorem contents_component (defaults : Defaults) (container : Float) (made : e.Assembled source (some .column)) :
    contents (component defaults e container) = e.contents := by
  have fits : e.tag ∈ Tag.column.children := made.own.fits
  -- what is neither verbatim nor has children has no content
  have bare (plain : e.tag.isVerbatim = false) (leaf : e.tag.children = []) : e.contents = [] := by
    rw [Element.contents_of_plain plain,Element.Assembled.childless made leaf,List.flatMap_nil]
  simp only [Tag.children,List.mem_cons,List.not_mem_nil,or_false] at fits
  rcases fits with tag | tag | tag | tag | tag | tag | tag
  · rw [Element.contents_of_verbatim (by rw [tag]; rfl)]
    simp [component,componentBody,tag,contents_nest,contents_textBlock]
  · rw [Element.contents_of_verbatim (by rw [tag]; rfl)]
    simp [component,componentBody,tag,contents_nest,contents_button]
  · rw [bare (by rw [tag]; rfl) (by rw [tag]; rfl)]
    simp [component,componentBody,tag,contents_nest,contents_image]
  · rw [bare (by rw [tag]; rfl) (by rw [tag]; rfl)]
    simp [component,componentBody,tag,contents_nest,contents_divider]
  · rw [bare (by rw [tag]; rfl) (by rw [tag]; rfl)]
    simp [component,componentBody,tag,contents_nest,contents_spacer]
  · rw [Element.contents_of_verbatim (by rw [tag]; rfl)]
    simp [component,componentBody,tag,contents_nest,contents_table]
  · rw [Element.contents_of_verbatim (by rw [tag]; rfl)]
    simp only [component,tag,if_true,contents_content]
    rfl

private theorem flatMap_contents (made : e.Assembled source holder) (plain : e.tag.isVerbatim = false)
    {set : Element → List Fragment}
    (each : ∀ child ∈ e.children, child.Assembled source (some e.tag) → contents (set child) = child.contents) :
    contents (e.children.flatMap set) = e.contents := by
  rw [contents_flatMap,Element.contents_of_plain plain]
  exact List.flatMap_congr fun child member => each child member (made.inside member)

private theorem contents_column (defaults : Defaults) (container : Float) (siblings : Nat) (isColumn : e.tag = .column)
    (made : e.Assembled source holder) : contents (column defaults e container siblings) = e.contents := by
  have inside := flatMap_contents made (by rw [isColumn]; rfl) fun child member within =>
    contents_component defaults
      ((columnWidth ⟨e,defaults⟩ siblings).resolve container - horizontalPadding ⟨e,defaults⟩) (isColumn ▸ within)
  simp only [column,contents_append,contents_line,contents_nest,contents_nil,List.append_nil,List.nil_append,inside]

private theorem contents_raw (isRaw : e.tag = .raw) : contents [.content e.content] = e.contents := by
  rw [Element.contents_of_verbatim (by rw [isRaw]; rfl)]
  rfl

private theorem contents_columns (defaults : Defaults) (container : Float) (isBand : e.tag = .band)
    (made : e.Assembled source holder) : contents (columns defaults e container) = e.contents := by
  simp only [columns,contents_append,contents_line,contents_nil,List.append_nil,List.nil_append]
  refine flatMap_contents made (by rw [isBand]; rfl) ?_
  intro child member within
  have fits : child.tag ∈ Tag.band.children := isBand ▸ within.own.fits
  simp only [Tag.children,List.mem_cons,List.not_mem_nil,or_false] at fits
  rcases fits with tag | tag
  · simp only [tag]
    exact contents_column defaults container _ tag within
  · simp only [tag]
    exact contents_raw tag

private theorem contents_bandFrame (s : Styled) (container : Float) (inside : List Fragment) :
    contents (bandFrame s container inside) = contents inside := by
  unfold bandFrame
  dsimp only
  split <;> simp only [contents_append,contents_line,contents_nest,contents_nil,List.append_nil,List.nil_append]

private theorem contents_band (defaults : Defaults) (container : Float) (isBand : e.tag = .band)
    (made : e.Assembled source holder) : contents (band defaults e container) = e.contents := by
  rw [band,contents_bandFrame,contents_columns defaults _ isBand made]

private theorem contents_wrapper (defaults : Defaults) (container : Float) (isWrapper : e.tag = .wrapper)
    (made : e.Assembled source holder) : contents (wrapper defaults e container) = e.contents := by
  rw [wrapper,contents_bandFrame]
  refine flatMap_contents made (by rw [isWrapper]; rfl) ?_
  intro child member within
  have fits : child.tag ∈ Tag.wrapper.children := isWrapper ▸ within.own.fits
  simp only [Tag.children,List.mem_cons,List.not_mem_nil,or_false] at fits
  rcases fits with tag | tag
  · simp only [tag]
    exact contents_band defaults _ tag within
  · simp only [tag]
    exact contents_raw tag

private theorem contents_bodyContent (defaults : Defaults) (isBody : e.tag = .body) (made : e.Assembled source holder) :
    contents (bodyContent defaults e) = e.contents := by
  refine flatMap_contents made (by rw [isBody]; rfl) ?_
  intro child member within
  have fits : child.tag ∈ Tag.body.children := isBody ▸ within.own.fits
  simp only [Tag.children,List.mem_cons,List.not_mem_nil,or_false] at fits
  rcases fits with tag | tag | tag
  · simp only [tag]
    exact contents_wrapper defaults _ tag within
  · simp only [tag]
    exact contents_band defaults _ tag within
  · simp only [tag]
    exact contents_raw tag

theorem tag_of_child? {tag : Tag} (found : root.child? tag = some e) : e.tag = tag ∧ e ∈ root.children :=
  ⟨by simpa using List.find?_some found,List.mem_of_find?_eq_some found⟩

private theorem raw_add (matter : HeadMatter) (child : Element) :
    (matter.add child).raw = matter.raw ++ if child.tag = .raw then [child.content] else [] := by
  unfold HeadMatter.add
  split
  all_goals try simp_all
  split <;> rfl

theorem raw_ofHead (head : Element) :
    (HeadMatter.ofHead (some head)).raw = (head.children.filter (·.tag = .raw)).map (·.content) := by
  have added (matter : HeadMatter) (children : List Element) :
      (children.foldl HeadMatter.add matter).raw = matter.raw ++ (children.filter (·.tag = .raw)).map (·.content) := by
    induction children generalizing matter with
    | nil => simp
    | cons child rest ih =>
      rw [List.foldl_cons,ih,raw_add]
      by_cases isRaw : child.tag = .raw <;> simp [isRaw]
  exact added HeadMatter.initial head.children

private theorem contents_map_content (raws : List String) : contents (raws.map .content) = raws := by
  induction raws with
  | nil => rfl
  | cons raw rest ih => rw [List.map_cons,contents_content,ih]

private theorem contents_map_line (lines : List String) : contents (lines.map .line) = [] := by
  induction lines with
  | nil => rfl
  | cons html rest ih => rw [List.map_cons,contents_line,ih]

/-- In a head, raw content comes after all the rest, which has none. -/
theorem headPart_eq (matter : HeadMatter) (rules : List (String × String)) : ∃ lines, contents lines = [] ∧
    headPart matter rules = .block "<head>" (lines ++ matter.raw.map .content) "</head>" := by
  have fonts : contents (matter.fonts.flatMap fontLinks) = [] := by
    rw [contents_flatMap]
    exact List.flatMap_eq_nil_iff.mpr fun href _ => rfl
  have columns : contents (if rules.isEmpty then [] else [.line (columnStyle matter.breakpoint rules)]) = [] := by
    split <;> rfl
  have styles : contents (matter.styles.map fun css => .line (styleElement css)) = [] := by
    have lines := contents_map_line (matter.styles.map styleElement)
    rwa [List.map_map] at lines
  refine ⟨_,?_,rfl⟩
  simp only [contents_append,contents_line,contents_nil,fonts,columns,styles,List.append_nil]

private theorem contents_headPart (matter : HeadMatter) (rules : List (String × String)) :
    contents [headPart matter rules] = matter.raw := by
  obtain ⟨lines,bare,same⟩ := headPart_eq matter rules
  rw [same,contents_block,contents_append,bare,contents_map_content,contents_nil,List.append_nil,List.nil_append]

theorem contents_bodyPart (defaults : Defaults) {body : Option Element} (preview language : String)
    (made : ∀ e ∈ body, e.tag = .body ∧ e.Assembled source (some .document)) :
    contents [bodyPart defaults body preview language] = (body.map Element.contents).getD [] := by
  cases body with
  | none => rfl
  | some body =>
    obtain ⟨isBody,within⟩ := made body rfl
    have hidden : contents (previewText preview) = [] := by
      unfold previewText
      split <;> rfl
    simp only [bodyPart,contents_block,contents_append,contents_nil,hidden,contents_bodyContent defaults isBody within,
      List.append_nil,List.nil_append]
    rfl

/-- The content of a page is what the head has to be taken over, and then that of the body. -/
theorem contents_page (made : root.Assembled source none) :
    contents (page root) =
      (HeadMatter.ofHead (root.child? .head)).raw ++ ((root.child? .body).map Element.contents).getD [] := by
  have isDocument : root.tag = .document := made.own.fits
  have body : ∀ e ∈ root.child? .body, e.tag = .body ∧ e.Assembled source (some .document) := fun e found => by
    obtain ⟨isBody,member⟩ := tag_of_child? found
    exact ⟨isBody,isDocument ▸ made.inside member⟩
  have parts (head last : Fragment) : contents [head,last] = contents [head] ++ contents [last] :=
    contents_append [head] [last]
  simp only [page,contents_line,contents_block,contents_nil,List.append_nil]
  rw [parts,contents_headPart,contents_bodyPart (Defaults.ofHead (root.child? .head)) _ _ body]

theorem of_mem_contents_page {raw : String} (made : root.Assembled source none) (member : raw ∈ contents (page root)) :
    ∃ holder e, Element.Made source holder e ∧ raw = e.content := by
  rw [contents_page made] at member
  rcases List.mem_append.mp member with inHead | inBody
  · cases found : root.child? .head with
    | none =>
      rw [found] at inHead
      contradiction
    | some head =>
      rw [found,raw_ofHead] at inHead
      obtain ⟨child,listed,rfl⟩ := List.mem_map.mp inHead
      have within := (made.inside (tag_of_child? found).2).inside (List.mem_of_mem_filter listed)
      exact ⟨_,child,within.own,rfl⟩
  · cases found : root.child? .body with
    | none =>
      rw [found] at inBody
      contradiction
    | some body =>
      rw [found] at inBody
      exact Element.Assembled.of_mem_contents (made.inside (tag_of_child? found).2) inBody

end Letterpress.Html
