import Letterpress.Html.Page
import Letterpress.Proofs.Markup.Standing
import Mathlib.Data.List.Basic

/-! Pages of trees that differ in content only. No box looks at content, so a body without its content is set as the same page
without its content. -/
namespace Letterpress.Html
open Letterpress.Markup

namespace Fragment

mutual
/-- The fragment with a mark wherever there was content. -/
def bared : Fragment → Fragment
  | line html => line html
  | content raw => content (mark raw)
  | block opening inside closing => block opening (allBared inside) closing

def allBared : List Fragment → List Fragment
  | [] => []
  | fragment :: rest => bared fragment :: allBared rest
end

@[simp] theorem allBared_eq (fragments : List Fragment) : allBared fragments = fragments.map bared := by
  induction fragments with
  | nil => rfl
  | cons fragment rest ih => rw [allBared,ih,List.map_cons]

attribute [simp] bared

@[simp] theorem map_bared_nest (frames : List (String × String)) (inside : List Fragment) :
    (nest frames inside).map bared = nest frames (inside.map bared) := by
  induction frames with
  | nil => rfl
  | cons frame frames ih =>
    have step (inside : List Fragment) : nest (frame :: frames) inside = [block frame.1 (nest frames inside) frame.2] := rfl
    simp [step,ih]

end Fragment
open Fragment

variable {rewrite : Tag → String → String} {e : Element} {defaults : Defaults}

section Boxes
variable (e : Element) (defaults : Defaults) (key fallback : String) (box container : Float) (siblings : Nat) (style : Style)
  (inside : List Fragment)

@[simp] theorem get?_recast : (⟨e.recast rewrite, defaults⟩ : Styled).get? key = (⟨e, defaults⟩ : Styled).get? key := by
  simp [Styled.get?,Styled.fromClasses?]

@[simp] theorem filled?_recast :
    (⟨e.recast rewrite, defaults⟩ : Styled).filled? key = (⟨e, defaults⟩ : Styled).filled? key := by
  simp [Styled.filled?]

@[simp] theorem getD_recast :
    (⟨e.recast rewrite, defaults⟩ : Styled).getD key fallback = (⟨e, defaults⟩ : Styled).getD key fallback := by
  simp [Styled.getD]

@[simp] theorem passed_recast : passed ⟨e.recast rewrite, defaults⟩ key = passed ⟨e, defaults⟩ key := by
  simp [passed]

@[simp] theorem classText_recast : classText ⟨e.recast rewrite, defaults⟩ = classText ⟨e, defaults⟩ := by
  simp [classText]

@[simp] theorem paddingStyle_recast : paddingStyle ⟨e.recast rewrite, defaults⟩ = paddingStyle ⟨e, defaults⟩ := by
  simp [paddingStyle]

@[simp] theorem hasPadding_recast : hasPadding ⟨e.recast rewrite, defaults⟩ = hasPadding ⟨e, defaults⟩ := by
  simp [hasPadding]

@[simp] theorem horizontalPadding_recast :
    horizontalPadding ⟨e.recast rewrite, defaults⟩ = horizontalPadding ⟨e, defaults⟩ := by
  simp [horizontalPadding]

@[simp] theorem background?_recast : background? ⟨e.recast rewrite, defaults⟩ = background? ⟨e, defaults⟩ := by
  simp [background?]

@[simp] theorem buttonFrame_recast : buttonFrame ⟨e.recast rewrite, defaults⟩ style = buttonFrame ⟨e, defaults⟩ style := by
  simp [buttonFrame,buttonLink]

@[simp] theorem image_recast : image ⟨e.recast rewrite, defaults⟩ box = image ⟨e, defaults⟩ box := by
  simp [image,imageTag,imageWidth,imageLink]

@[simp] theorem divider_recast : divider ⟨e.recast rewrite, defaults⟩ box = divider ⟨e, defaults⟩ box := by
  unfold divider dividerRule dividerTable dividerStyle
  simp only [getD_recast]

@[simp] theorem spacer_recast : spacer ⟨e.recast rewrite, defaults⟩ = spacer ⟨e, defaults⟩ := by
  simp [spacer,spacerDivision]

@[simp] theorem columnWidth_recast :
    columnWidth ⟨e.recast rewrite, defaults⟩ siblings = columnWidth ⟨e, defaults⟩ siblings := by
  simp [columnWidth]

@[simp] theorem columnFrames_recast : columnFrames ⟨e.recast rewrite, defaults⟩ = columnFrames ⟨e, defaults⟩ := by
  simp [columnFrames,columnBox,columnPadding]

@[simp] theorem columnCount_recast : columnCount (e.recast rewrite) = columnCount e := by
  simp [columnCount,List.countP_map,Function.comp_def]

@[simp] theorem bandFrame_recast :
    bandFrame ⟨e.recast rewrite, defaults⟩ container inside = bandFrame ⟨e, defaults⟩ container inside := by
  unfold bandFrame bandDivision bandTable bandCell fullTable boxed? isFullWidth backgroundUrl
  simp only [filled?_recast,getD_recast,background?_recast,classText_recast,paddingStyle_recast]

@[simp] theorem bodyWidth_recast : bodyWidth ⟨e.recast rewrite, defaults⟩ = bodyWidth ⟨e, defaults⟩ := by
  simp [bodyWidth]

end Boxes

variable {container : Float} {siblings : Nat}

private theorem textBlock_bare (isText : e.tag = .text) :
    textBlock ⟨e.recast bare, defaults⟩ = (textBlock ⟨e, defaults⟩).map bared := by
  simp [textBlock,textDivision,bare,isText,Tag.isFilling]

private theorem button_bare (isButton : e.tag = .button) :
    button ⟨e.recast bare, defaults⟩ = (button ⟨e, defaults⟩).map bared := by
  unfold button buttonTable buttonCell buttonStyle
  simp [bare,isButton,Tag.isFilling]

private theorem table_bare (isTable : e.tag = .table) :
    table ⟨e.recast bare, defaults⟩ = (table ⟨e, defaults⟩).map bared := by
  simp [table,tableOpening,bare,isTable,Tag.isFilling]

private theorem raw_bare (isRaw : e.tag = .raw) :
    [Fragment.content (e.recast bare).content] = [Fragment.content e.content].map bared := by
  simp [bare,isRaw,Tag.isFilling]

private theorem componentBody_bare (e : Element) (box : Float) :
    componentBody ⟨e.recast bare, defaults⟩ box = (componentBody ⟨e, defaults⟩ box).map bared := by
  simp only [componentBody,Element.recast_tag,image_recast,divider_recast,spacer_recast]
  split
  · next tag => exact textBlock_bare tag
  · next tag => exact button_bare tag
  · simp [image]
  · simp [divider]
  · simp [spacer]
  · next tag => exact table_bare tag
  · rfl

private theorem component_bare (e : Element) (container : Float) :
    component defaults (e.recast bare) container = (component defaults e container).map bared := by
  by_cases isRaw : e.tag = .raw
  · simp [component,bare,isRaw,Tag.isFilling]
  · simp [component,componentCell,componentBox,isRaw,componentBody_bare]

private theorem flatMap_bare (e : Element) {set : Element → List Fragment}
    (each : ∀ child, set (child.recast bare) = (set child).map bared) :
    (e.recast bare).children.flatMap set = (e.children.flatMap set).map bared := by
  rw [Element.recast_children,List.flatMap_map,List.map_flatMap]
  exact List.flatMap_congr fun child _ => each child

private theorem column_bare (e : Element) (container : Float) (siblings : Nat) :
    column defaults (e.recast bare) container siblings = (column defaults e container siblings).map bared := by
  unfold column columnComment columnDivision
  simp only [columnWidth_recast,horizontalPadding_recast,columnFrames_recast,getD_recast,filled?_recast]
  rw [flatMap_bare e fun child => component_bare child _]
  simp

private theorem columns_bare (e : Element) (container : Float) :
    columns defaults (e.recast bare) container = (columns defaults e container).map bared := by
  simp only [columns,columnCount_recast]
  rw [flatMap_bare e]
  · simp
  · intro child
    rw [Element.recast_tag]
    split
    · exact column_bare child container _
    · next tag => exact raw_bare tag
    · rfl

private theorem map_bared_bandFrame (s : Styled) (container : Float) (inside : List Fragment) :
    (bandFrame s container inside).map bared = bandFrame s container (inside.map bared) := by
  simp only [bandFrame]
  split <;> simp

private theorem band_bare (e : Element) (container : Float) :
    band defaults (e.recast bare) container = (band defaults e container).map bared := by
  simp [band,columns_bare,map_bared_bandFrame]

private theorem wrapper_bare (e : Element) (container : Float) :
    wrapper defaults (e.recast bare) container = (wrapper defaults e container).map bared := by
  simp only [wrapper,horizontalPadding_recast,bandFrame_recast]
  rw [flatMap_bare e,map_bared_bandFrame]
  intro child
  rw [Element.recast_tag]
  split
  · exact band_bare child _
  · next tag => exact raw_bare tag
  · rfl

private theorem bodyContent_bare (e : Element) : bodyContent defaults (e.recast bare) = (bodyContent defaults e).map bared := by
  simp only [bodyContent,bodyWidth_recast]
  refine flatMap_bare e fun child => ?_
  rw [Element.recast_tag]
  split
  · exact band_bare child _
  · exact wrapper_bare child _
  · next tag => exact raw_bare tag
  · rfl

private theorem bodyPart_bare (defaults : Defaults) (body : Option Element) (preview language : String) :
    bodyPart defaults (body.map (Element.recast bare)) preview language =
      bared (bodyPart defaults body preview language) := by
  cases body with
  | none => rfl
  | some body =>
    have hidden : (previewText preview).map bared = previewText preview := by
      unfold previewText
      split <;> rfl
    simp [bodyPart,bodyOpening,bodyDivision,bodyContent_bare,hidden]

@[simp] theorem add_recast (defaults : Defaults) (entry : Element) :
    defaults.add (entry.recast rewrite) = defaults.add entry := by
  simp [Defaults.add]

@[simp] theorem ofHead_recast (head : Option Element) :
    Defaults.ofHead (head.map (Element.recast rewrite)) = Defaults.ofHead head := by
  cases head with
  | none => rfl
  | some head =>
    have entries : Defaults.entries (some (head.recast rewrite)) =
        (Defaults.entries (some head)).map (Element.recast rewrite) := by
      simp [Defaults.entries,List.filter_map,List.flatMap_map,List.map_flatMap,Function.comp_def]
    simp [Defaults.ofHead,entries,List.foldl_map]

def HeadMatter.bared (matter : HeadMatter) : HeadMatter := { matter with raw := matter.raw.map mark }

private theorem HeadMatter.add_bare (matter : HeadMatter) (child : Element) :
    matter.bared.add (child.recast bare) = (matter.add child).bared := by
  unfold HeadMatter.add
  simp only [Element.recast_tag,Element.recast_attribute?,Element.recast_content]
  split
  · next tag => simp [HeadMatter.bared,bare,tag,Tag.isFilling]
  · next tag => simp [HeadMatter.bared,bare,tag,Tag.isFilling]
  · rfl
  · split <;> rfl
  · next tag => simp [HeadMatter.bared,bare,tag,Tag.isFilling]
  · next tag => simp [HeadMatter.bared,bare,tag,Tag.isFilling]
  · rfl

private theorem HeadMatter.ofHead_bare (head : Option Element) :
    HeadMatter.ofHead (head.map (Element.recast bare)) = (HeadMatter.ofHead head).bared := by
  have folded (children : List Element) (matter : HeadMatter) :
      (children.map (Element.recast bare)).foldl HeadMatter.add matter.bared =
        (children.foldl HeadMatter.add matter).bared := by
    induction children generalizing matter with
    | nil => rfl
    | cons child rest ih => rw [List.map_cons,List.foldl_cons,List.foldl_cons,HeadMatter.add_bare,ih]
  cases head with
  | none => rfl
  | some head =>
    rw [Option.map_some,HeadMatter.ofHead,Element.recast_children]
    exact folded head.children HeadMatter.initial

def bodyOf (root : Element) : Fragment :=
  bodyPart (Defaults.ofHead (root.child? .head)) (root.child? .body) (HeadMatter.ofHead (root.child? .head)).preview
    (languageOf root)

theorem bodyOf_bare (root : Element) : bodyOf (root.recast bare) = (bodyOf root).bared := by
  simp [bodyOf,languageOf,HeadMatter.ofHead_bare,bodyPart_bare,HeadMatter.bared]

end Letterpress.Html
