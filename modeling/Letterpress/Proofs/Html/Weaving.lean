import Letterpress.Compile
import Letterpress.Proofs.Html.Bare
import Letterpress.Proofs.Html.Neighbours

/-! The text of a page as scaffold woven with content. The stretches of scaffold do not depend on what the content between them
is, but only on where there is some. -/
namespace Letterpress.Html
open Letterpress.Markup Letterpress.Text

/-- Stretches of scaffold with a piece of content behind each but the last. -/
def weave : List (List Char) → List (List Char) → List Char
  | stretch :: scaffold, piece :: pieces => stretch ++ (piece ++ weave scaffold pieces)
  | scaffold, _ => scaffold.flatten

def Leaf.text (setContent : String → List Char) : Leaf → List Char
  | scaffold html => html.toList
  | content raw => setContent raw

def Leaf.bared : Leaf → Leaf
  | scaffold html => .scaffold html
  | content raw => .content (Markup.mark raw)

/-- The stretches of scaffold before, between and behind the contents. -/
def between : List Leaf → List (List Char)
  | [] => [[]]
  | .scaffold html :: rest => (between rest).modifyHead (html.toList ++ ·)
  | .content _ :: rest => [] :: between rest

private theorem length_between (leaves : List Leaf) :
    (between leaves).length = (leaves.filterMap Leaf.content?).length + 1 := by
  induction leaves with
  | nil => rfl
  | cons leaf rest ih => cases leaf <;> simp [between,Leaf.content?,List.filterMap_cons,ih]

private theorem weave_between (setContent : String → List Char) (leaves : List Leaf) :
    weave (between leaves) ((leaves.filterMap Leaf.content?).map setContent) = leaves.flatMap (Leaf.text setContent) := by
  have extended (stretch : List Char) (scaffold pieces : List (List Char)) (filled : scaffold ≠ []) :
      weave (scaffold.modifyHead (stretch ++ ·)) pieces = stretch ++ weave scaffold pieces := by
    obtain ⟨first,later,rfl⟩ := List.exists_cons_of_ne_nil filled
    cases pieces <;> simp [weave]
  induction leaves with
  | nil => rfl
  | cons leaf rest ih =>
    cases leaf with
    | scaffold html =>
      have filled : between rest ≠ [] := List.ne_nil_of_length_eq_add_one (length_between rest)
      rw [between,extended _ _ _ filled,List.flatMap_cons,← ih]
      rfl
    | content raw =>
      rw [List.flatMap_cons,← ih]
      rfl

private theorem between_map_bared (leaves : List Leaf) : between (leaves.map Leaf.bared) = between leaves := by
  induction leaves with
  | nil => rfl
  | cons leaf rest ih => cases leaf <;> simp [between,Leaf.bared,ih]

/-- What becomes of content in a page. -/
def Layout.setContent (layout : Layout) (raw : String) : List Char :=
  match layout with
  | .indented => raw.toList
  | .minified => collapseChars raw.toList

/-- The text of fragments that stand inside `depth` blocks. -/
def Layout.text (layout : Layout) (depth : Nat) (fragments : List Fragment) : List Char :=
  match layout with
  | .indented => ("\n".intercalate (Fragment.allLines depth fragments)).toList
  | .minified => (Fragment.allJoined fragments).toList

private theorem toList_set (layout : Layout) (page : List Fragment) : (layout.set page).toList = layout.text 0 page := by
  cases layout <;> rfl

namespace Fragment

mutual
private theorem placed_bared (depth : Nat) (fragment : Fragment) :
    placed depth fragment.bared = (placed depth fragment).map (Prod.map id Leaf.bared) := by
  cases fragment with
  | line html => rfl
  | content raw => rfl
  | block opening inside closing =>
    have within := allPlaced_bared (depth + 1) inside
    simp [placed,Leaf.bared,within]

private theorem allPlaced_bared (depth : Nat) (fragments : List Fragment) :
    allPlaced depth (fragments.map bared) = (allPlaced depth fragments).map (Prod.map id Leaf.bared) := by
  cases fragments with
  | nil => rfl
  | cons fragment rest =>
    have first := placed_bared depth fragment
    have later := allPlaced_bared depth rest
    simp [allPlaced,first,later]
end

end Fragment

/-- A line as leaves: its indent, and what stands behind it. -/
def lineLeaves (place : Nat × Leaf) : List Leaf := [.scaffold (Fragment.indent place.1 ""), place.2]

def joinLines : List (List Leaf) → List Leaf
  | [] => []
  | first :: others => first ++ others.flatMap (.scaffold "\n" :: ·)

/-- The leaves that the text of fragments is made of, with breaks and indents among them. -/
def Layout.leaves (layout : Layout) (depth : Nat) (fragments : List Fragment) : List Leaf :=
  match layout with
  | .indented => joinLines (((Fragment.allPlaced depth fragments).filter (·.2.isShown)).map lineLeaves)
  | .minified => shown fragments

private theorem contents_joinLines (lines : List (List Leaf)) :
    (joinLines lines).filterMap Leaf.content? = lines.flatMap (·.filterMap Leaf.content?) := by
  cases lines with
  | nil => rfl
  | cons first others => simp [joinLines,Leaf.content?,List.filterMap_flatMap,List.filterMap_cons]

private theorem map_bared_joinLines (lines : List (List Leaf)) :
    (joinLines lines).map Leaf.bared = joinLines (lines.map (·.map Leaf.bared)) := by
  cases lines with
  | nil => rfl
  | cons first others => simp [joinLines,Leaf.bared,List.map_flatMap,List.flatMap_map]

private theorem text_joinLines (lines : List (List Leaf)) :
    (joinLines lines).flatMap (Leaf.text String.toList) =
      ['\n'].intercalate (lines.map (·.flatMap (Leaf.text String.toList))) := by
  cases lines with
  | nil => rfl
  | cons first others => simp [joinLines,intercalate_cons,Leaf.text,List.flatMap_assoc,List.flatMap_map]

private theorem isShown_bared (leaf : Leaf) : leaf.bared.isShown = leaf.isShown := by
  cases leaf with
  | scaffold html => rfl
  | content raw => cases blank : raw.isEmpty <;> simp [Leaf.bared,Leaf.isShown,Markup.mark,blank]

theorem shown_placed (depth : Nat) (fragments : List Fragment) :
    ((Fragment.allPlaced depth fragments).filter (·.2.isShown)).map (·.2) = shown fragments := by
  rw [shown,← Fragment.leaves_allPlaced depth,List.filter_map]
  rfl

section Layouts
variable (layout : Layout) (depth : Nat) (fragments : List Fragment)

/-- All content that is not empty is among the leaves, in order. -/
theorem contents_leaves :
    (layout.leaves depth fragments).filterMap Leaf.content? = (Fragment.contents fragments).filter (!·.isEmpty) := by
  have written : ((Fragment.allPlaced depth fragments).filter (·.2.isShown)).filterMap (·.2.content?) =
      (Fragment.contents fragments).filter (!·.isEmpty) := by
    rw [Fragment.contents,← Fragment.leaves_allPlaced depth fragments,List.filterMap_filter,List.filterMap_map,
      List.filter_filterMap]
    refine List.filterMap_congr fun place _ => ?_
    obtain ⟨depth,leaf⟩ := place
    cases leaf <;> simp [Leaf.isShown,Leaf.content?,Option.filter]
  cases layout with
  | indented =>
    have line (place : Nat × Leaf) : (lineLeaves place).filterMap Leaf.content? = place.2.content?.toList := by
      obtain ⟨depth,leaf⟩ := place
      cases leaf <;> rfl
    rw [Layout.leaves,contents_joinLines,List.flatMap_map,← written,List.filterMap_eq_flatMap_toList]
    simp only [line]
  | minified =>
    rw [Layout.leaves,← shown_placed depth,List.filterMap_map,← written]
    rfl

private theorem leaves_bared :
    layout.leaves depth (fragments.map Fragment.bared) = (layout.leaves depth fragments).map Leaf.bared := by
  have placed : (Fragment.allPlaced depth (fragments.map Fragment.bared)).filter (·.2.isShown) =
      ((Fragment.allPlaced depth fragments).filter (·.2.isShown)).map (Prod.map id Leaf.bared) := by
    rw [Fragment.allPlaced_bared,List.filter_map]
    simp only [Function.comp_def,Prod.map_snd,isShown_bared]
  cases layout with
  | indented =>
    rw [Layout.leaves,Layout.leaves,placed,map_bared_joinLines,List.map_map,List.map_map]
    rfl
  | minified =>
    rw [Layout.leaves,Layout.leaves,← shown_placed depth,← shown_placed depth,placed,List.map_map,List.map_map]
    rfl

private theorem Layout.text_eq (trimmed : ∀ raw ∈ Fragment.contents fragments, IsTrimmed raw.toList) :
    layout.text depth fragments = (layout.leaves depth fragments).flatMap (Leaf.text layout.setContent) := by
  cases layout with
  | indented =>
    have line (place : Nat × Leaf) :
        (lineLeaves place).flatMap (Leaf.text String.toList) = (Fragment.indent place.1 place.2.written).toList := by
      obtain ⟨depth,leaf⟩ := place
      cases leaf <;> simp [lineLeaves,Leaf.text,Leaf.written,Fragment.indent]
    have same := text_joinLines (((Fragment.allPlaced depth fragments).filter (·.2.isShown)).map lineLeaves)
    rw [List.map_map] at same
    rw [Layout.text,Layout.leaves,Fragment.allLines_eq,String.toList_intercalate,List.map_map]
    refine Eq.trans ?_ same.symm
    refine congrArg (List.intercalate ['\n']) (List.map_congr_left fun place _ => ?_)
    exact (line place).symm
  | minified =>
    rw [Layout.text,Layout.leaves,Fragment.toList_allJoined,← flatMap_minified_shown]
    refine List.flatMap_congr fun leaf member => ?_
    cases leaf with
    | scaffold html => rfl
    | content raw =>
      have listed := Fragment.content_mem_allLeaves_iff.mp (List.mem_of_mem_filter member)
      exact minified_content (trimmed raw listed)

end Layouts

theorem setContent_isInfix (layout : Layout) {raw : String} {fragments : List Fragment}
    (member : raw ∈ Fragment.contents fragments) (trimmed : IsTrimmed raw.toList) :
    layout.setContent raw <:+: (layout.set fragments).toList := by
  cases layout with
  | indented => exact Fragment.indented_isInfix member
  | minified =>
    have stretch := Fragment.minified_isInfix member
    rwa [minified_content trimmed] at stretch

/-- The body stands in the text of a page in one stretch. -/
theorem text_body_isInfix (layout : Layout) (root : Markup.Element) :
    layout.text 1 [bodyOf root] <:+: (layout.set (page root)).toList := by
  obtain ⟨head,opening,parts⟩ : ∃ head opening,
      page root = [.line "<!doctype html>", .block opening [head, bodyOf root] "</html>"] := ⟨_,_,rfl⟩
  rw [toList_set,parts]
  cases layout with
  | indented =>
    rw [Layout.text,Layout.text,String.toList_intercalate,String.toList_intercalate]
    refine intercalate_isInfix (List.IsInfix.map String.toList ⟨Fragment.indent 0 "<!doctype html>" ::
      Fragment.indent 0 opening :: Fragment.lines 1 head,[Fragment.indent 0 "</html>"],?_⟩)
    simp only [Fragment.allLines,Fragment.lines,List.append_nil,List.cons_append,List.nil_append,List.append_assoc]
  | minified =>
    refine ⟨"<!doctype html>".toList ++ (opening.toList ++ (Fragment.joined head).toList),"</html>".toList,?_⟩
    simp only [Layout.text,Fragment.allJoined,Fragment.joined,String.toList_append,List.append_assoc,
      String.append_empty]

variable {source : List Char} {root body e : Element} {above : List Element} {holder : Option Tag}

/-- The contents in the body of a document, in order, but for those that are empty. -/
def bodyContents (root : Element) : List String :=
  (((root.child? .body).map Element.contents).getD []).filter (!·.isEmpty)

/-- The stretches of scaffold in the body of the page. -/
def bodyScaffold (layout : Layout) (root : Element) : List (List Char) := between (layout.leaves 1 [bodyOf root])

private theorem verbatim_of_stands (made : body.Assembled source holder) (isBody : body.tag = .body)
    (stands : Element.Stands body above e) : e.tag.isVerbatim = e.tag.isFilling := by
  have kind := made.isBox_or_raw isBody stands
  rcases kind with box | raw
  · revert box
    cases e.tag <;> decide
  · rw [raw]
    rfl

private theorem contents_bodyOf (made : root.Assembled source none) :
    Fragment.contents [bodyOf root] = ((root.child? .body).map Element.contents).getD [] := by
  have isDocument : root.tag = .document := made.own.fits
  have body : ∀ e ∈ root.child? .body, e.tag = .body ∧ e.Assembled source (some .document) := fun e found => by
    obtain ⟨isBody,member⟩ := tag_of_child? found
    exact ⟨isBody,isDocument ▸ made.inside member⟩
  exact contents_bodyPart _ _ _ body

/-- The text of a body is woven from scaffold and all of its contents: those of texts, buttons, tables and raw elements, each
once and in order. The scaffold is the same for every document that has other contents in the same places. -/
theorem body_is_woven (layout : Layout) (source : String) (root : Element) (read : Element.ofSource source.toList = .ok root) :
    layout.text 1 [bodyOf root] <:+: (layout.set (page root)).toList ∧
    (∀ body ∈ root.child? .body, ∀ above e, Element.Stands body above e → e.tag.isVerbatim = e.tag.isFilling) ∧
    layout.text 1 [bodyOf root] = weave (bodyScaffold layout root) ((bodyContents root).map layout.setContent) ∧
    (bodyScaffold layout root).length = (bodyContents root).length + 1 ∧
    ∀ other : Element, other.recast bare = root.recast bare → bodyScaffold layout other = bodyScaffold layout root := by
  have made := assembled_of_source read
  have contents : Fragment.contents [bodyOf root] = ((root.child? .body).map Element.contents).getD [] := contents_bodyOf made
  have trimmed : ∀ raw ∈ Fragment.contents [bodyOf root], IsTrimmed raw.toList := fun raw member => by
    have taken := of_mem_contents_page made (contents_page made ▸ List.mem_append_right _ (contents ▸ member))
    obtain ⟨holder,e,own,rfl⟩ := taken
    exact own.isTrimmed
  have filled : (layout.leaves 1 [bodyOf root]).filterMap Leaf.content? = bodyContents root := by
    rw [contents_leaves,contents]
    rfl
  refine ⟨text_body_isInfix layout root,fun body found above e stands => ?_,?_,?_,fun other same => ?_⟩
  · obtain ⟨isBody,member⟩ := tag_of_child? found
    exact verbatim_of_stands (made.inside member) isBody stands
  · rw [Layout.text_eq layout 1 _ trimmed,bodyScaffold,← filled,weave_between]
  · rw [bodyScaffold,length_between,filled]
  · have bared (root : Element) : bodyScaffold layout (root.recast bare) = bodyScaffold layout root := by
      rw [bodyScaffold,bodyOf_bare,← List.map_singleton (f := Fragment.bared),leaves_bared,between_map_bared,bodyScaffold]
    rw [← bared other,same,bared]

def pairDocument (first second : String) : Element :=
  ⟨.document, [], [⟨.body, [], [⟨.raw, [], [], first, 15⟩, ⟨.raw, [], [], second, 33⟩], "", 6⟩], "", 0⟩

def pairSource : String := "<mjml><mj-body><mj-raw>a</mj-raw><mj-raw>b  c</mj-raw></mj-body></mjml>"

private theorem ofSource_pairSource : Element.ofSource pairSource.toList = .ok (pairDocument "a" "b  c") := by
  with_unfolding_all rfl

theorem body_is_woven_of_pair : Element.ofSource pairSource.toList = .ok (pairDocument "a" "b  c") ∧
    Layout.minified.text 1 [bodyOf (pairDocument "a" "b  c")] = weave (bodyScaffold .minified (pairDocument "a" "b  c"))
      [Layout.minified.setContent "a", Layout.minified.setContent "b  c"] ∧
    bodyScaffold .minified (pairDocument "d" "e") = bodyScaffold .minified (pairDocument "a" "b  c") := by
  have woven := body_is_woven .minified pairSource (pairDocument "a" "b  c") ofSource_pairSource
  exact ⟨ofSource_pairSource,woven.2.2.1,woven.2.2.2.2 (pairDocument "d" "e") rfl⟩

end Letterpress.Html
