import Letterpress.Proofs.Html.Neighbours

/-! Which content of a document comes to stand side by side in its page: raw content with the same parent. In the body it has
nothing between it that leaves a trace; of a head, the raw content is gathered whatever stands between it. -/
namespace Letterpress.Markup.Element

/-- The children of an element that leave a trace between its raw content, and that content, in order. -/
def row (e : Element) : List Element :=
  e.children.filter fun child => if child.tag = .raw then !child.content.isEmpty else e.tag ≠ .head

/-- Whatever raw content inside an element comes to stand side by side may meet. -/
def KeepsApart (e : Element) : Prop :=
  e.row.IsChain fun first second =>
    first.tag = .raw → second.tag = .raw → Html.MayMeet first.content second.content

theorem keepsApart_of_childless {e : Element} (childless : e.children = []) : e.Everywhere KeepsApart := by
  refine everywhere_iff.mpr ⟨?_,fun child member => ?_⟩
  · rw [KeepsApart,row,childless]
    exact .nil
  · rw [childless] at member
    contradiction

end Letterpress.Markup.Element

namespace Letterpress.Html
open Letterpress.Markup Fragment

variable {e root : Element} {defaults : Defaults} {s : Styled} {source : List Char} {holder : Option Tag}
  {inside : List Fragment}

private theorem isChain_flatMap_iff {α β : Type} {R : β → β → Prop} {xs : List α} {f : α → List β}
    (filled : ∀ x ∈ xs, f x ≠ []) : (xs.flatMap f).IsChain R ↔
      (∀ x ∈ xs, (f x).IsChain R) ∧ xs.IsChain fun x y => ∀ a ∈ (f x).getLast?, ∀ b ∈ (f y).head?, R a b := by
  have bare : [] ∉ xs.map f := by
    intro member
    obtain ⟨x,listed,empty⟩ := List.mem_map.mp member
    exact filled x listed empty
  rw [List.flatMap_def,List.isChain_flatten bare,List.isChain_map,List.forall_mem_map]

private theorem isChain_congr {α : Type} {R S : α → α → Prop} {xs : List α} (same : ∀ x ∈ xs, ∀ y ∈ xs, (R x y ↔ S x y)) :
    xs.IsChain R ↔ xs.IsChain S :=
  ⟨List.IsChain.imp_of_mem_imp fun x y left right => (same x left y right).mp,
    List.IsChain.imp_of_mem_imp fun x y left right => (same x left y right).mpr⟩

section Children
variable {set : Element → List Fragment}

private theorem trace_of_mem_row (raws : ∀ child ∈ e.children, child.tag = .raw → set child = [.content child.content])
    (others : ∀ child ∈ e.children, child.tag ≠ .raw → Closed (set child)) (child : Element) (member : child ∈ e.row) :
    (child.tag = .raw ∧ shown (set child) = [.content child.content]) ∨ (child.tag ≠ .raw ∧ Closed (set child)) := by
  obtain ⟨within,kept⟩ := List.mem_filter.mp member
  by_cases isRaw : child.tag = .raw
  · have filled : child.content ≠ "" := by simpa [isRaw] using kept
    exact .inl ⟨isRaw,by rw [raws child within isRaw,shown_content filled]⟩
  · exact .inr ⟨isRaw,others child within isRaw⟩

private theorem shown_children (elsewhere : e.tag ≠ .head)
    (raws : ∀ child ∈ e.children, child.tag = .raw → set child = [.content child.content]) :
    shown (e.children.flatMap set) = e.row.flatMap fun child => shown (set child) := by
  rw [shown_flatMap]
  refine (flatMap_filter fun child member hidden => ?_).symm
  by_cases isRaw : child.tag = .raw
  · have empty : child.content = "" := by simpa [isRaw] using hidden
    rw [raws child member isRaw,empty,shown_content_empty]
  · simp [isRaw,elsewhere] at hidden

/-- Where all but raw content is closed, the children of an element are parted if each is, and the raw content is kept
apart. -/
theorem parted_children_iff (elsewhere : e.tag ≠ .head)
    (raws : ∀ child ∈ e.children, child.tag = .raw → set child = [.content child.content])
    (others : ∀ child ∈ e.children, child.tag ≠ .raw → Closed (set child)) :
    Parted (e.children.flatMap set) ↔ e.KeepsApart ∧ ∀ child ∈ e.children, child.tag ≠ .raw → Parted (set child) := by
  have trace := trace_of_mem_row raws others
  unfold Parted
  rw [shown_children elsewhere raws,isChain_flatMap_iff,and_comm]
  · -- where one of two neighbours is not raw content, scaffold of its own is what meets the other
    refine and_congr (isChain_congr fun first left second right => ?_)
      ⟨fun each child member other => ?_,fun each child member => ?_⟩
    · rcases trace first left with ⟨firstRaw,alone⟩ | ⟨other,closed⟩
      · rcases trace second right with ⟨secondRaw,single⟩ | ⟨other,closed⟩
        · rw [alone,single]
          simp [firstRaw,secondRaw,Leaf.MayMeet]
        · obtain ⟨html,beginning⟩ := closed.first
          refine iff_of_true (fun leaf _ next begins => ?_) fun _ isRaw => absurd isRaw other
          obtain rfl := Option.mem_unique begins beginning
          exact mayMeet_scaffold
      · obtain ⟨html,ending⟩ := closed.last
        refine iff_of_true (fun leaf last next _ => ?_) fun isRaw => absurd isRaw other
        obtain rfl := Option.mem_unique last ending
        exact scaffold_mayMeet
    · exact each child (List.mem_filter.mpr ⟨member,by simp [other,elsewhere]⟩)
    · rcases trace child member with ⟨_,alone⟩ | ⟨other,_⟩
      · rw [alone]
        exact .singleton _
      · exact each child (List.mem_of_mem_filter member) other
  · intro child member empty
    rcases trace child member with ⟨_,alone⟩ | ⟨_,closed⟩
    · rw [alone] at empty
      contradiction
    · obtain ⟨html,first⟩ := closed.first
      rw [empty] at first
      contradiction

private theorem parted_inside_iff (made : e.Assembled source holder) (elsewhere : e.tag ≠ .head)
    (raws : ∀ child ∈ e.children, child.tag = .raw → set child = [.content child.content])
    (others : ∀ child ∈ e.children, child.tag ≠ .raw →
      Closed (set child) ∧ (Parted (set child) ↔ child.Everywhere Element.KeepsApart)) :
    Parted (e.children.flatMap set) ↔ e.Everywhere Element.KeepsApart := by
  rw [parted_children_iff elsewhere raws fun child member other => (others child member other).1,Element.everywhere_iff]
  refine and_congr_right fun _ => forall₂_congr fun child member => ?_
  by_cases isRaw : child.tag = .raw
  · have childless : child.children = [] := Element.Assembled.childless (made.inside member) (by rw [isRaw]; rfl)
    exact iff_of_true (fun other => absurd isRaw other) (Element.keepsApart_of_childless childless)
  · rw [forall_prop_of_true isRaw,(others child member isRaw).2]

end Children

private theorem parted_componentBody (s : Styled) (box : Float) : Parted (componentBody s box) := by
  unfold componentBody
  split
  · exact parted_block_iff.mpr (parted_content _)
  · exact parted_nest_iff.mpr (parted_content _)
  · exact parted_nest_iff.mpr (parted_line _)
  · exact (closed_line _).append_parted_iff.mpr ⟨parted_line _,parted_line _⟩
  · exact parted_line _
  · exact parted_block_iff.mpr (parted_content _)
  · exact .nil

private theorem component_of_raw (container : Float) (isRaw : e.tag = .raw) :
    component defaults e container = [.content e.content] := by
  rw [component,if_pos isRaw]

private theorem parted_component (container : Float) : Parted (component defaults e container) := by
  unfold component
  split
  · exact parted_content _
  · exact parted_nest_iff.mpr (parted_componentBody _ _)

private theorem closed_component (container : Float) (other : e.tag ≠ .raw) : Closed (component defaults e container) := by
  rw [component,if_neg other]
  exact closed_nest _ _ _

private theorem closed_column (container : Float) (siblings : Nat) : Closed (column defaults e container siblings) :=
  closed_between _ _ _

private theorem parted_column_iff (container : Float) (siblings : Nat) (isColumn : e.tag = .column)
    (made : e.Assembled source holder) :
    Parted (column defaults e container siblings) ↔ e.Everywhere Element.KeepsApart := by
  refine parted_between_iff.trans (parted_nest_iff.trans (parted_inside_iff made (by rw [isColumn]; decide) ?_ ?_))
  · exact fun child _ isRaw => component_of_raw _ isRaw
  · intro child member other
    have leaf : child.tag.children = [] := by
      have fits : child.tag ∈ Tag.column.children := isColumn ▸ (made.inside member).own.fits
      simp only [Tag.children,List.mem_cons,List.not_mem_nil,or_false] at fits
      rcases fits with tag | tag | tag | tag | tag | tag | tag <;> rw [tag] <;> rfl
    have childless := Element.Assembled.childless (made.inside member) leaf
    exact ⟨closed_component _ other,iff_of_true (parted_component _) (Element.keepsApart_of_childless childless)⟩

private theorem parted_columns_iff (container : Float) (isBand : e.tag = .band) (made : e.Assembled source holder) :
    Parted (columns defaults e container) ↔ e.Everywhere Element.KeepsApart := by
  refine parted_between_iff.trans (parted_inside_iff made (by rw [isBand]; decide) ?_ ?_)
  · intro child member isRaw
    simp only [isRaw]
  · intro child member other
    have fits : child.tag ∈ Tag.band.children := isBand ▸ (made.inside member).own.fits
    simp only [Tag.children,List.mem_cons,List.not_mem_nil,or_false,other] at fits
    simp only [fits]
    exact ⟨closed_column _ _,parted_column_iff _ _ fits (made.inside member)⟩

private theorem closed_bandFrame (container : Float) : Closed (bandFrame s container inside) := by
  unfold bandFrame
  dsimp only
  split
  · exact closed_nest _ _ _
  · exact closed_between _ _ _

private theorem parted_bandFrame_iff (container : Float) : Parted (bandFrame s container inside) ↔ Parted inside := by
  unfold bandFrame
  dsimp only
  split
  · exact parted_nest_iff.trans (parted_between_iff.trans parted_nest_iff)
  · exact parted_between_iff.trans parted_nest_iff

private theorem closed_band (container : Float) : Closed (band defaults e container) := closed_bandFrame container

private theorem parted_band_iff (container : Float) (isBand : e.tag = .band) (made : e.Assembled source holder) :
    Parted (band defaults e container) ↔ e.Everywhere Element.KeepsApart :=
  (parted_bandFrame_iff container).trans (parted_columns_iff _ isBand made)

private theorem closed_wrapper (container : Float) : Closed (wrapper defaults e container) := closed_bandFrame container

private theorem parted_wrapper_iff (container : Float) (isWrapper : e.tag = .wrapper) (made : e.Assembled source holder) :
    Parted (wrapper defaults e container) ↔ e.Everywhere Element.KeepsApart := by
  refine (parted_bandFrame_iff container).trans (parted_inside_iff made (by rw [isWrapper]; decide) ?_ ?_)
  · intro child member isRaw
    simp only [isRaw]
  · intro child member other
    have fits : child.tag ∈ Tag.wrapper.children := isWrapper ▸ (made.inside member).own.fits
    simp only [Tag.children,List.mem_cons,List.not_mem_nil,or_false,other] at fits
    simp only [fits]
    exact ⟨closed_band _,parted_band_iff _ fits (made.inside member)⟩

private theorem parted_bodyContent_iff (isBody : e.tag = .body) (made : e.Assembled source holder) :
    Parted (bodyContent defaults e) ↔ e.Everywhere Element.KeepsApart := by
  refine parted_inside_iff made (by rw [isBody]; decide) ?_ ?_
  · intro child member isRaw
    simp only [isRaw]
  · intro child member other
    have fits : child.tag ∈ Tag.body.children := isBody ▸ (made.inside member).own.fits
    simp only [Tag.children,List.mem_cons,List.not_mem_nil,or_false,other] at fits
    rcases fits with isWrapper | isBand
    · simp only [isWrapper]
      exact ⟨closed_wrapper _,parted_wrapper_iff _ isWrapper (made.inside member)⟩
    · simp only [isBand]
      exact ⟨closed_band _,parted_band_iff _ isBand (made.inside member)⟩

private theorem parted_append_iff_of_bare {more : List Fragment} (bare : contents inside = []) :
    Parted (inside ++ more) ↔ Parted more := by
  have scaffold : ∀ leaf ∈ shown inside, ∃ html, leaf = .scaffold html := by
    intro leaf member
    cases leaf with
    | scaffold html => exact ⟨html,rfl⟩
    | content raw =>
      have within := content_mem_allLeaves_iff.mp (List.mem_of_mem_filter member)
      rw [bare] at within
      contradiction
  unfold Parted
  rw [shown_append]
  generalize shown inside = leaves at scaffold
  induction leaves with
  | nil => rfl
  | cons leaf rest ih =>
    obtain ⟨html,rfl⟩ := scaffold leaf List.mem_cons_self
    have later := ih fun other member => scaffold other (List.mem_cons_of_mem _ member)
    rw [List.cons_append,List.isChain_cons]
    exact (and_iff_right fun other _ => scaffold_mayMeet).trans later

private theorem parted_bodyPart_iff {body : Option Element} (preview language : String)
    (made : ∀ e ∈ body, e.tag = .body ∧ e.Assembled source (some .document)) :
    Parted [bodyPart defaults body preview language] ↔ ∀ e ∈ body, e.Everywhere Element.KeepsApart := by
  unfold bodyPart
  split
  · exact iff_of_true (parted_line _) fun e found => nomatch found
  · next body =>
    obtain ⟨isBody,within⟩ := made body rfl
    have hidden : contents (previewText preview) = [] := by
      unfold previewText
      split <;> rfl
    refine parted_block_iff.trans ((parted_append_iff_of_bare hidden).trans (parted_block_iff.trans ?_))
    rw [parted_bodyContent_iff isBody within]
    simp

private theorem shown_map_content (raws : List String) :
    shown (raws.map .content) = (raws.filter (!·.isEmpty)).map .content := by
  induction raws with
  | nil => rfl
  | cons raw rest ih =>
    have split := shown_append [.content raw] (rest.map .content)
    rw [List.singleton_append,ih] at split
    rw [List.map_cons,split]
    by_cases empty : raw = ""
    · rw [empty]
      rfl
    · rw [shown_content empty,List.filter_cons_of_pos (by simpa using empty)]
      rfl

private theorem parted_raws_iff (isHead : e.tag = .head) :
    Parted ((HeadMatter.ofHead (some e)).raw.map .content) ↔ e.KeepsApart := by
  have gathered : (HeadMatter.ofHead (some e)).raw.filter (!·.isEmpty) = e.row.map (·.content) := by
    rw [raw_ofHead,List.filter_map,List.filter_filter]
    congr 1
    refine List.filter_congr fun child _ => ?_
    by_cases isRaw : child.tag = .raw <;> simp [isRaw,isHead]
  have raws (child : Element) (member : child ∈ e.row) : child.tag = .raw := by
    by_contra other
    simpa [other,isHead] using (List.mem_filter.mp member).2
  unfold Parted
  rw [shown_map_content,gathered,List.isChain_map,List.isChain_map]
  refine isChain_congr fun first left second right => ?_
  rw [forall_prop_of_true (raws first left),forall_prop_of_true (raws second right)]
  rfl

private theorem closed_headPart (matter : HeadMatter) (rules : List (String × String)) : Closed [headPart matter rules] :=
  closed_block _ _ _

private theorem parted_headPart_iff (head : Option Element) (rules : List (String × String))
    (isHead : ∀ e ∈ head, e.tag = .head) :
    Parted [headPart (HeadMatter.ofHead head) rules] ↔ ∀ e ∈ head, e.KeepsApart := by
  obtain ⟨lines,bare,same⟩ := headPart_eq (HeadMatter.ofHead head) rules
  rw [same,parted_block_iff,parted_append_iff_of_bare bare]
  cases head with
  | none => exact iff_of_true .nil fun e found => nomatch found
  | some e =>
    rw [parted_raws_iff (isHead e rfl)]
    simp

/-- In a page comes to stand side by side what is side by side in the head, and in the elements of the body. -/
theorem parted_page_iff (made : root.Assembled source none) :
    Parted (page root) ↔ (∀ e ∈ root.child? .head, e.KeepsApart) ∧
      ∀ e ∈ root.child? .body, e.Everywhere Element.KeepsApart := by
  have isDocument : root.tag = .document := made.own.fits
  have isHead : ∀ e ∈ root.child? .head, e.tag = .head := fun e found => (tag_of_child? found).1
  have within : ∀ e ∈ root.child? .body, e.tag = .body ∧ e.Assembled source (some .document) := fun e found => by
    obtain ⟨isBody,member⟩ := tag_of_child? found
    exact ⟨isBody,isDocument ▸ made.inside member⟩
  change Parted ([.line _] ++ [.block _ ([headPart _ _] ++ [bodyPart _ _ _ _]) _]) ↔ _
  rw [(closed_line _).append_parted_iff,parted_block_iff,(closed_headPart _ _).append_parted_iff,
    parted_headPart_iff _ _ isHead,parted_bodyPart_iff _ _ within]
  exact and_iff_right (parted_line _)

end Letterpress.Html
