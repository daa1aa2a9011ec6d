import Letterpress.Html.Fragment
import Letterpress.Text.Blank
import Mathlib.Data.List.Forall2
import Mathlib.Data.List.Infix

/-! What the pieces of a page come down to: lines of scaffold, and the content between them. Content stands in the text of a
page in one stretch, as it is when the page is indented, and trimmed and collapsed when it is minified. -/
namespace Letterpress.Html

inductive Leaf
  | scaffold (html : String)
  | content (raw : String)

def Leaf.content? : Leaf → Option String
  | scaffold _ => none
  | content raw => some raw

def Leaf.minified : Leaf → List Char
  | scaffold html => html.toList
  | content raw => (collapse (Text.trim raw)).toList

def Leaf.written : Leaf → String
  | scaffold html => html
  | content raw => raw

/-- Empty content is no line. -/
def Leaf.isShown : Leaf → Bool
  | scaffold _ => true
  | content raw => !raw.isEmpty

/-- A line of an indented page is what a leaf has to say, somewhere behind its indent. -/
def Leaf.Shows (line : String) (leaf : Leaf) : Prop := ∃ depth, line = Fragment.indent depth leaf.written

private theorem exists_left_of_forall₂ {α β : Type} {R : α → β → Prop} {xs : List α} {ys : List β}
    (related : List.Forall₂ R xs ys) {y : β} (member : y ∈ ys) : ∃ x ∈ xs, R x y := by
  induction related with
  | nil => contradiction
  | @cons x first xs ys head tail ih =>
    rcases List.mem_cons.mp member with rfl | later
    · exact ⟨x,List.mem_cons_self,head⟩
    · obtain ⟨other,found,relation⟩ := ih later
      exact ⟨other,List.mem_cons_of_mem x found,relation⟩

theorem exists_right_of_forall₂ {α β : Type} {R : α → β → Prop} {xs : List α} {ys : List β}
    (related : List.Forall₂ R xs ys) {x : α} (member : x ∈ xs) : ∃ y ∈ ys, R x y :=
  exists_left_of_forall₂ related.flip member

theorem intercalate_cons (separator first : List Char) (others : List (List Char)) :
    separator.intercalate (first :: others) = first ++ others.flatMap (separator ++ ·) := by
  induction others generalizing first with
  | nil => simp
  | cons second others ih => rw [List.intercalate_cons_cons,ih,List.flatMap_cons,List.append_assoc,List.append_assoc]

/-- Parts that follow each other stay together. -/
theorem intercalate_isInfix {separator : List Char} {parts all : List (List Char)} (within : parts <:+: all) :
    separator.intercalate parts <:+: separator.intercalate all := by
  obtain ⟨sooner,later,rfl⟩ := within
  cases parts with
  | nil => exact List.nil_infix
  | cons part parts =>
    induction sooner with
    | nil =>
      rw [List.nil_append,List.cons_append,intercalate_cons,intercalate_cons,List.flatMap_append,← List.append_assoc]
      exact (List.prefix_append _ _).isInfix
    | cons first sooner ih =>
      have step : separator.intercalate (first :: sooner ++ part :: parts ++ later) =
          first ++ separator ++ separator.intercalate (sooner ++ part :: parts ++ later) :=
        List.intercalate_cons_of_ne_nil (by simp)
      rw [step]
      exact ih.trans (List.suffix_append _ _).isInfix

theorem infix_intercalate {separator part : List Char} {parts : List (List Char)} (member : part ∈ parts) :
    part <:+: separator.intercalate parts := by
  obtain ⟨sooner,later,rfl⟩ := List.append_of_mem member
  have stretch : [part] <:+: sooner ++ part :: later := ⟨sooner,later,by simp⟩
  simpa using intercalate_isInfix stretch

namespace Fragment

mutual
/-- The leaves of a fragment in the order of the page. A block begins and ends with one. -/
def leaves : Fragment → List Leaf
  | line html => [.scaffold html]
  | content raw => [.content raw]
  | block opening inside closing => .scaffold opening :: allLeaves inside ++ [.scaffold closing]

def allLeaves : List Fragment → List Leaf
  | [] => []
  | fragment :: rest => leaves fragment ++ allLeaves rest
end

def contents (fragments : List Fragment) : List String := (allLeaves fragments).filterMap Leaf.content?

variable {α : Type} {raw html opening closing : String} {frames : List (String × String)} {fragment : Fragment}
  {inside fragments more : List Fragment} {depth : Nat}

theorem allLeaves_append (fragments more : List Fragment) :
    allLeaves (fragments ++ more) = allLeaves fragments ++ allLeaves more := by
  induction fragments with
  | nil => rfl
  | cons fragment rest ih => simp only [List.cons_append,allLeaves,ih,List.append_assoc]

theorem allLeaves_flatMap (f : α → List Fragment) (xs : List α) :
    allLeaves (xs.flatMap f) = xs.flatMap fun x => allLeaves (f x) := by
  induction xs with
  | nil => rfl
  | cons x rest ih => simp only [List.flatMap_cons,allLeaves_append,ih]

private theorem allLeaves_nest (frames : List (String × String)) (inside : List Fragment) :
    allLeaves (nest frames inside) =
      frames.map (.scaffold ·.1) ++ allLeaves inside ++ (frames.map (.scaffold ·.2)).reverse := by
  induction frames with
  | nil => simp [nest]
  | cons frame rest ih =>
    have step : nest (frame :: rest) inside = [block frame.1 (nest rest inside) frame.2] := rfl
    simp [step,allLeaves,leaves,ih]

theorem contents_append (fragments more : List Fragment) :
    contents (fragments ++ more) = contents fragments ++ contents more := by
  simp only [contents,allLeaves_append,List.filterMap_append]

theorem contents_flatMap (f : α → List Fragment) (xs : List α) :
    contents (xs.flatMap f) = xs.flatMap fun x => contents (f x) := by
  simp only [contents,allLeaves_flatMap,List.filterMap_flatMap]

theorem contents_nest (frames : List (String × String)) (inside : List Fragment) :
    contents (nest frames inside) = contents inside := by
  have bare (side : String × String → String) : (frames.map (Leaf.scaffold <| side ·)).filterMap Leaf.content? = [] := by
    simp [List.filterMap_eq_nil_iff,Leaf.content?]
  simp only [contents,allLeaves_nest,List.filterMap_append,List.filterMap_reverse,bare]
  simp

theorem contents_nil : contents [] = [] := rfl

theorem contents_line (html : String) (more : List Fragment) : contents (line html :: more) = contents more := rfl

theorem contents_content (raw : String) (more : List Fragment) :
    contents (content raw :: more) = raw :: contents more := rfl

theorem contents_block (opening closing : String) (inside more : List Fragment) :
    contents (block opening inside closing :: more) = contents inside ++ contents more := by
  simp [contents,allLeaves,leaves,Leaf.content?,List.filterMap_cons]

theorem content_mem_allLeaves_iff : Leaf.content raw ∈ allLeaves fragments ↔ raw ∈ contents fragments := by
  rw [contents,List.mem_filterMap]
  constructor
  · intro member
    exact ⟨_,member,rfl⟩
  · rintro ⟨leaf,member,same⟩
    cases leaf with
    | scaffold html => contradiction
    | content other =>
      cases same
      exact member

mutual
private theorem toList_joined (fragment : Fragment) : (joined fragment).toList = (leaves fragment).flatMap Leaf.minified := by
  cases fragment with
  | line html => simp [joined,leaves,Leaf.minified]
  | content raw => simp [joined,leaves,Leaf.minified]
  | block opening inside closing =>
    have within := toList_allJoined inside
    simp [joined,leaves,Leaf.minified,within]

theorem toList_allJoined (fragments : List Fragment) :
    (allJoined fragments).toList = (allLeaves fragments).flatMap Leaf.minified := by
  cases fragments with
  | nil => rfl
  | cons fragment rest =>
    have first := toList_joined fragment
    have later := toList_allJoined rest
    simp [allJoined,allLeaves,first,later]
end

theorem minified_isInfix (member : raw ∈ contents fragments) :
    (Leaf.content raw).minified <:+: (Layout.minified.set fragments).toList := by
  have leaf := content_mem_allLeaves_iff.mpr member
  change _ <:+: (allJoined fragments).toList
  rw [toList_allJoined]
  obtain ⟨before,after,parts⟩ := List.append_of_mem leaf
  refine ⟨before.flatMap Leaf.minified,after.flatMap Leaf.minified,?_⟩
  simp [parts,Leaf.minified]

mutual
/-- The leaves of a fragment inside `depth` blocks, each with the number of blocks around it. -/
def placed (depth : Nat) : Fragment → List (Nat × Leaf)
  | line html => [(depth, .scaffold html)]
  | content raw => [(depth, .content raw)]
  | block opening inside closing =>
    (depth, .scaffold opening) :: allPlaced (depth + 1) inside ++ [(depth, .scaffold closing)]

def allPlaced (depth : Nat) : List Fragment → List (Nat × Leaf)
  | [] => []
  | fragment :: rest => placed depth fragment ++ allPlaced depth rest
end

mutual
private theorem leaves_placed (depth : Nat) (fragment : Fragment) : (placed depth fragment).map (·.2) = leaves fragment := by
  cases fragment with
  | line html => rfl
  | content raw => rfl
  | block opening inside closing =>
    have within := leaves_allPlaced (depth + 1) inside
    simp [placed,leaves,within]

theorem leaves_allPlaced (depth : Nat) (fragments : List Fragment) :
    (allPlaced depth fragments).map (·.2) = allLeaves fragments := by
  cases fragments with
  | nil => rfl
  | cons fragment rest =>
    have first := leaves_placed depth fragment
    have later := leaves_allPlaced depth rest
    simp [allPlaced,allLeaves,first,later]
end

mutual
private theorem lines_eq (depth : Nat) (fragment : Fragment) :
    lines depth fragment =
      ((placed depth fragment).filter (·.2.isShown)).map fun (depth, leaf) => indent depth leaf.written := by
  cases fragment with
  | line html => rfl
  | content raw => cases blank : raw.isEmpty <;> simp [lines,placed,Leaf.isShown,Leaf.written,blank]
  | block opening inside closing =>
    have within := allLines_eq (depth + 1) inside
    simp [lines,placed,Leaf.isShown,Leaf.written,within]

theorem allLines_eq (depth : Nat) (fragments : List Fragment) :
    allLines depth fragments =
      ((allPlaced depth fragments).filter (·.2.isShown)).map fun (depth, leaf) => indent depth leaf.written := by
  cases fragments with
  | nil => rfl
  | cons fragment rest =>
    have first := lines_eq depth fragment
    have later := allLines_eq depth rest
    simp [allLines,allPlaced,first,later]
end

/-- The lines of a page are its leaves one by one, but for empty content. -/
theorem forall₂_allLines (depth : Nat) (fragments : List Fragment) :
    List.Forall₂ Leaf.Shows (allLines depth fragments) ((allLeaves fragments).filter Leaf.isShown) := by
  rw [allLines_eq,← leaves_allPlaced depth,List.filter_map,List.forall₂_map_left_iff,List.forall₂_map_right_iff]
  exact List.forall₂_same.mpr fun place _ => ⟨place.1,rfl⟩

private theorem shown_isInfix {leaf : Leaf} (shown : leaf ∈ (allLeaves fragments).filter Leaf.isShown) :
    leaf.written.toList <:+: (Layout.indented.set fragments).toList := by
  obtain ⟨line,found,depth,same⟩ := exists_left_of_forall₂ (forall₂_allLines 0 fragments) shown
  have stretch : leaf.written.toList <:+: line.toList := by
    rw [same,indent,String.toList_append]
    exact (List.suffix_append _ _).isInfix
  change _ <:+: ("\n".intercalate (allLines 0 fragments)).toList
  rw [String.toList_intercalate]
  exact stretch.trans (infix_intercalate (List.mem_map_of_mem found))

theorem indented_isInfix (member : raw ∈ contents fragments) :
    raw.toList <:+: (Layout.indented.set fragments).toList := by
  by_cases filled : raw = ""
  · rw [filled]
    exact List.nil_infix
  · exact shown_isInfix (List.mem_filter.mpr ⟨content_mem_allLeaves_iff.mpr member,by simp [Leaf.isShown,filled]⟩)

end Fragment

/-- All the scaffold of a page has the property. -/
def Scaffolded (P : String → Prop) (fragments : List Fragment) : Prop :=
  ∀ html, .scaffold html ∈ Fragment.allLeaves fragments → P html

section Scaffolded
open Fragment
variable {P Q : String → Prop} {α : Type} {html raw opening closing : String} {inside rest : List Fragment}
  {frames : List (String × String)} {f : α → List Fragment} {xs : List α}

theorem scaffolded_nil : Scaffolded P [] := fun html member => by contradiction

theorem scaffolded_append_iff : Scaffolded P (inside ++ rest) ↔ Scaffolded P inside ∧ Scaffolded P rest := by
  simp only [Scaffolded,allLeaves_append,List.mem_append,or_imp,forall_and]

theorem scaffolded_line_iff : Scaffolded P (line html :: rest) ↔ P html ∧ Scaffolded P rest := by
  simp only [Scaffolded,allLeaves,leaves,List.singleton_append,List.mem_cons,Leaf.scaffold.injEq,or_imp,forall_and,forall_eq]

theorem scaffolded_content_iff : Scaffolded P (content raw :: rest) ↔ Scaffolded P rest := by
  simp only [Scaffolded,allLeaves,leaves,List.singleton_append,List.mem_cons,reduceCtorEq,false_or]

theorem scaffolded_block_iff : Scaffolded P (block opening inside closing :: rest) ↔
    (P opening ∧ P closing) ∧ Scaffolded P inside ∧ Scaffolded P rest := by
  simp only [Scaffolded,allLeaves,leaves,List.cons_append,List.append_assoc,List.mem_cons,List.mem_append,
    Leaf.scaffold.injEq,List.not_mem_nil,or_imp,forall_and,forall_eq]
  tauto

theorem scaffolded_nest_iff :
    Scaffolded P (nest frames inside) ↔ (∀ frame ∈ frames, P frame.1 ∧ P frame.2) ∧ Scaffolded P inside := by
  induction frames with
  | nil => simp [nest]
  | cons frame rest ih =>
    have step : nest (frame :: rest) inside = [block frame.1 (nest rest inside) frame.2] := rfl
    rw [step,scaffolded_block_iff,ih,List.forall_mem_cons]
    simp only [scaffolded_nil,and_true,and_assoc]

theorem scaffolded_flatMap_iff : Scaffolded P (xs.flatMap f) ↔ ∀ x ∈ xs, Scaffolded P (f x) := by
  simp only [Scaffolded,allLeaves_flatMap,List.mem_flatMap]
  exact ⟨fun all x member html leaf => all html ⟨x,member,leaf⟩,fun all html ⟨x,member,leaf⟩ => all x member html leaf⟩

theorem scaffolded_ite_nest {c : Prop} [Decidable c] (outer : ∀ frame ∈ frames, P frame.1 ∧ P frame.2)
    (scaffolded : Scaffolded P inside) : Scaffolded P (if c then nest frames inside else inside) := by
  split
  · exact scaffolded_nest_iff.mpr ⟨outer,scaffolded⟩
  · exact scaffolded

theorem scaffolded_map_content (raws : List String) : Scaffolded P (raws.map .content) := by
  induction raws with
  | nil => exact scaffolded_nil
  | cons raw rest ih => exact scaffolded_content_iff.mpr ih

theorem scaffolded_map_line_iff {g : α → String} : Scaffolded P (xs.map fun x => .line (g x)) ↔ ∀ x ∈ xs, P (g x) := by
  induction xs with
  | nil => exact iff_of_true scaffolded_nil (List.forall_mem_nil _)
  | cons x xs ih => rw [List.map_cons,scaffolded_line_iff,ih,List.forall_mem_cons]

theorem Scaffolded.mono (scaffolded : Scaffolded P inside) (weaker : ∀ html, P html → Q html) : Scaffolded Q inside :=
  fun html member => weaker html (scaffolded html member)

end Scaffolded

theorem scaffold_isInfix {html : String} {fragments : List Fragment} (member : .scaffold html ∈ Fragment.allLeaves fragments) :
    html.toList <:+: (Layout.minified.set fragments).toList := by
  change _ <:+: (Fragment.allJoined fragments).toList
  rw [Fragment.toList_allJoined]
  obtain ⟨before,after,parts⟩ := List.append_of_mem member
  refine ⟨before.flatMap Leaf.minified,after.flatMap Leaf.minified,?_⟩
  simp [parts,Leaf.minified]

/-- Lines of scaffold are set as they are. -/
theorem scaffolded_set (layout : Layout) (fragments : List Fragment) :
    Scaffolded (·.toList <:+: (layout.set fragments).toList) fragments := by
  intro html member
  cases layout with
  | minified => exact scaffold_isInfix member
  | indented => exact Fragment.shown_isInfix (List.mem_filter.mpr ⟨member,rfl⟩)

end Letterpress.Html
