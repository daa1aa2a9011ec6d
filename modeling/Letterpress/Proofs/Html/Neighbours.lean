import Letterpress.Proofs.Html.Collapsing
import Letterpress.Proofs.Html.Contents
import Letterpress.Proofs.Html.Scaffold.Basic

/-! What stands next to what in a page. Minified, two pieces of content may come to stand side by side, and then a brace at
the end of the one meets a brace at the beginning of the other. Only raw content does so: every other piece has
scaffold around it. -/
namespace Letterpress.Html
open Letterpress.Markup Letterpress.Text

/-- The end of the one text and the beginning of the other may meet. -/
def MayMeet (first second : String) : Prop := ∀ c ∈ first.toList.getLast?, ∀ d ∈ second.toList.head?, Apart c d

def Leaf.MayMeet : Leaf → Leaf → Prop
  | content first, content second => Html.MayMeet first second
  | _, _ => True

/-- The leaves that leave something in the page. -/
def shown (fragments : List Fragment) : List Leaf := (Fragment.allLeaves fragments).filter Leaf.isShown

/-- Whatever content comes to stand side by side may meet. -/
def Parted (fragments : List Fragment) : Prop := (shown fragments).IsChain Leaf.MayMeet

/-- At either end there is scaffold. -/
structure Closed (fragments : List Fragment) : Prop where
  first : ∃ html, (shown fragments).head? = some (.scaffold html)
  last : ∃ html, (shown fragments).getLast? = some (.scaffold html)

theorem flatMap_filter {α β : Type} {p : α → Bool} {f : α → List β} {xs : List α}
    (silent : ∀ x ∈ xs, p x = false → f x = []) : (xs.filter p).flatMap f = xs.flatMap f := by
  induction xs with
  | nil => rfl
  | cons x xs ih =>
    have later := ih fun y member => silent y (List.mem_cons_of_mem x member)
    cases kept : p x with
    | true => rw [List.filter_cons_of_pos kept,List.flatMap_cons,List.flatMap_cons,later]
    | false =>
      rw [List.filter_cons_of_neg (by simp [kept]),List.flatMap_cons,silent x List.mem_cons_self kept,List.nil_append,later]

variable {fragments more inside : List Fragment} {html raw opening closing : String} {leaf : Leaf}
  {frame : String × String} {frames : List (String × String)}

theorem mayMeet_scaffold : leaf.MayMeet (.scaffold html) := by cases leaf <;> trivial

theorem scaffold_mayMeet : (Leaf.scaffold html).MayMeet leaf := by cases leaf <;> trivial

theorem shown_append (fragments more : List Fragment) : shown (fragments ++ more) = shown fragments ++ shown more := by
  simp only [shown,Fragment.allLeaves_append,List.filter_append]

theorem shown_flatMap {α : Type} (f : α → List Fragment) (xs : List α) :
    shown (xs.flatMap f) = xs.flatMap fun x => shown (f x) := by
  simp only [shown,Fragment.allLeaves_flatMap,List.filter_flatMap]

theorem shown_content (filled : raw ≠ "") : shown [.content raw] = [.content raw] := by
  simp [shown,Fragment.allLeaves,Fragment.leaves,Leaf.isShown,filled]

theorem shown_content_empty : shown [.content ""] = [] := rfl

private theorem shown_block (opening closing : String) (inside : List Fragment) :
    shown [.block opening inside closing] = .scaffold opening :: shown inside ++ [.scaffold closing] := by
  simp [shown,Fragment.allLeaves,Fragment.leaves,Leaf.isShown,List.filter_cons]

theorem parted_content (raw : String) : Parted [.content raw] := by
  unfold Parted
  by_cases empty : raw = ""
  · rw [empty]
    exact .nil
  · rw [shown_content empty]
    exact .singleton _

theorem parted_line (html : String) : Parted [.line html] := .singleton _

theorem closed_line (html : String) : Closed [.line html] := ⟨⟨html,rfl⟩,⟨html,rfl⟩⟩

/-- Scaffold at an end parts what it joins. -/
theorem Closed.append_parted_iff (closed : Closed fragments) :
    Parted (fragments ++ more) ↔ Parted fragments ∧ Parted more := by
  unfold Parted
  rw [shown_append,List.isChain_append]
  refine and_congr_right fun _ => and_iff_left fun leaf last other _ => ?_
  obtain ⟨html,ending⟩ := closed.last
  obtain rfl := Option.mem_unique last ending
  exact scaffold_mayMeet

private theorem Closed.parted_append_iff (closed : Closed more) :
    Parted (fragments ++ more) ↔ Parted fragments ∧ Parted more := by
  unfold Parted
  rw [shown_append,List.isChain_append]
  refine and_congr_right fun _ => and_iff_left fun leaf _ other first => ?_
  obtain ⟨html,beginning⟩ := closed.first
  obtain rfl := Option.mem_unique first beginning
  exact mayMeet_scaffold

theorem parted_between_iff : Parted ([.line opening] ++ inside ++ [.line closing]) ↔ Parted inside := by
  rw [(closed_line closing).parted_append_iff,(closed_line opening).append_parted_iff]
  exact (and_iff_left (parted_line closing)).trans (and_iff_right (parted_line opening))

private theorem shown_block_eq : shown [.block opening inside closing] = shown ([.line opening] ++ inside ++ [.line closing]) := by
  rw [shown_block,shown_append,shown_append]
  rfl

theorem closed_block (opening closing : String) (inside : List Fragment) : Closed [.block opening inside closing] :=
  ⟨⟨opening,by rw [shown_block]; rfl⟩,⟨closing,by rw [shown_block]; exact List.getLast?_concat⟩⟩

theorem closed_between (opening closing : String) (inside : List Fragment) :
    Closed ([.line opening] ++ inside ++ [.line closing]) := by
  obtain ⟨first,last⟩ := closed_block opening closing inside
  rw [shown_block_eq] at first last
  exact ⟨first,last⟩

theorem parted_block_iff : Parted [.block opening inside closing] ↔ Parted inside := by
  unfold Parted
  rw [shown_block_eq]
  exact parted_between_iff

theorem parted_nest_iff : Parted (Fragment.nest frames inside) ↔ Parted inside := by
  induction frames with
  | nil => rfl
  | cons frame rest ih => exact parted_block_iff.trans ih

theorem closed_nest (frame : String × String) (frames : List (String × String)) (inside : List Fragment) :
    Closed (Fragment.nest (frame :: frames) inside) := closed_block _ _ _

theorem minified_content (trimmed : IsTrimmed raw.toList) : (Leaf.content raw).minified = collapseChars raw.toList := by
  rw [Leaf.minified,collapse,String.toList_ofList,Text.trim,String.toList_ofList,trimChars_of_isTrimmed trimmed]

private theorem lone_collapseChars {s : List Char} (lone : Lone s) : Lone (collapseChars s) :=
  isChain_collapseChars (fun _ _ blank => apart_left (isBrace_of_isBlank blank))
    (fun _ _ blank => apart_right (isBrace_of_isBlank blank)) lone

private theorem lone_flatMap_minified {leaves : List Leaf} (meet : leaves.IsChain Leaf.MayMeet)
    (firm : ∀ html, .scaffold html ∈ leaves → Firm html)
    (content : ∀ raw, .content raw ∈ leaves → raw ≠ "" ∧ LoneText raw ∧ IsTrimmed raw.toList) :
    Lone (leaves.flatMap Leaf.minified) := by
  induction leaves with
  | nil => exact lone_nil
  | cons leaf rest ih =>
    have further : Lone (rest.flatMap Leaf.minified) :=
      ih meet.tail (fun html member => firm html (List.mem_cons_of_mem leaf member))
        fun raw member => content raw (List.mem_cons_of_mem leaf member)
    rw [List.flatMap_cons]
    cases leaf with
    | scaffold html => exact firm html List.mem_cons_self [] _ lone_nil further
    | content raw =>
      obtain ⟨_,lone,trimmed⟩ := content raw List.mem_cons_self
      rw [minified_content trimmed]
      cases rest with
      | nil => simpa using lone_collapseChars lone
      | cons next others =>
        rw [List.flatMap_cons] at further ⊢
        cases next with
        | scaffold html =>
          have firm := firm html (List.mem_cons_of_mem _ List.mem_cons_self)
          have last := further.within (List.suffix_append _ _).isInfix
          rw [← List.append_assoc]
          exact firm _ _ (lone_collapseChars lone) last
        | content second =>
          obtain ⟨filled,_,closed⟩ := content second (List.mem_cons_of_mem _ List.mem_cons_self)
          -- collapsing keeps both ends, so the characters that meet are those of the contents themselves
          refine lone_append_iff.mpr ⟨lone_collapseChars lone,further,fun c last d first => ?_⟩
          have begun : ∃ x, second.toList.head? = some x := by
            rw [← Option.isSome_iff_exists,List.isSome_head?]
            simpa using filled
          obtain ⟨x,begun⟩ := begun
          rw [getLast?_collapseChars trimmed] at last
          rw [List.head?_append,minified_content closed,head?_collapseChars closed,begun] at first
          cases first
          exact (List.isChain_cons_cons.mp meet).1 c last d begun

/-- And the other way round: what stands side by side and may not meet doubles a brace. -/
theorem mayMeet_of_lone {leaves : List Leaf} (lone : Lone (leaves.flatMap Leaf.minified))
    (trimmed : ∀ raw, .content raw ∈ leaves → IsTrimmed raw.toList) : leaves.IsChain Leaf.MayMeet := by
  induction leaves with
  | nil => exact .nil
  | cons leaf rest ih =>
    rw [List.flatMap_cons] at lone
    obtain ⟨_,further,joint⟩ := lone_append_iff.mp lone
    have later := ih further fun raw member => trimmed raw (List.mem_cons_of_mem leaf member)
    refine List.isChain_cons.mpr ⟨fun next begins => ?_,later⟩
    obtain ⟨others,rfl⟩ := List.head?_eq_some_iff.mp begins
    cases leaf with
    | scaffold html => exact scaffold_mayMeet
    | content first =>
      cases next with
      | scaffold html => exact mayMeet_scaffold
      | content second =>
        have closed := trimmed first List.mem_cons_self
        have opened := trimmed second (List.mem_cons_of_mem _ List.mem_cons_self)
        intro c last d begun
        refine joint c ?_ d ?_
        · rwa [minified_content closed,getLast?_collapseChars closed]
        · rw [List.flatMap_cons,List.head?_append,minified_content opened,head?_collapseChars opened,begun]
          rfl

private theorem minified_of_hidden (blank : leaf.isShown = false) : leaf.minified = [] := by
  cases leaf with
  | scaffold html => contradiction
  | content raw =>
    obtain rfl : raw = "" := by simpa [Leaf.isShown] using blank
    have trimmed : IsTrimmed "".toList := by constructor <;> intro c member <;> contradiction
    rw [minified_content trimmed]
    exact collapseChars_nil

theorem flatMap_minified_shown (fragments : List Fragment) :
    (shown fragments).flatMap Leaf.minified = (Fragment.allLeaves fragments).flatMap Leaf.minified :=
  flatMap_filter fun _ _ hidden => minified_of_hidden hidden

theorem lone_minified_iff (firmly : Firmly fragments)
    (lone : ∀ raw ∈ Fragment.contents fragments, LoneText raw ∧ IsTrimmed raw.toList) :
    LoneText (Layout.minified.set fragments) ↔ Parted fragments := by
  have content : ∀ raw, .content raw ∈ shown fragments → raw ≠ "" ∧ LoneText raw ∧ IsTrimmed raw.toList := by
    intro raw member
    obtain ⟨leaf,filled⟩ := List.mem_filter.mp member
    exact ⟨by simpa [Leaf.isShown] using filled,lone raw (Fragment.content_mem_allLeaves_iff.mp leaf)⟩
  change Lone (Fragment.allJoined fragments).toList ↔ _
  rw [Fragment.toList_allJoined,← flatMap_minified_shown]
  constructor
  · exact fun alone => mayMeet_of_lone alone fun raw member => (content raw member).2.2
  · exact fun parted => lone_flatMap_minified parted (fun html member => firmly html (List.mem_of_mem_filter member)) content

theorem lone_indented (firmly : Firmly fragments) (lone : ∀ raw ∈ Fragment.contents fragments, LoneText raw) :
    Lone (Layout.indented.set fragments).toList := by
  refine lone_intercalate (firm_ofList _ rfl) fun line member => ?_
  obtain ⟨leaf,found,depth,rfl⟩ := exists_right_of_forall₂ (Fragment.forall₂_allLines 0 fragments) member
  have blanks : Tame (String.ofList (List.replicate (2 * depth) ' ')) := by
    refine tame_of_plain fun c blank => ?_
    rw [String.toList_ofList] at blank
    rw [List.eq_of_mem_replicate blank]
    decide
  have written : LoneText leaf.written := by
    have member := List.mem_of_mem_filter found
    cases leaf with
    | scaffold html => exact (firmly html member).lone
    | content raw => exact lone raw (Fragment.content_mem_allLeaves_iff.mp member)
  exact blanks.before written

end Letterpress.Html
