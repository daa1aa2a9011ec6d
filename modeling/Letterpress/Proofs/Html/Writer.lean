import Letterpress.Html.Renderer
import Letterpress.Proofs.Html.Fragment

/-! Pages written call by call. The calls that are made for an element are those of its pieces, one after the other, and what
the writer has written behind all of them is the page set. -/
namespace Letterpress.Html

namespace Fragment

mutual
def calls : Fragment → List Call
  | line html => [.line html]
  | content raw => [.content raw]
  | block opening inside closing => .opening opening :: allCalls inside ++ [.closing closing]

def allCalls : List Fragment → List Call
  | [] => []
  | fragment :: rest => calls fragment ++ allCalls rest
end

theorem allCalls_append (fragments more : List Fragment) :
    allCalls (fragments ++ more) = allCalls fragments ++ allCalls more := by
  induction fragments with
  | nil => rfl
  | cons fragment rest ih => simp only [List.cons_append,allCalls,ih,List.append_assoc]

theorem allCalls_flatMap {α : Type} (xs : List α) (set : α → List Fragment) :
    allCalls (xs.flatMap set) = xs.flatMap fun x => allCalls (set x) := by
  induction xs with
  | nil => rfl
  | cons x rest ih => simp only [List.flatMap_cons,allCalls_append,ih]

/-- Frames are opened one after the other and closed the other way around. -/
theorem allCalls_nest (frames : List (String × String)) (inside : List Fragment) :
    allCalls (nest frames inside) =
      (frames.map fun frame => .opening frame.1) ++ allCalls inside ++
        frames.reverse.map fun frame => .closing frame.2 := by
  induction frames with
  | nil => simp [nest]
  | cons frame rest ih =>
    have unfolded : allCalls (nest (frame :: rest) inside) =
        .opening frame.1 :: allCalls (nest rest inside) ++ [.closing frame.2] := List.append_nil _
    rw [unfolded,ih]
    simp

private theorem indent_ne_empty {depth : Nat} (inside : 0 < depth) (html : String) : indent depth html ≠ "" := by
  obtain ⟨above,rfl⟩ := Nat.exists_eq_succ_of_ne_zero (Nat.ne_of_gt inside)
  intro blank
  have chars := congrArg String.toList blank
  simp [indent,Nat.mul_succ,List.replicate_succ] at chars

mutual
private theorem ne_empty_of_mem_lines {depth : Nat} (inside : 0 < depth) (fragment : Fragment) :
    ∀ line ∈ lines depth fragment, line ≠ "" := by
  cases fragment with
  | line html => simp [lines,indent_ne_empty inside]
  | content raw =>
    rw [lines]
    split <;> simp [indent_ne_empty inside]
  | block opening within closing =>
    have further := ne_empty_of_mem_allLines (Nat.succ_pos depth) within
    simp only [lines,List.mem_append,List.mem_cons,List.not_mem_nil,or_false]
    rintro line ((rfl | among) | rfl)
    · exact indent_ne_empty inside opening
    · exact further line among
    · exact indent_ne_empty inside closing

private theorem ne_empty_of_mem_allLines {depth : Nat} (inside : 0 < depth) (fragments : List Fragment) :
    ∀ line ∈ allLines depth fragments, line ≠ "" := by
  cases fragments with
  | nil => exact List.forall_mem_nil _
  | cons fragment rest =>
    exact List.forall_mem_append.mpr ⟨ne_empty_of_mem_lines inside fragment,ne_empty_of_mem_allLines inside rest⟩
end

end Fragment

namespace Writer

variable {w : Writer} {fragments : List Fragment}

private theorem run_append (calls more : List Call) : w.run (calls ++ more) = (w.run calls).run more := List.foldl_append

@[simp] theorem line_depth (html : String) : (w.line html).depth = w.depth := by
  unfold line
  split <;> rfl

@[simp] theorem content_depth (raw : String) : (w.content raw).depth = w.depth := by
  unfold content
  split
  · rfl
  · split
    · exact line_depth raw
    · rfl

@[simp] theorem opening_depth (html : String) : (w.opening html).depth = w.depth + 1 := rfl

@[simp] theorem closing_depth (html : String) : (w.closing html).depth = w.depth - 1 := line_depth html

/-- What stands there once the pieces are set behind it. -/
def followed (layout : Layout) (depth : Nat) (out : String) (fragments : List Fragment) : String :=
  match layout with
  | .indented => (Fragment.allLines depth fragments).foldl below out
  | .minified => out ++ Fragment.allJoined fragments

private theorem followed_nil (layout : Layout) (depth : Nat) (out : String) : followed layout depth out [] = out := by
  cases layout with
  | indented => rfl
  | minified => exact String.append_empty

private theorem followed_cons (layout : Layout) (depth : Nat) (out : String) (fragment : Fragment) (rest : List Fragment) :
    followed layout depth out (fragment :: rest) = followed layout depth (followed layout depth out [fragment]) rest := by
  cases layout with
  | indented => simp [followed,Fragment.allLines]
  | minified => simp [followed,Fragment.allJoined,String.append_assoc]

mutual
private theorem run_calls (w : Writer) (fragment : Fragment) :
    w.run (Fragment.calls fragment) = { w with out := followed w.layout w.depth w.out [fragment] } := by
  obtain ⟨layout,out,depth⟩ := w
  cases fragment with
  | line html => cases layout <;> simp [run,step,line,Fragment.calls,followed,Fragment.allLines,Fragment.lines,
      Fragment.allJoined,Fragment.joined]
  | content raw =>
    cases blank : raw.isEmpty with
    | true =>
      obtain rfl : raw = "" := String.isEmpty_iff.mp blank
      have nothing : collapse (Text.trim "") = "" := by cbv
      cases layout <;> simp [run,step,content,nothing,Fragment.calls,followed,Fragment.allLines,Fragment.lines,
        Fragment.allJoined,Fragment.joined]
    | false => cases layout <;> simp [run,step,content,line,blank,Fragment.calls,followed,Fragment.allLines,
        Fragment.lines,Fragment.allJoined,Fragment.joined]
  | block opening inside closing =>
    have within (w : Writer) := run_allCalls w inside
    rw [Fragment.calls,List.cons_append,run,List.foldl_cons,← run,run_append,within]
    cases layout <;> simp [run,step,Writer.opening,Writer.closing,line,followed,Fragment.allLines,Fragment.lines,
      Fragment.allJoined,Fragment.joined,String.append_assoc]

/-- A writer that has written some pieces is as deep as before. -/
theorem run_allCalls (w : Writer) (fragments : List Fragment) :
    w.run (Fragment.allCalls fragments) = { w with out := followed w.layout w.depth w.out fragments } := by
  cases fragments with
  | nil => rw [followed_nil]; rfl
  | cons fragment rest =>
    have first := run_calls w fragment
    have later (w : Writer) := run_allCalls w rest
    rw [Fragment.allCalls,run_append,first,later]
    exact congrArg (fun out => { w with out }) (followed_cons w.layout w.depth w.out fragment rest).symm
end

private theorem foldl_below {out : String} (filled : out ≠ "") (lines : List String) :
    lines.foldl below out = out ++ String.join (lines.map ("\n" ++ ·)) := by
  induction lines generalizing out with
  | nil => simp
  | cons line rest ih =>
    have more : out ++ "\n" ++ line ≠ "" := by simp
    have step : below out line = out ++ "\n" ++ line := by simp [below,filled]
    rw [List.foldl_cons,step,ih more,List.map_cons,String.join_cons]
    simp only [String.append_assoc]

private theorem foldl_below_empty {first : String} (filled : first ≠ "") (rest : List String) :
    (first :: rest).foldl below "" = "\n".intercalate (first :: rest) := by
  have step : below "" first = first := rfl
  rw [List.foldl_cons,step,foldl_below filled,← String.toList_inj,String.toList_intercalate,List.map_cons,intercalate_cons]
  simp [String.toList_join,List.flatMap_def,Function.comp_def]

private theorem followed_empty {first : String} {rest : List String} (filled : first ≠ "")
    (begins : Fragment.allLines 0 fragments = first :: rest) (layout : Layout) :
    followed layout 0 "" fragments = layout.set fragments := by
  cases layout with
  | indented =>
    rw [followed,begins,foldl_below_empty filled,Layout.set,begins]
  | minified => exact String.empty_append

private theorem followed_ne_empty {out : String} (filled : out ≠ "") {layout : Layout} (depth : Nat)
    (fragments : List Fragment) : followed layout depth out fragments ≠ "" := by
  cases layout with
  | indented => simp [followed,foldl_below filled,filled]
  | minified => simp [followed,filled]

/-- A part written by a writer of its own and taken over is as if it had been written in place. -/
theorem embed_run (filled : w.out ≠ "") (inside : 0 < w.depth) (part : List Fragment) :
    w.embed ((start w.layout w.depth).run (Fragment.allCalls part)).out = w.run (Fragment.allCalls part) := by
  obtain ⟨layout,out,depth⟩ := w
  rw [run_allCalls,run_allCalls]
  cases layout with
  | indented =>
    have each := Fragment.ne_empty_of_mem_allLines inside part
    dsimp only [start,followed]
    cases lines : Fragment.allLines depth part with
    | nil => rfl
    | cons first rest =>
      have shown : first ≠ "" := each first (by rw [lines]; exact List.mem_cons_self)
      have step : below "" first = first := rfl
      have more : below out first ≠ "" := by simp_all [below]
      rw [List.foldl_cons,List.foldl_cons,step,foldl_below shown,foldl_below more]
      simp_all [embed,below,String.append_assoc]
  | minified =>
    by_cases blank : Fragment.allJoined part = "" <;> simp [embed,start,followed,blank]

end Writer

namespace Renderer
open Letterpress.Markup Fragment

private theorem text_eq (s : Styled) : text s = allCalls (textBlock s) := rfl

theorem button_eq (s : Styled) : button s = allCalls (Html.button s) := by
  rw [Html.button,allCalls_nest,buttonFrame,button]
  cases s.filled? "href" <;> rfl

theorem image_eq (s : Styled) (box : Float) : image s box = allCalls (Html.image s box) := by
  rw [Html.image,allCalls_nest,image]
  cases s.filled? "href" <;> rfl

private theorem divider_eq (s : Styled) (box : Float) : divider s box = allCalls (Html.divider s box) := rfl

private theorem spacer_eq (s : Styled) : spacer s = allCalls (Html.spacer s) := rfl

private theorem table_eq (s : Styled) : table s = allCalls (Html.table s) := rfl

theorem component_eq (defaults : Defaults) (e : Element) (container : Float) :
    component defaults e container = allCalls (Html.component defaults e container) := by
  unfold component Html.component
  split
  · rfl
  · rw [allCalls_nest]
    refine congrArg (fun inside => [Call.opening "<tr>", .opening _] ++ inside ++ [.closing "</td>", .closing "</tr>"]) ?_
    unfold componentBody
    dsimp only
    cases e.tag with
    | text => exact text_eq _
    | button => exact button_eq _
    | image => exact image_eq _ _
    | divider => exact divider_eq _ _
    | spacer => exact spacer_eq _
    | table => exact table_eq _
    | _ => rfl

theorem column_eq (defaults : Defaults) (e : Element) (container : Float) (siblings : Nat) :
    column defaults e container siblings = allCalls (Html.column defaults e container siblings) := by
  simp only [column,Html.column,allCalls_append,allCalls_nest,allCalls_flatMap,component_eq,columnFrames]
  cases hasPadding ⟨e,defaults⟩ <;> simp [allCalls,calls,tbody,row]

private theorem columns_eq (defaults : Defaults) (e : Element) (container : Float) :
    columns defaults e container = allCalls (Html.columns defaults e container) := by
  simp only [columns,Html.columns,allCalls_append,allCalls_flatMap]
  refine congrArg (fun inside => [Call.line columnsComment] ++ inside ++ [.line columnsEnd])
    (List.flatMap_congr fun child _ => ?_)
  cases child.tag with
  | column => exact column_eq ..
  | _ => rfl

private theorem boxed_eq (s : Styled) (container : Float) (inside : List Fragment) :
    boxed s container (allCalls inside) = allCalls (bandFrame s container inside) := by
  rw [boxed,bandFrame]
  cases isFullWidth s <;> simp [allCalls_append,allCalls_nest,allCalls,calls,tbody,row]

private theorem band_eq (defaults : Defaults) (e : Element) (container : Float) :
    band defaults e container = allCalls (Html.band defaults e container) := by
  rw [band,columns_eq,boxed_eq,Html.band]

private theorem wrapper_eq (defaults : Defaults) (e : Element) (container : Float) :
    wrapper defaults e container = allCalls (Html.wrapper defaults e container) := by
  rw [Html.wrapper,← boxed_eq,allCalls_flatMap]
  refine congrArg (boxed _ _) (List.flatMap_congr fun child _ => ?_)
  cases child.tag with
  | band => exact band_eq ..
  | _ => rfl

private theorem bodyContent_eq (defaults : Defaults) (e : Element) :
    bodyContent defaults e = allCalls (Html.bodyContent defaults e) := by
  rw [bodyContent,Html.bodyContent,allCalls_flatMap]
  refine List.flatMap_congr fun child _ => ?_
  cases child.tag with
  | band => exact band_eq ..
  | wrapper => exact wrapper_eq ..
  | _ => rfl

private theorem body_eq (defaults : Defaults) (e : Option Element) (preview language : String) :
    body defaults e preview language = allCalls [bodyPart defaults e preview language] := by
  cases e with
  | none => rfl
  | some e =>
    rw [body,bodyContent_eq,bodyPart,previewText]
    split <;> simp [allCalls,calls]

private theorem head_eq (matter : HeadMatter) (rules : List (String × String)) :
    head matter rules = allCalls [headPart matter rules] := by
  rw [head,headPart]
  split <;> simp [allCalls,calls,allCalls_append,allCalls_flatMap,fontLinks,List.map_eq_flatMap]

/-- The calls of a document in the order of its page are those of the page. -/
theorem page_eq (root : Element) : beforeBody root ++ bodyOf root ++ afterBody = allCalls (page root) := by
  simp [beforeBody,bodyOf,afterBody,head_eq,body_eq,page,allCalls,calls]

/-- Behind its last call the writer of a document has written the page and is back at the top. -/
theorem document_eq (layout : Layout) (root : Element) :
    document layout root = ⟨layout, layout.set (page root), 0⟩ := by
  obtain ⟨out,begun,opened⟩ : ∃ out, out ≠ "" ∧
      (Writer.start layout 0).run [.line "<!doctype html>", .opening (documentOpening (languageOf root))] =
        ⟨layout, out, 1⟩ := by
    cases layout <;> refine ⟨_,?_,rfl⟩ <;> simp [Writer.start,Writer.step,Writer.line,below,Fragment.indent]
  obtain ⟨written,filled,before⟩ : ∃ written, written ≠ "" ∧
      (Writer.start layout 0).run (beforeBody root) = ⟨layout, written, 1⟩ := by
    rw [beforeBody,Writer.run_append,opened,head_eq,Writer.run_allCalls]
    exact ⟨_,Writer.followed_ne_empty begun 1 _,rfl⟩
  have inPlace : document layout root = (Writer.start layout 0).run (allCalls (page root)) := by
    rw [← page_eq,Writer.run_append,Writer.run_append,before,document,before,bodyOf,body_eq]
    exact congrArg (Writer.run · afterBody) (Writer.embed_run (w := ⟨layout, written, 1⟩) filled Nat.one_pos _)
  rw [inPlace,Writer.run_allCalls]
  exact congrArg (fun out => (⟨layout, out, 0⟩ : Writer)) (Writer.followed_empty (by decide) rfl layout)

end Renderer
end Letterpress.Html
