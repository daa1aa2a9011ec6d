import Letterpress.Proofs.Plain
import Letterpress.Proofs.Html.Weaving

/-! The two layouts of a page. They differ in nothing but blanks: those that indent and part the lines of the one, and those
that are trimmed and collapsed in the contents of the other. -/
namespace Letterpress.Html
open Letterpress.Text Letterpress.Markup

/-- What is left of a text without its blanks. -/
def ink (s : List Char) : List Char := s.filter (!isBlank ·)

private theorem ink_append (s t : List Char) : ink (s ++ t) = ink s ++ ink t := List.filter_append _ _

private theorem ink_flatMap {α : Type} (f : α → List Char) (xs : List α) : ink (xs.flatMap f) = xs.flatMap fun x => ink (f x) :=
  List.filter_flatMap ..

private theorem ink_of_blank {s : List Char} (blank : ∀ c ∈ s, isBlank c = true) : ink s = [] := by
  simpa [ink,List.filter_eq_nil_iff] using blank

private theorem ink_dropBlanks (s : List Char) : ink (dropBlanks s) = ink s := by
  have lead : ink (s.takeWhile isBlank) = [] := ink_of_blank fun c member => List.mem_takeWhile_imp member
  conv_rhs => rw [← List.takeWhile_append_dropWhile (p := isBlank) (l := s),ink_append,lead]
  rfl

private theorem ink_reverse (s : List Char) : ink s.reverse = (ink s).reverse := List.filter_reverse

private theorem ink_trimChars (s : List Char) : ink (trimChars s) = ink s := by
  have trailing (t : List Char) : ink (dropTrailingBlanks t) = ink t := by
    rw [dropTrailingBlanks,ink_reverse]
    change (ink (dropBlanks t.reverse)).reverse = _
    rw [ink_dropBlanks,ink_reverse,List.reverse_reverse]
  rw [trimChars,trailing,ink_dropBlanks]

private theorem ink_intercalate {separator : List Char} (blank : ink separator = []) (parts : List (List Char)) :
    ink (separator.intercalate parts) = parts.flatMap ink := by
  cases parts with
  | nil => rfl
  | cons first others =>
    rw [intercalate_cons,ink_append,ink_flatMap]
    simp only [ink_append,blank,List.nil_append,List.flatMap_cons]

private theorem ink_minified (leaf : Leaf) : ink leaf.minified = ink leaf.written.toList := by
  cases leaf with
  | scaffold html => rfl
  | content raw =>
    rw [Leaf.minified,collapse,String.toList_ofList,ink,filter_collapseChars]
    change ink (trim raw).toList = _
    rw [trim,String.toList_ofList,ink_trimChars]
    rfl

private theorem ink_indent (depth : Nat) (html : String) : ink (Fragment.indent depth html).toList = ink html.toList := by
  have blank : ink (List.replicate (2 * depth) ' ') = [] := ink_of_blank fun c member => by
    rw [List.eq_of_mem_replicate member]
    decide
  rw [Fragment.indent,String.toList_append,String.toList_ofList,ink_append,blank,List.nil_append]

/-- In either layout, a page is inked with its leaves, one after the other. -/
theorem ink_set (layout : Layout) (fragments : List Fragment) :
    ink (layout.set fragments).toList = (Fragment.allLeaves fragments).flatMap fun leaf => ink leaf.written.toList := by
  cases layout with
  | indented =>
    have silent : ∀ leaf ∈ Fragment.allLeaves fragments, leaf.isShown = false → ink leaf.written.toList = [] := by
      intro leaf _ hidden
      cases leaf with
      | scaffold html => contradiction
      | content raw =>
        obtain rfl : raw = "" := by simpa [Leaf.isShown] using hidden
        rfl
    change ink ("\n".intercalate (Fragment.allLines 0 fragments)).toList = _
    rw [String.toList_intercalate,ink_intercalate (by decide),Fragment.allLines_eq,List.map_map,List.flatMap_map,
      ← flatMap_filter silent]
    change _ = (shown fragments).flatMap _
    rw [← shown_placed 0,List.flatMap_map]
    exact List.flatMap_congr fun place _ => ink_indent place.1 place.2.written
  | minified =>
    change ink (Fragment.allJoined fragments).toList = _
    rw [Fragment.toList_allJoined,ink_flatMap]
    exact List.flatMap_congr fun leaf _ => ink_minified leaf

end Letterpress.Html

namespace Letterpress
open Html

/-- A document compiles in both layouts or, with the same error, in neither, and its pages differ in blanks only. -/
theorem layouts_differ_in_blanks (source : String) :
    (∃ e, ∀ options, compile options source = .error e) ∨
      ∃ indented minified, compile ⟨false⟩ source = .ok indented ∧ compile ⟨true⟩ source = .ok minified ∧
        ink indented.toList = ink minified.toList := by
  cases read : Markup.Element.ofSource source.toList with
  | error misprint =>
    refine .inl ⟨misprint.report source.toList,fun options => ?_⟩
    rw [compile,read]
  | ok root =>
    exact .inr ⟨_,_,compile_of_root ⟨false⟩ read,compile_of_root ⟨true⟩ read,by rw [ink_set,ink_set]⟩

end Letterpress
