import Letterpress.Proofs.Plain
import Letterpress.Proofs.Html.Weaving
import Mathlib.Algebra.Order.BigOperators.Group.List
import Mathlib.Data.String.Basic
import Mathlib.Tactic.Ring

/-! How many bytes a page takes. Minified, each of its leaves takes at most as many as it takes when the page is indented,
and the line breaks between them are saved. -/
namespace Letterpress.Html
open Letterpress.Text
open String (utf8Len)

private theorem utf8Len_flatten (parts : List (List Char)) : utf8Len parts.flatten = (parts.map utf8Len).sum := by
  induction parts with
  | nil => rfl
  | cons part rest ih => rw [List.flatten_cons,String.utf8Len_append,List.map_cons,List.sum_cons,ih]

private theorem utf8Len_flatMap_le {α : Type} {f g : α → List Char} {xs : List α}
    (shorter : ∀ x ∈ xs, utf8Len (f x) ≤ utf8Len (g x)) : utf8Len (xs.flatMap f) ≤ utf8Len (xs.flatMap g) := by
  rw [List.flatMap_def,List.flatMap_def,utf8Len_flatten,utf8Len_flatten,List.map_map,List.map_map]
  exact List.sum_le_sum shorter

private theorem utf8Len_intercalate (separator : List Char) (parts : List (List Char)) :
    utf8Len (separator.intercalate parts) = utf8Len parts.flatten + (parts.length - 1) * utf8Len separator := by
  cases parts with
  | nil => simp
  | cons first others =>
    rw [intercalate_cons,String.utf8Len_append,List.flatten_cons,String.utf8Len_append,List.length_cons,Nat.add_sub_cancel]
    have behind : utf8Len (others.flatMap (separator ++ ·)) = utf8Len others.flatten + others.length * utf8Len separator := by
      induction others with
      | nil => simp
      | cons part rest ih =>
        simp only [List.flatMap_cons,List.flatten_cons,String.utf8Len_append,List.length_cons,ih]
        ring
    rw [behind,Nat.add_assoc]

private theorem utf8Len_squeeze (inRun : Bool) (s : List Char) : utf8Len (squeeze inRun s) ≤ utf8Len s := by
  fun_induction squeeze inRun s with
  | case1 => exact Nat.le_refl _
  | case2 c s blank ih =>
    rw [String.utf8Len_cons]
    omega
  | case3 inRun c s blank outside ih =>
    -- a space takes one byte, and no character takes less
    have least := Char.utf8Size_pos c
    have space : ' '.utf8Size = 1 := by decide
    rw [String.utf8Len_cons,String.utf8Len_cons,space]
    omega
  | case4 inRun c s filled ih =>
    rw [String.utf8Len_cons,String.utf8Len_cons]
    omega

private theorem utf8Len_collapseChars (s : List Char) : utf8Len (collapseChars s) ≤ utf8Len s := by
  conv_rhs => rw [← flatMap_pieces s]
  refine utf8Len_flatMap_le fun piece _ => ?_
  cases piece with
  | text chars => exact utf8Len_squeeze false chars
  | preformatted chars => exact Nat.le_refl _

private theorem utf8Len_minified (leaf : Leaf) : utf8Len leaf.minified ≤ utf8Len leaf.written.toList := by
  cases leaf with
  | scaffold html => exact Nat.le_refl _
  | content raw =>
    rw [Leaf.minified,collapse,String.toList_ofList,Text.trim,String.toList_ofList]
    exact (utf8Len_collapseChars _).trans (String.utf8Len_le_of_infix (trimChars_isInfix raw.toList))

/-- Minified, a page takes at most as many bytes as its lines, and indented, one more for each break between them. -/
theorem size_minified_le (fragments : List Fragment) :
    (Layout.minified.set fragments).utf8ByteSize + ((Fragment.allLines 0 fragments).length - 1) ≤
      (Layout.indented.set fragments).utf8ByteSize := by
  have leaves : utf8Len ((shown fragments).flatMap Leaf.minified) ≤
      utf8Len ((Fragment.allLines 0 fragments).map String.toList).flatten := by
    rw [Fragment.allLines_eq,← shown_placed 0,List.flatMap_map,List.map_map,← List.flatMap_def]
    refine utf8Len_flatMap_le fun place _ => (utf8Len_minified place.2).trans ?_
    exact String.utf8Len_le_of_infix (by
      simp only [Function.comp,Fragment.indent,String.toList_append]
      exact (List.suffix_append _ _).isInfix)
  change (Fragment.allJoined fragments).utf8ByteSize + _ ≤ ("\n".intercalate (Fragment.allLines 0 fragments)).utf8ByteSize
  rw [← String.utf8Len_toList,← String.utf8Len_toList,Fragment.toList_allJoined,← flatMap_minified_shown,
    String.toList_intercalate,utf8Len_intercalate,List.length_map]
  have oneByte : utf8Len "\n".toList = 1 := by decide
  rw [oneByte]
  omega

private theorem two_le_length_lines_page (root : Markup.Element) : 2 ≤ (Fragment.allLines 0 (page root)).length := by
  simp only [page,Fragment.allLines,Fragment.lines,List.append_nil,List.length_append,List.length_cons,List.length_nil]
  omega

end Letterpress.Html

namespace Letterpress
open Html

/-- A document that compiles does so in both layouts, and minified its page takes fewer bytes than indented. -/
theorem minified_is_smaller (options : CompileOptions) (source html : String) (compiled : compile options source = .ok html) :
    ∃ indented minified, compile ⟨false⟩ source = .ok indented ∧ compile ⟨true⟩ source = .ok minified ∧
      minified.utf8ByteSize < indented.utf8ByteSize := by
  obtain ⟨root,read,_⟩ := exists_root_of_compile compiled
  have saved := size_minified_le (page root)
  have lines := two_le_length_lines_page root
  refine ⟨_,_,compile_of_root ⟨false⟩ read,compile_of_root ⟨true⟩ read,?_⟩
  change (Layout.minified.set (page root)).utf8ByteSize < (Layout.indented.set (page root)).utf8ByteSize
  omega

def roomySource : String := "<mjml><mj-body><mj-raw>a \n b</mj-raw></mj-body></mjml>"

private theorem ofSource_roomySource : Markup.Element.ofSource roomySource.toList =
    .ok ⟨.document, [], [⟨.body, [], [⟨.raw, [], [], "a \n b", 15⟩], "", 6⟩], "", 0⟩ :=
  by with_unfolding_all rfl

theorem minified_is_smaller_of_roomySource : ∃ indented minified, compile ⟨false⟩ roomySource = .ok indented ∧
    compile ⟨true⟩ roomySource = .ok minified ∧ minified.utf8ByteSize < indented.utf8ByteSize :=
  minified_is_smaller ⟨true⟩ roomySource _ (compile_of_root ⟨true⟩ ofSource_roomySource)

end Letterpress
