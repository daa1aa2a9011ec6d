import Letterpress.Css.Length
import Mathlib.Data.List.Basic

/-! What numbers are written with: digits and letters, points and minus signs. A number begins with no point, and has no minus
sign but at its beginning; so no two widths come to one class name. -/
namespace Letterpress

def IsFigure (c : Char) : Prop := c.isAlphanum = true ∨ c = '-' ∨ c = '.'

instance : DecidablePred IsFigure := fun _ => inferInstanceAs (Decidable (_ ∨ _ ∨ _))

private theorem isFigure_of_all {s : List Char} (checked : s.all (IsFigure ·) = true) : ∀ c ∈ s, IsFigure c := by
  simpa using checked

private theorem isFigure_of_mem_toDigits {n : Nat} {c : Char} (member : c ∈ Nat.toDigits 10 n) : IsFigure c := by
  have digit : c.isDigit = true := Nat.isDigit_of_mem_toDigits (by omega) (by omega) member
  exact .inl (by simp [Char.isAlphanum,digit])

/-- There is no point at the beginning, and no minus sign. -/
def IsUnsigned (s : List Char) : Prop := s.head? ≠ some '.' ∧ '-' ∉ s

/-- There is no point at the beginning, and no minus sign anywhere else. -/
def IsNumeral (s : List Char) : Prop := s.head? ≠ some '.' ∧ '-' ∉ s.tail

private theorem IsUnsigned.isNumeral {s : List Char} (unsigned : IsUnsigned s) : IsNumeral s :=
  ⟨unsigned.1,fun member => unsigned.2 (List.mem_of_mem_tail member)⟩

private theorem isUnsigned_toDigits (n : Nat) : IsUnsigned (Nat.toDigits 10 n) := by
  have digit : ∀ c ∈ Nat.toDigits 10 n, c.isDigit = true := fun c => Nat.isDigit_of_mem_toDigits (by omega) (by omega)
  exact ⟨fun first => absurd (digit _ (List.mem_of_head? first)) (by decide),
    fun member => absurd (digit _ member) (by decide)⟩

namespace Decimal

private theorem isFigure_of_mem_signed {negative : Bool} {s : List Char} (plain : ∀ c ∈ s, IsFigure c) :
    ∀ c ∈ signed negative s, IsFigure c := by
  intro c member
  cases negative with
  | false => exact plain c member
  | true =>
    rcases List.mem_cons.mp member with rfl | later
    · exact .inr (.inl rfl)
    · exact plain c later

theorem forall_mem_positional {Q : Char → Prop} {digits : List Char} {before : Int} (nought : Q '0') (point : Q '.')
    (plain : ∀ c ∈ digits, Q c) : ∀ c ∈ positional digits before, Q c := by
  have zeros (n : Nat) : ∀ c ∈ List.replicate n '0', Q c := by
    intro c member
    rw [List.eq_of_mem_replicate member]
    exact nought
  intro c member
  unfold positional at member
  split at member
  · simp only [List.mem_cons,List.mem_append] at member
    rcases member with rfl | rfl | zero | digit
    · exact nought
    · exact point
    · exact zeros _ c zero
    · exact plain c digit
  · split at member
    · rcases List.mem_append.mp member with digit | zero
      · exact plain c digit
      · exact zeros _ c zero
    · simp only [List.mem_append,List.mem_cons] at member
      rcases member with digit | rfl | digit
      · exact plain c (List.mem_of_mem_take digit)
      · exact point
      · exact plain c (List.mem_of_mem_drop digit)

private theorem isFigure_of_mem_positional {digits : List Char} {before : Int} (plain : ∀ c ∈ digits, IsFigure c) :
    ∀ c ∈ positional digits before, IsFigure c := forall_mem_positional (by decide) (by decide) plain

private theorem isFigure_of_mem_plain {x : Float} : ∀ c ∈ (plain x).toList, IsFigure c := by
  unfold plain
  split
  · exact isFigure_of_all (by decide)
  · rw [String.toList_ofList]
    exact isFigure_of_mem_signed (isFigure_of_all (by decide))
  · rw [String.toList_ofList]
    exact isFigure_of_mem_signed (isFigure_of_all (by decide))
  · rw [String.toList_ofList]
    exact isFigure_of_mem_signed (isFigure_of_mem_positional fun c => isFigure_of_mem_toDigits)

private theorem isNumeral_signed {negative : Bool} {s : List Char} (unsigned : IsUnsigned s) :
    IsNumeral (signed negative s) := by
  cases negative with
  | false => exact unsigned.isNumeral
  | true => exact ⟨by simp [signed],unsigned.2⟩

private theorem isUnsigned_positional {digits : List Char} (unsigned : IsUnsigned digits) (before : Int) :
    IsUnsigned (positional digits before) := by
  obtain ⟨first,noMinus⟩ := unsigned
  unfold positional
  split
  · exact ⟨by simp,by simp [noMinus]⟩
  · next inside =>
    obtain ⟨n,same⟩ : ∃ n, before.toNat = n + 1 := ⟨before.toNat - 1,by omega⟩
    rw [same]
    split
    · cases digits with
      | nil => exact ⟨by simp [List.replicate_succ],by simp⟩
      | cons c rest => exact ⟨by simpa using first,by simpa using noMinus⟩
    · cases digits with
      | nil => exact absurd (Nat.zero_le _) ‹_›
      | cons c rest =>
        have sooner : '-' ∉ (c :: rest).take (n + 1) := fun member => noMinus (List.mem_of_mem_take member)
        have later : '-' ∉ (c :: rest).drop (n + 1) := fun member => noMinus (List.mem_of_mem_drop member)
        refine ⟨by simpa using first,fun member => ?_⟩
        rcases List.mem_append.mp member with before | behind
        · exact sooner before
        · exact later ((List.mem_cons.mp behind).resolve_left (by decide))

private theorem isNumeral_plain (x : Float) : IsNumeral (plain x).toList := by
  unfold plain
  split
  · exact ⟨by decide,by decide⟩
  · rw [String.toList_ofList]
    exact isNumeral_signed ⟨by decide,by decide⟩
  · rw [String.toList_ofList]
    exact isNumeral_signed ⟨by decide,by decide⟩
  · rw [String.toList_ofList]
    exact isNumeral_signed (isUnsigned_positional (isUnsigned_toDigits _) _)

end Decimal

namespace Css
open Letterpress.Text

private theorem isFigure_of_mem_toString {n : Int} : ∀ c ∈ (toString n).toList, IsFigure c := by
  cases n with
  | ofNat n =>
    change ∀ c ∈ n.repr.toList, _
    rw [Nat.toList_repr]
    exact fun c => isFigure_of_mem_toDigits
  | negSucc n =>
    change ∀ c ∈ ("-" ++ (n + 1).repr).toList, _
    rw [String.toList_append,Nat.toList_repr]
    intro c member
    rcases List.mem_append.mp member with sign | digit
    · rw [List.mem_singleton.mp sign]
      decide
    · exact isFigure_of_mem_toDigits digit

theorem isFigure_of_mem_number {x : Float} : ∀ c ∈ (number x).toList, IsFigure c := by
  unfold number
  split
  · exact isFigure_of_mem_toString
  · exact Decimal.isFigure_of_mem_plain

theorem isFigure_of_mem_dashed {x : Float} :
    ∀ c ∈ (String.ofList (Text.replaceChar '.' ['-'] (number x).toList)).toList, IsFigure c := by
  intro c member
  rw [String.toList_ofList] at member
  obtain ⟨d,figure,written⟩ := List.mem_flatMap.mp member
  split at written
  · rw [List.mem_singleton.mp written]
    decide
  · rw [List.mem_singleton.mp written]
    exact isFigure_of_mem_number d figure

theorem isFigure_of_mem_columnClass {width : Width} : ∀ c ∈ width.columnClass.toList, IsFigure c := by
  cases width with
  | pixels count =>
    rw [Width.columnClass,String.toList_append]
    exact List.forall_mem_append.mpr ⟨isFigure_of_all (by decide),isFigure_of_mem_dashed⟩
  | percent share =>
    rw [Width.columnClass,String.toList_append]
    exact List.forall_mem_append.mpr ⟨isFigure_of_all (by decide),isFigure_of_mem_dashed⟩

private theorem isNumeral_toString (n : Int) : IsNumeral (toString n).toList := by
  cases n with
  | ofNat n =>
    change IsNumeral n.repr.toList
    rw [Nat.toList_repr]
    exact (isUnsigned_toDigits n).isNumeral
  | negSucc n =>
    change IsNumeral ("-" ++ (n + 1).repr).toList
    rw [String.toList_append,Nat.toList_repr]
    exact ⟨by simp,(isUnsigned_toDigits (n + 1)).2⟩

private theorem isNumeral_number (x : Float) : IsNumeral (number x).toList := by
  unfold number
  split
  · exact isNumeral_toString _
  · exact Decimal.isNumeral_plain x

private theorem replaceChar_cons (c d x : Char) (s : List Char) :
    replaceChar c [d] (x :: s) = (if x = c then d else x) :: replaceChar c [d] s := by
  by_cases same : x = c <;> simp [replaceChar,same]

/-- Where there is no minus sign, the points come back from those that took their place. -/
theorem replaceChar_replaceChar {s : List Char} (noMinus : '-' ∉ s) : replaceChar '-' ['.'] (replaceChar '.' ['-'] s) = s := by
  induction s with
  | nil => rfl
  | cons c s ih =>
    obtain ⟨other,later⟩ := not_or.mp (List.mem_cons.not.mp noMinus)
    rw [replaceChar_cons,replaceChar_cons,ih later]
    by_cases point : c = '.'
    · simp [point]
    · simp [point,Ne.symm other]

private theorem eq_of_replaceChar {s t : List Char} (numeral : IsNumeral s) (numeralToo : IsNumeral t)
    (same : replaceChar '.' ['-'] s = replaceChar '.' ['-'] t) : s = t := by
  obtain ⟨first,noMinus⟩ := numeral
  obtain ⟨firstToo,noneToo⟩ := numeralToo
  have empty : replaceChar '.' ['-'] [] = [] := rfl
  cases s with
  | nil =>
    cases t with
    | nil => rfl
    | cons d t => simp [empty,replaceChar_cons] at same
  | cons c s =>
    cases t with
    | nil => simp [empty,replaceChar_cons] at same
    | cons d t =>
      have head : c ≠ '.' := fun point => first (congrArg some point)
      have headToo : d ≠ '.' := fun point => firstToo (congrArg some point)
      rw [replaceChar_cons,replaceChar_cons,if_neg head,if_neg headToo] at same
      obtain ⟨rfl,rest⟩ := List.cons.inj same
      have tails : s = t := calc
        s = replaceChar '-' ['.'] (replaceChar '.' ['-'] s) := (replaceChar_replaceChar noMinus).symm
        _ = replaceChar '-' ['.'] (replaceChar '.' ['-'] t) := by rw [rest]
        _ = t := replaceChar_replaceChar noneToo
      rw [tails]

private theorem dashed_eq_iff (lead : String) (x y : Float) :
    lead ++ String.ofList (replaceChar '.' ['-'] (number x).toList) =
      lead ++ String.ofList (replaceChar '.' ['-'] (number y).toList) ↔ number x = number y := by
  constructor
  · intro same
    have lists := congrArg String.toList same
    simp only [String.toList_append,String.toList_ofList,List.append_cancel_left_eq] at lists
    exact String.toList_inj.mp (eq_of_replaceChar (isNumeral_number x) (isNumeral_number y) lists)
  · intro same
    rw [same]

/-- Widths have the same class exactly if they are written the same. -/
theorem columnClass_eq_iff (a b : Width) : a.columnClass = b.columnClass ↔ a.value = b.value := by
  have kinds (x y : String) : "mj-column-px-" ++ x ≠ "mj-column-per-" ++ y := fun same => by
    have lists := congrArg String.toList same
    simp [String.toList_append] at lists
  have units (x y : String) : x ++ "px" ≠ y ++ "%" := fun same => by
    have last := congrArg (·.toList.getLast?) same
    simp [String.toList_append] at last
  cases a with
  | pixels x =>
    cases b with
    | pixels y =>
      rw [Width.columnClass,Width.columnClass,dashed_eq_iff,Width.value,Width.value,px,px]
      exact ⟨fun same => by rw [same],fun same => by simpa using same⟩
    | percent y => exact iff_of_false (kinds _ _) (units _ _)
  | percent x =>
    cases b with
    | pixels y => exact iff_of_false (kinds _ _).symm (units _ _).symm
    | percent y =>
      rw [Width.columnClass,Width.columnClass,dashed_eq_iff,Width.value,Width.value]
      exact ⟨fun same => by rw [same],fun same => by simpa using same⟩

end Css

end Letterpress
