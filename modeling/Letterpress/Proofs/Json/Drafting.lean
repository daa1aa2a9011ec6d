import Letterpress.Json.Value
import Letterpress.Proofs.Json.Scanning

/-! What the text of a value is read as. Except for doubles, which may come out as their neighbours, every part of the text is
read as the part of the value that it was written for. -/
namespace Letterpress.Json
open Letterpress.Decimal (greatestWord twoTo)

variable {c : Char} {s t rest : List Char} {n : Number} {fuel : Nat}

mutual
/-- The numbers in a value, from left to right. -/
def numbers : Json → List Number
  | number n => [n]
  | array items => listNumbers items
  | object members => memberNumbers members
  | _ => []

def listNumbers : List Json → List Number
  | [] => []
  | item :: items => numbers item ++ listNumbers items

def memberNumbers : List (String × Json) → List Number
  | [] => []
  | (_, value) :: members => numbers value ++ memberNumbers members
end

mutual
/-- The draft that the text of a value is read as. -/
def textDraft : Json → Draft
  | null => .null
  | bool b => .bool b
  | number n => (Draft.ofText n.text.toList).1
  | string s => .string (.ok s)
  | array items => .array (textDrafts items) none
  | object members => .object (memberTextDrafts members) none

def textDrafts : List Json → List Draft
  | [] => []
  | item :: items => textDraft item :: textDrafts items

def memberTextDrafts : List (String × Json) → List (Spelling × Draft)
  | [] => []
  | (key, value) :: members => (.ok key, textDraft value) :: memberTextDrafts members
end

private theorem skip_cons (bare : isJsonBlank c = false) (s : List Char) : skip (c :: s) = c :: s :=
  List.dropWhile_cons_of_neg (by simp [bare])

private theorem not_isJsonBlank_of_isDigit (digit : c.isDigit = true) : isJsonBlank c = false := by
  by_contra blank
  simp only [isJsonBlank,Bool.not_eq_false,Bool.or_eq_true,beq_iff_eq] at blank
  rcases blank with ((rfl | rfl) | rfl) | rfl <;> contradiction

private theorem draftValue_digit (digit : c.isDigit = true) (fuel : Nat) (s : List Char) :
    draftValue (fuel + 1) (c :: s) = match scanNumber false (c :: s) with
      | .ok (value, rest) => (.number value, some rest)
      | .error tear => (.torn tear, none) := by
  rw [draftValue,skip_cons (not_isJsonBlank_of_isDigit digit)]
  split
  · contradiction
  · next same => cases same; contradiction
  · next same => cases same; contradiction
  · next same => cases same; contradiction
  · next same => cases same; contradiction
  · next same => cases same; contradiction
  · next same => cases same; contradiction
  · next same => cases same; contradiction
  · next same =>
    cases same
    exact if_pos digit

private theorem draftValue_minus (fuel : Nat) (s : List Char) :
    draftValue (fuel + 1) ('-' :: s) = match scanNumber true s with
      | .ok (value, rest) => (.number value, some rest)
      | .error tear => (.torn tear, none) := by
  rw [draftValue,skip_cons rfl]
  rfl

private theorem IsNumeral.exists_cons (numeral : IsNumeral s) : ∃ c t, s = c :: t ∧ c.isDigit = true := by
  obtain ⟨w,f,p,whole,-,-,rfl⟩ := numeral
  cases whole with
  | zero => exact ⟨'0',_,rfl,rfl⟩
  | digits _ digits => exact ⟨_,_,rfl,digits _ List.mem_cons_self⟩

theorem draftValue_numeral (numeral : IsNumeral s) (negative : Bool) {v : Except Fault Number}
    (scans : scanNumber negative (s ++ rest) = .ok (v, rest)) (fuel : Nat) :
    draftValue (fuel + 1) (Decimal.signed negative s ++ rest) = (.number v, some rest) := by
  cases negative with
  | true =>
    change draftValue (fuel + 1) ('-' :: (s ++ rest)) = _
    rw [draftValue_minus,scans]
  | false =>
    obtain ⟨c,t,rfl,digit⟩ := numeral.exists_cons
    change draftValue (fuel + 1) (c :: (t ++ rest)) = _
    rw [draftValue_digit digit,← List.cons_append,scans]

/-- A number with a numeral for its text, as every number has but for the doubles that are not finite. -/
def Number.Legible (n : Number) : Prop := ∃ negative s, IsNumeral s ∧ n.text.toList = Decimal.signed negative s

theorem toList_text_nonnegative (n : Nat) : (Number.text (.int n)).toList = Nat.toDigits 10 n := Nat.toList_repr

theorem toList_text_negative {n : Nat} (nonzero : n ≠ 0) : (Number.text (.int (-(n : Int)))).toList = '-' :: Nat.toDigits 10 n := by
  rw [Number.text,Int.toString_eq_repr,Int.repr_eq_if,if_neg (by omega),String.toList_append,Int.neg_neg,Int.toNat_natCast,
    Nat.toList_repr]
  rfl

theorem Number.legible_int (i : Int) : (Number.int i).Legible := by
  by_cases nonnegative : 0 ≤ i
  · obtain ⟨n,rfl⟩ := Int.eq_ofNat_of_zero_le nonnegative
    exact ⟨false,_,isNumeral_toDigits n,toList_text_nonnegative n⟩
  · obtain ⟨n,nonzero,rfl⟩ : ∃ n : Nat, n ≠ 0 ∧ i = -(n : Int) := ⟨i.natAbs,by omega,by omega⟩
    exact ⟨true,_,isNumeral_toDigits n,toList_text_negative nonzero⟩

theorem Number.legible_float {x : Float} (finite : Decimal.isFinite x = true) : (Number.float x).Legible := by
  unfold Decimal.isFinite at finite
  split at finite
  · next parts =>
    obtain ⟨s,numeral,spelled⟩ := exists_scientific parts
    exact ⟨_,s,numeral,spelled⟩
  · contradiction

private theorem Number.Legible.exists_cons (legible : n.Legible) :
    ∃ c t, n.text.toList = c :: t ∧ isJsonBlank c = false ∧ c ≠ ']' := by
  obtain ⟨negative,s,numeral,spelled⟩ := legible
  cases negative with
  | true => exact ⟨'-',s,spelled,rfl,by decide⟩
  | false =>
    obtain ⟨c,t,rfl,digit⟩ := numeral.exists_cons
    refine ⟨c,t,spelled,not_isJsonBlank_of_isDigit digit,?_⟩
    rintro rfl
    contradiction

/-- Wherever the text of a number stands, the same is read: a number, though perhaps one that is out of range. -/
theorem Number.Legible.exists_draft (legible : n.Legible) : ∃ v, textDraft (.number n) = .number v ∧
    ∀ fuel rest, Stops rest → draftValue (fuel + 1) (n.text.toList ++ rest) = (.number v, some rest) := by
  obtain ⟨negative,s,numeral,spelled⟩ := legible
  obtain ⟨v,scans⟩ := exists_scanNumber numeral negative
  have reads (fuel : Nat) (rest : List Char) (stops : Stops rest) :
      draftValue (fuel + 1) (n.text.toList ++ rest) = (.number v, some rest) := by
    rw [spelled]
    exact draftValue_numeral numeral negative (scans rest stops) fuel
  refine ⟨v,?_,reads⟩
  have whole : draftValue (2 * n.text.toList.length + 1 + 1) n.text.toList = (.number v, some []) := by
    rw [← reads _ [] stops_nil,List.append_nil]
  rw [textDraft,Draft.ofText,whole]

section
variable {d : Draft} {ds : List Draft} {members : List (Spelling × Draft)}

private theorem draftItems_first (bare : isJsonBlank c = false) (further : c ≠ ']') (value :
    draftValue fuel (c :: s) = (d, some t)) (more : draftItems fuel false t = (ds, none, some rest)) :
    draftItems (fuel + 1) true (c :: s) = (d :: ds, none, some rest) := by
  have start : skip (c :: s) = c :: s := skip_cons bare s
  simp [draftItems,start,value,more]

private theorem draftItems_next (bare : isJsonBlank c = false) (further : c ≠ ']') (value :
    draftValue fuel (c :: s) = (d, some t)) (more : draftItems fuel false t = (ds, none, some rest)) :
    draftItems (fuel + 1) false (',' :: c :: s) = (d :: ds, none, some rest) := by
  have behind : skip (c :: s) = c :: s := skip_cons bare s
  have start : skip (',' :: c :: s) = ',' :: c :: s := skip_cons rfl _
  simp [draftItems,start,behind,further,value,more]

private theorem draftValue_list (items : draftItems fuel true s = (ds, none, some rest)) :
    draftValue (fuel + 1) ('[' :: s) = (.array ds none, some rest) := by
  have start : skip ('[' :: s) = '[' :: s := skip_cons rfl s
  simp [draftValue,start,items]

private theorem draftValue_object (read : draftMembers fuel true s = (members, none, some rest)) :
    draftValue (fuel + 1) ('\x7b' :: s) = (.object members none, some rest) := by
  have start : skip ('\x7b' :: s) = '\x7b' :: s := skip_cons rfl s
  simp [draftValue,start,read]

private theorem draftItems_end (fuel : Nat) (first : Bool) (rest : List Char) :
    draftItems (fuel + 1) first (']' :: rest) = ([], none, some rest) := by
  rw [draftItems,skip_cons rfl]
  rfl

private theorem draftMembers_first (key : String) (value : draftValue fuel s = (d, some t))
    (more : draftMembers fuel false t = (members, none, some rest)) :
    draftMembers (fuel + 1) true ((quotedText key).toList ++ ':' :: s) = ((.ok key, d) :: members, none, some rest) := by
  have colon : skip (':' :: s) = ':' :: s := skip_cons rfl s
  have quote (s : List Char) : skip ('"' :: s) = '"' :: s := skip_cons rfl s
  rw [toList_quotedText,List.cons_append,List.append_assoc,List.singleton_append]
  simp [draftMembers,quote,scanString_escaped,colon,value,more]

private theorem draftMembers_next (key : String) (value : draftValue fuel s = (d, some t))
    (more : draftMembers fuel false t = (members, none, some rest)) :
    draftMembers (fuel + 1) false (',' :: ((quotedText key).toList ++ ':' :: s)) =
      ((.ok key, d) :: members, none, some rest) := by
  have colon : skip (':' :: s) = ':' :: s := skip_cons rfl s
  have quote (s : List Char) : skip ('"' :: s) = '"' :: s := skip_cons rfl s
  have comma (s : List Char) : skip (',' :: s) = ',' :: s := skip_cons rfl s
  rw [toList_quotedText,List.cons_append,List.append_assoc,List.singleton_append]
  simp [draftMembers,quote,comma,scanString_escaped,colon,value,more]

private theorem draftMembers_end (fuel : Nat) (first : Bool) (rest : List Char) :
    draftMembers (fuel + 1) first ('\x7d' :: rest) = ([], none, some rest) := by
  rw [draftMembers,skip_cons rfl]
  rfl

end

private theorem toList_text_array (items : List Json) :
    (text (.array items)).toList = '[' :: ((",".intercalate (texts items)).toList ++ [']']) := by
  rw [text,String.toList_append,String.toList_append]
  rfl

private theorem toList_text_object (members : List (String × Json)) :
    (text (.object members)).toList = '\x7b' :: ((",".intercalate (memberTexts members)).toList ++ ['\x7d']) := by
  rw [text,String.toList_append,String.toList_append]
  rfl

private theorem exists_text_cons (j : Json) (legible : ∀ n ∈ j.numbers, n.Legible) :
    ∃ c t, (text j).toList = c :: t ∧ isJsonBlank c = false ∧ c ≠ ']' := by
  cases j with
  | null => exact ⟨'n',_,rfl,rfl,by decide⟩
  | bool b =>
    cases b with
    | true => exact ⟨'t',_,rfl,rfl,by decide⟩
    | false => exact ⟨'f',_,rfl,rfl,by decide⟩
  | number n => exact (legible n List.mem_cons_self).exists_cons
  | string s => exact ⟨'"',_,toList_quotedText s,rfl,by decide⟩
  | array items => exact ⟨'[',_,toList_text_array items,rfl,by decide⟩
  | object members => exact ⟨'\x7b',_,toList_text_object members,rfl,by decide⟩

/-- What stands behind the first of some items or members, up to their end. -/
def further (texts : List String) : List Char := texts.flatMap fun s => ',' :: s.toList

private theorem further_cons (first : String) (others : List String) (s : List Char) :
    further (first :: others) ++ s = ',' :: (first.toList ++ (further others ++ s)) := by
  simp [further]

private theorem stops_further (texts : List String) (stop : c = ',' ∨ c = ']' ∨ c = '\x7d') (rest : List Char) :
    Stops (further texts ++ c :: rest) := by
  cases texts with
  | nil => exact stops_cons stop rest
  | cons first others => exact stops_cons (.inl rfl) _

private theorem toList_intercalate_cons (first : String) (others : List String) :
    (",".intercalate (first :: others)).toList = first.toList ++ further others := by
  induction others generalizing first with
  | nil => rw [String.intercalate_singleton,further,List.flatMap_nil,List.append_nil]
  | cons second others ih =>
    rw [String.intercalate_cons_cons,String.toList_append,String.toList_append,ih,List.append_assoc]
    rfl

private theorem toList_text_array_cons (item : Json) (items : List Json) (rest : List Char) :
    (text (.array (item :: items))).toList ++ rest = '[' :: ((text item).toList ++ (further (texts items) ++ ']' :: rest)) := by
  rw [toList_text_array,texts,toList_intercalate_cons]
  simp

private theorem toList_memberText (key : String) (value : Json) (s : List Char) :
    (quotedText key ++ ":" ++ text value).toList ++ s = (quotedText key).toList ++ ':' :: ((text value).toList ++ s) := by
  simp

private theorem toList_text_object_cons (key : String) (value : Json) (members : List (String × Json)) (rest : List Char) :
    (text (.object ((key, value) :: members))).toList ++ rest =
      '\x7b' :: ((quotedText key).toList ++ ':' :: ((text value).toList ++ (further (memberTexts members) ++ '\x7d' :: rest))) := by
  rw [toList_text_object,memberTexts,toList_intercalate_cons]
  simp

private theorem exists_fuel (enough : 2 * (c :: s).length ≤ fuel) : ∃ less, fuel = less + 2 ∧ 2 * s.length ≤ less :=
  ⟨fuel - 2,by rw [List.length_cons] at enough; omega,by rw [List.length_cons] at enough; omega⟩

mutual
/-- The text of a value is read to its end, whatever stops it. Two units of fuel for each character are enough, since of two
steps of the reader one passes a character. -/
theorem draftValue_text : ∀ (j : Json), (∀ n ∈ j.numbers, n.Legible) → ∀ (fuel : Nat) {rest : List Char}, Stops rest →
    2 * ((text j).toList ++ rest).length ≤ fuel → draftValue fuel ((text j).toList ++ rest) = (textDraft j, some rest)
  | .null => by
    intro _ fuel rest _ enough
    obtain ⟨fuel,rfl,_⟩ := exists_fuel enough
    rfl
  | .bool true => by
    intro _ fuel rest _ enough
    obtain ⟨fuel,rfl,_⟩ := exists_fuel enough
    rfl
  | .bool false => by
    intro _ fuel rest _ enough
    obtain ⟨fuel,rfl,_⟩ := exists_fuel enough
    rfl
  | .number n => by
    intro legible fuel rest stops enough
    have own := legible n List.mem_cons_self
    obtain ⟨c,t,spelled,-⟩ := own.exists_cons
    rw [text,spelled,List.cons_append] at enough
    obtain ⟨fuel,rfl,_⟩ := exists_fuel enough
    obtain ⟨v,draft,reads⟩ := own.exists_draft
    rw [draft]
    exact reads _ rest stops
  | .string s => by
    intro _ fuel rest _ enough
    rw [text,toList_quotedText,List.cons_append] at enough ⊢
    obtain ⟨fuel,rfl,_⟩ := exists_fuel enough
    have quote (s : List Char) : skip ('"' :: s) = '"' :: s := skip_cons rfl s
    simp [draftValue,quote,scanString_escaped,textDraft]
  | .array [] => by
    intro _ fuel rest _ enough
    obtain ⟨fuel,rfl,_⟩ := exists_fuel enough
    exact draftValue_list (draftItems_end fuel true rest)
  | .array (item :: items) => by
    intro legible fuel rest stops enough
    rw [numbers,listNumbers,List.forall_mem_append] at legible
    rw [toList_text_array_cons] at enough ⊢
    obtain ⟨fuel,rfl,within⟩ := exists_fuel enough
    obtain ⟨c,t,begun,bare,further⟩ := exists_text_cons item legible.1
    have value := draftValue_text item legible.1 fuel (stops_further (texts items) (.inr (.inl rfl)) rest) within
    have more := draftItems_texts items legible.2 fuel rest (by
      rw [begun] at within
      simp only [List.length_append,List.length_cons] at within ⊢
      omega)
    rw [begun,List.cons_append] at value ⊢
    exact draftValue_list (draftItems_first bare further value more)
  | .object [] => by
    intro _ fuel rest _ enough
    obtain ⟨fuel,rfl,_⟩ := exists_fuel enough
    exact draftValue_object (draftMembers_end fuel true rest)
  | .object ((key, value) :: members) => by
    intro legible fuel rest stops enough
    rw [numbers,memberNumbers,List.forall_mem_append] at legible
    rw [toList_text_object_cons] at enough ⊢
    obtain ⟨fuel,rfl,within⟩ := exists_fuel enough
    simp only [List.length_append,List.length_cons] at within
    have value := draftValue_text value legible.1 fuel (stops_further (memberTexts members) (.inr (.inr rfl)) rest) (by
      simp only [List.length_append,List.length_cons]
      omega)
    have more := draftMembers_texts members legible.2 fuel rest (by
      simp only [List.length_append,List.length_cons]
      omega)
    exact draftValue_object (draftMembers_first key value more)

private theorem draftItems_texts : ∀ (items : List Json), (∀ n ∈ listNumbers items, n.Legible) → ∀ (fuel : Nat)
    (rest : List Char),
    2 * (further (texts items) ++ ']' :: rest).length ≤ fuel + 1 →
    draftItems fuel false (further (texts items) ++ ']' :: rest) = (textDrafts items, none, some rest)
  | [] => by
    intro _ fuel rest enough
    rw [texts,further,List.flatMap_nil,List.nil_append] at enough ⊢
    obtain ⟨fuel,rfl⟩ : ∃ less, fuel = less + 1 := ⟨fuel - 1,by rw [List.length_cons] at enough; omega⟩
    exact draftItems_end fuel false rest
  | item :: items => by
    intro legible fuel rest enough
    rw [listNumbers,List.forall_mem_append] at legible
    rw [texts,further_cons] at enough ⊢
    obtain ⟨fuel,rfl⟩ : ∃ less, fuel = less + 1 := ⟨fuel - 1,by rw [List.length_cons] at enough; omega⟩
    obtain ⟨c,t,begun,bare,further⟩ := exists_text_cons item legible.1
    have value := draftValue_text item legible.1 fuel (stops_further (texts items) (.inr (.inl rfl)) rest) (by
      rw [List.length_cons] at enough
      omega)
    have more := draftItems_texts items legible.2 fuel rest (by
      rw [begun] at enough
      simp only [List.length_append,List.length_cons] at enough ⊢
      omega)
    rw [begun,List.cons_append] at value ⊢
    exact draftItems_next bare further value more

private theorem draftMembers_texts : ∀ (members : List (String × Json)), (∀ n ∈ memberNumbers members, n.Legible) →
    ∀ (fuel : Nat) (rest : List Char), 2 * (further (memberTexts members) ++ '\x7d' :: rest).length ≤ fuel + 1 →
    draftMembers fuel false (further (memberTexts members) ++ '\x7d' :: rest) = (memberTextDrafts members, none, some rest)
  | [] => by
    intro _ fuel rest enough
    rw [memberTexts,further,List.flatMap_nil,List.nil_append] at enough ⊢
    obtain ⟨fuel,rfl⟩ : ∃ less, fuel = less + 1 := ⟨fuel - 1,by rw [List.length_cons] at enough; omega⟩
    exact draftMembers_end fuel false rest
  | (key, value) :: members => by
    intro legible fuel rest enough
    rw [memberNumbers,List.forall_mem_append] at legible
    rw [memberTexts,further_cons,toList_memberText] at enough ⊢
    obtain ⟨fuel,rfl⟩ : ∃ less, fuel = less + 1 := ⟨fuel - 1,by rw [List.length_cons] at enough; omega⟩
    simp only [List.length_append,List.length_cons] at enough
    have value := draftValue_text value legible.1 fuel (stops_further (memberTexts members) (.inr (.inr rfl)) rest) (by
      simp only [List.length_append,List.length_cons]
      omega)
    have more := draftMembers_texts members legible.2 fuel rest (by
      simp only [List.length_append,List.length_cons]
      omega)
    exact draftMembers_next key value more
end

/-- The draft of a text that was written for a value. -/
theorem ofText_text (j : Json) (legible : ∀ n ∈ j.numbers, n.Legible) : Draft.ofText (text j).toList = (textDraft j, false) := by
  have reads := draftValue_text j legible (2 * (text j).toList.length + 2) stops_nil (by
    rw [List.append_nil]
    omega)
  rw [List.append_nil] at reads
  rw [Draft.ofText,reads]
  rfl

end Letterpress.Json
