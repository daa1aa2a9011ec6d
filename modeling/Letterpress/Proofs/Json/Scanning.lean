import Letterpress.Json.Draft
import Letterpress.Json.Numeral
import Letterpress.Json.Writer
import Letterpress.Proofs.Decimal.Digits
import Mathlib.Data.List.Basic

/-! Texts in quotes are read back, and numbers as far as they are numerals. Each of them is read to its end, whatever stops it.
A character is written as itself, as a letter behind a backslash, or by the four digits of its code; whichever it is, the
reader comes upon this character again and stands behind what was written. -/
namespace Letterpress.Json
open Letterpress.Text
open Letterpress.Decimal (fitsWord greatestWord parts positional scientific shortest signed twoTo)

variable {c : Char} {s t w f p ds rest : List Char} {fuel n : Nat} {before : Int}

/-- How a character may be written between quotes. -/
inductive Escaping (c : Char) : List Char → Prop
  | plain (low : ¬c.toNat < 0x20) (quote : c ≠ '"') (slash : c ≠ '\\') : Escaping c [c]
  | letter {e : Char} (stands : simpleEscape? e = some c) (other : e ≠ 'u') : Escaping c ['\\', e]
  | code (low : c.toNat < 0x20) : Escaping c ('\\' :: 'u' :: hexDigits c.toNat)

private theorem escaping_escapedChar (c : Char) : Escaping c (escapedChar c) := by
  unfold escapedChar
  split
  · exact .letter rfl (by decide)
  · exact .letter rfl (by decide)
  · exact .letter rfl (by decide)
  · exact .letter rfl (by decide)
  · exact .letter rfl (by decide)
  · exact .letter rfl (by decide)
  · exact .letter rfl (by decide)
  · next quote slash _ _ _ _ _ =>
    split
    · next low => exact .code low
    · next low => exact .plain low quote slash

private theorem hexNumber?_hexDigits {n : Nat} (low : n < 0x20) : hexNumber? (hexDigits n) = some n := by
  have all : ∀ n : Fin 0x20, hexNumber? (hexDigits n) = some n.val := by decide
  exact all ⟨n,low⟩

private theorem length_hexDigits {n : Nat} (low : n < 0x20) : (hexDigits n).length = 4 := by
  have all : ∀ n : Fin 0x20, (hexDigits n).length = 4 := by decide
  exact all ⟨n,low⟩

private theorem length_le_byteLength (s : List Char) : s.length ≤ byteLength s := by
  induction s with
  | nil => exact Nat.le_refl 0
  | cons c s ih =>
    rw [List.length_cons,byteLength]
    have wide := c.utf8Size_pos
    omega

private theorem scanUnit_hexDigits {n : Nat} (low : n < 0x20) (rest : List Char) :
    scanUnit (hexDigits n ++ rest) = .ok (n, rest) := by
  have value := hexNumber?_hexDigits low
  have four := length_hexDigits low
  have long := length_le_byteLength (hexDigits n ++ rest)
  rw [List.length_append,four] at long
  obtain ⟨x,y,z,w,spelled⟩ := List.length_eq_four.mp four
  rw [spelled] at long value ⊢
  unfold scanUnit
  rw [if_neg (by omega)]
  simp only [List.cons_append,List.nil_append,value]

private theorem scanEscape_code (low : c.toNat < 0x20) (rest : List Char) :
    scanEscape ('u' :: (hexDigits c.toNat ++ rest)) = .ok (.ok c, rest) := by
  rw [scanEscape,scanUnit_hexDigits low]
  change (if 0xdc00 ≤ c.toNat ∧ c.toNat ≤ 0xdfff then _ else _) = _
  rw [if_neg (by omega),if_pos (by omega),Char.ofNat_toNat]
  rfl

private theorem scanEscape_letter {e : Char} (stands : simpleEscape? e = some c) (other : e ≠ 'u') (rest : List Char) :
    scanEscape (e :: rest) = .ok (.ok c, rest) := by
  unfold scanEscape
  split
  · contradiction
  · next same => exact absurd (List.cons.inj same).1 other
  · next same =>
    cases same
    rw [stands]

private theorem Escaping.scanText_eq {written : List Char} (escaping : Escaping c written) (before : List Char) (fuel : Nat)
    (rest : List Char) : scanText (.ok before) (fuel + 1) (written ++ rest) = scanText (.ok (c :: before)) fuel rest := by
  cases escaping with
  | plain low quote slash =>
    rw [List.singleton_append,scanText]
    · rw [if_neg low]
      rfl
    · exact quote
    · exact slash
  | letter stands other =>
    rw [List.cons_append,List.singleton_append,scanText,scanEscape_letter stands other]
  | code low =>
    rw [List.cons_append,List.cons_append,scanText,scanEscape_code low]

private theorem scanText_escaped (before : List Char) (s rest : List Char) (enough : s.length < fuel) :
    scanText (.ok before) fuel (s.flatMap escapedChar ++ '"' :: rest) =
      .ok (.ok (String.ofList (before.reverse ++ s)), rest) := by
  induction s generalizing before fuel with
  | nil =>
    obtain ⟨fuel,rfl⟩ : ∃ less, fuel = less + 1 := ⟨fuel - 1,by simp at enough; omega⟩
    simp [scanText,Except.map]
  | cons c s ih =>
    obtain ⟨fuel,rfl⟩ : ∃ less, fuel = less + 1 := ⟨fuel - 1,by omega⟩
    rw [List.flatMap_cons,List.append_assoc,(escaping_escapedChar c).scanText_eq,ih (c :: before) (by simpa using enough),
      List.reverse_cons,List.append_assoc,List.singleton_append]

private theorem Escaping.length_pos {written : List Char} (escaping : Escaping c written) : 0 < written.length := by
  cases escaping <;> simp

private theorem length_le_escaped (s : List Char) : s.length ≤ (s.flatMap escapedChar).length := by
  induction s with
  | nil => exact Nat.le_refl 0
  | cons c s ih =>
    have long := (escaping_escapedChar c).length_pos
    rw [List.flatMap_cons,List.length_append,List.length_cons]
    omega

theorem toList_quotedText (s : String) : (quotedText s).toList = '"' :: (s.toList.flatMap escapedChar ++ ['"']) := by
  rw [quotedText,String.toList_ofList,List.cons_append]

/-- Behind its first quote, a text that was written between quotes is read back. -/
theorem scanString_escaped (s : String) (rest : List Char) :
    scanString (s.toList.flatMap escapedChar ++ '"' :: rest) = .ok (.ok s, rest) := by
  have long := length_le_escaped s.toList
  rw [scanString,scanText_escaped [] s.toList rest (by rw [List.length_append]; omega)]
  simp

def AreDigits (s : List Char) : Prop := ∀ c ∈ s, c.isDigit = true

inductive IsWhole : List Char → Prop
  | zero : IsWhole ['0']
  | digits {c : Char} {s : List Char} (leads : c ≠ '0') (digits : AreDigits (c :: s)) : IsWhole (c :: s)

inductive IsFraction : List Char → Prop
  | none : IsFraction []
  | digits {s : List Char} (nonempty : s ≠ []) (digits : AreDigits s) : IsFraction ('.' :: s)

inductive IsPower : List Char → Prop
  | none : IsPower []
  | digits {sign : Char} {s : List Char} (signed : sign = '+' ∨ sign = '-') (nonempty : s ≠ []) (digits : AreDigits s) :
      IsPower ('e' :: sign :: s)

/-- What is between the sign of a number and its end. -/
def IsNumeral (s : List Char) : Prop := ∃ w f p, IsWhole w ∧ IsFraction f ∧ IsPower p ∧ s = w ++ (f ++ p)

/-- What may stand behind a value: nothing, or the comma or bracket that stops it. -/
def Stops (rest : List Char) : Prop := ∀ c ∈ rest.head?, c = ',' ∨ c = ']' ∨ c = '\x7d'

theorem stops_nil : Stops [] := fun _ among => nomatch among

theorem stops_cons (stop : c = ',' ∨ c = ']' ∨ c = '\x7d') (rest : List Char) : Stops (c :: rest) := by
  rintro _ ⟨⟩
  exact stop

def NoDigit (s : List Char) : Prop := ∀ c ∈ s.head?, c.isDigit = false

private theorem Stops.noDigit (stops : Stops rest) : NoDigit rest := fun c head => by
  rcases stops c head with rfl | rfl | rfl <;> decide

private theorem IsPower.noDigit (power : IsPower p) (stops : Stops rest) : NoDigit (p ++ rest) := by
  cases power with
  | none => exact stops.noDigit
  | digits => rintro _ ⟨⟩; decide

private theorem IsFraction.noDigit (fraction : IsFraction f) (power : IsPower p) (stops : Stops rest) :
    NoDigit (f ++ (p ++ rest)) := by
  cases fraction with
  | none => exact power.noDigit stops
  | digits => rintro _ ⟨⟩; decide

private theorem takeWhile_digits (digits : AreDigits s) (stop : NoDigit t) : (s ++ t).takeWhile Char.isDigit = s := by
  rw [List.takeWhile_append_of_pos digits]
  cases t with
  | nil => exact List.append_nil s
  | cons c t => rw [List.takeWhile_cons_of_neg (by simp [stop c rfl]),List.append_nil]

private theorem dropWhile_digits (digits : AreDigits s) (stop : NoDigit t) : (s ++ t).dropWhile Char.isDigit = t := by
  rw [List.dropWhile_append_of_pos digits]
  cases t with
  | nil => rfl
  | cons c t => rw [List.dropWhile_cons_of_neg (by simp [stop c rfl])]

private theorem takeDigits_of_noDigit (stop : NoDigit t) (value taken : Nat) :
    takeDigits value taken t = (value, taken, t) := by
  cases t with
  | nil => rfl
  | cons c t => simp [takeDigits,stop c rfl]

/-- The digits that are left when no more fit are digits as well. -/
theorem exists_takeDigits (digits : AreDigits s) (value taken : Nat) : ∃ v n left, AreDigits left ∧
    n + left.length = taken + s.length ∧ ∀ t, NoDigit t → takeDigits value taken (s ++ t) = (v, n, left ++ t) := by
  induction s generalizing value taken with
  | nil => exact ⟨value,taken,[],digits,rfl,fun t stop => takeDigits_of_noDigit stop value taken⟩
  | cons c s ih =>
    obtain ⟨digit,more⟩ := List.forall_mem_cons.mp digits
    by_cases fits : fitsWord (10 * value + (c.toNat - '0'.toNat)) = true
    · obtain ⟨v,n,left,still,count,takes⟩ := ih more (10 * value + (c.toNat - '0'.toNat)) (taken + 1)
      refine ⟨v,n,left,still,by rw [count,List.length_cons]; omega,fun t stop => ?_⟩
      simp only [List.cons_append,takeDigits,digit,fits,Bool.and_self,if_true]
      exact takes t stop
    · refine ⟨value,taken,c :: s,digits,rfl,fun t _ => ?_⟩
      simp only [List.cons_append,takeDigits,digit,fits,Bool.and_false,Bool.false_eq_true,if_false]

private theorem le_ofDigitChars (s : List Char) (value : Nat) : value ≤ Nat.ofDigitChars 10 s value := by
  induction s generalizing value with
  | nil => exact Nat.le_refl value
  | cons c s ih =>
    rw [Nat.ofDigitChars_cons]
    exact Nat.le_trans (by omega) (ih _)

private theorem takeDigits_of_fits (digits : AreDigits s) (stop : NoDigit t) (value taken : Nat)
    (fits : Nat.ofDigitChars 10 s value ≤ greatestWord) :
    takeDigits value taken (s ++ t) = (Nat.ofDigitChars 10 s value, taken + s.length, t) := by
  induction s generalizing value taken with
  | nil => exact takeDigits_of_noDigit stop value taken
  | cons c s ih =>
    obtain ⟨digit,more⟩ := List.forall_mem_cons.mp digits
    rw [Nat.ofDigitChars_cons] at fits
    have first : fitsWord (10 * value + (c.toNat - '0'.toNat)) = true :=
      decide_eq_true ((le_ofDigitChars s _).trans fits)
    simp only [List.cons_append,takeDigits,digit,first,Bool.and_self,if_true]
    rw [ih more _ _ fits,Nat.ofDigitChars_cons,List.length_cons,Nat.add_assoc,Nat.add_comm 1]

private theorem exists_scanExponent {sign : Char} (signed : sign = '+' ∨ sign = '-') (nonempty : s ≠ []) (digits : AreDigits s)
    (negative : Bool) (significand : Nat) (exponent : Int) :
    ∃ v, ∀ rest, Stops rest → scanExponent negative significand exponent (sign :: (s ++ rest)) = .ok (v, rest) := by
  obtain ⟨c,s,rfl⟩ := List.exists_cons_of_ne_nil nonempty
  have digit := digits c List.mem_cons_self
  let power := (c :: s).foldl (fun n c => 10 * n + (c.toNat - '0'.toNat)) 0
  let value (below : Bool) : Except Fault Number :=
    if greatestExponent < power then
      if (decide (significand ≠ 0) && !below) = true then .error .numberOutOfRange else .ok (signedFloat negative 0.0)
    else (scaled significand (if below then exponent - power else exponent + power)).map (signedFloat negative)
  have read (below : Bool) (rest : List Char) :
      (if greatestExponent < power then
        if (decide (significand ≠ 0) && !below) = true then .ok (.error .numberOutOfRange, rest)
        else .ok (.ok (signedFloat negative 0.0), rest)
      else .ok ((scaled significand (if below then exponent - power else exponent + power)).map (signedFloat negative), rest)) =
      (Except.ok (value below, rest) : Scanned) := by
    simp only [value]
    split
    · split <;> rfl
    · rfl
  rcases signed with rfl | rfl
  · refine ⟨value false,fun rest stops => ?_⟩
    rw [← read]
    simp only [scanExponent,List.cons_append,digit]
    rw [← List.cons_append,takeWhile_digits digits stops.noDigit,dropWhile_digits digits stops.noDigit]
    rfl
  · refine ⟨value true,fun rest stops => ?_⟩
    rw [← read]
    simp only [scanExponent,List.cons_append,digit]
    rw [← List.cons_append,takeWhile_digits digits stops.noDigit,dropWhile_digits digits stops.noDigit]
    rfl

private theorem exists_scanScaled (power : IsPower p) (negative : Bool) (significand : Nat) (exponent : Int) :
    ∃ v, ∀ rest, Stops rest → scanScaled negative significand exponent (p ++ rest) = .ok (v, rest) := by
  cases power with
  | none =>
    refine ⟨(scaled significand exponent).map (signedFloat negative),fun rest stops => ?_⟩
    cases rest with
    | nil => rfl
    | cons c rest =>
      have other : ¬(c = 'e' || c = 'E') = true := by
        rcases stops c rfl with rfl | rfl | rfl <;> decide
      rw [List.nil_append,scanScaled,if_neg other]
  | digits signed nonempty digits =>
    obtain ⟨v,reads⟩ := exists_scanExponent signed nonempty digits negative significand exponent
    exact ⟨v,reads⟩

private theorem exists_scanFraction (nonempty : s ≠ []) (digits : AreDigits s) (power : IsPower p) (negative : Bool)
    (significand : Nat) (exponent : Int) :
    ∃ v, ∀ rest, Stops rest → scanFraction negative significand exponent (s ++ (p ++ rest)) = .ok (v, rest) := by
  obtain ⟨value,taken,left,still,count,takes⟩ := exists_takeDigits digits significand 0
  obtain ⟨v,reads⟩ := exists_scanScaled power negative value (exponent - taken)
  refine ⟨v,fun rest stops => ?_⟩
  have stop := power.noDigit stops
  rw [scanFraction,takes _ stop]
  cases left with
  | cons c left =>
    have digit := still c List.mem_cons_self
    simp only [List.cons_append,digit,if_true]
    rw [← List.cons_append,dropWhile_digits still stop]
    exact reads rest stops
  | nil =>
    have any : taken ≠ 0 := by
      have long := List.length_pos_of_ne_nil nonempty
      simp only [List.length_nil] at count
      omega
    rw [← reads rest stops,List.nil_append]
    cases whole : p ++ rest with
    | nil => simp only [any,if_false]
    | cons c behind =>
      have bare : c.isDigit = false := stop c (by rw [whole]; rfl)
      simp only [bare,any,Bool.false_eq_true,if_false]

private theorem scanTail_of_stops (stops : Stops rest) (negative : Bool) (significand dropped : Nat) :
    scanTail negative significand dropped rest =
      if 0 < dropped then .ok ((scaled significand dropped).map (signedFloat negative), rest)
      else if !negative then .ok (.ok (.int significand), rest)
      else if significand = 0 || twoTo 63 < significand then .ok (.ok (.float (-Decimal.ofNat significand)), rest)
      else .ok (.ok (.int (-(significand : Int))), rest) := by
  unfold scanTail
  split
  · next same => exact absurd (stops '.' rfl) (by decide)
  · next same => exact absurd (stops 'e' rfl) (by decide)
  · next same => exact absurd (stops 'E' rfl) (by decide)
  · rfl

private theorem exists_scanTail (fraction : IsFraction f) (power : IsPower p) (negative : Bool) (significand dropped : Nat) :
    ∃ v, ∀ rest, Stops rest → scanTail negative significand dropped (f ++ (p ++ rest)) = .ok (v, rest) := by
  cases fraction with
  | digits nonempty digits =>
    obtain ⟨v,reads⟩ := exists_scanFraction nonempty digits power negative significand dropped
    exact ⟨v,reads⟩
  | none =>
    cases power with
    | digits signed nonempty digits =>
      obtain ⟨v,reads⟩ := exists_scanExponent signed nonempty digits negative significand dropped
      exact ⟨v,reads⟩
    | none =>
      refine ⟨if 0 < dropped then (scaled significand dropped).map (signedFloat negative)
        else if !negative then .ok (.int significand)
        else if significand = 0 || twoTo 63 < significand then .ok (.float (-Decimal.ofNat significand))
        else .ok (.int (-(significand : Int))),fun rest stops => ?_⟩
      rw [List.nil_append,List.nil_append,scanTail_of_stops stops]
      split
      · rfl
      · split
        · rfl
        · split <;> rfl

/-- A numeral is read as a number, or found to be none that can be held; what stops it is not looked at. -/
theorem exists_scanNumber (numeral : IsNumeral s) (negative : Bool) :
    ∃ v, ∀ rest, Stops rest → scanNumber negative (s ++ rest) = .ok (v, rest) := by
  obtain ⟨w,f,p,whole,fraction,power,rfl⟩ := numeral
  cases whole with
  | zero =>
    obtain ⟨v,reads⟩ := exists_scanTail fraction power negative 0 0
    refine ⟨v,fun rest stops => ?_⟩
    rw [List.append_assoc,List.append_assoc,List.singleton_append,← reads rest stops]
    cases behind : f ++ (p ++ rest) with
    | nil => rfl
    | cons c t =>
      have bare : c.isDigit = false := fraction.noDigit power stops c (by rw [behind]; rfl)
      simp only [scanNumber,bare,Bool.false_eq_true,if_false]
  | @digits c s leads digits =>
    obtain ⟨value,taken,left,still,-,takes⟩ := exists_takeDigits digits 0 0
    obtain ⟨v,reads⟩ := exists_scanTail fraction power negative value left.length
    refine ⟨v,fun rest stops => ?_⟩
    have stop := fraction.noDigit power stops
    have digit := digits c List.mem_cons_self
    rw [List.append_assoc,List.append_assoc,List.cons_append,scanNumber]
    · simp only [digit,Bool.not_true,Bool.false_eq_true,if_false]
      rw [← List.cons_append,takes _ stop,takeWhile_digits still stop,dropWhile_digits still stop]
      exact reads rest stops
    · exact leads

private theorem areDigits_toDigits (n : Nat) : AreDigits (Nat.toDigits 10 n) := fun _ =>
  Nat.isDigit_of_mem_toDigits (by decide) (by decide)

private theorem digitChar_ne_zero (nonzero : n ≠ 0) (small : n < 10) : n.digitChar ≠ '0' := by
  have all : ∀ n : Fin 10, n.val ≠ 0 → n.val.digitChar ≠ '0' := by decide
  exact all ⟨n,small⟩ nonzero

/-- Nothing but zero itself is written with a zero in front. -/
theorem exists_toDigits (nonzero : n ≠ 0) : ∃ c s, Nat.toDigits 10 n = c :: s ∧ c ≠ '0' := by
  induction n using Nat.strong_induction_on with
  | h n ih =>
    by_cases small : n < 10
    · exact ⟨_,[],Nat.toDigits_of_lt_base small,digitChar_ne_zero nonzero small⟩
    · obtain ⟨c,s,lead,other⟩ := ih (n / 10) (by omega) (by omega)
      refine ⟨c,s ++ [(n % 10).digitChar],?_,other⟩
      rw [Nat.toDigits_of_base_le (by decide) (Nat.not_lt.mp small),lead,List.cons_append]

private theorem isWhole_toDigits (n : Nat) : IsWhole (Nat.toDigits 10 n) := by
  by_cases zero : n = 0
  · subst zero
    exact .zero
  · obtain ⟨c,s,spelled,other⟩ := exists_toDigits zero
    have digits := areDigits_toDigits n
    rw [spelled] at digits ⊢
    exact .digits other digits

theorem isNumeral_toDigits (n : Nat) : IsNumeral (Nat.toDigits 10 n) :=
  ⟨_,[],[],isWhole_toDigits n,.none,.none,by rw [List.append_nil,List.append_nil]⟩

private theorem scanNumber_toDigits (fits : n ≤ greatestWord) (stops : Stops rest) (negative : Bool) :
    scanNumber negative (Nat.toDigits 10 n ++ rest) = scanTail negative n 0 rest := by
  by_cases zero : n = 0
  · subst zero
    cases rest with
    | nil => rfl
    | cons c rest =>
      have bare := stops.noDigit c rfl
      change (if c.isDigit then _ else scanTail negative 0 0 (c :: rest)) = _
      rw [bare]
      rfl
  · obtain ⟨c,s,spelled,other⟩ := exists_toDigits zero
    have digits := areDigits_toDigits n
    have value : Nat.ofDigitChars 10 (Nat.toDigits 10 n) 0 = n := Nat.ofDigitChars_ten_toDigits
    rw [spelled] at digits value ⊢
    have takes := takeDigits_of_fits digits stops.noDigit 0 0 (by rw [value]; exact fits)
    have digit := digits c List.mem_cons_self
    rw [List.cons_append,scanNumber]
    · simp only [digit,Bool.not_true,Bool.false_eq_true,if_false]
      rw [← List.cons_append,takes,value]
      have stop : rest.takeWhile Char.isDigit = [] := takeWhile_digits (s := []) (List.forall_mem_nil _) stops.noDigit
      have behind : rest.dropWhile Char.isDigit = rest := dropWhile_digits (s := []) (List.forall_mem_nil _) stops.noDigit
      rw [stop,behind]
      rfl
    · exact other

theorem scanNumber_nonnegative (fits : n ≤ greatestWord) (stops : Stops rest) :
    scanNumber false (Nat.toDigits 10 n ++ rest) = .ok (.ok (.int n), rest) := by
  rw [scanNumber_toDigits fits stops,scanTail_of_stops stops]
  rfl

theorem scanNumber_negative (nonzero : n ≠ 0) (fits : n ≤ twoTo 63) (stops : Stops rest) :
    scanNumber true (Nat.toDigits 10 n ++ rest) = .ok (.ok (.int (-(n : Int))), rest) := by
  rw [scanNumber_toDigits (fits.trans (by decide)) stops,scanTail_of_stops stops]
  have whole : ¬(n = 0 || twoTo 63 < n) = true := by
    simp only [Bool.or_eq_true,decide_eq_true_eq]
    omega
  simp only [Nat.lt_irrefl,if_false,Bool.not_true,Bool.false_eq_true,whole]

private theorem areDigits_replicate (n : Nat) : AreDigits (List.replicate n '0') := fun c member => by
  rw [List.eq_of_mem_replicate member]
  decide

private theorem areDigits_append (first : AreDigits s) (second : AreDigits ds) : AreDigits (s ++ ds) :=
  List.forall_mem_append.mpr ⟨first,second⟩

private theorem not_mem_point (digits : AreDigits s) : '.' ∉ s := fun member => absurd (digits '.' member) (by decide)

/-- Digits with a point set among them are a whole part, or one with a fraction behind it. -/
theorem positional_cases (digits : AreDigits (c :: s)) (leads : c ≠ '0') (before : Int) :
    IsWhole (positional (c :: s) before) ∨
      ∃ w t, IsWhole w ∧ t ≠ [] ∧ AreDigits t ∧ positional (c :: s) before = w ++ '.' :: t := by
  unfold positional
  split
  · exact .inr ⟨['0'],_,.zero,by simp,areDigits_append (areDigits_replicate _) digits,rfl⟩
  · next right =>
    split
    · exact .inl (.digits leads (areDigits_append digits (areDigits_replicate _)))
    · next within =>
      obtain ⟨k,place⟩ : ∃ k, before.toNat = k + 1 := ⟨before.toNat - 1,by omega⟩
      rw [place] at within ⊢
      have lead : AreDigits (c :: s.take k) := fun d member =>
        digits d (List.mem_of_mem_take (by rwa [← List.take_succ_cons] at member))
      refine .inr ⟨_,_,.digits leads lead,?_,fun d member => digits d (List.mem_of_mem_drop member),rfl⟩
      rw [ne_eq,List.drop_eq_nil_iff]
      exact within

private theorem isNumeral_pointed {w t : List Char} (whole : IsWhole w) (nonempty : t ≠ []) (digits : AreDigits t) :
    IsNumeral (w ++ '.' :: t) :=
  ⟨w,'.' :: t,[],whole,.digits nonempty digits,.none,by rw [List.append_nil]⟩

private theorem IsWhole.areDigits (whole : IsWhole s) : AreDigits s := by
  cases whole with
  | zero => exact areDigits_replicate 1
  | digits _ digits => exact digits

private theorem isNumeral_decimal (digits : AreDigits (c :: s)) (leads : c ≠ '0') (before : Int) :
    let t := positional (c :: s) before
    IsNumeral (if t.contains '.' then t else t ++ ['.','0']) := by
  intro t
  rcases positional_cases digits leads before with whole | ⟨w,f,whole,any,fraction,spelled⟩
  · have bare : ¬t.contains '.' = true := by
      rw [List.contains_iff_mem]
      exact not_mem_point whole.areDigits
    rw [if_neg bare]
    exact isNumeral_pointed whole (by simp) (areDigits_replicate 1)
  · have point : t.contains '.' = true := by
      rw [List.contains_iff_mem]
      change '.' ∈ positional (c :: s) before
      simp [spelled]
    rw [if_pos point]
    change IsNumeral (positional (c :: s) before)
    rw [spelled]
    exact isNumeral_pointed whole any fraction

private theorem isNumeral_exponential (digits : AreDigits (c :: s)) (leads : c ≠ '0') (power : Int) :
    IsNumeral ((match c :: s with
      | [] => []
      | [c] => [c]
      | c :: rest => c :: '.' :: rest) ++ 'e' :: (if power < 0 then '-' :: Nat.toDigits 10 power.natAbs
        else '+' :: Nat.toDigits 10 power.toNat)) := by
  have exponent : IsPower ('e' :: (if power < 0 then '-' :: Nat.toDigits 10 power.natAbs
      else '+' :: Nat.toDigits 10 power.toNat)) := by
    split
    · exact .digits (.inr rfl) Nat.toDigits_ne_nil (areDigits_toDigits _)
    · exact .digits (.inl rfl) Nat.toDigits_ne_nil (areDigits_toDigits _)
  obtain ⟨digit,more⟩ := List.forall_mem_cons.mp digits
  have first : IsWhole [c] := .digits leads (List.forall_mem_singleton.mpr digit)
  cases s with
  | nil => exact ⟨[c],[],_,first,.none,exponent,rfl⟩
  | cons d s => exact ⟨[c],'.' :: d :: s,_,first,.digits (List.cons_ne_nil d s) more,exponent,rfl⟩

/-- A finite double is written as a numeral behind its sign. -/
theorem exists_scientific {x : Float} {negative : Bool} {m : Nat} {e : Int} (finite : parts x = .finite negative m e) :
    ∃ s, IsNumeral s ∧ (scientific x).toList = signed negative s := by
  unfold scientific
  rw [finite]
  cases m with
  | zero => exact ⟨['0','.','0'],isNumeral_pointed .zero (by simp) (areDigits_replicate 1),String.toList_ofList⟩
  | succ m =>
    obtain ⟨c,s,spelled,leads⟩ :=
      exists_toDigits (Decimal.shortest_ne_zero (Nat.succ_ne_zero m) (Decimal.short_of_parts finite) e)
    have digits := areDigits_toDigits (shortest (m + 1) e).digits
    refine ⟨_,?_,String.toList_ofList⟩
    dsimp only
    rw [spelled] at digits ⊢
    split
    · exact isNumeral_decimal digits leads _
    · exact isNumeral_exponential digits leads _

end Letterpress.Json
