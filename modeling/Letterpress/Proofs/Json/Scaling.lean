import Letterpress.Json.Numeral
import Letterpress.Proofs.Decimal.Amount
import Letterpress.Proofs.Json.Values

/-! What numbers are scanned as. A word is a double far below the greatest, powers of ten are not below one, and a division by such
a power does not go far beyond what is divided; so whatever is scaled without a fault is finite, and what is whole fits into a
word. -/
namespace Letterpress.Decimal
open Float.Model (Format totalExponent UnpackedFloat)
open Float.Model.UnpackedFloat

variable {n num den : Nat} {top : Int} {x : Float}

private theorem isFinite_of_below (below : IsBelow top x) : isFinite x = true := by
  rw [isFinite,parts_eq]
  rcases cases_of_below below with ⟨s,same⟩ | ⟨s,m,e,positive,same,-⟩
  · rw [same]
    rfl
  · rw [same]
    rfl

private theorem below_of_isFinite (finite : isFinite x = true) : IsBelow 1024 x := by
  rw [isFinite,parts_eq] at finite
  rw [IsBelow]
  cases same : x.toModel.unpack with
  | zero => trivial
  | finite s m e positive => exact canonical_of_unpack same
  | infinity =>
    rw [same] at finite
    contradiction
  | notANumber =>
    rw [same] at finite
    contradiction

private theorem isFinite_neg (finite : isFinite x = true) : isFinite (-x) = true := by
  have negated : Below 1024 (neg x.toModel.unpack) := by
    rcases cases_of_below (below_of_isFinite finite) with ⟨s,same⟩ | ⟨s,m,e,positive,same,canonical⟩
    · rw [same]
      trivial
    · rw [same]
      exact canonical
  have again : (-x).toModel.unpack = neg x.toModel.unpack := unpack_pack negated
  have below : IsBelow 1024 (-x) := by
    rw [IsBelow,again]
    exact negated
  exact isFinite_of_below below

private theorem roundHalfEven_le (positive : 0 < den) (short : num < 2 ^ 53 * den) : roundHalfEven num den ≤ 2 ^ 53 := by
  have quotient : num / den < 2 ^ 53 := (Nat.div_lt_iff_lt_mul positive).mpr short
  unfold roundHalfEven
  dsimp only
  split
  · omega
  · split <;> omega

private theorem quotientBits_word_le (nonzero : n ≠ 0) (word : n ≤ greatestWord) : quotientBits n 1 ≤ 1087 * 2 ^ 52 := by
  have greatest : greatestWord = 2 ^ 64 - 1 := rfl
  have digits : n.log2 < 64 := (Nat.log2_lt nonzero).mpr (by omega)
  have above : n < 2 ^ (n.log2 + 1) := (Nat.log2_lt nonzero).mp (Nat.lt_succ_self _)
  have exponent : max ((n.log2 : Int) - 52) (-1074) = (n.log2 : Int) - 52 := by omega
  have unit : twoTo 52 = 2 ^ 52 := rfl
  unfold quotientBits
  rw [binaryExponent_one nonzero,exponent]
  have fraction : (if 0 ≤ (n.log2 : Int) - 52 then roundHalfEven n (1 * twoTo ((n.log2 : Int) - 52).toNat)
      else roundHalfEven (n * twoTo (-((n.log2 : Int) - 52)).toNat) 1) ≤ 2 ^ 53 := by
    split
    · next many =>
      refine roundHalfEven_le (Nat.mul_pos Nat.one_pos (twoTo_pos _)) ?_
      have total : 53 + ((n.log2 : Int) - 52).toNat = n.log2 + 1 := by omega
      rwa [Nat.one_mul,twoTo,Nat.pow_eq,← Nat.pow_add,total]
    · next few =>
      refine roundHalfEven_le Nat.one_pos ?_
      have total : n.log2 + 1 + (-((n.log2 : Int) - 52)).toNat = 53 := by omega
      calc n * twoTo (-((n.log2 : Int) - 52)).toNat
          < 2 ^ (n.log2 + 1) * 2 ^ (-((n.log2 : Int) - 52)).toNat := Nat.mul_lt_mul_of_pos_right above (twoTo_pos _)
        _ = 2 ^ 53 * 1 := by rw [← Nat.pow_add,total,Nat.mul_one]
  refine (Nat.min_le_left _ _).trans ?_
  rw [unit]
  omega

private theorem below_word (word : n ≤ greatestWord) : IsBelow 65 (ofNat n) := by
  by_cases zero : n = 0
  · subst zero
    exact trivial
  have unit : twoTo 52 = 2 ^ 52 := rfl
  have greatest : greatestWord = 2 ^ 64 - 1 := rfl
  have short : (Nat.toDigits 10 n).length ≤ 20 := Nat.length_toDigits_le_iff (by decide) (by decide) |>.mpr (by omega)
  have spelled : ofNat n = Float.ofBits (.ofNat (quotientBits n 1)) := by
    unfold ofNat ofDecimal
    dsimp only
    rw [if_neg (by simp only [Bool.or_eq_true,decide_eq_true_eq]; omega),if_neg (by omega),if_pos (Int.le_refl 0)]
    exact congrArg (fun m => Float.ofBits (.ofNat (quotientBits m 1))) (Nat.mul_one n)
  obtain ⟨lower,higher⟩ := quotientBits_bounds zero
  have within := quotientBits_word_le zero word
  rw [spelled]
  rcases unpack_ofBits lower higher with ⟨same,_⟩ | ⟨m,positive,same⟩
  · omega
  · have canonical := (canonical_of_unpack same).1
    rw [IsBelow,same]
    exact ⟨canonical,(totalExponent_le canonical positive).trans (by omega)⟩

private theorem below_quotient (below : IsBelow top x) (least : -1074 < top) (most : top + 53 ≤ 1024) (nonzero : n ≠ 0)
    (k : Nat) : IsBelow (top + 53) (x / ofDecimal n k) := by
  have quotient : Below (top + 53) (div Format.binary64 x.toModel.unpack (ofDecimal n k).toModel.unpack) := by
    rcases unpack_ofDecimal nonzero k with same | ⟨m,e,positive,same,bounded⟩
    · rw [same]
      rcases cases_of_below below with ⟨s,zero⟩ | ⟨s,m,e,positive,finite,-⟩
      · rw [zero]
        trivial
      · rw [finite]
        trivial
    · rw [same]
      exact below_div below positive least bounded
  have again : (x / ofDecimal n k).toModel.unpack = div Format.binary64 x.toModel.unpack (ofDecimal n k).toModel.unpack :=
    unpack_pack (quotient.mono most)
  rwa [IsBelow,again]

end Letterpress.Decimal

namespace Letterpress.Json
open Decimal (IsBelow isFinite isFinite_neg isFinite_of_below)

variable {significand : Nat} {x : Float}

private theorem below_scaleDown {top : Int} (fuel exponent : Nat) (below : IsBelow top x) (least : -1074 < top)
    (most : top + 53 * fuel ≤ 1024) : IsBelow (top + 53 * fuel) (scaleDown x exponent fuel) := by
  induction fuel generalizing x exponent top with
  | zero => simpa [scaleDown] using below
  | succ fuel ih =>
    have more : top + 53 ≤ top + 53 * (fuel + 1 : Nat) := by omega
    unfold scaleDown
    split
    · exact (Decimal.below_quotient below least (by omega) Nat.one_ne_zero exponent).mono more
    · split
      · exact below.mono (by omega)
      · have rest := ih (exponent - 308) (Decimal.below_quotient below least (by omega) Nat.one_ne_zero 308) (by omega) (by omega)
        have total : top + 53 * (fuel + 1 : Nat) = top + 53 + 53 * fuel := by omega
        rwa [total]

private theorem isFinite_scaled {exponent : Int} (word : significand ≤ Decimal.greatestWord)
    (done : scaled significand exponent = .ok x) : isFinite x = true := by
  have below := Decimal.below_word word
  unfold scaled at done
  dsimp only at done
  split at done
  · split at done
    · split at done
      · next finite =>
        cases done
        exact finite
      · contradiction
    · split at done
      · cases done
        exact isFinite_of_below below
      · contradiction
  · cases done
    exact isFinite_of_below (below_scaleDown 8 exponent.natAbs below (by decide) (by decide))

private theorem isFinite_signed (negative : Bool) (finite : isFinite x = true) :
    isFinite (if negative then -x else x) = true := by
  cases negative with
  | false => exact finite
  | true => exact isFinite_neg finite

/-- Whatever is scanned fits into a word if it is whole, and is finite if not. -/
def Fitting (scanned : Scanned) : Prop := ∀ n rest, scanned = .ok (.ok n, rest) → n.Proper

private theorem fitting_error (tear : Tear) : Fitting (.error tear) := fun _ _ same => nomatch same

private theorem fitting_fault (fault : Fault) (rest : List Char) :
    Fitting (.ok (.error fault, rest)) := fun _ _ same => nomatch same

private theorem fitting_float {x : Float} (finite : Decimal.isFinite x = true) (rest : List Char) :
    Fitting (.ok (.ok (.float x), rest)) := fun _ _ same => by
  cases same
  exact finite

section
variable (word : significand ≤ Decimal.greatestWord) (negative : Bool) (exponent : Int) (s : List Char)
include word

private theorem fitting_scaled : Fitting (.ok ((scaled significand exponent).map (signedFloat negative), s)) := by
  cases done : scaled significand exponent with
  | error fault => exact fitting_fault fault s
  | ok x => exact fitting_float (isFinite_signed negative (isFinite_scaled word done)) s

private theorem fitting_scanExponent : Fitting (scanExponent negative significand exponent s) := by
  unfold scanExponent
  split
  next below s _ =>
    split
    · exact fitting_error _
    · split
      · exact fitting_error _
      · dsimp only
        split
        · split
          · exact fitting_fault _ _
          · exact fitting_float (isFinite_signed negative rfl) _
        · exact fitting_scaled word negative _ _

private theorem fitting_scanScaled : Fitting (scanScaled negative significand exponent s) := by
  unfold scanScaled
  split
  · split
    · exact fitting_scanExponent word negative exponent _
    · exact fitting_scaled word negative exponent _
  · exact fitting_scaled word negative exponent _

end

private theorem takeDigits_le (value taken : Nat) (s : List Char) (word : value ≤ Decimal.greatestWord) :
    (takeDigits value taken s).1 ≤ Decimal.greatestWord := by
  induction s generalizing value taken with
  | nil => exact word
  | cons c s ih =>
    unfold takeDigits
    dsimp only
    split
    · next more => exact ih _ _ (of_decide_eq_true (Bool.and_eq_true_iff.mp more).2)
    · exact word

section
variable (word : significand ≤ Decimal.greatestWord) (negative : Bool) (s : List Char)
include word

private theorem fitting_scanFraction (exponent : Int) : Fitting (scanFraction negative significand exponent s) := by
  have behind := takeDigits_le significand 0 s word
  unfold scanFraction
  dsimp only
  split
  · split
    · exact fitting_scanScaled behind negative _ _
    · split
      · exact fitting_error _
      · exact fitting_scanScaled behind negative _ _
  · split
    · exact fitting_error _
    · exact fitting_scanScaled behind negative _ _

private theorem fitting_scanTail (dropped : Nat) : Fitting (scanTail negative significand dropped s) := by
  have greatest : Decimal.greatestWord = 2 ^ 64 - 1 := rfl
  have half : Decimal.twoTo 63 = 2 ^ 63 := rfl
  unfold scanTail
  split
  · exact fitting_scanFraction word negative _ _
  · exact fitting_scanExponent word negative _ _
  · exact fitting_scanExponent word negative _ _
  · split
    · exact fitting_scaled word negative _ _
    · split
      · rintro _ _ ⟨⟩
        exact ⟨by omega,by omega⟩
      · split
        · exact fitting_float (Decimal.isFinite_neg (Decimal.isFinite_of_below (Decimal.below_word word))) _
        · next small =>
          simp only [Bool.or_eq_true,decide_eq_true_eq,not_or] at small
          rintro _ _ ⟨⟩
          exact ⟨by omega,by omega⟩

end

theorem fitting_scanNumber (negative : Bool) (s : List Char) : Fitting (scanNumber negative s) := by
  unfold scanNumber
  split
  · exact fitting_error _
  · split
    · split
      · exact fitting_error _
      · exact fitting_scanTail (Nat.zero_le _) negative _ _
    · exact fitting_scanTail (Nat.zero_le _) negative _ _
  · split
    · exact fitting_error _
    · dsimp only
      exact fitting_scanTail (takeDigits_le 0 0 _ (Nat.zero_le _)) negative _ _

end Letterpress.Json
