import Letterpress.Decimal.Nearest
import Letterpress.Proofs.Decimal.Rounding

/-! Doubles as bits, and the amounts among them. A double that is not too great is taken apart and put together again without
loss, so what holds of exact parts holds of doubles. An amount is finite and not negative; products of amounts, hundredths of them
and differences in which no more is taken away than there is are amounts again, as long as they are not too great. -/
namespace Letterpress.Decimal
open Float.Model (Format totalExponent UnpackedFloat)
open Float.Model.UnpackedFloat

variable {m n : Nat} {e f top upper : Int} {s : Sign} {x : UnpackedFloat} {a b : Float}

private theorem unpackMantissa_toNat (b : BitVec Format.binary64.numBits) : (unpackMantissa b).toNat = b.toNat % twoTo 52 := by
  unfold unpackMantissa
  rw [BitVec.toNat_cast,BitVec.extractLsb_toNat]
  rfl

private theorem unpackExponent_toNat (b : BitVec Format.binary64.numBits) :
    (unpackExponent b).toNat = b.toNat / twoTo 52 % twoTo 11 := by
  unfold unpackExponent
  rw [BitVec.toNat_cast,BitVec.extractLsb_toNat,Nat.shiftRight_eq_div_pow]
  rfl

private theorem unpackSign_toNat (b : BitVec Format.binary64.numBits) : (unpackSign b).toNat = b.toNat / twoTo 63 % 2 := by
  delta unpackSign
  rw [BitVec.toNat_cast,BitVec.extractLsb_toNat,Nat.shiftRight_eq_div_pow]
  rfl

def partsOf : UnpackedFloat → Parts
  | .infinity s => .infinite (s == .negative)
  | .notANumber => .notANumber
  | .zero s => .finite (s == .negative) 0 (-1074)
  | .finite s m e _ => .finite (s == .negative) m e

private theorem partsOf_finite {positive : 0 < m} :
    partsOf (.finite s m e positive) = .finite (s == .negative) m e := rfl

private theorem ofBitVec_eq (b : BitVec 1) : (Sign.ofBitVec b == .negative) = (b.toNat == 1) := by
  revert b
  decide

private theorem unpack_of_normal {b : BitVec Format.binary64.numBits}
    (few : unpackExponent b ≠ -BitVec.ofNat Format.binary64.exponentBits 1)
    (normal : unpackExponent b ≠ BitVec.ofNat Format.binary64.exponentBits 0) : ∃ positive, unpack Format.binary64 b =
      .finite (.ofBitVec (unpackSign b)) (1#1 ++ unpackMantissa b).toNat ((unpackExponent b).toNat - 1075) positive :=
  ⟨_,(if_neg few).trans (if_neg normal)⟩

private theorem unpack_of_subnormal {b : BitVec Format.binary64.numBits}
    (few : unpackExponent b ≠ -BitVec.ofNat Format.binary64.exponentBits 1)
    (least : unpackExponent b = BitVec.ofNat Format.binary64.exponentBits 0)
    (something : unpackMantissa b ≠ BitVec.ofNat Format.binary64.mantissaBitsWithoutImplicit 0) : ∃ positive,
      unpack Format.binary64 b =
        .finite (.ofBitVec (unpackSign b)) (unpackMantissa b).toNat ((unpackExponent b).toNat - 1075 + 1) positive :=
  ⟨_,(if_neg few).trans ((if_pos least).trans (dif_neg something))⟩

private theorem partsOfBits_toNat (b : BitVec Format.binary64.numBits) :
    partsOfBits b.toNat = partsOf (unpack Format.binary64 b) := by
  have mantissa := unpackMantissa_toNat b
  have exponent := unpackExponent_toNat b
  have negative := ofBitVec_eq (unpackSign b)
  rw [unpackSign_toNat] at negative
  have all : unpackExponent b = -BitVec.ofNat Format.binary64.exponentBits 1 ↔ b.toNat / twoTo 52 % twoTo 11 = 2047 := by
    rw [← exponent,← BitVec.toNat_inj]
    rfl
  have subnormal : unpackExponent b = BitVec.ofNat Format.binary64.exponentBits 0 ↔ b.toNat / twoTo 52 % twoTo 11 = 0 := by
    rw [← exponent,← BitVec.toNat_inj]
    rfl
  have bare : unpackMantissa b = BitVec.ofNat Format.binary64.mantissaBitsWithoutImplicit 0 ↔ b.toNat % twoTo 52 = 0 := by
    rw [← mantissa,← BitVec.toNat_inj]
    rfl
  by_cases greatest : b.toNat / twoTo 52 % twoTo 11 = 2047
  · have left : partsOfBits b.toNat = if b.toNat % twoTo 52 = 0 then _ else _ := if_pos greatest
    have right : unpack Format.binary64 b = if unpackMantissa b = _ then _ else _ := if_pos (all.mpr greatest)
    rw [left,right]
    by_cases zero : b.toNat % twoTo 52 = 0
    · rw [if_pos zero,if_pos (bare.mpr zero)]
      exact congrArg Parts.infinite negative.symm
    · rw [if_neg zero,if_neg (bare.not.mpr zero)]
      rfl
  · by_cases least : b.toNat / twoTo 52 % twoTo 11 = 0
    · have left : partsOfBits b.toNat = _ := (if_neg greatest).trans (if_pos least)
      by_cases zero : b.toNat % twoTo 52 = 0
      · have right : unpack Format.binary64 b = _ :=
          (if_neg (all.not.mpr greatest)).trans ((if_pos (subnormal.mpr least)).trans (dif_pos (bare.mpr zero)))
        rw [left,right,zero,← negative]
        rfl
      · obtain ⟨_,right⟩ := unpack_of_subnormal (all.not.mpr greatest) (subnormal.mpr least) (bare.not.mpr zero)
        rw [left,right,partsOf_finite,negative,mantissa,exponent,least]
        rfl
    · have left : partsOfBits b.toNat = _ := (if_neg greatest).trans (if_neg least)
      have whole : (1#1 ++ unpackMantissa b).toNat = twoTo 52 + b.toNat % twoTo 52 := by
        rw [BitVec.toNat_append,← Nat.shiftLeft_add_eq_or_of_lt (unpackMantissa b).isLt,mantissa]
        rfl
      obtain ⟨_,right⟩ := unpack_of_normal (all.not.mpr greatest) (subnormal.not.mpr least)
      rw [left,right,partsOf_finite,negative,exponent,whole]

theorem parts_eq (x : Float) : parts x = partsOf x.toModel.unpack := partsOfBits_toNat _

/-- Every finite double is in form, and below the greatest power of two. -/
theorem canonical_of_unpack {b : BitVec Format.binary64.numBits} {positive : 0 < m}
    (same : unpack Format.binary64 b = .finite s m e positive) : Canonical m e ∧ totalExponent m e ≤ 1024 := by
  have unpacked := partsOfBits_toNat b
  rw [same,partsOf_finite,partsOfBits] at unpacked
  have small : b.toNat % twoTo 52 < 2 ^ 52 := Nat.mod_lt _ (twoTo_pos 52)
  have biased : b.toNat / twoTo 52 % twoTo 11 < 2048 := Nat.mod_lt _ (twoTo_pos 11)
  have unit : twoTo 52 = 2 ^ 52 := rfl
  split at unpacked
  · split at unpacked <;> contradiction
  · split at unpacked
    · injection unpacked with _ mantissa exponent
      have short : m < 2 ^ 53 := by omega
      have digits : m.log2 < 53 := (Nat.log2_lt positive.ne').mpr short
      exact ⟨⟨short,by omega,.inr exponent.symm⟩,by unfold totalExponent; omega⟩
    · injection unpacked with _ mantissa exponent
      have short : m < 2 ^ 53 := by omega
      have digits : m.log2 < 53 := (Nat.log2_lt positive.ne').mpr short
      exact ⟨⟨short,by omega,.inl (by omega)⟩,by unfold totalExponent; omega⟩

private theorem sign_ofBitVec (s : Sign) : Sign.ofBitVec s.toBitVec = s := by
  cases s with
  | negative => rfl
  | positive => rfl

private theorem unpackSign_packComponents (s : Sign) (e : BitVec Format.binary64.exponentBits)
    (m : BitVec Format.binary64.mantissaBitsWithoutImplicit) :
    unpackSign (packComponents Format.binary64 s e m) = s.toBitVec := by
  ext i bound
  obtain rfl : i = 0 := by omega
  have place : (s.toBitVec ++ e ++ m).getLsbD 63 = s.toBitVec[0] := by
    rw [BitVec.getLsbD_append,BitVec.getLsbD_append]
    rfl
  delta unpackSign packComponents
  simp only [BitVec.getElem_cast]
  exact (BitVec.getElem_extractLsb' _).trans place

private theorem finite_congr {positive : 0 < m} {more : 0 < n} (mantissa : m = n) (exponent : e = f) :
    UnpackedFloat.finite s m e positive = .finite s n f more := by
  subst mantissa exponent
  rfl

private theorem unpack_normal (s : Sign) (positive : 0 < m) (lower : 2 ^ 52 ≤ m) (short : m < 2 ^ 53) (low : 1 ≤ n)
    (high : n < 2047)
    (exponent : (n : Int) - 1075 = e) : unpack Format.binary64 (packComponents Format.binary64 s (.ofNat _ n) (.ofNat _ m)) =
      .finite s m e positive := by
  have size : (BitVec.ofNat Format.binary64.exponentBits n).toNat = n := Nat.mod_eq_of_lt (show n < 2 ^ 11 by omega)
  have normal : BitVec.ofNat Format.binary64.exponentBits n ≠ BitVec.ofNat Format.binary64.exponentBits 0 := by
    intro zero
    have same := size.symm.trans (congrArg BitVec.toNat zero)
    simp only [BitVec.toNat_zero] at same
    omega
  have few : BitVec.ofNat Format.binary64.exponentBits n ≠ -BitVec.ofNat Format.binary64.exponentBits 1 := by
    intro all
    have same : n = 2047 := size.symm.trans (congrArg BitVec.toNat all)
    omega
  obtain ⟨_,same⟩ := unpack_of_normal (b := packComponents Format.binary64 s (.ofNat _ n) (.ofNat _ m))
    (by rwa [unpackExponent_packComponents]) (by rwa [unpackExponent_packComponents])
  rw [same,unpackSign_packComponents,sign_ofBitVec]
  apply finite_congr
  · rw [unpackMantissa_packComponents,BitVec.toNat_append,← Nat.shiftLeft_add_eq_or_of_lt (BitVec.isLt _)]
    change 2 ^ 52 + m % 2 ^ 52 = m
    omega
  · rw [unpackExponent_packComponents,size]
    exact exponent

private theorem unpack_subnormal (s : Sign) (positive : 0 < m) (short : m < 2 ^ 52) :
    unpack Format.binary64 (packComponents Format.binary64 s 0#_ (.ofNat _ m)) = .finite s m (-1074) positive := by
  have size : (BitVec.ofNat Format.binary64.mantissaBitsWithoutImplicit m).toNat = m := Nat.mod_eq_of_lt short
  have nonzero : BitVec.ofNat Format.binary64.mantissaBitsWithoutImplicit m ≠
      BitVec.ofNat Format.binary64.mantissaBitsWithoutImplicit 0 := by
    intro zero
    have same := size.symm.trans (congrArg BitVec.toNat zero)
    simp only [BitVec.toNat_zero] at same
    omega
  have few : BitVec.ofNat Format.binary64.exponentBits 0 ≠ -BitVec.ofNat Format.binary64.exponentBits 1 := by decide
  obtain ⟨_,same⟩ := unpack_of_subnormal (b := packComponents Format.binary64 s 0#_ (.ofNat _ m))
    (by rwa [unpackExponent_packComponents]) unpackExponent_packComponents (by rwa [unpackMantissa_packComponents])
  rw [same,unpackSign_packComponents,sign_ofBitVec]
  apply finite_congr
  · rw [unpackMantissa_packComponents,size]
  · rw [unpackExponent_packComponents]
    rfl

/-- Whatever is in form is packed without loss. -/
theorem unpack_pack (below : Below 1024 x) : unpack Format.binary64 (pack Format.binary64 x) = x := by
  rcases cases_of_below below with ⟨s,rfl⟩ | ⟨s,m,e,positive,rfl,canonical,within⟩
  · cases s with
    | negative => rfl
    | positive => rfl
  · have least := canonical.least
    have short : m.log2 < 53 := (Nat.log2_lt positive.ne').mpr canonical.short
    have room : ¬2 ^ 11 ≤ (e + 1023 + 52).toNat + 1 := by
      unfold totalExponent at within
      rcases canonical.full with full | bottom
      · have digits : 52 ≤ m.log2 := (Nat.le_log2 positive.ne').mpr full
        omega
      · omega
    change unpack _ (if 2 ^ 11 ≤ (e + 1023 + 52).toNat + 1 then _ else if m.log2 + 1 = 53 then _ else _) = _
    rw [if_neg room]
    by_cases normal : m.log2 + 1 = 53
    · have full : 2 ^ 52 ≤ m := (Nat.le_log2 positive.ne').mp (by omega)
      rw [if_pos normal]
      exact unpack_normal (n := (e + 1023 + 52).toNat) s positive full canonical.short (by omega) (by omega) (by omega)
    · have small : m < 2 ^ 52 := (Nat.log2_lt positive.ne').mp (by omega)
      have bottom : e = -1074 := canonical.full.resolve_left (by omega)
      subst bottom
      rw [if_neg normal]
      exact unpack_subnormal s positive small

/-- A double that is zero, or below a power of two on either side. -/
def IsBelow (top : Int) (a : Float) : Prop := Below top a.toModel.unpack

/-- A double that is zero, or above it and below a power of two. -/
def IsAmount (top : Int) (a : Float) : Prop := Amount top a.toModel.unpack

private theorem le_iff (a b : Float) : a ≤ b ↔ UnpackedFloat.le a.toModel.unpack b.toModel.unpack = true := decide_eq_true_iff

private theorem lt_iff (a b : Float) : a < b ↔ UnpackedFloat.lt a.toModel.unpack b.toModel.unpack = true := decide_eq_true_iff

private theorem unpack_mul (first : IsBelow top a) (second : IsBelow upper b) (least : -1074 ≤ top + upper)
    (most : top + upper < 1024) : (a * b).toModel.unpack = mul Format.binary64 a.toModel.unpack b.toModel.unpack :=
  unpack_pack ((below_mul first second least).mono (by omega))

private theorem unpack_sub (first : IsBelow top a) (second : IsBelow top b) (least : -1076 < top) (most : top + 2 ≤ 1024) :
    (a - b).toModel.unpack = sub Format.binary64 a.toModel.unpack b.toModel.unpack :=
  unpack_pack ((below_sub first second least).mono most)

theorem isBelow_mul (first : IsBelow top a) (second : IsBelow upper b) (least : -1074 ≤ top + upper) (most : top + upper < 1024) :
    IsBelow (top + upper + 1) (a * b) := by
  rw [IsBelow,unpack_mul first second least most]
  exact below_mul first second least

theorem isAmount_mul (first : IsAmount top a) (second : IsAmount upper b) (least : -1074 ≤ top + upper)
    (most : top + upper < 1024) : IsAmount (top + upper + 1) (a * b) := by
  rw [IsAmount,unpack_mul first.below second.below least most]
  exact amount_mul first second least

theorem isBelow_sub (first : IsBelow top a) (second : IsBelow top b) (least : -1076 < top) (most : top + 2 ≤ 1024) :
    IsBelow (top + 2) (a - b) := by
  rw [IsBelow,unpack_sub first second least most]
  exact below_sub first second least

theorem isAmount_sub (first : IsAmount top a) (second : IsBelow top b) (least : -1076 < top) (most : top + 2 ≤ 1024)
    (ordered : b ≤ a) : IsAmount (top + 2) (a - b) := by
  rw [IsAmount,unpack_sub first.below second least most]
  exact amount_sub first second least ((le_iff b a).mp ordered)

private theorem unpack_zero : (0.0 : Float).toModel.unpack = .zero .positive := rfl

private theorem unpack_hundred : (100.0 : Float).toModel.unpack = .finite .positive (100 * 2 ^ 46) (-46) (by decide) := rfl

theorem isAmount_zero (top : Int) : IsAmount top 0.0 := by
  rw [IsAmount,unpack_zero]
  exact ⟨trivial,trivial⟩

private theorem unpack_div_hundred (first : IsBelow top a) (least : -1074 < top) (most : top + 53 ≤ 1024) :
    (a / 100.0).toModel.unpack = div Format.binary64 a.toModel.unpack (.finite .positive (100 * 2 ^ 46) (-46) (by decide)) :=
  unpack_pack ((below_div first (by decide) least (by decide)).mono most)

theorem isBelow_div_hundred (first : IsBelow top a) (least : -1074 < top) (most : top + 53 ≤ 1024) :
    IsBelow (top + 53) (a / 100.0) := by
  rw [IsBelow,unpack_div_hundred first least most]
  exact below_div first (by decide) least (by decide)

theorem isAmount_div_hundred (first : IsAmount top a) (least : -1074 < top) (most : top + 53 ≤ 1024) :
    IsAmount (top + 53) (a / 100.0) := by
  rw [IsAmount,unpack_div_hundred first.below least most]
  exact amount_div first (by decide) least (by decide)

/-- What is not below zero is neither negative nor "not a number". -/
theorem le_zero_iff : 0.0 ≤ a ↔ NotNegative a.toModel.unpack := by
  rw [le_iff,unpack_zero]
  cases a.toModel.unpack with
  | zero => exact iff_of_true rfl trivial
  | notANumber => exact iff_of_false Bool.false_ne_true id
  | infinity s =>
    cases s with
    | positive => exact iff_of_true rfl trivial
    | negative => exact iff_of_false Bool.false_ne_true id
  | finite s m e positive =>
    cases s with
    | positive => exact iff_of_true rfl trivial
    | negative => exact iff_of_false Bool.false_ne_true id

theorem isAmount_iff : IsAmount top a ↔ IsBelow top a ∧ 0.0 ≤ a := by
  rw [le_zero_iff]
  constructor
  · intro amount
    exact ⟨amount.below,amount.notNegative⟩
  · intro both
    exact ⟨both.1,both.2⟩

theorem le_zero_of_not_lt (number : a.isNaN = false) (least : ¬a < 0.0) : 0.0 ≤ a := by
  rw [lt_iff,unpack_zero] at least
  rw [le_zero_iff]
  change UnpackedFloat.isNaN a.toModel.unpack = false at number
  cases same : a.toModel.unpack with
  | zero => trivial
  | notANumber =>
    rw [same] at number
    contradiction
  | infinity s =>
    rw [same] at least
    cases s with
    | positive => trivial
    | negative => exact absurd rfl least
  | finite s m e positive =>
    rw [same] at least
    cases s with
    | positive => trivial
    | negative => exact absurd rfl least

/-- More than any length that makes sense, but so that the product of three such numbers is still a double. -/
def limit : Float := 1e90

private theorem unpack_limit : limit.toModel.unpack = .finite .positive 8843436600416711 246 (by decide) := by
  have bits : limit.toBits = 5953594944729471431 := by decide +kernel
  change UnpackedFloat.unpack Format.binary64 limit.toBits.toBitVec = _
  rw [bits]
  rfl

private theorem unpack_neg_limit : (-limit).toModel.unpack = .finite .negative 8843436600416711 246 (by decide) := by
  have bits : (-limit).toBits = 15176966981584247239 := by decide +kernel
  change UnpackedFloat.unpack Format.binary64 (-limit).toBits.toBitVec = _
  rw [bits]
  rfl

theorem totalExponent_le (canonical : Canonical m e) (positive : 0 < m) : totalExponent m e ≤ e + 53 := by
  have digits : m.log2 < 53 := (Nat.log2_lt positive.ne').mpr canonical.short
  unfold totalExponent
  omega

/-- What lies between the limits is below the power of two that they are below. -/
theorem isBelow_of_limits (lower : -limit ≤ a) (higher : a ≤ limit) : IsBelow 299 a := by
  rw [le_iff,unpack_neg_limit] at lower
  rw [le_iff,unpack_limit] at higher
  rw [IsBelow]
  cases same : a.toModel.unpack with
  | zero => trivial
  | notANumber =>
    rw [same] at lower
    contradiction
  | infinity s =>
    rw [same] at lower higher
    cases s with
    | positive => contradiction
    | negative => contradiction
  | finite s m e positive =>
    rw [same] at lower higher
    have canonical := (canonical_of_unpack same).1
    have total := totalExponent_le canonical positive
    refine ⟨canonical,total.trans ?_⟩
    cases s with
    | positive => have ordered := cases_of_le higher; omega
    | negative => have ordered := cases_of_le_negative lower; omega

theorem isFinite_of_isBelow (below : IsBelow top a) : a.isFinite = true := by
  change UnpackedFloat.isFinite a.toModel.unpack = true
  rcases cases_of_below below with ⟨s,same⟩ | ⟨s,m,e,positive,same,_⟩
  · rw [same]
    rfl
  · rw [same]
    rfl

private theorem eq_of_partsOf_infinite (same : partsOf x = .infinite false) : x = .infinity .positive := by
  cases x with
  | infinity s =>
    cases s with
    | positive => rfl
    | negative => contradiction
  | notANumber => contradiction
  | zero => contradiction
  | finite => contradiction

private theorem exists_of_partsOf_finite (same : partsOf x = .finite false m e) (positive : 0 < m) :
    x = .finite .positive m e positive := by
  cases x with
  | infinity => contradiction
  | notANumber => contradiction
  | zero s =>
    injection same with _ zero
    exact absurd zero positive.ne
  | finite s n f more =>
    injection same with sign mantissa exponent
    subst mantissa exponent
    cases s with
    | positive => rfl
    | negative => contradiction

/-- A double whose bits are not below those of one is infinite, or its bits begin with its exponent. -/
theorem unpack_ofBits (lower : 1023 * twoTo 52 ≤ n) (higher : n ≤ 2047 * twoTo 52) :
    n = 2047 * twoTo 52 ∧ (Float.ofBits (.ofNat n)).toModel.unpack = .infinity .positive ∨ ∃ m positive,
      (Float.ofBits (.ofNat n)).toModel.unpack = .finite .positive m ((n / 2 ^ 52 : Nat) - 1075) positive := by
  have unit : twoTo 52 = 2 ^ 52 := rfl
  generalize word : (UInt64.ofNat n).toBitVec = b
  have size : b.toNat = n := by
    rw [← word]
    exact Nat.mod_eq_of_lt (show n < 2 ^ 64 by omega)
  have again : (Float.ofBits (.ofNat n)).toModel.unpack =
      unpack Format.binary64 (pack Format.binary64 (unpack Format.binary64 (UInt64.ofNat n).toBitVec)) := rfl
  rw [again,word]
  have taken := partsOfBits_toNat b
  have biased : n / twoTo 52 % twoTo 11 = n / 2 ^ 52 := by
    change n / 2 ^ 52 % 2 ^ 11 = n / 2 ^ 52
    omega
  have fraction : n % twoTo 52 = n % 2 ^ 52 := rfl
  have sign : (n / twoTo 63 % 2 == 1) = false := by
    change (n / 2 ^ 63 % 2 == 1) = false
    rw [Nat.div_eq_of_lt (by omega)]
    rfl
  rw [size,partsOfBits,biased,fraction,sign] at taken
  split at taken
  · rw [if_pos (by omega)] at taken
    rw [eq_of_partsOf_infinite taken.symm]
    exact .inl ⟨by omega,rfl⟩
  · rw [if_neg (by omega)] at taken
    have positive : 0 < twoTo 52 + n % 2 ^ 52 := Nat.add_pos_left (twoTo_pos 52) _
    have same := exists_of_partsOf_finite taken.symm positive
    have below : Below 1024 (UnpackedFloat.unpack Format.binary64 b) := by
      rw [same]
      exact canonical_of_unpack same
    rw [unpack_pack below]
    exact .inr ⟨_,positive,same⟩

private theorem le_roundHalfEven (num den : Nat) : num / den ≤ roundHalfEven num den := by
  unfold roundHalfEven
  dsimp only
  split
  · exact Nat.le_refl _
  · split
    · exact Nat.le_succ _
    · exact Nat.le_add_right _ _

theorem binaryExponent_one (something : n ≠ 0) : binaryExponent n 1 = n.log2 := by
  have one : Nat.log2 1 = 0 := by decide
  have lower : ¬n < 1 * twoTo n.log2 := by
    rw [Nat.one_mul,Nat.not_lt]
    exact (Nat.le_log2 something).mp (Nat.le_refl _)
  unfold binaryExponent
  simp only [one,Int.natCast_zero,Int.sub_zero,Int.natCast_nonneg,if_true,Int.toNat_natCast,lower,if_false]

/-- A whole number that is not zero is not below one as a double. -/
theorem quotientBits_bounds (something : n ≠ 0) : 1023 * twoTo 52 ≤ quotientBits n 1 ∧ quotientBits n 1 ≤ 2047 * twoTo 52 := by
  have lower : 2 ^ n.log2 ≤ n := (Nat.le_log2 something).mp (Nat.le_refl _)
  have exponent : max ((n.log2 : Int) - 52) (-1074) = (n.log2 : Int) - 52 := by omega
  unfold quotientBits
  rw [binaryExponent_one something,exponent]
  refine ⟨Nat.le_min.mpr ⟨?_,?_⟩,Nat.min_le_right _ _⟩
  · have fraction : twoTo 52 ≤ if 0 ≤ (n.log2 : Int) - 52 then roundHalfEven n (1 * twoTo ((n.log2 : Int) - 52).toNat)
        else roundHalfEven (n * twoTo (-((n.log2 : Int) - 52)).toNat) 1 := by
      split
      · next many =>
        apply Nat.le_trans _ (le_roundHalfEven _ _)
        rw [Nat.one_mul,Nat.le_div_iff_mul_le (twoTo_pos _),← twoTo_add,show 52 + ((n.log2 : Int) - 52).toNat = n.log2 by omega]
        exact lower
      · next few =>
        apply Nat.le_trans _ (le_roundHalfEven _ _)
        have total : n.log2 + (-((n.log2 : Int) - 52)).toNat = 52 := by omega
        calc twoTo 52 = twoTo n.log2 * twoTo (-((n.log2 : Int) - 52)).toNat := by rw [← twoTo_add,total]
          _ ≤ n * twoTo (-((n.log2 : Int) - 52)).toNat := Nat.mul_le_mul_right _ lower
          _ = n * twoTo (-((n.log2 : Int) - 52)).toNat / 1 := (Nat.div_one _).symm
    have scale : 1022 ≤ ((n.log2 : Int) - 52 + 1074).toNat := by omega
    calc 1023 * twoTo 52 = 1022 * twoTo 52 + twoTo 52 := by omega
      _ ≤ _ := Nat.add_le_add (Nat.mul_le_mul_right _ scale) fraction
  · exact Nat.mul_le_mul_right _ (by decide)

private theorem exists_bits_ofDecimal (something : n ≠ 0) (k : Nat) :
    ∃ b, 1023 * twoTo 52 ≤ b ∧ b ≤ 2047 * twoTo 52 ∧ ofDecimal n k = Float.ofBits (.ofNat b) := by
  unfold ofDecimal
  dsimp only
  rw [if_neg (by simp only [Bool.or_eq_true,decide_eq_true_eq]; omega)]
  split
  · exact ⟨_,Nat.mul_le_mul_right _ (by decide),Nat.le_refl _,rfl⟩
  · rw [if_pos (Int.natCast_nonneg k)]
    have bounds := quotientBits_bounds (n := n * tenTo k) (Nat.mul_ne_zero something (tenTo_pos k).ne')
    exact ⟨_,bounds.1,bounds.2,rfl⟩

/-- What is not a fraction is infinite as a double, or has an exponent as one has at least. -/
theorem unpack_ofDecimal (something : n ≠ 0) (k : Nat) : (ofDecimal n k).toModel.unpack = .infinity .positive ∨
    ∃ m e positive, (ofDecimal n k).toModel.unpack = .finite .positive m e positive ∧ -52 ≤ e := by
  obtain ⟨b,lower,higher,same⟩ := exists_bits_ofDecimal something k
  have unit : twoTo 52 = 2 ^ 52 := rfl
  rw [same]
  rcases unpack_ofBits lower higher with ⟨_,infinite⟩ | ⟨m,positive,finite⟩
  · exact .inl infinite
  · exact .inr ⟨m,_,positive,finite,by omega⟩

/-- A share of a hundred is an amount, among however many it is divided. -/
theorem isAmount_share (something : n ≠ 0) : IsAmount 60 (100.0 / ofNat n) := by
  have hundred : Amount 7 (100.0 : Float).toModel.unpack := by
    rw [unpack_hundred]
    exact ⟨⟨⟨by decide,by decide,.inl (by decide)⟩,by decide +kernel⟩,trivial⟩
  change Amount 60 (unpack Format.binary64 (pack Format.binary64 (div Format.binary64 (100.0 : Float).toModel.unpack _)))
  rcases unpack_ofDecimal something 0 with same | ⟨m,e,positive,same,bounded⟩
  · rw [ofNat,← Int.natCast_zero,same,unpack_hundred]
    exact ⟨trivial,trivial⟩
  · rw [ofNat,← Int.natCast_zero,same]
    have quotient := amount_div hundred positive (by decide) bounded
    rwa [unpack_pack (quotient.below.mono (by decide))]

end Letterpress.Decimal
