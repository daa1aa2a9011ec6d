import Letterpress.Decimal.Binary64
import Mathlib.Algebra.GroupWithZero.Nat
import Mathlib.Algebra.Order.Group.Int

/-! How great results of arithmetic on doubles can be. A finite double has one form, a whole number and a power of two; its total
exponent says below which power of two it is. What is rounded comes out below twice the power that it was below, so a few sums,
products and quotients of doubles that are not too great are finite, and they are negative only where exact arithmetic says so. -/
namespace Letterpress.Decimal
open Float.Model (Format totalExponent UnpackedFloat)
open Float.Model.UnpackedFloat

variable {m n k : Nat} {e f top upper : Int} {s : Sign} {x y : UnpackedFloat}

/-- The form of a finite double: as many digits as there is room for, unless the exponent is the least. -/
structure Canonical (m : Nat) (e : Int) : Prop where
  short : m < 2 ^ 53
  least : -1074 ≤ e
  full : 2 ^ 52 ≤ m ∨ e = -1074

private theorem mantissa_shiftRight (em : ExtendedMantissa) (k : Nat) : (em >>> k).mantissa = em.mantissa / 2 ^ k := by
  change (k.repeat ExtendedMantissa.shiftRightOne em).mantissa = _
  induction k with
  | zero => exact (Nat.div_one em.mantissa).symm
  | succ k ih =>
    rw [Nat.repeat,ExtendedMantissa.shiftRightOne,ih,Nat.div_div_eq_div_mul,Nat.pow_succ]

private theorem mantissa_of_accuracy (m : Nat) (accuracy : Accuracy) :
    (ExtendedMantissa.ofMantissaAndAccuracy m accuracy).mantissa = m := by
  cases accuracy with
  | exact => rfl
  | inexact relative =>
    cases relative with
    | lt => rfl
    | eq => rfl
    | gt => rfl

private theorem roundedMantissa_bounds (em : ExtendedMantissa) :
    em.mantissa ≤ em.roundedMantissa ∧ em.roundedMantissa ≤ em.mantissa + 1 := by
  obtain ⟨m,round,sticky⟩ := em
  cases round with
  | false =>
    cases sticky with
    | false => exact ⟨Nat.le_refl m,Nat.le_succ m⟩
    | true => exact ⟨Nat.le_refl m,Nat.le_succ m⟩
  | true =>
    cases sticky with
    | false =>
      change m ≤ m + m % 2 ∧ m + m % 2 ≤ m + 1
      omega
    | true => exact ⟨Nat.le_succ m,Nat.le_refl _⟩

private theorem targetExponent_eq (t : Int) : Format.binary64.targetExponent t = max (t - 53) (-1074) := rfl

/-- What is left of a whole number when the digits that there is no room for are dropped. -/
theorem quotient_bounds (shift : (k : Int) = max (totalExponent m e - 53) (-1074) - e) :
    m / 2 ^ k < 2 ^ 53 ∧ (2 ^ 52 ≤ m / 2 ^ k ∨ e + k = -1074) ∧
      (m / 2 ^ k ≠ 0 → totalExponent (m / 2 ^ k) (e + k) ≤ totalExponent m e) := by
  unfold totalExponent at shift ⊢
  by_cases zero : m = 0
  · subst zero
    rw [Nat.zero_div]
    refine ⟨Nat.two_pow_pos 53,.inr ?_,fun nonzero => absurd rfl nonzero⟩
    rw [Nat.log2_zero] at shift
    omega
  have room : m.log2 + 1 ≤ 53 + k := by omega
  refine ⟨?_,?_,fun something => ?_⟩
  · rw [Nat.div_lt_iff_lt_mul (Nat.two_pow_pos k),← Nat.pow_add,← Nat.log2_lt zero]
    omega
  · by_cases least : e + k = -1074
    · exact .inr least
    · have aligned : 52 + k = m.log2 := by omega
      left
      rw [Nat.le_div_iff_mul_le (Nat.two_pow_pos k),← Nat.pow_add,aligned]
      exact (Nat.le_log2 zero).mp (Nat.le_refl _)
  · have within : 2 ^ ((m / 2 ^ k).log2 + k) ≤ m := by
      rw [Nat.pow_add]
      exact (Nat.mul_le_mul_right _ ((Nat.le_log2 something).mp (Nat.le_refl _))).trans (Nat.div_mul_le_self m _)
    have logs := (Nat.le_log2 zero).mpr within
    omega

private theorem shiftToTargetExponent_mantissa (m : Nat) (e : Int) (accuracy : Accuracy) :
    (shiftToTargetExponent Format.binary64 m e accuracy).1.mantissa =
      m / 2 ^ (Format.binary64.targetExponent (totalExponent m e) - e).toNat := by
  unfold shiftToTargetExponent shiftToExponent
  rw [mantissa_shiftRight,mantissa_of_accuracy]

private theorem shiftToTargetExponent_exponent (m : Nat) (e : Int) (accuracy : Accuracy) :
    (shiftToTargetExponent Format.binary64 m e accuracy).2 =
      e + (Format.binary64.targetExponent (totalExponent m e) - e).toNat := rfl

private theorem log2_mono (less : m ≤ n) : m.log2 ≤ n.log2 := by
  by_cases zero : m = 0
  · rw [zero,Nat.log2_zero]
    exact Nat.zero_le _
  · have lower : 2 ^ m.log2 ≤ m := (Nat.le_log2 zero).mp (Nat.le_refl _)
    exact (Nat.le_log2 (by omega)).mpr (lower.trans less)

private theorem log2_le_of_le_succ (something : m ≠ 0) (near : n ≤ m + 1) : n.log2 ≤ m.log2 + 1 := by
  by_cases zero : n = 0
  · rw [zero,Nat.log2_zero]
    omega
  · have above : m < 2 ^ (m.log2 + 1) := (Nat.log2_lt something).mp (Nat.lt_succ_self _)
    have twice : 2 ^ (m.log2 + 2) = 2 * 2 ^ (m.log2 + 1) := Nat.pow_succ'
    have below : n.log2 < m.log2 + 2 := (Nat.log2_lt zero).mpr (by omega)
    omega

/-- What has one digit too many at most is in form after a second shift. -/
theorem canonical_shifted (short : m ≤ 2 ^ 53) (least : -1074 ≤ e) (full : 2 ^ 52 ≤ m ∨ e = -1074) (something : m ≠ 0) :
    let shifted := shiftToTargetExponent Format.binary64 m e .exact
    Canonical shifted.1.mantissa shifted.2 ∧ totalExponent shifted.1.mantissa shifted.2 ≤ totalExponent m e := by
  intro shifted
  have mantissa : shifted.1.mantissa = _ := shiftToTargetExponent_mantissa m e .exact
  have exponent : shifted.2 = _ := shiftToTargetExponent_exponent m e .exact
  rw [mantissa,exponent,targetExponent_eq]
  unfold totalExponent
  by_cases carried : m = 2 ^ 53
  · have one : (max (((m.log2 : Int) + 1 + e) - 53) (-1074) - e).toNat = 1 := by
      rw [carried,Nat.log2_two_pow]
      omega
    rw [one,carried]
    refine ⟨⟨by decide,by omega,.inl (by decide)⟩,?_⟩
    have half : 2 ^ 53 / 2 ^ 1 = 2 ^ 52 := by decide
    rw [half,Nat.log2_two_pow,Nat.log2_two_pow]
    omega
  · have below : m.log2 < 53 := (Nat.log2_lt something).mpr (Nat.lt_of_le_of_ne short carried)
    have unshifted : (max (((m.log2 : Int) + 1 + e) - 53) (-1074) - e).toNat = 0 := by omega
    rw [unshifted,Nat.pow_zero,Nat.div_one]
    exact ⟨⟨Nat.lt_of_le_of_ne short carried,by omega,full.imp_right fun same => by omega⟩,by omega⟩

/-- What is rounded is zero, or what the second shift comes to. -/
private theorem roundWithAccuracy_cases (s : Sign) (m : Nat) (e : Int) (accuracy : Accuracy) :
    let first := shiftToTargetExponent Format.binary64 m e accuracy
    let second := shiftToTargetExponent Format.binary64 first.1.roundedMantissa first.2 .exact
    roundWithAccuracy Format.binary64 s m e accuracy = .zero s ∨ ∃ positive : 0 < second.1.mantissa,
      roundWithAccuracy Format.binary64 s m e accuracy = .finite s second.1.mantissa second.2 positive := by
  intro first second
  by_cases zero : second.1.mantissa = 0
  · exact .inl (dif_pos zero)
  · exact .inr ⟨Nat.pos_of_ne_zero zero,dif_neg zero⟩

/-- What is rounded, with at least as many digits as there is room for, is zero or comes out below twice the power of two. -/
theorem exists_rounded (s : Sign) (accuracy : Accuracy) (enough : e ≤ Format.binary64.targetExponent (totalExponent m e))
    (fits : totalExponent m e < top) (least : -1074 < top) :
    roundWithAccuracy Format.binary64 s m e accuracy = .zero s ∨ ∃ n f positive,
      roundWithAccuracy Format.binary64 s m e accuracy = .finite s n f positive ∧ Canonical n f ∧ totalExponent n f ≤ top := by
  obtain ⟨k,shift⟩ := Int.eq_ofNat_of_zero_le (Int.sub_nonneg.mpr enough)
  obtain ⟨short,full,kept⟩ := quotient_bounds (targetExponent_eq _ ▸ shift.symm)
  have mantissa := shiftToTargetExponent_mantissa m e accuracy
  have exponent := shiftToTargetExponent_exponent m e accuracy
  have rounds := roundWithAccuracy_cases s m e accuracy
  rw [shift,Int.toNat_natCast] at mantissa exponent
  generalize shiftToTargetExponent Format.binary64 m e accuracy = shifted at mantissa exponent rounds
  obtain ⟨em,f⟩ := shifted
  obtain ⟨lower,upper⟩ := roundedMantissa_bounds em
  simp only at mantissa exponent
  rcases rounds with gone | ⟨positive,rounds⟩
  · exact .inl gone
  · right
    refine ⟨_,_,positive,rounds,?_⟩
    have nonzero : em.roundedMantissa ≠ 0 := by
      intro zero
      apply positive.ne'
      rw [shiftToTargetExponent_mantissa,zero,Nat.zero_div]
    rw [← exponent,← mantissa] at full kept
    rw [← mantissa] at short
    have floor : -1074 ≤ f := by
      rw [targetExponent_eq] at shift enough
      omega
    obtain ⟨canonical,within⟩ := canonical_shifted (m := em.roundedMantissa) (e := f) (by omega) floor (by omega) nonzero
    refine ⟨canonical,within.trans ?_⟩
    unfold totalExponent at kept fits ⊢
    by_cases gone : em.mantissa = 0
    · have one : em.roundedMantissa = 1 := by omega
      rw [one]
      have bottom : f = -1074 := full.resolve_left (by omega)
      have unit : Nat.log2 1 = 0 := by decide
      omega
    · have logs := log2_le_of_le_succ gone upper
      have held := kept gone
      omega

/-- What is zero, or finite, in form and below a power of two on either side. -/
def Below (top : Int) : UnpackedFloat → Prop
  | .zero _ => True
  | .finite _ m e _ => Canonical m e ∧ totalExponent m e ≤ top
  | _ => False

/-- What is zero, of either sign, or above. -/
def NotNegative : UnpackedFloat → Prop
  | .zero _ | .finite .positive .. | .infinity .positive => True
  | _ => False

theorem cases_of_below (below : Below top x) : (∃ s, x = .zero s) ∨
    ∃ s m e positive, x = .finite s m e positive ∧ Canonical m e ∧ totalExponent m e ≤ top := by
  cases x with
  | zero s => exact .inl ⟨s,rfl⟩
  | finite s m e positive => exact .inr ⟨s,m,e,positive,rfl,below⟩
  | infinity => contradiction
  | notANumber => contradiction

theorem Below.mono (below : Below top x) (more : top ≤ upper) : Below upper x := by
  rcases cases_of_below below with ⟨s,rfl⟩ | ⟨s,m,e,positive,rfl,canonical,within⟩
  · trivial
  · exact ⟨canonical,within.trans more⟩

/-- Zero, or a finite number above it and below a power of two. -/
structure Amount (top : Int) (x : UnpackedFloat) : Prop where
  below : Below top x
  notNegative : NotNegative x

theorem cases_of_amount (amount : Amount top x) : (∃ s, x = .zero s) ∨
    ∃ m e positive, x = .finite .positive m e positive ∧ Canonical m e ∧ totalExponent m e ≤ top := by
  rcases cases_of_below amount.below with zero | ⟨s,m,e,positive,rfl,canonical,within⟩
  · exact .inl zero
  · cases s with
    | positive => exact .inr ⟨m,e,positive,rfl,canonical,within⟩
    | negative => exact absurd amount.notNegative id

private theorem below_rounded (s : Sign) (accuracy : Accuracy) (enough : e ≤ Format.binary64.targetExponent (totalExponent m e))
    (fits : totalExponent m e < top) (least : -1074 < top) : Below top (roundWithAccuracy Format.binary64 s m e accuracy) := by
  rcases exists_rounded s accuracy enough fits least with same | ⟨n,f,positive,same,canonical,within⟩
  · rw [same]
    trivial
  · rw [same]
    exact ⟨canonical,within⟩

private theorem notNegative_rounded (m : Nat) (e : Int) (accuracy : Accuracy) :
    NotNegative (roundWithAccuracy Format.binary64 .positive m e accuracy) := by
  rcases roundWithAccuracy_cases .positive m e accuracy with zero | ⟨positive,rounds⟩
  · rw [zero]
    trivial
  · rw [rounds]
    trivial

private theorem totalExponent_mul_le (nonzero : m ≠ 0) (more : n ≠ 0) (e f : Int) :
    totalExponent (m * n) (e + f) ≤ totalExponent m e + totalExponent n f := by
  have first : m < 2 ^ (m.log2 + 1) := (Nat.log2_lt nonzero).mp (Nat.lt_succ_self _)
  have second : n < 2 ^ (n.log2 + 1) := (Nat.log2_lt more).mp (Nat.lt_succ_self _)
  have product : m * n < 2 ^ (m.log2 + 1 + (n.log2 + 1)) := by
    rw [Nat.pow_add]
    exact Nat.mul_lt_mul'' first second
  have logs := (Nat.log2_lt (Nat.mul_ne_zero nonzero more)).mpr product
  unfold totalExponent
  omega

/-- A product has all the digits that there is room for. -/
theorem mul_enough (positive : 0 < m) (more : 0 < n) (first : Canonical m e) (second : Canonical n f) :
    e + f ≤ Format.binary64.targetExponent (totalExponent (m * n) (e + f)) := by
  have nonzero : m * n ≠ 0 := Nat.mul_ne_zero positive.ne' more.ne'
  have long (all : 2 ^ 52 ≤ m * n) : 52 ≤ (m * n).log2 := (Nat.le_log2 nonzero).mpr all
  rw [targetExponent_eq]
  unfold totalExponent
  rcases first.full with full | least
  · have all := long (full.trans (Nat.le_mul_of_pos_right m more))
    omega
  · rcases second.full with full | bottom
    · have all := long (full.trans (Nat.le_mul_of_pos_left n positive))
      omega
    · omega

theorem below_mul (first : Below top x) (second : Below upper y) (least : -1074 ≤ top + upper) :
    Below (top + upper + 1) (mul Format.binary64 x y) := by
  rcases cases_of_below first with ⟨s,rfl⟩ | ⟨s,m,e,positive,rfl,canonical,within⟩
  · rcases cases_of_below second with ⟨t,rfl⟩ | ⟨t,n,f,more,rfl,_⟩
    · trivial
    · trivial
  · rcases cases_of_below second with ⟨t,rfl⟩ | ⟨t,n,f,more,rfl,other,below⟩
    · trivial
    · have total := totalExponent_mul_le positive.ne' more.ne' e f
      exact below_rounded _ .exact (mul_enough positive more canonical other) (by omega) (by omega)

theorem amount_mul (first : Amount top x) (second : Amount upper y) (least : -1074 ≤ top + upper) :
    Amount (top + upper + 1) (mul Format.binary64 x y) := by
  refine ⟨below_mul first.below second.below least,?_⟩
  rcases cases_of_amount first with ⟨s,rfl⟩ | ⟨m,e,positive,rfl,_⟩
  · rcases cases_of_amount second with ⟨t,rfl⟩ | ⟨n,f,more,rfl,_⟩
    · trivial
    · trivial
  · rcases cases_of_amount second with ⟨t,rfl⟩ | ⟨n,f,more,rfl,_⟩
    · trivial
    · exact notNegative_rounded (m * n) (e + f) .exact

private theorem totalExponent_shiftLeft (something : m ≠ 0) (k : Nat) (e : Int) : totalExponent (m <<< k)
    (e - k) = totalExponent m e := by
  have shifted : (m <<< k).log2 = m.log2 + k := by
    have more : m <<< k ≠ 0 := by
      rw [Nat.shiftLeft_eq]
      exact Nat.mul_ne_zero something (Nat.two_pow_pos k).ne'
    apply (Nat.log2_eq_iff more).mpr
    rw [Nat.shiftLeft_eq,Nat.pow_add,show m.log2 + k + 1 = m.log2 + 1 + k by omega,Nat.pow_add]
    have lower : 2 ^ m.log2 ≤ m := (Nat.le_log2 something).mp (Nat.le_refl _)
    have above : m < 2 ^ (m.log2 + 1) := (Nat.log2_lt something).mp (Nat.lt_succ_self _)
    exact ⟨Nat.mul_le_mul_right _ lower,Nat.mul_lt_mul_of_pos_right above (Nat.two_pow_pos k)⟩
  unfold totalExponent
  rw [shifted]
  omega

/-- What is rounded from any exponent. -/
theorem exists_round_eq (s : Sign) (something : m ≠ 0) (e : Int) : ∃ n f,
    round Format.binary64 s m e = roundWithAccuracy Format.binary64 s n f .exact ∧
      f ≤ Format.binary64.targetExponent (totalExponent n f) ∧ totalExponent n f = totalExponent m e := by
  refine ⟨_,_,rfl,?_,totalExponent_shiftLeft something _ e⟩
  rw [totalExponent_shiftLeft something]
  omega

private theorem below_normalized {a : Int} (fits : a ≠ 0 → totalExponent a.natAbs e < top) (least : -1074 < top) :
    Below top (UnpackedFloat.normalize Format.binary64 a e .positive) := by
  have rounded (s : Sign) (something : a ≠ 0) : Below top (round Format.binary64 s a.natAbs e) := by
    obtain ⟨n,f,same,enough,total⟩ := exists_round_eq s (Int.natAbs_ne_zero.mpr something) e
    rw [same]
    exact below_rounded s .exact enough (total ▸ fits something) least
  unfold UnpackedFloat.normalize
  rcases Int.lt_trichotomy a 0 with negative | zero | positive
  · have size : (-a).toNat = a.natAbs := by omega
    rw [compare_lt_iff_lt.mpr negative,size]
    exact rounded .negative negative.ne
  · rw [zero]
    trivial
  · have size : a.toNat = a.natAbs := by omega
    rw [compare_gt_iff_gt.mpr positive,size]
    exact rounded .positive positive.ne'

private theorem amount_normalized {a : Int} (nonnegative : 0 ≤ a) (fits : a ≠ 0 → totalExponent a.natAbs e < top)
    (least : -1074 < top) : Amount top (UnpackedFloat.normalize Format.binary64 a e .positive) := by
  refine ⟨below_normalized fits least,?_⟩
  rcases Int.lt_or_eq_of_le nonnegative with positive | zero
  · obtain ⟨n,f,same,_⟩ := exists_round_eq .positive (m := a.toNat) (by omega) e
    unfold UnpackedFloat.normalize
    rw [compare_gt_iff_gt.mpr positive]
    simp only [same]
    exact notNegative_rounded n f .exact
  · rw [← zero]
    trivial

/-- A whole number brought to a smaller exponent. -/
theorem decreased_lt (something : m ≠ 0) (smaller : f ≤ e) (within : totalExponent m e ≤ top) :
    (decreaseExponent m e f).1 < 2 ^ (top - f).toNat := by
  have total := totalExponent_shiftLeft something (e - f).toNat e
  have nonzero : m <<< (e - f).toNat ≠ 0 := by
    rw [Nat.shiftLeft_eq]
    exact Nat.mul_ne_zero something (Nat.two_pow_pos _).ne'
  apply (Nat.log2_lt nonzero).mp
  unfold totalExponent at total within
  omega

private theorem totalExponent_difference {a b : Int} (left : a.natAbs < 2 ^ (top - f).toNat)
    (right : b.natAbs < 2 ^ (top - f).toNat) (differ : a - b ≠ 0) : totalExponent (a - b).natAbs f < top + 2 := by
  have twice : 2 ^ ((top - f).toNat + 1) = 2 * 2 ^ (top - f).toNat := Nat.pow_succ'
  have logs : (a - b).natAbs.log2 < (top - f).toNat + 1 := (Nat.log2_lt (Int.natAbs_ne_zero.mpr differ)).mpr (by omega)
  have room : 0 ≤ top - f := by
    by_contra negative
    have zero : (top - f).toNat = 0 := by omega
    rw [zero] at left right
    omega
  unfold totalExponent
  omega

private theorem apply_difference (t : Sign) (less : t = .positive → n ≤ m) : 0 ≤ Sign.positive.apply m - t.apply n := by
  cases t with
  | negative =>
    change 0 ≤ (m : Int) - -(n : Int)
    omega
  | positive =>
    have ordered := less rfl
    change 0 ≤ (m : Int) - (n : Int)
    omega

private theorem natAbs_apply (s : Sign) (m : Nat) : (s.apply m).natAbs = m := by
  cases s with
  | negative => exact Int.natAbs_neg m
  | positive => rfl

/-- The exact difference of two numbers below a power of two. -/
theorem difference_fits (s t : Sign) (something : m ≠ 0) (more : n ≠ 0) (within : totalExponent m e ≤ top)
    (below : totalExponent n f ≤ top) :
    let difference := s.apply (decreaseExponent m e (min e f)).1 - t.apply (decreaseExponent n f (min e f)).1
    difference ≠ 0 → totalExponent difference.natAbs (min e f) < top + 2 := by
  intro difference differ
  apply totalExponent_difference _ _ differ
  · rw [natAbs_apply]
    exact decreased_lt something (Int.min_le_left e f) within
  · rw [natAbs_apply]
    exact decreased_lt more (Int.min_le_right e f) below

theorem below_sub (first : Below top x) (second : Below top y) (least : -1076 < top) :
    Below (top + 2) (sub Format.binary64 x y) := by
  rcases cases_of_below first with ⟨s,rfl⟩ | ⟨s,m,e,positive,rfl,canonical,within⟩
  · rcases cases_of_below second with ⟨t,rfl⟩ | ⟨t,n,f,more,rfl,other,below⟩
    · cases s <;> cases t <;> exact trivial
    · exact ⟨other,by omega⟩
  · rcases cases_of_below second with ⟨t,rfl⟩ | ⟨t,n,f,more,rfl,other,below⟩
    · exact ⟨canonical,by omega⟩
    · exact below_normalized (difference_fits s t positive.ne' more.ne' within below) (by omega)

theorem cases_of_le {positive : 0 < m} {more : 0 < n}
    (ordered : UnpackedFloat.le (.finite .positive n f more) (.finite .positive m e positive) = true) :
    f < e ∨ f = e ∧ n ≤ m := by
  change (some ((compare f e).then (compare n m))).any (·.isLE) = true at ordered
  rcases Int.lt_trichotomy f e with below | rfl | above
  · exact .inl below
  · rcases Nat.lt_trichotomy n m with less | rfl | greater
    · exact .inr ⟨rfl,less.le⟩
    · exact .inr ⟨rfl,Nat.le_refl n⟩
    · rw [compare_eq_iff_eq.mpr rfl,compare_gt_iff_gt.mpr greater] at ordered
      contradiction
  · rw [compare_gt_iff_gt.mpr above] at ordered
    contradiction

theorem cases_of_le_negative {positive : 0 < m} {more : 0 < n}
    (ordered : UnpackedFloat.le (.finite .negative n f more) (.finite .negative m e positive) = true) :
    e < f ∨ e = f ∧ m ≤ n := by
  change (some ((compare f e).then (compare n m)).swap).any (·.isLE) = true at ordered
  rcases Int.lt_trichotomy f e with below | rfl | above
  · rw [compare_lt_iff_lt.mpr below] at ordered
    contradiction
  · rcases Nat.lt_trichotomy n m with less | rfl | greater
    · rw [compare_eq_iff_eq.mpr rfl,compare_lt_iff_lt.mpr less] at ordered
      contradiction
    · exact .inr ⟨rfl,Nat.le_refl n⟩
    · exact .inr ⟨rfl,greater.le⟩
  · exact .inl above

/-- In form, the smaller of two numbers is not above the greater one when both are brought to one exponent. -/
theorem decreased_le (first : Canonical m e) (second : Canonical n f) (ordered : f < e ∨ f = e ∧ n ≤ m) :
    (decreaseExponent n f (min e f)).1 ≤ (decreaseExponent m e (min e f)).1 := by
  unfold decreaseExponent
  simp only [Nat.shiftLeft_eq]
  rcases ordered with below | ⟨rfl,less⟩
  · have unshifted : (f - min e f).toNat = 0 := by omega
    have shifted : 1 ≤ (e - min e f).toNat := by omega
    have full : 2 ^ 52 ≤ m := first.full.resolve_right (by have := second.least; omega)
    have twice : 2 ^ 1 ≤ 2 ^ (e - min e f).toNat := Nat.pow_le_pow_right (by decide) shifted
    have short := second.short
    calc n * 2 ^ (f - min e f).toNat = n := by rw [unshifted,Nat.pow_zero,Nat.mul_one]
      _ ≤ 2 ^ 52 * 2 ^ 1 := by omega
      _ ≤ m * 2 ^ (e - min e f).toNat := Nat.mul_le_mul full twice
  · exact Nat.mul_le_mul_right _ less

/-- A difference is not negative if what is taken away is not more than there is. -/
theorem amount_sub (first : Amount top x) (second : Below top y) (least : -1076 < top) (ordered : UnpackedFloat.le y x = true) :
    Amount (top + 2) (sub Format.binary64 x y) := by
  rcases cases_of_amount first with ⟨s,rfl⟩ | ⟨m,e,positive,rfl,canonical,within⟩
  · rcases cases_of_below second with ⟨t,rfl⟩ | ⟨t,n,f,more,rfl,other,below⟩
    · cases s <;> cases t <;> exact ⟨trivial,trivial⟩
    · cases t with
      | negative => exact ⟨⟨other,by omega⟩,trivial⟩
      | positive => contradiction
  · rcases cases_of_below second with ⟨t,rfl⟩ | ⟨t,n,f,more,rfl,other,below⟩
    · exact ⟨⟨canonical,by omega⟩,trivial⟩
    · refine amount_normalized ?_ (difference_fits .positive t positive.ne' more.ne' within below) (by omega)
      apply apply_difference
      rintro rfl
      exact decreased_le canonical other (cases_of_le ordered)

/-- A quotient of numbers of so many digits has that many digits, but for one. -/
theorem log2_quotient (something : m ≠ 0) (more : n ≠ 0) (wide : n.log2 + 1 ≤ m.log2 + k) :
    m.log2 + k ≤ (m <<< k / n).log2 + n.log2 + 1 := by
  obtain ⟨j,digits⟩ := Nat.exists_eq_add_of_le wide
  have above : n < 2 ^ (n.log2 + 1) := (Nat.log2_lt more).mp (Nat.lt_succ_self _)
  have lower : 2 ^ m.log2 ≤ m := (Nat.le_log2 something).mp (Nat.le_refl _)
  have held : 2 ^ j * n ≤ m <<< k :=
    calc 2 ^ j * n ≤ 2 ^ j * 2 ^ (n.log2 + 1) := Nat.mul_le_mul_left _ above.le
      _ = 2 ^ m.log2 * 2 ^ k := by rw [← Nat.pow_add,← Nat.pow_add,digits,Nat.add_comm]
      _ ≤ m * 2 ^ k := Nat.mul_le_mul_right _ lower
      _ = m <<< k := Nat.shiftLeft_eq m k |>.symm
  have quotient : 2 ^ j ≤ m <<< k / n := (Nat.le_div_iff_mul_le (Nat.pos_of_ne_zero more)).mpr held
  have nonzero : m <<< k / n ≠ 0 := (Nat.lt_of_lt_of_le (Nat.two_pow_pos j) quotient).ne'
  have logs := (Nat.le_log2 nonzero).mpr quotient
  omega

theorem below_div (first : Below top x) (more : 0 < n) (least : -1074 < top) (bounded : -52 ≤ f) :
    Below (top + 53) (div Format.binary64 x (.finite .positive n f more)) := by
  rcases cases_of_below first with ⟨s,rfl⟩ | ⟨s,m,e,positive,rfl,canonical,within⟩
  · trivial
  · generalize target : min (e - f) (Format.binary64.targetExponent (totalExponent m e - totalExponent n f)) = g
    have lower : g ≤ e - f := target ▸ Int.min_le_left _ _
    obtain ⟨k,shift⟩ := Int.eq_ofNat_of_zero_le (Int.sub_nonneg.mpr lower)
    have scaled : totalExponent (m <<< k) g = totalExponent m e - f := by
      have same := totalExponent_shiftLeft positive.ne' k (e - f)
      unfold totalExponent at same ⊢
      omega
    change Below (top + 53) (roundWithAccuracy Format.binary64 _ (m <<< (e - f - min (e - f) _).toNat / n) (min (e - f) _) _)
    rw [target,shift,Int.toNat_natCast]
    apply below_rounded
    · rw [targetExponent_eq] at target ⊢
      have digits := log2_quotient (k := k) positive.ne' more.ne'
      unfold totalExponent at target ⊢
      omega
    · have less := log2_mono (Nat.div_le_self (m <<< k) n)
      unfold totalExponent at scaled within ⊢
      omega
    · omega

theorem amount_div (first : Amount top x) (more : 0 < n) (least : -1074 < top) (bounded : -52 ≤ f) :
    Amount (top + 53) (div Format.binary64 x (.finite .positive n f more)) := by
  refine ⟨below_div first.below more least bounded,?_⟩
  rcases cases_of_amount first with ⟨s,rfl⟩ | ⟨m,e,positive,rfl,_⟩
  · trivial
  · exact notNegative_rounded _ _ _

end Letterpress.Decimal
