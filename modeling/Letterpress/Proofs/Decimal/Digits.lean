import Letterpress.Decimal.Shortest
import Mathlib.Tactic.Ring

/-! The digits of a double. On the finest grid that is tried, a double lies between points that are much closer to each other than
the double is to its neighbours, so that the search ends at a point that reads back, and at none that is zero. -/
namespace Letterpress.Decimal

variable {r : Rounding} {m point unit scale : Nat} {e step : Int}

theorem short_of_parts {x : Float} {negative : Bool} (finite : parts x = .finite negative m e) : m < 2 ^ 53 := by
  unfold parts partsOfBits at finite
  have fraction : x.toBits.toNat % twoTo 52 < 2 ^ 52 := Nat.mod_lt _ (twoTo_pos 52)
  dsimp only at finite
  split at finite
  · split at finite <;> contradiction
  · split at finite
    · cases finite
      omega
    · cases finite
      have half : twoTo 52 = 2 ^ 52 := rfl
      omega

/-- The interval reaches below its double by more than one part in `10 ^ 18`. -/
structure Rounding.Wide (r : Rounding) : Prop where
  positive : 0 < r.value
  real : 0 < r.den
  above : r.value < r.high
  below : r.value ≤ (r.value - r.low) * 10 ^ 18
  least : r.low ≤ r.value

private theorem Rounding.wide_ofParts (nonzero : m ≠ 0) (short : m < 2 ^ 53) (e : Int) : (ofParts m e).Wide := by
  have up : 0 < if 2 ≤ e then twoTo (e - 2).toNat else 1 := by
    split
    · exact twoTo_pos _
    · exact Nat.one_pos
  have down : 0 < if 2 ≤ e then 1 else twoTo (2 - e).toNat := by
    split
    · exact Nat.one_pos
    · exact twoTo_pos _
  have low : (ofParts m e).low ≤ (4 * m - 1) * if 2 ≤ e then twoTo (e - 2).toNat else 1 := by
    refine Nat.mul_le_mul_right _ ?_
    split <;> omega
  have value : (ofParts m e).value = 4 * m * if 2 ≤ e then twoTo (e - 2).toNat else 1 := rfl
  have high : (ofParts m e).high = (4 * m + 2) * if 2 ≤ e then twoTo (e - 2).toNat else 1 := rfl
  generalize (if 2 ≤ e then twoTo (e - 2).toNat else 1) = gap at up low value high
  have gaps : (4 * m - 1) * gap + gap = 4 * m * gap := by
    rw [← Nat.succ_mul]
    congr 1
    omega
  refine ⟨?_,down,?_,?_,?_⟩
  · rw [value]
    exact Nat.mul_pos (by omega) up
  · rw [value,high]
    exact Nat.mul_lt_mul_of_pos_right (by omega) up
  · have reach : gap ≤ (ofParts m e).value - (ofParts m e).low := by omega
    calc (ofParts m e).value = 4 * m * gap := value
      _ ≤ 10 ^ 18 * gap := Nat.mul_le_mul_right _ (by omega)
      _ ≤ ((ofParts m e).value - (ofParts m e).low) * 10 ^ 18 := by
        rw [Nat.mul_comm]
        exact Nat.mul_le_mul_right _ reach
  · omega

/-- On a grid so fine that the double is `10 ^ 18` steps away from zero, the point below it reads back. -/
theorem Rounding.Wide.holds (wide : r.Wide) (unitPositive : 0 < unit) (scalePositive : 0 < scale)
    (fine : 10 ^ 18 * (r.den * unit) ≤ r.value * scale) :
    r.holds (r.value * scale / (r.den * unit) * unit) scale = true ∧ r.value * scale / (r.den * unit) ≠ 0 := by
  have grid : 0 < r.den * unit := Nat.mul_pos wide.real unitPositive
  have least : 10 ^ 18 ≤ r.value * scale / (r.den * unit) := (Nat.le_div_iff_mul_le grid).mpr fine
  refine ⟨?_,by omega⟩
  have floor := Nat.div_mul_le_self (r.value * scale) (r.den * unit)
  have next := Nat.lt_div_mul_add (a := r.value * scale) grid
  have place : r.value * scale / (r.den * unit) * unit * r.den = r.value * scale / (r.den * unit) * (r.den * unit) := by ring
  have reach : r.den * unit ≤ (r.value - r.low) * scale := by
    have many : 10 ^ 18 * (r.den * unit) ≤ 10 ^ 18 * ((r.value - r.low) * scale) :=
      calc 10 ^ 18 * (r.den * unit) ≤ r.value * scale := fine
        _ ≤ (r.value - r.low) * 10 ^ 18 * scale := Nat.mul_le_mul_right _ wide.below
        _ = 10 ^ 18 * ((r.value - r.low) * scale) := by ring
    exact Nat.le_of_mul_le_mul_left many (by decide)
  have parted : (r.value - r.low) * scale + r.low * scale = r.value * scale := by
    rw [← Nat.add_mul,Nat.sub_add_cancel wide.least]
  have inside : r.low * scale < r.value * scale / (r.den * unit) * unit * r.den := by omega
  have outside : r.value * scale / (r.den * unit) * unit * r.den < r.high * scale := by
    have higher := Nat.mul_lt_mul_of_pos_right wide.above scalePositive
    omega
  unfold Rounding.holds
  split
  · simp only [Bool.and_eq_true,decide_eq_true_eq]
    exact ⟨inside.le,outside.le⟩
  · simp only [Bool.and_eq_true,decide_eq_true_eq]
    exact ⟨inside,outside⟩

private theorem Rounding.Wide.exists_pointOn? (wide : r.Wide)
    (fine : 10 ^ 18 * (r.den * if 0 ≤ step then tenTo step.toNat else 1) ≤
      r.value * if 0 ≤ step then 1 else tenTo (-step).toNat) :
    ∃ point, r.pointOn? step = some point ∧ point ≠ 0 := by
  have unitPositive : 0 < if 0 ≤ step then tenTo step.toNat else 1 := by
    split
    · exact tenTo_pos _
    · exact Nat.one_pos
  have scalePositive : 0 < if 0 ≤ step then 1 else tenTo (-step).toNat := by
    split
    · exact Nat.one_pos
    · exact tenTo_pos _
  unfold Rounding.pointOn?
  generalize (if 0 ≤ step then tenTo step.toNat else 1) = unit at unitPositive fine ⊢
  generalize (if 0 ≤ step then 1 else tenTo (-step).toNat) = scale at scalePositive fine ⊢
  obtain ⟨holds,nonzero⟩ := wide.holds unitPositive scalePositive fine
  simp only [holds,Bool.true_and,if_true]
  generalize r.value * scale / (r.den * unit) = point at nonzero ⊢
  split
  · refine ⟨_,rfl,?_⟩
    split
    · exact nonzero
    · split
      · omega
      · omega
  · exact ⟨_,rfl,nonzero⟩

private theorem Rounding.shortestFrom_ne_zero (fuel : Nat) (hit : ∃ point, r.pointOn? (step - fuel) = some point ∧ point ≠ 0) :
    (r.shortestFrom step fuel).digits ≠ 0 := by
  induction fuel generalizing step with
  | zero =>
    obtain ⟨point,found,nonzero⟩ := hit
    rw [Nat.cast_zero,Int.sub_zero] at found
    rw [shortestFrom,found]
    exact nonzero
  | succ fuel ih =>
    have later : (r.shortestFrom (step - 1) fuel).digits ≠ 0 := ih (by
      rw [Int.sub_sub,Int.add_comm 1]
      exact hit)
    unfold shortestFrom
    split
    · split
      · exact later
      · next nonzero => exact nonzero
    · exact later

private theorem Digits.reduce_ne_zero (d : Digits) (fuel : Nat) (nonzero : d.digits ≠ 0) : (d.reduce fuel).digits ≠ 0 := by
  induction fuel generalizing d with
  | zero => exact nonzero
  | succ fuel ih =>
    unfold reduce
    split
    · exact ih _ (by dsimp only; omega)
    · exact nonzero

private theorem lt_ten_pow_length (n : Nat) : n < 10 ^ (Nat.toDigits 10 n).length :=
  (Nat.length_toDigits_le_iff (by decide) Nat.length_toDigits_pos).mp (Nat.le_refl _)

private theorem ten_pow_le {n : Nat} (nonzero : n ≠ 0) : 10 ^ ((Nat.toDigits 10 n).length - 1) ≤ n := by
  by_cases single : (Nat.toDigits 10 n).length = 1
  · rw [single]
    omega
  · by_contra less
    have long : 0 < (Nat.toDigits 10 n).length := Nat.length_toDigits_pos
    have fewer := (Nat.length_toDigits_le_iff (by decide) (by omega)).mpr (Nat.not_le.mp less)
    omega

/-- Of the digits that stand for a double other than zero, some are not zero. -/
theorem shortest_ne_zero (nonzero : m ≠ 0) (short : m < 2 ^ 53) (e : Int) : (shortest m e).digits ≠ 0 := by
  have wide := Rounding.wide_ofParts nonzero short e
  refine Digits.reduce_ne_zero _ _ (Rounding.shortestFrom_ne_zero 20 (wide.exists_pointOn? ?_))
  generalize Rounding.ofParts m e = r at wide
  by_cases large : r.den ≤ r.value
  · have lead := ten_pow_le (Nat.div_pos large wide.real).ne'
    have long : 0 < (Nat.toDigits 10 (r.value / r.den)).length := Nat.length_toDigits_pos
    rw [if_pos large]
    generalize (Nat.toDigits 10 (r.value / r.den)).length = k at lead long ⊢
    have least : 10 ^ (k - 1) * r.den ≤ r.value := (Nat.le_div_iff_mul_le wide.real).mp lead
    by_cases coarse : 20 ≤ k
    · have step : ((k : Int) - (20 : Nat)).toNat = k - 20 := by omega
      rw [if_pos (by omega),if_pos (by omega),step,tenTo]
      calc 10 ^ 18 * (r.den * 10 ^ (k - 20)) = 10 ^ (18 + (k - 20)) * r.den := by ring
        _ ≤ 10 ^ (k - 1) * r.den := Nat.mul_le_mul_right _ (Nat.pow_le_pow_right (by decide) (by omega))
        _ ≤ r.value * 1 := by rwa [Nat.mul_one]
    · have step : (-((k : Int) - (20 : Nat))).toNat = 20 - k := by omega
      rw [if_neg (by omega),if_neg (by omega),step,tenTo]
      calc 10 ^ 18 * (r.den * 1) ≤ 10 ^ ((k - 1) + (20 - k)) * (r.den * 1) :=
            Nat.mul_le_mul_right _ (Nat.pow_le_pow_right (by decide) (by omega))
        _ = 10 ^ (k - 1) * r.den * 10 ^ (20 - k) := by ring
        _ ≤ r.value * 10 ^ (20 - k) := Nat.mul_le_mul_right _ least
  · have less := lt_ten_pow_length (r.den / r.value)
    rw [if_neg large]
    generalize (Nat.toDigits 10 (r.den / r.value)).length = k at less ⊢
    have most : r.den < 10 ^ k * r.value := (Nat.div_lt_iff_lt_mul wide.positive).mp less
    have step : (-((2 : Int) - k - (20 : Nat))).toNat = 18 + k := by omega
    rw [if_neg (by omega),if_neg (by omega),step,tenTo]
    calc 10 ^ 18 * (r.den * 1) ≤ 10 ^ 18 * (10 ^ k * r.value) := Nat.mul_le_mul_left _ (by omega)
      _ = r.value * 10 ^ (18 + k) := by ring

end Letterpress.Decimal
