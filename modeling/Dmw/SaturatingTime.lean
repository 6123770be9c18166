import Mathlib.Order.Bounds.Basic
import Mathlib.Order.Lattice
import Mathlib.Algebra.Order.Ring.Int
import Mathlib.Tactic.Ring
import Mathlib.Tactic.Linarith

/-!
# Saturating time arithmetic and period grids

Sums, differences and products of 64-bit times that stop at the ends of their
range, and the points of a periodic schedule that lie ahead of a given time.
-/

namespace Dmw.SaturatingTime

/-- An integer that 64 bits hold. -/
def Fits (x : ℤ) : Prop := Int64.minValue.toInt ≤ x ∧ x ≤ Int64.maxValue.toInt

instance (x : ℤ) : Decidable (Fits x) := inferInstanceAs (Decidable (_ ∧ _))

/-- A sum that stops at the ends of the range. -/
def saturatingAdd (lhs rhs : Int64) : Int64 :=
  if 0 < rhs ∧ Int64.maxValue - rhs < lhs then Int64.maxValue
  else if rhs < 0 ∧ lhs < Int64.minValue - rhs then Int64.minValue
  else lhs + rhs

/-- A difference that stops at the ends of the range. -/
def saturatingSub (lhs rhs : Int64) : Int64 :=
  if 0 < rhs ∧ lhs < Int64.minValue + rhs then Int64.minValue
  else if rhs < 0 ∧ Int64.maxValue + rhs < lhs then Int64.maxValue
  else lhs - rhs

/-- A product of non-negative numbers that stops at the end of the range. -/
def saturatingMul (lhs rhs : Int64) : Int64 :=
  if lhs = 0 ∨ rhs = 0 then 0
  else if Int64.maxValue / rhs < lhs then Int64.maxValue
  else lhs * rhs

variable {a b : Int64}

/-- Every 64-bit integer fits. -/
theorem fits_toInt (a : Int64) : Fits a.toInt := by
  have hlow := a.le_toInt
  have hhigh := a.toInt_lt
  unfold Fits
  rw [Int64.toInt_minValue,Int64.toInt_maxValue]
  omega

/-- A sum that fits does not wrap. -/
theorem toInt_add (h : Fits (a.toInt + b.toInt)) : (a + b).toInt = a.toInt + b.toInt := by
  unfold Fits at h
  rw [Int64.toInt_minValue,Int64.toInt_maxValue] at h
  rw [Int64.toInt_add]
  exact Int.bmod_eq_of_le (by omega) (by omega)

/-- A difference that fits does not wrap. -/
theorem toInt_sub (h : Fits (a.toInt - b.toInt)) : (a - b).toInt = a.toInt - b.toInt := by
  unfold Fits at h
  rw [Int64.toInt_minValue,Int64.toInt_maxValue] at h
  rw [Int64.toInt_sub]
  exact Int.bmod_eq_of_le (by omega) (by omega)

/-- A product that fits does not wrap. -/
theorem toInt_mul (h : Fits (a.toInt * b.toInt)) : (a * b).toInt = a.toInt * b.toInt := by
  unfold Fits at h
  rw [Int64.toInt_minValue,Int64.toInt_maxValue] at h
  rw [Int64.toInt_mul]
  exact Int.bmod_eq_of_le (by omega) (by omega)

/-- The sum is exact if it fits, and else the end of the range that it passed. -/
theorem toInt_saturatingAdd (a b : Int64) :
    (saturatingAdd a b).toInt =
      max Int64.minValue.toInt (min (a.toInt + b.toInt) Int64.maxValue.toInt) := by
  have ha := fits_toInt a
  have hb := fits_toInt b
  have hmin := Int64.toInt_minValue
  have hmax := Int64.toInt_maxValue
  unfold Fits at ha hb
  unfold saturatingAdd
  simp only [Int64.lt_iff_toInt_lt,Int64.toInt_zero]
  by_cases hpositive : 0 < b.toInt
  · have hroom : (Int64.maxValue - b).toInt = Int64.maxValue.toInt - b.toInt :=
      toInt_sub (by unfold Fits; omega)
    have hnegative : ¬ b.toInt < 0 := by omega
    rw [hroom]
    simp only [hpositive,hnegative,true_and,false_and,if_false]
    by_cases hover : Int64.maxValue.toInt - b.toInt < a.toInt
    · rw [if_pos hover]
      omega
    · rw [if_neg hover,toInt_add (by unfold Fits; omega)]
      omega
  · simp only [hpositive,false_and,if_false]
    by_cases hnegative : b.toInt < 0
    · have hroom : (Int64.minValue - b).toInt = Int64.minValue.toInt - b.toInt :=
        toInt_sub (by unfold Fits; omega)
      rw [hroom]
      simp only [hnegative,true_and]
      by_cases hunder : a.toInt < Int64.minValue.toInt - b.toInt
      · rw [if_pos hunder]
        omega
      · rw [if_neg hunder,toInt_add (by unfold Fits; omega)]
        omega
    · simp only [hnegative,false_and,if_false]
      rw [toInt_add (by unfold Fits; omega)]
      omega

/-- The difference is exact if it fits, and else the end of the range that it
passed. -/
theorem toInt_saturatingSub (a b : Int64) :
    (saturatingSub a b).toInt =
      max Int64.minValue.toInt (min (a.toInt - b.toInt) Int64.maxValue.toInt) := by
  have ha := fits_toInt a
  have hb := fits_toInt b
  have hmin := Int64.toInt_minValue
  have hmax := Int64.toInt_maxValue
  unfold Fits at ha hb
  unfold saturatingSub
  simp only [Int64.lt_iff_toInt_lt,Int64.toInt_zero]
  by_cases hpositive : 0 < b.toInt
  · have hroom : (Int64.minValue + b).toInt = Int64.minValue.toInt + b.toInt :=
      toInt_add (by unfold Fits; omega)
    have hnegative : ¬ b.toInt < 0 := by omega
    rw [hroom]
    simp only [hpositive,hnegative,true_and,false_and,if_false]
    by_cases hunder : a.toInt < Int64.minValue.toInt + b.toInt
    · rw [if_pos hunder]
      omega
    · rw [if_neg hunder,toInt_sub (by unfold Fits; omega)]
      omega
  · simp only [hpositive,false_and,if_false]
    by_cases hnegative : b.toInt < 0
    · have hroom : (Int64.maxValue + b).toInt = Int64.maxValue.toInt + b.toInt :=
        toInt_add (by unfold Fits; omega)
      rw [hroom]
      simp only [hnegative,true_and]
      by_cases hover : Int64.maxValue.toInt + b.toInt < a.toInt
      · rw [if_pos hover]
        omega
      · rw [if_neg hover,toInt_sub (by unfold Fits; omega)]
        omega
    · simp only [hnegative,false_and,if_false]
      rw [toInt_sub (by unfold Fits; omega)]
      omega

/-- A sum that fits is exact. -/
theorem saturatingAdd_exact (h : Fits (a.toInt + b.toInt)) :
    (saturatingAdd a b).toInt = a.toInt + b.toInt := by
  unfold Fits at h
  rw [toInt_saturatingAdd]
  omega

/-- A difference that fits is exact. -/
theorem saturatingSub_exact (h : Fits (a.toInt - b.toInt)) :
    (saturatingSub a b).toInt = a.toInt - b.toInt := by
  unfold Fits at h
  rw [toInt_saturatingSub]
  omega

/-- A product of positive numbers that fits is exact. -/
theorem saturatingMul_exact (ha : 0 < a.toInt) (hb : 0 < b.toInt)
    (h : Fits (a.toInt * b.toInt)) : (saturatingMul a b).toInt = a.toInt * b.toInt := by
  have hmax := Int64.toInt_maxValue
  have hzero : ¬ (a = 0 ∨ b = 0) := by
    rw [← Int64.toInt_inj,← Int64.toInt_inj,Int64.toInt_zero]
    omega
  have hone : b ≠ -1 := by
    intro heq
    rw [heq] at hb
    revert hb
    decide
  have hroom : ¬ Int64.maxValue / b < a := by
    rw [Int64.lt_iff_toInt_lt,Int64.toInt_div_of_ne_right _ _ hone,
      Int.tdiv_eq_ediv_of_nonneg (by omega),not_lt]
    exact (Int.le_ediv_iff_mul_le hb).mpr h.2
  unfold saturatingMul
  rw [if_neg hzero,if_neg hroom]
  exact toInt_mul h

/-- The quotient of non-negative numbers is that of the integers. -/
theorem toInt_div (ha : 0 ≤ a.toInt) (hb : 0 < b.toInt) :
    (a / b).toInt = a.toInt / b.toInt := by
  have hone : b ≠ -1 := by
    intro heq
    rw [heq] at hb
    revert hb
    decide
  rw [Int64.toInt_div_of_ne_right _ _ hone,Int.tdiv_eq_ediv_of_nonneg ha]

/-- The points of a schedule after one of them that lie ahead of a time. -/
def gridAfter (expected period now : ℤ) : Set ℤ :=
  {x | now < x ∧ ∃ k : ℤ, 0 < k ∧ x = expected + k * period}

variable {expected period now : ℤ}

/-- The next point is the first one if it lies ahead. -/
theorem isLeast_next (hperiod : 0 < period) (hahead : now < expected + period) :
    IsLeast (gridAfter expected period now) (expected + period) := by
  refine ⟨⟨hahead,1,one_pos,by rw [one_mul]⟩,?_⟩
  rintro x ⟨-, k, hk, rfl⟩
  have hmul : period ≤ k * period := le_mul_of_one_le_left hperiod.le hk
  omega

/-- Otherwise it is the one after the whole periods that passed. -/
theorem isLeast_skip (hperiod : 0 < period) (hbehind : expected + period ≤ now) :
    IsLeast (gridAfter expected period now)
      (expected + period + (1 + (now - (expected + period)) / period) * period) := by
  have hquotient := Int.emod_add_mul_ediv (now - (expected + period)) period
  have hrest := Int.emod_lt_of_pos (now - (expected + period)) hperiod
  have hrest' := Int.emod_nonneg (now - (expected + period)) hperiod.ne'
  have hmissed : 0 ≤ (now - (expected + period)) / period :=
    Int.ediv_nonneg (by omega) hperiod.le
  generalize (now - (expected + period)) / period = missed at *
  have hpoint : expected + period + (1 + missed) * period = expected + (2 + missed) * period := by
    ring
  rw [hpoint]
  have hexpand : (2 + missed) * period = 2 * period + period * missed := by ring
  refine ⟨⟨by omega,2 + missed,by omega,rfl⟩,?_⟩
  rintro x ⟨hahead, k, hk, rfl⟩
  -- An earlier point would lie within the periods that passed.
  by_contra hearlier
  have hless : k * period < (2 + missed) * period := by omega
  have hk' : k ≤ 1 + missed := by
    have := lt_of_mul_lt_mul_right hless hperiod.le
    omega
  have hbound : k * period ≤ (1 + missed) * period := mul_le_mul_of_nonneg_right hk' hperiod.le
  have hexpand' : (1 + missed) * period = period + period * missed := by ring
  omega

end Dmw.SaturatingTime
