import Dmw.CheckedArithmetic
import Dmw.TimerSchedule

/-!
# Grid points under saturation

The next grid point is computed in four saturating operations, none of which
wraps. A product that saturates does not reach the point it should, so the
result is the point ahead exactly if the periods skipped to it fit, or it does
not fit itself. It never lies before the given time.
-/

namespace Dmw.GridSaturation

open SaturatingTime CheckedArithmetic TimerSchedule

/-- `saturating_add`. There is no result if its arithmetic wraps. -/
def saturatingAddChecked (lhs rhs : Int64) : Option Int64 := do
  -- Each room is computed only where the sign of the operand leaves one.
  let above ←
    if 0 < rhs then (subSigned Int64.maxValue rhs).map fun most => decide (most < lhs)
    else some false
  if above then some Int64.maxValue
  else
    let below ←
      if rhs < 0 then (subSigned Int64.minValue rhs).map fun least => decide (lhs < least)
      else some false
    if below then some Int64.minValue else addSigned lhs rhs

/-- `saturating_sub`. There is no result if its arithmetic wraps. -/
def saturatingSubChecked (lhs rhs : Int64) : Option Int64 := do
  let below ←
    if 0 < rhs then (addSigned Int64.minValue rhs).map fun least => decide (lhs < least)
    else some false
  if below then some Int64.minValue
  else
    let above ←
      if rhs < 0 then (addSigned Int64.maxValue rhs).map fun most => decide (most < lhs)
      else some false
    if above then some Int64.maxValue else subSigned lhs rhs

/-- `saturating_mul`. There is no result if its arithmetic wraps. -/
def saturatingMulChecked (lhs rhs : Int64) : Option Int64 :=
  if lhs = 0 ∨ rhs = 0 then some 0
  else do
    let most ← divSigned Int64.maxValue rhs
    if most < lhs then some Int64.maxValue else mulSigned lhs rhs

/-- `next_period_grid_point`. There is no result if its arithmetic wraps. -/
def nextPeriodGridPointChecked (expected period now : Int64) : Option Int64 := do
  let next ← saturatingAddChecked expected period
  if now < next then some next
  else
    let behind ← saturatingSubChecked now next
    let whole ← divSigned behind period
    let missed ← saturatingAddChecked 1 whole
    let skipped ← saturatingMulChecked missed period
    let later ← saturatingAddChecked next skipped
    some (if now < later then later else now)

/-- What is asked of the next grid point. -/
structure GridPoint (expected period now : Int64) : Prop where
  /-- Nothing wraps. -/
  unwrapped : nextPeriodGridPointChecked expected period now =
    some (nextPeriodGridPoint expected period now)
  /-- It is the first point ahead if that fits. -/
  exact : ∀ x, IsLeast (gridAfter expected.toInt period.toInt now.toInt) x → Fits x →
    (nextPeriodGridPoint expected period now).toInt = x
  /-- Otherwise it does not lie before the time. -/
  atLeast : ∀ x, IsLeast (gridAfter expected.toInt period.toInt now.toInt) x → ¬ Fits x →
    now.toInt ≤ (nextPeriodGridPoint expected period now).toInt

/-- The periods from the next point to the first one ahead. -/
def skippedPeriods (expected period now : ℤ) : ℤ := (1 + (now - (expected + period)) / period) * period

/-- The next point lies ahead, the first one ahead does not fit, or the periods
up to it do. -/
def Reachable (expected period now : ℤ) : Prop :=
  now < expected + period ∨
    Int64.maxValue.toInt < expected + period + skippedPeriods expected period now ∨
      skippedPeriods expected period now ≤ Int64.maxValue.toInt

instance (expected period now : ℤ) : Decidable (Reachable expected period now) :=
  inferInstanceAs (Decidable (_ ∨ _ ∨ _))

variable {a b expected period now : Int64}

/-- The sum does not wrap. -/
theorem saturatingAddChecked_eq (a b : Int64) :
    saturatingAddChecked a b = some (saturatingAdd a b) := by
  have ha := fits_toInt a
  have hb := fits_toInt b
  have hmin := Int64.toInt_minValue
  have hmax := Int64.toInt_maxValue
  unfold Fits at ha hb
  unfold saturatingAddChecked saturatingAdd
  by_cases hpositive : 0 < b
  · have hpositive' : 0 < b.toInt := by rwa [Int64.lt_iff_toInt_lt,Int64.toInt_zero] at hpositive
    have hnegative : ¬ b < 0 := by rw [Int64.lt_iff_toInt_lt,Int64.toInt_zero]; omega
    have hfits : Fits (Int64.maxValue.toInt - b.toInt) := by unfold Fits; omega
    have hroom := toInt_sub hfits
    rw [subSigned_eq hfits]
    by_cases hover : Int64.maxValue - b < a
    · simp [hpositive,hover]
    · rw [Int64.lt_iff_toInt_lt,hroom] at hover
      have hsum := addSigned_eq (a := a) (b := b) (by unfold Fits; omega)
      rw [← hroom,← Int64.lt_iff_toInt_lt] at hover
      simp [hpositive,hnegative,hover,hsum]
  · by_cases hnegative : b < 0
    · have hnegative' : b.toInt < 0 := by rwa [Int64.lt_iff_toInt_lt,Int64.toInt_zero] at hnegative
      have hfits : Fits (Int64.minValue.toInt - b.toInt) := by unfold Fits; omega
      have hroom := toInt_sub hfits
      rw [subSigned_eq (a := Int64.minValue) hfits]
      by_cases hunder : a < Int64.minValue - b
      · simp [hpositive,hnegative,hunder]
      · rw [Int64.lt_iff_toInt_lt,hroom] at hunder
        have hsum := addSigned_eq (a := a) (b := b) (by unfold Fits; omega)
        rw [← hroom,← Int64.lt_iff_toInt_lt] at hunder
        simp [hpositive,hnegative,hunder,hsum]
    · have hsum := addSigned_eq (a := a) (b := b) (by
        rw [Int64.lt_iff_toInt_lt,Int64.toInt_zero] at hpositive hnegative
        unfold Fits
        omega)
      simp [hpositive,hnegative,hsum]

/-- The difference does not wrap. -/
theorem saturatingSubChecked_eq (a b : Int64) :
    saturatingSubChecked a b = some (saturatingSub a b) := by
  have ha := fits_toInt a
  have hb := fits_toInt b
  have hmin := Int64.toInt_minValue
  have hmax := Int64.toInt_maxValue
  unfold Fits at ha hb
  unfold saturatingSubChecked saturatingSub
  by_cases hpositive : 0 < b
  · have hpositive' : 0 < b.toInt := by rwa [Int64.lt_iff_toInt_lt,Int64.toInt_zero] at hpositive
    have hnegative : ¬ b < 0 := by rw [Int64.lt_iff_toInt_lt,Int64.toInt_zero]; omega
    have hfits : Fits (Int64.minValue.toInt + b.toInt) := by unfold Fits; omega
    have hroom := toInt_add hfits
    rw [addSigned_eq hfits]
    by_cases hunder : a < Int64.minValue + b
    · simp [hpositive,hunder]
    · rw [Int64.lt_iff_toInt_lt,hroom] at hunder
      have hdifference := subSigned_eq (a := a) (b := b) (by unfold Fits; omega)
      rw [← hroom,← Int64.lt_iff_toInt_lt] at hunder
      simp [hpositive,hnegative,hunder,hdifference]
  · by_cases hnegative : b < 0
    · have hnegative' : b.toInt < 0 := by rwa [Int64.lt_iff_toInt_lt,Int64.toInt_zero] at hnegative
      have hfits : Fits (Int64.maxValue.toInt + b.toInt) := by unfold Fits; omega
      have hroom := toInt_add hfits
      rw [addSigned_eq (a := Int64.maxValue) hfits]
      by_cases hover : Int64.maxValue + b < a
      · simp [hpositive,hnegative,hover]
      · rw [Int64.lt_iff_toInt_lt,hroom] at hover
        have hdifference := subSigned_eq (a := a) (b := b) (by unfold Fits; omega)
        rw [← hroom,← Int64.lt_iff_toInt_lt] at hover
        simp [hpositive,hnegative,hover,hdifference]
    · have hdifference := subSigned_eq (a := a) (b := b) (by
        rw [Int64.lt_iff_toInt_lt,Int64.toInt_zero] at hpositive hnegative
        unfold Fits
        omega)
      simp [hpositive,hnegative,hdifference]

/-- A product of positive numbers stops at the end of the range. -/
theorem toInt_saturatingMul (ha : 0 < a.toInt) (hb : 0 < b.toInt) :
    (saturatingMul a b).toInt = min (a.toInt * b.toInt) Int64.maxValue.toInt ∧
      saturatingMulChecked a b = some (saturatingMul a b) := by
  have hmin := Int64.toInt_minValue
  have hmax := Int64.toInt_maxValue
  have hzero : ¬ (a = 0 ∨ b = 0) := by
    rw [← Int64.toInt_inj,← Int64.toInt_inj,Int64.toInt_zero]
    omega
  have hpositive : 0 < a.toInt * b.toInt := mul_pos ha hb
  have hquotient := toInt_div (a := Int64.maxValue) (by omega) hb
  have hmost : Int64.maxValue / b < a ↔ Int64.maxValue.toInt < a.toInt * b.toInt := by
    rw [Int64.lt_iff_toInt_lt,hquotient,Int.ediv_lt_iff_lt_mul hb]
  unfold saturatingMulChecked
  rw [if_neg hzero,divSigned_eq (by omega) hb]
  by_cases hover : Int64.maxValue.toInt < a.toInt * b.toInt
  · unfold saturatingMul
    rw [if_neg hzero,if_pos (hmost.mpr hover)]
    refine ⟨by omega,?_⟩
    simp [hmost.mpr hover]
  · have hfits : Fits (a.toInt * b.toInt) := by unfold Fits; omega
    have hexact := saturatingMul_exact ha hb hfits
    refine ⟨by omega,?_⟩
    unfold saturatingMul
    rw [if_neg hzero,if_neg (mt hmost.mp hover),mulSigned_eq hfits]
    simp [mt hmost.mp hover]

/-- The first point ahead. -/
theorem isLeast_firstAhead (expected now : ℤ) {period : ℤ} (hperiod : 0 < period) :
    IsLeast (gridAfter expected period now)
      (if now < expected + period then expected + period
        else expected + period + skippedPeriods expected period now) := by
  by_cases hahead : now < expected + period
  · rw [if_pos hahead]
    exact isLeast_next hperiod hahead
  · rw [if_neg hahead]
    exact isLeast_skip hperiod (not_lt.mp hahead)

/-- What is computed where the next point does not lie ahead: nothing wraps, and
the result is as far beyond it as the whole periods that fit. -/
theorem nextPeriodGridPoint_behind (hperiod : 0 < period.toInt)
    (hbehind : (saturatingAdd expected period).toInt ≤ now.toInt) :
    nextPeriodGridPointChecked expected period now =
        some (nextPeriodGridPoint expected period now) ∧
      ∃ product : ℤ, product ≤ Int64.maxValue.toInt ∧
        ((1 + (now.toInt - (saturatingAdd expected period).toInt) / period.toInt) * period.toInt ≤
            Int64.maxValue.toInt → product =
          (1 + (now.toInt - (saturatingAdd expected period).toInt) / period.toInt) *
            period.toInt) ∧
        (nextPeriodGridPoint expected period now).toInt = max now.toInt
          (min ((saturatingAdd expected period).toInt + product) Int64.maxValue.toInt) := by
  have hn := fits_toInt now
  have hx := fits_toInt (saturatingAdd expected period)
  have hmin := Int64.toInt_minValue
  have hmax := Int64.toInt_maxValue
  unfold Fits at hn hx
  unfold nextPeriodGridPointChecked nextPeriodGridPoint
  rw [saturatingAddChecked_eq]
  generalize saturatingAdd expected period = next at hx hbehind ⊢
  have hahead : ¬ now < next := by
    rw [Int64.lt_iff_toInt_lt]
    omega
  have hsub := toInt_saturatingSub now next
  dsimp only
  simp only [Option.bind_eq_bind,Option.bind_some,if_neg hahead,saturatingSubChecked_eq]
  generalize saturatingSub now next = behind at hsub ⊢
  have hquotient := toInt_div (a := behind) (b := period) (by omega) hperiod
  rw [divSigned_eq (by omega) hperiod,Option.bind_some,saturatingAddChecked_eq,Option.bind_some]
  have hwhole : 0 ≤ behind.toInt / period.toInt := Int.ediv_nonneg (by omega) hperiod.le
  have hone : (1 : Int64).toInt = 1 := rfl
  have hadd := toInt_saturatingAdd 1 (behind / period)
  rw [hone,hquotient] at hadd
  generalize saturatingAdd 1 (behind / period) = missed at hadd ⊢
  obtain ⟨hmul, hmulChecked⟩ := toInt_saturatingMul (a := missed) (by omega) hperiod
  rw [hmulChecked,Option.bind_some,saturatingAddChecked_eq,Option.bind_some]
  refine ⟨rfl,(saturatingMul missed period).toInt,by omega,?_,?_⟩
  · intro hfits
    -- The whole periods fit, so nothing has saturated on the way to them.
    have hrest := Int.emod_add_mul_ediv (now.toInt - next.toInt) period.toInt
    have hrest' := Int.emod_lt_of_pos (now.toInt - next.toInt) hperiod
    have hexpand : (1 + (now.toInt - next.toInt) / period.toInt) * period.toInt =
        period.toInt + period.toInt * ((now.toInt - next.toInt) / period.toInt) := by ring
    have hbehind' : behind.toInt = now.toInt - next.toInt := by omega
    rw [hbehind'] at hadd hwhole
    have hmany : 1 + (now.toInt - next.toInt) / period.toInt ≤
        (1 + (now.toInt - next.toInt) / period.toInt) * period.toInt :=
      le_mul_of_one_le_right (by omega) hperiod
    have hmissed : missed.toInt = 1 + (now.toInt - next.toInt) / period.toInt := by omega
    rw [hmul,hmissed]
    omega
  · have hlater := toInt_saturatingAdd next (saturatingMul missed period)
    have hproduct : 0 ≤ missed.toInt * period.toInt := mul_nonneg (by omega) hperiod.le
    split
    · next h =>
      rw [Int64.lt_iff_toInt_lt] at h
      omega
    · next h =>
      rw [Int64.lt_iff_toInt_lt] at h
      omega

/-- For all 64-bit times and positive periods, the next grid point is as asked
exactly if the first point ahead is reachable. -/
theorem gridPoint_iff (hperiod : 0 < period) :
    GridPoint expected period now ↔ Reachable expected.toInt period.toInt now.toInt := by
  have he := fits_toInt expected
  have hn := fits_toInt now
  have hmin := Int64.toInt_minValue
  have hmax := Int64.toInt_maxValue
  have hp : 0 < period.toInt := by rwa [Int64.lt_iff_toInt_lt,Int64.toInt_zero] at hperiod
  have hleast := isLeast_firstAhead expected.toInt now.toInt hp
  have hnext := toInt_saturatingAdd expected period
  unfold Fits at he hn
  unfold Reachable
  by_cases hahead : now.toInt < expected.toInt + period.toInt
  · rw [if_pos hahead] at hleast
    refine iff_of_true ?_ (Or.inl hahead)
    by_cases hbefore : now < saturatingAdd expected period
    · have hvalue : nextPeriodGridPoint expected period now = saturatingAdd expected period :=
        if_pos hbefore
      have hbefore' := Int64.lt_iff_toInt_lt.mp hbefore
      refine ⟨?_,?_,?_⟩
      · rw [hvalue,nextPeriodGridPointChecked,saturatingAddChecked_eq]
        simp [hbefore]
      · intro x hx hfits
        obtain rfl := hx.unique hleast
        rw [hvalue,saturatingAdd_exact hfits]
      · intro x hx hover
        rw [hvalue]
        omega
    · -- The next point saturates at the time, which is the end of the range.
      rw [Int64.lt_iff_toInt_lt] at hbefore
      obtain ⟨hunwrapped, product, -, -, hvalue⟩ :=
        nextPeriodGridPoint_behind hp (not_lt.mp hbefore)
      refine ⟨hunwrapped,?_,?_⟩
      · intro x hx hfits
        obtain rfl := hx.unique hleast
        unfold Fits at hfits
        omega
      · intro x hx hover
        omega
  · rw [if_neg hahead] at hleast
    have hnext' : (saturatingAdd expected period).toInt = expected.toInt + period.toInt := by omega
    have hbehind : (saturatingAdd expected period).toInt ≤ now.toInt := by omega
    have hskip := nextPeriodGridPoint_behind hp hbehind
    rw [hnext'] at hskip
    obtain ⟨hunwrapped, product, hmost, hexact, hvalue⟩ := hskip
    have hbeyond := hleast.1.1
    unfold skippedPeriods at hleast hbeyond ⊢
    constructor
    · intro h
      by_contra hnot
      have hpoint := h.exact _ hleast (by unfold Fits; omega)
      omega
    · intro hreachable
      refine ⟨hunwrapped,?_,?_⟩
      · intro x hx hfits
        obtain rfl := hx.unique hleast
        unfold Fits at hfits
        omega
      · intro x hx hover
        omega

/-- Three seconds on a clock of seconds. -/
theorem gridPoint_iff_seconds :
    0 < (1000000000 : Int64) ∧ GridPoint 0 1000000000 3500000000 :=
  ⟨by decide,(gridPoint_iff (by decide)).mpr (by decide)⟩

/-- From the beginning of the range with the shortest period, the first point
after zero is one. The result is zero. -/
theorem zero_not_ahead : ¬ GridPoint Int64.minValue 1 0 := by
  intro h
  have hleast := isLeast_firstAhead Int64.minValue.toInt 0 one_pos
  have hpoint := h.exact _ hleast (by decide)
  revert hpoint
  decide

end Dmw.GridSaturation
