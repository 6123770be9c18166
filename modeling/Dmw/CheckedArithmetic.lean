import Mathlib.Data.Option.Basic
import Dmw.SaturatingTime

/-!
# Arithmetic that notices wrapping

Operations of 64-bit integers, signed and unsigned, that have a result only if
the exact one fits. A computation over them that has a result has not wrapped.
-/

namespace Dmw.CheckedArithmetic

open SaturatingTime

/-- A machine result, if the exact one fits. -/
def fitting (exact : ℤ) (result : Int64) : Option Int64 := if Fits exact then some result else none

/-- Signed sum. -/
def addSigned (a b : Int64) : Option Int64 := fitting (a.toInt + b.toInt) (a + b)

/-- Signed difference. -/
def subSigned (a b : Int64) : Option Int64 := fitting (a.toInt - b.toInt) (a - b)

/-- Signed product. -/
def mulSigned (a b : Int64) : Option Int64 := fitting (a.toInt * b.toInt) (a * b)

/-- Signed quotient, rounded toward zero. -/
def divSigned (a b : Int64) : Option Int64 :=
  if b = 0 then none else fitting (a.toInt.tdiv b.toInt) (a / b)

/-- Signed negation. -/
def negSigned (a : Int64) : Option Int64 := fitting (-a.toInt) (-a)

/-- Unsigned sum. -/
def addUnsigned (a b : UInt64) : Option UInt64 :=
  if a.toNat + b.toNat < UInt64.size then some (a + b) else none

/-- Unsigned difference. -/
def subUnsigned (a b : UInt64) : Option UInt64 := if b.toNat ≤ a.toNat then some (a - b) else none

/-- Unsigned product. -/
def mulUnsigned (a b : UInt64) : Option UInt64 :=
  if a.toNat * b.toNat < UInt64.size then some (a * b) else none

/-- Unsigned to signed. -/
def toSigned (a : UInt64) : Option Int64 := fitting a.toNat a.toInt64

variable {a b : Int64} {u v : UInt64}

/-- A sum that fits is there. -/
theorem addSigned_eq (h : Fits (a.toInt + b.toInt)) : addSigned a b = some (a + b) := if_pos h

/-- A difference that fits is there. -/
theorem subSigned_eq (h : Fits (a.toInt - b.toInt)) : subSigned a b = some (a - b) := if_pos h

/-- A product that fits is there. -/
theorem mulSigned_eq (h : Fits (a.toInt * b.toInt)) : mulSigned a b = some (a * b) := if_pos h

/-- Quotients of non-negative by positive numbers are there. -/
theorem divSigned_eq (ha : 0 ≤ a.toInt) (hb : 0 < b.toInt) : divSigned a b = some (a / b) := by
  have hzero : b ≠ 0 := by
    rintro rfl
    rw [Int64.toInt_zero] at hb
    omega
  have hvalue : a.toInt.tdiv b.toInt = (a / b).toInt := by
    rw [toInt_div ha hb,Int.tdiv_eq_ediv_of_nonneg ha]
  rw [divSigned,if_neg hzero,hvalue]
  exact if_pos (fits_toInt _)

/-- A negation that fits is there. -/
theorem negSigned_eq (h : Fits (-a.toInt)) : negSigned a = some (-a) := if_pos h

/-- An unsigned sum that fits is there. -/
theorem addUnsigned_eq (h : u.toNat + v.toNat < UInt64.size) : addUnsigned u v = some (u + v) :=
  if_pos h

/-- An unsigned difference that fits is there. -/
theorem subUnsigned_eq (h : v.toNat ≤ u.toNat) : subUnsigned u v = some (u - v) := if_pos h

/-- An unsigned product that fits is there. -/
theorem mulUnsigned_eq (h : u.toNat * v.toNat < UInt64.size) : mulUnsigned u v = some (u * v) :=
  if_pos h

/-- A word up to the largest signed number is that number. -/
theorem toSigned_eq (h : Fits u.toNat) : toSigned u = some u.toInt64 := if_pos h

/-- A word up to the largest signed number keeps its value. -/
theorem toInt_toInt64 (h : Fits u.toNat) : u.toInt64.toInt = u.toNat := by
  unfold Fits at h
  rw [Int64.toInt_minValue,Int64.toInt_maxValue] at h
  have hvalue : u.toInt64.toInt = (u.toNat : ℤ).bmod (2 ^ 64) :=
    BitVec.toInt_eq_toNat_bmod u.toBitVec
  rw [hvalue]
  exact Int.bmod_eq_of_le (by omega) (by omega)

/-- A negation that fits has the exact value. -/
theorem toInt_neg (h : Fits (-a.toInt)) : (-a).toInt = -a.toInt := by
  unfold Fits at h
  rw [Int64.toInt_minValue,Int64.toInt_maxValue] at h
  rw [Int64.toInt_neg]
  exact Int.bmod_eq_of_le (by omega) (by omega)

end Dmw.CheckedArithmetic
