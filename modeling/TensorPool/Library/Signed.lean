/-
This file gives the integer values of the casts between signed and unsigned 64-bit words.
-/

import Mathlib.Algebra.Group.Nat.Defs
import Mathlib.Algebra.Ring.Int.Defs

namespace Signed

/-- The cast to a signed word keeps the value below half of the range. -/
theorem toInt64_toInt (word : UInt64) : word.toInt64.toInt = (word.toNat : Int).bmod (2 ^ 64) :=
  BitVec.toInt_eq_toNat_bmod word.toBitVec

theorem toInt64_of_lt {word : UInt64} (small : word.toNat < 2 ^ 63) :
    word.toInt64.toInt = (word.toNat : Int) := by
  rw [toInt64_toInt, Int.bmod_def]
  omega

/-- The sum of an unsigned and a signed word wraps around once. -/
theorem sum_toInt (word : UInt64) (offset : Int64) :
    (word.toInt64 + offset).toInt = ((word.toNat : Int) + offset.toInt).bmod (2 ^ 64) := by
  rw [Int64.toInt_add, toInt64_toInt, Int.bmod_add_bmod]

/-- The difference of two words that are less than half of the range apart is exact. -/
theorem difference_toInt {left right : UInt64} (above : left.toNat < right.toNat + 2 ^ 63)
    (below : right.toNat ≤ left.toNat + 2 ^ 63) :
    (left.toInt64 - right.toInt64).toInt = (left.toNat : Int) - right.toNat := by
  rw [Int64.toInt_sub, toInt64_toInt, toInt64_toInt, Int.bmod_sub_bmod, Int.sub_bmod_bmod, Int.bmod_def]
  omega

theorem difference_eq_zero {left right : UInt64} (above : left.toNat < right.toNat + 2 ^ 63)
    (below : right.toNat ≤ left.toNat + 2 ^ 63) :
    left.toInt64 - right.toInt64 = 0 ↔ left.toNat = right.toNat := by
  rw [← Int64.toInt_inj, difference_toInt above below, Int64.toInt_zero]
  omega

theorem difference_neg {left right : UInt64} (above : left.toNat < right.toNat + 2 ^ 63)
    (below : right.toNat ≤ left.toNat + 2 ^ 63) :
    left.toInt64 - right.toInt64 < 0 ↔ left.toNat < right.toNat := by
  rw [Int64.lt_iff_toInt_lt, difference_toInt above below, Int64.toInt_zero]
  omega

theorem neg_iff (word : Int64) : word < 0 ↔ word.toInt < 0 := by
  rw [Int64.lt_iff_toInt_lt, Int64.toInt_zero]

theorem toUInt64_toNat {word : Int64} (nonneg : 0 ≤ word.toInt) : (word.toUInt64.toNat : Int) = word.toInt := by
  have atLeast : (0 : Int64) ≤ word := by
    rw [Int64.le_iff_toInt_le, Int64.toInt_zero]
    exact nonneg
  rw [Int64.toNat_toUInt64_of_le atLeast, Int64.cast_toNatClampNeg word atLeast]

theorem toUInt64_emod (word : Int64) : (word.toUInt64.toNat : Int) = word.toInt % 2 ^ 64 := by
  have wrapped : word.toInt = (word.toUInt64.toNat : Int).bmod (2 ^ 64) :=
    BitVec.toInt_eq_toNat_bmod word.toBitVec
  have bound := word.toUInt64.toNat_lt
  rw [Int.bmod_def] at wrapped
  omega

/-- The negation of a negative word is exact as an unsigned one, also for the least word. -/
theorem neg_toUInt64 {word : Int64} (negative : word.toInt < 0) :
    ((-word).toUInt64.toNat : Int) = -word.toInt := by
  have low := word.le_toInt
  have value := toUInt64_emod word
  rw [Int64.toUInt64_neg, UInt64.toNat_neg, UInt64.size]
  omega

/-- A comparison with a non-negative signed word is one of integers. -/
theorem lt_toUInt64_iff {word : UInt64} {bound : Int64} (nonneg : 0 ≤ bound.toInt) :
    word < bound.toUInt64 ↔ (word.toNat : Int) < bound.toInt := by
  rw [UInt64.lt_iff_toNat_lt, ← toUInt64_toNat nonneg, Int.ofNat_lt]

end Signed
