/-
This file gives numbers that hold a high, a middle and a low field.
-/

import Mathlib.Algebra.Group.Nat.Defs
import Mathlib.Algebra.Order.Ring.Nat
import Mathlib.Tactic.Ring

namespace PackedWord

variable {middleBits lowBits high middle low : Nat}

/-- The fields follow each other without a gap. -/
def pack (middleBits lowBits high middle low : Nat) : Nat :=
  2 ^ (middleBits + lowBits) * high + 2 ^ lowBits * middle + low

theorem middle_lt (lowFits : low < 2 ^ lowBits) (middleFits : middle < 2 ^ middleBits) :
    2 ^ lowBits * middle + low < 2 ^ (middleBits + lowBits) := by
  have step : 2 ^ lowBits * (middle + 1) ≤ 2 ^ lowBits * 2 ^ middleBits := Nat.mul_le_mul_left _ middleFits
  have size : 2 ^ (middleBits + lowBits) = 2 ^ lowBits * 2 ^ middleBits := by rw [Nat.pow_add, Nat.mul_comm]
  rw [Nat.mul_succ] at step
  omega

/-- A middle field is joined to a word that has none by a bitwise or. -/
theorem or_middle (lowFits : low < 2 ^ lowBits) (middleFits : middle < 2 ^ middleBits) :
    pack middleBits lowBits high 0 low ||| 2 ^ lowBits * middle = pack middleBits lowBits high middle low := by
  have whole : pack middleBits lowBits high 0 low = 2 ^ lowBits * (2 ^ middleBits * high) ||| low := by
    rw [← Nat.two_pow_add_eq_or_of_lt lowFits, pack, Nat.pow_add]
    ring
  have upper : 2 ^ lowBits * (2 ^ middleBits * high) ||| 2 ^ lowBits * middle =
      2 ^ lowBits * (2 ^ middleBits * high + middle) := by
    rw [Nat.two_pow_add_eq_or_of_lt middleFits]
    simp only [Nat.mul_comm (2 ^ lowBits), ← Nat.shiftLeft_eq, Nat.shiftLeft_or_distrib]
  rw [whole, Nat.or_assoc, Nat.or_comm low, ← Nat.or_assoc, upper, ← Nat.two_pow_add_eq_or_of_lt lowFits, pack,
    Nat.pow_add]
  ring

theorem high_field (lowFits : low < 2 ^ lowBits) (middleFits : middle < 2 ^ middleBits) :
    pack middleBits lowBits high middle low / 2 ^ (middleBits + lowBits) = high := by
  rw [pack, Nat.add_assoc, Nat.mul_add_div (Nat.two_pow_pos _), Nat.div_eq_of_lt (middle_lt lowFits middleFits),
    Nat.add_zero]

theorem low_field (lowFits : low < 2 ^ lowBits) : pack middleBits lowBits high middle low % 2 ^ lowBits = low := by
  have grouped : pack middleBits lowBits high middle low = 2 ^ lowBits * (2 ^ middleBits * high + middle) + low := by
    rw [pack, Nat.pow_add]
    ring
  rw [grouped, Nat.mul_add_mod, Nat.mod_eq_of_lt lowFits]

theorem middle_field (lowFits : low < 2 ^ lowBits) (middleFits : middle < 2 ^ middleBits) :
    pack middleBits lowBits high middle low / 2 ^ lowBits % 2 ^ middleBits = middle := by
  have grouped : pack middleBits lowBits high middle low = 2 ^ lowBits * (2 ^ middleBits * high + middle) + low := by
    rw [pack, Nat.pow_add]
    ring
  rw [grouped, Nat.mul_add_div (Nat.two_pow_pos _), Nat.div_eq_of_lt lowFits, Nat.add_zero, Nat.mul_add_mod,
    Nat.mod_eq_of_lt middleFits]

end PackedWord
