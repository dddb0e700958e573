/-
This file gives the slots of a ring whose size is a power of two and the positions they hold.
-/

import Mathlib.Algebra.Group.Nat.Defs
import Mathlib.Data.List.Basic

namespace RingWindow

variable {size low left right : Nat}

/-- The mask of a power of two keeps the remainder. -/
theorem land_mask (power : size.isPowerOfTwo) (position : Nat) :
    position &&& (size - 1) = position % size := by
  obtain ⟨exponent, rfl⟩ := power
  exact Nat.and_two_pow_sub_one_eq_mod position exponent

/-- Two positions of one slot are a whole ring apart. -/
theorem apart (same : left % size = right % size) (less : left < right) : left + size ≤ right := by
  by_contra near
  have gap : (right - left) % size = right - left := Nat.mod_eq_of_lt (by omega)
  have none := Nat.sub_mod_eq_zero_of_mod_eq same.symm
  omega

/-- A window of one ring holds one position for each slot. -/
theorem unique (lowLeft : low ≤ left) (highLeft : left < low + size) (lowRight : low ≤ right)
    (highRight : right < low + size) (same : left % size = right % size) : left = right := by
  rcases Nat.lt_trichotomy left right with less | equal | more
  · have := apart same less
    omega
  · exact equal
  · have := apart same.symm more
    omega

theorem exists_held (positive : 0 < size) (position : Nat) :
    ∃ held, low ≤ held ∧ held < low + size ∧ held % size = position % size := by
  induction low with
  | zero => exact ⟨position % size, Nat.zero_le _, by rw [Nat.zero_add]; exact Nat.mod_lt _ positive, Nat.mod_mod ..⟩
  | succ low hypothesis =>
      obtain ⟨held, above, below, same⟩ := hypothesis
      by_cases first : held = low
      · exact ⟨held + size, by omega, by omega, by rw [Nat.add_mod_right, same]⟩
      · exact ⟨held, by omega, by omega, same⟩

end RingWindow
