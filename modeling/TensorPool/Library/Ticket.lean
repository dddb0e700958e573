/-
This file gives the consecutive draws from a counter whose words are narrowed.
-/

import Mathlib.Data.List.Nodup
import Mathlib.Data.List.Range

namespace Ticket

variable {base modulus count : Nat}

/-- These are the narrowed values of consecutive words. -/
def draws (base modulus count : Nat) : List Nat := (List.range count).map fun index => (base + index) % modulus

theorem draws_succ : draws base modulus (count + 1) = draws base modulus count ++ [(base + count) % modulus] := by
  rw [draws, List.range_succ, List.map_append, List.map_singleton, draws]

/-- No more draws than values are distinct. -/
theorem draws_nodup (few : count ≤ modulus) : (draws base modulus count).Nodup := by
  rw [draws, List.nodup_map_iff_inj_on List.nodup_range]
  intro one present other present' same
  have first := List.mem_range.mp present
  have second := List.mem_range.mp present'
  have equal : (base + one) % modulus = (base + other) % modulus := same
  have below := Nat.sub_mod_eq_zero_of_mod_eq equal
  have above := Nat.sub_mod_eq_zero_of_mod_eq equal.symm
  rw [Nat.mod_eq_of_lt (by omega)] at below above
  omega

end Ticket
