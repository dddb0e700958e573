/-
This file follows a cursor that goes round an interval and stops at the first accepted place.
-/

import Mathlib.Logic.Function.Iterate
import Mathlib.Data.Nat.ModEq

namespace Rotation

/-- The cursor returns from the end of the interval to its start. -/
def advance (low high cursor : Nat) : Nat :=
  if cursor = high then low else cursor + 1

section Interval

variable {low high cursor : Nat}

/-- One step stays inside the interval. -/
theorem advance_inside (lower : low ≤ cursor) (upper : cursor ≤ high) :
    low ≤ advance low high cursor ∧ advance low high cursor ≤ high := by
  unfold advance
  split <;> omega

/-- The position behind the start counts modulo the length of the interval. -/
theorem iterate_advance (lower : low ≤ cursor) (upper : cursor ≤ high) (steps : Nat) :
    (advance low high)^[steps] cursor = low + (cursor - low + steps) % (high - low + 1) := by
  induction steps with
  | zero =>
      have short : cursor - low < high - low + 1 := by omega
      rw [Function.iterate_zero_apply, Nat.add_zero, Nat.mod_eq_of_lt short]
      omega
  | succ steps hypothesis =>
      rw [Function.iterate_succ_apply', hypothesis, advance, ← Nat.add_assoc, Nat.add_mod _ 1]
      have short := Nat.mod_lt (cursor - low + steps) (show 0 < high - low + 1 by omega)
      generalize (cursor - low + steps) % (high - low + 1) = position at short ⊢
      by_cases last : low + position = high
      · have whole : position + 1 = high - low + 1 := by omega
        rw [if_pos last]
        rcases Nat.eq_zero_or_pos (high - low) with single | longer
        · simp [single]
          omega
        · rw [Nat.mod_eq_of_lt (show 1 < high - low + 1 by omega), whole, Nat.mod_self, Nat.add_zero]
      · rw [if_neg last, Nat.mod_eq_of_lt (show 1 < high - low + 1 by omega),
          Nat.mod_eq_of_lt (show position + 1 < high - low + 1 by omega), Nat.add_assoc]

/-- One round meets every place of the interval. -/
theorem exists_iterate_advance (lower : low ≤ cursor) (upper : cursor ≤ high) {place : Nat}
    (placeLower : low ≤ place) (placeUpper : place ≤ high) :
    ∃ steps ≤ high - low, (advance low high)^[steps] cursor = place := by
  by_cases ahead : cursor ≤ place
  · refine ⟨place - cursor, by omega, ?_⟩
    rw [iterate_advance lower upper, Nat.mod_eq_of_lt (by omega)]
    omega
  · refine ⟨high - low + 1 - (cursor - place), by omega, ?_⟩
    have turned : cursor - low + (high - low + 1 - (cursor - place)) = place - low + (high - low + 1) := by omega
    rw [iterate_advance lower upper, turned, Nat.add_mod_right, Nat.mod_eq_of_lt (by omega)]
    omega

end Interval

section Scan

variable {α : Type*} (accepts : α → Prop) [DecidablePred accepts] (next : α → α)

/-- The scan tries a given number of places and returns the first accepted one. -/
def scan : Nat → α → Option α
  | 0, _ => none
  | remaining + 1, place => if accepts place then some place else scan remaining (next place)

variable {accepts next}

/-- A scan finds nothing exactly when it accepts no place that it tries. -/
theorem scan_eq_none {remaining : Nat} {place : α} :
    scan accepts next remaining place = none ↔ ∀ steps < remaining, ¬ accepts (next^[steps] place) := by
  induction remaining generalizing place with
  | zero => simp [scan]
  | succ remaining hypothesis =>
      rw [scan, Nat.forall_lt_succ_left]
      split
      next accepted => simp [accepted]
      next rejected => simp [rejected, hypothesis, Function.iterate_succ_apply]

/-- A found place is accepted and has been reached. -/
theorem scan_eq_some {remaining : Nat} {place found : α} (scanned : scan accepts next remaining place = some found) :
    accepts found ∧ ∃ steps < remaining, next^[steps] place = found := by
  induction remaining generalizing place with
  | zero => cases scanned
  | succ remaining hypothesis =>
      rw [scan] at scanned
      split at scanned
      next accepted =>
        cases scanned
        exact ⟨accepted, 0, Nat.succ_pos _, rfl⟩
      · obtain ⟨accepted, steps, short, reached⟩ := hypothesis scanned
        exact ⟨accepted, steps + 1, Nat.succ_lt_succ short, reached⟩

end Scan

end Rotation
