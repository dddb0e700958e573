/-
This file gives the rules for a cell that never accepts a smaller value.
-/

import Mathlib.Order.Bounds.Defs
import Mathlib.Data.List.Basic

namespace Rising

variable {α : Type} [LE α] [Std.IsPreorder α] {accepted : List α} {held : Option α} {value : α}

/-- The cell holds the last accepted value, and no accepted value is above it. -/
structure Holds (accepted : List α) (held : Option α) : Prop where
  last : accepted.getLast? = held
  top : ∀ value ∈ held, ∀ earlier ∈ accepted, earlier ≤ value

omit [Std.IsPreorder α] in
theorem Holds.empty : Holds ([] : List α) none :=
  ⟨rfl, fun _ absent => absurd absent (Option.not_mem_none _)⟩

theorem Holds.push (holds : Holds accepted held) (rises : ∀ old ∈ held, old ≤ value) :
    Holds (accepted ++ [value]) (some value) := by
  constructor
  · exact List.getLast?_concat
  · intro top same earlier present
    obtain rfl := Option.mem_some.mp same
    rcases List.mem_append.mp present with old | new
    · cases held with
      | none =>
          have none : accepted = [] := List.getLast?_eq_none_iff.mp holds.last
          exact absurd old (none ▸ List.not_mem_nil)
      | some below => exact Std.le_trans (holds.top below rfl earlier old) (rises below rfl)
    · rw [List.mem_singleton.mp new]
      exact Std.le_refl value

omit [Std.IsPreorder α] in
/-- The held value is the maximum of the accepted ones. -/
theorem Holds.greatest (holds : Holds accepted (some value)) : IsGreatest {item | item ∈ accepted} value :=
  ⟨List.mem_of_getLast? holds.last, fun item present => holds.top value rfl item present⟩

/-- A property of the maximum is one of the held value. -/
theorem Holds.greatest_iff {β : Type} [LE β] [Std.IsPartialOrder β] {accepted : List β} {held : Option β}
    (holds : Holds accepted held) (good : β → Prop) :
    (∃ value, IsGreatest {item | item ∈ accepted} value ∧ good value) ↔ ∃ value ∈ held, good value := by
  constructor
  · rintro ⟨value, greatest, fits⟩
    cases held with
    | none =>
        have none : accepted = [] := List.getLast?_eq_none_iff.mp holds.last
        exact absurd greatest.1 (none ▸ List.not_mem_nil)
    | some top =>
        have above := greatest.2 holds.greatest.1
        have below := holds.greatest.2 greatest.1
        exact ⟨top, rfl, Std.le_antisymm above below ▸ fits⟩
  · rintro ⟨value, rfl, fits⟩
    exact ⟨value, holds.greatest, fits⟩

omit [Std.IsPreorder α] in
theorem Holds.isSome_iff (holds : Holds accepted held) : held.isSome ↔ accepted ≠ [] := by
  rw [← holds.last, List.getLast?_isSome]

end Rising
