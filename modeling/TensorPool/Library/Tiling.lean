/-
This file gives pieces that cover a range one behind the other.
-/

import Mathlib.Data.List.Induction

namespace Tiling

variable {α : Type} {start length : α → Nat} {pieces : List α} {piece : α} {lower upper : Nat}

/-- The pieces stand in order, none is empty, and together they hold exactly the positions of the range. -/
structure Tiles (start length : α → Nat) (pieces : List α) (lower upper : Nat) : Prop where
  ordered : pieces.Pairwise fun early late => start early + length early ≤ start late
  filled : ∀ piece ∈ pieces, 0 < length piece
  covers : ∀ position, (∃ piece ∈ pieces, start piece ≤ position ∧ position < start piece + length piece) ↔
    lower ≤ position ∧ position < upper

theorem Tiles.empty (start length : α → Nat) (lower : Nat) : Tiles start length [] lower lower where
  ordered := List.Pairwise.nil
  filled := by simp
  covers := by
    intro position
    simp

/-- A piece of the range ends in it. -/
theorem Tiles.ends (tiles : Tiles start length pieces lower upper) (present : piece ∈ pieces) :
    start piece + length piece ≤ upper := by
  have filled := tiles.filled piece present
  have last := (tiles.covers (start piece + length piece - 1)).mp ⟨piece, present, by omega, by omega⟩
  omega

/-- The next piece starts where the range ends. -/
theorem Tiles.push (tiles : Tiles start length pieces lower upper) (above : lower ≤ upper)
    (next : start piece = upper) (filled : 0 < length piece) :
      Tiles start length (pieces ++ [piece]) lower (upper + length piece) where
  ordered := by
    rw [List.pairwise_append]
    refine ⟨tiles.ordered, List.pairwise_singleton _ _, ?_⟩
    intro early present late new
    rw [List.mem_singleton.mp new, next]
    exact tiles.ends present
  filled := by
    intro other present
    cases List.mem_append.mp present with
    | inl old => exact tiles.filled other old
    | inr new =>
        rw [List.mem_singleton.mp new]
        exact filled
  covers := by
    intro position
    have before := tiles.covers position
    simp only [List.mem_append, List.mem_singleton, or_and_right, exists_or, exists_eq_left, before, next]
    omega

/-- The last piece ends with the range, and the others hold the positions in front of it. -/
theorem Tiles.pop (tiles : Tiles start length (pieces ++ [piece]) lower upper) :
    start piece + length piece = upper ∧ Tiles start length pieces lower (start piece) := by
  have filled := tiles.filled piece (List.mem_append_right _ (List.mem_singleton_self _))
  have ordered := List.pairwise_append.mp tiles.ordered
  have before : ∀ other ∈ pieces, start other + length other ≤ start piece := fun other present =>
    ordered.2.2 other present piece (List.mem_singleton_self _)
  have first := (tiles.covers (start piece)).mp
    ⟨piece, List.mem_append_right _ (List.mem_singleton_self _), Nat.le_refl _, by omega⟩
  have covered : ∀ position, lower ≤ position → position < upper →
      (∃ other ∈ pieces, start other ≤ position ∧ position < start other + length other) ∨
        start piece ≤ position ∧ position < start piece + length piece := by
    intro position low high
    obtain ⟨other, present, inside⟩ := (tiles.covers position).mpr ⟨low, high⟩
    obtain old | new := List.mem_append.mp present
    · exact .inl ⟨other, old, inside⟩
    · rw [List.mem_singleton.mp new] at inside
      exact .inr inside
  constructor
  · apply Nat.le_antisymm (tiles.ends (List.mem_append_right _ (List.mem_singleton_self _)))
    by_contra short
    obtain ⟨other, present, inside⟩ | inside := covered (start piece + length piece) (by omega) (by omega)
    · have earlier := before other present
      omega
    · omega
  · refine ⟨ordered.1, fun other present => tiles.filled other (List.mem_append_left _ present), ?_⟩
    intro position
    constructor
    · rintro ⟨other, present, inside⟩
      have earlier := before other present
      have range := (tiles.covers position).mp ⟨other, List.mem_append_left _ present, inside⟩
      omega
    · intro range
      obtain found | inside := covered position range.1 (by omega)
      · exact found
      · omega

/-- Pieces that were cut out of a whole give its front when they are put one behind the other. -/
theorem Tiles.joined {β : Type} {whole : List β} {content : α → List β}
    (tiles : Tiles start (fun piece => (content piece).length) pieces 0 upper)
    (cut : ∀ piece ∈ pieces, content piece = (whole.drop (start piece)).take (content piece).length) :
    pieces.flatMap content = whole.take upper := by
  induction pieces using List.reverseRecOn generalizing upper with
  | nil =>
      have none := tiles.covers 0
      simp only [List.not_mem_nil, false_and, exists_false, Nat.le_refl, true_and, false_iff, Nat.not_lt,
        Nat.le_zero_eq] at none
      rw [none]
      rfl
  | append_singleton pieces piece hypothesis =>
      obtain ⟨last, front⟩ := tiles.pop
      have rest := hypothesis front fun other present => cut other (List.mem_append_left _ present)
      rw [List.flatMap_append, rest, List.flatMap_singleton,
        cut piece (List.mem_append_right _ (List.mem_singleton_self _)), ← last, List.take_add]

end Tiling
