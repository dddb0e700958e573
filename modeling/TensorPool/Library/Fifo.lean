/-
This file gives the histories of a bounded queue whose items leave in the order of their arrival.
-/

import Mathlib.Data.List.Count
import Mathlib.Data.List.Infix

namespace Fifo

variable {ι α : Type} {capacity : Nat} {taken : List (ι × α)} {given : List α}

/-- The given items are the first taken ones, and the rest fits in the queue. -/
structure Bounded (capacity : Nat) (taken : List (ι × α)) (given : List α) : Prop where
  inOrder : given <+: taken.map Prod.snd
  room : taken.length ≤ given.length + capacity

theorem Bounded.empty : Bounded capacity ([] : List (ι × α)) [] :=
  ⟨List.prefix_refl _, Nat.zero_le _⟩

theorem Bounded.take (bounded : Bounded capacity taken given) (entry : ι × α)
    (free : taken.length < given.length + capacity) : Bounded capacity (taken ++ [entry]) given := by
  constructor
  · rw [List.map_append]
    exact bounded.inOrder.trans (List.prefix_append _ _)
  · rw [List.length_append, List.length_singleton]
    omega

/-- The oldest item of the queue leaves next. -/
theorem Bounded.give (bounded : Bounded capacity taken given) {entry : ι × α}
    (next : taken[given.length]? = some entry) : Bounded capacity taken (given ++ [entry.2]) := by
  constructor
  · obtain ⟨rest, split⟩ := bounded.inOrder
    have head : (taken.map Prod.snd)[given.length]? = some entry.2 := by
      rw [List.getElem?_map, next, Option.map_some]
    rw [← split, List.getElem?_append_right (Nat.le_refl _), Nat.sub_self] at head
    cases rest with
    | nil => cases head
    | cons first rest =>
        obtain rfl := Option.some.inj head
        exact ⟨rest, by rw [← split, List.append_assoc, List.singleton_append]⟩
  · rw [List.length_append, List.length_singleton]
    have := bounded.room
    omega

/-- A queue that gave as many items as it took gave all of them, each once and in order. -/
theorem Bounded.drained (bounded : Bounded capacity taken given) (all : given.length = taken.length) :
    given = taken.map Prod.snd :=
  bounded.inOrder.eq_of_length (by rw [all, List.length_map])

end Fifo
