/-
This file gives tables that keep the last entry of each slot.
-/

import Mathlib.Data.List.Basic

namespace DirectMapped

variable {β : Type}

/-- The last entry of a log that falls in a slot. -/
def last (slot : β → Nat) (index : Nat) (log : List β) : Option β :=
  (log.filter fun entry => slot entry = index).getLast?

/-- The table shows the last entry of each slot, and a blank one where there is none. -/
structure Shows (slot : β → Nat) (blank : β) (size : Nat) (table log : List β) : Prop where
  length : table.length = size
  shown : ∀ index < size, table[index]? = some ((last slot index log).getD blank)

variable {slot : β → Nat} {blank entry wanted : β} {size index : Nat} {table log : List β}

theorem last_here (here : slot entry = index) : last slot index (log ++ [entry]) = some entry := by
  rw [last, List.filter_append, List.filter_cons_of_pos (by simpa using here), List.filter_nil, List.getLast?_concat]

theorem last_other (other : slot entry ≠ index) : last slot index (log ++ [entry]) = last slot index log := by
  rw [last, List.filter_append, List.filter_cons_of_neg (by simpa using other), List.filter_nil,
    List.append_nil, last]

/-- A table of blank entries shows no log. -/
theorem shows_blank : Shows slot blank size (List.replicate size blank) [] := by
  constructor
  · exact List.length_replicate
  · intro index inside
    rw [List.getElem?_replicate, if_pos inside]
    rfl

/-- An entry that is written in its slot is the last one there. -/
theorem Shows.record (shows' : Shows slot blank size table log) :
    Shows slot blank size (table.set (slot entry) entry) (log ++ [entry]) := by
  constructor
  · rw [List.length_set, shows'.length]
  · intro index bound
    by_cases here : slot entry = index
    · rw [last_here here, here, List.getElem?_set_self (by rw [shows'.length]; exact bound)]
      rfl
    · rw [last_other here, List.getElem?_set_ne here]
      exact shows'.shown index bound

/-- An entry other than the blank one is shown when it is the last one of its slot. -/
theorem Shows.holds_iff (shows' : Shows slot blank size table log) (inside : index < size) (other : wanted ≠ blank) :
    table[index]? = some wanted ↔ last slot index log = some wanted := by
  rw [shows'.shown index inside, Option.some.injEq]
  cases found : last slot index log with
  | none => simp [other.symm]
  | some entry => simp

end DirectMapped
