/-
This file gives tables of slots that each hold at most one key.
-/

import Mathlib.Data.List.Basic

namespace Slots

variable {α κ : Type} [DecidableEq κ] {key : α → Option κ} {wanted : κ} {front back slots : List α} {old filled : α}

/-- The slots that hold a key. -/
def held (key : α → Option κ) (wanted : κ) (slots : List α) : List α :=
  slots.filter fun slot => key slot = some wanted

theorem held_append (front back : List α) :
    held key wanted (front ++ back) = held key wanted front ++ held key wanted back := List.filter_append ..

theorem held_cons (slot : α) (rest : List α) :
    held key wanted (slot :: rest) = if key slot = some wanted then slot :: held key wanted rest
      else held key wanted rest := by
  rw [held, List.filter_cons]
  simp only [decide_eq_true_iff]
  rfl

/-- A slot that gives up another key for another one does not matter. -/
theorem held_replace_other (oldOther : key old ≠ some wanted) (newOther : key filled ≠ some wanted) :
    held key wanted (front ++ filled :: back) = held key wanted (front ++ old :: back) := by
  rw [held_append, held_append, held_cons, held_cons, if_neg oldOther, if_neg newOther]

/-- Only the slot that gives its key up held it. -/
theorem held_around (unique : (held key wanted (front ++ old :: back)).length ≤ 1)
    (here : key old = some wanted ∨ held key wanted (front ++ old :: back) = []) :
    held key wanted front = [] ∧ held key wanted back = [] := by
  rw [held_append, held_cons] at unique here
  cases here with
  | inl same =>
      rw [if_pos same, List.length_append, List.length_cons] at unique
      constructor <;> rw [← List.length_eq_zero_iff] <;> omega
  | inr none =>
      obtain ⟨noFront, noRest⟩ := List.append_eq_nil_iff.mp none
      apply And.intro noFront
      split at noRest
      · cases noRest
      · exact noRest

/-- The key moves into the slot that held it, or into any slot when none held it. -/
theorem held_replace (unique : (held key wanted (front ++ old :: back)).length ≤ 1)
    (here : key old = some wanted ∨ held key wanted (front ++ old :: back) = []) (new : key filled = some wanted) :
    held key wanted (front ++ filled :: back) = [filled] := by
  have alone := held_around unique here
  rw [held_append, held_cons, if_pos new, alone.1, alone.2]
  rfl

/-- The key is gone with the slot that held it. -/
theorem held_clear (unique : (held key wanted (front ++ old :: back)).length ≤ 1)
    (here : key old = some wanted ∨ held key wanted (front ++ old :: back) = []) (new : key filled ≠ some wanted) :
    held key wanted (front ++ filled :: back) = [] := by
  have alone := held_around unique here
  rw [held_append, held_cons, if_neg new, alone.1, alone.2]
  rfl

/-- Slots are dropped where a test says so. -/
theorem held_drop (drops : α → Bool) (cleared : α) (empty : key cleared = none) (slots : List α) :
    held key wanted (slots.map fun slot => if drops slot then cleared else slot) =
      (held key wanted slots).filter fun slot => !drops slot := by
  induction slots with
  | nil => rfl
  | cons slot rest hypothesis =>
      rw [List.map_cons, held_cons, held_cons, hypothesis]
      cases dropped : drops slot with
      | true =>
          rw [if_pos rfl, if_neg (by simp [empty])]
          split
          · rw [List.filter_cons_of_neg (by simp [dropped])]
          · rfl
      | false =>
          rw [if_neg Bool.false_ne_true]
          split
          · rw [List.filter_cons_of_pos (by simp [dropped])]
          · rfl

/-- A key that is held once is found by a search for it. -/
theorem find_held {test : α → Bool} (slots : List α) :
    slots.find? (fun slot => decide (key slot = some wanted) && test slot) = (held key wanted slots).find? test := by
  rw [held, List.find?_filter]
  congr 1
  funext slot
  simp

end Slots
