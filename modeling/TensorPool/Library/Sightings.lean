/-
This file keeps the last time that each key was seen, until a sweep finds that time too old.
-/

import Mathlib.Logic.Function.Basic

namespace Sightings

variable {κ τ : Type}

/-- A key is seen at a time, or every time that is not kept is swept out. -/
inductive Event (κ τ : Type) where
  | seen (key : κ) (time : τ)
  | swept (keeps : τ → Bool)

/-- The table after some events, the last one first. -/
def table [DecidableEq κ] : List (Event κ τ) → κ → Option τ
  | [] => fun _ => none
  | .seen key time :: earlier => Function.update (table earlier) key (some time)
  | .swept keeps :: earlier => fun key => (table earlier key).filter keeps

/-- The event leaves the time of a key alone. -/
def Event.Spares (key : κ) (time : τ) : Event κ τ → Prop
  | .seen other _ => other ≠ key
  | .swept keeps => keeps time = true

/-- The table has the time of a key when the key was seen at this time and all later events spared it. -/
theorem table_eq_some [DecidableEq κ] {events : List (Event κ τ)} {key : κ} {time : τ} :
    table events key = some time ↔
      ∃ later earlier, events = later ++ .seen key time :: earlier ∧ ∀ event ∈ later, event.Spares key time := by
  induction events with
  | nil => simp [table]
  | cons event earlier hypothesis =>
      have behind : (∃ later earlier', event :: earlier = later ++ .seen key time :: earlier' ∧
          ∀ event ∈ later, event.Spares key time) ↔
          event = .seen key time ∨ event.Spares key time ∧ table earlier key = some time := by
        rw [hypothesis]
        constructor
        · rintro ⟨later, earlier', split, spared⟩
          cases later with
          | nil => exact .inl (List.cons.inj split).1
          | cons first later =>
              obtain ⟨rfl, rfl⟩ := List.cons.inj split
              rw [List.forall_mem_cons] at spared
              exact .inr ⟨spared.1, later, earlier', rfl, spared.2⟩
        · rintro (rfl | ⟨spared, later, earlier', rfl, all⟩)
          · exact ⟨[], earlier, rfl, by simp⟩
          · exact ⟨event :: later, earlier', rfl, List.forall_mem_cons.mpr ⟨spared, all⟩⟩
      rw [behind]
      cases event with
      | seen other time' =>
          by_cases same : other = key
          · subst same
            simp [table, Event.Spares]
          · simp [table, Event.Spares, same, Function.update_of_ne (Ne.symm same)]
      | swept keeps =>
          simp [table, Event.Spares, Option.filter_eq_some_iff, and_comm]

end Sightings
