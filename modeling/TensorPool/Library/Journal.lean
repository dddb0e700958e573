/-
This file gives the rules for a journal that only grows.
-/

import Mathlib.Data.List.Induction

namespace Journal

variable {α β : Type} {allowed allowed' : α → Prop} {before middle after : List α}

/-- The later journal adds only entries that `allowed` admits. -/
def Grows (allowed : α → Prop) (before after : List α) : Prop :=
  ∃ added, after = before ++ added ∧ ∀ entry ∈ added, allowed entry

theorem Grows.refl (allowed : α → Prop) (journal : List α) : Grows allowed journal journal :=
  ⟨[], (List.append_nil journal).symm, fun _ absent => absurd absent List.not_mem_nil⟩

theorem Grows.trans (first : Grows allowed before middle) (second : Grows allowed middle after) :
    Grows allowed before after := by
  obtain ⟨early, rfl, earlyAllowed⟩ := first
  obtain ⟨late, rfl, lateAllowed⟩ := second
  refine ⟨early ++ late, List.append_assoc .., fun entry present => ?_⟩
  rcases List.mem_append.mp present with inEarly | inLate
  · exact earlyAllowed entry inEarly
  · exact lateAllowed entry inLate

theorem Grows.mono (weaker : ∀ entry, allowed entry → allowed' entry)
    (growth : Grows allowed before after) : Grows allowed' before after := by
  obtain ⟨added, same, admitted⟩ := growth
  exact ⟨added, same, fun entry present => weaker entry (admitted entry present)⟩

theorem Grows.push (entry : α) (admitted : allowed entry) : Grows allowed before (before ++ [entry]) :=
  ⟨[entry], rfl, fun _ present => List.mem_singleton.mp present ▸ admitted⟩

/-- No entry is ever lost. -/
theorem Grows.keeps (growth : Grows allowed before after) {entry : α} (present : entry ∈ before) :
    entry ∈ after := by
  obtain ⟨added, rfl, -⟩ := growth
  exact List.mem_append_left added present

/-- A new entry is an admitted one. -/
theorem Grows.source (growth : Grows allowed before after) {entry : α} (present : entry ∈ after) :
    entry ∈ before ∨ allowed entry := by
  obtain ⟨added, rfl, admitted⟩ := growth
  exact (List.mem_append.mp present).imp id (admitted entry)

/-- A reading that skips every admitted entry does not see the growth. -/
theorem Grows.unread (growth : Grows allowed before after) (read : α → Option β)
    (skips : ∀ entry, allowed entry → read entry = none) :
    after.filterMap read = before.filterMap read := by
  obtain ⟨added, rfl, admitted⟩ := growth
  have silent : added.filterMap read = [] :=
    List.filterMap_eq_nil_iff.mpr fun entry present => skips entry (admitted entry present)
  rw [List.filterMap_append, silent, List.append_nil]

/-- A property of every entry that has enough before it is a property of each split. -/
def Along (good : List α → α → Prop) (journal : List α) : Prop :=
  ∀ past entry rest, journal = past ++ entry :: rest → good past entry

variable {good : List α → α → Prop}

theorem Along.nil : Along good [] := fun _ _ _ split => by simp at split

/-- An added entry must be good after the whole journal before it. -/
theorem along_push (journal : List α) (entry : α) :
    Along good (journal ++ [entry]) ↔ Along good journal ∧ good journal entry := by
  constructor
  · intro every
    refine ⟨fun past item rest split => ?_, every journal entry [] rfl⟩
    exact every past item (rest ++ [entry]) (by rw [split]; simp)
  · rintro ⟨every, last⟩ past item rest split
    rcases List.eq_nil_or_concat rest with rfl | ⟨front, final, rfl⟩
    · obtain ⟨rfl, same⟩ := List.append_inj' split rfl
      rw [← List.head_eq_of_cons_eq same]
      exact last
    · rw [List.concat_eq_append, ← List.cons_append, ← List.append_assoc] at split
      obtain ⟨same, -⟩ := List.append_inj' split rfl
      exact every past item front same

/-- Entries that are good after every growth so far keep every split good. -/
theorem Along.grows (every : Along good before) (growth : Grows allowed before after)
    (free : ∀ past entry, Grows allowed before past → allowed entry → good past entry) : Along good after := by
  obtain ⟨added, rfl, admitted⟩ := growth
  induction added using List.reverseRecOn with
  | nil => simpa using every
  | append_singleton front final hypothesis =>
      have early : ∀ entry ∈ front, allowed entry := fun entry present =>
        admitted entry (List.mem_append_left _ present)
      rw [← List.append_assoc, along_push]
      refine ⟨hypothesis early, free _ _ ⟨front, rfl, early⟩ ?_⟩
      exact admitted final (by simp)

end Journal
