/-
This file follows a cursor through a keyed list that changes while it is walked.
-/

import Mathlib.Data.List.Nodup

namespace Cursor

variable {α κ : Type} {key : α → κ} {k : κ} {list rest : List α}

/-- A removal takes only the first match. -/
theorem mem_eraseP_or_find {p : α → Bool} {entry : α} (present : entry ∈ list) :
    entry ∈ list.eraseP p ∨ list.find? p = some entry := by
  induction list with
  | nil => cases present
  | cons first tail hypothesis =>
      cases holds : p first with
      | true =>
          rw [List.eraseP_cons_of_pos holds, List.find?_cons_of_pos holds]
          exact (List.mem_cons.mp present).symm.imp_right fun same => by rw [same]
      | false =>
          rw [List.eraseP_cons_of_neg (by simp [holds]), List.find?_cons_of_neg (by simp [holds])]
          rcases List.mem_cons.mp present with rfl | later
          · exact Or.inl List.mem_cons_self
          · exact (hypothesis later).imp_left (List.mem_cons_of_mem _)

/-- The key of a removed entry is gone. -/
theorem not_mem_eraseP {p : α → Bool} {entry : α} (distinct : (list.map key).Nodup)
    (found : list.find? p = some entry) :
    key entry ∉ (list.eraseP p).map key := by
  induction list with
  | nil => cases found
  | cons first tail hypothesis =>
      rw [List.map_cons, List.nodup_cons] at distinct
      cases holds : p first with
      | true =>
          rw [List.find?_cons_of_pos holds] at found
          obtain rfl := Option.some.inj found
          rw [List.eraseP_cons_of_pos holds]
          exact distinct.1
      | false =>
          rw [List.find?_cons_of_neg (by simp [holds])] at found
          rw [List.eraseP_cons_of_neg (by simp [holds]), List.map_cons, List.mem_cons, not_or]
          refine ⟨fun same => distinct.1 ?_, hypothesis distinct.2 found⟩
          rw [← same]
          exact List.mem_map_of_mem (List.mem_of_find?_eq_some found)

variable [DecidableEq κ]

/-- What is behind the first entry with the key, where there is one. -/
def after (key : α → κ) (k : κ) : List α → Option (List α)
  | [] => none
  | entry :: rest => if key entry = k then some rest else after key k rest

@[simp] theorem after_nil : after key k [] = none := rfl

theorem after_head (entry : α) (rest : List α) : after key (key entry) (entry :: rest) = some rest := if_pos rfl

theorem after_other {entry : α} (different : key entry ≠ k) (rest : List α) :
    after key k (entry :: rest) = after key k rest := if_neg different

theorem after_none_iff : after key k list = none ↔ k ∉ list.map key := by
  induction list with
  | nil => simp
  | cons entry rest hypothesis =>
      rw [List.map_cons, List.mem_cons, not_or, ← hypothesis]
      by_cases same : key entry = k
      · rw [← same, after_head]
        simp
      · rw [after_other same]
        exact (and_iff_right (Ne.symm same)).symm

/-- The cursor splits the list, and its entry has the key. -/
theorem after_split (here : after key k list = some rest) :
    ∃ front entry, key entry = k ∧ list = front ++ entry :: rest ∧ k ∉ front.map key := by
  induction list with
  | nil => cases here
  | cons first tail hypothesis =>
      by_cases same : key first = k
      · rw [← same, after_head] at here
        obtain rfl := Option.some.inj here
        exact ⟨[], first, same, rfl, List.not_mem_nil⟩
      · rw [after_other same] at here
        obtain ⟨front, entry, found, rfl, missing⟩ := hypothesis here
        refine ⟨first :: front, entry, found, rfl, ?_⟩
        rw [List.map_cons, List.mem_cons, not_or]
        exact ⟨Ne.symm same, missing⟩

/-- What is behind the cursor is a suffix of the list. -/
theorem after_suffix (here : after key k list = some rest) : rest <:+ list := by
  obtain ⟨front, entry, -, rfl, -⟩ := after_split here
  exact (List.suffix_cons entry rest).trans (List.suffix_append front _)

/-- In a list with distinct keys the entry at the head of a suffix is followed by the rest of the suffix. -/
theorem after_of_suffix {entry : α} (distinct : (list.map key).Nodup) (suffix : entry :: rest <:+ list) :
    after key (key entry) list = some rest := by
  obtain ⟨front, rfl⟩ := suffix
  induction front with
  | nil => exact after_head entry rest
  | cons first tail hypothesis =>
      rw [List.cons_append, List.map_cons, List.nodup_cons] at distinct
      rw [List.cons_append, after_other]
      · exact hypothesis distinct.2
      · intro same
        apply distinct.1
        rw [same, List.map_append, List.map_cons]
        exact List.mem_append_right _ List.mem_cons_self

/-- A removal takes the entry of the cursor away, or it leaves the cursor and takes at most one entry behind it. -/
theorem after_eraseP (p : α → Bool) (distinct : (list.map key).Nodup) (here : after key k list = some rest) :
    (∃ entry, list.find? p = some entry ∧ key entry = k ∧ after key k (list.eraseP p) = none) ∨
      ∃ rest', after key k (list.eraseP p) = some rest' ∧ rest'.Sublist rest ∧
        ∀ entry ∈ rest, entry ∈ rest' ∨ list.find? p = some entry := by
  induction list with
  | nil => cases here
  | cons first tail hypothesis =>
      rw [List.map_cons, List.nodup_cons] at distinct
      by_cases same : key first = k
      · rw [← same, after_head] at here
        obtain rfl := Option.some.inj here
        cases holds : p first with
        | true =>
            left
            refine ⟨first, List.find?_cons_of_pos holds, same, ?_⟩
            rw [List.eraseP_cons_of_pos holds, after_none_iff, ← same]
            exact distinct.1
        | false =>
            right
            rw [List.eraseP_cons_of_neg (by simp [holds]), List.find?_cons_of_neg (by simp [holds]), ← same]
            exact ⟨tail.eraseP p, after_head _ _, List.eraseP_sublist,
              fun entry present => mem_eraseP_or_find present⟩
      · rw [after_other same] at here
        cases holds : p first with
        | true =>
            right
            rw [List.eraseP_cons_of_pos holds]
            exact ⟨rest, here, List.Sublist.refl rest, fun entry present => Or.inl present⟩
        | false =>
            rw [List.eraseP_cons_of_neg (by simp [holds]), List.find?_cons_of_neg (by simp [holds]), after_other same]
            exact hypothesis distinct.2 here

end Cursor
