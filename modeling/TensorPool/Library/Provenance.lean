/-
This file shows that nothing descends from itself where each child is issued after its parents.
-/

import Mathlib.Data.List.Nodup
import Mathlib.Order.WellFounded

namespace Provenance

variable {α : Type}

/-- A child with the parents that it was made from. -/
structure Link (α : Type) where
  child : α
  parents : List α
  deriving DecidableEq, Repr

/-- The child is issued, and its parents were issued before it. -/
def Rooted (issued : List α) (link : Link α) : Prop :=
  ∃ before after, issued = before ++ link.child :: after ∧ ∀ parent ∈ link.parents, parent ∈ before

def Parent (links : List (Link α)) (parent child : α) : Prop :=
  ∃ link ∈ links, link.child = child ∧ parent ∈ link.parents

theorem Rooted.child {issued : List α} {link : Link α} (rooted : Rooted issued link) : link.child ∈ issued := by
  obtain ⟨before, after, split, -⟩ := rooted
  rw [split]
  exact List.mem_append_right _ List.mem_cons_self

/-- What is issued later keeps the order. -/
theorem Rooted.append {issued : List α} {link : Link α} (rooted : Rooted issued link) (more : List α) :
    Rooted (issued ++ more) link := by
  obtain ⟨before, after, split, parents⟩ := rooted
  exact ⟨before, after ++ more, by simp [split], parents⟩

/-- A child that is issued now comes after all parents that were issued. -/
theorem rooted_last {issued : List α} {link : Link α} (parents : ∀ parent ∈ link.parents, parent ∈ issued) :
    Rooted (issued ++ [link.child]) link := ⟨issued, [], rfl, parents⟩

/-- Where nothing is issued twice, a parent stands before its child. -/
theorem Rooted.precedes [DecidableEq α] {issued : List α} (distinct : issued.Nodup) {link : Link α}
    (rooted : Rooted issued link) {parent : α} (named : parent ∈ link.parents) :
    issued.idxOf parent < issued.idxOf link.child := by
  obtain ⟨before, after, split, parents⟩ := rooted
  have earlier := parents parent named
  have absent : link.child ∉ before := by
    rw [split, List.nodup_append] at distinct
    exact fun member => distinct.2.2 link.child member link.child List.mem_cons_self rfl
  rw [split, List.idxOf_append_of_mem earlier, List.idxOf_append_of_notMem absent]
  exact Nat.lt_add_right _ (List.idxOf_lt_length_of_mem earlier)

/-- Nothing descends from itself, and every line of ancestors ends. -/
theorem wellFounded [DecidableEq α] {issued : List α} (distinct : issued.Nodup) {links : List (Link α)}
    (rooted : ∀ link ∈ links, Rooted issued link) : WellFounded (Parent links) := by
  apply Subrelation.wf _ (InvImage.wf issued.idxOf Nat.lt_wfRel.wf)
  rintro parent child ⟨link, member, rfl, named⟩
  exact (rooted link member).precedes distinct named

end Provenance
