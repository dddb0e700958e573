/-
This file gives an abstract ledger of leases.
An exclusive lease holds its key alone; the ledger remembers the holder of each key.
-/

import Mathlib.Data.List.Nodup
import Mathlib.Logic.Relation

namespace Ledger

variable {ι κ γ ν : Type}

/-- A lease has an identifier, a key, a client and a node. -/
structure Entry (ι κ γ ν : Type) where
  id : ι
  key : κ
  client : γ
  node : ν
  exclusive : Bool

structure Book (ι κ γ ν : Type) where
  entries : List (Entry ι κ γ ν)
  holder : κ → Option (ι × γ)

namespace Book

/-- The identities do not repeat, and the holder of a key is its exclusive lease. -/
structure Sound (book : Book ι κ γ ν) : Prop where
  ids : (book.entries.map Entry.id).Nodup
  clients : (book.entries.map Entry.client).Nodup
  nodes : (book.entries.map Entry.node).Nodup
  held : ∀ key id client, book.holder key = some (id, client) ↔
    ∃ entry ∈ book.entries, entry.exclusive = true ∧ entry.key = key ∧ entry.id = id ∧
      entry.client = client

theorem empty_sound : (⟨[], fun _ => none⟩ : Book ι κ γ ν).Sound where
  ids := List.nodup_nil
  clients := List.nodup_nil
  nodes := List.nodup_nil
  held _ _ _ := by simp

/-- Two leases with one identifier are the same lease. -/
theorem Sound.unique {book : Book ι κ γ ν} (sound : book.Sound) {left right : Entry ι κ γ ν}
    (inLeft : left ∈ book.entries) (inRight : right ∈ book.entries) (same : left.id = right.id) :
    left = right :=
  List.inj_on_of_nodup_map sound.ids inLeft inRight same

/-- At most one exclusive lease exists for each key. -/
theorem Sound.exclusive {book : Book ι κ γ ν} (sound : book.Sound) {left right : Entry ι κ γ ν}
    (inLeft : left ∈ book.entries) (inRight : right ∈ book.entries)
    (leftExclusive : left.exclusive = true) (rightExclusive : right.exclusive = true)
    (same : left.key = right.key) : left = right := by
  have holdsLeft := (sound.held right.key left.id left.client).mpr
    ⟨left, inLeft, leftExclusive, same, rfl, rfl⟩
  have holdsRight := (sound.held right.key right.id right.client).mpr
    ⟨right, inRight, rightExclusive, rfl, rfl, rfl⟩
  rw [holdsLeft] at holdsRight
  exact sound.unique inLeft inRight (congrArg Prod.fst (Option.some.inj holdsRight))

/-- A key without a holder has no exclusive lease. -/
theorem Sound.free_iff {book : Book ι κ γ ν} (sound : book.Sound) (key : κ) :
    book.holder key = none ↔ ∀ entry ∈ book.entries, entry.exclusive = true → entry.key ≠ key := by
  constructor
  · intro free entry present exclusive same
    have holds := (sound.held key entry.id entry.client).mpr ⟨entry, present, exclusive, same, rfl, rfl⟩
    rw [free] at holds
    cases holds
  · intro none_exclusive
    rcases holder : book.holder key with _ | ⟨id, client⟩
    · rfl
    · obtain ⟨entry, present, exclusive, same, -, -⟩ := (sound.held key id client).mp holder
      exact absurd same (none_exclusive entry present exclusive)

variable [DecidableEq κ]

/-- An exclusive grant takes its key. -/
def take (holder : κ → Option (ι × γ)) (entry : Entry ι κ γ ν) : κ → Option (ι × γ) := fun key =>
  if entry.exclusive = true ∧ key = entry.key then some (entry.id, entry.client) else holder key

/-- A fresh grant keeps the ledger sound. -/
theorem Sound.grant {book : Book ι κ γ ν} (sound : book.Sound) (entry : Entry ι κ γ ν)
    (freshId : entry.id ∉ book.entries.map Entry.id)
    (freshClient : entry.client ∉ book.entries.map Entry.client)
    (freshNode : entry.node ∉ book.entries.map Entry.node)
    (free : entry.exclusive = true → book.holder entry.key = none) :
    (⟨book.entries ++ [entry], take book.holder entry⟩ : Book ι κ γ ν).Sound where
  ids := by simpa using List.nodup_append_comm.mp (List.nodup_cons.mpr ⟨freshId, sound.ids⟩)
  clients := by simpa using List.nodup_append_comm.mp (List.nodup_cons.mpr ⟨freshClient, sound.clients⟩)
  nodes := by simpa using List.nodup_append_comm.mp (List.nodup_cons.mpr ⟨freshNode, sound.nodes⟩)
  held key id client := by
    unfold take
    simp only [List.mem_append, List.mem_singleton]
    split
    next taken =>
      obtain ⟨exclusive, rfl⟩ := taken
      have others := (sound.free_iff entry.key).mp (free exclusive)
      constructor
      · intro holds
        cases holds
        exact ⟨entry, .inr rfl, exclusive, rfl, rfl, rfl⟩
      · rintro ⟨other, old | rfl, otherExclusive, same, rfl, rfl⟩
        · exact absurd same (others other old otherExclusive)
        · rfl
    next untaken =>
      rw [sound.held]
      constructor
      · rintro ⟨other, old, facts⟩
        exact ⟨other, .inl old, facts⟩
      · rintro ⟨other, old | rfl, exclusive, same, facts⟩
        · exact ⟨other, old, exclusive, same, facts⟩
        · exact absurd ⟨exclusive, same.symm⟩ untaken

variable [DecidableEq ι]

/-- The end of a lease frees its key when the lease is the holder. -/
def leave (holder : κ → Option (ι × γ)) (entry : Entry ι κ γ ν) : κ → Option (ι × γ) := fun key =>
  if key = entry.key ∧ (holder key).map Prod.fst = some entry.id then none else holder key

/-- The ledger changes by grants of fresh leases and by ends of leases. -/
inductive Step : Book ι κ γ ν → Book ι κ γ ν → Prop
  | grant (book : Book ι κ γ ν) (entry : Entry ι κ γ ν)
      (freshId : entry.id ∉ book.entries.map Entry.id)
      (freshClient : entry.client ∉ book.entries.map Entry.client)
      (freshNode : entry.node ∉ book.entries.map Entry.node)
      (free : entry.exclusive = true → book.holder entry.key = none) :
      Step book ⟨book.entries ++ [entry], take book.holder entry⟩
  | finish (before after : List (Entry ι κ γ ν)) (entry : Entry ι κ γ ν) (holder : κ → Option (ι × γ)) :
      Step ⟨before ++ entry :: after, holder⟩ ⟨before ++ after, leave holder entry⟩

/-- The end of any lease keeps the ledger sound. -/
theorem Sound.finish {before after : List (Entry ι κ γ ν)} {entry : Entry ι κ γ ν}
    {holder : κ → Option (ι × γ)} (sound : (⟨before ++ entry :: after, holder⟩ : Book ι κ γ ν).Sound) :
    (⟨before ++ after, leave holder entry⟩ : Book ι κ γ ν).Sound where
  ids := sound.ids.sublist (by simp)
  clients := sound.clients.sublist (by simp)
  nodes := sound.nodes.sublist (by simp)
  held key id client := by
    have present : entry ∈ before ++ entry :: after := by simp
    have others (other : Entry ι κ γ ν) (member : other ∈ before ++ after) :
        other ∈ before ++ entry :: after ∧ other.id ≠ entry.id := by
      have distinct := List.nodup_middle.mp (by simpa using sound.ids)
      refine ⟨by simp at member ⊢; tauto, fun same => (List.nodup_cons.mp distinct).1 ?_⟩
      rw [← same, ← List.map_append]
      exact List.mem_map_of_mem member
    simp only [leave]
    split
    next left =>
      obtain ⟨rfl, leaver⟩ := left
      constructor
      · intro holds
        cases holds
      · rintro ⟨other, member, exclusive, same, rfl, rfl⟩
        have holds : holder entry.key = some (other.id, other.client) :=
          (sound.held entry.key other.id other.client).mpr
            ⟨other, (others other member).1, exclusive, same, rfl, rfl⟩
        rw [holds] at leaver
        exact absurd (Option.some.inj leaver) (others other member).2
    next stays =>
      change holder key = some (id, client) ↔ _
      rw [sound.held]
      constructor
      · rintro ⟨other, member, exclusive, rfl, rfl, rfl⟩
        refine ⟨other, ?_, exclusive, rfl, rfl, rfl⟩
        have holds : holder other.key = some (other.id, other.client) :=
          (sound.held other.key other.id other.client).mpr ⟨other, member, exclusive, rfl, rfl, rfl⟩
        have different : other ≠ entry := by
          rintro rfl
          exact stays ⟨rfl, by rw [holds]; rfl⟩
        simp only [List.mem_append, List.mem_cons] at member ⊢
        tauto
      · rintro ⟨other, member, facts⟩
        exact ⟨other, (others other member).1, facts⟩

/-- Every change keeps the ledger sound. -/
theorem Sound.step {book book' : Book ι κ γ ν} (sound : book.Sound) (change : Step book book') :
    book'.Sound := by
  cases change with
  | grant _ entry freshId freshClient freshNode free =>
      exact sound.grant entry freshId freshClient freshNode free
  | finish before after entry holder => exact sound.finish

/-- Every sequence of changes keeps the ledger sound. -/
theorem Sound.steps {book book' : Book ι κ γ ν} (sound : book.Sound)
    (changes : Relation.ReflTransGen Step book book') : book'.Sound := by
  induction changes with
  | refl => exact sound
  | tail _ change hypothesis => exact hypothesis.step change

end Book

end Ledger
