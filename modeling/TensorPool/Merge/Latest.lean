/-
This file shows when the registry of merge maps holds the last stored map of each output.
-/

import TensorPool.Merge.Registry

namespace TensorPool.Merge

open Slots

section Entries

variable {entries : List Entry} {entry filled : Entry} {kind : MergeMapKind} {outStreamId : UInt32} {epoch : UInt64}
  {wanted : MergeMapKind × UInt32}

/-- The key of an entry is its kind and its output stream while it is in use. -/
theorem Entry.key_iff : entry.key = some (kind, outStreamId) ↔
    entry.inUse = true ∧ entry.kind = kind ∧ entry.outStreamId = outStreamId := by
  rw [Entry.key]
  split
  next used => simp [used]
  next free => simp [free]

theorem Entry.serves_eq :
    entry.serves kind outStreamId epoch = (decide (entry.key = some (kind, outStreamId)) &&
      entry.epoch == epoch) := by
  rw [Bool.eq_iff_iff]
  simp [Entry.serves, Entry.key_iff, and_assoc]

theorem Entry.outdated_eq :
    entry.outdated kind outStreamId epoch =
      (decide (entry.key = some (kind, outStreamId)) && entry.epoch != epoch) := by
  rw [Bool.eq_iff_iff]
  simp [Entry.outdated, Entry.key_iff, and_assoc]

/-- A lookup searches the entries of the output for the epoch. -/
theorem findEntry_eq (entries : List Entry) :
    findEntry entries kind outStreamId epoch =
      (held Entry.key (kind, outStreamId) entries).find? fun entry => entry.epoch == epoch := by
  rw [findEntry, ← find_held]
  congr 1
  funext entry
  exact Entry.serves_eq

/-- The invalidation leaves the entries of the epoch and those of other keys. -/
theorem held_invalidateStream :
    held Entry.key wanted (invalidateStream entries kind outStreamId epoch) =
      if wanted = (kind, outStreamId) then (held Entry.key wanted entries).filter fun entry => entry.epoch == epoch
      else held Entry.key wanted entries := by
  rw [invalidateStream, held_drop _ _ rfl]
  split
  next same =>
    apply List.filter_congr
    intro entry member
    have own : entry.key = some (kind, outStreamId) := by
      rw [← same]
      exact of_decide_eq_true (List.mem_filter.mp member).2
    rw [Entry.outdated_eq, own]
    simp [bne]
  next other =>
    rw [List.filter_eq_self]
    intro entry member
    have own : entry.key = some wanted := of_decide_eq_true (List.mem_filter.mp member).2
    rw [Entry.outdated_eq, own]
    simp [other]

/-- The loop finds the entry that serves the map, or else the first free one. -/
theorem findSlotFrom_found {index : Nat} {slot : Option Nat} {found : Nat}
    (result : findSlotFrom kind outStreamId epoch index slot entries = some found) :
    (∃ front old back, entries = front ++ old :: back ∧ found = index + front.length ∧
        (old.serves kind outStreamId epoch = true ∨
          old.inUse = false ∧ ∀ entry ∈ entries, entry.serves kind outStreamId epoch = false)) ∨
      slot = some found ∧ ∀ entry ∈ entries, entry.serves kind outStreamId epoch = false := by
  induction entries generalizing index slot with
  | nil =>
      apply Or.inr
      exact ⟨result, fun _ absent => absurd absent List.not_mem_nil⟩
  | cons entry rest hypothesis =>
      rw [findSlotFrom] at result
      have pass : entry.serves kind outStreamId epoch = false →
          (∃ front old back, rest = front ++ old :: back ∧ found = index + 1 + front.length ∧
            (old.serves kind outStreamId epoch = true ∨
              old.inUse = false ∧ ∀ entry ∈ rest, entry.serves kind outStreamId epoch = false)) →
          ∃ front old back, entry :: rest = front ++ old :: back ∧ found = index + front.length ∧
            (old.serves kind outStreamId epoch = true ∨
              old.inUse = false ∧ ∀ other ∈ entry :: rest, other.serves kind outStreamId epoch = false) := by
        intro misses later
        obtain ⟨front, old, back, rfl, place, fits⟩ := later
        refine ⟨entry :: front, old, back, rfl, ?_, ?_⟩
        · rw [List.length_cons]
          omega
        · apply fits.imp_right
          intro both
          apply And.intro both.1
          rw [List.forall_mem_cons]
          exact ⟨misses, both.2⟩
      split at result
      next used =>
        split at result
        next serves =>
          cases result
          exact Or.inl ⟨[], entry, rest, rfl, rfl, Or.inl serves⟩
        next other =>
          have misses := Bool.eq_false_iff.mpr other
          rcases hypothesis result with later | ⟨same, none⟩
          · exact Or.inl (pass misses later)
          · apply Or.inr
            apply And.intro same
            rw [List.forall_mem_cons]
            exact ⟨misses, none⟩
      next free =>
        have unused := Bool.eq_false_iff.mpr free
        have misses : entry.serves kind outStreamId epoch = false := by
          rw [Entry.serves, unused]
          rfl
        rcases hypothesis result with later | ⟨same, none⟩
        · exact Or.inl (pass misses later)
        · have all : ∀ other ∈ entry :: rest, other.serves kind outStreamId epoch = false := by
            rw [List.forall_mem_cons]
            exact ⟨misses, none⟩
          split at same
          · cases same
            exact Or.inl ⟨[], entry, rest, rfl, rfl, Or.inr ⟨unused, all⟩⟩
          · exact Or.inr ⟨same, all⟩

/-- The found slot serves the map, or it is the first free one. -/
theorem findSlot_found {found : Nat} (result : findSlot entries kind outStreamId epoch = some found) :
    ∃ front old back, entries = front ++ old :: back ∧ found = front.length ∧
      (old.serves kind outStreamId epoch = true ∨
        old.inUse = false ∧ ∀ entry ∈ entries, entry.serves kind outStreamId epoch = false) := by
  rcases findSlotFrom_found result with ⟨front, old, back, shape, place, fits⟩ | ⟨absent, _⟩
  · exact ⟨front, old, back, shape, by omega, fits⟩
  · cases absent

/-- Without a slot every entry is in use for another map. -/
theorem findSlotFrom_none {index : Nat} {slot : Option Nat}
    (result : findSlotFrom kind outStreamId epoch index slot entries = none) :
    ∀ entry ∈ entries, entry.inUse = true ∧ entry.serves kind outStreamId epoch = false := by
  induction entries generalizing index slot with
  | nil => exact fun _ absent => absurd absent List.not_mem_nil
  | cons entry rest hypothesis =>
      rw [findSlotFrom] at result
      rw [List.forall_mem_cons]
      split at result
      next used =>
        split at result
        · cases result
        next other => exact ⟨⟨used, Bool.eq_false_iff.mpr other⟩, hypothesis result⟩
      next free =>
        have kept : ∀ {index : Nat} {slot : Option Nat} {entries : List Entry}, slot ≠ none →
            findSlotFrom kind outStreamId epoch index slot entries ≠ none := by
          intro index slot entries some
          induction entries generalizing index slot with
          | nil => exact some
          | cons entry rest hypothesis =>
              rw [findSlotFrom]
              split
              · split
                · exact Option.some_ne_none _
                · exact hypothesis some
              · apply hypothesis
                split
                · exact Option.some_ne_none _
                · exact some
        apply absurd result
        apply kept
        split
        · exact Option.some_ne_none _
        next other =>
          intro none
          exact other (none ▸ rfl)

/-- A full registry has no entry for the output, and the invalidation changed nothing. -/
theorem findSlot_full (result : findSlot
    (invalidateStream entries kind outStreamId epoch) kind outStreamId epoch = none) :
    invalidateStream entries kind outStreamId epoch = entries ∧
      held Entry.key (kind, outStreamId) entries = [] := by
  have full := findSlotFrom_none result
  have current : ∀ entry ∈ entries, entry.outdated kind outStreamId epoch = false := by
    intro entry member
    by_contra outdated
    have dropped : ({} : Entry) ∈ invalidateStream entries kind outStreamId epoch := by
      rw [invalidateStream, List.mem_map]
      exact ⟨entry, member, if_pos (Bool.not_eq_false _ ▸ outdated)⟩
    exact absurd (full _ dropped).1 (by decide)
  have same : invalidateStream entries kind outStreamId epoch = entries := by
    rw [invalidateStream]
    conv_rhs => rw [← List.map_id entries]
    apply List.map_congr_left
    intro entry member
    rw [current entry member]
    rfl
  apply And.intro same
  rw [held, List.filter_eq_nil_iff]
  intro entry member own
  have misses := (full entry (by rw [same]; exact member)).2
  have fresh := current entry member
  rw [Entry.serves_eq, own, Bool.true_and] at misses
  rw [Entry.outdated_eq, own, Bool.true_and, bne, misses] at fresh
  exact absurd fresh (by decide)

/-- The slot of an upsert served the map before, or it was free and no entry is left for the output. -/
theorem findSlot_placed {found : Nat}
    (result : findSlot (invalidateStream entries kind outStreamId epoch) kind outStreamId epoch = some found) :
    ∃ front old back, invalidateStream entries kind outStreamId epoch = front ++ old :: back ∧ found = front.length ∧
      (old.key = some (kind, outStreamId) ∨
        old.key = none ∧ held Entry.key (kind, outStreamId) (front ++ old :: back) = []) := by
  obtain ⟨front, old, back, shape, place, fits⟩ := findSlot_found result
  refine ⟨front, old, back, shape, place, ?_⟩
  cases fits with
  | inl serves =>
      rw [Entry.serves_eq, Bool.and_eq_true_iff] at serves
      exact Or.inl (of_decide_eq_true serves.1)
  | inr free =>
      apply Or.inr
      constructor
      · rw [Entry.key, free.1]
        rfl
      · rw [held, List.filter_eq_nil_iff, ← shape]
        intro entry member own
        have misses := free.2 entry member
        rw [Entry.serves_eq, own, Bool.true_and] at misses
        have kept : entry ∈ held Entry.key (kind, outStreamId) (invalidateStream entries kind outStreamId epoch) :=
          List.mem_filter.mpr ⟨member, own⟩
        rw [held_invalidateStream, if_pos rfl, List.mem_filter, misses] at kept
        exact absurd kept.2 Bool.false_ne_true

end Entries

namespace Upsert

variable {call : Upsert} {entries : List Entry}

theorem entry_key (call : Upsert) : call.entry.key = some call.map.key := by
  rw [Upsert.entry]
  cases call.map <;> rfl

/-- What an upsert with rules does to its registry. -/
inductive Effect (call : Upsert) (entries : List Entry) : UpsertResult → List Entry → Prop
  | full (text : String) (absent : held Entry.key call.map.key entries = []) :
    Effect call entries (.refused text) entries
  | failed (front back : List Entry) (old : Entry)
      (shape : invalidateStream entries call.map.kind call.map.outStreamId call.map.epoch = front ++ old :: back)
      (placed : old.key = some call.map.key ∨ old.key = none ∧
        held Entry.key call.map.key (front ++ old :: back) = [])
      (needed : call.map.ruleless = false) (fails : call.allocates = false) :
      Effect call entries .unallocated (front ++ {} :: back)
  | stored (front back : List Entry) (old : Entry)
      (shape : invalidateStream entries call.map.kind call.map.outStreamId call.map.epoch = front ++ old :: back)
      (placed : old.key = some call.map.key ∨ old.key = none ∧
        held Entry.key call.map.key (front ++ old :: back) = [])
      (made : call.map.ruleless = true ∨ call.allocates = true) :
      Effect call entries .stored (front ++ call.entry :: back)

/-- An upsert writes one entry, or it is refused. -/
theorem upsert_effect (call : Upsert) (entries : List Entry) (caller : String) :
    Effect call entries
      (upsert entries call.map.kind call.map.outStreamId call.map.epoch caller (!call.map.ruleless) call.allocates
        call.entry).1
      (upsert entries call.map.kind call.map.outStreamId call.map.epoch caller (!call.map.ruleless) call.allocates
        call.entry).2 := by
  rw [upsert]
  split
  next full =>
    obtain ⟨same, absent⟩ := findSlot_full full
    rw [same]
    exact Effect.full _ absent
  next found result =>
    obtain ⟨front, old, back, shape, rfl, placed⟩ := findSlot_placed result
    rw [shape]
    split
    next fails =>
      rw [Bool.and_eq_true_iff, Bool.not_eq_true', Bool.not_eq_true'] at fails
      simp only [List.set_append_right _ _ (Nat.le_refl _), Nat.sub_self, List.set_cons_zero]
      exact Effect.failed front back old shape placed fails.1 fails.2
    next made =>
      simp only [List.set_append_right _ _ (Nat.le_refl _), Nat.sub_self, List.set_cons_zero]
      apply Effect.stored front back old shape placed
      cases ruleless : call.map.ruleless with
      | true => exact Or.inl rfl
      | false =>
          apply Or.inr
          simpa [ruleless] using made

/-- A call without rules is refused, and every other one is an upsert. -/
theorem perform_effect (call : Upsert) (entries : List Entry) :
    (call.rulesGiven = false ∧ (call.perform entries).1 ≠ .stored ∧ (call.perform entries).2 = entries) ∨
      call.rulesGiven = true ∧ Effect call entries (call.perform entries).1 (call.perform entries).2 := by
  cases given : call.rulesGiven with
  | false =>
      apply Or.inl
      rw [perform]
      split
      · rw [upsertSequence, given]
        exact ⟨rfl, by simp, rfl⟩
      · rw [upsertTimestamp, given]
        exact ⟨rfl, by simp, rfl⟩
  | true =>
      apply Or.inr
      apply And.intro rfl
      have effect := upsert_effect call entries
      rw [perform]
      split
      next map same =>
        rw [upsertSequence, given, if_neg (by decide)]
        have shown := effect "tp_merge_map_registry_upsert_sequence"
        simpa only [same, MergeMap.kind, MergeMap.outStreamId, MergeMap.epoch, MergeMap.ruleless, entry] using shown
      next map same =>
        rw [upsertTimestamp, given, if_neg (by decide)]
        have shown := effect "tp_merge_map_registry_upsert_timestamp"
        simpa only [same, MergeMap.kind, MergeMap.outStreamId, MergeMap.epoch, MergeMap.ruleless, entry] using shown

end Upsert

namespace Recorded

variable {state : Recorded} {call : Upsert}

/-- The entries of each output are what the log says. -/
def Mirrors (entries : List Entry) (state : Recorded) : Prop :=
  ∀ key, held Entry.key key entries = (state.last key).toList.map Upsert.entry

/-- The last call of a key has the key. -/
theorem last_key {key : MergeMapKind × UInt32} (found : state.last key = some call) : call.map.key = key := by
  have own := List.find?_some found
  exact of_decide_eq_true own

/-- The lookups of a registry that mirrors its log find the last maps. -/
theorem latest_of_mirrors (mirrors : Mirrors state.entries state) : Latest state := by
  constructor
  · intro key
    rw [mirrors key, List.length_map]
    cases state.last key <;> simp
  · intro outStreamId epoch
    rw [findSequence, findEntry_eq, mirrors, lastSequence]
    cases known : state.last (.sequence, outStreamId) with
    | none => rfl
    | some call =>
        have own := last_key known
        cases shape : call.map with
        | timestamp map =>
            rw [shape] at own
            cases own
        | sequence map =>
            have entry : call.entry = .ofSequence map call.nowNs := by rw [Upsert.entry, shape]
            rw [Option.toList_some, List.map_singleton, List.find?_singleton, Option.map_some, entry]
            change Option.map _ (if (map.epoch == epoch) = true then _ else _) =
              Option.filter (fun map => map.epoch == epoch) (some map)
            rw [Option.filter_some]
            split <;> rfl
  · intro outStreamId epoch
    rw [findTimestamp, findEntry_eq, mirrors, lastTimestamp]
    cases known : state.last (.timestamp, outStreamId) with
    | none => rfl
    | some call =>
        have own := last_key known
        cases shape : call.map with
        | sequence map =>
            rw [shape] at own
            cases own
        | timestamp map =>
            have entry : call.entry = .ofTimestamp map call.nowNs := by rw [Upsert.entry, shape]
            rw [Option.toList_some, List.map_singleton, List.find?_singleton, Option.map_some, entry]
            change Option.map _ (if (map.epoch == epoch) = true then _ else _) =
              Option.filter (fun map => map.epoch == epoch) (some map)
            rw [Option.filter_some]
            split <;> rfl

/-- A new registry mirrors the empty history. -/
theorem start_mirrors (capacity : Nat) : Mirrors (start capacity).entries (start capacity) := by
  intro key
  have free : held Entry.key key (List.replicate capacity ({} : Entry)) = [] := by
    rw [held, List.filter_eq_nil_iff]
    intro entry member
    rw [List.eq_of_mem_replicate member]
    exact Bool.false_ne_true
  exact free

/-- Around the slot of an upsert the other keys stay, and the own one is unique. -/
theorem around {front back : List Entry} {old : Entry} {key : MergeMapKind × UInt32}
    (mirrors : Mirrors state.entries state)
    (shape : invalidateStream state.entries call.map.kind call.map.outStreamId call.map.epoch = front ++ old ::
      back) :
    (held Entry.key call.map.key (front ++ old :: back)).length ≤ 1 ∧
      (key ≠ call.map.key → held Entry.key key (front ++ old :: back) = held Entry.key key state.entries) := by
  rw [← shape, held_invalidateStream, held_invalidateStream]
  constructor
  · rw [if_pos (show call.map.key = (call.map.kind, call.map.outStreamId) from rfl)]
    apply Nat.le_trans (List.length_filter_le _ _)
    exact (latest_of_mirrors mirrors).unique _
  · intro other
    exact if_neg other

/-- An entry at the slot of an upsert is not for another key. -/
theorem placed_other {front back : List Entry} {old : Entry} {key : MergeMapKind × UInt32}
    (other : key ≠ call.map.key) (placed : old.key = some call.map.key ∨ old.key = none ∧
      held Entry.key call.map.key (front ++ old :: back) = []) :
    old.key ≠ some key := by
  rcases placed with own | ⟨free, _⟩
  · rw [own]
    exact fun same => other (Option.some_inj.mp same).symm
  · rw [free]
    exact (Option.some_ne_none _).symm

/-- A spared call keeps the registry in step with its log. -/
theorem after_mirrors (mirrors : Mirrors state.entries state) (spares : state.spared call = true) :
    Mirrors (state.after call).entries (state.after call) := by
  intro key
  rw [Recorded.after]
  rcases call.perform_effect state.entries with ⟨_, refused, same⟩ | ⟨given, effect⟩
  · rw [same, if_neg refused]
    exact mirrors key
  · generalize (call.perform state.entries).1 = result at effect ⊢
    generalize (call.perform state.entries).2 = entries at effect ⊢
    cases effect with
    | full text absent => exact mirrors key
    | failed front back old shape placed needed fails =>
        obtain ⟨unique, others⟩ := @around _ _ _ _ _ key mirrors shape
        dsimp only
        rw [if_neg (by simp)]
        have lost : held Entry.key call.map.key state.entries = [] := by
          rw [spared, given, needed, fails, Bool.not_true, Bool.false_or, Bool.false_or, Bool.false_or,
            List.all_eq_true] at spares
          rw [held, List.filter_eq_nil_iff]
          intro entry member own
          have apart := spares entry member
          rw [of_decide_eq_true own, bne_self_eq_false] at apart
          exact Bool.false_ne_true apart
        change held Entry.key key (front ++ {} :: back) = (state.last key).toList.map Upsert.entry
        rw [← mirrors key]
        by_cases own : key = call.map.key
        · subst own
          rw [lost]
          exact held_clear unique (placed.imp_right And.right) (Option.some_ne_none _).symm
        · rw [← others own]
          exact held_replace_other (placed_other own placed) (Option.some_ne_none _).symm
    | stored front back old shape placed made =>
        obtain ⟨unique, others⟩ := @around _ _ _ _ _ key mirrors shape
        dsimp only
        rw [if_pos rfl]
        by_cases own : key = call.map.key
        · subst own
          have last : Recorded.last ⟨front ++ call.entry :: back, call :: state.log⟩ call.map.key = some call := by
            rw [Recorded.last, List.find?_cons_of_pos (by simp)]
          rw [last, held_replace unique (placed.imp_right And.right) call.entry_key]
          rfl
        · have last : Recorded.last ⟨front ++ call.entry :: back, call :: state.log⟩ key = state.last key := by
            rw [Recorded.last, List.find?_cons_of_neg (by simpa using fun same => own same.symm)]
            rfl
          have newOther : call.entry.key ≠ some key := by
            rw [call.entry_key]
            exact fun same => own (Option.some_inj.mp same).symm
          rw [last, ← mirrors key, ← others own]
          exact held_replace_other (placed_other own placed) newOther

/-- The entries before and after an upsert are equal where they were in use for another key. -/
theorem others_kept {front back : List Entry} {old filled entry : Entry} {index : Nat} {entries : List Entry}
    (shape : invalidateStream entries call.map.kind call.map.outStreamId call.map.epoch = front ++ old :: back)
    (placed : old.key = some call.map.key ∨ old.key = none ∧ held Entry.key call.map.key (front ++ old :: back) = [])
    (here : entries[index]? = some entry) (used : entry.inUse = true) (other : entry.key ≠ some call.map.key) :
    (front ++ filled :: back)[index]? = some entry := by
  have current : entry.outdated call.map.kind call.map.outStreamId call.map.epoch = false := by
    change entry.key ≠ some (call.map.kind, call.map.outStreamId) at other
    rw [Entry.outdated_eq, decide_eq_false other]
    rfl
  have valid : (front ++ old :: back)[index]? = some entry := by
    rw [← shape, invalidateStream, List.getElem?_map, here, Option.map_some, current]
    rfl
  have moved : index ≠ front.length := by
    intro same
    rw [same, List.getElem?_append_right (Nat.le_refl _), Nat.sub_self, List.getElem?_cons_zero,
      Option.some_inj] at valid
    rw [valid] at placed
    rcases placed with own | ⟨free, _⟩
    · exact other own
    · rw [Entry.key, used] at free
      cases free
  have changed : front ++ filled :: back = (front ++ old :: back).set front.length filled := by
    rw [List.set_append_right _ _ (Nat.le_refl _), Nat.sub_self, List.set_cons_zero]
  rw [changed, List.getElem?_set_ne moved.symm]
  exact valid

/-- A spared call keeps the newest maps. -/
theorem after_contained (mirrors : Mirrors state.entries state) (spares : state.spared call = true) :
    Contained state call := by
  constructor
  · intro index entry here used other
    rw [Recorded.after]
    rcases call.perform_effect state.entries with ⟨_, _, same⟩ | ⟨given, effect⟩
    · rw [same]
      exact here
    · generalize (call.perform state.entries).1 = result at effect ⊢
      generalize (call.perform state.entries).2 = entries at effect ⊢
      cases effect with
      | full text absent => exact here
      | failed front back old shape placed needed fails => exact others_kept shape placed here used other
      | stored front back old shape placed made => exact others_kept shape placed here used other
  · intro failed outStreamId epoch
    have log : (state.after call).log = state.log := by
      rw [Recorded.after, if_neg failed]
    have before := latest_of_mirrors mirrors
    have later := latest_of_mirrors (after_mirrors mirrors spares)
    constructor
    · rw [before.sequence, later.sequence, lastSequence, lastSequence, last, last, log]
    · rw [before.timestamp, later.timestamp, lastTimestamp, lastTimestamp, last, last, log]

/-- A call that is not spared loses the map of its output. -/
theorem after_loses (mirrors : Mirrors state.entries state) (spares : state.spared call = false) :
    ¬ Latest (state.after call) := by
  intro latest
  rw [spared, Bool.or_eq_false_iff, Bool.or_eq_false_iff, Bool.or_eq_false_iff, Bool.not_eq_false'] at spares
  obtain ⟨⟨⟨given, needed⟩, fails⟩, some⟩ := spares
  have live : held Entry.key call.map.key state.entries ≠ [] := by
    intro none
    rw [List.all_eq_false] at some
    obtain ⟨entry, member, own⟩ := some
    have absent := List.filter_eq_nil_iff.mp none entry member
    rw [bne_iff_ne, not_not] at own
    exact absent (decide_eq_true own)
  obtain ⟨recorded, known⟩ : ∃ recorded, state.last call.map.key = Option.some recorded := by
    rw [← Option.isSome_iff_exists, ← Option.ne_none_iff_isSome]
    intro none
    rw [mirrors, none] at live
    exact live rfl
  have own := last_key known
  rcases call.perform_effect state.entries with ⟨refused, _⟩ | ⟨_, effect⟩
  · rw [given] at refused
    cases refused
  · have emptied : held Entry.key call.map.key (state.after call).entries = [] ∧
      (state.after call).log = state.log := by
      rw [Recorded.after]
      generalize (call.perform state.entries).1 = result at effect ⊢
      generalize (call.perform state.entries).2 = entries at effect ⊢
      cases effect with
      | full text absent => exact absurd absent live
      | failed front back old shape placed needed' fails' =>
          obtain ⟨unique, _⟩ := @around _ _ _ _ _ call.map.key mirrors shape
          constructor
          · exact held_clear unique (placed.imp_right And.right) (Option.some_ne_none _).symm
          · rfl
      | stored front back old shape placed made =>
          rcases made with ruleless | allocated
          · rw [needed] at ruleless
            cases ruleless
          · rw [fails] at allocated
            cases allocated
    obtain ⟨gone, log⟩ := emptied
    cases kind : call.map.kind with
    | sequence =>
        have key : call.map.key = (.sequence, call.map.outStreamId) := by rw [MergeMap.key, kind]
        have found := latest.sequence call.map.outStreamId recorded.entry.sequenceMap.epoch
        rw [key] at gone known
        rw [findSequence, findEntry_eq, gone, lastSequence, last, log, ← last, known, Option.map_some,
          Option.filter_some, if_pos (beq_self_eq_true _)] at found
        cases found
    | timestamp =>
        have key : call.map.key = (.timestamp, call.map.outStreamId) := by rw [MergeMap.key, kind]
        have found := latest.timestamp call.map.outStreamId recorded.entry.timestampMap.epoch
        rw [key] at gone known
        rw [findTimestamp, findEntry_eq, gone, lastTimestamp, last, log, ← last, known, Option.map_some,
          Option.filter_some, if_pos (beq_self_eq_true _)] at found
        cases found

end Recorded

/-- A run of a registry in which no allocation fails for an output that has a map. -/
def runSpared (capacity : Nat) (calls : List Upsert) : Option Recorded :=
  GuardedRun.runWhile Recorded.spared Recorded.step (Recorded.start capacity) calls

/--
After calls that are all spared the registry holds the last map of each output; the next call keeps it so if and only
if it is spared, too, and then it changes no other entry and fails without a trace.
-/
theorem registry_latest (capacity : Nat) (calls : List Upsert) (state : Recorded)
    (ran : runSpared capacity calls = some state) :
    state.Latest ∧ ∀ call, ((state.after call).Latest ↔ state.spared call = true) ∧
      (state.spared call = true → state.Contained call) := by
  have mirrors : Recorded.Mirrors state.entries state := by
    apply GuardedRun.keeps (I := fun state => Recorded.Mirrors state.entries state) _ ran
      (Recorded.start_mirrors capacity)
    intro before call after mirrors spares stepped
    cases stepped
    exact Recorded.after_mirrors mirrors spares
  apply And.intro (Recorded.latest_of_mirrors mirrors)
  intro call
  constructor
  · constructor
    · intro latest
      by_contra missed
      exact Recorded.after_loses mirrors (Bool.not_eq_true _ ▸ missed) latest
    · intro spares
      exact Recorded.latest_of_mirrors (Recorded.after_mirrors mirrors spares)
  · exact Recorded.after_contained mirrors

/-- A map of the output 5 with one rule. -/
def mapOf (epoch : UInt64) : MergeMap := .sequence ⟨5, epoch, nullU64, [⟨7, .offset, 0, 0⟩]⟩

theorem registry_latest_twice :
    ∃ state, runSpared 2 [{ map := mapOf 1, nowNs := 1 }, { map := mapOf 2, nowNs := 2 }] = some state ∧
      (state.Latest ∧ ∀ call, ((state.after call).Latest ↔ state.spared call = true) ∧
        (state.spared call = true → state.Contained call)) :=
  ⟨_, rfl, registry_latest 2 [{ map := mapOf 1, nowNs := 1 }, { map := mapOf 2, nowNs := 2 }] _ rfl⟩

/-- An announce of the same map whose allocation fails takes the stored map away. -/
theorem failed_upsert_forgets :
    findSequence (((Recorded.start 2).after { map := mapOf 1, nowNs := 1 }).entries) 5 1 =
        some ⟨5, 1, nullU64, [⟨7, .offset, 0, 0⟩]⟩ ∧
      findSequence ((((Recorded.start 2).after { map := mapOf 1, nowNs := 1 }).after
        { map := mapOf 1, nowNs := 2, allocates := false }).entries) 5 1 = none ∧
      ¬ (((Recorded.start 2).after { map := mapOf 1, nowNs := 1 }).after
        { map := mapOf 1, nowNs := 2, allocates := false }).Latest := by
  apply And.intro rfl
  apply And.intro rfl
  intro latest
  have found := latest.sequence 5 1
  exact absurd found (by decide)

end TensorPool.Merge
