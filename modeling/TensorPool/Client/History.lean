/-
This file explains the stores of a run by the writes of its calls.
-/

import TensorPool.Client.Effects
import TensorPool.Client.Layout
import TensorPool.Client.Shared

namespace TensorPool.Client

open FixedField Seqlock

abbrev Committed (word : UInt64) : Prop := seqIsCommitted word = true

theorem bodyStores_fills (offset : Nat) (bytes : List UInt8) (word : UInt64) :
    .stamp word ∉ bodyStores offset bytes := by
  induction bytes generalizing offset with
  | nil => exact List.not_mem_nil
  | cons byte rest hypothesis =>
      rw [bodyStores, List.mem_cons, not_or]
      exact ⟨nofun, hypothesis _⟩

/-- The bytes below the offset stay. -/
theorem bodyStores_below (cell : SlotCell) (offset : Nat) (bytes : List UInt8) (place : Nat)
    (below : place < offset) :
    (cell.after (bodyStores offset bytes)).body place = cell.body place := by
  induction bytes generalizing cell offset with
  | nil => rfl
  | cons byte rest hypothesis =>
      have later := hypothesis (cell.store (.body offset byte)) (offset + 1) (by omega)
      rw [bodyStores]
      change ((cell.store (.body offset byte)).after (bodyStores (offset + 1) rest)).body place = _
      rw [later]
      exact Function.update_of_ne (Nat.ne_of_lt below) _ _

theorem bodyStores_shows (cell : SlotCell) (offset : Nat) (bytes : List UInt8) :
    Shows (cell.after (bodyStores offset bytes)).body offset bytes := by
  induction bytes generalizing cell offset with
  | nil => exact fun index inside => absurd inside (Nat.not_lt_zero index)
  | cons byte rest hypothesis =>
      intro index inside
      have later := hypothesis (cell.store (.body offset byte)) (offset + 1)
      rw [bodyStores]
      change ((cell.store (.body offset byte)).after (bodyStores (offset + 1) rest)).body (offset + index) = _
      cases index with
      | zero =>
          rw [bodyStores_below _ _ _ _ (by omega)]
          exact Function.update_self ..
      | succ index =>
          have value := later index (Nat.lt_of_succ_lt_succ inside)
          rw [Nat.add_assoc, Nat.add_comm 1] at value
          exact value

namespace Write

/-- The slot of a write. -/
def At (region : Nat) (offset : UInt32) (write : Write) : Prop :=
  write.region = region ∧ slotAt write.index = offset

instance (region : Nat) (offset : UInt32) (write : Write) : Decidable (write.At region offset) :=
  inferInstanceAs (Decidable (_ ∧ _))

/-- A write as an update of its slot. -/
def update : Write → Update UInt64 UInt8 Committed
  | .mark _ _ seq => ⟨seqInProgress seq, [], none, seqInProgress_not_committed seq, fun _ => List.not_mem_nil⟩
  | .publish publication _ =>
      ⟨seqInProgress publication.seq, bodyStores slotStart publication.slotBytes,
        some (seqCommitted publication.seq), seqInProgress_not_committed _, bodyStores_fills _ _⟩

end Write

theorem storesAt_append (first second : List Store) (region : Nat) (offset : UInt32) :
    storesAt (first ++ second) region offset = storesAt first region offset ++ storesAt second region offset :=
  List.filterMap_append

theorem storesAt_here (stores : List SlotStore) (region : Nat) (offset : UInt32) :
    storesAt (stores.map (Store.header region offset)) region offset = stores := by
  induction stores with
  | nil => rfl
  | cons store rest hypothesis =>
      rw [storesAt] at hypothesis ⊢
      rw [List.map_cons, List.filterMap_cons, Store.at?, if_pos ⟨rfl, rfl⟩, hypothesis]

theorem storesAt_elsewhere {region region' : Nat} {offset offset' : UInt32} (stores : List SlotStore)
    (apart : ¬ (region' = region ∧ offset' = offset)) :
    storesAt (stores.map (Store.header region' offset')) region offset = [] := by
  induction stores with
  | nil => rfl
  | cons store rest hypothesis =>
      rw [storesAt] at hypothesis ⊢
      rw [List.map_cons, List.filterMap_cons, Store.at?, if_neg apart, hypothesis]

/-- A proper write reaches its own slot and no other one. -/
theorem storesAt_write {write : Write} (proper : write.Proper) (region : Nat) (offset : UInt32) :
    storesAt write.stores region offset = if write.At region offset then write.update.stores else [] := by
  have shape : ∃ payload, (∀ region offset, storesAt payload region offset = []) ∧
      ∃ early late, write.stores = early.map (Store.header write.region (slotAt write.index)) ++
        payload ++ late.map (Store.header write.region (slotAt write.index)) ∧
          early ++ late = write.update.stores := by
    cases write with
    | mark region index seq => exact ⟨[], fun _ _ => rfl, [.stamp (seqInProgress seq)], [], rfl, rfl⟩
    | publish publication payload =>
        refine ⟨payload, proper.2, [.stamp (seqInProgress publication.seq)],
          bodyStores slotStart publication.slotBytes ++ [.stamp (seqCommitted publication.seq)], ?_, rfl⟩
        simp only [Write.stores, Publication.stores, Write.region, Write.index, List.map_append, List.map_cons,
          List.map_nil, List.cons_append, List.nil_append, List.append_assoc]
  obtain ⟨payload, silent, early, late, stores, update⟩ := shape
  rw [stores, storesAt_append, storesAt_append, silent, List.append_nil]
  split
  next here =>
    obtain ⟨rfl, rfl⟩ := here
    rw [storesAt_here, storesAt_here, update]
  next apart =>
    rw [storesAt_elsewhere _ apart, storesAt_elsewhere _ apart, List.append_nil]

theorem storesAt_writes {writes : List Write} (proper : ∀ write ∈ writes, write.Proper) (region : Nat)
    (offset : UInt32) :
    storesAt (writes.flatMap Write.stores) region offset =
      ((writes.filter fun write => write.At region offset).map Write.update).flatMap Update.stores := by
  induction writes with
  | nil => rfl
  | cons write rest hypothesis =>
      have later := hypothesis fun write present => proper write (List.mem_cons_of_mem _ present)
      rw [List.flatMap_cons, storesAt_append, later, storesAt_write (proper write List.mem_cons_self)]
      by_cases here : write.At region offset
      · rw [if_pos here, List.filter_cons_of_pos (by rwa [decide_eq_true_iff]), List.map_cons, List.flatMap_cons]
      · rw [if_neg here, List.filter_cons_of_neg (by rwa [decide_eq_true_iff]), List.nil_append]

/-- After the stores of a publication the slot holds it, whatever it held before. -/
theorem update_holds {publication : Publication} {payload : List Store}
    (proper : (Write.publish publication payload).Proper) (before : SlotCell) :
    Holds (before.after (Write.publish publication payload).update.stores) publication := by
  have stores : (Write.publish publication payload).update.stores =
      .stamp (seqInProgress publication.seq) :: (bodyStores slotStart publication.slotBytes ++
        [.stamp (seqCommitted publication.seq)]) := rfl
  have opens : ∀ rest, before.after (.stamp (seqInProgress publication.seq) :: rest) =
      (before.store (.stamp (seqInProgress publication.seq))).after rest := fun _ => rfl
  have closes : ∀ cell : SlotCell, (cell.after [.stamp (seqCommitted publication.seq)]).body = cell.body :=
    fun _ => rfl
  rw [stores, opens, Cell.after_append]
  constructor
  · rfl
  · rw [closes]
    exact bodyStores_shows _ _ _
  · exact proper.1

/-- A slot with a committed word holds the frame of one of the writes. -/
theorem slot_holds {writes : List Write} {past pending : List Store} (proper : ∀ write ∈ writes, write.Proper)
    (split : past ++ pending = writes.flatMap Write.stores) {region : Nat} {offset : UInt32}
    (shown : Committed (slotAfter past region offset).stamp) :
    ∃ publication payload, .publish publication payload ∈ writes ∧ publication.region = region ∧
      slotAt publication.headerIndex = offset ∧ Holds (slotAfter past region offset) publication := by
  have cells := storesAt_writes proper region offset
  rw [← split, storesAt_append] at cells
  have some' : storesAt past region offset ≠ [] := by
    intro empty
    rw [slotAfter, empty] at shown
    exact absurd shown (by decide)
  obtain ⟨front, update, rest, updates, reached, -, closing⟩ := Update.closed_ends some' cells.symm shown
  have present : update ∈ (writes.filter fun write => write.At region offset).map Write.update :=
    updates ▸ List.mem_append_right _ List.mem_cons_self
  obtain ⟨write, member, rfl⟩ := List.mem_map.mp present
  obtain ⟨member, here⟩ := List.mem_filter.mp member
  rw [decide_eq_true_iff] at here
  cases write with
  | mark region' index seq => cases closing
  | publish publication payload =>
      refine ⟨publication, payload, member, here.1, here.2, ?_⟩
      rw [slotAfter, reached, Cell.after_append]
      exact update_holds (proper _ member) _

/-- Each small sequence number is published at most once. -/
structure Once (publications : List Publication) : Prop where
  small : ∀ publication ∈ publications, publication.seq.toNat < 2 ^ 63
  nodup : (publications.map Publication.seq).Nodup

theorem mem_publications {publication : Publication} {payload : List Store} {writes : List Write}
    (present : .publish publication payload ∈ writes) : publication ∈ writes.flatMap Write.publications :=
  List.mem_flatMap.mpr ⟨_, present, List.mem_singleton_self _⟩

theorem closings_apart {writes : List Write} (once : Once (writes.flatMap Write.publications)) :
    writes.Pairwise fun early late =>
      ∀ word, early.update.closing = some word → late.update.closing ≠ some word := by
  induction writes with
  | nil => exact List.Pairwise.nil
  | cons write rest hypothesis =>
      rw [List.flatMap_cons] at once
      have later : Once (rest.flatMap Write.publications) :=
        ⟨fun publication present => once.small publication (List.mem_append_right _ present),
          (List.nodup_append'.mp (List.map_append ▸ once.nodup)).2.1⟩
      refine List.pairwise_cons.mpr ⟨?_, hypothesis later⟩
      intro late present word closing closing'
      cases write with
      | mark region index seq => cases closing
      | publish publication payload =>
          cases late with
          | mark region index seq => cases closing'
          | publish publication' payload' =>
              have member := mem_publications present
              have same : publication.seq = publication'.seq :=
                seqCommitted_inj (once.small _ List.mem_cons_self) (later.small _ member)
                  (Option.some.inj (closing.trans closing'.symm))
              have differ := (List.nodup_cons.mp once.nodup).1
              exact differ (same ▸ List.mem_map_of_mem member)

namespace System

variable {system after : System}

/-- A reader changes neither the stores nor the publications. -/
theorem load_same (system : System) (index : Nat) (reader : Reader) :
    (system.load index reader).producer = system.producer ∧ (system.load index reader).stores = system.stores ∧
      (system.load index reader).pending = system.pending ∧
        (system.load index reader).publications = system.publications := by
  unfold System.load
  dsimp only
  split <;> exact ⟨rfl, rfl, rfl, rfl⟩

/-- A step of the run changes nothing of the producer but the next sequence number. -/
theorem step_producer {action : Action} (stepped : system.step action = some after) :
    ∃ next, after.producer = { system.producer with nextSeq := next } := by
  cases action with
  | call call =>
      rw [System.step] at stepped
      split at stepped
      next issue idle performed =>
        cases stepped
        obtain ⟨write, written⟩ := perform_written performed
        exact written.kept
      · cases stepped
  | store =>
      rw [System.step] at stepped
      split at stepped
      all_goals cases stepped
      exact ⟨system.producer.nextSeq, rfl⟩
  | read index consumer seq =>
      rw [System.step] at stepped
      split at stepped
      all_goals cases stepped
      all_goals exact ⟨system.producer.nextSeq, rfl⟩
  | load index =>
      obtain ⟨reader, -, rfl⟩ := Option.map_eq_some_iff.mp stepped
      exact ⟨system.producer.nextSeq, (system.load_same index reader).1⟩

/-- The publications of a run only grow. -/
theorem publications_grow {action : Action} (stepped : system.step action = some after) :
    ∃ added, after.publications = system.publications ++ added := by
  cases action with
  | call call =>
      rw [System.step] at stepped
      split at stepped
      all_goals cases stepped
      exact ⟨_, rfl⟩
  | store =>
      rw [System.step] at stepped
      split at stepped
      all_goals cases stepped
      exact ⟨[], (List.append_nil _).symm⟩
  | read index consumer seq =>
      rw [System.step] at stepped
      split at stepped
      all_goals cases stepped
      all_goals exact ⟨[], (List.append_nil _).symm⟩
  | load index =>
      obtain ⟨reader, -, rfl⟩ := Option.map_eq_some_iff.mp stepped
      refine ⟨[], ?_⟩
      rw [List.append_nil]
      exact (system.load_same index reader).2.2.2

end System

/-- The writes of a run explain its stores and its publications. -/
structure Explained (allowed : Write → Prop) (system : System) (writes : List Write) : Prop where
  stores : system.stores ++ system.pending = writes.flatMap Write.stores
  publications : system.publications = writes.flatMap Write.publications
  proper : ∀ write ∈ writes, write.Proper
  allowed : ∀ write ∈ writes, allowed write

namespace Explained

variable {allowed : Write → Prop} {system after : System} {writes : List Write}

theorem start (allowed : Write → Prop) (producer : Producer) : Explained allowed { producer := producer } [] :=
  ⟨rfl, rfl, fun _ absent => absurd absent List.not_mem_nil, fun _ absent => absurd absent List.not_mem_nil⟩

/-- A call adds its write. -/
theorem called {call : Call} {issue : Issue} {write : Option Write} (explained : Explained allowed system writes)
    (idle : system.pending = []) (written : Written system.producer call issue write)
    (admits : ∀ other ∈ write, allowed other) :
    Explained allowed
      { system with
        producer := issue.producer, pending := issue.stores
        publications := system.publications ++ issue.publications }
      (writes ++ write.toList) := by
  obtain ⟨stores, publications, proper, allows⟩ := explained
  rw [idle, List.append_nil] at stores
  constructor
  · rw [List.flatMap_append, ← stores, ← written.stores]
  · rw [List.flatMap_append, ← publications, ← written.publications]
  · intro other present
    rcases List.mem_append.mp present with early | late
    · exact proper other early
    · exact written.proper other (Option.mem_toList.mp late)
  · intro other present
    rcases List.mem_append.mp present with early | late
    · exact allows other early
    · exact admits other (Option.mem_toList.mp late)

/-- The other steps add no write. -/
theorem moved {action : Action} (explained : Explained allowed system writes)
    (stepped : system.step action = some after) (other : ∀ call, action ≠ .call call) :
      Explained allowed after writes := by
  obtain ⟨stores, publications, proper, allows⟩ := explained
  cases action with
  | call call => exact absurd rfl (other call)
  | store =>
      rw [System.step] at stepped
      split at stepped
      · cases stepped
      next store rest pending =>
        cases stepped
        rw [pending] at stores
        refine ⟨?_, publications, proper, allows⟩
        rw [← stores, List.append_assoc]
        rfl
  | read index consumer seq =>
      rw [System.step] at stepped
      split at stepped
      all_goals cases stepped
      all_goals exact ⟨stores, publications, proper, allows⟩
  | load index =>
      obtain ⟨reader, -, rfl⟩ := Option.map_eq_some_iff.mp stepped
      obtain ⟨-, sameStores, samePending, samePublications⟩ := system.load_same index reader
      refine ⟨?_, ?_, proper, allows⟩
      · rw [sameStores, samePending, stores]
      · rw [samePublications, publications]

/-- A step of the run adds the write of its call. -/
theorem step {action : Action} (explained : Explained allowed system writes)
    (stepped : system.step action = some after) (admits : ∀ call issue write, action = .call call →
      call.perform system.producer = some issue → Written system.producer call issue (some write) → allowed write) :
    ∃ writes', Explained allowed after writes' := by
  by_cases calls : ∃ call, action = .call call
  · obtain ⟨call, rfl⟩ := calls
    have unchanged := stepped
    rw [System.step] at unchanged
    split at unchanged
    next issue idle performed =>
      cases unchanged
      obtain ⟨write, written⟩ := perform_written performed
      refine ⟨_, explained.called idle written fun other present => ?_⟩
      cases present
      exact admits call issue other rfl performed written
    · cases unchanged
  · exact ⟨writes, explained.moved stepped fun call same => calls ⟨call, same⟩⟩

/-- Every slot of the run keeps the discipline of a stamp that guards a body. -/
theorem disciplined (explained : Explained allowed system writes) (once : Once system.publications) (region : Nat)
    (offset : UInt32) : Disciplined Committed createdSlot (storesAt system.stores region offset) := by
  have cells := storesAt_writes explained.proper region offset
  rw [← explained.stores, storesAt_append] at cells
  rw [explained.publications] at once
  have opened : ¬ Committed createdSlot.stamp := by decide
  refine Update.disciplined opened cells.symm ?_
  rw [List.pairwise_map]
  exact (closings_apart once).filter _

/-- A slot that shows a committed word after some of the stores holds a publication. -/
theorem holds (explained : Explained allowed system writes) (moment : Nat) {region : Nat} {offset : UInt32}
    (shown : Committed (slotAfter (system.stores.take moment) region offset).stamp) :
    ∃ publication payload, .publish publication payload ∈ writes ∧ publication.region = region ∧
      slotAt publication.headerIndex = offset ∧
        Holds (slotAfter (system.stores.take moment) region offset) publication := by
  have split : system.stores.take moment ++ (system.stores.drop moment ++ system.pending) =
      writes.flatMap Write.stores := by
    rw [← List.append_assoc, List.take_append_drop, explained.stores]
  exact slot_holds explained.proper split shown

end Explained

end TensorPool.Client
