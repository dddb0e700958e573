/-
This file shows that every frame of a run lies in the slot of its sequence number.
-/

import TensorPool.Client.Untorn
import TensorPool.Library.RingWindow

namespace TensorPool.Client

open Seqlock

/-- A header ring has a power of two of slots, and no two of its slots have one offset. -/
structure RingSized (headerNslots : UInt32) : Prop where
  power : headerNslots.toNat.isPowerOfTwo
  within : headerNslots.toNat ≤ 2 ^ 24

section Ring

variable {headerNslots left right : UInt32}

/-- The mask of the ring is a remainder. -/
theorem ringIndex_toNat (power : headerNslots.toNat.isPowerOfTwo) (seq : UInt64) :
    (ringIndex seq headerNslots).toNat = seq.toNat % headerNslots.toNat := by
  have positive : 0 < headerNslots.toNat := Nat.pos_of_isPowerOfTwo power
  have below : seq.toNat % headerNslots.toNat < 2 ^ 32 :=
    (Nat.mod_lt _ positive).trans headerNslots.toNat_lt
  rw [ringIndex, UInt64.toNat_toUInt32, UInt64.toNat_and, ringMask_toNat positive, RingWindow.land_mask power,
    Nat.mod_eq_of_lt below]

theorem ringIndex_lt (power : headerNslots.toNat.isPowerOfTwo) (seq : UInt64) :
    (ringIndex seq headerNslots).toNat < headerNslots.toNat := by
  rw [ringIndex_toNat power]
  exact Nat.mod_lt _ (Nat.pos_of_isPowerOfTwo power)

/-- The commit word keeps the slot of its sequence number, whatever bits it loses. -/
theorem ringIndex_seqValue (power : headerNslots.toNat.isPowerOfTwo) (seq : UInt64) :
    ringIndex (seqValue (seqCommitted seq)) headerNslots = ringIndex seq headerNslots := by
  have ⟨exponent, size⟩ := power
  have small : exponent < 32 := by
    have below := headerNslots.toNat_lt
    rw [size] at below
    exact (Nat.pow_lt_pow_iff_right (by decide)).mp below
  have divides : headerNslots.toNat ∣ 2 ^ 63 := by
    rw [size]
    exact Nat.pow_dvd_pow 2 (by omega)
  rw [← UInt32.toNat_inj, ringIndex_toNat power, ringIndex_toNat power, seqValue_toNat, seqCommitted_toNat]
  have word : (2 * (seq.toNat % 2 ^ 63) + 1) / 2 = seq.toNat % 2 ^ 63 := by omega
  rw [word, Nat.mod_mod_of_dvd _ divides]

/-- Two slots of a sized ring have different offsets. -/
theorem slotAt_inj (sized : RingSized headerNslots) (leftInside : left < headerNslots)
    (rightInside : right < headerNslots) (same : slotAt left = slotAt right) : left = right := by
  have bound := sized.within
  rw [UInt32.lt_iff_toNat_lt] at leftInside rightInside
  rw [← UInt32.toNat_inj, slotAt, slotAt, UInt32.toNat_mul, UInt32.toNat_mul] at same
  change left.toNat * 256 % 2 ^ 32 = right.toNat * 256 % 2 ^ 32 at same
  rw [← UInt32.toNat_inj]
  omega

end Ring

/-- A queued claim gets the slot of the sequence number that it is about to get. -/
def placedCall (producer : Producer) : Call → Bool
  | .queue claim =>
      !producer.fixedPoolMode || claim.headerIndex == ringIndex producer.nextSeq producer.headerNslots
  | _ => true

def placedAction (system : System) : Action → Bool
  | .call call => placedCall system.producer call
  | _ => true

/-- Every committed word lies in the slot of its number, above the header that was written for it. -/
def Placed (system : System) : Prop :=
  ∀ region, system.producer.headerRegion.addr = some region → ∀ moment index,
    index < system.producer.headerNslots →
      Committed (slotAfter (system.stores.take moment) region (slotAt index)).stamp →
        (seqValue (slotAfter (system.stores.take moment) region (slotAt index)).stamp).toNat %
            system.producer.headerNslots.toNat = index.toNat ∧
          ∃ publication ∈ system.publications, publication.headerIndex = index ∧
            Holds (slotAfter (system.stores.take moment) region (slotAt index)) publication

/-- The call reaches no slot but that of the sequence number that it is given or allocates. -/
def OwnSlot (producer : Producer) (call : Call) (issue : Issue) : Prop :=
  ∀ region index, index < producer.headerNslots → storesAt issue.stores region (slotAt index) ≠ [] →
    producer.headerRegion.addr = some region ∧
      ∃ seq, call.seq producer = some seq ∧ seq.toNat % producer.headerNslots.toNat = index.toNat

/-- The write goes to the ring of the producer and to the slot of its number. -/
def WellPlaced (producer : Producer) (write : Write) : Prop :=
  producer.headerRegion.addr = some write.region ∧ write.index = ringIndex write.seq producer.headerNslots

theorem written_placed {producer : Producer} {call : Call} {issue : Issue} {write : Write}
    (performed : call.perform producer = some issue) (written : Written producer call issue (some write))
    (placed : placedCall producer call = true) : WellPlaced producer write := by
  have seq := written.seq write rfl
  have slot := written.slot write rfl
  have usual : ∀ number, some number = some write.seq →
      some (ringIndex number producer.headerNslots) = some write.index →
        write.index = ringIndex write.seq producer.headerNslots := by
    intro number given index
    rw [← Option.some.inj given, ← Option.some.inj index]
  refine ⟨written.region write rfl, ?_⟩
  cases call with
  | queue claim =>
      have fixed : producer.fixedPoolMode = true := by
        by_contra dynamic
        rw [Bool.not_eq_true] at dynamic
        have stores := written.stores
        rw [Call.perform, queueClaim, dynamic, if_pos (by decide)] at performed
        cases performed
        rw [Option.toList_some, List.flatMap_singleton] at stores
        exact write.stores_ne_nil stores.symm
      rw [placedCall, fixed, Bool.not_true, Bool.false_or, beq_iff_eq] at placed
      exact usual _ seq (placed ▸ slot)
  | abort claim => cases seq
  | publish outside seq' tensor payload payloadLen poolId timestampNs metaVersion => exact usual _ seq slot
  | offer outside tensor payload payloadLen metadata => exact usual _ seq slot
  | tryClaim length claim => exact usual _ seq slot
  | commit outside claim payload metadata => exact usual _ seq slot

section Run

variable {producer : Producer} {actions : List Action} {system : System}

/-- A well-placed write reaches no slot of the ring but its own one. -/
theorem wellPlaced_own {write : Write} (sized : RingSized producer.headerNslots) (proper : write.Proper)
    (placed : WellPlaced producer write) {region : Nat} {index : UInt32} (inside : index < producer.headerNslots)
    (reached : storesAt write.stores region (slotAt index) ≠ []) :
    write.region = region ∧ write.index = index := by
  rw [storesAt_write proper] at reached
  split at reached
  next here =>
    have own : write.index < producer.headerNslots := by
      rw [placed.2, UInt32.lt_iff_toNat_lt]
      exact ringIndex_lt sized.power _
    exact ⟨here.1, slotAt_inj sized own inside here.2⟩
  · exact absurd rfl reached

theorem call_own {call : Call} {issue : Issue} (sized : RingSized producer.headerNslots)
    (placed : placedCall producer call = true) (performed : call.perform producer = some issue) :
    OwnSlot producer call issue := by
  intro region index inside reached
  obtain ⟨write, written⟩ := perform_written performed
  rw [written.stores] at reached
  cases write with
  | none => exact absurd rfl reached
  | some write =>
      rw [Option.toList_some, List.flatMap_singleton] at reached
      have well := written_placed performed written placed
      obtain ⟨rfl, own⟩ := wellPlaced_own sized (written.proper write rfl) well inside reached
      refine ⟨well.1, write.seq, written.seq write rfl, ?_⟩
      rw [← own, well.2, ringIndex_toNat sized.power]

/-- The writes of a guarded run are well placed in the ring that the producer began with. -/
theorem run_wellPlaced (ran : System.runWhile placedAction { producer := producer } actions = some system) :
    (∃ next, system.producer = { producer with nextSeq := next }) ∧
      ∃ writes, Explained (WellPlaced producer) system writes := by
  have step : ∀ system action after,
      ((∃ next, system.producer = { producer with nextSeq := next }) ∧
        ∃ writes, Explained (WellPlaced producer) system writes) →
      placedAction system action = true → system.step action = some after →
        (∃ next, after.producer = { producer with nextSeq := next }) ∧
          ∃ writes, Explained (WellPlaced producer) after writes := by
    intro system action after ⟨⟨next, same⟩, writes, explained⟩ placed stepped
    refine ⟨?_, explained.step stepped ?_⟩
    · obtain ⟨next', same'⟩ := System.step_producer stepped
      exact ⟨next', by rw [same', same]⟩
    · intro call issue write called performed written
      subst called
      have well := written_placed performed written placed
      rw [same] at well
      exact well
  exact System.runWhile_keeps step ran ⟨⟨producer.nextSeq, rfl⟩, [], Explained.start _ producer⟩

theorem run_placed (sized : RingSized producer.headerNslots)
    (ran : System.runWhile placedAction { producer := producer } actions = some system) :
    Placed system ∧ ∀ call issue, placedCall system.producer call = true →
      call.perform system.producer = some issue → OwnSlot system.producer call issue := by
  obtain ⟨⟨next, same⟩, writes, explained⟩ := run_wellPlaced ran
  have sized' : RingSized system.producer.headerNslots := same ▸ sized
  refine ⟨?_, fun call issue placed performed => call_own sized' placed performed⟩
  intro region attached moment index inside shown
  obtain ⟨publication, payload, present, -, offset, holds⟩ := explained.holds moment shown
  have published : publication ∈ system.publications := explained.publications ▸ mem_publications present
  have well : publication.headerIndex = ringIndex publication.seq system.producer.headerNslots := by
    rw [same]
    exact (explained.allowed _ present).2
  have own : publication.headerIndex = index := by
    refine slotAt_inj sized' ?_ inside offset
    rw [well, UInt32.lt_iff_toNat_lt]
    exact ringIndex_lt sized'.power _
  refine ⟨?_, publication, published, own, holds⟩
  rw [holds.stamp, ← ringIndex_toNat sized'.power, ringIndex_seqValue sized'.power, ← well, own]

end Run

def fixedProducer : Producer := { smallProducer with fixedPoolMode := true }

def blankClaim : BufferClaim := ⟨0, 0, 0, 0, none, 0, smallTensor⟩

/-- The claim of the slot with index 0. -/
def firstClaim : BufferClaim := { blankClaim with poolId := 1, payload := some ⟨2, 64⟩ }

/-- The claim of the slot with index 1. -/
def secondClaim : BufferClaim := { firstClaim with seq := 1, headerIndex := 1, payload := some ⟨2, 128⟩ }

example : (tryClaim fixedProducer 0 blankClaim).map (·.claim) = some (some firstClaim) := by decide +kernel

example : (tryClaim { fixedProducer with nextSeq := 1 } 0 blankClaim).map (·.claim) = some (some secondClaim) := by
  decide +kernel

def commitAll (claim : BufferClaim) : List Action :=
  .call (.commit ⟨7, some 0, 0⟩ claim [] none) :: List.replicate 250 .store

/-- Two claims are committed in the other order, and the first one is queued for number 2 and committed again. -/
def claimsRun : List Action :=
  [.call (.tryClaim 0 blankClaim), .store, .call (.tryClaim 0 blankClaim), .store] ++ commitAll secondClaim ++
    commitAll firstClaim ++ [.call (.queue firstClaim), .store] ++ commitAll { firstClaim with seq := 2 }

theorem run_placed_claims : ∃ system,
    System.runWhile placedAction { producer := fixedProducer } claimsRun = some system ∧
      system.publications.map Publication.seq = [1, 0, 2] ∧ Placed system ∧
        ∀ call issue, placedCall system.producer call = true →
          call.perform system.producer = some issue → OwnSlot system.producer call issue := by
  have shape : (System.runWhile placedAction { producer := fixedProducer } claimsRun).map (fun system =>
      system.publications.map Publication.seq) = some [1, 0, 2] := by decide +kernel
  obtain ⟨system, ran, seqs⟩ := Option.map_eq_some_iff.mp shape
  exact ⟨system, ran, seqs, run_placed ⟨⟨1, rfl⟩, by decide⟩ ran⟩

/-- A claim that is queued right after it was made marks the slot of the number before. -/
theorem queueClaim_misplaces :
    ¬ ∀ (producer : Producer) (actions : List Action) (system : System), RingSized producer.headerNslots →
      producer.headerRegion.addr.isSome = true → System.run { producer := producer } actions = some system →
        Placed system ∧ ∀ call issue, call.perform system.producer = some issue →
          OwnSlot system.producer call issue := by
  intro all
  have shape : (System.run { producer := fixedProducer } [.call (.tryClaim 0 blankClaim), .store]).map
      (·.producer) = some { fixedProducer with nextSeq := 1 } := by decide +kernel
  obtain ⟨system, ran, same⟩ := Option.map_eq_some_iff.mp shape
  obtain ⟨-, own⟩ := all fixedProducer _ system ⟨⟨1, rfl⟩, by decide⟩ rfl ran
  rw [same] at own
  obtain ⟨-, seq, given, remainder⟩ := own (.queue firstClaim) _ rfl 1 0 (by decide) (List.cons_ne_nil _ _)
  cases given
  exact absurd remainder (by decide)

end TensorPool.Client
