/-
This file shows when the sequence number of a slot never goes back.
-/

import TensorPool.Client.Placement
import TensorPool.Library.GuardedRun

namespace TensorPool.Client

open Seqlock

/-- The logical sequence number that a slot shows after some stores. -/
def slotNumber (stores : List Store) (region : Nat) (offset : UInt32) : Nat :=
  (seqValue (slotAfter stores region offset).stamp).toNat

/-- The claims that were made and not yet committed are outstanding, by their sequence numbers. -/
structure Claiming where
  system : System
  outstanding : List UInt64 := []

/-- An application offers, claims, and commits each of its claims at most once. -/
def Call.permitted (outstanding : List UInt64) : Call → Bool
  | .offer _ _ _ _ _ => true
  | .tryClaim _ _ => true
  | .commit _ claim _ _ => outstanding.contains claim.seq
  | _ => false

def Call.outstandingAfter (producer : Producer) (outstanding : List UInt64) : Call → List UInt64
  | .tryClaim length claim =>
      outstanding ++ (((Client.tryClaim producer length claim).bind Issue.claim).map BufferClaim.seq).toList
  | .commit _ claim _ _ => outstanding.erase claim.seq
  | _ => outstanding

/-- A step of the producer, the application or a reader. -/
def Claiming.step (state : Claiming) : Action → Option Claiming
  | .call call =>
      if call.permitted state.outstanding then
        (state.system.step (.call call)).map fun system =>
          ⟨system, call.outstandingAfter state.system.producer state.outstanding⟩
      else
        none
  | action => (state.system.step action).map fun system => { state with system }

/-- A claim is committed while its slot shows no later number, and the numbers stay below 2^63. -/
def Claiming.timely (state : Claiming) : Action → Bool
  | .call (.offer _ _ _ _ _) => state.system.producer.nextSeq.toNat < 2 ^ 63
  | .call (.tryClaim _ _) => state.system.producer.nextSeq.toNat < 2 ^ 63
  | .call (.commit _ claim _ _) =>
      match state.system.producer.headerRegion.addr with
      | none => true
      | some region =>
          slotNumber state.system.stores region (slotAt (ringIndex claim.seq state.system.producer.headerNslots)) ≤
            claim.seq.toNat
  | _ => true

/-- A run from a new attachment. -/
def Claiming.start (producer : Producer) : Claiming := ⟨{ producer := producer }, []⟩

/-- A write to the same slot comes later only with a number that is not smaller. -/
def Write.Before (early late : Write) : Prop :=
  early.region = late.region → slotAt early.index = slotAt late.index → early.seq ≤ late.seq

/--
The number of a slot never goes back, and the stores of a slot, header and payload alike, are those of whole
frames and marks in the order of their numbers.
-/
structure InOrder (system : System) : Prop where
  words : ∀ region offset early late, early ≤ late →
    slotNumber (system.stores.take early) region offset ≤ slotNumber (system.stores.take late) region offset
  frames : ∃ writes, Explained (fun _ => True) system writes ∧ writes.Pairwise Write.Before

section Numbers

/-- The numbers that are stored in one slot, in order. -/
def storedNumbers (stores : List Store) (region : Nat) (offset : UInt32) : List Nat :=
  (stamps (storesAt stores region offset)).map fun word => (seqValue word).toNat

/-- The number of a slot is the last one that was stored. -/
theorem slotNumber_eq (stores : List Store) (region : Nat) (offset : UInt32) :
    slotNumber stores region offset = (storedNumbers stores region offset).getLastD 0 := by
  rw [slotNumber, slotAfter, Cell.after_stamp, storedNumbers, List.getLastD_eq_getLast?, List.getLastD_eq_getLast?,
    List.getLast?_map]
  cases (stamps (storesAt stores region offset)).getLast? <;> rfl

/-- A write stores its number once, or twice when it publishes. -/
def Write.numbers : Write → List Nat
  | .mark _ _ seq => [seq.toNat]
  | .publish publication _ => [publication.seq.toNat, publication.seq.toNat]

/-- A write stores its own number only. -/
theorem Write.numbers_seq {write : Write} {number : Nat} (member : number ∈ write.numbers) :
    number = write.seq.toNat := by
  cases write with
  | mark region index seq => exact List.mem_singleton.mp member
  | publish publication payload =>
      rw [Write.numbers, List.mem_cons, List.mem_singleton] at member
      rcases member with same | same <;> exact same

/-- The stamps of stores are those of both parts. -/
theorem stamps_append {ω β : Type} (first second : List (Seqlock.Store ω β)) :
    stamps (first ++ second) = stamps first ++ stamps second := List.filterMap_append

/-- The stores of a body are no stamps. -/
theorem stamps_bodyStores (offset : Nat) (bytes : List UInt8) : stamps (bodyStores offset bytes) = [] := by
  induction bytes generalizing offset with
  | nil => rfl
  | cons byte rest hypothesis => exact hypothesis _

/-- A small number is read from its stamp in progress. -/
theorem seqValue_inProgress {seq : UInt64} (small : seq.toNat < 2 ^ 63) :
    (seqValue (seqInProgress seq)).toNat = seq.toNat := by
  rw [seqValue_toNat, seqInProgress_toNat]
  omega

/-- The stamps of a write tell its numbers. -/
theorem Write.update_numbers {write : Write} (small : write.seq.toNat < 2 ^ 63) :
    (stamps write.update.stores).map (fun word => (seqValue word).toNat) = write.numbers := by
  cases write with
  | mark region index seq =>
      change seq.toNat < 2 ^ 63 at small
      change [(seqValue (seqInProgress seq)).toNat] = [seq.toNat]
      rw [seqValue_inProgress small]
  | publish publication payload =>
      change publication.seq.toNat < 2 ^ 63 at small
      have stored : stamps (Write.publish publication payload).update.stores =
          [seqInProgress publication.seq, seqCommitted publication.seq] := by
        change seqInProgress publication.seq :: stamps (bodyStores slotStart publication.slotBytes ++
          [Seqlock.Store.stamp (seqCommitted publication.seq)]) = _
        rw [stamps_append, stamps_bodyStores]
        rfl
      rw [stored, List.map_cons, List.map_cons, List.map_nil, seqValue_inProgress small, seqValue_committed small]
      rfl

/-- The numbers of a slot are those of the writes to it. -/
theorem storedNumbers_writes {writes : List Write} (proper : ∀ write ∈ writes, write.Proper)
    (small : ∀ write ∈ writes, write.seq.toNat < 2 ^ 63) (region : Nat) (offset : UInt32) :
    storedNumbers (writes.flatMap Write.stores) region offset =
      (writes.filter fun write => write.At region offset).flatMap Write.numbers := by
  induction writes with
  | nil => rfl
  | cons write rest hypothesis =>
      have later := hypothesis (fun other present => proper other (List.mem_cons_of_mem _ present))
        (fun other present => small other (List.mem_cons_of_mem _ present))
      rw [storedNumbers] at later ⊢
      rw [List.flatMap_cons, storesAt_append, storesAt_write (proper write List.mem_cons_self), stamps_append,
        List.map_append, later]
      by_cases here : write.At region offset
      · rw [if_pos here, List.filter_cons_of_pos (by rwa [decide_eq_true_iff]), List.flatMap_cons,
          Write.update_numbers (small write List.mem_cons_self)]
      · rw [if_neg here, List.filter_cons_of_neg (by rwa [decide_eq_true_iff])]
        rfl

/-- Writes that come in order store their numbers in order. -/
theorem storedNumbers_sorted {writes : List Write} (proper : ∀ write ∈ writes, write.Proper)
    (small : ∀ write ∈ writes, write.seq.toNat < 2 ^ 63) (ordered : writes.Pairwise Write.Before) (region : Nat)
    (offset : UInt32) : (storedNumbers (writes.flatMap Write.stores) region offset).Pairwise (· ≤ ·) := by
  rw [storedNumbers_writes proper small, List.pairwise_flatMap]
  constructor
  · intro write _
    cases write with
    | mark region index seq => exact List.pairwise_singleton _ _
    | publish publication payload => simp [Write.numbers]
  · have inSlot : ∀ write ∈ writes.filter fun write => write.At region offset, write.At region offset := by
      intro write member
      simpa using (List.mem_filter.mp member).2
    refine (ordered.filter _).imp_of_mem fun {early late} earlyIn lateIn before => ?_
    intro first firstIn second secondIn
    rw [Write.numbers_seq firstIn, Write.numbers_seq secondIn]
    have one := inSlot early earlyIn
    have two := inSlot late lateIn
    exact UInt64.le_iff_toNat_le.mp (before (one.1.trans two.1.symm) (one.2.trans two.2.symm))

/-- In a sorted list the last number of a longer part is not smaller. -/
theorem getLastD_mono {past since : List Nat} (sorted : (past ++ since).Pairwise (· ≤ ·)) :
    past.getLastD 0 ≤ (past ++ since).getLastD 0 := by
  rcases List.eq_nil_or_concat since with rfl | ⟨front, last, rfl⟩
  · rw [List.append_nil]
  · rcases List.eq_nil_or_concat past with rfl | ⟨before, shown, rfl⟩
    · exact Nat.zero_le _
    · have apart := (List.pairwise_append.mp sorted).2.2
      rw [List.concat_eq_append, List.concat_eq_append, ← List.append_assoc, List.getLastD_concat,
        List.getLastD_concat]
      exact apart shown (by simp) last (by simp)

end Numbers

section Calls

variable {producer : Producer} {issue : Issue}

/-- An offer takes the next number, or it does nothing at all. -/
theorem offerFrame_next {outside : Outside} {tensor : TensorHeader} {payload : Option (List UInt8)}
    {payloadLen : UInt32} {metadata : Option FrameMetadata}
    (issued : offerFrame producer outside tensor payload payloadLen metadata = some issue) :
    issue.producer.nextSeq = producer.nextSeq + 1 ∨ issue.producer = producer ∧ issue.stores = [] := by
  unfold offerFrame at issued
  split at issued
  · cases issued
    exact .inr ⟨rfl, rfl⟩
  · dsimp only at issued
    split at issued
    · cases issued
      exact .inr ⟨rfl, rfl⟩
    · split at issued
      · cases issued
      · cases issued
        exact .inr ⟨rfl, rfl⟩
      · unfold PublishResult.issue at issued
        split at issued <;> cases issued <;> exact .inl rfl

/-- A claim takes the next number, or it does nothing at all. -/
theorem tryClaim_next {length : UInt64} {claim : BufferClaim} (issued : tryClaim producer length claim = some issue) :
    (issue.producer.nextSeq = producer.nextSeq + 1 ∧ ∀ made ∈ issue.claim, made.seq = producer.nextSeq) ∨
      issue.producer = producer ∧ issue.stores = [] ∧ issue.claim = none := by
  unfold tryClaim at issued
  split at issued
  · cases issued
    exact .inr ⟨rfl, rfl, rfl⟩
  · split at issued
    · cases issued
      exact .inr ⟨rfl, rfl, rfl⟩
    · split at issued
      · cases issued
      · cases issued
        exact .inr ⟨rfl, rfl, rfl⟩
      · dsimp only at issued
        split at issued
        · cases issued
        · cases issued
          refine .inl ⟨rfl, fun made given => ?_⟩
          cases given
          rfl

/-- A commit takes no number. -/
theorem commitClaim_next {outside : Outside} {claim : BufferClaim} {payload : List UInt8}
    {metadata : Option FrameMetadata} (issued : commitClaim producer outside claim payload metadata = some issue) :
    issue.producer = producer := by
  unfold commitClaim at issued
  dsimp only at issued
  split at issued
  · cases issued
    rfl
  · obtain ⟨inner, published, rfl⟩ := Option.map_eq_some_iff.mp issued
    unfold PublishResult.issue at published
    split at published <;> cases published <;> rfl

end Calls

/-- The writes so far are in order and below the next number, as are the outstanding claims. -/
structure Orderly (state : Claiming) (writes : List Write) : Prop where
  explained : Explained (fun write => write.seq.toNat < 2 ^ 63) state.system writes
  below : ∀ write ∈ writes, write.seq.toNat < state.system.producer.nextSeq.toNat
  ordered : writes.Pairwise Write.Before
  outstanding : ∀ seq ∈ state.outstanding, seq.toNat < 2 ^ 63 ∧ seq.toNat < state.system.producer.nextSeq.toNat

namespace Orderly

variable {state after : Claiming} {writes : List Write}

/-- A new producer is orderly. -/
theorem start (producer : Producer) : Orderly (Claiming.start producer) [] where
  explained := Explained.start _ producer
  below := fun _ absent => absurd absent List.not_mem_nil
  ordered := List.Pairwise.nil
  outstanding := fun _ absent => absurd absent List.not_mem_nil

/-- A slot shows a number that is not below that of any write to it. -/
theorem shown (orderly : Orderly state writes) (idle : state.system.pending = []) {write : Write}
    (member : write ∈ writes) : write.seq.toNat ≤ slotNumber state.system.stores write.region
      (slotAt write.index) := by
  have stores := orderly.explained.stores
  rw [idle, List.append_nil] at stores
  have numbers := storedNumbers_writes orderly.explained.proper orderly.explained.allowed write.region
    (slotAt write.index)
  have sorted := storedNumbers_sorted orderly.explained.proper orderly.explained.allowed orderly.ordered write.region
    (slotAt write.index)
  rw [← stores] at numbers sorted
  have stored : write.seq.toNat ∈ storedNumbers state.system.stores write.region (slotAt write.index) := by
    rw [numbers, List.mem_flatMap]
    refine ⟨write, List.mem_filter.mpr ⟨member, ?_⟩, ?_⟩
    · rw [decide_eq_true_iff]
      exact ⟨rfl, rfl⟩
    · cases write <;> exact List.mem_cons_self
  rw [slotNumber_eq]
  obtain ⟨past, since, split⟩ := List.append_of_mem stored
  rw [split] at sorted ⊢
  have rises := @getLastD_mono (past ++ [write.seq.toNat]) since (by simpa using sorted)
  simpa using rises

/-- A state whose writes are in order has its slots in order. -/
theorem inOrder (orderly : Orderly state writes) : InOrder state.system where
  words := by
    intro region offset early late before
    have sorted := storedNumbers_sorted orderly.explained.proper orderly.explained.allowed orderly.ordered region offset
    obtain ⟨rest, same⟩ := List.take_prefix_take_left (l := state.system.stores) before
    rw [← orderly.explained.stores, ← List.take_append_drop late state.system.stores, ← same] at sorted
    simp only [storedNumbers, storesAt_append, stamps_append, List.map_append] at sorted
    rw [slotNumber_eq, slotNumber_eq, ← same]
    simp only [storedNumbers, storesAt_append, stamps_append, List.map_append]
    exact getLastD_mono (List.pairwise_append.mp (List.pairwise_append.mp sorted).1).1
  frames := ⟨writes, ⟨orderly.explained.stores, orderly.explained.publications, orderly.explained.proper,
    fun _ _ => trivial⟩, orderly.ordered⟩

/-- A call whose write is not below the writes to its slot keeps the order. -/
theorem called (orderly : Orderly state writes) {call : Call} {issue : Issue} {outstanding : List UInt64}
    (idle : state.system.pending = []) (performed : call.perform state.system.producer = some issue)
    (grown : state.system.producer.nextSeq.toNat ≤ issue.producer.nextSeq.toNat)
    (placed : ∀ write, Written state.system.producer call issue (some write) → write.seq.toNat < 2 ^ 63 ∧
      write.seq.toNat < issue.producer.nextSeq.toNat ∧ ∀ early ∈ writes, early.Before write)
    (kept : ∀ seq ∈ outstanding, seq.toNat < 2 ^ 63 ∧ seq.toNat < issue.producer.nextSeq.toNat) :
    ∃ writes', Orderly
      ⟨{ state.system with
        producer := issue.producer, pending := issue.stores
        publications := state.system.publications ++ issue.publications }, outstanding⟩ writes' := by
  obtain ⟨write, written⟩ := perform_written performed
  refine ⟨writes ++ write.toList, ?_, ?_, ?_, kept⟩
  · refine orderly.explained.called idle written fun other present => ?_
    cases present
    exact (placed other written).1
  · intro other present
    rcases List.mem_append.mp present with early | late
    · exact Nat.lt_of_lt_of_le (orderly.below other early) grown
    · cases Option.mem_toList.mp late
      exact (placed other written).2.1
  · rw [List.pairwise_append]
    refine ⟨orderly.ordered, ?_, ?_⟩
    · cases write with
      | none => exact List.Pairwise.nil
      | some write => exact List.pairwise_singleton _ _
    · intro early earlyIn late lateIn
      cases Option.mem_toList.mp lateIn
      exact (placed late written).2.2 early earlyIn

/-- The next number is above every write so far. -/
theorem next (orderly : Orderly state writes) {write : Write} (seq : write.seq = state.system.producer.nextSeq) :
    ∀ early ∈ writes, early.Before write := by
  intro early member _ _
  rw [seq, UInt64.le_iff_toNat_le]
  exact Nat.le_of_lt (orderly.below early member)

theorem succ_toNat {number : UInt64} (small : number.toNat < 2 ^ 63) : (number + 1).toNat = number.toNat + 1 := by
  rw [UInt64.toNat_add, UInt64.toNat_one]
  omega

/-- A permitted call that comes in time keeps the order. -/
theorem permits (orderly : Orderly state writes) {call : Call} {issue : Issue}
    (permitted : call.permitted state.outstanding = true) (timely : state.timely (.call call) = true)
    (idle : state.system.pending = []) (performed : call.perform state.system.producer = some issue) :
    ∃ writes', Orderly
      ⟨{ state.system with
        producer := issue.producer, pending := issue.stores
        publications := state.system.publications ++ issue.publications },
        call.outstandingAfter state.system.producer state.outstanding⟩ writes' := by
  have silent (stores : issue.stores = []) (write : Write)
      (written : Written state.system.producer call issue (some write)) : False := by
    have made := written.stores
    rw [stores, Option.toList_some, List.flatMap_singleton] at made
    exact write.stores_ne_nil made.symm
  cases call with
  | publish outside seq tensor payload payloadLen poolId timestampNs metaVersion => cases permitted
  | abort claim => cases permitted
  | queue claim => cases permitted
  | offer outside tensor payload payloadLen metadata =>
      have small : state.system.producer.nextSeq.toNat < 2 ^ 63 := of_decide_eq_true timely
      rcases offerFrame_next performed with taken | ⟨same, stores⟩
      · have grown : state.system.producer.nextSeq.toNat < issue.producer.nextSeq.toNat := by
          rw [taken, succ_toNat small]
          exact Nat.lt_succ_self _
        refine orderly.called idle performed (Nat.le_of_lt grown) (fun write written => ?_) fun seq member => ?_
        · have seq : write.seq = state.system.producer.nextSeq := (Option.some.inj (written.seq write rfl)).symm
          exact ⟨seq ▸ small, seq ▸ grown, orderly.next seq⟩
        · obtain ⟨below, before⟩ := orderly.outstanding seq member
          exact ⟨below, Nat.lt_trans before grown⟩
      · refine orderly.called idle performed (by rw [same]) (fun write written => (silent stores write written).elim)
          fun seq member => ?_
        rw [same]
        exact orderly.outstanding seq member
  | tryClaim length claim =>
      have small : state.system.producer.nextSeq.toNat < 2 ^ 63 := of_decide_eq_true timely
      have made : Client.tryClaim state.system.producer length claim = some issue := performed
      rcases tryClaim_next performed with ⟨taken, claimed⟩ | ⟨same, stores, unclaimed⟩
      · have grown : state.system.producer.nextSeq.toNat < issue.producer.nextSeq.toNat := by
          rw [taken, succ_toNat small]
          exact Nat.lt_succ_self _
        refine orderly.called idle performed (Nat.le_of_lt grown) (fun write written => ?_) fun seq member => ?_
        · have seq : write.seq = state.system.producer.nextSeq := (Option.some.inj (written.seq write rfl)).symm
          exact ⟨seq ▸ small, seq ▸ grown, orderly.next seq⟩
        · rw [Call.outstandingAfter, made, Option.bind_some, List.mem_append] at member
          rcases member with old | new
          · obtain ⟨below, before⟩ := orderly.outstanding seq old
            exact ⟨below, Nat.lt_trans before grown⟩
          · obtain ⟨issued, given, rfl⟩ := Option.map_eq_some_iff.mp (Option.mem_toList.mp new)
            rw [claimed issued given]
            exact ⟨small, grown⟩
      · refine orderly.called idle performed (by rw [same]) (fun write written => (silent stores write written).elim)
          fun seq member => ?_
        rw [Call.outstandingAfter, made, Option.bind_some, unclaimed] at member
        rw [same]
        exact orderly.outstanding seq (by simpa using member)
  | commit outside claim payload metadata =>
      have same := commitClaim_next performed
      have mine : claim.seq ∈ state.outstanding := List.contains_iff_mem.mp permitted
      refine orderly.called idle performed (by rw [same]) (fun write written => ?_) fun seq member => ?_
      · have seq : write.seq = claim.seq := (Option.some.inj (written.seq write rfl)).symm
        have slot : write.index = ringIndex claim.seq state.system.producer.headerNslots :=
          (Option.some.inj (written.slot write rfl)).symm
        have region := written.region write rfl
        obtain ⟨small, below⟩ := orderly.outstanding claim.seq mine
        refine ⟨seq ▸ small, ?_, fun early member sameRegion sameSlot => ?_⟩
        · rw [seq, same]
          exact below
        · rw [Claiming.timely, region] at timely
          have shown := orderly.shown idle member
          rw [sameRegion, sameSlot, slot] at shown
          rw [seq, UInt64.le_iff_toNat_le]
          exact Nat.le_trans shown (of_decide_eq_true timely)
      · rw [same]
        exact orderly.outstanding seq (List.mem_of_mem_erase member)

/-- Only a call changes the producer. -/
theorem step_elsewhere {system system' : System} {action : Action} (stepped : system.step action = some system')
    (other : ∀ call, action ≠ .call call) : system'.producer = system.producer := by
  cases action with
  | call call => exact absurd rfl (other call)
  | store =>
      rw [System.step] at stepped
      split at stepped <;> cases stepped
      rfl
  | read index consumer seq =>
      rw [System.step] at stepped
      split at stepped <;> cases stepped <;> rfl
  | load index =>
      obtain ⟨reader, -, rfl⟩ := Option.map_eq_some_iff.mp stepped
      exact (system.load_same index reader).1

/-- A timely step keeps the producer orderly. -/
theorem step (orderly : Orderly state writes) {action : Action} (timely : state.timely action = true)
    (stepped : state.step action = some after) : ∃ writes', Orderly after writes' := by
  have elsewhere : (∀ call, action ≠ .call call) →
      (state.system.step action).map (fun system => { state with system }) = some after →
        ∃ writes', Orderly after writes' := by
    intro other moved
    obtain ⟨system, next, rfl⟩ := Option.map_eq_some_iff.mp moved
    have producer := step_elsewhere next other
    refine ⟨writes, orderly.explained.moved next other, ?_, orderly.ordered, ?_⟩
    · rw [producer]
      exact orderly.below
    · rw [producer]
      exact orderly.outstanding
  cases action with
  | store => exact elsewhere (fun _ => nofun) stepped
  | read index consumer seq => exact elsewhere (fun _ => nofun) stepped
  | load index => exact elsewhere (fun _ => nofun) stepped
  | call call =>
      rw [Claiming.step] at stepped
      split at stepped
      next permitted =>
        obtain ⟨system, moved, rfl⟩ := Option.map_eq_some_iff.mp stepped
        rw [System.step] at moved
        split at moved
        next issue idle performed =>
          cases moved
          exact orderly.permits permitted timely idle performed
        · cases moved
      · cases stepped

end Orderly

/-- A run goes on while each of its claims is committed in time. -/
def Claiming.runTimely (producer : Producer) (actions : List Action) : Option Claiming :=
  GuardedRun.runWhile Claiming.timely Claiming.step (Claiming.start producer) actions

/-- In a run whose claims are committed in time, the sequence number of a slot never goes back. -/
theorem run_inOrder {producer : Producer} {actions : List Action} {state : Claiming}
    (ran : Claiming.runTimely producer actions = some state) : InOrder state.system := by
  have kept : ∃ writes, Orderly state writes := by
    apply GuardedRun.keeps (I := fun state => ∃ writes, Orderly state writes) _ ran ⟨[], Orderly.start producer⟩
    intro before action after ⟨writes, orderly⟩ timely stepped
    exact orderly.step timely stepped
  obtain ⟨writes, orderly⟩ := kept
  exact orderly.inOrder

/-- Two claims are committed in the other order, and an offer follows in the slot of the first one. -/
def claimAndCommit : List Action :=
  [.call (.tryClaim 0 blankClaim), .store, .call (.tryClaim 0 blankClaim), .store] ++ commitAll secondClaim ++
    commitAll firstClaim ++ [.call smallOffer] ++ List.replicate 250 .store

theorem run_inOrder_small : ∃ state, Claiming.runTimely smallProducer claimAndCommit = some state ∧
    InOrder state.system := by
  have runs : (Claiming.runTimely smallProducer claimAndCommit).isSome = true := by decide +kernel
  obtain ⟨state, ran⟩ := Option.isSome_iff_exists.mp runs
  exact ⟨state, ran, run_inOrder ran⟩

/-- A ring of one slot, where the next number takes the slot of an outstanding claim. -/
def oneSlotProducer : Producer := { smallProducer with headerNslots := 1 }

/-- A claim is committed after an offer has gone round the ring. -/
def lateCommit : List Action :=
  [.call (.tryClaim 0 blankClaim), .store, .call smallOffer] ++ List.replicate 250 .store ++
    [.call (.commit ⟨7, some 0, 0⟩ firstClaim [] none), .store]

theorem lateCommit_goes_back : ∃ state,
    GuardedRun.run Claiming.step (Claiming.start oneSlotProducer) lateCommit = some state ∧
      ¬ InOrder state.system := by
  have shape : (GuardedRun.run Claiming.step (Claiming.start oneSlotProducer) lateCommit).map (fun state =>
      (slotNumber (state.system.stores.take 251) 1 0, slotNumber (state.system.stores.take 252) 1 0)) =
        some (1, 0) := by decide +kernel
  obtain ⟨state, ran, numbers⟩ := Option.map_eq_some_iff.mp shape
  refine ⟨state, ran, fun ordered => ?_⟩
  obtain ⟨first, second⟩ := Prod.mk.inj numbers
  have back := ordered.words 1 0 251 252 (by decide)
  rw [first, second] at back
  exact absurd back (by decide)

end TensorPool.Client
