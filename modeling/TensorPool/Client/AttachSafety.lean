/-
This file shows when a failed attach leaves a client whose fields fit together.
-/

import TensorPool.Client.Announced
import TensorPool.Client.Revocation

namespace TensorPool.Client

open Shm (Machine Superblock)

/-- The fields that later calls index by; a consumer has no table of trace links, so its table is as long as its
ring. -/
structure Held where
  headerRegion : Region
  pools : List Pool
  poolCount : Nat
  headerNslots : UInt32
  tableLength : Nat
  epoch : UInt64
  mapped : Bool

namespace Held

def regions (held : Held) : List Region := held.headerRegion :: (held.pools.take held.poolCount).map Pool.region

/-- The client holds no region. -/
structure Bare (held : Held) : Prop where
  headerRegion : held.headerRegion = {}
  pools : held.pools = []
  poolCount : held.poolCount = 0
  headerNslots : held.headerNslots = 0
  mapped : held.mapped = false

/-- The fields fit together, and the mapped regions have room for their slots and belong to the recorded epoch. -/
structure Sound (held : Held) (epochs : List (Option UInt64)) : Prop where
  count : held.poolCount = 0 ∨ held.poolCount = held.pools.length
  slots : held.headerNslots = 0 ∨ isPowerOfTwo held.headerNslots = true ∧
    superblockSizeBytes + 256 * held.headerNslots.toNat ≤ held.headerRegion.length ∧
      held.headerNslots.toNat ≤ held.tableLength
  addresses : held.mapped = true → ∀ region ∈ held.regions, region.addr.isSome = true
  room : held.mapped = true → ∀ pool ∈ held.pools.take held.poolCount,
    superblockSizeBytes + held.headerNslots.toNat * pool.strideBytes.toNat ≤ pool.region.length
  epochs : held.mapped = true → ∀ epoch ∈ epochs, epoch = some held.epoch
  bare : held.mapped = false → held.Bare

end Held

def AttachedConsumer.held (consumer : AttachedConsumer) : Held :=
  ⟨consumer.headerRegion, consumer.pools, consumer.poolCount, consumer.headerNslots, consumer.headerNslots.toNat,
    consumer.epoch, consumer.shmMapped⟩

def AttachedProducer.held (producer : AttachedProducer) : Held :=
  ⟨producer.headerRegion, producer.pools, producer.poolCount, producer.headerNslots,
    producer.tracelinkEntryCount.toNat, producer.epoch, producer.headerRegion.addr.isSome⟩

namespace Session

def held : Session → Held
  | .producer session => session.toAttachedProducer.held
  | .consumer session => session.toAttachedConsumer.held

def attachConfig (around : Around) (config : AttachConfig) : Session → Option (Int × Session)
  | .producer session => (session.attachConfig around.machine around.allocations config).map fun (code, after) =>
      (code, .producer after)
  | .consumer session => (session.attachConfig around config).map fun (code, after) => (code, .consumer after)

/-- Only consumers hear announces. -/
def applyAnnounce (around : Around) (announce : PoolAnnounceView) : Session → Option (Int × Session)
  | .producer _ => none
  | .consumer session => (session.applyAnnounce around announce).map fun (code, after) => (code, .consumer after)

def unmapRegions : Session → Option Session
  | .producer session => (producerUnmapRegions session.toAttachedProducer).map fun producer =>
      .producer { session with toAttachedProducer := producer }
  | .consumer session => session.unmapRegions.map .consumer

end Session

/-- A client with the epochs in the superblocks that it mapped, and what its failed attaches found and left. -/
structure Holding where
  session : Session
  epochs : List (Option UInt64) := []
  failures : List (Held × Held) := []

inductive HoldingAction where
  | attachConfig (around : Around) (config : AttachConfig)
  | applyAnnounce (around : Around) (announce : PoolAnnounceView)
  | leaseRevoked (revoked : LeaseRevoked) (around : Around)
  | unmapRegions

namespace Holding

/-- An attach ends. -/
def attached (holding : Holding) (machine : Machine) (code : Int) (after : Session) : Holding where
  session := after
  epochs := if code < 0 then holding.epochs
    else after.held.regions.map fun region => (blockOf machine region).map Superblock.epoch
  failures := if code < 0 then (holding.session.held, after.held) :: holding.failures else holding.failures

def step (holding : Holding) : HoldingAction → Option Holding
  | .attachConfig around config =>
      (holding.session.attachConfig around config).map fun result => holding.attached around.machine result.1 result.2
  | .applyAnnounce around announce =>
      (holding.session.applyAnnounce around announce).map fun result =>
        holding.attached around.machine result.1 result.2
  | .leaseRevoked revoked around =>
      (holding.session.onLeaseRevoked revoked around).map fun session => { holding with session }
  | .unmapRegions => holding.session.unmapRegions.map fun session => { holding with session }

end Holding

/-- The files have room for the slots, and the superblocks have the null epoch where the configuration has it. -/
def filesFit (machine : Machine) (writable : Bool) (config : AttachConfig) : Bool :=
  (machine.fileSize config.headerUri writable).all (headerBytesNeeded config ≤ ·) &&
    (config.pools.all fun pool => (machine.fileSize pool.uri writable).all
      (poolBytesNeeded config pool.strideBytes ≤ ·)) &&
        (config.epoch != Shm.nullU64 || (config.headerUri :: config.pools.map PoolConfig.uri).all fun uri =>
        (machine.superblock uri writable).all (·.epoch == Shm.nullU64))

/-- The attach of a consumer does not leave through an exit without cleanup, nor through a cleanup of too many
pools. -/
def Held.consumerCareful (held : Held) (around : Around) (config : AttachConfig) : Bool :=
  if config.layoutVersion != Shm.layoutVersion then held.pools.isEmpty || config.pools.length ≤ held.pools.length
  else if !isPowerOfTwo config.headerNslots then config.headerNslots == 0 && config.pools.isEmpty && !held.mapped
  else if config.pools.length > 0 && !around.allocations.pools then !held.mapped
  else
    match attachRegions around.machine false "tp_consumer_attach" config with
    | .error _ => true
    | .ok _ => filesFit around.machine false config

/-- The attach of a producer succeeds, or it has no slots and no pools to leave behind. -/
def Held.producerCareful (held : Held) (around : Around) (config : AttachConfig) : Bool :=
  if config.layoutVersion != Shm.layoutVersion then config.headerNslots == 0 && config.pools.isEmpty
  else if !isPowerOfTwo config.headerNslots then config.headerNslots == 0 && config.pools.isEmpty && !held.mapped
  else
    around.allocations.tracelinkEntries && (config.pools.isEmpty || around.allocations.pools) &&
      match attachRegions around.machine true "tp_producer_attach_config" config with
      | .error _ => false
      | .ok _ => around.allocations.shmUris && filesFit around.machine true config

/-- An announce attaches only after it has unmapped. -/
def Held.empty : Held := ⟨{}, [], 0, 0, 0, 0, false⟩

namespace Session

def careful (around : Around) (config : AttachConfig) : Session → Bool
  | .producer session => (Session.producer session).held.producerCareful around config
  | .consumer session => (Session.consumer session).held.consumerCareful around config

/-- Later calls touch only what exists. -/
structure Usable (session : Session) : Prop where
  unmaps : ∃ after, session.unmapRegions = some after
  attaches : ∀ around config, session.careful around config = true →
    ∃ result, session.attachConfig around config = some result
  publishes : ∀ producer, session = .producer producer →
    ∀ outside seq tensor payload payloadLen poolId timestampNs metaVersion,
      publishFrame producer.toProducer outside seq tensor payload payloadLen poolId timestampNs metaVersion ≠ .fault
  reads : ∀ consumer, session = .consumer consumer → ∀ seq, readFrame consumer.toConsumer seq ≠ .done .fault ∧
    ∀ region offset reading, readFrame consumer.toConsumer seq = .loads region offset reading →
      ¬ reading.Returns .fault

end Session

namespace Holding

/-- Each attach meets the condition of its client. -/
def careful (holding : Holding) : HoldingAction → Bool
  | .attachConfig around config => holding.session.careful around config
  | .applyAnnounce around announce =>
      match ConsumerSession.announceConfig around.copies announce with
      | .error _ => true
      | .ok config => Held.empty.consumerCareful around config
  | .leaseRevoked _ _ => true
  | .unmapRegions => true

/-- The fields fit together, a failed attach changed nothing or left nothing, and later calls touch only what
exists. -/
structure Safe (holding : Holding) : Prop where
  sound : holding.session.held.Sound holding.epochs
  failures : ∀ failure ∈ holding.failures, failure.2 = failure.1 ∨ failure.2.Bare
  usable : holding.session.Usable

end Holding

/-- A client that holds nothing is sound. -/
theorem Held.Bare.sound {held : Held} (bare : held.Bare) (epochs : List (Option UInt64)) : held.Sound epochs where
  count := .inl bare.poolCount
  slots := .inl bare.headerNslots
  addresses := fun mapped => absurd (bare.mapped.symm.trans mapped) Bool.false_ne_true
  room := fun mapped => absurd (bare.mapped.symm.trans mapped) Bool.false_ne_true
  epochs := fun mapped => absurd (bare.mapped.symm.trans mapped) Bool.false_ne_true
  bare := fun _ => bare

section Attach

variable {machine : Machine} {config : AttachConfig} {writable : Bool} {caller : String} {header : Region}
  {pools : List Pool} {held : Held}

theorem filesFit_holds (fits : filesFit machine writable config = true) : FilesHoldSlots machine writable config := by
  simp only [filesFit, Bool.and_eq_true, List.all_eq_true] at fits
  obtain ⟨⟨header, pools⟩, -⟩ := fits
  constructor
  · intro size measured
    rw [measured] at header
    exact of_decide_eq_true header
  · intro pool member size measured
    have room := pools pool member
    rw [measured] at room
    exact of_decide_eq_true room

/-- Regions that were mapped and validated, in files with room, are sound under the fields of their configuration. -/
theorem sound_of_regions (power : isPowerOfTwo config.headerNslots = true)
    (attached : attachRegions machine writable caller config = .ok (header, pools))
    (fits : filesFit machine writable config = true) (nslots : held.headerNslots = config.headerNslots)
    (table : held.headerNslots.toNat ≤ held.tableLength) (epoch : held.epoch = config.epoch)
    (region : held.headerRegion = header) (count : held.poolCount = 0 ∨ held.poolCount = held.pools.length)
    (listed : held.pools.take held.poolCount = pools) (mapped : held.mapped = true) :
    held.Sound (held.regions.map fun region => (blockOf machine region).map Superblock.epoch) := by
  have holds := filesFit_holds fits
  obtain ⟨first, rest⟩ := attachRegions_ok attached
  have shown := attachRegions_epoch attached
  have same : held.regions = header :: pools.map Pool.region := by rw [Held.regions, region, listed]
  constructor
  · exact count
  · rw [nslots, region] at *
    exact .inr ⟨power, holds.header _ first.size, table⟩
  · intro _ found member
    rw [same] at member
    obtain ⟨-, -, block, known, -⟩ := shown found member
    rw [blockOf, Option.map_eq_some_iff] at known
    obtain ⟨object, addr, -⟩ := known
    rw [addr, Option.isSome_some]
  · intro _ pool member
    rw [listed] at member
    obtain ⟨configured, inside, validated⟩ := forall₂_right rest member
    rw [nslots, validated.same.2]
    exact holds.pools configured inside _ validated.region.size
  · intro _ number member
    rw [same] at member
    obtain ⟨found, inside, rfl⟩ := List.mem_map.mp member
    obtain ⟨uri, named, block, known, file, checked⟩ := shown found inside
    rw [known, Option.map_some, epoch]
    by_cases null : config.epoch = Shm.nullU64
    · simp only [filesFit, Bool.and_eq_true, Bool.or_eq_true, bne_iff_ne, List.all_eq_true] at fits
      have nulls := fits.2.resolve_left (not_not.mpr null) uri named
      rw [file] at nulls
      rw [null]
      exact congrArg some (beq_iff_eq.mp nulls)
    · rw [checked null]
  · intro unmapped
    exact absurd (unmapped.symm.trans mapped) Bool.false_ne_true

/-- The count is the length of the attached pools, also when there are none. -/
theorem attached_count (attached : attachRegions machine writable caller config = .ok (header, pools))
    (kept : List Pool) :
    config.pools.length = 0 ∨ config.pools.length = (if config.pools.length > 0 then pools else kept).length := by
  by_cases some : config.pools.length > 0
  · rw [if_pos some]
    exact .inr (attachRegions_ok attached).2.length_eq
  · exact .inl (Nat.eq_zero_of_not_pos some)

/-- An attach ends with nothing, or with success and regions that are sound. -/
def Ends (machine : Machine) (held : Held) (code : Int) : Prop :=
  held.Bare ∨ code = 0 ∧ held.Sound (held.regions.map fun region => (blockOf machine region).map Superblock.epoch)

/-- A cleanup that touches no pool above the attached ones leaves nothing. -/
theorem consumerAttachCleanup_bare {consumer : AttachedConsumer} (text : String)
    (tidy : consumer.pools = [] ∨ consumer.poolCount ≤ consumer.pools.length) :
    ∃ outcome, consumerAttachCleanup consumer text = some outcome ∧ outcome.client.held.Bare := by
  have kept : ¬ (!consumer.pools.isEmpty && !unmapsPools consumer.pools consumer.poolCount) = true := by
    simpa [unmapsPools, imp_iff_not_or] using tidy
  unfold consumerAttachCleanup
  rw [if_neg kept]
  dsimp only
  split
  · exact ⟨_, rfl, rfl, rfl, rfl, rfl, rfl⟩
  · exact ⟨_, rfl, rfl, rfl, rfl, rfl, rfl⟩

/-- A careful attach of a consumer ends, with nothing or with sound regions. -/
theorem consumerAttachConfig_careful {consumer : AttachedConsumer} {around : Around}
    (bare : consumer.held.mapped = false → consumer.held.Bare)
    (careful : consumer.held.consumerCareful around config = true) :
    ∃ outcome, consumerAttachConfig around.machine around.allocations config consumer = some outcome ∧
      Ends around.machine outcome.client.held outcome.code := by
  unfold Held.consumerCareful at careful
  unfold consumerAttachConfig
  dsimp only
  by_cases layout : (config.layoutVersion != Shm.layoutVersion) = true
  · rw [if_pos layout] at careful ⊢
    rw [Bool.or_eq_true, List.isEmpty_iff, decide_eq_true_eq] at careful
    obtain ⟨outcome, cleaned, left⟩ := @consumerAttachCleanup_bare
      { consumer with
        streamId := config.streamId, epoch := config.epoch, layoutVersion := config.layoutVersion
        headerNslots := config.headerNslots, poolCount := config.pools.length }
      "tp_consumer_attach: unsupported layout version" careful
    exact ⟨outcome, cleaned, .inl left⟩
  rw [if_neg layout] at careful ⊢
  by_cases power : isPowerOfTwo config.headerNslots = true
  · rw [power, Bool.not_true, if_neg Bool.false_ne_true] at careful ⊢
    by_cases unallocated : (decide (config.pools.length > 0) && !around.allocations.pools) = true
    · rw [if_pos unallocated] at careful ⊢
      rw [Bool.not_eq_true'] at careful
      exact ⟨_, rfl, .inl ⟨(bare careful).headerRegion, rfl, rfl, rfl, careful⟩⟩
    · rw [if_neg unallocated] at careful ⊢
      cases attached : attachRegions around.machine false "tp_consumer_attach" config with
      | error text =>
          have tidy : (if config.pools.length > 0 then List.replicate config.pools.length {}
            else consumer.pools) = [] ∨
              config.pools.length ≤
                (if config.pools.length > 0 then List.replicate config.pools.length {}
                  else consumer.pools).length := by
            split
            · rw [List.length_replicate]
              exact .inr (Nat.le_refl _)
            · exact .inr (by omega)
          obtain ⟨outcome, cleaned, left⟩ := @consumerAttachCleanup_bare
            { consumer with
              streamId := config.streamId, epoch := config.epoch, layoutVersion := config.layoutVersion
              headerNslots := config.headerNslots, poolCount := config.pools.length
              pools := if config.pools.length > 0 then List.replicate config.pools.length {}
                else consumer.pools } text tidy
          exact ⟨outcome, cleaned, .inl left⟩
      | ok regions =>
          obtain ⟨header, pools⟩ := regions
          rw [attached] at careful
          refine ⟨_, rfl, .inr ⟨rfl, ?_⟩⟩
          apply sound_of_regions power attached careful
          · rfl
          · exact Nat.le_refl _
          · rfl
          · rfl
          · exact attached_count attached _
          · exact takeAttached (attachRegions_ok attached).2
          · rfl
  · rw [Bool.not_eq_true _ |>.mp power, Bool.not_false, if_pos rfl] at careful ⊢
    rw [Bool.and_eq_true, Bool.and_eq_true, beq_iff_eq, List.isEmpty_iff, Bool.not_eq_true'] at careful
    obtain ⟨⟨zero, none⟩, unmapped⟩ := careful
    have before := bare unmapped
    exact ⟨_, rfl, .inl ⟨before.headerRegion, before.pools, congrArg List.length none, zero, unmapped⟩⟩

/-- A careful attach of a producer ends, with nothing or with sound regions. -/
theorem producerAttachConfig_careful {producer : AttachedProducer} {around : Around} (producerId : UInt32)
    (bare : producer.held.mapped = false → producer.held.Bare)
    (careful : producer.held.producerCareful around config = true) :
    ∃ outcome, producerAttachConfig around.machine around.allocations producerId config producer = some outcome ∧
      Ends around.machine outcome.client.held outcome.code := by
  unfold Held.producerCareful at careful
  unfold producerAttachConfig
  dsimp only
  by_cases layout : (config.layoutVersion != Shm.layoutVersion) = true
  · rw [if_pos layout] at careful ⊢
    rw [Bool.and_eq_true, beq_iff_eq, List.isEmpty_iff] at careful
    obtain ⟨zero, none⟩ := careful
    have count : config.pools.length = 0 := congrArg List.length none
    have tidy : ¬ (!unmapsPools producer.pools config.pools.length) = true := by
      simp [unmapsPools, count]
    unfold producerAttachCleanup
    dsimp only
    rw [if_neg tidy]
    exact ⟨_, rfl, .inl ⟨rfl, rfl, count, zero, rfl⟩⟩
  rw [if_neg layout] at careful ⊢
  by_cases power : isPowerOfTwo config.headerNslots = true
  · rw [power, Bool.not_true, if_neg Bool.false_ne_true] at careful ⊢
    rw [Bool.and_eq_true, Bool.and_eq_true] at careful
    obtain ⟨⟨entries, allocated⟩, careful⟩ := careful
    have some : ¬ (decide (config.pools.length > 0) && !around.allocations.pools) = true := by
      rw [Bool.or_eq_true, List.isEmpty_iff] at allocated
      obtain none | allocated := allocated
      · rw [none]
        exact Bool.false_ne_true
      · rw [allocated, Bool.not_true, Bool.and_false]
        exact Bool.false_ne_true
    rw [entries, Bool.not_true, if_neg Bool.false_ne_true, if_neg some]
    cases attached : attachRegions around.machine true "tp_producer_attach_config" config with
    | error text =>
        rw [attached] at careful
        cases careful
    | ok regions =>
        obtain ⟨header, pools⟩ := regions
        rw [attached] at careful
        dsimp only at careful ⊢
        rw [Bool.and_eq_true] at careful
        rw [if_pos careful.1]
        refine ⟨_, rfl, .inr ⟨rfl, ?_⟩⟩
        apply sound_of_regions power attached careful.2
        · rfl
        · exact Nat.le_refl _
        · rfl
        · rfl
        · exact attached_count attached _
        · exact takeAttached (attachRegions_ok attached).2
        · obtain ⟨object, addr, -⟩ := (attachRegions_ok attached).1.block
          change header.addr.isSome = true
          rw [addr, Option.isSome_some]
  · rw [Bool.not_eq_true _ |>.mp power, Bool.not_false, if_pos rfl] at careful ⊢
    rw [Bool.and_eq_true, Bool.and_eq_true, beq_iff_eq, List.isEmpty_iff, Bool.not_eq_true'] at careful
    obtain ⟨⟨zero, none⟩, unmapped⟩ := careful
    have before := bare unmapped
    exact ⟨_, rfl, .inl ⟨before.headerRegion, before.pools, congrArg List.length none, zero, unmapped⟩⟩

end Attach

section Later

variable {pools : List Pool} {count : Nat}

/-- A lookup below the length of the table does not leave it. -/
theorem findPool_inside (inside : count ≤ pools.length) (poolId : UInt16) :
    findPool pools count poolId ≠ .fault ∧ ∀ pool, findPool pools count poolId = .found pool →
      pool ∈ pools.take count := by
  induction pools generalizing count with
  | nil =>
      obtain rfl : count = 0 := Nat.le_zero.mp inside
      exact ⟨Lookup.noConfusion, fun pool found => (by cases found)⟩
  | cons head rest hypothesis =>
      cases count with
      | zero => exact ⟨Lookup.noConfusion, fun pool found => (by cases found)⟩
      | succ count =>
          obtain ⟨safe, member⟩ := hypothesis (Nat.le_of_succ_le_succ inside)
          rw [findPool, List.take_succ_cons]
          split
          · refine ⟨Lookup.noConfusion, fun pool found => ?_⟩
            cases found
            exact List.mem_cons_self
          · exact ⟨safe, fun pool found => List.mem_cons_of_mem _ (member pool found)⟩

theorem Held.Sound.inside {held : Held} {epochs : List (Option UInt64)} (sound : held.Sound epochs) :
    held.poolCount ≤ held.pools.length := by
  obtain none | all := sound.count
  · omega
  · omega

/-- The slot of any sequence number lies in the ring. -/
theorem Held.Sound.slotEnd {held : Held} {epochs : List (Option UInt64)} (sound : held.Sound epochs)
    (some : held.headerNslots ≠ 0) (seq : UInt64) :
    slotEnd (ringIndex seq held.headerNslots) ≤ held.headerRegion.length := by
  obtain ⟨-, long, -⟩ := sound.slots.resolve_left some
  have inside := ringIndex_lt_of_ne_zero some seq
  have last := slotEnd_le (ringIndex seq held.headerNslots)
  omega

theorem publishFrame_sound {producer : AttachedProducer} {epochs : List (Option UInt64)}
    (sound : producer.held.Sound epochs) {outside : Outside} {seq : UInt64} {tensor : TensorHeader}
    {payload : Option (List UInt8)} {payloadLen : UInt32} {poolId : UInt16} {timestampNs : UInt64}
    {metaVersion : UInt32} :
    publishFrame producer.toProducer outside seq tensor payload payloadLen poolId timestampNs metaVersion ≠
      .fault := by
  intro faults
  unfold publishFrame at faults
  split at faults
  · cases faults
  · split at faults
    · cases faults
    next region addr =>
      have mapped : producer.held.mapped = true := by
        change producer.headerRegion.addr.isSome = true
        rw [addr, Option.isSome_some]
      dsimp only at faults
      split at faults
      · cases faults
      next attached =>
        rw [Bool.or_eq_true, beq_iff_eq, not_or] at attached
        obtain ⟨safe, member⟩ := findPool_inside sound.inside poolId
        split at faults
        next lost => exact safe lost
        · cases faults
        next pool found =>
          have listed := member pool found
          split at faults
          · cases faults
          next short =>
            split at faults
            · cases faults
            · split at faults
              next low => exact absurd (sound.slotEnd attached.1 seq) (Nat.not_le.mpr low)
              · split at faults
                · cases faults
                · split at faults
                  next lost =>
                    have there := sound.addresses mapped pool.region
                      (List.mem_cons_of_mem _ (List.mem_map_of_mem listed))
                    rw [lost] at there
                    cases there
                  · split at faults
                    next low =>
                      have room := sound.room mapped pool listed
                      have inside := ringIndex_lt_of_ne_zero attached.1 seq
                      have last := payloadOffset_le (ringIndex seq producer.headerNslots) pool.strideBytes
                      have rows : ((ringIndex seq producer.headerNslots).toNat + 1) * pool.strideBytes.toNat ≤
                          producer.held.headerNslots.toNat * pool.strideBytes.toNat := Nat.mul_le_mul_right _ inside
                      have within := UInt32.le_iff_toNat_le.mp (UInt32.not_lt.mp short)
                      omega
                    · cases faults

/-- The read of a slot faults only in a lookup that leaves the table. -/
theorem readSlot_inside {consumer : Consumer} (inside : consumer.poolCount ≤ consumer.pools.length) (seq : UInt64)
    (headerIndex : UInt32) : ¬ (readSlot consumer seq headerIndex).Returns .fault := by
  intro returns
  obtain ⟨seqFirst, returns⟩ := returns
  beta_reduce at returns
  split at returns
  · cases returns
  obtain ⟨decoded, -, returns⟩ := returns.bind
  split at returns
  · cases returns
  · split at returns
    · cases returns
    · split at returns
      · cases returns
      · split at returns
        next lost => exact (findPool_inside inside _).1 lost
        · cases returns
        · split at returns
          · cases returns
          · split at returns
            · cases returns
            · obtain ⟨header, -, returns⟩ := returns.bind
              split at returns
              · cases returns
              · split at returns
                · cases returns
                · obtain ⟨seqSecond, returns⟩ := returns
                  beta_reduce at returns
                  split at returns
                  · cases returns
                  · split at returns <;> cases returns

theorem readFrame_sound {consumer : AttachedConsumer} {epochs : List (Option UInt64)}
    (sound : consumer.held.Sound epochs) (seq : UInt64) : readFrame consumer.toConsumer seq ≠ .done .fault ∧
      ∀ region offset reading, readFrame consumer.toConsumer seq = .loads region offset reading →
        ¬ reading.Returns .fault := by
  unfold readFrame
  split
  · exact ⟨fun same => (by cases same), fun region offset reading same => (by cases same)⟩
  · split
    · exact ⟨fun same => (by cases same), fun region offset reading same => (by cases same)⟩
    next mapped =>
      rw [Bool.not_eq_true, Bool.not_eq_false'] at mapped
      split
      · exact ⟨fun same => (by cases same), fun region offset reading same => (by cases same)⟩
      next some =>
        dsimp only
        split
        · exact ⟨fun same => (by cases same), fun region offset reading same => (by cases same)⟩
        · have there := sound.addresses mapped consumer.headerRegion List.mem_cons_self
          split
          next lost =>
            rw [lost] at there
            cases there
          · split
            next low =>
              rw [beq_iff_eq] at some
              exact absurd (sound.slotEnd some seq) (Nat.not_le.mpr low)
            · refine ⟨fun same => (by cases same), fun region offset reading same => ?_⟩
              cases same
              exact readSlot_inside sound.inside _ _

end Later

namespace Session

variable {session : Session} {epochs : List (Option UInt64)}

theorem unmapRegions_sound (sound : session.held.Sound epochs) :
    ∃ after, session.unmapRegions = some after ∧ after.held.Bare := by
  cases session with
  | producer session =>
      have tidy : ¬ (!session.pools.isEmpty && !unmapsPools session.pools session.poolCount) = true := by
        have inside : session.poolCount ≤ session.pools.length := sound.inside
        simp [unmapsPools, inside]
      rw [unmapRegions, producerUnmapRegions, if_neg tidy, Option.map_some]
      exact ⟨_, rfl, rfl, rfl, rfl, rfl, rfl⟩
  | consumer session =>
      rw [unmapRegions, ConsumerSession.unmapRegions, consumerUnmapRegions_tidy sound.inside, Option.map_some,
        Option.map_some]
      exact ⟨_, rfl, rfl, rfl, rfl, rfl, rfl⟩

/-- A revoked lease leaves the regions, or it unmaps them. -/
theorem onLeaseRevoked_held {after : Session} {revoked : LeaseRevoked} {around : Around}
    (handled : session.onLeaseRevoked revoked around = some after) : after.held = session.held ∨ after.held.Bare := by
  cases session with
  | producer session =>
      obtain ⟨left, heard, rfl⟩ := Option.map_eq_some_iff.mp handled
      change session.onLeaseRevoked revoked around.nowNs = some left at heard
      unfold ProducerSession.onLeaseRevoked at heard
      split at heard
      · obtain ⟨producer, unmapped, rfl⟩ := Option.map_eq_some_iff.mp heard
        unfold producerUnmapRegions at unmapped
        split at unmapped <;> cases unmapped
        unfold ProducerSession.scheduleReattach
        split <;> exact .inr ⟨rfl, rfl, rfl, rfl, rfl⟩
      · cases heard
        exact .inl rfl
  | consumer session =>
      obtain ⟨left, heard, rfl⟩ := Option.map_eq_some_iff.mp handled
      change session.onLeaseRevoked revoked around.nowNs = some left at heard
      unfold ConsumerSession.onLeaseRevoked at heard
      split at heard
      · obtain ⟨unmapped, removed, rfl⟩ := Option.map_eq_some_iff.mp heard
        obtain ⟨consumer, bare, rfl⟩ := Option.map_eq_some_iff.mp removed
        unfold consumerUnmapRegions at bare
        split at bare
        · cases bare
          unfold ConsumerSession.scheduleReattach
          split <;> exact .inr ⟨rfl, rfl, rfl, rfl, rfl⟩
        · cases bare
      · cases heard
        exact .inl rfl

/-- A careful attach of a sound client ends, with nothing or with sound regions. -/
theorem attachConfig_sound {around : Around} {config : AttachConfig} (sound : session.held.Sound epochs)
    (careful : session.careful around config = true) :
    ∃ code after, session.attachConfig around config = some (code, after) ∧ Ends around.machine after.held code := by
  cases session with
  | producer session =>
      obtain ⟨outcome, returned, ends⟩ := producerAttachConfig_careful session.context.producerId sound.bare careful
      rw [attachConfig, ProducerSession.attachConfig, returned, Option.map_some, Option.map_some]
      exact ⟨_, _, rfl, ends⟩
  | consumer session =>
      obtain ⟨outcome, returned, ends⟩ := consumerAttachConfig_careful sound.bare careful
      rw [attachConfig, ConsumerSession.attachConfig, returned, Option.map_some, Option.map_some]
      refine ⟨_, _, rfl, ?_⟩
      dsimp only
      split
      · exact ends
      · split <;> exact ends

/-- A careful announce fails before it unmaps, or it ends with nothing or with sound regions. -/
theorem applyAnnounce_sound {around : Around} {announce : PoolAnnounceView} {code : Int} {after : Session}
    (careful : ∀ config, ConsumerSession.announceConfig around.copies announce = .ok config →
      Held.empty.consumerCareful around config = true)
    (applied : session.applyAnnounce around announce = some (code, after)) :
    code < 0 ∧ after.held = session.held ∨ Ends around.machine after.held code := by
  cases session with
  | producer session => cases applied
  | consumer session =>
      obtain ⟨result, ended, same⟩ := Option.map_eq_some_iff.mp applied
      obtain ⟨code', left⟩ := result
      cases same
      unfold ConsumerSession.applyAnnounce at ended
      cases made : ConsumerSession.announceConfig around.copies announce with
      | error text =>
          rw [made] at ended
          cases ended
          exact .inl ⟨by decide, rfl⟩
      | ok config =>
          rw [made] at ended
          obtain ⟨unmapped, removed, attached⟩ := Option.bind_eq_some_iff.mp ended
          obtain ⟨consumer, bare, rfl⟩ := Option.map_eq_some_iff.mp removed
          unfold consumerUnmapRegions at bare
          split at bare
          · cases bare
            have sound : ∃ outcome, consumerAttachConfig around.machine around.allocations config
                session.toAttachedConsumer.unmapped = some outcome ∧
                  Ends around.machine outcome.client.held outcome.code := by
              apply consumerAttachConfig_careful
              · intro _
                exact ⟨rfl, rfl, rfl, rfl, rfl⟩
              · exact careful config made
            obtain ⟨outcome, returned, ends⟩ := sound
            obtain ⟨result, performed, same⟩ := Option.map_eq_some_iff.mp attached
            obtain ⟨other, again, rfl⟩ := Option.map_eq_some_iff.mp performed
            obtain rfl : outcome = other := Option.some.inj (returned.symm.trans again)
            dsimp only at same
            have zero : ¬ (0 : Int) < 0 := by decide
            obtain ⟨off, -, failed | ⟨succeeded, error, fallback⟩⟩ | ⟨-, -, -, succeeded, error, on, phase, -⟩ :=
              consumerAttachConfig_cases rfl returned
            · rw [failed, if_pos (by decide), if_pos (by decide)] at same
              cases same
              rw [failed] at ends
              exact .inr ends
            · rw [succeeded] at same ends
              simp only [zero, if_false, error, if_true, fallback] at same
              cases same
              exact .inr ends
            · rw [succeeded] at same ends
              rw [error] at same
              simp only [zero, if_false, Option.isSome_none, Bool.false_eq_true, phase, reduceCtorEq] at same
              cases same
              have kept : (⟨outcome.client.headerRegion, outcome.client.pools, outcome.client.poolCount,
                  outcome.client.headerNslots, outcome.client.headerNslots.toNat, outcome.client.epoch,
                    true⟩ : Held) = outcome.client.held := by
                rw [← on]
                rfl
              right
              change Ends around.machine ⟨_, _, _, _, _, _, true⟩ 0
              rw [kept]
              exact ends
          · cases bare

/-- Where the fields fit together later calls touch only what exists. -/
theorem usable_of_sound (sound : session.held.Sound epochs) : session.Usable where
  unmaps := by
    obtain ⟨after, unmapped, -⟩ := unmapRegions_sound sound
    exact ⟨after, unmapped⟩
  attaches := by
    intro around config careful
    obtain ⟨code, after, attached, -⟩ := attachConfig_sound sound careful
    exact ⟨_, attached⟩
  publishes := by
    intro producer same outside seq tensor payload payloadLen poolId timestampNs metaVersion
    subst same
    exact publishFrame_sound sound
  reads := by
    intro consumer same seq
    subst same
    exact readFrame_sound sound seq

end Session

namespace Holding

/-- What holds after each action. -/
structure Inv (holding : Holding) : Prop where
  sound : holding.session.held.Sound holding.epochs
  failures : ∀ failure ∈ holding.failures, failure.2 = failure.1 ∨ failure.2.Bare

variable {holding after : Holding}

/-- An attach that ends well keeps the invariant. -/
theorem Inv.attached (holds : holding.Inv) {machine : Machine} {code : Int} {session : Session}
    (ended : code < 0 ∧ session.held = holding.session.held ∨ Ends machine session.held code) :
    (holding.attached machine code session).Inv := by
  unfold Holding.attached
  obtain ⟨failed, same⟩ | bare | ⟨rfl, sound⟩ := ended
  · rw [if_pos failed, if_pos failed]
    constructor
    · rw [same]
      exact holds.sound
    · intro failure member
      obtain rfl | earlier := List.mem_cons.mp member
      · exact .inl same
      · exact holds.failures failure earlier
  · constructor
    · exact bare.sound _
    · dsimp only
      split
      · intro failure member
        obtain rfl | earlier := List.mem_cons.mp member
        · exact .inr bare
        · exact holds.failures failure earlier
      · exact holds.failures
  · exact ⟨sound, holds.failures⟩

theorem Inv.step (holds : holding.Inv) {action : HoldingAction} (careful : holding.careful action = true)
    (stepped : holding.step action = some after) : after.Inv := by
  cases action with
  | attachConfig around config =>
      obtain ⟨result, attached, rfl⟩ := Option.map_eq_some_iff.mp stepped
      obtain ⟨code, session, again, ends⟩ := Session.attachConfig_sound holds.sound careful
      obtain rfl : result = (code, session) := Option.some.inj (attached.symm.trans again)
      exact holds.attached (.inr ends)
  | applyAnnounce around announce =>
      obtain ⟨result, applied, rfl⟩ := Option.map_eq_some_iff.mp stepped
      apply holds.attached
      apply Session.applyAnnounce_sound _ applied
      intro config made
      rw [Holding.careful, made] at careful
      exact careful
  | leaseRevoked revoked around =>
      obtain ⟨session, handled, rfl⟩ := Option.map_eq_some_iff.mp stepped
      obtain same | bare := Session.onLeaseRevoked_held handled
      · refine ⟨?_, holds.failures⟩
        change session.held.Sound holding.epochs
        rw [same]
        exact holds.sound
      · exact ⟨bare.sound _, holds.failures⟩
  | unmapRegions =>
      obtain ⟨session, unmapped, rfl⟩ := Option.map_eq_some_iff.mp stepped
      obtain ⟨other, again, bare⟩ := Session.unmapRegions_sound holds.sound
      obtain rfl : session = other := Option.some.inj (unmapped.symm.trans again)
      exact ⟨bare.sound _, holds.failures⟩

/-- Where every attach is careful a client that started without regions is safe in every state. -/
theorem failed_attach_safe {session : Session} (bare : session.held.Bare) {actions : List HoldingAction}
    (ran : GuardedRun.runWhile careful step { session } actions = some after) : after.Safe := by
  have begun : Inv { session } := ⟨bare.sound [], fun failure member => (by cases member)⟩
  have holds : after.Inv :=
    GuardedRun.keeps (fun holding action after holds careful stepped => Inv.step holds careful stepped) ran begun
  exact ⟨holds.sound, holds.failures, Session.usable_of_sound holds.sound⟩

/-- What the small files give to an attach. -/
def smallAround : Around where
  joinNs := 10
  nowNs := 20
  realtimeNs := 20
  attachNs := 20
  machine := smallMachine 0 576
  allocations := allAllocated
  copies := ⟨true, true, fun _ => true⟩
  descriptorOpens := true
  controlOpens := true

/-- A producer and a consumer that hold nothing yet. -/
def newProducer : Session := .producer { context := { producerId := 9, useDriver := false } }

def newConsumer : Session := .consumer
  { context := { streamId := 1, consumerId := 3, useDriver := false, announcePeriodNs := 1000 } }

/-- The file of the pool is missing. -/
def lostConfig : AttachConfig := { smallConfig with pools := [⟨1, 2, 64, Shm.ascii "shm:file?path=/q"⟩] }

theorem failed_attach_safe_consumer : ∃ after,
    GuardedRun.runWhile careful step { session := newConsumer }
      [.attachConfig smallAround smallConfig, .attachConfig smallAround lostConfig] = some after ∧ after.Safe := by
  obtain ⟨after, ran⟩ : ∃ after, GuardedRun.runWhile careful step { session := newConsumer }
      [.attachConfig smallAround smallConfig, .attachConfig smallAround lostConfig] = some after :=
    Option.isSome_iff_exists.mp (by decide +kernel)
  exact ⟨after, ran, failed_attach_safe ⟨rfl, rfl, rfl, rfl, rfl⟩ ran⟩

/-- A producer whose pool cannot be mapped keeps its counts, and one with another layout unmaps a pool that does
not exist. -/
theorem failed_attach_leaves_counts :
    (∃ after, GuardedRun.run step { session := newProducer } [.attachConfig smallAround lostConfig] = some after ∧
      after.session.held.poolCount = 1 ∧ after.session.held.pools = [] ∧ after.session.held.headerNslots = 2 ∧
        ¬ after.Safe) ∧
    GuardedRun.run step { session := newProducer }
      [.attachConfig smallAround { smallConfig with layoutVersion := 2 }] = none := by
  refine ⟨?_, by decide +kernel⟩
  obtain ⟨after, ran, shown⟩ : ∃ after,
      GuardedRun.run step { session := newProducer } [.attachConfig smallAround lostConfig] = some after ∧
        (after.session.held.poolCount, after.session.held.pools, after.session.held.headerNslots) = (1, [], 2) :=
    Option.map_eq_some_iff.mp (by decide +kernel)
  simp only [Prod.mk.injEq] at shown
  obtain ⟨count, none, nslots⟩ := shown
  refine ⟨after, ran, count, none, nslots, ?_⟩
  intro safe
  have inside := safe.sound.inside
  rw [count, none] at inside
  exact absurd inside (by decide)

end Holding

end TensorPool.Client
