/-
This file says what a successful attach has checked of the regions that it mapped.
-/

import TensorPool.Client.Attach
import TensorPool.Client.Addressing

namespace TensorPool.Client

open Shm

/-- A consumer maps its regions to read them, a producer maps its own to write them. -/
inductive Attaching where
  | consumer (before : AttachedConsumer)
  | producer (producerId : UInt32) (before : AttachedProducer)

namespace Attaching

def writable : Attaching → Bool
  | .consumer _ => false
  | .producer _ _ => true

def caller : Attaching → String
  | .consumer _ => "tp_consumer_attach"
  | .producer _ _ => "tp_producer_attach_config"

end Attaching

section Success

variable (machine : Machine) (allocations : Allocations) (config : AttachConfig)

/-- The attach returns success with its regions mapped. -/
inductive AttachesTo : Attaching → Region → List Pool → Prop
  | consumer (before : AttachedConsumer) (outcome : AttachOutcome AttachedConsumer)
      (returned : consumerAttachConfig machine allocations config before = some outcome) (code : outcome.code = 0)
      (mapped : outcome.client.shmMapped = true) :
      AttachesTo (.consumer before) outcome.client.headerRegion (outcome.client.pools.take outcome.client.poolCount)
  | producer (producerId : UInt32) (before : AttachedProducer) (outcome : AttachOutcome AttachedProducer)
      (returned : producerAttachConfig machine allocations producerId config before = some outcome)
      (code : outcome.code = 0) :
      AttachesTo (.producer producerId before) outcome.client.headerRegion
        (outcome.client.pools.take outcome.client.poolCount)

end Success

/-- A region is the whole file of its URI, and its superblock met the expectation. -/
structure Validated (machine : Machine) (writable : Bool) (uri : Text) (expected : Expected) (region : Region) :
    Prop where
  size : machine.fileSize uri writable = some region.length
  block : ∃ object, region.addr = some object ∧
    machine.superblock uri writable = some (superblockField.decode (machine.memory object)) ∧
    validateSuperblock (machine.memory object) (some expected) = .ok ()

/-- A pool is the configured one in a region that was validated for it. -/
structure PoolValidated (machine : Machine) (writable : Bool) (config : AttachConfig) (configured : PoolConfig)
    (pool : Pool) : Prop where
  nslots : configured.nslots = config.headerNslots
  aligned : 64 ≤ configured.strideBytes ∧ configured.strideBytes % 64 = 0
  same : pool.poolId = configured.poolId ∧ pool.strideBytes = configured.strideBytes
  region : Validated machine writable configured.uri (poolExpected config configured) pool.region

section Regions

variable {machine : Machine} {allocations : Allocations} {config : AttachConfig} {writable : Bool} {caller : String}

/-- A mapped region that passes the check is validated. -/
theorem validated_of_map {uri : Text} {expected : Expected} {region : Region}
    (mapped : shmMap machine uri writable = .ok region)
    (valid : validateRegion machine region (some expected) = .ok ()) :
    Validated machine writable uri expected region := by
  obtain ⟨object, addr, size, block⟩ := shmMap_ok mapped
  exact ⟨size, object, addr, block, validateRegion_ok addr valid⟩

/-- An attached pool is validated. -/
theorem attachPool_ok {configured : PoolConfig} {pool : Pool}
    (attached : attachPool machine writable caller config configured = .ok pool) :
    PoolValidated machine writable config configured pool := by
  simp only [attachPool, Shm.bind_ok] at attached
  obtain ⟨_, nslots, _, aligned, region, mapped, _, valid, same⟩ := attached
  cases same
  exact ⟨beq_iff_eq.mp (require_ok.mp nslots), validateStrideAlignment_ok aligned, ⟨rfl, rfl⟩,
    validated_of_map mapped valid⟩

/-- Each attached pool is validated for its configuration. -/
theorem attachPools_ok {configured : List PoolConfig} {pools : List Pool}
    (attached : attachPools machine writable caller config configured = .ok pools) :
    List.Forall₂ (PoolValidated machine writable config) configured pools := by
  induction configured generalizing pools with
  | nil =>
      cases attached
      exact .nil
  | cons first rest hypothesis =>
      simp only [attachPools, Shm.bind_ok] at attached
      obtain ⟨pool, one, others, many, same⟩ := attached
      cases same
      exact .cons (attachPool_ok one) (hypothesis many)

/-- The attached header and pools are validated. -/
theorem attachRegions_ok {header : Region} {pools : List Pool}
    (attached : attachRegions machine writable caller config = .ok (header, pools)) :
    Validated machine writable config.headerUri (headerExpected config) header ∧
      List.Forall₂ (PoolValidated machine writable config) config.pools pools := by
  simp only [attachRegions, Shm.bind_ok] at attached
  obtain ⟨region, mapped, _, valid, others, many, same⟩ := attached
  cases same
  exact ⟨validated_of_map mapped valid, attachPools_ok many⟩

/-- A cleanup leaves nothing mapped, and it counts as a success only with a fallback. -/
theorem consumerAttachCleanup_cases {consumer : AttachedConsumer} {text : String}
    {outcome : AttachOutcome AttachedConsumer} (cleaned : consumerAttachCleanup consumer text = some outcome) :
    outcome.client.shmMapped = false ∧ outcome.client.lastAnnounceEpoch = consumer.lastAnnounceEpoch ∧
      (outcome.code = -1 ∨ outcome.code = 0 ∧ outcome.error.isSome = true ∧ outcome.client.phase = .fallback) := by
  unfold consumerAttachCleanup at cleaned
  split at cleaned
  · cases cleaned
  · dsimp only at cleaned
    split at cleaned
    · cases cleaned
      exact ⟨rfl, rfl, .inl rfl⟩
    · cases cleaned
      exact ⟨rfl, rfl, .inr ⟨rfl, rfl, rfl⟩⟩

theorem producerAttachCleanup_code {producer : AttachedProducer} {text : String}
    {outcome : AttachOutcome AttachedProducer} (cleaned : producerAttachCleanup producer text = some outcome) :
    outcome.code = -1 := by
  unfold producerAttachCleanup at cleaned
  split at cleaned <;> cases cleaned
  rfl

/-- The pools of the count are those that were attached, also when there are none. -/
theorem takeAttached {configured : List PoolConfig} {pools kept : List Pool}
    (attached : List.Forall₂ (PoolValidated machine writable config) configured pools) :
    (if configured.length > 0 then pools else kept).take configured.length = pools := by
  have same := attached.length_eq
  split
  · rw [same, List.take_length]
  next empty =>
    have none : pools = [] := List.eq_nil_of_length_eq_zero (by omega)
    rw [none, Nat.eq_zero_of_not_pos empty, List.take_zero]

/-- A successful attach is one whose regions were all validated, with a checked layout and slot count. -/
theorem attachesTo_regions {client : Attaching} {header : Region} {pools : List Pool}
    (attached : AttachesTo machine allocations config client header pools) :
    config.layoutVersion = Shm.layoutVersion ∧ isPowerOfTwo config.headerNslots = true ∧
      attachRegions machine client.writable client.caller config = .ok (header, pools) := by
  cases attached with
  | consumer before outcome returned code mapped =>
      unfold consumerAttachConfig at returned
      dsimp only at returned
      split at returned
      · rw [(consumerAttachCleanup_cases returned).1] at mapped
        cases mapped
      next layout =>
        split at returned
        · cases returned
          cases code
        next power =>
          split at returned
          · cases returned
            cases code
          · split at returned
            · rw [(consumerAttachCleanup_cases returned).1] at mapped
              cases mapped
            next region others regions =>
              cases returned
              refine ⟨by simpa using layout, by simpa using power, regions.trans ?_⟩
              rw [takeAttached (attachRegions_ok regions).2]
  | producer producerId before outcome returned code =>
      unfold producerAttachConfig at returned
      dsimp only at returned
      split at returned
      · rw [producerAttachCleanup_code returned] at code
        cases code
      next layout =>
        split at returned
        · cases returned
          cases code
        next power =>
          split at returned
          · cases returned
            cases code
          · split at returned
            · cases returned
              cases code
            · split at returned
              · rw [producerAttachCleanup_code returned] at code
                cases code
              next region others regions =>
                split at returned
                · cases returned
                  refine ⟨by simpa using layout, by simpa using power, regions.trans ?_⟩
                  rw [takeAttached (attachRegions_ok regions).2]
                · rw [producerAttachCleanup_code returned] at code
                  cases code

end Regions

section Length

/-- The bytes that a ring, or a pool of this stride, needs for its slots. -/
def headerBytesNeeded (config : AttachConfig) : Nat := superblockSizeBytes + 256 * config.headerNslots.toNat

def poolBytesNeeded (config : AttachConfig) (strideBytes : UInt32) : Nat :=
  superblockSizeBytes + config.headerNslots.toNat * strideBytes.toNat

/-- Every slot is mapped, and every later access to a header or a payload stays inside its region. -/
structure SlotsMapped (config : AttachConfig) (header : Region) (pools : List Pool) : Prop where
  headerLong : headerBytesNeeded config ≤ header.length
  poolsLong : ∀ pool ∈ pools, poolBytesNeeded config pool.strideBytes ≤ pool.region.length
  headerInside : ∀ seq, slotEnd (ringIndex seq config.headerNslots) ≤ header.length
  payloadInside : ∀ pool ∈ pools, ∀ seq (length : UInt32), length ≤ pool.strideBytes →
    payloadOffset (ringIndex seq config.headerNslots) pool.strideBytes + length.toNat ≤ pool.region.length

/-- The files have room for the slots of the configuration. -/
structure FilesHoldSlots (machine : Machine) (writable : Bool) (config : AttachConfig) : Prop where
  header : ∀ size, machine.fileSize config.headerUri writable = some size → headerBytesNeeded config ≤ size
  pools : ∀ pool ∈ config.pools, ∀ size, machine.fileSize pool.uri writable = some size →
    poolBytesNeeded config pool.strideBytes ≤ size

variable {machine : Machine} {allocations : Allocations} {config : AttachConfig} {client : Attaching}
    {header : Region}
  {pools : List Pool} {writable : Bool}

/-- Whatever the mask is, an index stays below the slot count. -/
theorem isPowerOfTwo_ne_zero {value : UInt32} (power : isPowerOfTwo value = true) : value ≠ 0 := by
  simp only [isPowerOfTwo, Bool.and_eq_true, bne_iff_ne] at power
  exact power.1

/-- An index is inside a ring that is not empty. -/
theorem ringIndex_lt_of_ne_zero {headerNslots : UInt32} (nonzero : headerNslots ≠ 0) (seq : UInt64) :
    (ringIndex seq headerNslots).toNat < headerNslots.toNat := by
  have positive : 0 < headerNslots.toNat := Nat.pos_of_ne_zero fun zero => nonzero (UInt32.toNat_inj.mp zero)
  have masked := @Nat.and_le_right seq.toNat (headerNslots.toNat - 1)
  have below := headerNslots.toNat_lt
  rw [ringIndex, UInt64.toNat_toUInt32, UInt64.toNat_and, ringMask_toNat positive]
  omega

/-- A wrapped product is not above the exact one. -/
theorem slotEnd_le (index : UInt32) : slotEnd index ≤ superblockSizeBytes + 256 * (index.toNat + 1) := by
  have wrapped := Nat.mod_le (index.toNat * 256) (2 ^ 32)
  rw [slotEnd, slotAt, UInt32.toNat_mul]
  change 64 + index.toNat * 256 % 2 ^ 32 + 256 ≤ 64 + 256 * (index.toNat + 1)
  omega

/-- The payload of an index ends where its exact end is, or before. -/
theorem payloadOffset_le (index strideBytes : UInt32) :
    payloadOffset index strideBytes + strideBytes.toNat ≤
      superblockSizeBytes + (index.toNat + 1) * strideBytes.toNat := by
  have wrapped := Nat.mod_le (index.toNat * strideBytes.toNat) (2 ^ 32)
  rw [payloadOffset, UInt32.toNat_mul, Nat.add_one_mul]
  omega

/-- Long regions keep every access inside. -/
theorem slotsMapped_of_long (power : isPowerOfTwo config.headerNslots = true)
    (headerLong : headerBytesNeeded config ≤ header.length)
    (poolsLong : ∀ pool ∈ pools, poolBytesNeeded config pool.strideBytes ≤ pool.region.length) :
    SlotsMapped config header pools where
  headerLong := headerLong
  poolsLong := poolsLong
  headerInside seq := by
    have inside := ringIndex_lt_of_ne_zero (isPowerOfTwo_ne_zero power) seq
    have last := slotEnd_le (ringIndex seq config.headerNslots)
    rw [headerBytesNeeded] at headerLong
    omega
  payloadInside pool member seq length short := by
    have inside := ringIndex_lt_of_ne_zero (isPowerOfTwo_ne_zero power) seq
    have last := payloadOffset_le (ringIndex seq config.headerNslots) pool.strideBytes
    have rows : ((ringIndex seq config.headerNslots).toNat + 1) * pool.strideBytes.toNat ≤
        config.headerNslots.toNat * pool.strideBytes.toNat := Nat.mul_le_mul_right _ inside
    have long := poolsLong pool member
    have within := UInt32.le_iff_toNat_le.mp short
    rw [poolBytesNeeded] at long
    omega

/-- Each member of the left list has a partner. -/
theorem forall₂_left {α β : Type} {related : α → β → Prop} {left : List α} {right : List β}
    (both : List.Forall₂ related left right) {a : α} (member : a ∈ left) : ∃ b ∈ right, related a b := by
  induction both with
  | nil => cases member
  | cons here _ hypothesis =>
      rcases List.mem_cons.mp member with rfl | later
      · exact ⟨_, List.mem_cons_self, here⟩
      · obtain ⟨b, inside, related⟩ := hypothesis later
        exact ⟨b, List.mem_cons_of_mem _ inside, related⟩

/-- Each member of the right list has a partner. -/
theorem forall₂_right {α β : Type} {related : α → β → Prop} {left : List α} {right : List β}
    (both : List.Forall₂ related left right) {b : β} (member : b ∈ right) : ∃ a ∈ left, related a b := by
  obtain ⟨a, inside, related⟩ := forall₂_left both.flip member
  exact ⟨a, inside, related⟩

/-- Two relations of the same lists hold together. -/
theorem forall₂_and {α β : Type} {related other : α → β → Prop} {left : List α} {right : List β}
    (one : List.Forall₂ related left right) (two : List.Forall₂ other left right) :
    List.Forall₂ (fun a b => related a b ∧ other a b) left right := by
  induction one with
  | nil => exact .nil
  | cons here _ hypothesis =>
      cases two with
      | cons there rest => exact .cons ⟨here, there⟩ (hypothesis rest)

/-- A relation may be replaced by one that it implies for the members. -/
theorem forall₂_imp_mem {α β : Type} {related other : α → β → Prop} {left : List α} {right : List β}
    (both : List.Forall₂ related left right) (implies : ∀ a b, a ∈ left → related a b → other a b) :
    List.Forall₂ other left right := by
  induction both with
  | nil => exact .nil
  | cons here _ hypothesis =>
      exact .cons (implies _ _ List.mem_cons_self here)
        (hypothesis fun a b member => implies a b (List.mem_cons_of_mem _ member))

/--
A successful attach has every slot mapped, with all later accesses inside, if and only if the files have room
for the slots.
-/
theorem slotsMapped_iff (attached : AttachesTo machine allocations config client header pools) :
    SlotsMapped config header pools ↔ FilesHoldSlots machine client.writable config := by
  obtain ⟨-, power, regions⟩ := attachesTo_regions attached
  obtain ⟨first, rest⟩ := attachRegions_ok regions
  constructor
  · intro mapped
    constructor
    · intro size measured
      rw [first.size] at measured
      cases measured
      exact mapped.headerLong
    · intro configured member size measured
      obtain ⟨pool, inside, validated⟩ := forall₂_left rest member
      rw [validated.region.size] at measured
      cases measured
      rw [← validated.same.2]
      exact mapped.poolsLong pool inside
  · intro holds
    refine slotsMapped_of_long power (holds.header _ first.size) fun pool member => ?_
    obtain ⟨configured, inside, validated⟩ := forall₂_right rest member
    rw [validated.same.2]
    exact holds.pools configured inside _ validated.region.size

/-- An evaluation of the attach of a consumer shows where it ends. -/
theorem attachesTo_of_evaluation {before : AttachedConsumer}
    (evaluated : (consumerAttachConfig machine allocations config before).map (fun outcome =>
      (outcome.code, outcome.client.shmMapped, outcome.client.headerRegion,
        outcome.client.pools.take outcome.client.poolCount)) = some (0, true, header, pools)) :
    AttachesTo machine allocations config (.consumer before) header pools := by
  obtain ⟨outcome, returned, same⟩ := Option.map_eq_some_iff.mp evaluated
  simp only [Prod.mk.injEq] at same
  obtain ⟨code, mapped, rfl, rfl⟩ := same
  exact .consumer before outcome returned code mapped

/-- A ring of two slots and one pool, with the identifier of the header and the length of both files. -/
def smallMachine (headerPoolId : UInt16) (size : Nat) : Machine where
  allowsPaths := true
  opens := fun path _ =>
    if path = ascii "/h" then some ⟨0, none, some size, true, true⟩
    else if path = ascii "/p" then some ⟨1, none, some size, true, true⟩
    else none
  onHugetlbfs := fun _ => some false
  memory := fun object =>
    superblockField.encode
      (if object = 0 then ⟨magic, 1, 5, 1, headerRing, headerPoolId, 2, 256, 0, 9, 0, 0⟩
      else ⟨magic, 1, 5, 1, payloadPool, 1, 2, Shm.nullU32, 64, 9, 0, 0⟩)

def smallConfig : AttachConfig where
  streamId := 1
  epoch := 5
  layoutVersion := 1
  headerNslots := 2
  headerUri := ascii "shm:file?path=/h"
  pools := [⟨1, 2, 64, ascii "shm:file?path=/p|require_hugepages=false"⟩]

def allAllocated : Allocations := ⟨true, true, true⟩

/-- The pool of the small configuration in a file of this length. -/
def filePool (size : Nat) : Pool := ⟨1, 2, 64, ⟨some 1, size⟩⟩

theorem slotsMapped_iff_small :
    AttachesTo (smallMachine 0 576) allAllocated smallConfig (.consumer {}) ⟨some 0, 576⟩ [filePool 576] ∧
      (SlotsMapped smallConfig ⟨some 0, 576⟩ [filePool 576] ↔
        FilesHoldSlots (smallMachine 0 576) (Attaching.consumer {}).writable smallConfig) := by
  have attached : AttachesTo (smallMachine 0 576) allAllocated smallConfig (.consumer {}) ⟨some 0, 576⟩
      [filePool 576] := attachesTo_of_evaluation (by decide +kernel)
  exact ⟨attached, slotsMapped_iff attached⟩

/-- Files of only a superblock are attached. -/
theorem truncated_attaches :
    AttachesTo (smallMachine 0 64) allAllocated smallConfig (.consumer {}) ⟨some 0, 64⟩ [filePool 64] ∧
      ¬ SlotsMapped smallConfig ⟨some 0, 64⟩ [filePool 64] := by
  refine ⟨attachesTo_of_evaluation (by decide +kernel), ?_⟩
  intro mapped
  exact absurd mapped.headerLong (by decide)

end Length

end TensorPool.Client
