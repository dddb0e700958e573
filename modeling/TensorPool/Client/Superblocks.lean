/-
This file says which superblocks a successful attach accepts.
-/

import TensorPool.Client.AttachChecks

namespace TensorPool.Client

open Shm

section Superblocks

/-- The superblock of a mapped region. -/
def blockOf (machine : Machine) (region : Region) : Option Superblock :=
  region.addr.map fun object => superblockField.decode (machine.memory object)

/-- A superblock has the magic and the fields that all regions of a configuration share. -/
structure SharedFields (config : AttachConfig) (block : Superblock) : Prop where
  magic : block.magic = Shm.magic
  layoutVersion : block.layoutVersion = config.layoutVersion
  epoch : block.epoch = config.epoch
  streamId : block.streamId = config.streamId
  nslots : block.nslots = config.headerNslots

structure HeaderMatches (config : AttachConfig) (block : Superblock) : Prop where
  shared : SharedFields config block
  regionType : block.regionType = headerRing
  poolId : block.poolId = 0
  slotBytes : block.slotBytes = Shm.headerSlotBytes

structure PoolMatches (config : AttachConfig) (configured : PoolConfig) (block : Superblock) : Prop where
  shared : SharedFields config block
  regionType : block.regionType = payloadPool
  poolId : block.poolId = configured.poolId
  strideBytes : block.strideBytes = configured.strideBytes

/-- The other configuration gives the region of the header to a pool and the region of the pool to the header. -/
structure HeaderSwapped (config other : AttachConfig) (pool : PoolConfig) : Prop where
  known : pool ∈ config.pools
  header : other.headerUri = pool.uri
  swapped : { pool with uri := config.headerUri } ∈ other.pools

/-- The other configuration exchanges the regions of two pools with different identifiers. -/
structure PoolsSwapped (config other : AttachConfig) (left right : PoolConfig) : Prop where
  leftKnown : left ∈ config.pools
  rightKnown : right ∈ config.pools
  differ : left.poolId ≠ right.poolId
  leftSwapped : { left with uri := right.uri } ∈ other.pools
  rightSwapped : { right with uri := left.uri } ∈ other.pools

/-- The superblocks of the mapped regions match the configuration, and regions in swapped order are rejected. -/
structure SuperblocksMatch (machine : Machine) (allocations : Allocations) (config : AttachConfig)
    (client : Attaching) (header : Region) (pools : List Pool) : Prop where
  headerMatches : ∃ block, blockOf machine header = some block ∧ HeaderMatches config block
  poolsMatch : List.Forall₂ (fun configured pool => ∃ block, blockOf machine pool.region = some block ∧
    PoolMatches config configured block) config.pools pools
  headerOrder : ∀ other pool, HeaderSwapped config other pool →
    ¬ ∃ header pools, AttachesTo machine allocations other client header pools
  poolOrder : ∀ other left right, PoolsSwapped config other left right →
    ¬ ∃ header pools, AttachesTo machine allocations other client header pools

/-- The fields that the expectations leave out have the configured values in the files. -/
structure UncheckedAgree (machine : Machine) (writable : Bool) (config : AttachConfig) : Prop where
  epoch : config.epoch = Shm.nullU64 → ∀ uri ∈ config.headerUri :: config.pools.map PoolConfig.uri, ∀ block,
    machine.superblock uri writable = some block → block.epoch = Shm.nullU64
  streamId : config.streamId = Shm.nullU32 → ∀ uri ∈ config.headerUri :: config.pools.map PoolConfig.uri, ∀ block,
    machine.superblock uri writable = some block → block.streamId = Shm.nullU32
  header : ∀ block, machine.superblock config.headerUri writable = some block → block.poolId = 0
  pools : ∀ pool ∈ config.pools, pool.poolId = 0 → ∀ block,
    machine.superblock pool.uri writable = some block → block.poolId = 0

variable {machine : Machine} {allocations : Allocations} {config : AttachConfig} {client : Attaching}
    {header : Region}
  {pools : List Pool} {writable : Bool}

theorem Validated.facts {uri : Text} {expected : Expected} {region : Region}
    (validated : Validated machine writable uri expected region) :
    ∃ block, blockOf machine region = some block ∧ machine.superblock uri writable = some block ∧
      block.magic = Shm.magic ∧ expected.compare block = .ok () := by
  obtain ⟨object, addr, known, valid⟩ := validated.block
  obtain ⟨-, magic, compared, -, -⟩ := validateSuperblock_ok.mp valid
  exact ⟨_, by rw [blockOf, addr, Option.map_some], known, magic, compared⟩

theorem nslots_ne_null (power : isPowerOfTwo config.headerNslots = true) : config.headerNslots ≠ Shm.nullU32 := by
  intro null
  rw [null] at power
  exact absurd power (by decide)

/-- What a validated header has in its superblock, whatever its configuration is. -/
theorem header_facts (layout : config.layoutVersion = Shm.layoutVersion)
    (power : isPowerOfTwo config.headerNslots = true)
    (validated : Validated machine writable config.headerUri (headerExpected config) header) :
    ∃ block, blockOf machine header = some block ∧ machine.superblock config.headerUri writable = some block ∧
      block.regionType = headerRing ∧ (HeaderMatches config block ↔
        (config.epoch = Shm.nullU64 → block.epoch = Shm.nullU64) ∧
          (config.streamId = Shm.nullU32 → block.streamId = Shm.nullU32) ∧ block.poolId = 0) := by
  obtain ⟨block, shown, known, magic, compared⟩ := validated.facts
  obtain ⟨version, epoch, streamId, regionType, -, nslots, slotBytes, -⟩ := Expected.compare_ok.mp compared
  have versioned := version.resolve_left (layout.trans_ne (by decide))
  have typed := regionType.resolve_left (show headerRing ≠ 0 by decide)
  have sized := nslots.resolve_left (nslots_ne_null power)
  have slotted := slotBytes.resolve_left (show Shm.headerSlotBytes ≠ Shm.nullU32 by decide)
  refine ⟨block, shown, known, typed, ?_⟩
  constructor
  · intro same
    exact ⟨fun null => same.shared.epoch.trans null, fun null => same.shared.streamId.trans null, same.poolId⟩
  · rintro ⟨epochs, streams, poolId⟩
    refine ⟨⟨magic, versioned, ?_, ?_, sized⟩, typed, poolId, slotted⟩
    · by_cases null : config.epoch = Shm.nullU64
      · rw [epochs null, null]
      · exact epoch.resolve_left null
    · by_cases null : config.streamId = Shm.nullU32
      · rw [streams null, null]
      · exact streamId.resolve_left null

theorem pool_facts {configured : PoolConfig} {pool : Pool} (layout : config.layoutVersion = Shm.layoutVersion)
    (power : isPowerOfTwo config.headerNslots = true)
    (validated : PoolValidated machine writable config configured pool) :
    ∃ block, blockOf machine pool.region = some block ∧ machine.superblock configured.uri writable = some block ∧
      block.regionType = payloadPool ∧ (configured.poolId = 0 ∨ block.poolId = configured.poolId) ∧
      (PoolMatches config configured block ↔
        (config.epoch = Shm.nullU64 → block.epoch = Shm.nullU64) ∧
          (config.streamId = Shm.nullU32 → block.streamId = Shm.nullU32) ∧
          (configured.poolId = 0 → block.poolId = 0)) := by
  obtain ⟨block, shown, known, magic, compared⟩ := validated.region.facts
  obtain ⟨version, epoch, streamId, regionType, poolId, nslots, -, strideBytes⟩ := Expected.compare_ok.mp compared
  have versioned := version.resolve_left (layout.trans_ne (by decide))
  have typed := regionType.resolve_left (show payloadPool ≠ 0 by decide)
  have sized := (nslots.resolve_left (by
    rw [poolExpected, validated.nslots]
    exact nslots_ne_null power)).trans validated.nslots
  have strided := strideBytes.resolve_left (by
    intro null
    have aligned := validated.aligned.2
    rw [show configured.strideBytes = Shm.nullU32 from null] at aligned
    exact absurd aligned (by decide))
  refine ⟨block, shown, known, typed, poolId, ?_⟩
  constructor
  · intro same
    exact ⟨fun null => same.shared.epoch.trans null, fun null => same.shared.streamId.trans null,
      fun zero => same.poolId.trans zero⟩
  · rintro ⟨epochs, streams, pooled⟩
    refine ⟨⟨magic, versioned, ?_, ?_, sized⟩, typed, ?_, strided⟩
    · by_cases null : config.epoch = Shm.nullU64
      · rw [epochs null, null]
      · exact epoch.resolve_left null
    · by_cases null : config.streamId = Shm.nullU32
      · rw [streams null, null]
      · exact streamId.resolve_left null
    · by_cases zero : configured.poolId = 0
      · rw [pooled zero, zero]
      · exact poolId.resolve_left zero

/-- Regions that were swapped with the ring or with each other do not attach. -/
theorem swapped_refused {other : AttachConfig} {otherHeader : Region} {otherPools : List Pool}
    (attached : AttachesTo machine allocations other client otherHeader otherPools) :
    (∀ block, machine.superblock other.headerUri client.writable = some block → block.regionType = headerRing) ∧
      ∀ pool ∈ other.pools, ∀ block, machine.superblock pool.uri client.writable = some block →
        block.regionType = payloadPool ∧ (pool.poolId = 0 ∨ block.poolId = pool.poolId) := by
  obtain ⟨layout, power, regions⟩ := attachesTo_regions attached
  obtain ⟨first, rest⟩ := attachRegions_ok regions
  constructor
  · intro block shown
    obtain ⟨found, -, known, regionType, -⟩ := header_facts layout power first
    rw [shown] at known
    cases known
    exact regionType
  · intro pool member block shown
    obtain ⟨attachedPool, -, validated⟩ := forall₂_left rest member
    obtain ⟨found, -, known, regionType, poolId, -⟩ := pool_facts layout power validated
    rw [shown] at known
    cases known
    exact ⟨regionType, poolId⟩

/--
The superblocks of a successful attach match its configuration, and swapped regions are rejected, if and only if
the fields that the expectations leave out have the configured values in the files.
-/
theorem superblocksMatch_iff (attached : AttachesTo machine allocations config client header pools) :
    SuperblocksMatch machine allocations config client header pools ↔
      UncheckedAgree machine client.writable config := by
  obtain ⟨layout, power, regions⟩ := attachesTo_regions attached
  obtain ⟨first, rest⟩ := attachRegions_ok regions
  obtain ⟨headerBlock, headerShown, headerKnown, headerType, headerMatches⟩ := header_facts layout power first
  constructor
  · intro same
    have ring : HeaderMatches config headerBlock := by
      obtain ⟨block, shown, matched⟩ := same.headerMatches
      rw [headerShown] at shown
      cases shown
      exact matched
    have entry : ∀ configured ∈ config.pools, ∀ block,
        machine.superblock configured.uri client.writable = some block → PoolMatches config configured block := by
      intro configured member block known
      obtain ⟨pool, -, validated, found, shown, matched⟩ :=
        forall₂_left (forall₂_and rest same.poolsMatch) member
      obtain ⟨block', shown', known', -⟩ := pool_facts layout power validated
      rw [known] at known'
      cases known'
      rw [shown] at shown'
      cases shown'
      exact matched
    have every (uri : Text) (named : uri ∈ config.headerUri :: config.pools.map PoolConfig.uri) (block : Superblock)
        (known : machine.superblock uri client.writable = some block) : SharedFields config block := by
      rcases List.mem_cons.mp named with rfl | inside
      · rw [headerKnown] at known
        cases known
        exact ring.shared
      · obtain ⟨configured, member, rfl⟩ := List.mem_map.mp inside
        exact (entry configured member block known).shared
    constructor
    · intro null uri named block known
      exact (every uri named block known).epoch.trans null
    · intro null uri named block known
      exact (every uri named block known).streamId.trans null
    · intro block known
      rw [headerKnown] at known
      cases known
      exact ring.poolId
    · intro configured member zero block known
      exact (entry configured member block known).poolId.trans zero
  · intro agree
    have ring : HeaderMatches config headerBlock := by
      apply headerMatches.mpr
      refine ⟨fun null => ?_, fun null => ?_, agree.header headerBlock headerKnown⟩
      · exact agree.epoch null _ List.mem_cons_self headerBlock headerKnown
      · exact agree.streamId null _ List.mem_cons_self headerBlock headerKnown
    have entry : ∀ configured pool, configured ∈ config.pools → PoolValidated machine client.writable config
        configured pool → ∃ block, blockOf machine pool.region = some block ∧
          machine.superblock configured.uri client.writable = some block ∧ PoolMatches config configured block := by
      intro configured pool member validated
      obtain ⟨block, shown, known, -, -, matched⟩ := pool_facts layout power validated
      have named : configured.uri ∈ config.headerUri :: config.pools.map PoolConfig.uri :=
        List.mem_cons_of_mem _ (List.mem_map_of_mem member)
      refine ⟨block, shown, known, matched.mpr ⟨fun null => ?_, fun null => ?_, fun zero => ?_⟩⟩
      · exact agree.epoch null _ named block known
      · exact agree.streamId null _ named block known
      · exact agree.pools configured member zero block known
    have known : ∀ configured ∈ config.pools, ∃ block,
        machine.superblock configured.uri client.writable = some block ∧ PoolMatches config configured block := by
      intro configured member
      obtain ⟨pool, -, validated⟩ := forall₂_left rest member
      obtain ⟨block, -, shown, matched⟩ := entry configured pool member validated
      exact ⟨block, shown, matched⟩
    constructor
    · exact ⟨headerBlock, headerShown, ring⟩
    · refine forall₂_imp_mem rest fun configured pool member validated => ?_
      obtain ⟨block, shown, -, matched⟩ := entry configured pool member validated
      exact ⟨block, shown, matched⟩
    · rintro other pool swapped ⟨otherHeader, otherPools, accepted⟩
      obtain ⟨block, shown, matched⟩ := known pool swapped.known
      have headed := (swapped_refused accepted).1 block (swapped.header ▸ shown)
      exact absurd (matched.regionType.symm.trans headed) (by decide)
    · rintro other left right swapped ⟨otherHeader, otherPools, accepted⟩
      obtain ⟨leftBlock, leftShown, leftMatched⟩ := known left swapped.leftKnown
      obtain ⟨rightBlock, rightShown, rightMatched⟩ := known right swapped.rightKnown
      obtain ⟨-, onLeft⟩ := (swapped_refused accepted).2 _ swapped.leftSwapped rightBlock rightShown
      obtain ⟨-, onRight⟩ := (swapped_refused accepted).2 _ swapped.rightSwapped leftBlock leftShown
      dsimp only at onLeft onRight
      rw [rightMatched.poolId] at onLeft
      rw [leftMatched.poolId] at onRight
      have differ := swapped.differ
      rcases onLeft with leftZero | same
      · rcases onRight with rightZero | same
        · exact differ (leftZero.trans rightZero.symm)
        · exact differ same
      · exact differ same.symm

theorem superblocksMatch_iff_small :
    AttachesTo (smallMachine 0 576) allAllocated smallConfig (.consumer {}) ⟨some 0, 576⟩ [filePool 576] ∧
      (SuperblocksMatch (smallMachine 0 576) allAllocated smallConfig (.consumer {}) ⟨some 0, 576⟩ [filePool 576] ↔
        UncheckedAgree (smallMachine 0 576) (Attaching.consumer {}).writable smallConfig) :=
  ⟨attachesTo_of_evaluation (by decide +kernel), superblocksMatch_iff (attachesTo_of_evaluation (by decide +kernel))⟩

/-- The header ring of this machine has the identifier of a pool. -/
theorem foreign_header_attaches :
    AttachesTo (smallMachine 7 576) allAllocated smallConfig (.consumer {}) ⟨some 0, 576⟩ [filePool 576] ∧
      ¬ SuperblocksMatch (smallMachine 7 576) allAllocated smallConfig (.consumer {}) ⟨some 0, 576⟩
        [filePool 576] := by
  refine ⟨attachesTo_of_evaluation (by decide +kernel), ?_⟩
  intro same
  obtain ⟨block, shown, matched⟩ := same.headerMatches
  have pooled : (blockOf (smallMachine 7 576) ⟨some 0, 576⟩).map Superblock.poolId = some 7 := by decide +kernel
  rw [shown, Option.map_some, matched.poolId] at pooled
  cases pooled

end Superblocks

end TensorPool.Client
