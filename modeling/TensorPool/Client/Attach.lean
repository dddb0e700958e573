/-
This file attaches a consumer or a producer to the regions of a configuration.
-/

import TensorPool.Shm.Map

namespace TensorPool.Client

open Shm

/-- This is the configuration of one pool. -/
structure PoolConfig where
  poolId : UInt16
  nslots : UInt32
  strideBytes : UInt32
  uri : Text
  deriving DecidableEq, Repr

/-- These are the fields that both kinds of configuration have. -/
structure AttachConfig where
  streamId : UInt32
  epoch : UInt64
  layoutVersion : UInt32
  headerNslots : UInt32
  headerUri : Text
  pools : List PoolConfig
  deriving DecidableEq, Repr

inductive ConsumerPhase where
  | unmapped
  | mapped
  | fallback
  deriving DecidableEq, Repr

/-- A consumer with the fields that an attach writes. -/
structure AttachedConsumer extends Consumer where
  streamId : UInt32 := 0
  epoch : UInt64 := 0
  layoutVersion : UInt32 := 0
  mappedEpoch : UInt64 := 0
  lastAnnounceEpoch : UInt64 := 0
  lastSeqSeen : UInt64 := 0
  dropsGap : UInt64 := 0
  dropsLate : UInt64 := 0
  phase : ConsumerPhase := .unmapped
  payloadFallbackUri : Text := []
  reattachRequested : Bool := false
  deriving DecidableEq, Repr

/-- A producer with the fields that an attach writes. -/
structure AttachedProducer extends Producer where
  streamId : UInt32 := 0
  producerId : UInt32 := 0
  epoch : UInt64 := 0
  layoutVersion : UInt32 := 0
  tracelinkEntryCount : UInt32 := 0
  reattachRequested : Bool := false
  deriving DecidableEq, Repr

/-- The allocations of one attach succeed or fail. -/
structure Allocations where
  pools : Bool
  tracelinkEntries : Bool
  shmUris : Bool
  deriving DecidableEq, Repr

/-- A call ends with its code, the text of its error and the client. -/
structure AttachOutcome (σ : Type) where
  code : Int
  error : Option String
  client : σ

/-- This is `tp_is_power_of_two`. -/
def isPowerOfTwo (value : UInt32) : Bool := value != 0 && value &&& (value - 1) == 0

def headerExpected (config : AttachConfig) : Expected where
  streamId := config.streamId
  layoutVersion := config.layoutVersion
  epoch := config.epoch
  regionType := headerRing
  poolId := 0
  nslots := config.headerNslots
  slotBytes := Shm.headerSlotBytes
  strideBytes := Shm.nullU32

def poolExpected (config : AttachConfig) (pool : PoolConfig) : Expected where
  streamId := config.streamId
  layoutVersion := config.layoutVersion
  epoch := config.epoch
  regionType := payloadPool
  poolId := pool.poolId
  nslots := pool.nslots
  slotBytes := Shm.nullU32
  strideBytes := pool.strideBytes

/-- One turn of the loop over the pools. -/
def attachPool (machine : Machine) (writable : Bool) (caller : String) (config : AttachConfig) (pool : PoolConfig) :
    Except String Pool := do
  require (pool.nslots == config.headerNslots) (caller ++ ": pool nslots mismatch")
  validateStrideAlignment machine pool.uri pool.strideBytes
  let region ← shmMap machine pool.uri writable
  validateRegion machine region (some (poolExpected config pool))
  return { poolId := pool.poolId, nslots := pool.nslots, strideBytes := pool.strideBytes, region }

def attachPools (machine : Machine) (writable : Bool) (caller : String) (config : AttachConfig) :
    List PoolConfig → Except String (List Pool)
  | [] => return []
  | pool :: rest => do
      let attached ← attachPool machine writable caller config pool
      let others ← attachPools machine writable caller config rest
      return attached :: others

/-- The header ring is mapped and validated before the pools; what was mapped before an error is unmapped by the
caller. -/
def attachRegions (machine : Machine) (writable : Bool) (caller : String) (config : AttachConfig) :
    Except String (Region × List Pool) := do
  let header ← shmMap machine config.headerUri writable
  validateRegion machine header (some (headerExpected config))
  let pools ← attachPools machine writable caller config config.pools
  return (header, pools)

/-- The loop over the pools touches only pools that exist. -/
def unmapsPools (pools : List Pool) (poolCount : Nat) : Bool := pools.length ≥ poolCount

/-- This is `tp_consumer_unmap_regions`, which has no outcome when it touches a pool that does not exist. -/
def consumerUnmapRegions (consumer : AttachedConsumer) : Option AttachedConsumer :=
  if unmapsPools consumer.pools consumer.poolCount then
    some { consumer with
      headerRegion := {}, pools := [], poolCount := 0, headerNslots := 0, phase := .unmapped, shmMapped := false
      mappedEpoch := 0, lastSeqSeen := 0, dropsGap := 0, dropsLate := 0 }
  else none

/-- This is the cleanup of `tp_consumer_attach_config`; with a fallback URI a failure counts as a success. -/
def consumerAttachCleanup (consumer : AttachedConsumer) (text : String) : Option (AttachOutcome AttachedConsumer) :=
  if !consumer.pools.isEmpty && !unmapsPools consumer.pools consumer.poolCount then none
  else
    let unmapped : AttachedConsumer := { consumer with
      headerRegion := {}, pools := [], poolCount := 0, headerNslots := 0, phase := .unmapped, shmMapped := false
      mappedEpoch := 0, lastSeqSeen := 0, dropsGap := 0, dropsLate := 0 }
    if consumer.payloadFallbackUri.isEmpty then some ⟨-1, some text, unmapped⟩
    else some ⟨0, some text, { unmapped with phase := .fallback }⟩

/-- This is `tp_consumer_attach_config`; it has no outcome when it touches a pool that does not exist. -/
def consumerAttachConfig (machine : Machine) (allocations : Allocations) (config : AttachConfig)
    (consumer : AttachedConsumer) : Option (AttachOutcome AttachedConsumer) :=
  let consumer := { consumer with
    streamId := config.streamId, epoch := config.epoch, layoutVersion := config.layoutVersion
    headerNslots := config.headerNslots, poolCount := config.pools.length }
  if config.layoutVersion != Shm.layoutVersion then
    consumerAttachCleanup consumer "tp_consumer_attach: unsupported layout version"
  else if !isPowerOfTwo config.headerNslots then
    some ⟨-1, some "tp_consumer_attach: header_nslots must be power of two", consumer⟩
  else if consumer.poolCount > 0 && !allocations.pools then
    some ⟨-1, none, { consumer with pools := [], poolCount := 0, headerNslots := 0 }⟩
  else
    let consumer := { consumer with
      pools := if consumer.poolCount > 0 then List.replicate consumer.poolCount {} else consumer.pools }
    match attachRegions machine false "tp_consumer_attach" config with
    | .error text => consumerAttachCleanup consumer text
    | .ok (headerRegion, pools) =>
        some ⟨0, none, { consumer with
          headerRegion, pools := if consumer.poolCount > 0 then pools else consumer.pools
          phase := .mapped, shmMapped := true, mappedEpoch := config.epoch, lastAnnounceEpoch := config.epoch
          lastSeqSeen := 0, dropsGap := 0, dropsLate := 0, reattachRequested := false }⟩

/-- This is the cleanup of `tp_producer_attach_config`, which keeps the pool count and the slot count. -/
def producerAttachCleanup (producer : AttachedProducer) (text : String) : Option (AttachOutcome AttachedProducer) :=
  if !unmapsPools producer.pools producer.poolCount then none
  else some ⟨-1, some text, { producer with headerRegion := {}, pools := [], tracelinkEntryCount := 0 }⟩

/-- This is `tp_producer_attach_config`; it has no outcome when it touches a pool that does not exist. -/
def producerAttachConfig (machine : Machine) (allocations : Allocations) (producerId : UInt32) (config : AttachConfig)
    (producer : AttachedProducer) : Option (AttachOutcome AttachedProducer) :=
  let producer := { producer with
    streamId := config.streamId, producerId, epoch := config.epoch, layoutVersion := config.layoutVersion
    headerNslots := config.headerNslots, poolCount := config.pools.length }
  if config.layoutVersion != Shm.layoutVersion then
    producerAttachCleanup producer "tp_producer_attach: unsupported layout version"
  else if !isPowerOfTwo config.headerNslots then
    some ⟨-1, some "tp_producer_attach_config: header_nslots must be power of two", producer⟩
  else if !allocations.tracelinkEntries then
    some ⟨-1, none, { producer with tracelinkEntryCount := 0 }⟩
  else
    let producer := { producer with tracelinkEntryCount := config.headerNslots, reattachRequested := false }
    if producer.poolCount > 0 && !allocations.pools then
      some ⟨-1, none, { producer with pools := [] }⟩
    else
      let producer := { producer with
        pools := if producer.poolCount > 0 then List.replicate producer.poolCount {} else producer.pools }
      match attachRegions machine true "tp_producer_attach_config" config with
      | .error text => producerAttachCleanup producer text
      | .ok (headerRegion, pools) =>
          let producer := { producer with
            headerRegion, pools := if producer.poolCount > 0 then pools else producer.pools }
          if allocations.shmUris then some ⟨0, none, producer⟩
          else producerAttachCleanup producer "tp_producer_store_shm_uris: header uri allocation failed"

end TensorPool.Client
