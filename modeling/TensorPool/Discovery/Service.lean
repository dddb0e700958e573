/-
This file holds the registry of the discovery service and the operations on it.
-/

import Mathlib.Data.List.Basic

namespace TensorPool.Discovery

/-- A C string without its null byte. -/
abbrev Text := List UInt8

def nullU32 : UInt32 := 0xFFFFFFFF
def nullU64 : UInt64 := 0xFFFFFFFFFFFFFFFF
def headerSlotBytes : UInt16 := 256
def maxDims : UInt8 := 8
def uriLength : Nat := 4096
def nameLength : Nat := 256

/-- This is `strncpy` into a cleared buffer whose last byte stays null. -/
def copyInto (size : Nat) (text : Text) : Text := text.take (size - 1)

/-- This is `tp_shm_pool_announce_pool_t`; a null pointer is `none`. -/
structure AnnouncedPool where
  poolId : UInt16
  poolNslots : UInt32
  strideBytes : UInt32
  regionUri : Option Text
  deriving DecidableEq, Repr

/-- These are the fields of `tp_shm_pool_announce_t` that the service reads. -/
structure PoolAnnounce where
  streamId : UInt32
  producerId : UInt32
  epoch : UInt64
  layoutVersion : UInt32
  headerNslots : UInt32
  headerSlotBytes : UInt16
  headerRegionUri : Option Text
  pools : List AnnouncedPool
  deriving DecidableEq, Repr

structure DataSourceAnnounce where
  streamId : UInt32
  producerId : UInt32
  epoch : UInt64
  name : Option Text
  deriving DecidableEq, Repr

/-- This is `tp_discovery_pool_entry_t`, and a pool of a result looks the same. -/
structure PoolEntry where
  poolId : UInt16
  poolNslots : UInt32
  strideBytes : UInt32
  regionUri : Text
  deriving DecidableEq, Repr

/-- This is `tp_discovery_entry_t`; the defaults are those of a reserved entry. -/
structure Entry where
  streamId : UInt32
  producerId : UInt32 := 0
  epoch : UInt64 := 0
  layoutVersion : UInt32 := 0
  headerNslots : UInt32 := 0
  headerSlotBytes : UInt16 := 0
  maxDims : UInt8 := Discovery.maxDims
  dataSourceId : UInt64 := nullU64
  headerRegionUri : Text := []
  dataSourceName : Text := []
  tags : List Text := []
  poolCount : Nat := 0
  pools : Option (List PoolEntry) := none
  lastAnnounceNs : UInt64 := 0
  deriving DecidableEq, Repr

structure Config where
  driverInstanceId : Text
  driverControlChannel : Text
  driverControlStreamId : Int32
  announcePeriodMs : UInt32
  maxResults : UInt32
  deriving DecidableEq, Repr

/-- A call that returns zero has applied or ignored its input. -/
inductive Outcome where
  | applied
  | ignored
  | refused (text : String)
  deriving DecidableEq, Repr

def Outcome.code : Outcome → Int
  | .refused _ => -1
  | _ => 0

def findEntry (entries : List Entry) (streamId : UInt32) : Option Nat :=
  if streamId = 0 then none else entries.findIdx? fun entry => entry.streamId == streamId

/-- The index of the entry of a stream, which is added when there is none and the array can grow. -/
def reserveEntry (entries : List Entry) (streamId : UInt32) (grows : Bool) : Option (Nat × List Entry) :=
  match findEntry entries streamId with
  | some index => some (index, entries)
  | none => if grows then some (entries.length, entries ++ [{ streamId := streamId }]) else none

def Entry.clear (entry : Entry) : Entry := { entry with poolCount := 0, pools := none, tags := [] }

/-- A regressing epoch is ignored. -/
def Entry.newer (entry : Entry) (epoch : UInt64) : Bool := entry.epoch != 0 && epoch < entry.epoch

def AnnouncedPool.entry (pool : AnnouncedPool) : PoolEntry where
  poolId := pool.poolId
  poolNslots := pool.poolNslots
  strideBytes := pool.strideBytes
  regionUri := copyInto uriLength (pool.regionUri.getD [])

/-- The entry is rewritten before the pools are allocated and checked. -/
def Entry.rewrite (entry : Entry) (announce : PoolAnnounce) : Entry :=
  { entry.clear with
    producerId := announce.producerId
    epoch := announce.epoch
    layoutVersion := announce.layoutVersion
    headerNslots := announce.headerNslots
    headerSlotBytes := announce.headerSlotBytes
    maxDims := Discovery.maxDims
    headerRegionUri := copyInto uriLength (announce.headerRegionUri.getD [])
    poolCount := announce.pools.length }

/-- What the environment answers to one update. -/
structure Outside where
  grows : Bool
  allocates : Bool
  nowNs : UInt64
  deriving DecidableEq, Repr

/-- This is the part of the announce that follows its checks. -/
def Entry.announce (entry : Entry) (announce : PoolAnnounce) (outside : Outside) : Outcome × Entry :=
  if entry.newer announce.epoch then (.ignored, entry)
  else
    let entry := entry.rewrite announce
    if !outside.allocates then
      (.refused "tp_discovery_service_apply_announce: pool allocation failed", entry)
    else if announce.pools.any fun pool => pool.poolNslots != announce.headerNslots then
      (.refused "tp_discovery: ignoring announce with pool_nslots mismatch", entry.clear)
    else
      (.applied,
        { entry with
          pools := some (announce.pools.map AnnouncedPool.entry)
          lastAnnounceNs := outside.nowNs })

/-- This is `tp_discovery_service_apply_announce`. -/
def applyAnnounce (entries : List Entry) (announce : PoolAnnounce) (outside : Outside) : Outcome × List Entry :=
  if announce.streamId = 0 then
    (.refused "tp_discovery_service_apply_announce: invalid input", entries)
  else if announce.headerSlotBytes ≠ headerSlotBytes then
    (.refused "tp_discovery: ignoring announce with invalid header_slot_bytes", entries)
  else if announce.pools.isEmpty ∨ announce.headerNslots = 0 then
    (.refused "tp_discovery: ignoring announce with empty pools", entries)
  else
    match reserveEntry entries announce.streamId outside.grows with
    | none => (.refused "tp_discovery_entry_reserve: allocation failed", entries)
    | some (index, entries) =>
        let (outcome, entry) := (entries.getD index { streamId := 0 }).announce announce outside
        (outcome, entries.set index entry)

/-- This is `tp_discovery_service_apply_data_source`. -/
def applyDataSource (entries : List Entry) (announce : DataSourceAnnounce) (outside : Outside) :
    Outcome × List Entry :=
  if announce.streamId = 0 then
    (.refused "tp_discovery_service_apply_data_source: invalid input", entries)
  else
    match reserveEntry entries announce.streamId outside.grows with
    | none => (.refused "tp_discovery_entry_reserve: allocation failed", entries)
    | some (index, entries) =>
        let entry := entries.getD index { streamId := 0 }
        if entry.newer announce.epoch then (.ignored, entries)
        else
          let renamed := (announce.name.map (copyInto nameLength)).getD entry.dataSourceName
          (.applied, entries.set index
            { entry with
              producerId := announce.producerId
              epoch := announce.epoch
              dataSourceName := renamed
              lastAnnounceNs := outside.nowNs })

/-- What the environment answers while the tags are copied. -/
structure TagOutside where
  grows : Bool
  allocates : Bool
  copies : Nat → Bool
  nowNs : UInt64

/-- This is `tp_discovery_service_set_tags`; an absent tag is stored as the empty one. -/
def setTags (entries : List Entry) (streamId : UInt32) (tags : List (Option Text)) (outside : TagOutside) :
    Outcome × List Entry :=
  if streamId = 0 then (.refused "tp_discovery_service_set_tags: invalid input", entries)
  else
    match reserveEntry entries streamId outside.grows with
    | none => (.refused "tp_discovery_entry_reserve: allocation failed", entries)
    | some (index, entries) =>
        let entry := { entries.getD index { streamId := 0 } with tags := [] }
        if tags.isEmpty then (.applied, entries.set index { entry with lastAnnounceNs := outside.nowNs })
        else if !outside.allocates then
          (.refused "tp_discovery_service_set_tags: tags allocation failed", entries.set index entry)
        else if (List.range tags.length).all outside.copies then
          (.applied, entries.set index
            { entry with tags := tags.map (·.getD []), lastAnnounceNs := outside.nowNs })
        else (.refused "tp_discovery_service_set_tags: tag copy failed", entries.set index entry)

/-- This is `tp_discovery_request_t`. -/
structure Request where
  requestId : UInt64
  clientId : UInt32
  responseChannel : Option Text
  responseStreamId : UInt32
  streamId : UInt32
  producerId : UInt32
  dataSourceId : UInt64
  dataSourceName : Option Text
  tags : List (Option Text)
  deriving DecidableEq, Repr

/-- This is `tp_discovery_result_t`; a failed allocation leaves `none` beside its count. -/
structure Result where
  streamId : UInt32
  producerId : UInt32
  epoch : UInt64
  layoutVersion : UInt32
  headerNslots : UInt32
  headerSlotBytes : UInt16
  maxDims : UInt8
  dataSourceId : UInt64
  driverControlStreamId : UInt32
  headerRegionUri : Text
  dataSourceName : Text
  driverInstanceId : Text
  driverControlChannel : Text
  poolCount : Nat
  pools : Option (List PoolEntry)
  tagCount : Nat
  tags : Option (List (Option Text))
  deriving DecidableEq, Repr

inductive Status where
  | ok
  | notFound
  | error
  deriving DecidableEq, Repr

structure Response where
  requestId : UInt64
  status : Status
  errorMessage : Text
  results : List Result
  deriving DecidableEq, Repr

def Entry.hasTag (entry : Entry) (tag : Option Text) : Bool :=
  match tag with
  | none => false
  | some tag => entry.tags.contains tag

/-- A filter with its null value passes every entry. -/
def Entry.matches (entry : Entry) (request : Request) : Bool :=
  (request.streamId == nullU32 || request.streamId == entry.streamId) &&
    (request.producerId == nullU32 || request.producerId == entry.producerId) &&
    (request.dataSourceId == nullU64 || request.dataSourceId == entry.dataSourceId) &&
    (match request.dataSourceName with
      | some name => name.isEmpty || name == entry.dataSourceName
      | none => true) &&
    request.tags.all entry.hasTag

/-- The window is three announce periods. -/
def expiryNs (config : Config) : UInt64 :=
  let periodNs := config.announcePeriodMs.toUInt64 * 1000000
  (if periodNs = 0 then 1000000000 else periodNs) * 3

def pruneExpired (config : Config) (nowNs : UInt64) (entries : List Entry) : List Entry :=
  entries.filter fun entry =>
    !(entry.lastAnnounceNs != 0 && decide (nowNs > entry.lastAnnounceNs + expiryNs config))

/-- An entry without an accepted time and an entry outside the window are not shown. -/
def Entry.shown (entry : Entry) (config : Config) (nowNs : UInt64) (request : Request) : Bool :=
  !(entry.lastAnnounceNs == 0 || decide (nowNs > entry.lastAnnounceNs + expiryNs config)) && entry.matches request

/-- What the environment answers to one query. -/
structure QueryOutside where
  pruneNs : UInt64
  nowNs : UInt64
  allocates : Bool
  poolsAllocate : Nat → Bool
  tagsAllocate : Nat → Bool
  tagCopies : Nat → Nat → Bool

/-- This is `tp_discovery_result_fill`; pools that are counted but missing are read through a null pointer. -/
def Entry.result (entry : Entry) (config : Config) (outside : QueryOutside) (index : Nat) : Option Result := do
  let pools ←
    if entry.poolCount > 0 && outside.poolsAllocate index then
      entry.pools.map fun pools =>
        some (pools.map fun pool => { pool with regionUri := copyInto uriLength pool.regionUri })
    else some none
  let tags :=
    if !entry.tags.isEmpty && outside.tagsAllocate index then
      some (entry.tags.mapIdx fun place tag => if outside.tagCopies index place then some tag else none)
    else none
  some
    { streamId := entry.streamId
      producerId := entry.producerId
      epoch := entry.epoch
      layoutVersion := entry.layoutVersion
      headerNslots := entry.headerNslots
      headerSlotBytes := entry.headerSlotBytes
      maxDims := entry.maxDims
      dataSourceId := entry.dataSourceId
      driverControlStreamId := config.driverControlStreamId.toUInt32
      headerRegionUri := copyInto uriLength entry.headerRegionUri
      dataSourceName := copyInto nameLength entry.dataSourceName
      driverInstanceId := copyInto nameLength config.driverInstanceId
      driverControlChannel := copyInto 1024 config.driverControlChannel
      poolCount := entry.poolCount
      pools := pools
      tagCount := entry.tags.length
      tags := tags }

/-- The results are filled in one after the other. -/
def fillResults (config : Config) (outside : QueryOutside) : Nat → List Entry → Option (List Result)
  | _, [] => some []
  | index, entry :: rest => do
      let result ← entry.result config outside index
      let results ← fillResults config outside (index + 1) rest
      some (result :: results)

def limitExceeded : Text := "result limit exceeded".toUTF8.toList

/-- This is `tp_discovery_service_query`; the outer `none` is a fault and the inner one a failed allocation. -/
def query (config : Config) (entries : List Entry) (request : Request) (outside : QueryOutside) :
    Option (Option Response × List Entry) :=
  let entries := pruneExpired config outside.pruneNs entries
  let shown := entries.filter fun entry => entry.shown config outside.nowNs request
  if shown.length > config.maxResults.toNat then
    some (some ⟨request.requestId, .error, limitExceeded, []⟩, entries)
  else if shown.isEmpty then some (some ⟨request.requestId, .ok, [], []⟩, entries)
  else if !outside.allocates then some (none, entries)
  else (fillResults config outside 0 shown).map fun results => (some ⟨request.requestId, .ok, [], results⟩, entries)

end TensorPool.Discovery
