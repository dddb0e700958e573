/-
This file holds the driver's tables, its requests and its messages.
-/

import Mathlib.Algebra.Group.Nat.Defs
import Mathlib.Data.List.Basic

namespace TensorPool.Driver

/-- The generated getter also accepts the null value of the role field. -/
inductive Role where
  | producer
  | consumer
  | nullValue
  deriving DecidableEq, Repr

/-- This is the wire value of `tensor_pool_role`. -/
def Role.code : Role → UInt8
  | .producer => 1
  | .consumer => 2
  | .nullValue => 255

inductive PublishMode where
  | requireExisting
  | existingOrCreate
  | nullValue
  deriving DecidableEq, Repr

inductive HugepagesPolicy where
  | unspecified
  | standard
  | hugepages
  | nullValue
  deriving DecidableEq, Repr

inductive ResponseCode where
  | ok
  | unsupported
  | invalidParams
  | rejected
  | internalError
  deriving DecidableEq, Repr

inductive LeaseRevokeReason where
  | detached
  | expired
  | revoked
  deriving DecidableEq, Repr

inductive RegionType where
  | headerRing
  | payloadPool
  deriving DecidableEq, Repr

/-- The schemas use this value for an absent 32-bit field. -/
def nullU32 : UInt32 := 0xFFFFFFFF

def layoutVersion : UInt32 := 1
def headerSlotBytes : UInt32 := 256

structure PoolDef where
  poolId : UInt16
  strideBytes : UInt32
  deriving DecidableEq, Repr

structure Profile where
  name : String
  headerNslots : UInt32
  pools : List PoolDef
  deriving DecidableEq, Repr

structure StreamDef where
  streamId : UInt32
  profile : Option Profile
  deriving DecidableEq, Repr

structure IdRange where
  start : UInt32
  stop : UInt32
  next : UInt32
  deriving DecidableEq, Repr

/-- These are the configuration fields that the driver reads. -/
structure Config where
  shmBaseDir : String
  shmNamespace : String
  requireHugepages : Bool
  allowDynamicStreams : Bool
  defaultProfile : String
  announcePeriodMs : UInt32
  leaseKeepaliveIntervalMs : UInt32
  leaseExpiryGraceIntervals : UInt32
  epochGcEnabled : Bool
  epochGcOnStartup : Bool
  epochGcKeep : UInt32
  epochGcMinAgeNs : UInt64
  nodeIdReuseCooldownMs : UInt32
  streamIdRanges : List IdRange
  profiles : List Profile
  streams : List StreamDef
  deriving DecidableEq, Repr

/-- This is `tp_driver_lease_t`. -/
structure Lease where
  leaseId : UInt64
  expiryNs : UInt64
  issuedNs : UInt64
  streamId : UInt32
  clientId : UInt32
  nodeId : UInt32
  role : Role
  deriving DecidableEq, Repr

/-- This is `tp_driver_node_id_cooldown_t`. -/
structure NodeIdCooldown where
  nodeId : UInt32
  expiresNs : UInt64
  deriving DecidableEq, Repr

/-- This is `tp_driver_stream_state_t`; the defaults are its zeroed memory. -/
structure StreamState where
  streamId : UInt32 := 0
  profile : Option Profile := none
  epoch : UInt64 := 0
  epochCreatedNs : UInt64 := 0
  lastAnnounceNs : UInt64 := 0
  producerLeaseId : UInt64 := 0
  producerClientId : UInt32 := 0
  requireHugepages : Bool := false
  deriving DecidableEq, Repr, Inhabited

/-- A request field is `none` when its generated getter fails. -/
structure AttachRequest where
  correlationId : Int
  streamId : UInt32
  clientId : UInt32
  role : Option Role
  expectedLayoutVersion : UInt32
  publishMode : Option PublishMode
  requireHugepages : Option HugepagesPolicy
  desiredNodeId : UInt32
  deriving DecidableEq, Repr

structure DetachRequest where
  correlationId : Int
  leaseId : UInt64
  streamId : UInt32
  clientId : UInt32
  role : Option Role
  deriving DecidableEq, Repr

structure LeaseKeepalive where
  leaseId : UInt64
  streamId : UInt32
  clientId : UInt32
  role : Option Role
  deriving DecidableEq, Repr

/-- A generated `put` writes a text behind its length, the length of a text that does not fit, or nothing. -/
inductive Put where
  | whole
  | lengthOnly
  | nothing
  deriving DecidableEq, Repr

/-- This is a `varAsciiEncoding` field as its message carries it. -/
structure VarAscii where
  text : String
  put : Put
  deriving DecidableEq, Repr

/-- One entry of a `payloadPools` group. -/
structure PoolBody where
  poolId : UInt16
  poolNslots : UInt32
  strideBytes : UInt32
  regionUri : VarAscii
  deriving DecidableEq, Repr

/-- These fields are null in a response with another code than `OK`. -/
structure AttachBody where
  leaseId : UInt64
  leaseExpiryTimestampNs : UInt64
  streamId : UInt32
  epoch : UInt64
  layoutVersion : UInt32
  headerNslots : UInt32
  headerSlotBytes : UInt32
  nodeId : UInt32
  payloadPools : List PoolBody
  headerRegionUri : VarAscii
  deriving DecidableEq, Repr

structure AttachResponse where
  correlationId : Int
  code : ResponseCode
  body : Option AttachBody
  errorMessage : VarAscii
  deriving DecidableEq, Repr

structure DetachResponse where
  correlationId : Int
  code : ResponseCode
  errorMessage : VarAscii
  deriving DecidableEq, Repr

structure LeaseRevoked where
  timestampNs : UInt64
  leaseId : UInt64
  streamId : UInt32
  clientId : UInt32
  role : Role
  reason : LeaseRevokeReason
  errorMessage : VarAscii
  deriving DecidableEq, Repr

structure PoolAnnounce where
  streamId : UInt32
  producerId : UInt32
  epoch : UInt64
  announceTimestampNs : UInt64
  layoutVersion : UInt32
  headerNslots : UInt32
  headerSlotBytes : UInt32
  payloadPools : List PoolBody
  headerRegionUri : VarAscii
  deriving DecidableEq, Repr

inductive Message where
  | attachResponse (response : AttachResponse)
  | detachResponse (response : DetachResponse)
  | leaseRevoked (notice : LeaseRevoked)
  | poolAnnounce (announce : PoolAnnounce)
  deriving DecidableEq, Repr

/-- The superblock fields that identify a region file. -/
structure RegionFile where
  streamId : UInt32
  epoch : UInt64
  regionType : RegionType
  poolId : UInt16
  nslots : UInt32
  slotBytes : UInt32
  strideBytes : UInt32
  deriving DecidableEq, Repr

/--
The log orders what the driver did.
`offered` holds the result of the publication, the other entries record changes
to files and tables at the point where the driver makes them.
A removal unlinks the region files of an epoch, and it is complete when the directory goes with them.
-/
inductive Event where
  | offered (message : Message) (result : Int)
  | regionCreated (file : RegionFile)
  | regionFailed (file : RegionFile)
  | epochRemoved (streamId : UInt32) (epoch : UInt64) (complete : Bool)
  | epochBumped (streamId : UInt32) (epoch : UInt64)
  | leaseGranted (lease : Lease) (nodeCheckedNs : UInt64)
  | leaseEnded (lease : Lease) (atNs : UInt64)
  deriving DecidableEq, Repr

/-- One directory entry; `isDirectory` is `none` when `stat` fails on it. -/
structure DirEntry where
  name : String
  isDirectory : Option Bool
  deriving DecidableEq, Repr

/-- The environment answers each external call from the number of calls before it. -/
structure Oracle where
  clock : Nat → UInt64
  random : Nat → UInt64
  reallocates : Nat → Bool
  writesRegion : Nat → Bool
  offer : Nat → Int
  hugepagesDir : Nat → Option Bool
  listing : Nat → Option (List DirEntry)
  modified : Nat → Option UInt64
  removesDir : Nat → Bool
  user : Option String

/-- The driver's side of the environment: calls made and effects so far. -/
structure World where
  calls : Nat := 0
  log : List Event := []
  deriving DecidableEq, Repr

def World.called (w : World) : World := { w with calls := w.calls + 1 }

def World.record (w : World) (event : Event) : World := { w with log := w.log ++ [event] }

@[simp] theorem World.called_calls (w : World) : w.called.calls = w.calls + 1 := rfl
@[simp] theorem World.called_log (w : World) : w.called.log = w.log := rfl
@[simp] theorem World.record_calls (w : World) (event : Event) : (w.record event).calls = w.calls := rfl
@[simp] theorem World.record_log (w : World) (event : Event) :
    (w.record event).log = w.log ++ [event] := rfl

/--
This is `tp_driver_t`.
The range cursors are the only part of its configuration that changes.
-/
structure State where
  config : Config
  streamIdRanges : List IdRange
  streams : List StreamState
  leases : List Lease
  leaseCapacity : Nat
  leaseCounter : UInt64
  nextAnnounceNs : UInt64
  nodeIdCooldowns : List NodeIdCooldown
  nodeIdCooldownCapacity : Nat
  world : World
  deriving DecidableEq, Repr

end TensorPool.Driver
