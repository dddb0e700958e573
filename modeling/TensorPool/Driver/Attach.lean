/-
This file grants or refuses an attach request.
A refused request leaves behind whatever the driver changed before its refusal.
-/

import Mathlib.Data.List.Basic
import TensorPool.Driver.NodeId
import TensorPool.Driver.Send
import TensorPool.Library.Attempt

namespace TensorPool.Driver

open Attempt

/-- An error response carries this code and this text. -/
structure Rejection where
  code : ResponseCode
  message : String
  deriving DecidableEq, Repr

/-- This is `tp_driver_find_stream`; the result is an index instead of a pointer. -/
def findStream (streams : List StreamState) (streamId : UInt32) : Option Nat :=
  if streamId = 0 then none else streams.findIdx? fun stream => stream.streamId == streamId

def State.streamAt (s : State) (index : Nat) : StreamState := s.streams.getD index {}

/-- The driver writes one stream through its pointer. -/
def State.setStream (s : State) (index : Nat) (stream : StreamState) (w : World) : State :=
  { s with streams := s.streams.set index stream, world := w }

/-- The cursor of a range goes round from its end to its start. -/
def IdRange.after (range : IdRange) (cursor : UInt32) : UInt32 :=
  if cursor = range.stop then range.start else cursor + 1

/-- The scan of one range tries each of its identifiers once. -/
def scanRange (streams : List StreamState) (range : IdRange) : Nat → UInt32 → Option UInt32
  | 0, _ => none
  | remaining + 1, cursor =>
      if findStream streams cursor = none then some cursor
      else scanRange streams range remaining (range.after cursor)

/-- This is `tp_driver_allocate_stream_id`; it moves the cursor of the range that it used. -/
def allocateStreamId (streams : List StreamState) : List IdRange → Option (UInt32 × List IdRange)
  | [] => none
  | range :: rest =>
      match scanRange streams range ((range.stop - range.start).toNat + 1) range.next with
      | some cursor => some (cursor, { range with next := range.after cursor } :: rest)
      | none => (allocateStreamId streams rest).map fun (cursor, ranges) => (cursor, range :: ranges)

/-- An absent or unknown publish mode counts as `EXISTING_OR_CREATE`. -/
def createAllowed (request : AttachRequest) : Bool :=
  request.publishMode == none || request.publishMode == some .existingOrCreate

def findDefaultProfile (config : Config) : Option Profile :=
  if config.defaultProfile.isEmpty then none
  else config.profiles.find? fun profile => profile.name == config.defaultProfile

/-- The first checks read the request and the lease table. -/
def attachAdmit (request : AttachRequest) : Attempt State Rejection Role := do
  let s ← get
  match request.role with
  | none => throw ⟨.invalidParams, "invalid role"⟩
  | some role =>
      stopIf (request.clientId = 0) ⟨.invalidParams, "client_id must be non-zero"⟩
      stopIf (clientIdInUse s.leases request.clientId) ⟨.rejected, "client_id already attached"⟩
      stopIf (request.expectedLayoutVersion ≠ 0 ∧ request.expectedLayoutVersion ≠ layoutVersion)
        ⟨.rejected, "layout version mismatch"⟩
      pure role

/-- A request for stream zero takes the next identifier of a range. -/
def chooseStreamId (streamId : UInt32) : Attempt State Rejection UInt32 := do
  let s ← get
  if streamId ≠ 0 then pure streamId
  else match allocateStreamId s.streams s.streamIdRanges with
    | none => throw ⟨.invalidParams, "no stream ids available"⟩
    | some (streamId, ranges) =>
        set ({ s with streamIdRanges := ranges } : State)
        pure streamId

/-- This is `tp_driver_add_stream`. -/
def addStream (o : Oracle) (streamId : UInt32) (profile : Profile) : Attempt State Rejection Unit := do
  let s ← get
  if o.reallocates s.world.calls then
    set ({ s with
      streams := s.streams ++
        [{ streamId, profile := some profile, requireHugepages := s.config.requireHugepages }]
      world := s.world.called } : State)
  else
    set ({ s with world := s.world.called } : State)
    throw ⟨.internalError, "stream allocation failed"⟩

/-- An unknown stream is created with the default profile. -/
def createStream (o : Oracle) (request : AttachRequest) : Attempt State Rejection UInt32 := do
  let s ← get
  stopIf (!createAllowed request || !s.config.allowDynamicStreams) ⟨.rejected, "stream not provisioned"⟩
  let streamId ← chooseStreamId request.streamId
  match findDefaultProfile s.config with
  | none => throw ⟨.invalidParams, "default profile missing"⟩
  | some profile =>
      addStream o streamId profile
      pure streamId

/-- A stream serves requests when its profile has at least one pool. -/
def StreamState.poolless (stream : StreamState) : Bool :=
  match stream.profile with
  | none => true
  | some profile => profile.pools.isEmpty

/-- The driver finds the stream of the request or creates it. -/
def resolveStream (o : Oracle) (request : AttachRequest) : Attempt State Rejection UInt32 := do
  let s ← get
  if (findStream s.streams request.streamId).isSome then pure request.streamId
  else createStream o request

/-- The driver looks the stream up again and checks its profile. -/
def usableStream (streamId : UInt32) : Attempt State Rejection Nat := do
  let s ← get
  match findStream s.streams streamId with
  | none => throw ⟨.invalidParams, "invalid profile"⟩
  | some index =>
      stopIf (s.streamAt index).poolless ⟨.invalidParams, "invalid profile"⟩
      pure index

def attachStream (o : Oracle) (request : AttachRequest) : Attempt State Rejection Nat := do
  let streamId ← resolveStream o request
  usableStream streamId

/-- This is `tp_driver_should_require_hugepages`. -/
def shouldRequireHugepages (config : Config) : HugepagesPolicy → Bool
  | .hugepages => true
  | .standard => false
  | _ => config.requireHugepages

/-- The directory must match the page size that the request asks for. -/
def attachHugepages (o : Oracle) (request : AttachRequest) : Attempt State Rejection Bool := do
  let s ← get
  let policy := request.requireHugepages.getD .unspecified
  let hugepagesDir := o.hugepagesDir s.world.calls
  stopIf (policy = .nullValue) ⟨.invalidParams, "invalid hugepages policy"⟩
  if shouldRequireHugepages s.config policy then
    set ({ s with world := s.world.called } : State)
    stopIf (hugepagesDir ≠ some true) ⟨.rejected, "hugepages not available"⟩
    pure true
  else if policy = .standard then
    set ({ s with world := s.world.called } : State)
    stopIf (hugepagesDir = some true) ⟨.rejected, "standard pages requested"⟩
    pure false
  else pure false

/-- A desired node must be unused and out of cooldown. -/
def attachNodeId (o : Oracle) (request : AttachRequest) : Attempt State Rejection UInt64 := do
  let s ← get
  let now := o.clock s.world.calls
  if request.desiredNodeId = nullU32 then pure now
  else if nodeIdInUse s.leases request.desiredNodeId then
    set ({ s with world := s.world.called } : State)
    throw ⟨.rejected, "desired node_id unavailable"⟩
  else
    let (cooling, cooldowns) := nodeIdInCooldown s.nodeIdCooldowns request.desiredNodeId now
    set ({ s with nodeIdCooldowns := cooldowns, world := s.world.called } : State)
    stopIf cooling ⟨.rejected, "desired node_id unavailable"⟩
    pure now

/-- The lease times come from one reading of the clock. -/
def attachClock (o : Oracle) : Attempt State Rejection UInt64 := do
  let s ← get
  set ({ s with world := s.world.called } : State)
  pure (o.clock s.world.calls)

/-- A stream with an epoch keeps the page size that it has. -/
def StreamState.pages (stream : StreamState) (asked : Bool) : Bool :=
  if stream.epoch ≠ 0 then stream.requireHugepages else asked

/-- A producer gets a new epoch; a consumer gets one only for a stream without any. -/
def attachEpoch (o : Oracle) (role : Role) (index : Nat) (asked : Bool) :
    Attempt State Rejection Bool := do
  let s ← get
  let stream := s.streamAt index
  let require := stream.pages asked
  if role = .producer ∨ stream.epoch = 0 then
    let (stream, w) := bumpEpoch o stream s.world
    let (created, stream, w) := createShmEpoch o s.config { stream with requireHugepages := require } w
    set (s.setStream index stream w)
    stopIf (!created) ⟨.internalError, "shm creation failed"⟩
    pure require
  else pure require

/-- The expiry wraps at 64 bits. -/
def leaseExpiry (config : Config) (now : UInt64) : UInt64 :=
  now + config.leaseKeepaliveIntervalMs.toUInt64 * 1000000 * config.leaseExpiryGraceIntervals.toUInt64

/-- The node of a lease is the desired one or a drawn one, with the time of its check. -/
def leaseNodeId (o : Oracle) (request : AttachRequest) (checkedNs : UInt64) :
    Attempt State Rejection (UInt32 × UInt64) := do
  let s ← get
  if request.desiredNodeId ≠ nullU32 then pure (request.desiredNodeId, checkedNs)
  else
    let (nodeId, after) := nextNodeId o s
    set after
    stopIf (nodeId = nullU32) ⟨.internalError, "node_id allocation failed"⟩
    pure (nodeId, o.clock s.world.calls)

/-- This is `tp_driver_add_lease`. -/
def addLease (o : Oracle) (lease : Lease) (checkedNs : UInt64) : Attempt State Rejection Unit := do
  let s ← get
  if s.leases.length + 1 > s.leaseCapacity then
    if o.reallocates s.world.calls then
      set ({ s with
        leases := s.leases ++ [lease]
        leaseCapacity := grownCapacity s.leaseCapacity
        world := s.world.called.record (.leaseGranted lease checkedNs) } : State)
    else
      set ({ s with world := s.world.called } : State)
      throw ⟨.internalError, "lease allocation failed"⟩
  else
    set ({ s with
      leases := s.leases ++ [lease]
      world := s.world.record (.leaseGranted lease checkedNs) } : State)

/-- The stream remembers its producer. -/
def StreamState.claim (stream : StreamState) (lease : Lease) : StreamState :=
  if lease.role = .producer then
    { stream with producerLeaseId := lease.leaseId, producerClientId := lease.clientId }
  else stream

/-- The driver fills in every field of a new lease. -/
def newLease (config : Config) (request : AttachRequest) (role : Role) (streamId : UInt32) (now leaseId : UInt64)
    (nodeId : UInt32) : Lease where
  leaseId := leaseId
  expiryNs := leaseExpiry config now
  issuedNs := now
  streamId := streamId
  clientId := request.clientId
  nodeId := nodeId
  role := role

/-- The new lease enters the table before any message about it. -/
def attachLease (o : Oracle) (request : AttachRequest) (role : Role) (index : Nat)
    (now checkedNs : UInt64) : Attempt State Rejection Lease := do
  let s ← get
  let (leaseId, w) := nextLeaseId o s.leaseCounter s.world
  set ({ s with leaseCounter := leaseId, world := w } : State)
  let (nodeId, checkedNs) ← leaseNodeId o request checkedNs
  let lease := newLease s.config request role (s.streamAt index).streamId now leaseId nodeId
  addLease o lease checkedNs
  let s ← get
  set (s.setStream index ((s.streamAt index).claim lease) s.world)
  pure lease

/-- The checks of a request decide how its lease is made. -/
structure Admission where
  role : Role
  index : Nat
  asked : Bool
  checkedNs : UInt64
  now : UInt64

/-- The driver makes every check before it touches an epoch or a lease. -/
def attachChecks (o : Oracle) (request : AttachRequest) : Attempt State Rejection Admission := do
  let role ← attachAdmit request
  let index ← attachStream o request
  let s ← get
  stopIf (role = .producer ∧ (s.streamAt index).producerLeaseId ≠ 0) ⟨.rejected, "producer already attached"⟩
  let asked ← attachHugepages o request
  let checkedNs ← attachNodeId o request
  let now ← attachClock o
  pure { role, index, asked, checkedNs, now }

structure Grant where
  index : Nat
  lease : Lease
  requireHugepages : Bool

/-- The epoch comes before the lease. -/
def attachCommit (o : Oracle) (request : AttachRequest) (admission : Admission) :
    Attempt State Rejection Grant := do
  let requireHugepages ← attachEpoch o admission.role admission.index admission.asked
  let lease ← attachLease o request admission.role admission.index admission.now admission.checkedNs
  pure { index := admission.index, lease, requireHugepages }

/-- This is `tp_driver_handle_attach` without its messages. -/
def grantAttach (o : Oracle) (request : AttachRequest) : Attempt State Rejection Grant := do
  let admission ← attachChecks o request
  attachCommit o request admission

/-- The driver announces the stream at this index. -/
def State.announce (o : Oracle) (s : State) (index : Nat) (requireHugepages : Bool) : State :=
  let (stream, w) := sendAnnounce o s.config (s.streamAt index) requireHugepages s.world
  s.setStream index stream w

/-- This is `tp_driver_handle_attach`. -/
def handleAttach (o : Oracle) (request : AttachRequest) (s : State) : Int × State :=
  match (grantAttach o request).exec s with
  | (.error rejection, s) =>
      let (result, w) := sendAttachRefused o request.correlationId rejection.code rejection.message s.world
      (result, { s with world := w })
  | (.ok grant, s) =>
      let s := s.announce o grant.index grant.requireHugepages
      let (result, w) := sendAttachGranted o s.config request.correlationId (s.streamAt grant.index)
        grant.lease grant.requireHugepages s.world
      (result, { s with world := w })

end TensorPool.Driver
