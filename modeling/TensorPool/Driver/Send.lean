/-
This file encodes and offers the messages of the driver.
-/

import Mathlib.Data.List.Basic
import TensorPool.Driver.Regions

namespace TensorPool.Driver

/-- The `wrap` and the `next` of a group move the position only inside the buffer, and the driver checks them. -/
def advance (limit position count : Nat) : Option Nat :=
  if position + count ≤ limit then some (position + count) else none

/--
A text takes a length of four bytes and its characters.
The driver compares the pointer that `put` returns with zero, so it never learns that a text did not fit.
-/
def putVarData (limit position : Nat) (text : String) : VarAscii × Nat :=
  if position + 4 ≤ limit then
    if position + 4 + strlen text ≤ limit then (⟨text, .whole⟩, position + 4 + strlen text)
    else (⟨text, .lengthOnly⟩, position + 4)
  else (⟨text, .nothing⟩, position)

/-- Both announces and responses use a buffer of this size. -/
def bufferLength : Nat := 2048

def messageHeaderLength : Nat := 8
def groupHeaderLength : Nat := 4
def poolBlockLength : Nat := 10
def attachResponseBlockLength : Nat := 54
def detachResponseBlockLength : Nat := 12
def leaseRevokedBlockLength : Nat := 26
def poolAnnounceBlockLength : Nat := 35

/--
The block of each entry must fit, and its region URI is put as far as it fits.
A group has room for fewer blocks than its 16-bit count can name.
-/
def encodePools (limit : Nat) (nslots : UInt32) (uri : PoolDef → Option String) :
    List PoolDef → Nat → Option (List PoolBody × Nat)
  | [], position => some ([], position)
  | pool :: rest, position => do
      let position ← advance limit position poolBlockLength
      let text ← uri pool
      let regionUri := putVarData limit position text
      let (bodies, position) ← encodePools limit nslots uri rest regionUri.2
      some ({ poolId := pool.poolId, poolNslots := nslots, strideBytes := pool.strideBytes,
              regionUri := regionUri.1 } :: bodies, position)

/-- The pools and the header URI stand in the same order in both messages. -/
def encodeRegions (o : Oracle) (config : Config) (stream : StreamState) (profile : Profile)
    (requireHugepages : Bool) (position : Nat) : Option (List PoolBody × VarAscii × Nat) := do
  let position ← advance bufferLength position groupHeaderLength
  let (pools, position) ← encodePools bufferLength profile.headerNslots
    (fun pool => buildRegionUri o config stream.streamId stream.epoch pool.poolId .payloadPool
      requireHugepages) profile.pools position
  let headerUri ← buildRegionUri o config stream.streamId stream.epoch 0 .headerRing requireHugepages
  some (pools, putVarData bufferLength position headerUri)

/-- This is `tp_driver_send_control`. -/
def sendControl (o : Oracle) (message : Message) (w : World) : Int × World :=
  let result := o.offer w.calls
  (if result < 0 then result else 0, w.called.record (.offered message result))

/-- The body of an `OK` response; the last part is the position after the header URI. -/
def encodeAttachBody (o : Oracle) (config : Config) (stream : StreamState) (lease : Lease)
    (requireHugepages : Bool) : Option (AttachBody × Nat) := do
  let profile ← stream.profile
  let (pools, headerUri, position) ← encodeRegions o config stream profile requireHugepages
    (messageHeaderLength + attachResponseBlockLength)
  some ({ leaseId := lease.leaseId, leaseExpiryTimestampNs := lease.expiryNs,
          streamId := stream.streamId, epoch := stream.epoch, layoutVersion,
          headerNslots := profile.headerNslots, headerSlotBytes, nodeId := lease.nodeId,
          payloadPools := pools, headerRegionUri := headerUri }, position)

/-- This is the branch of `tp_driver_send_attach_response` for a granted lease. -/
def sendAttachGranted (o : Oracle) (config : Config) (correlationId : Int) (stream : StreamState)
    (lease : Lease) (requireHugepages : Bool) (w : World) : Int × World :=
  match encodeAttachBody o config stream lease requireHugepages with
  | none => (-1, w)
  | some (body, position) =>
      sendControl o (.attachResponse
        { correlationId, code := .ok, body := some body,
          errorMessage := (putVarData bufferLength position "").1 }) w

/-- This is the other branch, with null fields, no pools and an empty header URI. -/
def sendAttachRefused (o : Oracle) (correlationId : Int) (code : ResponseCode)
    (errorMessage : String) (w : World) : Int × World :=
  sendControl o (.attachResponse
    { correlationId, code, body := none,
      errorMessage := (putVarData bufferLength
        (messageHeaderLength + attachResponseBlockLength + groupHeaderLength + 4) errorMessage).1 }) w

/-- This is `tp_driver_send_detach_response`; no message encodes as an empty one. -/
def sendDetachResponse (o : Oracle) (correlationId : Int) (code : ResponseCode)
    (errorMessage : String) (w : World) : Int × World :=
  sendControl o (.detachResponse
    { correlationId, code,
      errorMessage := (putVarData 512 (messageHeaderLength + detachResponseBlockLength) errorMessage).1 }) w

/-- This is `tp_driver_send_lease_revoked`. -/
def sendLeaseRevoked (o : Oracle) (lease : Lease) (reason : LeaseRevokeReason)
    (errorMessage : String) (w : World) : Int × World :=
  let timestampNs := o.clock w.calls
  sendControl o (.leaseRevoked
    { timestampNs, leaseId := lease.leaseId, streamId := lease.streamId,
      clientId := lease.clientId, role := lease.role, reason,
      errorMessage := (putVarData 512 (messageHeaderLength + leaseRevokedBlockLength) errorMessage).1 }) w.called

/-- This is the announce of the stream's current epoch. -/
def encodeAnnounce (o : Oracle) (config : Config) (stream : StreamState) (requireHugepages : Bool)
    (now : UInt64) : Option PoolAnnounce := do
  let profile ← stream.profile
  let (pools, headerUri, _) ← encodeRegions o config stream profile requireHugepages
    (messageHeaderLength + poolAnnounceBlockLength)
  some { streamId := stream.streamId, producerId := stream.producerClientId, epoch := stream.epoch,
         announceTimestampNs := now, layoutVersion, headerNslots := profile.headerNslots,
         headerSlotBytes, payloadPools := pools, headerRegionUri := headerUri }

/-- This is `tp_driver_send_announce`. -/
def sendAnnounce (o : Oracle) (config : Config) (stream : StreamState) (requireHugepages : Bool)
    (w : World) : StreamState × World :=
  let now := o.clock w.calls
  let w := w.called
  match encodeAnnounce o config stream requireHugepages now with
  | none => (stream, w)
  | some announce =>
      ({ stream with lastAnnounceNs := now }, (sendControl o (.poolAnnounce announce) w).2)

end TensorPool.Driver
