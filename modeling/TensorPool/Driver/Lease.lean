/-
This file renews, detaches and expires leases.
-/

import Mathlib.Data.List.Basic
import TensorPool.Driver.Attach

namespace TensorPool.Driver

/-- This is `tp_driver_find_lease`; the result is an index instead of a pointer. -/
def findLease (leases : List Lease) (leaseId : UInt64) : Option Nat :=
  if leaseId = 0 then none else leases.findIdx? fun lease => lease.leaseId == leaseId

/-- Detach and keepalive requests must name the whole identity of a lease. -/
def ownedLease (leases : List Lease) (leaseId : UInt64) (streamId clientId : UInt32) (role : Role) :
    Option (Nat × Lease) := do
  let index ← findLease leases leaseId
  let lease ← leases[index]?
  if lease.streamId ≠ streamId ∨ lease.clientId ≠ clientId ∨ lease.role ≠ role then none
  else some (index, lease)

/-- The stream forgets its producer when the lease is the one that it remembers. -/
def StreamState.release (stream : StreamState) (lease : Lease) : StreamState :=
  if stream.producerLeaseId = lease.leaseId then
    { stream with producerLeaseId := 0, producerClientId := 0 }
  else stream

/-- This is `tp_driver_release_producer`; it does nothing without a stream. -/
def releaseProducer (stream : Option Nat) (lease : Lease) (s : State) : State :=
  match stream with
  | none => s
  | some index => s.setStream index ((s.streamAt index).release lease) s.world

/-- This is `tp_driver_remove_lease`. -/
def removeLease (index : Nat) (s : State) : State := { s with leases := s.leases.eraseIdx index }

/-- The driver sends a revocation and ignores the result. -/
def revokeLease (o : Oracle) (lease : Lease) (reason : LeaseRevokeReason) (text : String) (s : State) :
    State :=
  { s with world := (sendLeaseRevoked o lease reason text s.world).2 }

/-- The node of an ended lease cools down before the driver frees the stream and the entry. -/
def endLease (o : Oracle) (index : Nat) (stream : Option Nat) (lease : Lease) (atNs : UInt64)
    (s : State) : State :=
  let s := recordNodeIdCooldown o lease.nodeId atNs s
  let s := removeLease index (releaseProducer stream lease s)
  { s with world := s.world.record (.leaseEnded lease atNs) }

/-- The stream moves to a new epoch, which is announced when its regions exist. -/
def fenceStream (o : Oracle) (index : Nat) (s : State) : State :=
  let (stream, w) := bumpEpoch o (s.streamAt index) s.world
  let (created, stream, w) := createShmEpoch o s.config stream w
  let s := s.setStream index stream w
  if created then s.announce o index stream.requireHugepages else s

/-- The driver fences a stream that it found, for a lease that it takes for a producer's. -/
def fenceFreed (o : Oracle) (isProducer : Bool) (stream : Option Nat) (s : State) : State :=
  match stream with
  | none => s
  | some index => if isProducer then fenceStream o index s else s

def respondDetach (o : Oracle) (request : DetachRequest) (code : ResponseCode) (text : String)
    (s : State) : Int × State :=
  let (result, w) := sendDetachResponse o request.correlationId code text s.world
  (result, { s with world := w })

/--
This is `tp_driver_handle_detach`.
It compares its role variable with the producer role while the variable is still zero.
-/
def handleDetach (o : Oracle) (request : DetachRequest) (s : State) : Int × State :=
  let stream := findStream s.streams request.streamId
  let isProducer := (0 : UInt8) == Role.producer.code
  match request.role with
  | none => respondDetach o request .invalidParams "invalid role" s
  | some role =>
      match ownedLease s.leases request.leaseId request.streamId request.clientId role with
      | none => respondDetach o request .rejected "lease not found" s
      | some (index, lease) =>
          let s := revokeLease o lease .detached "lease detached" s
          let atNs := o.clock s.world.calls
          let s := endLease o index stream lease atNs { s with world := s.world.called }
          respondDetach o request .ok "" (fenceFreed o isProducer stream s)

/-- This is `tp_driver_handle_keepalive`; it answers nothing. -/
def handleKeepalive (o : Oracle) (request : LeaseKeepalive) (s : State) : State :=
  match request.role with
  | none => s
  | some role =>
      match ownedLease s.leases request.leaseId request.streamId request.clientId role with
      | none => s
      | some (index, lease) =>
          { s with
            leases := s.leases.set index
              { lease with expiryNs := leaseExpiry s.config (o.clock s.world.calls) }
            world := s.world.called }

/-- A lease without an expiry never expires. -/
def Lease.expired (lease : Lease) (now : UInt64) : Bool :=
  lease.expiryNs != 0 && decide (now > lease.expiryNs)

/-- This is the body of the expiry loop for an expired lease. -/
def expireLease (o : Oracle) (now : UInt64) (index : Nat) (lease : Lease) (s : State) : State :=
  let stream := findStream s.streams lease.streamId
  let s := revokeLease o lease .expired "lease expired" s
  fenceFreed o (lease.role == .producer) stream (endLease o index stream lease now s)

/-- The loop stays at its index after a removal. -/
def expireLoop (o : Oracle) (now : UInt64) : Nat → Nat → State → State
  | 0, _, s => s
  | remaining + 1, index, s =>
      match s.leases[index]? with
      | none => s
      | some lease =>
          if lease.expired now then expireLoop o now remaining index (expireLease o now index lease s)
          else expireLoop o now remaining (index + 1) s

/-- This is `tp_driver_handle_expired_leases`; each turn passes or removes one lease. -/
def handleExpiredLeases (o : Oracle) (s : State) : State :=
  expireLoop o (o.clock s.world.calls) s.leases.length 0 { s with world := s.world.called }

end TensorPool.Driver
