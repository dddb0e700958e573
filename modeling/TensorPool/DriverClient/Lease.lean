/-
This file follows the lease of a driver client through its keepalives.
-/

import TensorPool.DriverClient.Poll

namespace TensorPool.DriverClient

/-- These are the fields of `tp_context_t` that time the keepalives. -/
structure Context where
  keepaliveIntervalNs : UInt64
  leaseExpiryGraceIntervals : UInt32
  deriving DecidableEq, Repr

/-- This is the part of `tp_driver_client_t` about its lease; the defaults are its zeroed memory. -/
structure Client where
  activeLeaseId : UInt64 := 0
  leaseExpiryTimestampNs : UInt64 := 0
  lastKeepaliveNs : UInt64 := 0
  activeStreamId : UInt32 := 0
  clientId : UInt32 := 0
  role : UInt8 := 0
  deriving DecidableEq, Repr

namespace Client

/-- This is `tp_driver_client_update_lease`. -/
def updateLease (client : Client) (info : AttachInfo) (clientId : UInt32) (role : UInt8) : Client :=
  { client with
    activeLeaseId := info.leaseId
    leaseExpiryTimestampNs := info.leaseExpiryTimestampNs
    activeStreamId := info.streamId
    clientId := clientId
    role := role }

/-- This is `tp_driver_client_record_keepalive`. -/
def recordKeepalive (context : Context) (client : Client) (nowNs : UInt64) : Client :=
  let client := { client with lastKeepaliveNs := nowNs }
  if client.leaseExpiryTimestampNs ≠ nullU64 then
    if context.keepaliveIntervalNs > 0 ∧ context.leaseExpiryGraceIntervals.toUInt64 > 0 then
      let nextExpiry := nowNs + context.keepaliveIntervalNs * context.leaseExpiryGraceIntervals.toUInt64
      if nextExpiry > client.leaseExpiryTimestampNs then { client with leaseExpiryTimestampNs := nextExpiry }
      else client
    else client
  else client

/-- This is `tp_driver_client_keepalive_due`. -/
def keepaliveDue (client : Client) (nowNs intervalNs : UInt64) : Bool :=
  if client.activeLeaseId = 0 ∨ intervalNs = 0 then false else nowNs - client.lastKeepaliveNs ≥ intervalNs

/-- This is `tp_driver_client_lease_expired`. -/
def leaseExpired (client : Client) (nowNs : UInt64) : Bool :=
  if client.activeLeaseId = 0 then false
  else if client.leaseExpiryTimestampNs = nullU64 then false
  else nowNs ≥ client.leaseExpiryTimestampNs

/-- This is what `tp_driver_keepalive` does with the result of its offer. -/
def keepalive (context : Context) (client : Client) (nowNs : UInt64) (result : Int) : Client :=
  if result < 0 then client else client.recordKeepalive context nowNs

/-- What one turn of the loop in `tp_client_do_work` does for its driver client. -/
inductive Turn where
  | expired
  | offered (result : Int)
  | idle
  deriving DecidableEq, Repr

/-- A turn gives up an expired lease or sends a keepalive that is due. -/
def turn (context : Context) (client : Client) (nowNs : UInt64) (result : Int) : Turn × Client :=
  if client.leaseExpired nowNs then (.expired, { client with activeLeaseId := 0 })
  else if client.keepaliveDue nowNs context.keepaliveIntervalNs then
    (.offered result, client.keepalive context nowNs result)
  else (.idle, client)

/-- A keepalive keeps the lease, its stream and its client. -/
theorem recordKeepalive_lease (context : Context) (client : Client) (nowNs : UInt64) :
    (client.recordKeepalive context nowNs).activeLeaseId = client.activeLeaseId ∧
      (client.recordKeepalive context nowNs).activeStreamId = client.activeStreamId ∧
      (client.recordKeepalive context nowNs).clientId = client.clientId ∧
      (client.recordKeepalive context nowNs).role = client.role := by
  unfold recordKeepalive
  dsimp only
  split
  · split
    · split <;> simp
    · simp
  · simp

theorem keepalive_lease (context : Context) (client : Client) (nowNs : UInt64) (result : Int) :
    (client.keepalive context nowNs result).activeLeaseId = client.activeLeaseId ∧
      (client.keepalive context nowNs result).activeStreamId = client.activeStreamId ∧
      (client.keepalive context nowNs result).clientId = client.clientId ∧
      (client.keepalive context nowNs result).role = client.role := by
  unfold keepalive
  split
  · simp
  · exact recordKeepalive_lease context client nowNs

@[simp] theorem recordKeepalive_last (context : Context) (client : Client) (nowNs : UInt64) :
    (client.recordKeepalive context nowNs).lastKeepaliveNs = nowNs := by
  unfold recordKeepalive
  dsimp only
  split
  · split
    · split <;> rfl
    · rfl
  · rfl

/-- A keepalive puts the expiry off by the client's own count of intervals, where this does not wrap. -/
theorem recordKeepalive_expiry {context : Context} (client : Client) {nowNs : UInt64}
    (interval : 0 < context.keepaliveIntervalNs) (grace : 0 < context.leaseExpiryGraceIntervals.toUInt64)
    (room : nowNs.toNat + (context.keepaliveIntervalNs * context.leaseExpiryGraceIntervals.toUInt64).toNat < 2 ^ 64) :
    nowNs.toNat + (context.keepaliveIntervalNs * context.leaseExpiryGraceIntervals.toUInt64).toNat ≤
      (client.recordKeepalive context nowNs).leaseExpiryTimestampNs.toNat := by
  have sum : (nowNs + context.keepaliveIntervalNs * context.leaseExpiryGraceIntervals.toUInt64).toNat =
      nowNs.toNat + (context.keepaliveIntervalNs * context.leaseExpiryGraceIntervals.toUInt64).toNat := by
    rw [UInt64.toNat_add, Nat.mod_eq_of_lt room]
  unfold recordKeepalive
  dsimp only
  split
  · rw [if_pos ⟨interval, grace⟩]
    split
    · rw [sum]
    next later =>
      rw [← sum]
      exact UInt64.le_iff_toNat_le.mp (UInt64.not_lt.mp later)
  next null =>
    rw [not_not] at null
    rw [null]
    exact Nat.le_of_lt_succ room

/-- A keepalive is due when the interval has passed since the last one. -/
theorem keepaliveDue_eq {client : Client} {nowNs intervalNs : UInt64} (active : client.activeLeaseId ≠ 0)
    (positive : 0 < intervalNs) (order : client.lastKeepaliveNs ≤ nowNs) :
    client.keepaliveDue nowNs intervalNs =
      decide (client.lastKeepaliveNs.toNat + intervalNs.toNat ≤ nowNs.toNat) := by
  have bound := UInt64.le_iff_toNat_le.mp order
  have interval : intervalNs ≠ 0 := by
    rintro rfl
    exact absurd positive (by decide)
  rw [keepaliveDue, if_neg (not_or.mpr ⟨active, interval⟩), decide_eq_decide, ge_iff_le, UInt64.le_iff_toNat_le,
    UInt64.toNat_sub_of_le _ _ order]
  omega

theorem leaseExpired_eq_false {client : Client} {nowNs : UInt64} (early : nowNs < client.leaseExpiryTimestampNs) :
    client.leaseExpired nowNs = false := by
  simp [leaseExpired, UInt64.not_le.mpr early]

end Client

end TensorPool.DriverClient
