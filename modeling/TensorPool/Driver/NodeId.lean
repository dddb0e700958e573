/-
This file draws lease and node identifiers and keeps the cooldown of freed nodes.
-/

import Mathlib.Data.List.Basic
import TensorPool.Driver.Types

namespace TensorPool.Driver

/-- This is `tp_driver_seed_u64`; one answer stands for `urandom` and its fallback. -/
def seedU64 (o : Oracle) (w : World) : UInt64 × World :=
  let seed := o.random w.calls &&& 0x7FFFFFFFFFFFFFFF
  (if seed = 0 then 1 else seed, w.called)

/-- The counter takes a seed the first time that it is used. -/
def seedCounter (o : Oracle) (counter : UInt64) (w : World) : UInt64 × World :=
  if counter = 0 then seedU64 o w else (counter, w)

/-- The counter wraps at 64 bits and skips zero. -/
def increment (counter : UInt64) : UInt64 :=
  if counter + 1 = 0 then 1 else counter + 1

/-- This is `tp_driver_next_lease_id`; the new counter is the new identifier. -/
def nextLeaseId (o : Oracle) (counter : UInt64) (w : World) : UInt64 × World :=
  let (counter, w) := seedCounter o counter w
  (increment counter, w)

/-- This is `tp_driver_client_id_in_use`. -/
def clientIdInUse (leases : List Lease) (clientId : UInt32) : Bool :=
  clientId == 0 || leases.any fun lease => lease.clientId == clientId

/-- This is `tp_driver_node_id_in_use`. -/
def nodeIdInUse (leases : List Lease) (nodeId : UInt32) : Bool :=
  nodeId != nullU32 && leases.any fun lease => lease.nodeId == nodeId

/-- This is `tp_driver_prune_node_id_cooldowns`. -/
def pruneNodeIdCooldowns (cooldowns : List NodeIdCooldown) (now : UInt64) : List NodeIdCooldown :=
  cooldowns.filter fun cooldown => now < cooldown.expiresNs

/-- This is `tp_driver_node_id_in_cooldown`; node zero is never in cooldown. -/
def nodeIdInCooldown (cooldowns : List NodeIdCooldown) (nodeId : UInt32) (now : UInt64) :
    Bool × List NodeIdCooldown :=
  if nodeId = 0 then (false, cooldowns)
  else
    let cooldowns := pruneNodeIdCooldowns cooldowns now
    (cooldowns.any fun cooldown => cooldown.nodeId == nodeId, cooldowns)

/-- A repeated node gets its new expiry in the first entry that names it. -/
def renewCooldown (nodeId : UInt32) (expiresNs : UInt64) :
    List NodeIdCooldown → Option (List NodeIdCooldown)
  | [] => none
  | cooldown :: rest =>
      if cooldown.nodeId = nodeId then some ({ cooldown with expiresNs } :: rest)
      else (renewCooldown nodeId expiresNs rest).map (cooldown :: ·)

/-- The driver grows each of its two tables in the same way. -/
def grownCapacity (capacity : Nat) : Nat := if capacity = 0 then 8 else capacity * 2

/-- The expiry wraps at 64 bits. -/
def cooldownExpiry (config : Config) (now : UInt64) : UInt64 :=
  now + config.nodeIdReuseCooldownMs.toUInt64 * 1000000

/-- This is `tp_driver_record_node_id_cooldown`; its callers ignore the result. -/
def recordNodeIdCooldown (o : Oracle) (nodeId : UInt32) (now : UInt64) (s : State) : State :=
  if nodeId = 0 ∨ nodeId = nullU32 ∨ s.config.nodeIdReuseCooldownMs = 0 then s
  else
    let cooldowns := pruneNodeIdCooldowns s.nodeIdCooldowns now
    let expiresNs := cooldownExpiry s.config now
    match renewCooldown nodeId expiresNs cooldowns with
    | some renewed => { s with nodeIdCooldowns := renewed }
    | none =>
        if cooldowns.length + 1 > s.nodeIdCooldownCapacity then
          if o.reallocates s.world.calls then
            { s with
              nodeIdCooldowns := cooldowns ++ [{ nodeId, expiresNs }]
              nodeIdCooldownCapacity := grownCapacity s.nodeIdCooldownCapacity
              world := s.world.called }
          else { s with nodeIdCooldowns := cooldowns, world := s.world.called }
        else { s with nodeIdCooldowns := cooldowns ++ [{ nodeId, expiresNs }] }

/-- A candidate must be free, out of cooldown and neither zero nor null. -/
def nodeIdAvailable (leases : List Lease) (cooldowns : List NodeIdCooldown) (nodeId : UInt32)
    (now : UInt64) : Bool :=
  nodeId != 0 && nodeId != nullU32 && !nodeIdInUse leases nodeId &&
    !(nodeIdInCooldown cooldowns nodeId now).1

/-- The driver folds the two halves of a seed. -/
def nodeIdCandidate (seed : UInt64) : UInt32 := (seed ^^^ (seed >>> 32)).toUInt32

/-- This is the loop of `tp_driver_next_node_id`; `attempts` counts the draws before this one. -/
def drawNodeId (o : Oracle) (leases : List Lease) (cooldowns : List NodeIdCooldown)
    (counter now : UInt64) : Nat → UInt64 → World → UInt32 × World
  | 0, _, w => (nullU32, w)
  | remaining + 1, attempts, w =>
      let (seed, w) := seedU64 o w
      let candidate := nodeIdCandidate (seed ^^^ counter ^^^ attempts)
      if nodeIdAvailable leases cooldowns candidate now then (candidate, w)
      else drawNodeId o leases cooldowns counter now remaining (attempts + 1) w

/-- This is `tp_driver_next_node_id`; the first reading of the clock serves every draw. -/
def nextNodeId (o : Oracle) (s : State) : UInt32 × State :=
  let now := o.clock s.world.calls
  let (counter, w) := seedCounter o s.leaseCounter s.world.called
  let cooldowns := pruneNodeIdCooldowns s.nodeIdCooldowns now
  let (nodeId, w) := drawNodeId o s.leases cooldowns counter now 1024 0 w
  (nodeId, { s with leaseCounter := counter, nodeIdCooldowns := cooldowns, world := w })

end TensorPool.Driver
