/-
This file lists the changes that the operations of the driver are made of.
-/

import Mathlib.Tactic.Tauto
import TensorPool.Driver.Effects
import TensorPool.Driver.Run
import TensorPool.Library.Trace

namespace TensorPool.Driver

/-- What a message says about the regions of an epoch. -/
structure Advert where
  streamId : UInt32
  epoch : UInt64
  files : List RegionFile
  deriving DecidableEq, Repr

/-- The region files that the fields of a message describe. -/
def describedFiles (streamId : UInt32) (epoch : UInt64) (headerNslots headerSlotBytes : UInt32)
    (pools : List PoolBody) : List RegionFile :=
  { streamId, epoch, regionType := .headerRing, poolId := 0, nslots := headerNslots,
    slotBytes := headerSlotBytes, strideBytes := 0 } ::
  pools.map fun pool =>
    { streamId, epoch, regionType := .payloadPool, poolId := pool.poolId, nslots := pool.poolNslots,
      slotBytes := nullU32, strideBytes := pool.strideBytes }

/-- An announce and a granted response describe regions; the other messages do not. -/
def Message.advert : Message → Option Advert
  | .poolAnnounce announce =>
      some ⟨announce.streamId, announce.epoch, describedFiles announce.streamId announce.epoch
        announce.headerNslots announce.headerSlotBytes announce.payloadPools⟩
  | .attachResponse response => response.body.map fun body =>
      ⟨body.streamId, body.epoch, describedFiles body.streamId body.epoch body.headerNslots
        body.headerSlotBytes body.payloadPools⟩
  | _ => none

/-- A stream is described by its identifier, its epoch and its files. -/
def StreamState.advert (stream : StreamState) : Advert := ⟨stream.streamId, stream.epoch, stream.files⟩

/-- A stream is active when it has an epoch, also after its epoch wrapped to zero. -/
def Active (log : List Event) (stream : StreamState) : Prop :=
  stream.epoch ≠ 0 ∨ .epochBumped stream.streamId stream.epoch ∈ log

/-- Messages describe an active stream of the view, and a collection spares its epoch. -/
inductive Talk (s : State) : Event → Prop
  | silent {message : Message} (result : Int) (quiet : message.advert = none) :
      Talk s (.offered message result)
  | advert {message : Message} {streamId : UInt32} {stream : StreamState} (result : Int)
      (known : s.view streamId = some stream) (active : Active s.world.log stream)
      (said : message.advert = some stream.advert) : Talk s (.offered message result)
  | removed {streamId : UInt32} (stale : UInt64)
      (different : ∀ stream, s.view streamId = some stream → stale ≠ stream.epoch) (complete : Bool) :
      Talk s (.epochRemoved streamId stale complete)

/-- An earlier cooldown is still in the table, or a reading of the clock has reached it. -/
def Cooled (o : Oracle) (s s' : State) : Prop :=
  ∀ cooldown ∈ s.nodeIdCooldowns, cooldown ∈ s'.nodeIdCooldowns ∨
    ∃ call < s'.world.calls, cooldown.expiresNs ≤ o.clock call

/-- The end of a lease starts the cooldown of its node, when the table can grow, and spares the others. -/
structure Cools (o : Oracle) (nodeId : UInt32) (atNs : UInt64) (s s' : State) : Prop where
  kept : ∀ cooldown ∈ s.nodeIdCooldowns, cooldown ∈ s'.nodeIdCooldowns ∨ cooldown.expiresNs ≤ atNs ∨
    (cooldown.nodeId = nodeId ∧ ⟨nodeId, cooldownExpiry s.config atNs⟩ ∈ s'.nodeIdCooldowns)
  started : nodeId ≠ 0 → nodeId ≠ nullU32 → s.config.nodeIdReuseCooldownMs ≠ 0 →
    (∀ call, o.reallocates call = true) → ⟨nodeId, cooldownExpiry s.config atNs⟩ ∈ s'.nodeIdCooldowns

/-- The tables of leases stay as they are. -/
structure Quiet (o : Oracle) (allowed : Event → Prop) (s s' : State) : Prop where
  config : s'.config = s.config
  leases : s'.leases = s.leases
  leaseCounter : s'.leaseCounter = s.leaseCounter
  world : World.Grows allowed s.world s'.world
  cooled : Cooled o s s'
  tidy : Tidy s → Tidy s'

theorem Cooled.refl (o : Oracle) (s : State) : Cooled o s s := fun _ member => .inl member

theorem Cooled.trans {o : Oracle} {s m s' : State} (first : Cooled o s m) (second : Cooled o m s')
    (late : m.world.calls ≤ s'.world.calls) : Cooled o s s' := by
  intro cooldown member
  rcases first cooldown member with kept | ⟨call, before, reached⟩
  · exact second cooldown kept
  · exact .inr ⟨call, Nat.lt_of_lt_of_le before late, reached⟩

namespace Quiet

variable {o : Oracle} {allowed allowed' : Event → Prop} {s m s' : State}

theorem refl (o : Oracle) (allowed : Event → Prop) (s : State) : Quiet o allowed s s :=
  ⟨rfl, rfl, rfl, .refl _ _, .refl o s, id⟩

theorem trans (first : Quiet o allowed s m) (second : Quiet o allowed m s') : Quiet o allowed s s' :=
  ⟨second.config.trans first.config, second.leases.trans first.leases,
    second.leaseCounter.trans first.leaseCounter, first.world.trans second.world,
    first.cooled.trans second.cooled second.world.calls, second.tidy ∘ first.tidy⟩

theorem mono (weaker : ∀ event, allowed event → allowed' event) (quiet : Quiet o allowed s s') :
    Quiet o allowed' s s' := { quiet with world := quiet.world.mono weaker }

/-- A growing world is the least that can happen. -/
theorem ofWorld {w : World} (growth : World.Grows allowed s.world w) :
    Quiet o allowed s { s with world := w } :=
  ⟨rfl, rfl, rfl, growth, fun _ member => .inl member, fun tidy => tidy.congr rfl⟩

end Quiet

/-- Every identity field of a lease; a keepalive changes the other field. -/
def Lease.identity (lease : Lease) : Lease := { lease with expiryNs := 0 }

/-- Leases with one identity differ at most in their expiry. -/
theorem Lease.same_identity {left right : Lease} (same : left.identity = right.identity) :
    left.leaseId = right.leaseId ∧ left.streamId = right.streamId ∧ left.clientId = right.clientId ∧
      left.nodeId = right.nodeId ∧ left.role = right.role := by
  cases left
  cases right
  simp only [Lease.identity, Lease.mk.injEq] at same
  tauto

inductive Label where
  | talk
  | provision (streamId : UInt32)
  | renew (streamId : UInt32)
  | waste
  | grant (lease : Lease)
  | finish (lease : Lease)
  | extend
  deriving DecidableEq, Repr

/-- The counter that the next lease identifier continues. -/
def Seeded (counter seeded : UInt64) : Prop := seeded ≠ 0 ∧ (counter ≠ 0 → seeded = counter)

/-- The facts about a new lease that the driver has checked. -/
structure Fresh (s : State) (stream : StreamState) (lease : Lease) : Prop where
  client : lease.clientId ≠ 0 ∧ ∀ other ∈ s.leases, other.clientId ≠ lease.clientId
  node : lease.nodeId ≠ nullU32 ∧ ∀ other ∈ s.leases, other.nodeId ≠ lease.nodeId
  producer : lease.role = .producer → stream.producerLeaseId = 0
  leaseId : ∃ seeded, Seeded s.leaseCounter seeded ∧ lease.leaseId = increment seeded

/-- The events of a new epoch record its files, or the file that failed. -/
def Renewal (streamId : UInt32) (epoch : UInt64) (files : List RegionFile) (events : List Event) : Prop :=
  (∀ event ∈ events, RegionEvent streamId epoch files event) ∧
    ((∃ file, file.streamId = streamId ∧ file.epoch = epoch ∧ .regionFailed file ∈ events) ∨
      ∀ file ∈ files, .regionCreated file ∈ events)

/-- One change of the driver's tables. -/
inductive Change (o : Oracle) : Label → State → State → Prop
  /-- Messages and collections leave the tables alone. -/
  | talk {s s' : State} (quiet : Quiet o (Talk s) s s') (view : s'.view = s.view) :
      Change o .talk s s'
  /-- A dynamic stream starts without an epoch and without a producer. -/
  | provision {s s' : State} {streamId : UInt32} {profile : Profile}
      (quiet : Quiet o (fun _ => False) s s') (fresh : s.view streamId = none)
      (view : s'.view = Function.update s.view streamId (some { streamId, profile := some profile })) :
      Change o (.provision streamId) s s'
  /-- A stream moves to its next epoch and its regions are created or fail. -/
  | renew {s s' : State} {streamId : UInt32} {stream : StreamState} {call : Nat} {events : List Event}
      (known : s.view streamId = some stream) (stable : s'.config = s.config ∧ s'.leases = s.leases ∧
        s'.leaseCounter = s.leaseCounter) (cooled : Cooled o s s') (tidy : Tidy s → Tidy s')
      (reading : s.world.calls ≤ call ∧ call < s'.world.calls)
      (view : s'.view = Function.update s.view streamId
        (some { stream with epoch := nextEpoch (o.clock call) stream.epoch }))
      (log : s'.world.log = s.world.log ++
        .epochBumped streamId (nextEpoch (o.clock call) stream.epoch) :: events)
      (renewal : Renewal streamId (nextEpoch (o.clock call) stream.epoch)
        { stream with epoch := nextEpoch (o.clock call) stream.epoch }.files events) :
      Change o (.renew streamId) s s'
  /-- An attach that fails after it took a lease identifier wastes the identifier. -/
  | waste {s s' : State} (stable : s'.config = s.config ∧ s'.leases = s.leases) (cooled : Cooled o s s')
      (streams : s'.streams = s.streams) (calls : s.world.calls ≤ s'.world.calls)
      (log : s'.world.log = s.world.log)
      (counter : ∃ seeded, Seeded s.leaseCounter seeded ∧ s'.leaseCounter = increment seeded) :
      Change o .waste s s'
  /-- A lease that passed every check enters the table. -/
  | grant {s s' : State} {stream : StreamState} {lease : Lease} {checkedNs : UInt64}
      (known : s.view lease.streamId = some stream) (fresh : Fresh s stream lease)
      (config : s'.config = s.config) (leases : s'.leases = s.leases ++ [lease])
      (counter : s'.leaseCounter = lease.leaseId) (cooled : Cooled o s s') (tidy : Tidy s → Tidy s')
      (calls : s.world.calls ≤ s'.world.calls)
      (view : s'.view = Function.update s.view lease.streamId (some (stream.claim lease)))
      (log : s'.world.log = s.world.log ++ [.leaseGranted lease checkedNs]) :
      Change o (.grant lease) s s'
  /-- A lease leaves the table and frees the stream that remembers it. -/
  | finish {s s' : State} {before after : List Lease} {lease : Lease} {atNs : UInt64}
      (stable : s'.config = s.config ∧ s'.leaseCounter = s.leaseCounter)
      (leases : s.leases = before ++ lease :: after ∧ s'.leases = before ++ after)
      (calls : s.world.calls ≤ s'.world.calls) (tidy : Tidy s → Tidy s')
      (view : s'.view = Function.update s.view lease.streamId
        ((s.view lease.streamId).map fun stream => stream.release lease))
      (log : s'.world.log = s.world.log ++ [.leaseEnded lease atNs])
      (cools : Cools o lease.nodeId atNs s s') :
      Change o (.finish lease) s s'
  /-- A keepalive moves the expiry of one lease. -/
  | extend {s s' : State} (stable : s'.config = s.config ∧ s'.leaseCounter = s.leaseCounter)
      (leases : s'.leases.map Lease.identity = s.leases.map Lease.identity)
      (cooled : Cooled o s s') (streams : s'.streams = s.streams)
      (calls : s.world.calls ≤ s'.world.calls) (log : s'.world.log = s.world.log) :
      Change o .extend s s'

/-- Every change only spends further calls. -/
theorem Change.calls_le {o : Oracle} {label : Label} {s s' : State} (change : Change o label s s') :
    s.world.calls ≤ s'.world.calls := by
  cases change with
  | talk quiet => exact quiet.world.calls
  | provision quiet => exact quiet.world.calls
  | renew _ _ _ _ reading => exact Nat.le_of_lt (Nat.lt_of_le_of_lt reading.1 reading.2)
  | waste _ _ _ calls => exact calls
  | grant _ _ _ _ _ _ _ calls => exact calls
  | finish _ _ calls => exact calls
  | extend _ _ _ _ calls => exact calls

end TensorPool.Driver
