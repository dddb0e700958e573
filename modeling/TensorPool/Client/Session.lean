/-
This file follows a producer through its control messages, its attaches and its calls.
-/

import TensorPool.Client.Attach
import TensorPool.Client.Read
import TensorPool.DriverClient.Decode
import TensorPool.Manager.Hello

namespace TensorPool.Client

open Shm (Machine Text)
open DriverClient (AttachInfo)
open Flyweight (chars)

def roleProducer : UInt8 := 1
def roleConsumer : UInt8 := 2

/-- This is `tp_driver_lease_revoked_t`. -/
structure LeaseRevoked where
  timestampNs : UInt64
  leaseId : UInt64
  streamId : UInt32
  clientId : UInt32
  role : UInt8
  reason : UInt8
  errorMessage : Text
  deriving DecidableEq, Repr

/-- This is `tp_driver_shutdown_t`. -/
structure DriverShutdown where
  timestampNs : UInt64
  reason : UInt8
  errorMessage : Text
  deriving DecidableEq, Repr

/-- What a client holds of its driver: the attach, the lease of the driver client and the schedule of a reattach. -/
structure DriverLink where
  driverAttached : Bool := false
  driverAttach : AttachInfo := {}
  activeLeaseId : UInt64 := 0
  activeStreamId : UInt32 := 0
  clientId : UInt32 := 0
  leaseExpiryTimestampNs : UInt64 := 0
  lastKeepaliveNs : UInt64 := 0
  attachFailures : UInt32 := 0
  nextAttachNs : UInt64 := 0
  deriving DecidableEq, Repr

/-- This is `tp_driver_attach_info_close`. -/
def attachInfoClose (info : AttachInfo) : AttachInfo := { info with pools := none, poolCount := 0 }

/-- Both clients wait twice as long after each failure, up to a bound. -/
def nextBackoffNs (failures : UInt32) : UInt64 :=
  100000000 <<< (if failures > 5 then 5 else failures).toUInt64

namespace DriverLink

/-- This is `tp_driver_client_update_lease` with the fields that the clients read. -/
def updateLease (link : DriverLink) (info : AttachInfo) (clientId : UInt32) : DriverLink :=
  { link with
    activeLeaseId := info.leaseId
    leaseExpiryTimestampNs := info.leaseExpiryTimestampNs
    activeStreamId := info.streamId
    clientId }

/-- The lease is given up, and its attach information is closed. -/
def drop (link : DriverLink) : DriverLink :=
  { link with
    driverAttach := if link.driverAttached then attachInfoClose link.driverAttach else link.driverAttach
    activeLeaseId := 0
    driverAttached := false }

def schedule (link : DriverLink) (nowNs : UInt64) : DriverLink :=
  { link with
    attachFailures := link.attachFailures + 1
    nextAttachNs := nowNs + nextBackoffNs (link.attachFailures + 1 - 1) }

def clearReattach (link : DriverLink) : DriverLink := { link with attachFailures := 0, nextAttachNs := 0 }

/-- The response of the driver is kept before its regions are attached. -/
def take (link : DriverLink) (info : AttachInfo) (clientId : UInt32) : DriverLink :=
  { link.updateLease info clientId with driverAttach := info, driverAttached := true }

/-- A failed attach closes the information and keeps the lease of the driver client. -/
def abandon (link : DriverLink) : DriverLink :=
  { link with driverAttach := attachInfoClose link.driverAttach, driverAttached := false }

/-- This is `tp_driver_client_lease_expired`. -/
def leaseExpired (link : DriverLink) (nowNs : UInt64) : Bool :=
  link.activeLeaseId != 0 && link.leaseExpiryTimestampNs != nullU64 && nowNs ≥ link.leaseExpiryTimestampNs

/-- This is `tp_driver_client_keepalive_due`. -/
def keepaliveDue (link : DriverLink) (nowNs intervalNs : UInt64) : Bool :=
  link.activeLeaseId != 0 && intervalNs != 0 && nowNs - link.lastKeepaliveNs ≥ intervalNs

/-- This is `tp_driver_client_record_keepalive`. -/
def recordKeepalive (link : DriverLink) (nowNs intervalNs graceIntervals : UInt64) : DriverLink :=
  let link := { link with lastKeepaliveNs := nowNs }
  if link.leaseExpiryTimestampNs != nullU64 && intervalNs > 0 && graceIntervals > 0 &&
      nowNs + intervalNs * graceIntervals > link.leaseExpiryTimestampNs then
    { link with leaseExpiryTimestampNs := nowNs + intervalNs * graceIntervals }
  else link

end DriverLink

/-- The configuration of an attach that the driver has answered; both clients copy the same fields. -/
def attachInfoConfig (info : AttachInfo) : AttachConfig where
  streamId := info.streamId
  epoch := info.epoch
  layoutVersion := info.layoutVersion
  headerNslots := info.headerNslots
  headerUri := chars info.headerRegionUri
  pools := ((info.pools.getD []).take info.poolCount).map fun pool =>
    ⟨pool.poolId, pool.nslots, pool.strideBytes, chars pool.regionUri⟩

/-- The client id of a request is the configured one, or else the id of the client, or else a new one. -/
def requestClientId (configured own fresh : UInt32) : UInt32 :=
  if configured != 0 then configured else if own != 0 then own else fresh

structure ProducerContext where
  producerId : UInt32
  useDriver : Bool
  /-- This is the client id of the driver request of the context. -/
  requestClientId : UInt32 := 0
  deriving DecidableEq, Repr

structure ProducerSession extends AttachedProducer where
  context : ProducerContext
  link : DriverLink := {}
  consumerManager : Option Manager.ConsumerManager := none
  /-- The configurations that were sent to consumers, the last one first. -/
  configs : List Manager.ConsumerConfig := []
  deriving DecidableEq, Repr

/-- This is `tp_producer_unmap_regions`, which touches the pools below the count when there are any. -/
def producerUnmapRegions (producer : AttachedProducer) : Option AttachedProducer :=
  if !producer.pools.isEmpty && !unmapsPools producer.pools producer.poolCount then none
  else some { producer with
    headerRegion := {}, pools := [], tracelinkEntryCount := 0, poolCount := 0, headerNslots := 0, epoch := 0
    layoutVersion := 0, nextSeq := 0 }

theorem producerUnmapRegions_tidy {producer : AttachedProducer}
    (tidy : producer.pools = [] ∨ producer.poolCount ≤ producer.pools.length) :
    ∃ after, producerUnmapRegions producer = some after ∧ after.headerRegion = {} ∧ after.pools = [] := by
  have kept : ¬ (!producer.pools.isEmpty && !unmapsPools producer.pools producer.poolCount) = true := by
    simpa [unmapsPools, imp_iff_not_or] using tidy
  rw [producerUnmapRegions, if_neg kept]
  exact ⟨_, rfl, rfl, rfl⟩

theorem producerUnmapRegions_untidy {producer : AttachedProducer}
    (untidy : ¬ (producer.pools = [] ∨ producer.poolCount ≤ producer.pools.length)) :
    producerUnmapRegions producer = none := by
  have touched : (!producer.pools.isEmpty && !unmapsPools producer.pools producer.poolCount) = true := by
    simpa [unmapsPools, not_or] using untidy
  rw [producerUnmapRegions, if_pos touched]

/-- The fragments that the control handler of a producer decodes. -/
inductive ProducerMessage where
  | consumerHello (hello : Manager.ConsumerHello) (outside : Manager.Outside)
  | leaseRevoked (revoked : LeaseRevoked)
  | shutdown (shutdown : DriverShutdown)

namespace ProducerSession

/-- This is `tp_producer_schedule_reattach`. -/
def scheduleReattach (session : ProducerSession) (nowNs : UInt64) : ProducerSession :=
  if session.context.useDriver then
    { session with reattachRequested := true, link := session.link.schedule nowNs }
  else session

/-- The part of the control handler for a revoked lease; it compares the client and the role. -/
def onLeaseRevoked (session : ProducerSession) (revoked : LeaseRevoked) (nowNs : UInt64) : Option ProducerSession :=
  if revoked.clientId == session.context.producerId && revoked.role == roleProducer then
    (producerUnmapRegions session.toAttachedProducer).map fun producer =>
      ({ session with
        toAttachedProducer := producer
        link := session.link.drop } : ProducerSession).scheduleReattach nowNs
  else some session

/-- This is `tp_producer_control_handler`; it only reports the shutdown of the driver. -/
def onControl (session : ProducerSession) (nowNs : UInt64) : ProducerMessage → Option ProducerSession
  | .consumerHello hello outside =>
      match session.consumerManager with
      | none => some session
      | some manager =>
          match Manager.handleHello manager hello outside with
          | (manager, .ok config) =>
              some { session with consumerManager := some manager, configs := config :: session.configs }
          | (manager, .error _) => some { session with consumerManager := some manager }
  | .leaseRevoked revoked => session.onLeaseRevoked revoked nowNs
  | .shutdown _ => some session

/-- This is `tp_producer_attach_config`; the schedule is cleared where the trace links are allocated. -/
def attachConfig (session : ProducerSession) (machine : Machine) (allocations : Allocations) (config : AttachConfig) :
    Option (Int × ProducerSession) :=
  (producerAttachConfig machine allocations session.context.producerId config session.toAttachedProducer).map
    fun outcome => (outcome.code,
      { session with
        toAttachedProducer := outcome.client
        link := if config.layoutVersion == Shm.layoutVersion && isPowerOfTwo config.headerNslots &&
          allocations.tracelinkEntries then session.link.clearReattach else session.link })

/-- This is `tp_producer_attach_driver` with the answer of the driver, if there is one in time. -/
def attachDriver (session : ProducerSession) (machine : Machine) (allocations : Allocations) (freshClientId : UInt32)
    (answer : Option AttachInfo) (copies : Bool) : Option (Int × ProducerSession) :=
  let clientId := requestClientId session.context.requestClientId session.context.producerId freshClientId
  let session := { session with
    context := { session.context with
      producerId := if session.context.requestClientId != 0 then session.context.producerId else clientId } }
  match answer with
  | none => some (-1, session)
  | some info =>
      if info.code != DriverClient.codeOk then some (-1, session)
      else
        let session := { session with link := session.link.take info clientId }
        if !copies then some (-1, { session with link := session.link.abandon })
        else
          (session.attachConfig machine allocations (attachInfoConfig info)).map fun (code, attached) =>
            (code, if code < 0 then { attached with link := attached.link.abandon } else attached)

end ProducerSession

/-- This is the part of `tp_client_do_work` for the driver client, with the lease of the keepalive that it sends. -/
def driverWork (link : DriverLink) (nowNs intervalNs graceIntervals : UInt64) (sends : Bool) :
    DriverLink × Option UInt64 :=
  if link.leaseExpired nowNs then ({ link with activeLeaseId := 0 }, none)
  else if link.keepaliveDue nowNs intervalNs && sends then
    (link.recordKeepalive nowNs intervalNs graceIntervals, some link.activeLeaseId)
  else (link, none)

inductive ProducerAction where
  | control (message : ProducerMessage) (nowNs : UInt64)
  | attachDriver (machine : Machine) (allocations : Allocations) (freshClientId : UInt32) (answer : Option AttachInfo)
      (copies : Bool)
  | attachConfig (machine : Machine) (allocations : Allocations) (config : AttachConfig)
  | work (nowNs intervalNs graceIntervals : UInt64) (sends : Bool)
  | call (call : Call)

/-- What a step shows outside: the code of an attach, the lease of a keepalive, or the issue of a call. -/
inductive ProducerReport where
  | nothing
  | attached (code : Int)
  | keepalive (leaseId : UInt64)
  | issued (issue : Issue)

namespace ProducerSession

/-- A manual configuration is refused with a driver, and the driver is not asked without it. -/
def step (session : ProducerSession) : ProducerAction → Option (ProducerSession × ProducerReport)
  | .control message nowNs => (session.onControl nowNs message).map (·, .nothing)
  | .attachDriver machine allocations freshClientId answer copies =>
      if session.context.useDriver then
        (session.attachDriver machine allocations freshClientId answer copies).map fun (code, after) =>
          (after, .attached code)
      else some (session, .attached (-1))
  | .attachConfig machine allocations config =>
      if session.context.useDriver then some (session, .attached (-1))
      else (session.attachConfig machine allocations config).map fun (code, after) => (after, .attached code)
  | .work nowNs intervalNs graceIntervals sends =>
      let (link, leaseId) := driverWork session.link nowNs intervalNs graceIntervals sends
      some ({ session with link := link }, match leaseId with
        | none => .nothing
        | some leaseId => .keepalive leaseId)
  | .call call =>
      (call.perform session.toProducer).map fun issue =>
        ({ session with toProducer := issue.producer }, .issued issue)

end ProducerSession

end TensorPool.Client
