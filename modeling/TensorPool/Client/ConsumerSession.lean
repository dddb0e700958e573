/-
This file follows a consumer through its control messages, its descriptors, its attaches and its polls.
-/

import TensorPool.Client.Session

namespace TensorPool.Client

open Shm (Machine Text)
open DriverClient (AttachInfo)
open Flyweight (chars)

def clockDomainMonotonic : UInt8 := 1
def clockDomainRealtimeSynced : UInt8 := 2
def freshnessMultiplier : UInt64 := 3

/-- This is `tp_shm_pool_announce_view_t` with the fields that the consumer reads. -/
structure PoolAnnounceView where
  streamId : UInt32
  epoch : UInt64
  announceTimestampNs : UInt64
  announceClockDomain : UInt8
  layoutVersion : UInt32
  headerNslots : UInt32
  headerSlotBytes : UInt16
  headerRegionUri : Text
  pools : List PoolConfig
  deriving DecidableEq, Repr

/-- This is `tp_consumer_config_view_t`. -/
structure ConsumerConfigView where
  streamId : UInt32
  consumerId : UInt32
  useShm : UInt8
  mode : UInt8
  descriptorStreamId : UInt32
  controlStreamId : UInt32
  payloadFallbackUri : Text
  descriptorChannel : Text
  controlChannel : Text
  deriving DecidableEq, Repr

/-- These are the fields of a frame descriptor. -/
structure FrameDescriptor where
  streamId : UInt32
  epoch : UInt64
  seq : UInt64
  timestampNs : UInt64
  metaVersion : UInt32
  traceId : UInt64
  deriving DecidableEq, Repr

/-- The handle tells a subscription from all others, also on the same channel and stream. -/
structure Subscription where
  handle : Nat
  channel : Text
  streamId : Int32
  deriving DecidableEq, Repr

structure ConsumerContext where
  streamId : UInt32
  consumerId : UInt32
  useDriver : Bool
  /-- This is the client id of the driver request of the context. -/
  requestClientId : UInt32 := 0
  expectedLayoutVersion : UInt32 := 0
  /-- This is the announce period of the client. -/
  announcePeriodNs : UInt64
  deriving DecidableEq, Repr

structure ConsumerSession extends AttachedConsumer where
  context : ConsumerContext
  link : DriverLink := {}
  attachTimeNs : UInt64 := 0
  announceJoinTimeNs : UInt64 := 0
  lastAnnounceRxNs : UInt64 := 0
  lastAnnounceTimestampNs : UInt64 := 0
  lastAnnounceClockDomain : UInt8 := 0
  assignedDescriptorStreamId : UInt32 := 0
  assignedControlStreamId : UInt32 := 0
  descriptorSubscription : Option Subscription := none
  controlSubscription : Option Subscription := none
  /-- So many subscriptions were opened for the consumer; the next one has this number as its handle. -/
  opened : Nat := 0
  /-- The descriptors that were handed to the application, the last one first. -/
  delivered : List FrameDescriptor := []
  deriving DecidableEq, Repr

/-- The copies of an announce are allocated one after the other, or one of the calls fails. -/
structure AnnounceCopies where
  headerUri : Bool
  pools : Bool
  poolUri : Nat → Bool

/-- What one message takes from outside: the readings of the clocks, the files, and the outcomes of system calls. -/
structure Around where
  joinNs : UInt64
  nowNs : UInt64
  realtimeNs : UInt64
  attachNs : UInt64
  machine : Machine
  allocations : Allocations
  copies : AnnounceCopies
  descriptorOpens : Bool
  controlOpens : Bool

/-- Nothing can be opened or allocated. -/
def barren (nowNs : UInt64) : Around where
  joinNs := nowNs
  nowNs := nowNs
  realtimeNs := nowNs
  attachNs := nowNs
  machine := ⟨false, fun _ _ => none, fun _ => none, fun _ => []⟩
  allocations := ⟨false, false, false⟩
  copies := ⟨false, false, fun _ => false⟩
  descriptorOpens := false
  controlOpens := false

/-- A consumer without regions keeps its stream, its last announce and its schedule. -/
def AttachedConsumer.unmapped (consumer : AttachedConsumer) : AttachedConsumer :=
  { consumer with
    headerRegion := {}, pools := [], poolCount := 0, headerNslots := 0, phase := .unmapped, shmMapped := false
    mappedEpoch := 0, lastSeqSeen := 0, dropsGap := 0, dropsLate := 0 }

theorem consumerUnmapRegions_tidy {consumer : AttachedConsumer} (tidy : consumer.poolCount ≤ consumer.pools.length) :
    consumerUnmapRegions consumer = some consumer.unmapped := if_pos (decide_eq_true tidy)

theorem consumerUnmapRegions_untidy {consumer : AttachedConsumer}
    (untidy : ¬ consumer.poolCount ≤ consumer.pools.length) : consumerUnmapRegions consumer = none := by
  have touched : ¬ unmapsPools consumer.pools consumer.poolCount = true := by
    simpa [unmapsPools] using untidy
  rw [consumerUnmapRegions, if_neg touched]

namespace ConsumerSession

/-- This is `tp_consumer_unmap_regions`. -/
def unmapRegions (session : ConsumerSession) : Option ConsumerSession :=
  (consumerUnmapRegions session.toAttachedConsumer).map fun consumer =>
    { session with toAttachedConsumer := consumer, attachTimeNs := 0 }

/-- This is `tp_consumer_attach_config`; only the fallback clears the time of the attach when it fails. -/
def attachConfig (session : ConsumerSession) (around : Around) (config : AttachConfig) :
    Option (Int × ConsumerSession) :=
  (consumerAttachConfig around.machine around.allocations config session.toAttachedConsumer).map fun outcome =>
    (outcome.code,
      if outcome.code < 0 then { session with toAttachedConsumer := outcome.client }
      else if outcome.error.isSome then { session with toAttachedConsumer := outcome.client, attachTimeNs := 0 }
      else
        { session with
          toAttachedConsumer := outcome.client, attachTimeNs := around.attachNs, link := session.link.clearReattach })

/-- The loop copies the pools of an announce; an empty URI counts as a failed copy. -/
def announcePools (copies : AnnounceCopies) (headerNslots : UInt32) :
    Nat → List PoolConfig → Except String (List PoolConfig)
  | _, [] => .ok []
  | index, pool :: rest =>
      if pool.uri.isEmpty || !copies.poolUri index then
        .error "tp_consumer_apply_announce: pool uri allocation failed"
      else if pool.nslots != headerNslots then .error "tp_consumer_apply_announce: pool nslots mismatch"
      else
        match announcePools copies headerNslots (index + 1) rest with
        | .error text => .error text
        | .ok pools => .ok ({ pool with uri := chars pool.uri } :: pools)

/-- The configuration of an announce, before anything is unmapped. -/
def announceConfig (copies : AnnounceCopies) (announce : PoolAnnounceView) : Except String AttachConfig :=
  if announce.headerRegionUri.isEmpty then .error "tp_consumer_apply_announce: missing header region uri"
  else if announce.headerSlotBytes != DriverClient.headerSlotBytes then
    .error "tp_consumer_apply_announce: header slot bytes mismatch"
  else if announce.pools.isEmpty then .error "tp_consumer_apply_announce: missing payload pools"
  else if !copies.headerUri then .error "tp_consumer_apply_announce: header uri allocation failed"
  else if !copies.pools then .error "tp_consumer_apply_announce: pool allocation failed"
  else
    match announcePools copies announce.headerNslots 0 announce.pools with
    | .error text => .error text
    | .ok pools => .ok
        { streamId := announce.streamId
          epoch := announce.epoch
          layoutVersion := announce.layoutVersion
          headerNslots := announce.headerNslots
          headerUri := chars announce.headerRegionUri
          pools }

/-- This is `tp_consumer_apply_announce`. -/
def applyAnnounce (session : ConsumerSession) (around : Around) (announce : PoolAnnounceView) :
    Option (Int × ConsumerSession) :=
  match announceConfig around.copies announce with
  | .error _ => some (-1, session)
  | .ok config =>
      session.unmapRegions.bind fun unmapped =>
        (unmapped.attachConfig around config).map fun (code, attached) =>
          if code < 0 then (-1, attached)
          else if attached.phase = .fallback then (0, attached)
          else (0, { attached with phase := .mapped, shmMapped := true, mappedEpoch := announce.epoch })

/-- The announce is too old for the clock that it names. -/
def announceStale (session : ConsumerSession) (announceNowNs : UInt64) (announce : PoolAnnounceView) : Bool :=
  announceNowNs > announce.announceTimestampNs &&
    announceNowNs - announce.announceTimestampNs > session.context.announcePeriodNs * freshnessMultiplier

/-- These are the checks that drop an announce before anything is unmapped. -/
def announceDropped (session : ConsumerSession) (around : Around) (announce : PoolAnnounceView) : Bool :=
  announce.streamId != session.context.streamId ||
    (announce.announceClockDomain == clockDomainRealtimeSynced && around.realtimeNs == 0) ||
    session.announceStale
      (if announce.announceClockDomain == clockDomainRealtimeSynced then around.realtimeNs
        else around.nowNs) announce ||
    (announce.announceClockDomain == clockDomainMonotonic &&
      announce.announceTimestampNs < session.announceJoinTimeNs) ||
    (session.context.expectedLayoutVersion != 0 && announce.layoutVersion != session.context.expectedLayoutVersion)

/-- The announce of an epoch that is not older than the last one is applied. -/
def acceptAnnounce (session : ConsumerSession) (around : Around) (announce : PoolAnnounceView) :
    Option ConsumerSession :=
  if session.lastAnnounceEpoch != 0 && announce.epoch < session.lastAnnounceEpoch then some session
  else
    (session.applyAnnounce around announce).map fun (code, applied) =>
      if code = 0 then
        { applied with
          lastAnnounceRxNs := around.nowNs
          lastAnnounceTimestampNs := announce.announceTimestampNs
          lastAnnounceClockDomain := announce.announceClockDomain
          lastAnnounceEpoch := announce.epoch }
      else applied

/-- The part of the control handler for an announce. -/
def onAnnounce (session : ConsumerSession) (around : Around) (announce : PoolAnnounceView) : Option ConsumerSession :=
  if !session.useShm then some session
  else
    let session :=
      if session.announceJoinTimeNs == 0 then { session with announceJoinTimeNs := around.joinNs } else session
    if session.announceDropped around announce then some session
    else if session.shmMapped && announce.epoch != session.mappedEpoch then
      if announce.epoch < session.mappedEpoch then session.unmapRegions
      else session.unmapRegions.bind fun unmapped => unmapped.acceptAnnounce around announce
    else session.acceptAnnounce around announce

/-- This is `tp_payload_fallback_uri_supported`. -/
def payloadFallbackUriSupported (uri : Text) : Bool :=
  uri.isEmpty || (Shm.ascii "aeron:").isPrefixOf uri || (Shm.ascii "bridge://").isPrefixOf uri

/-- This is `tp_consumer_set_payload_fallback`. -/
def setPayloadFallback (session : ConsumerSession) (view : Text) : ConsumerSession :=
  { session with
    payloadFallbackUri := if payloadFallbackUriSupported view then chars (view.take (Manager.uriMaxLength - 1))
      else [] }

/-- This is `tp_consumer_add_subscription`; each subscription that it adds is a new one. -/
def addSubscription (session : ConsumerSession) (opens : Bool) (channel : Text) (streamId : UInt32) :
    Option Subscription :=
  if streamId.toInt32 < 0 || !opens then none
  else some ⟨session.opened, chars (channel.take (Manager.uriMaxLength - 1)), streamId.toInt32⟩

def invalidAssignment (channel : Text) (streamId : UInt32) : Bool :=
  (!channel.isEmpty && streamId == 0) || (channel.isEmpty && streamId != 0)

/-- The former subscription is closed when the new one was added, whatever its channel and stream are. -/
def assignDescriptor (session : ConsumerSession) (opens : Bool) (view : ConsumerConfigView) : ConsumerSession :=
  if !view.descriptorChannel.isEmpty && view.descriptorStreamId > 0 then
    match session.addSubscription opens view.descriptorChannel view.descriptorStreamId with
    | none => session
    | some added =>
        { session with
          descriptorSubscription := some added
          assignedDescriptorStreamId := view.descriptorStreamId
          opened := session.opened + 1 }
  else session

def assignControl (session : ConsumerSession) (opens : Bool) (view : ConsumerConfigView) : ConsumerSession :=
  if !view.controlChannel.isEmpty && view.controlStreamId > 0 then
    match session.addSubscription opens view.controlChannel view.controlStreamId with
    | none => session
    | some added =>
        { session with
          controlSubscription := some added
          assignedControlStreamId := view.controlStreamId
          opened := session.opened + 1 }
  else session

/-- The part of the control handler for a configuration; it compares the consumer. -/
def onConsumerConfig (session : ConsumerSession) (around : Around) (view : ConsumerConfigView) :
    Option ConsumerSession :=
  if view.consumerId != session.context.consumerId then some session
  else if invalidAssignment view.descriptorChannel view.descriptorStreamId then some session
  else if invalidAssignment view.controlChannel view.controlStreamId then some session
  else
    let session := { session with assignedDescriptorStreamId := 0, assignedControlStreamId := 0 }
    let session := { session with useShm := view.useShm != 0 }.setPayloadFallback view.payloadFallbackUri
    let entered : Option ConsumerSession :=
      if !session.useShm then session.unmapRegions.map fun unmapped => { unmapped with phase := .fallback }
      else if session.phase = .fallback then some { session with phase := .unmapped }
      else some session
    entered.map fun session =>
      (session.assignDescriptor around.descriptorOpens view).assignControl around.controlOpens view

/-- This is `tp_consumer_schedule_reattach`. -/
def scheduleReattach (session : ConsumerSession) (nowNs : UInt64) : ConsumerSession :=
  if session.context.useDriver then
    { session with reattachRequested := true, link := session.link.schedule nowNs }
  else session

/-- The part of the control handler for a revoked lease; it compares the client and the role. -/
def onLeaseRevoked (session : ConsumerSession) (revoked : LeaseRevoked) (nowNs : UInt64) : Option ConsumerSession :=
  if revoked.clientId == session.context.consumerId && revoked.role == roleConsumer then
    session.unmapRegions.map fun unmapped => { unmapped with link := session.link.drop }.scheduleReattach nowNs
  else some session

end ConsumerSession

/-- The fragments that the control handler of a consumer decodes. -/
inductive ConsumerMessage where
  | announce (announce : PoolAnnounceView)
  | consumerConfig (view : ConsumerConfigView)
  | leaseRevoked (revoked : LeaseRevoked)
  | shutdown (shutdown : DriverShutdown)

namespace ConsumerSession

/-- This is `tp_consumer_control_handler`; it only reports the shutdown of the driver. -/
def onControl (session : ConsumerSession) (around : Around) : ConsumerMessage → Option ConsumerSession
  | .announce announce => session.onAnnounce around announce
  | .consumerConfig view => session.onConsumerConfig around view
  | .leaseRevoked revoked => session.onLeaseRevoked revoked around.nowNs
  | .shutdown _ => some session

/-- The gap is counted before the highest sequence number moves. -/
def see (session : ConsumerSession) (seq : UInt64) : ConsumerSession :=
  { session with
    dropsGap := if session.lastSeqSeen != 0 && seq > session.lastSeqSeen + 1 then
      session.dropsGap + (seq - session.lastSeqSeen - 1) else session.dropsGap
    lastSeqSeen := if seq > session.lastSeqSeen then seq else session.lastSeqSeen }

/-- This is `tp_consumer_descriptor_handler`; it compares the epoch. -/
def onDescriptor (session : ConsumerSession) (descriptor : FrameDescriptor) : Option ConsumerSession :=
  if !session.shmMapped then some session
  else if session.mappedEpoch != descriptor.epoch then session.unmapRegions
  else
    let seen := session.see descriptor.seq
    some { seen with delivered := descriptor :: session.delivered }

/-- This is `tp_consumer_attach_driver` with the answer of the driver, if there is one in time. -/
def attachDriver (session : ConsumerSession) (around : Around) (freshClientId : UInt32) (answer : Option AttachInfo)
    (copies : Bool) : Option (Int × ConsumerSession) :=
  let clientId := Client.requestClientId session.context.requestClientId session.context.consumerId freshClientId
  let session := { session with
    context := { session.context with
      consumerId := if session.context.requestClientId != 0 then session.context.consumerId else clientId } }
  match answer with
  | none => some (-1, session)
  | some info =>
      if info.code != DriverClient.codeOk then some (-1, session)
      else
        let session := { session with link := session.link.take info clientId }
        if !copies then some (-1, { session with link := session.link.abandon })
        else
          (session.attachConfig around (attachInfoConfig info)).map fun (code, attached) =>
            (code, if code < 0 then { attached with link := attached.link.abandon } else attached)

/-- This is `tp_consumer_check_activity_liveness` with the timestamp that the header region shows, if it can be
read. -/
def checkActivity (session : ConsumerSession) (nowNs : UInt64) (activityNs : Option UInt64) :
    Option ConsumerSession :=
  let staleNs := session.context.announcePeriodNs * freshnessMultiplier
  if !session.shmMapped || session.context.announcePeriodNs == 0 then some session
  else if session.attachTimeNs != 0 && nowNs > session.attachTimeNs && nowNs - session.attachTimeNs ≤ staleNs then
    some session
  else
    match activityNs with
    | none => some session
    | some activityNs =>
        if activityNs != 0 && nowNs > activityNs && nowNs - activityNs > staleNs then session.unmapRegions
        else some session

/-- This is `tp_consumer_check_pid_liveness`, where another process has mapped one of the regions or not. -/
def checkPid (session : ConsumerSession) (changed : Bool) : Option ConsumerSession :=
  if session.shmMapped && changed then session.unmapRegions else some session

end ConsumerSession

inductive ConsumerAction where
  | control (message : ConsumerMessage) (around : Around)
  | descriptor (descriptor : FrameDescriptor)
  | attachDriver (around : Around) (freshClientId : UInt32) (answer : Option AttachInfo) (copies : Bool)
  | attachConfig (around : Around) (config : AttachConfig)
  | liveness (nowNs : UInt64) (activityNs : Option UInt64) (pidChanged : Bool)
  | work (nowNs intervalNs graceIntervals : UInt64) (sends : Bool)

/-- What a step shows outside: the code of an attach, or the lease of a keepalive. -/
inductive ConsumerReport where
  | nothing
  | attached (code : Int)
  | keepalive (leaseId : UInt64)

namespace ConsumerSession

/-- A manual configuration is refused with a driver, and the driver is not asked without it. -/
def step (session : ConsumerSession) : ConsumerAction → Option (ConsumerSession × ConsumerReport)
  | .control message around => (session.onControl around message).map (·, .nothing)
  | .descriptor descriptor => (session.onDescriptor descriptor).map (·, .nothing)
  | .attachDriver around freshClientId answer copies =>
      if session.context.useDriver then
        (session.attachDriver around freshClientId answer copies).map fun (code, after) => (after, .attached code)
      else some (session, .attached (-1))
  | .attachConfig around config =>
      if session.context.useDriver then some (session, .attached (-1))
      else (session.attachConfig around config).map fun (code, after) => (after, .attached code)
  | .liveness nowNs activityNs pidChanged =>
      ((session.checkActivity nowNs activityNs).bind fun after => after.checkPid pidChanged).map (·, .nothing)
  | .work nowNs intervalNs graceIntervals sends =>
      let (link, leaseId) := driverWork session.link nowNs intervalNs graceIntervals sends
      some ({ session with link := link }, match leaseId with
        | none => .nothing
        | some leaseId => .keepalive leaseId)

end ConsumerSession

end TensorPool.Client
