/-
This file shows when a client is left alone by the messages of other streams.
-/

import TensorPool.Client.ConsumerSession
import TensorPool.Manager.Agreement

namespace TensorPool.Client

open Shm (Text)

/-- What a message of another stream may not change. -/
structure Surface where
  consumer : Consumer
  epoch : UInt64
  mappedEpoch : UInt64
  lastSeqSeen : UInt64
  dropsGap : UInt64
  dropsLate : UInt64
  assignedDescriptorStreamId : UInt32
  assignedControlStreamId : UInt32
  descriptorSubscription : Option Subscription
  controlSubscription : Option Subscription
  opened : Nat
  delivered : List FrameDescriptor

namespace ConsumerSession

def surface (session : ConsumerSession) : Surface where
  consumer := session.toConsumer
  epoch := session.epoch
  mappedEpoch := session.mappedEpoch
  lastSeqSeen := session.lastSeqSeen
  dropsGap := session.dropsGap
  dropsLate := session.dropsLate
  assignedDescriptorStreamId := session.assignedDescriptorStreamId
  assignedControlStreamId := session.assignedControlStreamId
  descriptorSubscription := session.descriptorSubscription
  controlSubscription := session.controlSubscription
  opened := session.opened
  delivered := session.delivered

/-- The handler ends, and nothing of the surface changes. -/
def Untouched (session : ConsumerSession) (handled : Option ConsumerSession) : Prop :=
  ∃ after, handled = some after ∧ after.surface = session.surface

/-- Nothing is mapped and nothing was counted. -/
structure Bare (session : ConsumerSession) : Prop where
  headerRegion : session.headerRegion = {}
  pools : session.pools = []
  poolCount : session.poolCount = 0
  headerNslots : session.headerNslots = 0
  shmMapped : session.shmMapped = false
  mappedEpoch : session.mappedEpoch = 0
  lastSeqSeen : session.lastSeqSeen = 0
  dropsGap : session.dropsGap = 0
  dropsLate : session.dropsLate = 0

/-- A configuration adds a subscription when it names a channel and a stream, and the add succeeds. -/
def Adds (opens : Bool) (channel : Text) (streamId : UInt32) : Prop :=
  (!channel.isEmpty && streamId > 0) = true ∧ ¬ (streamId.toInt32 < 0 || !opens) = true

instance (opens : Bool) (channel : Text) (streamId : UInt32) : Decidable (Adds opens channel streamId) :=
  inferInstanceAs (Decidable (_ ∧ _))

/-- The consumer is as the configuration wants it, nothing is assigned to it, and nothing is added. -/
structure Already (session : ConsumerSession) (around : Around) (view : ConsumerConfigView) : Prop where
  useShm : (view.useShm != 0) = session.useShm
  bare : view.useShm = 0 → session.Bare
  descriptor : ¬ Adds around.descriptorOpens view.descriptorChannel view.descriptorStreamId
  control : ¬ Adds around.controlOpens view.controlChannel view.controlStreamId
  assigned : session.assignedDescriptorStreamId = 0 ∧ session.assignedControlStreamId = 0

/-- The handler does not get to the fields of the configuration. -/
def Skips (session : ConsumerSession) (view : ConsumerConfigView) : Prop :=
  view.consumerId ≠ session.context.consumerId ∨
    invalidAssignment view.descriptorChannel view.descriptorStreamId = true ∨
      invalidAssignment view.controlChannel view.controlStreamId = true

end ConsumerSession

/-- A hello changes neither the consumers nor the progress policy of a producer, and it is not answered. -/
def ProducerSession.Untouched (session : ProducerSession) (handled : Option ProducerSession) : Prop :=
  ∃ after, handled = some after ∧
    after.consumerManager.map (fun manager => (manager.registry, manager.progressPolicy)) =
      session.consumerManager.map (fun manager => (manager.registry, manager.progressPolicy)) ∧
    after.configs = session.configs

/-- The manager refuses the hello: its request is invalid, or its consumer is new and there is no room. -/
def Refuses (manager : Manager.ConsumerManager) (hello : Manager.ConsumerHello) : Prop :=
  (∃ text, Manager.requestValidate hello = .error text) ∨
    Manager.registryFind manager.registry hello.consumerId = none ∧ Manager.registryAlloc manager.registry = none

/-- The manager refuses a hello exactly where it reports an error. -/
theorem handleHello_refuses (manager : Manager.ConsumerManager) (hello : Manager.ConsumerHello)
    (outside : Manager.Outside) :
    (∃ text, (Manager.handleHello manager hello outside).2 = .error text) ↔ Refuses manager hello := by
  unfold Manager.handleHello Refuses
  cases valid : Manager.requestValidate hello with
  | error text => exact iff_of_true ⟨text, rfl⟩ (.inl ⟨text, rfl⟩)
  | ok request =>
      dsimp only
      unfold Manager.registryUpdate
      rw [valid]
      dsimp only
      cases place : Manager.registryFind manager.registry hello.consumerId with
      | some index =>
          refine iff_of_false ?_ ?_
          · intro refused
            obtain ⟨text, refused⟩ := refused
            cases refused
          · intro refuses
            obtain ⟨text, refused⟩ | ⟨missing, -⟩ := refuses
            · cases refused
            · cases missing
      | none =>
          cases free : Manager.registryAlloc manager.registry with
          | none => exact iff_of_true ⟨_, rfl⟩ (.inr ⟨rfl, rfl⟩)
          | some index =>
              refine iff_of_false ?_ ?_
              · intro refused
                obtain ⟨text, refused⟩ := refused
                cases refused
              · intro refuses
                obtain ⟨text, refused⟩ | ⟨-, full⟩ := refuses
                · cases refused
                · cases full

section Handlers

variable {session : ConsumerSession} {around : Around}

/-- A descriptor is without effect only where nothing is mapped. -/
theorem onDescriptor_untouched (descriptor : FrameDescriptor) :
    session.Untouched (session.onDescriptor descriptor) ↔ session.shmMapped = false := by
  unfold ConsumerSession.onDescriptor
  constructor
  · intro untouched
    obtain ⟨after, handled, same⟩ := untouched
    cases mapped : session.shmMapped with
    | false => rfl
    | true =>
        exfalso
        rw [mapped] at handled
        rw [if_neg (by decide : ¬ (!true) = true)] at handled
        split at handled
        · obtain ⟨consumer, unmapped, rfl⟩ := Option.map_eq_some_iff.mp handled
          rw [consumerUnmapRegions] at unmapped
          split at unmapped
          · cases unmapped
            have kept := congrArg (fun surface => surface.consumer.shmMapped) same
            exact Bool.false_ne_true (kept.trans mapped)
          · cases unmapped
        · cases handled
          have longer := congrArg (fun surface => surface.delivered.length) same
          exact absurd longer (Nat.succ_ne_self _)
  · intro unmapped
    rw [unmapped]
    exact ⟨session, rfl, rfl⟩

theorem assignDescriptor_idle {opens : Bool} {view : ConsumerConfigView}
    (idle : ¬ ConsumerSession.Adds opens view.descriptorChannel view.descriptorStreamId) :
    session.assignDescriptor opens view = session := by
  unfold ConsumerSession.assignDescriptor ConsumerSession.addSubscription
  split
  next named => rw [if_pos (by_contra fun added => idle ⟨named, added⟩)]
  · rfl

theorem assignDescriptor_opened {opens : Bool} {view : ConsumerConfigView}
    (adds : ConsumerSession.Adds opens view.descriptorChannel view.descriptorStreamId) :
    (session.assignDescriptor opens view).opened = session.opened + 1 := by
  unfold ConsumerSession.assignDescriptor ConsumerSession.addSubscription
  rw [if_pos adds.1, if_neg adds.2]

theorem assignControl_idle {opens : Bool} {view : ConsumerConfigView}
    (idle : ¬ ConsumerSession.Adds opens view.controlChannel view.controlStreamId) :
    session.assignControl opens view = session := by
  unfold ConsumerSession.assignControl ConsumerSession.addSubscription
  split
  next named => rw [if_pos (by_contra fun added => idle ⟨named, added⟩)]
  · rfl

theorem assignControl_opened {opens : Bool} {view : ConsumerConfigView}
    (adds : ConsumerSession.Adds opens view.controlChannel view.controlStreamId) :
    (session.assignControl opens view).opened = session.opened + 1 := by
  unfold ConsumerSession.assignControl ConsumerSession.addSubscription
  rw [if_pos adds.1, if_neg adds.2]

/-- The assignments of a configuration are without effect exactly where they add no subscription. -/
theorem assign_untouched {entered : ConsumerSession} {opens others : Bool} {view : ConsumerConfigView}
    (closed : entered.opened = session.opened) :
    ((entered.assignDescriptor opens view).assignControl others view).surface = session.surface ↔
      ¬ ConsumerSession.Adds opens view.descriptorChannel view.descriptorStreamId ∧
        ¬ ConsumerSession.Adds others view.controlChannel view.controlStreamId ∧
          entered.surface = session.surface := by
  constructor
  · intro same
    have number : ((entered.assignDescriptor opens view).assignControl others view).opened = session.opened :=
      congrArg Surface.opened same
    by_cases descriptor : ConsumerSession.Adds opens view.descriptorChannel view.descriptorStreamId
    · have first := @assignDescriptor_opened entered opens view descriptor
      exfalso
      by_cases control : ConsumerSession.Adds others view.controlChannel view.controlStreamId
      · rw [assignControl_opened control] at number
        omega
      · rw [assignControl_idle control] at number
        omega
    · rw [assignDescriptor_idle descriptor] at number same
      by_cases control : ConsumerSession.Adds others view.controlChannel view.controlStreamId
      · rw [assignControl_opened control] at number
        omega
      · rw [assignControl_idle control] at same
        exact ⟨descriptor, control, same⟩
  · rintro ⟨descriptor, control, same⟩
    rw [assignDescriptor_idle descriptor, assignControl_idle control, same]

/-- A configuration that gets through without shared memory unmaps the regions. -/
theorem onConsumerConfig_fallback {view : ConsumerConfigView} (gets : ¬ session.Skips view) (off : view.useShm = 0) :
    (∃ entered : ConsumerSession, session.onConsumerConfig around view =
        some ((entered.assignDescriptor around.descriptorOpens view).assignControl around.controlOpens view) ∧
      session.poolCount ≤ session.pools.length ∧
      entered.surface =
        { session.surface with
          consumer := { session.unmapped.toConsumer with useShm := false }
          mappedEpoch := 0
          lastSeqSeen := 0
          dropsGap := 0
          dropsLate := 0
          assignedDescriptorStreamId := 0
          assignedControlStreamId := 0 }) ∨
      session.onConsumerConfig around view = none ∧ ¬ session.poolCount ≤ session.pools.length := by
  simp only [ConsumerSession.Skips, not_or, not_not, Bool.not_eq_true] at gets
  obtain ⟨own, descriptor, control⟩ := gets
  unfold ConsumerSession.onConsumerConfig
  rw [if_neg (by simpa using own), if_neg (by simpa using descriptor), if_neg (by simpa using control)]
  dsimp only
  rw [off]
  by_cases tidy : session.poolCount ≤ session.pools.length
  · left
    rw [if_pos (by rfl), ConsumerSession.unmapRegions, consumerUnmapRegions_tidy (by exact tidy), Option.map_some,
      Option.map_some, Option.map_some]
    exact ⟨_, rfl, tidy, rfl⟩
  · right
    rw [if_pos (by rfl), ConsumerSession.unmapRegions, consumerUnmapRegions_untidy (by exact tidy)]
    exact ⟨rfl, tidy⟩

/-- A configuration that gets through with shared memory leaves the regions. -/
theorem onConsumerConfig_shared {view : ConsumerConfigView} (gets : ¬ session.Skips view) (on : view.useShm ≠ 0) :
    ∃ entered : ConsumerSession, session.onConsumerConfig around view =
        some ((entered.assignDescriptor around.descriptorOpens view).assignControl around.controlOpens view) ∧
      entered.surface =
        { session.surface with
          consumer := { session.toConsumer with useShm := true }
          assignedDescriptorStreamId := 0
          assignedControlStreamId := 0 } := by
  simp only [ConsumerSession.Skips, not_or, not_not, Bool.not_eq_true] at gets
  obtain ⟨own, descriptor, control⟩ := gets
  have shared : (view.useShm != 0) = true := bne_iff_ne.mpr on
  unfold ConsumerSession.onConsumerConfig
  rw [if_neg (by simpa using own), if_neg (by simpa using descriptor), if_neg (by simpa using control)]
  dsimp only
  rw [shared]
  split
  next off => exact absurd off Bool.false_ne_true
  · split
    all_goals
      rw [Option.map_some]
      exact ⟨_, rfl, rfl⟩

/-- A handler that ends in the assignments is without effect exactly where they are and what it entered is. -/
theorem untouched_assigned {entered : ConsumerSession} {view : ConsumerConfigView}
    (closed : entered.opened = session.opened) (handled : session.onConsumerConfig around view =
      some ((entered.assignDescriptor around.descriptorOpens view).assignControl around.controlOpens view)) :
    session.Untouched (session.onConsumerConfig around view) ↔
      ¬ ConsumerSession.Adds around.descriptorOpens view.descriptorChannel view.descriptorStreamId ∧
        ¬ ConsumerSession.Adds around.controlOpens view.controlChannel view.controlStreamId ∧
          entered.surface = session.surface := by
  rw [← assign_untouched closed, handled]
  constructor
  · rintro ⟨after, same, untouched⟩
    cases same
    exact untouched
  · intro untouched
    exact ⟨_, rfl, untouched⟩

/-- A configuration is without effect only where it is skipped or asks for what is there already. -/
theorem onConsumerConfig_untouched (view : ConsumerConfigView) :
    session.Untouched (session.onConsumerConfig around view) ↔ session.Skips view ∨ session.Already around view := by
  by_cases skips : session.Skips view
  · refine iff_of_true ?_ (.inl skips)
    unfold ConsumerSession.onConsumerConfig
    obtain other | descriptor | control := skips
    · rw [if_pos (bne_iff_ne.mpr other)]
      exact ⟨session, rfl, rfl⟩
    · rw [if_pos descriptor, ite_self]
      exact ⟨session, rfl, rfl⟩
    · rw [if_pos control, ite_self, ite_self]
      exact ⟨session, rfl, rfl⟩
  · rw [or_iff_right skips]
    by_cases off : view.useShm = 0
    · obtain ⟨entered, handled, tidy, shown⟩ | ⟨handled, untidy⟩ :=
        @onConsumerConfig_fallback session around view skips off
      · rw [untouched_assigned (congrArg Surface.opened shown) handled, shown]
        constructor
        · rintro ⟨descriptor, control, same⟩
          simp only [ConsumerSession.surface, AttachedConsumer.unmapped, Surface.mk.injEq] at same
          obtain ⟨consumer, -, mappedEpoch, lastSeqSeen, dropsGap, dropsLate, descriptorId, controlId, -⟩ := same
          have fields := Consumer.mk.inj consumer
          obtain ⟨headerRegion, pools, poolCount, headerNslots, useShm, shmMapped⟩ := fields
          refine ⟨?_, fun _ => ?_, descriptor, control, descriptorId.symm, controlId.symm⟩
          · rw [off]
            exact useShm
          · exact ⟨headerRegion.symm, pools.symm, poolCount.symm, headerNslots.symm, shmMapped.symm, mappedEpoch.symm,
              lastSeqSeen.symm, dropsGap.symm, dropsLate.symm⟩
        · rintro ⟨useShm, bare, descriptor, control, assigned, assigned'⟩
          refine ⟨descriptor, control, ?_⟩
          rw [off] at useShm
          obtain ⟨headerRegion, pools, poolCount, headerNslots, shmMapped, mappedEpoch, lastSeqSeen, dropsGap,
            dropsLate⟩ := bare off
          have consumer : { session.unmapped.toConsumer with useShm := false } = session.toConsumer := by
            change _ = Consumer.mk session.headerRegion session.pools session.poolCount session.headerNslots
              session.useShm session.shmMapped
            rw [headerRegion, pools, poolCount, headerNslots, shmMapped, ← useShm]
            rfl
          rw [consumer, ConsumerSession.surface]
          rw [mappedEpoch, lastSeqSeen, dropsGap, dropsLate, assigned, assigned']
      · constructor
        · intro untouched
          obtain ⟨after, handled', -⟩ := untouched
          rw [handled] at handled'
          cases handled'
        · intro already
          have none := (already.bare off).poolCount
          exact absurd (none ▸ Nat.zero_le _) untidy
    · obtain ⟨entered, handled, shown⟩ := @onConsumerConfig_shared session around view skips off
      rw [untouched_assigned (congrArg Surface.opened shown) handled, shown]
      constructor
      · rintro ⟨descriptor, control, same⟩
        simp only [ConsumerSession.surface, Surface.mk.injEq] at same
        obtain ⟨consumer, -, -, -, -, -, descriptorId, controlId, -⟩ := same
        refine ⟨?_, fun off' => absurd off' off, descriptor, control, descriptorId.symm, controlId.symm⟩
        rw [bne_iff_ne.mpr off]
        exact (Consumer.mk.inj consumer).2.2.2.2.1
      · rintro ⟨useShm, -, descriptor, control, assigned, assigned'⟩
        refine ⟨descriptor, control, ?_⟩
        rw [bne_iff_ne.mpr off] at useShm
        rw [useShm, ConsumerSession.surface, assigned, assigned']

/-- A hello is without effect only where there is no manager or the manager refuses it. -/
theorem onHello_untouched (session : ProducerSession) (hello : Manager.ConsumerHello) (outside : Manager.Outside)
    (nowNs : UInt64) :
    session.Untouched (session.onControl nowNs (.consumerHello hello outside)) ↔
      ∀ manager, session.consumerManager = some manager → Refuses manager hello := by
  cases present : session.consumerManager with
  | none =>
      refine iff_of_true ?_ (fun manager own => by cases own)
      rw [ProducerSession.onControl, present]
      exact ⟨session, rfl, rfl, rfl⟩
  | some manager =>
      unfold ProducerSession.onControl
      dsimp only
      rw [present]
      dsimp only
      cases answered : Manager.handleHello manager hello outside with
      | mk after answer =>
          cases answer with
          | error text =>
              refine iff_of_true ?_ ?_
              · obtain rfl := Manager.handleHello_error answered
                refine ⟨_, rfl, ?_, rfl⟩
                rw [present]
              · intro manager' same
                cases same
                exact (handleHello_refuses manager hello outside).mp ⟨text, congrArg Prod.snd answered⟩
          | ok config =>
              refine iff_of_false ?_ ?_
              · intro untouched
                obtain ⟨after', same, -, kept⟩ := untouched
                cases same
                exact List.cons_ne_self _ _ kept
              · intro refuses
                obtain ⟨text, refused⟩ := (handleHello_refuses manager hello outside).mpr (refuses manager rfl)
                rw [answered] at refused
                cases refused

/-- A message of another stream is without effect exactly where the epoch, the consumer or the manager excludes it. -/
theorem other_stream_untouched (consumer : ConsumerSession) (producer : ProducerSession) (around : Around) :
    (∀ descriptor : FrameDescriptor, descriptor.streamId ≠ consumer.streamId →
      (consumer.Untouched (consumer.onDescriptor descriptor) ↔ consumer.shmMapped = false)) ∧
    (∀ view : ConsumerConfigView, view.streamId ≠ consumer.streamId →
      (consumer.Untouched (consumer.onControl around (.consumerConfig view)) ↔
        consumer.Skips view ∨ consumer.Already around view)) ∧
    ∀ (hello : Manager.ConsumerHello) (outside : Manager.Outside), hello.streamId ≠ producer.streamId →
      (producer.Untouched (producer.onControl around.nowNs (.consumerHello hello outside)) ↔
        ∀ manager, producer.consumerManager = some manager → Refuses manager hello) := by
  constructor
  · intro descriptor other
    exact onDescriptor_untouched descriptor
  · constructor
    · intro view other
      exact onConsumerConfig_untouched view
    · intro hello outside other
      exact onHello_untouched producer hello outside around.nowNs

/-- A consumer of stream 5 is mapped, and a producer of stream 5 has room for a consumer. -/
def fifthConsumer : ConsumerSession where
  headerRegion := ⟨some 1, 4160⟩
  pools := [⟨0, 16, 64, ⟨some 2, 1088⟩⟩]
  poolCount := 1
  headerNslots := 16
  shmMapped := true
  streamId := 5
  epoch := 1
  mappedEpoch := 1
  lastSeqSeen := 3
  phase := .mapped
  context := { streamId := 5, consumerId := 8, useDriver := false, announcePeriodNs := 1000 }

def fifthProducer : ProducerSession where
  streamId := 5
  context := { producerId := 9, useDriver := false }
  consumerManager := some (Manager.managerInit 1)

/-- The messages of stream 6 use the ids of the clients of stream 5. -/
def sixthDescriptor : FrameDescriptor := ⟨6, 2, 0, 7, 0, 0⟩

def sixthConfig : ConsumerConfigView := ⟨6, 8, 0, 1, 0, 0, [], [], []⟩

def sixthHello : Manager.ConsumerHello := ⟨6, 8, 1, 0, 1, 0, 0, 0, 0, 0, 0, [], []⟩

theorem other_stream_untouched_spared :
    ({ fifthConsumer with shmMapped := false } : ConsumerSession).Untouched
      (({ fifthConsumer with shmMapped := false } : ConsumerSession).onDescriptor sixthDescriptor) ∧
    fifthConsumer.Untouched (fifthConsumer.onControl (barren 7)
      (.consumerConfig { sixthConfig with consumerId := 4 })) ∧
    ({ fifthConsumer with useShm := true } : ConsumerSession).Untouched
      (({ fifthConsumer with useShm := true } : ConsumerSession).onControl (barren 7)
        (.consumerConfig { sixthConfig with useShm := 1 })) ∧
    ({ fifthProducer with consumerManager := none } : ProducerSession).Untouched
      (({ fifthProducer with consumerManager := none } : ProducerSession).onControl 7
        (.consumerHello sixthHello ⟨7, true, true⟩)) := by
  refine ⟨?_, ?_, ?_, ?_⟩
  · exact (other_stream_untouched _ fifthProducer (barren 7)).1 sixthDescriptor (by decide) |>.mpr rfl
  · exact (other_stream_untouched fifthConsumer fifthProducer (barren 7)).2.1 { sixthConfig with consumerId := 4 }
      (by decide) |>.mpr (.inl (.inl (by decide)))
  · exact (other_stream_untouched _ fifthProducer (barren 7)).2.1 { sixthConfig with useShm := 1 }
      (by decide) |>.mpr (.inr ⟨rfl, fun off => absurd off (by decide), by decide, by decide, ⟨rfl, rfl⟩⟩)
  · refine ((other_stream_untouched fifthConsumer _ (barren 7)).2.2 sixthHello ⟨7, true, true⟩ (by decide)).mpr ?_
    intro manager present
    cases present

/-- This is `aeron:ipc`. -/
def ipcChannel : Text := [97, 101, 114, 111, 110, 58, 105, 112, 99]

/-- This consumer has the subscription that a configuration of stream 6 assigns to it once more. -/
def assignedConsumer : ConsumerSession :=
  { fifthConsumer with
    useShm := true
    descriptorSubscription := some ⟨0, ipcChannel, 1100⟩
    assignedDescriptorStreamId := 1100
    opened := 1 }

def sixthAssignment : ConsumerConfigView := ⟨6, 8, 0, 1, 1100, 0, [], ipcChannel, []⟩

/--
The descriptor unmaps the consumer, a configuration ends its shared memory or closes its subscription for
one on the same channel and stream, and the hello takes an entry.
-/
theorem other_stream_disturbs :
    (sixthDescriptor.streamId ≠ fifthConsumer.streamId ∧
      ¬ fifthConsumer.Untouched (fifthConsumer.onDescriptor sixthDescriptor)) ∧
    (sixthConfig.streamId ≠ fifthConsumer.streamId ∧
      ∀ around, ¬ fifthConsumer.Untouched (fifthConsumer.onControl around (.consumerConfig sixthConfig))) ∧
    (sixthAssignment.streamId ≠ assignedConsumer.streamId ∧
      ∀ around : Around, around.descriptorOpens = true →
        ¬ assignedConsumer.Untouched (assignedConsumer.onControl around (.consumerConfig sixthAssignment))) ∧
    sixthHello.streamId ≠ fifthProducer.streamId ∧
      ¬ fifthProducer.Untouched (fifthProducer.onControl 7 (.consumerHello sixthHello ⟨7, true, true⟩)) := by
  refine ⟨⟨by decide, ?_⟩, ⟨by decide, ?_⟩, ⟨by decide, ?_⟩, by decide, ?_⟩
  · rw [onDescriptor_untouched]
    decide
  · intro around
    change ¬ fifthConsumer.Untouched (fifthConsumer.onConsumerConfig around sixthConfig)
    rw [onConsumerConfig_untouched]
    rintro (skips | already)
    · revert skips
      unfold ConsumerSession.Skips
      decide
    · exact absurd already.useShm (by decide)
  · intro around opens
    change ¬ assignedConsumer.Untouched (assignedConsumer.onConsumerConfig around sixthAssignment)
    rw [onConsumerConfig_untouched]
    rintro (skips | already)
    · revert skips
      unfold ConsumerSession.Skips
      decide
    · have idle := already.descriptor
      rw [opens] at idle
      exact idle (by decide)
  · rw [onHello_untouched]
    intro refuses
    obtain ⟨text, refused⟩ | ⟨-, full⟩ := refuses _ rfl
    · cases refused
    · cases full

end Handlers

end TensorPool.Client
