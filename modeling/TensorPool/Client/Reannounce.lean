/-
This file shows when the announces that a driver repeats leave a mapped consumer as it is.
-/

import TensorPool.Client.AttachChecks
import TensorPool.Client.Isolation
import TensorPool.Library.GuardedRun

namespace TensorPool.Client

open Seqlock
open Shm (Machine ascii)

/-- What each load of a read meets in the slot of a region. -/
abbrev SlotMemory := Nat → UInt32 → Nat → SlotCell

/-- The result of `tp_consumer_read_frame` over the memory that it meets. -/
def readResult (consumer : Consumer) (memory : SlotMemory) (seq : UInt64) : ReadResult :=
  match readFrame consumer seq with
  | .done result => result
  | .loads region offset reading => reading.during (memory region offset)

/-- A consumer with the results of its reads, the last one first. -/
structure Listening where
  session : ConsumerSession
  results : List ReadResult := []

inductive Heard where
  | announce (announce : PoolAnnounceView) (around : Around)
  | descriptor (descriptor : FrameDescriptor)
  | read (seq : UInt64) (memory : SlotMemory)

/-- An announce is of the control plane, the rest of the data plane. -/
def Heard.data : Heard → Bool
  | .announce _ _ => false
  | _ => true

namespace ConsumerSession

/-- A late frame is counted. -/
def countLate (session : ConsumerSession) (result : ReadResult) : ConsumerSession :=
  if result = .absent true then { session with dropsLate := session.dropsLate + 1 } else session

/-- The handler joins at its first announce. -/
def joined (session : ConsumerSession) (around : Around) : ConsumerSession :=
  if session.announceJoinTimeNs == 0 then { session with announceJoinTimeNs := around.joinNs } else session

/-- The announce is not dropped before it is applied. -/
def accepts (session : ConsumerSession) (around : Around) (announce : PoolAnnounceView) : Bool :=
  session.useShm && !(session.joined around).announceDropped around announce &&
    !(session.lastAnnounceEpoch != 0 && announce.epoch < session.lastAnnounceEpoch)

/-- The regions of the announce are those that are mapped, and they can be mapped once more. -/
def mapsAgain (session : ConsumerSession) (around : Around) (announce : PoolAnnounceView) : Bool :=
  match announceConfig around.copies announce with
  | .error _ => false
  | .ok config =>
      config.layoutVersion == Shm.layoutVersion && isPowerOfTwo config.headerNslots && around.allocations.pools &&
        config.headerNslots == session.headerNslots && config.pools.length == session.poolCount &&
          decide (attachRegions around.machine false "tp_consumer_attach" config = .ok (session.headerRegion,
            session.pools))

/-- Nothing was counted yet. -/
def uncounted (session : ConsumerSession) : Bool :=
  session.lastSeqSeen == 0 && session.dropsGap == 0 && session.dropsLate == 0

end ConsumerSession

namespace Listening

def step (listening : Listening) : Heard → Option Listening
  | .announce announce around =>
      (listening.session.onAnnounce around announce).map fun session => { listening with session }
  | .descriptor descriptor =>
      (listening.session.onDescriptor descriptor).map fun session => { listening with session }
  | .read seq memory =>
      match readResult listening.session.toConsumer memory seq with
      | .fault => none
      | result => some ⟨listening.session.countLate result, result :: listening.results⟩

/--
An accepted announce of the mapped epoch finds nothing counted and the same regions, and no descriptor is of
another epoch.
-/
def calm (listening : Listening) : Heard → Bool
  | .announce announce around =>
      announce.epoch == listening.session.mappedEpoch &&
        (!listening.session.accepts around announce ||
          listening.session.uncounted && listening.session.mapsAgain around announce)
  | .descriptor descriptor => descriptor.epoch == listening.session.mappedEpoch
  | .read _ _ => true

end Listening

/-- The consumer has mapped the regions of the epoch. -/
structure MappedAt (session : ConsumerSession) (epoch : UInt64) : Prop where
  shmMapped : session.shmMapped = true
  mappedEpoch : session.mappedEpoch = epoch
  epoch : session.epoch = epoch

/-- Without the announces the consumer would have done the same with its descriptors and its reads. -/
structure Transparent (before : ConsumerSession) (events : List Heard) (after : Listening) : Prop where
  mapped : after.session.toConsumer = before.toConsumer ∧ MappedAt after.session before.epoch
  alike : ∃ other, GuardedRun.run Listening.step ⟨before, []⟩ (events.filter Heard.data) = some other ∧
    other.session.surface = after.session.surface ∧ other.results = after.results

section Announce

variable {session : ConsumerSession} {around : Around} {announce : PoolAnnounceView} {epoch : UInt64}

theorem joined_surface : (session.joined around).surface = session.surface := by
  unfold ConsumerSession.joined
  split <;> rfl

/-- The handler after the join. -/
theorem onAnnounce_joined : session.onAnnounce around announce =
    if !session.useShm then some session
    else if (session.joined around).announceDropped around announce then some (session.joined around)
    else if (session.joined around).shmMapped && announce.epoch != (session.joined around).mappedEpoch then
      if announce.epoch < (session.joined around).mappedEpoch then (session.joined around).unmapRegions
      else (session.joined around).unmapRegions.bind fun unmapped => unmapped.acceptAnnounce around announce
    else (session.joined around).acceptAnnounce around announce := rfl

/-- The configuration of an announce has the stream and the epoch of the announce. -/
theorem announceConfig_ok {copies : AnnounceCopies} {config : AttachConfig}
    (made : ConsumerSession.announceConfig copies announce = .ok config) :
    config.streamId = announce.streamId ∧ config.epoch = announce.epoch := by
  unfold ConsumerSession.announceConfig at made
  repeat'
    split at made
    · cases made
  cases made
  exact ⟨rfl, rfl⟩

/-- The consumer that an attach leaves when its regions are mapped. -/
def remapped (consumer : AttachedConsumer) (config : AttachConfig) (headerRegion : Region) (pools : List Pool) :
    AttachedConsumer :=
  { consumer with
    streamId := config.streamId, epoch := config.epoch, layoutVersion := config.layoutVersion
    headerNslots := config.headerNslots, poolCount := config.pools.length, headerRegion
    pools := if config.pools.length > 0 then pools else consumer.pools
    phase := .mapped, shmMapped := true, mappedEpoch := config.epoch, lastAnnounceEpoch := config.epoch
    lastSeqSeen := 0, dropsGap := 0, dropsLate := 0, reattachRequested := false }

theorem consumerAttachConfig_remapped {machine : Machine} {allocations : Allocations} {config : AttachConfig}
    {consumer : AttachedConsumer} {headerRegion : Region} {pools : List Pool}
    (layout : config.layoutVersion = Shm.layoutVersion) (power : isPowerOfTwo config.headerNslots = true)
    (allocated : allocations.pools = true)
    (regions : attachRegions machine false "tp_consumer_attach" config = .ok (headerRegion, pools)) :
    consumerAttachConfig machine allocations config consumer =
      some ⟨0, none, remapped consumer config headerRegion pools⟩ := by
  unfold consumerAttachConfig
  dsimp only
  rw [layout, bne_self_eq_false, if_neg Bool.false_ne_true, power, Bool.not_true, if_neg Bool.false_ne_true,
    allocated, Bool.not_true, Bool.and_false, if_neg Bool.false_ne_true, regions]
  dsimp only
  rw [remapped, layout]
  split <;> rfl

/-- Regions that are mapped once more leave a consumer that counted nothing as it is. -/
theorem applyAnnounce_again (mapped : MappedAt session epoch) (same : announce.epoch = epoch)
    (uncounted : session.uncounted = true) (again : session.mapsAgain around announce = true) :
    ∃ after, session.applyAnnounce around announce = some (0, after) ∧ after.surface = session.surface := by
  unfold ConsumerSession.mapsAgain at again
  unfold ConsumerSession.applyAnnounce
  cases made : ConsumerSession.announceConfig around.copies announce with
  | error text =>
      rw [made] at again
      cases again
  | ok config =>
      rw [made] at again
      simp only [Bool.and_eq_true, beq_iff_eq, decide_eq_true_eq] at again
      obtain ⟨⟨⟨⟨⟨layout, power⟩, allocated⟩, nslots⟩, count⟩, regions⟩ := again
      have own : config.epoch = epoch := (announceConfig_ok made).2.trans same
      have lengths := (attachRegions_ok regions).2.length_eq
      have tidy : session.poolCount ≤ session.pools.length := by omega
      have kept : (if config.pools.length > 0 then session.pools else []) = session.pools := by
        split
        · rfl
        next empty => exact (List.eq_nil_of_length_eq_zero (by omega)).symm
      simp only [ConsumerSession.uncounted, Bool.and_eq_true, beq_iff_eq] at uncounted
      obtain ⟨⟨seen, gap⟩, late⟩ := uncounted
      dsimp only
      rw [ConsumerSession.unmapRegions, consumerUnmapRegions_tidy tidy, Option.map_some, Option.bind_some,
        ConsumerSession.attachConfig, consumerAttachConfig_remapped layout power allocated regions, Option.map_some,
        Option.map_some]
      refine ⟨_, rfl, ?_⟩
      have consumer : (⟨session.headerRegion, if config.pools.length > 0 then session.pools else [],
        config.pools.length,
          config.headerNslots, session.useShm, true⟩ : Consumer) = session.toConsumer := by
        rw [kept, count, nslots, ← mapped.shmMapped]
      unfold ConsumerSession.surface
      rw [Surface.mk.injEq]
      exact ⟨consumer, own.trans mapped.epoch.symm, same.trans mapped.mappedEpoch.symm, seen.symm, gap.symm,
        late.symm, rfl, rfl, rfl, rfl, rfl, rfl⟩

/-- A calm announce leaves the surface of the consumer. -/
theorem onAnnounce_calm {after : ConsumerSession} (mapped : MappedAt session epoch) (same : announce.epoch = epoch)
    (calm : session.accepts around announce = true → session.uncounted = true ∧
      session.mapsAgain around announce = true)
    (handled : session.onAnnounce around announce = some after) : after.surface = session.surface := by
  have later : ∀ joined : ConsumerSession, joined.toAttachedConsumer = session.toAttachedConsumer →
      joined.surface = session.surface → MappedAt joined epoch ∧ joined.uncounted = session.uncounted ∧
        joined.mapsAgain around announce = session.mapsAgain around announce := by
    intro joined attached surface
    refine ⟨⟨?_, ?_, ?_⟩, ?_, ?_⟩
    · rw [attached, mapped.shmMapped]
    · rw [attached, mapped.mappedEpoch]
    · rw [attached, mapped.epoch]
    · rw [ConsumerSession.uncounted, ConsumerSession.uncounted, attached]
    · rw [ConsumerSession.mapsAgain, ConsumerSession.mapsAgain, attached]
  have attached : (session.joined around).toAttachedConsumer = session.toAttachedConsumer := by
    unfold ConsumerSession.joined
    split <;> rfl
  obtain ⟨here, counted, maps⟩ := later _ attached joined_surface
  rw [onAnnounce_joined] at handled
  unfold ConsumerSession.accepts at calm
  cases useShm : session.useShm with
  | false =>
      rw [useShm, Bool.not_false, if_pos rfl] at handled
      cases handled
      rfl
  | true =>
      rw [useShm, Bool.not_true, if_neg Bool.false_ne_true] at handled
      split at handled
      · cases handled
        exact joined_surface
      next taken =>
        have stays : ¬ ((session.joined around).shmMapped &&
          announce.epoch != (session.joined around).mappedEpoch) = true := by
          rw [here.mappedEpoch, same, bne_self_eq_false, Bool.and_false]
          exact Bool.false_ne_true
        rw [if_neg stays] at handled
        unfold ConsumerSession.acceptAnnounce at handled
        split at handled
        · cases handled
          exact joined_surface
        next current =>
          rw [attached] at current
          have accepted : (session.useShm && !(session.joined around).announceDropped around announce &&
              !(session.lastAnnounceEpoch != 0 && announce.epoch < session.lastAnnounceEpoch)) = true := by
            rw [useShm, Bool.eq_false_iff.mpr taken, Bool.eq_false_iff.mpr current]
            rfl
          obtain ⟨uncounted, again⟩ := calm accepted
          obtain ⟨applied, shown, kept⟩ := applyAnnounce_again here same (counted.trans uncounted) (maps.trans again)
          rw [shown, Option.map_some] at handled
          dsimp only at handled
          rw [if_pos rfl] at handled
          cases handled
          exact kept.trans joined_surface

end Announce

section Data

variable {session other after : ConsumerSession}

/-- The surface holds what a descriptor and a read need. -/
theorem surface_fields (same : session.surface = other.surface) :
    session.toConsumer = other.toConsumer ∧ session.epoch = other.epoch ∧ session.mappedEpoch = other.mappedEpoch ∧
      session.lastSeqSeen = other.lastSeqSeen ∧ session.dropsGap = other.dropsGap ∧
        session.dropsLate = other.dropsLate ∧ session.delivered = other.delivered := by
  unfold ConsumerSession.surface at same
  rw [Surface.mk.injEq] at same
  obtain ⟨consumer, epoch, mappedEpoch, seen, gap, late, -, -, -, -, -, delivered⟩ := same
  exact ⟨consumer, epoch, mappedEpoch, seen, gap, late, delivered⟩

/-- A descriptor of the mapped epoch does the same to consumers with one surface. -/
theorem onDescriptor_alike {descriptor : FrameDescriptor} (same : session.surface = other.surface)
    (mapped : MappedAt session descriptor.epoch) (handled : session.onDescriptor descriptor = some after) :
    ∃ after', other.onDescriptor descriptor = some after' ∧ after.surface = after'.surface ∧
      after.toConsumer = session.toConsumer ∧ MappedAt after descriptor.epoch := by
  obtain ⟨consumer, epoch, mappedEpoch, seen, gap, late, delivered⟩ := surface_fields same
  have otherMapped : other.shmMapped = true := by
    rw [← consumer]
    exact mapped.shmMapped
  unfold ConsumerSession.onDescriptor at handled ⊢
  rw [mapped.shmMapped, mapped.mappedEpoch, bne_self_eq_false, Bool.not_true, if_neg Bool.false_ne_true,
    if_neg Bool.false_ne_true] at handled
  rw [otherMapped, ← mappedEpoch, mapped.mappedEpoch, bne_self_eq_false, Bool.not_true, if_neg Bool.false_ne_true,
    if_neg Bool.false_ne_true]
  cases handled
  refine ⟨_, rfl, ?_, rfl, mapped.shmMapped, mapped.mappedEpoch, mapped.epoch⟩
  unfold ConsumerSession.surface at same ⊢
  rw [Surface.mk.injEq] at same ⊢
  obtain ⟨-, -, -, -, -, -, descriptors, controls, first, second, opened, -⟩ := same
  refine ⟨consumer, epoch, mappedEpoch, ?_, ?_, late, descriptors, controls, first, second, opened, ?_⟩
  · rw [ConsumerSession.see, ConsumerSession.see, seen]
  · rw [ConsumerSession.see, ConsumerSession.see, seen, gap]
  · rw [delivered]

/-- A counted read keeps that two consumers have one surface. -/
theorem countLate_alike {result : ReadResult} (same : session.surface = other.surface) :
    (session.countLate result).surface = (other.countLate result).surface := by
  unfold ConsumerSession.countLate
  split
  · unfold ConsumerSession.surface at same ⊢
    rw [Surface.mk.injEq] at same ⊢
    obtain ⟨consumer, epoch, mappedEpoch, seen, gap, late, rest⟩ := same
    exact ⟨consumer, epoch, mappedEpoch, seen, gap, congrArg (· + 1) late, rest⟩
  · exact same

end Data

namespace Listening

/-- Two consumers with the same surface and the same results, where the first has its regions mapped. -/
structure Alike (consumer : Consumer) (epoch : UInt64) (listening other : Listening) : Prop where
  consumer : listening.session.toConsumer = consumer
  mapped : MappedAt listening.session epoch
  surface : listening.session.surface = other.session.surface
  results : listening.results = other.results

variable {consumer : Consumer} {epoch : UInt64} {listening other after : Listening}

/-- A read that does not fault is counted where it is late. -/
theorem step_read {seq : UInt64} {memory : SlotMemory} : listening.step (.read seq memory) = some after ↔
    readResult listening.session.toConsumer memory seq ≠ .fault ∧
      after = ⟨listening.session.countLate (readResult listening.session.toConsumer memory seq),
        readResult listening.session.toConsumer memory seq :: listening.results⟩ := by
  rw [step]
  cases readResult listening.session.toConsumer memory seq <;> simp [eq_comm]

/-- A calm announce is not noticed. -/
theorem Alike.announce {announce : PoolAnnounceView} {around : Around} (alike : Alike consumer epoch listening other)
    (calm : listening.calm (.announce announce around) = true)
    (stepped : listening.step (.announce announce around) = some after) : Alike consumer epoch after other := by
  obtain ⟨session, handled, rfl⟩ := Option.map_eq_some_iff.mp stepped
  rw [Listening.calm, Bool.and_eq_true, beq_iff_eq, alike.mapped.mappedEpoch] at calm
  obtain ⟨own, calm⟩ := calm
  have kept : session.surface = listening.session.surface := by
    apply onAnnounce_calm alike.mapped own _ handled
    intro accepted
    rw [accepted, Bool.not_true, Bool.false_or, Bool.and_eq_true] at calm
    exact calm
  obtain ⟨same, recorded, number, -⟩ := surface_fields kept
  refine ⟨same.trans alike.consumer, ⟨?_, number.trans alike.mapped.mappedEpoch, recorded.trans alike.mapped.epoch⟩,
    kept.trans alike.surface, alike.results⟩
  rw [same]
  exact alike.mapped.shmMapped

/-- A descriptor and a read do the same to both. -/
theorem Alike.data {heard : Heard} (alike : Alike consumer epoch listening other) (calm : listening.calm heard = true)
    (data : heard.data = true) (stepped : listening.step heard = some after) :
    ∃ other', other.step heard = some other' ∧ Alike consumer epoch after other' := by
  cases heard with
  | announce announce around => cases data
  | descriptor descriptor =>
      obtain ⟨session, handled, rfl⟩ := Option.map_eq_some_iff.mp stepped
      have own : descriptor.epoch = epoch := (beq_iff_eq.mp calm).trans alike.mapped.mappedEpoch
      subst own
      obtain ⟨session', handled', same, kept, mapped⟩ := onDescriptor_alike alike.surface alike.mapped handled
      refine ⟨{ other with session := session' }, ?_, kept.trans alike.consumer, mapped, same, alike.results⟩
      rw [step, handled', Option.map_some]
  | read seq memory =>
      obtain ⟨read, rfl⟩ := step_read.mp stepped
      rw [(surface_fields alike.surface).1] at read ⊢
      refine ⟨_, step_read.mpr ⟨read, rfl⟩, ?_, ?_, countLate_alike alike.surface, congrArg (_ :: ·) alike.results⟩
      · rw [← alike.consumer]
        unfold ConsumerSession.countLate
        split <;> rfl
      · have mapped := alike.mapped
        unfold ConsumerSession.countLate
        split
        · exact ⟨mapped.shmMapped, mapped.mappedEpoch, mapped.epoch⟩
        · exact mapped

/-- Only announces are quiet. -/
theorem Alike.quiet {heard : Heard} (alike : Alike consumer epoch listening other)
    (calm : listening.calm heard = true) (quiet : heard.data = false)
    (stepped : listening.step heard = some after) : Alike consumer epoch after other := by
  cases heard with
  | announce announce around => exact alike.announce calm stepped
  | descriptor descriptor => cases quiet
  | read seq memory => cases quiet

/-- Announces that find nothing counted, and the same regions, are transparent. -/
theorem reannounce_transparent {session : ConsumerSession} {events : List Heard}
    (mapped : MappedAt session session.epoch)
    (ran : GuardedRun.runWhile calm step ⟨session, []⟩ events = some after) : Transparent session events after := by
  have begun : Alike session.toConsumer session.epoch ⟨session, []⟩ ⟨session, []⟩ := ⟨rfl, mapped, rfl, rfl⟩
  have skipped : ∃ other, GuardedRun.run step ⟨session, []⟩ (events.filter Heard.data) = some other ∧
      Alike session.toConsumer session.epoch after other := by
    apply GuardedRun.skips _ _ ran begun
    · intro listening other heard after alike calm quiet stepped
      exact alike.quiet calm quiet stepped
    · intro listening other heard after alike calm data stepped
      exact alike.data calm data stepped
  obtain ⟨other, heard, alike⟩ := skipped
  exact ⟨⟨alike.consumer, alike.mapped⟩, other, heard, alike.surface.symm, alike.results.symm⟩

/-- A consumer has mapped the small ring of the epoch 5. -/
def settled : ConsumerSession where
  headerRegion := ⟨some 0, 576⟩
  pools := [filePool 576]
  poolCount := 1
  headerNslots := 2
  shmMapped := true
  streamId := 1
  epoch := 5
  layoutVersion := 1
  mappedEpoch := 5
  lastAnnounceEpoch := 5
  phase := .mapped
  context := { streamId := 1, consumerId := 3, useDriver := false, announcePeriodNs := 1000 }

/-- The driver repeats the announce of the epoch 5. -/
def repeated : Heard :=
  .announce
    { streamId := 1
      epoch := 5
      announceTimestampNs := 15
      announceClockDomain := clockDomainMonotonic
      layoutVersion := 1
      headerNslots := 2
      headerSlotBytes := 256
      headerRegionUri := smallConfig.headerUri
      pools := smallConfig.pools }
    { joinNs := 10
      nowNs := 20
      realtimeNs := 20
      attachNs := 20
      machine := smallMachine 0 576
      allocations := allAllocated
      copies := ⟨true, true, fun _ => true⟩
      descriptorOpens := true
      controlOpens := true }

def described (seq : UInt64) : Heard := .descriptor ⟨1, 5, seq, 0, 0, 0⟩

theorem reannounce_transparent_settled : ∃ after,
    GuardedRun.runWhile calm step ⟨settled, []⟩ [repeated, described 1, .read 1 fun _ _ _ => ⟨0, fun _ => 0⟩] =
      some after ∧ Transparent settled [repeated, described 1, .read 1 fun _ _ _ => ⟨0, fun _ => 0⟩] after := by
  obtain ⟨after, ran⟩ : ∃ after,
      GuardedRun.runWhile calm step ⟨settled, []⟩ [repeated, described 1, .read 1 fun _ _ _ => ⟨0, fun _ => 0⟩] =
        some after := Option.isSome_iff_exists.mp (by decide +kernel)
  exact ⟨after, ran, reannounce_transparent ⟨rfl, rfl, rfl⟩ ran⟩

/-- The gap between the descriptors 1 and 5 is lost with the announce between them. -/
theorem reannounce_loses_gap : ∃ after,
    GuardedRun.run step ⟨settled, []⟩ [described 1, repeated, described 5] = some after ∧
      after.session.dropsGap = 0 ∧ ¬ Transparent settled [described 1, repeated, described 5] after := by
  obtain ⟨after, ran, gap⟩ : ∃ after,
      GuardedRun.run step ⟨settled, []⟩ [described 1, repeated, described 5] = some after ∧
        after.session.dropsGap = 0 :=
    Option.map_eq_some_iff.mp (by decide +kernel)
  have quiet : (GuardedRun.run step ⟨settled, []⟩ [described 1, described 5]).map
    (fun other => other.session.dropsGap) =
      some 3 := by decide +kernel
  refine ⟨after, ran, gap, ?_⟩
  intro transparent
  obtain ⟨other, heard, same, -⟩ := transparent.alike
  change GuardedRun.run step ⟨settled, []⟩ [described 1, described 5] = some other at heard
  rw [heard, Option.map_some, (surface_fields same).2.2.2.2.1, gap] at quiet
  cases quiet

end Listening

end TensorPool.Client
