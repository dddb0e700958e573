/-
This file follows the epochs that a consumer takes from announces.
-/

import TensorPool.Client.Gaps
import TensorPool.Client.Reannounce
import TensorPool.Client.Superblocks

namespace TensorPool.Client

open Shm (Machine Expected Superblock)

/-- An announce that was applied with success, with what was around it and the consumer that it left. -/
structure Acceptance where
  announce : PoolAnnounceView
  around : Around
  after : ConsumerSession

/-- A consumer with the announces that it accepted, the last one first. -/
structure AnnounceLog where
  session : ConsumerSession
  accepted : List Acceptance := []

inductive Signal where
  | announce (announce : PoolAnnounceView) (around : Around)
  | consumerConfig (view : ConsumerConfigView) (around : Around)
  | descriptor (descriptor : FrameDescriptor)
  | liveness (nowNs : UInt64) (activityNs : Option UInt64) (pidChanged : Bool)

namespace ConsumerSession

/-- The consumer that the check of the last epoch lets pass. -/
def current (session : ConsumerSession) (announce : PoolAnnounceView) : Option ConsumerSession :=
  if session.lastAnnounceEpoch != 0 && announce.epoch < session.lastAnnounceEpoch then none else some session

/-- The consumer that `tp_consumer_apply_announce` gets, where the handler calls it. -/
def applies (session : ConsumerSession) (around : Around) (announce : PoolAnnounceView) : Option ConsumerSession :=
  let joined := session.joined around
  if !session.useShm then none
  else if joined.announceDropped around announce then none
  else if joined.shmMapped && announce.epoch != joined.mappedEpoch then
    if announce.epoch < joined.mappedEpoch then none
    else joined.unmapRegions.bind fun unmapped => unmapped.current announce
  else joined.current announce

/-- The announce is applied with success. -/
def takes (session : ConsumerSession) (around : Around) (announce : PoolAnnounceView) : Bool :=
  ((session.applies around announce).bind fun before => before.applyAnnounce around announce).map Prod.fst == some 0

/-- The regions that are mapped. -/
def regions (session : ConsumerSession) : List Region :=
  session.headerRegion :: (session.pools.take session.poolCount).map Pool.region

end ConsumerSession

namespace AnnounceLog

def step (log : AnnounceLog) : Signal → Option AnnounceLog
  | .announce announce around =>
      (log.session.onAnnounce around announce).map fun after =>
        { session := after
          accepted := if log.session.takes around announce then ⟨announce, around, after⟩ :: log.accepted
            else log.accepted }
  | .consumerConfig view around =>
      (log.session.onConsumerConfig around view).map fun session => { log with session }
  | .descriptor descriptor => (log.session.onDescriptor descriptor).map fun session => { log with session }
  | .liveness nowNs activityNs pidChanged =>
      ((log.session.checkActivity nowNs activityNs).bind fun after => after.checkPid pidChanged).map fun session =>
        { log with session }

end AnnounceLog

/-- The clock that the announce names. -/
def announceNow (around : Around) (announce : PoolAnnounceView) : UInt64 :=
  if announce.announceClockDomain == clockDomainRealtimeSynced then around.realtimeNs else around.nowNs

/-- The announce is one of the stream, within the freshness window, and not older than the join where the clock
is monotonic. -/
structure Current (context : ConsumerContext) (acceptance : Acceptance) : Prop where
  streamId : acceptance.announce.streamId = context.streamId
  fresh : (announceNow acceptance.around acceptance.announce).toNat ≤
    acceptance.announce.announceTimestampNs.toNat + 3 * context.announcePeriodNs.toNat
  joined : acceptance.announce.announceClockDomain = clockDomainMonotonic →
    acceptance.after.announceJoinTimeNs ≤ acceptance.announce.announceTimestampNs

/-- The mapped regions are those of the announce; the null epoch is not compared. -/
structure Maps (acceptance : Acceptance) (session : ConsumerSession) : Prop where
  mappedEpoch : session.mappedEpoch = acceptance.announce.epoch
  regions : ∀ region ∈ session.regions, ∃ block, blockOf acceptance.around.machine region = some block ∧
    (acceptance.announce.epoch ≠ Shm.nullU64 → block.epoch = session.mappedEpoch)

/-- The mapped regions show the mapped epoch; the null epoch is not compared. -/
def Shows (machine : Machine) (session : ConsumerSession) : Prop :=
  ∀ region ∈ session.regions, ∃ block, blockOf machine region = some block ∧
    (session.mappedEpoch ≠ Shm.nullU64 → block.epoch = session.mappedEpoch)

/-- A consumer that has mapped anything has mapped the regions of its mapped epoch. -/
def Shown (session : ConsumerSession) : Prop := session.shmMapped = true → ∃ machine, Shows machine session

/-- The consumer still has the regions that it started with. -/
structure Kept (before after : ConsumerSession) : Prop where
  shmMapped : before.shmMapped = true
  mappedEpoch : after.mappedEpoch = before.mappedEpoch
  regions : after.regions = before.regions

/--
The epochs of the accepted announces never go back. What is mapped is of the last of them, or it was mapped
at the start and no announce was accepted.
-/
structure Rising (start : ConsumerSession) (log : AnnounceLog) : Prop where
  order : (log.accepted.map fun acceptance => acceptance.announce.epoch).Pairwise (· ≥ ·)
  current : ∀ acceptance ∈ log.accepted, Current log.session.context acceptance
  mapped : log.session.shmMapped = true →
    ((∃ acceptance ∈ log.accepted, acceptance.after.shmMapped = true ∧ Maps acceptance log.session) ∨
        log.accepted = [] ∧ Kept start log.session) ∧
      ∀ acceptance ∈ log.accepted, acceptance.announce.epoch ≤ log.session.mappedEpoch
  shown : Shown log.session

section Attach

variable {machine : Machine} {allocations : Allocations} {config : AttachConfig} {consumer : AttachedConsumer}
  {outcome : AttachOutcome AttachedConsumer}

/-- Each region that an attach maps shows the superblock of its file, with the epoch of the configuration unless
that is null. -/
theorem attachRegions_epoch {writable : Bool} {caller : String} {header : Region} {pools : List Pool}
    (attached : attachRegions machine writable caller config = .ok (header, pools)) :
    ∀ region ∈ header :: pools.map Pool.region, ∃ uri ∈ config.headerUri :: config.pools.map PoolConfig.uri, ∃ block,
      blockOf machine region = some block ∧ machine.superblock uri writable = some block ∧
        (config.epoch ≠ Shm.nullU64 → block.epoch = config.epoch) := by
  obtain ⟨first, rest⟩ := attachRegions_ok attached
  intro region member
  obtain rfl | inside := List.mem_cons.mp member
  · obtain ⟨block, shown, known, -, compared⟩ := first.facts
    obtain ⟨-, epoch, -⟩ := Expected.compare_ok.mp compared
    exact ⟨_, List.mem_cons_self, block, shown, known, fun other => epoch.resolve_left other⟩
  · obtain ⟨pool, listed, rfl⟩ := List.mem_map.mp inside
    obtain ⟨configured, named, validated⟩ := forall₂_right rest listed
    obtain ⟨block, shown, known, -, compared⟩ := validated.region.facts
    obtain ⟨-, epoch, -⟩ := Expected.compare_ok.mp compared
    exact ⟨_, List.mem_cons_of_mem _ (List.mem_map_of_mem named), block, shown, known,
      fun other => epoch.resolve_left other⟩

/-- An attach from nothing maps the regions of its epoch, or nothing. -/
theorem consumerAttachConfig_cases (bare : consumer.shmMapped = false)
    (returned : consumerAttachConfig machine allocations config consumer = some outcome) :
    (outcome.client.shmMapped = false ∧ outcome.client.lastAnnounceEpoch = consumer.lastAnnounceEpoch ∧
      (outcome.code = -1 ∨ outcome.code = 0 ∧ outcome.error.isSome = true ∧ outcome.client.phase = .fallback)) ∨
    ∃ header pools, attachRegions machine false "tp_consumer_attach" config = .ok (header, pools) ∧ outcome.code = 0 ∧
      outcome.error = none ∧ outcome.client.shmMapped = true ∧ outcome.client.phase = .mapped ∧
        outcome.client.mappedEpoch = config.epoch ∧ outcome.client.headerRegion = header ∧
          outcome.client.pools.take outcome.client.poolCount = pools := by
  unfold consumerAttachConfig at returned
  dsimp only at returned
  split at returned
  · have cleaned := consumerAttachCleanup_cases returned
    exact .inl cleaned
  · split at returned
    · cases returned
      exact .inl ⟨bare, rfl, .inl rfl⟩
    · split at returned
      · cases returned
        exact .inl ⟨bare, rfl, .inl rfl⟩
      · split at returned
        · have cleaned := consumerAttachCleanup_cases returned
          exact .inl cleaned
        next header pools regions =>
          cases returned
          exact .inr ⟨header, pools, regions, rfl, rfl, rfl, rfl, rfl, rfl, takeAttached (attachRegions_ok regions).2⟩

/-- An attach by the application or by the driver leaves a consumer that shows its mapped epoch. -/
theorem attach_shown {session after : ConsumerSession} {around : Around} {code : Int}
    (bare : session.shmMapped = false) (attached : session.attachConfig around config = some (code, after)) :
    Shown after := by
  intro mapped
  obtain ⟨outcome, returned, same⟩ := Option.map_eq_some_iff.mp attached
  have client : after.toAttachedConsumer = outcome.client := by
    rw [← (Prod.mk.inj same).2]
    split
    · rfl
    · split <;> rfl
  rw [client] at mapped
  obtain ⟨bare', -⟩ | ⟨header, pools, regions, -, -, -, -, epoch, headerRegion, listed⟩ :=
    consumerAttachConfig_cases bare returned
  · exact absurd (bare'.symm.trans mapped) Bool.false_ne_true
  · refine ⟨around.machine, ?_⟩
    have checked := attachRegions_epoch regions
    rw [← headerRegion, ← listed, ← epoch] at checked
    unfold Shows ConsumerSession.regions
    rw [client]
    intro region member
    obtain ⟨-, -, block, shows, -, compared⟩ := checked region member
    exact ⟨block, shows, compared⟩

end Attach

/-- What is mapped stays mapped, or nothing is. -/
structure Lasting (before after : ConsumerSession) : Prop where
  context : after.context = before.context
  last : after.lastAnnounceEpoch = before.lastAnnounceEpoch
  mapped : after.shmMapped = true →
    before.shmMapped = true ∧ after.mappedEpoch = before.mappedEpoch ∧ after.regions = before.regions

section Lasting

variable {session middle after : ConsumerSession}

theorem Lasting.refl (session : ConsumerSession) : Lasting session session :=
  ⟨rfl, rfl, fun mapped => ⟨mapped, rfl, rfl⟩⟩

/-- What lasts through two steps lasts. -/
theorem Lasting.trans (first : Lasting session middle) (second : Lasting middle after) : Lasting session after := by
  refine ⟨second.context.trans first.context, second.last.trans first.last, ?_⟩
  intro mapped
  obtain ⟨there, epoch, regions⟩ := second.mapped mapped
  obtain ⟨before, epoch', regions'⟩ := first.mapped there
  exact ⟨before, epoch.trans epoch', regions.trans regions'⟩

/-- A session that unmaps keeps its announces. -/
theorem Lasting.bare (context : after.context = session.context)
    (last : after.lastAnnounceEpoch = session.lastAnnounceEpoch) (bare : after.shmMapped = false) :
      Lasting session after :=
  ⟨context, last, fun mapped => absurd (bare.symm.trans mapped) Bool.false_ne_true⟩

/-- The unmapping keeps the announces. -/
theorem unmapRegions_lasting (removed : session.unmapRegions = some after) : Lasting session after := by
  obtain ⟨consumer, unmapped, rfl⟩ := Option.map_eq_some_iff.mp removed
  unfold consumerUnmapRegions at unmapped
  split at unmapped
  · cases unmapped
    exact .bare rfl rfl rfl
  · cases unmapped

/-- A descriptor keeps the announces. -/
theorem onDescriptor_lasting {descriptor : FrameDescriptor} (handled : session.onDescriptor descriptor = some after) :
    Lasting session after := by
  unfold ConsumerSession.onDescriptor at handled
  split at handled
  · cases handled
    exact .refl session
  · split at handled
    · exact unmapRegions_lasting handled
    · cases handled
      exact ⟨rfl, rfl, fun mapped => ⟨mapped, rfl, rfl⟩⟩

/-- The check of the activity keeps the announces. -/
theorem checkActivity_lasting {nowNs : UInt64} {activityNs : Option UInt64}
    (checked : session.checkActivity nowNs activityNs = some after) : Lasting session after := by
  unfold ConsumerSession.checkActivity at checked
  dsimp only at checked
  split at checked
  · cases checked
    exact .refl session
  · split at checked
    · cases checked
      exact .refl session
    · split at checked
      · cases checked
        exact .refl session
      · split at checked
        · exact unmapRegions_lasting checked
        · cases checked
          exact .refl session

/-- The check of the process keeps the announces. -/
theorem checkPid_lasting {changed : Bool} (checked : session.checkPid changed = some after) :
    Lasting session after := by
  unfold ConsumerSession.checkPid at checked
  split at checked
  · exact unmapRegions_lasting checked
  · cases checked
    exact .refl session

/-- The assignment of streams keeps the announces. -/
theorem assign_lasting (opens others : Bool) (view : ConsumerConfigView) :
    Lasting session ((session.assignDescriptor opens view).assignControl others view) := by
  have first : Lasting session (session.assignDescriptor opens view) := by
    unfold ConsumerSession.assignDescriptor
    split
    · split <;> exact ⟨rfl, rfl, fun mapped => ⟨mapped, rfl, rfl⟩⟩
    · exact .refl session
  apply first.trans
  unfold ConsumerSession.assignControl
  split
  · split <;> exact ⟨rfl, rfl, fun mapped => ⟨mapped, rfl, rfl⟩⟩
  · exact .refl _

/-- A configuration keeps the announces. -/
theorem onConsumerConfig_lasting {view : ConsumerConfigView} {around : Around}
    (handled : session.onConsumerConfig around view = some after) : Lasting session after := by
  unfold ConsumerSession.onConsumerConfig at handled
  split at handled
  · cases handled
    exact .refl session
  · split at handled
    · cases handled
      exact .refl session
    · split at handled
      · cases handled
        exact .refl session
      · obtain ⟨entered, made, rfl⟩ := Option.map_eq_some_iff.mp handled
        apply Lasting.trans _ (assign_lasting _ _ _)
        split at made
        · obtain ⟨unmapped, removed, rfl⟩ := Option.map_eq_some_iff.mp made
          have lasting := unmapRegions_lasting removed
          exact ⟨lasting.context, lasting.last, lasting.mapped⟩
        · split at made
          · cases made
            exact ⟨rfl, rfl, fun mapped => ⟨mapped, rfl, rfl⟩⟩
          · cases made
            exact ⟨rfl, rfl, fun mapped => ⟨mapped, rfl, rfl⟩⟩

end Lasting

section Announce

variable {session after : ConsumerSession} {around : Around} {announce : PoolAnnounceView}

/-- The application of an announce fails and changes at most the mapping, or it maps the regions of the announce. -/
theorem applyAnnounce_cases {code : Int} (applied : session.applyAnnounce around announce = some (code, after)) :
    code = -1 ∧ Lasting session after ∨
      code = 0 ∧ after.context = session.context ∧ after.announceJoinTimeNs = session.announceJoinTimeNs ∧
        (after.shmMapped = true → Maps ⟨announce, around, after⟩ after) := by
  unfold ConsumerSession.applyAnnounce at applied
  cases made : ConsumerSession.announceConfig around.copies announce with
  | error text =>
      rw [made] at applied
      cases applied
      exact .inl ⟨rfl, .refl session⟩
  | ok config =>
      rw [made] at applied
      obtain ⟨unmapped, bare, applied⟩ := Option.bind_eq_some_iff.mp applied
      obtain ⟨consumer, removed, rfl⟩ := Option.map_eq_some_iff.mp bare
      unfold consumerUnmapRegions at removed
      split at removed
      · cases removed
        obtain ⟨result, attached, same⟩ := Option.map_eq_some_iff.mp applied
        obtain ⟨outcome, returned, rfl⟩ := Option.map_eq_some_iff.mp attached
        dsimp only at same
        have zero : ¬ (0 : Int) < 0 := by decide
        obtain ⟨bare, last, failed | ⟨succeeded, error, fallback⟩⟩ | ⟨header, pools, regions, succeeded, error,
          -, phase, epoch, headerRegion, listed⟩ := consumerAttachConfig_cases rfl returned
        · rw [failed, if_pos (by decide), if_pos (by decide)] at same
          cases same
          exact .inl ⟨rfl, .bare rfl last bare⟩
        · rw [succeeded] at same
          simp only [zero, if_false, error, if_true, fallback] at same
          cases same
          refine .inr ⟨rfl, rfl, rfl, ?_⟩
          intro mapped
          exact absurd (bare.symm.trans mapped) Bool.false_ne_true
        · rw [succeeded, error] at same
          simp only [zero, if_false, Option.isSome_none, Bool.false_eq_true, phase, reduceCtorEq] at same
          cases same
          refine .inr ⟨rfl, rfl, rfl, fun _ => ⟨rfl, ?_⟩⟩
          have own := (announceConfig_ok made).2
          have checked := attachRegions_epoch regions
          rw [own, ← headerRegion, ← listed] at checked
          intro region member
          obtain ⟨-, -, block, shown, -, epoch⟩ := checked region member
          exact ⟨block, shown, epoch⟩
      · cases removed

/-- What an announce leaves of the consumer that it finds, where it is taken and where it is not. -/
structure Settled (before : ConsumerSession) (around : Around) (announce : PoolAnnounceView) (taken : Bool)
    (after : ConsumerSession) : Prop where
  context : after.context = before.context
  left : taken = false → Lasting before after
  join : taken = true → after.announceJoinTimeNs = before.announceJoinTimeNs
  epoch : taken = true → before.lastAnnounceEpoch ≤ announce.epoch ∧ after.lastAnnounceEpoch = announce.epoch
  maps : taken = true → after.shmMapped = true → Maps ⟨announce, around, after⟩ after

/-- An announce that is not applied leaves the mapping, or it ends it. -/
theorem Settled.untaken {before : ConsumerSession} (lasting : Lasting before after) :
    Settled before around announce false after :=
  ⟨lasting.context, fun _ => lasting, fun taken => (by cases taken), fun taken => (by cases taken),
    fun taken => (by cases taken)⟩

/-- A handled announce settles as its attach does. -/
theorem acceptAnnounce_settled (handled : session.acceptAnnounce around announce = some after) :
    Settled session around announce
      (((session.current announce).bind fun before => before.applyAnnounce around announce).map Prod.fst == some 0)
      after := by
  unfold ConsumerSession.acceptAnnounce at handled
  unfold ConsumerSession.current
  split at handled
  next older =>
    cases handled
    rw [if_pos older]
    exact .untaken (.refl _)
  next newer =>
    have risen : session.lastAnnounceEpoch ≤ announce.epoch := by
      by_cases zero : session.lastAnnounceEpoch = 0
      · rw [zero]
        exact UInt64.zero_le
      · rw [bne_iff_ne.mpr zero, Bool.true_and, decide_eq_true_eq] at newer
        exact UInt64.not_lt.mp newer
    obtain ⟨result, applied, same⟩ := Option.map_eq_some_iff.mp handled
    obtain ⟨code, left⟩ := result
    rw [if_neg newer, Option.bind_some, applied]
    obtain ⟨rfl, lasting⟩ | ⟨rfl, context, join, maps⟩ := applyAnnounce_cases applied
    · cases same
      exact .untaken lasting
    · cases same
      refine ⟨context, fun taken => (by cases taken), fun _ => join, fun _ => ⟨risen, rfl⟩, fun _ mapped => ?_⟩
      have same := maps mapped
      exact ⟨same.mappedEpoch, same.regions⟩

/-- The handler applies only an announce that it does not drop. -/
theorem onAnnounce_settled (handled : session.onAnnounce around announce = some after) :
    Settled (session.joined around) around announce (session.takes around announce) after ∧
      (session.takes around announce = true → (session.joined around).announceDropped around announce = false) := by
  have back : Lasting (session.joined around) session := by
    unfold ConsumerSession.joined
    split <;> exact ⟨rfl, rfl, fun mapped => ⟨mapped, rfl, rfl⟩⟩
  rw [onAnnounce_joined] at handled
  unfold ConsumerSession.takes ConsumerSession.applies
  split at handled
  next off =>
    cases handled
    rw [if_pos off]
    exact ⟨.untaken back, fun taken => (by cases taken)⟩
  next on =>
    rw [if_neg on]
    split at handled
    next dropped =>
      cases handled
      rw [if_pos dropped]
      exact ⟨.untaken (.refl _), fun taken => (by cases taken)⟩
    next kept =>
      rw [if_neg kept]
      refine ⟨?_, fun _ => Bool.eq_false_iff.mpr kept⟩
      split at handled
      next moves =>
        rw [if_pos moves]
        split at handled
        next older =>
          rw [if_pos older]
          exact .untaken (unmapRegions_lasting handled)
        next newer =>
          rw [if_neg newer]
          obtain ⟨unmapped, bare, handled⟩ := Option.bind_eq_some_iff.mp handled
          rw [bare, Option.bind_some]
          have lasting := unmapRegions_lasting bare
          have settled := acceptAnnounce_settled handled
          refine ⟨settled.context.trans lasting.context, fun untaken => lasting.trans (settled.left untaken), ?_, ?_,
            settled.maps⟩
          · obtain ⟨consumer, -, rfl⟩ := Option.map_eq_some_iff.mp bare
            exact settled.join
          · rw [← lasting.last]
            exact settled.epoch
      next stays =>
        rw [if_neg stays]
        exact acceptAnnounce_settled handled

/-- An announce that is not dropped is current. -/
theorem current_of_kept (kept : session.announceDropped around announce = false)
    (join : after.announceJoinTimeNs = session.announceJoinTimeNs) :
    Current session.context ⟨announce, around, after⟩ := by
  simp only [ConsumerSession.announceDropped, Bool.or_eq_false_iff, bne_eq_false_iff_eq] at kept
  obtain ⟨⟨⟨⟨stream, -⟩, fresh⟩, joined⟩, -⟩ := kept
  refine ⟨stream, ?_, ?_⟩
  · change session.announceStale (announceNow around announce) announce = false at fresh
    change (announceNow around announce).toNat ≤ _
    generalize announceNow around announce = now at fresh
    rw [ConsumerSession.announceStale, Bool.and_eq_false_iff, decide_eq_false_iff_not,
      decide_eq_false_iff_not] at fresh
    have window : (session.context.announcePeriodNs * freshnessMultiplier).toNat ≤
        3 * session.context.announcePeriodNs.toNat := by
      rw [UInt64.toNat_mul, Nat.mul_comm 3]
      exact Nat.mod_le _ _
    dsimp only
    obtain past | near := fresh
    · have below := UInt64.le_iff_toNat_le.mp (UInt64.not_lt.mp past)
      omega
    · by_cases past : announce.announceTimestampNs ≤ now
      · have difference := UInt64.toNat_sub_of_le _ _ past
        have below := UInt64.le_iff_toNat_le.mp (UInt64.not_lt.mp near)
        omega
      · have below := UInt64.lt_iff_toNat_lt.mp (UInt64.not_le.mp past)
        omega
  · intro monotonic
    change announce.announceClockDomain = clockDomainMonotonic at monotonic
    change after.announceJoinTimeNs ≤ announce.announceTimestampNs
    rw [monotonic, beq_self_eq_true, Bool.true_and, decide_eq_false_iff_not] at joined
    rw [join]
    exact UInt64.not_lt.mp joined

end Announce

namespace AnnounceLog

/-- What holds after each signal. -/
structure Inv (start : ConsumerSession) (log : AnnounceLog) : Prop where
  order : (log.accepted.map fun acceptance => acceptance.announce.epoch).Pairwise (· ≥ ·)
  current : ∀ acceptance ∈ log.accepted, Current log.session.context acceptance
  below : ∀ acceptance ∈ log.accepted, acceptance.announce.epoch ≤ log.session.lastAnnounceEpoch
  mapped : log.session.shmMapped = true → (log.session.mappedEpoch = log.session.lastAnnounceEpoch ∧
    ∃ acceptance ∈ log.accepted, acceptance.after.shmMapped = true ∧ Maps acceptance log.session) ∨
      log.accepted = [] ∧ Kept start log.session

variable {start : ConsumerSession} {log after : AnnounceLog}

/-- A step that takes no announce keeps the invariant. -/
theorem Inv.lasting (holds : Inv start log) {session : ConsumerSession} (lasting : Lasting log.session session) :
    Inv start { log with session } := by
  constructor
  · exact holds.order
  · change ∀ acceptance ∈ log.accepted, Current session.context acceptance
    rw [lasting.context]
    exact holds.current
  · change ∀ acceptance ∈ log.accepted, acceptance.announce.epoch ≤ session.lastAnnounceEpoch
    rw [lasting.last]
    exact holds.below
  · intro mapped
    change session.shmMapped = true at mapped
    obtain ⟨before, epoch, regions⟩ := lasting.mapped mapped
    obtain ⟨same, acceptance, member, there, maps⟩ | ⟨none, kept⟩ := holds.mapped before
    · refine .inl ⟨?_, acceptance, member, there, ?_, ?_⟩
      · change session.mappedEpoch = session.lastAnnounceEpoch
        rw [epoch, lasting.last, same]
      · change session.mappedEpoch = _
        rw [epoch, maps.mappedEpoch]
      · change ∀ region ∈ session.regions, ∃ block, _ ∧ (_ → _ = session.mappedEpoch)
        rw [regions, epoch]
        exact maps.regions
    · exact .inr ⟨none, kept.shmMapped, epoch.trans kept.mappedEpoch, regions.trans kept.regions⟩

/-- An announce that is taken is the last one, and its epoch is the highest. -/
theorem Inv.taken (holds : Inv start log) {session : ConsumerSession} {around : Around} {announce : PoolAnnounceView}
    (settled : Settled (log.session.joined around) around announce true session)
    (kept : (log.session.joined around).announceDropped around announce = false) :
    Inv start ⟨session, ⟨announce, around, session⟩ :: log.accepted⟩ := by
  have joined : (log.session.joined around).context = log.session.context ∧
      (log.session.joined around).lastAnnounceEpoch = log.session.lastAnnounceEpoch := by
    unfold ConsumerSession.joined
    split <;> exact ⟨rfl, rfl⟩
  obtain ⟨risen, last⟩ := settled.epoch rfl
  rw [joined.2] at risen
  have context : session.context = log.session.context := settled.context.trans joined.1
  constructor
  · apply List.Pairwise.cons
    · intro epoch member
      obtain ⟨acceptance, earlier, rfl⟩ := List.mem_map.mp member
      exact UInt64.le_trans (holds.below acceptance earlier) risen
    · exact holds.order
  · intro acceptance member
    change Current session.context acceptance
    obtain rfl | earlier := List.mem_cons.mp member
    · rw [settled.context]
      exact current_of_kept kept (settled.join rfl)
    · rw [context]
      exact holds.current acceptance earlier
  · intro acceptance member
    change acceptance.announce.epoch ≤ session.lastAnnounceEpoch
    rw [last]
    obtain rfl | earlier := List.mem_cons.mp member
    · exact UInt64.le_refl _
    · exact UInt64.le_trans (holds.below acceptance earlier) risen
  · intro mapped
    have maps := settled.maps rfl mapped
    exact .inl ⟨maps.mappedEpoch.trans last.symm, _, List.mem_cons_self, mapped, maps⟩

/-- Each step keeps the invariant. -/
theorem Inv.step (holds : Inv start log) {signal : Signal} (stepped : log.step signal = some after) :
    Inv start after := by
  cases signal with
  | announce announce around =>
      obtain ⟨session, handled, rfl⟩ := Option.map_eq_some_iff.mp stepped
      obtain ⟨settled, kept⟩ := onAnnounce_settled handled
      cases taken : log.session.takes around announce with
      | true =>
          rw [taken] at settled
          rw [if_pos rfl]
          exact holds.taken settled (kept taken)
      | false =>
          rw [taken] at settled
          rw [if_neg Bool.false_ne_true]
          apply holds.lasting
          have forth : Lasting log.session (log.session.joined around) := by
            unfold ConsumerSession.joined
            split <;> exact ⟨rfl, rfl, fun mapped => ⟨mapped, rfl, rfl⟩⟩
          exact forth.trans (settled.left rfl)
  | consumerConfig view around =>
      obtain ⟨session, handled, rfl⟩ := Option.map_eq_some_iff.mp stepped
      exact holds.lasting (onConsumerConfig_lasting handled)
  | descriptor descriptor =>
      obtain ⟨session, handled, rfl⟩ := Option.map_eq_some_iff.mp stepped
      exact holds.lasting (onDescriptor_lasting handled)
  | liveness nowNs activityNs pidChanged =>
      obtain ⟨session, checked, rfl⟩ := Option.map_eq_some_iff.mp stepped
      obtain ⟨middle, active, present⟩ := Option.bind_eq_some_iff.mp checked
      exact holds.lasting ((checkActivity_lasting active).trans (checkPid_lasting present))

/-- What an accepted announce maps, and what was mapped at the start, shows its epoch. -/
theorem Inv.shown (holds : Inv start log) (begun : Shown start) : Shown log.session := by
  intro mapped
  obtain ⟨-, acceptance, -, -, maps⟩ | ⟨-, kept⟩ := holds.mapped mapped
  · refine ⟨acceptance.around.machine, fun region member => ?_⟩
    obtain ⟨block, shows, compared⟩ := maps.regions region member
    exact ⟨block, shows, fun other => compared (maps.mappedEpoch ▸ other)⟩
  · obtain ⟨machine, shows⟩ := begun kept.shmMapped
    refine ⟨machine, ?_⟩
    unfold Shows
    rw [kept.regions, kept.mappedEpoch]
    exact shows

/-- In every run of a consumer, mapped or not, the epochs of its announces rise. -/
theorem announced_epochs_rise {session : ConsumerSession} (begun : Shown session) {signals : List Signal}
    (ran : GuardedRun.run step ⟨session, []⟩ signals = some after) : Rising session after := by
  have first : Inv session ⟨session, []⟩ := by
    refine ⟨.nil, fun acceptance member => (by cases member), fun acceptance member => (by cases member), ?_⟩
    intro mapped
    exact .inr ⟨rfl, mapped, rfl, rfl⟩
  have holds : Inv session after :=
    GuardedRun.keeps (fun log signal after holds _ stepped => Inv.step holds stepped) ran first
  refine ⟨holds.order, holds.current, ?_, holds.shown begun⟩
  intro mapped
  obtain ⟨same, found⟩ | ⟨none, kept⟩ := holds.mapped mapped
  · rw [same]
    exact ⟨.inl found, holds.below⟩
  · rw [none]
    exact ⟨.inr ⟨rfl, kept⟩, fun acceptance member => (by cases member)⟩

/-- The small ring is announced with an epoch. -/
def announces (epoch : UInt64) : Signal :=
  .announce
    { streamId := 1
      epoch
      announceTimestampNs := 15
      announceClockDomain := clockDomainMonotonic
      layoutVersion := 1
      headerNslots := 2
      headerSlotBytes := 256
      headerRegionUri := smallConfig.headerUri
      pools := smallConfig.pools }
    aroundSmall

/-- The application attaches the waiting consumer, and the announce of its epoch and a late one come. -/
theorem announced_epochs_rise_attached : ∃ begun after,
    waiting.attachConfig aroundSmall smallConfig = some (0, begun) ∧ begun.shmMapped = true ∧
      GuardedRun.run step ⟨begun, []⟩ [announces 5, announces 4, .descriptor ⟨1, 4, 1, 0, 0, 0⟩, announces 5] =
        some after ∧ Rising begun after := by
  obtain ⟨⟨code, begun⟩, attached, succeeded, mapped, alive⟩ : ∃ outcome,
      waiting.attachConfig aroundSmall smallConfig = some outcome ∧ outcome.1 = 0 ∧ outcome.2.shmMapped = true ∧
        (GuardedRun.run step ⟨outcome.2, []⟩
          [announces 5, announces 4, .descriptor ⟨1, 4, 1, 0, 0, 0⟩, announces 5]).isSome = true := by
    have runs : (waiting.attachConfig aroundSmall smallConfig).any (fun outcome => outcome.1 == 0 &&
        (outcome.2.shmMapped && (GuardedRun.run step ⟨outcome.2, []⟩
          [announces 5, announces 4, .descriptor ⟨1, 4, 1, 0, 0, 0⟩, announces 5]).isSome)) = true := by
      decide +kernel
    obtain ⟨outcome, attached, all⟩ := (Option.any_eq_true _ _).mp runs
    rw [Bool.and_eq_true, Bool.and_eq_true, beq_iff_eq] at all
    exact ⟨outcome, attached, all⟩
  dsimp only at succeeded mapped alive
  subst succeeded
  obtain ⟨after, ran⟩ := Option.isSome_iff_exists.mp alive
  exact ⟨begun, after, attached, mapped, ran, announced_epochs_rise (attach_shown rfl attached) ran⟩

/-- The regions of the epoch 5 are mapped for the null epoch. -/
theorem null_epoch_maps : ∃ after, GuardedRun.run step ⟨waiting, []⟩ [announces Shm.nullU64] = some after ∧
    after.session.shmMapped = true ∧ after.session.mappedEpoch = Shm.nullU64 ∧
      (blockOf (smallMachine 0 576) after.session.headerRegion).map Superblock.epoch = some 5 := by
  obtain ⟨after, ran, shown⟩ : ∃ after, GuardedRun.run step ⟨waiting, []⟩ [announces Shm.nullU64] = some after ∧
      (after.session.shmMapped, after.session.mappedEpoch,
        (blockOf (smallMachine 0 576) after.session.headerRegion).map Superblock.epoch) = (true, Shm.nullU64,
          some 5) :=
    Option.map_eq_some_iff.mp (by decide +kernel)
  simp only [Prod.mk.injEq] at shown
  exact ⟨after, ran, shown⟩

end AnnounceLog

end TensorPool.Client
