/-
This file proves that timely reports keep a consumer known to its producer.
-/

import TensorPool.Library.Heartbeat
import TensorPool.Presence.Roster

namespace TensorPool.Presence

open Scan Heartbeat
open Manager
open Sightings (table)

/-- This is the part of `tp_consumer_t` about its reports; the default is its zeroed memory. -/
structure Reporter where
  streamId : UInt32
  consumerId : UInt32
  epoch : UInt64
  lastSeqSeen : UInt64
  dropsGap : UInt64
  dropsLate : UInt64
  mode : UInt8
  lastQosNs : UInt64 := 0
  deriving DecidableEq, Repr

namespace Reporter

def report (reporter : Reporter) : QosConsumer where
  streamId := reporter.streamId
  consumerId := reporter.consumerId
  epoch := reporter.epoch
  lastSeqSeen := reporter.lastSeqSeen
  dropsGap := reporter.dropsGap
  dropsLate := reporter.dropsLate
  mode := reporter.mode

/-- A report is due at once, and then after each period. -/
def due (reporter : Reporter) (nowNs announcePeriodNs : UInt64) : Bool :=
  announcePeriodNs > 0 && (reporter.lastQosNs == 0 || nowNs - reporter.lastQosNs ≥ announcePeriodNs)

/-- The consumer counts frames and gaps between its polls. -/
def counted (reporter : Reporter) (lastSeqSeen dropsGap dropsLate : UInt64) : Reporter :=
  { reporter with lastSeqSeen, dropsGap, dropsLate }

end Reporter

/-- A consumer, its producer, and the reports on their way, the oldest one first, with the times of their sending. -/
structure Watch where
  host : Host
  reporter : Reporter
  flying : List (UInt64 × List UInt8) := []
  nowNs : UInt64
  askedNs : UInt64

/-- What happens at a time: a poll or a count of the consumer, or a visit to the producer. -/
inductive Tick where
  | poll (nowNs : UInt64) (result : Int)
  | count (nowNs lastSeqSeen dropsGap dropsLate : UInt64)
  | hear (nowNs : UInt64)
  | hello (nowNs : UInt64) (hello : ConsumerHello) (descriptorOpens controlOpens : Bool)
  | qos (nowNs : UInt64) (bytes : List UInt8)
  | sweep (nowNs : UInt64)

def Tick.nowNs : Tick → UInt64
  | .poll nowNs _ => nowNs
  | .count nowNs _ _ _ => nowNs
  | .hear nowNs => nowNs
  | .hello nowNs _ _ _ => nowNs
  | .qos nowNs _ => nowNs
  | .sweep nowNs => nowNs

/-- The announce periods of the two contexts. -/
structure Periods where
  consumerNs : UInt64
  producerNs : UInt64
  deriving DecidableEq, Repr

section Host

variable {host host' : Host} {consumerId : UInt32} {seenNs nowNs : UInt64}

/-- A consumer that is heard is seen now, and the others are seen as before. -/
theorem table_heard (events : List (Sightings.Event UInt32 UInt64)) (other : UInt32)
    (seen : table events consumerId = some seenNs) :
    table (.seen other nowNs :: events) consumerId = some seenNs ∨
      table (.seen other nowNs :: events) consumerId = some nowNs := by
  rw [table]
  by_cases same : consumerId = other
  · exact .inr (by rw [same, Function.update_self])
  · exact .inl (by rw [Function.update_of_ne same, seen])

/-- A hello or a report keeps each consumer that is known, and the stream and the epoch of the producer. -/
theorem visit_seen {visit : Visit} (fragment : (∃ hello descriptorOpens controlOpens,
      visit = .hello hello ⟨nowNs, descriptorOpens, controlOpens⟩) ∨ ∃ bytes, visit = .qos bytes nowNs)
    (stepped : host.step visit = some host') : host'.streamId = host.streamId ∧ host'.epoch = host.epoch ∧
      ∀ consumerId seenNs, table host.history consumerId = some seenNs →
        table host'.history consumerId = some seenNs ∨ table host'.history consumerId = some nowNs := by
  rcases fragment with ⟨hello, descriptorOpens, controlOpens, rfl⟩ | ⟨bytes, rfl⟩
  · cases stepped
    unfold Host.onHello
    split
    · exact ⟨rfl, rfl, fun _ _ seen => table_heard host.history hello.consumerId seen⟩
    · exact ⟨rfl, rfl, fun _ _ seen => .inl seen⟩
  · dsimp only [Host.step] at stepped
    split at stepped
    · cases stepped
    · cases stepped
      exact ⟨rfl, rfl, fun _ _ seen => .inl seen⟩
    next event heard =>
      cases stepped
      cases event with
      | producer qos => exact ⟨rfl, rfl, fun _ _ seen => .inl seen⟩
      | consumer qos =>
          rw [Host.onQosEvent]
          split
          · exact ⟨rfl, rfl, fun _ _ seen => .inl seen⟩
          · refine ⟨rfl, rfl, fun consumerId seenNs seen => ?_⟩
            unfold Host.touch
            dsimp only
            split
            · exact table_heard host.history qos.consumerId seen
            · exact .inl seen

/-- A report to the stream and the epoch of the producer is heard when its consumer is known. -/
theorem report_seen (sound : Sound host) (known : table host.history consumerId = some seenNs) {qos : QosConsumer}
    (streamId : qos.streamId = host.streamId) (epoch : qos.epoch = host.epoch) (named : qos.consumerId = consumerId)
    (stepped : host.step (.qos (publishConsumer qos) nowNs) = some host') :
    table host'.history consumerId = some nowNs := by
  obtain ⟨index, entry, here, inUse, own, -⟩ := (sound.shown consumerId seenNs).mpr known
  have found : (registryFind host.manager.registry consumerId).isSome = true := by
    by_contra missing
    rw [Option.not_isSome_iff_eq_none] at missing
    exact registryFind_none missing (List.mem_of_getElem? here) inUse own
  have matched : ¬ (qos.known.streamId ≠ host.streamId ∨ qos.known.epoch ≠ host.epoch) := by
    rw [not_or, not_not, not_not]
    exact ⟨streamId, epoch⟩
  rw [Host.step, publishConsumer_heard] at stepped
  cases stepped
  rw [Host.onQosEvent, if_neg matched, Host.touch]
  change table (if (registryFind host.manager.registry qos.consumerId).isSome = true then
    .seen qos.consumerId nowNs :: host.history else host.history) consumerId = some nowNs
  rw [named, if_pos found, table, Function.update_self]

end Host

namespace Watch

/-- This is the part of `tp_consumer_poll_control` for its report; it ignores the result of the offer. -/
def poll (periods : Periods) (watch : Watch) (nowNs : UInt64) (result : Int) : Watch :=
  if watch.reporter.due nowNs periods.consumerNs then
    { watch with
      reporter := { watch.reporter with lastQosNs := nowNs }
      flying :=
        if result < 0 then watch.flying else watch.flying ++ [(nowNs, publishConsumer watch.reporter.report)]
      nowNs := nowNs
      askedNs := nowNs }
  else { watch with nowNs := nowNs, askedNs := nowNs }

def visit (watch : Watch) (nowNs : UInt64) (visit : Visit) : Option Watch :=
  (watch.host.step visit).map fun host => { watch with host, nowNs }

def step (periods : Periods) (watch : Watch) : Tick → Option Watch
  | .poll nowNs result => some (watch.poll periods nowNs result)
  | .count nowNs lastSeqSeen dropsGap dropsLate =>
      some { watch with reporter := watch.reporter.counted lastSeqSeen dropsGap dropsLate, nowNs }
  | .hear nowNs =>
      match watch.flying with
      | [] => none
      | (_, bytes) :: rest => { watch with flying := rest }.visit nowNs (.qos bytes nowNs)
  | .hello nowNs hello descriptorOpens controlOpens =>
      watch.visit nowNs (.hello hello ⟨nowNs, descriptorOpens, controlOpens⟩)
  | .qos nowNs bytes => watch.visit nowNs (.qos bytes nowNs)
  | .sweep nowNs => watch.visit nowNs (.sweep nowNs periods.producerNs)

/-- The times of the reports on their way. -/
def sent (watch : Watch) : List Nat := watch.flying.map fun packet => packet.1.toNat

/-- The time goes on, no poll and no report is overdue, and no offer of a report fails. -/
def timely (timing : Timing) (watch : Watch) (tick : Tick) : Bool :=
  watch.nowNs ≤ tick.nowNs && tick.nowNs.toNat ≤ watch.askedNs.toNat + timing.pause &&
    (watch.sent.head?.all fun sent => decide (tick.nowNs.toNat ≤ sent + timing.delay)) &&
    match tick with
    | .poll _ result => 0 ≤ result
    | _ => true

/-- The consumer reports to the stream and the epoch of the producer. -/
structure Addressed (watch : Watch) (consumerId : UInt32) : Prop where
  streamId : watch.reporter.streamId = watch.host.streamId
  epoch : watch.reporter.epoch = watch.host.epoch
  consumerId : watch.reporter.consumerId = consumerId

/-- A report on its way names the consumer, and the stream and the epoch of the producer. -/
structure Names (host : Host) (consumerId : UInt32) (nowNs : UInt64) (packet : UInt64 × List UInt8) : Prop where
  order : packet.1 ≤ nowNs
  names : ∃ qos : QosConsumer, packet.2 = publishConsumer qos ∧ qos.streamId = host.streamId ∧
    qos.epoch = host.epoch ∧ qos.consumerId = consumerId

/-- The intervals are the periods of the contexts, and the producer waits for more than an interval. -/
structure Fair (timing : Timing) (periods : Periods) : Prop where
  positive : 0 < timing.interval
  interval : timing.interval = periods.consumerNs.toNat
  window : timing.window = (staleNs periods.producerNs).toNat
  wide : timing.interval + timing.pause + timing.delay ≤ timing.window

/-- The producer heard the consumer at the time `askedNs`, and the consumer has sent no report since. -/
structure Begins (consumerId : UInt32) (watch : Watch) : Prop where
  heard : Shown watch.host.manager.registry consumerId watch.askedNs
  addressed : watch.Addressed consumerId
  last : watch.reporter.lastQosNs ≤ watch.askedNs
  order : watch.askedNs ≤ watch.nowNs
  silent : watch.flying = []

/-- What holds after each tick. -/
structure Kept (timing : Timing) (consumerId : UInt32) (watch : Watch) (line : Line) : Prop where
  sound : Sound watch.host
  steady : Steady timing line
  asked : line.asked = watch.askedNs.toNat
  flying : line.flying = watch.sent
  last : watch.reporter.lastQosNs.toNat ≤ line.beaten
  beaten : line.beaten ≤ watch.nowNs.toNat
  seen : ∃ seenNs, table watch.host.history consumerId = some seenNs ∧ seenNs ≤ watch.nowNs ∧
    line.limit ≤ seenNs.toNat + timing.window
  addressed : watch.Addressed consumerId
  names : ∀ packet ∈ watch.flying, Names watch.host consumerId watch.nowNs packet

variable {timing : Timing} {periods : Periods} {consumerId : UInt32} {watch watch' : Watch} {line : Line}
  {nowNs : UInt64}

/-- At the start the hello counts as the last report. -/
theorem Begins.kept (begins : Begins consumerId watch) (sound : Sound watch.host) (positive : 0 < timing.interval) :
    Kept timing consumerId watch
      { asked := watch.askedNs.toNat
        beaten := watch.askedNs.toNat
        flying := []
        heard := watch.askedNs.toNat
        limit := watch.askedNs.toNat + timing.window } where
  sound := sound
  steady := ⟨List.isChain_singleton _, rfl, Nat.lt_add_of_pos_right positive, Nat.le_refl _⟩
  asked := rfl
  flying := by rw [sent, begins.silent, List.map_nil]
  last := UInt64.le_iff_toNat_le.mp begins.last
  beaten := UInt64.le_iff_toNat_le.mp begins.order
  seen := ⟨watch.askedNs, (sound.shown consumerId watch.askedNs).mp begins.heard, begins.order, Nat.le_refl _⟩
  addressed := begins.addressed
  names := by simp [begins.silent]

theorem Kept.timely (kept : Kept timing consumerId watch line) {tick : Tick} (met : watch.timely timing tick = true) :
    watch.nowNs ≤ tick.nowNs ∧ Timely timing line.asked line.flying tick.nowNs.toNat := by
  simp only [Watch.timely, Bool.and_eq_true, decide_eq_true_iff, Option.all_eq_true] at met
  obtain ⟨⟨⟨order, pause⟩, delay⟩, -⟩ := met
  rw [kept.asked, kept.flying]
  exact ⟨order, pause, delay⟩

/-- A report on its way stays addressed. -/
theorem Names.later {host host' : Host} {packet : UInt64 × List UInt8} {laterNs : UInt64}
    (names : Names host consumerId nowNs packet) (order : nowNs ≤ laterNs) (streamId : host'.streamId = host.streamId)
    (epoch : host'.epoch = host.epoch) : Names host' consumerId laterNs packet where
  order := UInt64.le_trans names.order order
  names := by
    rw [streamId, epoch]
    exact names.names

/-- A poll sends a report or rests. -/
theorem Kept.polls (kept : Kept timing consumerId watch line) (fair : Fair timing periods)
    (timely : Timely timing line.asked line.flying nowNs.toNat) (order : watch.nowNs ≤ nowNs) {result : Int}
    (taken : 0 ≤ result) : ∃ line', Kept timing consumerId (watch.poll periods nowNs result) line' := by
  have later := UInt64.le_iff_toNat_le.mp order
  obtain ⟨seenNs, seen, past, limit⟩ := kept.seen
  unfold poll
  split
  · rw [if_neg (Int.not_lt.mpr taken)]
    refine ⟨{ line with asked := nowNs.toNat, beaten := nowNs.toNat, flying := line.flying ++ [nowNs.toNat] }, ?_⟩
    refine {
      sound := kept.sound
      steady := kept.steady.beats timely fair.positive
      asked := rfl
      flying := by simp [kept.flying, sent]
      last := Nat.le_refl _
      beaten := Nat.le_refl _
      seen := ⟨seenNs, seen, UInt64.le_trans past order, limit⟩
      addressed := ⟨kept.addressed.streamId, kept.addressed.epoch, kept.addressed.consumerId⟩
      names := ?_ }
    intro packet member
    rcases List.mem_append.mp member with old | new
    · exact (kept.names packet old).later order rfl rfl
    · rw [List.mem_singleton.mp new]
      exact ⟨UInt64.le_refl _, watch.reporter.report, rfl, kept.addressed.streamId, kept.addressed.epoch,
        kept.addressed.consumerId⟩
  next early =>
    have rests : nowNs.toNat < line.beaten + timing.interval := by
      have last := kept.last
      have positive := fair.positive
      have interval := fair.interval
      have recent : watch.reporter.lastQosNs ≤ nowNs :=
        UInt64.le_iff_toNat_le.mpr (Nat.le_trans last (Nat.le_trans kept.beaten later))
      have ticking : periods.consumerNs > 0 := UInt64.lt_iff_toNat_lt.mpr (by rwa [← interval])
      simp only [Reporter.due, ticking, decide_true, Bool.true_and, Bool.or_eq_true, beq_iff_eq, decide_eq_true_iff,
        not_or, ge_iff_le, UInt64.le_iff_toNat_le, UInt64.toNat_sub_of_le _ _ recent] at early
      omega
    exact ⟨{ line with asked := nowNs.toNat }, { kept with
      steady := kept.steady.rests rests
      asked := rfl
      beaten := Nat.le_trans kept.beaten later
      seen := ⟨seenNs, seen, UInt64.le_trans past order, limit⟩
      addressed := ⟨kept.addressed.streamId, kept.addressed.epoch, kept.addressed.consumerId⟩
      names := fun packet member => (kept.names packet member).later order rfl rfl }⟩

/-- A hello or a report keeps what is known. -/
theorem Kept.visits (kept : Kept timing consumerId watch line) (order : watch.nowNs ≤ nowNs) {visit : Visit}
    (fragment : (∃ hello descriptorOpens controlOpens, visit = .hello hello ⟨nowNs, descriptorOpens, controlOpens⟩) ∨
      ∃ bytes, visit = .qos bytes nowNs) (visited : watch.visit nowNs visit = some watch') :
    Kept timing consumerId watch' line := by
  obtain ⟨host, stepped, rfl⟩ := Option.map_eq_some_iff.mp visited
  obtain ⟨streamId, epoch, seen⟩ := visit_seen fragment stepped
  obtain ⟨seenNs, known, past, limit⟩ := kept.seen
  have later := UInt64.le_iff_toNat_le.mp order
  have past' := UInt64.le_iff_toNat_le.mp past
  refine { kept with
    sound := kept.sound.step stepped
    beaten := Nat.le_trans kept.beaten later
    seen := ?_
    addressed := ⟨kept.addressed.streamId.trans streamId.symm, kept.addressed.epoch.trans epoch.symm,
      kept.addressed.consumerId⟩
    names := fun packet member => (kept.names packet member).later order streamId epoch }
  rcases seen consumerId seenNs known with same | new
  · exact ⟨seenNs, same, UInt64.le_trans past order, limit⟩
  · exact ⟨nowNs, new, UInt64.le_refl _, by omega⟩

/-- A report that arrives is heard. -/
theorem Kept.hears (kept : Kept timing consumerId watch line) (order : watch.nowNs ≤ nowNs)
    (heard : watch.step periods (.hear nowNs) = some watch') : ∃ line', Kept timing consumerId watch' line' := by
  dsimp only [step] at heard
  split at heard
  · cases heard
  next sentNs bytes rest flying =>
    obtain ⟨host, stepped, rfl⟩ := Option.map_eq_some_iff.mp heard
    have names := kept.names (sentNs, bytes) (by rw [flying]; exact List.mem_cons_self)
    obtain ⟨qos, rfl, toStream, toEpoch, named⟩ := names.names
    obtain ⟨seenNs, known, -, -⟩ := kept.seen
    obtain ⟨streamId, epoch, -⟩ := visit_seen (.inr ⟨_, rfl⟩) stepped
    have seen := report_seen kept.sound known toStream toEpoch named stepped
    have oldest : line.flying = sentNs.toNat :: rest.map fun packet => packet.1.toNat := by
      rw [kept.flying, sent, flying, List.map_cons]
    have past := UInt64.le_iff_toNat_le.mp (UInt64.le_trans names.order order)
    refine ⟨{ line with
      flying := rest.map fun packet => packet.1.toNat, heard := sentNs.toNat,
        limit := sentNs.toNat + timing.window }, ?_⟩
    exact {
      sound := kept.sound.step stepped
      steady := kept.steady.arrives oldest (Nat.le_refl _)
      asked := kept.asked
      flying := rfl
      last := kept.last
      beaten := Nat.le_trans kept.beaten (UInt64.le_iff_toNat_le.mp order)
      seen := ⟨nowNs, seen, UInt64.le_refl _, Nat.add_le_add_right past _⟩
      addressed := ⟨kept.addressed.streamId.trans streamId.symm, kept.addressed.epoch.trans epoch.symm,
        kept.addressed.consumerId⟩
      names := fun packet member =>
        (kept.names packet (flying ▸ List.mem_cons_of_mem _ member)).later order streamId epoch }

/-- A sweep keeps a consumer that was heard in time. -/
theorem Kept.sweeps (kept : Kept timing consumerId watch line) (fair : Fair timing periods)
    (timely : Timely timing line.asked line.flying nowNs.toNat) (order : watch.nowNs ≤ nowNs)
    (visited : watch.visit nowNs (.sweep nowNs periods.producerNs) = some watch') :
    Kept timing consumerId watch' line := by
  obtain ⟨host, stepped, rfl⟩ := Option.map_eq_some_iff.mp visited
  obtain ⟨seenNs, known, past, limit⟩ := kept.seen
  have alive := kept.steady.alive timely fair.wide
  have sound := kept.sound.step stepped
  cases stepped
  have fresh : ¬ nowNs - seenNs > staleNs periods.producerNs := by
    have window := fair.window
    rw [UInt64.not_lt, UInt64.le_iff_toNat_le, UInt64.toNat_sub_of_le _ _ (UInt64.le_trans past order)]
    omega
  refine { kept with
    sound := sound
    beaten := Nat.le_trans kept.beaten (UInt64.le_iff_toNat_le.mp order)
    seen := ⟨seenNs, ?_, UInt64.le_trans past order, limit⟩
    addressed := ⟨kept.addressed.streamId, kept.addressed.epoch, kept.addressed.consumerId⟩
    names := fun packet member => (kept.names packet member).later order rfl rfl }
  rw [Host.sweep, table]
  simp [known, fresh]

theorem Kept.step (kept : Kept timing consumerId watch line) (fair : Fair timing periods) {tick : Tick}
    (met : watch.timely timing tick = true) (stepped : watch.step periods tick = some watch') :
    ∃ line', Kept timing consumerId watch' line' := by
  obtain ⟨order, timely⟩ := kept.timely met
  cases tick with
  | poll nowNs result =>
      cases stepped
      simp only [Watch.timely, Bool.and_eq_true, decide_eq_true_iff] at met
      exact kept.polls fair timely order met.2
  | count nowNs lastSeqSeen dropsGap dropsLate =>
      cases stepped
      obtain ⟨seenNs, seen, past, limit⟩ := kept.seen
      exact ⟨line, { kept with
        beaten := Nat.le_trans kept.beaten (UInt64.le_iff_toNat_le.mp order)
        seen := ⟨seenNs, seen, UInt64.le_trans past order, limit⟩
        addressed := ⟨kept.addressed.streamId, kept.addressed.epoch, kept.addressed.consumerId⟩
        names := fun packet member => (kept.names packet member).later order rfl rfl }⟩
  | hear nowNs => exact kept.hears order stepped
  | hello nowNs hello descriptorOpens controlOpens =>
      exact ⟨line, kept.visits order (.inl ⟨hello, descriptorOpens, controlOpens, rfl⟩) stepped⟩
  | qos nowNs bytes => exact ⟨line, kept.visits order (.inr ⟨bytes, rfl⟩) stepped⟩
  | sweep nowNs => exact ⟨line, kept.sweeps fair timely order stepped⟩

end Watch

/--
A consumer that a producer has heard stays known as long as it polls often enough and its reports are taken and arrive
in their order and in time, where the time that the producer waits covers a period of the consumer, a pause and a
delay:
no sweep frees its entry, whatever hellos and reports come from other consumers.
-/
theorem run_present (streamId : UInt32) (epoch : UInt64) (capacity : Nat) (visits : List Visit) (timing : Timing)
    (periods : Periods) (consumerId : UInt32) (ticks : List Tick) (watch watch' : Watch)
    (ran : GuardedRun.run Host.step (Host.start streamId epoch capacity) visits = some watch.host)
    (fair : Watch.Fair timing periods) (begins : Watch.Begins consumerId watch)
    (went : GuardedRun.runWhile (Watch.timely timing) (Watch.step periods) watch ticks = some watch') :
    ∃ seenNs, Shown watch'.host.manager.registry consumerId seenNs := by
  let known (watch : Watch) : Prop := ∃ line, Watch.Kept timing consumerId watch line
  have kept : known watch' := by
    refine GuardedRun.keeps (fun s tick s' before met stepped => ?_) went
      ⟨_, begins.kept ((Sound.start streamId epoch capacity).run ran) fair.positive⟩
    obtain ⟨line, kept⟩ := before
    exact kept.step fair met stepped
  obtain ⟨line, kept⟩ := kept
  obtain ⟨seenNs, seen, -, -⟩ := kept.seen
  exact ⟨seenNs, (kept.sound.shown consumerId seenNs).mpr seen⟩

/-- Two consumers say hello to a producer, and the second one is not heard again. -/
def greeted : List Visit := [.hello (plainHello 7) ⟨1000, true, true⟩, .hello (plainHello 8) ⟨1000, true, true⟩]

def reportTicks : List Tick :=
  [.poll 1010 0, .hear 1050, .poll 1080 0, .count 1090 5 0 0, .poll 1120 0, .hear 1160, .sweep 1160, .poll 1200 0,
    .hello 1210 (plainHello 9) true true, .poll 1240 0, .hear 1300, .poll 1310 0, .poll 1380 0, .hear 1400,
      .poll 1460 0,
    .poll 1500 0, .sweep 1520]

def reportTiming : Timing where
  interval := 100
  pause := 100
  delay := 80
  window := 500

def reportStart (host : Host) : Watch where
  host := host
  reporter :=
    { streamId := 1, consumerId := 7, epoch := 5, lastSeqSeen := 0, dropsGap := 0, dropsLate := 0, mode := 1 }
  nowNs := 1000
  askedNs := 1000

def greetedHost : Option Host := GuardedRun.run Host.step (Host.start 1 5 4) greeted

theorem greetedHost_some : greetedHost.isSome = true := by decide +kernel

def reported : Option Watch :=
  GuardedRun.runWhile (Watch.timely reportTiming) (Watch.step ⟨100, 100⟩)
    (reportStart (greetedHost.get greetedHost_some)) reportTicks

theorem reported_some : reported.isSome = true := by decide +kernel

theorem reported_present : ∃ seenNs, Shown (reported.get reported_some).host.manager.registry 7 seenNs := by
  have fair : Watch.Fair reportTiming ⟨100, 100⟩ := by
    constructor <;> decide +kernel
  have begins : Watch.Begins 7 (reportStart (greetedHost.get greetedHost_some)) := by
    refine ⟨⟨0, (greetedHost.get greetedHost_some).manager.registry.getD 0 {}, ?_⟩, ⟨?_, ?_, rfl⟩, ?_, ?_, rfl⟩ <;>
      decide +kernel
  exact run_present 1 5 4 greeted reportTiming ⟨100, 100⟩ 7 reportTicks
    (reportStart (greetedHost.get greetedHost_some)) (reported.get reported_some)
      (Option.some_get greetedHost_some).symm fair begins
    (Option.some_get reported_some).symm

end TensorPool.Presence
