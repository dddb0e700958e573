/-
This file shows which consumers a producer knows after any of their hellos, reports and sweeps.
-/

import TensorPool.Library.GuardedRun
import TensorPool.Library.Sightings
import TensorPool.Manager.Agreement
import TensorPool.Presence.Qos

namespace TensorPool.Presence

open Scan
open Manager
open Sightings (Event table table_eq_some)

/--
This is the part of `tp_producer_t` about its consumers. The last field is history: when a consumer was heard,
and what the sweeps kept, the last event first.
-/
structure Host where
  streamId : UInt32
  epoch : UInt64
  manager : ConsumerManager
  history : List (Event UInt32 UInt64) := []

/-- What the producer handles: fragments, the sweep of `tp_producer_poll_control`, and an attach to another epoch. -/
inductive Visit where
  | hello (hello : ConsumerHello) (outside : Outside)
  | qos (bytes : List UInt8) (nowNs : UInt64)
  | sweep (nowNs announcePeriodNs : UInt64)
  | attach (streamId : UInt32) (epoch : UInt64)

/-- A consumer is stale after five periods. -/
def staleNs (announcePeriodNs : UInt64) : UInt64 := if announcePeriodNs > 0 then announcePeriodNs * 5 else 5000000000

namespace Host

def start (streamId : UInt32) (epoch : UInt64) (capacity : Nat) : Host where
  streamId := streamId
  epoch := epoch
  manager := managerInit capacity

/-- A touch of a consumer that is not known is an error, which is ignored. -/
def touch (host : Host) (consumerId : UInt32) (nowNs : UInt64) : Host :=
  { host with
    manager := Manager.touch host.manager consumerId nowNs
    history :=
      if (registryFind host.manager.registry consumerId).isSome then .seen consumerId nowNs :: host.history
      else host.history }

/-- This is `tp_producer_qos_event_handler`. -/
def onQosEvent (host : Host) (nowNs : UInt64) : QosEvent → Host
  | .producer _ => host
  | .consumer qos =>
      if qos.streamId ≠ host.streamId ∨ qos.epoch ≠ host.epoch then host else host.touch qos.consumerId nowNs

/-- The part of `tp_producer_control_handler` for a hello. -/
def onHello (host : Host) (hello : ConsumerHello) (outside : Outside) : Host :=
  match handleHello host.manager hello outside with
  | (manager, .ok _) => { host with manager, history := .seen hello.consumerId outside.nowNs :: host.history }
  | (manager, .error _) => { host with manager }

def sweep (host : Host) (nowNs announcePeriodNs : UInt64) : Host :=
  { host with
    manager := Manager.sweep host.manager nowNs (staleNs announcePeriodNs)
    history := .swept (fun seenNs => !decide (nowNs - seenNs > staleNs announcePeriodNs)) :: host.history }

/-- A step fails where a read would leave its fragment. -/
def step (host : Host) : Visit → Option Host
  | .hello hello outside => some (host.onHello hello outside)
  | .qos bytes nowNs =>
      match qosPollerHandler bytes with
      | fault => none
      | stop _ => some host
      | value event => some (host.onQosEvent nowNs event)
  | .sweep nowNs announcePeriodNs => some (host.sweep nowNs announcePeriodNs)
  | .attach streamId epoch => some { host with streamId, epoch }

end Host

/-- An entry in use shows when its consumer was seen. -/
def Shown (registry : Registry) (consumerId : UInt32) (seenNs : UInt64) : Prop :=
  ∃ (index : Nat) (entry : Entry), registry[index]? = some entry ∧ entry.inUse = true ∧
    entry.consumerId = consumerId ∧ entry.lastSeenNs = seenNs

/-- The consumers of different entries in use differ. -/
def Distinct (registry : Registry) : Prop :=
  ∀ (i j : Nat) (left right : Entry), registry[i]? = some left → registry[j]? = some right → left.inUse = true →
    right.inUse = true → left.consumerId = right.consumerId → i = j

section Registry

variable {registry : Registry} {index : Nat} {old new : Entry} {consumerId : UInt32} {seenNs : UInt64}

/-- The place is the one of the consumer, or it is free and the consumer has none. -/
def Place (registry : Registry) (consumerId : UInt32) (index : Nat) (old : Entry) : Prop :=
  registryFind registry consumerId = some index ∨ registryFind registry consumerId = none ∧ old.inUse = false

/-- The consumer of a place has no other one. -/
theorem other_place (distinct : Distinct registry) (free : Place registry new.consumerId index old) {i : Nat}
    {entry : Entry} (here : registry[i]? = some entry) (inUse : entry.inUse = true)
    (same : entry.consumerId = new.consumerId) : i = index := by
  rcases free with found | ⟨missing, -⟩
  · obtain ⟨first, there, used, own⟩ := registryFind_some found
    exact distinct i index entry first here there inUse used (same.trans own.symm)
  · exact absurd same (registryFind_none missing (List.mem_of_getElem? here) inUse)

/-- A consumer that takes its place is shown there, and the other consumers stay. -/
theorem shown_set (distinct : Distinct registry) (place : registry[index]? = some old)
    (free : Place registry new.consumerId index old) (inUse : new.inUse = true) :
    Distinct (registry.set index new) ∧ ∀ consumerId seenNs, Shown (registry.set index new) consumerId seenNs ↔
      if consumerId = new.consumerId then seenNs = new.lastSeenNs else Shown registry consumerId seenNs := by
  obtain ⟨inside, -⟩ := List.getElem?_eq_some_iff.mp place
  have at_index : (registry.set index new)[index]? = some new := List.getElem?_set_self inside
  have elsewhere {i : Nat} (apart : i ≠ index) : (registry.set index new)[i]? = registry[i]? :=
    List.getElem?_set_ne (Ne.symm apart)
  have own {i : Nat} {entry : Entry} (apart : i ≠ index) (here : registry[i]? = some entry)
    (used : entry.inUse = true) :
      entry.consumerId ≠ new.consumerId := fun same => apart (other_place distinct free here used same)
  constructor
  · intro i j left right here here' used used' same
    by_cases first : i = index <;> by_cases second : j = index
    · rw [first, second]
    · rw [first, at_index, Option.some.injEq] at here
      rw [elsewhere second] at here'
      exact absurd (here ▸ same.symm) (own second here' used')
    · rw [elsewhere first] at here
      rw [second, at_index, Option.some.injEq] at here'
      exact absurd (here' ▸ same) (own first here used)
    · rw [elsewhere first] at here
      rw [elsewhere second] at here'
      exact distinct i j left right here here' used used' same
  · intro consumerId seenNs
    by_cases same : consumerId = new.consumerId
    · rw [if_pos same, same]
      constructor
      · rintro ⟨i, entry, here, used, named, seen⟩
        by_cases first : i = index
        · rw [first, at_index, Option.some.injEq] at here
          rw [here, seen]
        · rw [elsewhere first] at here
          exact absurd named (own first here used)
      · rintro rfl
        exact ⟨index, new, at_index, inUse, rfl, rfl⟩
    · rw [if_neg same]
      constructor
      · rintro ⟨i, entry, here, used, named, seen⟩
        have apart : i ≠ index := by
          rintro rfl
          rw [at_index, Option.some.injEq] at here
          exact same (here ▸ named.symm)
        exact ⟨i, entry, elsewhere apart ▸ here, used, named, seen⟩
      · rintro ⟨i, entry, here, used, named, seen⟩
        have apart : i ≠ index := by
          rintro rfl
          rcases free with found | ⟨-, unused⟩
          · obtain ⟨entry', there, -, own'⟩ := registryFind_some found
            rw [there, Option.some.injEq] at here
            exact same (named.symm.trans (here ▸ own'))
          · rw [place, Option.some.injEq] at here
            rw [← here, unused] at used
            cases used
        exact ⟨i, entry, (elsewhere apart).trans here, used, named, seen⟩

/-- A sweep frees the entries that were not seen for the stale time. -/
theorem sweep_inUse {nowNs stale : UInt64} {entry : Entry} : (entry.sweep nowNs stale).inUse = true ↔
    entry.inUse = true ∧ ¬ nowNs - entry.lastSeenNs > stale := by
  unfold Entry.sweep
  split
  · simp_all
  · simp_all

/-- A sweep keeps the consumer and the time of each entry. -/
theorem sweep_same (nowNs stale : UInt64) (entry : Entry) :
    (entry.sweep nowNs stale).consumerId = entry.consumerId ∧
      (entry.sweep nowNs stale).lastSeenNs = entry.lastSeenNs := by
  unfold Entry.sweep
  split <;> simp

/-- A sweep keeps the consumers apart, and it shows those that were seen in time. -/
theorem shown_sweep (distinct : Distinct registry) (nowNs stale : UInt64) :
    Distinct (registrySweep registry nowNs stale) ∧
      ∀ consumerId seenNs, Shown (registrySweep registry nowNs stale) consumerId seenNs ↔
        Shown registry consumerId seenNs ∧ ¬ nowNs - seenNs > stale := by
  have cells (i : Nat) : (registrySweep registry nowNs stale)[i]? = (registry[i]?).map (Entry.sweep nowNs stale) :=
    List.getElem?_map
  constructor
  · intro i j left right here here' used used' same
    rw [cells, Option.map_eq_some_iff] at here here'
    obtain ⟨left', there, rfl⟩ := here
    obtain ⟨right', there', rfl⟩ := here'
    rw [(sweep_same nowNs stale left').1, (sweep_same nowNs stale right').1] at same
    exact distinct i j left' right' there there' (sweep_inUse.mp used).1 (sweep_inUse.mp used').1 same
  · intro consumerId seenNs
    constructor
    · rintro ⟨i, entry, here, used, named, seen⟩
      rw [cells, Option.map_eq_some_iff] at here
      obtain ⟨entry', there, rfl⟩ := here
      obtain ⟨sameId, sameSeen⟩ := sweep_same nowNs stale entry'
      obtain ⟨used', fresh⟩ := sweep_inUse.mp used
      rw [sameSeen] at seen
      exact ⟨⟨i, entry', there, used', sameId ▸ named, seen⟩, seen ▸ fresh⟩
    · rintro ⟨⟨i, entry, here, used, named, rfl⟩, fresh⟩
      obtain ⟨sameId, sameSeen⟩ := sweep_same nowNs stale entry
      exact ⟨i, entry.sweep nowNs stale, by rw [cells, here, Option.map_some], sweep_inUse.mpr ⟨used, fresh⟩,
        sameId.trans named, sameSeen⟩

end Registry

/-- The consumers in use differ, and each is shown with the time that it was last heard, unless a sweep was too
late. -/
structure Sound (host : Host) : Prop where
  distinct : Distinct host.manager.registry
  shown : ∀ consumerId seenNs, Shown host.manager.registry consumerId seenNs ↔
    table host.history consumerId = some seenNs

namespace Sound

variable {host : Host}

/-- A new host is sound. -/
theorem start (streamId : UInt32) (epoch : UInt64) (capacity : Nat) : Sound (Host.start streamId epoch capacity) := by
  have free {i : Nat} {entry : Entry} (here : (registryInit capacity)[i]? = some entry) : entry.inUse = false := by
    rw [registryInit, List.getElem?_replicate] at here
    split at here
    · cases here
      rfl
    · cases here
  constructor
  · intro i j left right here here' used
    rw [free here] at used
    cases used
  · intro consumerId seenNs
    constructor
    · rintro ⟨i, entry, here, used, -⟩
      rw [free here] at used
      cases used
    · intro seen
      cases seen

/-- A consumer takes its place when it is heard. -/
theorem takes (sound : Sound host) {host' : Host} {index : Nat} {old new : Entry}
    (place : host.manager.registry[index]? = some old) (free : Place host.manager.registry new.consumerId index old)
    (inUse : new.inUse = true) (stored : host'.manager.registry = host.manager.registry.set index new)
    (heard : host'.history = .seen new.consumerId new.lastSeenNs :: host.history) : Sound host' := by
  obtain ⟨distinct, shown⟩ := shown_set sound.distinct place free inUse
  rw [← stored] at distinct shown
  refine ⟨distinct, fun consumerId seenNs => ?_⟩
  rw [shown, heard, table]
  split
  next same =>
    rw [same, Function.update_self, Option.some.injEq]
    exact eq_comm
  next other =>
    rw [Function.update_of_ne other]
    exact sound.shown consumerId seenNs

/-- A touch keeps the host sound. -/
theorem touch (sound : Sound host) (consumerId : UInt32) (nowNs : UInt64) : Sound (host.touch consumerId nowNs) := by
  unfold Host.touch Manager.touch
  cases found : registryFind host.manager.registry consumerId with
  | none => exact sound
  | some index =>
      obtain ⟨entry, here, inUse, own⟩ := registryFind_some found
      obtain ⟨new, seen⟩ : ∃ new : Entry, new = { entry with lastSeenNs := nowNs } := ⟨_, rfl⟩
      have stored : host.manager.registry.modify index (fun entry => { entry with lastSeenNs := nowNs }) =
          host.manager.registry.set index new := by
        simp [List.modify_eq_set_getElem?, here, seen]
      have same : new.consumerId = consumerId := by rw [seen, own]
      have used : new.inUse = true := by rw [seen, inUse]
      exact sound.takes here (.inl (same ▸ found)) used stored (by simp [seen, own])

/-- A sweep keeps the host sound. -/
theorem sweep (sound : Sound host) (nowNs announcePeriodNs : UInt64) : Sound (host.sweep nowNs announcePeriodNs) := by
  obtain ⟨distinct, shown⟩ := shown_sweep sound.distinct nowNs (staleNs announcePeriodNs)
  refine ⟨distinct, fun consumerId seenNs => ?_⟩
  change Shown (registrySweep host.manager.registry nowNs (staleNs announcePeriodNs)) consumerId seenNs ↔ _
  rw [shown, sound.shown, Host.sweep, table]
  simp [Option.filter_eq_some_iff]

end Sound

/-- An answered hello stores an entry of its consumer that was seen now. -/
theorem handleHello_stores {manager after : ConsumerManager} {hello : ConsumerHello} {outside : Outside}
    {config : ConsumerConfig} (answered : handleHello manager hello outside = (after, .ok config)) :
    ∃ index old new, manager.registry[index]? = some old ∧ after.registry = manager.registry.set index new ∧
      new.inUse = true ∧ new.consumerId = hello.consumerId ∧ new.lastSeenNs = outside.nowNs ∧
        Place manager.registry hello.consumerId index old := by
  unfold handleHello at answered
  split at answered
  · cases (Prod.mk.inj answered).2
  next request valid =>
    split at answered
    · cases (Prod.mk.inj answered).2
    next registry index updated =>
      obtain ⟨old, base, here, rfl, inUse, own, place⟩ := registryUpdate_ok valid updated
      obtain ⟨inside, -⟩ := List.getElem?_eq_some_iff.mp here
      dsimp only at answered
      rw [List.getD_eq_getElem?_getD, List.getElem?_set_self inside, Option.getD_some] at answered
      obtain ⟨rfl, -⟩ := Prod.mk.inj answered
      refine ⟨index, old, _, here, List.set_set _, inUse, own, rfl, ?_⟩
      rcases place with ⟨found, -⟩ | ⟨missing, unused, -⟩
      · exact .inl found
      · exact .inr ⟨missing, unused⟩

namespace Sound

variable {host host' : Host}

/-- A hello keeps the host sound. -/
theorem onHello (sound : Sound host) (hello : ConsumerHello) (outside : Outside) :
    Sound (host.onHello hello outside) := by
  unfold Host.onHello
  split
  next manager config answered =>
    obtain ⟨index, old, new, place, stored, inUse, own, seen, free⟩ := handleHello_stores answered
    exact sound.takes place (own ▸ free) inUse stored (by rw [own, seen])
  next manager text refused =>
    rw [handleHello_error refused]
    exact sound

/-- Each visit keeps the host sound. -/
theorem step (sound : Sound host) {visit : Visit} (stepped : host.step visit = some host') : Sound host' := by
  cases visit with
  | hello hello outside =>
      cases stepped
      exact sound.onHello hello outside
  | qos bytes nowNs =>
      dsimp only [Host.step] at stepped
      split at stepped
      · cases stepped
      · cases stepped
        exact sound
      next event heard =>
        cases stepped
        cases event with
        | producer qos => exact sound
        | consumer qos =>
            rw [Host.onQosEvent]
            split
            · exact sound
            · exact sound.touch qos.consumerId nowNs
  | sweep nowNs announcePeriodNs =>
      cases stepped
      exact sound.sweep nowNs announcePeriodNs
  | attach streamId epoch =>
      cases stepped
      exact ⟨sound.distinct, sound.shown⟩

/-- A run of visits keeps the host sound. -/
theorem run {visits : List Visit} (sound : Sound host) (ran : GuardedRun.run Host.step host visits = some host') :
    Sound host' := GuardedRun.keeps (fun _ _ _ sound _ stepped => sound.step stepped) ran sound

end Sound

/-- A consumer is found exactly when it is shown. -/
theorem shown_find {registry : Registry} {consumerId : UInt32} :
    registryFind registry consumerId = none ↔ ∀ seenNs, ¬ Shown registry consumerId seenNs := by
  constructor
  · rintro missing seenNs ⟨index, entry, here, inUse, own, -⟩
    exact registryFind_none missing (List.mem_of_getElem? here) inUse own
  · intro hidden
    cases found : registryFind registry consumerId with
    | none => rfl
    | some index =>
        obtain ⟨entry, here, inUse, own⟩ := registryFind_some found
        exact absurd ⟨index, entry, here, inUse, own, rfl⟩ (hidden entry.lastSeenNs)

/-- A well formed hello is refused when its consumer is not known and no entry is free. -/
theorem hello_refused {manager : ConsumerManager} {hello : ConsumerHello} {request : Request} (outside : Outside)
    (valid : requestValidate hello = .ok request) :
    (∃ text, (handleHello manager hello outside).2 = .error text) ↔
      (∀ seenNs, ¬ Shown manager.registry hello.consumerId seenNs) ∧
        ∀ entry ∈ manager.registry, entry.inUse = true := by
  have free : registryAlloc manager.registry = none ↔ ∀ entry ∈ manager.registry, entry.inUse = true := by
    simp [registryAlloc, List.findIdx?_eq_none_iff]
  rw [← shown_find, ← free, handleHello, valid]
  cases found : registryFind manager.registry hello.consumerId with
  | some index => simp [registryUpdate, valid, found]
  | none =>
      cases place : registryAlloc manager.registry with
      | some index => simp [registryUpdate, valid, found, place]
      | none => simp [registryUpdate, valid, found, place]

/--
After any hellos, reports, sweeps and attaches a producer knows a consumer, with a time, exactly when it heard the
consumer at this time and has since neither heard it again nor swept it out; no consumer has two entries, and a well
formed hello is refused exactly when its consumer is not known and no entry is free.
-/
theorem run_known (streamId : UInt32) (epoch : UInt64) (capacity : Nat) (visits : List Visit) (host : Host)
    (ran : GuardedRun.run Host.step (Host.start streamId epoch capacity) visits = some host) :
    Distinct host.manager.registry ∧
      (∀ consumerId seenNs, Shown host.manager.registry consumerId seenNs ↔
        ∃ later earlier, host.history = later ++ .seen consumerId seenNs :: earlier ∧
          ∀ event ∈ later, event.Spares consumerId seenNs) ∧
      ∀ hello request outside, requestValidate hello = .ok request →
        ((∃ text, (handleHello host.manager hello outside).2 = .error text) ↔
          (∀ seenNs, ¬ Shown host.manager.registry hello.consumerId seenNs) ∧
            ∀ entry ∈ host.manager.registry, entry.inUse = true) := by
  have sound := (Sound.start streamId epoch capacity).run ran
  refine ⟨sound.distinct, fun consumerId seenNs => ?_, fun hello request outside valid => hello_refused outside valid⟩
  rw [sound.shown, table_eq_some]

def plainHello (consumerId : UInt32) : ConsumerHello where
  streamId := 1
  consumerId := consumerId
  supportsShm := 1
  supportsProgress := 0
  mode := 1
  maxRateHz := 0
  progressIntervalUs := nullU32
  progressBytesDelta := nullU32
  progressMajorDeltaUnits := nullU32
  descriptorStreamId := 0
  controlStreamId := 0
  descriptorChannel := []
  controlChannel := []

def plainReport (consumerId : UInt32) : QosConsumer where
  streamId := 1
  consumerId := consumerId
  epoch := 5
  lastSeqSeen := 0
  dropsGap := 0
  dropsLate := 0
  mode := 1

/-- One consumer is heard and swept, and another one takes its entry. -/
def crowdedVisits : List Visit :=
  [.hello (plainHello 7) ⟨100, true, true⟩, .hello (plainHello 8) ⟨150, true, true⟩,
    .qos (publishConsumer (plainReport 7)) 200, .sweep 800 100, .hello (plainHello 8) ⟨900, true, true⟩,
    .qos (publishConsumer (plainReport 8)) 1000, .sweep 1500 100]

def crowded : Option Host := GuardedRun.run Host.step (Host.start 1 5 1) crowdedVisits

theorem crowded_some : crowded.isSome = true := by decide +kernel

theorem crowded_shown : Shown (crowded.get crowded_some).manager.registry 8 1000 := by
  refine ⟨0, ((crowded.get crowded_some).manager.registry).getD 0 {}, ?_⟩
  decide +kernel

theorem crowded_known : ∃ later earlier, (crowded.get crowded_some).history = later ++ .seen 8 1000 :: earlier ∧
    ∀ event ∈ later, event.Spares 8 1000 := by
  obtain ⟨-, shown, -⟩ := run_known 1 5 1 crowdedVisits (crowded.get crowded_some) (Option.some_get crowded_some).symm
  exact (shown 8 1000).mp crowded_shown

end TensorPool.Presence
