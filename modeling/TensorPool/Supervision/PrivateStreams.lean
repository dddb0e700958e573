/-
This file shows when the private streams of the registered consumers differ.
-/

import Mathlib.Algebra.Group.Nat.Defs
import TensorPool.Library.GuardedRun
import TensorPool.Manager.Agreement
import TensorPool.Supervision.Hello

namespace TensorPool.Supervision

open Manager (ConsumerConfig ConsumerHello Entry PrivateStream Registry Request)

/-- A private stream carries the descriptors or the control messages of a consumer. -/
inductive Side where
  | descriptor
  | control
  deriving DecidableEq, Repr

namespace Side

def policy : Side → Config → Policy
  | descriptor => Config.descriptor
  | control => Config.control

def streamId : Side → ConsumerConfig → UInt32
  | descriptor => ConsumerConfig.descriptorStreamId
  | control => ConsumerConfig.controlStreamId

def requested : Side → Request → Bool
  | descriptor => Request.descriptorRequested
  | control => Request.controlRequested

end Side

/-- The lowest id and the number of ids that a policy gives. -/
def Policy.baseId (policy : Policy) : Nat := policy.base.toUInt32.toNat

namespace System

/-- The consumers that are in the registry. -/
def registered (system : System) : List UInt32 :=
  (system.supervisor.registry.filter Entry.inUse).map Entry.consumerId

/-- The stream that the last answer to the consumer names; a declined request names none. -/
def assigned (system : System) (side : Side) (consumerId : UInt32) : UInt32 :=
  ((system.log.find? fun config => config.consumerId == consumerId).map side.streamId).getD 0

/-- The consumers with a private stream of the side, other than the one given. -/
def holders (system : System) (side : Side) (consumerId : UInt32) : List UInt32 :=
  system.registered.filter fun other => other != consumerId && system.assigned side other != 0

/-- A registered consumer shares its streams with no other one, and they lie in the range. -/
structure Private (system : System) : Prop where
  apart : ∀ side, ∀ left ∈ system.registered, ∀ right ∈ system.registered, left ≠ right →
    system.assigned side left ≠ 0 → system.assigned side left ≠ system.assigned side right
  inRange : ∀ side, ∀ consumerId ∈ system.registered, system.assigned side consumerId ≠ 0 →
    (side.policy system.supervisor.config).baseId ≤ (system.assigned side consumerId).toNat ∧
      (system.assigned side consumerId).toNat <
        (side.policy system.supervisor.config).baseId + (side.policy system.supervisor.config).range.toNat

/-- Every id of the range is the stream of another registered consumer. -/
def Exhausted (system : System) (side : Side) (consumerId : UInt32) : Prop :=
  ∀ id : UInt32, (side.policy system.supervisor.config).baseId ≤ id.toNat →
    id.toNat < (side.policy system.supervisor.config).baseId + (side.policy system.supervisor.config).range.toNat →
      ∃ other ∈ system.holders side consumerId, system.assigned side other = id

/-- A request is declined when no id is free. -/
def Declines (system : System) (hello : ConsumerHello) (nowNs : UInt64) : Prop :=
  ∀ side supervisor config, system.Exhausted side hello.consumerId →
    handleHello system.supervisor hello nowNs = (supervisor, .ok config) → side.streamId config = 0

/-- The residue of the consumer is not the one of a holder, and its stream id does not wrap around. -/
def freeOn (system : System) (consumerId : UInt32) (side : Side) : Bool :=
  let policy := side.policy system.supervisor.config
  (system.holders side consumerId).all (fun other => other % policy.range != consumerId % policy.range) &&
    policy.baseId + (consumerId % policy.range).toNat < 2 ^ 32

/-- A hello is free on each side that it requests. -/
def free (system : System) : Action → Bool
  | .hello hello _ =>
      match Manager.requestValidate hello with
      | .error _ => true
      | .ok request =>
          (!request.descriptorRequested || system.freeOn hello.consumerId .descriptor) &&
            (!request.controlRequested || system.freeOn hello.consumerId .control)
  | _ => true

/-- A run goes on while each of its hellos is free. -/
def runFree (system : System) (actions : List Action) : Option System :=
  GuardedRun.runWhile free (fun system action => some (system.step action)) system actions

end System

/-- Both sides have a base and a range. -/
structure Config.PerConsumer (config : Config) : Prop where
  enabled : config.perConsumerEnabled = true
  based : ∀ side : Side, (side.policy config).base ≠ 0
  ranged : ∀ side : Side, (side.policy config).range ≠ 0

section Answer

variable {supervisor after : Supervisor} {hello : ConsumerHello} {nowNs : UInt64} {answer : ConsumerConfig}

/-- A policy with a base names the id of the consumer, or none. -/
theorem answer_streamId {policy : Policy} (based : policy.base ≠ 0) (ranged : policy.range ≠ 0) (wanted : Bool)
    (consumerId : UInt32) (stream : PrivateStream) :
    (policy.answer wanted consumerId stream).2.2 = 0 ∨ wanted = true ∧
      (policy.answer wanted consumerId stream).2.2 = policy.base.toUInt32 + consumerId % policy.range := by
  have base : policy.base.toUInt32 ≠ 0 := by
    intro zero
    have same : policy.base = Int32.ofUInt32 policy.base.toUInt32 := rfl
    rw [zero] at same
    exact based same
  cases wanted with
  | false => exact .inl rfl
  | true =>
      rw [Policy.answer, if_pos rfl, Policy.assign, assignStreamId]
      simp only [beq_iff_eq, based, base, ranged, if_false]
      generalize (if policy.channel.isEmpty = true then stream.channel else policy.channel) = channel
      split
      · exact .inl rfl
      · exact .inr ⟨trivial, rfl⟩

/-- What an answered hello does: it keeps the settings, and only its consumer may be new. -/
structure Answered (supervisor after : Supervisor) (hello : ConsumerHello) (answer : ConsumerConfig) : Prop where
  config : after.config = supervisor.config
  consumerId : answer.consumerId = hello.consumerId
  known : ∀ entry ∈ after.registry, entry.inUse = true → entry.consumerId = hello.consumerId ∨
    ∃ old ∈ supervisor.registry, old.inUse = true ∧ old.consumerId = entry.consumerId
  streams : supervisor.config.PerConsumer → ∃ request, Manager.requestValidate hello = .ok request ∧
    ∀ side : Side, side.streamId answer = 0 ∨ side.requested request = true ∧ side.streamId answer =
      (side.policy supervisor.config).base.toUInt32 + hello.consumerId % (side.policy supervisor.config).range

theorem handleHello_ok (answered : handleHello supervisor hello nowNs = (after, .ok answer)) :
    Answered supervisor after hello answer := by
  unfold handleHello at answered
  dsimp only at answered
  split at answered
  · cases (Prod.mk.inj answered).2
  next request valid =>
    split at answered
    · cases (Prod.mk.inj answered).2
    next registry index updated =>
      obtain ⟨old, base, here, shape, inUse, own, -⟩ := Manager.registryUpdate_ok valid updated
      have inside : index < supervisor.registry.length := (List.getElem?_eq_some_iff.mp here).1
      have entry : registry.getD index {} = base.greet hello request nowNs := by
        rw [shape, List.getD_eq_getElem?_getD, List.getElem?_set_self inside]
        rfl
      rw [entry] at answered
      obtain ⟨same, told⟩ := Prod.mk.inj answered
      cases told
      subst same
      refine ⟨rfl, rfl, fun entry member used => ?_, fun settings => ⟨request, valid, fun side => ?_⟩⟩
      · rw [shape, List.set_set] at member
        obtain before | new := List.mem_or_eq_of_mem_set member
        · exact .inr ⟨entry, before, used, rfl⟩
        · left
          rw [new]
          exact own
      · cases side with
        | descriptor =>
            have found := answer_streamId (settings.based .descriptor) (settings.ranged .descriptor)
              (supervisor.config.perConsumerEnabled && request.descriptorRequested) hello.consumerId
              (base.greet hello request nowNs).descriptor
            rw [settings.enabled] at found ⊢
            exact found
        | control =>
            have found := answer_streamId (settings.based .control) (settings.ranged .control)
              (supervisor.config.perConsumerEnabled && request.controlRequested) hello.consumerId
              (base.greet hello request nowNs).control
            rw [settings.enabled] at found ⊢
            exact found

/-- A refused hello changes nothing. -/
theorem handleHello_error {text : String} (refused : handleHello supervisor hello nowNs = (after, .error text)) :
    after = supervisor := by
  unfold handleHello at refused
  dsimp only at refused
  split at refused
  · exact (Prod.mk.inj refused).1.symm
  · split at refused
    next registry text' update =>
      obtain rfl := Manager.registryUpdate_error update
      exact (Prod.mk.inj refused).1.symm
    · cases (Prod.mk.inj refused).2

end Answer

/-- Each assigned stream is the one of its consumer's residue, and the residues of the holders differ. -/
structure Sound (settings : Config) (system : System) : Prop where
  config : system.supervisor.config = settings
  named : ∀ side id, system.assigned side id ≠ 0 →
    (system.assigned side id).toNat = (side.policy settings).baseId + (id % (side.policy settings).range).toNat
  apart : ∀ side, ∀ left ∈ system.registered, ∀ right ∈ system.registered, left ≠ right →
    system.assigned side left ≠ 0 → system.assigned side right ≠ 0 →
      left % (side.policy settings).range ≠ right % (side.policy settings).range

namespace Sound

variable {settings : Config} {system : System}

theorem start (nowNs : UInt64) : Sound settings (System.start settings nowNs) where
  config := rfl
  named := fun _ _ some => absurd rfl some
  apart := fun _ _ _ _ _ _ some => absurd rfl some

/-- With the same log and no new consumer the state stays sound. -/
theorem shrink (sound : Sound settings system) {supervisor : Supervisor}
    (config : supervisor.config = system.supervisor.config)
    (known : ∀ entry ∈ supervisor.registry, entry.inUse = true →
      ∃ old ∈ system.supervisor.registry, old.inUse = true ∧ old.consumerId = entry.consumerId) :
    Sound settings { system with supervisor := supervisor } where
  config := config.trans sound.config
  named := sound.named
  apart := by
    have inside : ∀ id ∈ ({ system with supervisor := supervisor } : System).registered, id ∈ system.registered := by
      intro id member
      obtain ⟨entry, used, own⟩ := List.mem_map.mp member
      obtain ⟨old, place, inUse, same⟩ := known entry (List.mem_filter.mp used).1 (List.mem_filter.mp used).2
      exact List.mem_map.mpr ⟨old, List.mem_filter.mpr ⟨place, inUse⟩, same.trans own⟩
    intro side left first right second
    exact sound.apart side left (inside left first) right (inside right second)

/-- The private streams of a sound state differ and lie in the range. -/
theorem isPrivate (sound : Sound settings system) (ranged : ∀ side : Side, (side.policy settings).range ≠ 0) :
    system.Private where
  apart := by
    intro side left first right second different some same
    have some' : system.assigned side right ≠ 0 := same ▸ some
    have place := sound.named side left some
    rw [same, sound.named side right some'] at place
    exact sound.apart side left first right second different some some'
      (UInt32.toNat_inj.mp (Nat.add_left_cancel place).symm)
  inRange := by
    intro side id _ some
    have below : (id % (side.policy settings).range).toNat < (side.policy settings).range.toNat := by
      rw [UInt32.toNat_mod]
      exact Nat.mod_lt _ (Nat.pos_of_ne_zero fun zero => ranged side (UInt32.toNat_inj.mp zero))
    rw [sound.config, sound.named side id some]
    omega

end Sound

/-- An answer is the last one for its own consumer only. -/
theorem assigned_cons (side : Side) (supervisor : Supervisor) (log : List ConsumerConfig) (answer : ConsumerConfig)
    (id : UInt32) : System.assigned ⟨supervisor, answer :: log⟩ side id =
      if answer.consumerId = id then side.streamId answer else System.assigned ⟨supervisor, log⟩ side id := by
  rw [System.assigned, List.find?_cons]
  by_cases own : answer.consumerId = id
  · rw [if_pos own, beq_iff_eq.mpr own]
    rfl
  · rw [if_neg own, beq_eq_false_iff_ne.mpr own]
    rfl

/-- A side that is requested is free. -/
theorem free_requested {system : System} {hello : ConsumerHello} {nowNs : UInt64} {request : Request}
    (free : system.free (.hello hello nowNs) = true) (valid : Manager.requestValidate hello = .ok request)
    {side : Side} (requested : side.requested request = true) : system.freeOn hello.consumerId side = true := by
  rw [System.free, valid] at free
  simp only [Bool.and_eq_true, Bool.or_eq_true, Bool.not_eq_true'] at free
  cases side with
  | descriptor => exact free.1.resolve_left (by rw [show request.descriptorRequested = true from requested]; decide)
  | control => exact free.2.resolve_left (by rw [show request.controlRequested = true from requested]; decide)

section Step

variable {settings : Config} {system : System} {hello : ConsumerHello} {nowNs : UInt64}

/-- A registered consumer with another id and a stream of its own has another residue than a free hello. -/
theorem residue_ne (sound : Sound settings system) {side : Side} (free : system.freeOn hello.consumerId side = true)
    {other : UInt32} (member : other ∈ system.registered) (different : other ≠ hello.consumerId)
    (some : system.assigned side other ≠ 0) :
    other % (side.policy settings).range ≠ hello.consumerId % (side.policy settings).range := by
  rw [System.freeOn, sound.config] at free
  simp only [Bool.and_eq_true, List.all_eq_true, bne_iff_ne, ne_eq] at free
  apply free.1 other
  rw [System.holders, List.mem_filter]
  simp only [Bool.and_eq_true, bne_iff_ne]
  exact ⟨member, different, some⟩

/-- A free hello keeps the state sound. -/
theorem Sound.greet (sound : Sound settings system) (perConsumer : settings.PerConsumer)
    (free : system.free (.hello hello nowNs) = true) : Sound settings (system.step (.hello hello nowNs)) := by
  rw [System.step]
  split
  next after answer answered =>
    obtain ⟨config, own, known, streams⟩ := handleHello_ok answered
    rw [sound.config] at streams
    obtain ⟨request, valid, told⟩ := streams perConsumer
    have open' {side : Side} (some : side.streamId answer ≠ 0) : system.freeOn hello.consumerId side = true :=
      free_requested free valid ((told side).resolve_left some).1
    have former {id : UInt32} (member : id ∈ System.registered ⟨after, answer :: system.log⟩)
        (other : id ≠ hello.consumerId) : id ∈ system.registered := by
      obtain ⟨entry, used, same⟩ := List.mem_map.mp member
      obtain new | ⟨old, place, inUse, alike⟩ := known entry (List.mem_filter.mp used).1 (List.mem_filter.mp used).2
      · exact absurd (same.symm.trans new) other
      · exact List.mem_map.mpr ⟨old, List.mem_filter.mpr ⟨place, inUse⟩, alike.trans same⟩
    refine ⟨config.trans sound.config, fun side id some => ?_, fun side left first right second different => ?_⟩
    · rw [assigned_cons, own] at some ⊢
      split at some
      next here =>
        subst here
        rw [if_pos rfl, ((told side).resolve_left some).2, UInt32.toNat_add]
        have room := open' some
        rw [System.freeOn, sound.config] at room
        simp only [Bool.and_eq_true, decide_eq_true_eq] at room
        exact Nat.mod_eq_of_lt room.2
      next there =>
        rw [if_neg there]
        exact sound.named side id some
    · rw [assigned_cons, assigned_cons, own]
      intro some some'
      by_cases atLeft : hello.consumerId = left
      · have atRight : hello.consumerId ≠ right := fun same => different (atLeft.symm.trans same)
        rw [if_pos atLeft] at some
        rw [if_neg atRight] at some'
        rw [← atLeft]
        exact (residue_ne sound (open' some) (former second atRight.symm) atRight.symm some').symm
      · rw [if_neg atLeft] at some
        split at some'
        next atRight =>
          rw [← atRight]
          exact residue_ne sound (open' some') (former first (Ne.symm atLeft)) (Ne.symm atLeft) some
        next atRight =>
          exact sound.apart side left (former first (Ne.symm atLeft)) right (former second (Ne.symm atRight))
            different some some'
  next after text refused =>
    rw [handleHello_error refused]
    exact sound

theorem sweep_config (supervisor : Supervisor) (nowNs : UInt64) :
    (sweep supervisor nowNs).config = supervisor.config := by
  simp only [sweep, apply_ite Supervisor.config, ite_self]

/-- Each free step keeps the state sound. -/
theorem Sound.step (sound : Sound settings system) (perConsumer : settings.PerConsumer) {action : Action}
    (free : system.free action = true) : Sound settings (system.step action) := by
  cases action with
  | hello hello nowNs => exact sound.greet perConsumer free
  | qos consumerId nowNs =>
      apply sound.shrink
      · unfold onQosConsumer
        split <;> rfl
      · intro entry member inUse
        unfold onQosConsumer at member
        split at member
        · exact ⟨entry, member, inUse, rfl⟩
        next index found =>
          obtain ⟨old, here, used, same⟩ := Manager.registryFind_some found
          dsimp only at member
          rw [List.modify_eq_set_getElem?, here] at member
          obtain before | new := List.mem_or_eq_of_mem_set member
          · exact ⟨entry, before, inUse, rfl⟩
          · refine ⟨old, List.mem_of_getElem? here, used, ?_⟩
            rw [new]
  | sweep nowNs =>
      apply sound.shrink
      · exact sweep_config system.supervisor nowNs
      · intro entry member inUse
        unfold sweep at member
        dsimp only at member
        split at member
        · obtain ⟨old, place, swept⟩ := List.mem_map.mp member
          unfold Entry.sweep at swept
          split at swept
          · rw [← swept] at inUse
            cases inUse
          · exact ⟨entry, swept ▸ place, inUse, rfl⟩
        · exact ⟨entry, member, inUse, rfl⟩

/-- A free hello is declined when no id is free. -/
theorem Sound.declines (sound : Sound settings system) (perConsumer : settings.PerConsumer)
    (free : system.free (.hello hello nowNs) = true) : system.Declines hello nowNs := by
  intro side after answer exhausted answered
  obtain ⟨-, -, -, streams⟩ := handleHello_ok answered
  rw [sound.config] at streams
  obtain ⟨request, valid, told⟩ := streams perConsumer
  obtain none | ⟨wanted, -⟩ := told side
  · exact none
  · exfalso
    have room := free_requested free valid wanted
    let own := (side.policy settings).base.toUInt32 + hello.consumerId % (side.policy settings).range
    have place : own.toNat =
        (side.policy settings).baseId + (hello.consumerId % (side.policy settings).range).toNat := by
      have fits := room
      rw [System.freeOn, sound.config] at fits
      simp only [Bool.and_eq_true, decide_eq_true_eq] at fits
      exact (UInt32.toNat_add _ _).trans (Nat.mod_eq_of_lt fits.2)
    have below : (hello.consumerId % (side.policy settings).range).toNat < (side.policy settings).range.toNat := by
      rw [UInt32.toNat_mod]
      exact Nat.mod_lt _ (Nat.pos_of_ne_zero fun zero => perConsumer.ranged side (UInt32.toNat_inj.mp zero))
    have taken := exhausted own
    rw [sound.config, place] at taken
    obtain ⟨other, member, same⟩ := taken (Nat.le_add_right ..) (by omega)
    rw [System.holders, List.mem_filter] at member
    simp only [Bool.and_eq_true, bne_iff_ne] at member
    obtain ⟨listed, different, some⟩ := member
    have residue := residue_ne sound room listed different some
    have named := sound.named side other some
    rw [same, place] at named
    exact residue (UInt32.toNat_inj.mp (Nat.add_left_cancel named).symm)

end Step

/-- In a run of free hellos the registered consumers have private streams, and a request is declined when no id
is free. -/
theorem private_streams {settings : Config} {nowNs : UInt64} {actions : List Action} {system : System}
    (perConsumer : settings.PerConsumer) (ran : (System.start settings nowNs).runFree actions = some system) :
    system.Private ∧ ∀ hello nowNs, system.free (.hello hello nowNs) = true → system.Declines hello nowNs := by
  have sound : Sound settings system := by
    apply GuardedRun.keeps _ ran (Sound.start nowNs)
    intro before action after sound free stepped
    cases stepped
    exact sound.step perConsumer free
  exact ⟨sound.isPrivate perConsumer.ranged, fun hello nowNs free => sound.declines perConsumer free⟩

/-- These are settings like those of the usage guide, with a range of its size. -/
def guideConfig : Config where
  consumerCapacity := 128
  consumerStaleMs := 5000
  perConsumerEnabled := true
  descriptor := ⟨[97], 31000, 100⟩
  control := ⟨[97], 32000, 100⟩

theorem guideConfig_perConsumer : guideConfig.PerConsumer where
  enabled := rfl
  based := by
    intro side
    cases side <;> decide
  ranged := by
    intro side
    cases side <;> decide

def requestOf (consumerId : UInt32) : ConsumerHello :=
  ⟨10000, consumerId, 1, 1, 1, 0, 250, 65536, 0, 1100, 1000, [97], [97]⟩

/-- Two consumers greet the supervisor. -/
def greeted (first second : UInt32) : System :=
  ((System.start guideConfig 0).step (.hello (requestOf first) 1)).step (.hello (requestOf second) 2)

theorem private_streams_guide : (greeted 1 2).Private ∧
    ∀ hello nowNs, (greeted 1 2).free (.hello hello nowNs) = true → (greeted 1 2).Declines hello nowNs :=
  @private_streams guideConfig 0 [.hello (requestOf 1) 1, .hello (requestOf 2) 2] (greeted 1 2)
    guideConfig_perConsumer (by decide +kernel)

/-- The consumers 1 and 101 share both of their streams. -/
theorem streams_shared : guideConfig.PerConsumer ∧ ¬ (greeted 1 101).Private := by
  refine ⟨guideConfig_perConsumer, fun found => ?_⟩
  exact found.apart .descriptor 1 (by decide +kernel) 101 (by decide +kernel) (by decide) (by decide +kernel)
    (by decide +kernel)

end TensorPool.Supervision
