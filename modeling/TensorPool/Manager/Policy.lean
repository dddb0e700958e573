/-
This file shows that the progress policy is the most aggressive one offered, and when a lower one publishes no less.
-/

import Mathlib.Order.Bounds.Basic
import TensorPool.Manager.Agreement

namespace TensorPool.Manager

/-- What a producer published last of a frame. -/
structure ProgressTracker where
  lastTimestampNs : UInt64
  lastBytes : UInt64
  deriving DecidableEq, Repr

/-- The interval has passed; an interval of 0 never passes. -/
def ProgressPolicy.intervalPassed (policy : ProgressPolicy) (state : ProgressTracker) (nowNs : UInt64) : Bool :=
  let intervalNs := policy.intervalUs.toUInt64 * 1000
  0 < intervalNs && intervalNs ≤ nowNs - state.lastTimestampNs

/-- The frame has grown by the delta; a delta of 0 is never met. -/
def deltaMet (delta : UInt32) (state : ProgressTracker) (payloadBytesFilled : UInt64) : Bool :=
  0 < delta && state.lastBytes + delta.toUInt64 ≤ payloadBytesFilled

/-- This is `tp_consumer_manager_should_publish_progress` with the tracker that it leaves. -/
def shouldPublishProgress (manager : ConsumerManager) (state : ProgressTracker) (nowNs payloadBytesFilled : UInt64) :
    ProgressTracker × Bool :=
  let shouldPublish :=
    if state.lastTimestampNs = 0 then true
    else if manager.progressPolicy.intervalPassed state nowNs then true
    else if deltaMet manager.progressPolicy.bytesDelta state payloadBytesFilled then true
    else deltaMet manager.progressPolicy.majorDeltaUnits state payloadBytesFilled
  (if shouldPublish then ⟨nowNs, payloadBytesFilled⟩ else state, shouldPublish)

/-- The hints of the consumers that follow the progress, without the null ones. -/
def Offered (registry : Registry) (hint : Entry → UInt32) : Set UInt32 :=
  { value | value ≠ nullU32 ∧
    ∃ entry ∈ registry, entry.inUse = true ∧ entry.supportsProgress ≠ 0 ∧ hint entry = value }

/-- A field is the smallest hint, or the default where there is none. -/
def Aggressive (registry : Registry) (hint : Entry → UInt32) (standard field : UInt32) : Prop :=
  IsLeast (Offered registry hint) field ∨ Offered registry hint = ∅ ∧ field = standard

structure MostAggressive (registry : Registry) (policy : ProgressPolicy) : Prop where
  intervalUs : Aggressive registry Entry.progressIntervalUs progressIntervalDefaultUs policy.intervalUs
  bytesDelta : Aggressive registry Entry.progressBytesDelta progressBytesDeltaDefault policy.bytesDelta
  majorDeltaUnits : Aggressive registry Entry.progressMajorDeltaUnits 0 policy.majorDeltaUnits

/-- Each field of a lower policy is at most the same field of the other one. -/
structure ProgressPolicy.Lower (lower policy : ProgressPolicy) : Prop where
  intervalUs : lower.intervalUs ≤ policy.intervalUs
  bytesDelta : lower.bytesDelta ≤ policy.bytesDelta
  majorDeltaUnits : lower.majorDeltaUnits ≤ policy.majorDeltaUnits

/-- The counts of bytes that the deltas ask for, as the machine adds them. -/
def ProgressPolicy.enough (policy : ProgressPolicy) (state : ProgressTracker) : List UInt64 :=
  ([policy.bytesDelta, policy.majorDeltaUnits].filter (0 < ·)).map fun delta => state.lastBytes + delta.toUInt64

/-- A lower policy keeps the triggers: the interval is not lost to 0, and the deltas ask for no more bytes. -/
def ProgressPolicy.Keeps (lower policy : ProgressPolicy) (state : ProgressTracker) : Prop :=
  state.lastTimestampNs = 0 ∨
    (policy.intervalUs ≠ 0 → lower.intervalUs ≠ 0 ∨ 0 ∈ lower.enough state) ∧
      ∀ bytes ∈ policy.enough state, ∃ fewer ∈ lower.enough state, fewer ≤ bytes

section Aggregate

variable {registry : Registry} {hint : Entry → UInt32} {standard : UInt32}

/-- The smallest value that is not null of a list. -/
theorem lowest_least (values : List UInt32) :
    match values.foldl lowest none with
    | none => ∀ value ∈ values, value = nullU32
    | some least => IsLeast { value | value ≠ nullU32 ∧ value ∈ values } least := by
  induction values using List.reverseRecOn with
  | nil =>
      intro value present
      cases present
  | append_singleton values value hypothesis =>
      rw [List.foldl_append, List.foldl_cons, List.foldl_nil, lowest.eq_def]
      by_cases null : value = nullU32
      · rw [if_pos (beq_iff_eq.mpr null)]
        cases found : values.foldl lowest none with
        | none =>
            rw [found] at hypothesis
            intro other present
            cases List.mem_append.mp present with
            | inl old => exact hypothesis other old
            | inr new => exact (List.mem_singleton.mp new).trans null
        | some least =>
            rw [found] at hypothesis
            constructor
            · exact ⟨hypothesis.1.1, List.mem_append_left _ hypothesis.1.2⟩
            · intro other present
              obtain ⟨some, present⟩ := present
              cases List.mem_append.mp present with
              | inl old => exact hypothesis.2 ⟨some, old⟩
              | inr new => exact absurd ((List.mem_singleton.mp new).trans null) some
      · rw [if_neg (fun same => null (beq_iff_eq.mp same))]
        cases found : values.foldl lowest none with
        | none =>
            rw [found] at hypothesis
            constructor
            · exact ⟨null, List.mem_append_right _ List.mem_cons_self⟩
            · intro other present
              obtain ⟨some, present⟩ := present
              cases List.mem_append.mp present with
              | inl old => exact absurd (hypothesis other old) some
              | inr new =>
                  rw [List.mem_singleton.mp new]
                  exact UInt32.le_refl _
        | some least =>
            rw [found] at hypothesis
            have bound : ∀ other ∈ values, other ≠ nullU32 → least ≤ other := by
              intro other old some
              exact hypothesis.2 ⟨some, old⟩
            constructor
            · change _ ≠ _ ∧ _ ∈ _
              split
              · exact ⟨null, List.mem_append_right _ List.mem_cons_self⟩
              · exact ⟨hypothesis.1.1, List.mem_append_left _ hypothesis.1.2⟩
            · intro other present
              obtain ⟨some, present⟩ := present
              cases List.mem_append.mp present with
              | inl old =>
                  have below := bound other old some
                  split <;> grind
              | inr new =>
                  rw [List.mem_singleton.mp new]
                  split <;> grind

/-- The fold over the offering consumers gives the smallest hint or the default. -/
theorem aggressive_lowest (registry : Registry) (hint : Entry → UInt32) (standard : UInt32) :
    Aggressive registry hint standard
      ((((registry.filter fun entry => entry.inUse && entry.supportsProgress != 0).map hint).foldl lowest none).getD
        standard) := by
  have offered : Offered registry hint = { value | value ≠ nullU32 ∧
      value ∈ (registry.filter fun entry => entry.inUse && entry.supportsProgress != 0).map hint } := by
    ext value
    simp only [Offered, Set.mem_ofPred_eq, List.mem_map, List.mem_filter, Bool.and_eq_true, bne_iff_ne]
    grind
  have least := lowest_least ((registry.filter fun entry => entry.inUse && entry.supportsProgress != 0).map hint)
  rw [Aggressive, offered]
  cases found : ((registry.filter fun entry => entry.inUse &&
    entry.supportsProgress != 0).map hint).foldl lowest none with
  | none =>
      rw [found] at least
      apply Or.inr
      apply And.intro _ rfl
      ext value
      constructor
      · intro present
        exact absurd (least value present.2) present.1
      · intro none
        cases none
  | some value =>
      rw [found] at least
      exact .inl least

theorem aggregate_aggressive (registry : Registry) : MostAggressive registry (aggregateProgress registry) where
  intervalUs := aggressive_lowest registry Entry.progressIntervalUs progressIntervalDefaultUs
  bytesDelta := aggressive_lowest registry Entry.progressBytesDelta progressBytesDeltaDefault
  majorDeltaUnits := aggressive_lowest registry Entry.progressMajorDeltaUnits 0

/-- An entry without the time at which the consumer was seen. -/
def Entry.timeless (entry : Entry) : Entry := { entry with lastSeenNs := 0 }

/-- The policy does not depend on the times. -/
theorem aggregate_timeless (registry : Registry) :
    aggregateProgress (registry.map Entry.timeless) = aggregateProgress registry := by
  simp only [aggregateProgress, List.filter_map, List.map_map]
  rfl

theorem touch_timeless (registry : Registry) (index : Nat) (nowNs : UInt64) :
    (registry.modify index fun entry => { entry with lastSeenNs := nowNs }).map Entry.timeless =
      registry.map Entry.timeless := by
  apply List.ext_getElem?
  intro i
  rw [List.getElem?_map, List.getElem?_map, List.getElem?_modify]
  cases registry[i]? with
  | none => rfl
  | some entry =>
      dsimp only [Option.map_some]
      split <;> rfl

/-- The policy is always the aggregate of the registry. -/
def Refreshed (manager : ConsumerManager) : Prop := manager.progressPolicy = aggregateProgress manager.registry

theorem refreshed_init (capacity : Nat) : Refreshed (managerInit capacity) := by
  have none : (registryInit capacity).filter (fun entry => entry.inUse && entry.supportsProgress != 0) = [] := by
    rw [registryInit, List.filter_replicate]
    rfl
  change _ = aggregateProgress (registryInit capacity)
  rw [aggregateProgress, none]
  rfl

theorem Refreshed.touch {manager : ConsumerManager} (refreshed : Refreshed manager) (consumerId : UInt32)
    (nowNs : UInt64) : Refreshed (Manager.touch manager consumerId nowNs) := by
  unfold Manager.touch
  split
  · exact refreshed
  · change manager.progressPolicy = aggregateProgress (List.modify _ _ _)
    rw [refreshed, ← aggregate_timeless (List.modify _ _ _), touch_timeless, aggregate_timeless]

theorem refreshed_hello {manager after : ConsumerManager} {hello : ConsumerHello} {outside : Outside}
    {config : ConsumerConfig} (answered : handleHello manager hello outside = (after, .ok config)) :
      Refreshed after := by
  unfold handleHello at answered
  split at answered
  · cases answered
  · split at answered
    · cases answered
    · cases answered
      rfl

theorem Refreshed.step {system : System} (refreshed : Refreshed system.manager) (action : Action) :
    Refreshed (system.step action).manager := by
  cases action with
  | hello hello outside =>
      rw [System.step]
      split
      next after config answered => exact refreshed_hello answered
      next after text refused =>
        obtain rfl := handleHello_error refused
        exact refreshed
  | touch consumerId nowNs => exact refreshed.touch consumerId nowNs
  | sweep nowNs staleNs => rfl

theorem refreshed_run (capacity : Nat) (actions : List Action) :
    Refreshed (System.run ⟨managerInit capacity, []⟩ actions).manager := by
  induction actions using List.reverseRecOn with
  | nil => exact refreshed_init capacity
  | append_singleton actions action hypothesis =>
      rw [System.run_snoc]
      exact hypothesis.step action

end Aggregate

section Decision

variable {policy lower : ProgressPolicy} {manager : ConsumerManager} {state : ProgressTracker}
  {nowNs payloadBytesFilled : UInt64}

/-- A frame has enough bytes when it meets one of the deltas. -/
theorem enough_iff :
    (∃ bytes ∈ policy.enough state, bytes ≤ payloadBytesFilled) ↔
      deltaMet policy.bytesDelta state payloadBytesFilled = true ∨
        deltaMet policy.majorDeltaUnits state payloadBytesFilled = true := by
  unfold ProgressPolicy.enough deltaMet
  by_cases bytes : 0 < policy.bytesDelta <;> by_cases major : 0 < policy.majorDeltaUnits <;>
    simp [bytes, major]

/-- A frame is published first, after the interval, or when it has enough bytes. -/
theorem shouldPublish_iff :
    (shouldPublishProgress manager state nowNs payloadBytesFilled).2 = true ↔
      state.lastTimestampNs = 0 ∨ manager.progressPolicy.intervalPassed state nowNs = true ∨
        ∃ bytes ∈ manager.progressPolicy.enough state, bytes ≤ payloadBytesFilled := by
  rw [enough_iff, shouldPublishProgress]
  dsimp only
  split
  next first => simp [first]
  next later =>
    split
    next passed => simp [passed]
    next early =>
      split
      next met => simp [met]
      next unmet => simp [later, early, unmet]

/-- The interval of a policy can pass, and it passes at no time but for that. -/
theorem intervalPassed_iff :
    policy.intervalPassed state nowNs = true ↔
      policy.intervalUs ≠ 0 ∧ policy.intervalUs.toNat * 1000 ≤ (nowNs - state.lastTimestampNs).toNat := by
  have bound := policy.intervalUs.toNat_lt
  rw [ProgressPolicy.intervalPassed, Bool.and_eq_true, decide_eq_true_iff, decide_eq_true_iff, UInt64.lt_iff_toNat_lt,
    UInt64.le_iff_toNat_le, ne_eq, ← UInt32.toNat_inj]
  have product : (policy.intervalUs.toUInt64 * 1000).toNat = policy.intervalUs.toNat * 1000 := by
    rw [UInt64.toNat_mul, UInt32.toNat_toUInt64]
    change _ * 1000 % 2 ^ 64 = _
    omega
  rw [product]
  change 0 < _ ∧ _ ↔ ¬_ = 0 ∧ _
  omega

/-- The triggers of a policy that a lower one has to keep are independent, the clock being free. -/
theorem keeps_iff (lowered : lower.Lower policy) :
    (∀ nowNs payloadBytesFilled,
      (state.lastTimestampNs = 0 ∨ policy.intervalPassed state nowNs = true ∨
        ∃ bytes ∈ policy.enough state, bytes ≤ payloadBytesFilled) →
      (state.lastTimestampNs = 0 ∨ lower.intervalPassed state nowNs = true ∨
        ∃ bytes ∈ lower.enough state, bytes ≤ payloadBytesFilled)) ↔ lower.Keeps policy state := by
  unfold ProgressPolicy.Keeps
  by_cases first : state.lastTimestampNs = 0
  · simp [first]
  simp only [first, false_or]
  constructor
  · intro kept
    constructor
    · intro timed
      have passed : policy.intervalPassed state (state.lastTimestampNs + 0xFFFFFFFFFFFFFFFF) = true := by
        have elapsed : state.lastTimestampNs + 0xFFFFFFFFFFFFFFFF - state.lastTimestampNs =
          0xFFFFFFFFFFFFFFFF := by grind
        rw [intervalPassed_iff, elapsed]
        have bound := policy.intervalUs.toNat_lt
        apply And.intro timed
        change _ ≤ 2 ^ 64 - 1
        omega
      cases kept _ 0 (.inl passed) with
      | inl still => exact .inl (intervalPassed_iff.mp still).1
      | inr met =>
          obtain ⟨bytes, asked, none⟩ := met
          obtain rfl := UInt64.le_zero_iff.mp none
          exact .inr asked
    · intro bytes asked
      have early : ∀ other : ProgressPolicy, ¬other.intervalPassed state state.lastTimestampNs = true := by
        intro other passed
        obtain ⟨timed, passed⟩ := intervalPassed_iff.mp passed
        rw [UInt64.sub_self] at passed
        apply timed
        rw [← UInt32.toNat_inj]
        change _ = 0
        change _ ≤ 0 at passed
        omega
      exact (kept state.lastTimestampNs bytes (.inr ⟨bytes, asked, UInt64.le_refl _⟩)).resolve_left (early lower)
  · intro keeps nowNs payloadBytesFilled published
    cases published with
    | inl passed =>
        obtain ⟨timed, elapsed⟩ := intervalPassed_iff.mp passed
        cases keeps.1 timed with
        | inl still =>
            apply Or.inl
            have least := UInt32.le_iff_toNat_le.mp lowered.intervalUs
            rw [intervalPassed_iff]
            exact ⟨still, Nat.le_trans (Nat.mul_le_mul_right 1000 least) elapsed⟩
        | inr asked =>
            apply Or.inr
            exists 0
            exact ⟨asked, UInt64.zero_le⟩
    | inr met =>
        obtain ⟨bytes, asked, enough⟩ := met
        obtain ⟨fewer, asked', below⟩ := keeps.2 bytes asked
        exact .inr ⟨fewer, asked', UInt64.le_trans below enough⟩

end Decision

/-- The policy is the most aggressive one in every history, and a lower one publishes as much exactly when it
keeps the triggers. -/
theorem policy_aggressive_iff (capacity : Nat) (actions : List Action) (manager : ConsumerManager)
    (reached : manager = (System.run ⟨managerInit capacity, []⟩ actions).manager) (lower : ProgressPolicy)
    (lowered : lower.Lower manager.progressPolicy) (state : ProgressTracker) :
    MostAggressive manager.registry manager.progressPolicy ∧
      ((∀ nowNs payloadBytesFilled, (shouldPublishProgress manager state nowNs payloadBytesFilled).2 = true →
          (shouldPublishProgress { manager with progressPolicy := lower } state nowNs payloadBytesFilled).2 = true) ↔
        lower.Keeps manager.progressPolicy state) := by
  constructor
  · have refreshed : Refreshed manager := reached ▸ refreshed_run capacity actions
    rw [refreshed]
    exact aggregate_aggressive manager.registry
  · simp only [shouldPublish_iff]
    exact keeps_iff lowered

def offeringHello (consumerId progressIntervalUs progressBytesDelta : UInt32) : ConsumerHello :=
  { plainHello [] 0 with
    consumerId, supportsProgress := 1, progressIntervalUs, progressBytesDelta, progressMajorDeltaUnits := nullU32 }

/-- Three consumers give hints, one of them is swept out, and one gives no interval. -/
def hintedManager : ConsumerManager :=
  (System.run ⟨managerInit 4, []⟩
    [.hello (offeringHello 1 250 65536) ⟨5, true, true⟩, .hello (offeringHello 2 200 70000) ⟨6, true, true⟩,
      .hello (offeringHello 3 100 1000) ⟨7, true, true⟩, .touch 1 90, .touch 2 95, .sweep 100 50,
      .hello (offeringHello 4 nullU32 40000) ⟨101, true, true⟩]).manager

/-- Half of the smallest interval and of the fewest bytes publish as much. -/
theorem policy_aggressive_hinted :
    hintedManager.progressPolicy = ⟨200, 40000, 0⟩ ∧
      MostAggressive hintedManager.registry hintedManager.progressPolicy ∧
        ∀ nowNs payloadBytesFilled,
          (shouldPublishProgress hintedManager ⟨1000, 100⟩ nowNs payloadBytesFilled).2 = true →
            (shouldPublishProgress { hintedManager with progressPolicy := ⟨100, 20000, 0⟩ } ⟨1000, 100⟩ nowNs
              payloadBytesFilled).2 = true := by
  have hinted : hintedManager.progressPolicy = ⟨200, 40000, 0⟩ := by decide +kernel
  have lowered : ProgressPolicy.Lower ⟨100, 20000, 0⟩ hintedManager.progressPolicy := by
    rw [hinted]
    exact ⟨by decide, by decide, by decide⟩
  have policy := policy_aggressive_iff 4 _ hintedManager rfl ⟨100, 20000, 0⟩ lowered ⟨1000, 100⟩
  refine ⟨hinted, policy.1, policy.2.mpr (Or.inr ?_)⟩
  rw [hinted]
  constructor
  · intro timed
    exact .inl (by decide)
  · intro bytes asked
    obtain rfl : bytes = 40100 := List.mem_singleton.mp asked
    exact ⟨20100, List.mem_singleton.mpr rfl, by decide⟩

/-- A second consumer asks for 0 and silences the progress of the first one. -/
theorem zero_silences :
    ∃ (one two : ConsumerManager) (state : ProgressTracker) (nowNs payloadBytesFilled : UInt64),
      one = (System.run ⟨managerInit 4, []⟩ [.hello (offeringHello 1 250 65536) ⟨5, true, true⟩]).manager ∧
      two = (System.run ⟨managerInit 4, []⟩ [.hello (offeringHello 1 250 65536) ⟨5, true, true⟩,
        .hello (offeringHello 2 0 0) ⟨6, true, true⟩]).manager ∧
      two.progressPolicy.Lower one.progressPolicy ∧
      (shouldPublishProgress one state nowNs payloadBytesFilled).2 = true ∧
      (shouldPublishProgress two state nowNs payloadBytesFilled).2 = false := by
  refine ⟨_, _, ⟨1000, 0⟩, 1000000000, 1000000000, rfl, rfl, ⟨?_, ?_, ?_⟩, ?_, ?_⟩ <;> decide +kernel

end TensorPool.Manager
