/-
This file gives the readiness of a latest-value join by what was observed.
-/

import TensorPool.Join.Repeated

namespace TensorPool.Join

open TensorPool.Merge

/-- A sequence map has no clock domain. -/
def AppliedMap.clockDomain : AppliedMap → UInt8
  | .sequence _ => 0
  | .timestamp map => map.clockDomain

/-- An observation under the ordering since the map and the last invalidation is all that an input needs. -/
def ReadyByObservation (ordering : LatestOrdering) (map : AppliedMap) (log : Log) (stale : UInt32 → Prop) : Prop :=
  map.inputs ≠ [] ∧ ∀ input ∈ map.inputs, ¬stale input.1 → Renewed ordering log input.1

/-- An input also needs a first sequence of the epoch, a time where the map has a clock domain, a declared source
where the times are ordered, and an output time where its own time is not zero. -/
structure LatestReady (ordering : LatestOrdering) (map : AppliedMap) (log : Log) (outTimeNs : UInt64)
    (input : UInt32 × TimestampSource) : Prop where
  renewed : Renewed ordering log input.1
  threshold : log.observedSeqs input.1 ≠ []
  timed : map.clockDomain ≠ 0 → log.observedTimes input.1 ≠ []
  sourced : ordering = .timestamp → input.2 ≠ 0
  clocked : ∀ time ∈ (log.observedTimes input.1).getLast?, 0 < time → outTimeNs ≠ 0

/-- The observations under the ordering were all invalidated, and one of the other kind was accepted since. -/
def Revived (ordering : LatestOrdering) (log : Log) (streamId : UInt32) : Prop :=
  ordering.values log streamId ≠ [] ∧ ¬Renewed ordering log streamId ∧ log.Valid streamId

theorem Renewed.valid {ordering : LatestOrdering} {log : Log} {streamId : UInt32}
    (renewed : Renewed ordering log streamId) : log.Valid streamId := by
  cases ordering with
  | sequence => exact Or.inl renewed
  | timestamp => exact Or.inr renewed

/-- The cursors of an input that was not revived are enough exactly when the input has what it needs. -/
theorem latestReached_iff {barrier : JoinBarrier} {map : AppliedMap} {log : Log} {outTimeNs : UInt64}
    {clockDomain : UInt8} {input : UInt32 × TimestampSource} (domain : barrier.clockDomain = map.clockDomain)
    (asked : map.clockDomain ≠ 0 → clockDomain = map.clockDomain)
    (unmixed : ¬Revived barrier.latestOrdering log input.1) :
    LatestReached barrier log outTimeNs clockDomain input ↔
      LatestReady barrier.latestOrdering map log outTimeNs input := by
  constructor
  · intro reached
    constructor
    · by_contra missing
      exact unmixed ⟨reached.observed, missing, reached.valid⟩
    · exact reached.threshold
    · exact fun declared => reached.timed (domain ▸ declared)
    · exact reached.sourced
    · exact reached.clocked
  · intro ready
    exact ⟨ready.renewed.observed, ready.renewed.valid, ready.threshold,
      fun declared => ready.timed (domain ▸ declared),
        fun declared => (asked (domain ▸ declared)).trans domain.symm, ready.sourced, ready.clocked⟩

/-- A latest-value join is ready exactly when each input that is not stale has what it needs. -/
theorem latest_ready_iff {ruleCapacity : Nat} {calls : List Call} {barrier : JoinBarrier} {log : Log}
    {map : AppliedMap} (outSeq : UInt64) {outTimeNs : UInt64} {clockDomain : UInt8} (nowNs : UInt64)
    (past : history .latestValue ruleCapacity calls = (barrier, log)) (applied : log.applied = some map)
    (distinct : map.Distinct) (declared : barrier.latestOrdering = .timestamp → map.clockDomain ≠ 0)
    (asked : map.clockDomain ≠ 0 → clockDomain = map.clockDomain)
    (rising : ∀ earlier ∈ log.outTimes, earlier ≤ outTimeNs)
    (unmixed : ∀ input ∈ map.inputs, ¬StreamStale barrier nowNs input.1 →
      ¬Revived barrier.latestOrdering log input.1) :
    (isReadyLatest barrier outSeq outTimeNs clockDomain nowNs).1 = .ok true ↔
      map.inputs ≠ [] ∧ ∀ input ∈ map.inputs, ¬StreamStale barrier nowNs input.1 →
        LatestReady barrier.latestOrdering map log outTimeNs input := by
  have mirrors := history_mirrors .latestValue ruleCapacity calls
  have type := history_type .latestValue ruleCapacity calls
  rw [past] at mirrors type
  have tracked := mirrors.tracked map applied distinct
  have ids : barrier.state.map InputState.streamId = map.streamIds := tracked_ids tracked
  have once : (barrier.state.map InputState.streamId).Nodup := ids ▸ distinct
  have domain : barrier.clockDomain = map.clockDomain := by
    have carries := mirrors.carries
    rw [applied] at carries
    cases map with
    | sequence map => exact carries.2.2
    | timestamp map => exact carries.2.2.1
  have count : barrier.ruleCount = map.inputs.length := tracked.length_eq.symm
  by_cases named : map.inputs = []
  · apply iff_of_false _ (fun both => both.1 named)
    have none : barrier.ruleCount = 0 := by
      rw [count, named, List.length_nil]
    rw [isReadyLatest, if_neg (not_not.mpr type), if_pos none]
    intro same
    cases same
  · have some : barrier.ruleCount ≠ 0 := by
      rw [count]
      exact fun none => named (List.length_eq_zero_iff.mp none)
    rw [isReadyLatest_iff type some, and_iff_right named, and_iff_right]
    · apply forall_right_iff tracked
      intro input inside state member tracks
      rw [latestInputReady_tracked tracks, ← Bool.not_eq_true, ← streamStale_iff once member, tracks.stream]
      apply imp_congr_right
      intro current
      exact latestReached_iff domain asked (unmixed input inside current)
    · constructor
      · intro both
        exact declared both.1 (domain.symm.trans both.2)
      · intro both
        exact absurd both.2.2 (UInt64.not_lt.mpr (rising _ (mirrors.lastOut both.2.1)))

def orderedMap : TimestampMergeMap where
  outStreamId := 50
  epoch := 1
  staleTimeoutNs := nullU64
  clockDomain := clockDomainMonotonic
  latenessNs := 0
  rules := [⟨6, .offset, .frameDescriptor, 0, 0⟩]

def timeCalls : List Call :=
  [.setLatestOrdering .timestamp, .applyLatestValueTimestampMap (some orderedMap),
    .updateObservedTime 6 100 .frameDescriptor clockDomainMonotonic 1]

/-- The first input was invalidated and got a new time, and the second one has a sequence only. -/
def pairedMap : TimestampMergeMap :=
  { orderedMap with rules := [⟨6, .offset, .frameDescriptor, 0, 0⟩, ⟨7, .offset, .frameDescriptor, 0, 0⟩] }

def pairedCalls : List Call :=
  [.setLatestOrdering .timestamp, .applyLatestValueTimestampMap (some pairedMap),
    .updateObservedTime 6 100 .frameDescriptor clockDomainMonotonic 1, .updateObservedSeq 6 1 2, .invalidateLatest 6,
    .updateObservedTime 6 120 .frameDescriptor clockDomainMonotonic 3, .updateObservedSeq 7 1 4]

theorem latest_ready_paired :
    (isReadyLatest (history .latestValue 2 pairedCalls).1 0 100 clockDomainMonotonic 5).1 = .ok true ↔
      (AppliedMap.timestamp pairedMap).inputs ≠ [] ∧
        ∀ input ∈ (AppliedMap.timestamp pairedMap).inputs,
          ¬StreamStale (history .latestValue 2 pairedCalls).1 5 input.1 →
            LatestReady (history .latestValue 2 pairedCalls).1.latestOrdering (.timestamp pairedMap)
              (history .latestValue 2 pairedCalls).2 100 input := by
  apply @latest_ready_iff 2 pairedCalls _ _ (.timestamp pairedMap) 0 100 clockDomainMonotonic 5 rfl rfl (by decide)
    (by decide) (by decide) (fun _ absent => absurd absent List.not_mem_nil)
  refine List.forall_mem_cons.mpr ⟨fun _ revived => ?_, List.forall_mem_singleton.mpr fun _ revived => ?_⟩
  · exact revived.2.1 (List.cons_ne_nil 120 [])
  · exact revived.1 rfl

/-- The input has a time under the timestamp ordering, and the join waits for a sequence. -/
theorem time_alone_waits :
    ReadyByObservation (history .latestValue 1 timeCalls).1.latestOrdering (.timestamp orderedMap)
        (history .latestValue 1 timeCalls).2 (StreamStale (history .latestValue 1 timeCalls).1 2) ∧
      (isReadyLatest (history .latestValue 1 timeCalls).1 0 100 clockDomainMonotonic 2).1 = .ok false := by
  constructor
  · constructor
    · decide
    · have renewed : Renewed (history .latestValue 1 timeCalls).1.latestOrdering
        (history .latestValue 1 timeCalls).2 6 :=
        List.cons_ne_nil 100 []
      exact List.forall_mem_singleton.mpr fun _ => renewed
  · rfl

end TensorPool.Join
