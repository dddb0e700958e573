/-
This file gives the readiness of one rule by the cursors of its input.
-/

import TensorPool.Join.Stale

namespace TensorPool.Join

open TensorPool.Merge

/-- The last value of the cursor reaches what is required once the lateness is added. -/
def CursorReached (lateness : UInt64) (values : List UInt64) (required : UInt64) : Prop :=
  ∃ last ∈ values.getLast?, required ≤ last + lateness

/-- The observed cursor reaches what is required, and so does the processed one where it is asked for. -/
def CursorsReached (requireProcessed : Bool) (lateness : UInt64) (observed processed : List UInt64)
    (required : Option UInt64) : Prop :=
  ∃ value ∈ required, CursorReached lateness observed value ∧
    (requireProcessed = true → CursorReached lateness processed value)

/-- A rule compares the cursors with this sequence in 64 bits, and a rule without one is never met. -/
def requiredSeq (rule : SequenceMergeRule) (outSeq : UInt64) : Option UInt64 :=
  match rule.ruleType with
  | .offset =>
    let sum := outSeq.toInt64 + rule.offset.toInt64
    if sum < 0 then none else some sum.toUInt64
  | .window => if rule.windowSize = 0 ∨ outSeq + 1 < rule.windowSize.toUInt64 then none else some outSeq
  | .unknown => none

/-- A rule compares the cursors with this time in 64 bits, and a rule without one is never met. -/
def requiredTime (rule : TimestampMergeRule) (lateness outTimeNs : UInt64) : Option UInt64 :=
  match rule.ruleType with
  | .offset =>
    let sum := outTimeNs.toInt64 + rule.offsetNs
    if sum < 0 then
      if outTimeNs < (if rule.offsetNs < 0 then lateness + (-rule.offsetNs).toUInt64 else lateness) then none
      else some 0
    else some sum.toUInt64
  | .window => if rule.windowNs = 0 ∨ outTimeNs < rule.windowNs then none else some outTimeNs
  | .unknown => none

/-- The age of the last accepted observation is above the timeout, in the unsigned numbers of 64 bits. -/
def InputSkipped (barrier : JoinBarrier) (log : Log) (nowNs : UInt64) (streamId : UInt32) : Prop :=
  barrier.allowStale = true ∧ barrier.staleTimeoutNs ≠ nullU64 ∧
    ∃ observed ∈ (log.observedAts streamId).getLast?,
      observed ≠ 0 ∧ barrier.staleTimeoutNs < nowNs - observed

/-- The cursors of the input are enough for a latest-value join. -/
structure LatestReached (barrier : JoinBarrier) (log : Log) (outTimeNs : UInt64) (clockDomain : UInt8)
    (input : UInt32 × TimestampSource) : Prop where
  observed : barrier.latestOrdering.values log input.1 ≠ []
  valid : log.Valid input.1
  threshold : log.observedSeqs input.1 ≠ []
  timed : barrier.clockDomain ≠ 0 → log.observedTimes input.1 ≠ []
  asked : barrier.clockDomain ≠ 0 → clockDomain = barrier.clockDomain
  sourced : barrier.latestOrdering = .timestamp → input.2 ≠ 0
  clocked : ∀ time ∈ (log.observedTimes input.1).getLast?, 0 < time → outTimeNs ≠ 0

section Input

variable {barrier : JoinBarrier} {log : Log} {state : InputState} {input : UInt32 × TimestampSource}
  {outTimeNs : UInt64} {clockDomain : UInt8}

/-- A reply that passes a check is the reply behind it. -/
theorem guard_iff {c : Prop} [Decidable c] {stop rest : Reply Bool} (other : stop ≠ .ok true) :
    (if c then stop else rest) = .ok true ↔ ¬c ∧ rest = .ok true := by
  by_cases stops : c
  · rw [if_pos stops]
    exact iff_of_false other fun both => both.1 stops
  · rw [if_neg stops, and_iff_right stops]

/-- The input passes the checks in the order of the code. -/
theorem latestInputReady_iff :
    latestInputReady barrier state outTimeNs clockDomain = .ok true ↔
      ¬(barrier.latestOrdering = .sequence ∧ !state.hasObservedSeq) ∧
      ¬(barrier.latestOrdering = .timestamp ∧ !state.hasObservedTime) ∧
      ¬(barrier.clockDomain ≠ 0 ∧ clockDomain ≠ barrier.clockDomain) ∧
      ¬(barrier.latestOrdering = .timestamp ∧ state.timestampSource = 0) ∧
      ¬(!state.latestValid) = true ∧
      ¬(!state.hasObservedSeq ∧ !state.hasObservedTime) ∧
      ¬(barrier.clockDomain ≠ 0 ∧ !state.hasObservedTime) ∧
      ¬(!state.hasMinSeqInEpoch) = true ∧
      ¬(state.hasObservedSeq ∧ state.observedSeq < state.minSeqInEpoch) ∧
      ¬(state.hasObservedTime ∧ 0 < state.observedTimeNs ∧ outTimeNs = 0) := by
  have waits : (Except.ok false : Reply Bool) ≠ .ok true := fun same => (by cases same)
  have fails : ∀ text, (Except.error text : Reply Bool) ≠ .ok true := fun _ same => (by cases same)
  rw [latestInputReady, guard_iff waits, guard_iff waits, guard_iff (fails _), guard_iff (fails _), guard_iff waits,
    guard_iff waits, guard_iff waits, guard_iff waits, guard_iff waits, guard_iff waits]
  simp only [and_true]

theorem Tracks.hasObservedSeq_iff (tracks : Tracks log input state) :
    state.hasObservedSeq = true ↔ log.observedSeqs input.1 ≠ [] := by
  rw [← tracks.observedSeq.isSome_iff, InputState.heldObservedSeq]
  cases state.hasObservedSeq <;> simp

theorem Tracks.hasObservedTime_iff (tracks : Tracks log input state) :
    state.hasObservedTime = true ↔ log.observedTimes input.1 ≠ [] := by
  rw [← tracks.observedTime.isSome_iff, InputState.heldObservedTime]
  cases state.hasObservedTime <;> simp

/-- The last observed time is the one that is held. -/
theorem Tracks.clocked_iff (tracks : Tracks log input state) :
    (∀ time ∈ (log.observedTimes input.1).getLast?, 0 < time → outTimeNs ≠ 0) ↔
      ¬(state.hasObservedTime ∧ 0 < state.observedTimeNs ∧ outTimeNs = 0) := by
  rw [tracks.observedTime.last, InputState.heldObservedTime]
  cases state.hasObservedTime <;> simp

/-- The checks of the code are those of the cursors. -/
theorem latestInputReady_tracked (tracks : Tracks log input state) :
    latestInputReady barrier state outTimeNs clockDomain = .ok true ↔
      LatestReached barrier log outTimeNs clockDomain input := by
  have above : ¬ state.observedSeq < state.minSeqInEpoch := UInt64.not_lt.mpr tracks.minBelow
  have seen := tracks.hasObservedSeq_iff
  have timed := tracks.hasObservedTime_iff
  have valid := tracks.valid
  have least := tracks.minSeq
  have clocked := @Tracks.clocked_iff log state input outTimeNs tracks
  rw [latestInputReady_iff]
  constructor
  · intro all
    obtain ⟨-, absent, asked, sourced, renewed, -, time, first, -, late⟩ := all
    rw [Bool.not_eq_true, Bool.not_eq_false'] at renewed first
    have sequenced : log.observedSeqs input.1 ≠ [] := seen.mp (least ▸ first)
    constructor
    · cases ordering : barrier.latestOrdering with
      | sequence => exact sequenced
      | timestamp =>
          apply timed.mp
          by_contra missing
          exact absent ⟨ordering, by simpa using missing⟩
    · exact valid.mp renewed
    · exact sequenced
    · intro declared
      rw [← timed]
      by_contra missing
      exact time ⟨declared, by simpa using missing⟩
    · intro declared
      by_contra other
      exact asked ⟨declared, other⟩
    · intro ordered none
      exact sourced ⟨ordered, tracks.source.trans none⟩
    · exact clocked.mpr late
  · intro ready
    have held := seen.mpr ready.threshold
    rw [least, held, valid.mpr ready.valid, tracks.source]
    refine ⟨by simp, ?_, fun both => both.2 (ready.asked both.1), fun both => ready.sourced both.1 both.2, by simp,
      by simp, ?_, by simp, fun both => above both.2, clocked.mp ready.clocked⟩
    · intro both
      have ordered := ready.observed
      rw [both.1] at ordered
      have some := timed.mpr ordered
      rw [some] at both
      exact absurd both.2 (by simp)
    · intro both
      rw [timed.mpr (ready.timed both.1)] at both
      exact absurd both.2 (by simp)

/-- An input is stale by the test of the code exactly when it is skipped by its dates. -/
theorem isStale_skipped {nowNs : UInt64} {streamId : UInt32}
    (dated : state.lastObservedUpdateNs = (log.observedAts streamId).getLast?.getD 0) :
    isStale barrier state nowNs = true ↔ InputSkipped barrier log nowNs streamId := by
  rw [isStale_iff, InputSkipped, dated]
  cases (log.observedAts streamId).getLast? with
  | none => simp
  | some last => simp

/-- The held sequences are compared with what is required. -/
theorem sequenceReached_cursors {requiredSeq : Int64} {value : UInt64} (same : requiredSeq.toUInt64 = value)
    (tracks : Tracks log input state) (has : state.hasObservedSeq = true) :
    sequenceReached barrier state requiredSeq = true ↔
      CursorReached 0 (log.observedSeqs input.1) value ∧
        (barrier.requireProcessed = true → CursorReached 0 (log.processedSeqs input.1) value) := by
  rw [CursorReached, CursorReached, tracks.observedSeq.last, tracks.processedSeq.last, InputState.heldObservedSeq,
    InputState.heldProcessedSeq, if_pos has, sequenceReached, same]
  simp only [Option.mem_some_iff, exists_eq_left', UInt64.add_zero, ← UInt64.not_lt]
  split
  next below => simp [below]
  next above =>
    cases barrier.requireProcessed <;> cases state.hasProcessedSeq <;> simp [above]

theorem sequenceReadyForRule_cursors {rule : SequenceMergeRule} {outSeq : UInt64}
    (tracks : Tracks log input state) :
    sequenceReadyForRule barrier state rule outSeq = .ok true ↔
      CursorsReached barrier.requireProcessed 0 (log.observedSeqs input.1) (log.processedSeqs input.1)
        (requiredSeq rule outSeq) := by
  rw [sequenceReadyForRule, CursorsReached, requiredSeq]
  cases has : state.hasObservedSeq with
  | false =>
      have none : log.observedSeqs input.1 = [] := by
        by_contra some
        exact absurd (tracks.hasObservedSeq_iff.mpr some) (by rw [has]; decide)
      simp [none, CursorReached]
  | true =>
      cases rule.ruleType with
      | offset =>
          simp only [Bool.not_true, Bool.false_eq_true, if_false]
          split
          · simp
          · simp only [Except.ok.injEq, Option.mem_some_iff, exists_eq_left']
            exact sequenceReached_cursors rfl tracks has
      | window =>
          simp only [Bool.not_true, Bool.false_eq_true, if_false]
          split
          next none => simp [none]
          next some =>
            split
            next soon => simp [soon]
            next late =>
              simp only [some, late, or_self, if_false, Except.ok.injEq, Option.mem_some_iff, exists_eq_left']
              exact sequenceReached_cursors outSeq.toUInt64_toInt64 tracks has
      | unknown => simp

/-- The held times are compared with what is required. -/
theorem timeReached_cursors {lateness : UInt64} {requiredTime : Int64} {value : UInt64}
    (same : requiredTime.toUInt64 = value) (tracks : Tracks log input state) (has : state.hasObservedTime = true) :
    timeReached barrier state lateness requiredTime = true ↔
      CursorReached lateness (log.observedTimes input.1) value ∧
        (barrier.requireProcessed = true → CursorReached lateness (log.processedTimes input.1) value) := by
  rw [CursorReached, CursorReached, tracks.observedTime.last, tracks.processedTime.last, InputState.heldObservedTime,
    InputState.heldProcessedTime, if_pos has, timeReached, same]
  simp only [Option.mem_some_iff, exists_eq_left', ← UInt64.not_lt]
  split
  next below => simp [below]
  next above =>
    cases barrier.requireProcessed <;> cases state.hasProcessedTime <;> simp [above]

/-- The lateness counts as zero when the map gives none. -/
def JoinBarrier.lateness (barrier : JoinBarrier) : UInt64 :=
  if barrier.latenessNs = nullU64 then 0 else barrier.latenessNs

theorem timestampReadyForRule_cursors {rule : TimestampMergeRule} (tracks : Tracks log input state) :
    timestampReadyForRule barrier state rule outTimeNs = .ok true ↔
      CursorsReached barrier.requireProcessed barrier.lateness (log.observedTimes input.1)
        (log.processedTimes input.1) (requiredTime rule barrier.lateness outTimeNs) := by
  rw [timestampReadyForRule, CursorsReached, requiredTime, ← JoinBarrier.lateness]
  generalize barrier.lateness = lateness
  cases has : state.hasObservedTime with
  | false =>
      have none : log.observedTimes input.1 = [] := by
        by_contra some
        exact absurd (tracks.hasObservedTime_iff.mpr some) (by rw [has]; decide)
      simp [none, CursorReached]
  | true =>
      cases rule.ruleType with
      | offset =>
          simp only [Bool.not_true, Bool.false_eq_true, if_false]
          split
          · generalize (if rule.offsetNs < 0 then lateness + (-rule.offsetNs).toUInt64 else lateness) = threshold
            split
            · simp
            · simp only [Except.ok.injEq, Option.mem_some_iff, exists_eq_left']
              exact timeReached_cursors rfl tracks has
          · simp only [Except.ok.injEq, Option.mem_some_iff, exists_eq_left']
            exact timeReached_cursors rfl tracks has
      | window =>
          simp only [Bool.not_true, Bool.false_eq_true, if_false]
          split
          next none => simp [none]
          next some =>
            split
            next soon => simp [soon]
            next late =>
              simp only [some, late, or_self, if_false, Except.ok.injEq, Option.mem_some_iff, exists_eq_left']
              exact timeReached_cursors outTimeNs.toUInt64_toInt64 tracks has
      | unknown => simp

end Input

end TensorPool.Join
