/-
This file compares the readiness of a latest-value join with its collection.
-/

import TensorPool.Join.Tracking
import Mathlib.Data.List.Nodup

namespace TensorPool.Join

open TensorPool.Merge

/-- These are the observed values of the stream that the ordering compares. -/
def LatestOrdering.values (ordering : LatestOrdering) (log : Log) (streamId : UInt32) : List UInt64 :=
  match ordering with
  | .sequence => log.observedSeqs streamId
  | .timestamp => log.observedTimes streamId

def LatestSelection.value (ordering : LatestOrdering) (selection : LatestSelection) : UInt64 :=
  match ordering with
  | .sequence => selection.seq
  | .timestamp => selection.timestampNs

/-- The selections name an input once with its last value since its last invalidation. -/
def SelectedOnce (ordering : LatestOrdering) (log : Log) (selections : List LatestSelection)
    (streamId : UInt32) : Prop :=
  ∃ selection, selections.filter (fun item => item.streamId = streamId) = [selection] ∧
    (ordering.values (log.sinceInvalidated streamId) streamId).getLast? = some (selection.value ordering)

def AppliedMap.streamIds (applied : AppliedMap) : List UInt32 := applied.inputs.map Prod.fst

/-- The state of the stream is stale by the barrier's own test. -/
def StreamStale (barrier : JoinBarrier) (nowNs : UInt64) (streamId : UInt32) : Prop :=
  ∃ state ∈ barrier.state, state.streamId = streamId ∧ isStale barrier state nowNs = true

/-- Each input that is not stale is selected once, and nothing else is. -/
structure Collects (barrier : JoinBarrier) (log : Log) (nowNs : UInt64) (inputs : List UInt32)
    (selections : List LatestSelection) : Prop where
  current : ∀ streamId ∈ inputs, ¬StreamStale barrier nowNs streamId →
    SelectedOnce barrier.latestOrdering log selections streamId
  stale : ∀ streamId ∈ inputs, StreamStale barrier nowNs streamId →
    selections.filter (fun item => item.streamId = streamId) = []
  only : ∀ selection ∈ selections, selection.streamId ∈ inputs

/-- The stream has a value of the ordering's kind that was observed after its last invalidation. -/
def Renewed (ordering : LatestOrdering) (log : Log) (streamId : UInt32) : Prop :=
  ordering.values (log.sinceInvalidated streamId) streamId ≠ []

section Selection

variable {barrier : JoinBarrier} {states : List InputState} {selections : List LatestSelection}
  {log : Log} {outTimeNs nowNs : UInt64} {clockDomain : UInt8}

/-- In a list with distinct keys, exactly one item has the key of an item. -/
theorem filter_key {α κ : Type} [DecidableEq κ] {key : α → κ} {items : List α} {item : α}
    (distinct : (items.map key).Nodup) (present : item ∈ items) :
    items.filter (fun other => key other = key item) = [item] := by
  induction items with
  | nil => cases present
  | cons head rest hypothesis =>
      rw [List.map_cons, List.nodup_cons] at distinct
      rcases List.mem_cons.mp present with rfl | later
      · rw [List.filter_cons_of_pos (by simp), List.cons_eq_cons, List.filter_eq_nil_iff]
        refine ⟨rfl, fun other inside same => distinct.1 ?_⟩
        rw [← of_decide_eq_true same]
        exact List.mem_map_of_mem inside
      · rw [List.filter_cons_of_neg, hypothesis distinct.2 later]
        intro same
        apply distinct.1
        rw [of_decide_eq_true same]
        exact List.mem_map_of_mem later

theorem selectLatest_selection {state : InputState} {selection : LatestSelection}
    (done : selectLatest barrier state = .ok selection) : selection = state.selection := by
  rw [selectLatest] at done
  split_ifs at done
  exact (Except.ok.inj done).symm

/-- A collection that succeeds returns every input. -/
theorem selectEach_selections (done : selectEach barrier states = .ok selections) :
    selections = states.map InputState.selection := by
  induction states generalizing selections with
  | nil =>
      cases done
      rfl
  | cons state states hypothesis =>
      rw [selectEach] at done
      cases first : selectLatest barrier state with
      | error text => simp [first] at done
      | ok selection =>
          cases later : selectEach barrier states with
          | error text => simp [first, later, Except.map] at done
          | ok rest =>
              simp only [first, later, Except.map, Except.ok.injEq] at done
              rw [← done, selectLatest_selection first, hypothesis later, List.map_cons]

theorem selectEach_ok (each : ∀ state ∈ states, selectLatest barrier state = .ok state.selection) :
    selectEach barrier states = .ok (states.map InputState.selection) := by
  induction states with
  | nil => rfl
  | cons state states hypothesis =>
      rw [List.forall_mem_cons] at each
      rw [selectEach, each.1, hypothesis each.2]
      rfl

/-- An answer that differs from the one of a check passes the check. -/
theorem guard_passed {c : Prop} [Decidable c] {stop rest answer : Reply Bool}
    (passed : (if c then stop else rest) = answer) (other : stop ≠ answer) : ¬c ∧ rest = answer := by
  by_cases stops : c
  · rw [if_pos stops] at passed
    exact absurd passed other
  · rw [if_neg stops] at passed
    exact ⟨stops, passed⟩

/-- An input that is ready passes every check of the collection. -/
theorem selectLatest_of_ready {state : InputState}
    (ready : latestInputReady barrier state outTimeNs clockDomain = .ok true) :
    selectLatest barrier state = .ok state.selection := by
  rw [latestInputReady] at ready
  have differ : (Except.ok false : Reply Bool) ≠ .ok true := by simp
  obtain ⟨seqMissing, ready⟩ := guard_passed ready differ
  obtain ⟨timeMissing, ready⟩ := guard_passed ready differ
  obtain ⟨-, ready⟩ := guard_passed ready (by simp)
  obtain ⟨sourceMissing, ready⟩ := guard_passed ready (by simp)
  obtain ⟨invalid, ready⟩ := guard_passed ready differ
  obtain ⟨-, ready⟩ := guard_passed ready differ
  obtain ⟨-, ready⟩ := guard_passed ready differ
  obtain ⟨noMin, -⟩ := guard_passed ready differ
  rw [selectLatest, if_neg _, if_neg seqMissing, if_neg timeMissing, if_neg sourceMissing]
  simp only [Bool.not_eq_true, Bool.not_eq_false'] at invalid noMin
  rw [invalid, noMin]
  simp

theorem selections_filter {state : InputState} (distinct : (states.map InputState.streamId).Nodup)
    (present : state ∈ states) :
    (states.map InputState.selection).filter (fun item => item.streamId = state.streamId) = [state.selection] := by
  have once : ((states.map InputState.selection).map LatestSelection.streamId).Nodup := by
    rw [List.map_map]
    exact distinct
  exact filter_key once (List.mem_map_of_mem present)

end Selection

section Suffix

variable {log : Log} {streamId : UInt32} {ordering : LatestOrdering}

theorem sinceInvalidated_suffix (log : Log) (streamId : UInt32) :
    (log.sinceInvalidated streamId).calls <:+ log.calls := List.rtakeWhile_suffix ..

theorem LatestOrdering.values_suffix :
    ordering.values (log.sinceInvalidated streamId) streamId <:+ ordering.values log streamId := by
  cases ordering with
  | sequence => exact (sinceInvalidated_suffix log streamId).filterMap _
  | timestamp => exact (sinceInvalidated_suffix log streamId).filterMap _

/-- A value since the last invalidation is the last value of all. -/
theorem Renewed.last (renewed : Renewed ordering log streamId) :
    (ordering.values (log.sinceInvalidated streamId) streamId).getLast? =
      (ordering.values log streamId).getLast? := by
  obtain ⟨earlier, same⟩ : ordering.values
    (log.sinceInvalidated streamId) streamId <:+ ordering.values log streamId :=
    LatestOrdering.values_suffix
  rw [← same, List.getLast?_append_of_ne_nil _ renewed]

theorem Renewed.observed (renewed : Renewed ordering log streamId) : ordering.values log streamId ≠ [] := by
  intro none
  obtain ⟨earlier, same⟩ : ordering.values
    (log.sinceInvalidated streamId) streamId <:+ ordering.values log streamId :=
    LatestOrdering.values_suffix
  rw [none, List.append_eq_nil_iff] at same
  exact renewed same.2

/-- The state holds the last observed value of the ordering's kind. -/
theorem Tracks.held_value {input : UInt32 × TimestampSource} {state : InputState}
    (tracks : Tracks log input state) (observed : ordering.values log input.1 ≠ []) :
    (ordering.values log input.1).getLast? = some (state.selection.value ordering) := by
  cases ordering with
  | sequence =>
      have held := tracks.observedSeq.isSome_iff.mpr observed
      change (log.observedSeqs input.1).getLast? = some state.observedSeq
      rw [tracks.observedSeq.last]
      rw [InputState.heldObservedSeq] at held ⊢
      split_ifs at held ⊢
      · rfl
      · cases held
  | timestamp =>
      have held := tracks.observedTime.isSome_iff.mpr observed
      change (log.observedTimes input.1).getLast? = some state.observedTimeNs
      rw [tracks.observedTime.last]
      rw [InputState.heldObservedTime] at held ⊢
      split_ifs at held ⊢
      · rfl
      · cases held

end Suffix

section History

variable {ruleCapacity capacity : Nat} {calls : List Call} {barrier : JoinBarrier} {log : Log}
  {map : AppliedMap} {inputs : List (UInt32 × TimestampSource)} {states : List InputState}
  {selections : List LatestSelection} {outSeq outTimeNs nowNs : UInt64} {clockDomain : UInt8}

theorem tracked_ids (tracked : List.Forall₂ (Tracks log) inputs states) :
    states.map InputState.streamId = inputs.map Prod.fst := by
  induction tracked with
  | nil => rfl
  | cons tracks _ hypothesis => rw [List.map_cons, List.map_cons, tracks.stream, hypothesis]

/-- Two states of one stream are the same state. -/
theorem streamStale_iff (distinct : (barrier.state.map InputState.streamId).Nodup) {state : InputState}
    (present : state ∈ barrier.state) :
    StreamStale barrier nowNs state.streamId ↔ isStale barrier state nowNs = true := by
  constructor
  · rintro ⟨other, inside, same, old⟩
    rwa [← List.inj_on_of_nodup_map distinct inside present same]
  · exact fun old => ⟨state, present, rfl, old⟩

/-- A ready answer means that every input that is not stale is ready. -/
theorem isReadyLatest_ready (ready : (isReadyLatest barrier outSeq outTimeNs clockDomain nowNs).1 = .ok true) :
    barrier.type = .latestValue ∧ ¬(barrier.latestOrdering = .timestamp ∧ barrier.clockDomain = 0) ∧
      ∀ state ∈ barrier.state, isStale barrier state nowNs = false →
        latestInputReady barrier state outTimeNs clockDomain = .ok true := by
  rw [isReadyLatest] at ready
  split at ready
  · cases ready
  split at ready
  · simp at ready
  split at ready
  · cases ready
  split at ready
  · cases ready
  · rename_i type _ declared _
    refine ⟨not_not.mp type, declared, ?_⟩
    rw [← readyAll_true_iff]
    dsimp only at ready
    split at ready <;> exact ready

theorem selectEach_keepOutTime (barrier : JoinBarrier) (outTimeNs : UInt64) (states : List InputState) :
    selectEach (barrier.keepOutTime outTimeNs) states = selectEach barrier states := by
  induction states with
  | nil => rfl
  | cons state states hypothesis =>
      rw [selectEach, selectEach, hypothesis]
      rfl

/-- The readiness call does not change what the collection returns. -/
theorem collectLatest_after (barrier : JoinBarrier) :
    collectLatest (isReadyLatest barrier outSeq outTimeNs clockDomain nowNs).2 capacity =
      collectLatest barrier capacity := by
  rcases isReadyLatest_barrier barrier outSeq outTimeNs clockDomain nowNs with same | same
  · rw [same]
  · rw [same, collectLatest, collectLatest]
    exact congrArg _ (congrArg _ (congrArg _ (selectEach_keepOutTime barrier outTimeNs barrier.state)))

/-- After a ready answer the collection is right exactly when no input is stale and the last value of
each one was observed after its last invalidation. -/
theorem history_latest_collects (past : history .latestValue ruleCapacity calls = (barrier, log))
    (applied : log.applied = some map) (distinct : map.Distinct)
    (ready : (isReadyLatest barrier outSeq outTimeNs clockDomain nowNs).1 = .ok true)
    (room : barrier.ruleCount ≤ capacity) :
    (∃ selections, collectLatest (isReadyLatest barrier outSeq outTimeNs clockDomain nowNs).2 capacity =
        .ok selections ∧ Collects barrier log nowNs map.streamIds selections) ↔
      ∀ streamId ∈ map.streamIds, ¬StreamStale barrier nowNs streamId ∧
        Renewed barrier.latestOrdering log streamId := by
  have mirrors := history_mirrors .latestValue ruleCapacity calls
  rw [past] at mirrors
  have tracked := mirrors.tracked map applied distinct
  have ids : barrier.state.map InputState.streamId = map.streamIds := tracked_ids tracked
  have once : (barrier.state.map InputState.streamId).Nodup := ids ▸ distinct
  obtain ⟨type, declared, inputs⟩ := isReadyLatest_ready ready
  have collect : collectLatest barrier capacity = selectEach barrier barrier.state := by
    rw [collectLatest, if_neg (not_not.mpr type), if_neg (by omega), if_neg declared]
  rw [collectLatest_after, collect]
  constructor
  · rintro ⟨selections, done, collects⟩ streamId present
    have every := selectEach_selections done
    have current : ¬StreamStale barrier nowNs streamId := by
      intro old
      have none := collects.stale streamId present old
      obtain ⟨state, inside, same, -⟩ := old
      rw [every, ← same, selections_filter once inside] at none
      cases none
    obtain ⟨selection, -, last⟩ := collects.current streamId present current
    refine ⟨current, fun none => ?_⟩
    rw [none] at last
    cases last
  · intro fine
    have current : ∀ state ∈ barrier.state, isStale barrier state nowNs = false := by
      intro state inside
      have present : state.streamId ∈ map.streamIds := ids ▸ List.mem_map_of_mem inside
      have fresh := (fine _ present).1
      rw [streamStale_iff once inside] at fresh
      exact Bool.eq_false_iff.mpr fresh
    refine ⟨barrier.state.map InputState.selection, ?_, ?_, ?_, ?_⟩
    · apply selectEach_ok
      intro state inside
      exact selectLatest_of_ready (inputs state inside (current state inside))
    · intro streamId present _
      have renewed := (fine streamId present).2
      obtain ⟨input, listed, same⟩ := List.mem_map.mp present
      obtain ⟨state, inside, tracks⟩ := paired_mem tracked listed
      refine ⟨state.selection, ?_, ?_⟩
      · rw [← same, ← tracks.stream]
        exact selections_filter once inside
      · rw [renewed.last, ← same]
        apply tracks.held_value
        rw [same]
        exact renewed.observed
    · intro streamId present old
      exact absurd old (fine streamId present).1
    · intro selection chosen
      obtain ⟨state, inside, rfl⟩ := List.mem_map.mp chosen
      exact ids ▸ List.mem_map_of_mem inside

end History

def pairMap : SequenceMergeMap where
  outStreamId := 9
  epoch := 1
  staleTimeoutNs := 100
  rules := [⟨1, .offset, 0, 0⟩, ⟨2, .offset, 0, 0⟩]

def pairCalls : List Call :=
  [.applyLatestValueSequenceMap (some pairMap), .setAllowStale true, .updateObservedSeq 1 5 50,
    .invalidateLatest 1, .updateObservedSeq 1 6 60, .updateObservedSeq 2 8 150]

theorem pair_collects :
    (∃ selections,
        collectLatest (isReadyLatest (history .latestValue 2 pairCalls).1 0 0 0 155).2 2 = .ok selections ∧
          Collects (history .latestValue 2 pairCalls).1 (history .latestValue 2 pairCalls).2 155 [1, 2]
            selections) ↔
      ∀ streamId ∈ [1, 2], ¬StreamStale (history .latestValue 2 pairCalls).1 155 streamId ∧
        Renewed .sequence (history .latestValue 2 pairCalls).2 streamId :=
  @history_latest_collects 2 2 pairCalls _ _ (.sequence pairMap) 0 0 155 0 rfl (by decide +kernel)
    (by decide +kernel) (by decide +kernel) (by decide +kernel)

def revivedCalls : List Call :=
  [.applyLatestValueSequenceMap (some pairMap), .updateObservedSeq 1 5 50, .updateObservedSeq 2 8 50,
    .invalidateLatest 1, .updateObservedTime 1 7 .frameDescriptor clockDomainMonotonic 60]

def droppedCalls : List Call :=
  [.applyLatestValueSequenceMap (some pairMap), .setAllowStale true, .updateObservedSeq 1 5 50,
    .invalidateLatest 1, .updateObservedSeq 2 8 150]

/-- A stale input is selected, a stale input that was invalidated makes the collection fail, and a
sequence that was invalidated is selected after a new time arrived. -/
theorem stale_and_invalidated_selected :
    (isReadyLatest (history .latestValue 2 pairCalls).1 0 0 0 200).1 = .ok true ∧
      (¬∃ selections,
        collectLatest (isReadyLatest (history .latestValue 2 pairCalls).1 0 0 0 200).2 2 = .ok selections ∧
          Collects (history .latestValue 2 pairCalls).1 (history .latestValue 2 pairCalls).2 200 [1, 2]
            selections) ∧
      (isReadyLatest (history .latestValue 2 droppedCalls).1 0 0 0 200).1 = .ok true ∧
      collectLatest (isReadyLatest (history .latestValue 2 droppedCalls).1 0 0 0 200).2 2 =
        .error (some "tp_join_barrier_collect_latest: latest not ready") ∧
      (isReadyLatest (history .latestValue 2 revivedCalls).1 0 7 0 70).1 = .ok true ∧
      ¬∃ selections,
        collectLatest (isReadyLatest (history .latestValue 2 revivedCalls).1 0 7 0 70).2 2 = .ok selections ∧
          Collects (history .latestValue 2 revivedCalls).1 (history .latestValue 2 revivedCalls).2 70 [1, 2]
            selections := by
  refine ⟨by decide +kernel, ?_, by decide +kernel, by decide +kernel, by decide +kernel, ?_⟩
  · rintro ⟨selections, done, collects⟩
    have both : collectLatest (isReadyLatest (history .latestValue 2 pairCalls).1 0 0 0 200).2 2 =
        .ok [⟨1, 6, 0, 0⟩, ⟨2, 8, 0, 0⟩] := by decide +kernel
    have old : StreamStale (history .latestValue 2 pairCalls).1 200 1 := by
      unfold StreamStale
      decide +kernel
    obtain rfl := Except.ok.inj (both.symm.trans done)
    exact absurd (collects.stale 1 (by decide +kernel) old) (by decide +kernel)
  · rintro ⟨selections, done, collects⟩
    have current : ¬StreamStale (history .latestValue 2 revivedCalls).1 70 1 := by
      unfold StreamStale
      decide +kernel
    obtain ⟨selection, -, last⟩ := collects.current 1 (by decide +kernel) current
    have none : LatestOrdering.values .sequence ((history .latestValue 2 revivedCalls).2.sinceInvalidated 1) 1 =
      [] := by
      decide +kernel
    change (LatestOrdering.values .sequence _ 1).getLast? = _ at last
    rw [none] at last
    cases last

end TensorPool.Join
