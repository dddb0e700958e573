/-
This file follows the first and the later input states of one stream.
-/

import TensorPool.Join.Tracking

namespace TensorPool.Join

open TensorPool.Merge

/-- An update names an input and changes its state or fails. -/
structure Change where
  name : String
  streamId : UInt32
  apply : InputState → Reply InputState

def Call.change? (barrier : JoinBarrier) : Call → Option Change
  | .updateObservedSeq streamId seq nowNs =>
    some ⟨"tp_join_barrier_update_observed_seq", streamId, observeSeq seq nowNs⟩
  | .updateProcessedSeq streamId seq nowNs =>
    some ⟨"tp_join_barrier_update_processed_seq", streamId, processSeq seq nowNs⟩
  | .updateObservedTime streamId timestampNs source clockDomain nowNs =>
    some ⟨"tp_join_barrier_update_observed_time", streamId, observeTime barrier timestampNs source clockDomain nowNs⟩
  | .updateProcessedTime streamId timestampNs source clockDomain nowNs =>
    some ⟨"tp_join_barrier_update_processed_time", streamId, processTime barrier timestampNs source clockDomain nowNs⟩
  | .invalidateLatest streamId =>
    some ⟨"tp_join_barrier_invalidate_latest", streamId, fun state => .ok { state with latestValid := false }⟩
  | _ => none

/-- Nothing was recorded for the input. -/
def InputState.Blank (state : InputState) : Prop :=
  state = { streamId := state.streamId, timestampSource := state.timestampSource }

/-- Only the first state of a stream may hold something. -/
def FirstOnly (states : List InputState) : Prop :=
  states.Pairwise fun first later => first.streamId = later.streamId → later.Blank

def firstState (states : List InputState) (streamId : UInt32) : Option InputState :=
  states.find? fun state => state.streamId = streamId

section Change

variable {name : String} {streamId : UInt32} {change : InputState → Reply InputState}
  {states after : List InputState}

/-- An accepted change replaces the first state of the stream. -/
theorem changeState_ok (accepted : changeState name streamId change states = .ok after) :
    ∃ earlier state new later, states = earlier ++ state :: later ∧ after = earlier ++ new :: later ∧
      (∀ other ∈ earlier, other.streamId ≠ streamId) ∧ state.streamId = streamId ∧ change state = .ok new := by
  induction states generalizing after with
  | nil => cases accepted
  | cons state states hypothesis =>
      rw [changeState] at accepted
      split at accepted
      · rename_i named
        cases done : change state with
        | error text => simp [done, Except.map] at accepted
        | ok new =>
            simp only [done, Except.map, Except.ok.injEq] at accepted
            exact ⟨[], state, new, states, rfl, accepted.symm, fun _ absent => absurd absent List.not_mem_nil,
              named, done⟩
      · rename_i other
        cases done : changeState name streamId change states with
        | error text => simp [done, Except.map] at accepted
        | ok changed =>
            simp only [done, Except.map, Except.ok.injEq] at accepted
            obtain ⟨earlier, found, new, later, split, joined, before, named, replaced⟩ := hypothesis done
            refine ⟨state :: earlier, found, new, later, ?_, ?_, ?_, named, replaced⟩
            · rw [split, List.cons_append]
            · rw [← accepted, joined, List.cons_append]
            · exact List.forall_mem_cons.mpr ⟨other, before⟩

variable (keeps : ∀ state new, change state = .ok new → new.streamId = state.streamId)

include keeps

theorem changeState_ids (accepted : changeState name streamId change states = .ok after) :
    after.map InputState.streamId = states.map InputState.streamId := by
  obtain ⟨earlier, state, new, later, rfl, rfl, -, -, done⟩ := changeState_ok accepted
  rw [List.map_append, List.map_append, List.map_cons, List.map_cons, keeps state new done]

theorem changeState_firstOnly (accepted : changeState name streamId change states = .ok after)
    (first : FirstOnly states) : FirstOnly after := by
  obtain ⟨earlier, state, new, later, rfl, rfl, before, named, done⟩ := changeState_ok accepted
  have same := keeps state new done
  rw [FirstOnly, List.pairwise_append, List.pairwise_cons] at first ⊢
  obtain ⟨left, ⟨head, right⟩, across⟩ := first
  refine ⟨left, ⟨?_, right⟩, ?_⟩
  · rw [same]
    exact head
  · intro other inside item present
    rcases List.mem_cons.mp present with rfl | behind
    · intro meets
      rw [same, named] at meets
      exact absurd meets (before other inside)
    · exact across other inside item (List.mem_cons_of_mem _ behind)

/-- The change is seen by who looks the stream up, and by nobody else. -/
theorem changeState_first (accepted : changeState name streamId change states = .ok after) (other : UInt32) :
    (other ≠ streamId ∧ firstState after other = firstState states other) ∨
      other = streamId ∧ ∃ state new, firstState states other = some state ∧ firstState after other = some new ∧
        change state = .ok new := by
  obtain ⟨earlier, state, new, later, rfl, rfl, before, named, done⟩ := changeState_ok accepted
  have same := keeps state new done
  rw [firstState, firstState, List.find?_append, List.find?_append]
  by_cases asked : other = streamId
  · right
    subst asked
    have none : earlier.find? (fun item => item.streamId = other) = none := by
      rw [List.find?_eq_none]
      intro item inside
      simpa using before item inside
    refine ⟨rfl, state, new, ?_, ?_, done⟩
    · rw [none, Option.none_or, List.find?_cons_of_pos (by simpa using named)]
    · rw [none, Option.none_or, List.find?_cons_of_pos (by simpa [same] using named)]
  · left
    refine ⟨asked, ?_⟩
    rw [List.find?_cons_of_neg, List.find?_cons_of_neg]
    · rw [named]
      simpa using Ne.symm asked
    · rw [same, named]
      simpa using Ne.symm asked

end Change

/-- No update renames its input. -/
theorem change_streamId {barrier : JoinBarrier} {call : Call} {change : Change}
    (update : call.change? barrier = some change) (state new : InputState)
    (done : change.apply state = .ok new) : new.streamId = state.streamId := by
  cases call with
  | updateObservedSeq streamId seq nowNs =>
      cases update
      exact (observeSeq_follows done).stream
  | updateProcessedSeq streamId seq nowNs =>
      cases update
      exact (processSeq_follows done).stream
  | updateObservedTime streamId timestampNs source clockDomain nowNs =>
      cases update
      exact (observeTime_follows done).stream
  | updateProcessedTime streamId timestampNs source clockDomain nowNs =>
      cases update
      exact (processTime_follows done).stream
  | invalidateLatest streamId =>
      cases update
      cases done
      rfl
  | _ => cases update

/-- A map fills the inputs with nothing recorded. -/
def AppliedMap.blanks (applied : AppliedMap) : List InputState :=
  applied.inputs.map fun input => { streamId := input.1, timestampSource := input.2 }

/-- A barrier of rules has one input for each of them. -/
structure JoinBarrier.Aligned (barrier : JoinBarrier) : Prop where
  sequence : barrier.type = .sequence →
    barrier.sequenceRules.map SequenceMergeRule.inputStreamId = barrier.state.map InputState.streamId
  timestamp : barrier.type = .timestamp →
    barrier.timestampRules.map TimestampMergeRule.inputStreamId = barrier.state.map InputState.streamId

theorem perform_change {barrier : JoinBarrier} {call : Call} {change : Change}
    (update : call.change? barrier = some change) :
    perform barrier call = settle barrier (barrier.changeInput change.name change.streamId change.apply) := by
  cases call with
  | updateObservedSeq streamId seq nowNs => cases update; rfl
  | updateProcessedSeq streamId seq nowNs => cases update; rfl
  | updateObservedTime streamId timestampNs source clockDomain nowNs => cases update; rfl
  | updateProcessedTime streamId timestampNs source clockDomain nowNs => cases update; rfl
  | invalidateLatest streamId => cases update; rfl
  | _ => cases update

section Apply

variable {barrier : JoinBarrier} {name : String} {type : BarrierType}

theorem settle_applySequence_cases (distinct : type ≠ .timestamp) (map : SequenceMergeMap) :
    settle barrier (applySequence name type barrier (some map)) = (false, barrier) ∨
      ∃ loaded : JoinBarrier, settle barrier (applySequence name type barrier (some map)) = (true, loaded) ∧
        loaded.state = (AppliedMap.sequence map).blanks ∧ loaded.Aligned := by
  rw [applySequence]
  split
  · exact Or.inl rfl
  split
  · exact Or.inl rfl
  · rename_i same
    right
    refine ⟨_, rfl, ?_, ?_, ?_⟩
    · simp only [loadSequenceRules, AppliedMap.blanks, AppliedMap.inputs, List.map_map]
      rfl
    · intro _
      simp only [loadSequenceRules, List.map_map]
      rfl
    · intro other
      exact absurd ((not_not.mp same).symm.trans other) distinct

theorem settle_applyTimestamp_cases (distinct : type ≠ .sequence) (map : TimestampMergeMap) :
    settle barrier (applyTimestamp name type barrier (some map)) = (false, barrier) ∨
      ∃ loaded : JoinBarrier, settle barrier (applyTimestamp name type barrier (some map)) = (true, loaded) ∧
        loaded.state = (AppliedMap.timestamp map).blanks ∧ loaded.Aligned := by
  rw [applyTimestamp]
  split
  · exact Or.inl rfl
  split
  · exact Or.inl rfl
  · rename_i same
    right
    refine ⟨_, rfl, ?_, ?_, ?_⟩
    · simp only [loadTimestampRules, AppliedMap.blanks, AppliedMap.inputs, List.map_map]
      rfl
    · intro other
      exact absurd ((not_not.mp same).symm.trans other) distinct
    · intro _
      simp only [loadTimestampRules, List.map_map]
      rfl

end Apply

/-- A map is refused or starts the inputs afresh. -/
theorem perform_apply {barrier : JoinBarrier} {call : Call} {map : AppliedMap}
    (applies : call.appliedMap = some map) :
    perform barrier call = (false, barrier) ∨
      ∃ loaded : JoinBarrier, perform barrier call = (true, loaded) ∧ loaded.state = map.blanks ∧ loaded.Aligned := by
  cases call with
  | applySequenceMap given =>
      obtain ⟨inner, rfl, rfl⟩ := Option.map_eq_some_iff.mp applies
      exact settle_applySequence_cases (by decide) inner
  | applyTimestampMap given =>
      obtain ⟨inner, rfl, rfl⟩ := Option.map_eq_some_iff.mp applies
      exact settle_applyTimestamp_cases (by decide) inner
  | applyLatestValueSequenceMap given =>
      obtain ⟨inner, rfl, rfl⟩ := Option.map_eq_some_iff.mp applies
      exact settle_applySequence_cases (by decide) inner
  | applyLatestValueTimestampMap given =>
      obtain ⟨inner, rfl, rfl⟩ := Option.map_eq_some_iff.mp applies
      exact settle_applyTimestamp_cases (by decide) inner
  | _ => cases applies

/-- The barriers differ in nothing but the query time and the three settings. -/
structure JoinBarrier.SameInputs (barrier other : JoinBarrier) : Prop where
  type : other.type = barrier.type
  state : other.state = barrier.state
  sequenceRules : other.sequenceRules = barrier.sequenceRules
  timestampRules : other.timestampRules = barrier.timestampRules

theorem perform_quiet {barrier : JoinBarrier} {call : Call} (unmapped : call.appliedMap = none)
    (quiet : call.change? barrier = none) : barrier.SameInputs (perform barrier call).2 := by
  cases call with
  | applySequenceMap given => cases given with
    | none => exact ⟨rfl, rfl, rfl, rfl⟩
    | some map => cases unmapped
  | applyTimestampMap given => cases given with
    | none => exact ⟨rfl, rfl, rfl, rfl⟩
    | some map => cases unmapped
  | applyLatestValueSequenceMap given => cases given with
    | none => exact ⟨rfl, rfl, rfl, rfl⟩
    | some map => cases unmapped
  | applyLatestValueTimestampMap given => cases given with
    | none => exact ⟨rfl, rfl, rfl, rfl⟩
    | some map => cases unmapped
  | isReadyTimestamp outTimeNs clockDomain nowNs =>
      change barrier.SameInputs (isReadyTimestamp barrier outTimeNs clockDomain nowNs).2
      rcases isReadyTimestamp_barrier barrier outTimeNs clockDomain nowNs with same | same
      · rw [same]
        exact ⟨rfl, rfl, rfl, rfl⟩
      · rw [same]
        exact ⟨rfl, rfl, rfl, rfl⟩
  | isReadyLatest outSeq outTimeNs clockDomain nowNs =>
      change barrier.SameInputs (isReadyLatest barrier outSeq outTimeNs clockDomain nowNs).2
      rcases isReadyLatest_barrier barrier outSeq outTimeNs clockDomain nowNs with same | same
      · rw [same]
        exact ⟨rfl, rfl, rfl, rfl⟩
      · rw [same]
        exact ⟨rfl, rfl, rfl, rfl⟩
  | isReadySequence _ _ | setAllowStale _ | setRequireProcessed _ | setLatestOrdering _ => exact ⟨rfl, rfl, rfl, rfl⟩
  | _ => cases quiet

/-- An accepted update changes the inputs and nothing else. -/
theorem changeInput_ok {barrier changed : JoinBarrier} {name : String} {streamId : UInt32}
    {change : InputState → Reply InputState} (done : barrier.changeInput name streamId change = .ok changed) :
    ∃ after, changeState name streamId change barrier.state = .ok after ∧
      changed = { barrier with state := after } := by
  rw [JoinBarrier.changeInput] at done
  cases inputs : changeState name streamId change barrier.state with
  | error text => simp [inputs, Except.map] at done
  | ok after =>
      simp only [inputs, Except.map, Except.ok.injEq] at done
      exact ⟨after, rfl, done.symm⟩

end TensorPool.Join
