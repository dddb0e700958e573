/-
This file shows that the input states hold what the log says.
-/

import TensorPool.Join.History
import Mathlib.Tactic.Common

namespace TensorPool.Join

open TensorPool.Merge

def InputState.heldObservedSeq (state : InputState) : Option UInt64 :=
  if state.hasObservedSeq then some state.observedSeq else none

def InputState.heldProcessedSeq (state : InputState) : Option UInt64 :=
  if state.hasProcessedSeq then some state.processedSeq else none

def InputState.heldObservedTime (state : InputState) : Option UInt64 :=
  if state.hasObservedTime then some state.observedTimeNs else none

def InputState.heldProcessedTime (state : InputState) : Option UInt64 :=
  if state.hasProcessedTime then some state.processedTimeNs else none

/-- Some value of the stream was observed after its last invalidation. -/
def Log.Valid (log : Log) (streamId : UInt32) : Prop :=
  (log.sinceInvalidated streamId).observedSeqs streamId ≠ [] ∨
    (log.sinceInvalidated streamId).observedTimes streamId ≠ []

structure Tracks (log : Log) (input : UInt32 × TimestampSource) (state : InputState) : Prop where
  stream : state.streamId = input.1
  source : state.timestampSource = input.2
  observedSeq : Rising.Holds (log.observedSeqs input.1) state.heldObservedSeq
  processedSeq : Rising.Holds (log.processedSeqs input.1) state.heldProcessedSeq
  observedTime : Rising.Holds (log.observedTimes input.1) state.heldObservedTime
  processedTime : Rising.Holds (log.processedTimes input.1) state.heldProcessedTime
  minSeq : state.hasMinSeqInEpoch = state.hasObservedSeq
  minBelow : state.minSeqInEpoch ≤ state.observedSeq
  valid : state.latestValid = true ↔ log.Valid input.1

def Log.push (log : Log) (call : Call) : Log := { log with calls := log.calls ++ [call] }

/-- The new input state is the old one after the call. -/
structure Follows (call : Call) (old new : InputState) : Prop where
  stream : new.streamId = old.streamId
  source : new.timestampSource = old.timestampSource
  observedSeq : new.heldObservedSeq = (call.observedSeq? old.streamId).or old.heldObservedSeq
  observedSeqRises : ∀ value ∈ call.observedSeq? old.streamId, ∀ held ∈ old.heldObservedSeq, held ≤ value
  processedSeq : new.heldProcessedSeq = (call.processedSeq? old.streamId).or old.heldProcessedSeq
  processedSeqRises : ∀ value ∈ call.processedSeq? old.streamId, ∀ held ∈ old.heldProcessedSeq, held ≤ value
  observedTime : new.heldObservedTime = (call.observedTime? old.streamId).or old.heldObservedTime
  observedTimeRises : ∀ value ∈ call.observedTime? old.streamId, ∀ held ∈ old.heldObservedTime, held ≤ value
  processedTime : new.heldProcessedTime = (call.processedTime? old.streamId).or old.heldProcessedTime
  processedTimeRises :
    ∀ value ∈ call.processedTime? old.streamId, ∀ held ∈ old.heldProcessedTime, held ≤ value
  minSeq : old.hasMinSeqInEpoch = old.hasObservedSeq → new.hasMinSeqInEpoch = new.hasObservedSeq
  minBelow : old.hasMinSeqInEpoch = old.hasObservedSeq → old.minSeqInEpoch ≤ old.observedSeq →
    new.minSeqInEpoch ≤ new.observedSeq
  valid : new.latestValid = (!call.invalidates old.streamId &&
    ((call.observedSeq? old.streamId).isSome || (call.observedTime? old.streamId).isSome || old.latestValid))

section Push

variable {log : Log} {call : Call} {input : UInt32 × TimestampSource} {state new : InputState}

/-- A call adds its own reading to those of the log. -/
theorem Log.push_reads {α : Type} (read : Call → Option α) :
    (log.push call).calls.filterMap read = log.calls.filterMap read ++ (read call).toList := by
  rw [Log.push, List.filterMap_append, List.filterMap_cons, List.filterMap_nil]
  cases read call <;> rfl

/-- A value that rises over the held one becomes the held one. -/
theorem Log.push_holds {read : Call → Option UInt64} {held : Option UInt64}
    (holds : Rising.Holds (log.calls.filterMap read) held)
    (rises : ∀ value ∈ read call, ∀ old ∈ held, old ≤ value) :
    Rising.Holds ((log.push call).calls.filterMap read) ((read call).or held) := by
  rw [Log.push_reads]
  cases same : read call with
  | none => simpa using holds
  | some value => exact holds.push (rises value same)

/-- An invalidation starts the log of an input anew, and other calls extend it. -/
theorem Log.sinceInvalidated_push (streamId : UInt32) :
    (log.push call).sinceInvalidated streamId =
      if call.invalidates streamId then { log with calls := [] }
      else (log.sinceInvalidated streamId).push call := by
  simp only [Log.sinceInvalidated, Log.push, List.rtakeWhile_concat]
  cases call.invalidates streamId <;> rfl

/-- An invalidation leaves no value, and any other call keeps the values and may add one. -/
theorem Log.valid_push (streamId : UInt32) :
    (log.push call).Valid streamId ↔
      call.invalidates streamId = false ∧
        ((call.observedSeq? streamId).isSome ∨ (call.observedTime? streamId).isSome ∨ log.Valid streamId) := by
  rw [Log.Valid, Log.sinceInvalidated_push]
  cases call.invalidates streamId with
  | true => simp [Log.observedSeqs, Log.observedTimes]
  | false =>
      simp only [Bool.false_eq_true, if_false, Log.observedSeqs, Log.observedTimes, Log.push_reads, Log.Valid]
      cases call.observedSeq? streamId <;> cases call.observedTime? streamId <;> simp

/-- A state that follows the call tracks the longer log. -/
theorem Tracks.step (tracks : Tracks log input state) (follows : Follows call state new) :
    Tracks (log.push call) input new := by
  have stream := tracks.stream
  constructor
  · rw [follows.stream, stream]
  · rw [follows.source, tracks.source]
  · rw [follows.observedSeq, stream]
    exact Log.push_holds tracks.observedSeq (stream ▸ follows.observedSeqRises)
  · rw [follows.processedSeq, stream]
    exact Log.push_holds tracks.processedSeq (stream ▸ follows.processedSeqRises)
  · rw [follows.observedTime, stream]
    exact Log.push_holds tracks.observedTime (stream ▸ follows.observedTimeRises)
  · rw [follows.processedTime, stream]
    exact Log.push_holds tracks.processedTime (stream ▸ follows.processedTimeRises)
  · exact follows.minSeq tracks.minSeq
  · exact follows.minBelow tracks.minSeq tracks.minBelow
  · rw [follows.valid, Log.valid_push, ← tracks.valid, stream]
    simp [or_assoc]

end Push

def Call.target : Call → Option UInt32
  | .updateObservedSeq streamId _ _ => some streamId
  | .updateProcessedSeq streamId _ _ => some streamId
  | .updateObservedTime streamId _ _ _ _ => some streamId
  | .updateProcessedTime streamId _ _ _ _ => some streamId
  | .invalidateLatest streamId => some streamId
  | _ => none

/-- A call that reads as nothing for the input leaves it as it is. -/
theorem Follows.still {call : Call} {state : InputState}
    (observedSeq : call.observedSeq? state.streamId = none)
    (processedSeq : call.processedSeq? state.streamId = none)
    (observedTime : call.observedTime? state.streamId = none)
    (processedTime : call.processedTime? state.streamId = none)
    (invalidates : call.invalidates state.streamId = false) : Follows call state state := by
  constructor <;> simp_all

/-- A call to another input leaves the state as it is. -/
theorem Follows.elsewhere {call : Call} {state : InputState} (other : call.target ≠ some state.streamId) :
    Follows call state state := by
  apply Follows.still
  all_goals cases call <;>
    simp_all [Call.target, Call.observedSeq?, Call.processedSeq?, Call.observedTime?, Call.processedTime?,
      Call.invalidates]

/-- Every input keeps its record when the call reaches none of them. -/
theorem tracks_elsewhere {log : Log} {call : Call} {inputs : List (UInt32 × TimestampSource)}
    {states : List InputState} (tracked : List.Forall₂ (Tracks log) inputs states)
    (other : ∀ input ∈ inputs, call.target ≠ some input.1) :
    List.Forall₂ (Tracks (log.push call)) inputs states := by
  induction tracked with
  | nil => exact .nil
  | cons tracks _ hypothesis =>
      have here := other _ List.mem_cons_self
      apply List.Forall₂.cons
      · exact tracks.step (Follows.elsewhere (tracks.stream ▸ here))
      · exact hypothesis fun input present => other input (List.mem_cons_of_mem _ present)

/-- The call changes the one input it names and leaves the others. -/
theorem changeState_tracks {name : String} {streamId : UInt32} {change : InputState → Reply InputState}
    {log : Log} {call : Call} {inputs : List (UInt32 × TimestampSource)} {states after : List InputState}
    (target : call.target = some streamId)
    (follows : ∀ state new, state.streamId = streamId → change state = .ok new → Follows call state new)
    (tracked : List.Forall₂ (Tracks log) inputs states) (distinct : (inputs.map Prod.fst).Nodup)
    (accepted : changeState name streamId change states = .ok after) :
    List.Forall₂ (Tracks (log.push call)) inputs after := by
  induction tracked generalizing after with
  | nil => simp [changeState] at accepted
  | @cons input state inputs states tracks rest hypothesis =>
      rw [List.map_cons, List.nodup_cons] at distinct
      rw [changeState] at accepted
      split at accepted
      · rename_i named
        cases done : change state with
        | error text => simp [done, Except.map] at accepted
        | ok new =>
            simp only [done, Except.map, Except.ok.injEq] at accepted
            subst accepted
            apply List.Forall₂.cons (tracks.step (follows state new named done))
            apply tracks_elsewhere rest
            intro item present same
            rw [target, Option.some.injEq] at same
            apply distinct.1
            rw [← tracks.stream, named, same]
            exact List.mem_map_of_mem present
      · rename_i other
        cases done : changeState name streamId change states with
        | error text => simp [done, Except.map] at accepted
        | ok changed =>
            simp only [done, Except.map, Except.ok.injEq] at accepted
            subst accepted
            apply List.Forall₂.cons _ (hypothesis distinct.2 done)
            apply tracks.step (Follows.elsewhere _)
            rw [target, ne_eq, Option.some.injEq]
            exact fun same => other same.symm

section Changes

variable {barrier : JoinBarrier} {state new : InputState} {seq timestampNs nowNs : UInt64}
  {source : TimestampSource} {clockDomain : UInt8}

attribute [local simp] Call.observedSeq? Call.processedSeq? Call.observedTime? Call.processedTime?
  Call.invalidates InputState.heldObservedSeq InputState.heldProcessedSeq InputState.heldObservedTime
  InputState.heldProcessedTime UInt64.not_lt

/-- The observation of a sequence follows its call. -/
theorem observeSeq_follows (done : observeSeq seq nowNs state = .ok new) :
    Follows (.updateObservedSeq state.streamId seq nowNs) state new := by
  rw [observeSeq] at done
  split at done
  · cases done
  · rename_i rises
    cases done
    constructor <;> simp <;> try simpa using rises
    intro same below
    rw [same]
    cases has : state.hasObservedSeq with
    | true => exact Std.le_trans below (UInt64.not_lt.mp fun less => rises ⟨has, less⟩)
    | false => exact UInt64.le_refl seq

/-- The processing of a sequence follows its call. -/
theorem processSeq_follows (done : processSeq seq nowNs state = .ok new) :
    Follows (.updateProcessedSeq state.streamId seq nowNs) state new := by
  rw [processSeq] at done
  split at done
  · cases done
  · rename_i rises
    cases done
    constructor <;> simp
    simpa using rises

/-- A null time leaves the input as it is. -/
theorem observeTime_follows (done : observeTime barrier timestampNs source clockDomain nowNs state = .ok new) :
    Follows (.updateObservedTime state.streamId timestampNs source clockDomain nowNs) state new := by
  rw [observeTime] at done
  split at done
  · cases done
  split at done
  · rename_i null
    cases done
    apply Follows.still <;> simp [null]
  split at done
  · cases done
  · rename_i present rises
    cases done
    constructor <;> simp [present]
    simpa using rises

/-- The processing of a timestamp follows its call. -/
theorem processTime_follows (done : processTime barrier timestampNs source clockDomain nowNs state = .ok new) :
    Follows (.updateProcessedTime state.streamId timestampNs source clockDomain nowNs) state new := by
  rw [processTime] at done
  split at done
  · cases done
  split at done
  · rename_i null
    cases done
    apply Follows.still <;> simp [null]
  split at done
  · cases done
  · rename_i present rises
    cases done
    constructor <;> simp [present]
    simpa using rises

/-- The invalidation follows its call. -/
theorem follows_invalidate :
    Follows (.invalidateLatest state.streamId) state { state with latestValid := false } := by
  constructor <;> simp

end Changes

/-- The barrier carries the rules and the parameters of the map. -/
def JoinBarrier.Carries (barrier : JoinBarrier) : Option AppliedMap → Prop
  | none => True
  | some (.sequence map) =>
    barrier.sequenceRules = map.rules ∧ barrier.staleTimeoutNs = map.staleTimeoutNs ∧
      barrier.clockDomain = 0
  | some (.timestamp map) =>
    barrier.timestampRules = map.rules ∧ barrier.staleTimeoutNs = map.staleTimeoutNs ∧
      barrier.clockDomain = map.clockDomain ∧
        barrier.latenessNs = if map.latenessNs = nullU64 then 0 else map.latenessNs

/-- The barrier and the log agree on the map, on every input and on the times queried. -/
structure Mirrors (barrier : JoinBarrier) (log : Log) : Prop where
  carries : barrier.Carries log.applied
  tracked : ∀ applied, log.applied = some applied → applied.Distinct →
    List.Forall₂ (Tracks log) applied.inputs barrier.state
  unset : log.applied = none → barrier.state = []
  lastOut : barrier.hasLastOutTime = true → barrier.lastOutTimeNs ∈ log.outTimes

/-- A new input tracks the empty log. -/
theorem tracks_blank (applied : Option AppliedMap) (streamId : UInt32) (source : TimestampSource) :
    Tracks { applied, calls := [] } (streamId, source) { streamId, timestampSource := source } where
  stream := rfl
  source := rfl
  observedSeq := Rising.Holds.empty
  processedSeq := Rising.Holds.empty
  observedTime := Rising.Holds.empty
  processedTime := Rising.Holds.empty
  minSeq := rfl
  minBelow := UInt64.le_refl 0
  valid := by simp [Log.Valid, Log.observedSeqs, Log.observedTimes, Log.sinceInvalidated]

section Steps

variable {barrier changed : JoinBarrier} {log : Log} {call : Call}

/-- An accepted map of sequence rules starts a new log. -/
theorem mirrors_applySequence {name : String} {type : BarrierType} {map : SequenceMergeMap}
    (done : applySequence name type barrier (some map) = .ok changed) :
    Mirrors changed { applied := some (.sequence map), calls := [] } := by
  rw [applySequence] at done
  split at done
  · cases done
  split at done
  · cases done
  cases done
  constructor
  · exact ⟨rfl, rfl, rfl⟩
  · intro applied same _
    obtain rfl := Option.some.inj same
    simp only [AppliedMap.inputs, loadSequenceRules]
    rw [List.forall₂_map_left_iff, List.forall₂_map_right_iff, List.forall₂_same]
    exact fun rule _ => tracks_blank _ rule.inputStreamId 0
  · intro absent
    cases absent
  · intro queried
    cases queried

/-- An accepted map of timestamp rules starts a new log. -/
theorem mirrors_applyTimestamp {name : String} {type : BarrierType} {map : TimestampMergeMap}
    (done : applyTimestamp name type barrier (some map) = .ok changed) :
    Mirrors changed { applied := some (.timestamp map), calls := [] } := by
  rw [applyTimestamp] at done
  split at done
  · cases done
  split at done
  · cases done
  cases done
  constructor
  · exact ⟨rfl, rfl, rfl, rfl⟩
  · intro applied same _
    obtain rfl := Option.some.inj same
    simp only [AppliedMap.inputs, loadTimestampRules]
    rw [List.forall₂_map_left_iff, List.forall₂_map_right_iff, List.forall₂_same]
    exact fun rule _ => tracks_blank _ rule.inputStreamId rule.timestampSource
  · intro absent
    cases absent
  · intro queried
    cases queried

theorem Log.outTimes_push : (log.push call).outTimes = log.outTimes ++ call.outTime?.toList :=
  Log.push_reads Call.outTime?

/-- A call that names no input keeps the agreement when it keeps the rules, the map and the inputs. -/
theorem Mirrors.keep (mirrors : Mirrors barrier log) (untargeted : call.target = none)
    (carries : changed.Carries log.applied) (state : changed.state = barrier.state)
    (lastOut : changed.hasLastOutTime = true →
      (barrier.hasLastOutTime = true ∧ changed.lastOutTimeNs = barrier.lastOutTimeNs) ∨
        call.outTime? = some changed.lastOutTimeNs) : Mirrors changed (log.push call) where
  carries := carries
  tracked := by
    intro applied same distinct
    rw [state]
    apply tracks_elsewhere (mirrors.tracked applied same distinct)
    intro input _ named
    rw [untargeted] at named
    cases named
  unset := fun none => state.trans (mirrors.unset none)
  lastOut := by
    intro queried
    rw [Log.outTimes_push, List.mem_append]
    rcases lastOut queried with ⟨before, same⟩ | now
    · exact .inl (same ▸ mirrors.lastOut before)
    · exact .inr (by simp [now])

/-- A call that changes one input keeps the barrier a mirror of its log. -/
theorem Mirrors.change {name : String} {streamId : UInt32} {change : InputState → Reply InputState}
    (mirrors : Mirrors barrier log) (target : call.target = some streamId)
    (follows : ∀ state new, state.streamId = streamId → change state = .ok new → Follows call state new)
    (done : barrier.changeInput name streamId change = .ok changed) : Mirrors changed (log.push call) := by
  rw [JoinBarrier.changeInput] at done
  cases inputs : changeState name streamId change barrier.state with
  | error text => simp [inputs, Except.map] at done
  | ok states =>
      simp only [inputs, Except.map, Except.ok.injEq] at done
      subst done
      constructor
      · exact mirrors.carries
      · intro applied same distinct
        exact changeState_tracks target follows (mirrors.tracked applied same distinct) distinct inputs
      · intro none
        rw [mirrors.unset none] at inputs
        cases inputs
      · intro queried
        rw [Log.outTimes_push, List.mem_append]
        exact .inl (mirrors.lastOut queried)

def JoinBarrier.keepOutTime (barrier : JoinBarrier) (outTimeNs : UInt64) : JoinBarrier :=
  { barrier with lastOutTimeNs := outTimeNs, hasLastOutTime := true }

/-- The timestamp query changes nothing but the last output time. -/
theorem isReadyTimestamp_barrier (barrier : JoinBarrier) (outTimeNs : UInt64) (clockDomain : UInt8)
    (nowNs : UInt64) :
    (isReadyTimestamp barrier outTimeNs clockDomain nowNs).2 = barrier ∨
      (isReadyTimestamp barrier outTimeNs clockDomain nowNs).2 = barrier.keepOutTime outTimeNs := by
  rw [isReadyTimestamp]
  split_ifs
  · exact .inl rfl
  · exact .inl rfl
  · exact .inl rfl
  · exact .inl rfl
  · exact .inr rfl

/-- The query of the latest values changes nothing but the last output time. -/
theorem isReadyLatest_barrier (barrier : JoinBarrier) (outSeq outTimeNs : UInt64) (clockDomain : UInt8)
    (nowNs : UInt64) :
    (isReadyLatest barrier outSeq outTimeNs clockDomain nowNs).2 = barrier ∨
      (isReadyLatest barrier outSeq outTimeNs clockDomain nowNs).2 = barrier.keepOutTime outTimeNs := by
  rw [isReadyLatest]
  split_ifs
  · exact .inl rfl
  · exact .inl rfl
  · exact .inl rfl
  · exact .inl rfl
  · exact .inr rfl
  · exact .inl rfl

/-- A query keeps the barrier a mirror of its log. -/
theorem Mirrors.query {outTimeNs : UInt64} (mirrors : Mirrors barrier log) (untargeted : call.target = none)
    (asked : call.outTime? = some outTimeNs)
    (result : changed = barrier ∨ changed = barrier.keepOutTime outTimeNs) :
    Mirrors changed (log.push call) := by
  rcases result with same | kept
  · rw [same]
    exact mirrors.keep untargeted mirrors.carries rfl fun queried => .inl ⟨queried, rfl⟩
  · rw [kept]
    apply Mirrors.keep mirrors untargeted
    · have carries := mirrors.carries
      cases applied : log.applied with
      | none => trivial
      | some map =>
          rw [applied] at carries
          cases map <;> exact carries
    · rfl
    · exact fun _ => .inr asked

/-- One call keeps the agreement of the barrier with the log. -/
theorem Mirrors.perform (mirrors : Mirrors barrier log) (call : Call) :
    Mirrors (perform barrier call).2 (log.record call (Join.perform barrier call).1) := by
  have settles : ∀ reply : Reply JoinBarrier,
      (∀ changed, reply = .ok changed → Mirrors changed (log.record call true)) →
        Mirrors (settle barrier reply).2 (log.record call (settle barrier reply).1) := by
    intro reply keeps
    cases reply with
    | error text => exact mirrors
    | ok changed => exact keeps changed rfl
  cases call with
  | applySequenceMap map =>
      apply settles
      intro changed done
      cases map with
      | none => cases done
      | some map => exact mirrors_applySequence done
  | applyTimestampMap map =>
      apply settles
      intro changed done
      cases map with
      | none => cases done
      | some map => exact mirrors_applyTimestamp done
  | applyLatestValueSequenceMap map =>
      apply settles
      intro changed done
      cases map with
      | none => cases done
      | some map => exact mirrors_applySequence done
  | applyLatestValueTimestampMap map =>
      apply settles
      intro changed done
      cases map with
      | none => cases done
      | some map => exact mirrors_applyTimestamp done
  | updateObservedSeq streamId seq nowNs =>
      apply settles
      intro changed done
      exact mirrors.change rfl (fun state new named done => named ▸ observeSeq_follows done) done
  | updateProcessedSeq streamId seq nowNs =>
      apply settles
      intro changed done
      exact mirrors.change rfl (fun state new named done => named ▸ processSeq_follows done) done
  | updateObservedTime streamId timestampNs source clockDomain nowNs =>
      apply settles
      intro changed done
      exact mirrors.change rfl (fun state new named done => named ▸ observeTime_follows done) done
  | updateProcessedTime streamId timestampNs source clockDomain nowNs =>
      apply settles
      intro changed done
      exact mirrors.change rfl (fun state new named done => named ▸ processTime_follows done) done
  | invalidateLatest streamId =>
      apply settles
      intro changed done
      apply mirrors.change rfl _ done
      intro state new named done
      cases done
      exact named ▸ follows_invalidate
  | isReadySequence outSeq nowNs => exact mirrors.keep rfl mirrors.carries rfl fun queried => .inl ⟨queried, rfl⟩
  | isReadyTimestamp outTimeNs clockDomain nowNs =>
      exact mirrors.query rfl rfl (isReadyTimestamp_barrier barrier outTimeNs clockDomain nowNs)
  | isReadyLatest outSeq outTimeNs clockDomain nowNs =>
      exact mirrors.query rfl rfl (isReadyLatest_barrier barrier outSeq outTimeNs clockDomain nowNs)
  | setAllowStale allowStale => exact mirrors.keep rfl mirrors.carries rfl fun queried => .inl ⟨queried, rfl⟩
  | setRequireProcessed requireProcessed =>
      exact mirrors.keep rfl mirrors.carries rfl fun queried => .inl ⟨queried, rfl⟩
  | setLatestOrdering ordering =>
      exact mirrors.keep rfl mirrors.carries rfl fun queried => .inl ⟨queried, rfl⟩

end Steps

/-- A new barrier mirrors the empty log. -/
theorem mirrors_fresh (type : BarrierType) (ruleCapacity : Nat) : Mirrors { type, ruleCapacity } {} where
  carries := trivial
  tracked := fun _ absent => nomatch absent
  unset := fun _ => rfl
  lastOut := fun absent => nomatch absent

theorem settle_type {barrier : JoinBarrier} {reply : Reply JoinBarrier}
    (keeps : ∀ changed, reply = .ok changed → changed.type = barrier.type) :
    (settle barrier reply).2.type = barrier.type := by
  cases reply with
  | error text => rfl
  | ok changed => exact keeps changed rfl

theorem changeInput_type {barrier changed : JoinBarrier} {name : String} {streamId : UInt32}
    {change : InputState → Reply InputState}
    (done : barrier.changeInput name streamId change = .ok changed) : changed.type = barrier.type := by
  rw [JoinBarrier.changeInput] at done
  cases inputs : changeState name streamId change barrier.state with
  | error text => simp [inputs, Except.map] at done
  | ok states =>
      simp only [inputs, Except.map, Except.ok.injEq] at done
      rw [← done]

theorem applySequence_type {name : String} {type : BarrierType} {barrier changed : JoinBarrier}
    {map : Option SequenceMergeMap} (done : applySequence name type barrier map = .ok changed) :
    changed.type = barrier.type := by
  cases map with
  | none => cases done
  | some map =>
      rw [applySequence] at done
      split_ifs at done
      cases done
      rfl

theorem applyTimestamp_type {name : String} {type : BarrierType} {barrier changed : JoinBarrier}
    {map : Option TimestampMergeMap} (done : applyTimestamp name type barrier map = .ok changed) :
    changed.type = barrier.type := by
  cases map with
  | none => cases done
  | some map =>
      rw [applyTimestamp] at done
      split at done
      · cases done
      split at done
      · cases done
      · cases done
        rfl

/-- No call changes the type of the barrier. -/
theorem perform_type (barrier : JoinBarrier) (call : Call) : (perform barrier call).2.type = barrier.type := by
  cases call with
  | applySequenceMap map => exact settle_type fun _ => applySequence_type
  | applyTimestampMap map => exact settle_type fun _ => applyTimestamp_type
  | applyLatestValueSequenceMap map => exact settle_type fun _ => applySequence_type
  | applyLatestValueTimestampMap map => exact settle_type fun _ => applyTimestamp_type
  | updateObservedSeq streamId seq nowNs => exact settle_type fun _ => changeInput_type
  | updateProcessedSeq streamId seq nowNs => exact settle_type fun _ => changeInput_type
  | updateObservedTime streamId timestampNs source clockDomain nowNs =>
      exact settle_type fun _ => changeInput_type
  | updateProcessedTime streamId timestampNs source clockDomain nowNs =>
      exact settle_type fun _ => changeInput_type
  | invalidateLatest streamId => exact settle_type fun _ => changeInput_type
  | isReadyTimestamp outTimeNs clockDomain nowNs =>
      simp only [perform]
      rcases isReadyTimestamp_barrier barrier outTimeNs clockDomain nowNs with same | same
      · rw [same]
      · rw [same, JoinBarrier.keepOutTime]
  | isReadyLatest outSeq outTimeNs clockDomain nowNs =>
      simp only [perform]
      rcases isReadyLatest_barrier barrier outSeq outTimeNs clockDomain nowNs with same | same
      · rw [same]
      · rw [same, JoinBarrier.keepOutTime]
  | isReadySequence _ _ | setAllowStale _ | setRequireProcessed _ | setLatestOrdering _ => rfl

/-- The barrier of a history has the type that it was made with. -/
theorem history_type (type : BarrierType) (ruleCapacity : Nat) (calls : List Call) :
    (history type ruleCapacity calls).1.type = type := by
  have keeps : ∀ past : JoinBarrier × Log, (calls.foldl advance past).1.type = past.1.type := by
    induction calls with
    | nil => exact fun _ => rfl
    | cons call calls hypothesis =>
        intro past
        exact (hypothesis (advance past call)).trans (perform_type past.1 call)
  exact keeps _

/-- A history keeps the barrier a mirror of its log. -/
theorem advance_mirrors (calls : List Call) (past : JoinBarrier × Log) (mirrors : Mirrors past.1 past.2) :
    Mirrors (calls.foldl advance past).1 (calls.foldl advance past).2 := by
  induction calls generalizing past with
  | nil => exact mirrors
  | cons call calls hypothesis => exact hypothesis (advance past call) (mirrors.perform call)

/-- Along every history the barrier holds what the log says. -/
theorem history_mirrors (type : BarrierType) (ruleCapacity : Nat) (calls : List Call) :
    Mirrors (history type ruleCapacity calls).1 (history type ruleCapacity calls).2 :=
  advance_mirrors calls _ (mirrors_fresh type ruleCapacity)

/-- A property of the pairs is one of the left items when the pairing decides it. -/
theorem forall_zip_iff {α β : Type} {R : α → β → Prop} {P : α × β → Prop} {Q : α → Prop} {left : List α}
    {right : List β} (paired : List.Forall₂ R left right)
    (decides : ∀ item ∈ left, ∀ other, R item other → (P (item, other) ↔ Q item)) :
    (∀ pair ∈ left.zip right, P pair) ↔ ∀ item ∈ left, Q item := by
  induction paired with
  | nil => simp
  | cons related _ hypothesis =>
      rw [List.zip_cons_cons, List.forall_mem_cons, List.forall_mem_cons,
        decides _ List.mem_cons_self _ related,
        hypothesis fun item present => decides item (List.mem_cons_of_mem _ present)]

/-- A property of the right items is one of the left items when the pairing decides it. -/
theorem forall_right_iff {α β : Type} {R : α → β → Prop} {P : α → Prop} {Q : β → Prop} {left : List α}
    {right : List β} (paired : List.Forall₂ R left right)
    (decides : ∀ item ∈ left, ∀ other ∈ right, R item other → (Q other ↔ P item)) :
    (∀ other ∈ right, Q other) ↔ ∀ item ∈ left, P item := by
  induction paired with
  | nil => simp
  | cons related _ hypothesis =>
      rw [List.forall_mem_cons, List.forall_mem_cons, decides _ List.mem_cons_self _ List.mem_cons_self related,
        hypothesis fun item inside other present =>
          decides item (List.mem_cons_of_mem _ inside) other (List.mem_cons_of_mem _ present)]

theorem paired_mem {α β : Type} {R : α → β → Prop} {left : List α} {right : List β}
    (paired : List.Forall₂ R left right) {item : α} (present : item ∈ left) : ∃ other ∈ right, R item other := by
  induction paired with
  | nil => cases present
  | cons related _ hypothesis =>
      rcases List.mem_cons.mp present with rfl | later
      · exact ⟨_, List.mem_cons_self, related⟩
      · obtain ⟨other, inside, found⟩ := hypothesis later
        exact ⟨other, List.mem_cons_of_mem _ inside, found⟩

/-- Without a timeout no input is stale. -/
theorem isStale_absent {barrier : JoinBarrier} (absent : barrier.staleTimeoutNs = nullU64)
    (state : InputState) (nowNs : UInt64) : isStale barrier state nowNs = false := by
  simp [isStale, absent]

end TensorPool.Join
