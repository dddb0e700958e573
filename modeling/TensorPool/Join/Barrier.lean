/-
This file holds the join barrier and its operations.
-/

import TensorPool.Merge.Types

namespace TensorPool.Join

open TensorPool.Merge

inductive BarrierType where
  | sequence
  | timestamp
  | latestValue
  deriving DecidableEq, Repr

inductive LatestOrdering where
  | sequence
  | timestamp
  deriving DecidableEq, Repr

structure InputState where
  streamId : UInt32
  timestampSource : TimestampSource := 0
  observedSeq : UInt64 := 0
  processedSeq : UInt64 := 0
  observedTimeNs : UInt64 := 0
  processedTimeNs : UInt64 := 0
  minSeqInEpoch : UInt64 := 0
  lastObservedUpdateNs : UInt64 := 0
  lastProcessedUpdateNs : UInt64 := 0
  hasObservedSeq : Bool := false
  hasProcessedSeq : Bool := false
  hasObservedTime : Bool := false
  hasProcessedTime : Bool := false
  hasMinSeqInEpoch : Bool := false
  latestValid : Bool := false
  deriving DecidableEq, Repr

structure LatestSelection where
  streamId : UInt32
  seq : UInt64
  timestampNs : UInt64
  timestampSource : TimestampSource
  deriving DecidableEq, Repr

/-- The rule and state lists hold the first `rule_count` entries of the arrays. -/
structure JoinBarrier where
  type : BarrierType
  outStreamId : UInt32 := 0
  epoch : UInt64 := 0
  staleTimeoutNs : UInt64 := nullU64
  latenessNs : UInt64 := nullU64
  lastOutTimeNs : UInt64 := 0
  clockDomain : UInt8 := 0
  allowStale : Bool := false
  requireProcessed : Bool := false
  hasLastOutTime : Bool := false
  latestOrdering : LatestOrdering := .sequence
  ruleCapacity : Nat
  sequenceRules : List SequenceMergeRule := []
  timestampRules : List TimestampMergeRule := []
  state : List InputState := []
  deriving DecidableEq, Repr

/-- A failure carries the text that the code sets, when it sets one. -/
abbrev Reply (α : Type) := Except (Option String) α

def JoinBarrier.ruleCount (barrier : JoinBarrier) : Nat := barrier.state.length

def JoinBarrier.clear (barrier : JoinBarrier) : JoinBarrier :=
  { barrier with
    outStreamId := 0
    epoch := 0
    staleTimeoutNs := nullU64
    latenessNs := nullU64
    lastOutTimeNs := 0
    clockDomain := 0
    hasLastOutTime := false
    sequenceRules := []
    timestampRules := []
    state := [] }

/-- The allocations of the three arrays either all succeed or the call fails. -/
def JoinBarrier.init (type : BarrierType) (ruleCapacity : Nat) (allocated : Bool) : Reply JoinBarrier :=
  if ruleCapacity = 0 then
    .error (some "tp_join_barrier_init: invalid input")
  else if !allocated then
    .error none
  else
    .ok { type, ruleCapacity }

def JoinBarrier.setAllowStale (barrier : JoinBarrier) (allowStale : Bool) : JoinBarrier :=
  { barrier with allowStale }

def JoinBarrier.setRequireProcessed (barrier : JoinBarrier) (requireProcessed : Bool) : JoinBarrier :=
  { barrier with requireProcessed }

def JoinBarrier.setLatestOrdering (barrier : JoinBarrier) (ordering : LatestOrdering) : JoinBarrier :=
  { barrier with latestOrdering := ordering }

def loadSequenceRules (barrier : JoinBarrier) (map : SequenceMergeMap) : JoinBarrier :=
  { barrier with
    sequenceRules := map.rules
    state := map.rules.map fun rule => { streamId := rule.inputStreamId } }

def loadTimestampRules (barrier : JoinBarrier) (map : TimestampMergeMap) : JoinBarrier :=
  { barrier with
    timestampRules := map.rules
    state := map.rules.map fun rule =>
      { streamId := rule.inputStreamId, timestampSource := rule.timestampSource } }

/-- Both functions that apply a sequence map differ only in the barrier type and in their name. -/
def applySequence (name : String) (type : BarrierType) (barrier : JoinBarrier) :
    Option SequenceMergeMap → Reply JoinBarrier
  | none => .error (some (name ++ ": invalid input"))
  | some map =>
    if barrier.ruleCapacity < map.rules.length then
      .error (some (name ++ ": rule capacity exceeded"))
    else if barrier.type ≠ type then
      .error (some (name ++ ": barrier type mismatch"))
    else
      .ok (loadSequenceRules
        { barrier.clear with
          outStreamId := map.outStreamId
          epoch := map.epoch
          staleTimeoutNs := map.staleTimeoutNs } map)

def applyTimestamp (name : String) (type : BarrierType) (barrier : JoinBarrier) :
    Option TimestampMergeMap → Reply JoinBarrier
  | none => .error (some (name ++ ": invalid input"))
  | some map =>
    if barrier.ruleCapacity < map.rules.length then
      .error (some (name ++ ": rule capacity exceeded"))
    else if barrier.type ≠ type then
      .error (some (name ++ ": barrier type mismatch"))
    else
      .ok (loadTimestampRules
        { barrier.clear with
          outStreamId := map.outStreamId
          epoch := map.epoch
          staleTimeoutNs := map.staleTimeoutNs
          latenessNs := if map.latenessNs = nullU64 then 0 else map.latenessNs
          clockDomain := map.clockDomain } map)

/-- A missing argument stands for a null map and for a map with a null rule array. -/
def applySequenceMap (barrier : JoinBarrier) (map : Option SequenceMergeMap) : Reply JoinBarrier :=
  applySequence "tp_join_barrier_apply_sequence_map" .sequence barrier map

def applyTimestampMap (barrier : JoinBarrier) (map : Option TimestampMergeMap) : Reply JoinBarrier :=
  applyTimestamp "tp_join_barrier_apply_timestamp_map" .timestamp barrier map

def applyLatestValueSequenceMap (barrier : JoinBarrier) (map : Option SequenceMergeMap) :
    Reply JoinBarrier :=
  applySequence "tp_join_barrier_apply_latest_value_sequence_map" .latestValue barrier map

def applyLatestValueTimestampMap (barrier : JoinBarrier) (map : Option TimestampMergeMap) :
    Reply JoinBarrier :=
  applyTimestamp "tp_join_barrier_apply_latest_value_timestamp_map" .latestValue barrier map

/-- The change is made to the first input of the stream, which is the one `find_state` returns. -/
def changeState (name : String) (streamId : UInt32) (change : InputState → Reply InputState) :
    List InputState → Reply (List InputState)
  | [] => .error (some (name ++ ": stream not tracked"))
  | state :: rest =>
    if state.streamId = streamId then
      (change state).map (· :: rest)
    else
      (changeState name streamId change rest).map (state :: ·)

def JoinBarrier.changeInput (barrier : JoinBarrier) (name : String) (streamId : UInt32)
    (change : InputState → Reply InputState) : Reply JoinBarrier :=
  (changeState name streamId change barrier.state).map fun state => { barrier with state }

def observeSeq (seq nowNs : UInt64) (state : InputState) : Reply InputState :=
  if state.hasObservedSeq ∧ seq < state.observedSeq then
    .error (some "tp_join_barrier_update_observed_seq: seq regression")
  else
    .ok { state with
      observedSeq := seq
      hasObservedSeq := true
      minSeqInEpoch := if state.hasMinSeqInEpoch then state.minSeqInEpoch else seq
      hasMinSeqInEpoch := true
      latestValid := true
      lastObservedUpdateNs := nowNs }

def updateObservedSeq (barrier : JoinBarrier) (streamId : UInt32) (seq nowNs : UInt64) :
    Reply JoinBarrier :=
  barrier.changeInput "tp_join_barrier_update_observed_seq" streamId (observeSeq seq nowNs)

def processSeq (seq nowNs : UInt64) (state : InputState) : Reply InputState :=
  if state.hasProcessedSeq ∧ seq < state.processedSeq then
    .error (some "tp_join_barrier_update_processed_seq: seq regression")
  else
    .ok { state with
      processedSeq := seq
      hasProcessedSeq := true
      lastProcessedUpdateNs := nowNs }

def updateProcessedSeq (barrier : JoinBarrier) (streamId : UInt32) (seq nowNs : UInt64) :
    Reply JoinBarrier :=
  barrier.changeInput "tp_join_barrier_update_processed_seq" streamId (processSeq seq nowNs)

def validateTimestampUpdate (barrier : JoinBarrier) (state : InputState) (source : TimestampSource)
    (clockDomain : UInt8) : Reply Unit :=
  if barrier.clockDomain ≠ 0 ∧ clockDomain ≠ barrier.clockDomain then
    .error (some "tp_join_barrier: clock domain mismatch")
  else if state.timestampSource ≠ 0 ∧ source ≠ state.timestampSource then
    .error (some "tp_join_barrier: timestamp source mismatch")
  else
    .ok ()

def observeTime (barrier : JoinBarrier) (timestampNs : UInt64) (source : TimestampSource)
    (clockDomain : UInt8) (nowNs : UInt64) (state : InputState) : Reply InputState :=
  match validateTimestampUpdate barrier state source clockDomain with
  | .error text => .error text
  | .ok () =>
    if timestampNs = nullU64 then
      .ok state
    else if state.hasObservedTime ∧ timestampNs < state.observedTimeNs then
      .error (some "tp_join_barrier_update_observed_time: time regression")
    else
      .ok { state with
        observedTimeNs := timestampNs
        hasObservedTime := true
        latestValid := true
        lastObservedUpdateNs := nowNs }

def updateObservedTime (barrier : JoinBarrier) (streamId : UInt32) (timestampNs : UInt64)
    (source : TimestampSource) (clockDomain : UInt8) (nowNs : UInt64) : Reply JoinBarrier :=
  barrier.changeInput "tp_join_barrier_update_observed_time" streamId
    (observeTime barrier timestampNs source clockDomain nowNs)

def processTime (barrier : JoinBarrier) (timestampNs : UInt64) (source : TimestampSource)
    (clockDomain : UInt8) (nowNs : UInt64) (state : InputState) : Reply InputState :=
  match validateTimestampUpdate barrier state source clockDomain with
  | .error text => .error text
  | .ok () =>
    if timestampNs = nullU64 then
      .ok state
    else if state.hasProcessedTime ∧ timestampNs < state.processedTimeNs then
      .error (some "tp_join_barrier_update_processed_time: time regression")
    else
      .ok { state with
        processedTimeNs := timestampNs
        hasProcessedTime := true
        lastProcessedUpdateNs := nowNs }

def updateProcessedTime (barrier : JoinBarrier) (streamId : UInt32) (timestampNs : UInt64)
    (source : TimestampSource) (clockDomain : UInt8) (nowNs : UInt64) : Reply JoinBarrier :=
  barrier.changeInput "tp_join_barrier_update_processed_time" streamId
    (processTime barrier timestampNs source clockDomain nowNs)

def invalidateLatest (barrier : JoinBarrier) (streamId : UInt32) : Reply JoinBarrier :=
  barrier.changeInput "tp_join_barrier_invalidate_latest" streamId fun state =>
    .ok { state with latestValid := false }

/-- The difference wraps around when the clock is behind the last update. -/
def isStale (barrier : JoinBarrier) (state : InputState) (nowNs : UInt64) : Bool :=
  if !barrier.allowStale || barrier.staleTimeoutNs == nullU64 then
    false
  else if state.lastObservedUpdateNs == 0 then
    false
  else
    barrier.staleTimeoutNs < nowNs - state.lastObservedUpdateNs

/-- A capacity of zero also stands for a null array, and then the call only counts. -/
def collectStaleInputs (barrier : JoinBarrier) (nowNs : UInt64) (capacity : Nat) :
    Reply (Nat × List UInt32) :=
  if !barrier.allowStale || barrier.staleTimeoutNs == nullU64 || barrier.ruleCount == 0 then
    .ok (0, [])
  else
    let stale := barrier.state.filter fun state => isStale barrier state nowNs
    if capacity = 0 then
      .ok (stale.length, [])
    else if capacity < stale.length then
      .error (some "tp_join_barrier_collect_stale_inputs: capacity too small")
    else
      .ok (stale.length, stale.map InputState.streamId)

def sequenceReached (barrier : JoinBarrier) (state : InputState) (requiredSeq : Int64) : Bool :=
  if state.observedSeq < requiredSeq.toUInt64 then
    false
  else if barrier.requireProcessed then
    state.hasProcessedSeq && !(state.processedSeq < requiredSeq.toUInt64 : Bool)
  else
    true

/-- The signed sum wraps around as two's complement. -/
def sequenceReadyForRule (barrier : JoinBarrier) (state : InputState) (rule : SequenceMergeRule)
    (outSeq : UInt64) : Reply Bool :=
  if !state.hasObservedSeq then
    .ok false
  else match rule.ruleType with
    | .offset =>
      let requiredSeq := outSeq.toInt64 + rule.offset.toInt64
      if requiredSeq < 0 then
        .ok false
      else
        .ok (sequenceReached barrier state requiredSeq)
    | .window =>
      if rule.windowSize = 0 then
        .ok false
      else if outSeq + 1 < rule.windowSize.toUInt64 then
        .ok false
      else
        .ok (sequenceReached barrier state outSeq.toInt64)
    | .unknown => .error (some "tp_join_barrier_is_ready_sequence: invalid rule")

/-- The loop skips stale inputs and stops at the first one that is not ready. -/
def readyAll {α : Type} (stale : α → Bool) (ready : α → Reply Bool) : List α → Reply Bool
  | [] => .ok true
  | item :: rest =>
    if stale item then
      readyAll stale ready rest
    else match ready item with
      | .ok true => readyAll stale ready rest
      | reply => reply

theorem readyAll_true_iff {α : Type} {stale : α → Bool} {ready : α → Reply Bool} {items : List α} :
    readyAll stale ready items = .ok true ↔ ∀ item ∈ items, stale item = false → ready item = .ok true := by
  induction items with
  | nil => simp [readyAll]
  | cons item items hypothesis =>
      rw [readyAll, List.forall_mem_cons, ← hypothesis]
      cases old : stale item with
      | true => simp
      | false =>
          simp only [Bool.false_eq_true, if_false, true_implies]
          split
          · simp_all
          · simp_all

/-- A failure of the loop is the failure of one of the items. -/
theorem readyAll_error {α : Type} {stale : α → Bool} {ready : α → Reply Bool} {items : List α}
    {text : Option String} (failed : readyAll stale ready items = .error text) :
    ∃ item ∈ items, ready item = .error text := by
  induction items with
  | nil => cases failed
  | cons item items hypothesis =>
      rw [readyAll] at failed
      split at failed
      · obtain ⟨found, present, same⟩ := hypothesis failed
        exact ⟨found, List.mem_cons_of_mem _ present, same⟩
      split at failed
      · obtain ⟨found, present, same⟩ := hypothesis failed
        exact ⟨found, List.mem_cons_of_mem _ present, same⟩
      · exact ⟨item, List.mem_cons_self, failed⟩

def sequenceRulesReady (barrier : JoinBarrier) (outSeq nowNs : UInt64) : Reply Bool :=
  readyAll (fun pair : SequenceMergeRule × InputState => isStale barrier pair.2 nowNs)
    (fun pair => sequenceReadyForRule barrier pair.2 pair.1 outSeq)
    (barrier.sequenceRules.zip barrier.state)

def isReadySequence (barrier : JoinBarrier) (outSeq nowNs : UInt64) : Reply Bool :=
  if barrier.type ≠ .sequence then
    .error (some "tp_join_barrier_is_ready_sequence: invalid barrier")
  else if barrier.ruleCount = 0 then
    .ok false
  else
    sequenceRulesReady barrier outSeq nowNs

def timeReached (barrier : JoinBarrier) (state : InputState) (lateness : UInt64) (requiredTime : Int64) :
    Bool :=
  if state.observedTimeNs + lateness < requiredTime.toUInt64 then
    false
  else if barrier.requireProcessed then
    state.hasProcessedTime && !(state.processedTimeNs + lateness < requiredTime.toUInt64 : Bool)
  else
    true

/-- The signed sum, the negated offset and the sums with the lateness all wrap around. -/
def timestampReadyForRule (barrier : JoinBarrier) (state : InputState) (rule : TimestampMergeRule)
    (outTimeNs : UInt64) : Reply Bool :=
  let lateness := if barrier.latenessNs = nullU64 then 0 else barrier.latenessNs
  if !state.hasObservedTime then
    .ok false
  else match rule.ruleType with
    | .offset =>
      let requiredTime := outTimeNs.toInt64 + rule.offsetNs
      if requiredTime < 0 then
        let threshold := if rule.offsetNs < 0 then lateness + (-rule.offsetNs).toUInt64 else lateness
        if outTimeNs < threshold then
          .ok false
        else
          .ok (timeReached barrier state lateness 0)
      else
        .ok (timeReached barrier state lateness requiredTime)
    | .window =>
      if rule.windowNs = 0 then
        .error none
      else if outTimeNs < rule.windowNs then
        .ok false
      else
        .ok (timeReached barrier state lateness outTimeNs.toInt64)
    | .unknown => .error none

def timestampRulesReady (barrier : JoinBarrier) (outTimeNs nowNs : UInt64) : Reply Bool :=
  readyAll (fun pair : TimestampMergeRule × InputState => isStale barrier pair.2 nowNs)
    (fun pair => timestampReadyForRule barrier pair.2 pair.1 outTimeNs)
    (barrier.timestampRules.zip barrier.state)

/-- The call keeps the queried time once the time passes the two checks. -/
def isReadyTimestamp (barrier : JoinBarrier) (outTimeNs : UInt64) (clockDomain : UInt8) (nowNs : UInt64) :
    Reply Bool × JoinBarrier :=
  if barrier.type ≠ .timestamp then
    (.error (some "tp_join_barrier_is_ready_timestamp: invalid barrier"), barrier)
  else if barrier.ruleCount = 0 then
    (.ok false, barrier)
  else if barrier.clockDomain ≠ 0 ∧ clockDomain ≠ barrier.clockDomain then
    (.error (some "tp_join_barrier_is_ready_timestamp: clock domain mismatch"), barrier)
  else if barrier.hasLastOutTime ∧ outTimeNs < barrier.lastOutTimeNs then
    (.error (some "tp_join_barrier_is_ready_timestamp: out_time regression"), barrier)
  else
    let barrier := { barrier with lastOutTimeNs := outTimeNs, hasLastOutTime := true }
    (timestampRulesReady barrier outTimeNs nowNs, barrier)

def latestInputReady (barrier : JoinBarrier) (state : InputState) (outTimeNs : UInt64)
    (clockDomain : UInt8) : Reply Bool :=
  if barrier.latestOrdering = .sequence ∧ !state.hasObservedSeq then
    .ok false
  else if barrier.latestOrdering = .timestamp ∧ !state.hasObservedTime then
    .ok false
  else if barrier.clockDomain ≠ 0 ∧ clockDomain ≠ barrier.clockDomain then
    .error (some "tp_join_barrier_is_ready_latest: clock domain mismatch")
  else if barrier.latestOrdering = .timestamp ∧ state.timestampSource = 0 then
    .error (some "tp_join_barrier_is_ready_latest: timestamp source missing")
  else if !state.latestValid then
    .ok false
  else if !state.hasObservedSeq ∧ !state.hasObservedTime then
    .ok false
  else if barrier.clockDomain ≠ 0 ∧ !state.hasObservedTime then
    .ok false
  else if !state.hasMinSeqInEpoch then
    .ok false
  else if state.hasObservedSeq ∧ state.observedSeq < state.minSeqInEpoch then
    .ok false
  else if state.hasObservedTime ∧ 0 < state.observedTimeNs ∧ outTimeNs = 0 then
    .ok false
  else
    .ok true

def latestInputsReady (barrier : JoinBarrier) (outTimeNs : UInt64) (clockDomain : UInt8)
    (nowNs : UInt64) : Reply Bool :=
  readyAll (fun state => isStale barrier state nowNs)
    (fun state => latestInputReady barrier state outTimeNs clockDomain) barrier.state

/-- The source does not read its output sequence. -/
def isReadyLatest (barrier : JoinBarrier) (_outSeq outTimeNs : UInt64) (clockDomain : UInt8)
    (nowNs : UInt64) : Reply Bool × JoinBarrier :=
  if barrier.type ≠ .latestValue then
    (.error (some "tp_join_barrier_is_ready_latest: invalid barrier"), barrier)
  else if barrier.ruleCount = 0 then
    (.ok false, barrier)
  else if barrier.latestOrdering = .timestamp ∧ barrier.clockDomain = 0 then
    (.error (some "tp_join_barrier_is_ready_latest: timestamp ordering requires clock domain"), barrier)
  else if barrier.latestOrdering = .timestamp ∧ barrier.hasLastOutTime ∧
      outTimeNs < barrier.lastOutTimeNs then
    (.error (some "tp_join_barrier_is_ready_latest: out_time regression"), barrier)
  else
    let barrier := if barrier.latestOrdering = .timestamp
      then { barrier with lastOutTimeNs := outTimeNs, hasLastOutTime := true } else barrier
    (latestInputsReady barrier outTimeNs clockDomain nowNs, barrier)

def InputState.selection (state : InputState) : LatestSelection where
  streamId := state.streamId
  seq := state.observedSeq
  timestampNs := state.observedTimeNs
  timestampSource := state.timestampSource

def selectLatest (barrier : JoinBarrier) (state : InputState) : Reply LatestSelection :=
  if !state.latestValid || !state.hasMinSeqInEpoch then
    .error (some "tp_join_barrier_collect_latest: latest not ready")
  else if barrier.latestOrdering = .sequence ∧ !state.hasObservedSeq then
    .error (some "tp_join_barrier_collect_latest: missing sequence")
  else if barrier.latestOrdering = .timestamp ∧ !state.hasObservedTime then
    .error (some "tp_join_barrier_collect_latest: missing timestamp")
  else if barrier.latestOrdering = .timestamp ∧ state.timestampSource = 0 then
    .error (some "tp_join_barrier_collect_latest: timestamp source missing")
  else
    .ok state.selection

def selectEach (barrier : JoinBarrier) : List InputState → Reply (List LatestSelection)
  | [] => .ok []
  | state :: rest =>
    match selectLatest barrier state with
    | .error text => .error text
    | .ok selection => (selectEach barrier rest).map (selection :: ·)

def collectLatest (barrier : JoinBarrier) (capacity : Nat) : Reply (List LatestSelection) :=
  if barrier.type ≠ .latestValue then
    .error (some "tp_join_barrier_collect_latest: invalid barrier")
  else if capacity < barrier.ruleCount then
    .error (some "tp_join_barrier_collect_latest: capacity too small")
  else if barrier.latestOrdering = .timestamp ∧ barrier.clockDomain = 0 then
    .error (some "tp_join_barrier_collect_latest: timestamp ordering requires clock domain")
  else
    selectEach barrier barrier.state

end TensorPool.Join
