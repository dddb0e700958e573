/-
This file compares a join over a map with the joins over its single rules.
-/

import TensorPool.Join.Cursors

namespace TensorPool.Join

open TensorPool.Merge

/-- A map is applied by the function for the type of the barrier. -/
def AppliedMap.applyTo (barrier : JoinBarrier) : AppliedMap → Reply JoinBarrier
  | .sequence map =>
    if barrier.type = .latestValue then applyLatestValueSequenceMap barrier (some map)
    else applySequenceMap barrier (some map)
  | .timestamp map =>
    if barrier.type = .latestValue then applyLatestValueTimestampMap barrier (some map)
    else applyTimestampMap barrier (some map)

/-- The map has one rule of the other map. -/
def AppliedMap.only (index : Nat) : AppliedMap → AppliedMap
  | .sequence map => .sequence { map with rules := map.rules[index]?.toList }
  | .timestamp map => .timestamp { map with rules := map.rules[index]?.toList }

structure Query where
  outSeq : UInt64
  outTimeNs : UInt64
  clockDomain : UInt8
  nowNs : UInt64
  deriving DecidableEq, Repr

/-- A barrier is asked by the readiness function for its type. -/
def JoinBarrier.isReady (barrier : JoinBarrier) (query : Query) : Reply Bool :=
  match barrier.type with
  | .sequence => isReadySequence barrier query.outSeq query.nowNs
  | .timestamp => (isReadyTimestamp barrier query.outTimeNs query.clockDomain query.nowNs).1
  | .latestValue => (isReadyLatest barrier query.outSeq query.outTimeNs query.clockDomain query.nowNs).1

def afterCalls (barrier : JoinBarrier) (calls : List Call) : JoinBarrier :=
  calls.foldl (fun past call => (perform past call).2) barrier

/-- The barrier takes the map and the calls and is then ready. -/
def ReadyAfter (barrier : JoinBarrier) (map : AppliedMap) (calls : List Call) (query : Query) : Prop :=
  ∃ loaded, map.applyTo barrier = .ok loaded ∧ (afterCalls loaded calls).isReady query = .ok true

/-- The barrier is ready exactly when it is ready for each of its rules alone. -/
def ReadyPerRule (barrier : JoinBarrier) (map : AppliedMap) (calls : List Call) (query : Query) : Prop :=
  ReadyAfter barrier map calls query ↔
    ∀ index < map.inputs.length, ReadyAfter barrier (map.only index) calls query

/-- The query asks in the clock domain of the barrier, and not for an earlier time than a kept one. -/
def JoinBarrier.Admits (barrier : JoinBarrier) (query : Query) : Prop :=
  match barrier.type with
  | .sequence => True
  | .timestamp =>
    (barrier.clockDomain ≠ 0 → query.clockDomain = barrier.clockDomain) ∧
      (barrier.hasLastOutTime = true → barrier.lastOutTimeNs ≤ query.outTimeNs)
  | .latestValue =>
    barrier.latestOrdering = .timestamp →
      barrier.clockDomain ≠ 0 ∧ (barrier.hasLastOutTime = true → barrier.lastOutTimeNs ≤ query.outTimeNs)

/-- A sequence map is applied to a sequence or latest-value join, and a timestamp map likewise. -/
def AppliedMap.Suits (type : BarrierType) : AppliedMap → Prop
  | .sequence _ => type ≠ .timestamp
  | .timestamp _ => type ≠ .sequence

/-- Each input of the map that is not skipped has cursors that are enough for its rule. -/
def CursorsSuffice (barrier : JoinBarrier) (log : Log) (query : Query) (map : AppliedMap) : Prop :=
  match barrier.type, map with
  | .sequence, .sequence map =>
    ∀ rule ∈ map.rules, ¬InputSkipped barrier log query.nowNs rule.inputStreamId →
      CursorsReached barrier.requireProcessed 0 (log.observedSeqs rule.inputStreamId)
        (log.processedSeqs rule.inputStreamId) (requiredSeq rule query.outSeq)
  | .timestamp, .timestamp map =>
    ∀ rule ∈ map.rules, ¬InputSkipped barrier log query.nowNs rule.inputStreamId →
      CursorsReached barrier.requireProcessed barrier.lateness (log.observedTimes rule.inputStreamId)
        (log.processedTimes rule.inputStreamId) (requiredTime rule barrier.lateness query.outTimeNs)
  | .latestValue, map =>
    ∀ input ∈ map.inputs, ¬InputSkipped barrier log query.nowNs input.1 →
      LatestReached barrier log query.outTimeNs query.clockDomain input
  | _, _ => False

/-- The barrier has one rule of the other barrier with its input. -/
def JoinBarrier.only (barrier : JoinBarrier) (index : Nat) : JoinBarrier :=
  { barrier with
    sequenceRules := barrier.sequenceRules[index]?.toList
    timestampRules := barrier.timestampRules[index]?.toList
    state := barrier.state[index]?.toList }

/-- The rule alone takes the calls, and its log keeps those that it accepts. -/
def aloneAfter (loaded : JoinBarrier) (map : AppliedMap) (calls : List Call) (index : Nat) : JoinBarrier × Log :=
  calls.foldl advance (loaded.only index, { applied := some (map.only index) })

/-- The calls leave cursors for the input of the rule that are enough for the rule. -/
def RuleReached (loaded : JoinBarrier) (map : AppliedMap) (calls : List Call) (query : Query) (index : Nat) : Prop :=
  (aloneAfter loaded map calls index).1.Admits query ∧
    CursorsSuffice (aloneAfter loaded map calls index).1 (aloneAfter loaded map calls index).2 query (map.only index)

/-- The input after an update that may be refused. -/
def settleInput (streamId : UInt32) (change : InputState → Reply InputState) (state : InputState) : InputState :=
  if state.streamId = streamId then (change state).toOption.getD state else state

section Load

variable {barrier loaded : JoinBarrier} {index : Nat}

/-- A part of an accepted sequence map is accepted, and it loads that part. -/
theorem applySequence_only {name : String} {type : BarrierType} {map : SequenceMergeMap}
    (done : applySequence name type barrier (some map) = .ok loaded) (inside : index < map.rules.length) :
    applySequence name type barrier (some { map with rules := map.rules[index]?.toList }) =
      .ok (loaded.only index) := by
  rw [applySequence] at done ⊢
  split_ifs at done with full other
  cases done
  have room : ¬ barrier.ruleCapacity < (map.rules[index]?.toList).length := by
    rw [List.getElem?_eq_getElem inside, Option.toList_some, List.length_singleton]
    omega
  rw [if_neg room, if_neg other]
  simp only [loadSequenceRules, JoinBarrier.only, JoinBarrier.clear, List.getElem?_map, Option.toList_map,
    List.getElem?_nil, Option.toList_none]

/-- A part of an accepted timestamp map is accepted, and it loads that part. -/
theorem applyTimestamp_only {name : String} {type : BarrierType} {map : TimestampMergeMap}
    (done : applyTimestamp name type barrier (some map) = .ok loaded) (inside : index < map.rules.length) :
    applyTimestamp name type barrier (some { map with rules := map.rules[index]?.toList }) =
      .ok (loaded.only index) := by
  rw [applyTimestamp] at done ⊢
  split at done
  · cases done
  rename_i full
  split at done
  · cases done
  rename_i other
  cases done
  have room : ¬ barrier.ruleCapacity < (map.rules[index]?.toList).length := by
    rw [List.getElem?_eq_getElem inside, Option.toList_some, List.length_singleton]
    omega
  rw [if_neg room, if_neg other]
  simp only [loadTimestampRules, JoinBarrier.only, JoinBarrier.clear, List.getElem?_map, Option.toList_map,
    List.getElem?_nil, Option.toList_none]

/-- The single rule is accepted with its own part of the loaded barrier. -/
theorem applyTo_only {map : AppliedMap} (done : map.applyTo barrier = .ok loaded)
    (inside : index < map.inputs.length) :
    (map.only index).applyTo barrier = .ok (loaded.only index) := by
  cases map with
  | sequence map =>
      rw [AppliedMap.inputs, List.length_map] at inside
      rw [AppliedMap.applyTo] at done
      rw [AppliedMap.only, AppliedMap.applyTo]
      split_ifs at done ⊢
      · exact applySequence_only done inside
      · exact applySequence_only done inside
  | timestamp map =>
      rw [AppliedMap.inputs, List.length_map] at inside
      rw [AppliedMap.applyTo] at done
      rw [AppliedMap.only, AppliedMap.applyTo]
      split_ifs at done ⊢
      · exact applyTimestamp_only done inside
      · exact applyTimestamp_only done inside

/-- An accepted map starts the inputs afresh. -/
theorem applyTo_loads {map : AppliedMap} (done : map.applyTo barrier = .ok loaded) :
    loaded.state = map.blanks ∧ loaded.Aligned := by
  have call : ∃ call : Call, call.appliedMap = some map ∧ perform barrier call = (true, loaded) := by
    cases map with
    | sequence map =>
        rw [AppliedMap.applyTo] at done
        split_ifs at done
        · exact ⟨.applyLatestValueSequenceMap (some map), rfl, congrArg (settle barrier) done⟩
        · exact ⟨.applySequenceMap (some map), rfl, congrArg (settle barrier) done⟩
    | timestamp map =>
        rw [AppliedMap.applyTo] at done
        split_ifs at done
        · exact ⟨.applyLatestValueTimestampMap (some map), rfl, congrArg (settle barrier) done⟩
        · exact ⟨.applyTimestampMap (some map), rfl, congrArg (settle barrier) done⟩
  obtain ⟨call, applies, result⟩ := call
  rcases perform_apply applies with refused | ⟨other, same, blank, aligned⟩
  · rw [refused] at result
    cases result
  · rw [result] at same
    cases same
    exact ⟨blank, aligned⟩

end Load

section Step

variable {barrier : JoinBarrier} {name : String} {streamId : UInt32} {change : InputState → Reply InputState}
  {states : List InputState} {call : Call} {calls : List Call} {index : Nat}

/-- A change of one input leaves the others. -/
theorem settleInput_other {state : InputState} (other : state.streamId ≠ streamId) :
    settleInput streamId change state = state :=
  if_neg other

/-- With distinct inputs an update is a map over all of them. -/
theorem changeState_distinct (distinct : (states.map InputState.streamId).Nodup) :
    (changeState name streamId change states).toOption.getD states = states.map (settleInput streamId change) := by
  induction states with
  | nil => rfl
  | cons state states hypothesis =>
      rw [List.map_cons, List.nodup_cons] at distinct
      rw [changeState, List.map_cons]
      by_cases named : state.streamId = streamId
      · have still : ∀ other ∈ states, settleInput streamId change other = id other := by
          intro other member
          apply settleInput_other
          intro same
          apply distinct.1
          rw [named, ← same]
          exact List.mem_map_of_mem member
        rw [if_pos named, List.map_congr_left still, List.map_id, settleInput, if_pos named]
        cases change state with
        | error text => rfl
        | ok new => rfl
      · rw [if_neg named, settleInput_other named, ← hypothesis distinct.2]
        cases changeState name streamId change states with
        | error text => rfl
        | ok after => rfl

/-- With distinct inputs a change maps over all of them. -/
theorem settle_changeInput (distinct : (barrier.state.map InputState.streamId).Nodup) :
    (settle barrier (barrier.changeInput name streamId change)).2 =
      { barrier with state := barrier.state.map (settleInput streamId change) } := by
  rw [← @changeState_distinct name streamId change _ distinct, JoinBarrier.changeInput]
  cases changeState name streamId change barrier.state with
  | error text => rfl
  | ok after => rfl

theorem only_state (inside : index < barrier.state.length) : (barrier.only index).state = [barrier.state[index]] := by
  rw [JoinBarrier.only, List.getElem?_eq_getElem inside, Option.toList_some]

theorem only_ruleCount (inside : index < barrier.state.length) : (barrier.only index).ruleCount = 1 := by
  rw [JoinBarrier.ruleCount, only_state inside, List.length_singleton]

/-- A call changes the same in a part of the barrier. -/
theorem change?_only : call.change? (barrier.only index) = call.change? barrier := by
  cases call <;> rfl

/-- A timestamp query passes its checks. -/
def JoinBarrier.PassesTimestamp (barrier : JoinBarrier) (outTimeNs : UInt64) (clockDomain : UInt8) : Prop :=
  barrier.type = .timestamp ∧ ¬(barrier.clockDomain ≠ 0 ∧ clockDomain ≠ barrier.clockDomain) ∧
    ¬(barrier.hasLastOutTime ∧ outTimeNs < barrier.lastOutTimeNs)

/-- A latest-value query passes its checks and keeps its time. -/
def JoinBarrier.PassesLatest (barrier : JoinBarrier) (outTimeNs : UInt64) : Prop :=
  barrier.type = .latestValue ∧ barrier.latestOrdering = .timestamp ∧ barrier.clockDomain ≠ 0 ∧
    ¬(barrier.hasLastOutTime ∧ outTimeNs < barrier.lastOutTimeNs)

/-- The timestamp query keeps its time exactly when it passes its guards. -/
theorem isReadyTimestamp_cases {barrier : JoinBarrier} (named : barrier.ruleCount ≠ 0) (outTimeNs : UInt64)
    (clockDomain : UInt8) (nowNs : UInt64) :
    (barrier.PassesTimestamp outTimeNs clockDomain →
        (isReadyTimestamp barrier outTimeNs clockDomain nowNs).2 = barrier.keepOutTime outTimeNs) ∧
      (¬barrier.PassesTimestamp outTimeNs clockDomain →
        (isReadyTimestamp barrier outTimeNs clockDomain nowNs).2 = barrier) := by
  rw [isReadyTimestamp, JoinBarrier.PassesTimestamp]
  split_ifs <;> constructor <;> intro _ <;> first | rfl | (exfalso; tauto)

/-- The query of the latest values keeps its time exactly when it passes its guards. -/
theorem isReadyLatest_cases {barrier : JoinBarrier} (named : barrier.ruleCount ≠ 0) (outSeq outTimeNs : UInt64)
    (clockDomain : UInt8) (nowNs : UInt64) :
    (barrier.PassesLatest outTimeNs →
        (isReadyLatest barrier outSeq outTimeNs clockDomain nowNs).2 = barrier.keepOutTime outTimeNs) ∧
      (¬barrier.PassesLatest outTimeNs →
        (isReadyLatest barrier outSeq outTimeNs clockDomain nowNs).2 = barrier) := by
  rw [isReadyLatest, JoinBarrier.PassesLatest]
  split_ifs <;> constructor <;> intro _ <;> first | rfl | (exfalso; tauto)

/-- With distinct inputs a call does to one rule alone what it does to this rule among the others. -/
theorem perform_only (unmapped : call.appliedMap = none) (distinct : (barrier.state.map InputState.streamId).Nodup)
    (inside : index < barrier.state.length) :
    (perform (barrier.only index) call).2 = (perform barrier call).2.only index := by
  cases update : call.change? barrier with
  | some change =>
      have single : ((barrier.only index).state.map InputState.streamId).Nodup := by
        rw [only_state inside, List.map_singleton]
        exact List.nodup_singleton _
      rw [perform_change update, perform_change (change?_only.trans update), settle_changeInput distinct,
        settle_changeInput single]
      simp only [JoinBarrier.only, List.getElem?_map, Option.toList_map]
  | none =>
      have one : (barrier.only index).ruleCount ≠ 0 := by
        rw [only_ruleCount inside]
        exact Nat.one_ne_zero
      have some : barrier.ruleCount ≠ 0 := by
        rw [JoinBarrier.ruleCount]
        omega
      cases call with
      | applySequenceMap given => cases given with
        | none => rfl
        | some map => cases unmapped
      | applyTimestampMap given => cases given with
        | none => rfl
        | some map => cases unmapped
      | applyLatestValueSequenceMap given => cases given with
        | none => rfl
        | some map => cases unmapped
      | applyLatestValueTimestampMap given => cases given with
        | none => rfl
        | some map => cases unmapped
      | isReadyTimestamp outTimeNs clockDomain nowNs =>
          have alone := isReadyTimestamp_cases one outTimeNs clockDomain nowNs
          have whole := isReadyTimestamp_cases some outTimeNs clockDomain nowNs
          by_cases passes : barrier.PassesTimestamp outTimeNs clockDomain
          · exact (alone.1 passes).trans (congrArg (JoinBarrier.only · index) (whole.1 passes)).symm
          · exact (alone.2 passes).trans (congrArg (JoinBarrier.only · index) (whole.2 passes)).symm
      | isReadyLatest outSeq outTimeNs clockDomain nowNs =>
          have alone := isReadyLatest_cases one outSeq outTimeNs clockDomain nowNs
          have whole := isReadyLatest_cases some outSeq outTimeNs clockDomain nowNs
          by_cases passes : barrier.PassesLatest outTimeNs
          · exact (alone.1 passes).trans (congrArg (JoinBarrier.only · index) (whole.1 passes)).symm
          · exact (alone.2 passes).trans (congrArg (JoinBarrier.only · index) (whole.2 passes)).symm
      | isReadySequence _ _ | setAllowStale _ | setRequireProcessed _ | setLatestOrdering _ => rfl
      | _ => cases update

/-- A call that applies no map keeps the inputs, their repetitions and the rules. -/
theorem perform_keeps (unmapped : call.appliedMap = none) (first : FirstOnly barrier.state)
    (aligned : barrier.Aligned) :
    FirstOnly (perform barrier call).2.state ∧ (perform barrier call).2.Aligned ∧
      (perform barrier call).2.state.map InputState.streamId = barrier.state.map InputState.streamId := by
  cases update : call.change? barrier with
  | some change =>
      rw [perform_change update]
      cases done : barrier.changeInput change.name change.streamId change.apply with
      | error text => exact ⟨first, aligned, rfl⟩
      | ok changed =>
          have keeps := change_streamId update
          obtain ⟨after, accepted, rfl⟩ := changeInput_ok done
          have ids := changeState_ids keeps accepted
          refine ⟨changeState_firstOnly keeps accepted first, ?_, ids⟩
          exact ⟨fun type => (aligned.sequence type).trans ids.symm,
            fun type => (aligned.timestamp type).trans ids.symm⟩
  | none =>
      have same := perform_quiet unmapped update
      rw [same.state]
      refine ⟨first, ?_, rfl⟩
      constructor
      · rw [same.type, same.state, same.sequenceRules]
        exact aligned.sequence
      · rw [same.type, same.state, same.timestampRules]
        exact aligned.timestamp

/-- Calls without a map keep the order and the names of the inputs. -/
theorem afterCalls_keeps (updates : ∀ call ∈ calls, call.appliedMap = none) (first : FirstOnly barrier.state)
    (aligned : barrier.Aligned) :
    FirstOnly (afterCalls barrier calls).state ∧ (afterCalls barrier calls).Aligned ∧
      (afterCalls barrier calls).state.map InputState.streamId = barrier.state.map InputState.streamId := by
  induction calls generalizing barrier with
  | nil => exact ⟨first, aligned, rfl⟩
  | cons call calls hypothesis =>
      rw [List.forall_mem_cons] at updates
      obtain ⟨firstAfter, alignedAfter, ids⟩ := perform_keeps updates.1 first aligned
      rw [← ids]
      exact hypothesis updates.2 firstAfter alignedAfter

/-- With distinct inputs a run of one rule alone is this rule's part of the whole run. -/
theorem afterCalls_only (updates : ∀ call ∈ calls, call.appliedMap = none) (first : FirstOnly barrier.state)
    (aligned : barrier.Aligned) (distinct : (barrier.state.map InputState.streamId).Nodup)
    (inside : index < barrier.state.length) :
    afterCalls (barrier.only index) calls = (afterCalls barrier calls).only index := by
  induction calls generalizing barrier with
  | nil => rfl
  | cons call calls hypothesis =>
      rw [List.forall_mem_cons] at updates
      obtain ⟨firstAfter, alignedAfter, ids⟩ := perform_keeps updates.1 first aligned
      have long := congrArg List.length ids
      rw [List.length_map, List.length_map] at long
      change afterCalls (perform (barrier.only index) call).2 calls = _
      rw [perform_only updates.1 distinct inside]
      exact hypothesis updates.2 firstAfter alignedAfter (ids ▸ distinct) (long ▸ inside)

end Step

section Ready

variable {barrier : JoinBarrier} {query : Query} {index : Nat}

/-- What holds of all items holds of each one alone. -/
theorem forall_only {α : Type} {P : α → Prop} {items : List α} :
    (∀ item ∈ items, P item) ↔ ∀ index < items.length, ∀ item ∈ items[index]?.toList, P item := by
  rw [List.forall_mem_iff_forall_getElem]
  apply forall₂_congr
  intro index inside
  rw [List.getElem?_eq_getElem inside, Option.toList_some, List.forall_mem_singleton]

/-- What holds of all pairs holds of each one alone. -/
theorem forall_zip_only {α β : Type} {P : α × β → Prop} {left : List α} {right : List β}
    (same : left.length = right.length) :
    (∀ pair ∈ left.zip right, P pair) ↔
      ∀ index < right.length, ∀ pair ∈ left[index]?.toList.zip right[index]?.toList, P pair := by
  have long : (left.zip right).length = right.length := by
    rw [List.length_zip]
    omega
  rw [forall_only, long]
  apply forall₂_congr
  intro index inside
  rw [List.getElem?_eq_getElem (long ▸ inside), List.getElem?_eq_getElem (same ▸ inside),
    List.getElem?_eq_getElem inside, List.getElem_zip]
  rfl

/-- Sequences are ready when each rule is whose input is not stale. -/
theorem isReadySequence_iff (type : barrier.type = .sequence) (named : barrier.ruleCount ≠ 0)
    (outSeq nowNs : UInt64) :
    isReadySequence barrier outSeq nowNs = .ok true ↔
      ∀ pair ∈ barrier.sequenceRules.zip barrier.state, isStale barrier pair.2 nowNs = false →
        sequenceReadyForRule barrier pair.2 pair.1 outSeq = .ok true := by
  rw [isReadySequence, if_neg (not_not.mpr type), if_neg named, sequenceRulesReady, readyAll_true_iff]

/-- Timestamps are ready when the guards pass and each rule is ready whose input is not stale. -/
theorem isReadyTimestamp_iff (type : barrier.type = .timestamp) (named : barrier.ruleCount ≠ 0) (outTimeNs : UInt64)
    (clockDomain : UInt8) (nowNs : UInt64) :
    (isReadyTimestamp barrier outTimeNs clockDomain nowNs).1 = .ok true ↔
      (¬(barrier.clockDomain ≠ 0 ∧ clockDomain ≠ barrier.clockDomain) ∧
        ¬(barrier.hasLastOutTime ∧ outTimeNs < barrier.lastOutTimeNs)) ∧
      ∀ pair ∈ barrier.timestampRules.zip barrier.state, isStale barrier pair.2 nowNs = false →
        timestampReadyForRule barrier pair.2 pair.1 outTimeNs = .ok true := by
  rw [isReadyTimestamp, if_neg (not_not.mpr type), if_neg named]
  split
  · rename_i clock
    exact iff_of_false (fun same => (by cases same)) fun all => all.1.1 clock
  split
  · rename_i late
    exact iff_of_false (fun same => (by cases same)) fun all => all.1.2 late
  · rename_i clock late
    rw [and_iff_right ⟨clock, late⟩]
    exact readyAll_true_iff

/-- The latest values are ready when the guards pass and each input is that is not stale. -/
theorem isReadyLatest_iff (type : barrier.type = .latestValue) (named : barrier.ruleCount ≠ 0)
    (outSeq outTimeNs : UInt64) (clockDomain : UInt8) (nowNs : UInt64) :
    (isReadyLatest barrier outSeq outTimeNs clockDomain nowNs).1 = .ok true ↔
      (¬(barrier.latestOrdering = .timestamp ∧ barrier.clockDomain = 0) ∧
        ¬(barrier.latestOrdering = .timestamp ∧ barrier.hasLastOutTime ∧ outTimeNs < barrier.lastOutTimeNs)) ∧
      ∀ state ∈ barrier.state, isStale barrier state nowNs = false →
        latestInputReady barrier state outTimeNs clockDomain = .ok true := by
  rw [isReadyLatest, if_neg (not_not.mpr type), if_neg named]
  split
  · rename_i undeclared
    exact iff_of_false (fun same => (by cases same)) fun all => all.1.1 undeclared
  split
  · rename_i late
    exact iff_of_false (fun same => (by cases same)) fun all => all.1.2 late
  · rename_i declared late
    rw [and_iff_right ⟨declared, late⟩]
    dsimp only
    split
    · exact readyAll_true_iff
    · exact readyAll_true_iff

theorem isReady_sequence (type : barrier.type = .sequence) :
    barrier.isReady query = isReadySequence barrier query.outSeq query.nowNs := by
  rw [JoinBarrier.isReady, type]

theorem isReady_timestamp (type : barrier.type = .timestamp) :
    barrier.isReady query = (isReadyTimestamp barrier query.outTimeNs query.clockDomain query.nowNs).1 := by
  rw [JoinBarrier.isReady, type]

theorem isReady_latestValue (type : barrier.type = .latestValue) :
    barrier.isReady query =
      (isReadyLatest barrier query.outSeq query.outTimeNs query.clockDomain query.nowNs).1 := by
  rw [JoinBarrier.isReady, type]

/-- A common guard and a condition for each position are both of them for each position. -/
theorem guard_each {guard : Prop} {P : Nat → Prop} {count : Nat} (positive : 0 < count) :
    (guard ∧ ∀ index < count, P index) ↔ ∀ index < count, guard ∧ P index := by
  constructor
  · exact fun both index inside => ⟨both.1, both.2 index inside⟩
  · exact fun each => ⟨(each 0 positive).1, fun index inside => (each index inside).2⟩

/-- A barrier is ready exactly when each of its rules with its input is. -/
theorem isReady_only_iff (aligned : barrier.Aligned) (positive : 0 < barrier.state.length) :
    barrier.isReady query = .ok true ↔ ∀ index < barrier.state.length, (barrier.only index).isReady query =
      .ok true := by
  have named : barrier.ruleCount ≠ 0 := Nat.ne_of_gt positive
  have one : ∀ index < barrier.state.length, (barrier.only index).ruleCount ≠ 0 := by
    intro index inside
    rw [only_ruleCount inside]
    exact Nat.one_ne_zero
  cases type : barrier.type with
  | sequence =>
      have long := congrArg List.length (aligned.sequence type)
      rw [List.length_map, List.length_map] at long
      rw [isReady_sequence type, isReadySequence_iff type named, forall_zip_only long]
      apply forall₂_congr
      intro index inside
      rw [isReady_sequence (show (barrier.only index).type = _ from type),
        isReadySequence_iff (show (barrier.only index).type = _ from type) (one index inside)]
      exact Iff.rfl
  | timestamp =>
      have long := congrArg List.length (aligned.timestamp type)
      rw [List.length_map, List.length_map] at long
      rw [isReady_timestamp type, isReadyTimestamp_iff type named, forall_zip_only long, guard_each positive]
      apply forall₂_congr
      intro index inside
      rw [isReady_timestamp (show (barrier.only index).type = _ from type),
        isReadyTimestamp_iff (show (barrier.only index).type = _ from type) (one index inside)]
      exact Iff.rfl
  | latestValue =>
      rw [isReady_latestValue type, isReadyLatest_iff type named, forall_only, guard_each positive]
      apply forall₂_congr
      intro index inside
      rw [isReady_latestValue (show (barrier.only index).type = _ from type),
        isReadyLatest_iff (show (barrier.only index).type = _ from type) (one index inside)]
      exact Iff.rfl

/-- An input with nothing recorded is not stale and not ready. -/
theorem blank_blocks (aligned : barrier.Aligned) (inside : index < barrier.state.length)
    (blank : barrier.state[index].Blank) : (barrier.only index).isReady query ≠ .ok true := by
  have named : (barrier.only index).ruleCount ≠ 0 := by
    rw [only_ruleCount inside]
    exact Nat.one_ne_zero
  have state := only_state inside
  have current : isStale (barrier.only index) barrier.state[index] query.nowNs = false :=
    blank_current blank query.nowNs
  intro ready
  cases type : barrier.type with
  | sequence =>
      have long := congrArg List.length (aligned.sequence type)
      rw [List.length_map, List.length_map] at long
      have rule : (barrier.only index).sequenceRules = [barrier.sequenceRules[index]] := by
        rw [JoinBarrier.only, List.getElem?_eq_getElem (long ▸ inside), Option.toList_some]
      rw [isReady_sequence (show (barrier.only index).type = _ from type),
        isReadySequence_iff (show (barrier.only index).type = _ from type) named, rule, state] at ready
      have answer := ready (barrier.sequenceRules[index], barrier.state[index]) (List.mem_singleton_self _) current
      rw [sequenceReadyForRule, blank] at answer
      cases answer
  | timestamp =>
      have long := congrArg List.length (aligned.timestamp type)
      rw [List.length_map, List.length_map] at long
      have rule : (barrier.only index).timestampRules = [barrier.timestampRules[index]] := by
        change barrier.timestampRules[index]?.toList = _
        rw [List.getElem?_eq_getElem (long ▸ inside), Option.toList_some]
      rw [isReady_timestamp (show (barrier.only index).type = _ from type),
        isReadyTimestamp_iff (show (barrier.only index).type = _ from type) named, rule, state] at ready
      have answer := ready.2 (barrier.timestampRules[index], barrier.state[index]) (List.mem_singleton_self _) current
      rw [timestampReadyForRule, blank] at answer
      cases answer
  | latestValue =>
      rw [isReady_latestValue (show (barrier.only index).type = _ from type),
        isReadyLatest_iff (show (barrier.only index).type = _ from type) named, state] at ready
      have answer := ready.2 barrier.state[index] (List.mem_singleton_self _) current
      rw [latestInputReady, blank] at answer
      cases ordering : (barrier.only index).latestOrdering with
      | sequence => simp [ordering] at answer
      | timestamp => simp [ordering] at answer

end Ready

/-- With an accepted map readiness is asked of the loaded barrier. -/
theorem ReadyAfter.iff {barrier loaded : JoinBarrier} {map : AppliedMap} {calls : List Call} {query : Query}
    (accepted : map.applyTo barrier = .ok loaded) :
    ReadyAfter barrier map calls query ↔ (afterCalls loaded calls).isReady query = .ok true := by
  constructor
  · intro some
    obtain ⟨other, done, ready⟩ := some
    rw [accepted] at done
    cases done
    exact ready
  · exact fun ready => ⟨loaded, accepted, ready⟩

section Cursors

variable {barrier loaded : JoinBarrier} {log : Log} {map : AppliedMap} {query : Query} {calls : List Call}
    {index : Nat}

/-- A freshly applied map agrees with the empty log. -/
theorem applyTo_mirrors (done : map.applyTo barrier = .ok loaded) :
    Mirrors loaded { applied := some map, calls := [] } := by
  cases map with
  | sequence map =>
      rw [AppliedMap.applyTo] at done
      split_ifs at done
      · exact mirrors_applySequence done
      · exact mirrors_applySequence done
  | timestamp map =>
      rw [AppliedMap.applyTo] at done
      split_ifs at done
      · exact mirrors_applyTimestamp done
      · exact mirrors_applyTimestamp done

/-- An accepted map suits the type of its barrier. -/
theorem applyTo_suits (done : map.applyTo barrier = .ok loaded) : map.Suits loaded.type := by
  cases map with
  | sequence map =>
      rw [AppliedMap.applyTo] at done
      split_ifs at done with latest
      · rw [AppliedMap.Suits, applySequence_type done, latest]
        decide
      · rw [AppliedMap.Suits, applySequence_type done]
        rw [applySequenceMap, applySequence] at done
        split_ifs at done with full other
        rw [not_not.mp other]
        decide
  | timestamp map =>
      rw [AppliedMap.applyTo] at done
      split_ifs at done with latest
      · rw [AppliedMap.Suits, applyTimestamp_type done, latest]
        decide
      · rw [AppliedMap.Suits, applyTimestamp_type done]
        rw [applyTimestampMap, applyTimestamp] at done
        split at done
        · cases done
        · split at done
          · cases done
          next same =>
            rw [not_not.mp same]
            decide

/-- The two components of a run are the barrier after the calls and the log of the accepted ones. -/
theorem advance_calls (updates : ∀ call ∈ calls, call.appliedMap = none) (past : JoinBarrier × Log) :
    (calls.foldl advance past).1 = afterCalls past.1 calls ∧
      (calls.foldl advance past).2.applied = past.2.applied := by
  induction calls generalizing past with
  | nil => exact ⟨rfl, rfl⟩
  | cons call calls hypothesis =>
      rw [List.forall_mem_cons] at updates
      obtain ⟨same, kept⟩ := hypothesis updates.2 (advance past call)
      refine ⟨same, kept.trans ?_⟩
      rw [advance, Log.record, updates.1]
      split
      · rfl
      · rfl

/-- Calls do not change the type. -/
theorem afterCalls_type : (afterCalls barrier calls).type = barrier.type := by
  induction calls generalizing barrier with
  | nil => rfl
  | cons call calls hypothesis => exact hypothesis.trans (perform_type barrier call)

/-- A join over distinct inputs is ready exactly when it admits the query and the cursors suffice. -/
theorem isReady_cursors (mirrors : Mirrors barrier log) (dated : Dated barrier log) (applied : log.applied = some map)
    (distinct : map.Distinct) (named : map.inputs ≠ []) (suits : map.Suits barrier.type) :
    barrier.isReady query = .ok true ↔ barrier.Admits query ∧ CursorsSuffice barrier log query map := by
  have tracked := mirrors.tracked map applied distinct
  have carries := mirrors.carries
  rw [applied] at carries
  have once : (barrier.state.map InputState.streamId).Nodup := by
    rw [dated.inputs, applied]
    exact distinct
  have dates : ∀ state ∈ barrier.state,
      state.lastObservedUpdateNs = (log.observedAts state.streamId).getLast?.getD 0 := by
    intro state member
    rcases firstState_or_blank dated.first member with found | ⟨-, repeated⟩
    · exact dated.observed _ state found
    · exact absurd (List.nodup_iff_count_le_one.mp once _) (Nat.not_le.mpr repeated)
  -- Each input is paired with a state that keeps its cursors and the date of its last observation.
  have paired := ((List.forall₂_and_left barrier.state map.inputs).mpr ⟨dates, tracked.flip⟩).flip
  have current : ∀ state streamId, state.streamId = streamId →
      state.lastObservedUpdateNs = (log.observedAts state.streamId).getLast?.getD 0 →
        (isStale barrier state query.nowNs = false ↔ ¬InputSkipped barrier log query.nowNs streamId) := by
    rintro state _ rfl date
    rw [← isStale_skipped date, Bool.not_eq_true]
  have some : barrier.ruleCount ≠ 0 := by
    rw [JoinBarrier.ruleCount, ← tracked.length_eq]
    exact fun none => named (List.length_eq_zero_iff.mp none)
  cases type : barrier.type with
  | sequence =>
      cases map with
      | sequence map =>
          rw [AppliedMap.inputs, List.forall₂_map_left_iff] at paired
          rw [isReady_sequence type, isReadySequence_iff type some, JoinBarrier.Admits, type, true_and,
            CursorsSuffice, carries.1]
          · apply forall_zip_iff paired
            intro rule _ state related
            obtain ⟨date, tracks⟩ := related
            rw [current state _ tracks.stream date, sequenceReadyForRule_cursors tracks]
          · exact type
      | timestamp map => exact absurd type suits
  | timestamp =>
      cases map with
      | sequence map => exact absurd type suits
      | timestamp map =>
          rw [AppliedMap.inputs, List.forall₂_map_left_iff] at paired
          rw [isReady_timestamp type, isReadyTimestamp_iff type some, JoinBarrier.Admits, type, CursorsSuffice,
            carries.1]
          · apply and_congr
            · simp only [not_and, not_not, UInt64.not_lt]
            · apply forall_zip_iff paired
              intro rule _ state related
              obtain ⟨date, tracks⟩ := related
              rw [current state _ tracks.stream date, timestampReadyForRule_cursors tracks]
          · exact type
  | latestValue =>
      rw [isReady_latestValue type, isReadyLatest_iff type some, JoinBarrier.Admits, type, CursorsSuffice]
      · apply and_congr
        · simp only [not_and, UInt64.not_lt]
          exact ⟨fun both ordered => ⟨both.1 ordered, both.2 ordered⟩,
            fun all => ⟨fun ordered => (all ordered).1, fun ordered => (all ordered).2⟩⟩
        · apply forall_right_iff paired
          intro input _ state _ related
          obtain ⟨date, tracks⟩ := related
          rw [current state _ tracks.stream date, latestInputReady_tracked tracks]
      · exact type

/-- A map with one input has no repeated one. -/
theorem only_distinct (inside : index < map.inputs.length) :
    (map.only index).Distinct ∧ (map.only index).inputs ≠ [] := by
  cases map with
  | sequence map =>
      rw [AppliedMap.inputs, List.length_map] at inside
      rw [AppliedMap.only, AppliedMap.Distinct, AppliedMap.inputs, List.getElem?_eq_getElem inside]
      exact ⟨List.nodup_singleton _, List.cons_ne_nil _ _⟩
  | timestamp map =>
      rw [AppliedMap.inputs, List.length_map] at inside
      rw [AppliedMap.only, AppliedMap.Distinct, AppliedMap.inputs, List.getElem?_eq_getElem inside]
      exact ⟨List.nodup_singleton _, List.cons_ne_nil _ _⟩

/-- A rule alone is ready exactly when the calls leave cursors that are enough for it. -/
theorem readyAfter_only_iff (accepted : map.applyTo barrier = .ok loaded)
    (updates : ∀ call ∈ calls, call.appliedMap = none) (inside : index < map.inputs.length) :
    ReadyAfter barrier (map.only index) calls query ↔ RuleReached loaded map calls query index := by
  have alone := applyTo_only accepted inside
  obtain ⟨blank, aligned⟩ := applyTo_loads alone
  obtain ⟨same, applied⟩ := advance_calls updates (loaded.only index, { applied := some (map.only index) })
  obtain ⟨distinct, named⟩ := only_distinct inside
  have suits : (map.only index).Suits (aloneAfter loaded map calls index).1.type := by
    rw [aloneAfter, same, afterCalls_type]
    exact applyTo_suits alone
  have mirrors := advance_mirrors calls (loaded.only index, { applied := some (map.only index) })
    (applyTo_mirrors alone)
  have dated := advance_dated calls (loaded.only index, { applied := some (map.only index) })
    (Dated.loaded blank aligned)
  rw [ReadyAfter.iff alone, ← same]
  exact isReady_cursors mirrors dated applied distinct named suits

end Cursors

/-- The rules are decided one by one exactly when the inputs are distinct or the cursors are not enough for a rule. -/
theorem ready_per_rule_iff {barrier loaded : JoinBarrier} {map : AppliedMap} {calls : List Call} (query : Query)
    (accepted : map.applyTo barrier = .ok loaded) (named : map.inputs ≠ [])
    (updates : ∀ call ∈ calls, call.appliedMap = none) :
    ReadyPerRule barrier map calls query ↔
      map.Distinct ∨ ∃ index < map.inputs.length, ¬RuleReached loaded map calls query index := by
  obtain ⟨blank, aligned⟩ := applyTo_loads accepted
  have first : FirstOnly loaded.state := blank ▸ blanks_first map
  have ids : loaded.state.map InputState.streamId = map.inputs.map Prod.fst := by
    rw [blank, AppliedMap.blanks, List.map_map]
    rfl
  obtain ⟨firstAfter, alignedAfter, idsAfter⟩ := afterCalls_keeps updates first aligned
  have long : loaded.state.length = map.inputs.length := by
    have same := congrArg List.length ids
    rwa [List.length_map, List.length_map] at same
  have longAfter : (afterCalls loaded calls).state.length = map.inputs.length := by
    have same := congrArg List.length (idsAfter.trans ids)
    rwa [List.length_map, List.length_map] at same
  have positive : 0 < (afterCalls loaded calls).state.length := longAfter ▸ List.length_pos_iff.mpr named
  by_cases distinct : map.Distinct
  · apply iff_of_true _ (Or.inl distinct)
    rw [ReadyPerRule, ReadyAfter.iff accepted, isReady_only_iff alignedAfter positive, longAfter]
    apply forall₂_congr
    intro index inside
    rw [ReadyAfter.iff (applyTo_only accepted inside),
      afterCalls_only updates first aligned (ids ▸ distinct) (long ▸ inside)]
  · have blocked : ¬ReadyAfter barrier map calls query := by
      rw [ReadyAfter.iff accepted, isReady_only_iff alignedAfter positive]
      intro each
      have again : ∃ streamId, 1 < ((afterCalls loaded calls).state.map InputState.streamId).count streamId := by
        rw [idsAfter, ids]
        rw [AppliedMap.Distinct, List.nodup_iff_count_le_one, not_forall] at distinct
        obtain ⟨streamId, more⟩ := distinct
        exact ⟨streamId, Nat.not_le.mp more⟩
      obtain ⟨streamId, repeated⟩ := again
      obtain ⟨state, member, -, nothing⟩ := repeated_blank firstAfter repeated
      obtain ⟨index, inside, rfl⟩ := List.getElem_of_mem member
      exact blank_blocks alignedAfter inside nothing (each index inside)
    rw [or_iff_right distinct, ReadyPerRule, iff_false_left blocked]
    simp only [not_forall, exists_prop]
    apply exists_congr
    intro index
    apply and_congr_right
    intro inside
    rw [readyAfter_only_iff accepted updates inside]

def doubledMap : SequenceMergeMap where
  outStreamId := 9
  epoch := 1
  staleTimeoutNs := nullU64
  rules := [⟨1, .offset, 0, 0⟩, ⟨1, .offset, 0, 0⟩]

def doubledCalls : List Call := [.updateObservedSeq 1 5 200]

/-- The second rule asks for a sequence that its input has not reached. -/
def spreadMap : SequenceMergeMap :=
  { doubledMap with rules := [⟨1, .offset, 0, 0⟩, ⟨1, .offset, 3, 0⟩] }

theorem ready_per_rule_spread :
    ReadyPerRule { type := .sequence, ruleCapacity := 2 } (.sequence spreadMap) doubledCalls ⟨5, 0, 0, 210⟩ := by
  apply (@ready_per_rule_iff _ _ (.sequence spreadMap) doubledCalls ⟨5, 0, 0, 210⟩ rfl (by decide) (by decide)).mpr
  refine Or.inr ⟨1, by decide, fun reached => ?_⟩
  obtain ⟨value, required, ⟨last, cursor, enough⟩, -⟩ :=
    reached.2 ⟨1, .offset, 3, 0⟩ List.mem_cons_self fun skipped => Bool.false_ne_true skipped.1
  cases cursor
  cases required
  exact absurd enough (by decide)

/-- Each of two equal rules is ready alone, and the barrier with both of them is not. -/
theorem doubled_rule_blocks :
    ¬ReadyPerRule { type := .sequence, ruleCapacity := 2 } (.sequence doubledMap) doubledCalls ⟨5, 0, 0, 210⟩ := by
  intro same
  have each : ∀ index < 2, ReadyAfter { type := .sequence, ruleCapacity := 2 }
      ((AppliedMap.sequence doubledMap).only index) doubledCalls ⟨5, 0, 0, 210⟩ := by
    intro index inside
    have cases : index = 0 ∨ index = 1 := by omega
    rcases cases with rfl | rfl
    · exact ⟨_, rfl, rfl⟩
    · exact ⟨_, rfl, rfl⟩
  obtain ⟨loaded, done, ready⟩ := same.mpr each
  cases done
  revert ready
  decide +kernel

end TensorPool.Join
