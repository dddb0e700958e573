/-
This file compares the staleness test of a join barrier with the age in the integers.
-/

import TensorPool.Join.LatestValue
import TensorPool.Join.Repeats

namespace TensorPool.Join

open TensorPool.Merge

/-- An observation of the stream was made at this time. -/
def Call.observedAt? (streamId : UInt32) : Call → Option UInt64
  | .updateObservedSeq stream _ nowNs => if stream = streamId then some nowNs else none
  | .updateObservedTime stream timestampNs _ _ nowNs =>
    if stream = streamId ∧ timestampNs ≠ nullU64 then some nowNs else none
  | _ => none

def Log.observedAts (log : Log) (streamId : UInt32) : List UInt64 :=
  log.calls.filterMap (Call.observedAt? streamId)

def AppliedMap.staleTimeoutNs : AppliedMap → UInt64
  | .sequence map => map.staleTimeoutNs
  | .timestamp map => map.staleTimeoutNs

/-- The last accepted observation of the input is older than the timeout in the integers. -/
def InputStale (allowStale : Bool) (map : AppliedMap) (log : Log) (nowNs : UInt64) (streamId : UInt32) : Prop :=
  allowStale = true ∧ map.staleTimeoutNs ≠ nullU64 ∧
    ∃ observed ∈ (log.observedAts streamId).getLast?,
      (map.staleTimeoutNs.toNat : Int) < (nowNs.toNat : Int) - observed.toNat

/-- These are the inputs that the loop of the readiness function skips, in rule order. -/
def readinessSkips (barrier : JoinBarrier) (nowNs : UInt64) : List UInt32 :=
  match barrier.type with
  | .sequence =>
    ((barrier.sequenceRules.zip barrier.state).filter fun pair => isStale barrier pair.2 nowNs).map
      fun pair => pair.1.inputStreamId
  | .timestamp =>
    ((barrier.timestampRules.zip barrier.state).filter fun pair => isStale barrier pair.2 nowNs).map
      fun pair => pair.1.inputStreamId
  | .latestValue => (barrier.state.filter fun state => isStale barrier state nowNs).map InputState.streamId

/-- An input is skipped exactly when it is stale, and the skipped inputs are the collected ones. -/
structure StalenessExact (barrier : JoinBarrier) (map : AppliedMap) (log : Log) (nowNs : UInt64) : Prop where
  inputs : barrier.state.map InputState.streamId = map.streamIds
  treated : ∀ state ∈ barrier.state,
    isStale barrier state nowNs = true ↔ InputStale barrier.allowStale map log nowNs state.streamId
  collected : ∀ capacity, (readinessSkips barrier nowNs).length ≤ capacity →
    collectStaleInputs barrier nowNs capacity = .ok ((readinessSkips barrier nowNs).length,
      readinessSkips barrier nowNs)

/-- The unsigned age and the reserved zero do not matter for the observation. -/
def ClockAgrees (timeoutNs nowNs observed : UInt64) : Prop :=
  (observed = 0 → nowNs ≤ timeoutNs) ∧
    (nowNs < observed → 2 ^ 64 + nowNs.toNat - observed.toNat ≤ timeoutNs.toNat)

/-- The clock readings agree for each input, and an input that several rules name is not old. -/
structure ClocksAgree (map : AppliedMap) (log : Log) (nowNs : UInt64) : Prop where
  each : ∀ streamId ∈ map.streamIds, ∀ observed ∈ (log.observedAts streamId).getLast?,
    ClockAgrees map.staleTimeoutNs nowNs observed
  repeated : ∀ streamId, 1 < map.streamIds.count streamId → ∀ observed ∈ (log.observedAts streamId).getLast?,
    nowNs.toNat ≤ observed.toNat + map.staleTimeoutNs.toNat

/-- The age in 64 bits is compared as the age in numbers exactly when the clocks agree. -/
theorem age_agrees (timeoutNs nowNs observed : UInt64) :
    ((observed ≠ 0 ∧ timeoutNs < nowNs - observed) ↔
        (timeoutNs.toNat : Int) < (nowNs.toNat : Int) - observed.toNat) ↔
      ClockAgrees timeoutNs nowNs observed := by
  have first := timeoutNs.toNat_lt
  have second := nowNs.toNat_lt
  have third := observed.toNat_lt
  have zero : observed = 0 ↔ observed.toNat = 0 := by
    rw [← UInt64.toNat_inj]
    rfl
  rw [ClockAgrees, ne_eq, zero, UInt64.lt_iff_toNat_lt, UInt64.lt_iff_toNat_lt, UInt64.le_iff_toNat_le,
    UInt64.toNat_sub]
  omega

/-- An input is stale when the barrier allows it, there is a timeout, and its last observation is older. -/
theorem isStale_iff (barrier : JoinBarrier) (state : InputState) (nowNs : UInt64) :
    isStale barrier state nowNs = true ↔
      barrier.allowStale = true ∧ barrier.staleTimeoutNs ≠ nullU64 ∧
        state.lastObservedUpdateNs ≠ 0 ∧ barrier.staleTimeoutNs < nowNs - state.lastObservedUpdateNs := by
  rw [isStale]
  split
  · rename_i off
    simp only [Bool.or_eq_true, Bool.not_eq_true', beq_iff_eq] at off
    apply iff_of_false Bool.false_ne_true
    intro all
    rcases off with off | off
    · rw [off] at all
      exact Bool.false_ne_true all.1
    · exact all.2.1 off
  · rename_i active
    simp only [Bool.or_eq_true, Bool.not_eq_true', beq_iff_eq, not_or, Bool.not_eq_false] at active
    rw [and_iff_right active.1, and_iff_right active.2]
    split
    · rename_i never
      exact iff_of_false Bool.false_ne_true fun both => both.1 (beq_iff_eq.mp never)
    · rename_i seen
      rw [and_iff_right (fun never => seen (beq_iff_eq.mpr never)), decide_eq_true_iff]

/-- The first state of each stream keeps the time of its last observation, and the later ones keep nothing. -/
structure Dated (barrier : JoinBarrier) (log : Log) : Prop where
  inputs : barrier.state.map InputState.streamId = (log.applied.map AppliedMap.streamIds).getD []
  first : FirstOnly barrier.state
  aligned : barrier.Aligned
  observed : ∀ streamId state, firstState barrier.state streamId = some state →
    state.lastObservedUpdateNs = (log.observedAts streamId).getLast?.getD 0

section Steps

variable {barrier : JoinBarrier} {log : Log} {call : Call}

/-- An accepted update stores its time exactly when it is an observation. -/
theorem change_observedAt {change : Change} (update : call.change? barrier = some change) {state new : InputState}
    (done : change.apply state = .ok new) :
    new.lastObservedUpdateNs = (call.observedAt? change.streamId).getD state.lastObservedUpdateNs := by
  cases call with
  | updateObservedSeq streamId seq nowNs =>
      cases update
      simp only [observeSeq] at done
      split at done
      · cases done
      · cases done
        simp [Call.observedAt?]
  | updateProcessedSeq streamId seq nowNs =>
      cases update
      simp only [processSeq] at done
      split at done
      · cases done
      · cases done
        rfl
  | updateObservedTime streamId timestampNs source clockDomain nowNs =>
      cases update
      simp only [observeTime] at done
      split at done
      · cases done
      split at done
      · rename_i absent
        cases done
        simp [Call.observedAt?, absent]
      split at done
      · cases done
      · rename_i present _
        cases done
        simp [Call.observedAt?, present]
  | updateProcessedTime streamId timestampNs source clockDomain nowNs =>
      cases update
      simp only [processTime] at done
      split at done
      · cases done
      split at done
      · cases done
        rfl
      split at done
      · cases done
      · cases done
        rfl
  | invalidateLatest streamId =>
      cases update
      cases done
      rfl
  | _ => cases update

/-- A change of one input observes no other. -/
theorem observedAt_elsewhere {change : Change} (update : call.change? barrier = some change) {other : UInt32}
    (apart : other ≠ change.streamId) : call.observedAt? other = none := by
  cases call with
  | updateObservedSeq streamId seq nowNs =>
      cases update
      exact if_neg (Ne.symm apart)
  | updateObservedTime streamId timestampNs source clockDomain nowNs =>
      cases update
      exact if_neg fun both => apart both.1.symm
  | _ => rfl

/-- A call without a change observes nothing. -/
theorem observedAt_quiet (quiet : call.change? barrier = none) (streamId : UInt32) :
    call.observedAt? streamId = none := by
  cases call with
  | updateObservedSeq streamId seq nowNs => cases quiet
  | updateObservedTime streamId timestampNs source clockDomain nowNs => cases quiet
  | _ => rfl

theorem record_unmapped (unmapped : call.appliedMap = none) : log.record call true = log.push call := by
  rw [Log.record, if_pos rfl, unmapped]
  rfl

/-- A call adds its own observation. -/
theorem observedAts_push (streamId : UInt32) :
    (log.push call).observedAts streamId = log.observedAts streamId ++ (call.observedAt? streamId).toList :=
  Log.push_reads (Call.observedAt? streamId)

/-- The inputs of a new map are blank. -/
theorem blanks_blank {map : AppliedMap} {state : InputState} (member : state ∈ map.blanks) : state.Blank := by
  obtain ⟨input, _, rfl⟩ := List.mem_map.mp member
  rfl

/-- Of the inputs of a new map all are blank, so the repeated ones are. -/
theorem blanks_first (map : AppliedMap) : FirstOnly map.blanks :=
  List.pairwise_of_forall_mem_list fun _ _ later member _ => @blanks_blank map later member

/-- A loaded barrier is dated by the empty log. -/
theorem Dated.loaded {map : AppliedMap} (blank : barrier.state = map.blanks) (aligned : barrier.Aligned) :
    Dated barrier { applied := some map, calls := [] } where
  inputs := by
    rw [blank, AppliedMap.blanks, List.map_map]
    rfl
  first := blank ▸ blanks_first map
  aligned := aligned
  observed := by
    intro streamId state found
    rw [blank] at found
    have none : state.Blank := blanks_blank (List.mem_of_find?_eq_some found)
    rw [none]
    rfl

/-- A change of an input is dated by its call. -/
theorem Dated.changed {change : Change} {changed : JoinBarrier} (dated : Dated barrier log)
    (update : call.change? barrier = some change) 
    (done : barrier.changeInput change.name change.streamId change.apply = .ok changed) :
    Dated changed (log.push call) := by
  have keeps := change_streamId update
  obtain ⟨after, accepted, rfl⟩ := changeInput_ok done
  have ids := changeState_ids keeps accepted
  constructor
  · rw [ids]
    exact dated.inputs
  · exact changeState_firstOnly keeps accepted dated.first
  · exact ⟨fun type => (dated.aligned.sequence type).trans ids.symm,
      fun type => (dated.aligned.timestamp type).trans ids.symm⟩
  · intro streamId state found
    rw [observedAts_push]
    rcases changeState_first keeps accepted streamId with ⟨apart, same⟩ | ⟨rfl, old, new, before, behind, replaced⟩
    · rw [observedAt_elsewhere update apart, Option.toList_none, List.append_nil]
      exact dated.observed streamId state (same ▸ found)
    · obtain rfl := Option.some.inj (behind.symm.trans found)
      rw [change_observedAt update replaced, dated.observed _ old before]
      cases call.observedAt? change.streamId with
      | none => rw [Option.getD_none, Option.toList_none, List.append_nil]
      | some now => rw [Option.getD_some, Option.toList_some, List.getLast?_concat, Option.getD_some]

/-- One call keeps the dates. -/
theorem Dated.perform (dated : Dated barrier log) (call : Call) :
    Dated (perform barrier call).2 (log.record call (Join.perform barrier call).1) := by
  cases applies : call.appliedMap with
  | some map =>
      rcases perform_apply applies with refused | ⟨loaded, accepted, blank, aligned⟩
      · rw [refused]
        exact dated
      · rw [accepted, Log.record, if_pos rfl, applies]
        exact Dated.loaded blank aligned
  | none =>
      cases update : call.change? barrier with
      | some change =>
          rw [perform_change update]
          cases done : barrier.changeInput change.name change.streamId change.apply with
          | error text => exact dated
          | ok changed =>
              rw [settle, record_unmapped applies]
              exact dated.changed update done
      | none =>
          have same := perform_quiet applies update
          have kept : Dated (Join.perform barrier call).2 log := by
            constructor
            · rw [same.state]
              exact dated.inputs
            · rw [same.state]
              exact dated.first
            · constructor
              · rw [same.type, same.state, same.sequenceRules]
                exact dated.aligned.sequence
              · rw [same.type, same.state, same.timestampRules]
                exact dated.aligned.timestamp
            · rw [same.state]
              exact dated.observed
          cases (Join.perform barrier call).1 with
          | false => exact kept
          | true =>
              rw [record_unmapped applies]
              constructor
              · exact kept.inputs
              · exact kept.first
              · exact kept.aligned
              · intro streamId state found
                rw [observedAts_push, observedAt_quiet update, Option.toList_none, List.append_nil]
                exact kept.observed streamId state found

end Steps

/-- A new barrier is dated by the empty log. -/
theorem dated_fresh (type : BarrierType) (ruleCapacity : Nat) : Dated { type, ruleCapacity } {} where
  inputs := rfl
  first := List.Pairwise.nil
  aligned := ⟨fun _ => rfl, fun _ => rfl⟩
  observed := by
    intro streamId state absent
    cases absent

/-- A history keeps the barrier dated by its log. -/
theorem advance_dated (calls : List Call) (past : JoinBarrier × Log) (dated : Dated past.1 past.2) :
    Dated (calls.foldl advance past).1 (calls.foldl advance past).2 := by
  induction calls generalizing past with
  | nil => exact dated
  | cons call calls hypothesis => exact hypothesis (advance past call) (dated.perform call)

/-- Along every history the dates are those of the log. -/
theorem history_dated (type : BarrierType) (ruleCapacity : Nat) (calls : List Call) :
    Dated (history type ruleCapacity calls).1 (history type ruleCapacity calls).2 :=
  advance_dated calls _ (dated_fresh type ruleCapacity)

section Streams

variable {states : List InputState} {state : InputState} {streamId : UInt32}

theorem firstState_mem (found : firstState states streamId = some state) :
    state ∈ states ∧ state.streamId = streamId := by
  constructor
  · exact List.mem_of_find?_eq_some found
  · simpa using List.find?_some found

/-- A named input has a first state. -/
theorem firstState_exists (named : streamId ∈ states.map InputState.streamId) :
    ∃ state, firstState states streamId = some state := by
  obtain ⟨state, member, same⟩ := List.mem_map.mp named
  rw [← Option.isSome_iff_exists, firstState, List.find?_isSome]
  exact ⟨state, member, decide_eq_true same⟩

/-- A state is the first of its input, or it is a blank repetition. -/
theorem firstState_or_blank (first : FirstOnly states) (member : state ∈ states) :
    firstState states state.streamId = some state ∨
      state.Blank ∧ 1 < (states.map InputState.streamId).count state.streamId := by
  induction states with
  | nil => cases member
  | cons head rest hypothesis =>
      rw [FirstOnly, List.pairwise_cons] at first
      rcases List.mem_cons.mp member with rfl | later
      · exact Or.inl (List.find?_cons_of_pos (by simp))
      · by_cases same : head.streamId = state.streamId
        · right
          have behind := List.count_pos_iff.mpr (@List.mem_map_of_mem _ _ _ _ InputState.streamId later)
          rw [List.map_cons, same, List.count_cons_self]
          exact ⟨first.1 state later same, by omega⟩
        · rw [firstState, List.find?_cons_of_neg (by simpa using same), List.map_cons, List.count_cons_of_ne same]
          exact hypothesis first.2 later

/-- A repeated input has a blank state. -/
theorem repeated_blank (first : FirstOnly states) (repeated : 1 < (states.map InputState.streamId).count streamId) :
    ∃ state ∈ states, state.streamId = streamId ∧ state.Blank := by
  induction states with
  | nil => simp at repeated
  | cons head rest hypothesis =>
      rw [FirstOnly, List.pairwise_cons] at first
      by_cases same : head.streamId = streamId
      · rw [List.map_cons, same, List.count_cons_self] at repeated
        have again : streamId ∈ rest.map InputState.streamId := List.count_pos_iff.mp (by omega)
        obtain ⟨state, later, named⟩ := List.mem_map.mp again
        exact ⟨state, List.mem_cons_of_mem _ later, named, first.1 state later (same.trans named.symm)⟩
      · rw [List.map_cons, List.count_cons_of_ne same] at repeated
        obtain ⟨state, later, named, blank⟩ := hypothesis first.2 repeated
        exact ⟨state, List.mem_cons_of_mem _ later, named, blank⟩

end Streams

section Collected

variable {barrier : JoinBarrier} {nowNs : UInt64}

theorem skipped_states {Rule : Type} {input : Rule → UInt32} {stale : InputState → Bool} {rules : List Rule}
    {states : List InputState} (aligned : rules.map input = states.map InputState.streamId) :
    ((rules.zip states).filter fun pair => stale pair.2).map (fun pair => input pair.1) =
      (states.filter stale).map InputState.streamId := by
  induction states generalizing rules with
  | nil => rw [List.zip_nil_right]; rfl
  | cons state states hypothesis =>
      cases rules with
      | nil => cases aligned
      | cons rule rules =>
          rw [List.map_cons, List.map_cons, List.cons_eq_cons] at aligned
          rw [List.zip_cons_cons]
          cases old : stale state with
          | true =>
              rw [List.filter_cons_of_pos (by exact old), List.filter_cons_of_pos old, List.map_cons, List.map_cons,
                hypothesis aligned.2, aligned.1]
          | false =>
              rw [List.filter_cons_of_neg (by simp [old]), List.filter_cons_of_neg (by simp [old]),
                hypothesis aligned.2]

/-- Readiness skips the inputs whose states are stale. -/
theorem readinessSkips_eq (aligned : barrier.Aligned) :
    readinessSkips barrier nowNs =
      (barrier.state.filter fun state => isStale barrier state nowNs).map InputState.streamId := by
  rw [readinessSkips]
  cases type : barrier.type with
  | sequence =>
      have same := @skipped_states _ _ (fun state => isStale barrier state nowNs) _ _ (aligned.sequence type)
      exact same
  | timestamp =>
      have same := @skipped_states _ _ (fun state => isStale barrier state nowNs) _ _ (aligned.timestamp type)
      exact same
  | latestValue => rfl

/-- The collection returns what the loop skips. -/
theorem collectStaleInputs_skips (aligned : barrier.Aligned) {capacity : Nat}
    (room : (readinessSkips barrier nowNs).length ≤ capacity) :
    collectStaleInputs barrier nowNs capacity =
      .ok ((readinessSkips barrier nowNs).length, readinessSkips barrier nowNs) := by
  rw [readinessSkips_eq aligned] at room ⊢
  rw [List.length_map] at room ⊢
  rw [collectStaleInputs]
  split
  · rename_i off
    have none : (barrier.state.filter fun state => isStale barrier state nowNs) = [] := by
      rw [List.filter_eq_nil_iff]
      intro state member old
      obtain ⟨allowed, timed, _⟩ := (isStale_iff barrier state nowNs).mp old
      simp only [allowed, Bool.not_true, Bool.false_or, Bool.or_eq_true, beq_iff_eq, timed, false_or] at off
      rw [List.length_eq_zero_iff.mp off] at member
      cases member
    rw [none]
    rfl
  · by_cases empty : capacity = 0
    · have none := List.length_eq_zero_iff.mp (Nat.le_zero.mp (empty ▸ room))
      rw [if_pos empty, none]
      rfl
    · rw [if_neg empty, if_neg (Nat.not_lt.mpr room)]

end Collected

section Treated

variable {barrier : JoinBarrier} {map : AppliedMap} {log : Log} {nowNs : UInt64} {state : InputState}
    {streamId : UInt32}

/-- The first state of an input is treated as its age asks exactly when its clocks agree. -/
theorem treated_first (carried : barrier.staleTimeoutNs = map.staleTimeoutNs)
    (observed : state.lastObservedUpdateNs = (log.observedAts streamId).getLast?.getD 0) :
    (isStale barrier state nowNs = true ↔ InputStale barrier.allowStale map log nowNs streamId) ↔
      (barrier.allowStale = true → map.staleTimeoutNs ≠ nullU64 →
        ∀ observed ∈ (log.observedAts streamId).getLast?, ClockAgrees map.staleTimeoutNs nowNs observed) := by
  rw [isStale_iff, InputStale, carried, observed]
  cases (log.observedAts streamId).getLast? with
  | none => simp
  | some last =>
      simp only [Option.getD_some, Option.mem_some_iff, exists_eq_left', forall_eq', ← age_agrees]
      constructor
      · intro same allowed timed
        rwa [and_iff_right allowed, and_iff_right timed, and_iff_right allowed, and_iff_right timed] at same
      · intro agrees
        constructor
        · intro all
          exact ⟨all.1, all.2.1, (agrees all.1 all.2.1).mp all.2.2⟩
        · intro all
          exact ⟨all.1, all.2.1, (agrees all.1 all.2.1).mpr all.2.2⟩

theorem blank_current (blank : state.Blank) (nowNs : UInt64) : isStale barrier state nowNs = false := by
  rw [Bool.eq_false_iff, ne_eq, isStale_iff, blank]
  exact fun all => all.2.2.1 rfl

/-- A blank repetition is never stale, as its age asks when the input is young. -/
theorem treated_blank (blank : state.Blank) :
    (isStale barrier state nowNs = true ↔ InputStale barrier.allowStale map log nowNs streamId) ↔
      (barrier.allowStale = true → map.staleTimeoutNs ≠ nullU64 →
        ∀ observed ∈ (log.observedAts streamId).getLast?,
          nowNs.toNat ≤ observed.toNat + map.staleTimeoutNs.toNat) := by
  rw [iff_false_left (Bool.eq_false_iff.mp (blank_current blank nowNs)), InputStale]
  constructor
  · intro none allowed timed observed last
    have young : ¬ ((map.staleTimeoutNs.toNat : Int) < (nowNs.toNat : Int) - observed.toNat) :=
      fun old => none ⟨allowed, timed, observed, last, old⟩
    omega
  · intro young all
    obtain ⟨allowed, timed, observed, last, old⟩ := all
    have near := young allowed timed observed last
    omega

end Treated

/-- The staleness of a join is exact exactly when the clock readings agree. -/
theorem staleness_exact_iff {type : BarrierType} {ruleCapacity : Nat} {calls : List Call} {barrier : JoinBarrier}
    {log : Log} {map : AppliedMap} (nowNs : UInt64) (past : history type ruleCapacity calls = (barrier, log))
    (applied : log.applied = some map) :
    StalenessExact barrier map log nowNs ↔
      (barrier.allowStale = true → map.staleTimeoutNs ≠ nullU64 → ClocksAgree map log nowNs) := by
  have dated := history_dated type ruleCapacity calls
  have mirrors := history_mirrors type ruleCapacity calls
  rw [past] at dated mirrors
  have inputs := dated.inputs
  rw [applied, Option.map_some, Option.getD_some] at inputs
  have carried : barrier.staleTimeoutNs = map.staleTimeoutNs := by
    have carries := mirrors.carries
    rw [applied] at carries
    cases map with
    | sequence map => exact carries.2.1
    | timestamp map => exact carries.2.1
  constructor
  · intro exact allowed timed
    constructor
    · intro streamId named
      rw [← inputs] at named
      obtain ⟨state, found⟩ := firstState_exists named
      obtain ⟨member, rfl⟩ := firstState_mem found
      exact (treated_first carried (dated.observed _ state found)).mp (exact.treated state member) allowed timed
    · intro streamId repeated
      rw [← inputs] at repeated
      obtain ⟨state, member, rfl, blank⟩ := repeated_blank dated.first repeated
      exact (treated_blank blank).mp (exact.treated state member) allowed timed
  · intro agree
    constructor
    · exact inputs
    · intro state member
      rcases firstState_or_blank dated.first member with found | ⟨blank, repeated⟩
      · rw [treated_first carried (dated.observed _ state found)]
        intro allowed timed
        apply (agree allowed timed).each
        rw [← inputs]
        exact List.mem_map_of_mem member
      · rw [treated_blank blank]
        intro allowed timed
        apply (agree allowed timed).repeated
        rw [← inputs]
        exact repeated
    · exact fun capacity room => collectStaleInputs_skips dated.aligned room

def timedMap : SequenceMergeMap where
  outStreamId := 9
  epoch := 1
  staleTimeoutNs := 100
  rules := [⟨1, .offset, 0, 0⟩]

def timedCalls : List Call :=
  [.applySequenceMap (some timedMap), .setAllowStale true, .updateObservedSeq 1 5 200]

theorem staleness_exact_timed :
    StalenessExact (history .sequence 1 timedCalls).1 (.sequence timedMap) (history .sequence 1 timedCalls).2 350 ↔
      ((history .sequence 1 timedCalls).1.allowStale = true → timedMap.staleTimeoutNs ≠ nullU64 →
        ClocksAgree (.sequence timedMap) (history .sequence 1 timedCalls).2 350) :=
  @staleness_exact_iff .sequence 1 timedCalls _ _ (.sequence timedMap) 350 rfl rfl

/-- A query time before the observation makes the input stale, and the join runs without it. -/
theorem early_query_skips :
    (isReadySequence (history .sequence 1 timedCalls).1 9 150).toOption = some true ∧
      ¬StalenessExact (history .sequence 1 timedCalls).1 (.sequence timedMap)
        (history .sequence 1 timedCalls).2 150 := by
  constructor
  · rfl
  · intro exact
    have member : ∃ state ∈ (history .sequence 1 timedCalls).1.state, state.streamId = 1 ∧
        isStale (history .sequence 1 timedCalls).1 state 150 = true := by decide +kernel
    obtain ⟨state, inside, named, old⟩ := member
    obtain ⟨_, _, observed, last, late⟩ := (exact.treated state inside).mp old
    rw [named] at last
    have once : ((history .sequence 1 timedCalls).2.observedAts 1).getLast? = some 200 := by decide +kernel
    obtain rfl := Option.some.inj (once.symm.trans last)
    exact absurd late (by decide)

end TensorPool.Join
