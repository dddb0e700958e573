/-
This file gives the readiness of a timestamp join in the integers.
-/

import TensorPool.Join.Tracking
import TensorPool.Library.Signed

namespace TensorPool.Join

open TensorPool.Merge

/-- The time is enough for the rule, with the sums taken in the integers. -/
def TimeReached (rule : TimestampMergeRule) (lateness : Nat) (outTimeNs timeNs : UInt64) : Prop :=
  match rule.ruleType with
  | .offset =>
    0 ≤ (outTimeNs.toNat : Int) + rule.offsetNs.toInt ∧
      (outTimeNs.toNat : Int) + rule.offsetNs.toInt ≤ timeNs.toNat + lateness
  | .window =>
    1 ≤ rule.windowNs.toNat ∧ rule.windowNs.toNat ≤ outTimeNs.toNat ∧
      outTimeNs.toNat ≤ timeNs.toNat + lateness
  | .unknown => False

/-- The last of the times is enough for the rule. -/
def LastReached (rule : TimestampMergeRule) (lateness : Nat) (outTimeNs : UInt64) (times : List UInt64) : Prop :=
  ∃ time, times.getLast? = some time ∧ TimeReached rule lateness outTimeNs time

/-- An absent lateness means zero. -/
def lateness (map : TimestampMergeMap) : Nat :=
  if map.latenessNs = nullU64 then 0 else map.latenessNs.toNat

def TimestampReady (map : TimestampMergeMap) (log : Log) (requireProcessed : Bool) (outTimeNs : UInt64) :
    Prop :=
  map.rules ≠ [] ∧ ∀ rule ∈ map.rules,
    LastReached rule (lateness map) outTimeNs (log.observedTimes rule.inputStreamId) ∧
      (requireProcessed = true →
        LastReached rule (lateness map) outTimeNs (log.processedTimes rule.inputStreamId))

/-- No sum that the rule takes leaves the range of its machine word. -/
structure SumsFit (requireProcessed : Bool) (rule : TimestampMergeRule) (lateness : Nat) (outTimeNs : UInt64)
    (observed processed : List UInt64) : Prop where
  offset : rule.ruleType = .offset → (outTimeNs.toNat : Int) + rule.offsetNs.toInt < 2 ^ 63
  threshold : rule.ruleType = .offset → (outTimeNs.toNat : Int) + rule.offsetNs.toInt < 0 →
    (lateness : Int) - rule.offsetNs.toInt < 2 ^ 64
  observed : ∀ time, observed.getLast? = some time → time.toNat + lateness < 2 ^ 64
  processed : requireProcessed = true → ∀ time, processed.getLast? = some time → time.toNat + lateness < 2 ^ 64

section Rule

variable {barrier : JoinBarrier} {state : InputState} {rule : TimestampMergeRule} {outTimeNs : UInt64}
  {times : List UInt64} {late : UInt64}

theorem lastReached_observed (holds : Rising.Holds times state.heldObservedTime) {lateness : Nat} :
    LastReached rule lateness outTimeNs times ↔
      state.hasObservedTime = true ∧ TimeReached rule lateness outTimeNs state.observedTimeNs := by
  rw [LastReached, holds.last, InputState.heldObservedTime]
  cases state.hasObservedTime <;> simp

theorem lastReached_processed (holds : Rising.Holds times state.heldProcessedTime) {lateness : Nat} :
    LastReached rule lateness outTimeNs times ↔
      state.hasProcessedTime = true ∧ TimeReached rule lateness outTimeNs state.processedTimeNs := by
  rw [LastReached, holds.last, InputState.heldProcessedTime]
  cases state.hasProcessedTime <;> simp

/-- The held times are compared with the required one when the sums with the lateness do not wrap. -/
theorem timeReached_iff {requiredTime : Int64}
    (observed : state.observedTimeNs.toNat + late.toNat < 2 ^ 64)
    (processed : barrier.requireProcessed = true → state.hasProcessedTime = true →
      state.processedTimeNs.toNat + late.toNat < 2 ^ 64) :
    timeReached barrier state late requiredTime = true ↔
      requiredTime.toUInt64.toNat ≤ state.observedTimeNs.toNat + late.toNat ∧
        (barrier.requireProcessed = true → state.hasProcessedTime = true ∧
          requiredTime.toUInt64.toNat ≤ state.processedTimeNs.toNat + late.toNat) := by
  have seen : state.observedTimeNs + late < requiredTime.toUInt64 ↔
      state.observedTimeNs.toNat + late.toNat < requiredTime.toUInt64.toNat := by
    rw [UInt64.lt_iff_toNat_lt, UInt64.toNat_add, Nat.mod_eq_of_lt observed]
  rw [timeReached]
  split_ifs with below asked
  · rw [seen] at below
    simp only [false_iff, not_and]
    omega
  · rw [seen] at below
    cases has : state.hasProcessedTime with
    | false => simp [asked]
    | true =>
        have done : state.processedTimeNs + late < requiredTime.toUInt64 ↔
            state.processedTimeNs.toNat + late.toNat < requiredTime.toUInt64.toNat := by
          rw [UInt64.lt_iff_toNat_lt, UInt64.toNat_add, Nat.mod_eq_of_lt (processed asked has)]
        simp [asked, done]
        omega
  · rw [seen] at below
    simp [asked]
    omega

/-- A rule is ready when the held times reach what the rule requires in the integers. -/
theorem timestampReadyForRule_iff {map : TimestampMergeMap} {observed processed : List UInt64}
    (latenessNs : barrier.latenessNs = if map.latenessNs = nullU64 then 0 else map.latenessNs)
    (seen : Rising.Holds observed state.heldObservedTime)
    (done : Rising.Holds processed state.heldProcessedTime)
    (fits : SumsFit barrier.requireProcessed rule (lateness map) outTimeNs observed processed) :
    timestampReadyForRule barrier state rule outTimeNs = .ok true ↔
      LastReached rule (lateness map) outTimeNs observed ∧
        (barrier.requireProcessed = true → LastReached rule (lateness map) outTimeNs processed) := by
  obtain ⟨late, isLate, value⟩ : ∃ late, (if barrier.latenessNs = nullU64 then 0 else barrier.latenessNs) = late ∧
      late.toNat = lateness map := by
    refine ⟨_, rfl, ?_⟩
    have zero : (0 : UInt64) ≠ nullU64 := by decide
    by_cases absent : map.latenessNs = nullU64
    · simp [latenessNs, lateness, absent, zero]
    · simp [latenessNs, lateness, absent]
  rw [lastReached_observed seen, lastReached_processed done, timestampReadyForRule, isLate]
  cases has : state.hasObservedTime with
  | false => simp
  | true =>
      have seenFits : state.observedTimeNs.toNat + late.toNat < 2 ^ 64 := by
        rw [value]
        apply fits.observed
        rw [seen.last, InputState.heldObservedTime, if_pos has]
      have doneFits : barrier.requireProcessed = true → state.hasProcessedTime = true →
          state.processedTimeNs.toNat + late.toNat < 2 ^ 64 := by
        intro asked has
        rw [value]
        apply fits.processed asked
        rw [done.last, InputState.heldProcessedTime, if_pos has]
      have reached := fun required => @timeReached_iff barrier state late required seenFits doneFits
      simp only [value] at reached
      cases kind : rule.ruleType with
      | unknown => simp [TimeReached, kind]
      | window =>
          have width : rule.windowNs = 0 ↔ rule.windowNs.toNat = 0 := UInt64.toNat_inj.symm
          have same : outTimeNs.toInt64.toUInt64 = outTimeNs := rfl
          simp only [TimeReached, kind, width, UInt64.lt_iff_toNat_lt, Bool.not_true, Bool.false_eq_true, if_false]
          split_ifs with none early
          · simp only [false_iff, not_and]
            omega
          · simp only [Except.ok.injEq, Bool.false_eq_true, false_iff, not_and]
            omega
          · rw [Except.ok.injEq, reached, same]
            constructor
            · rintro ⟨enough, also⟩
              exact ⟨⟨trivial, by omega, by omega, enough⟩,
                fun asked => ⟨(also asked).1, by omega, by omega, (also asked).2⟩⟩
            · rintro ⟨⟨-, -, -, enough⟩, also⟩
              exact ⟨enough, fun asked => ⟨(also asked).1, (also asked).2.2.2⟩⟩
      | offset =>
          have low := rule.offsetNs.le_toInt
          have top := fits.offset kind
          have exact : (outTimeNs.toInt64 + rule.offsetNs).toInt =
              (outTimeNs.toNat : Int) + rule.offsetNs.toInt := by
            rw [Signed.sum_toInt, Int.bmod_def]
            omega
          simp only [TimeReached, kind, Signed.neg_iff, exact, Bool.not_true, Bool.false_eq_true, if_false]
          split_ifs with negative offsetNegative early late
          · simp only [Except.ok.injEq, Bool.false_eq_true, false_iff, not_and]
            omega
          · -- The time is below the offset, so it is below the threshold.
            have size := Signed.neg_toUInt64 offsetNegative
            have bound := fits.threshold kind negative
            rw [UInt64.lt_iff_toNat_lt, UInt64.toNat_add] at early
            omega
          · omega
          · omega
          · have size : ((outTimeNs.toInt64 + rule.offsetNs).toUInt64.toNat : Int) =
                (outTimeNs.toNat : Int) + rule.offsetNs.toInt := by
              rw [Signed.toUInt64_toNat (by omega), exact]
            rw [Except.ok.injEq, reached]
            constructor
            · rintro ⟨enough, also⟩
              refine ⟨⟨trivial, by omega, by omega⟩, fun asked => ⟨(also asked).1, by omega, ?_⟩⟩
              have := (also asked).2
              omega
            · rintro ⟨⟨-, -, enough⟩, also⟩
              refine ⟨by omega, fun asked => ⟨(also asked).1, ?_⟩⟩
              have := (also asked).2.2
              omega

/-- The code fails on a rule only when its type is unknown or its window is empty. -/
theorem timestampReadyForRule_error {text : Option String}
    (failed : timestampReadyForRule barrier state rule outTimeNs = .error text) :
    rule.ruleType = .unknown ∨ rule.ruleType = .window ∧ rule.windowNs = 0 := by
  rw [timestampReadyForRule] at failed
  cases kind : rule.ruleType with
  | offset =>
      simp only [kind] at failed
      split_ifs at failed
  | window =>
      simp only [kind] at failed
      split_ifs at failed with _ empty
      exact .inr ⟨rfl, empty⟩
  | unknown => exact .inl rfl

end Rule

section History

variable {ruleCapacity : Nat} {calls : List Call} {barrier : JoinBarrier} {log : Log}
  {map : TimestampMergeMap} {outTimeNs nowNs : UInt64} {clockDomain : UInt8}

theorem history_timestamp_tracks (past : history .timestamp ruleCapacity calls = (barrier, log))
    (applied : log.applied = some (.timestamp map)) (distinct : map.Distinct) :
    List.Forall₂ (fun rule state => Tracks log (rule.inputStreamId, rule.timestampSource) state) map.rules
      barrier.state := by
  have mirrors := history_mirrors .timestamp ruleCapacity calls
  rw [past] at mirrors
  have once : (AppliedMap.timestamp map).Distinct := by
    rw [AppliedMap.Distinct, AppliedMap.inputs, List.map_map]
    exact distinct
  have tracked := mirrors.tracked _ applied once
  rwa [AppliedMap.inputs, List.forall₂_map_left_iff] at tracked

/-- A query in the clock domain of the map and not before an earlier query reaches the rules. -/
theorem history_timestamp_reply (past : history .timestamp ruleCapacity calls = (barrier, log))
    (applied : log.applied = some (.timestamp map)) (distinct : map.Distinct) (some : map.rules ≠ [])
    (domain : map.clockDomain ≠ 0 → clockDomain = map.clockDomain)
    (monotone : ∀ earlier ∈ log.outTimes, earlier ≤ outTimeNs) :
    (isReadyTimestamp barrier outTimeNs clockDomain nowNs).1 =
      timestampRulesReady (barrier.keepOutTime outTimeNs) outTimeNs nowNs := by
  have mirrors := history_mirrors .timestamp ruleCapacity calls
  have type := history_type .timestamp ruleCapacity calls
  have tracked := history_timestamp_tracks past applied distinct
  rw [past] at mirrors type
  have carries := mirrors.carries
  rw [applied] at carries
  obtain ⟨-, -, clock, -⟩ := carries
  rw [isReadyTimestamp, if_neg (not_not.mpr type), if_neg, if_neg, if_neg]
  · rfl
  · rintro ⟨queried, below⟩
    exact UInt64.not_lt.mpr (monotone _ (mirrors.lastOut queried)) below
  · rintro ⟨declared, other⟩
    rw [clock] at declared other
    exact other (domain declared)
  · rw [JoinBarrier.ruleCount, ← tracked.length_eq, List.length_eq_zero_iff]
    exact some

/-- While every sum fits its machine word, the answer is the readiness of the map in the integers. -/
theorem history_timestamp_ready (past : history .timestamp ruleCapacity calls = (barrier, log))
    (applied : log.applied = some (.timestamp map)) (distinct : map.Distinct)
    (unstale : map.staleTimeoutNs = nullU64) (domain : map.clockDomain ≠ 0 → clockDomain = map.clockDomain)
    (monotone : ∀ earlier ∈ log.outTimes, earlier ≤ outTimeNs)
    (fits : ∀ rule ∈ map.rules, SumsFit barrier.requireProcessed rule (lateness map) outTimeNs
      (log.observedTimes rule.inputStreamId) (log.processedTimes rule.inputStreamId)) :
    ((isReadyTimestamp barrier outTimeNs clockDomain nowNs).1 = .ok true ↔
        TimestampReady map log barrier.requireProcessed outTimeNs) ∧
      ((isReadyTimestamp barrier outTimeNs clockDomain nowNs).1 = .ok true ∨
        (isReadyTimestamp barrier outTimeNs clockDomain nowNs).1 = .ok false ∨
          (∃ rule ∈ map.rules, rule.ruleType = .unknown ∨ rule.ruleType = .window ∧ rule.windowNs = 0) ∧
            ∃ text, (isReadyTimestamp barrier outTimeNs clockDomain nowNs).1 = .error text) := by
  have mirrors := history_mirrors .timestamp ruleCapacity calls
  have tracked := history_timestamp_tracks past applied distinct
  rw [past] at mirrors
  have carries := mirrors.carries
  rw [applied] at carries
  obtain ⟨rules, stale, -, late⟩ := carries
  by_cases some : map.rules = []
  · rw [some] at tracked
    have empty : barrier.ruleCount = 0 := tracked.length_eq.symm
    have type := history_type .timestamp ruleCapacity calls
    rw [past] at type
    rw [isReadyTimestamp, if_neg (not_not.mpr type), if_pos empty, TimestampReady]
    simp [some]
  · rw [history_timestamp_reply past applied distinct some domain monotone, TimestampReady]
    have kept : (barrier.keepOutTime outTimeNs).timestampRules = map.rules := rules
    have absent : (barrier.keepOutTime outTimeNs).staleTimeoutNs = nullU64 := stale.trans unstale
    constructor
    · rw [timestampRulesReady, readyAll_true_iff, kept, and_iff_right some]
      apply forall_zip_iff tracked
      intro rule present state tracks
      rw [isStale_absent absent]
      simp only [true_implies]
      exact timestampReadyForRule_iff late tracks.observedTime tracks.processedTime (fits rule present)
    · cases reply : timestampRulesReady (barrier.keepOutTime outTimeNs) outTimeNs nowNs with
      | ok answer => cases answer <;> simp
      | error text =>
          obtain ⟨pair, present, failed⟩ := readyAll_error reply
          rw [kept] at present
          exact .inr (.inr ⟨⟨pair.1, (List.of_mem_zip present).1, timestampReadyForRule_error failed⟩, text, rfl⟩)

end History

/-- The rule looks back by ten, and the window rule needs a history of four. -/
def lateMap : TimestampMergeMap where
  outStreamId := 9
  epoch := 1
  staleTimeoutNs := nullU64
  clockDomain := clockDomainMonotonic
  latenessNs := 2
  rules := [⟨1, .offset, .frameDescriptor, -10, 0⟩, ⟨2, .window, .slotHeader, 0, 4⟩]

def lateCalls : List Call :=
  [.applyTimestampMap (some lateMap), .updateObservedTime 1 8 .frameDescriptor 1 0,
    .updateObservedTime 2 18 .slotHeader 1 0, .isReadyTimestamp 19 1 0]

theorem late_ready :
    ((isReadyTimestamp (history .timestamp 2 lateCalls).1 20 1 0).1 = .ok true ↔
        TimestampReady lateMap (history .timestamp 2 lateCalls).2 false 20) ∧
      (isReadyTimestamp (history .timestamp 2 lateCalls).1 20 1 0).1 = .ok true := by
  have asked : (history .timestamp 2 lateCalls).2.outTimes = [19] := by decide +kernel
  have first : (history .timestamp 2 lateCalls).2.observedTimes 1 = [8] := by decide +kernel
  have second : (history .timestamp 2 lateCalls).2.observedTimes 2 = [18] := by decide +kernel
  have unprocessed : (history .timestamp 2 lateCalls).2.processedTimes 1 = [] ∧
      (history .timestamp 2 lateCalls).2.processedTimes 2 = [] := by decide +kernel
  constructor
  · apply (@history_timestamp_ready 2 lateCalls (history .timestamp 2 lateCalls).1
      (history .timestamp 2 lateCalls).2 lateMap 20 0 1 rfl (by decide +kernel) (by decide +kernel)
      (by decide +kernel) (by decide +kernel) _ _).1
    · intro earlier present
      rw [asked, List.mem_singleton] at present
      rw [present]
      decide
    · rw [lateMap, List.forall_mem_cons, List.forall_mem_singleton, first, second, unprocessed.1, unprocessed.2]
      constructor
      · constructor
        · exact fun _ => by decide
        · exact fun _ _ => by decide
        · intro time last
          obtain rfl := Option.some.inj last
          decide
        · exact fun _ time last => nomatch last
      · constructor
        · exact fun kind => nomatch kind
        · exact fun kind => nomatch kind
        · intro time last
          obtain rfl := Option.some.inj last
          decide
        · exact fun _ time last => nomatch last
  · decide +kernel

def emptyWindowTimeMap : TimestampMergeMap where
  outStreamId := 9
  epoch := 1
  staleTimeoutNs := nullU64
  clockDomain := clockDomainMonotonic
  latenessNs := nullU64
  rules := [⟨1, .window, .frameDescriptor, 0, 0⟩]

def farMap : TimestampMergeMap where
  outStreamId := 9
  epoch := 1
  staleTimeoutNs := nullU64
  clockDomain := clockDomainMonotonic
  latenessNs := nullU64
  rules := [⟨1, .offset, .frameDescriptor, 1, 0⟩]

def observeZero (map : TimestampMergeMap) : List Call :=
  [.applyTimestampMap (some map), .updateObservedTime 1 0 .frameDescriptor clockDomainMonotonic 0]

/-- An empty window fails where it should be ready, and a sum above the signed range is ready too early. -/
theorem window_fails_and_sum_wraps :
    (history .timestamp 1 (observeZero emptyWindowTimeMap)).2.observedTimes 1 = [0] ∧
      (∀ rule ∈ emptyWindowTimeMap.rules, rule.ruleType = .window ∧
        rule.windowNs.toNat ≤ (0 : UInt64).toNat) ∧
      (isReadyTimestamp (history .timestamp 1 (observeZero emptyWindowTimeMap)).1 0 1 0).1 = .error none ∧
      (history .timestamp 1 (observeZero farMap)).2.observedTimes 1 = [0] ∧
      (∀ rule ∈ farMap.rules, rule.ruleType = .offset ∧
        ((0 : UInt64).toNat : Int) + lateness farMap <
          ((0x7FFFFFFFFFFFFFFF : UInt64).toNat : Int) + rule.offsetNs.toInt) ∧
      (isReadyTimestamp (history .timestamp 1 (observeZero farMap)).1 0x7FFFFFFFFFFFFFFF 1 0).1 = .ok true := by
  decide +kernel

end TensorPool.Join
