/-
This file gives the readiness of a sequence join in the integers.
-/

import TensorPool.Join.Tracking
import TensorPool.Library.Signed

namespace TensorPool.Join

open TensorPool.Merge

/-- The sequence is enough for the rule, with the sums taken in the integers. -/
def SequenceReached (rule : SequenceMergeRule) (outSeq seq : UInt64) : Prop :=
  match rule.ruleType with
  | .offset =>
    0 ≤ (outSeq.toNat : Int) + rule.offset.toInt ∧ (outSeq.toNat : Int) + rule.offset.toInt ≤ seq.toNat
  | .window =>
    1 ≤ rule.windowSize.toNat ∧ rule.windowSize.toNat ≤ outSeq.toNat + 1 ∧ outSeq.toNat ≤ seq.toNat
  | .unknown => False

/-- The maximum of the sequences is enough for the rule. -/
def MaximumReached (rule : SequenceMergeRule) (outSeq : UInt64) (seqs : List UInt64) : Prop :=
  ∃ seq, IsGreatest {item | item ∈ seqs} seq ∧ SequenceReached rule outSeq seq

/-- Every rule of the map is met by what was observed and, if asked, by what was processed. -/
def SequenceReady (map : SequenceMergeMap) (log : Log) (requireProcessed : Bool) (outSeq : UInt64) : Prop :=
  map.rules ≠ [] ∧ ∀ rule ∈ map.rules,
    MaximumReached rule outSeq (log.observedSeqs rule.inputStreamId) ∧
      (requireProcessed = true → MaximumReached rule outSeq (log.processedSeqs rule.inputStreamId))

def Call.smallSeq : Call → Bool
  | .updateObservedSeq _ seq _ => seq < 0x8000000000000000
  | .updateProcessedSeq _ seq _ => seq < 0x8000000000000000
  | _ => true

/-- The sequence numbers of the log fit the 63 bits of a slot header. -/
def Log.SmallSeqs (log : Log) : Prop := ∀ call ∈ log.calls, call.smallSeq = true

instance (log : Log) : Decidable log.SmallSeqs :=
  inferInstanceAs (Decidable (∀ call ∈ log.calls, call.smallSeq = true))

theorem Log.SmallSeqs.observed {log : Log} (small : log.SmallSeqs) {streamId : UInt32} {seq : UInt64}
    (present : seq ∈ log.observedSeqs streamId) : seq.toNat < 2 ^ 63 := by
  obtain ⟨call, called, read⟩ := List.mem_filterMap.mp present
  have fits := small call called
  cases call <;> simp only [Call.observedSeq?, reduceCtorEq, Option.ite_none_right_eq_some,
    Option.some.injEq] at read
  rw [read.2] at fits
  simpa [Call.smallSeq, UInt64.lt_iff_toNat_lt] using fits

section Rule

variable {barrier : JoinBarrier} {log : Log} {state : InputState} {rule : SequenceMergeRule}
  {outSeq : UInt64} {seqs : List UInt64}

/-- The held sequences are compared with the required one as integers. -/
theorem sequenceReached_iff {requiredSeq : Int64} (nonneg : 0 ≤ requiredSeq.toInt) :
    sequenceReached barrier state requiredSeq = true ↔
      requiredSeq.toInt ≤ state.observedSeq.toNat ∧
        (barrier.requireProcessed = true → state.hasProcessedSeq = true ∧
          requiredSeq.toInt ≤ state.processedSeq.toNat) := by
  have observed : state.observedSeq < requiredSeq.toUInt64 ↔ _ := Signed.lt_toUInt64_iff nonneg
  have processed : state.processedSeq < requiredSeq.toUInt64 ↔ _ := Signed.lt_toUInt64_iff nonneg
  rw [sequenceReached]
  split_ifs with below asked
  · simp only [observed] at below
    simp only [false_iff, not_and]
    omega
  · simp only [observed] at below
    simp [asked, processed]
    omega
  · simp only [observed] at below
    simp [asked]
    omega

theorem maximumReached_observed (holds : Rising.Holds seqs state.heldObservedSeq) :
    MaximumReached rule outSeq seqs ↔
      state.hasObservedSeq = true ∧ SequenceReached rule outSeq state.observedSeq := by
  rw [MaximumReached, holds.greatest_iff, InputState.heldObservedSeq]
  cases state.hasObservedSeq <;> simp

theorem maximumReached_processed (holds : Rising.Holds seqs state.heldProcessedSeq) :
    MaximumReached rule outSeq seqs ↔
      state.hasProcessedSeq = true ∧ SequenceReached rule outSeq state.processedSeq := by
  rw [MaximumReached, holds.greatest_iff, InputState.heldProcessedSeq]
  cases state.hasProcessedSeq <;> simp

theorem heldObservedSeq_lt (holds : Rising.Holds seqs state.heldObservedSeq)
    (small : ∀ seq ∈ seqs, seq.toNat < 2 ^ 63) (has : state.hasObservedSeq = true) :
    state.observedSeq.toNat < 2 ^ 63 := by
  apply small
  apply List.mem_of_getLast?
  rw [holds.last, InputState.heldObservedSeq, if_pos has]

/-- A rule is ready when the held sequences reach what the rule requires in the integers. -/
theorem sequenceReadyForRule_iff (small : outSeq.toNat < 2 ^ 63)
    (smallSeq : state.hasObservedSeq = true → state.observedSeq.toNat < 2 ^ 63) :
    sequenceReadyForRule barrier state rule outSeq = .ok true ↔
      (state.hasObservedSeq = true ∧ SequenceReached rule outSeq state.observedSeq) ∧
        (barrier.requireProcessed = true →
          state.hasProcessedSeq = true ∧ SequenceReached rule outSeq state.processedSeq) := by
  rw [sequenceReadyForRule]
  cases has : state.hasObservedSeq with
  | false => simp
  | true =>
      have bound := smallSeq has
      cases kind : rule.ruleType with
      | unknown => simp [SequenceReached, kind]
      | window =>
          have value := Signed.toInt64_of_lt small
          have reached := @sequenceReached_iff barrier state outSeq.toInt64 (by omega)
          have width : rule.windowSize = 0 ↔ rule.windowSize.toNat = 0 := UInt32.toNat_inj.symm
          have early : outSeq + 1 < rule.windowSize.toUInt64 ↔ outSeq.toNat + 1 < rule.windowSize.toNat := by
            rw [UInt64.lt_iff_toNat_lt, UInt64.toNat_add, UInt32.toNat_toUInt64, UInt64.toNat_one,
              Nat.mod_eq_of_lt (by omega)]
          simp only [SequenceReached, kind, width, early, Bool.not_true, Bool.false_eq_true, if_false]
          split_ifs with none soon
          · simp only [Except.ok.injEq, Bool.false_eq_true, false_iff, not_and]
            omega
          · simp only [Except.ok.injEq, Bool.false_eq_true, false_iff, not_and]
            omega
          · rw [Except.ok.injEq, reached, value]
            constructor
            · rintro ⟨seen, done⟩
              refine ⟨⟨trivial, by omega⟩, fun asked => ⟨(done asked).1, ?_⟩⟩
              have := (done asked).2
              omega
            · rintro ⟨⟨-, seen⟩, done⟩
              refine ⟨by omega, fun asked => ⟨(done asked).1, ?_⟩⟩
              have := (done asked).2
              omega
      | offset =>
          have low := rule.offset.le_toInt
          have high := rule.offset.toInt_lt
          have value : (outSeq.toInt64 + rule.offset.toInt64).toInt =
              ((outSeq.toNat : Int) + rule.offset.toInt).bmod (2 ^ 64) := by
            rw [Signed.sum_toInt, Int32.toInt_toInt64]
          simp only [SequenceReached, kind, Signed.neg_iff, Bool.not_true, Bool.false_eq_true, if_false]
          split_ifs with negative
          · -- The sum is negative or too large for any sequence number.
            rw [value, Int.bmod_def] at negative
            simp only [Except.ok.injEq, Bool.false_eq_true, false_iff, not_and]
            omega
          · have exact : (outSeq.toInt64 + rule.offset.toInt64).toInt = (outSeq.toNat : Int) + rule.offset.toInt := by
              rw [value, Int.bmod_def] at negative ⊢
              omega
            rw [Except.ok.injEq, sequenceReached_iff (by omega), exact]
            rw [exact] at negative
            constructor
            · rintro ⟨seen, done⟩
              exact ⟨⟨trivial, by omega, seen⟩, fun asked => ⟨(done asked).1, by omega, (done asked).2⟩⟩
            · rintro ⟨⟨-, -, seen⟩, done⟩
              exact ⟨seen, fun asked => ⟨(done asked).1, (done asked).2.2⟩⟩

/-- The code fails on a rule only when its type is unknown. -/
theorem sequenceReadyForRule_error {text : Option String}
    (failed : sequenceReadyForRule barrier state rule outSeq = .error text) : rule.ruleType = .unknown := by
  rw [sequenceReadyForRule] at failed
  cases kind : rule.ruleType with
  | offset =>
      simp only [kind] at failed
      split_ifs at failed
  | window =>
      simp only [kind] at failed
      split_ifs at failed
  | unknown => rfl

end Rule

section History

variable {ruleCapacity : Nat} {calls : List Call} {barrier : JoinBarrier} {log : Log}
  {map : SequenceMergeMap} {outSeq nowNs : UInt64}

theorem history_sequence_tracks (past : history .sequence ruleCapacity calls = (barrier, log))
    (applied : log.applied = some (.sequence map)) (distinct : map.Distinct) :
    List.Forall₂ (fun rule state => Tracks log (rule.inputStreamId, 0) state) map.rules barrier.state := by
  have mirrors := history_mirrors .sequence ruleCapacity calls
  rw [past] at mirrors
  have once : (AppliedMap.sequence map).Distinct := by
    rw [AppliedMap.Distinct, AppliedMap.inputs, List.map_map]
    exact distinct
  have tracked := mirrors.tracked _ applied once
  rwa [AppliedMap.inputs, List.forall₂_map_left_iff] at tracked

theorem history_sequence_carries (past : history .sequence ruleCapacity calls = (barrier, log))
    (applied : log.applied = some (.sequence map)) :
    barrier.type = .sequence ∧ barrier.sequenceRules = map.rules ∧
      barrier.staleTimeoutNs = map.staleTimeoutNs := by
  have mirrors := history_mirrors .sequence ruleCapacity calls
  have type := history_type .sequence ruleCapacity calls
  rw [past] at mirrors type
  have carries := mirrors.carries
  rw [applied] at carries
  exact ⟨type, carries.1, carries.2.1⟩

/-- The loop over the rules agrees with the readiness of the map. -/
theorem sequenceRulesReady_iff
    (tracked : List.Forall₂ (fun rule state => Tracks log (rule.inputStreamId, 0) state) map.rules barrier.state)
    (rules : barrier.sequenceRules = map.rules) (unstale : barrier.staleTimeoutNs = nullU64)
    (small : outSeq.toNat < 2 ^ 63) (smallSeqs : log.SmallSeqs) :
    sequenceRulesReady barrier outSeq nowNs = .ok true ↔ ∀ rule ∈ map.rules,
      MaximumReached rule outSeq (log.observedSeqs rule.inputStreamId) ∧
        (barrier.requireProcessed = true →
          MaximumReached rule outSeq (log.processedSeqs rule.inputStreamId)) := by
  rw [sequenceRulesReady, readyAll_true_iff, rules]
  apply forall_zip_iff tracked
  intro rule _ state tracks
  rw [isStale_absent unstale, maximumReached_observed tracks.observedSeq,
    maximumReached_processed tracks.processedSeq]
  simp only [true_implies]
  apply sequenceReadyForRule_iff small
  exact heldObservedSeq_lt tracks.observedSeq fun _ => smallSeqs.observed

/-- The answer is the readiness of the map, except that an unknown rule type can make the call fail. -/
theorem history_sequence_ready (past : history .sequence ruleCapacity calls = (barrier, log))
    (applied : log.applied = some (.sequence map)) (distinct : map.Distinct)
    (unstale : map.staleTimeoutNs = nullU64) (small : outSeq.toNat < 2 ^ 63) (smallSeqs : log.SmallSeqs) :
    (isReadySequence barrier outSeq nowNs = .ok true ↔
        SequenceReady map log barrier.requireProcessed outSeq) ∧
      (isReadySequence barrier outSeq nowNs = .ok true ∨ isReadySequence barrier outSeq nowNs = .ok false ∨
        (∃ rule ∈ map.rules, rule.ruleType = .unknown) ∧
          ∃ text, isReadySequence barrier outSeq nowNs = .error text) := by
  obtain ⟨type, rules, stale⟩ := history_sequence_carries past applied
  have tracked := history_sequence_tracks past applied distinct
  have ready := @sequenceRulesReady_iff barrier log map outSeq nowNs tracked rules (stale.trans unstale)
    small smallSeqs
  have count : barrier.ruleCount = map.rules.length := tracked.length_eq.symm
  rw [isReadySequence, if_neg (not_not.mpr type), count, SequenceReady]
  cases same : map.rules with
  | nil => simp
  | cons first rest =>
      rw [if_neg (by simp), ← same]
      constructor
      · rw [ready, same]
        simp
      · cases reply : sequenceRulesReady barrier outSeq nowNs with
        | ok answer => cases answer <;> simp
        | error text =>
            obtain ⟨pair, present, failed⟩ := readyAll_error reply
            rw [rules] at present
            have unknown := sequenceReadyForRule_error failed
            exact .inr (.inr ⟨⟨pair.1, (List.of_mem_zip present).1, unknown⟩, text, rfl⟩)

end History

/-- The first rule looks ahead by one and the second one needs a window of two. -/
def mixedMap : SequenceMergeMap where
  outStreamId := 9
  epoch := 1
  staleTimeoutNs := nullU64
  rules := [⟨1, .offset, 1, 0⟩, ⟨2, .window, 0, 2⟩]

def mixedCalls : List Call :=
  [.applySequenceMap (some mixedMap), .updateObservedSeq 1 3 0, .updateObservedSeq 1 2 0, .updateObservedSeq 2 7 0]

theorem mixed_ready :
    (isReadySequence (history .sequence 2 mixedCalls).1 2 0 = .ok true ↔
        SequenceReady mixedMap (history .sequence 2 mixedCalls).2 false 2) ∧
      isReadySequence (history .sequence 2 mixedCalls).1 2 0 = .ok true := by
  constructor
  · exact (history_sequence_ready rfl (by decide +kernel) (by decide +kernel) (by decide +kernel)
      (by decide +kernel) (by decide +kernel)).1
  · decide +kernel

/-- A window of zero is never ready, although its input has reached the output sequence. -/
def emptyWindowMap : SequenceMergeMap where
  outStreamId := 9
  epoch := 1
  staleTimeoutNs := nullU64
  rules := [⟨1, .window, 0, 0⟩]

def emptyWindowCalls : List Call := [.applySequenceMap (some emptyWindowMap), .updateObservedSeq 1 5 0]

theorem emptyWindow_blocks :
    (history .sequence 1 emptyWindowCalls).2.applied = some (.sequence emptyWindowMap) ∧
      (history .sequence 1 emptyWindowCalls).2.observedSeqs 1 = [5] ∧
      (∀ rule ∈ emptyWindowMap.rules, rule.ruleType = .window ∧
        rule.windowSize.toNat ≤ (5 : UInt64).toNat + 1) ∧
      (history .sequence 1 emptyWindowCalls).1.requireProcessed = false ∧
      isReadySequence (history .sequence 1 emptyWindowCalls).1 5 0 = .ok false := by
  decide +kernel

end TensorPool.Join
