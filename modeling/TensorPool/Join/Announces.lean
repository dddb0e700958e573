/-
This file shows when the announces of a merge map leave a join barrier alone.
-/

import TensorPool.Join.Tracking
import TensorPool.Library.GuardedRun
import TensorPool.Merge.Scan

namespace TensorPool.Join

open Scan Merge

/-- The handler has room for this number of rules. -/
def handlerRules : Nat := 256

/-- The handler tries both decoders; another message names no map. -/
def announcedMap (bytes : List UInt8) : Scan Refusal (Option AppliedMap) :=
  match scanSequenceMap bytes handlerRules with
  | fault => fault
  | value map => value (some (.sequence map))
  | stop _ =>
      match scanTimestampMap bytes handlerRules with
      | fault => fault
      | value map => value (some (.timestamp map))
      | stop _ => value none

/-- The handler keeps one barrier of each type, and calls it by the kind of the map. -/
def handlerCall : BarrierType → AppliedMap → Option Call
  | .sequence, .sequence map => some (.applySequenceMap (some map))
  | .timestamp, .timestamp map => some (.applyTimestampMap (some map))
  | .latestValue, .sequence map => some (.applyLatestValueSequenceMap (some map))
  | .latestValue, .timestamp map => some (.applyLatestValueTimestampMap (some map))
  | _, _ => none

inductive Outcome where
  | accepted (accepted : Bool)
  | ready (reply : Reply Bool)
  | stale (reply : Reply (Nat × List UInt32))
  | latest (reply : Reply (List LatestSelection))
  deriving DecidableEq

/-- This is what the caller sees of a call. -/
def outcome (barrier : JoinBarrier) : Call → Outcome
  | .isReadySequence outSeq nowNs => .ready (isReadySequence barrier outSeq nowNs)
  | .isReadyTimestamp outTimeNs clockDomain nowNs => .ready (isReadyTimestamp barrier outTimeNs clockDomain nowNs).1
  | .isReadyLatest outSeq outTimeNs clockDomain nowNs =>
      .ready (isReadyLatest barrier outSeq outTimeNs clockDomain nowNs).1
  | call => .accepted (perform barrier call).1

inductive Event where
  | call (call : Call)
  | collectStaleInputs (nowNs : UInt64) (capacity : Nat)
  | collectLatest (capacity : Nat)
  | announce (bytes : List UInt8)

/-- A registered barrier with the map that was applied last and what its caller saw, the last outcome first. -/
structure Registered where
  barrier : JoinBarrier
  applied : Option AppliedMap := none
  outcomes : List Outcome := []
  deriving DecidableEq

namespace Registered

/-- The map of an accepted call is the applied one. -/
def perform (registered : Registered) (call : Call) : Registered :=
  { registered with
    barrier := (Join.perform registered.barrier call).2
    applied := if (Join.perform registered.barrier call).1 then call.appliedMap.or registered.applied
      else registered.applied }

/-- This is `tp_control_poller_handler` with a barrier that is registered as the given type. -/
def handle (slot : BarrierType) (registered : Registered) (map : AppliedMap) : Registered :=
  match handlerCall slot map with
  | none => registered
  | some call => registered.perform call

def see (registered : Registered) (outcome : Outcome) : Registered :=
  { registered with outcomes := outcome :: registered.outcomes }

/-- The announces that pass the filter are handled. -/
def stepWith (heeds : Registered → AppliedMap → Bool) (slot : BarrierType) (registered : Registered) :
    Event → Option Registered
  | .call call => some ((registered.perform call).see (outcome registered.barrier call))
  | .collectStaleInputs nowNs capacity =>
      some (registered.see (.stale (Join.collectStaleInputs registered.barrier nowNs capacity)))
  | .collectLatest capacity => some (registered.see (.latest (Join.collectLatest registered.barrier capacity)))
  | .announce bytes =>
      match announcedMap bytes with
      | fault => none
      | stop _ => some registered
      | value none => some registered
      | value (some map) => some (if heeds registered map then registered.handle slot map else registered)

/-- The code handles every announce. -/
def step (slot : BarrierType) : Registered → Event → Option Registered := stepWith (fun _ _ => true) slot

end Registered

def AppliedMap.outStreamId : AppliedMap → UInt32
  | .sequence map => map.outStreamId
  | .timestamp map => map.outStreamId

def AppliedMap.ruleCount : AppliedMap → Nat
  | .sequence map => map.rules.length
  | .timestamp map => map.rules.length

namespace Registered

/-- The announce repeats the applied map, or it is for another output than the applied map. -/
def idle (registered : Registered) (map : AppliedMap) : Bool :=
  match registered.applied with
  | none => false
  | some applied => map == applied || map.outStreamId != applied.outStreamId

/-- In this run no idle announce is handled. -/
def stepWithout (slot : BarrierType) : Registered → Event → Option Registered :=
  stepWith (fun registered map => !registered.idle map) slot

end Registered

/-- The inputs of a map before any of them was observed. -/
def AppliedMap.blankState : AppliedMap → List InputState
  | .sequence map => map.rules.map fun rule => { streamId := rule.inputStreamId }
  | .timestamp map => map.rules.map fun rule =>
      { streamId := rule.inputStreamId, timestampSource := rule.timestampSource }

/-- The barrier can take the map: its type is the one of the slot, and it has room for the rules. -/
def takes (slot : BarrierType) (barrier : JoinBarrier) (map : AppliedMap) : Bool :=
  (handlerCall slot map).isSome && barrier.type == slot && map.ruleCount ≤ barrier.ruleCapacity

/-- No input of the map was updated and no output time was asked for. -/
def untouched (barrier : JoinBarrier) (map : AppliedMap) : Bool :=
  barrier.state == map.blankState && !barrier.hasLastOutTime

namespace Registered

/-- The barrier does not take an idle map, or it holds this map and is untouched. -/
def quietMap (slot : BarrierType) (registered : Registered) (map : AppliedMap) : Bool :=
  !takes slot registered.barrier map || (registered.applied == some map && untouched registered.barrier map)

def quiet (slot : BarrierType) (registered : Registered) : Event → Bool
  | .announce bytes =>
      match announcedMap bytes with
      | value (some map) => !registered.idle map || registered.quietMap slot map
      | _ => true
  | _ => true

end Registered

/-- This is what the barrier holds right after the map was applied. -/
def loaded (barrier : JoinBarrier) : AppliedMap → JoinBarrier
  | .sequence map =>
      loadSequenceRules
        { barrier.clear with
          outStreamId := map.outStreamId
          epoch := map.epoch
          staleTimeoutNs := map.staleTimeoutNs } map
  | .timestamp map =>
      loadTimestampRules
        { barrier.clear with
          outStreamId := map.outStreamId
          epoch := map.epoch
          staleTimeoutNs := map.staleTimeoutNs
          latenessNs := if map.latenessNs = nullU64 then 0 else map.latenessNs
          clockDomain := map.clockDomain } map

/-- A map is applied when both of its checks pass, and nothing changes otherwise. -/
theorem settle_checked {barrier changed : JoinBarrier} {type : BarrierType} {count : Nat} {full mismatch : String} :
    settle barrier
        (if barrier.ruleCapacity < count then .error (some full)
        else if barrier.type ≠ type then .error (some mismatch)
        else .ok changed) =
      if barrier.type = type ∧ count ≤ barrier.ruleCapacity then (true, changed) else (false, barrier) := by
  by_cases room : barrier.ruleCapacity < count
  · rw [if_pos room, if_neg fun both => Nat.not_lt.mpr both.2 room]
    rfl
  · rw [if_neg room]
    by_cases same : barrier.type = type
    · rw [if_neg (not_not.mpr same), if_pos ⟨same, Nat.not_lt.mp room⟩]
      rfl
    · rw [if_pos same, if_neg fun both => same both.1]
      rfl

/-- A sequence map is taken when it is of the type and fits the capacity. -/
theorem settle_applySequence (name : String) (type : BarrierType) (barrier : JoinBarrier) (map : SequenceMergeMap) :
    settle barrier (applySequence name type barrier (some map)) =
      if barrier.type = type ∧ map.rules.length ≤ barrier.ruleCapacity then (true, loaded barrier (.sequence map))
      else (false, barrier) := by
  rw [applySequence, settle_checked]
  rfl

/-- A timestamp map is taken when it is of the type and fits the capacity. -/
theorem settle_applyTimestamp (name : String) (type : BarrierType) (barrier : JoinBarrier) (map : TimestampMergeMap) :
    settle barrier (applyTimestamp name type barrier (some map)) =
      if barrier.type = type ∧ map.rules.length ≤ barrier.ruleCapacity then (true, loaded barrier (.timestamp map))
      else (false, barrier) := by
  rw [applyTimestamp, settle_checked]
  rfl

/-- The handled map is applied when the barrier takes it, and is refused otherwise. -/
theorem perform_handlerCall {slot : BarrierType} {map : AppliedMap} {call : Call}
    (called : handlerCall slot map = some call) (barrier : JoinBarrier) :
    call.appliedMap = some map ∧ perform barrier call =
      if takes slot barrier map then (true, loaded barrier map) else (false, barrier) := by
  have taken : takes slot barrier map = true ↔ barrier.type = slot ∧ map.ruleCount ≤ barrier.ruleCapacity := by
    rw [takes, called]
    simp
  rw [if_congr taken rfl rfl]
  cases slot <;> cases map <;> cases called
  · exact ⟨rfl, settle_applySequence ..⟩
  · exact ⟨rfl, settle_applyTimestamp ..⟩
  · exact ⟨rfl, settle_applySequence ..⟩
  · exact ⟨rfl, settle_applyTimestamp ..⟩

namespace Registered

variable {slot : BarrierType} {registered : Registered} {map : AppliedMap}

/-- A taken announce loads its map. -/
theorem handle_taken (taken : takes slot registered.barrier map = true) :
    registered.handle slot map =
      { registered with barrier := loaded registered.barrier map, applied := some map } := by
  obtain ⟨call, called⟩ : ∃ call, handlerCall slot map = some call := by
    rw [takes, Bool.and_eq_true, Bool.and_eq_true] at taken
    exact Option.isSome_iff_exists.mp taken.1.1
  obtain ⟨same, performed⟩ := perform_handlerCall called registered.barrier
  rw [if_pos taken] at performed
  rw [handle, called]
  dsimp only
  rw [Registered.perform, performed, same]
  rfl

/-- A refused announce changes nothing. -/
theorem handle_refused (refused : takes slot registered.barrier map = false) :
    registered.handle slot map = registered := by
  rw [handle]
  cases called : handlerCall slot map with
  | none => rfl
  | some call =>
      obtain ⟨-, performed⟩ := perform_handlerCall called registered.barrier
      rw [if_neg (Bool.not_eq_true _ ▸ refused)] at performed
      dsimp only
      rw [Registered.perform, performed]
      rfl

end Registered

/-- Apart from its inputs and its last output time the barrier is as the map left it. -/
structure Registered.Carries (registered : Registered) : Prop where
  map : ∀ map, registered.applied = some map →
    { registered.barrier with state := map.blankState, lastOutTimeNs := 0, hasLastOutTime := false } =
      loaded registered.barrier map
  unasked : registered.barrier.hasLastOutTime = false → registered.barrier.lastOutTimeNs = 0

namespace Registered

variable {slot : BarrierType} {registered : Registered} {map : AppliedMap}

/-- An idle map is without effect if and only if it is quiet. -/
theorem handle_idle_iff (carries : registered.Carries) (idle : registered.idle map = true) :
    registered.handle slot map = registered ↔ registered.quietMap slot map = true := by
  rw [quietMap, Bool.or_eq_true, Bool.not_eq_true', Bool.and_eq_true, untouched, Bool.and_eq_true, beq_iff_eq,
    beq_iff_eq, Bool.not_eq_true']
  cases taken : takes slot registered.barrier map with
  | false => simp [handle_refused taken]
  | true =>
      rw [handle_taken taken]
      constructor
      · intro same
        have applied : registered.applied = some map := by rw [← same]
        have barrier : loaded registered.barrier map = registered.barrier := congrArg Registered.barrier same
        refine .inr ⟨applied, ?_, ?_⟩
        · rw [← barrier]
          cases map <;> rfl
        · rw [← barrier]
          cases map <;> rfl
      · intro quiet
        obtain ⟨applied, state, asked⟩ := quiet.resolve_left (by decide)
        have same := carries.map map applied
        rw [← state, ← carries.unasked asked, ← asked] at same
        rw [← same, ← applied]

/-- A new barrier carries no map. -/
theorem carries_start (type : BarrierType) (ruleCapacity : Nat) :
    Carries { barrier := { type, ruleCapacity } } where
  map := fun _ absent => nomatch absent
  unasked := fun _ => rfl

/-- A loaded barrier carries its map. -/
theorem carries_loaded (barrier : JoinBarrier) (map : AppliedMap) (outcomes : List Outcome) :
    Carries { barrier := loaded barrier map, applied := some map, outcomes } where
  map := by
    intro other same
    obtain rfl := Option.some.inj same
    cases map <;> rfl
  unasked := by
    intro _
    cases map <;> rfl

/-- A change of the inputs, of the last output time or of a setting keeps what the map left. -/
theorem Carries.change (carries : registered.Carries) (outcomes : List Outcome) {changed : JoinBarrier}
    (kept : ∀ map, { registered.barrier with state := map.blankState, lastOutTimeNs := 0, hasLastOutTime := false } =
        loaded registered.barrier map →
      { changed with state := map.blankState, lastOutTimeNs := 0, hasLastOutTime := false } = loaded changed map)
    (unasked : changed.hasLastOutTime = false →
      registered.barrier.hasLastOutTime = false ∧ changed.lastOutTimeNs = registered.barrier.lastOutTimeNs) :
    Carries { registered with barrier := changed, outcomes } where
  map := fun map applied => kept map (carries.map map applied)
  unasked := by
    intro none
    obtain ⟨before, same⟩ := unasked none
    exact same.trans (carries.unasked before)

/-- A change of the inputs keeps the map. -/
theorem Carries.inputs (carries : registered.Carries) (outcomes : List Outcome) {name : String} {streamId : UInt32}
    {change : InputState → Reply InputState} :
    Carries { registered with
      barrier := (settle registered.barrier (registered.barrier.changeInput name streamId change)).2, outcomes } := by
  rw [JoinBarrier.changeInput]
  cases changeState name streamId change registered.barrier.state with
  | error text => exact carries.change outcomes (fun _ same => same) fun none => ⟨none, rfl⟩
  | ok states =>
      apply carries.change outcomes
      · intro map same
        cases map <;> exact same
      · intro none
        exact ⟨none, rfl⟩

/-- A query keeps the map. -/
theorem Carries.asked (carries : registered.Carries) (outcomes : List Outcome) {changed : JoinBarrier}
    {outTimeNs : UInt64}
    (result : changed = registered.barrier ∨ changed = registered.barrier.keepOutTime outTimeNs) :
    Carries { registered with barrier := changed, outcomes } := by
  obtain rfl | rfl := result
  · exact carries.change outcomes (fun _ same => same) fun none => ⟨none, rfl⟩
  · apply carries.change outcomes
    · intro map same
      cases map <;> exact same
    · intro none
      cases none

/-- A map that is applied by a call is left by this call, and a refused one changes nothing. -/
theorem Carries.applies (carries : registered.Carries) {call : Call} (applied : call.appliedMap = some map)
    {fits : Prop} [Decidable fits]
    (performed : Join.perform registered.barrier call =
      if fits then (true, loaded registered.barrier map) else (false, registered.barrier)) :
    (registered.perform call).Carries := by
  rw [Registered.perform, performed, applied]
  split
  · exact carries_loaded ..
  · exact carries

/-- A refused call keeps the map. -/
theorem Carries.refuses (carries : registered.Carries) {call : Call}
    (performed : Join.perform registered.barrier call = (false, registered.barrier)) :
    (registered.perform call).Carries := by
  rw [Registered.perform, performed]
  exact carries

/-- A call that applies no map changes at most the barrier. -/
theorem perform_unapplied {call : Call} (unapplied : call.appliedMap = none) :
    registered.perform call = { registered with barrier := (Join.perform registered.barrier call).2 } := by
  rw [Registered.perform, unapplied, Option.none_or, ite_self]

/-- Each call keeps what the barrier carries. -/
theorem Carries.perform (carries : registered.Carries) (call : Call) : (registered.perform call).Carries := by
  cases call with
  | applySequenceMap map =>
      cases map with
      | none => exact carries.refuses rfl
      | some map => exact carries.applies rfl (settle_applySequence ..)
  | applyTimestampMap map =>
      cases map with
      | none => exact carries.refuses rfl
      | some map => exact carries.applies rfl (settle_applyTimestamp ..)
  | applyLatestValueSequenceMap map =>
      cases map with
      | none => exact carries.refuses rfl
      | some map => exact carries.applies rfl (settle_applySequence ..)
  | applyLatestValueTimestampMap map =>
      cases map with
      | none => exact carries.refuses rfl
      | some map => exact carries.applies rfl (settle_applyTimestamp ..)
  | isReadySequence outSeq nowNs => exact @Carries.asked registered carries _ _ 0 (.inl rfl)
  | isReadyTimestamp outTimeNs clockDomain nowNs =>
      rw [perform_unapplied rfl]
      exact carries.asked _ (isReadyTimestamp_barrier ..)
  | isReadyLatest outSeq outTimeNs clockDomain nowNs =>
      rw [perform_unapplied rfl]
      exact carries.asked _ (isReadyLatest_barrier ..)
  | setAllowStale allowStale =>
      rw [perform_unapplied rfl]
      apply carries.change
      · intro map same
        have set := congrArg (JoinBarrier.setAllowStale · allowStale) same
        cases map <;> exact set
      · intro none
        exact ⟨none, rfl⟩
  | setRequireProcessed requireProcessed =>
      rw [perform_unapplied rfl]
      apply carries.change
      · intro map same
        have set := congrArg (JoinBarrier.setRequireProcessed · requireProcessed) same
        cases map <;> exact set
      · intro none
        exact ⟨none, rfl⟩
  | setLatestOrdering ordering =>
      rw [perform_unapplied rfl]
      apply carries.change
      · intro map same
        have set := congrArg (JoinBarrier.setLatestOrdering · ordering) same
        cases map <;> exact set
      · intro none
        exact ⟨none, rfl⟩
  | updateObservedSeq _ _ _ | updateProcessedSeq _ _ _ | updateObservedTime _ _ _ _ _ | updateProcessedTime _ _ _ _ _
  | invalidateLatest _ =>
      rw [perform_unapplied rfl]
      exact carries.inputs _

/-- Each announce keeps what the barrier carries. -/
theorem Carries.handle (carries : registered.Carries) : (registered.handle slot map).Carries := by
  rw [Registered.handle]
  split
  · exact carries
  · exact carries.perform _

/-- A seen outcome keeps what the barrier carries. -/
theorem Carries.see (carries : registered.Carries) (outcome : Outcome) : (registered.see outcome).Carries where
  map := carries.map
  unasked := carries.unasked

/-- Each step keeps what the barrier carries. -/
theorem Carries.step (carries : registered.Carries) {event : Event} {after : Registered}
    (stepped : registered.step slot event = some after) : after.Carries := by
  cases event with
  | call call =>
      cases stepped
      exact (carries.perform call).see _
  | collectStaleInputs nowNs capacity =>
      cases stepped
      exact carries.see _
  | collectLatest capacity =>
      cases stepped
      exact carries.see _
  | announce bytes =>
      rw [Registered.step, stepWith] at stepped
      split at stepped
      · cases stepped
      · cases stepped
        exact carries
      · cases stepped
        exact carries
      · cases stepped
        exact carries.handle

/-- A quiet event does what it does when idle announces are left out. -/
theorem Carries.quiet_step (carries : registered.Carries) {event : Event}
    (quiet : registered.quiet slot event = true) :
    registered.step slot event = registered.stepWithout slot event := by
  cases event with
  | call | collectStaleInputs | collectLatest => rfl
  | announce bytes =>
      rw [Registered.quiet] at quiet
      rw [Registered.step, stepWithout, stepWith, stepWith]
      cases announced : announcedMap bytes with
      | fault => rfl
      | stop => rfl
      | value found =>
          cases found with
          | none => rfl
          | some map =>
              rw [announced] at quiet
              dsimp only at quiet ⊢
              rw [if_pos rfl]
              cases idle : registered.idle map with
              | false => rfl
              | true =>
                  rw [idle] at quiet
                  exact congrArg some ((handle_idle_iff carries idle).mpr quiet)

end Registered

/-- In a run of quiet events the barrier and each outcome are those of the run without the idle announces. -/
theorem idle_announces {type slot : BarrierType} {ruleCapacity : Nat} {events : List Event} {after : Registered}
    (ran : GuardedRun.runWhile (Registered.quiet slot) (Registered.step slot) { barrier := { type, ruleCapacity } }
      events = some after) :
    GuardedRun.run (Registered.stepWithout slot) { barrier := { type, ruleCapacity } } events = some after := by
  apply GuardedRun.agrees _ _ ran (Registered.carries_start type ruleCapacity)
  · intro registered event changed carries _ stepped
    exact carries.step stepped
  · intro registered event carries quiet
    exact carries.quiet_step quiet

/-- A map for the given output with one rule on the stream 7. -/
def joinMap (outStreamId : UInt32) : SequenceMergeMap := ⟨outStreamId, 1, nullU64, [⟨7, .offset, 0, 0⟩]⟩

def joinAnnounce (outStreamId : UInt32) : Event :=
  .announce (announceBytes sequenceRootField sequenceEntryField
    ⟨sequenceBlockLength, sequenceTemplateId, schemaId, schemaVersion⟩ ⟨outStreamId, 1, nullU64⟩
    [⟨7, 0, 0, windowSizeNullValue⟩])

/-- The stream 7 reaches the sequence number 3, an announce comes, and the output 3 is asked for. -/
def joined (outStreamId : UInt32) : List Event :=
  [.call (.applySequenceMap (some (joinMap 5))), .call (.updateObservedSeq 7 3 1), joinAnnounce outStreamId,
    .call (.isReadySequence 3 2)]

theorem idle_announces_early : ∃ after, GuardedRun.run (Registered.stepWithout .sequence)
    { barrier := { type := .sequence, ruleCapacity := 4 } }
      [.call (.applySequenceMap (some (joinMap 5))), joinAnnounce 5, .call (.updateObservedSeq 7 3 1),
        .call (.isReadySequence 3 2)] = some after ∧ after.outcomes.head? = some (.ready (.ok true)) := by
  refine ⟨_, @idle_announces .sequence .sequence 4 _ _ (Option.some_get (by decide +kernel)).symm, ?_⟩
  decide +kernel

/-- The last outcome and the output of the map at the end of a run. -/
def ending (registered : Registered) : Option Outcome × UInt32 :=
  (registered.outcomes.head?, registered.barrier.outStreamId)

/-- A repeated announce forgets the cursor, and a foreign one replaces the map. -/
theorem announce_forgets :
    (GuardedRun.run (Registered.step .sequence) { barrier := { type := .sequence, ruleCapacity := 4 } }
        (joined 5)).map ending = some (some (.ready (.ok false)), 5) ∧
      (GuardedRun.run (Registered.step .sequence) { barrier := { type := .sequence, ruleCapacity := 4 } }
        (joined 6)).map ending = some (some (.ready (.ok false)), 6) ∧
      ∀ outStreamId ∈ [5, 6], (GuardedRun.run (Registered.stepWithout .sequence)
        { barrier := { type := .sequence, ruleCapacity := 4 } } (joined outStreamId)).map ending =
          some (some (.ready (.ok true)), 5) := by
  refine ⟨by decide +kernel, by decide +kernel, ?_⟩
  rw [List.forall_mem_cons, List.forall_mem_singleton]
  exact ⟨by decide +kernel, by decide +kernel⟩

end TensorPool.Join
