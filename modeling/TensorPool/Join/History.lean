/-
This file records what happened to a join barrier since its map was applied.
-/

import TensorPool.Join.Barrier
import TensorPool.Library.Rising
import Mathlib.Data.List.DropRight
import Mathlib.Data.List.Forall2

namespace TensorPool.Join

open TensorPool.Merge

inductive Call where
  | applySequenceMap (map : Option SequenceMergeMap)
  | applyTimestampMap (map : Option TimestampMergeMap)
  | applyLatestValueSequenceMap (map : Option SequenceMergeMap)
  | applyLatestValueTimestampMap (map : Option TimestampMergeMap)
  | updateObservedSeq (streamId : UInt32) (seq nowNs : UInt64)
  | updateProcessedSeq (streamId : UInt32) (seq nowNs : UInt64)
  | updateObservedTime (streamId : UInt32) (timestampNs : UInt64) (source : TimestampSource)
      (clockDomain : UInt8) (nowNs : UInt64)
  | updateProcessedTime (streamId : UInt32) (timestampNs : UInt64) (source : TimestampSource)
      (clockDomain : UInt8) (nowNs : UInt64)
  | invalidateLatest (streamId : UInt32)
  | isReadySequence (outSeq nowNs : UInt64)
  | isReadyTimestamp (outTimeNs : UInt64) (clockDomain : UInt8) (nowNs : UInt64)
  | isReadyLatest (outSeq outTimeNs : UInt64) (clockDomain : UInt8) (nowNs : UInt64)
  | setAllowStale (allowStale : Bool)
  | setRequireProcessed (requireProcessed : Bool)
  | setLatestOrdering (ordering : LatestOrdering)
  deriving DecidableEq, Repr

/-- A failed call changes nothing and is not accepted. -/
def settle (barrier : JoinBarrier) : Reply JoinBarrier → Bool × JoinBarrier
  | .ok changed => (true, changed)
  | .error _ => (false, barrier)

/-- The queries and the setters are always accepted. -/
def perform (barrier : JoinBarrier) : Call → Bool × JoinBarrier
  | .applySequenceMap map => settle barrier (applySequenceMap barrier map)
  | .applyTimestampMap map => settle barrier (applyTimestampMap barrier map)
  | .applyLatestValueSequenceMap map => settle barrier (applyLatestValueSequenceMap barrier map)
  | .applyLatestValueTimestampMap map => settle barrier (applyLatestValueTimestampMap barrier map)
  | .updateObservedSeq streamId seq nowNs => settle barrier (updateObservedSeq barrier streamId seq nowNs)
  | .updateProcessedSeq streamId seq nowNs => settle barrier (updateProcessedSeq barrier streamId seq nowNs)
  | .updateObservedTime streamId timestampNs source clockDomain nowNs =>
    settle barrier (updateObservedTime barrier streamId timestampNs source clockDomain nowNs)
  | .updateProcessedTime streamId timestampNs source clockDomain nowNs =>
    settle barrier (updateProcessedTime barrier streamId timestampNs source clockDomain nowNs)
  | .invalidateLatest streamId => settle barrier (invalidateLatest barrier streamId)
  | .isReadySequence _ _ => (true, barrier)
  | .isReadyTimestamp outTimeNs clockDomain nowNs =>
    (true, (isReadyTimestamp barrier outTimeNs clockDomain nowNs).2)
  | .isReadyLatest outSeq outTimeNs clockDomain nowNs =>
    (true, (isReadyLatest barrier outSeq outTimeNs clockDomain nowNs).2)
  | .setAllowStale allowStale => (true, barrier.setAllowStale allowStale)
  | .setRequireProcessed requireProcessed => (true, barrier.setRequireProcessed requireProcessed)
  | .setLatestOrdering ordering => (true, barrier.setLatestOrdering ordering)

inductive AppliedMap where
  | sequence (map : SequenceMergeMap)
  | timestamp (map : TimestampMergeMap)
  deriving DecidableEq, Repr

def Call.appliedMap : Call → Option AppliedMap
  | .applySequenceMap map => map.map .sequence
  | .applyTimestampMap map => map.map .timestamp
  | .applyLatestValueSequenceMap map => map.map .sequence
  | .applyLatestValueTimestampMap map => map.map .timestamp
  | _ => none

/-- The log keeps the last applied map and the accepted calls since. -/
structure Log where
  applied : Option AppliedMap := none
  calls : List Call := []
  deriving DecidableEq, Repr

def Log.record (log : Log) (call : Call) (accepted : Bool) : Log :=
  if accepted then
    match call.appliedMap with
    | some map => { applied := some map, calls := [] }
    | none => { log with calls := log.calls ++ [call] }
  else
    log

def advance (past : JoinBarrier × Log) (call : Call) : JoinBarrier × Log :=
  ((perform past.1 call).2, past.2.record call (perform past.1 call).1)

/-- A history starts at a barrier that was just initialised. -/
def history (type : BarrierType) (ruleCapacity : Nat) (calls : List Call) : JoinBarrier × Log :=
  calls.foldl advance ({ type, ruleCapacity }, {})

def Call.observedSeq? (streamId : UInt32) : Call → Option UInt64
  | .updateObservedSeq stream seq _ => if stream = streamId then some seq else none
  | _ => none

def Call.processedSeq? (streamId : UInt32) : Call → Option UInt64
  | .updateProcessedSeq stream seq _ => if stream = streamId then some seq else none
  | _ => none

/-- A null time is accepted and is no observation. -/
def Call.observedTime? (streamId : UInt32) : Call → Option UInt64
  | .updateObservedTime stream timestampNs _ _ _ =>
    if stream = streamId ∧ timestampNs ≠ nullU64 then some timestampNs else none
  | _ => none

def Call.processedTime? (streamId : UInt32) : Call → Option UInt64
  | .updateProcessedTime stream timestampNs _ _ _ =>
    if stream = streamId ∧ timestampNs ≠ nullU64 then some timestampNs else none
  | _ => none

def Call.outTime? : Call → Option UInt64
  | .isReadyTimestamp outTimeNs _ _ => some outTimeNs
  | .isReadyLatest _ outTimeNs _ _ => some outTimeNs
  | _ => none

def Call.invalidates (streamId : UInt32) : Call → Bool
  | .invalidateLatest stream => stream = streamId
  | _ => false

def Log.observedSeqs (log : Log) (streamId : UInt32) : List UInt64 :=
  log.calls.filterMap (Call.observedSeq? streamId)

def Log.processedSeqs (log : Log) (streamId : UInt32) : List UInt64 :=
  log.calls.filterMap (Call.processedSeq? streamId)

def Log.observedTimes (log : Log) (streamId : UInt32) : List UInt64 :=
  log.calls.filterMap (Call.observedTime? streamId)

def Log.processedTimes (log : Log) (streamId : UInt32) : List UInt64 :=
  log.calls.filterMap (Call.processedTime? streamId)

def Log.outTimes (log : Log) : List UInt64 := log.calls.filterMap Call.outTime?

/-- These are the calls after the last invalidation of the stream. -/
def Log.sinceInvalidated (log : Log) (streamId : UInt32) : Log :=
  { log with calls := log.calls.rtakeWhile fun call => !call.invalidates streamId }

/-- A sequence map declares no timestamp source. -/
def AppliedMap.inputs : AppliedMap → List (UInt32 × TimestampSource)
  | .sequence map => map.rules.map fun rule => (rule.inputStreamId, 0)
  | .timestamp map => map.rules.map fun rule => (rule.inputStreamId, rule.timestampSource)

def AppliedMap.Distinct (applied : AppliedMap) : Prop := (applied.inputs.map Prod.fst).Nodup

instance (applied : AppliedMap) : Decidable applied.Distinct :=
  inferInstanceAs (Decidable (List.Nodup _))

end TensorPool.Join
