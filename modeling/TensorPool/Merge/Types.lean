/-
This file holds the merge rules and the merge maps.
-/

import Mathlib.Algebra.Group.Nat.Defs
import Mathlib.Data.List.Basic

namespace TensorPool.Merge

/-- The schemas use this value for an absent 64-bit field. -/
def nullU64 : UInt64 := 0xFFFFFFFFFFFFFFFF

/-- Any other enumeration value is refused wherever the code meets one. -/
inductive MergeRuleType where
  | offset
  | window
  | unknown
  deriving DecidableEq, Repr

/-- The code stores the enumeration value and compares it with zero and with other values. -/
abbrev TimestampSource := UInt32

def TimestampSource.frameDescriptor : TimestampSource := 1
def TimestampSource.slotHeader : TimestampSource := 2

def clockDomainMonotonic : UInt8 := 1
def clockDomainRealtimeSynced : UInt8 := 2

structure SequenceMergeRule where
  inputStreamId : UInt32
  ruleType : MergeRuleType
  offset : Int32
  windowSize : UInt32
  deriving DecidableEq, Repr

structure TimestampMergeRule where
  inputStreamId : UInt32
  ruleType : MergeRuleType
  timestampSource : TimestampSource
  offsetNs : Int64
  windowNs : UInt64
  deriving DecidableEq, Repr

structure SequenceMergeMap where
  outStreamId : UInt32
  epoch : UInt64
  staleTimeoutNs : UInt64
  rules : List SequenceMergeRule
  deriving DecidableEq, Repr

structure TimestampMergeMap where
  outStreamId : UInt32
  epoch : UInt64
  staleTimeoutNs : UInt64
  clockDomain : UInt8
  latenessNs : UInt64
  rules : List TimestampMergeRule
  deriving DecidableEq, Repr

/-- No two rules of the map name the same input. -/
def SequenceMergeMap.Distinct (map : SequenceMergeMap) : Prop :=
  (map.rules.map SequenceMergeRule.inputStreamId).Nodup

def TimestampMergeMap.Distinct (map : TimestampMergeMap) : Prop :=
  (map.rules.map TimestampMergeRule.inputStreamId).Nodup

instance (map : SequenceMergeMap) : Decidable map.Distinct :=
  inferInstanceAs (Decidable (List.Nodup _))

instance (map : TimestampMergeMap) : Decidable map.Distinct :=
  inferInstanceAs (Decidable (List.Nodup _))

end TensorPool.Merge
