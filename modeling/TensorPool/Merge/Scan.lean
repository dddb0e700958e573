/-
This file decodes the merge-map announces byte by byte and says which announces are valid.
-/

import TensorPool.Library.Flyweight
import TensorPool.Merge.Wire

namespace TensorPool.Merge

open Scan Flyweight FixedField

/-- A message of another schema or template is skipped without a text. -/
abbrev Refusal := Option String

def scanOf {α : Type} : Except String α → Scan Refusal α
  | .error text => stop (some text)
  | .ok result => value result

/-- The step from a rule to the next one is the length in the dimensions of the group. -/
def scanRules {Rule : Type} (name : String) (entryLength : Nat) (scanRule : List UInt8 → Scan Refusal Rule) :
    Nat → List UInt8 → Scan Refusal (List Rule)
  | 0, _ => value []
  | count + 1, rest =>
      match nextEntry entryLength rest with
      | none => stop (some (name ++ ": rules truncated"))
      | some behind => do
          let rule ← scanRule rest
          let rules ← scanRules name entryLength scanRule count behind
          value (rule :: rules)

/-- The root fields are read before any of them is checked, and nothing looks whether they are there. -/
def scanAnnounce {Root Head Rule : Type} (name : String) (templateId blockLength : UInt16) (root : FixedField Root)
    (loadRoot : Root → Except String Head) (scanRule : List UInt8 → Scan Refusal Rule) (bytes : List UInt8)
    (maxRules : Nat) : Scan Refusal (Head × List Rule) := do
  stopIf (bytes.length < messageHeader.width) (some (name ++ ": buffer too short"))
  let header ← read messageHeader 0 bytes
  stopIf (header.schemaId ≠ schemaId ∨ header.templateId ≠ templateId) none
  stopIf (schemaVersion < header.version) (some (name ++ ": unsupported schema version"))
  stopIf (header.blockLength ≠ blockLength) (some (name ++ ": block length mismatch"))
  let given ← read root messageHeader.width bytes
  let head ← scanOf (loadRoot given)
  let rest := bytes.drop (messageHeader.width + root.width)
  stopIf (rest.length < 4) (some (name ++ ": rules truncated"))
  let (entryLength, count, rest) ← group rest
  stopIf (maxRules < count) (some (name ++ ": rule capacity exceeded"))
  let rules ← scanRules name entryLength scanRule count rest
  value (head, rules)

/-- The rule type is checked before the other fields are read. -/
def scanSequenceRule (rest : List UInt8) : Scan Refusal SequenceMergeRule := do
  let ruleType ← read uint8 4 rest
  stopIf (sequenceWire.knownRuleType ruleType = false) (some "tp_sequence_merge_map_decode: invalid rule type")
  let entry ← read sequenceEntryField 0 rest
  scanOf (loadSequenceRule sequenceWire entry)

def scanTimestampRule (rest : List UInt8) : Scan Refusal TimestampMergeRule := do
  let ruleType ← read uint8 4 rest
  stopIf (timestampWire.knownRuleType ruleType = false) (some "tp_timestamp_merge_map_decode: invalid rule type")
  let source ← read uint8 5 rest
  stopIf (timestampWire.knownTimestampSource source = false)
    (some "tp_timestamp_merge_map_decode: invalid timestamp source")
  let entry ← read timestampEntryField 0 rest
  scanOf (loadTimestampRule timestampWire entry)

/-- This is `tp_sequence_merge_map_decode` on the bytes of a fragment. -/
def scanSequenceMap (bytes : List UInt8) (maxRules : Nat) : Scan Refusal SequenceMergeMap := do
  let message ← scanAnnounce "tp_sequence_merge_map_decode" sequenceTemplateId sequenceBlockLength sequenceRootField
    loadSequenceRoot scanSequenceRule bytes maxRules
  value (assembleSequenceMap message)

/-- This is `tp_timestamp_merge_map_decode` on the bytes of a fragment. -/
def scanTimestampMap (bytes : List UInt8) (maxRules : Nat) : Scan Refusal TimestampMergeMap := do
  let message ← scanAnnounce "tp_timestamp_merge_map_decode" timestampTemplateId timestampBlockLength
    timestampRootField (loadTimestampRoot timestampWire) scanTimestampRule bytes maxRules
  value (assembleTimestampMap message)

/-- The rule has its own parameter and not the other one. -/
def SequenceEntry.Declared (entry : SequenceEntry) : Prop :=
  (entry.ruleType = 0 ∧ entry.offset ≠ offsetNullValue ∧ entry.windowSize = windowSizeNullValue) ∨
    (entry.ruleType = 1 ∧ entry.offset = offsetNullValue ∧ entry.windowSize ≠ windowSizeNullValue ∧
      entry.windowSize ≠ 0)

/-- The parameters of a timestamp rule are like those of a sequence rule. -/
def TimestampEntry.Paired (entry : TimestampEntry) : Prop :=
  (entry.ruleType = 0 ∧ entry.offsetNs ≠ offsetNsNullValue ∧ entry.windowNs = windowNsNullValue) ∨
    (entry.ruleType = 1 ∧ entry.offsetNs = offsetNsNullValue ∧ entry.windowNs ≠ windowNsNullValue ∧
      entry.windowNs ≠ 0)

/-- The timestamp source is one of the schema and not its null value. -/
def TimestampEntry.Sourced (entry : TimestampEntry) : Prop := entry.timestampSource = 1 ∨ entry.timestampSource = 2

def TimestampEntry.Declared (entry : TimestampEntry) : Prop := entry.Paired ∧ entry.Sourced

def TimestampRoot.Declared (root : TimestampRoot) : Prop := root.clockDomain = 1 ∨ root.clockDomain = 2

/-- The header names the announce, in a version and with a block that the codec has. -/
structure Named (templateId blockLength : UInt16) (bytes : List UInt8) : Prop where
  whole : messageHeader.width ≤ bytes.length
  schema : (messageHeader.decode bytes).schemaId = schemaId
  template : (messageHeader.decode bytes).templateId = templateId
  version : (messageHeader.decode bytes).version ≤ schemaVersion
  block : (messageHeader.decode bytes).blockLength = blockLength

section Layout

variable {Root Entry : Type} (root : FixedField Root) (entry : FixedField Entry)

/-- The dimensions of the rules group and the rules behind them. -/
def entryLengthAt (bytes : List UInt8) : Nat :=
  (uint16.decode (bytes.drop (messageHeader.width + root.width))).toNat

def countAt (bytes : List UInt8) : Nat :=
  (uint16.decode (bytes.drop (messageHeader.width + root.width + 2))).toNat

def rulesAt (bytes : List UInt8) : List UInt8 := bytes.drop (messageHeader.width + root.width + 4)

/-- The valid announces of the claim. -/
structure Valid (templateId blockLength : UInt16) (rootDeclared : Root → Prop) (declared : Entry → Prop)
    (bytes : List UInt8) (maxRules : Nat) : Prop where
  named : Named templateId blockLength bytes
  dimensions : messageHeader.width + root.width + 4 ≤ bytes.length
  inside : countAt root bytes * entry.width ≤ (rulesAt root bytes).length
  entryLength : entryLengthAt root bytes = entry.width
  count : countAt root bytes ≤ maxRules
  head : rootDeclared (root.decode (bytes.drop messageHeader.width))
  each : ∀ index < countAt root bytes, declared (entry.entry (rulesAt root bytes) index)

end Layout

def ValidSequence (bytes : List UInt8) (maxRules : Nat) : Prop :=
  Valid sequenceRootField sequenceEntryField sequenceTemplateId sequenceBlockLength (fun _ => True)
    SequenceEntry.Declared bytes maxRules

def ValidTimestamp (bytes : List UInt8) (maxRules : Nat) : Prop :=
  Valid timestampRootField timestampEntryField timestampTemplateId timestampBlockLength TimestampRoot.Declared
    TimestampEntry.Declared bytes maxRules

/-- The decoder stays inside, accepts exactly the valid announces, and the encoder accepts each map again. -/
structure Exact {Map : Type} (decoded : Scan Refusal Map) (valid : Prop) (encode : Map → Encoded) : Prop where
  inside : decoded ≠ fault
  accepts : (∃ map, decoded = value map) ↔ valid
  again : ∀ map, decoded = value map → ∃ bytes, encode map = .written bytes

end TensorPool.Merge
