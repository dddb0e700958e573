/-
This file follows the stores of the merge-map encoders into a buffer of a given length.
-/

import TensorPool.Merge.Wire

namespace TensorPool.Merge

open FixedField

/-- A setter stores the bytes of its field at its offset, whatever the length of the buffer is. -/
structure FieldStore where
  offset : Nat
  bytes : List UInt8
  deriving DecidableEq, Repr

namespace FieldStore

/-- The first byte behind the field. -/
def last (store : FieldStore) : Nat := store.offset + store.bytes.length

def shift (base : Nat) (store : FieldStore) : FieldStore := { store with offset := base + store.offset }

end FieldStore

/-- The encoder fails with a text, goes on with a flyweight that was never set up, or reports a length. -/
inductive EncodeResult where
  | rejected (text : String)
  | undefined
  | written (outLen : Nat)
  deriving DecidableEq, Repr

structure Encoding where
  stores : List FieldStore
  result : EncodeResult
  deriving DecidableEq, Repr

/-- Some stores come before the others. -/
def Encoding.after (stores : List FieldStore) (encoding : Encoding) : Encoding :=
  { encoding with stores := stores ++ encoding.stores }

def place (base : Nat) (setters : List FieldStore) : List FieldStore := setters.map (FieldStore.shift base)

def headerSetters (header : MessageHeader) : List FieldStore :=
  [⟨0, uint16.encode header.blockLength⟩, ⟨2, uint16.encode header.templateId⟩, ⟨4, uint16.encode header.schemaId⟩,
    ⟨6, uint16.encode header.version⟩]

def groupHeaderLength : Nat := 4

def groupSetters (entryLength count : Nat) : List FieldStore :=
  [⟨0, uint16.encode (UInt16.ofNat entryLength)⟩, ⟨2, uint16.encode (UInt16.ofNat count)⟩]

section Announce

variable {Rule : Type} (name : String) (valid : Rule → Bool) (setters : Rule → List FieldStore)
    (entryLength length : Nat)

/-- A refused `next` has moved the entry but not the position, and the setters go on. -/
def encodeRules : Nat → List Rule → Encoding
  | position, [] => ⟨[], .written position⟩
  | position, rule :: rest =>
      if !valid rule then ⟨[], .rejected (name ++ ": invalid rule")⟩
      else (encodeRules (if position + entryLength > length then position else position + entryLength) rest).after
        (place position (setters rule))

/-- A group that is refused is never set up; it is used by the first valid rule. -/
def encodeGroup (position : Nat) (rules : List Rule) : Encoding :=
  if groupMax < rules.length || position + groupHeaderLength > length then
    match rules with
    | [] => ⟨[], .written position⟩
    | rule :: _ => if !valid rule then ⟨[], .rejected (name ++ ": invalid rule")⟩ else ⟨[], .undefined⟩
  else
    (encodeRules name valid setters entryLength length (position + groupHeaderLength) rules).after
      (place position (groupSetters entryLength rules.length))

/-- The results of the wraps are not looked at; a refused block has no position. -/
def encodeMap (header : MessageHeader) (root : List FieldStore) (rules : List Rule) : Encoding :=
  if 65535 < rules.length then ⟨[], .rejected (name ++ ": rule count too large")⟩
  else if length < messageHeaderLength then ⟨[], .undefined⟩
  else
    (if messageHeaderLength + header.blockLength.toNat > length then ⟨[], .undefined⟩
      else encodeGroup name valid setters entryLength length
        (messageHeaderLength + header.blockLength.toNat) rules).after
      (headerSetters header ++ place messageHeaderLength root)

end Announce

/-- The request encoders report the constant length. -/
def encodeRequest (length : Nat) (header : MessageHeader) (block : List FieldStore) : Encoding :=
  if length < messageHeaderLength then ⟨[], .undefined⟩
  else
    ⟨headerSetters header ++ place messageHeaderLength block,
      .written (header.blockLength.toNat + messageHeaderLength)⟩

def sequenceRootSetters (map : SequenceMergeMap) : List FieldStore :=
  [⟨0, uint32.encode map.outStreamId⟩, ⟨4, uint64.encode map.epoch⟩,
    ⟨12, uint64.encode (if map.staleTimeoutNs = nullU64 then staleTimeoutNullValue else map.staleTimeoutNs)⟩]

def sequenceRuleSetters (rule : SequenceMergeRule) : List FieldStore :=
  [⟨0, uint32.encode rule.inputStreamId⟩, ⟨4, uint8.encode rule.ruleType.code⟩] ++
    if rule.ruleType = .offset then [⟨5, int32.encode rule.offset⟩, ⟨9, uint32.encode windowSizeNullValue⟩]
    else [⟨9, uint32.encode rule.windowSize⟩, ⟨5, int32.encode offsetNullValue⟩]

def timestampRootSetters (map : TimestampMergeMap) : List FieldStore :=
  [⟨0, uint32.encode map.outStreamId⟩, ⟨4, uint64.encode map.epoch⟩, ⟨20, uint8.encode map.clockDomain⟩,
    ⟨12, uint64.encode (if map.staleTimeoutNs = nullU64 then staleTimeoutNullValue else map.staleTimeoutNs)⟩,
    ⟨21, uint64.encode (if map.latenessNs = nullU64 then latenessNullValue else map.latenessNs)⟩]

def timestampRuleSetters (rule : TimestampMergeRule) : List FieldStore :=
  [⟨0, uint32.encode rule.inputStreamId⟩, ⟨4, uint8.encode rule.ruleType.code⟩,
    ⟨5, uint8.encode rule.timestampSource.toUInt8⟩] ++
    if rule.ruleType = .offset then [⟨6, int64.encode rule.offsetNs⟩, ⟨14, uint64.encode windowNsNullValue⟩]
    else [⟨14, uint64.encode rule.windowNs⟩, ⟨6, int64.encode offsetNsNullValue⟩]

def requestSetters (outStreamId : UInt32) (epoch : UInt64) : List FieldStore :=
  [⟨0, uint32.encode outStreamId⟩, ⟨4, uint64.encode epoch⟩]

def sequenceEntryLength : Nat := 13
def timestampEntryLength : Nat := 22
def requestBlockLength : UInt16 := 12
def sequenceRequestTemplateId : UInt16 := 2
def timestampRequestTemplateId : UInt16 := 4

/-- This is `tp_sequence_merge_map_encode`. -/
def sequenceMapEncoding (length : Nat) (map : SequenceMergeMap) : Encoding :=
  encodeMap "tp_sequence_merge_map_encode" sequenceRuleValid sequenceRuleSetters sequenceEntryLength length
    ⟨sequenceBlockLength, sequenceTemplateId, schemaId, schemaVersion⟩ (sequenceRootSetters map) map.rules

/-- This is `tp_timestamp_merge_map_encode`. -/
def timestampMapEncoding (length : Nat) (map : TimestampMergeMap) : Encoding :=
  encodeMap "tp_timestamp_merge_map_encode" timestampRuleValid timestampRuleSetters timestampEntryLength length
    ⟨timestampBlockLength, timestampTemplateId, schemaId, schemaVersion⟩ (timestampRootSetters map) map.rules

/-- This is `tp_sequence_merge_map_request_encode`. -/
def sequenceRequestEncoding (length : Nat) (outStreamId : UInt32) (epoch : UInt64) : Encoding :=
  encodeRequest length ⟨requestBlockLength, sequenceRequestTemplateId, schemaId, schemaVersion⟩
    (requestSetters outStreamId epoch)

/-- This is `tp_timestamp_merge_map_request_encode`. -/
def timestampRequestEncoding (length : Nat) (outStreamId : UInt32) (epoch : UInt64) : Encoding :=
  encodeRequest length ⟨requestBlockLength, timestampRequestTemplateId, schemaId, schemaVersion⟩
    (requestSetters outStreamId epoch)

/-- An encoder that respects its buffer stores inside of it, refuses what does not fit, and reports what it wrote. -/
structure RespectsBuffer (length total : Nat) (encoding : Encoding) : Prop where
  inside : ∀ store ∈ encoding.stores, store.last ≤ length
  defined : encoding.result ≠ .undefined
  refused : length < total → ∃ text, encoding.result = .rejected text
  reported : ∀ outLen, encoding.result = .written outLen → outLen = total ∧ outLen ≤ length

/-- The bytes of an announce: its header, its block, the group header and the entries. -/
def announceLength (blockLength entryLength count : Nat) : Nat :=
  messageHeaderLength + blockLength + groupHeaderLength + count * entryLength

/-- The rules before the first invalid one. -/
def leadingRules {Rule : Type} (valid : Rule → Bool) (rules : List Rule) : Nat := (rules.takeWhile valid).length

/-- What is written before the encoder ends lies in the buffer, and the group is set up where it is used. -/
def RoomFor {Rule : Type} (valid : Rule → Bool) (blockLength entryLength length : Nat) (rules : List Rule) : Prop :=
  65535 < rules.length ∨
    messageHeaderLength + blockLength ≤ length ∧
      (rules.head?.any (fun rule => !valid rule) = true ∨
        rules.length ≤ groupMax ∧ announceLength blockLength entryLength (leadingRules valid rules) ≤ length)

end TensorPool.Merge
