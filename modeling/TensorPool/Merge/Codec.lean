/-
This file encodes and decodes the merge-map announces.
-/

import TensorPool.Merge.Types

namespace TensorPool.Merge

structure MessageHeader where
  blockLength : UInt16
  templateId : UInt16
  schemaId : UInt16
  version : UInt16
  deriving DecidableEq, Repr

def schemaId : UInt16 := 903
def schemaVersion : UInt16 := 1
def messageHeaderLength : Nat := 8

/-- The group counter is 16 bits wide and its greatest value means null. -/
def groupMax : Nat := 65534

def staleTimeoutNullValue : UInt64 := 0xFFFFFFFFFFFFFFFF
def latenessNullValue : UInt64 := 0xFFFFFFFFFFFFFFFF
def offsetNullValue : Int32 := Int32.minValue
def windowSizeNullValue : UInt32 := 0xFFFFFFFF
def offsetNsNullValue : Int64 := Int64.minValue
def windowNsNullValue : UInt64 := 0xFFFFFFFFFFFFFFFF

structure SequenceRoot where
  outStreamId : UInt32
  epoch : UInt64
  staleTimeoutNs : UInt64
  deriving DecidableEq, Repr

structure SequenceEntry where
  inputStreamId : UInt32
  ruleType : UInt8
  offset : Int32
  windowSize : UInt32
  deriving DecidableEq, Repr

structure TimestampRoot where
  outStreamId : UInt32
  epoch : UInt64
  staleTimeoutNs : UInt64
  clockDomain : UInt8
  latenessNs : UInt64
  deriving DecidableEq, Repr

structure TimestampEntry where
  inputStreamId : UInt32
  ruleType : UInt8
  timestampSource : UInt8
  offsetNs : Int64
  windowNs : UInt64
  deriving DecidableEq, Repr

/-- The generated codec of an announce: what its setters write is what its getters read. -/
structure GeneratedCodec (Root Entry : Type) where
  bytes : MessageHeader → Root → List Entry → List UInt8
  header : List UInt8 → MessageHeader
  root : List UInt8 → Root
  count : List UInt8 → Option UInt16
  entry : List UInt8 → Nat → Option Entry
  /-- An enumeration getter fails on a value that it does not know. -/
  knownRuleType : UInt8 → Bool
  knownTimestampSource : UInt8 → Bool
  knownClockDomain : UInt8 → Bool
  length_bytes : ∀ head root entries, messageHeaderLength ≤ (bytes head root entries).length
  header_bytes : ∀ head root entries, entries.length ≤ groupMax → header (bytes head root entries) = head
  root_bytes : ∀ head given entries, entries.length ≤ groupMax → root (bytes head given entries) = given
  count_bytes : ∀ head root entries, entries.length ≤ groupMax →
    count (bytes head root entries) = some (UInt16.ofNat entries.length)
  entry_bytes : ∀ head root entries index, entries.length ≤ groupMax → index < entries.length →
    entry (bytes head root entries) index = entries[index]?
  schemaRuleTypes : knownRuleType 0 ∧ knownRuleType 1
  schemaTimestampSources : knownTimestampSource 1 ∧ knownTimestampSource 2

/-- The encoder fails with a text, writes through a group that was never set up, or returns bytes. -/
inductive Encoded where
  | rejected (text : String)
  | undefined
  | written (bytes : List UInt8)
  deriving DecidableEq, Repr

/-- The generated code refuses to set up a group above its maximum, and the encoder does not look. -/
def encodeAnnounce {Root Entry Rule : Type} (codec : GeneratedCodec Root Entry) (name : String)
    (header : MessageHeader) (root : Root) (valid : Rule → Bool) (entry : Rule → Entry) (rules : List Rule) :
    Encoded :=
  if 65535 < rules.length then
    .rejected (name ++ ": rule count too large")
  else if groupMax < rules.length then
    if rules.head?.all valid then .undefined else .rejected (name ++ ": invalid rule")
  else if rules.all valid then
    .written (codec.bytes header root (rules.map entry))
  else
    .rejected (name ++ ": invalid rule")

def decodeRule {Root Entry Rule : Type} (codec : GeneratedCodec Root Entry) (name : String)
    (load : Entry → Except String Rule) (bytes : List UInt8) (index : Nat) : Except String Rule :=
  match codec.entry bytes index with
  | none => .error (name ++ ": rules truncated")
  | some entry => load entry

def decodeRules {Root Entry Rule : Type} (codec : GeneratedCodec Root Entry) (name : String)
    (load : Entry → Except String Rule) (bytes : List UInt8) : Nat → Nat → Except String (List Rule)
  | 0, _ => .ok []
  | remaining + 1, index =>
    match decodeRule codec name load bytes index with
    | .error text => .error text
    | .ok rule => (decodeRules codec name load bytes remaining (index + 1)).map (rule :: ·)

/-- A message of another schema or template is skipped. -/
def decodeAnnounce {Root Entry Head Rule : Type} (codec : GeneratedCodec Root Entry) (name : String)
    (templateId blockLength : UInt16) (loadRoot : Root → Except String Head) (load : Entry → Except String Rule)
    (bytes : List UInt8) (maxRules : Nat) : Except String (Option (Head × List Rule)) :=
  if bytes.length < messageHeaderLength then
    .error (name ++ ": buffer too short")
  else if (codec.header bytes).schemaId ≠ schemaId ∨ (codec.header bytes).templateId ≠ templateId then
    .ok none
  else if schemaVersion < (codec.header bytes).version then
    .error (name ++ ": unsupported schema version")
  else if (codec.header bytes).blockLength ≠ blockLength then
    .error (name ++ ": block length mismatch")
  else
    match loadRoot (codec.root bytes) with
    | .error text => .error text
    | .ok head =>
      match codec.count bytes with
      | none => .error (name ++ ": rules truncated")
      | some count =>
        if maxRules < count.toNat then
          .error (name ++ ": rule capacity exceeded")
        else
          (decodeRules codec name load bytes count.toNat 0).map fun rules => some (head, rules)

def MergeRuleType.code : MergeRuleType → UInt8
  | .offset => 0
  | .window => 1
  | .unknown => 255

def sequenceRuleValid (rule : SequenceMergeRule) : Bool :=
  match rule.ruleType with
  | .offset => true
  | .window => rule.windowSize != 0
  | .unknown => false

def timestampRuleValid (rule : TimestampMergeRule) : Bool :=
  if rule.timestampSource ≠ TimestampSource.frameDescriptor ∧ rule.timestampSource ≠ TimestampSource.slotHeader then
    false
  else match rule.ruleType with
    | .offset => true
    | .window => rule.windowNs != 0
    | .unknown => false

def sequenceTemplateId : UInt16 := 1
def sequenceBlockLength : UInt16 := 20
def timestampTemplateId : UInt16 := 3
def timestampBlockLength : UInt16 := 29

/-- The field that the rule type does not use is null. -/
def sequenceEntry (rule : SequenceMergeRule) : SequenceEntry where
  inputStreamId := rule.inputStreamId
  ruleType := rule.ruleType.code
  offset := if rule.ruleType = .offset then rule.offset else offsetNullValue
  windowSize := if rule.ruleType = .offset then windowSizeNullValue else rule.windowSize

def timestampEntry (rule : TimestampMergeRule) : TimestampEntry where
  inputStreamId := rule.inputStreamId
  ruleType := rule.ruleType.code
  timestampSource := rule.timestampSource.toUInt8
  offsetNs := if rule.ruleType = .offset then rule.offsetNs else offsetNsNullValue
  windowNs := if rule.ruleType = .offset then windowNsNullValue else rule.windowNs

def sequenceMergeMapEncode (codec : GeneratedCodec SequenceRoot SequenceEntry) (map : SequenceMergeMap) :
    Encoded :=
  encodeAnnounce codec "tp_sequence_merge_map_encode"
    { blockLength := sequenceBlockLength
      templateId := sequenceTemplateId
      schemaId := schemaId
      version := schemaVersion }
    { outStreamId := map.outStreamId
      epoch := map.epoch
      staleTimeoutNs := if map.staleTimeoutNs = nullU64 then staleTimeoutNullValue else map.staleTimeoutNs }
    sequenceRuleValid sequenceEntry map.rules

/-- The encoder writes the clock domain without a check. -/
def timestampMergeMapEncode (codec : GeneratedCodec TimestampRoot TimestampEntry) (map : TimestampMergeMap) :
    Encoded :=
  encodeAnnounce codec "tp_timestamp_merge_map_encode"
    { blockLength := timestampBlockLength
      templateId := timestampTemplateId
      schemaId := schemaId
      version := schemaVersion }
    { outStreamId := map.outStreamId
      epoch := map.epoch
      staleTimeoutNs := if map.staleTimeoutNs = nullU64 then staleTimeoutNullValue else map.staleTimeoutNs
      clockDomain := map.clockDomain
      latenessNs := if map.latenessNs = nullU64 then latenessNullValue else map.latenessNs }
    timestampRuleValid timestampEntry map.rules

def loadSequenceRule (codec : GeneratedCodec SequenceRoot SequenceEntry) (entry : SequenceEntry) :
    Except String SequenceMergeRule :=
  if !codec.knownRuleType entry.ruleType then
    .error "tp_sequence_merge_map_decode: invalid rule type"
  else if entry.ruleType = MergeRuleType.offset.code then
    if entry.offset = offsetNullValue ∨ entry.windowSize ≠ windowSizeNullValue then
      .error "tp_sequence_merge_map_decode: invalid offset rule"
    else
      .ok { inputStreamId := entry.inputStreamId, ruleType := .offset, offset := entry.offset, windowSize := 0 }
  else if entry.ruleType = MergeRuleType.window.code then
    if entry.windowSize = windowSizeNullValue ∨ entry.offset ≠ offsetNullValue then
      .error "tp_sequence_merge_map_decode: invalid window rule"
    else if entry.windowSize = 0 then
      .error "tp_sequence_merge_map_decode: window size invalid"
    else
      .ok { inputStreamId := entry.inputStreamId, ruleType := .window, offset := 0, windowSize := entry.windowSize }
  else
    .error "tp_sequence_merge_map_decode: unknown rule type"

def loadTimestampRule (codec : GeneratedCodec TimestampRoot TimestampEntry) (entry : TimestampEntry) :
    Except String TimestampMergeRule :=
  if !codec.knownRuleType entry.ruleType then
    .error "tp_timestamp_merge_map_decode: invalid rule type"
  else if !codec.knownTimestampSource entry.timestampSource then
    .error "tp_timestamp_merge_map_decode: invalid timestamp source"
  else if entry.ruleType = MergeRuleType.offset.code then
    if entry.offsetNs = offsetNsNullValue ∨ entry.windowNs ≠ windowNsNullValue then
      .error "tp_timestamp_merge_map_decode: invalid offset rule"
    else
      .ok
        { inputStreamId := entry.inputStreamId
          ruleType := .offset
          timestampSource := entry.timestampSource.toUInt32
          offsetNs := entry.offsetNs
          windowNs := 0 }
  else if entry.ruleType = MergeRuleType.window.code then
    if entry.windowNs = windowNsNullValue ∨ entry.offsetNs ≠ offsetNsNullValue then
      .error "tp_timestamp_merge_map_decode: invalid window rule"
    else if entry.windowNs = 0 then
      .error "tp_timestamp_merge_map_decode: window size invalid"
    else
      .ok
        { inputStreamId := entry.inputStreamId
          ruleType := .window
          timestampSource := entry.timestampSource.toUInt32
          offsetNs := 0
          windowNs := entry.windowNs }
  else
    .error "tp_timestamp_merge_map_decode: unknown rule type"

def loadSequenceRoot (root : SequenceRoot) : Except String SequenceRoot :=
  .ok { root with
    staleTimeoutNs := if root.staleTimeoutNs = staleTimeoutNullValue then nullU64 else root.staleTimeoutNs }

def loadTimestampRoot (codec : GeneratedCodec TimestampRoot TimestampEntry) (root : TimestampRoot) :
    Except String TimestampRoot :=
  if !codec.knownClockDomain root.clockDomain then
    .error "tp_timestamp_merge_map_decode: invalid clock domain"
  else
    .ok { root with
      staleTimeoutNs := if root.staleTimeoutNs = staleTimeoutNullValue then nullU64 else root.staleTimeoutNs
      latenessNs := if root.latenessNs = latenessNullValue then nullU64 else root.latenessNs }

def assembleSequenceMap (message : SequenceRoot × List SequenceMergeRule) : SequenceMergeMap where
  outStreamId := message.1.outStreamId
  epoch := message.1.epoch
  staleTimeoutNs := message.1.staleTimeoutNs
  rules := message.2

def assembleTimestampMap (message : TimestampRoot × List TimestampMergeRule) : TimestampMergeMap where
  outStreamId := message.1.outStreamId
  epoch := message.1.epoch
  staleTimeoutNs := message.1.staleTimeoutNs
  clockDomain := message.1.clockDomain
  latenessNs := message.1.latenessNs
  rules := message.2

def sequenceMergeMapDecode (codec : GeneratedCodec SequenceRoot SequenceEntry) (bytes : List UInt8)
    (maxRules : Nat) : Except String (Option SequenceMergeMap) :=
  (decodeAnnounce codec "tp_sequence_merge_map_decode" sequenceTemplateId sequenceBlockLength
    loadSequenceRoot (loadSequenceRule codec) bytes maxRules).map (Option.map assembleSequenceMap)

def timestampMergeMapDecode (codec : GeneratedCodec TimestampRoot TimestampEntry) (bytes : List UInt8)
    (maxRules : Nat) : Except String (Option TimestampMergeMap) :=
  (decodeAnnounce codec "tp_timestamp_merge_map_decode" timestampTemplateId timestampBlockLength
    (loadTimestampRoot codec) (loadTimestampRule codec) bytes maxRules).map (Option.map assembleTimestampMap)

end TensorPool.Merge
