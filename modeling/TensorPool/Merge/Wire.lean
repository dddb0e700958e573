/-
This file lays the announces out as the schema does.
-/

import TensorPool.Merge.Codec
import TensorPool.Library.FixedField

namespace TensorPool.Merge

open FixedField

def headerField : FixedField MessageHeader :=
  (uint16.pair (uint16.pair (uint16.pair uint16))).via
    (fun header => (header.blockLength, header.templateId, header.schemaId, header.version))
    (fun (blockLength, templateId, schemaId, version) => { blockLength, templateId, schemaId, version })
    fun _ => rfl

def groupField : FixedField (UInt16 × UInt16) := uint16.pair uint16

def sequenceRootField : FixedField SequenceRoot :=
  (uint32.pair (uint64.pair uint64)).via
    (fun root => (root.outStreamId, root.epoch, root.staleTimeoutNs))
    (fun (outStreamId, epoch, staleTimeoutNs) => { outStreamId, epoch, staleTimeoutNs })
    fun _ => rfl

def sequenceEntryField : FixedField SequenceEntry :=
  (uint32.pair (uint8.pair (int32.pair uint32))).via
    (fun entry => (entry.inputStreamId, entry.ruleType, entry.offset, entry.windowSize))
    (fun (inputStreamId, ruleType, offset, windowSize) => { inputStreamId, ruleType, offset, windowSize })
    fun _ => rfl

def timestampRootField : FixedField TimestampRoot :=
  (uint32.pair (uint64.pair (uint64.pair (uint8.pair uint64)))).via
    (fun root => (root.outStreamId, root.epoch, root.staleTimeoutNs, root.clockDomain, root.latenessNs))
    (fun (outStreamId, epoch, staleTimeoutNs, clockDomain, latenessNs) =>
      { outStreamId, epoch, staleTimeoutNs, clockDomain, latenessNs })
    fun _ => rfl

def timestampEntryField : FixedField TimestampEntry :=
  (uint32.pair (uint8.pair (uint8.pair (int64.pair uint64)))).via
    (fun entry => (entry.inputStreamId, entry.ruleType, entry.timestampSource, entry.offsetNs, entry.windowNs))
    (fun (inputStreamId, ruleType, timestampSource, offsetNs, windowNs) =>
      { inputStreamId, ruleType, timestampSource, offsetNs, windowNs })
    fun _ => rfl

section Wire

variable {Root Entry : Type} (root : FixedField Root) (entry : FixedField Entry)

/-- The header, the root, the group dimensions and the entries follow each other. -/
def announceBytes (head : MessageHeader) (given : Root) (entries : List Entry) : List UInt8 :=
  headerField.encode head ++ (root.encode given ++
    (groupField.encode (UInt16.ofNat entry.width, UInt16.ofNat entries.length) ++ entry.row entries))

def groupStart : Nat := headerField.width + root.width

theorem announce_root (head : MessageHeader) (given : Root) (entries : List Entry) :
    (announceBytes root entry head given entries).drop headerField.width =
      root.encode given ++
        (groupField.encode (UInt16.ofNat entry.width, UInt16.ofNat entries.length) ++ entry.row entries) := by
  rw [announceBytes, List.drop_left' (headerField.length_encode head)]

theorem announce_group (head : MessageHeader) (given : Root) (entries : List Entry) :
    (announceBytes root entry head given entries).drop (groupStart root) =
      groupField.encode (UInt16.ofNat entry.width, UInt16.ofNat entries.length) ++ entry.row entries := by
  rw [groupStart, ← List.drop_drop, announce_root, List.drop_left' (root.length_encode given)]

theorem announce_entries (head : MessageHeader) (given : Root) (entries : List Entry) :
    (announceBytes root entry head given entries).drop (groupStart root + groupField.width) =
      entry.row entries := by
  rw [← List.drop_drop, announce_group, List.drop_left' (groupField.length_encode _)]

theorem length_announceBytes (head : MessageHeader) (given : Root) (entries : List Entry) :
    (announceBytes root entry head given entries).length =
      groupStart root + groupField.width + entries.length * entry.width := by
  rw [announceBytes, List.length_append, List.length_append, List.length_append, headerField.length_encode,
    root.length_encode, groupField.length_encode, entry.length_row, groupStart]
  omega

/-- The getters check that the group and its entries are inside the buffer. -/
def wireCodec : GeneratedCodec Root Entry where
  bytes := announceBytes root entry
  header := headerField.decode
  root := fun bytes => root.decode (bytes.drop headerField.width)
  count := fun bytes =>
    if bytes.length < groupStart root + groupField.width then none
    else some (groupField.decode (bytes.drop (groupStart root))).2
  entry := fun bytes index =>
    if bytes.length < groupStart root + groupField.width + (index + 1) * entry.width then none
    else some (entry.entry (bytes.drop (groupStart root + groupField.width)) index)
  knownRuleType := fun value => value = 0 || value = 1 || value = 255
  knownTimestampSource := fun value => value = 1 || value = 2 || value = 255
  knownClockDomain := fun value => value = 1 || value = 2 || value = 255
  length_bytes := by
    intro head given entries
    rw [length_announceBytes, groupStart]
    have width : headerField.width = messageHeaderLength := rfl
    omega
  header_bytes := fun head _ _ _ => headerField.decode_encode head _
  root_bytes := by
    intro head given entries _
    rw [announce_root, root.decode_encode]
  count_bytes := by
    intro head given entries _
    rw [length_announceBytes, if_neg (by omega), announce_group, groupField.decode_encode]
  entry_bytes := by
    intro head given entries index _ inside
    have room : (index + 1) * entry.width ≤ entries.length * entry.width := Nat.mul_le_mul_right _ inside
    rw [length_announceBytes, if_neg (by omega), announce_entries, entry.entry_row entries index inside,
      List.getElem?_eq_getElem inside]
  schemaRuleTypes := by decide
  schemaTimestampSources := by decide

end Wire

def sequenceWire : GeneratedCodec SequenceRoot SequenceEntry := wireCodec sequenceRootField sequenceEntryField

def timestampWire : GeneratedCodec TimestampRoot TimestampEntry := wireCodec timestampRootField timestampEntryField

end TensorPool.Merge
