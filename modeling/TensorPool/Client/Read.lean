/-
This file holds the read of a frame, one load of its slot at a time.
-/

import TensorPool.Client.Publish

namespace TensorPool.Client

open FixedField Seqlock

abbrev SlotReading := Reading UInt64 UInt8

structure FrameView where
  tensor : TensorHeader
  payload : Option Pointer
  payloadLen : UInt32
  poolId : UInt16
  payloadSlot : UInt32
  timestampNs : UInt64
  metaVersion : UInt32
  deriving DecidableEq

/-- The codes are 0, 1 and -1, and a late frame is also counted. -/
inductive ReadResult where
  | frame (view : FrameView)
  | absent (late : Bool)
  | failed (text : String)
  | fault
  deriving DecidableEq

structure SlotView where
  seqCommit : UInt64
  valuesLenBytes : UInt32
  payloadSlot : UInt32
  poolId : UInt16
  payloadOffset : UInt32
  timestampNs : UInt64
  metaVersion : UInt32
  headerBytesLength : UInt32

def loadBytes : Nat → Nat → SlotReading (List UInt8)
  | _, 0 => .ret []
  | offset, width + 1 => .body offset fun byte => do
      let rest ← loadBytes (offset + 1) width
      return byte :: rest

def loadField {α : Type} (field : FixedField α) (offset : Nat) : SlotReading α := do
  let bytes ← loadBytes offset field.width
  return field.decode bytes

/-- The entries are loaded in the order of their indices. -/
def loadEntries {α : Type} (field : FixedField α) : Nat → Nat → SlotReading (List α)
  | _, 0 => .ret []
  | offset, count + 1 => do
      let entry ← loadField field offset
      let rest ← loadEntries field (offset + field.width) count
      return entry :: rest

def loadSeq : SlotReading UInt64 := .stamp .ret

/-- The getter of the header bytes reads their length once more and keeps inside the slot. -/
def slotDecode : SlotReading (Option SlotView) := do
  let seqCommit ← loadSeq
  let valuesLenBytes ← loadField uint32 8
  let payloadSlot ← loadField uint32 12
  let poolId ← loadField uint16 16
  let payloadOffset ← loadField uint32 18
  let timestampNs ← loadField uint64 22
  let metaVersion ← loadField uint32 30
  let headerBytesLength ← loadField uint32 60
  let extent ← loadField uint32 60
  if 64 + extent.toNat > headerSlotBytes.toNat then
    return none
  else
    return some
      { seqCommit, valuesLenBytes, payloadSlot, poolId, payloadOffset, timestampNs, metaVersion,
        headerBytesLength }

/-- The header bytes start at the given offset of the slot. -/
def tensorHeaderDecode (start : Nat) (length : UInt32) : SlotReading (Except String TensorHeader) :=
  if length < tensorHeaderBytes then
    return .error "tp_tensor_header_decode: headerBytes too short"
  else do
    let schemaId ← loadField uint16 (start + 4)
    let templateId ← loadField uint16 (start + 2)
    let version ← loadField uint16 (start + 6)
    let blockLength ← loadField uint16 start
    if schemaId != tensorSchemaId then
      return .error "tp_tensor_header_decode: schema id mismatch"
    else if templateId != tensorTemplateId then
      return .error "tp_tensor_header_decode: template id mismatch"
    else if version != tensorSchemaVersion then
      return .error "tp_tensor_header_decode: schema version mismatch"
    else if blockLength != tensorBlockLength then
      return .error "tp_tensor_header_decode: block length mismatch"
    else do
      let dtype ← loadField int16 (start + 8)
      if !knownDtype dtype then
        return .error "tp_tensor_header_decode: invalid dtype"
      else do
        let majorOrder ← loadField int16 (start + 10)
        if !knownMajorOrder majorOrder then
          return .error "tp_tensor_header_decode: invalid major order"
        else do
          let ndims ← loadField uint8 (start + 12)
          let progressUnit ← loadField uint8 (start + 14)
          if !knownProgressUnit progressUnit then
            return .error "tp_tensor_header_decode: invalid progress unit"
          else do
            let progressStrideBytes ← loadField uint32 (start + 15)
            let dims ← loadEntries int32 (start + 19) 8
            let strides ← loadEntries int32 (start + 51) 8
            return .ok
              { dtype, majorOrder, ndims, progressUnit, progressStrideBytes
                dims := fun index => dims.getD index 0
                strides := fun index => strides.getD index 0 }

/-- The second load decides whether the frame is the wanted one. -/
def confirm (seq seqFirst : UInt64) (view : FrameView) : SlotReading ReadResult :=
  .stamp fun seqSecond =>
    if seqSecond != seqFirst || !seqIsCommitted seqSecond then
      .ret (.absent true)
    else if seqValue seqSecond != seq then
      .ret (.absent true)
    else
      .ret (.frame view)

def readSlot (consumer : Consumer) (seq : UInt64) (headerIndex : UInt32) : SlotReading ReadResult :=
  .stamp fun seqFirst =>
    if !seqIsCommitted seqFirst then
      .ret (.absent true)
    else do
      match ← slotDecode with
      | none => return .failed "tp_slot_decode: headerBytes missing"
      | some slot =>
          if slot.payloadOffset != 0 then
            return .absent false
          else if slot.payloadSlot != headerIndex then
            return .absent false
          else
            match findPool consumer.pools consumer.poolCount slot.poolId with
            | .fault => return .fault
            | .missing => return .absent false
            | .found pool =>
                if slot.valuesLenBytes > pool.strideBytes then
                  return .absent false
                else if slot.headerBytesLength != tensorHeaderBytes then
                  return .absent false
                else do
                  match ← tensorHeaderDecode 64 slot.headerBytesLength with
                  | .error _ => return .absent false
                  | .ok decoded =>
                      match tensorHeaderValidate decoded with
                      | .error _ => return .absent false
                      | .ok tensor =>
                          confirm seq seqFirst
                            { tensor := tensor
                              payload := pool.region.addr.map fun target =>
                                ⟨target, payloadOffset slot.payloadSlot pool.strideBytes⟩
                              payloadLen := slot.valuesLenBytes
                              poolId := slot.poolId
                              payloadSlot := slot.payloadSlot
                              timestampNs := slot.timestampNs
                              metaVersion := slot.metaVersion }

/-- A read ends at once or loads from one slot of the header ring. -/
inductive ReadCall where
  | done (result : ReadResult)
  | loads (region : Nat) (offset : UInt32) (reading : SlotReading ReadResult)

def readFrame (consumer : Consumer) (seq : UInt64) : ReadCall :=
  if !consumer.useShm then
    .done (.absent false)
  else if !consumer.shmMapped then
    .done (.absent false)
  else if consumer.headerNslots == 0 then
    .done (.failed "tp_consumer_read_frame: header ring unavailable")
  else
    let headerIndex := ringIndex seq consumer.headerNslots
    if headerIndex ≥ consumer.headerNslots then
      .done (.failed "tp_consumer_read_frame: header index out of range")
    else
      match consumer.headerRegion.addr with
      | none => .done .fault
      | some region =>
          if consumer.headerRegion.length < slotEnd headerIndex then
            .done .fault
          else
            .loads region (slotAt headerIndex) (readSlot consumer seq headerIndex)

end TensorPool.Client
