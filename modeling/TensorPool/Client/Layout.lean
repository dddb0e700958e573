/-
This file reads back what a publication lays out in its slot.
-/

import TensorPool.Client.Read

namespace TensorPool.Client

open FixedField Seqlock
open TensorPool.Merge (headerField)

variable {cell : SlotCell}

@[simp] theorem alone_loadBytes (cell : SlotCell) (offset width : Nat) :
    (loadBytes offset width).alone cell = window cell.body offset width := by
  induction width generalizing offset with
  | zero => rfl
  | succ width hypothesis =>
      have rest := hypothesis (offset + 1)
      change ((loadBytes (offset + 1) width) >>= fun rest => pure (cell.body offset :: rest)).alone cell = _
      rw [Reading.alone_bind, Reading.alone_pure, rest, window, window, List.range_succ_eq_map, List.map_cons,
        List.map_map, Nat.add_zero]
      congr 2
      funext index
      change cell.body (offset + 1 + index) = cell.body (offset + (index + 1))
      rw [Nat.add_assoc, Nat.add_comm 1 index]

@[simp] theorem alone_loadField {α : Type} (cell : SlotCell) (field : FixedField α) (offset : Nat) :
    (loadField field offset).alone cell = field.decode (window cell.body offset field.width) := by
  rw [loadField, Reading.alone_bind, Reading.alone_pure, alone_loadBytes]

/-- A field that the slot shows is loaded from it. -/
theorem load_shown {α : Type} {field : FixedField α} {offset : Nat} {value : α}
    (shows' : Shows cell.body offset (field.encode value)) : (loadField field offset).alone cell = value := by
  rw [alone_loadField, shows'.decode]

theorem load_entries {α : Type} {field : FixedField α} {offset : Nat} {values : List α}
    (shows' : Shows cell.body offset (field.row values)) :
    (loadEntries field offset values.length).alone cell = values := by
  induction values generalizing offset with
  | nil => rfl
  | cons value values hypothesis =>
      rw [FixedField.row, List.flatMap_cons] at shows'
      have right := shows'.right
      rw [field.length_encode] at right
      rw [List.length_cons, loadEntries, Reading.alone_bind, load_shown shows'.left, Reading.alone_bind,
        hypothesis right, Reading.alone_pure]

/-- The entries of an array are loaded with their indices. -/
theorem load_array {α : Type} [Zero α] {field : FixedField α} {offset count : Nat} {values : Fin count → α}
    (shows' : Shows cell.body offset ((field.array count).encode values)) (index : Fin count) :
    ((loadEntries field offset count).alone cell).getD index 0 = values index := by
  have entries : Shows cell.body offset (field.row (List.ofFn values)) := shows'
  have loaded := load_entries entries
  rw [List.length_ofFn] at loaded
  rw [loaded, List.getD_eq_getElem?_getD, List.getElem?_eq_getElem (by rw [List.length_ofFn]; exact index.isLt),
    Option.getD_some, List.getElem_ofFn]

/-- The fields of a slot, each at its offset. -/
structure SlotShows (cell : SlotCell) (publication : Publication) : Prop where
  valuesLen : Shows cell.body 8 (uint32.encode publication.payloadLen)
  payloadSlot : Shows cell.body 12 (uint32.encode publication.headerIndex)
  poolId : Shows cell.body 16 (uint16.encode publication.poolId)
  payloadOffset : Shows cell.body 18 (uint32.encode 0)
  timestamp : Shows cell.body 22 (uint64.encode publication.timestampNs)
  metaVersion : Shows cell.body 30 (uint32.encode publication.metaVersion)
  headerLength : Shows cell.body 60 (uint32.encode tensorHeaderBytes)
  header : Shows cell.body 64 (encodeTensorHeader publication.tensor)

theorem slot_shows {publication : Publication} (shows' : Shows cell.body slotStart publication.slotBytes) :
    SlotShows cell publication := by
  have all : Shows cell.body 8 (slotField.encode
      (publication.payloadLen, publication.headerIndex, publication.poolId, 0, publication.timestampNs,
        publication.metaVersion, (), tensorHeaderBytes, tensorHeaderValue publication.tensor)) := shows'
  unfold slotField at all
  have fromSlot := all.second
  have fromPool := fromSlot.second
  have fromOffset := fromPool.second
  have fromTimestamp := fromOffset.second
  have fromVersion := fromTimestamp.second
  have fromPad := fromVersion.second
  have fromLength := fromPad.second
  exact ⟨all.first, fromSlot.first, fromPool.first, fromOffset.first, fromTimestamp.first, fromVersion.first,
    fromLength.first, fromLength.second⟩

theorem alone_loadSeq (cell : SlotCell) : loadSeq.alone cell = cell.stamp := rfl

theorem decode_slot {publication : Publication} (shown : SlotShows cell publication) :
    slotDecode.alone cell = some
      { seqCommit := cell.stamp
        valuesLenBytes := publication.payloadLen
        payloadSlot := publication.headerIndex
        poolId := publication.poolId
        payloadOffset := 0
        timestampNs := publication.timestampNs
        metaVersion := publication.metaVersion
        headerBytesLength := tensorHeaderBytes } := by
  unfold slotDecode
  rw [Reading.alone_bind, alone_loadSeq, Reading.alone_bind, load_shown shown.valuesLen, Reading.alone_bind,
    load_shown shown.payloadSlot, Reading.alone_bind, load_shown shown.poolId, Reading.alone_bind,
    load_shown shown.payloadOffset, Reading.alone_bind, load_shown shown.timestamp, Reading.alone_bind,
    load_shown shown.metaVersion, Reading.alone_bind, load_shown shown.headerLength, Reading.alone_bind,
    load_shown shown.headerLength]
  rfl

theorem knownDtype_of_size {dtype : Int16} (known : dtypeSizeBytes dtype ≠ 0) : knownDtype dtype = true := by
  have range : (0 ≤ dtype.toInt ∧ dtype.toInt ≤ 11) ∨ dtype.toInt = 13 ∨ dtype.toInt = 14 := by
    unfold dtypeSizeBytes at known
    split at known <;> omega
  have thirteen : dtype = 13 ↔ dtype.toInt = 13 := Int16.toInt_inj.symm
  have fourteen : dtype = 14 ↔ dtype.toInt = 14 := Int16.toInt_inj.symm
  have low : 0 ≤ dtype ↔ 0 ≤ dtype.toInt := Int16.le_iff_toInt_le
  have high : dtype ≤ 11 ↔ dtype.toInt ≤ 11 := Int16.le_iff_toInt_le
  simp only [knownDtype, Bool.or_eq_true, Bool.and_eq_true, decide_eq_true_iff, beq_iff_eq, thirteen, fourteen,
    low, high]
  omega

/-- An accepted header has enumeration values that the getters know. -/
theorem tensorHeaderValidate_known {header filled : TensorHeader} (valid : tensorHeaderValidate header = .ok filled) :
    knownDtype filled.dtype = true ∧ knownMajorOrder filled.majorOrder = true ∧
      knownProgressUnit filled.progressUnit = true := by
  obtain ⟨within, known, fills, progress⟩ := tensorHeaderValidate_ok valid
  obtain ⟨-, dtype, again⟩ := tensorFillStrides_again (dtypeSizeBytes_ofNat known) within fills
  refine ⟨?_, ?_, ?_⟩
  · rw [dtype]
    exact knownDtype_of_size known
  · unfold tensorFillStrides at again
    dsimp only at again
    split at again
    next row =>
      rw [eq_of_beq row]
      rfl
    next notRow =>
      split at again
      next column =>
        rw [eq_of_beq column]
        rfl
      · cases again
  · unfold tensorValidateProgress at progress
    split at progress
    next none =>
      rw [eq_of_beq none]
      rfl
    · split at progress
      · cases progress
      · split at progress
        next rows =>
          rw [eq_of_beq rows]
          rfl
        · split at progress
          next columns =>
            rw [eq_of_beq columns]
            rfl
          · cases progress

theorem decode_tensor {tensor : TensorHeader} (shown : Shows cell.body 64 (encodeTensorHeader tensor))
    (dtype : knownDtype tensor.dtype = true) (majorOrder : knownMajorOrder tensor.majorOrder = true)
    (progressUnit : knownProgressUnit tensor.progressUnit = true) :
    (tensorHeaderDecode 64 tensorHeaderBytes).alone cell = .ok tensor := by
  have all : Shows cell.body 64 ((headerField.pair tensorField).encode (tensorHeaderValue tensor)) := shown
  have head : Shows cell.body 64 ((uint16.pair (uint16.pair (uint16.pair uint16))).encode
    (tensorBlockLength, tensorTemplateId, tensorSchemaId, tensorSchemaVersion)) := all.first
  have block := all.second
  unfold tensorField at block
  have blockLength := head.first
  have templateId := head.second.first
  have schemaId := head.second.second.first
  have version := head.second.second.second
  have fromOrder := block.second
  have fromDims := fromOrder.second
  have fromAlign := fromDims.second
  have fromUnit := fromAlign.second
  have fromStride := fromUnit.second
  have fromArrays := fromStride.second
  have fromStrides := fromArrays.second
  have loadSchema : (loadField uint16 (64 + 4)).alone cell = tensorSchemaId := load_shown schemaId
  have loadTemplate : (loadField uint16 (64 + 2)).alone cell = tensorTemplateId := load_shown templateId
  have loadVersion : (loadField uint16 (64 + 6)).alone cell = tensorSchemaVersion := load_shown version
  have loadBlock : (loadField uint16 64).alone cell = tensorBlockLength := load_shown blockLength
  have loadDtype : (loadField int16 (64 + 8)).alone cell = tensor.dtype := load_shown block.first
  have loadOrder : (loadField int16 (64 + 10)).alone cell = tensor.majorOrder := load_shown fromOrder.first
  have loadDims : (loadField uint8 (64 + 12)).alone cell = tensor.ndims := load_shown fromDims.first
  have loadUnit : (loadField uint8 (64 + 14)).alone cell = tensor.progressUnit := load_shown fromUnit.first
  have loadStride : (loadField uint32 (64 + 15)).alone cell = tensor.progressStrideBytes :=
    load_shown fromStride.first
  have dims : ∀ index : Fin 8, ((loadEntries int32 (64 + 19) 8).alone cell).getD index 0 = tensor.dims index :=
    load_array fromArrays.first
  have strides : ∀ index : Fin 8,
      ((loadEntries int32 (64 + 51) 8).alone cell).getD index 0 = tensor.strides index :=
    load_array fromStrides.first
  unfold tensorHeaderDecode
  rw [if_neg (by decide), Reading.alone_bind, loadSchema, Reading.alone_bind, loadTemplate, Reading.alone_bind,
    loadVersion, Reading.alone_bind, loadBlock, if_neg (by decide), if_neg (by decide), if_neg (by decide),
    if_neg (by decide), Reading.alone_bind, loadDtype, dtype, if_neg (by decide), Reading.alone_bind, loadOrder,
    majorOrder, if_neg (by decide), Reading.alone_bind, loadDims, Reading.alone_bind, loadUnit, progressUnit,
    if_neg (by decide), Reading.alone_bind, loadStride, Reading.alone_bind, Reading.alone_bind, Reading.alone_pure]
  simp only [dims, strides]

/-- What a reader of this publication sees, with the pool that its consumer has mapped. -/
def Publication.view (publication : Publication) (pool : Pool) : FrameView where
  tensor := publication.tensor
  payload := pool.region.addr.map fun target =>
    ⟨target, payloadOffset publication.headerIndex pool.strideBytes⟩
  payloadLen := publication.payloadLen
  poolId := publication.poolId
  payloadSlot := publication.headerIndex
  timestampNs := publication.timestampNs
  metaVersion := publication.metaVersion

/-- The slot holds a complete publication of a header that was accepted. -/
structure Holds (cell : SlotCell) (publication : Publication) : Prop where
  stamp : cell.stamp = seqCommitted publication.seq
  shows : Shows cell.body slotStart publication.slotBytes
  accepted : ∃ tensor, tensorHeaderValidate tensor = .ok publication.tensor

/-- A read that returns a frame from such a slot returns that publication. -/
theorem read_published {consumer : Consumer} {seq : UInt64} {headerIndex : UInt32} {publication : Publication}
    {view : FrameView} (holds : Holds cell publication) (small : publication.seq.toNat < 2 ^ 63)
    (read : (readSlot consumer seq headerIndex).alone cell = .frame view) :
    publication.seq = seq ∧ headerIndex = publication.headerIndex ∧
      ∃ pool, findPool consumer.pools consumer.poolCount publication.poolId = .found pool ∧
        view = publication.view pool := by
  obtain ⟨stamp, shown, tensor, accepted⟩ := holds
  have shows' := slot_shows shown
  obtain ⟨dtype, majorOrder, progressUnit⟩ := tensorHeaderValidate_known accepted
  have decoded := decode_tensor shows'.header dtype majorOrder progressUnit
  unfold readSlot at read
  rw [Reading.alone, stamp, seqCommitted_isCommitted, if_neg (by decide), Reading.alone_bind, decode_slot shows']
    at read
  dsimp only at read
  split at read
  · cases read
  · split at read
    · cases read
    next sameSlot =>
      split at read
      · cases read
      · cases read
      next pool found =>
        split at read
        · cases read
        · rw [if_neg (by decide), Reading.alone_bind, decoded] at read
          dsimp only at read
          split at read
          · cases read
          next filled again =>
            obtain rfl := tensorHeaderValidate_again accepted again
            rw [confirm, Reading.alone, stamp, seqCommitted_isCommitted, if_neg (by simp),
              seqValue_committed small] at read
            split at read
            · cases read
            next sameSeq =>
              rw [bne_iff_ne, ne_eq, not_not] at sameSlot sameSeq
              cases read
              exact ⟨sameSeq, sameSlot.symm, pool, found, rfl⟩

end TensorPool.Client
