/-
This file holds the superblock at the start of a region and its validation.
-/

import TensorPool.Library.FixedField
import TensorPool.Shm.Uri

namespace TensorPool.Shm

open FixedField

def superblockSizeBytes : Nat := 64
def headerSlotBytes : UInt32 := 256
def layoutVersion : UInt32 := 1
def magic : UInt64 := 0x544F504C53484D31
def nullU32 : UInt32 := 0xFFFFFFFF
def nullU64 : UInt64 := 0xFFFFFFFFFFFFFFFF

/-- The values of the region type on the wire. -/
def headerRing : Int16 := 1
def payloadPool : Int16 := 2
def nullRegionType : Int16 := -32768

/-- The fields of the first 64 bytes of a region. -/
structure Superblock where
  magic : UInt64
  layoutVersion : UInt32
  epoch : UInt64
  streamId : UInt32
  regionType : Int16
  poolId : UInt16
  nslots : UInt32
  slotBytes : UInt32
  strideBytes : UInt32
  pid : UInt64
  startTimestampNs : UInt64
  activityTimestampNs : UInt64
  deriving DecidableEq, Repr

/-- The fields follow each other without a gap. -/
def superblockRow := uint64.pair (uint32.pair (uint64.pair (uint32.pair (int16.pair (uint16.pair (uint32.pair
  (uint32.pair (uint32.pair (uint64.pair (uint64.pair uint64))))))))))

def superblockField : FixedField Superblock :=
  superblockRow.via
    (fun block => (block.magic, block.layoutVersion, block.epoch, block.streamId, block.regionType, block.poolId,
      block.nslots, block.slotBytes, block.strideBytes, block.pid, block.startTimestampNs, block.activityTimestampNs))
    (fun (magic, layoutVersion, epoch, streamId, regionType, poolId, nslots, slotBytes, strideBytes, pid,
        startTimestampNs, activityTimestampNs) =>
      { magic, layoutVersion, epoch, streamId, regionType, poolId, nslots, slotBytes, strideBytes, pid,
        startTimestampNs, activityTimestampNs })
    fun _ => rfl

example : superblockField.width = superblockSizeBytes := rfl

/-- This is `tp_shm_expected_t`; a field with its null or zero value is not compared. -/
structure Expected where
  streamId : UInt32
  layoutVersion : UInt32
  epoch : UInt64
  regionType : Int16
  poolId : UInt16
  nslots : UInt32
  slotBytes : UInt32
  strideBytes : UInt32
  deriving DecidableEq, Repr

/-- A check passes or stops with its text. -/
def require (holds : Bool) (text : String) : Except String Unit :=
  if holds then .ok () else .error text

/-- A generated getter accepts the values of the schema and the null value. -/
def knownRegionType (regionType : Int16) : Bool :=
  regionType == headerRing || regionType == payloadPool || regionType == nullRegionType

/-- The fields are compared in this order. -/
def Expected.compare (expected : Expected) (block : Superblock) : Except String Unit := do
  require (expected.layoutVersion == nullU32 || block.layoutVersion == expected.layoutVersion)
    "tp_shm_validate_superblock: layout version mismatch"
  require (expected.epoch == nullU64 || block.epoch == expected.epoch)
    "tp_shm_validate_superblock: epoch mismatch"
  require (expected.streamId == nullU32 || block.streamId == expected.streamId)
    "tp_shm_validate_superblock: stream id mismatch"
  require (expected.regionType == 0 || block.regionType == expected.regionType)
    "tp_shm_validate_superblock: region type mismatch"
  require (expected.poolId == 0 || block.poolId == expected.poolId)
    "tp_shm_validate_superblock: pool id mismatch"
  require (expected.nslots == nullU32 || block.nslots == expected.nslots)
    "tp_shm_validate_superblock: nslots mismatch"
  require (expected.slotBytes == nullU32 || block.slotBytes == expected.slotBytes)
    "tp_shm_validate_superblock: slot bytes mismatch"
  require (expected.strideBytes == nullU32 || block.strideBytes == expected.strideBytes)
    "tp_shm_validate_superblock: stride bytes mismatch"

/-- No expectation is a null pointer. -/
def compareExpected (expected : Option Expected) (block : Superblock) : Except String Unit :=
  match expected with
  | none => .ok ()
  | some expected => expected.compare block

/-- This is `tp_shm_validate_superblock` on the bytes of a mapped region. -/
def validateSuperblock (bytes : List UInt8) (expected : Option Expected) : Except String Unit := do
  let block := superblockField.decode bytes
  require (knownRegionType block.regionType) "tp_shm_validate_superblock: invalid region type"
  require (block.magic == magic) "tp_shm_validate_superblock: magic mismatch"
  compareExpected expected block
  require (block.regionType != payloadPool || block.strideBytes != 0)
    "tp_shm_validate_superblock: stride bytes must be > 0"
  require (block.regionType != headerRing || block.slotBytes == headerSlotBytes)
    "tp_shm_validate_superblock: invalid slot bytes"

/-- Checks in a row pass when each one passes. -/
theorem checks_ok {first : Except String Unit} {next : Unit → Except String Unit} :
    (first >>= next) = .ok () ↔ first = .ok () ∧ next () = .ok () := by
  rcases first with text | ⟨⟩
  · constructor
    · intro absurdity
      cases absurdity
    · intro both
      cases both.1
  · constructor
    · intro rest
      exact ⟨rfl, rest⟩
    · intro both
      exact both.2

theorem require_ok {holds : Bool} {text : String} : require holds text = .ok () ↔ holds = true := by
  cases holds <;> simp [require]

/-- A comparison that passes leaves out no field but those with their null or zero value. -/
theorem Expected.compare_ok {expected : Expected} {block : Superblock} :
    expected.compare block = .ok () ↔
      (expected.layoutVersion = nullU32 ∨ block.layoutVersion = expected.layoutVersion) ∧
        (expected.epoch = nullU64 ∨ block.epoch = expected.epoch) ∧
        (expected.streamId = nullU32 ∨ block.streamId = expected.streamId) ∧
        (expected.regionType = 0 ∨ block.regionType = expected.regionType) ∧
        (expected.poolId = 0 ∨ block.poolId = expected.poolId) ∧
        (expected.nslots = nullU32 ∨ block.nslots = expected.nslots) ∧
        (expected.slotBytes = nullU32 ∨ block.slotBytes = expected.slotBytes) ∧
        (expected.strideBytes = nullU32 ∨ block.strideBytes = expected.strideBytes) := by
  rw [Expected.compare]
  simp only [checks_ok, require_ok, Bool.or_eq_true, beq_iff_eq]

/-- A superblock is valid for an expectation with these checks and no others. -/
theorem validateSuperblock_ok {bytes : List UInt8} {expected : Expected} :
    validateSuperblock bytes (some expected) = .ok () ↔
      knownRegionType (superblockField.decode bytes).regionType = true ∧
        (superblockField.decode bytes).magic = magic ∧
        expected.compare (superblockField.decode bytes) = .ok () ∧
        ((superblockField.decode bytes).regionType = payloadPool → (superblockField.decode bytes).strideBytes ≠ 0) ∧
        ((superblockField.decode bytes).regionType = headerRing →
          (superblockField.decode bytes).slotBytes = headerSlotBytes) := by
  simp only [validateSuperblock, checks_ok, require_ok, compareExpected, beq_iff_eq, Bool.or_eq_true, bne_iff_ne,
    ne_eq, imp_iff_not_or]

end TensorPool.Shm
