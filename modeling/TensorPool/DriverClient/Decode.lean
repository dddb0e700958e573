/-
This file decodes the attach response of the driver as the client does.
-/

import TensorPool.Discovery.Response

namespace TensorPool.DriverClient

open Scan Flyweight FixedField
open Discovery (Refusal Text copyAscii fill padded)

def schemaId : UInt16 := 901
def schemaVersion : UInt16 := 1

def nullU16 : UInt16 := 0xFFFF
def nullU32 : UInt32 := 0xFFFFFFFF
def nullU64 : UInt64 := 0xFFFFFFFFFFFFFFFF

/-- The codes of a response; the null value of the schema is one of them. -/
def codeOk : Int32 := 0
def codeInvalidParams : Int32 := 2
def codeInternalError : Int32 := 4

def knownCodes : List Int32 := [0, 1, 2, 3, 4, -2147483648]

/-- This is `tp_driver_pool_info_t`. -/
structure PoolInfo where
  poolId : UInt16 := 0
  nslots : UInt32 := 0
  strideBytes : UInt32 := 0
  regionUri : Text := []
  deriving DecidableEq, Repr

/-- These are the fields of the block behind the code. -/
structure LeaseBlock where
  leaseId : UInt64 := 0
  leaseExpiryTimestampNs : UInt64 := 0
  streamId : UInt32 := 0
  epoch : UInt64 := 0
  layoutVersion : UInt32 := 0
  headerNslots : UInt32 := 0
  headerSlotBytes : UInt16 := 0
  nodeId : UInt32 := 0
  deriving DecidableEq, Repr

/-- This is `tp_driver_attach_info_t`; `none` is a null pointer. -/
structure AttachInfo extends LeaseBlock where
  code : Int32 := 0
  errorMessage : Text := []
  headerRegionUri : Text := []
  pools : Option (List PoolInfo) := none
  poolCount : Nat := 0
  deriving DecidableEq, Repr

namespace AttachResponse

def templateId : UInt16 := 2
def blockLength : UInt16 := 54

end AttachResponse

def leaseBlock : FixedField LeaseBlock :=
  (uint64.pair (uint64.pair (uint32.pair (uint64.pair (uint32.pair (uint32.pair (uint16.pair uint32))))))).via
    (fun block => (block.leaseId, block.leaseExpiryTimestampNs, block.streamId, block.epoch, block.layoutVersion,
      block.headerNslots, block.headerSlotBytes, block.nodeId))
    (fun fields => ⟨fields.1, fields.2.1, fields.2.2.1, fields.2.2.2.1, fields.2.2.2.2.1, fields.2.2.2.2.2.1,
      fields.2.2.2.2.2.2.1, fields.2.2.2.2.2.2.2⟩) fun _ => rfl

/-- These fields may not be null in a granted response. -/
def LeaseBlock.missing (block : LeaseBlock) : Bool :=
  block.leaseId == nullU64 || block.streamId == nullU32 || block.epoch == nullU64 ||
    block.layoutVersion == nullU32 || block.headerNslots == nullU32 || block.headerSlotBytes == nullU16

def uriLength : Nat := 4096
def messageLength : Nat := 1024
def headerSlotBytes : UInt16 := 256

/-- The fields of a pool are read from its block, and its URI stands behind the block. -/
def poolBlock : FixedField (UInt16 × UInt32 × UInt32) := uint16.pair (uint32.pair uint32)

def decodePool (headerNslots : UInt32) (blockLength : Nat) (rest : List UInt8) :
    Scan (PoolInfo × String) (Option (PoolInfo × List UInt8)) :=
  match nextEntry blockLength rest with
  | none => value none
  | some behind => do
      let (poolId, nslots, strideBytes) ← read poolBlock 0 rest
      let pool : PoolInfo := { poolId, nslots, strideBytes }
      stopIf (nslots = nullU32 ∨ strideBytes = nullU32) (pool, "attach response pool missing required fields")
      stopIf (nslots ≠ headerNslots) (pool, "attach response pool nslots mismatch")
      let (_, uri, behind) ← data behind
      stopIf (uri = none) (pool, "attach response invalid payload uri")
      let pool := { pool with regionUri := copyAscii uriLength uri }
      stopIf (chars pool.regionUri = []) (pool, "attach response missing payload uri")
      value (some (pool, behind))

/-- A response that is no use gets a code and a text of the client. -/
def AttachInfo.refuse (info : AttachInfo) (code : Int32) (text : String) : AttachInfo :=
  { info with code, errorMessage := text.toUTF8.toList }

/-- The URI of the header ring stands behind the group. -/
def decodeHeaderUri (info : AttachInfo) (rest : List UInt8) : Scan Refusal AttachInfo := do
  let (_, uri, _) ← data rest
  if uri = none then value (info.refuse codeInvalidParams "attach response invalid header uri")
  else
    let info := { info with headerRegionUri := copyAscii uriLength uri }
    if chars info.headerRegionUri = [] then
      value (info.refuse codeInvalidParams "attach response missing header region uri")
    else value info

/-- The pools of a granted response; the loop ends without an error where the message does. -/
def decodePools (allocates : Bool) (info : AttachInfo) (rest : List UInt8) : Scan Refusal AttachInfo := do
  let (blockLength, count, rest) ← group rest
  let info := { info with poolCount := count }
  if count = 0 then value (info.refuse codeInvalidParams "attach response missing payload pools")
  else if allocates = false then
    value (AttachInfo.refuse { info with poolCount := 0 } codeInternalError "attach response pool allocation failed")
  else
    match fill (decodePool info.headerNslots blockLength) count rest with
    | fault => fault
    | stop (pools, text) =>
        value (AttachInfo.refuse { info with pools := some (padded count {} pools) } codeInvalidParams text)
    | value (pools, rest) => decodeHeaderUri { info with pools := some (padded count {} pools) } rest

def decodeGranted (allocates : Bool) (info : AttachInfo) (bytes : List UInt8) : Scan Refusal AttachInfo := do
  let block ← read leaseBlock 20 bytes
  let info := { info with toLeaseBlock := block }
  if block.missing then value (info.refuse codeInternalError "attach response missing required fields")
  else if block.headerSlotBytes ≠ headerSlotBytes then
    value (info.refuse codeInvalidParams "attach response header_slot_bytes mismatch")
  else if block.headerNslots = 0 then value (info.refuse codeInvalidParams "attach response header_nslots invalid")
  else decodePools allocates info (bytes.drop 62)

/-- The entries of a refused response are stepped over by their block alone. -/
def skipEntries (blockLength : Nat) : Nat → List UInt8 → List UInt8
  | 0, rest => rest
  | count + 1, rest =>
      match nextEntry blockLength rest with
      | none => rest
      | some behind => skipEntries blockLength count behind

def decodeRefused (info : AttachInfo) (bytes : List UInt8) : Scan Refusal AttachInfo := do
  let (blockLength, count, rest) ← group (bytes.drop 62)
  let (_, _, rest) ← data (skipEntries blockLength count rest)
  let (_, text, _) ← data rest
  value { info with errorMessage := copyAscii messageLength text }

/-- This is `tp_driver_decode_attach_response`, which writes into the given information. -/
def decodeAttachResponse (allocates : Bool) (correlationId : Int64) (info : AttachInfo) (bytes : List UInt8) :
    Scan Refusal AttachInfo := do
  stopIf (bytes.length < messageHeader.width) ⟨-1, some "tp_driver_decode_attach_response: invalid input"⟩
  let header ← read messageHeader 0 bytes
  stopIf (header.schemaId ≠ schemaId ∨ header.templateId ≠ AttachResponse.templateId) ⟨1, none⟩
  stopIf (schemaVersion < header.version) ⟨-1, some "tp_driver_decode_attach_response: unsupported schema version"⟩
  stopIf (header.blockLength ≠ AttachResponse.blockLength)
    ⟨-1, some "tp_driver_decode_attach_response: block length mismatch"⟩
  let answered ← read int64 8 bytes
  stopIf (answered ≠ correlationId) ⟨1, none⟩
  let code ← read int32 16 bytes
  stopIf (code ∉ knownCodes) ⟨-1, some "tp_driver_decode_attach_response: invalid response code"⟩
  let info := { info with code }
  if code = codeOk then decodeGranted allocates info bytes else decodeRefused info bytes

end TensorPool.DriverClient
