/-
This file decodes the messages of the control plane as their receivers do.
-/

import TensorPool.Library.Extent
import TensorPool.Wire.Messages

namespace TensorPool.Wire

open Scan Flyweight FixedField

/-- The values of an enumeration; the null value of the schema is one of them. -/
def bools : List UInt8 := [0, 1, 255]
def modes : List UInt8 := [1, 2, 255]
def clockDomains : List UInt8 := [1, 2, 255]
def responseCodes : List Int32 := [0, 1, 2, 3, 4, -2147483648]

/-- The header checks of a decoder; some decoders leave out the last two. -/
def openMessage (name short : String) (strict : Bool) (codec : Codec) (bytes : List UInt8) : Scan Refusal Header := do
  stopIf (bytes.length < messageHeader.width) ⟨-1, some (name ++ short)⟩
  let header ← read messageHeader 0 bytes
  stopIf (header.schemaId ≠ codec.schemaId ∨ header.templateId ≠ codec.templateId) ⟨1, none⟩
  stopIf (strict ∧ codec.version < header.version) ⟨-1, some (name ++ ": unsupported schema version")⟩
  stopIf (strict ∧ header.blockLength ≠ codec.blockLength) ⟨-1, some (name ++ ": block length mismatch")⟩
  value header

/-- The position behind the block, which is not set when the block of the header does not fit. -/
def behindBlock {ε : Type} (header : Header) (bytes : List UInt8) : Scan ε (List UInt8) :=
  if 8 + header.blockLength.toNat ≤ bytes.length then value (bytes.drop (8 + header.blockLength.toNat)) else fault

/-- This is `tp_decode_var_data` with the error of its caller. -/
def decodeVarData {ε : Type} (error : ε) (rest : List UInt8) : Scan ε (Text × List UInt8) :=
  match checkedData rest with
  | none => stop error
  | some found => value found

/-- This is `tp_consumer_hello_view_t`. -/
structure ConsumerHelloView where
  streamId : UInt32
  consumerId : UInt32
  supportsShm : UInt8
  supportsProgress : UInt8
  mode : UInt8
  maxRateHz : UInt32
  expectedLayoutVersion : UInt32
  progressIntervalUs : UInt32
  progressBytesDelta : UInt32
  progressMajorDeltaUnits : UInt32
  descriptorStreamId : UInt32
  controlStreamId : UInt32
  descriptorChannel : Text
  controlChannel : Text
  deriving DecidableEq, Repr

/-- This is `tp_control_decode_consumer_hello`. -/
def decodeConsumerHello (bytes : List UInt8) : Scan Refusal ConsumerHelloView := do
  let header ← openMessage "tp_control_decode_consumer_hello" ": buffer too short" true ConsumerHello.codec bytes
  let streamId ← read uint32 8 bytes
  let consumerId ← read uint32 12 bytes
  let supportsShm ← read uint8 16 bytes
  stopIf (supportsShm ∉ bools) ⟨-1, some "tp_control_decode_consumer_hello: invalid supportsShm"⟩
  let supportsProgress ← read uint8 17 bytes
  stopIf (supportsProgress ∉ bools) ⟨-1, some "tp_control_decode_consumer_hello: invalid supportsProgress"⟩
  let mode ← read uint8 18 bytes
  stopIf (mode ∉ modes) ⟨-1, some "tp_control_decode_consumer_hello: invalid mode"⟩
  let maxRateHz ← read uint32 19 bytes
  let expectedLayoutVersion ← read uint32 23 bytes
  let progressIntervalUs ← read uint32 27 bytes
  let progressBytesDelta ← read uint32 31 bytes
  let progressMajorDeltaUnits ← read uint32 35 bytes
  let descriptorStreamId ← read uint32 39 bytes
  let controlStreamId ← read uint32 43 bytes
  let rest ← behindBlock header bytes
  let (descriptorChannel, rest) ←
    decodeVarData ⟨-1, some "tp_control_decode_consumer_hello: invalid descriptor channel"⟩ rest
  let (controlChannel, _) ←
    decodeVarData ⟨-1, some "tp_control_decode_consumer_hello: invalid control channel"⟩ rest
  value
    { streamId, consumerId, supportsShm, supportsProgress, mode, maxRateHz, expectedLayoutVersion
      progressIntervalUs := optional progressIntervalUs
      progressBytesDelta := optional progressBytesDelta
      progressMajorDeltaUnits := optional progressMajorDeltaUnits
      descriptorStreamId, controlStreamId, descriptorChannel, controlChannel }

/-- This is `tp_consumer_config_view_t`. -/
structure ConsumerConfigView where
  streamId : UInt32
  consumerId : UInt32
  useShm : UInt8
  mode : UInt8
  descriptorStreamId : UInt32
  controlStreamId : UInt32
  payloadFallbackUri : Text
  descriptorChannel : Text
  controlChannel : Text
  deriving DecidableEq, Repr

/-- This is `tp_control_decode_consumer_config`. -/
def decodeConsumerConfig (bytes : List UInt8) : Scan Refusal ConsumerConfigView := do
  let header ← openMessage "tp_control_decode_consumer_config" ": buffer too short" true ConsumerConfig.codec bytes
  let streamId ← read uint32 8 bytes
  let consumerId ← read uint32 12 bytes
  let useShm ← read uint8 16 bytes
  stopIf (useShm ∉ bools) ⟨-1, some "tp_control_decode_consumer_config: invalid useShm"⟩
  let mode ← read uint8 17 bytes
  stopIf (mode ∉ modes) ⟨-1, some "tp_control_decode_consumer_config: invalid mode"⟩
  let descriptorStreamId ← read uint32 18 bytes
  let controlStreamId ← read uint32 22 bytes
  let rest ← behindBlock header bytes
  let (payloadFallbackUri, rest) ←
    decodeVarData ⟨-1, some "tp_control_decode_consumer_config: invalid payload uri"⟩ rest
  let (descriptorChannel, rest) ←
    decodeVarData ⟨-1, some "tp_control_decode_consumer_config: invalid descriptor channel"⟩ rest
  let (controlChannel, _) ←
    decodeVarData ⟨-1, some "tp_control_decode_consumer_config: invalid control channel"⟩ rest
  value { streamId, consumerId, useShm, mode, descriptorStreamId, controlStreamId, payloadFallbackUri
          descriptorChannel, controlChannel }

/-- This is `tp_data_source_announce_view_t`. -/
structure DataSourceAnnounceView where
  streamId : UInt32
  producerId : UInt32
  epoch : UInt64
  metaVersion : UInt32
  name : Text
  summary : Text
  deriving DecidableEq, Repr

/-- This is `tp_control_decode_data_source_announce`, which checks neither the version nor the block length. -/
def decodeDataSourceAnnounce (bytes : List UInt8) : Scan Refusal DataSourceAnnounceView := do
  let header ←
    openMessage "tp_control_decode_data_source_announce" ": buffer too short" false DataSourceAnnounce.codec bytes
  let streamId ← read uint32 8 bytes
  let producerId ← read uint32 12 bytes
  let epoch ← read uint64 16 bytes
  let metaVersion ← read uint32 24 bytes
  let rest ← behindBlock header bytes
  let (name, rest) ← decodeVarData ⟨-1, some "tp_control_decode_data_source_announce: invalid name"⟩ rest
  let (summary, _) ← decodeVarData ⟨-1, some "tp_control_decode_data_source_announce: invalid summary"⟩ rest
  value { streamId, producerId, epoch, metaVersion, name, summary }

/-- This is `tp_shm_pool_desc_t`. -/
structure PoolDesc where
  poolId : UInt16
  nslots : UInt32
  strideBytes : UInt32
  regionUri : Text
  deriving DecidableEq, Repr

/-- This is `tp_shm_pool_announce_view_t`; the pools are counted by their list. -/
structure ShmPoolAnnounceView where
  streamId : UInt32
  producerId : UInt32
  epoch : UInt64
  announceTimestampNs : UInt64
  layoutVersion : UInt32
  headerNslots : UInt32
  headerSlotBytes : UInt16
  announceClockDomain : UInt8
  pools : List PoolDesc
  headerRegionUri : Text
  deriving DecidableEq, Repr

/-- The dimensions of a group, with the error of the decoder when the fragment does not hold them. -/
def checkedGroup {ε : Type} (error : ε) (rest : List UInt8) : Scan ε (Nat × Nat × List UInt8) :=
  if rest.length < 4 then stop error
  else value ((uint16.decode rest).toNat, (uint16.decode (rest.drop 2)).toNat, rest.drop 4)

/-- The step to an entry leaves the bytes of the entry and the bytes behind its block. -/
def checkedEntry {ε : Type} (error : ε) (blockLength : Nat) (rest : List UInt8) : Scan ε (List UInt8) :=
  match nextEntry blockLength rest with
  | none => stop error
  | some behind => value behind

def decodePoolDesc (blockLength : Nat) (rest : List UInt8) : Scan Refusal (PoolDesc × List UInt8) := do
  let behind ← checkedEntry ⟨-1, some "tp_control_decode_shm_pool_announce: payload pools truncated"⟩ blockLength rest
  let poolId ← read uint16 0 rest
  let nslots ← read uint32 2 rest
  let strideBytes ← read uint32 6 rest
  let (regionUri, behind) ←
    decodeVarData ⟨-1, some "tp_control_decode_shm_pool_announce: invalid pool uri"⟩ behind
  value (⟨poolId, nslots, strideBytes, regionUri⟩, behind)

/-- This is `tp_control_decode_shm_pool_announce`. -/
def decodeShmPoolAnnounce (allocates : Bool) (bytes : List UInt8) : Scan Refusal ShmPoolAnnounceView := do
  let header ← openMessage "tp_control_decode_shm_pool_announce" ": buffer too short" true ShmPoolAnnounce.codec bytes
  let streamId ← read uint32 8 bytes
  let producerId ← read uint32 12 bytes
  let epoch ← read uint64 16 bytes
  let announceTimestampNs ← read uint64 24 bytes
  let layoutVersion ← read uint32 33 bytes
  let headerNslots ← read uint32 37 bytes
  let headerSlotBytes ← read uint16 41 bytes
  let announceClockDomain ← read uint8 32 bytes
  stopIf (announceClockDomain ∉ clockDomains)
    ⟨-1, some "tp_control_decode_shm_pool_announce: invalid clock domain"⟩
  let rest ← behindBlock header bytes
  let (blockLength, count, rest) ←
    checkedGroup ⟨-1, some "tp_control_decode_shm_pool_announce: payload pools truncated"⟩ rest
  stopIf (0 < count ∧ allocates = false)
    ⟨-1, some "tp_control_decode_shm_pool_announce: pool allocation failed"⟩
  let (pools, rest) ← entries (decodePoolDesc blockLength) count rest
  let (headerRegionUri, _) ←
    decodeVarData ⟨-1, some "tp_control_decode_shm_pool_announce: invalid header uri"⟩ rest
  value { streamId, producerId, epoch, announceTimestampNs, layoutVersion, headerNslots, headerSlotBytes
          announceClockDomain, pools, headerRegionUri }

/-- This is `tp_control_response_view_t`. -/
structure ControlResponseView where
  correlationId : Int64
  code : Int32
  errorMessage : Text
  deriving DecidableEq, Repr

namespace ControlResponse

def codec : Codec := Wire.codec 9 12

end ControlResponse

/-- This is `tp_control_decode_control_response`, which checks neither the version nor the block length. -/
def decodeControlResponse (bytes : List UInt8) : Scan Refusal ControlResponseView := do
  let header ← openMessage "tp_control_decode_control_response" ": buffer too short" false ControlResponse.codec bytes
  let correlationId ← read int64 8 bytes
  let code ← read int32 16 bytes
  stopIf (code ∉ responseCodes) ⟨-1, some "tp_control_decode_control_response: invalid response code"⟩
  let rest ← behindBlock header bytes
  let (errorMessage, _) ←
    decodeVarData ⟨-1, some "tp_control_decode_control_response: invalid error message"⟩ rest
  value { correlationId, code, errorMessage }

/-- This is `tp_meta_blob_announce_view_t`. -/
structure MetaBlobAnnounceView where
  streamId : UInt32
  metaVersion : UInt32
  blobType : UInt32
  totalLen : UInt64
  checksum : UInt64
  deriving DecidableEq, Repr

/-- This is `tp_meta_blob_chunk_view_t`. -/
structure MetaBlobChunkView where
  streamId : UInt32
  metaVersion : UInt32
  offset : UInt64
  bytes : List UInt8
  deriving DecidableEq, Repr

/-- This is `tp_meta_blob_complete_view_t`. -/
structure MetaBlobCompleteView where
  streamId : UInt32
  metaVersion : UInt32
  checksum : UInt64
  deriving DecidableEq, Repr

namespace MetaBlob

def announceCodec : Codec := Wire.codec 10 28
def chunkCodec : Codec := Wire.codec 12 16
def completeCodec : Codec := Wire.codec 13 16

end MetaBlob

/-- This is `tp_control_decode_meta_blob_announce`, which checks neither the version nor the block length. -/
def decodeMetaBlobAnnounce (bytes : List UInt8) : Scan Refusal MetaBlobAnnounceView := do
  let _ ← openMessage "tp_control_decode_meta_blob_announce" ": buffer too short" false MetaBlob.announceCodec bytes
  let streamId ← read uint32 8 bytes
  let metaVersion ← read uint32 12 bytes
  let blobType ← read uint32 16 bytes
  let totalLen ← read uint64 20 bytes
  let checksum ← read uint64 28 bytes
  value { streamId, metaVersion, blobType, totalLen, checksum }

/-- This is `tp_control_decode_meta_blob_chunk`. -/
def decodeMetaBlobChunk (bytes : List UInt8) : Scan Refusal MetaBlobChunkView := do
  let header ← openMessage "tp_control_decode_meta_blob_chunk" ": buffer too short" true MetaBlob.chunkCodec bytes
  let streamId ← read uint32 8 bytes
  let metaVersion ← read uint32 12 bytes
  let offset ← read uint64 16 bytes
  let rest ← behindBlock header bytes
  let (data, _) ← decodeVarData ⟨-1, some "tp_control_decode_meta_blob_chunk: invalid bytes"⟩ rest
  value { streamId, metaVersion, offset, bytes := data }

/-- This is `tp_control_decode_meta_blob_complete`, which checks neither the version nor the block length. -/
def decodeMetaBlobComplete (bytes : List UInt8) : Scan Refusal MetaBlobCompleteView := do
  let _ ← openMessage "tp_control_decode_meta_blob_complete" ": buffer too short" false MetaBlob.completeCodec bytes
  let streamId ← read uint32 8 bytes
  let metaVersion ← read uint32 12 bytes
  let checksum ← read uint64 16 bytes
  value { streamId, metaVersion, checksum }

/-- This is `tp_data_source_meta_view_t`, with the attributes that the callback got, if there is one. -/
structure DataSourceMetaView where
  streamId : UInt32
  metaVersion : UInt32
  timestampNs : UInt64
  attributeCount : Nat
  attributes : List MetaAttribute
  deriving DecidableEq, Repr

def decodeAttribute (blockLength : Nat) (rest : List UInt8) : Scan Refusal (MetaAttribute × List UInt8) := do
  let behind ←
    checkedEntry ⟨-1, some "tp_control_decode_data_source_meta: attributes truncated"⟩ blockLength rest
  let (key, behind) ← decodeVarData ⟨-1, some "tp_control_decode_data_source_meta: invalid attribute"⟩ behind
  let (format, behind) ← decodeVarData ⟨-1, some "tp_control_decode_data_source_meta: invalid attribute"⟩ behind
  let (data, behind) ← decodeVarData ⟨-1, some "tp_control_decode_data_source_meta: invalid attribute"⟩ behind
  value (⟨key, format, data⟩, behind)

/-- The callback gets each attribute as it is met, also when a later one is refused. -/
def decodeAttributes (blockLength : Nat) :
    Nat → List MetaAttribute → List UInt8 → Scan (Refusal × List MetaAttribute) (List MetaAttribute)
  | 0, met, _ => value met
  | count + 1, met, rest => do
      let (item, rest) ← (decodeAttribute blockLength rest).mapStop fun refusal => (refusal, met)
      decodeAttributes blockLength count (met ++ [item]) rest

/-- This is `tp_control_decode_data_source_meta`; without a callback the attributes are only counted. -/
def decodeDataSourceMeta (callback : Bool) (bytes : List UInt8) :
    Scan (Refusal × List MetaAttribute) DataSourceMetaView := do
  let header ←
    (openMessage "tp_control_decode_data_source_meta" ": buffer too short" true DataSourceMeta.codec bytes).mapStop
      fun refusal => (refusal, [])
  let streamId ← read uint32 8 bytes
  let metaVersion ← read uint32 12 bytes
  let timestampNs ← read uint64 16 bytes
  let rest ← behindBlock header bytes
  let (blockLength, count, rest) ←
    checkedGroup (⟨-1, some "tp_control_decode_data_source_meta: attributes truncated"⟩, []) rest
  let attributes ← if callback then decodeAttributes blockLength count [] rest else value []
  value { streamId, metaVersion, timestampNs, attributeCount := count, attributes }

/-- These are the fields that `tp_consumer_descriptor_handler` reads in front of its checks of the consumer. -/
structure FrameDescriptor where
  streamId : UInt32
  epoch : UInt64
  seq : UInt64
  timestampNs : UInt64
  metaVersion : UInt32
  traceId : UInt64
  deriving DecidableEq, Repr

namespace FrameDescriptor

def codec : Codec := Wire.codec 4 40

end FrameDescriptor

/-- A handler returns without an error when the message is not its own. -/
def openFrame (codec : Codec) (bytes : List UInt8) : Scan Unit Unit := do
  stopIf (bytes.length < messageHeader.width) ()
  let header ← read messageHeader 0 bytes
  stopIf (header.schemaId ≠ codec.schemaId ∨ header.templateId ≠ codec.templateId) ()

/-- This is `tp_consumer_descriptor_handler` up to its checks of the consumer. -/
def decodeFrameDescriptor (bytes : List UInt8) : Scan Unit FrameDescriptor := do
  openFrame FrameDescriptor.codec bytes
  let streamId ← read uint32 8 bytes
  let epoch ← read uint64 12 bytes
  let seq ← read uint64 20 bytes
  let timestampNs ← read uint64 28 bytes
  let metaVersion ← read uint32 36 bytes
  let traceId ← read uint64 40 bytes
  value { streamId, epoch, seq, timestampNs, metaVersion, traceId }

/-- This is `tp_frame_progress_t`. -/
structure FrameProgress where
  streamId : UInt32
  epoch : UInt64
  seq : UInt64
  payloadBytesFilled : UInt64
  state : UInt8
  deriving DecidableEq, Repr

namespace FrameProgress

def codec : Codec := Wire.codec 11 29

end FrameProgress

def frameProgressStates : List UInt8 := [0, 1, 2, 3, 255]

/-- This is `tp_progress_poller_handler` up to the validation; a state outside of the schema is unknown. -/
def decodeFrameProgress (bytes : List UInt8) : Scan Unit FrameProgress := do
  openFrame FrameProgress.codec bytes
  let streamId ← read uint32 8 bytes
  let epoch ← read uint64 12 bytes
  let seq ← read uint64 20 bytes
  let payloadBytesFilled ← read uint64 28 bytes
  let state ← read uint8 36 bytes
  value { streamId, epoch, seq, payloadBytesFilled, state := if state ∈ frameProgressStates then state else 0 }

end TensorPool.Wire
