/-
This file encodes the messages of the control plane as their senders do.
-/

import TensorPool.Driver.Send
import TensorPool.Library.Flyweight

namespace TensorPool.Wire

open Flyweight FixedField

/-- The bytes of a string; a pointer to one may be null. -/
abbrev Text := List UInt8

/-- A failed call gives its code; some calls leave the error text as it was. -/
structure Refusal where
  code : Int
  text : Option String := none
  deriving DecidableEq, Repr

/-- These are the constants of the generated codec of a message. -/
structure Codec where
  schemaId : UInt16
  templateId : UInt16
  blockLength : UInt16
  version : UInt16
  deriving DecidableEq, Repr

def Codec.header (codec : Codec) : Header := ⟨codec.blockLength, codec.templateId, codec.schemaId, codec.version⟩

/-- The constants of a message of the control schema. -/
def codec (templateId blockLength : UInt16) : Codec := ⟨900, templateId, blockLength, 1⟩

def nullU32 : UInt32 := 0xFFFFFFFF

/-- An optional field that is absent has the null value of the schema. -/
def optional (value : UInt32) : UInt32 := if value = nullU32 then 4294967295 else value

/-- Texts are put one after the other, each as far as it fits. -/
def putTexts (size : Nat) (texts : List Text) (written : List UInt8) : List UInt8 :=
  texts.foldl (fun written text => putData size text written) written

/-- This is the string behind a pointer, and the empty one behind a null pointer. -/
def string (pointer : Option Text) : Text := chars (pointer.getD [])

structure ConsumerHello where
  streamId : UInt32
  consumerId : UInt32
  supportsShm : UInt8
  supportsProgress : UInt8
  mode : UInt32
  maxRateHz : UInt32
  expectedLayoutVersion : UInt32
  progressIntervalUs : UInt32
  progressBytesDelta : UInt32
  progressMajorDeltaUnits : UInt32
  descriptorStreamId : UInt32
  controlStreamId : UInt32
  descriptorChannel : Option Text
  controlChannel : Option Text
  deriving DecidableEq, Repr

namespace ConsumerHello

def codec : Codec := Wire.codec 2 39

/-- The fixed fields stand in schema order. -/
def block (hello : ConsumerHello) : List UInt8 :=
  uint32.encode hello.streamId ++ (uint32.encode hello.consumerId ++ (uint8.encode hello.supportsShm ++
    (uint8.encode hello.supportsProgress ++ (uint8.encode hello.mode.toUInt8 ++ (uint32.encode hello.maxRateHz ++
      (uint32.encode hello.expectedLayoutVersion ++ (uint32.encode (optional hello.progressIntervalUs) ++
        (uint32.encode (optional hello.progressBytesDelta) ++
          (uint32.encode (optional hello.progressMajorDeltaUnits) ++
            (uint32.encode hello.descriptorStreamId ++ uint32.encode hello.controlStreamId))))))))))

def texts (hello : ConsumerHello) : List Text := [string hello.descriptorChannel, string hello.controlChannel]

end ConsumerHello

/-- A stream is requested with its channel and its id, or not at all. -/
def halfRequested (channel : Text) (streamId : UInt32) : Bool := (channel ≠ [] ∧ streamId = 0) ∨
    (channel = [] ∧ streamId ≠ 0)

/-- This is `tp_consumer_send_hello` up to its offer. -/
def encodeConsumerHello (hello : ConsumerHello) : Except Refusal (List UInt8) :=
  if halfRequested (string hello.descriptorChannel) hello.descriptorStreamId then
    .error ⟨-1, some "tp_consumer_send_hello: invalid descriptor stream request"⟩
  else if halfRequested (string hello.controlChannel) hello.controlStreamId then
    .error ⟨-1, some "tp_consumer_send_hello: invalid control stream request"⟩
  else .ok (putTexts 512 hello.texts (messageHeader.encode ConsumerHello.codec.header ++ hello.block))

structure ConsumerConfig where
  streamId : UInt32
  consumerId : UInt32
  useShm : UInt8
  mode : UInt32
  descriptorStreamId : UInt32
  controlStreamId : UInt32
  payloadFallbackUri : Option Text
  descriptorChannel : Option Text
  controlChannel : Option Text
  deriving DecidableEq, Repr

namespace ConsumerConfig

def codec : Codec := Wire.codec 3 18

def block (config : ConsumerConfig) : List UInt8 :=
  uint32.encode config.streamId ++ (uint32.encode config.consumerId ++ (uint8.encode config.useShm ++
    (uint8.encode config.mode.toUInt8 ++ (uint32.encode config.descriptorStreamId ++
      uint32.encode config.controlStreamId))))

def texts (config : ConsumerConfig) : List Text :=
  [string config.payloadFallbackUri, string config.descriptorChannel, string config.controlChannel]

end ConsumerConfig

/-- This is `tp_producer_send_consumer_config` up to its offer. -/
def encodeConsumerConfig (config : ConsumerConfig) : List UInt8 :=
  putTexts 512 config.texts (messageHeader.encode ConsumerConfig.codec.header ++ config.block)

structure DataSourceAnnounce where
  streamId : UInt32
  producerId : UInt32
  epoch : UInt64
  metaVersion : UInt32
  name : Option Text
  summary : Option Text
  deriving DecidableEq, Repr

namespace DataSourceAnnounce

def codec : Codec := Wire.codec 7 20

def block (announce : DataSourceAnnounce) : List UInt8 :=
  uint32.encode announce.streamId ++ (uint32.encode announce.producerId ++ (uint64.encode announce.epoch ++
    uint32.encode announce.metaVersion))

def texts (announce : DataSourceAnnounce) : List Text := [string announce.name, string announce.summary]

end DataSourceAnnounce

/-- This is `tp_producer_send_data_source_announce` up to its offer. -/
def encodeDataSourceAnnounce (announce : DataSourceAnnounce) : List UInt8 :=
  putTexts 512 announce.texts (messageHeader.encode DataSourceAnnounce.codec.header ++ announce.block)

/-- The value of an attribute may hold any bytes. -/
structure MetaAttribute where
  key : Text
  format : Text
  value : List UInt8
  deriving DecidableEq, Repr

def MetaAttribute.texts (item : MetaAttribute) : List Text := [chars item.key, chars item.format, item.value]

structure DataSourceMeta where
  streamId : UInt32
  metaVersion : UInt32
  timestampNs : UInt64
  attributes : List MetaAttribute
  deriving DecidableEq, Repr

namespace DataSourceMeta

def codec : Codec := Wire.codec 8 16
def attributesBlockLength : Nat := 0

def block (message : DataSourceMeta) : List UInt8 :=
  uint32.encode message.streamId ++ (uint32.encode message.metaVersion ++ uint64.encode message.timestampNs)

end DataSourceMeta

/-- The step to an entry is refused behind the last one of the dimensions, and without room for its block. -/
def putEntries {α : Type} (size blockLength : Nat) (refusal : Refusal) (put : List UInt8 → α → List UInt8) :
    Nat → List α → List UInt8 → Except Refusal (List UInt8)
  | _, [], written => .ok written
  | 0, _ :: _, _ => .error refusal
  | allowed + 1, item :: items, written =>
      if size < written.length + blockLength then .error refusal
      else putEntries size blockLength refusal put allowed items (put written item)

/-- This is `tp_producer_send_data_source_meta` up to its offer. -/
def encodeDataSourceMeta (message : DataSourceMeta) : Except Refusal (List UInt8) :=
  let count := message.attributes.length
  match putGroup 2048 DataSourceMeta.attributesBlockLength count
      (messageHeader.encode DataSourceMeta.codec.header ++ message.block) with
  | none => .error ⟨-1, none⟩
  | some written =>
      putEntries 2048 DataSourceMeta.attributesBlockLength ⟨-1, none⟩
        (fun written item => putTexts 2048 item.texts written) (count % 2 ^ 16) message.attributes written

structure AnnouncePool where
  poolId : UInt16
  poolNslots : UInt32
  strideBytes : UInt32
  regionUri : Option Text
  deriving DecidableEq, Repr

def AnnouncePool.block (pool : AnnouncePool) : List UInt8 :=
  uint16.encode pool.poolId ++ (uint32.encode pool.poolNslots ++ uint32.encode pool.strideBytes)

structure ShmPoolAnnounce where
  streamId : UInt32
  producerId : UInt32
  epoch : UInt64
  announceTimestampNs : UInt64
  announceClockDomain : UInt8
  layoutVersion : UInt32
  headerNslots : UInt32
  headerSlotBytes : UInt16
  headerRegionUri : Option Text
  pools : List AnnouncePool
  deriving DecidableEq, Repr

namespace ShmPoolAnnounce

def codec : Codec := Wire.codec 1 35
def poolsBlockLength : Nat := 10

def block (announce : ShmPoolAnnounce) : List UInt8 :=
  uint32.encode announce.streamId ++ (uint32.encode announce.producerId ++ (uint64.encode announce.epoch ++
    (uint64.encode announce.announceTimestampNs ++ (uint8.encode announce.announceClockDomain ++
      (uint32.encode announce.layoutVersion ++ (uint32.encode announce.headerNslots ++
        uint16.encode announce.headerSlotBytes))))))

end ShmPoolAnnounce

/-- Both senders of an announce put its pools and its header URI in the same way, into buffers of other sizes. -/
def putAnnounce (size : Nat) (wrapRefusal nextRefusal : Refusal) (announce : ShmPoolAnnounce) :
    Except Refusal (List UInt8) :=
  let count := announce.pools.length
  match putGroup size ShmPoolAnnounce.poolsBlockLength count
      (messageHeader.encode ShmPoolAnnounce.codec.header ++ announce.block) with
  | none => .error wrapRefusal
  | some written => do
      let written ← putEntries size ShmPoolAnnounce.poolsBlockLength nextRefusal
        (fun written pool => putData size (string pool.regionUri) (written ++ pool.block)) (count % 2 ^ 16)
        announce.pools written
      .ok (putData size (string announce.headerRegionUri) written)

/-- The buffer of the producer has room for all texts. -/
def announceSize (announce : ShmPoolAnnounce) : Nat :=
  8 + 35 + 4 + 4 + (string announce.headerRegionUri).length +
    (announce.pools.map fun pool => 10 + 4 + (string pool.regionUri).length).sum

/-- This is `tp_producer_send_shm_pool_announce` up to its offer; the buffer is allocated. -/
def encodeShmPoolAnnounce (announce : ShmPoolAnnounce) : Except Refusal (List UInt8) :=
  if announce.pools = [] then
    .error ⟨-1, some "tp_producer_send_shm_pool_announce: missing payload pools"⟩
  else if string announce.headerRegionUri = [] then
    .error ⟨-1, some "tp_producer_send_shm_pool_announce: missing header region uri"⟩
  else
    putAnnounce (announceSize announce)
      ⟨-1, some "tp_producer_send_shm_pool_announce: payload pool wrap failed"⟩
      ⟨-1, some "tp_producer_send_shm_pool_announce: payload pool next failed"⟩ announce

/-- The fields that `tp_driver_send_announce` sets; its clock is the monotonic one. -/
def driverAnnounce (announce : Driver.PoolAnnounce) : ShmPoolAnnounce where
  streamId := announce.streamId
  producerId := announce.producerId
  epoch := announce.epoch
  announceTimestampNs := announce.announceTimestampNs
  announceClockDomain := 1
  layoutVersion := announce.layoutVersion
  headerNslots := announce.headerNslots
  headerSlotBytes := announce.headerSlotBytes.toUInt16
  headerRegionUri := some announce.headerRegionUri.text.toUTF8.toList
  pools := announce.payloadPools.map fun pool =>
    ⟨pool.poolId, pool.poolNslots, pool.strideBytes, some pool.regionUri.text.toUTF8.toList⟩

/-- These are the bytes that `tp_driver_send_announce` offers. -/
def encodeDriverAnnounce (announce : Driver.PoolAnnounce) : Except Refusal (List UInt8) :=
  putAnnounce Driver.bufferLength ⟨-1, some "tp_driver_send_announce: pool wrap failed"⟩
    ⟨-1, some "tp_driver_send_announce: pool next failed"⟩ (driverAnnounce announce)

end TensorPool.Wire
