/-
This file shows that the control messages that are sent are read back with the values that were sent.
-/

import Mathlib.Algebra.Order.BigOperators.Group.List
import TensorPool.Wire.Decode

namespace TensorPool.Wire

open Scan Flyweight FixedField

/-- This is the room that texts take with their lengths. -/
def textsSize (texts : List Text) : Nat := (texts.map fun text => 4 + text.length).sum

theorem length_textBytes (texts : List Text) : (texts.flatMap dataBytes).length = textsSize texts := by
  induction texts with
  | nil => rfl
  | cons text rest hypothesis =>
      rw [List.flatMap_cons, List.length_append, length_dataBytes, hypothesis]
      rfl

/-- Texts that fit are put as a whole. -/
theorem putTexts_fits {size : Nat} {texts : List Text} {written : List UInt8}
    (fits : written.length + textsSize texts ≤ size) :
    putTexts size texts written = written ++ texts.flatMap dataBytes := by
  induction texts generalizing written with
  | nil =>
      rw [List.flatMap_nil, List.append_nil]
      rfl
  | cons text rest hypothesis =>
      have room : written.length + (4 + text.length + textsSize rest) ≤ size := fits
      have put : putData size text written = written ++ dataBytes text := putData_fits (by omega)
      have later : (written ++ dataBytes text).length + textsSize rest ≤ size := by
        rw [List.length_append, length_dataBytes]
        omega
      change putTexts size rest (putData size text written) = _
      rw [put, hypothesis later, List.flatMap_cons, List.append_assoc]

/-- Entries that fit are put as a whole, one after the other. -/
theorem putEntries_fits {α : Type} {size blockLength allowed : Nat} {refusal : Refusal}
    {put : List UInt8 → α → List UInt8} {encode : α → List UInt8} {items : List α} {written : List UInt8}
    (few : items.length ≤ allowed) (block : ∀ item ∈ items, blockLength ≤ (encode item).length)
    (fits : written.length + (items.flatMap encode).length ≤ size)
    (puts : ∀ item ∈ items, ∀ written : List UInt8, written.length + (encode item).length ≤ size →
      put written item = written ++ encode item) :
    putEntries size blockLength refusal put allowed items written = .ok (written ++ items.flatMap encode) := by
  induction items generalizing allowed written with
  | nil =>
      rw [putEntries, List.flatMap_nil, List.append_nil]
  | cons item items hypothesis =>
      cases allowed with
      | zero => exact absurd few (Nat.not_succ_le_zero _)
      | succ allowed =>
          rw [List.flatMap_cons, List.length_append] at fits
          have inside := block item List.mem_cons_self
          have here := puts item List.mem_cons_self written (by omega)
          have later : (written ++ encode item).length + (items.flatMap encode).length ≤ size := by
            rw [List.length_append]
            omega
          have rest := hypothesis (Nat.le_of_succ_le_succ few)
            (fun other member => block other (List.mem_cons_of_mem _ member)) later
            (fun other member => puts other (List.mem_cons_of_mem _ member))
          rw [putEntries, if_neg (by omega), here, rest, List.flatMap_cons, List.append_assoc]

/-- A text that was put is read, and the rest is left. -/
theorem decodeVarData_dataBytes {ε : Type} {error : ε} (text rest : List UInt8) (small : text.length < 2 ^ 32) :
    decodeVarData error (dataBytes text ++ rest) = value (text, rest) := by
  rw [decodeVarData, checkedData_dataBytes text rest small]

/-- The head of a group that was put is read, and the rest is left. -/
theorem checkedGroup_groupBytes {ε : Type} {error : ε} (blockLength count : Nat) (rest : List UInt8)
    (short : blockLength < 2 ^ 16) (few : count < 2 ^ 16) :
    checkedGroup error (groupBytes blockLength count ++ rest) = value (blockLength, count, rest) := by
  have long : ¬ (groupBytes blockLength count ++ rest).length < 4 := by
    rw [List.length_append, length_groupBytes]
    omega
  obtain ⟨-, block, number, behind⟩ :=
    group_eq_value.mp (group_groupBytes (ε := Unit) blockLength count rest short few)
  rw [checkedGroup, if_neg long, ← block, ← number, ← behind]

/-- A message of the codec is opened. -/
theorem openMessage_sent (name short : String) (strict : Bool) (codec : Codec) (rest : List UInt8) :
    openMessage name short strict codec (messageHeader.encode codec.header ++ rest) = value codec.header := by
  have long : ¬ (messageHeader.encode codec.header ++ rest).length < messageHeader.width := by
    rw [List.length_append, messageHeader.length_encode]
    omega
  have named : ¬ (codec.header.schemaId ≠ codec.schemaId ∨ codec.header.templateId ≠ codec.templateId) := by
    rw [not_or, not_not, not_not]
    exact ⟨rfl, rfl⟩
  have version : ¬ (strict = true ∧ codec.version < codec.header.version) := fun newer =>
    UInt16.lt_irrefl _ newer.2
  have block : ¬ (strict = true ∧ codec.header.blockLength ≠ codec.blockLength) := fun other => other.2 rfl
  rw [openMessage, stopIf_pass long, value_bind, read_here, value_bind, stopIf_pass named, value_bind,
    stopIf_pass version, value_bind, stopIf_pass block, value_bind]

/-- What was put behind the block is found there. -/
theorem behindBlock_sent {ε : Type} {codec : Codec} {block : List UInt8} (rest : List UInt8)
    (length : block.length = codec.blockLength.toNat) :
    (behindBlock codec.header (messageHeader.encode codec.header ++ (block ++ rest)) : Scan ε _) = value rest := by
  have front : (messageHeader.encode codec.header ++ block).length = 8 + codec.header.blockLength.toNat := by
    rw [List.length_append, messageHeader.length_encode, length]
    rfl
  rw [← List.append_assoc, behindBlock, if_pos, List.drop_left' front]
  rw [List.length_append, front]
  exact Nat.le_add_right _ _

/-- The null value of the sender is that of the schema, so an optional field is put as it is. -/
theorem optional_same (value : UInt32) : optional value = value := by
  unfold optional
  split
  next null => exact null.symm
  · rfl

/-- Each text of a message that fits is short enough for its length. -/
theorem textsSize_small {texts : List Text} {size : Nat} (fits : textsSize texts ≤ size) (small : size < 2 ^ 32) :
    ∀ text ∈ texts, text.length < 2 ^ 32 := by
  intro text member
  have part : 4 + text.length ≤ textsSize texts :=
    List.le_sum_of_mem (List.mem_map_of_mem member)
  omega

/-- The byte of a known mode is known. -/
theorem mode_known {mode : UInt32} (known : mode ∈ modes.map UInt8.toUInt32) : mode.toUInt8 ∈ modes := by
  obtain ⟨byte, member, rfl⟩ := List.mem_map.mp known
  rwa [UInt8.toUInt8_toUInt32]

namespace ConsumerHello

/-- This is what the receiver shall see. -/
def view (hello : ConsumerHello) : ConsumerHelloView where
  streamId := hello.streamId
  consumerId := hello.consumerId
  supportsShm := hello.supportsShm
  supportsProgress := hello.supportsProgress
  mode := hello.mode.toUInt8
  maxRateHz := hello.maxRateHz
  expectedLayoutVersion := hello.expectedLayoutVersion
  progressIntervalUs := hello.progressIntervalUs
  progressBytesDelta := hello.progressBytesDelta
  progressMajorDeltaUnits := hello.progressMajorDeltaUnits
  descriptorStreamId := hello.descriptorStreamId
  controlStreamId := hello.controlStreamId
  descriptorChannel := string hello.descriptorChannel
  controlChannel := string hello.controlChannel

/-- The enumerations have values of the schema, so the mode fits its byte. -/
structure Known (hello : ConsumerHello) : Prop where
  supportsShm : hello.supportsShm ∈ bools
  supportsProgress : hello.supportsProgress ∈ bools
  mode : hello.mode ∈ modes.map UInt8.toUInt32

/-- The blocks of a hello and its texts are decoded to what the receiver shall see. -/
theorem decode_block {hello : ConsumerHello} (known : hello.Known)
    (small : ∀ text ∈ hello.texts, text.length < 2 ^ 32) :
    decodeConsumerHello (messageHeader.encode codec.header ++ (hello.block ++ hello.texts.flatMap dataBytes)) =
      value hello.view := by
  have behind := @behindBlock_sent Refusal codec hello.block
    (hello.texts.flatMap dataBytes) rfl
  have descriptor := small (string hello.descriptorChannel) (by simp [texts])
  have control := small (string hello.controlChannel) (by simp [texts])
  rw [decodeConsumerHello, openMessage_sent, value_bind, behind]
  simp (disch := decide) only [block, texts, List.flatMap_cons, List.flatMap_nil, List.append_assoc, read_here,
    read_behind, width_messageHeader, width_uint8, width_uint32, Nat.reduceSub, value_bind,
    stopIf_pass (not_not.mpr known.supportsShm), stopIf_pass (not_not.mpr known.supportsProgress),
    stopIf_pass (not_not.mpr (mode_known known.mode)), decodeVarData_dataBytes _ _ descriptor,
    decodeVarData_dataBytes _ _ control, optional_same]
  rfl

end ConsumerHello

namespace ConsumerConfig

/-- This is what the receiver shall see. -/
def view (config : ConsumerConfig) : ConsumerConfigView where
  streamId := config.streamId
  consumerId := config.consumerId
  useShm := config.useShm
  mode := config.mode.toUInt8
  descriptorStreamId := config.descriptorStreamId
  controlStreamId := config.controlStreamId
  payloadFallbackUri := string config.payloadFallbackUri
  descriptorChannel := string config.descriptorChannel
  controlChannel := string config.controlChannel

/-- The enumerations have values of the schema, so the mode fits its byte. -/
structure Known (config : ConsumerConfig) : Prop where
  useShm : config.useShm ∈ bools
  mode : config.mode ∈ modes.map UInt8.toUInt32

/-- The block of a configuration and its texts are decoded to what the receiver shall see. -/
theorem decode_block {config : ConsumerConfig} (known : config.Known)
    (small : ∀ text ∈ config.texts, text.length < 2 ^ 32) :
    decodeConsumerConfig (messageHeader.encode codec.header ++ (config.block ++ config.texts.flatMap dataBytes)) =
      value config.view := by
  have behind := @behindBlock_sent Refusal codec config.block
    (config.texts.flatMap dataBytes) rfl
  have fallback := small (string config.payloadFallbackUri) (by simp [texts])
  have descriptor := small (string config.descriptorChannel) (by simp [texts])
  have control := small (string config.controlChannel) (by simp [texts])
  rw [decodeConsumerConfig, openMessage_sent, value_bind, behind]
  simp (disch := decide) only [block, texts, List.flatMap_cons, List.flatMap_nil, List.append_assoc, read_here,
    read_behind, width_messageHeader, width_uint8, width_uint32, Nat.reduceSub, value_bind,
    stopIf_pass (not_not.mpr known.useShm), stopIf_pass (not_not.mpr (mode_known known.mode)),
    decodeVarData_dataBytes _ _ fallback, decodeVarData_dataBytes _ _ descriptor, decodeVarData_dataBytes _ _ control]
  rfl

end ConsumerConfig

namespace DataSourceAnnounce

/-- This is what the receiver shall see. -/
def view (announce : DataSourceAnnounce) : DataSourceAnnounceView where
  streamId := announce.streamId
  producerId := announce.producerId
  epoch := announce.epoch
  metaVersion := announce.metaVersion
  name := string announce.name
  summary := string announce.summary

/-- The block of a source announce and its texts are decoded to what the receiver shall see. -/
theorem decode_block {announce : DataSourceAnnounce} (small : ∀ text ∈ announce.texts, text.length < 2 ^ 32) :
    decodeDataSourceAnnounce
        (messageHeader.encode codec.header ++ (announce.block ++ announce.texts.flatMap dataBytes)) =
      value announce.view := by
  have behind := @behindBlock_sent Refusal codec announce.block
    (announce.texts.flatMap dataBytes) rfl
  have name := small (string announce.name) (by simp [texts])
  have summary := small (string announce.summary) (by simp [texts])
  rw [decodeDataSourceAnnounce, openMessage_sent, value_bind, behind]
  simp (disch := decide) only [block, texts, List.flatMap_cons, List.flatMap_nil, List.append_assoc, read_here,
    read_behind, width_messageHeader, width_uint32, width_uint64, Nat.reduceSub, value_bind,
    decodeVarData_dataBytes _ _ name, decodeVarData_dataBytes _ _ summary]
  rfl

end DataSourceAnnounce

/-- An attribute is seen up to the ends of its strings, and with its whole value. -/
def MetaAttribute.view (item : MetaAttribute) : MetaAttribute := ⟨chars item.key, chars item.format, item.value⟩

def MetaAttribute.bytes (item : MetaAttribute) : List UInt8 := item.texts.flatMap dataBytes

/-- An attribute that was put is read, and the rest is left. -/
theorem decodeAttribute_bytes {item : MetaAttribute} (small : ∀ text ∈ item.texts, text.length < 2 ^ 32)
    (rest : List UInt8) : decodeAttribute 0 (item.bytes ++ rest) = value (item.view, rest) := by
  have key := small (chars item.key) (by simp [MetaAttribute.texts])
  have format := small (chars item.format) (by simp [MetaAttribute.texts])
  have data := small item.value (by simp [MetaAttribute.texts])
  have entered (error : Refusal) (rest : List UInt8) : checkedEntry error 0 rest = value rest := by
    rw [checkedEntry, nextEntry, if_pos (Nat.zero_le _)]
    rfl
  rw [decodeAttribute, entered, value_bind]
  simp only [MetaAttribute.bytes, MetaAttribute.texts, List.flatMap_cons, List.flatMap_nil, List.append_assoc,
    List.nil_append, decodeVarData_dataBytes _ _ key, decodeVarData_dataBytes _ _ format,
    decodeVarData_dataBytes _ _ data, value_bind]
  rfl

/-- The callback gets every attribute in order. -/
theorem decodeAttributes_bytes {items met : List MetaAttribute}
    (small : ∀ item ∈ items, ∀ text ∈ item.texts, text.length < 2 ^ 32) (rest : List UInt8) :
    decodeAttributes 0 items.length met (items.flatMap MetaAttribute.bytes ++ rest) =
      value (met ++ items.map MetaAttribute.view) := by
  induction items generalizing met with
  | nil =>
      rw [List.map_nil, List.append_nil]
      rfl
  | cons item items hypothesis =>
      have later := fun met => @hypothesis met fun other member => small other (List.mem_cons_of_mem _ member)
      rw [List.length_cons, decodeAttributes, List.flatMap_cons, List.append_assoc,
        decodeAttribute_bytes (small item List.mem_cons_self)]
      change decodeAttributes 0 items.length (met ++ [item.view]) _ = _
      rw [later, List.map_cons, List.append_assoc]
      rfl

namespace DataSourceMeta

/-- This is what the receiver shall see. -/
def view (message : DataSourceMeta) : DataSourceMetaView where
  streamId := message.streamId
  metaVersion := message.metaVersion
  timestampNs := message.timestampNs
  attributeCount := message.attributes.length
  attributes := message.attributes.map MetaAttribute.view

/-- The block of a source description and its attributes are decoded to what the receiver shall see. -/
theorem decode_block {message : DataSourceMeta} (few : message.attributes.length < 2 ^ 16)
    (small : ∀ item ∈ message.attributes, ∀ text ∈ item.texts, text.length < 2 ^ 32) :
    decodeDataSourceMeta true
        (messageHeader.encode codec.header ++ (message.block ++
          (groupBytes attributesBlockLength message.attributes.length ++
            message.attributes.flatMap MetaAttribute.bytes))) = value message.view := by
  have behind := @behindBlock_sent (Refusal × List MetaAttribute) codec message.block
    (groupBytes attributesBlockLength message.attributes.length ++ message.attributes.flatMap MetaAttribute.bytes) rfl
  have all := @decodeAttributes_bytes message.attributes [] small []
  rw [List.append_nil, List.nil_append] at all
  have short : attributesBlockLength < 2 ^ 16 := by decide
  have all' : decodeAttributes attributesBlockLength _ _ _ = _ := all
  rw [decodeDataSourceMeta, openMessage_sent, mapStop, value_bind, behind]
  simp (disch := decide) only [block, List.append_assoc, read_here, read_behind, width_messageHeader, width_uint32,
    Nat.reduceSub, value_bind, checkedGroup_groupBytes _ _ _ short few, eq_self, if_true, all']
  rfl

end DataSourceMeta

def AnnouncePool.view (pool : AnnouncePool) : PoolDesc :=
  ⟨pool.poolId, pool.poolNslots, pool.strideBytes, string pool.regionUri⟩

def AnnouncePool.bytes (pool : AnnouncePool) : List UInt8 := pool.block ++ dataBytes (string pool.regionUri)

/-- A pool that was put is read, and the rest is left. -/
theorem decodePoolDesc_bytes {pool : AnnouncePool} (small : (string pool.regionUri).length < 2 ^ 32)
    (rest : List UInt8) :
    decodePoolDesc ShmPoolAnnounce.poolsBlockLength (pool.bytes ++ rest) = value (pool.view, rest) := by
  have entered (error : Refusal) (rest : List UInt8) :
      checkedEntry error ShmPoolAnnounce.poolsBlockLength (pool.block ++ rest) = value rest := by
    have behind : nextEntry ShmPoolAnnounce.poolsBlockLength (pool.block ++ rest) = some rest :=
      nextEntry_append rest rfl
    rw [checkedEntry, behind]
  rw [decodePoolDesc, AnnouncePool.bytes, List.append_assoc, entered, value_bind]
  simp (disch := decide) only [AnnouncePool.block, List.append_assoc, read_here, read_behind, width_uint16,
    width_uint32, Nat.reduceSub, value_bind, decodeVarData_dataBytes _ _ small]
  rfl

namespace ShmPoolAnnounce

/-- This is what the receiver shall see. -/
def view (announce : ShmPoolAnnounce) : ShmPoolAnnounceView where
  streamId := announce.streamId
  producerId := announce.producerId
  epoch := announce.epoch
  announceTimestampNs := announce.announceTimestampNs
  layoutVersion := announce.layoutVersion
  headerNslots := announce.headerNslots
  headerSlotBytes := announce.headerSlotBytes
  announceClockDomain := announce.announceClockDomain
  pools := announce.pools.map AnnouncePool.view
  headerRegionUri := string announce.headerRegionUri

/-- The block of an announce, its pools and its URI are decoded to what the receiver shall see. -/
theorem decode_block {announce : ShmPoolAnnounce} (known : announce.announceClockDomain ∈ clockDomains)
    (few : announce.pools.length < 2 ^ 16) (header : (string announce.headerRegionUri).length < 2 ^ 32)
    (small : ∀ pool ∈ announce.pools, (string pool.regionUri).length < 2 ^ 32) :
    decodeShmPoolAnnounce true
        (messageHeader.encode codec.header ++ (announce.block ++ (groupBytes poolsBlockLength announce.pools.length ++
          (announce.pools.flatMap AnnouncePool.bytes ++ dataBytes (string announce.headerRegionUri))))) =
      value announce.view := by
  have behind := @behindBlock_sent Refusal codec announce.block
    (groupBytes poolsBlockLength announce.pools.length ++
      (announce.pools.flatMap AnnouncePool.bytes ++ dataBytes (string announce.headerRegionUri))) rfl
  have pools := entries_flatMap AnnouncePool.bytes AnnouncePool.view announce.pools
    (fun pool member rest => decodePoolDesc_bytes (small pool member) rest)
    (dataBytes (string announce.headerRegionUri))
  have last (error : Refusal) := @decodeVarData_dataBytes Refusal error _ [] header
  have short : poolsBlockLength < 2 ^ 16 := by decide
  have allocated : ¬ (0 < announce.pools.length ∧ true = false) := fun both => Bool.false_ne_true both.2.symm
  simp only [List.append_nil] at last
  rw [decodeShmPoolAnnounce, openMessage_sent, value_bind, behind]
  simp (disch := decide) only [block, List.append_assoc, read_here, read_behind, width_messageHeader, width_uint8,
    width_uint32, width_uint64, Nat.reduceSub, value_bind, stopIf_pass (not_not.mpr known),
    checkedGroup_groupBytes _ _ _ short few, stopIf_pass allocated, pools, last]
  rfl

end ShmPoolAnnounce

/-- A step behind the last entry of the dimensions is refused. -/
theorem putEntries_few {α : Type} {size blockLength allowed : Nat} {refusal : Refusal}
    {put : List UInt8 → α → List UInt8} {items : List α} {written bytes : List UInt8}
    (done : putEntries size blockLength refusal put allowed items written = .ok bytes) : items.length ≤ allowed := by
  induction items generalizing allowed written with
  | nil => exact Nat.zero_le _
  | cons item items hypothesis =>
      cases allowed with
      | zero => cases done
      | succ allowed =>
          rw [putEntries] at done
          split at done
          · cases done
          · exact Nat.succ_le_succ (hypothesis done)

theorem length_block (announce : ShmPoolAnnounce) : announce.block.length = 35 := rfl

/-- Pools take room for their blocks, their lengths and their URIs. -/
theorem length_poolBytes (pools : List AnnouncePool) :
    (pools.flatMap AnnouncePool.bytes).length =
      (pools.map fun pool => 10 + 4 + (string pool.regionUri).length).sum := by
  induction pools with
  | nil => rfl
  | cons pool rest hypothesis =>
      have length : pool.bytes.length = 10 + 4 + (string pool.regionUri).length := by
        rw [AnnouncePool.bytes, List.length_append, length_dataBytes]
        change 10 + _ = _
        omega
      rw [List.flatMap_cons, List.length_append, hypothesis, length]
      rfl

theorem putPool_block (pool : AnnouncePool) : ShmPoolAnnounce.poolsBlockLength ≤ pool.bytes.length := by
  rw [AnnouncePool.bytes, List.length_append]
  exact Nat.le_add_right _ _

/-- A pool that fits is put as a whole. -/
theorem putPool_fits {size : Nat} {pool : AnnouncePool} {written : List UInt8}
    (room : written.length + pool.bytes.length ≤ size) :
    putData size (string pool.regionUri) (written ++ pool.block) = written ++ pool.bytes := by
  rw [AnnouncePool.bytes, List.length_append, length_dataBytes] at room
  rw [putData_fits, AnnouncePool.bytes, List.append_assoc]
  rw [List.length_append]
  omega

/-- An announce that fits its buffer is put as a whole. -/
theorem putAnnounce_bytes {size : Nat} {wrapRefusal nextRefusal : Refusal} {announce : ShmPoolAnnounce}
    {bytes : List UInt8} (put : putAnnounce size wrapRefusal nextRefusal announce = .ok bytes)
    (fits : announceSize announce ≤ size) :
    announce.pools.length < 2 ^ 16 ∧
      bytes = messageHeader.encode ShmPoolAnnounce.codec.header ++ (announce.block ++
        (groupBytes ShmPoolAnnounce.poolsBlockLength announce.pools.length ++
          (announce.pools.flatMap AnnouncePool.bytes ++ dataBytes (string announce.headerRegionUri)))) := by
  have total : 51 + (string announce.headerRegionUri).length + (announce.pools.flatMap AnnouncePool.bytes).length ≤
      size := by
    rw [length_poolBytes]
    exact fits
  unfold putAnnounce at put
  dsimp only at put
  split at put
  · cases put
  next opened grouped =>
    unfold putGroup at grouped
    split at grouped
    next room =>
      cases grouped
      have head : (messageHeader.encode ShmPoolAnnounce.codec.header ++ announce.block ++
          groupBytes ShmPoolAnnounce.poolsBlockLength announce.pools.length).length = 47 := by
        rw [List.length_append, List.length_append, messageHeader.length_encode, length_block, length_groupBytes]
        rfl
      have few : announce.pools.length ≤ announce.pools.length % 2 ^ 16 := by
        cases entered : putEntries size ShmPoolAnnounce.poolsBlockLength nextRefusal
            (fun written pool => putData size (string pool.regionUri) (written ++ pool.block))
            (announce.pools.length % 2 ^ 16) announce.pools (messageHeader.encode ShmPoolAnnounce.codec.header ++
              announce.block ++ groupBytes ShmPoolAnnounce.poolsBlockLength announce.pools.length) with
        | error refusal =>
            rw [entered] at put
            cases put
        | ok filled => exact putEntries_few entered
      have whole := @putEntries_fits _ size ShmPoolAnnounce.poolsBlockLength _ nextRefusal
        (fun written pool => putData size (string pool.regionUri) (written ++ pool.block)) AnnouncePool.bytes
        announce.pools (messageHeader.encode ShmPoolAnnounce.codec.header ++ announce.block ++
          groupBytes ShmPoolAnnounce.poolsBlockLength announce.pools.length) few
        (fun pool _ => putPool_block pool) (by omega) fun pool _ written room => putPool_fits room
      rw [whole] at put
      cases put
      refine ⟨Nat.lt_of_le_of_lt few (Nat.mod_lt _ (by decide)), ?_⟩
      rw [putData_fits (by rw [List.length_append]; omega)]
      simp only [List.append_assoc]
    · cases grouped

/-- A sender of the control plane encodes one of these, and the driver has an encoder of its own for its announces. -/
inductive ControlMessage where
  | consumerHello (hello : ConsumerHello)
  | consumerConfig (config : ConsumerConfig)
  | dataSourceAnnounce (announce : DataSourceAnnounce)
  | shmPoolAnnounce (announce : ShmPoolAnnounce)
  | driverAnnounce (announce : Driver.PoolAnnounce)
  | dataSourceMeta (message : DataSourceMeta)

inductive ControlView where
  | consumerHello (view : ConsumerHelloView)
  | consumerConfig (view : ConsumerConfigView)
  | dataSourceAnnounce (view : DataSourceAnnounceView)
  | shmPoolAnnounce (view : ShmPoolAnnounceView)
  | dataSourceMeta (view : DataSourceMetaView)
  deriving DecidableEq, Repr

namespace ControlMessage

/-- These are the bytes that the sender of the message offers. -/
def encode : ControlMessage → Except Refusal (List UInt8)
  | consumerHello hello => encodeConsumerHello hello
  | consumerConfig config => .ok (encodeConsumerConfig config)
  | dataSourceAnnounce announce => .ok (encodeDataSourceAnnounce announce)
  | shmPoolAnnounce announce => encodeShmPoolAnnounce announce
  | driverAnnounce announce => encodeDriverAnnounce announce
  | dataSourceMeta message => encodeDataSourceMeta message

/-- This is the decoder that matches the message; its allocation succeeds, and it has a callback for attributes. -/
def decode (bytes : List UInt8) : ControlMessage → Scan Refusal ControlView
  | consumerHello _ => do
      let view ← decodeConsumerHello bytes
      value (.consumerHello view)
  | consumerConfig _ => do
      let view ← decodeConsumerConfig bytes
      value (.consumerConfig view)
  | dataSourceAnnounce _ => do
      let view ← decodeDataSourceAnnounce bytes
      value (.dataSourceAnnounce view)
  | shmPoolAnnounce _ | driverAnnounce _ => do
      let view ← decodeShmPoolAnnounce true bytes
      value (.shmPoolAnnounce view)
  | dataSourceMeta _ => do
      let view ← (decodeDataSourceMeta true bytes).mapStop Prod.fst
      value (.dataSourceMeta view)

/-- This is what the receiver shall see of the message. -/
def view : ControlMessage → ControlView
  | consumerHello hello => .consumerHello hello.view
  | consumerConfig config => .consumerConfig config.view
  | dataSourceAnnounce announce => .dataSourceAnnounce announce.view
  | shmPoolAnnounce announce => .shmPoolAnnounce announce.view
  | driverAnnounce announce => .shmPoolAnnounce (Wire.driverAnnounce announce).view
  | dataSourceMeta message => .dataSourceMeta message.view

/-- The texts fit the buffer of the sender; where the buffer is allocated they fit their lengths. -/
def Fits : ControlMessage → Prop
  | consumerHello hello => 47 + textsSize hello.texts ≤ 512
  | consumerConfig config => 26 + textsSize config.texts ≤ 512
  | dataSourceAnnounce announce => 28 + textsSize announce.texts ≤ 512
  | shmPoolAnnounce announce => (string announce.headerRegionUri).length < 2 ^ 32 ∧
      ∀ pool ∈ announce.pools, (string pool.regionUri).length < 2 ^ 32
  | driverAnnounce announce => announceSize (Wire.driverAnnounce announce) ≤ Driver.bufferLength
  | dataSourceMeta message => 28 + (message.attributes.map fun item => textsSize item.texts).sum ≤ 2048

/-- The enumerations of the message have values of the schema. -/
def Known : ControlMessage → Prop
  | consumerHello hello => hello.Known
  | consumerConfig config => config.Known
  | shmPoolAnnounce announce => announce.announceClockDomain ∈ clockDomains
  | dataSourceAnnounce _ | driverAnnounce _ | dataSourceMeta _ => True

variable {bytes : List UInt8}

/-- A hello with fitting texts and known enumerations is received as it was sent. -/
theorem consumerHello_roundTrip {hello : ConsumerHello} (encoded : encodeConsumerHello hello = .ok bytes)
    (fits : 47 + textsSize hello.texts ≤ 512) (known : hello.Known) :
    decodeConsumerHello bytes = value hello.view := by
  unfold encodeConsumerHello at encoded
  split at encoded
  · cases encoded
  · split at encoded
    · cases encoded
    · cases encoded
      have small := @textsSize_small hello.texts 512 (by omega) (by decide)
      rw [putTexts_fits (by exact fits), List.append_assoc]
      exact ConsumerHello.decode_block known small

/-- A configuration with fitting texts and known enumerations is received as it was sent. -/
theorem consumerConfig_roundTrip {config : ConsumerConfig} (fits : 26 + textsSize config.texts ≤ 512)
    (known : config.Known) : decodeConsumerConfig (encodeConsumerConfig config) = value config.view := by
  have small := @textsSize_small config.texts 512 (by omega) (by decide)
  rw [encodeConsumerConfig, putTexts_fits (by exact fits), List.append_assoc]
  exact ConsumerConfig.decode_block known small

/-- A source announce with fitting texts is received as it was sent. -/
theorem dataSourceAnnounce_roundTrip {announce : DataSourceAnnounce} (fits : 28 + textsSize announce.texts ≤ 512) :
    decodeDataSourceAnnounce (encodeDataSourceAnnounce announce) = value announce.view := by
  have small := @textsSize_small announce.texts 512 (by omega) (by decide)
  rw [encodeDataSourceAnnounce, putTexts_fits (by exact fits), List.append_assoc]
  exact DataSourceAnnounce.decode_block small

/-- Both encoders of an announce put what its decoder reads. -/
theorem putAnnounce_roundTrip {size : Nat} {wrapRefusal nextRefusal : Refusal} {announce : ShmPoolAnnounce}
    (put : putAnnounce size wrapRefusal nextRefusal announce = .ok bytes) (fits : announceSize announce ≤ size)
    (known : announce.announceClockDomain ∈ clockDomains) (header : (string announce.headerRegionUri).length < 2 ^ 32)
    (small : ∀ pool ∈ announce.pools, (string pool.regionUri).length < 2 ^ 32) :
    decodeShmPoolAnnounce true bytes = value announce.view := by
  obtain ⟨few, rfl⟩ := putAnnounce_bytes put fits
  exact ShmPoolAnnounce.decode_block known few header small

/-- Attributes take room for their lengths and their texts. -/
theorem length_attributeBytes (items : List MetaAttribute) :
    (items.flatMap MetaAttribute.bytes).length = (items.map fun item => textsSize item.texts).sum := by
  induction items with
  | nil => rfl
  | cons item rest hypothesis =>
      rw [List.flatMap_cons, List.length_append, hypothesis, MetaAttribute.bytes, length_textBytes]
      rfl

/-- Each attribute takes room for the lengths of its three texts. -/
theorem attributes_few (items : List MetaAttribute) :
    12 * items.length ≤ (items.map fun item => textsSize item.texts).sum := by
  induction items with
  | nil => exact Nat.le_refl _
  | cons item rest hypothesis =>
      have own : 12 ≤ textsSize item.texts := by
        simp only [textsSize, MetaAttribute.texts, List.map_cons, List.map_nil, List.sum_cons, List.sum_nil]
        omega
      rw [List.length_cons, List.map_cons, List.sum_cons]
      omega

/-- A source description with fitting attributes is received as it was sent. -/
theorem dataSourceMeta_roundTrip {message : DataSourceMeta} (encoded : encodeDataSourceMeta message = .ok bytes)
    (fits : 28 + (message.attributes.map fun item => textsSize item.texts).sum ≤ 2048) :
    decodeDataSourceMeta true bytes = value message.view := by
  have few := attributes_few message.attributes
  have count : message.attributes.length % 2 ^ 16 = message.attributes.length := Nat.mod_eq_of_lt (by omega)
  have head : (messageHeader.encode DataSourceMeta.codec.header ++ message.block).length = 24 := rfl
  have opened : (messageHeader.encode DataSourceMeta.codec.header ++ message.block ++
      groupBytes DataSourceMeta.attributesBlockLength message.attributes.length).length = 28 := by
    rw [List.length_append, head, length_groupBytes]
  have small : ∀ item ∈ message.attributes, textsSize item.texts ≤ 2048 := by
    intro item member
    have part : textsSize item.texts ≤ (message.attributes.map fun item => textsSize item.texts).sum :=
      List.le_sum_of_mem (List.mem_map_of_mem member)
    omega
  have whole := @putEntries_fits _ 2048 DataSourceMeta.attributesBlockLength message.attributes.length ⟨-1, none⟩
    (fun written item => putTexts 2048 item.texts written) MetaAttribute.bytes message.attributes
    (messageHeader.encode DataSourceMeta.codec.header ++ message.block ++
      groupBytes DataSourceMeta.attributesBlockLength message.attributes.length) (Nat.le_refl _)
    (fun _ _ => Nat.zero_le _) (by rw [opened, length_attributeBytes]; exact fits)
    fun item _ written room => putTexts_fits (by rwa [MetaAttribute.bytes, length_textBytes] at room)
  unfold encodeDataSourceMeta putGroup at encoded
  dsimp only at encoded
  rw [if_pos ⟨by omega, by rw [head]; decide⟩, count] at encoded
  dsimp only at encoded
  rw [whole] at encoded
  cases encoded
  simp only [List.append_assoc]
  exact DataSourceMeta.decode_block (by omega) fun item member => textsSize_small (small item member) (by decide)

/-- What a sender encodes is decoded to the same fields, pools and attributes. -/
theorem controlMessage_roundTrip {message : ControlMessage} (encoded : message.encode = .ok bytes)
    (fits : message.Fits) (known : message.Known) : message.decode bytes = value message.view := by
  cases message with
  | consumerHello hello =>
      rw [decode, consumerHello_roundTrip encoded fits known]
      rfl
  | consumerConfig config =>
      cases encoded
      rw [decode, consumerConfig_roundTrip fits known]
      rfl
  | dataSourceAnnounce announce =>
      cases encoded
      rw [decode, dataSourceAnnounce_roundTrip fits]
      rfl
  | shmPoolAnnounce announce =>
      rw [encode, encodeShmPoolAnnounce] at encoded
      split at encoded
      · cases encoded
      · split at encoded
        · cases encoded
        · rw [decode, putAnnounce_roundTrip encoded (Nat.le_refl _) known fits.1 fits.2]
          rfl
  | driverAnnounce announce =>
      have total : 51 + (string (Wire.driverAnnounce announce).headerRegionUri).length +
          ((Wire.driverAnnounce announce).pools.map fun pool => 10 + 4 + (string pool.regionUri).length).sum ≤ 2048 :=
        fits
      have small : ∀ pool ∈ (Wire.driverAnnounce announce).pools, (string pool.regionUri).length < 2 ^ 32 := by
        intro pool member
        have part : 10 + 4 + (string pool.regionUri).length ≤
            ((Wire.driverAnnounce announce).pools.map fun pool => 10 + 4 + (string pool.regionUri).length).sum :=
          List.le_sum_of_mem (List.mem_map_of_mem member)
        omega
      have monotonic : (Wire.driverAnnounce announce).announceClockDomain ∈ clockDomains := List.mem_cons_self
      rw [decode, putAnnounce_roundTrip encoded fits monotonic (by omega) small]
      rfl
  | dataSourceMeta message =>
      rw [decode, dataSourceMeta_roundTrip encoded fits]
      rfl

def ipc : Text := [97, 101, 114, 111, 110, 58, 105, 112, 99]

def plainHello : ConsumerHello := ⟨7, 1, 1, 0, 1, 0, 1, nullU32, 65536, nullU32, 1100, 0, some ipc, none⟩

def oddHello : ConsumerHello := { plainHello with supportsShm := 2 }

def pagedAnnounce : ShmPoolAnnounce :=
  ⟨7, 4, 5, 90, 1, 1, 64, 256, some (ipc ++ [0, 47]), [⟨1, 64, 4096, some ipc⟩, ⟨2, 64, 65536, none⟩]⟩

def namedMeta : DataSourceMeta := ⟨7, 3, 90, [⟨ipc, [], [1, 0, 2]⟩, ⟨[107, 101, 121], ipc, []⟩]⟩

theorem controlMessage_roundTrip_plain :
    (∃ bytes, (consumerHello plainHello).encode = .ok bytes ∧
      (consumerHello plainHello).decode bytes = value (consumerHello plainHello).view) ∧
    (∃ bytes, (shmPoolAnnounce pagedAnnounce).encode = .ok bytes ∧
      (shmPoolAnnounce pagedAnnounce).decode bytes = value (shmPoolAnnounce pagedAnnounce).view) ∧
    ∃ bytes, (dataSourceMeta namedMeta).encode = .ok bytes ∧
      (dataSourceMeta namedMeta).decode bytes = value (dataSourceMeta namedMeta).view :=
  ⟨⟨_, rfl, controlMessage_roundTrip rfl (show 47 + textsSize plainHello.texts ≤ 512 by decide)
      ⟨by decide, by decide, by decide⟩⟩,
    ⟨_, rfl, controlMessage_roundTrip rfl ⟨by decide, by decide⟩
      (show pagedAnnounce.announceClockDomain ∈ clockDomains by decide)⟩,
    ⟨_, rfl, controlMessage_roundTrip rfl
      (show 28 + (namedMeta.attributes.map fun item => textsSize item.texts).sum ≤ 2048 by decide) trivial⟩⟩

/-- A truth value that is neither 0 nor 1 is sent but not received. -/
theorem odd_truth_refused : ∃ bytes, (consumerHello oddHello).encode = .ok bytes ∧ (consumerHello oddHello).Fits ∧
    (consumerHello oddHello).decode bytes =
      stop ⟨-1, some "tp_control_decode_consumer_hello: invalid supportsShm"⟩ :=
  ⟨_, rfl, show 47 + textsSize oddHello.texts ≤ 512 by decide, by decide⟩

end ControlMessage

end TensorPool.Wire
