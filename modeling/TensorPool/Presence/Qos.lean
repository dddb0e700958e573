/-
This file encodes the quality reports of producers and consumers and follows them through the poller.
-/

import TensorPool.Library.ExactField
import TensorPool.Wire.Decode

namespace TensorPool.Presence

open Scan Flyweight FixedField
open Wire (modes)

/-- These are the fields of a producer's report. -/
structure QosProducer where
  streamId : UInt32
  producerId : UInt32
  epoch : UInt64
  currentSeq : UInt64
  watermark : UInt32
  deriving DecidableEq, Repr

/-- These are the fields of a consumer's report. -/
structure QosConsumer where
  streamId : UInt32
  consumerId : UInt32
  epoch : UInt64
  lastSeqSeen : UInt64
  dropsGap : UInt64
  dropsLate : UInt64
  mode : UInt8
  deriving DecidableEq, Repr

namespace QosProducer

def codec : Wire.Codec := Wire.codec 6 28

def block : FixedField QosProducer :=
  (uint32.pair (uint32.pair (uint64.pair (uint64.pair uint32)))).via
    (fun qos => (qos.streamId, qos.producerId, qos.epoch, qos.currentSeq, qos.watermark))
    (fun fields => ⟨fields.1, fields.2.1, fields.2.2.1, fields.2.2.2.1, fields.2.2.2.2⟩) fun _ => rfl

end QosProducer

namespace QosConsumer

def codec : Wire.Codec := Wire.codec 5 41

def block : FixedField QosConsumer :=
  (uint32.pair (uint32.pair (uint64.pair (uint64.pair (uint64.pair (uint64.pair uint8)))))).via
    (fun qos => (qos.streamId, qos.consumerId, qos.epoch, qos.lastSeqSeen, qos.dropsGap, qos.dropsLate, qos.mode))
    (fun fields => ⟨fields.1, fields.2.1, fields.2.2.1, fields.2.2.2.1, fields.2.2.2.2.1, fields.2.2.2.2.2.1,
      fields.2.2.2.2.2.2⟩) fun _ => rfl

/-- A mode that the schema does not know is null. -/
def known (qos : QosConsumer) : QosConsumer := { qos with mode := if qos.mode ∈ modes then qos.mode else 255 }

end QosConsumer

/-- These are the bytes that `tp_qos_publish_producer` offers. -/
def publishProducer (qos : QosProducer) : List UInt8 :=
  messageHeader.encode QosProducer.codec.header ++ QosProducer.block.encode qos

/-- These are the bytes that `tp_qos_publish_consumer` offers. -/
def publishConsumer (qos : QosConsumer) : List UInt8 :=
  messageHeader.encode QosConsumer.codec.header ++ QosConsumer.block.encode qos

/-- This is `tp_qos_event_t`. -/
inductive QosEvent where
  | producer (qos : QosProducer)
  | consumer (qos : QosConsumer)
  deriving DecidableEq, Repr

/-- This is `tp_qos_poller_handler`; it checks neither the version nor the length of the block. -/
def qosPollerHandler (bytes : List UInt8) : Scan Unit QosEvent := do
  stopIf (bytes.length < messageHeader.width) ()
  let header ← read messageHeader 0 bytes
  stopIf (header.schemaId ≠ QosProducer.codec.schemaId) ()
  if header.templateId = QosProducer.codec.templateId then
    let qos ← read QosProducer.block messageHeader.width bytes
    value (.producer qos)
  else if header.templateId = QosConsumer.codec.templateId then
    let qos ← read QosConsumer.block messageHeader.width bytes
    value (.consumer qos.known)
  else stop ()

/-- A fragment with a header of the control schema is read by its template. -/
theorem qosPollerHandler_opened {header : Header} {rest : List UInt8}
    (schema : header.schemaId = QosProducer.codec.schemaId) :
    qosPollerHandler (messageHeader.encode header ++ rest) =
      if header.templateId = QosProducer.codec.templateId then
        read QosProducer.block 0 rest >>= fun qos => value (.producer qos)
      else if header.templateId = QosConsumer.codec.templateId then
        read QosConsumer.block 0 rest >>= fun qos => value (.consumer qos.known)
      else stop () := by
  have long : ¬ (messageHeader.encode header ++ rest).length < messageHeader.width := by
    rw [List.length_append, messageHeader.length_encode]
    omega
  have behind {α : Type} (block : FixedField α) :
    (read block messageHeader.width (messageHeader.encode header ++ rest) :
      Scan Unit α) = read block 0 rest := by
    rw [read_behind block messageHeader header rest (Nat.le_refl _), Nat.sub_self]
  rw [qosPollerHandler, stopIf_pass long, value_bind, read_here, value_bind, stopIf_pass (not_not.mpr schema),
    value_bind, behind, behind]

/-- A report of a producer is read as it was sent. -/
theorem publishProducer_heard (qos : QosProducer) :
    qosPollerHandler (publishProducer qos) = value (.producer qos) := by
  have here : (read QosProducer.block 0 (QosProducer.block.encode qos) : Scan Unit QosProducer) = value qos := by
    simpa using read_here QosProducer.block qos []
  have named : QosProducer.codec.header.templateId = QosProducer.codec.templateId := rfl
  rw [publishProducer, qosPollerHandler_opened rfl, if_pos named, here, value_bind]

/-- A report of a consumer is read as it was sent, where its mode is one of the schema. -/
theorem publishConsumer_heard (qos : QosConsumer) :
    qosPollerHandler (publishConsumer qos) = value (.consumer qos.known) := by
  have here : (read QosConsumer.block 0 (QosConsumer.block.encode qos) : Scan Unit QosConsumer) = value qos := by
    simpa using read_here QosConsumer.block qos []
  have named : QosConsumer.codec.header.templateId = QosConsumer.codec.templateId := rfl
  rw [publishConsumer, qosPollerHandler_opened rfl, if_neg (by decide), if_pos named, here, value_bind]

end TensorPool.Presence
