/-
This file encodes the requests of the driver client and follows them through the control fragments of the driver.
-/

import TensorPool.Driver.Run
import TensorPool.DriverClient.Notices
import TensorPool.Library.ExactField

namespace TensorPool.Protocol

open Scan Flyweight FixedField
open Driver (Op Role PublishMode HugepagesPolicy nullU32)
open DriverClient (schemaId schemaVersion)

/-- This is `tp_driver_attach_request_t`. -/
structure AttachRequest where
  correlationId : Int64
  streamId : UInt32
  clientId : UInt32
  role : UInt8
  expectedLayoutVersion : UInt32
  publishMode : UInt8
  requireHugepages : UInt8
  desiredNodeId : UInt32
  deriving DecidableEq, Repr

/-- These are the arguments of `tp_driver_detach`. -/
structure DetachRequest where
  correlationId : Int64
  leaseId : UInt64
  streamId : UInt32
  clientId : UInt32
  role : UInt8
  deriving DecidableEq, Repr

/-- These are the fields of a keepalive that the driver reads. -/
structure LeaseKeepalive where
  leaseId : UInt64
  streamId : UInt32
  clientId : UInt32
  role : UInt8
  deriving DecidableEq, Repr

namespace AttachRequest

def codec : Wire.Codec := DriverClient.codec 1 27

def block : FixedField AttachRequest :=
  (int64.pair (uint32.pair (uint32.pair (uint8.pair (uint32.pair (uint8.pair (uint8.pair uint32))))))).via
    (fun request => (request.correlationId, request.streamId, request.clientId, request.role,
      request.expectedLayoutVersion, request.publishMode, request.requireHugepages, request.desiredNodeId))
    (fun fields => ⟨fields.1, fields.2.1, fields.2.2.1, fields.2.2.2.1, fields.2.2.2.2.1, fields.2.2.2.2.2.1,
      fields.2.2.2.2.2.2.1, fields.2.2.2.2.2.2.2⟩) fun _ => rfl

/-- This is `tp_driver_attach_request_init`. -/
def init (streamId : UInt32) (role : UInt8) : AttachRequest where
  correlationId := 0
  streamId := streamId
  clientId := 0
  role := role
  expectedLayoutVersion := Driver.layoutVersion
  publishMode := 2
  requireHugepages := 0
  desiredNodeId := nullU32

end AttachRequest

namespace DetachRequest

def codec : Wire.Codec := DriverClient.codec 3 25

def block : FixedField DetachRequest :=
  (int64.pair (uint64.pair (uint32.pair (uint32.pair uint8)))).via
    (fun request => (request.correlationId, request.leaseId, request.streamId, request.clientId, request.role))
    (fun fields => ⟨fields.1, fields.2.1, fields.2.2.1, fields.2.2.2.1, fields.2.2.2.2⟩) fun _ => rfl

end DetachRequest

namespace LeaseKeepalive

def codec : Wire.Codec := DriverClient.codec 5 25

def block : FixedField LeaseKeepalive :=
  (uint64.pair (uint32.pair (uint32.pair uint8))).via
    (fun request => (request.leaseId, request.streamId, request.clientId, request.role))
    (fun fields => ⟨fields.1, fields.2.1, fields.2.2.1, fields.2.2.2⟩) fun _ => rfl

end LeaseKeepalive

/-- These are the bytes that `tp_driver_send_attach` offers. -/
def sendAttach (request : AttachRequest) : List UInt8 :=
  let desiredNodeId := if request.desiredNodeId = nullU32 then nullU32 else request.desiredNodeId
  messageHeader.encode AttachRequest.codec.header ++ AttachRequest.block.encode { request with desiredNodeId }

/-- These are the bytes that `tp_driver_detach` offers. -/
def sendDetach (request : DetachRequest) : List UInt8 :=
  messageHeader.encode DetachRequest.codec.header ++ DetachRequest.block.encode request

/-- These are the bytes that `tp_driver_keepalive` offers. -/
def sendKeepalive (request : LeaseKeepalive) (clientTimestampNs : UInt64) : List UInt8 :=
  messageHeader.encode LeaseKeepalive.codec.header ++
    (LeaseKeepalive.block.encode request ++ uint64.encode clientTimestampNs)

/-- The getter of an enumeration fails on a value that is not one of its values. -/
def getRole (value : UInt8) : Option Role :=
  if value = 1 then some .producer
  else if value = 2 then some .consumer
  else if value = 255 then some .nullValue
  else none

def getPublishMode (value : UInt8) : Option PublishMode :=
  if value = 1 then some .requireExisting
  else if value = 2 then some .existingOrCreate
  else if value = 255 then some .nullValue
  else none

def getHugepagesPolicy (value : UInt8) : Option HugepagesPolicy :=
  if value = 0 then some .unspecified
  else if value = 1 then some .standard
  else if value = 2 then some .hugepages
  else if value = 255 then some .nullValue
  else none

/-- What the handler of the driver reads from the block. -/
def AttachRequest.op (request : AttachRequest) : Op :=
  .attach
    { correlationId := request.correlationId.toInt
      streamId := request.streamId
      clientId := request.clientId
      role := getRole request.role
      expectedLayoutVersion := request.expectedLayoutVersion
      publishMode := getPublishMode request.publishMode
      requireHugepages := getHugepagesPolicy request.requireHugepages
      desiredNodeId := request.desiredNodeId }

def DetachRequest.op (request : DetachRequest) : Op :=
  .detach
    { correlationId := request.correlationId.toInt
      leaseId := request.leaseId
      streamId := request.streamId
      clientId := request.clientId
      role := getRole request.role }

def LeaseKeepalive.op (request : LeaseKeepalive) : Op :=
  .keepalive
    { leaseId := request.leaseId
      streamId := request.streamId
      clientId := request.clientId
      role := getRole request.role }

/-- A handler is called for a block of the right length; the other length is logged. -/
def handle {α : Type} (codec : Wire.Codec) (block : FixedField α) (op : α → Op) (warning : String) (header : Header)
    (bytes : List UInt8) : Scan (Option String) Op := do
  stopIf (header.blockLength ≠ codec.blockLength) (some warning)
  let request ← read block messageHeader.width bytes
  value (op request)

/-- The template of the header chooses the handler. -/
def dispatch (header : Header) (bytes : List UInt8) : Scan (Option String) Op :=
  if header.templateId = AttachRequest.codec.templateId then
    handle AttachRequest.codec AttachRequest.block AttachRequest.op "tp_driver: attach block length mismatch" header bytes
  else if header.templateId = DetachRequest.codec.templateId then
    handle DetachRequest.codec DetachRequest.block DetachRequest.op "tp_driver: detach block length mismatch" header bytes
  else if header.templateId = LeaseKeepalive.codec.templateId then
    handle LeaseKeepalive.codec LeaseKeepalive.block LeaseKeepalive.op "tp_driver: keepalive block length mismatch"
      header bytes
  else stop none

/-- This is `tp_driver_on_control_fragment`; it stops with its log text where it calls no handler. -/
def onControlFragment (bytes : List UInt8) : Scan (Option String) Op := do
  stopIf (bytes.length < messageHeader.width) none
  let header ← read messageHeader 0 bytes
  stopIf (header.schemaId ≠ schemaId ∨ schemaVersion < header.version) none
  dispatch header bytes

/-- A request that the driver handles. -/
inductive Request where
  | attach (request : AttachRequest)
  | detach (request : DetachRequest)
  | keepalive (request : LeaseKeepalive)
  deriving DecidableEq, Repr

namespace Request

def codec : Request → Wire.Codec
  | attach _ => AttachRequest.codec
  | detach _ => DetachRequest.codec
  | keepalive _ => LeaseKeepalive.codec

def op : Request → Op
  | attach request => request.op
  | detach request => request.op
  | keepalive request => request.op

/-- The part of the block that the handler reads. -/
def blockBytes : Request → List UInt8
  | attach request => AttachRequest.block.encode request
  | detach request => DetachRequest.block.encode request
  | keepalive request => LeaseKeepalive.block.encode request

/-- The front of a message of the given version. -/
def front (request : Request) (version : UInt16) : List UInt8 :=
  messageHeader.encode { request.codec.header with version } ++ request.blockBytes

end Request

/-- The block of an attach request is exact. -/
theorem exact_attach : Exact AttachRequest.block :=
  (exact_int64.pair (exact_uint32.pair (exact_uint32.pair (exact_uint8.pair (exact_uint32.pair (exact_uint8.pair
    (exact_uint8.pair exact_uint32))))))).via fun _ => rfl

/-- The block of a detach request is exact. -/
theorem exact_detach : Exact DetachRequest.block :=
  (exact_int64.pair (exact_uint64.pair (exact_uint32.pair (exact_uint32.pair exact_uint8)))).via fun _ => rfl

/-- The block of a keepalive is exact. -/
theorem exact_keepalive : Exact LeaseKeepalive.block :=
  (exact_uint64.pair (exact_uint32.pair (exact_uint32.pair exact_uint8))).via fun _ => rfl

section Handle

variable {α : Type} {codec : Wire.Codec} {block : FixedField α} {op : α → Op} {warning : String} {header : Header}
  {rest : List UInt8}

/-- A handler is called for a fragment that starts with its block. -/
theorem handle_eq_value (exact : block.Exact) {result : Op} :
    handle codec block op warning header (messageHeader.encode header ++ rest) = value result ↔
      header.blockLength = codec.blockLength ∧ ∃ request tail, rest = block.encode request ++ tail ∧
        op request = result := by
  simp only [handle, bind_eq_value, stopIf_eq_value, not_not, exact.read_iff, Scan.value.injEq]
  constructor
  · rintro ⟨_, length, request, ⟨front, tail, placed, split⟩, same⟩
    obtain ⟨-, behind⟩ := List.append_inj split (by rw [messageHeader.length_encode, placed])
    exact ⟨length, request, tail, behind, same⟩
  · rintro ⟨length, request, tail, rfl, same⟩
    exact ⟨(), length, request, ⟨_, tail, messageHeader.length_encode header, rfl⟩, same⟩

/-- A handler reads outside of a fragment that is shorter than its block. -/
theorem handle_eq_fault :
    handle codec block op warning header (messageHeader.encode header ++ rest) = fault ↔
      header.blockLength = codec.blockLength ∧ rest.length < block.width := by
  have short : (messageHeader.encode header ++ rest).length < messageHeader.width + block.width ↔
      rest.length < block.width := by
    rw [List.length_append, messageHeader.length_encode]
    omega
  rw [handle, ← short, ← read_eq_fault (ε := Option String)]
  by_cases length : header.blockLength = codec.blockLength
  · rw [stopIf_pass (not_not.mpr length), value_bind]
    cases read block messageHeader.width (messageHeader.encode header ++ rest) with
    | fault => simp [length]
    | stop error => simp
    | value request => simp
  · rw [stopIf, if_pos length]
    simp [length]

end Handle

/-- A fragment with a header of the driver's schema is dispatched. -/
theorem onControlFragment_opened {header : Header} {rest : List UInt8} (schema : header.schemaId = schemaId)
    (version : header.version ≤ schemaVersion) :
    onControlFragment (messageHeader.encode header ++ rest) =
      dispatch header (messageHeader.encode header ++ rest) := by
  have long : ¬ (messageHeader.encode header ++ rest).length < messageHeader.width := by
    rw [List.length_append, messageHeader.length_encode]
    omega
  have known : ¬ (header.schemaId ≠ schemaId ∨ schemaVersion < header.version) := by
    rw [not_or, not_not, UInt16.not_lt]
    exact ⟨schema, version⟩
  rw [onControlFragment, stopIf_pass long, value_bind, read_here, value_bind, stopIf_pass known, value_bind]

/-- Every other fragment is ignored. -/
theorem onControlFragment_cases (bytes : List UInt8) : onControlFragment bytes = stop none ∨
    ∃ header rest, bytes = messageHeader.encode header ++ rest ∧ header.schemaId = schemaId ∧
      header.version ≤ schemaVersion := by
  by_cases short : bytes.length < messageHeader.width
  · left
    rw [onControlFragment, stopIf, if_pos short, stop_bind]
  · cases opened : (read messageHeader 0 bytes : Scan (Option String) Header) with
    | fault =>
        rw [read_eq_fault] at opened
        omega
    | stop error => exact absurd opened read_ne_stop
    | value header =>
        by_cases known : header.schemaId ≠ schemaId ∨ schemaVersion < header.version
        · left
          rw [onControlFragment, stopIf_pass short, value_bind, opened, value_bind, stopIf, if_pos known, stop_bind]
        · right
          rw [not_or, not_not, UInt16.not_lt] at known
          obtain ⟨front, rest, start, split⟩ := exact_messageHeader.read_iff.mp opened
          rw [List.eq_nil_of_length_eq_zero start, List.nil_append] at split
          exact ⟨header, rest, split, known⟩

/-- The fields of a header are those of the codec, or the version differs. -/
theorem header_named {codec : Wire.Codec} {header : Header} (block : header.blockLength = codec.blockLength)
    (template : header.templateId = codec.templateId) (schema : header.schemaId = codec.schemaId) :
    header = { codec.header with version := header.version } := by
  obtain ⟨blockLength, templateId, schemaId, version⟩ := header
  cases block
  cases template
  cases schema
  rfl

/-- A request is dispatched to its handler with the fields that stand in its block. -/
theorem dispatch_eq_value {header : Header} {rest : List UInt8} {result : Op} (schema : header.schemaId = schemaId) :
    dispatch header (messageHeader.encode header ++ rest) = value result ↔
      ∃ (request : Request) (tail : List UInt8), header = { request.codec.header with version := header.version } ∧
        rest = request.blockBytes ++ tail ∧ request.op = result := by
  unfold dispatch
  split
  next template =>
    rw [handle_eq_value exact_attach]
    constructor
    · rintro ⟨length, request, tail, rfl, same⟩
      exact ⟨.attach request, tail, header_named length template schema, rfl, same⟩
    · rintro ⟨request, tail, named, rfl, same⟩
      rw [named] at template ⊢
      cases request with
      | attach request => exact ⟨rfl, request, tail, rfl, same⟩
      | detach request =>
          exact absurd template (by decide : DetachRequest.codec.templateId ≠ AttachRequest.codec.templateId)
      | keepalive request =>
          exact absurd template (by decide : LeaseKeepalive.codec.templateId ≠ AttachRequest.codec.templateId)
  next other =>
    split
    next template =>
      rw [handle_eq_value exact_detach]
      constructor
      · rintro ⟨length, request, tail, rfl, same⟩
        exact ⟨.detach request, tail, header_named length template schema, rfl, same⟩
      · rintro ⟨request, tail, named, rfl, same⟩
        rw [named] at template ⊢
        cases request with
        | attach request =>
            exact absurd template (by decide : AttachRequest.codec.templateId ≠ DetachRequest.codec.templateId)
        | detach request => exact ⟨rfl, request, tail, rfl, same⟩
        | keepalive request =>
            exact absurd template (by decide : LeaseKeepalive.codec.templateId ≠ DetachRequest.codec.templateId)
    next other' =>
      split
      next template =>
        rw [handle_eq_value exact_keepalive]
        constructor
        · rintro ⟨length, request, tail, rfl, same⟩
          exact ⟨.keepalive request, tail, header_named length template schema, rfl, same⟩
        · rintro ⟨request, tail, named, rfl, same⟩
          rw [named] at template ⊢
          cases request with
          | attach request =>
              exact absurd template (by decide : AttachRequest.codec.templateId ≠ LeaseKeepalive.codec.templateId)
          | detach request =>
              exact absurd template (by decide : DetachRequest.codec.templateId ≠ LeaseKeepalive.codec.templateId)
          | keepalive request => exact ⟨rfl, request, tail, rfl, same⟩
      next unknown =>
        constructor
        · intro stopped
          cases stopped
        · rintro ⟨request, tail, named, -, -⟩
          rw [named] at other other' unknown
          cases request with
          | attach request => exact absurd rfl other
          | detach request => exact absurd rfl other'
          | keepalive request => exact absurd rfl unknown

/-- The codecs of the handled requests, with the bytes of the block that the handler reads. -/
def handledBlocks : List (Wire.Codec × Nat) :=
  [(AttachRequest.codec, 27), (DetachRequest.codec, 25), (LeaseKeepalive.codec, 17)]

/-- The driver reads outside exactly when a handled block is cut off. -/
theorem dispatch_eq_fault {header : Header} {rest : List UInt8} (schema : header.schemaId = schemaId) :
    dispatch header (messageHeader.encode header ++ rest) = fault ↔
      ∃ handled ∈ handledBlocks, header = { handled.1.header with version := header.version } ∧
        rest.length < handled.2 := by
  simp only [handledBlocks, List.mem_cons, List.not_mem_nil, or_false, exists_eq_or_imp, exists_eq_left]
  have fault_iff {α : Type} {codec : Wire.Codec} {block : FixedField α} {op : α → Op} {warning : String}
      (template : header.templateId = codec.templateId) (driver : codec.schemaId = schemaId) :
      handle codec block op warning header (messageHeader.encode header ++ rest) = fault ↔
        header = { codec.header with version := header.version } ∧ rest.length < block.width := by
    rw [handle_eq_fault]
    refine and_congr_left fun _ => ⟨fun length => header_named length template (schema.trans driver.symm),
      fun named => ?_⟩
    rw [named]
    rfl
  have apart {codec : Wire.Codec} (other : header.templateId ≠ codec.templateId) :
      ¬ header = { codec.header with version := header.version } := by
    intro named
    rw [named] at other
    exact other rfl
  unfold dispatch
  split
  next template =>
    have second : ¬ header.templateId = DetachRequest.codec.templateId := by
      rw [template]
      decide
    have third : ¬ header.templateId = LeaseKeepalive.codec.templateId := by
      rw [template]
      decide
    simp only [fault_iff template rfl, apart second, apart third, false_and, or_false]
    rfl
  next first =>
    split
    next template =>
      have third : ¬ header.templateId = LeaseKeepalive.codec.templateId := by
        rw [template]
        decide
      simp only [fault_iff template rfl, apart first, apart third, false_and, or_false, false_or]
      rfl
    next second =>
      split
      next template =>
        simp only [fault_iff template rfl, apart first, apart second, false_and, false_or]
        rfl
      next third => simp [apart first, apart second, apart third]

/-- The driver acts exactly on the requests of its schema. -/
theorem onControlFragment_eq_value {bytes : List UInt8} {op : Op} : onControlFragment bytes = value op ↔
    ∃ (request : Request) (version : UInt16) (rest : List UInt8), version ≤ schemaVersion ∧
      bytes = request.front version ++ rest ∧ request.op = op := by
  have schema (request : Request) : request.codec.schemaId = schemaId := by
    cases request <;> rfl
  constructor
  · intro handled
    obtain ignored | ⟨header, rest, rfl, known, version⟩ := onControlFragment_cases bytes
    · rw [ignored] at handled
      cases handled
    · rw [onControlFragment_opened known version, dispatch_eq_value known] at handled
      obtain ⟨request, tail, named, rfl, same⟩ := handled
      refine ⟨request, header.version, tail, version, ?_, same⟩
      rw [Request.front, ← named, List.append_assoc]
  · rintro ⟨request, version, rest, bound, rfl, same⟩
    rw [Request.front, List.append_assoc, onControlFragment_opened (schema request) bound,
      dispatch_eq_value (schema request)]
    exact ⟨request, rest, rfl, rfl, same⟩

/-- The driver reads outside of a fragment exactly when a handled block is cut off. -/
theorem onControlFragment_eq_fault {bytes : List UInt8} : onControlFragment bytes = fault ↔
    ∃ handled ∈ handledBlocks, ∃ (version : UInt16) (rest : List UInt8), version ≤ schemaVersion ∧
      bytes = messageHeader.encode { handled.1.header with version } ++ rest ∧ rest.length < handled.2 := by
  have schema : ∀ handled ∈ handledBlocks, handled.1.schemaId = schemaId := by
    decide
  constructor
  · intro outside
    obtain ignored | ⟨header, rest, rfl, known, version⟩ := onControlFragment_cases bytes
    · rw [ignored] at outside
      cases outside
    · rw [onControlFragment_opened known version, dispatch_eq_fault known] at outside
      obtain ⟨handled, member, named, short⟩ := outside
      exact ⟨handled, member, header.version, rest, version, by rw [← named], short⟩
  · rintro ⟨handled, member, version, rest, bound, rfl, short⟩
    have known := schema handled member
    rw [onControlFragment_opened known bound, dispatch_eq_fault known]
    exact ⟨handled, member, rfl, short⟩

/-- Each request of a client is heard by the driver. -/
theorem sendAttach_heard (request : AttachRequest) : onControlFragment (sendAttach request) = value request.op := by
  rw [onControlFragment_eq_value]
  refine ⟨.attach request, schemaVersion, [], UInt16.le_refl _, ?_, rfl⟩
  rw [sendAttach, ite_eq_right_iff.mpr fun null => null.symm, List.append_nil]
  rfl

/-- A sent detach is heard as it was sent. -/
theorem sendDetach_heard (request : DetachRequest) : onControlFragment (sendDetach request) = value request.op := by
  rw [onControlFragment_eq_value]
  refine ⟨.detach request, schemaVersion, [], UInt16.le_refl _, ?_, rfl⟩
  rw [sendDetach, List.append_nil]
  rfl

/-- A sent keepalive is heard as it was sent. -/
theorem sendKeepalive_heard (request : LeaseKeepalive) (clientTimestampNs : UInt64) :
    onControlFragment (sendKeepalive request clientTimestampNs) = value request.op := by
  rw [onControlFragment_eq_value]
  refine ⟨.keepalive request, schemaVersion, uint64.encode clientTimestampNs, UInt16.le_refl _, ?_, rfl⟩
  rw [sendKeepalive, Request.front, List.append_assoc]
  rfl

/--
The driver handles exactly the fragments that start with a request, with the fields that stand there, it reads
outside of a fragment exactly where the block of a request is cut short, and it hears every request of a client.
-/
theorem onControlFragment_handles :
    (∀ bytes op, onControlFragment bytes = value op ↔ ∃ (request : Request) (version : UInt16) (rest : List UInt8),
      version ≤ schemaVersion ∧ bytes = request.front version ++ rest ∧ request.op = op) ∧
    (∀ bytes, onControlFragment bytes = fault ↔ ∃ handled ∈ handledBlocks, ∃ (version : UInt16) (rest : List UInt8),
      version ≤ schemaVersion ∧ bytes = messageHeader.encode { handled.1.header with version } ++ rest ∧
        rest.length < handled.2) ∧
    (∀ request, onControlFragment (sendAttach request) = value request.op) ∧
    (∀ request, onControlFragment (sendDetach request) = value request.op) ∧
    ∀ request clientTimestampNs, onControlFragment (sendKeepalive request clientTimestampNs) = value request.op :=
  ⟨fun _ _ => onControlFragment_eq_value, fun _ => onControlFragment_eq_fault, sendAttach_heard, sendDetach_heard,
    sendKeepalive_heard⟩

end TensorPool.Protocol
