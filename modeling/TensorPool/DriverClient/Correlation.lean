/-
This file shows what the decoders of a driver client do with a response to another request.
-/

import TensorPool.DriverClient.Poll

namespace TensorPool.DriverClient

open Scan Flyweight FixedField
open Discovery (Refusal)

/-- The header names a message of the driver with the given template. -/
def names (templateId : UInt16) (bytes : List UInt8) : Bool :=
  messageHeader.width ≤ bytes.length && (messageHeader.decode bytes).schemaId == schemaId &&
    (messageHeader.decode bytes).templateId == templateId

/-- The correlation id stands at the start of the block. -/
def correlates (correlationId : Int64) (bytes : List UInt8) : Bool := int64.decode (bytes.drop 8) == correlationId

/-- The fragment is the attach response, or the detach response, to the request with the id. -/
def answersAttach (correlationId : Int64) (bytes : List UInt8) : Bool :=
  names AttachResponse.templateId bytes && correlates correlationId bytes

def answersDetach (correlationId : Int64) (bytes : List UInt8) : Bool :=
  names DetachResponse.templateId bytes && correlates correlationId bytes

/-- The version or the block length of the message is not the one of the codec. -/
def otherCodec (blockLength : UInt16) (bytes : List UInt8) : Bool :=
  schemaVersion < (messageHeader.decode bytes).version || (messageHeader.decode bytes).blockLength != blockLength

/-- The fragment has no header, or it is an attach response that the decoder reports as an error. -/
def undecodable (correlationId : Int64) (bytes : List UInt8) : Bool :=
  bytes.length < messageHeader.width ||
    names AttachResponse.templateId bytes &&
      (otherCodec AttachResponse.blockLength bytes ||
        correlates correlationId bytes && !knownCodes.contains (int32.decode (bytes.drop 16)))

/-- The fragment is a detach response to the request of another client, and its codec is known. -/
def foreignDetach (correlationId : Int64) (bytes : List UInt8) : Bool :=
  names DetachResponse.templateId bytes && !otherCodec DetachResponse.blockLength bytes &&
    !correlates correlationId bytes

/-- What a response tells: the lease and its regions, or the error. -/
def AttachInfo.outcome (info : AttachInfo) : AttachInfo :=
  if info.code = codeOk then { info with errorMessage := [] }
    else { code := info.code, errorMessage := info.errorMessage }

theorem AttachInfo.outcome_code (info : AttachInfo) : info.outcome.code = info.code := by
  unfold AttachInfo.outcome
  split <;> rfl

/-- The outcome of a decoded response. -/
def tell (decoded : Scan Refusal AttachInfo) : Scan Refusal AttachInfo := decoded >>= fun info => value info.outcome

section Outcome

variable {info other : AttachInfo}

theorem tell_value (info : AttachInfo) : tell (value info) = value info.outcome := rfl

/-- The same scan in front of both does not matter. -/
theorem tell_bind {α : Type} {scan : Scan Refusal α} {next next' : α → Scan Refusal AttachInfo}
    (same : ∀ result, tell (next result) = tell (next' result)) : tell (scan >>= next) = tell (scan >>= next') := by
  cases scan with
  | fault => rfl
  | stop error => rfl
  | value result => exact same result

/-- A header URI is decoded alike where only the header URI and the error differ. -/
theorem tell_headerUri (block : info.toLeaseBlock = other.toLeaseBlock) (code : info.code = other.code)
    (granted : info.code = codeOk) (pools : info.pools = other.pools)
    (poolCount : info.poolCount = other.poolCount) (rest : List UInt8) :
    tell (decodeHeaderUri info rest) = tell (decodeHeaderUri other rest) := by
  obtain ⟨block', code', errorMessage, headerRegionUri, pools', poolCount'⟩ := info
  obtain ⟨block'', code'', errorMessage', headerRegionUri', pools'', poolCount''⟩ := other
  cases block
  cases code
  cases pools
  cases poolCount
  unfold decodeHeaderUri
  apply tell_bind
  intro found
  obtain ⟨length, uri, behind⟩ := found
  dsimp only at granted ⊢
  split
  · rfl
  · split
    · rfl
    · rw [tell_value, tell_value, AttachInfo.outcome, AttachInfo.outcome, if_pos granted, if_pos granted]

/-- The pools are decoded alike where the former pools, the header URI and the error differ. -/
theorem tell_pools (block : info.toLeaseBlock = other.toLeaseBlock) (code : info.code = other.code)
    (granted : info.code = codeOk) (allocates : Bool) (rest : List UInt8) :
    tell (decodePools allocates info rest) = tell (decodePools allocates other rest) := by
  obtain ⟨block', code', errorMessage, headerRegionUri, pools', poolCount'⟩ := info
  obtain ⟨block'', code'', errorMessage', headerRegionUri', pools'', poolCount''⟩ := other
  cases block
  cases code
  unfold decodePools
  apply tell_bind
  intro found
  obtain ⟨blockLength, count, behind⟩ := found
  dsimp only at granted ⊢
  split
  · rfl
  · split
    · rfl
    · split
      · rfl
      · rfl
      · apply tell_headerUri
        · rfl
        · rfl
        · exact granted
        · rfl
        · rfl

/-- What a grant tells does not depend on what was there before. -/
theorem tell_granted (code : info.code = other.code) (granted : info.code = codeOk) (allocates : Bool)
    (bytes : List UInt8) : tell (decodeGranted allocates info bytes) =
      tell (decodeGranted allocates other bytes) := by
  unfold decodeGranted
  apply tell_bind
  intro block
  dsimp only
  split
  · rfl
  · split
    · rfl
    · split
      · rfl
      · apply tell_pools
        · rfl
        · exact code
        · exact granted

/-- What a refusal tells does not depend on what was there before. -/
theorem tell_refused (code : info.code = other.code) (refused : info.code ≠ codeOk) (bytes : List UInt8) :
    tell (decodeRefused info bytes) = tell (decodeRefused other bytes) := by
  unfold decodeRefused
  apply tell_bind
  intro dimensions
  apply tell_bind
  intro uri
  apply tell_bind
  intro text
  rw [tell_value, tell_value, AttachInfo.outcome, AttachInfo.outcome]
  dsimp only
  rw [if_neg refused, if_neg (code ▸ refused), code]

/-- What a response tells does not depend on what the information held before. -/
theorem tell_response (allocates : Bool) (correlationId : Int64) (info other : AttachInfo) (bytes : List UInt8) :
    tell (decodeAttachResponse allocates correlationId info bytes) =
      tell (decodeAttachResponse allocates correlationId other bytes) := by
  unfold decodeAttachResponse
  iterate 9
    apply tell_bind
    intro result
  split
  next granted =>
    apply tell_granted
    · rfl
    · exact granted
  next refused =>
    apply tell_refused
    · rfl
    · exact refused

end Outcome

section Decoder

variable {allocates : Bool} {correlationId : Int64} {info : AttachInfo} {bytes : List UInt8}

/-- Two parts that do not stop do not stop together. -/
theorem bind_ne_stop {ε α β : Type} {scan : Scan ε α} {next : α → Scan ε β}
    (first : ∀ error, scan ≠ stop error) (second : ∀ result error, next result ≠ stop error) (error : ε) :
    (scan >>= next) ≠ stop error := by
  cases scan with
  | fault => simp
  | stop error' => exact absurd rfl (first error')
  | value result => exact second result error

/-- The reader of a group does not stop. -/
theorem group_ne_stop (rest : List UInt8) (error : Refusal) : group rest ≠ stop error := by
  unfold group
  cases first : (read uint16 0 rest : Scan Refusal UInt16) with
  | fault => simp
  | stop error' => exact absurd first read_ne_stop
  | value blockLength =>
      cases second : (read uint16 2 rest : Scan Refusal UInt16) with
      | fault => simp
      | stop error' => exact absurd second read_ne_stop
      | value count => simp

/-- The reader of a text does not stop. -/
theorem data_ne_stop {ε : Type} (rest : List UInt8) (error : ε) : data rest ≠ stop error := by
  unfold data
  cases first : (read uint32 0 rest : Scan ε UInt32) with
  | fault => simp
  | stop error' => exact absurd first read_ne_stop
  | value length =>
      rw [value_bind]
      split <;> simp

/-- The reader of the header URI does not stop. -/
theorem decodeHeaderUri_ne_stop (rest : List UInt8) (error : Refusal) : decodeHeaderUri info rest ≠ stop error := by
  unfold decodeHeaderUri
  apply bind_ne_stop
  · exact data_ne_stop _
  · intro text error'
    dsimp only
    split
    · simp
    · split <;> simp

/-- The reader of the pools does not stop. -/
theorem decodePools_ne_stop (rest : List UInt8) (error : Refusal) :
    decodePools allocates info rest ≠ stop error := by
  unfold decodePools
  apply bind_ne_stop
  · exact group_ne_stop _
  · intro found error'
    obtain ⟨blockLength, count, rest⟩ := found
    dsimp only
    split
    · simp
    · split
      · simp
      · split
        · simp
        · simp
        · exact decodeHeaderUri_ne_stop _ _

/-- Behind its root fields a response is never reported as an error. -/
theorem decodeGranted_ne_stop (error : Refusal) : decodeGranted allocates info bytes ≠ stop error := by
  unfold decodeGranted
  apply bind_ne_stop
  · intro error'
    exact read_ne_stop
  · intro block error'
    dsimp only
    split
    · simp
    · split
      · simp
      · split
        · simp
        · exact decodePools_ne_stop _ _

/-- The reader of a refusal does not stop. -/
theorem decodeRefused_ne_stop (error : Refusal) : decodeRefused info bytes ≠ stop error := by
  unfold decodeRefused
  apply bind_ne_stop
  · exact group_ne_stop _
  · intro dimensions
    apply bind_ne_stop
    · exact data_ne_stop _
    · intro uri
      apply bind_ne_stop
      · exact data_ne_stop _
      · intro text error'
        simp

/-- A response is decoded to a value only when it answers the request. -/
theorem decode_value {after : AttachInfo}
    (decoded : decodeAttachResponse allocates correlationId info bytes = value after) :
    answersAttach correlationId bytes = true := by
  unfold decodeAttachResponse at decoded
  simp only [bind_eq_value, stopIf_eq_value, read_eq_value, List.drop_zero, not_lt, not_or, not_not] at decoded
  obtain ⟨-, long, header, ⟨-, rfl⟩, -, ⟨schema, template⟩, -, -, -, -, answered, ⟨-, rfl⟩, -, own, -⟩ := decoded
  simp only [answersAttach, names, correlates, Bool.and_eq_true, decide_eq_true_eq, beq_iff_eq]
  exact ⟨⟨⟨long, schema⟩, template⟩, own⟩

/-- A response that can be decoded is reported as another one at most. -/
theorem decode_stop {refusal : Refusal} (clean : undecodable correlationId bytes = false)
    (decoded : decodeAttachResponse allocates correlationId info bytes = stop refusal) : refusal = ⟨1, none⟩ := by
  unfold decodeAttachResponse at decoded
  simp only [undecodable, Bool.or_eq_false_iff, decide_eq_false_iff_not] at clean
  obtain ⟨long, clean⟩ := clean
  have room : 0 + messageHeader.width ≤ bytes.length := by omega
  rw [stopIf_pass long, value_bind, Flyweight.read, if_pos room, value_bind, List.drop_zero] at decoded
  by_cases other : (messageHeader.decode bytes).schemaId ≠ schemaId ∨
      (messageHeader.decode bytes).templateId ≠ AttachResponse.templateId
  · rw [stopIf, if_pos other] at decoded
    cases decoded
    rfl
  · have named : names AttachResponse.templateId bytes = true := by
      simp only [not_or, not_not] at other
      simp only [names, Bool.and_eq_true, decide_eq_true_eq, beq_iff_eq]
      exact ⟨⟨by omega, other.1⟩, other.2⟩
    rw [named, Bool.true_and, Bool.or_eq_false_iff, otherCodec, Bool.or_eq_false_iff] at clean
    obtain ⟨⟨version, blockLength⟩, coded⟩ := clean
    rw [decide_eq_false_iff_not] at version
    rw [bne_eq_false_iff_eq] at blockLength
    rw [stopIf_pass other, value_bind, stopIf_pass version, value_bind, stopIf_pass (not_not.mpr blockLength),
      value_bind] at decoded
    cases answered : (read int64 8 bytes : Scan Refusal Int64) with
    | fault =>
        rw [answered] at decoded
        cases decoded
    | stop error => exact absurd answered read_ne_stop
    | value found =>
        have shown := (read_eq_value.mp answered).2
        rw [answered, value_bind] at decoded
        by_cases own : found = correlationId
        · rw [correlates, shown, beq_iff_eq.mpr own, Bool.true_and, Bool.not_eq_false'] at coded
          rw [stopIf_pass (not_not.mpr own), value_bind] at decoded
          cases coding : (read int32 16 bytes : Scan Refusal Int32) with
          | fault =>
              rw [coding] at decoded
              cases decoded
          | stop error => exact absurd coding read_ne_stop
          | value code =>
              have known : code ∈ knownCodes := by
                rw [← (read_eq_value.mp coding).2]
                exact List.contains_iff_mem.mp coded
              rw [coding, value_bind, stopIf_pass (not_not.mpr known), value_bind] at decoded
              dsimp only at decoded
              split at decoded
              · exact absurd decoded (decodeGranted_ne_stop _)
              · exact absurd decoded (decodeRefused_ne_stop _)
        · rw [stopIf, if_pos own] at decoded
          cases decoded
          rfl

end Decoder

namespace DetachInfo

variable {info other after : DetachInfo} {bytes : List UInt8} {correlationId : Int64}

/-- A detach response is decoded to a value only when the codec knows it, and the value holds its own id. -/
theorem decode_value (decoded : decodeDetachResponse info bytes = value after) :
    names DetachResponse.templateId bytes = true ∧ otherCodec DetachResponse.blockLength bytes = false ∧
      correlates after.correlationId bytes = true := by
  unfold decodeDetachResponse at decoded
  simp only [bind_eq_value, stopIf_eq_value, read_eq_value, List.drop_zero, not_lt, not_or, not_not] at decoded
  obtain ⟨-, long, header, ⟨-, rfl⟩, -, ⟨schema, template⟩, -, version, -, block, answered, ⟨-, rfl⟩, code, -,
    -, -, text, -, shown⟩ := decoded
  cases shown
  refine ⟨?_, ?_, ?_⟩
  · simp only [names, Bool.and_eq_true, decide_eq_true_eq, beq_iff_eq]
    exact ⟨⟨long, schema⟩, template⟩
  · simp only [otherCodec, Bool.or_eq_false_iff, decide_eq_false_iff_not, bne_eq_false_iff_eq]
    exact ⟨version, block⟩
  · exact beq_self_eq_true _

/-- The value of a response does not depend on what the information held before. -/
theorem decode_alike (decoded : decodeDetachResponse info bytes = value after) :
    decodeDetachResponse other bytes = value after := by
  unfold decodeDetachResponse at decoded ⊢
  simp only [bind_eq_value, stopIf_eq_value] at decoded ⊢
  obtain ⟨pass, long, header, first, pass', named, pass'', version, last, block, answered, second, code, third, none,
    known, text, fourth, shown⟩ := decoded
  exact ⟨pass, long, header, first, pass', named, pass'', version, last, block, answered, second, code, third, none,
    known, text, fourth, shown⟩

/-- A response that is not decoded leaves the information when no foreign id is read from it. -/
theorem decode_stop {refusal : Refusal × DetachInfo} (own : info.correlationId = correlationId)
    (clean : foreignDetach correlationId bytes = false) (decoded : decodeDetachResponse info bytes = stop refusal) :
    refusal.2 = info := by
  unfold decodeDetachResponse at decoded
  by_cases long : bytes.length < messageHeader.width
  · rw [stopIf, if_pos long] at decoded
    cases decoded
    rfl
  have room : 0 + messageHeader.width ≤ bytes.length := by omega
  rw [stopIf_pass long, value_bind, Flyweight.read, if_pos room, value_bind, List.drop_zero] at decoded
  by_cases unnamed : (messageHeader.decode bytes).schemaId ≠ schemaId ∨
      (messageHeader.decode bytes).templateId ≠ DetachResponse.templateId
  · rw [stopIf, if_pos unnamed] at decoded
    cases decoded
    rfl
  rw [stopIf_pass unnamed, value_bind] at decoded
  by_cases version : schemaVersion < (messageHeader.decode bytes).version
  · rw [stopIf, if_pos version] at decoded
    cases decoded
    rfl
  rw [stopIf_pass version, value_bind] at decoded
  by_cases block : (messageHeader.decode bytes).blockLength ≠ DetachResponse.blockLength
  · rw [stopIf, if_pos block] at decoded
    cases decoded
    rfl
  rw [stopIf_pass block, value_bind] at decoded
  have named : names DetachResponse.templateId bytes = true := by
    simp only [not_or, not_not] at unnamed
    simp only [names, Bool.and_eq_true, decide_eq_true_eq, beq_iff_eq]
    exact ⟨⟨by omega, unnamed.1⟩, unnamed.2⟩
  have known : otherCodec DetachResponse.blockLength bytes = false := by
    simp only [otherCodec, Bool.or_eq_false_iff, decide_eq_false_iff_not, bne_eq_false_iff_eq]
    exact ⟨version, not_not.mp block⟩
  rw [foreignDetach, named, known, Bool.true_and, Bool.not_false, Bool.true_and, Bool.not_eq_false', correlates,
    beq_iff_eq] at clean
  cases answered : (read int64 8 bytes : Scan (Refusal × DetachInfo) Int64) with
  | fault =>
      rw [answered] at decoded
      cases decoded
  | stop error => exact absurd answered read_ne_stop
  | value found =>
      have shown := (read_eq_value.mp answered).2
      rw [answered, value_bind] at decoded
      obtain rfl : found = info.correlationId := by rw [own, ← clean, shown]
      cases coding : (read int32 16 bytes : Scan (Refusal × DetachInfo) Int32) with
      | fault =>
          rw [coding] at decoded
          cases decoded
      | stop error => exact absurd coding read_ne_stop
      | value code =>
          rw [coding, value_bind] at decoded
          by_cases coded : code ∉ knownCodes
          · rw [stopIf, if_pos coded] at decoded
            cases decoded
            rfl
          · rw [stopIf_pass coded, value_bind] at decoded
            exact absurd decoded (bind_ne_stop (data_ne_stop _) (fun result error => by simp) refusal)

end DetachInfo

end TensorPool.DriverClient
