/-
This file encodes a discovery request as the client does and decodes it as the service does.
-/

import TensorPool.Discovery.Service
import TensorPool.Library.Flyweight

namespace TensorPool.Discovery

open Scan Flyweight FixedField

/-- A failed call gives its code; some calls leave the error text as it was. -/
structure Refusal where
  code : Int
  text : Option String := none
  deriving DecidableEq, Repr

def schemaId : UInt16 := 910
def schemaVersion : UInt16 := 1

def tagsBlockLength : Nat := 4

namespace DiscoveryRequest

def templateId : UInt16 := 1
def blockLength : UInt16 := 32
/-- The root fields stand in schema order; a filter that is left out has its null value. -/
def block (request : Request) : List UInt8 :=
  uint64.encode request.requestId ++ (uint32.encode request.clientId ++ (uint32.encode request.responseStreamId ++
    (uint32.encode request.streamId ++ (uint32.encode request.producerId ++ uint64.encode request.dataSourceId))))

end DiscoveryRequest

/-- The size of the buffer of `tp_discovery_request`. -/
def requestSize : Nat := 1024

/-- A tag is copied before its end is compared with the size of the buffer. -/
def putTag (refused : Refusal) (size : Nat) (written : List UInt8) (tag : Option Text) : Scan Refusal (List UInt8) :=
  let text := chars (tag.getD [])
  if size < written.length + tagsBlockLength then stop refused
  else if size < written.length + tagsBlockLength + text.length then fault
  else value (written ++ dataBytes text)

/-- A name that is empty is left out of the message. -/
def putTexts (request : Request) (written : List UInt8) : List UInt8 :=
  let written := putData requestSize (chars (request.responseChannel.getD [])) written
  let name := chars (request.dataSourceName.getD [])
  if name = [] then written else putData requestSize name written

/-- This is `tp_discovery_request` up to its offer; the list of tags is never a null pointer. -/
def encodeRequest (contextChannel : Text) (request : Request) : Scan Refusal (List UInt8) := do
  let channel := chars (request.responseChannel.getD [])
  stopIf (channel = [] ∨ request.responseStreamId = 0)
    ⟨-1, some "tp_discovery_request: response channel required"⟩
  stopIf (chars contextChannel ≠ [] ∧ chars contextChannel ≠ channel)
    ⟨-1, some "tp_discovery_request: response channel mismatch"⟩
  let root := messageHeader.encode
    ⟨DiscoveryRequest.blockLength, DiscoveryRequest.templateId, schemaId, schemaVersion⟩ ++
      DiscoveryRequest.block request
  match putGroup requestSize tagsBlockLength request.tags.length root with
  | none => stop ⟨-1, none⟩
  | some written => do
      let written ← request.tags.foldlM (putTag ⟨-1, none⟩ requestSize) written
      value (putTexts request written)

/-- A text that is not empty is copied, also from the null pointer of an accessor that failed. -/
def copyText (length : Nat) (text : Option Text) : Scan Refusal (Option Text) :=
  if length = 0 then value none
  else
    match text with
    | none => fault
    | some text => value (some text)

/-- The tags are stepped through by their block, and the position never moves behind a tag. -/
def decodeTag (blockLength : Nat) (rest : List UInt8) : Scan Refusal (Option Text × List UInt8) :=
  match nextEntry blockLength rest with
  | none => stop ⟨-1, some "tp_discovery_decode_request: tags next failed"⟩
  | some behind => do
      stopIf (rest.length < 4) ⟨-1, some "tp_discovery_decode_request: tag wrap failed"⟩
      let length ← read uint32 0 rest
      if rest.length < 4 + length.toNat then fault
      else value (some ((rest.drop 4).take length.toNat), behind)

/-- This is `tp_discovery_decode_request`; its allocations succeed. -/
def decodeRequest (bytes : List UInt8) : Scan Refusal Request := do
  stopIf (bytes.length < messageHeader.width) ⟨-1, none⟩
  let header ← read messageHeader 0 bytes
  stopIf (header.schemaId ≠ schemaId ∨ header.templateId ≠ DiscoveryRequest.templateId) ⟨1, none⟩
  stopIf (schemaVersion < header.version) ⟨-1, none⟩
  stopIf (header.blockLength ≠ DiscoveryRequest.blockLength) ⟨-1, none⟩
  let requestId ← read uint64 8 bytes
  let clientId ← read uint32 16 bytes
  let responseStreamId ← read uint32 20 bytes
  let streamId ← read uint32 24 bytes
  let producerId ← read uint32 28 bytes
  let dataSourceId ← read uint64 32 bytes
  let (channelLength, channel, rest) ← data (bytes.drop 40)
  let responseChannel ← copyText channelLength channel
  let (nameLength, name, rest) ← data rest
  let dataSourceName ← copyText nameLength name
  let (blockLength, count, rest) ← group rest
  let (tags, _) ← entries (decodeTag blockLength) count rest
  value
    { requestId := requestId
      clientId := clientId
      responseChannel := responseChannel
      responseStreamId := responseStreamId
      streamId := streamId
      producerId := producerId
      dataSourceId := dataSourceId
      dataSourceName := dataSourceName
      tags := tags }

/-- The decoded request has the fields of the request; an absent text and an empty one are the same. -/
structure Recovers (request decoded : Request) : Prop where
  requestId : decoded.requestId = request.requestId
  clientId : decoded.clientId = request.clientId
  responseStreamId : decoded.responseStreamId = request.responseStreamId
  responseChannel : chars (decoded.responseChannel.getD []) = chars (request.responseChannel.getD [])
  streamId : decoded.streamId = request.streamId
  producerId : decoded.producerId = request.producerId
  dataSourceId : decoded.dataSourceId = request.dataSourceId
  dataSourceName : chars (decoded.dataSourceName.getD []) = chars (request.dataSourceName.getD [])
  tags : decoded.tags.map (fun tag => chars (tag.getD [])) = request.tags.map (fun tag => chars (tag.getD []))


section Shape

variable {refused : Refusal} {size : Nat} {written bytes : List UInt8}

theorem putTag_eq_value {tag : Option Text} (put : putTag refused size written tag = value bytes) :
    bytes = written ++ dataBytes (chars (tag.getD [])) ∧ bytes.length ≤ size := by
  unfold putTag at put
  dsimp only at put
  split at put
  · cases put
  split at put
  · cases put
  next room =>
    cases put
    refine ⟨rfl, ?_⟩
    rw [List.length_append, length_dataBytes]
    change ¬ size < written.length + 4 + _ at room
    omega

/-- Each tag takes at least the room of its length. -/
theorem putTags_eq_value {tags : List (Option Text)} (put : tags.foldlM (putTag refused size) written = value bytes)
    (inside : written.length ≤ size) :
    ∃ more, bytes = written ++ more ∧ 4 * tags.length ≤ more.length ∧ bytes.length ≤ size := by
  induction tags generalizing written with
  | nil =>
      cases put
      exact ⟨[], (List.append_nil _).symm, Nat.le_refl _, inside⟩
  | cons tag tags hypothesis =>
      rw [List.foldlM_cons] at put
      obtain ⟨middle, first, later⟩ := bind_eq_value.mp put
      obtain ⟨shape, within⟩ := putTag_eq_value first
      obtain ⟨more, parts, enough, last⟩ := hypothesis later within
      refine ⟨dataBytes (chars (tag.getD [])) ++ more, ?_, ?_, last⟩
      · rw [parts, shape, List.append_assoc]
      · rw [List.length_append, length_dataBytes, List.length_cons]
        omega

theorem putTexts_extends (request : Request) (inside : written.length ≤ requestSize) :
    ∃ more, putTexts request written = written ++ more ∧ (putTexts request written).length ≤ requestSize := by
  obtain ⟨first, channel, within⟩ :=
    putData_extends requestSize (chars (request.responseChannel.getD [])) inside
  unfold putTexts
  dsimp only
  split
  · exact ⟨first, channel, within⟩
  · obtain ⟨second, name, last⟩ := putData_extends requestSize (chars (request.dataSourceName.getD [])) within
    exact ⟨first ++ second, by rw [name, channel, List.append_assoc], last⟩

end Shape

/-- The root block of a request and the dimensions of its tags. -/
def requestHead (request : Request) : List UInt8 :=
  messageHeader.encode ⟨DiscoveryRequest.blockLength, DiscoveryRequest.templateId, schemaId, schemaVersion⟩ ++
    DiscoveryRequest.block request ++ groupBytes tagsBlockLength request.tags.length

theorem length_requestHead (request : Request) : (requestHead request).length = 44 := rfl

/-- The message has its head, its tags and its texts. -/
theorem encodeRequest_eq_value {contextChannel : Text} {request : Request} {bytes : List UInt8}
    (encoded : encodeRequest contextChannel request = value bytes) :
    chars (request.responseChannel.getD []) ≠ [] ∧
      ∃ written, request.tags.foldlM (putTag ⟨-1, none⟩ requestSize) (requestHead request) = value written ∧
        bytes = putTexts request written := by
  unfold encodeRequest at encoded
  obtain ⟨_, named, other⟩ := bind_eq_value.mp encoded
  obtain ⟨_, -, checked⟩ := bind_eq_value.mp other
  dsimp only [putGroup] at checked
  split at checked
  · cases checked
  next dimensions =>
    split at dimensions
    · cases dimensions
      obtain ⟨written, tags, last⟩ := bind_eq_value.mp checked
      cases last
      exact ⟨fun absent => stopIf_eq_value.mp named (.inl absent), written, tags, rfl⟩
    · cases dimensions

/-- The decoder reads the two texts at the end of the root block. -/
theorem decodeRequest_eq_value {bytes : List UInt8} {decoded : Request}
    (result : decodeRequest bytes = value decoded) :
    ∃ length text rest nameLength name behind dimensions,
      (data (bytes.drop 40) : Scan Refusal _) = value (length, text, rest) ∧
        copyText length text = value decoded.responseChannel ∧
        (data rest : Scan Refusal _) = value (nameLength, name, behind) ∧
        copyText nameLength name = value decoded.dataSourceName ∧
        (group behind : Scan Refusal _) = value dimensions := by
  unfold decodeRequest at result
  simp only [bind_eq_value] at result
  obtain ⟨_, -, _, -, _, -, _, -, _, -, _, -, _, -, _, -, _, -, _, -, _, -, ⟨length, text, rest⟩, channel,
    copied, kept, ⟨nameLength, name, behind⟩, later, copiedName, keptName, dimensions, grouped, _, -, last⟩ := result
  cases last
  exact ⟨length, text, rest, nameLength, name, behind, dimensions, channel, kept, later, keptName, grouped⟩

/-- A byte in front of a length shifts the length by one byte. -/
theorem read_shifted (first : UInt8) (length : Nat) (rest : List UInt8) :
    (read uint32 0 (first :: (uint32.encode (UInt32.ofNat length) ++ rest)) : Scan Refusal _) =
      value (UInt32.ofNat (first.toNat + 256 * (length % 2 ^ 24))) := by
  have room : 0 + uint32.width ≤ (first :: (uint32.encode (UInt32.ofNat length) ++ rest)).length := by
    rw [List.length_cons, List.length_append, length_encode]
    change 0 + 4 ≤ 4 + rest.length + 1
    omega
  rw [Flyweight.read, if_pos room, List.drop_zero]
  congr 1
  change UInt32.ofNat (number 4 (first :: (digits 4 (UInt32.ofNat length).toNat ++ rest))) = _
  congr 1
  simp only [digits, number, List.cons_append, UInt8.toNat_ofNat', UInt32.toNat_ofNat']
  omega

theorem copyText_absent {length : Nat} {kept : Option Text} (long : 0 < length) :
    copyText length none ≠ value kept := by
  rw [copyText, if_neg (by omega)]
  nofun

/-- A length that runs over the end of the fragment makes the copy read a null pointer. -/
theorem copyText_long {bytes : List UInt8} {length : UInt32} {dataLength : Nat} {text kept : Option Text}
    {rest : List UInt8} (first : (read uint32 0 bytes : Scan Refusal _) = value length)
    (tooLong : bytes.length < 4 + length.toNat) (positive : 0 < length.toNat)
    (found : (data bytes : Scan Refusal _) = value (dataLength, text, rest)) :
    copyText dataLength text ≠ value kept := by
  rw [data, first, value_bind, if_neg (by omega)] at found
  cases found
  exact copyText_absent positive

theorem drop_requestHead (request : Request) (rest : List UInt8) :
    (requestHead request ++ rest).drop 40 = groupBytes 4 request.tags.length ++ rest := by
  rw [requestHead, List.append_assoc]
  exact List.drop_left' rfl

/-- With tags the service takes the dimensions of their group for the length of the channel. -/
theorem decodeRequest_tagged {request decoded : Request} {more bytes : List UInt8} (tagged : request.tags ≠ [])
    (shape : bytes = requestHead request ++ more) (inside : bytes.length ≤ requestSize)
    (few : 4 * request.tags.length ≤ more.length) : decodeRequest bytes ≠ value decoded := by
  intro result
  obtain ⟨length, text, rest, -, -, -, -, found, kept, -⟩ := decodeRequest_eq_value result
  have total : bytes.length = 44 + more.length := by rw [shape, List.length_append, length_requestHead]
  have positive : 0 < request.tags.length := List.length_pos_iff.mpr tagged
  have small : request.tags.length ≤ 256 := by
    change _ ≤ 1024 at inside
    omega
  have tail : bytes.drop 40 = groupBytes 4 request.tags.length ++ more := by
    rw [shape, drop_requestHead]
  have first := @read_groupBytes Refusal 4 request.tags.length more (by decide) (by omega)
  have number : (UInt32.ofNat (4 + 65536 * request.tags.length)).toNat = 4 + 65536 * request.tags.length :=
    UInt32.toNat_ofNat_of_lt (by change _ < 2 ^ 32; omega)
  rw [← tail] at first
  apply copyText_long first _ _ found kept
  · rw [number, List.length_drop, total]
    change _ ≤ 1024 at inside
    omega
  · rw [number]
    omega

/-- Without tags the service takes the length of the channel for the channel. -/
theorem decodeRequest_untagged {request decoded : Request} {more : List UInt8} (untagged : request.tags = [])
    {count : UInt32} (result : decodeRequest (requestHead request ++ (uint32.encode count ++ more)) = value decoded) :
    decoded.responseChannel = some (uint32.encode count) ∧
      ∃ nameLength name behind dimensions, (data more : Scan Refusal _) = value (nameLength, name, behind) ∧
        copyText nameLength name = value decoded.dataSourceName ∧
        (group behind : Scan Refusal _) = value dimensions := by
  obtain ⟨length, text, rest, nameLength, name, behind, dimensions, found, kept, later, keptName, grouped⟩ :=
    decodeRequest_eq_value result
  have tail : (requestHead request ++ (uint32.encode count ++ more)).drop 40 =
    dataBytes (uint32.encode count) ++ more := by
    rw [drop_requestHead, untagged, dataBytes, length_encode, List.append_assoc]
    rfl
  rw [tail, data_dataBytes _ _ (by rw [length_encode]; decide)] at found
  cases found
  have channel : some (uint32.encode count) = decoded.responseChannel := Scan.value.inj kept
  exact ⟨channel.symm, nameLength, name, behind, dimensions, later, keptName, grouped⟩

/-- The bytes of a small length show one character. -/
theorem chars_length {text : Text} (shown : chars (uint32.encode (UInt32.ofNat text.length)) = text) :
    text = [] ∨ text = [1] := by
  have short : text.length ≤ 4 := by
    have bound := length_chars_le (uint32.encode (UInt32.ofNat text.length))
    rw [shown, length_encode] at bound
    exact bound
  obtain length | length | length | length | length : text.length = 0 ∨ text.length = 1 ∨ text.length = 2 ∨
      text.length = 3 ∨ text.length = 4 := by omega
  · exact .inl (List.eq_nil_of_length_eq_zero length)
  · rw [length] at shown
    exact .inr shown.symm
  all_goals
    rw [length] at shown
    rw [← shown] at length
    exact absurd length (by decide)

/-- A name that starts one byte late is not read. -/
theorem decode_shifted {text : Text} {nameLength : Nat} {name kept : Option Text} {behind : List UInt8}
    {dimensions : Nat × Nat × List UInt8}
    (found : (data (1 :: putData 975 text []) : Scan Refusal _) = value (nameLength, name, behind))
    (copied : copyText nameLength name = value kept)
    (grouped : (group behind : Scan Refusal _) = value dimensions) : False := by
  have number : (UInt32.ofNat ((1 : UInt8).toNat + 256 * (text.length % 2 ^ 24))).toNat =
      1 + 256 * (text.length % 2 ^ 24) := by
    apply UInt32.toNat_ofNat_of_lt
    change 1 + 256 * (text.length % 2 ^ 24) < 2 ^ 32
    omega
  obtain ⟨more, tail, total⟩ := putData_length text (by decide : ([] : List UInt8).length + 4 ≤ 975)
  rw [List.nil_append] at tail
  have length : (1 :: putData 975 text []).length = 5 + more.length := by
    rw [tail, List.length_cons, List.length_append, length_encode]
    change 4 + more.length + 1 = _
    omega
  have short : more.length = 0 ∨ more.length = text.length ∧ text.length ≤ 971 := by
    obtain none | ⟨all, fits⟩ := total
    · exact .inl (congrArg List.length none)
    · rw [List.length_nil] at fits
      exact .inr ⟨congrArg List.length all, by omega⟩
  rw [data, tail, read_shifted, value_bind, number, ← tail, length] at found
  split at found
  next inside =>
    cases found
    rw [group, read_eq_fault.mpr, fault_bind] at grouped
    · cases grouped
    · rw [List.length_drop, length]
      change _ < 0 + 2
      omega
  next outside =>
    cases found
    exact copyText_absent (by omega) copied

theorem putTexts_channel (request : Request) :
    ∃ tail, putTexts request (requestHead request) = requestHead request ++
      (uint32.encode (UInt32.ofNat (chars (request.responseChannel.getD [])).length) ++ tail) := by
  obtain ⟨first, channel, -⟩ := putData_length (chars (request.responseChannel.getD []))
    (by rw [length_requestHead]; decide : (requestHead request).length + 4 ≤ requestSize)
  unfold putTexts
  dsimp only
  split
  · exact ⟨first, channel⟩
  · obtain ⟨-, -, inside⟩ := putData_extends requestSize (chars (request.responseChannel.getD []))
      (by rw [length_requestHead]; decide : (requestHead request).length ≤ requestSize)
    obtain ⟨second, name, -⟩ := putData_extends requestSize (chars (request.dataSourceName.getD [])) inside
    exact ⟨first ++ second, by rw [name, channel, List.append_assoc, List.append_assoc]⟩

/-- Behind a channel of one character the name starts, if there is one. -/
theorem putTexts_one (request : Request) (one : chars (request.responseChannel.getD []) = [1]) {tail : List UInt8}
    (start : putTexts request (requestHead request) = requestHead request ++
      (uint32.encode (UInt32.ofNat (chars (request.responseChannel.getD [])).length) ++ tail)) :
    tail = [1] ∨ ∃ text, tail = 1 :: putData 975 text [] := by
  have fits : (requestHead request).length + (4 + [(1 : UInt8)].length) ≤ requestSize := by
    rw [length_requestHead]
    decide
  rw [putTexts, one, putData_fits fits] at start
  split at start
  · left
    exact (List.append_cancel_left (List.append_cancel_left start)).symm
  · right
    refine ⟨chars (request.dataSourceName.getD []), ?_⟩
    have inside : (requestHead request ++ dataBytes [1]).length ≤ requestSize := by
      rw [List.length_append, length_requestHead]
      decide
    rw [← List.append_nil (requestHead request ++ dataBytes [1]), putData_append _ _ _ inside,
      List.append_assoc] at start
    have behind := List.append_cancel_left start
    rw [dataBytes, List.append_assoc] at behind
    rw [← List.append_cancel_left behind, List.length_append, length_requestHead]
    rfl

/-- The service reads another channel than the client names, of at most four characters. -/
theorem decodeRequest_channel {contextChannel : Text} {request decoded : Request} {bytes : List UInt8}
    (encoded : encodeRequest contextChannel request = value bytes) (result : decodeRequest bytes = value decoded) :
    (chars (decoded.responseChannel.getD [])).length ≤ 4 ∧
      chars (decoded.responseChannel.getD []) ≠ chars (request.responseChannel.getD []) := by
  obtain ⟨named, written, tags, texts⟩ := encodeRequest_eq_value encoded
  obtain ⟨marks, shape, few, inside⟩ := putTags_eq_value tags (by rw [length_requestHead]; decide)
  obtain ⟨more, extends', within⟩ := putTexts_extends request inside
  rw [← texts] at extends' within
  by_cases untagged : request.tags = []
  · rw [untagged] at tags
    cases tags
    obtain ⟨tail, start⟩ := putTexts_channel request
    rw [texts, start] at result
    obtain ⟨recovered, nameLength, name, behind, dimensions, later, copied, grouped⟩ :=
      decodeRequest_untagged untagged result
    rw [recovered, Option.getD_some]
    constructor
    · apply Nat.le_trans (length_chars_le _)
      rw [length_encode]
      exact Nat.le_refl _
    · intro shown
      obtain empty | one := chars_length shown
      · exact named empty
      obtain last | ⟨text, last⟩ := putTexts_one request one start
      · rw [last] at later
        cases later
      · rw [last] at later
        exact decode_shifted later copied grouped
  · have whole : bytes = requestHead request ++ (marks ++ more) := by
      rw [extends', shape, List.append_assoc]
    apply absurd result
    apply decodeRequest_tagged untagged whole within
    rw [List.length_append]
    omega

/-- The decoder returns zero with the fields of the request. -/
def RoundTrips (request : Request) (bytes : List UInt8) : Prop :=
  ∃ decoded, decodeRequest bytes = value decoded ∧ Recovers request decoded

/-- The service recovers no request that the client encodes. -/
theorem request_lost (contextChannel : Text) (request : Request) (bytes : List UInt8)
    (encoded : encodeRequest contextChannel request = value bytes) : ¬ RoundTrips request bytes := by
  rintro ⟨decoded, result, recovers⟩
  exact (decodeRequest_channel encoded result).2 recovers.responseChannel

/-- A request without tags. -/
def untaggedRequest : Request where
  requestId := 1
  clientId := 2
  responseChannel := some [97]
  responseStreamId := 3
  streamId := 4
  producerId := nullU32
  dataSourceId := nullU64
  dataSourceName := none
  tags := []

def untaggedBytes : List UInt8 :=
  requestHead untaggedRequest ++ dataBytes [97]

theorem request_lost_untagged :
    encodeRequest [] untaggedRequest = value untaggedBytes ∧ ¬ RoundTrips untaggedRequest untaggedBytes :=
  ⟨by decide +kernel, request_lost [] untaggedRequest untaggedBytes (by decide +kernel)⟩

/-- The copy of the channel reads a null pointer when the request has a tag. -/
theorem tagged_request_faults :
    ∃ bytes, encodeRequest [] { untaggedRequest with tags := [some [98]] } = value bytes ∧
      decodeRequest bytes = fault :=
  ⟨requestHead { untaggedRequest with tags := [some [98]] } ++ dataBytes [98] ++ dataBytes [97],
    by decide +kernel, by decide +kernel⟩

end TensorPool.Discovery
