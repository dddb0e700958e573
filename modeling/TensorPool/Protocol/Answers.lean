/-
This file encodes the answers of the driver and compares what its clients decode with what it sent.
-/

import TensorPool.Discovery.Ingest
import TensorPool.DriverClient.Complete
import TensorPool.Driver.Replies
import TensorPool.DriverClient.Poll
import TensorPool.Protocol.Requests
import TensorPool.Wire.RoundTrip

namespace TensorPool.Protocol

open Scan Flyweight FixedField
open Discovery (Text copyAscii)
open DriverClient

/-- The encoder of a text writes `strlen` bytes of it. -/
def textOf (text : String) : Text := Wire.string (some text.toUTF8.toList)

/-- A text that does not fit has its length in the message and none of its bytes, or not even that. -/
def varBytes : Driver.VarAscii → List UInt8
  | ⟨text, .whole⟩ => dataBytes (textOf text)
  | ⟨text, .lengthOnly⟩ => uint32.encode (UInt32.ofNat (Driver.strlen text))
  | ⟨_, .nothing⟩ => []

/-- These are the wire values of `tensor_pool_responseCode`. -/
def responseCode : Driver.ResponseCode → Int32
  | .ok => 0
  | .unsupported => 1
  | .invalidParams => 2
  | .rejected => 3
  | .internalError => 4

def revokeReason : Driver.LeaseRevokeReason → UInt8
  | .detached => 1
  | .expired => 2
  | .revoked => 3

/-- Every optional field of a refusal is null. -/
def nullBlock : LeaseBlock := ⟨nullU64, nullU64, nullU32, nullU64, nullU32, nullU32, nullU16, nullU32⟩

/-- These are the fields of a grant behind its code. -/
def leaseFields (body : Driver.AttachBody) : LeaseBlock where
  leaseId := body.leaseId
  leaseExpiryTimestampNs := body.leaseExpiryTimestampNs
  streamId := body.streamId
  epoch := body.epoch
  layoutVersion := body.layoutVersion
  headerNslots := body.headerNslots
  headerSlotBytes := body.headerSlotBytes.toUInt16
  nodeId := body.nodeId

def poolBytes (pool : Driver.PoolBody) : List UInt8 :=
  poolBlock.encode (pool.poolId, pool.poolNslots, pool.strideBytes) ++ varBytes pool.regionUri

/-- The pools and the header URI of a grant stand behind its block; a refusal has no pools and an empty URI. -/
def regionBytes : Option Driver.AttachBody → List UInt8
  | none => groupBytes 10 0 ++ dataBytes []
  | some body => groupBytes 10 body.payloadPools.length ++
      (body.payloadPools.flatMap poolBytes ++ varBytes body.headerRegionUri)

/-- These are the bytes that `tp_driver_send_attach_response` offers. -/
def attachResponse (response : Driver.AttachResponse) : List UInt8 :=
  messageHeader.encode (codec AttachResponse.templateId AttachResponse.blockLength).header ++
    (int64.encode (Int64.ofInt response.correlationId) ++ (int32.encode (responseCode response.code) ++
      (leaseBlock.encode ((response.body.map leaseFields).getD nullBlock) ++ (regionBytes response.body ++
        varBytes response.errorMessage))))

/-- These are the bytes that `tp_driver_send_detach_response` offers. -/
def detachResponse (response : Driver.DetachResponse) : List UInt8 :=
  messageHeader.encode (codec DetachResponse.templateId DetachResponse.blockLength).header ++
    (int64.encode (Int64.ofInt response.correlationId) ++ (int32.encode (responseCode response.code) ++
      varBytes response.errorMessage))

/-- These are the bytes that `tp_driver_send_lease_revoked` offers. -/
def leaseRevoked (notice : Driver.LeaseRevoked) : List UInt8 :=
  messageHeader.encode LeaseRevoked.codec.header ++ (uint64.encode notice.timestampNs ++
    (uint64.encode notice.leaseId ++ (uint32.encode notice.streamId ++ (uint32.encode notice.clientId ++
      (uint8.encode notice.role.code ++ (uint8.encode (revokeReason notice.reason) ++
        varBytes notice.errorMessage))))))

/-- An announce goes out on a publication of its own, and the other messages on the control publication. -/
def controlBytes : Driver.Message → Option (List UInt8)
  | .attachResponse response => some (attachResponse response)
  | .detachResponse response => some (detachResponse response)
  | .leaseRevoked notice => some (leaseRevoked notice)
  | .poolAnnounce _ => none

/-- A pool as the response describes it. -/
def poolInfo (pool : Driver.PoolBody) : PoolInfo :=
  ⟨pool.poolId, pool.poolNslots, pool.strideBytes, textOf pool.regionUri.text⟩

/-- What a client knows after it has read a grant. -/
def told (start : AttachInfo) (body : Driver.AttachBody) : AttachInfo :=
  { start with
    toLeaseBlock := leaseFields body
    code := codeOk
    pools := some ((body.payloadPools.map poolInfo).map PoolInfo.copied)
    poolCount := body.payloadPools.length
    headerRegionUri := copyAscii uriLength (some (textOf body.headerRegionUri.text)) }

/-- A client can read a grant without null fields that has pools and slots. -/
structure Readable (body : Driver.AttachBody) : Prop where
  leaseId : body.leaseId ≠ nullU64
  streamId : body.streamId ≠ nullU32
  epoch : body.epoch ≠ nullU64
  headerNslots : body.headerNslots ≠ nullU32 ∧ body.headerNslots ≠ 0
  pools : body.payloadPools ≠ []
  strideBytes : ∀ pool ∈ body.payloadPools, pool.strideBytes ≠ nullU32

/-- What the encoder of the driver guarantees of a grant. -/
structure Encoded (body : Driver.AttachBody) : Prop where
  layoutVersion : body.layoutVersion = 1
  slotBytes : body.headerSlotBytes = 256
  few : body.payloadPools.length < 2 ^ 16
  nslots : ∀ pool ∈ body.payloadPools, pool.poolNslots = body.headerNslots
  texts : ∀ pool ∈ body.payloadPools,
    textOf pool.regionUri.text ≠ [] ∧ (textOf pool.regionUri.text).length < uriLength
  header : textOf body.headerRegionUri.text ≠ [] ∧ (textOf body.headerRegionUri.text).length < uriLength

/-- A text that is shorter than its buffer is copied as it is. -/
theorem textOf_plain {text : String} (short : (textOf text).length < uriLength) : Plain (textOf text) :=
  ⟨short, Discovery.zero_not_mem_string _⟩

/-- The text of a string has no null byte. -/
theorem chars_textOf (text : String) : chars (textOf text) = textOf text := chars_chars _

/-- A URI of the driver fits the buffer that it is built in. -/
theorem buildRegionUri_short {o : Driver.Oracle} {config : Driver.Config} {streamId : UInt32} {epoch : UInt64}
    {poolId : UInt16} {regionType : Driver.RegionType} {requireHugepages : Bool} {uri : String}
    (built : Driver.buildRegionUri o config streamId epoch poolId regionType requireHugepages = some uri) :
    Driver.strlen uri < uriLength := by
  simp only [Driver.buildRegionUri, Option.bind_eq_bind, Option.bind_eq_some_iff] at built
  obtain ⟨path, -, fits⟩ := built
  exact Driver.fitted_short fits

/-- Both lengths of a URI of the driver are below its limit, and it is not empty. -/
theorem textOf_uri {o : Driver.Oracle} {config : Driver.Config} {streamId : UInt32} {epoch : UInt64}
    {poolId : UInt16} {regionType : Driver.RegionType} {requireHugepages : Bool} {uri : String}
    (built : Driver.buildRegionUri o config streamId epoch poolId regionType requireHugepages = some uri) :
    textOf uri ≠ [] ∧ (textOf uri).length < uriLength :=
  ⟨Discovery.buildRegionUri_ne_nil built,
    Nat.lt_of_le_of_lt (Discovery.length_string_le _) (buildRegionUri_short built)⟩

section Put

variable {limit position : Nat} {text : String}

/-- The bytes of a text stand in the room that its put takes. -/
theorem varBytes_room : position + (varBytes (Driver.putVarData limit position text).1).length ≤
    (Driver.putVarData limit position text).2 := by
  have short := Discovery.length_string_le text
  unfold Driver.putVarData
  split
  · split
    · rw [varBytes, length_dataBytes, textOf]
      omega
    · rw [varBytes, length_encode]
      exact Nat.le_refl (position + 4)
  · exact Nat.le_refl _

/-- The bytes of a pool group stand in the room that its encoding takes. -/
theorem poolBytes_room {nslots : UInt32} {uri : Driver.PoolDef → Option String} {pools : List Driver.PoolDef}
    {after : Nat} {bodies : List Driver.PoolBody}
    (encoded : Driver.encodePools limit nslots uri pools position = some (bodies, after)) :
    position + (bodies.flatMap poolBytes).length ≤ after ∧ position + bodies.length ≤ after := by
  induction pools generalizing position bodies with
  | nil =>
      cases encoded
      simp
  | cons pool rest hypothesis =>
      obtain ⟨text, others, room, -, inner, rfl⟩ := Driver.encodePools_cons.mp encoded
      have here := @varBytes_room limit (position + Driver.poolBlockLength) text
      obtain ⟨bytes, count⟩ := hypothesis inner
      have width : poolBlock.width = Driver.poolBlockLength := rfl
      rw [List.flatMap_cons, poolBytes, List.length_append, List.length_append, length_encode, width,
        List.length_cons]
      dsimp only
      have block : 1 ≤ Driver.poolBlockLength := by decide
      omega

/-- A message ends inside its buffer. -/
theorem encodePools_inside {nslots : UInt32} {uri : Driver.PoolDef → Option String} {pools : List Driver.PoolDef}
    {after : Nat} {bodies : List Driver.PoolBody} (inside : position ≤ limit)
    (encoded : Driver.encodePools limit nslots uri pools position = some (bodies, after)) : after ≤ limit := by
  induction pools generalizing position bodies with
  | nil =>
      cases encoded
      exact inside
  | cons pool rest hypothesis =>
      obtain ⟨text, others, room, -, inner, rfl⟩ := Driver.encodePools_cons.mp encoded
      exact hypothesis (Driver.putVarData_inside room) inner

end Put

/-- What the driver encodes of a body is encoded. -/
theorem encodeAttachBody_encoded {o : Driver.Oracle} {config : Driver.Config} {stream : Driver.StreamState}
    {lease : Driver.Lease} {requireHugepages : Bool} {body : Driver.AttachBody} {position : Nat}
    (encoded : Driver.encodeAttachBody o config stream lease requireHugepages = some (body, position)) :
    Encoded body := by
  simp only [Driver.encodeAttachBody, Option.bind_eq_bind, Option.bind_eq_some_iff, Option.some.injEq,
    Prod.exists, Prod.mk.injEq] at encoded
  obtain ⟨profile, -, bodies, header, _, regions, rfl, -⟩ := encoded
  have named := Driver.encodeRegions_header regions
  obtain ⟨pooled, _, room, inner, -, -⟩ := Driver.encodeRegions_some.mp regions
  have each := Driver.encodePools_texts inner
  refine ⟨rfl, rfl, ?_, fun body member => (each body member).1, fun body member => ?_, textOf_uri named⟩
  · have few := (poolBytes_room inner).2
    have ended := encodePools_inside room inner
    have size : Driver.bufferLength < 2 ^ 16 := by decide
    dsimp only
    omega
  · obtain ⟨-, pool, built⟩ := each body member
    exact textOf_uri built

/-- The encoder stays in its buffer. -/
theorem encodeAttachBody_inside {o : Driver.Oracle} {config : Driver.Config} {stream : Driver.StreamState}
    {lease : Driver.Lease} {requireHugepages : Bool} {body : Driver.AttachBody} {position : Nat}
    (encoded : Driver.encodeAttachBody o config stream lease requireHugepages = some (body, position)) :
    position ≤ Driver.bufferLength := by
  simp only [Driver.encodeAttachBody, Option.bind_eq_bind, Option.bind_eq_some_iff, Option.some.injEq,
    Prod.exists, Prod.mk.injEq] at encoded
  obtain ⟨profile, -, bodies, header, _, regions, rfl, rfl⟩ := encoded
  obtain ⟨pooled, text, room, inner, -, put⟩ := Driver.encodeRegions_some.mp regions
  have inside : (Driver.putVarData Driver.bufferLength pooled text).2 ≤ Driver.bufferLength :=
    Driver.putVarData_inside (encodePools_inside room inner)
  rwa [put] at inside

section Granted

variable {body : Driver.AttachBody} {correlationId : Int64} {tail : List UInt8}

/-- A grant with anything behind its regions. -/
def grantBytes (correlationId : Int64) (body : Driver.AttachBody) (tail : List UInt8) : List UInt8 :=
  messageHeader.encode (codec AttachResponse.templateId AttachResponse.blockLength).header ++
    (int64.encode correlationId ++ (int32.encode codeOk ++ (leaseBlock.encode (leaseFields body) ++
      (groupBytes 10 body.payloadPools.length ++ (body.payloadPools.flatMap poolBytes ++
        (varBytes body.headerRegionUri ++ tail))))))

/-- The parts of a message stand behind the bytes in front of them. -/
theorem drop_behind {α : Type} (field : FixedField α) (total offset : Nat) (behind : total = field.width + offset)
    {written : α} {rest : List UInt8} : (field.encode written ++ rest).drop total = rest.drop offset := by
  rw [behind, ← List.drop_drop, List.drop_left' (field.length_encode written)]

/-- The bytes of a grant start with its header. -/
theorem grantBytes_header : messageHeader.decode (grantBytes correlationId body tail) =
    (codec AttachResponse.templateId AttachResponse.blockLength).header := by
  rw [grantBytes, messageHeader.decode_encode]

/-- The correlation identifier stands behind the header. -/
theorem grantBytes_correlation : int64.decode ((grantBytes correlationId body tail).drop 8) = correlationId := by
  rw [grantBytes, drop_behind messageHeader 8 0 rfl, List.drop_zero, int64.decode_encode]

/-- The code of a grant is that of success. -/
theorem grantBytes_code : int32.decode ((grantBytes correlationId body tail).drop 16) = codeOk := by
  rw [grantBytes, drop_behind messageHeader 16 8 rfl, drop_behind int64 8 0 rfl, List.drop_zero, int32.decode_encode]

/-- The fields of the lease stand behind the code. -/
theorem grantBytes_block : leaseBlock.decode ((grantBytes correlationId body tail).drop 20) = leaseFields body := by
  rw [grantBytes, drop_behind messageHeader 20 12 rfl, drop_behind int64 12 4 rfl, drop_behind int32 4 0 rfl,
    List.drop_zero, leaseBlock.decode_encode]

/-- The group of the pools stands behind the fixed fields. -/
theorem grantBytes_group : (grantBytes correlationId body tail).drop 62 =
    groupBytes 10 body.payloadPools.length ++ (body.payloadPools.flatMap poolBytes ++
      (varBytes body.headerRegionUri ++ tail)) := by
  rw [grantBytes, drop_behind messageHeader 62 54 rfl, drop_behind int64 54 46 rfl, drop_behind int32 46 42 rfl,
    drop_behind leaseBlock 42 0 rfl, List.drop_zero]

/-- The bytes of a grant hold all fixed fields and the head of the group. -/
theorem grantBytes_length : 66 ≤ (grantBytes correlationId body tail).length := by
  have long := congrArg List.length (@grantBytes_group body correlationId tail)
  rw [List.length_drop, List.length_append, length_groupBytes] at long
  omega

theorem grantBytes_entryLength : entryLengthAt (grantBytes correlationId body tail) = 10 := by
  rw [entryLengthAt, grantBytes_group, groupBytes, List.append_assoc, uint16.decode_encode]
  rfl

/-- The group tells the number of the pools. -/
theorem grantBytes_count (few : body.payloadPools.length < 2 ^ 16) :
    countAt (grantBytes correlationId body tail) = body.payloadPools.length := by
  have behind : (grantBytes correlationId body tail).drop 64 =
    ((grantBytes correlationId body tail).drop 62).drop 2 := by
    rw [List.drop_drop]
  rw [countAt, behind, grantBytes_group, groupBytes, List.append_assoc, drop_behind uint16 2 0 rfl,
    List.drop_zero, uint16.decode_encode]
  exact UInt16.toNat_ofNat_of_lt' few

/-- The pools stand behind the head of their group, and then the URI of the header. -/
theorem grantBytes_pools : poolsAt (grantBytes correlationId body tail) =
    body.payloadPools.flatMap poolBytes ++ (varBytes body.headerRegionUri ++ tail) := by
  have behind : poolsAt (grantBytes correlationId body tail) =
    ((grantBytes correlationId body tail).drop 62).drop 4 := by
    rw [poolsAt, List.drop_drop]
  rw [behind, grantBytes_group, List.drop_left' (length_groupBytes ..)]

/-- A short text stands behind its length. -/
theorem textAt_dataBytes {text : Text} (short : text.length < 2 ^ 32) (rest : List UInt8) :
    TextAt (dataBytes text ++ rest) text rest := by
  refine ⟨?_, ?_, ?_⟩
  · rw [List.length_append, length_dataBytes]
    omega
  · rw [dataBytes, List.append_assoc, uint32.decode_encode]
    exact UInt32.toNat_ofNat_of_lt' short
  · rw [dataBytes, List.append_assoc, drop_behind uint32 4 0 rfl]
    rfl

/-- A client finds a text at its place exactly when the driver has put it whole. -/
theorem textAt_varBytes {limit position : Nat} {text : String} {rest behind : List UInt8} {found : Text}
    (small : Driver.strlen text < uriLength)
    (inside : (Driver.putVarData limit position text).2 + rest.length ≤ limit) :
    TextAt (varBytes (Driver.putVarData limit position text).1 ++ rest) found behind ↔
      (Driver.putVarData limit position text).1.put = .whole ∧ found = textOf text ∧ behind = rest := by
  have short : (textOf text).length < 2 ^ 32 :=
    Nat.lt_trans (Nat.lt_of_le_of_lt (Discovery.length_string_le text) small) (by decide)
  unfold Driver.putVarData at inside ⊢
  split at inside
  next room =>
    rw [if_pos room]
    split at inside
    next fits =>
      rw [if_pos fits]
      constructor
      · intro taken
        exact ⟨rfl, taken.unique (textAt_dataBytes short rest)⟩
      · rintro ⟨-, rfl, rfl⟩
        exact textAt_dataBytes short _
    next long =>
      rw [if_neg long]
      refine iff_of_false (fun taken => ?_) (by simp)
      -- The length tells of more bytes than the buffer has behind it.
      have counted := taken.length
      have ended := congrArg List.length taken.bytes
      dsimp only at inside
      rw [varBytes, uint32.decode_encode, UInt32.toNat_ofNat_of_lt' (Nat.lt_trans small (by decide))] at counted
      rw [varBytes, drop_behind uint32 4 0 rfl, List.drop_zero, List.length_append] at ended
      omega
  next full =>
    rw [if_neg full]
    refine iff_of_false (fun taken => ?_) (by simp)
    have whole := taken.whole
    dsimp only at inside
    rw [varBytes, List.nil_append] at whole
    omega

/-- A client reads all pools of a group when they are whole, and otherwise it does not reach its end. -/
theorem entries_pools {limit : Nat} {nslots : UInt32} {uri : Driver.PoolDef → Option String}
    {pools : List Driver.PoolDef} {position after : Nat} {bodies : List Driver.PoolBody}
    (short : ∀ pool text, uri pool = some text → Driver.strlen text < uriLength)
    (encoded : Driver.encodePools limit nslots uri pools position = some (bodies, after)) {rest : List UInt8}
    (inside : after + rest.length ≤ limit) {listed : List PoolInfo} {tail : List UInt8} :
    Entries 10 (bodies.flatMap poolBytes ++ rest) listed tail ∧
        (listed.length = bodies.length ∨ listed.length < bodies.length ∧ tail.length < 10) ↔
      (∀ body ∈ bodies, body.regionUri.put = .whole) ∧ listed = bodies.map poolInfo ∧ tail = rest := by
  induction pools generalizing position bodies listed with
  | nil =>
      cases encoded
      constructor
      · rintro ⟨entries, ending⟩
        obtain rfl : listed = [] := List.eq_nil_of_length_eq_zero (by simpa using ending)
        cases entries
        exact ⟨by simp, rfl, rfl⟩
      · rintro ⟨-, rfl, rfl⟩
        exact ⟨.nil _, .inl rfl⟩
  | cons pool others hypothesis =>
      obtain ⟨text, bodies, -, built, inner, rfl⟩ := Driver.encodePools_cons.mp encoded
      have small := short pool text built
      have place := (poolBytes_room inner).1
      -- The bytes of the first pool, of the other ones and of the rest.
      obtain ⟨field, put⟩ : ∃ field, (Driver.putVarData limit (position + Driver.poolBlockLength) text).1 = field :=
        ⟨_, rfl⟩
      have read {found : Text} {behind : List UInt8} :=
        @textAt_varBytes limit (position + Driver.poolBlockLength) text
          (bodies.flatMap poolBytes ++ rest) behind found small (by rw [List.length_append]; omega)
      have same : field.text = text := by rw [← put, Driver.putVarData_text]
      rw [put] at read ⊢
      have shape : ((⟨pool.poolId, nslots, pool.strideBytes, field⟩ : Driver.PoolBody) :: bodies).flatMap poolBytes ++
          rest = poolBlock.encode (pool.poolId, nslots, pool.strideBytes) ++
            (varBytes field ++ (bodies.flatMap poolBytes ++ rest)) := by
        rw [List.flatMap_cons, poolBytes]
        simp only [List.append_assoc]
      have info (found : Text) : poolAt (poolBlock.encode (pool.poolId, nslots, pool.strideBytes) ++
          (varBytes field ++ (bodies.flatMap poolBytes ++ rest))) found =
            ⟨pool.poolId, nslots, pool.strideBytes, found⟩ := by
        rw [poolAt, poolBlock.decode_encode]
      have long : 10 ≤ (poolBlock.encode (pool.poolId, nslots, pool.strideBytes) ++
          (varBytes field ++ (bodies.flatMap poolBytes ++ rest))).length := by
        rw [List.length_append, poolBlock.length_encode]
        exact Nat.le_add_right 10 _
      have behindBlock : (poolBlock.encode (pool.poolId, nslots, pool.strideBytes) ++
          (varBytes field ++ (bodies.flatMap poolBytes ++ rest))).drop 10 =
            varBytes field ++ (bodies.flatMap poolBytes ++ rest) :=
        List.drop_left' (length_encode ..)
      rw [shape, List.forall_mem_cons, List.map_cons, List.length_cons]
      constructor
      · rintro ⟨entries, ending⟩
        cases entries with
        | nil =>
            rw [List.length_nil] at ending
            omega
        | cons block fields found more =>
            rw [behindBlock] at found
            obtain ⟨whole, rfl, rfl⟩ := read.mp found
            rw [List.length_cons] at ending
            obtain ⟨each, rfl, rfl⟩ := (hypothesis inner).mp ⟨more, by omega⟩
            refine ⟨⟨whole, each⟩, ?_, rfl⟩
            rw [info, poolInfo, same]
      · rintro ⟨⟨whole, each⟩, rfl, rfl⟩
        obtain ⟨more, -⟩ := (hypothesis inner).mpr ⟨each, rfl, rfl⟩
        have entry := Entries.cons long long (behindBlock ▸ read.mpr ⟨whole, rfl, rfl⟩) more
        rw [info] at entry
        refine ⟨?_, .inl (by simp)⟩
        rwa [poolInfo, same]

/-- A client reads the regions of a grant exactly when the driver has put every URI whole. -/
theorem regions_read {o : Driver.Oracle} {config : Driver.Config} {stream : Driver.StreamState}
    {lease : Driver.Lease} {requireHugepages : Bool} {position : Nat}
    (encoded : Driver.encodeAttachBody o config stream lease requireHugepages = some (body, position))
    (inside : position + tail.length ≤ Driver.bufferLength) {listed : List PoolInfo} {uri : Text} :
    (∃ left behind, Entries 10 (body.payloadPools.flatMap poolBytes ++ (varBytes body.headerRegionUri ++ tail))
          listed left ∧
        (listed.length = body.payloadPools.length ∨ listed.length < body.payloadPools.length ∧ left.length < 10) ∧
        TextAt left uri behind) ↔
      body.Whole ∧ listed = body.payloadPools.map poolInfo ∧ uri = textOf body.headerRegionUri.text := by
  simp only [Driver.encodeAttachBody, Option.bind_eq_bind, Option.bind_eq_some_iff, Option.some.injEq,
    Prod.exists, Prod.mk.injEq] at encoded
  obtain ⟨profile, -, bodies, header, position, regions, rfl, rfl⟩ := encoded
  obtain ⟨pooled, text, room, inner, built, put⟩ := Driver.encodeRegions_some.mp regions
  obtain rfl : (Driver.putVarData Driver.bufferLength pooled text).1 = header := by rw [put]
  obtain rfl : (Driver.putVarData Driver.bufferLength pooled text).2 = position := by rw [put]
  have last := @varBytes_room Driver.bufferLength pooled text
  have entries := @entries_pools _ _ _ _ _ _ _ (fun pool text built => buildRegionUri_short built) inner
    (varBytes (Driver.putVarData Driver.bufferLength pooled text).1 ++ tail)
    (by rw [List.length_append]; omega) listed
  have named {behind : List UInt8} := @textAt_varBytes Driver.bufferLength pooled text tail behind uri
    (buildRegionUri_short built) inside
  rw [Driver.AttachBody.Whole]
  dsimp only
  rw [Driver.putVarData_text]
  constructor
  · rintro ⟨left, behind, more, ending, found⟩
    obtain ⟨each, same, rfl⟩ := entries.mp ⟨more, ending⟩
    obtain ⟨whole, named, -⟩ := named.mp found
    exact ⟨⟨whole, each⟩, same, named⟩
  · rintro ⟨⟨whole, each⟩, same, shown⟩
    obtain ⟨more, ending⟩ := entries.mpr ⟨each, same, rfl⟩
    exact ⟨_, tail, more, ending, named.mpr ⟨whole, shown, rfl⟩⟩

/-- A client takes a grant exactly when its URIs are whole and it can read it, and then with every field. -/
theorem grant_told_iff {o : Driver.Oracle} {config : Driver.Config} {stream : Driver.StreamState}
    {lease : Driver.Lease} {requireHugepages : Bool} {position : Nat}
    (encodes : Driver.encodeAttachBody o config stream lease requireHugepages = some (body, position))
    (inside : position + tail.length ≤ Driver.bufferLength) (start info : AttachInfo) :
    decodeAttachResponse true correlationId start (grantBytes correlationId body tail) = value info ∧
        info.code = codeOk ↔
      body.Whole ∧ Readable body ∧ info = told start body := by
  have encoded := encodeAttachBody_encoded encodes
  have slots : (256 : UInt32).toUInt16 = headerSlotBytes := rfl
  have count := @grantBytes_count body correlationId tail encoded.few
  have block := @grantBytes_block body correlationId tail
  have shown (listed : List PoolInfo) (uri : Text) := @regions_read body tail _ _ _ _ _ _ encodes inside listed uri
  have whole_told : assembled { start with toLeaseBlock := leaseFields body, code := codeOk }
      (grantBytes correlationId body tail) (body.payloadPools.map poolInfo) (textOf body.headerRegionUri.text) =
        told start body := by
    rw [assembled, padded_listed (by rw [List.length_map, count]), count]
    rfl
  rw [decodeAttachResponse_ok, block]
  constructor
  · rintro ⟨grants, -, listed, uri, ⟨⟨left, behind, entries, ending, text⟩, usable, -⟩, rfl⟩
    have required := grants.required
    have nonzero := grants.headerNslots
    have some := grants.count
    rw [block] at required nonzero
    rw [count] at some
    rw [grantBytes_entryLength, grantBytes_pools] at entries
    rw [grantBytes_entryLength, count] at ending
    obtain ⟨whole, rfl, rfl⟩ := (shown listed uri).mp ⟨left, behind, entries, ending, text⟩
    simp only [LeaseBlock.missing, Bool.or_eq_false_iff, beq_eq_false_iff_ne] at required
    obtain ⟨⟨⟨⟨⟨leaseId, streamId⟩, epoch⟩, -⟩, headerNslots⟩, -⟩ := required
    refine ⟨whole, ⟨leaseId, streamId, epoch, ⟨headerNslots, nonzero⟩, fun none => some (by rw [none]; rfl), ?_⟩,
      whole_told⟩
    intro pool member
    exact (usable (poolInfo pool) (List.mem_map_of_mem member)).strideBytes
  · rintro ⟨whole, readable, rfl⟩
    obtain ⟨left, behind, entries, ending, text⟩ := (shown _ _).mpr ⟨whole, rfl, rfl⟩
    refine ⟨⟨grantBytes_length, ?_, ?_, ?_, ?_, grantBytes_correlation, grantBytes_code, ?_, ?_, ?_, ?_⟩, rfl,
      body.payloadPools.map poolInfo, textOf body.headerRegionUri.text,
      ⟨⟨left, behind, ?_, ?_, text⟩, ?_, ?_⟩, whole_told.symm⟩
    · rw [grantBytes_header]
      rfl
    · rw [grantBytes_header]
      rfl
    · rw [grantBytes_header]
      exact UInt16.le_refl _
    · rw [grantBytes_header]
      rfl
    · rw [block]
      simp only [LeaseBlock.missing, leaseFields, Bool.or_eq_false_iff, beq_eq_false_iff_ne, encoded.layoutVersion,
        encoded.slotBytes]
      exact ⟨⟨⟨⟨⟨readable.leaseId, readable.streamId⟩, readable.epoch⟩, by decide⟩, readable.headerNslots.1⟩,
        by decide⟩
    · rw [block, leaseFields, encoded.slotBytes, slots]
    · rw [block]
      exact readable.headerNslots.2
    · rw [count]
      exact fun none => readable.pools (List.length_eq_zero_iff.mp none)
    · rw [grantBytes_entryLength, grantBytes_pools]
      exact entries
    · rw [grantBytes_entryLength, count]
      exact ending
    · rw [block]
      intro info member
      obtain ⟨pool, inside, rfl⟩ := List.mem_map.mp member
      have nslots : (poolInfo pool).nslots = body.headerNslots := encoded.nslots pool inside
      refine ⟨nslots, by rw [nslots]; exact readable.headerNslots.1, readable.strideBytes pool inside, ?_⟩
      change chars (textOf pool.regionUri.text) ≠ []
      rw [chars_textOf]
      exact (encoded.texts pool inside).1
    · rw [chars_textOf]
      exact encoded.header.1

end Granted

theorem width_int64 : int64.width = 8 := rfl

/-- The driver answers with known codes only. -/
theorem responseCode_known (code : Driver.ResponseCode) : responseCode code ∈ knownCodes := by
  cases code <;> decide

/-- Only the success of the driver is a success on the wire. -/
theorem responseCode_ok {code : Driver.ResponseCode} : responseCode code = codeOk ↔ code = .ok := by
  cases code <;> decide

/-- The length of a message is at least that of its header. -/
theorem long_of_header (header : Header) (rest : List UInt8) :
    ¬ (messageHeader.encode header ++ rest).length < messageHeader.width := by
  rw [List.length_append, messageHeader.length_encode]
  omega

/-- What a client knows after it has read a refusal. -/
def refused (start : AttachInfo) (response : Driver.AttachResponse) : AttachInfo :=
  { start with
    code := responseCode response.code
    errorMessage := copyAscii messageLength (some (textOf response.errorMessage.text)) }

/-- The bytes of a text that was sent are its data. -/
theorem varBytes_sent {field : Driver.VarAscii} (sent : field.Sent) :
    varBytes field = dataBytes (textOf field.text) := by
  obtain ⟨text, put⟩ := field
  obtain ⟨rfl, -⟩ := sent
  rfl

/-- A text that was put is short enough for its length. -/
theorem textOf_sent {field : Driver.VarAscii} (sent : field.Sent) : (textOf field.text).length < 2 ^ 32 :=
  Nat.lt_of_le_of_lt (Nat.le_trans (Discovery.length_string_le _) sent.short) (by decide)

/-- A refusal is read with its code and its text. -/
theorem refusal_told {response : Driver.AttachResponse} (other : response.code ≠ .ok) (empty : response.body = none)
    (sent : response.errorMessage.Sent) (allocates : Bool) (start : AttachInfo) :
    decodeAttachResponse allocates (Int64.ofInt response.correlationId) start (attachResponse response) =
      value (refused start response) := by
  have code : responseCode response.code ≠ codeOk := mt responseCode_ok.mp other
  have known := responseCode_known response.code
  have short := textOf_sent sent
  rw [attachResponse, empty, varBytes_sent sent, Option.map_none, Option.getD_none, regionBytes]
  rw [decodeAttachResponse, stopIf_pass (long_of_header _ _), value_bind, read_here, value_bind,
    stopIf_pass (by decide), value_bind, stopIf_pass (by decide), value_bind, stopIf_pass (by decide), value_bind]
  simp (disch := decide) only [read_behind, read_here, width_messageHeader, width_int64, Nat.reduceSub, value_bind]
  rw [stopIf_pass (not_not.mpr rfl), value_bind, stopIf_pass (not_not.mpr known), value_bind, if_neg code,
    decodeRefused]
  rw [drop_behind messageHeader 62 54 rfl, drop_behind int64 54 46 rfl, drop_behind int32 46 42 rfl,
    drop_behind leaseBlock 42 0 rfl, List.drop_zero, List.append_assoc, group_groupBytes _ _ _ (by decide)
      (by decide),
    value_bind]
  dsimp only
  rw [skipEntries, data_dataBytes _ _ (by decide), value_bind]
  dsimp only
  rw [← List.append_nil (dataBytes (textOf response.errorMessage.text)), data_dataBytes _ _ short, value_bind]
  rfl

/-- What a client knows after it has read the answer to a detach. -/
def detached (response : Driver.DetachResponse) : DetachInfo where
  correlationId := Int64.ofInt response.correlationId
  code := responseCode response.code
  errorMessage := copyAscii messageLength (some (textOf response.errorMessage.text))

/-- A detach response is decoded as the driver sent it. -/
theorem detach_told {response : Driver.DetachResponse} (sent : response.errorMessage.Sent)
    (start : DetachInfo) : decodeDetachResponse start (detachResponse response) = value (detached response) := by
  have known := responseCode_known response.code
  have short := textOf_sent sent
  rw [detachResponse, varBytes_sent sent, decodeDetachResponse, stopIf_pass (long_of_header _ _), value_bind,
    read_here, value_bind, stopIf_pass (by decide), value_bind, stopIf_pass (by decide), value_bind,
      stopIf_pass (by decide), value_bind]
  simp (disch := decide) only [read_behind, read_here, width_messageHeader, width_int64, Nat.reduceSub, value_bind]
  rw [stopIf_pass (not_not.mpr known), value_bind, drop_behind messageHeader 20 12 rfl, drop_behind int64 12 4 rfl,
    drop_behind int32 4 0 rfl, List.drop_zero, ← List.append_nil (dataBytes _), data_dataBytes _ _ short, value_bind]
  rfl

/-- What a client knows after it has read a revocation. -/
def revoked (notice : Driver.LeaseRevoked) : LeaseRevoked where
  timestampNs := notice.timestampNs
  leaseId := notice.leaseId
  streamId := notice.streamId
  clientId := notice.clientId
  role := notice.role.code
  reason := revokeReason notice.reason
  errorMessage := copyAscii messageLength (some (textOf notice.errorMessage.text))

/-- A revocation is decoded as the driver sent it. -/
theorem revoke_told {notice : Driver.LeaseRevoked} (sent : notice.errorMessage.Sent) :
    decodeLeaseRevoked (leaseRevoked notice) = value (revoked notice) := by
  have role : notice.role.code ∈ roles := by
    cases notice.role <;> decide
  have reason : revokeReason notice.reason ∈ leaseRevokeReasons := by
    cases notice.reason <;> decide
  have behind := @Wire.behindBlock_sent Wire.Refusal LeaseRevoked.codec
    (uint64.encode notice.timestampNs ++ (uint64.encode notice.leaseId ++ (uint32.encode notice.streamId ++
      (uint32.encode notice.clientId ++
        (uint8.encode notice.role.code ++ uint8.encode (revokeReason notice.reason))))))
    (dataBytes (textOf notice.errorMessage.text)) rfl
  simp only [List.append_assoc] at behind
  have short := textOf_sent sent
  rw [leaseRevoked, varBytes_sent sent, decodeLeaseRevoked, Wire.openMessage_sent, value_bind, behind]
  simp (disch := decide) only [read_behind, read_here, width_messageHeader, width_uint64, width_uint32, width_uint8,
    Nat.reduceSub, value_bind]
  rw [stopIf_pass (not_not.mpr role), value_bind, stopIf_pass (not_not.mpr reason), value_bind,
    ← List.append_nil (dataBytes _), data_dataBytes _ _ short, value_bind]
  rfl

/-- The driver hears its own publication, and it ignores a message that is no request. -/
theorem onControlFragment_ignores {codec : Wire.Codec} (schema : codec.schemaId = schemaId)
    (version : codec.version ≤ schemaVersion) (other : codec.templateId ∉ [1, 3, 5]) (rest : List UInt8) :
    onControlFragment (messageHeader.encode codec.header ++ rest) = stop none := by
  simp only [List.mem_cons, List.not_mem_nil, or_false, not_or] at other
  have attach : ¬ codec.header.templateId = AttachRequest.codec.templateId := other.1
  have detach : ¬ codec.header.templateId = DetachRequest.codec.templateId := other.2.1
  have keepalive : ¬ codec.header.templateId = LeaseKeepalive.codec.templateId := other.2.2
  rw [onControlFragment_opened schema version, dispatch, if_neg attach, if_neg detach, if_neg keepalive]

/-- Messages of the other schema are ignored. -/
theorem controlBytes_ignored {message : Driver.Message} {bytes : List UInt8}
    (sent : controlBytes message = some bytes) :
    onControlFragment bytes = stop none := by
  cases message with
  | attachResponse response =>
      cases sent
      exact onControlFragment_ignores rfl (UInt16.le_refl _) (by decide) _
  | detachResponse response =>
      cases sent
      exact onControlFragment_ignores rfl (UInt16.le_refl _) (by decide) _
  | leaseRevoked notice =>
      cases sent
      exact onControlFragment_ignores rfl (UInt16.le_refl _) (by decide) _
  | poolAnnounce announce => cases sent

/--
A client takes a grant exactly when its URIs are whole and it can read it, and then as the driver sent it.
Every other message is told as it was sent.
-/
def Told : Driver.Message → Prop
  | .attachResponse response =>
      match response.body with
      | some body => ∀ start info, decodeAttachResponse true (Int64.ofInt response.correlationId) start
            (attachResponse response) = value info ∧ info.code = codeOk ↔
          body.Whole ∧ Readable body ∧ info = told start body
      | none => ∀ allocates start, decodeAttachResponse allocates (Int64.ofInt response.correlationId) start
          (attachResponse response) = value (refused start response)
  | .detachResponse response => ∀ start, decodeDetachResponse start (detachResponse response) =
    value (detached response)
  | .leaseRevoked notice => decodeLeaseRevoked (leaseRevoked notice) = value (revoked notice)
  | .poolAnnounce _ => True

/-- The strings of a grant are read back without their null bytes. -/
theorem told_read {body : Driver.AttachBody} (encoded : Encoded body) (start : AttachInfo) :
    (told start body).pools.map (List.map PoolInfo.read) = some (body.payloadPools.map poolInfo) ∧
      chars (told start body).headerRegionUri = textOf body.headerRegionUri.text := by
  constructor
  · change some (((body.payloadPools.map poolInfo).map PoolInfo.copied).map PoolInfo.read) = _
    rw [List.map_map, List.map_congr_left, List.map_id]
    intro info member
    obtain ⟨pool, inside, rfl⟩ := List.mem_map.mp member
    exact PoolInfo.read_copied.mpr (textOf_plain (encoded.texts pool inside).2)
  · exact chars_copied_self.mpr (textOf_plain encoded.header.2)

/-- Each message that the driver can send tells its clients what it means. -/
theorem sendable_told {o : Driver.Oracle} {message : Driver.Message} (sendable : Driver.Sendable o message) :
    Told message := by
  cases message with
  | attachResponse response =>
      obtain ⟨other, granted⟩ := sendable
      by_cases ok : response.code = .ok
      · obtain ⟨body, carried, config, stream, lease, requireHugepages, position, encoded, text⟩ := granted ok
        have shape : attachResponse response = grantBytes (Int64.ofInt response.correlationId) body
            (varBytes response.errorMessage) := by
          rw [attachResponse, carried, ok, regionBytes, grantBytes]
          simp only [List.append_assoc]
          rfl
        have inside : position + (varBytes response.errorMessage).length ≤ Driver.bufferLength := by
          rw [text]
          exact Nat.le_trans varBytes_room (Driver.putVarData_inside (encodeAttachBody_inside encoded))
        rw [Told, carried]
        intro start info
        rw [shape]
        exact grant_told_iff encoded inside start info
      · obtain ⟨empty, sent⟩ := other ok
        rw [Told, empty]
        exact refusal_told ok empty sent
  | detachResponse response => exact detach_told sendable
  | leaseRevoked notice => exact revoke_told sendable
  | poolAnnounce announce => trivial

/--
In every run each message of the driver is decoded by a client as it was sent, a grant if and only if it is
whole and readable, with every string of a grant, and the driver, which hears it too, ignores it.
-/
theorem run_told (o : Driver.Oracle) (config : Driver.Config) (started : Bool) (ops : List Driver.Op)
    (message : Driver.Message) (result : Int)
    (sent : .offered message result ∈ (Driver.run o (Driver.boot o config started) ops).world.log) :
    Told message ∧ (∀ bytes, controlBytes message = some bytes → onControlFragment bytes = stop none) ∧
      ∀ response body start, message = .attachResponse response → response.body = some body →
        (told start body).pools.map (List.map PoolInfo.read) = some (body.payloadPools.map poolInfo) ∧
          chars (told start body).headerRegionUri = textOf body.headerRegionUri.text := by
  have sendable := Driver.run_sendable o config started ops sent
  refine ⟨sendable_told sendable, fun bytes => controlBytes_ignored, ?_⟩
  rintro response body start rfl carried
  obtain ⟨other, granted⟩ := sendable
  by_cases ok : response.code = .ok
  · obtain ⟨body', carried', config, stream, lease, requireHugepages, position, encoded, -⟩ := granted ok
    rw [carried'] at carried
    cases carried
    exact told_read (encodeAttachBody_encoded encoded) start
  · rw [(other ok).1] at carried
    cases carried

/-- This is the answer to the first producer of the plain environment. -/
def plainGrant : Driver.AttachBody where
  leaseId := 6
  leaseExpiryTimestampNs := 3000000100
  streamId := 1
  epoch := 100
  layoutVersion := 1
  headerNslots := 8
  headerSlotBytes := 256
  nodeId := 1
  payloadPools := [⟨1, 8, 64,
    ⟨"shm:file?path=/dev/shm/tensorpool-unknown/default/1/100/1.pool|require_hugepages=false", .whole⟩⟩]
  headerRegionUri :=
    ⟨"shm:file?path=/dev/shm/tensorpool-unknown/default/1/100/header.ring|require_hugepages=false", .whole⟩

theorem run_told_plain : Told (.attachResponse ⟨0, .ok, some plainGrant, ⟨"", .whole⟩⟩) :=
  (run_told Driver.plainOracle Driver.plainConfig false [.attach (Driver.plainRequest 1 .producer)]
    (.attachResponse ⟨0, .ok, some plainGrant, ⟨"", .whole⟩⟩) 1 (by decide +kernel)).1

end TensorPool.Protocol
