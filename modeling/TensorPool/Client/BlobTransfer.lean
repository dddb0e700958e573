/-
This file follows a blob from the producer that sends it in chunks to the poller that delivers it.
-/

import TensorPool.Client.Metadata
import TensorPool.Wire.RoundTrip

namespace TensorPool.Client

open Scan Flyweight FixedField Wire

/-- This is `tp_producer_send_meta_blob_announce` up to its offer; what it sends has the fields of the view. -/
def encodeMetaBlobAnnounce (announce : MetaBlobAnnounceView) : List UInt8 :=
  messageHeader.encode MetaBlob.announceCodec.header ++ (uint32.encode announce.streamId ++
    (uint32.encode announce.metaVersion ++ (uint32.encode announce.blobType ++ (uint64.encode announce.totalLen ++
      uint64.encode announce.checksum))))

def chunkBlock (chunk : MetaBlobChunkView) : List UInt8 :=
  uint32.encode chunk.streamId ++ (uint32.encode chunk.metaVersion ++ uint64.encode chunk.offset)

/-- This is `tp_producer_send_meta_blob_chunk` up to its offer, whose check leaves out the length in front of the
bytes. -/
def encodeMetaBlobChunk (chunk : MetaBlobChunkView) : Except Refusal (List UInt8) :=
  if chunk.bytes.length = 0 then
    .error ⟨-1, some "tp_producer_send_meta_blob_chunk: empty chunk"⟩
  else if 4096 - 8 - 16 < chunk.bytes.length then
    .error ⟨-1, some "tp_producer_send_meta_blob_chunk: chunk too large"⟩
  else
    .ok (putData 4096 chunk.bytes (messageHeader.encode MetaBlob.chunkCodec.header ++ chunkBlock chunk))

/-- This is `tp_producer_send_meta_blob_complete` up to its offer. -/
def encodeMetaBlobComplete (complete : MetaBlobCompleteView) : List UInt8 :=
  messageHeader.encode MetaBlob.completeCodec.header ++ (uint32.encode complete.streamId ++
    (uint32.encode complete.metaVersion ++ uint64.encode complete.checksum))

/-- A blob has a length that its announce can tell. -/
structure Blob where
  blobType : UInt32
  checksum : UInt64
  bytes : List UInt8
  small : bytes.length < 2 ^ 64

namespace Blob

def announce (blob : Blob) (streamId metaVersion : UInt32) : MetaBlobAnnounceView :=
  ⟨streamId, metaVersion, blob.blobType, UInt64.ofNat blob.bytes.length, blob.checksum⟩

def chunk (blob : Blob) (streamId metaVersion : UInt32) (offset length : Nat) : MetaBlobChunkView :=
  ⟨streamId, metaVersion, UInt64.ofNat offset, (blob.bytes.drop offset).take length⟩

def complete (blob : Blob) (streamId metaVersion : UInt32) : MetaBlobCompleteView :=
  ⟨streamId, metaVersion, blob.checksum⟩

/-- These are chunks of the given lengths, one behind the other. -/
def chunks (blob : Blob) (streamId metaVersion : UInt32) (offset : Nat) : List Nat → List MetaBlobChunkView
  | [] => []
  | length :: lengths =>
      blob.chunk streamId metaVersion offset length :: blob.chunks streamId metaVersion (offset + length) lengths

/-- A producer sends the announce, the chunks and the end. -/
def send (blob : Blob) (streamId metaVersion : UInt32) (lengths : List Nat) : Except Refusal (List (List UInt8)) := do
  let chunks ← (blob.chunks streamId metaVersion 0 lengths).mapM encodeMetaBlobChunk
  .ok (encodeMetaBlobAnnounce (blob.announce streamId metaVersion) :: chunks ++
    [encodeMetaBlobComplete (blob.complete streamId metaVersion)])

end Blob

/-- The fragment has the header of an announce, a chunk or an end. -/
def aboutBlob (bytes : List UInt8) : Bool :=
  8 ≤ bytes.length && (messageHeader.decode bytes).schemaId = 900 &&
    ((messageHeader.decode bytes).templateId = 10 || (messageHeader.decode bytes).templateId = 12 ||
      (messageHeader.decode bytes).templateId = 13)

section Codec

variable {chunk : MetaBlobChunkView} {bytes : List UInt8}

/-- A field at the end of a fragment is read back. -/
theorem read_last {ε α : Type} (field : FixedField α) (written : α) :
    (read field 0 (field.encode written) : Scan ε α) = value written := by
  have here := @read_here ε α field written []
  rwa [List.append_nil] at here

/-- A blob announce is received as it was sent. -/
theorem announce_decodes (announce : MetaBlobAnnounceView) :
    decodeMetaBlobAnnounce (encodeMetaBlobAnnounce announce) = value announce := by
  rw [decodeMetaBlobAnnounce, encodeMetaBlobAnnounce, openMessage_sent, value_bind]
  simp (disch := decide) only [read_here, read_behind, read_last, width_messageHeader, width_uint32, width_uint64,
    Nat.reduceSub, value_bind]

/-- A completion is received as it was sent. -/
theorem complete_decodes (complete : MetaBlobCompleteView) :
    decodeMetaBlobComplete (encodeMetaBlobComplete complete) = value complete := by
  rw [decodeMetaBlobComplete, encodeMetaBlobComplete, openMessage_sent, value_bind]
  simp (disch := decide) only [read_here, read_behind, read_last, width_messageHeader, width_uint32, Nat.reduceSub,
    value_bind]

/-- The header and the block of a chunk have 24 bytes. -/
theorem length_chunkFront (chunk : MetaBlobChunkView) :
    (messageHeader.encode MetaBlob.chunkCodec.header ++ chunkBlock chunk).length = 24 := by
  simp [chunkBlock, FixedField.length_encode]

/-- The sender takes chunks of up to 4072 bytes. -/
theorem encodeChunk_ok_iff : encodeMetaBlobChunk chunk = .ok bytes ↔ 0 < chunk.bytes.length ∧
    chunk.bytes.length ≤ 4072 ∧
      bytes = putData 4096 chunk.bytes (messageHeader.encode MetaBlob.chunkCodec.header ++ chunkBlock chunk) := by
  unfold encodeMetaBlobChunk
  constructor
  · intro encoded
    split at encoded
    · cases encoded
    next filled =>
      split at encoded
      · cases encoded
      next few =>
        cases encoded
        exact ⟨Nat.pos_of_ne_zero filled, Nat.le_of_not_lt few, rfl⟩
  · rintro ⟨filled, few, rfl⟩
    rw [if_neg (Nat.pos_iff_ne_zero.mp filled), if_neg (Nat.not_lt.mpr few)]

/-- What the decoder gets to behind the block of a chunk. -/
theorem decodeChunk_rest (chunk : MetaBlobChunkView) (rest : List UInt8) :
    decodeMetaBlobChunk (messageHeader.encode MetaBlob.chunkCodec.header ++ (chunkBlock chunk ++ rest)) = (do
      let (data, _) ← decodeVarData ⟨-1, some "tp_control_decode_meta_blob_chunk: invalid bytes"⟩ rest
      value ⟨chunk.streamId, chunk.metaVersion, chunk.offset, data⟩) := by
  have behind := @behindBlock_sent Refusal MetaBlob.chunkCodec (chunkBlock chunk) rest rfl
  rw [decodeMetaBlobChunk, openMessage_sent, value_bind, behind]
  simp (disch := decide) only [chunkBlock, List.append_assoc, read_here, read_behind, width_messageHeader,
    width_uint32, Nat.reduceSub, value_bind]

/-- A chunk that fits the buffer with its length is decoded again. -/
theorem chunk_decodes (encoded : encodeMetaBlobChunk chunk = .ok bytes) (fits : chunk.bytes.length ≤ 4068) :
    decodeMetaBlobChunk bytes = value chunk := by
  obtain ⟨-, -, rfl⟩ := encodeChunk_ok_iff.mp encoded
  have room : (messageHeader.encode MetaBlob.chunkCodec.header ++ chunkBlock chunk).length +
    (4 + chunk.bytes.length) ≤
      4096 := by
    rw [length_chunkFront]
    omega
  have rest := @decodeVarData_dataBytes Refusal
    ⟨-1, some "tp_control_decode_meta_blob_chunk: invalid bytes"⟩ chunk.bytes [] (by omega)
  rw [List.append_nil] at rest
  rw [putData_fits room, List.append_assoc, decodeChunk_rest, rest, value_bind]

/-- Of a chunk that does not, the sender takes up to 4072 bytes, and only their length is in the message. -/
theorem encodeChunk_long (tooLong : 4068 < chunk.bytes.length) (few : chunk.bytes.length ≤ 4072) :
    encodeMetaBlobChunk chunk = .ok (messageHeader.encode MetaBlob.chunkCodec.header ++
      (chunkBlock chunk ++ uint32.encode (UInt32.ofNat chunk.bytes.length))) := by
  have front := length_chunkFront chunk
  obtain ⟨more, parts, all⟩ := @putData_length 4096 chunk.bytes
    (messageHeader.encode MetaBlob.chunkCodec.header ++ chunkBlock chunk) (by rw [front]; omega)
  obtain rfl : more = [] := by
    obtain none | ⟨-, fits⟩ := all
    · exact none
    · rw [front] at fits
      omega
  rw [List.append_nil, List.append_assoc] at parts
  exact encodeChunk_ok_iff.mpr ⟨by omega, few, parts.symm⟩

/-- Every decoder refuses a chunk that is sent with its length only. -/
theorem chunk_refused (encoded : encodeMetaBlobChunk chunk = .ok bytes) (tooLong : 4068 < chunk.bytes.length) :
    decodeMetaBlobChunk bytes = stop ⟨-1, some "tp_control_decode_meta_blob_chunk: invalid bytes"⟩ := by
  obtain ⟨-, few, -⟩ := encodeChunk_ok_iff.mp encoded
  rw [encodeChunk_long tooLong few] at encoded
  cases encoded
  have length : (UInt32.ofNat chunk.bytes.length).toNat = chunk.bytes.length := UInt32.toNat_ofNat_of_lt' (by
    change _ < 2 ^ 32
    omega)
  have alone : checkedData (uint32.encode (UInt32.ofNat chunk.bytes.length)) = none := by
    have told : uint32.decode (uint32.encode (UInt32.ofNat chunk.bytes.length)) =
      UInt32.ofNat chunk.bytes.length := by
      have read := uint32.decode_encode (UInt32.ofNat chunk.bytes.length) []
      rwa [List.append_nil] at read
    rw [checkedData, uint32.length_encode, told, length]
    dsimp only
    rw [if_neg (by decide), if_pos (by change 4 < _; omega)]
  rw [decodeChunk_rest, decodeVarData, alone, stop_bind]

end Codec

section Handle

variable {poller after : MetadataPoller} {bytes : List UInt8} {calls : List MetadataCall}

/-- What starts with the header of a codec is addressed as its message. -/
theorem addressed_sent (codec : Codec) (rest : List UInt8) :
    Addressed codec (messageHeader.encode codec.header ++ rest) := by
  have decoded : messageHeader.decode (messageHeader.encode codec.header ++ rest) = codec.header :=
    messageHeader.decode_encode _ _
  constructor
  · rw [List.length_append, messageHeader.length_encode]
    exact Nat.le_add_right _ _
  · rw [decoded]
    rfl
  · rw [decoded]
    rfl

/-- A message of another kind than those of a data source is left to the part about blobs. -/
theorem handle_blob {codec : Codec} (addressed : Addressed codec bytes) (announce : codec.templateId ≠ 7)
    (source : codec.templateId ≠ 8) : poller.handle bytes = (do
      let outcome ← poller.handleBlob bytes
      value (outcome.1, outcome.2.map .blob)) := by
  have first : poller.handleAnnounce bytes = value none := by
    rw [MetadataPoller.handleAnnounce, decodeDataSourceAnnounce, openMessage_other addressed (.inr announce),
      stop_bind]
    cases poller.handlers.onDataSourceAnnounce <;> rfl
  have second : poller.handleMeta bytes = value [] := by
    rw [MetadataPoller.handleMeta, decodeDataSourceMeta, openMessage_other addressed (.inr source), mapStop,
      stop_bind]
    split <;> rfl
  rw [MetadataPoller.handle, first, value_bind, second, value_bind]
  rfl

/-- A sent announce begins the blob. -/
theorem handle_announced (poller : MetadataPoller) (announce : MetaBlobAnnounceView) :
    poller.handle (encodeMetaBlobAnnounce announce) = value (poller.blobBegin announce,
      (callIf poller.handlers.onMetaBlobAnnounce (.announce announce)).map .blob) := by
  have addressed : Addressed MetaBlob.announceCodec (encodeMetaBlobAnnounce announce) := addressed_sent _ _
  rw [handle_blob addressed (by decide) (by decide), MetadataPoller.handleBlob, announce_decodes]
  rfl

/-- An encoded chunk is addressed as one. -/
theorem chunk_sent {chunk : MetaBlobChunkView} (encoded : encodeMetaBlobChunk chunk = .ok bytes) :
    Addressed MetaBlob.chunkCodec bytes := by
  obtain ⟨-, -, rfl⟩ := encodeChunk_ok_iff.mp encoded
  obtain ⟨more, shape, -⟩ := putData_extends 4096 chunk.bytes ((length_chunkFront chunk).trans_le (by decide))
  rw [shape, List.append_assoc]
  exact addressed_sent _ _

/-- A sent chunk is validated, and it is given on when it is accepted. -/
theorem handle_chunked (poller : MetadataPoller) {chunk : MetaBlobChunkView}
    (encoded : encodeMetaBlobChunk chunk = .ok bytes) (fits : chunk.bytes.length ≤ 4068) :
    poller.handle bytes = value ((poller.validateChunk chunk).1,
      (if (poller.validateChunk chunk).2 then callIf poller.handlers.onMetaBlobChunk (.chunk chunk)
        else []).map .blob) := by
  have addressed := chunk_sent encoded
  rw [handle_blob addressed (by decide) (by decide), MetadataPoller.handleBlob, decodeMetaBlobAnnounce,
    openMessage_other addressed (by decide), stop_bind, chunk_decodes encoded fits]
  rfl

/-- A chunk whose bytes were left out is not noticed. -/
theorem handle_lost (poller : MetadataPoller) {chunk : MetaBlobChunkView}
    (encoded : encodeMetaBlobChunk chunk = .ok bytes) (tooLong : 4068 < chunk.bytes.length) :
    poller.handle bytes = value (poller, []) := by
  have addressed := chunk_sent encoded
  rw [handle_blob addressed (by decide) (by decide), MetadataPoller.handleBlob, decodeMetaBlobAnnounce,
    openMessage_other addressed (by decide), stop_bind, chunk_refused encoded tooLong, decodeMetaBlobComplete,
    openMessage_other addressed (by decide), stop_bind]
  rfl

/-- A sent completion is validated, and the blob is reset. -/
theorem handle_completed (poller : MetadataPoller) (complete : MetaBlobCompleteView) :
    poller.handle (encodeMetaBlobComplete complete) = value ((poller.validateComplete complete).1.blobReset,
      (if (poller.validateComplete complete).2 then callIf poller.handlers.onMetaBlobComplete (.complete complete)
        else []).map .blob) := by
  have addressed : Addressed MetaBlob.completeCodec (encodeMetaBlobComplete complete) := addressed_sent _ _
  rw [handle_blob addressed (by decide) (by decide), MetadataPoller.handleBlob, decodeMetaBlobAnnounce,
    openMessage_other addressed (by decide), stop_bind, decodeMetaBlobChunk, openMessage_other addressed (by decide),
    stop_bind, complete_decodes]
  rfl

/-- A message is about a blob when it is an announce, a chunk or a completion of one. -/
theorem aboutBlob_iff : aboutBlob bytes = true ↔ Addressed MetaBlob.announceCodec bytes ∨
    Addressed MetaBlob.chunkCodec bytes ∨ Addressed MetaBlob.completeCodec bytes := by
  simp only [aboutBlob, Bool.and_eq_true, Bool.or_eq_true, decide_eq_true_eq]
  constructor
  · rintro ⟨⟨whole, schemaId⟩, (announce | chunk) | complete⟩
    · exact .inl ⟨whole, schemaId, announce⟩
    · exact .inr (.inl ⟨whole, schemaId, chunk⟩)
    · exact .inr (.inr ⟨whole, schemaId, complete⟩)
  · rintro (addressed | addressed | addressed)
    · exact ⟨⟨addressed.whole, addressed.schemaId⟩, .inl (.inl addressed.templateId)⟩
    · exact ⟨⟨addressed.whole, addressed.schemaId⟩, .inl (.inr addressed.templateId)⟩
    · exact ⟨⟨addressed.whole, addressed.schemaId⟩, .inr addressed.templateId⟩

/-- Other messages leave the blob alone. -/
theorem handle_foreign (foreign : aboutBlob bytes = false) (handled : poller.handle bytes = value (after, calls)) :
    after = poller ∧ blobCalls calls = [] := by
  have other : ¬ (Addressed MetaBlob.announceCodec bytes ∨ Addressed MetaBlob.chunkCodec bytes ∨
      Addressed MetaBlob.completeCodec bytes) := by
    rw [← aboutBlob_iff, foreign]
    exact Bool.false_ne_true
  cases handle_cases handled with
  | inl source => exact ⟨source.1, source.2.1⟩
  | inr blob =>
      obtain ⟨announce, decoded, -⟩ | ⟨chunk, decoded, -⟩ | ⟨complete, decoded, -⟩ | none := handleBlob_cases blob
      · exact absurd (.inl (announce_addressed decoded)) other
      · exact absurd (.inr (.inl (chunk_addressed decoded))) other
      · exact absurd (.inr (.inr (complete_addressed decoded))) other
      · exact ⟨none.1, none.2.1⟩

end Handle

section Whole

variable {blobs : UInt32 → UInt32 → Option Blob} {bytes : List UInt8} {fragments : List (List UInt8)}

/-- The messages that producers send of the blobs of their streams and versions, in chunks from anywhere in a
blob, and all messages of other kinds. -/
inductive Sent (blobs : UInt32 → UInt32 → Option Blob) : List UInt8 → Prop where
  | announce {streamId metaVersion : UInt32} {blob : Blob} (found : blobs streamId metaVersion = some blob) :
      Sent blobs (encodeMetaBlobAnnounce (blob.announce streamId metaVersion))
  | chunk {streamId metaVersion : UInt32} {blob : Blob} (found : blobs streamId metaVersion = some blob)
      {offset length : Nat} (inside : offset + length ≤ blob.bytes.length) {bytes : List UInt8}
      (encoded : encodeMetaBlobChunk (blob.chunk streamId metaVersion offset length) = .ok bytes) : Sent blobs bytes
  | complete {streamId metaVersion : UInt32} {blob : Blob} (found : blobs streamId metaVersion = some blob) :
      Sent blobs (encodeMetaBlobComplete (blob.complete streamId metaVersion))
  | foreign {bytes : List UInt8} (foreign : aboutBlob bytes = false) : Sent blobs bytes

/-- What is delivered is true of the blob with that stream and version. -/
def Genuine (blobs : UInt32 → UInt32 → Option Blob) : BlobCall → Prop
  | .announce view => ∃ blob, blobs view.streamId view.metaVersion = some blob ∧
      view = blob.announce view.streamId view.metaVersion
  | .chunk view => ∃ blob, blobs view.streamId view.metaVersion = some blob ∧
      view.bytes = (blob.bytes.drop view.offset.toNat).take view.bytes.length
  | .complete view => ∃ blob, blobs view.streamId view.metaVersion = some blob ∧
      view = blob.complete view.streamId view.metaVersion

/-- A handler gets only the call that is made. -/
theorem mem_callIf {Call : Type} {registered : Bool} {call other : Call} (member : other ∈ callIf registered call) :
    other = call := by
  unfold callIf at member
  split at member
  · exact List.mem_singleton.mp member
  · cases member

/-- A part of a known blob is genuine. -/
theorem genuine_chunk {streamId metaVersion : UInt32} {blob : Blob} (found : blobs streamId metaVersion = some blob)
    {offset length : Nat} (inside : offset + length ≤ blob.bytes.length) :
    Genuine blobs (.chunk (blob.chunk streamId metaVersion offset length)) := by
  have place : (UInt64.ofNat offset).toNat = offset :=
    UInt64.toNat_ofNat_of_lt' ((Nat.le_of_add_right_le inside).trans_lt blob.small)
  have size : ((blob.bytes.drop offset).take length).length = length := by
    rw [List.length_take, List.length_drop]
    omega
  refine ⟨blob, found, ?_⟩
  change (blob.bytes.drop offset).take length = (blob.bytes.drop (UInt64.ofNat offset).toNat).take _
  rw [place, Blob.chunk, size]

/-- The calls that a sent message leads to are genuine. -/
theorem Sent.genuine (sent : Sent blobs bytes) {poller after : MetadataPoller} {calls : List MetadataCall}
    (handled : poller.handle bytes = value (after, calls)) : ∀ call ∈ blobCalls calls, Genuine blobs call := by
  intro call member
  cases sent with
  | @announce streamId metaVersion blob found =>
      rw [handle_announced] at handled
      cases handled
      rw [blobCalls_blob] at member
      rw [mem_callIf member]
      exact ⟨blob, found, rfl⟩
  | @chunk streamId metaVersion blob found offset length inside _ encoded =>
      by_cases fits : (blob.chunk streamId metaVersion offset length).bytes.length ≤ 4068
      · rw [handle_chunked poller encoded fits] at handled
        cases handled
        rw [blobCalls_blob] at member
        split at member
        · rw [mem_callIf member]
          exact genuine_chunk found inside
        · cases member
      · rw [handle_lost poller encoded (Nat.lt_of_not_le fits)] at handled
        cases handled
        cases member
  | @complete streamId metaVersion blob found =>
      rw [handle_completed] at handled
      cases handled
      rw [blobCalls_blob] at member
      split at member
      · rw [mem_callIf member]
        exact ⟨blob, found, rfl⟩
      · cases member
  | foreign foreign =>
      rw [(handle_foreign foreign handled).2] at member
      cases member

/-- All calls of a run of sent messages are genuine. -/
theorem genuine_run {session session' : MetadataSession} (sent : ∀ fragment ∈ fragments, Sent blobs fragment)
    (ran : GuardedRun.run MetadataSession.step session fragments = some session')
    (start : ∀ call ∈ session.blobs, Genuine blobs call) : ∀ call ∈ session'.blobs, Genuine blobs call := by
  apply GuardedRun.keepsAll _ sent ran start
  intro session bytes session' genuine sent stepped call member
  obtain ⟨calls, handled, grown⟩ := MetadataSession.step_some stepped
  rw [grown] at member
  obtain before | now := List.mem_append.mp member
  · exact genuine call before
  · exact sent.genuine handled call now

/-- An end comes behind the announce of its blob and chunks that give the blob when they are put together. -/
def Delivered (blobs : UInt32 → UInt32 → Option Blob) (earlier : List BlobCall) (complete : MetaBlobCompleteView) :
    Prop :=
  ∃ (blob : Blob) (before : List BlobCall) (chunks : List MetaBlobChunkView),
    blobs complete.streamId complete.metaVersion = some blob ∧
    complete = blob.complete complete.streamId complete.metaVersion ∧
    earlier = before ++ .announce (blob.announce complete.streamId complete.metaVersion) :: chunks.map .chunk ∧
    chunks.flatMap MetaBlobChunkView.bytes = blob.bytes

/-- Whatever is lost, repeated or reordered of the messages of any number of blobs, a completed blob is the one
that was sent. -/
theorem run_delivers {handlers : MetadataHandlers} {session : MetadataSession}
    (announces : handlers.onMetaBlobAnnounce = true) (chunks : handlers.onMetaBlobChunk = true)
    (sent : ∀ fragment ∈ fragments, Sent blobs fragment)
    (ran : GuardedRun.run MetadataSession.step (MetadataSession.init handlers) fragments = some session) :
    ∀ earlier complete later, session.blobs = earlier ++ .complete complete :: later →
      Delivered blobs earlier complete := by
  intro earlier complete later split
  have genuine := genuine_run sent ran fun _ absent => absurd absent List.not_mem_nil
  obtain ⟨before, announce, pieces, shape, transferred, streamId, metaVersion, -⟩ :=
    (MetadataSession.sound_run announces chunks ran).completes earlier complete later split
  have ended : Genuine blobs (.complete complete) := genuine _ (by simp [split])
  have begun : Genuine blobs (.announce announce) := genuine _ (by simp [split, shape])
  obtain ⟨blob, found, whole⟩ := ended
  obtain ⟨other, found', told⟩ := begun
  rw [← streamId, ← metaVersion] at found' told
  obtain rfl : blob = other := Option.some.inj (found.symm.trans found')
  refine ⟨blob, before, pieces, found, whole, told ▸ shape, ?_⟩
  have length : announce.totalLen.toNat = blob.bytes.length := by
    rw [told]
    exact UInt64.toNat_ofNat_of_lt' blob.small
  have cut : ∀ piece ∈ pieces, piece.bytes = (blob.bytes.drop piece.offset.toNat).take piece.bytes.length := by
    intro piece present
    obtain ⟨source, found'', bytes⟩ : Genuine blobs (.chunk piece) := by
      apply genuine
      rw [split, shape]
      exact List.mem_append_left _ (List.mem_append_right _ (List.mem_cons_of_mem _ (List.mem_map_of_mem present)))
    obtain ⟨sameStream, sameVersion⟩ := transferred.same piece present
    rw [sameStream, sameVersion, ← streamId, ← metaVersion] at found''
    rwa [Option.some.inj (found.symm.trans found'')]
  rw [transferred.tiles.joined cut, length, List.take_length]

def letters : Blob := ⟨7, 9, [97, 98, 99], by decide⟩

/-- Only the second version of the fifth stream has a blob. -/
def lettersOnly (streamId metaVersion : UInt32) : Option Blob :=
  if streamId = 5 ∧ metaVersion = 2 then some letters else none

/-- The chunk that was cut first is heard alone, and again behind its announce, and the last one is heard twice. -/
def mixedUp : List (List UInt8) :=
  [putData 4096 [97, 98] (messageHeader.encode MetaBlob.chunkCodec.header ++ chunkBlock (letters.chunk 5 2 0 2)),
    encodeMetaBlobAnnounce (letters.announce 5 2), [],
    putData 4096 [97, 98] (messageHeader.encode MetaBlob.chunkCodec.header ++ chunkBlock (letters.chunk 5 2 0 2)),
    putData 4096 [99] (messageHeader.encode MetaBlob.chunkCodec.header ++ chunkBlock (letters.chunk 5 2 2 1)),
    encodeMetaBlobComplete (letters.complete 5 2),
    putData 4096 [99] (messageHeader.encode MetaBlob.chunkCodec.header ++ chunkBlock (letters.chunk 5 2 2 1))]

theorem run_delivers_letters : Delivered lettersOnly
    [.announce ⟨5, 2, 7, 3, 9⟩, .chunk ⟨5, 2, 0, [97, 98]⟩, .chunk ⟨5, 2, 2, [99]⟩] ⟨5, 2, 9⟩ := by
  have sent : ∀ fragment ∈ mixedUp, Sent lettersOnly fragment := by
    have found : lettersOnly 5 2 = some letters := rfl
    have front : Sent lettersOnly _ := @Sent.chunk _ 5 2 letters found 0 2 (by decide) _ rfl
    have back : Sent lettersOnly _ := @Sent.chunk _ 5 2 letters found 2 1 (by decide) _ rfl
    simp only [mixedUp, List.forall_mem_cons]
    exact ⟨front, .announce found, .foreign rfl, front, back, .complete found, back, fun _ absent => by cases absent⟩
  obtain ⟨session, ran, delivered⟩ : ∃ session,
      GuardedRun.run MetadataSession.step (MetadataSession.init allHandlers) mixedUp = some session ∧
        session.blobs = [.announce ⟨5, 2, 7, 3, 9⟩, .chunk ⟨5, 2, 0, [97, 98]⟩, .chunk ⟨5, 2, 2, [99]⟩] ++
          .complete ⟨5, 2, 9⟩ :: [] := ⟨_, rfl, rfl⟩
  exact run_delivers rfl rfl sent ran _ _ _ delivered

end Whole

section Transfer

variable {blob : Blob} {streamId metaVersion : UInt32} {offset : Nat} {lengths : List Nat}
variable {session session' : MetadataSession}

/-- The poller has taken the blob up to an offset. -/
structure OnTrack (blob : Blob) (streamId metaVersion : UInt32) (offset : Nat) (poller : MetadataPoller) : Prop where
  chunks : poller.handlers.onMetaBlobChunk = true
  completes : poller.handlers.onMetaBlobComplete = true
  active : poller.blobActive = true
  streamId : poller.blobStreamId = streamId
  metaVersion : poller.blobMetaVersion = metaVersion
  total : poller.blobTotalLen = UInt64.ofNat blob.bytes.length
  checksum : poller.blobChecksum = blob.checksum
  next : poller.blobNextOffset = UInt64.ofNat offset

/-- The poller has given the blob up, or it waits for a chunk that is gone. -/
def Behind (blob : Blob) (offset : Nat) (poller : MetadataPoller) : Prop :=
  poller.blobActive = false ∨
    poller.blobNextOffset.toNat < offset ∧ poller.blobTotalLen = UInt64.ofNat blob.bytes.length

/-- A handled fragment adds its calls. -/
theorem step_handled {bytes : List UInt8} {poller : MetadataPoller} {calls : List MetadataCall}
    (handled : session.poller.handle bytes = value (poller, calls)) :
    session.step bytes = some ⟨poller, session.calls ++ calls⟩ := by
  rw [MetadataSession.step, handled]

theorem toNat_within (inside : offset ≤ blob.bytes.length) : (UInt64.ofNat offset).toNat = offset :=
  UInt64.toNat_ofNat_of_lt' (inside.trans_lt blob.small)

/-- A chunk inside the blob has its length. -/
theorem length_chunk_bytes {length : Nat} (inside : offset + length ≤ blob.bytes.length) :
    (blob.chunk streamId metaVersion offset length).bytes.length = length := by
  rw [Blob.chunk, List.length_take, List.length_drop]
  omega

/-- The next chunk is taken. -/
theorem OnTrack.validate {poller : MetadataPoller} (track : OnTrack blob streamId metaVersion offset poller)
    {length : Nat} (filled : 0 < length) (inside : offset + length ≤ blob.bytes.length) :
    (poller.validateChunk (blob.chunk streamId metaVersion offset length)).2 = true ∧
      OnTrack blob streamId metaVersion (offset + length)
        (poller.validateChunk (blob.chunk streamId metaVersion offset length)).1 := by
  have size := @length_chunk_bytes blob streamId metaVersion offset length inside
  have place := @toNat_within blob offset (by omega)
  have count := @toNat_within blob length (by omega)
  have whole := @toNat_within blob blob.bytes.length (Nat.le_refl _)
  have below : ¬ poller.blobTotalLen < UInt64.ofNat offset := by
    rw [track.total, UInt64.lt_iff_toNat_lt, place, whole]
    omega
  have room : ¬ poller.blobTotalLen - UInt64.ofNat offset < UInt64.ofNat length := by
    rw [UInt64.lt_iff_toNat_lt, UInt64.toNat_sub_of_le _ _ (UInt64.not_lt.mp below), track.total, place, whole, count]
    omega
  have accepted : poller.validateChunk (blob.chunk streamId metaVersion offset length) =
      ({ poller with blobNextOffset := UInt64.ofNat offset + UInt64.ofNat length }, true) := by
    rw [MetadataPoller.validateChunk, if_neg (by simp [track.active]),
      if_neg (by simp [Blob.chunk, track.streamId, track.metaVersion]), size, if_neg (by omega),
        if_neg (by simp [Blob.chunk, track.next])]
    exact (if_neg below).trans (if_neg room)
  rw [accepted]
  exact ⟨rfl, track.chunks, track.completes, track.active, track.streamId, track.metaVersion, track.total,
    track.checksum, (UInt64.ofNat_add ..).symm⟩

/-- A poller that is behind takes no further chunk. -/
theorem Behind.validate {poller : MetadataPoller} (behind : Behind blob offset poller) (chunk : MetaBlobChunkView)
    (place : chunk.offset = UInt64.ofNat offset) (inside : offset ≤ blob.bytes.length) :
    (poller.validateChunk chunk).2 = false := by
  by_contra accepted
  have next := toNat_within inside
  unfold MetadataPoller.validateChunk at accepted
  split at accepted
  · exact accepted rfl
  next active =>
    obtain inactive | ⟨waits, -⟩ := behind
    · exact active inactive
    · split at accepted
      · exact accepted rfl
      · split at accepted
        · exact accepted rfl
        · have other : chunk.offset ≠ poller.blobNextOffset := by
            intro same
            rw [← same, place, next] at waits
            exact Nat.lt_irrefl _ waits
          rw [if_pos other] at accepted
          exact accepted rfl

/-- A poller that is behind stays behind of what comes later. -/
theorem Behind.later {poller : MetadataPoller} (behind : Behind blob offset poller) (length : Nat) :
    Behind blob (offset + length) poller :=
  behind.imp id fun waits => ⟨Nat.lt_add_right _ waits.1, waits.2⟩

/-- Each item of a mapped list succeeds. -/
theorem mapM_cons {α β ε : Type} {each : α → Except ε β} {item : α} {items : List α} {results : List β}
    (mapped : (item :: items).mapM each = .ok results) :
    ∃ first rest, each item = .ok first ∧ items.mapM each = .ok rest ∧ results = first :: rest := by
  rw [List.mapM_cons] at mapped
  cases first : each item with
  | error refusal =>
      rw [first] at mapped
      cases mapped
  | ok result =>
      rw [first] at mapped
      cases rest : items.mapM each with
      | error refusal =>
          rw [rest] at mapped
          cases mapped
      | ok others =>
          rw [rest] at mapped
          cases mapped
          exact ⟨result, others, rfl, rfl, rfl⟩

/-- A run starts with its first fragment. -/
theorem run_cons {fragment : List UInt8} {fragments : List (List UInt8)} {poller : MetadataPoller}
    {calls : List MetadataCall} (handled : session.poller.handle fragment = value (poller, calls))
    (ran : GuardedRun.run MetadataSession.step session (fragment :: fragments) = some session') :
    GuardedRun.run MetadataSession.step ⟨poller, session.calls ++ calls⟩ fragments = some session' := by
  rwa [GuardedRun.run, GuardedRun.runWhile, if_pos rfl, step_handled handled] at ran

/-- A message without the bytes of its chunk changes nothing. -/
theorem run_lost {fragment : List UInt8} {fragments : List (List UInt8)} {chunk : MetaBlobChunkView}
    (taken : encodeMetaBlobChunk chunk = .ok fragment) (tooLong : 4068 < chunk.bytes.length)
    (ran : GuardedRun.run MetadataSession.step session (fragment :: fragments) = some session') :
    GuardedRun.run MetadataSession.step session fragments = some session' := by
  have later := run_cons (handle_lost session.poller taken tooLong) ran
  rwa [List.append_nil] at later

/-- Calls about blobs are added behind the others. -/
theorem blobs_grown (poller : MetadataPoller) (calls : List MetadataCall) (blobs : List BlobCall) :
    MetadataSession.blobs ⟨poller, calls ++ blobs.map .blob⟩ = blobCalls calls ++ blobs := by
  rw [MetadataSession.blobs, blobCalls_append, blobCalls_blob]

/-- A poller on track delivers the next chunk and stays on track. -/
theorem run_taken {fragment : List UInt8} {fragments : List (List UInt8)} {length : Nat}
    (track : OnTrack blob streamId metaVersion offset session.poller)
    (taken : encodeMetaBlobChunk (blob.chunk streamId metaVersion offset length) = .ok fragment)
    (inside : offset + length ≤ blob.bytes.length) (fits : length ≤ 4068)
    (ran : GuardedRun.run MetadataSession.step session (fragment :: fragments) = some session') :
    ∃ middle, OnTrack blob streamId metaVersion (offset + length) middle.poller ∧
      middle.blobs = session.blobs ++ [.chunk (blob.chunk streamId metaVersion offset length)] ∧
      GuardedRun.run MetadataSession.step middle fragments = some session' := by
  have size := @length_chunk_bytes blob streamId metaVersion offset length inside
  have filled := (encodeChunk_ok_iff.mp taken).1
  rw [size] at filled
  obtain ⟨accepted, track'⟩ := track.validate filled inside
  have handled := handle_chunked session.poller taken (size.trans_le fits)
  rw [accepted, if_pos rfl, callIf, if_pos track.chunks] at handled
  exact ⟨_, track', blobs_grown _ _ _, run_cons handled ran⟩

/-- A poller on track delivers chunks that reach it. -/
theorem run_onTrack {encoded : List (List UInt8)} (track : OnTrack blob streamId metaVersion offset session.poller)
    (sent : (blob.chunks streamId metaVersion offset lengths).mapM encodeMetaBlobChunk = .ok encoded)
    (inside : offset + lengths.sum ≤ blob.bytes.length) (fit : ∀ length ∈ lengths, length ≤ 4068)
    (ran : GuardedRun.run MetadataSession.step session encoded = some session') :
    OnTrack blob streamId metaVersion (offset + lengths.sum) session'.poller ∧
      session'.blobs = session.blobs ++ (blob.chunks streamId metaVersion offset lengths).map .chunk := by
  induction lengths generalizing offset session encoded with
  | nil =>
      cases sent
      cases ran
      exact ⟨track, (List.append_nil _).symm⟩
  | cons length lengths hypothesis =>
      obtain ⟨first, rest, taken, others, rfl⟩ := mapM_cons sent
      rw [List.sum_cons, ← Nat.add_assoc] at inside ⊢
      obtain ⟨middle, track', first, later⟩ := run_taken track taken (by omega) (fit length List.mem_cons_self) ran
      obtain ⟨last, delivered⟩ := hypothesis track' others inside
        (fun other member => fit other (List.mem_cons_of_mem _ member)) later
      apply And.intro last
      rw [delivered, first, List.append_assoc]
      rfl

/-- A poller that is behind stays behind and delivers nothing. -/
theorem run_behind {encoded : List (List UInt8)} (behind : Behind blob offset session.poller)
    (sent : (blob.chunks streamId metaVersion offset lengths).mapM encodeMetaBlobChunk = .ok encoded)
    (inside : offset + lengths.sum ≤ blob.bytes.length)
    (ran : GuardedRun.run MetadataSession.step session encoded = some session') :
    Behind blob (offset + lengths.sum) session'.poller ∧ session'.blobs = session.blobs := by
  induction lengths generalizing offset session encoded with
  | nil =>
      cases sent
      cases ran
      exact ⟨behind, rfl⟩
  | cons length lengths hypothesis =>
      obtain ⟨first, rest, taken, others, rfl⟩ := mapM_cons sent
      rw [List.sum_cons, ← Nat.add_assoc] at inside ⊢
      by_cases fits : (blob.chunk streamId metaVersion offset length).bytes.length ≤ 4068
      · have refused := behind.validate (blob.chunk streamId metaVersion offset length) rfl (by omega)
        have handled := handle_chunked session.poller taken fits
        rw [refused, if_neg Bool.false_ne_true] at handled
        have next : Behind blob (offset + length) (session.poller.validateChunk _).1 :=
          .inl (validateChunk_false refused)
        obtain ⟨last, delivered⟩ := hypothesis next others inside (run_cons handled ran)
        refine ⟨last, ?_⟩
        rw [delivered, blobs_grown, List.append_nil]
        rfl
      · exact hypothesis (behind.later length) others inside (run_lost taken (Nat.lt_of_not_le fits) ran)

/-- Where one chunk is lost in its message the poller falls behind. -/
theorem run_loses {encoded : List (List UInt8)} (track : OnTrack blob streamId metaVersion offset session.poller)
    (sent : (blob.chunks streamId metaVersion offset lengths).mapM encodeMetaBlobChunk = .ok encoded)
    (inside : offset + lengths.sum ≤ blob.bytes.length) (tooLong : ∃ length ∈ lengths, 4068 < length)
    (ran : GuardedRun.run MetadataSession.step session encoded = some session') :
    Behind blob (offset + lengths.sum) session'.poller ∧
      ∃ pieces : List MetaBlobChunkView, session'.blobs = session.blobs ++ pieces.map .chunk := by
  induction lengths generalizing offset session encoded with
  | nil =>
      obtain ⟨length, absent, -⟩ := tooLong
      cases absent
  | cons length lengths hypothesis =>
      obtain ⟨first, rest, taken, others, rfl⟩ := mapM_cons sent
      rw [List.sum_cons, ← Nat.add_assoc] at inside ⊢
      by_cases fits : length ≤ 4068
      · obtain ⟨middle, track', first, rest⟩ := run_taken track taken (by omega) fits ran
        have later : ∃ length ∈ lengths, 4068 < length := by
          obtain ⟨other, member, long⟩ := tooLong
          obtain rfl | member := List.mem_cons.mp member
          · exact absurd fits (Nat.not_le.mpr long)
          · exact ⟨other, member, long⟩
        obtain ⟨last, pieces, delivered⟩ := hypothesis track' others inside later rest
        refine ⟨last, blob.chunk streamId metaVersion offset length :: pieces, ?_⟩
        rw [delivered, first, List.append_assoc]
        rfl
      · have size := @length_chunk_bytes blob streamId metaVersion offset length (by omega)
        have tooLong := (Nat.lt_of_not_le fits).trans_eq size.symm
        have waits : session.poller.blobNextOffset.toNat < offset + length := by
          rw [track.next, @toNat_within blob offset (by omega)]
          omega
        have behind : Behind blob (offset + length) session.poller := .inr ⟨waits, track.total⟩
        obtain ⟨last, delivered⟩ := run_behind behind others inside (run_lost taken tooLong ran)
        exact ⟨last, [], delivered.trans (List.append_nil _).symm⟩

/-- Messages of other kinds can be left out. -/
theorem run_filtered {heard : List (List UInt8)}
    (ran : GuardedRun.run MetadataSession.step session heard = some session') :
    ∃ other, GuardedRun.run MetadataSession.step session (heard.filter aboutBlob) = some other ∧
      session'.poller = other.poller ∧ session'.blobs = other.blobs := by
  apply GuardedRun.skips _ _ ran (And.intro rfl rfl)
  · intro first second bytes next same _ foreign stepped
    obtain ⟨calls, handled, grown⟩ := MetadataSession.step_some stepped
    obtain ⟨kept, none⟩ := handle_foreign foreign handled
    rw [kept, grown, none, List.append_nil]
    exact same
  · intro first second bytes next same _ _ stepped
    obtain ⟨calls, handled, grown⟩ := MetadataSession.step_some stepped
    rw [same.1] at handled
    refine ⟨_, step_handled handled, rfl, ?_⟩
    rw [grown, same.2]
    exact (blobCalls_append _ _).symm

/-- The end of a blob is taken when all of it was. -/
theorem complete_call {poller : MetadataPoller} :
    (OnTrack blob streamId metaVersion blob.bytes.length poller →
      (poller.validateComplete (blob.complete streamId metaVersion)).2 = true) ∧
    (Behind blob blob.bytes.length poller →
      (poller.validateComplete (blob.complete streamId metaVersion)).2 = false) := by
  constructor
  · intro track
    rw [MetadataPoller.validateComplete, if_neg (by simp [track.active]),
      if_neg (by simp [Blob.complete, track.streamId, track.metaVersion]),
        if_neg (by simp [Blob.complete, track.checksum]),
      if_neg (by simp [track.next, track.total])]
  · intro behind
    by_contra accepted
    obtain ⟨active, -, -, -, whole⟩ := validateComplete_true (Bool.eq_true_of_not_eq_false accepted)
    obtain inactive | ⟨waits, total⟩ := behind
    · exact absurd (active.symm.trans inactive) (by decide)
    · rw [whole, total, toNat_within (Nat.le_refl _)] at waits
      exact Nat.lt_irrefl _ waits

/-- A sent blob is an announce, its chunks and a completion. -/
theorem send_ok {messages : List (List UInt8)} (sent : blob.send streamId metaVersion lengths = .ok messages) :
    ∃ encoded, (blob.chunks streamId metaVersion 0 lengths).mapM encodeMetaBlobChunk = .ok encoded ∧
      messages = encodeMetaBlobAnnounce (blob.announce streamId metaVersion) :: encoded ++
        [encodeMetaBlobComplete (blob.complete streamId metaVersion)] := by
  unfold Blob.send at sent
  cases mapped : (blob.chunks streamId metaVersion 0 lengths).mapM encodeMetaBlobChunk with
  | error refusal =>
      rw [mapped] at sent
      cases sent
  | ok encoded =>
      rw [mapped] at sent
      cases sent
      exact ⟨encoded, rfl, rfl⟩

/-- A transfer that is heard without a loss is completed exactly when its chunks leave room for their lengths;
the sender takes chunks of four more bytes, whose messages have no bytes. -/
theorem transfer_completes_iff {messages heard : List (List UInt8)}
    (announces : session.poller.handlers.onMetaBlobAnnounce = true)
    (chunks : session.poller.handlers.onMetaBlobChunk = true)
    (completes : session.poller.handlers.onMetaBlobComplete = true) (whole : lengths.sum = blob.bytes.length)
    (sent : blob.send streamId metaVersion lengths = .ok messages) (only : heard.filter aboutBlob = messages)
    (ran : GuardedRun.run MetadataSession.step session heard = some session') :
    ∃ calls, session'.blobs = session.blobs ++ calls ∧
      (.complete (blob.complete streamId metaVersion) ∈ calls ↔ ∀ length ∈ lengths, length ≤ 4068) ∧
      ((∀ length ∈ lengths, length ≤ 4068) → calls = .announce (blob.announce streamId metaVersion) ::
        (blob.chunks streamId metaVersion 0 lengths).map .chunk ++ [.complete (blob.complete streamId metaVersion)]) ∧
      (∀ chunk : MetaBlobChunkView, (∃ bytes, encodeMetaBlobChunk chunk = .ok bytes) ↔
        0 < chunk.bytes.length ∧ chunk.bytes.length ≤ 4072) ∧
      ∀ chunk : MetaBlobChunkView, 4068 < chunk.bytes.length → chunk.bytes.length ≤ 4072 →
        encodeMetaBlobChunk chunk = .ok (messageHeader.encode MetaBlob.chunkCodec.header ++
          (chunkBlock chunk ++ uint32.encode (UInt32.ofNat chunk.bytes.length))) := by
  have taken : ∀ chunk : MetaBlobChunkView, (∃ bytes, encodeMetaBlobChunk chunk = .ok bytes) ↔
      0 < chunk.bytes.length ∧ chunk.bytes.length ≤ 4072 := by
    intro chunk
    simp only [encodeChunk_ok_iff]
    exact ⟨fun ⟨_, filled, few, _⟩ => ⟨filled, few⟩, fun ⟨filled, few⟩ => ⟨_, filled, few, rfl⟩⟩
  obtain ⟨encoded, mapped, rfl⟩ := send_ok sent
  obtain ⟨other, filtered, -, same⟩ := run_filtered ran
  rw [only, List.cons_append] at filtered
  have announced := handle_announced session.poller (blob.announce streamId metaVersion)
  rw [callIf, if_pos announces] at announced
  have rest := run_cons announced filtered
  rw [GuardedRun.run_append] at rest
  obtain ⟨middle, transferred, last⟩ := Option.bind_eq_some_iff.mp rest
  have track : OnTrack blob streamId metaVersion 0 (session.poller.blobBegin (blob.announce streamId metaVersion)) :=
    ⟨chunks, completes, rfl, rfl, rfl, rfl, rfl, rfl⟩
  have inside : 0 + lengths.sum ≤ blob.bytes.length := by omega
  have ended := handle_completed middle.poller (blob.complete streamId metaVersion)
  by_cases fit : ∀ length ∈ lengths, length ≤ 4068
  · obtain ⟨arrived, delivered⟩ := run_onTrack track mapped inside fit transferred
    rw [Nat.zero_add, whole] at arrived
    rw [complete_call.1 arrived, if_pos rfl, callIf, if_pos arrived.completes] at ended
    obtain rfl := Option.some.inj (run_cons ended last)
    refine ⟨_, ?_, ⟨fun _ => fit, fun _ => List.mem_append_right _ (List.mem_singleton_self _)⟩, fun _ => rfl, taken,
      fun _ => encodeChunk_long⟩
    rw [same, blobs_grown, ← MetadataSession.blobs, delivered, blobs_grown]
    simp [MetadataSession.blobs]
  · have tooLong : ∃ length ∈ lengths, 4068 < length := by
      simpa using fit
    obtain ⟨behind, pieces, delivered⟩ := run_loses track mapped inside tooLong transferred
    rw [Nat.zero_add, whole] at behind
    rw [complete_call.2 behind, if_neg Bool.false_ne_true] at ended
    obtain rfl := Option.some.inj (run_cons ended last)
    refine ⟨.announce (blob.announce streamId metaVersion) :: pieces.map .chunk, ?_, ?_, fun all => absurd all fit,
      taken, fun _ => encodeChunk_long⟩
    · rw [same, blobs_grown, ← MetadataSession.blobs, delivered, blobs_grown]
      simp [MetadataSession.blobs]
    · constructor
      · intro member
        simp at member
      · intro all
        exact absurd all fit

end Transfer

/-- A blob of 4071 bytes. -/
def longBlob : Blob := ⟨7, 9, List.replicate 4071 97, by rw [List.length_replicate]; decide⟩

/-- The two chunks of the letters are heard with another message between them and complete, and a blob with a chunk of
4069 bytes does not. -/
theorem transfer_completes_letters :
    (∃ messages session, letters.send 5 2 [2, 1] = .ok messages ∧
      GuardedRun.run MetadataSession.step (MetadataSession.init allHandlers)
        (messages.take 2 ++ [] :: messages.drop 2) = some session ∧
          BlobCall.complete (letters.complete 5 2) ∈ session.blobs) ∧
    ∃ messages session, longBlob.send 5 2 [2, 4069] = .ok messages ∧
      GuardedRun.run MetadataSession.step (MetadataSession.init allHandlers) messages = some session ∧
        BlobCall.complete (longBlob.complete 5 2) ∉ session.blobs := by
  constructor
  · obtain ⟨messages, sent⟩ : ∃ messages, letters.send 5 2 [2, 1] = .ok messages := ⟨_, rfl⟩
    obtain ⟨session, ran⟩ : ∃ session, GuardedRun.run MetadataSession.step (MetadataSession.init allHandlers)
        (messages.take 2 ++ [] :: messages.drop 2) = some session := by
      cases sent
      exact ⟨_, rfl⟩
    have only : (messages.take 2 ++ [] :: messages.drop 2).filter aboutBlob = messages := by
      cases sent
      rfl
    obtain ⟨calls, delivered, completed, -⟩ := transfer_completes_iff rfl rfl rfl rfl sent only ran
    have all : ∀ length ∈ [2, 1], length ≤ 4068 := by decide
    refine ⟨messages, session, sent, ran, ?_⟩
    rw [delivered]
    exact completed.mpr all
  · have evaluated : (longBlob.send 5 2 [2, 4069]).toOption.map (fun messages => (messages.all aboutBlob,
        (GuardedRun.run MetadataSession.step (MetadataSession.init allHandlers) messages).isSome)) =
          some (true, true) := by decide +kernel
    obtain ⟨messages, encoded, facts⟩ := Option.map_eq_some_iff.mp evaluated
    obtain ⟨about, runs⟩ := Prod.mk.inj facts
    obtain ⟨session, ran⟩ := Option.isSome_iff_exists.mp runs
    have sent : longBlob.send 5 2 [2, 4069] = .ok messages := by
      cases sent : longBlob.send 5 2 [2, 4069] with
      | error refusal =>
          rw [sent] at encoded
          cases encoded
      | ok sent' =>
          rw [sent] at encoded
          cases encoded
          rfl
    have only : messages.filter aboutBlob = messages := List.filter_eq_self.mpr (List.all_eq_true.mp about)
    have whole : [2, 4069].sum = longBlob.bytes.length := by
      rw [longBlob, List.length_replicate]
      rfl
    obtain ⟨calls, delivered, completed, -⟩ := transfer_completes_iff rfl rfl rfl whole sent only ran
    refine ⟨messages, session, sent, ran, fun complete => ?_⟩
    rw [delivered] at complete
    exact absurd (completed.mp complete 4069 (by decide)) (by decide)

end TensorPool.Client
