/-
This file shows that a metadata poller completes a blob only after it has delivered the whole of it.
-/

import TensorPool.Library.GuardedRun
import TensorPool.Library.Tiling
import TensorPool.Wire.Inside

namespace TensorPool.Client

open Scan Flyweight FixedField Wire

/-- This is `tp_metadata_handlers_t`; a handler is registered or not. -/
structure MetadataHandlers where
  onDataSourceAnnounce : Bool
  onDataSourceMetaBegin : Bool
  onDataSourceMetaAttr : Bool
  onDataSourceMetaEnd : Bool
  onMetaBlobAnnounce : Bool
  onMetaBlobChunk : Bool
  onMetaBlobComplete : Bool
  deriving DecidableEq, Repr

/-- The calls of the handlers of a blob. -/
inductive BlobCall where
  | announce (view : MetaBlobAnnounceView)
  | chunk (view : MetaBlobChunkView)
  | complete (view : MetaBlobCompleteView)
  deriving DecidableEq, Repr

/-- The calls of the handlers of a data source; the view of `began` and `ended` has no attributes in the source. -/
inductive MetaCall where
  | began (view : DataSourceMetaView)
  | attr (item : MetaAttribute)
  | ended (view : DataSourceMetaView)
  deriving DecidableEq, Repr

inductive MetadataCall where
  | dataSource (view : DataSourceAnnounceView)
  | dataSourceMeta (call : MetaCall)
  | blob (call : BlobCall)
  deriving DecidableEq, Repr

structure MetadataPoller where
  handlers : MetadataHandlers
  blobActive : Bool
  blobStreamId : UInt32
  blobMetaVersion : UInt32
  blobType : UInt32
  blobTotalLen : UInt64
  blobChecksum : UInt64
  blobNextOffset : UInt64
  deriving DecidableEq, Repr

namespace MetadataPoller

/-- This is `tp_metadata_blob_reset`. -/
def blobReset (poller : MetadataPoller) : MetadataPoller :=
  { poller with
    blobActive := false, blobStreamId := 0, blobMetaVersion := 0, blobType := 0, blobTotalLen := 0, blobChecksum := 0
    blobNextOffset := 0 }

/-- This is the poller that `tp_metadata_poller_init` leaves. -/
def init (handlers : MetadataHandlers) : MetadataPoller :=
  { handlers, blobActive := false, blobStreamId := 0, blobMetaVersion := 0, blobType := 0, blobTotalLen := 0,
    blobChecksum := 0, blobNextOffset := 0 }

/-- This is `tp_metadata_blob_begin`. -/
def blobBegin (poller : MetadataPoller) (announce : MetaBlobAnnounceView) : MetadataPoller :=
  { poller with
    blobActive := true, blobStreamId := announce.streamId, blobMetaVersion := announce.metaVersion
    blobType := announce.blobType, blobTotalLen := announce.totalLen, blobChecksum := announce.checksum
    blobNextOffset := 0 }

/-- This is `tp_metadata_blob_validate_chunk`; it tells whether the chunk is accepted. -/
def validateChunk (poller : MetadataPoller) (chunk : MetaBlobChunkView) : MetadataPoller × Bool :=
  if poller.blobActive = false then (poller, false)
  else if chunk.streamId ≠ poller.blobStreamId ∨ chunk.metaVersion ≠ poller.blobMetaVersion then
    (poller.blobReset, false)
  else if chunk.bytes.length = 0 then (poller.blobReset, false)
  else if chunk.offset ≠ poller.blobNextOffset then (poller.blobReset, false)
  else if poller.blobTotalLen < chunk.offset then (poller.blobReset, false)
  else if poller.blobTotalLen - chunk.offset < UInt64.ofNat chunk.bytes.length then (poller.blobReset, false)
  else ({ poller with blobNextOffset := chunk.offset + UInt64.ofNat chunk.bytes.length }, true)

/-- This is `tp_metadata_blob_validate_complete`; it tells whether the end is accepted. -/
def validateComplete (poller : MetadataPoller) (complete : MetaBlobCompleteView) : MetadataPoller × Bool :=
  if poller.blobActive = false then (poller, false)
  else if complete.streamId ≠ poller.blobStreamId ∨ complete.metaVersion ≠ poller.blobMetaVersion then
    (poller.blobReset, false)
  else if complete.checksum ≠ poller.blobChecksum then (poller.blobReset, false)
  else if poller.blobNextOffset ≠ poller.blobTotalLen then (poller.blobReset, false)
  else (poller, true)

end MetadataPoller

/-- A call is made when its handler is registered. -/
def callIf {Call : Type} (registered : Bool) (call : Call) : List Call := if registered then [call] else []

/-- A decoder that refuses the fragment leaves it to the next one. -/
def attempt {ε ε' α : Type} : Scan ε α → Scan ε' (Option α)
  | fault => fault
  | stop _ => value none
  | value result => value (some result)

/-- The calls of a decoder that got the attribute handler: the attributes that it met, also before a refusal. -/
def metaCalls {ε' : Type} (began attr ended : Bool) : Scan (Refusal × List MetaAttribute) DataSourceMetaView →
    Scan ε' (List MetaCall)
  | fault => fault
  | stop (_, met) => value (met.flatMap fun item => callIf attr (.attr item))
  | value view =>
      value ((view.attributes.flatMap fun item => callIf attr (.attr item)) ++
        callIf began (.began { view with attributes := [] }) ++ callIf ended (.ended { view with attributes := [] }))

namespace MetadataPoller

/-- The part of `tp_metadata_poller_handler` about blobs. -/
def handleBlob (poller : MetadataPoller) (bytes : List UInt8) : Scan Unit (MetadataPoller × List BlobCall) := do
  let blobAnnounce ← attempt (decodeMetaBlobAnnounce bytes)
  match blobAnnounce with
  | some announce => value (poller.blobBegin announce, callIf poller.handlers.onMetaBlobAnnounce (.announce announce))
  | none =>
    let blobChunk ← attempt (decodeMetaBlobChunk bytes)
    match blobChunk with
    | some chunk =>
        value ((poller.validateChunk chunk).1,
          if (poller.validateChunk chunk).2 then callIf poller.handlers.onMetaBlobChunk (.chunk chunk) else [])
    | none =>
      let blobComplete ← attempt (decodeMetaBlobComplete bytes)
      match blobComplete with
      | some complete =>
          value ((poller.validateComplete complete).1.blobReset,
            if (poller.validateComplete complete).2 then callIf poller.handlers.onMetaBlobComplete
              (.complete complete)
            else [])
      | none => value (poller, [])

/-- The part of `tp_metadata_poller_handler` about the attributes of a data source. -/
def handleMeta (poller : MetadataPoller) (bytes : List UInt8) : Scan Unit (List MetaCall) :=
  if poller.handlers.onDataSourceMetaBegin || poller.handlers.onDataSourceMetaAttr ||
      poller.handlers.onDataSourceMetaEnd then
    metaCalls poller.handlers.onDataSourceMetaBegin poller.handlers.onDataSourceMetaAttr
      poller.handlers.onDataSourceMetaEnd (decodeDataSourceMeta poller.handlers.onDataSourceMetaAttr bytes)
  else value []

/-- The part of `tp_metadata_poller_handler` about the announces of a data source. -/
def handleAnnounce (poller : MetadataPoller) (bytes : List UInt8) : Scan Unit (Option DataSourceAnnounceView) :=
  if poller.handlers.onDataSourceAnnounce then attempt (decodeDataSourceAnnounce bytes) else value none

/-- This is `tp_metadata_poller_handler` with the calls that it makes, in order. -/
def handle (poller : MetadataPoller) (bytes : List UInt8) : Scan Unit (MetadataPoller × List MetadataCall) := do
  let dataSource ← poller.handleAnnounce bytes
  match dataSource with
  | some announce => value (poller, [.dataSource announce])
  | none =>
    let metas ← poller.handleMeta bytes
    let (poller, blobs) ← poller.handleBlob bytes
    value (poller, metas.map .dataSourceMeta ++ blobs.map .blob)

end MetadataPoller

/-- The calls of the blob handlers among all calls. -/
def blobCalls (calls : List MetadataCall) : List BlobCall :=
  calls.filterMap fun call =>
    match call with
    | .blob blob => some blob
    | _ => none

/-- A poller with the calls that it has made, in order. -/
structure MetadataSession where
  poller : MetadataPoller
  calls : List MetadataCall

namespace MetadataSession

def init (handlers : MetadataHandlers) : MetadataSession := { poller := MetadataPoller.init handlers, calls := [] }

/-- A fragment that is read outside of its bounds has no outcome. -/
def step (session : MetadataSession) (bytes : List UInt8) : Option MetadataSession :=
  match session.poller.handle bytes with
  | value (poller, calls) => some { poller, calls := session.calls ++ calls }
  | _ => none

def blobs (session : MetadataSession) : List BlobCall := blobCalls session.calls

end MetadataSession

/-- The chunks of an announced blob, from its start to a position. -/
structure Transferred (announce : MetaBlobAnnounceView) (chunks : List MetaBlobChunkView) (upto : Nat) : Prop where
  same : ∀ chunk ∈ chunks, chunk.streamId = announce.streamId ∧ chunk.metaVersion = announce.metaVersion
  tiles : Tiling.Tiles (fun chunk => chunk.offset.toNat) (fun chunk => chunk.bytes.length) chunks 0 upto

/-- An end comes behind its announce and the chunks of the whole blob. -/
def CompletesBlob (earlier : List BlobCall) (complete : MetaBlobCompleteView) : Prop :=
  ∃ before announce chunks, earlier = before ++ .announce announce :: chunks.map .chunk ∧
    Transferred announce chunks announce.totalLen.toNat ∧ complete.streamId = announce.streamId ∧
    complete.metaVersion = announce.metaVersion ∧ complete.checksum = announce.checksum

/-- The fragment is a chunk or an end that the poller refuses. -/
def MetadataPoller.Refuses (poller : MetadataPoller) (bytes : List UInt8) : Prop :=
  (∃ chunk, decodeMetaBlobChunk bytes = value chunk ∧ (poller.validateChunk chunk).2 = false) ∨
    ∃ complete, decodeMetaBlobComplete bytes = value complete ∧ (poller.validateComplete complete).2 = false

/-- The fragment announces no blob. -/
def unannounced (_ : MetadataSession) (bytes : List UInt8) : Bool :=
  match decodeMetaBlobAnnounce bytes with
  | value _ => false
  | _ => true

section Validation

variable {poller : MetadataPoller} {chunk : MetaBlobChunkView} {complete : MetaBlobCompleteView} {bytes : List UInt8}

/-- The length of a checked text is that of its field. -/
theorem length_checkedData {rest text behind : List UInt8} (found : checkedData rest = some (text, behind)) :
    text.length < 2 ^ 32 := by
  have bound := (uint32.decode rest).toNat_lt
  unfold checkedData at found
  split at found
  · cases found
  · dsimp only at found
    split at found
    · cases found
    · cases found
      rw [List.length_take]
      omega

/-- The bytes of a decoded chunk are as many as its length says. -/
theorem length_chunk (decoded : decodeMetaBlobChunk bytes = value chunk) : chunk.bytes.length < 2 ^ 32 := by
  simp only [decodeMetaBlobChunk, bind_eq_value] at decoded
  obtain ⟨header, -, streamId, -, metaVersion, -, offset, -, rest, -, found, data, last⟩ := decoded
  cases last
  unfold decodeVarData at data
  split at data
  · cases data
  next pair checked =>
    cases data
    exact length_checkedData checked

/-- An accepted chunk is the next piece of the active blob. -/
structure Accepts (poller : MetadataPoller) (chunk : MetaBlobChunkView) (after : MetadataPoller) : Prop where
  active : poller.blobActive = true
  streamId : chunk.streamId = poller.blobStreamId
  metaVersion : chunk.metaVersion = poller.blobMetaVersion
  filled : 0 < chunk.bytes.length
  next : chunk.offset = poller.blobNextOffset
  inside : chunk.offset.toNat + chunk.bytes.length ≤ poller.blobTotalLen.toNat
  after_eq : after = { poller with blobNextOffset := chunk.offset + UInt64.ofNat chunk.bytes.length }

/-- An accepted chunk continues the blob. -/
theorem validateChunk_true (small : chunk.bytes.length < 2 ^ 32) (accepted : (poller.validateChunk chunk).2 = true) :
    Accepts poller chunk (poller.validateChunk chunk).1 := by
  unfold MetadataPoller.validateChunk at accepted ⊢
  split at accepted
  · cases accepted
  next active =>
  split at accepted
  · cases accepted
  next same =>
  split at accepted
  · cases accepted
  next filled =>
  split at accepted
  · cases accepted
  next next =>
  split at accepted
  · cases accepted
  next below =>
  split at accepted
  · cases accepted
  next room =>
  rw [if_neg active, if_neg same, if_neg filled, if_neg next, if_neg below, if_neg room]
  rw [not_or, not_not, not_not] at same
  constructor
  · exact Bool.eq_true_of_not_eq_false active
  · exact same.1
  · exact same.2
  · exact Nat.pos_of_ne_zero filled
  · exact not_not.mp next
  · have bound := UInt64.le_iff_toNat_le.mp (UInt64.not_lt.mp below)
    have room := UInt64.le_iff_toNat_le.mp (UInt64.not_lt.mp room)
    rw [UInt64.toNat_sub_of_le _ _ (UInt64.not_lt.mp below),
      UInt64.toNat_ofNat_of_lt' (by change _ < 2 ^ 64; omega)] at room
    omega
  · rfl

/-- A refused chunk ends the transfer. -/
theorem validateChunk_false (refused : (poller.validateChunk chunk).2 = false) :
    (poller.validateChunk chunk).1.blobActive = false := by
  unfold MetadataPoller.validateChunk at refused ⊢
  split
  next inactive => exact inactive
  all_goals grind [MetadataPoller.blobReset]

/-- An accepted completion names the active blob, which has all its bytes. -/
theorem validateComplete_true (accepted : (poller.validateComplete complete).2 = true) :
    poller.blobActive = true ∧ complete.streamId = poller.blobStreamId ∧
      complete.metaVersion = poller.blobMetaVersion ∧ complete.checksum = poller.blobChecksum ∧
        poller.blobNextOffset = poller.blobTotalLen := by
  unfold MetadataPoller.validateComplete at accepted
  grind

end Validation

section Handling

variable {poller after : MetadataPoller} {bytes : List UInt8} {blobs : List BlobCall} {calls : List MetadataCall}

/-- A successful attempt has the result of its scan. -/
theorem attempt_some {ε ε' α : Type} {scan : Scan ε α} {result : α}
    (tried : (attempt scan : Scan ε' _) = value (some result)) : scan = value result := by
  cases scan <;> cases tried
  rfl

/-- A failed attempt has no result. -/
theorem attempt_none {ε ε' α : Type} {scan : Scan ε α} (tried : (attempt scan : Scan ε' _) = value none)
    (result : α) :
    scan ≠ value result := by
  intro found
  rw [found] at tried
  cases tried

/-- A fragment about a blob is an announce, a chunk, an end, or none of them. -/
theorem handleBlob_cases (handled : poller.handleBlob bytes = value (after, blobs)) :
    (∃ announce, decodeMetaBlobAnnounce bytes = value announce ∧ after = poller.blobBegin announce ∧
      blobs = callIf poller.handlers.onMetaBlobAnnounce (.announce announce)) ∨
    (∃ chunk, decodeMetaBlobChunk bytes = value chunk ∧ after = (poller.validateChunk chunk).1 ∧
      blobs = if (poller.validateChunk chunk).2 then callIf poller.handlers.onMetaBlobChunk (.chunk chunk) else []) ∨
    (∃ complete, decodeMetaBlobComplete bytes = value complete ∧
      after = (poller.validateComplete complete).1.blobReset ∧
      blobs = if (poller.validateComplete complete).2 then
        callIf poller.handlers.onMetaBlobComplete (.complete complete) else []) ∨
    after = poller ∧ blobs = [] ∧ (∀ chunk, decodeMetaBlobChunk bytes ≠ value chunk) ∧
      ∀ complete, decodeMetaBlobComplete bytes ≠ value complete := by
  obtain ⟨announced, tried, handled⟩ := bind_eq_value.mp handled
  cases announced with
  | some announce =>
      cases handled
      exact .inl ⟨announce, attempt_some tried, rfl, rfl⟩
  | none =>
      obtain ⟨chunked, tried', handled⟩ := bind_eq_value.mp handled
      cases chunked with
      | some chunk =>
          cases handled
          exact .inr (.inl ⟨chunk, attempt_some tried', rfl, rfl⟩)
      | none =>
          obtain ⟨completed, tried'', handled⟩ := bind_eq_value.mp handled
          cases completed with
          | some complete =>
              cases handled
              exact .inr (.inr (.inl ⟨complete, attempt_some tried'', rfl, rfl⟩))
          | none =>
              cases handled
              exact .inr (.inr (.inr ⟨rfl, rfl, attempt_none tried', attempt_none tried''⟩))

/-- The calls about blobs are those of both parts. -/
theorem blobCalls_append (front back : List MetadataCall) :
    blobCalls (front ++ back) = blobCalls front ++ blobCalls back :=
  List.filterMap_append ..

theorem blobCalls_blob (blobs : List BlobCall) : blobCalls (blobs.map .blob) = blobs := by
  rw [blobCalls, List.filterMap_map]
  exact List.filterMap_some

theorem blobCalls_meta (metas : List MetaCall) : blobCalls (metas.map .dataSourceMeta) = [] := by
  rw [blobCalls, List.filterMap_map, List.filterMap_eq_nil_iff]
  intro call present
  rfl

/-- A fragment is an announce of a data source, or its blob calls are those of the blob part. -/
theorem handle_cases (handled : poller.handle bytes = value (after, calls)) :
    (after = poller ∧ blobCalls calls = [] ∧ ∃ announce, decodeDataSourceAnnounce bytes = value announce) ∨
      poller.handleBlob bytes = value (after, blobCalls calls) := by
  unfold MetadataPoller.handle at handled
  obtain ⟨announced, tried, handled⟩ := bind_eq_value.mp handled
  cases announced with
  | some announce =>
      cases handled
      unfold MetadataPoller.handleAnnounce at tried
      split at tried
      · exact .inl ⟨rfl, rfl, announce, attempt_some tried⟩
      · cases tried
  | none =>
      obtain ⟨metas, -, handled⟩ := bind_eq_value.mp handled
      obtain ⟨outcome, blob, last⟩ := bind_eq_value.mp handled
      cases last
      apply Or.inr
      rw [blobCalls_append, blobCalls_blob, blobCalls_meta]
      exact blob

/-- A decoded blob announce was addressed as one. -/
theorem announce_addressed {announce : MetaBlobAnnounceView}
    (decoded : decodeMetaBlobAnnounce bytes = value announce) :
    Addressed MetaBlob.announceCodec bytes := by
  obtain ⟨header, opened, -⟩ := bind_eq_value.mp decoded
  exact (openMessage_addressed opened).1

/-- A decoded chunk was addressed as one. -/
theorem chunk_addressed {chunk : MetaBlobChunkView} (decoded : decodeMetaBlobChunk bytes = value chunk) :
    Addressed MetaBlob.chunkCodec bytes := by
  obtain ⟨header, opened, -⟩ := bind_eq_value.mp decoded
  exact (openMessage_addressed opened).1

/-- A decoded completion was addressed as one. -/
theorem complete_addressed {complete : MetaBlobCompleteView}
    (decoded : decodeMetaBlobComplete bytes = value complete) :
    Addressed MetaBlob.completeCodec bytes := by
  obtain ⟨header, opened, -⟩ := bind_eq_value.mp decoded
  exact (openMessage_addressed opened).1

/-- A decoded source announce was addressed as one. -/
theorem dataSource_addressed {announce : DataSourceAnnounceView}
    (decoded : decodeDataSourceAnnounce bytes = value announce) : Addressed DataSourceAnnounce.codec bytes := by
  obtain ⟨header, opened, -⟩ := bind_eq_value.mp decoded
  exact (openMessage_addressed opened).1

/-- A refused fragment leaves no active blob and makes no call of a blob handler. -/
theorem refuses_inactive (refused : poller.Refuses bytes) (handled : poller.handle bytes = value (after, calls)) :
    after.blobActive = false ∧ blobCalls calls = [] := by
  have addressed : Addressed MetaBlob.chunkCodec bytes ∨ Addressed MetaBlob.completeCodec bytes := by
    apply refused.imp
    · intro chunk
      exact chunk_addressed chunk.choose_spec.1
    · intro complete
      exact complete_addressed complete.choose_spec.1
  have alone : ∀ other : Codec, other.templateId ≠ 12 → other.templateId ≠ 13 → ¬Addressed other bytes := by
    intro other twelve thirteen found
    cases addressed with
    | inl chunk => exact twelve (found.unique chunk)
    | inr complete => exact thirteen (found.unique complete)
  cases handle_cases handled with
  | inl source =>
      obtain ⟨-, -, announce, decoded⟩ := source
      exact absurd (dataSource_addressed decoded) (alone _ (by decide) (by decide))
  | inr blob =>
      obtain announced | chunked | completed | other := handleBlob_cases blob
      · obtain ⟨announce, decoded, -⟩ := announced
        exact absurd (announce_addressed decoded) (alone _ (by decide) (by decide))
      · obtain ⟨chunk, decoded, rfl, blobs⟩ := chunked
        cases refused with
        | inl refused =>
            obtain ⟨chunk', decoded', refused⟩ := refused
            obtain rfl : chunk = chunk' := value.inj (decoded.symm.trans decoded')
            rw [blobs, refused]
            exact ⟨validateChunk_false refused, rfl⟩
        | inr refused =>
            have same := (chunk_addressed decoded).unique (complete_addressed refused.choose_spec.1)
            exact absurd same (by decide)
      · obtain ⟨complete, decoded, rfl, blobs⟩ := completed
        cases refused with
        | inl refused =>
            have same := (complete_addressed decoded).unique (chunk_addressed refused.choose_spec.1)
            exact absurd same (by decide)
        | inr refused =>
            obtain ⟨complete', decoded', refused⟩ := refused
            obtain rfl : complete = complete' := value.inj (decoded.symm.trans decoded')
            rw [blobs, refused]
            exact ⟨rfl, rfl⟩
      · obtain ⟨-, -, chunks, completes⟩ := other
        cases refused with
        | inl refused => exact absurd refused.choose_spec.1 (chunks _)
        | inr refused => exact absurd refused.choose_spec.1 (completes _)

/-- Without an active blob only an announce makes a call of a blob handler. -/
theorem inactive_quiet (inactive : poller.blobActive = false)
    (quiet : ∀ announce, decodeMetaBlobAnnounce bytes ≠ value announce)
    (handled : poller.handle bytes = value (after, calls)) : after.blobActive = false ∧ blobCalls calls = [] := by
  cases handle_cases handled with
  | inl source =>
      obtain ⟨rfl, blobs, -⟩ := source
      exact ⟨inactive, blobs⟩
  | inr blob =>
      obtain announced | chunked | completed | other := handleBlob_cases blob
      · obtain ⟨announce, decoded, -⟩ := announced
        exact absurd decoded (quiet announce)
      · obtain ⟨chunk, -, rfl, blobs⟩ := chunked
        have refused : poller.validateChunk chunk = (poller, false) := if_pos inactive
        rw [blobs, refused]
        exact ⟨inactive, rfl⟩
      · obtain ⟨complete, -, rfl, blobs⟩ := completed
        have refused : poller.validateComplete complete = (poller, false) := if_pos inactive
        rw [blobs, refused]
        exact ⟨rfl, rfl⟩
      · obtain ⟨rfl, blobs, -⟩ := other
        exact ⟨inactive, blobs⟩

end Handling

namespace MetadataSession

variable {session session' : MetadataSession} {bytes : List UInt8} {fragments : List (List UInt8)}

/-- The calls end with the announce of the active blob and its chunks, up to the next offset. -/
def Transferring (poller : MetadataPoller) (blobs : List BlobCall) : Prop :=
  ∃ before announce chunks, blobs = before ++ .announce announce :: chunks.map .chunk ∧
    Transferred announce chunks poller.blobNextOffset.toNat ∧ poller.blobStreamId = announce.streamId ∧
    poller.blobMetaVersion = announce.metaVersion ∧ poller.blobChecksum = announce.checksum ∧
    poller.blobTotalLen = announce.totalLen ∧ poller.blobNextOffset ≤ poller.blobTotalLen

structure Sound (poller : MetadataPoller) (blobs : List BlobCall) : Prop where
  transferring : poller.blobActive = true → Transferring poller blobs
  completes : ∀ earlier complete later, blobs = earlier ++ .complete complete :: later →
    CompletesBlob earlier complete

/-- A call is the last one of a list, or it was there before. -/
theorem snoc_split {α : Type} {list earlier later : List α} {last middle : α}
    (split : list ++ [last] = earlier ++ middle :: later) :
    earlier = list ∧ middle = last ∨ ∃ rest, list = earlier ++ middle :: rest := by
  obtain ⟨gap, rfl, tail⟩ | ⟨gap, rfl, tail⟩ := List.append_eq_append_iff.mp split
  · cases gap with
    | nil =>
        cases tail
        exact .inl ⟨List.append_nil _, rfl⟩
    | cons first gap =>
        have short := congrArg List.length tail
        simp at short
  · cases gap with
    | nil =>
        cases tail
        exact .inl ⟨(List.append_nil _).symm, rfl⟩
    | cons first gap =>
        cases tail
        exact .inr ⟨gap, rfl⟩

/-- A poller without an active blob is sound. -/
theorem Sound.quiet {poller after : MetadataPoller} {blobs : List BlobCall} (sound : Sound poller blobs)
    (inactive : after.blobActive = false) : Sound after blobs where
  transferring := by
    intro active
    rw [inactive] at active
    cases active
  completes := sound.completes

/-- An announce starts a sound transfer. -/
theorem Sound.announce {poller : MetadataPoller} {blobs : List BlobCall} (sound : Sound poller blobs)
    (announce : MetaBlobAnnounceView) : Sound (poller.blobBegin announce) (blobs ++ [.announce announce]) where
  transferring := by
    intro active
    refine ⟨blobs, announce, [], rfl, ⟨?_, Tiling.Tiles.empty _ _ _⟩, rfl, rfl, rfl, rfl, UInt64.zero_le⟩
    intro chunk present
    cases present
  completes := by
    intro earlier complete later split
    cases snoc_split split with
    | inl last => cases last.2
    | inr old => exact sound.completes _ _ _ old.choose_spec

/-- An accepted chunk keeps the transfer sound. -/
theorem Sound.chunk {poller after : MetadataPoller} {blobs : List BlobCall} {chunk : MetaBlobChunkView}
    (sound : Sound poller blobs) (accepted : Accepts poller chunk after) :
    Sound after (blobs ++ [.chunk chunk]) where
  transferring := by
    intro active
    obtain ⟨before, announce, chunks, split, transferred, streamId, metaVersion, checksum, total, inside⟩ :=
      sound.transferring accepted.active
    have room := accepted.inside
    have length : (UInt64.ofNat chunk.bytes.length).toNat = chunk.bytes.length := by
      apply UInt64.toNat_ofNat_of_lt'
      have bound := poller.blobTotalLen.toNat_lt
      change _ < 2 ^ 64
      omega
    have next : (chunk.offset + UInt64.ofNat chunk.bytes.length).toNat = chunk.offset.toNat + chunk.bytes.length := by
      have bound := poller.blobTotalLen.toNat_lt
      rw [UInt64.toNat_add, length]
      exact Nat.mod_eq_of_lt (by omega)
    rw [accepted.after_eq]
    refine ⟨before, announce, chunks ++ [chunk], ?_, ⟨?_, ?_⟩, streamId, metaVersion, checksum, total, ?_⟩
    · rw [split, List.map_append, List.append_assoc]
      rfl
    · intro other present
      cases List.mem_append.mp present with
      | inl old => exact transferred.same other old
      | inr new =>
          rw [List.mem_singleton.mp new, accepted.streamId, accepted.metaVersion]
          exact ⟨streamId, metaVersion⟩
    · change Tiling.Tiles _ _ _ 0 (chunk.offset + UInt64.ofNat chunk.bytes.length).toNat
      rw [next, accepted.next]
      apply transferred.tiles.push (Nat.zero_le _) _ accepted.filled
      rw [accepted.next]
    · rw [UInt64.le_iff_toNat_le]
      change (chunk.offset + UInt64.ofNat chunk.bytes.length).toNat ≤ _
      rw [next]
      exact room
  completes := by
    intro earlier complete later split
    cases snoc_split split with
    | inl last => cases last.2
    | inr old => exact sound.completes _ _ _ old.choose_spec

/-- An accepted completion ends a sound transfer. -/
theorem Sound.complete {poller : MetadataPoller} {blobs : List BlobCall} {complete : MetaBlobCompleteView}
    (sound : Sound poller blobs) (accepted : (poller.validateComplete complete).2 = true) :
    Sound (poller.validateComplete complete).1.blobReset (blobs ++ [.complete complete]) where
  transferring := by
    intro active
    cases active
  completes := by
    intro earlier last later split
    cases snoc_split split with
    | inl new =>
        obtain ⟨rfl, same⟩ := new
        cases same
        obtain ⟨active, streamId, metaVersion, checksum, whole⟩ := validateComplete_true accepted
        obtain ⟨before, announce, chunks, split, transferred, streamId', metaVersion', checksum', total, -⟩ :=
          sound.transferring active
        rw [whole, total] at transferred
        exact ⟨before, announce, chunks, split, transferred, streamId.trans streamId', metaVersion.trans metaVersion',
          checksum.trans checksum'⟩
    | inr old => exact sound.completes _ _ _ old.choose_spec

/-- A step adds the calls of its fragment. -/
theorem step_some (stepped : session.step bytes = some session') : ∃ calls,
    session.poller.handle bytes = value (session'.poller, calls) ∧
      session'.blobs = session.blobs ++ blobCalls calls := by
  unfold step at stepped
  split at stepped
  next poller calls handled =>
    cases stepped
    exact ⟨calls, handled, blobCalls_append _ _⟩
  · cases stepped

/-- Where the announces and the chunks are delivered each fragment keeps the calls sound. -/
theorem Sound.handle {poller after : MetadataPoller} {blobs : List BlobCall} {calls : List MetadataCall}
    (sound : Sound poller blobs) (announces : poller.handlers.onMetaBlobAnnounce = true)
    (chunks : poller.handlers.onMetaBlobChunk = true) (handled : poller.handle bytes = value (after, calls)) :
    Sound after (blobs ++ blobCalls calls) := by
  cases handle_cases handled with
  | inl source =>
      obtain ⟨rfl, none, -⟩ := source
      rw [none, List.append_nil]
      exact sound
  | inr blob =>
      obtain announced | chunked | completed | other := handleBlob_cases blob
      · obtain ⟨announce, -, rfl, delivered⟩ := announced
        rw [delivered, callIf, if_pos announces]
        exact sound.announce announce
      · obtain ⟨chunk, decoded, rfl, delivered⟩ := chunked
        rw [delivered]
        cases accepted : (poller.validateChunk chunk).2 with
        | true =>
            rw [if_pos rfl, callIf, if_pos chunks]
            exact sound.chunk (validateChunk_true (length_chunk decoded) accepted)
        | false =>
            rw [if_neg Bool.false_ne_true, List.append_nil]
            exact sound.quiet (validateChunk_false accepted)
      · obtain ⟨complete, -, rfl, delivered⟩ := completed
        rw [delivered]
        cases accepted : (poller.validateComplete complete).2 with
        | true =>
            rw [if_pos rfl, callIf]
            split
            · exact sound.complete accepted
            · rw [List.append_nil]
              exact sound.quiet rfl
        | false =>
            rw [if_neg Bool.false_ne_true, List.append_nil]
            exact sound.quiet rfl
      · obtain ⟨rfl, none, -⟩ := other
        rw [none, List.append_nil]
        exact sound

theorem validateChunk_handlers (poller : MetadataPoller) (chunk : MetaBlobChunkView) :
    (poller.validateChunk chunk).1.handlers = poller.handlers := by
  unfold MetadataPoller.validateChunk
  grind [MetadataPoller.blobReset]

theorem validateComplete_handlers (poller : MetadataPoller) (complete : MetaBlobCompleteView) :
    (poller.validateComplete complete).1.handlers = poller.handlers := by
  unfold MetadataPoller.validateComplete
  grind [MetadataPoller.blobReset]

/-- No fragment changes the handlers. -/
theorem handle_handlers {poller after : MetadataPoller} {calls : List MetadataCall}
    (handled : poller.handle bytes = value (after, calls)) : after.handlers = poller.handlers := by
  cases handle_cases handled with
  | inl source => rw [source.1]
  | inr blob =>
      obtain announced | chunked | completed | other := handleBlob_cases blob
      · obtain ⟨announce, -, rfl, -⟩ := announced
        rfl
      · obtain ⟨chunk, -, rfl, -⟩ := chunked
        exact validateChunk_handlers poller chunk
      · obtain ⟨complete, -, rfl, -⟩ := completed
        exact validateComplete_handlers poller complete
      · rw [other.1]

/-- The handlers stay, and while the blob handlers are registered the calls stay sound. -/
theorem sound_run {handlers : MetadataHandlers} (announces : handlers.onMetaBlobAnnounce = true)
    (chunks : handlers.onMetaBlobChunk = true) (ran : GuardedRun.run step (init handlers) fragments = some session) :
    Sound session.poller session.blobs := by
  have kept : ∀ session bytes session',
      (session.poller.handlers = handlers ∧ Sound session.poller session.blobs) → true = true →
        step session bytes = some session' →
          session'.poller.handlers = handlers ∧ Sound session'.poller session'.blobs := by
    intro session bytes session' held _ stepped
    obtain ⟨calls, handled, blobs⟩ := step_some stepped
    constructor
    · exact (handle_handlers handled).trans held.1
    · rw [blobs]
      exact held.2.handle (held.1 ▸ announces) (held.1 ▸ chunks) handled
  have start : Sound (init handlers).poller (init handlers).blobs := by
    constructor
    · intro active
      cases active
    · intro earlier complete later split
      cases earlier <;> cases split
  exact (GuardedRun.keeps kept ran ⟨rfl, start⟩).2

/-- Without an active blob nothing is delivered while no fragment is an announce. -/
theorem quiet_run {last : MetadataSession} (inactive : session.poller.blobActive = false)
    (ran : GuardedRun.runWhile unannounced step session fragments = some last) : last.blobs = session.blobs := by
  have kept : ∀ middle bytes next,
      (middle.poller.blobActive = false ∧ middle.blobs = session.blobs) → unannounced middle bytes = true →
        step middle bytes = some next → next.poller.blobActive = false ∧ next.blobs = session.blobs := by
    intro middle bytes next held quiet stepped
    obtain ⟨calls, handled, blobs⟩ := step_some stepped
    have silent : ∀ announce, decodeMetaBlobAnnounce bytes ≠ value announce := by
      intro announce decoded
      rw [unannounced, decoded] at quiet
      cases quiet
    have still := inactive_quiet held.1 silent handled
    apply And.intro still.1
    rw [blobs, still.2, List.append_nil]
    exact held.2
  exact (GuardedRun.keeps kept ran ⟨inactive, rfl⟩).2

end MetadataSession

/-- A completed blob was delivered as a whole, and a refused fragment silences its blob. -/
theorem blob_completes {handlers : MetadataHandlers} {fragments : List (List UInt8)} {session : MetadataSession}
    (announces : handlers.onMetaBlobAnnounce = true) (chunks : handlers.onMetaBlobChunk = true)
    (ran : GuardedRun.run MetadataSession.step (MetadataSession.init handlers) fragments = some session) :
    (∀ earlier complete later, session.blobs = earlier ++ .complete complete :: later →
      CompletesBlob earlier complete) ∧
    ∀ refused next rest last, session.poller.Refuses refused → session.step refused = some next →
      GuardedRun.runWhile unannounced MetadataSession.step next rest = some last → last.blobs = session.blobs := by
  constructor
  · exact (MetadataSession.sound_run announces chunks ran).completes
  · intro refused next rest last refuses stepped quiet
    obtain ⟨calls, handled, blobs⟩ := MetadataSession.step_some stepped
    have silenced := refuses_inactive refuses handled
    rw [MetadataSession.quiet_run silenced.1 quiet, blobs, silenced.2, List.append_nil]

def allHandlers : MetadataHandlers := ⟨true, true, true, true, true, true, true⟩

/-- The announce of a blob of 3 bytes. -/
def announceBytes : List UInt8 :=
  [28, 0, 10, 0, 132, 3, 1, 0] ++ [5, 0, 0, 0] ++ [2, 0, 0, 0] ++ [7, 0, 0, 0] ++ [3, 0, 0, 0, 0, 0, 0, 0] ++
    [9, 0, 0, 0, 0, 0, 0, 0]

def chunkBytes (offset : UInt8) (bytes : List UInt8) : List UInt8 :=
  [16, 0, 12, 0, 132, 3, 1, 0] ++ [5, 0, 0, 0] ++ [2, 0, 0, 0] ++ [offset, 0, 0, 0, 0, 0, 0, 0] ++
    [UInt8.ofNat bytes.length, 0, 0, 0] ++ bytes

def endBytes : List UInt8 :=
  [16, 0, 13, 0, 132, 3, 1, 0] ++ [5, 0, 0, 0] ++ [2, 0, 0, 0] ++ [9, 0, 0, 0, 0, 0, 0, 0]

/-- The first try ends with a chunk that leaves a gap, and the second one has a chunk that is no chunk. -/
def restartedBlob : List (List UInt8) :=
  [announceBytes, chunkBytes 0 [97, 98]] ++ chunkBytes 3 [100] :: [chunkBytes 2 [99], endBytes] ++
    [announceBytes, chunkBytes 0 [97], (chunkBytes 1 [98]).take 24, chunkBytes 1 [98, 99], endBytes]

/-- A refused chunk silences its blob, and the next blob is completed as a whole. -/
theorem blob_completes_restarted :
    CompletesBlob
        [.announce ⟨5, 2, 7, 3, 9⟩, .chunk ⟨5, 2, 0, [97, 98]⟩, .announce ⟨5, 2, 7, 3, 9⟩, .chunk ⟨5, 2, 0, [97]⟩,
          .chunk ⟨5, 2, 1, [98, 99]⟩] ⟨5, 2, 9⟩ ∧
      ∃ session next last,
        GuardedRun.run MetadataSession.step (MetadataSession.init allHandlers)
          [announceBytes, chunkBytes 0 [97, 98]] = some session ∧
        session.step (chunkBytes 3 [100]) = some next ∧
        GuardedRun.runWhile unannounced MetadataSession.step next [chunkBytes 2 [99], endBytes] = some last ∧
        last.blobs = session.blobs := by
  constructor
  · obtain ⟨session, ran, delivered⟩ : ∃ session,
        GuardedRun.run MetadataSession.step (MetadataSession.init allHandlers) restartedBlob = some session ∧
          session.blobs = [.announce ⟨5, 2, 7, 3, 9⟩, .chunk ⟨5, 2, 0, [97, 98]⟩, .announce ⟨5, 2, 7, 3, 9⟩,
            .chunk ⟨5, 2, 0, [97]⟩, .chunk ⟨5, 2, 1, [98, 99]⟩] ++ .complete ⟨5, 2, 9⟩ :: [] := ⟨_, rfl, rfl⟩
    exact (blob_completes rfl rfl ran).1 _ _ _ delivered
  · obtain ⟨session, ran, next, stepped, last, quiet, refuses⟩ : ∃ session,
        GuardedRun.run MetadataSession.step (MetadataSession.init allHandlers)
          [announceBytes, chunkBytes 0 [97, 98]] = some session ∧
            ∃ next, session.step (chunkBytes 3 [100]) = some next ∧ ∃ last,
        GuardedRun.runWhile unannounced MetadataSession.step next [chunkBytes 2 [99], endBytes] = some last ∧
          session.poller.Refuses (chunkBytes 3 [100]) :=
      ⟨_, rfl, _, rfl, _, rfl, .inl ⟨_, rfl, rfl⟩⟩
    exact ⟨session, next, last, ran, stepped, quiet, (blob_completes rfl rfl ran).2 _ _ _ _ refuses stepped quiet⟩

end TensorPool.Client
