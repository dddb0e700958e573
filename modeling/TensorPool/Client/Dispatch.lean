/-
This file compares the three handlers of the client that pass the attributes of a data source on.
-/

import TensorPool.Client.Metadata
import TensorPool.DriverClient.Notices
import TensorPool.DriverClient.Poll
import TensorPool.Merge.Scan
import TensorPool.TraceLink.Set

namespace TensorPool.Client

open Scan Flyweight FixedField Wire

/-- This is `tp_control_adapter_t`; a handler is registered or not. -/
structure ControlAdapter where
  onShmPoolAnnounce : Bool
  onConsumerHello : Bool
  onConsumerConfig : Bool
  onDataSourceAnnounce : Bool
  onDataSourceMetaBegin : Bool
  onDataSourceMetaAttr : Bool
  onDataSourceMetaEnd : Bool
  onControlResponse : Bool
  deriving DecidableEq, Repr

/-- This is `tp_control_handlers_t`; a join barrier is there or not. -/
structure ControlHandlers extends ControlAdapter where
  onTracelinkSet : Bool
  onDetachResponse : Bool
  onLeaseRevoked : Bool
  onShutdown : Bool
  sequenceJoinBarrier : Bool
  timestampJoinBarrier : Bool
  latestJoinBarrier : Bool
  deriving DecidableEq, Repr

/-- The calls of the handlers of the control stream, and of the join barriers. -/
inductive ControlCall where
  | shmPoolAnnounce (view : ShmPoolAnnounceView)
  | consumerHello (view : ConsumerHelloView)
  | consumerConfig (view : Wire.ConsumerConfigView)
  | controlResponse (view : ControlResponseView)
  | dataSource (view : DataSourceAnnounceView)
  | tracelinkSet (set : TraceLink.TracelinkSet)
  | applySequenceMap (map : Merge.SequenceMergeMap)
  | applyLatestValueSequenceMap (map : Merge.SequenceMergeMap)
  | applyTimestampMap (map : Merge.TimestampMergeMap)
  | applyLatestValueTimestampMap (map : Merge.TimestampMergeMap)
  | dataSourceMeta (call : MetaCall)
  | detachResponse (info : DriverClient.DetachInfo)
  | leaseRevoked (revoked : DriverClient.LeaseRevoked)
  | shutdown (event : DriverClient.Shutdown)
  deriving DecidableEq, Repr

/-- The calls with what a decoder accepts, which makes none for a fragment that it refuses. -/
def passOn {ε α : Type} (scan : Scan ε α) (call : α → ControlCall) : Scan Unit (List ControlCall) := do
  let result ← attempt scan
  value (result.toList.map call)

namespace ControlAdapter

/-- The second pass over the attributes, whose result nothing looks at. -/
def passAttributes (adapter : ControlAdapter) (bytes : List UInt8) : Scan Unit (List MetaCall) :=
  if adapter.onDataSourceMetaAttr then metaCalls false true false (decodeDataSourceMeta true bytes) else value []

/-- The part of `tp_control_fragment_handler` about the attributes of a data source. -/
def handleMeta (adapter : ControlAdapter) (bytes : List UInt8) : Scan Unit (List MetaCall) := do
  let counted ← attempt (decodeDataSourceMeta false bytes)
  match counted with
  | none => value []
  | some view =>
    let attributes ← adapter.passAttributes bytes
    value (.began view :: attributes ++ callIf adapter.onDataSourceMetaEnd (.ended view))

/-- This is the choice of the decoder by the template of the message. -/
def dispatch (adapter : ControlAdapter) (allocates : Bool) (templateId : UInt16) (bytes : List UInt8) :
    Scan Unit (List ControlCall) :=
  if templateId = ShmPoolAnnounce.codec.templateId ∧ adapter.onShmPoolAnnounce then
    passOn (decodeShmPoolAnnounce allocates bytes) .shmPoolAnnounce
  else if templateId = ConsumerHello.codec.templateId ∧ adapter.onConsumerHello then
    passOn (decodeConsumerHello bytes) .consumerHello
  else if templateId = ConsumerConfig.codec.templateId ∧ adapter.onConsumerConfig then
    passOn (decodeConsumerConfig bytes) .consumerConfig
  else if templateId = ControlResponse.codec.templateId ∧ adapter.onControlResponse then
    passOn (decodeControlResponse bytes) .controlResponse
  else if templateId = DataSourceAnnounce.codec.templateId ∧ adapter.onDataSourceAnnounce then
    passOn (decodeDataSourceAnnounce bytes) .dataSource
  else if templateId = DataSourceMeta.codec.templateId ∧ adapter.onDataSourceMetaBegin then do
    let metas ← adapter.handleMeta bytes
    value (metas.map .dataSourceMeta)
  else value []

/-- This is `tp_control_fragment_handler`. -/
def handle (adapter : ControlAdapter) (allocates : Bool) (bytes : List UInt8) : Scan Unit (List ControlCall) :=
  if bytes.length < messageHeader.width then value []
  else do
    let header ← read messageHeader 0 bytes
    if header.schemaId ≠ ConsumerHello.codec.schemaId then value []
    else adapter.dispatch allocates header.templateId bytes

end ControlAdapter

/-- A registered handler takes the fragment when its decoder accepts it. -/
def offer {ε α : Type} (registered : Bool) (scan : Scan ε α) (calls : α → List ControlCall) :
    Scan Unit (Option (List ControlCall)) :=
  if registered then do
    let result ← attempt scan
    value (result.map calls)
  else value none

/-- The fragment goes to the first one that takes it. -/
def firstOf : List (Scan Unit (Option (List ControlCall))) → Scan Unit (Option (List ControlCall))
  | [] => value none
  | offered :: others => do
    let taken ← offered
    match taken with
    | some calls => value (some calls)
    | none => firstOf others

/-- The parents of a set that the poller has room for. -/
def tracelinkMaxParents : Nat := 256

/-- The rules of a map that the poller has room for. -/
def pollerMaxRules : Nat := 256

namespace ControlHandlers

/-- The part of `tp_control_poller_handler` that stands in front of the attributes. -/
def front (handlers : ControlHandlers) (allocates : Bool) (bytes : List UInt8) :
    List (Scan Unit (Option (List ControlCall))) :=
  let joins := handlers.sequenceJoinBarrier || handlers.timestampJoinBarrier || handlers.latestJoinBarrier
  [offer handlers.onShmPoolAnnounce (decodeShmPoolAnnounce allocates bytes) fun view => [.shmPoolAnnounce view],
    offer handlers.onConsumerHello (decodeConsumerHello bytes) fun view => [.consumerHello view],
    offer handlers.onConsumerConfig (decodeConsumerConfig bytes) fun view => [.consumerConfig view],
    offer handlers.onControlResponse (decodeControlResponse bytes) fun view => [.controlResponse view],
    offer handlers.onDataSourceAnnounce (decodeDataSourceAnnounce bytes) fun view => [.dataSource view],
    offer handlers.onTracelinkSet (TraceLink.tracelinkSetDecode tracelinkMaxParents bytes) fun set =>
      [.tracelinkSet set],
    offer joins (Merge.scanSequenceMap bytes pollerMaxRules) fun map =>
      callIf handlers.sequenceJoinBarrier (.applySequenceMap map) ++
        callIf handlers.latestJoinBarrier (.applyLatestValueSequenceMap map),
    offer joins (Merge.scanTimestampMap bytes pollerMaxRules) fun map =>
      callIf handlers.timestampJoinBarrier (.applyTimestampMap map) ++
        callIf handlers.latestJoinBarrier (.applyLatestValueTimestampMap map)]

/-- This is `tp_control_poller_handle_meta`, which is left out without a handler. -/
def handleMeta (handlers : ControlHandlers) (bytes : List UInt8) : Scan Unit (List MetaCall) :=
  if handlers.onDataSourceMetaBegin || handlers.onDataSourceMetaAttr || handlers.onDataSourceMetaEnd then
    metaCalls handlers.onDataSourceMetaBegin handlers.onDataSourceMetaAttr handlers.onDataSourceMetaEnd
      (decodeDataSourceMeta handlers.onDataSourceMetaAttr bytes)
  else value []

/-- The part of `tp_control_poller_handler` that stands behind the attributes. -/
def back (handlers : ControlHandlers) (bytes : List UInt8) : List (Scan Unit (Option (List ControlCall))) :=
  [offer handlers.onDetachResponse (DriverClient.decodeDetachResponse {} bytes) fun info => [.detachResponse info],
    offer handlers.onLeaseRevoked (DriverClient.decodeLeaseRevoked bytes) fun revoked => [.leaseRevoked revoked],
    offer handlers.onShutdown (DriverClient.decodeShutdown bytes) fun event => [.shutdown event]]

/-- This is `tp_control_poller_handler`, which goes on behind the attributes. -/
def handle (handlers : ControlHandlers) (allocates : Bool) (bytes : List UInt8) : Scan Unit (List ControlCall) := do
  let taken ← firstOf (handlers.front allocates bytes)
  match taken with
  | some calls => value calls
  | none =>
    let metas ← handlers.handleMeta bytes
    let others ← firstOf (handlers.back bytes)
    value (metas.map .dataSourceMeta ++ others.getD [])

end ControlHandlers

/-- The calls for a message, in the order of its parts. -/
def metaSequence (view : DataSourceMetaView) : List MetaCall :=
  .began { view with attributes := [] } :: (view.attributes.map .attr ++ [.ended { view with attributes := [] }])

/-- A message is passed on as a whole, with as many attributes as it counts, or not at all. -/
def Dispatched (bytes : List UInt8) (calls : List MetaCall) : Prop :=
  match decodeDataSourceMeta true bytes with
  | fault => False
  | stop _ => calls = []
  | value view => view.attributes.length = view.attributeCount ∧ calls = metaSequence view

/-- The three handlers make the same calls, which pass the message on, and no other ones. -/
def MetaAgree (allocates : Bool) (adapter : ControlAdapter) (handlers : ControlHandlers) (poller : MetadataPoller)
    (bytes : List UInt8) : Prop :=
  ∃ calls, Dispatched bytes calls ∧ adapter.handle allocates bytes = value (calls.map .dataSourceMeta) ∧
    poller.handle bytes = value (poller, calls.map .dataSourceMeta) ∧
    handlers.handle allocates bytes = value (calls.map .dataSourceMeta)

def ControlAdapter.PassesMeta (adapter : ControlAdapter) : Prop :=
  adapter.onDataSourceMetaBegin = true ∧ adapter.onDataSourceMetaAttr = true ∧ adapter.onDataSourceMetaEnd = true

def MetadataHandlers.PassesMeta (handlers : MetadataHandlers) : Prop :=
  handlers.onDataSourceMetaBegin = true ∧ handlers.onDataSourceMetaAttr = true ∧ handlers.onDataSourceMetaEnd = true

/-- The header of the message is refused, or the fragment holds its block and no attributes. -/
def Attributeless (bytes : List UInt8) : Prop :=
  Wire.Current DataSourceMeta.codec bytes → 24 ≤ bytes.length ∧
    (28 ≤ bytes.length → (uint16.decode (bytes.drop 26)).toNat = 0)

section Refused

variable {ε α : Type} {bytes : List UInt8}

theorem offer_refused {registered : Bool} {scan : Scan ε α} {calls : α → List ControlCall} {error : ε}
    (refused : scan = stop error) : offer registered scan calls = value none := by
  rw [offer, refused]
  cases registered <;> rfl

theorem firstOf_none {offers : List (Scan Unit (Option (List ControlCall)))}
    (refused : ∀ offered ∈ offers, offered = value none) : firstOf offers = value none := by
  induction offers with
  | nil => rfl
  | cons offered others hypothesis =>
      rw [List.forall_mem_cons] at refused
      rw [firstOf, refused.1, value_bind]
      exact hypothesis refused.2

/-- The announce of a map is of another schema. -/
theorem scanAnnounce_other {Root Head Rule : Type} {name : String} {templateId blockLength : UInt16}
    {root : FixedField Root} {loadRoot : Root → Except String Head} {scanRule : List UInt8 → Scan Merge.Refusal Rule}
    {maxRules : Nat} (addressed : Addressed DataSourceMeta.codec bytes) :
    Merge.scanAnnounce name templateId blockLength root loadRoot scanRule bytes maxRules = stop none := by
  have whole : (read messageHeader 0 bytes : Scan Merge.Refusal Header) = value (messageHeader.decode bytes) :=
    read_eq_value.mpr ⟨addressed.whole, rfl⟩
  have other : (messageHeader.decode bytes).schemaId ≠ Merge.schemaId := by
    rw [addressed.schemaId]
    decide
  rw [Merge.scanAnnounce, width_messageHeader, stopIf_pass (Nat.not_lt.mpr addressed.whole), value_bind, whole,
    value_bind, stopIf, if_pos (.inl other), stop_bind]

theorem decodeDetachResponse_other {info : DriverClient.DetachInfo}
    (addressed : Addressed DataSourceMeta.codec bytes) :
    DriverClient.decodeDetachResponse info bytes = stop (⟨1, none⟩, info) := by
  have whole {ε : Type} : (read messageHeader 0 bytes : Scan ε Header) = value (messageHeader.decode bytes) :=
    read_eq_value.mpr ⟨addressed.whole, rfl⟩
  have other : (messageHeader.decode bytes).schemaId ≠ DriverClient.schemaId := by
    rw [addressed.schemaId]
    decide
  rw [DriverClient.decodeDetachResponse, width_messageHeader, stopIf_pass (Nat.not_lt.mpr addressed.whole),
    value_bind, whole, value_bind, stopIf, if_pos (.inl other), stop_bind]

/-- The decoders in front of the attributes leave the message to them. -/
theorem front_refused (handlers : ControlHandlers) (allocates : Bool)
    (addressed : Addressed DataSourceMeta.codec bytes) :
    firstOf (handlers.front allocates bytes) = value none := by
  apply firstOf_none
  unfold ControlHandlers.front
  simp only [List.forall_mem_cons, List.not_mem_nil, false_implies, implies_true, and_true]
  refine ⟨?_, ?_, ?_, ?_, ?_, ?_, ?_, ?_⟩
  · apply offer_refused
    rw [decodeShmPoolAnnounce, openMessage_other addressed (by decide), stop_bind]
  · apply offer_refused
    rw [decodeConsumerHello, openMessage_other addressed (by decide), stop_bind]
  · apply offer_refused
    rw [decodeConsumerConfig, openMessage_other addressed (by decide), stop_bind]
  · apply offer_refused
    rw [decodeControlResponse, openMessage_other addressed (by decide), stop_bind]
  · apply offer_refused
    rw [decodeDataSourceAnnounce, openMessage_other addressed (by decide), stop_bind]
  · apply offer_refused
    rw [TraceLink.tracelinkSetDecode, openMessage_other addressed (by decide), stop_bind]
  · apply offer_refused
    rw [Merge.scanSequenceMap, scanAnnounce_other addressed, stop_bind]
  · apply offer_refused
    rw [Merge.scanTimestampMap, scanAnnounce_other addressed, stop_bind]

theorem back_refused (handlers : ControlHandlers) (addressed : Addressed DataSourceMeta.codec bytes) :
    firstOf (handlers.back bytes) = value none := by
  apply firstOf_none
  unfold ControlHandlers.back
  simp only [List.forall_mem_cons, List.not_mem_nil, false_implies, implies_true, and_true]
  refine ⟨?_, ?_, ?_⟩
  · exact offer_refused (decodeDetachResponse_other addressed)
  · apply offer_refused
    rw [DriverClient.decodeLeaseRevoked, openMessage_other addressed (by decide), stop_bind]
  · apply offer_refused
    rw [DriverClient.decodeShutdown, openMessage_other addressed (by decide), stop_bind]

/-- The control poller makes the calls for the attributes alone. -/
theorem controlHandle_meta (handlers : ControlHandlers) (allocates : Bool)
    (addressed : Addressed DataSourceMeta.codec bytes) :
    handlers.handle allocates bytes = (do
      let metas ← handlers.handleMeta bytes
      value (metas.map .dataSourceMeta)) := by
  rw [ControlHandlers.handle, front_refused handlers allocates addressed, value_bind, back_refused handlers addressed]
  simp

/-- The metadata poller makes the calls for the attributes alone. -/
theorem metadataHandle_meta (poller : MetadataPoller) (addressed : Addressed DataSourceMeta.codec bytes) :
    poller.handle bytes = (do
      let metas ← poller.handleMeta bytes
      value (poller, metas.map .dataSourceMeta)) := by
  have announce : poller.handleAnnounce bytes = value none := by
    rw [MetadataPoller.handleAnnounce, decodeDataSourceAnnounce, openMessage_other addressed (by decide), stop_bind]
    cases poller.handlers.onDataSourceAnnounce <;> rfl
  have blob : poller.handleBlob bytes = value (poller, []) := by
    rw [MetadataPoller.handleBlob, decodeMetaBlobAnnounce, openMessage_other addressed (by decide), stop_bind,
      decodeMetaBlobChunk, openMessage_other addressed (by decide), stop_bind, decodeMetaBlobComplete,
      openMessage_other addressed (by decide), stop_bind]
    rfl
  rw [MetadataPoller.handle, announce, value_bind, blob]
  simp

/-- The adapter makes the calls for the attributes alone. -/
theorem adapterHandle_meta {adapter : ControlAdapter} (allocates : Bool) (passes : adapter.PassesMeta)
    (addressed : Addressed DataSourceMeta.codec bytes) :
    adapter.handle allocates bytes = (do
      let metas ← adapter.handleMeta bytes
      value (metas.map .dataSourceMeta)) := by
  have whole : (read messageHeader 0 bytes : Scan Unit Header) = value (messageHeader.decode bytes) :=
    read_eq_value.mpr ⟨addressed.whole, rfl⟩
  have schema : ¬ (messageHeader.decode bytes).schemaId ≠ ConsumerHello.codec.schemaId := by
    rw [addressed.schemaId]
    decide
  rw [ControlAdapter.handle, width_messageHeader, if_neg (Nat.not_lt.mpr addressed.whole), whole, value_bind,
    if_neg schema, addressed.templateId, ControlAdapter.dispatch]
  have other {template : UInt16} {registered : Bool} (different : DataSourceMeta.codec.templateId ≠ template) :
      ¬ (DataSourceMeta.codec.templateId = template ∧ registered = true) := fun both => different both.1
  rw [if_neg (other (by decide)), if_neg (other (by decide)), if_neg (other (by decide)), if_neg (other (by decide)),
    if_neg (other (by decide)), if_pos ⟨rfl, passes.1⟩]

end Refused

section Passes

variable {bytes : List UInt8}

/-- What the decoder shows of a message, with some attributes of it. -/
def metaView (bytes : List UInt8) (attributes : List MetaAttribute) : DataSourceMetaView where
  streamId := uint32.decode (bytes.drop 8)
  metaVersion := uint32.decode (bytes.drop 12)
  timestampNs := uint64.decode (bytes.drop 16)
  attributeCount := (uint16.decode (bytes.drop 26)).toNat
  attributes

/-- The loop over the attributes of a message. -/
def metaAttributes (bytes : List UInt8) : Scan (Refusal × List MetaAttribute) (List MetaAttribute) :=
  decodeAttributes (uint16.decode (bytes.drop 24)).toNat (uint16.decode (bytes.drop 26)).toNat [] (bytes.drop 28)

/-- Without attributes the loop is left out. -/
theorem decodeDataSourceMeta_current (callback : Bool) (addressed : Addressed DataSourceMeta.codec bytes)
    (current : Wire.Current DataSourceMeta.codec bytes) :
    decodeDataSourceMeta callback bytes =
      if bytes.length < 24 then fault
      else if bytes.length < 28 then stop (⟨-1, some "tp_control_decode_data_source_meta: attributes truncated"⟩, [])
      else (if callback then metaAttributes bytes else value []) >>= fun attributes =>
        value (metaView bytes attributes) := by
  have opened : openMessage "tp_control_decode_data_source_meta" ": buffer too short" true DataSourceMeta.codec bytes =
      value (messageHeader.decode bytes) := openMessage_current addressed current
  have start : 8 + (messageHeader.decode bytes).blockLength.toNat = 24 := by
    rw [current.blockLength]
    rfl
  rw [decodeDataSourceMeta, opened]
  simp only [mapStop, value_bind, Flyweight.read, width_uint32, width_uint64, behindBlock, start]
  by_cases outside : bytes.length < 24
  · have third : ¬ 16 + 8 ≤ bytes.length := Nat.not_le.mpr outside
    simp only [third, outside, if_true, if_false]
    by_cases first : 8 + 4 ≤ bytes.length
    · by_cases second : 12 + 4 ≤ bytes.length
      · simp only [first, second, if_true, value_bind, fault_bind]
      · simp only [first, second, if_true, if_false, value_bind, fault_bind]
    · simp only [first, if_false, fault_bind]
  · have first : 8 + 4 ≤ bytes.length := by omega
    have second : 12 + 4 ≤ bytes.length := by omega
    have third : 16 + 8 ≤ bytes.length := Nat.le_of_not_lt outside
    simp only [first, second, third, outside, if_true, if_false, value_bind, checkedGroup, List.length_drop]
    by_cases short : bytes.length < 28
    · have short' : bytes.length - 24 < 4 := by omega
      rw [if_pos short', if_pos short, stop_bind]
    · have room : ¬ bytes.length - 24 < 4 := by omega
      rw [if_neg room, if_neg short, value_bind]
      simp only [List.drop_drop]
      cases callback <;> rfl

theorem decodeDataSourceMeta_stale (stale : ¬ Wire.Current DataSourceMeta.codec bytes) :
    ∃ refusal, ∀ callback, decodeDataSourceMeta callback bytes = stop (refusal, []) := by
  obtain ⟨refusal, refused⟩ := @openMessage_stale bytes DataSourceMeta.codec "tp_control_decode_data_source_meta"
    ": buffer too short" stale
  apply Exists.intro refusal
  intro callback
  rw [decodeDataSourceMeta, refused]
  rfl

theorem flatMap_callIf {Call Item : Type} (call : Item → Call) (items : List Item) :
    (items.flatMap fun item => callIf true (call item)) = items.map call := by
  induction items with
  | nil => rfl
  | cons item items hypothesis =>
      rw [List.flatMap_cons, hypothesis]
      rfl

/-- With all handlers the attributes come first. -/
theorem metaCalls_value (view : DataSourceMetaView) :
    (metaCalls true true true (value view) : Scan Unit _) =
      value (view.attributes.map .attr ++ [.began { view with attributes := [] }] ++
        [.ended { view with attributes := [] }]) := by
  rw [metaCalls, flatMap_callIf]
  rfl

theorem pollerMeta_passes {poller : MetadataPoller} (passes : poller.handlers.PassesMeta) :
    poller.handleMeta bytes = metaCalls true true true (decodeDataSourceMeta true bytes) := by
  rw [MetadataPoller.handleMeta, passes.1, passes.2.1, passes.2.2]
  rfl

theorem controlMeta_passes {handlers : ControlHandlers} (passes : handlers.PassesMeta) :
    handlers.handleMeta bytes = metaCalls true true true (decodeDataSourceMeta true bytes) := by
  rw [ControlHandlers.handleMeta, passes.1, passes.2.1, passes.2.2]
  rfl

/-- The adapter begins with a message before it looks at the attributes. -/
theorem adapterMeta_counted {adapter : ControlAdapter} (passes : adapter.PassesMeta) {view : DataSourceMetaView}
    (counted : decodeDataSourceMeta false bytes = value view) :
    adapter.handleMeta bytes = (do
      let attributes ← metaCalls false true false (decodeDataSourceMeta true bytes)
      value (.began view :: attributes ++ [.ended view])) := by
  rw [ControlAdapter.handleMeta, counted, ControlAdapter.passAttributes, passes.2.1, passes.2.2]
  rfl

theorem adapterMeta_stopped {adapter : ControlAdapter} {error : Refusal × List MetaAttribute}
    (stopped : decodeDataSourceMeta false bytes = stop error) : adapter.handleMeta bytes = value [] := by
  rw [ControlAdapter.handleMeta, stopped]
  rfl

end Passes

section Agree

variable {adapter : ControlAdapter} {handlers : ControlHandlers} {poller : MetadataPoller} {bytes : List UInt8}

/-- A message that both passes refuse without an attribute is passed on by no handler. -/
theorem agree_stopped {allocates : Bool} {refusal : Refusal} (addressed : Addressed DataSourceMeta.codec bytes)
    (adapterPasses : adapter.PassesMeta) (handlersPass : handlers.PassesMeta)
    (pollerPasses : poller.handlers.PassesMeta)
    (stopped : ∀ callback, decodeDataSourceMeta callback bytes = stop (refusal, [])) :
    MetaAgree allocates adapter handlers poller bytes := by
  refine ⟨[], ?_, ?_, ?_, ?_⟩
  · rw [Dispatched, stopped true]
  · rw [adapterHandle_meta allocates adapterPasses addressed, adapterMeta_stopped (stopped false)]
    rfl
  · rw [metadataHandle_meta poller addressed, pollerMeta_passes pollerPasses, stopped true]
    rfl
  · rw [controlHandle_meta handlers allocates addressed, controlMeta_passes handlersPass, stopped true]
    rfl

/-- A message without attributes is begun and ended by each handler. -/
theorem agree_empty {allocates : Bool} {view : DataSourceMetaView} (addressed : Addressed DataSourceMeta.codec bytes)
    (adapterPasses : adapter.PassesMeta) (handlersPass : handlers.PassesMeta)
    (pollerPasses : poller.handlers.PassesMeta)
    (decoded : ∀ callback, decodeDataSourceMeta callback bytes = value view) (empty : view.attributes = [])
    (none' : view.attributeCount = 0) : MetaAgree allocates adapter handlers poller bytes := by
  have same : ({ view with attributes := [] } : DataSourceMetaView) = view := by rw [← empty]
  have sequence : metaSequence view = [.began view, .ended view] := by
    rw [metaSequence, same, empty]
    rfl
  have both : (metaCalls true true true (value view) : Scan Unit _) = value [.began view, .ended view] := by
    rw [metaCalls_value, same, empty]
    rfl
  refine ⟨metaSequence view, ?_, ?_, ?_, ?_⟩
  · rw [Dispatched, decoded true]
    exact ⟨by rw [empty, none', List.length_nil], rfl⟩
  · rw [adapterHandle_meta allocates adapterPasses addressed, adapterMeta_counted adapterPasses (decoded false),
      decoded true, metaCalls, empty, sequence]
    rfl
  · rw [metadataHandle_meta poller addressed, pollerMeta_passes pollerPasses, decoded true, both, sequence]
    rfl
  · rw [controlHandle_meta handlers allocates addressed, controlMeta_passes handlersPass, decoded true, both,
      sequence]
    rfl

/-- The three handlers pass a message on in the same way exactly when it is refused or has no attributes. -/
theorem metaHandlers_agree_iff (allocates : Bool) (adapter : ControlAdapter) (handlers : ControlHandlers)
    (poller : MetadataPoller) (bytes : List UInt8) (addressed : Addressed DataSourceMeta.codec bytes)
    (adapterPasses : adapter.PassesMeta) (handlersPass : handlers.PassesMeta)
    (pollerPasses : poller.handlers.PassesMeta) :
    MetaAgree allocates adapter handlers poller bytes ↔ Attributeless bytes := by
  constructor
  · intro agree current
    obtain ⟨calls, dispatched, adapterCalls, pollerCalls, -⟩ := agree
    rw [Dispatched] at dispatched
    rw [adapterHandle_meta allocates adapterPasses addressed] at adapterCalls
    rw [metadataHandle_meta poller addressed, pollerMeta_passes pollerPasses] at pollerCalls
    have pass := @decodeDataSourceMeta_current bytes true addressed current
    have count := @decodeDataSourceMeta_current bytes false addressed current
    by_cases outside : bytes.length < 24
    · rw [pass, if_pos outside] at dispatched
      exact absurd dispatched id
    · apply And.intro (Nat.le_of_not_lt outside)
      intro room
      rw [if_neg outside, if_neg (Nat.not_lt.mpr room)] at pass count
      by_contra some'
      rw [adapterMeta_counted adapterPasses count, pass] at adapterCalls
      rw [pass] at dispatched pollerCalls
      cases attributes : metaAttributes bytes with
      | fault =>
          rw [attributes] at dispatched
          exact absurd dispatched id
      | stop error =>
          rw [attributes] at dispatched adapterCalls
          have none' : calls = [] := dispatched
          rw [none'] at adapterCalls
          cases adapterCalls
      | value attributes' =>
          rw [attributes] at dispatched pollerCalls
          obtain ⟨counted, sequence⟩ : _ ∧ calls = metaSequence (metaView bytes attributes') := dispatched
          cases attributes' with
          | nil => exact some' counted.symm
          | cons first others =>
              rw [sequence] at pollerCalls
              change (do
                let metas ← metaCalls true true true (value (metaView bytes (first :: others)))
                value (poller, metas.map MetadataCall.dataSourceMeta)) = _ at pollerCalls
              rw [metaCalls_value] at pollerCalls
              cases pollerCalls
  · intro attributeless
    by_cases current : Wire.Current DataSourceMeta.codec bytes
    · obtain ⟨inside, none'⟩ := attributeless current
      have decoded (callback : Bool) := @decodeDataSourceMeta_current bytes callback addressed current
      simp only [if_neg (Nat.not_lt.mpr inside)] at decoded
      by_cases short : bytes.length < 28
      · simp only [if_pos short] at decoded
        exact agree_stopped addressed adapterPasses handlersPass pollerPasses decoded
      · simp only [if_neg short] at decoded
        have empty : metaAttributes bytes = value [] := by
          rw [metaAttributes, none' (Nat.le_of_not_lt short)]
          rfl
        have decoded' (callback : Bool) : decodeDataSourceMeta callback bytes = value (metaView bytes []) := by
          rw [decoded, empty]
          cases callback <;> rfl
        exact agree_empty addressed adapterPasses handlersPass pollerPasses decoded' rfl
          (none' (Nat.le_of_not_lt short))
    · obtain ⟨refusal, stopped⟩ := decodeDataSourceMeta_stale current
      exact agree_stopped addressed adapterPasses handlersPass pollerPasses stopped

end Agree

def allControlHandlers : ControlHandlers :=
  { onShmPoolAnnounce := true, onConsumerHello := true, onConsumerConfig := true, onDataSourceAnnounce := true
    onDataSourceMetaBegin := true, onDataSourceMetaAttr := true, onDataSourceMetaEnd := true,
      onControlResponse := true
    onTracelinkSet := true, onDetachResponse := true, onLeaseRevoked := true, onShutdown := true
    sequenceJoinBarrier := true, timestampJoinBarrier := true, latestJoinBarrier := true }

/-- This message has no attributes. -/
def bareMeta : List UInt8 :=
  messageHeader.encode DataSourceMeta.codec.header ++ List.replicate 16 7 ++ groupBytes 0 0

/-- This message has one attribute. -/
def taggedMeta : List UInt8 :=
  messageHeader.encode DataSourceMeta.codec.header ++ List.replicate 16 7 ++ groupBytes 0 1 ++
    dataBytes [107] ++ dataBytes [116] ++ dataBytes [118]

theorem bareMeta_addressed : Addressed DataSourceMeta.codec bareMeta := ⟨by decide, by decide, by decide⟩

/-- A message without attributes is passed on in the same way. -/
theorem metaHandlers_agree_bare :
    MetaAgree true allControlHandlers.toControlAdapter allControlHandlers
      (MetadataPoller.init allHandlers) bareMeta :=
  (metaHandlers_agree_iff true allControlHandlers.toControlAdapter allControlHandlers
    (MetadataPoller.init allHandlers) bareMeta bareMeta_addressed ⟨rfl, rfl, rfl⟩ ⟨rfl, rfl, rfl⟩ ⟨rfl, rfl, rfl⟩).mpr
    fun _ => ⟨by decide, fun _ => by decide⟩

/-- The two pollers show the attribute of a message before they begin with it. -/
theorem attribute_before_begin :
    allControlHandlers.toControlAdapter.handle true taggedMeta = value
        [.dataSourceMeta (.began (metaView taggedMeta [])), .dataSourceMeta (.attr ⟨[107], [116], [118]⟩),
          .dataSourceMeta (.ended (metaView taggedMeta []))] ∧
      allControlHandlers.handle true taggedMeta = value
        [.dataSourceMeta (.attr ⟨[107], [116], [118]⟩), .dataSourceMeta (.began (metaView taggedMeta [])),
          .dataSourceMeta (.ended (metaView taggedMeta []))] ∧
      ¬ MetaAgree true allControlHandlers.toControlAdapter allControlHandlers (MetadataPoller.init allHandlers)
        taggedMeta := by
  have adapter : allControlHandlers.toControlAdapter.handle true taggedMeta = value
      [.dataSourceMeta (.began (metaView taggedMeta [])), .dataSourceMeta (.attr ⟨[107], [116], [118]⟩),
        .dataSourceMeta (.ended (metaView taggedMeta []))] := by decide
  have control : allControlHandlers.handle true taggedMeta = value
      [.dataSourceMeta (.attr ⟨[107], [116], [118]⟩), .dataSourceMeta (.began (metaView taggedMeta [])),
        .dataSourceMeta (.ended (metaView taggedMeta []))] := by decide
  refine ⟨adapter, control, fun agree => ?_⟩
  obtain ⟨calls, -, adapterCalls, -, controlCalls⟩ := agree
  have same := adapterCalls.trans controlCalls.symm
  rw [adapter, control] at same
  cases same

end TensorPool.Client
