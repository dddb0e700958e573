/-
This file says what one call of a producer stores and publishes.
-/

import TensorPool.Client.Publish

namespace TensorPool.Client

/-- A call marks a slot or publishes a frame in it. -/
inductive Write where
  | mark (region : Nat) (index : UInt32) (seq : UInt64)
  | publish (publication : Publication) (payload : List Store)

namespace Write

def region : Write → Nat
  | .mark region _ _ => region
  | .publish publication _ => publication.region

def index : Write → UInt32
  | .mark _ index _ => index
  | .publish publication _ => publication.headerIndex

def seq : Write → UInt64
  | .mark _ _ seq => seq
  | .publish publication _ => publication.seq

def stores : Write → List Store
  | .mark region index seq => [.header region (slotAt index) (.stamp (seqInProgress seq))]
  | .publish publication payload => publication.stores payload

def publications : Write → List Publication
  | .mark _ _ _ => []
  | .publish publication _ => [publication]

theorem stores_ne_nil (write : Write) : write.stores ≠ [] := by
  cases write with
  | mark region index seq => exact List.cons_ne_nil _ _
  | publish publication payload => exact List.cons_ne_nil _ _

/-- A published header was accepted, and a payload does not reach any slot. -/
def Proper : Write → Prop
  | .mark _ _ _ => True
  | .publish publication payload =>
      (∃ tensor, tensorHeaderValidate tensor = .ok publication.tensor) ∧
        ∀ region offset, storesAt payload region offset = []

end Write

/-- The sequence number that a call is given or allocates. -/
def Call.seq (producer : Producer) : Call → Option UInt64
  | .publish _ seq _ _ _ _ _ _ => some seq
  | .offer _ _ _ _ _ => some producer.nextSeq
  | .tryClaim _ _ => some producer.nextSeq
  | .commit _ claim _ _ => some claim.seq
  | .abort _ => none
  | .queue _ => some producer.nextSeq

/-- The index of the slot that a call stores to, if it stores at all. -/
def Call.slot (producer : Producer) (call : Call) : Option UInt32 :=
  match call with
  | .queue claim => some claim.headerIndex
  | other => (other.seq producer).map (ringIndex · producer.headerNslots)

/-- A call writes once or not at all, in the attached header ring. -/
structure Written (producer : Producer) (call : Call) (issue : Issue) (write : Option Write) : Prop where
  stores : issue.stores = write.toList.flatMap Write.stores
  publications : issue.publications = write.toList.flatMap Write.publications
  proper : ∀ written ∈ write, written.Proper
  seq : ∀ written ∈ write, call.seq producer = some written.seq
  slot : ∀ written ∈ write, call.slot producer = some written.index
  region : ∀ written ∈ write, producer.headerRegion.addr = some written.region
  kept : ∃ next, issue.producer = { producer with nextSeq := next }

theorem storesAt_payload (target : Pointer) (bytes : List UInt8) (region : Nat) (offset : UInt32) :
    storesAt (payloadStores target bytes) region offset = [] := by
  induction bytes generalizing target with
  | nil => rfl
  | cons byte rest hypothesis => exact hypothesis _

/-- A frame is published in the slot of its sequence number. -/
theorem publishFrame_published {producer : Producer} {outside : Outside} {seq : UInt64} {tensor : TensorHeader}
    {payload : Option (List UInt8)} {payloadLen : UInt32} {poolId : UInt16} {timestampNs : UInt64}
    {metaVersion : UInt32} {publication : Publication} {stores : List Store}
    (published : publishFrame producer outside seq tensor payload payloadLen poolId timestampNs metaVersion =
      .published publication stores) :
    ∃ bytes, stores = publication.stores bytes ∧ (Write.publish publication bytes).Proper ∧
      publication.seq = seq ∧ publication.headerIndex = ringIndex seq producer.headerNslots ∧
        producer.headerRegion.addr = some publication.region := by
  unfold publishFrame at published
  split at published
  · cases published
  · split at published
    · cases published
    next region attached =>
      dsimp only at published
      split at published
      · cases published
      · split at published
        · cases published
        · cases published
        next pool found =>
          split at published
          · cases published
          · split at published
            · cases published
            next prepared valid =>
              have accepted : ∃ tensor, tensorHeaderValidate tensor = .ok prepared := ⟨_, valid⟩
              split at published
              · cases published
              · split at published
                · cases published
                  exact ⟨[], rfl, ⟨accepted, fun _ _ => rfl⟩, rfl, rfl, attached⟩
                · split at published
                  · cases published
                  next target mapped =>
                    split at published
                    · cases published
                    · cases published
                      exact ⟨_, rfl, ⟨accepted, storesAt_payload _ _⟩, rfl, rfl, attached⟩

section Calls

variable {producer : Producer} {call : Call} {issue : Issue}

/-- A call that stores nothing is written without a write. -/
theorem Written.nothing (stores : issue.stores = []) (publications : issue.publications = [])
    (kept : ∃ next, issue.producer = { producer with nextSeq := next }) : Written producer call issue none where
  stores := stores
  publications := publications
  proper := fun _ absent => by cases absent
  seq := fun _ absent => by cases absent
  slot := fun _ absent => by cases absent
  region := fun _ absent => by cases absent
  kept := kept

theorem Written.one {write : Write} (stores : issue.stores = write.stores)
    (publications : issue.publications = write.publications) (proper : write.Proper)
    (seq : call.seq producer = some write.seq) (slot : call.slot producer = some write.index)
    (region : producer.headerRegion.addr = some write.region)
    (kept : ∃ next, issue.producer = { producer with nextSeq := next }) :
    Written producer call issue (some write) where
  stores := by rw [stores, Option.toList_some, List.flatMap_singleton]
  publications := by rw [publications, Option.toList_some, List.flatMap_singleton]
  proper := by
    rintro written ⟨⟩
    exact proper
  seq := by
    rintro written ⟨⟩
    exact seq
  slot := by
    rintro written ⟨⟩
    exact slot
  region := by
    rintro written ⟨⟩
    exact region
  kept := kept

/-- Publishing after an allocation writes in the slot of the sequence number. -/
theorem publishFrame_written {next : UInt64} {outside : Outside} {seq : UInt64} {tensor : TensorHeader}
    {payload : Option (List UInt8)} {payloadLen : UInt32} {poolId : UInt16} {timestampNs : UInt64}
    {metaVersion : UInt32} {code : Int64} (ownSeq : call.seq producer = some seq)
    (ownSlot : call.slot producer = some (ringIndex seq producer.headerNslots))
    (issued : (publishFrame { producer with nextSeq := next } outside seq tensor payload payloadLen poolId
      timestampNs metaVersion).issue { producer with nextSeq := next } code = some issue) :
    ∃ write, Written producer call issue write := by
  unfold PublishResult.issue at issued
  split at issued
  · cases issued
  · cases issued
    exact ⟨none, .nothing rfl rfl ⟨next, rfl⟩⟩
  next publication stores published =>
    cases issued
    obtain ⟨bytes, rfl, proper, rfl, index, region⟩ := publishFrame_published published
    exact ⟨some (.publish publication bytes),
      .one rfl rfl proper ownSeq (ownSlot.trans (congrArg some index.symm)) region ⟨next, rfl⟩⟩

theorem offerFrame_written {outside : Outside} {tensor : TensorHeader} {payload : Option (List UInt8)}
    {payloadLen : UInt32} {metadata : Option FrameMetadata}
    (issued : offerFrame producer outside tensor payload payloadLen metadata = some issue) :
    ∃ write, Written producer (.offer outside tensor payload payloadLen metadata) issue write := by
  unfold offerFrame at issued
  split at issued
  · cases issued
    exact ⟨none, .nothing rfl rfl ⟨producer.nextSeq, rfl⟩⟩
  · dsimp only at issued
    split at issued
    · cases issued
      exact ⟨none, .nothing rfl rfl ⟨producer.nextSeq, rfl⟩⟩
    · split at issued
      · cases issued
      · cases issued
        exact ⟨none, .nothing rfl rfl ⟨producer.nextSeq, rfl⟩⟩
      · exact publishFrame_written rfl rfl issued

theorem tryClaim_written {length : UInt64} {claim : BufferClaim}
    (issued : tryClaim producer length claim = some issue) :
    ∃ write, Written producer (.tryClaim length claim) issue write := by
  unfold tryClaim at issued
  split at issued
  · cases issued
    exact ⟨none, .nothing rfl rfl ⟨producer.nextSeq, rfl⟩⟩
  next region attached =>
    split at issued
    · cases issued
      exact ⟨none, .nothing rfl rfl ⟨producer.nextSeq, rfl⟩⟩
    · split at issued
      · cases issued
      · cases issued
        exact ⟨none, .nothing rfl rfl ⟨producer.nextSeq, rfl⟩⟩
      · dsimp only at issued
        split at issued
        · cases issued
        · cases issued
          exact ⟨some (.mark region (ringIndex producer.nextSeq producer.headerNslots) producer.nextSeq),
            .one rfl rfl trivial rfl rfl attached ⟨producer.nextSeq + 1, rfl⟩⟩

theorem commitClaim_written {outside : Outside} {claim : BufferClaim} {payload : List UInt8}
    {metadata : Option FrameMetadata} (issued : commitClaim producer outside claim payload metadata = some issue) :
    ∃ write, Written producer (.commit outside claim payload metadata) issue write := by
  unfold commitClaim at issued
  dsimp only at issued
  split at issued
  · cases issued
    exact ⟨none, .nothing rfl rfl ⟨producer.nextSeq, rfl⟩⟩
  · obtain ⟨inner, published, rfl⟩ := Option.map_eq_some_iff.mp issued
    have written : ∃ write, Written producer (.commit outside claim payload metadata) inner write :=
      publishFrame_written rfl rfl published
    obtain ⟨write, written⟩ := written
    exact ⟨write, written.stores, written.publications, written.proper, written.seq, written.slot,
      written.region, written.kept⟩

theorem queueClaim_written {claim : BufferClaim} (issued : queueClaim producer claim = some issue) :
    ∃ write, Written producer (.queue claim) issue write := by
  unfold queueClaim at issued
  split at issued
  · cases issued
    exact ⟨none, .nothing rfl rfl ⟨producer.nextSeq, rfl⟩⟩
  · dsimp only at issued
    split at issued
    · cases issued
    next region attached =>
      split at issued
      · cases issued
      · cases issued
        exact ⟨some (.mark region claim.headerIndex producer.nextSeq),
          .one rfl rfl trivial rfl rfl attached ⟨producer.nextSeq + 1, rfl⟩⟩

/-- Every call that has an outcome writes at most once. -/
theorem perform_written (performed : call.perform producer = some issue) :
    ∃ write, Written producer call issue write := by
  cases call with
  | publish outside seq tensor payload payloadLen poolId timestampNs metaVersion =>
      exact publishFrame_written rfl rfl performed
  | offer outside tensor payload payloadLen metadata => exact offerFrame_written performed
  | tryClaim length claim => exact tryClaim_written performed
  | commit outside claim payload metadata => exact commitClaim_written performed
  | abort claim =>
      cases performed
      exact ⟨none, .nothing rfl rfl ⟨producer.nextSeq, rfl⟩⟩
  | queue claim => exact queueClaim_written performed

end Calls

end TensorPool.Client
