/-
This file holds the calls of a producer that publish frames.
-/

import TensorPool.Client.Slot

namespace TensorPool.Client

structure BufferClaim where
  seq : UInt64
  headerIndex : UInt32
  poolId : UInt16
  payloadLen : UInt32
  payload : Option Pointer
  traceId : UInt64
  tensor : TensorHeader
  deriving DecidableEq

structure FrameMetadata where
  timestampNs : UInt64
  metaVersion : UInt32
  deriving DecidableEq

/-- What a call takes from outside: the clock, the trace id, and the outcome of the descriptor offer. -/
structure Outside where
  nowNs : UInt64
  traceId : Option UInt64
  descriptor : Int64
  deriving DecidableEq

inductive PublishResult where
  | fault
  | refused (text : String)
  | published (publication : Publication) (stores : List Store)

/-- The mask of the header ring is 32 bits wide. -/
def ringIndex (seq : UInt64) (headerNslots : UInt32) : UInt32 :=
  (seq &&& (headerNslots - 1).toUInt64).toUInt32

theorem ringMask_toNat {headerNslots : UInt32} (positive : 0 < headerNslots.toNat) :
    (headerNslots - 1).toUInt64.toNat = headerNslots.toNat - 1 := by
  have one : 1 ≤ headerNslots := UInt32.le_iff_toNat_le.mpr positive
  rw [UInt32.toNat_toUInt64, UInt32.toNat_sub_of_le _ _ one]
  rfl

/-- The payload area of a slot starts after the superblock. -/
def payloadOffset (headerIndex strideBytes : UInt32) : Nat :=
  superblockSizeBytes + (headerIndex * strideBytes).toNat

def slotEnd (headerIndex : UInt32) : Nat :=
  superblockSizeBytes + (slotAt headerIndex).toNat + headerSlotBytes.toNat

/-- The payload bytes lie where the caller put them, and a null payload has no bytes. -/
def publishFrame (producer : Producer) (outside : Outside) (seq : UInt64) (tensor : TensorHeader)
    (payload : Option (List UInt8)) (payloadLen : UInt32) (poolId : UInt16) (timestampNs : UInt64)
    (metaVersion : UInt32) : PublishResult :=
  if payload.isNone && payloadLen > 0 then
    .refused "tp_producer_publish_frame: null input"
  else
    match producer.headerRegion.addr with
    | none => .refused "tp_producer_publish_frame: producer not attached"
    | some region =>
        if producer.headerNslots == 0 || producer.poolCount == 0 then
          .refused "tp_producer_publish_frame: producer not attached"
        else
          let headerIndex := ringIndex seq producer.headerNslots
          match findPool producer.pools producer.poolCount poolId with
          | .fault => .fault
          | .missing => .refused "tp_producer_publish_frame: unknown pool id"
          | .found pool =>
              if payloadLen > pool.strideBytes then
                .refused "tp_producer_publish_frame: payload too large for pool"
              else
                match prepareTensorHeader tensor with
                | .error text => .refused text
                | .ok prepared =>
                    let slotTimestampNs :=
                      if timestampNs == 0 || timestampNs == nullU64 then outside.nowNs else timestampNs
                    let start := payloadOffset headerIndex pool.strideBytes
                    let publication : Publication :=
                      { seq := seq
                        region := region
                        headerIndex := headerIndex
                        payloadLen := payloadLen
                        poolId := poolId
                        timestampNs := slotTimestampNs
                        metaVersion := metaVersion
                        tensor := prepared }
                    if producer.headerRegion.length < slotEnd headerIndex then
                      .fault
                    else if payloadLen == 0 then
                      .published publication (publication.stores [])
                    else
                      match pool.region.addr with
                      | none => .fault
                      | some target =>
                          if pool.region.length < start + payloadLen.toNat then
                            .fault
                          else
                            let bytes := (List.range payloadLen.toNat).map fun index =>
                              (payload.getD []).getD index 0
                            .published publication (publication.stores (payloadStores ⟨target, start⟩ bytes))

/-- A call ends with a code, a new producer, the stores that it made and the frames that it published. -/
structure Issue where
  code : Int64
  error : Option String := none
  producer : Producer
  stores : List Store := []
  publications : List Publication := []
  claim : Option BufferClaim := none
  /-- The claimed payload that the call copied from. -/
  copied : Option Pointer := none

def Issue.refused (producer : Producer) (text : String) : Issue :=
  { code := -1, error := some text, producer := producer }

/-- A result of the publication as the caller of it sees it. -/
def PublishResult.issue (result : PublishResult) (producer : Producer) (code : Int64) : Option Issue :=
  match result with
  | .fault => none
  | .refused text => some (.refused producer text)
  | .published publication stores =>
      some { code := code, producer := producer, stores := stores, publications := [publication] }

/-- A call may touch what does not exist, and then it has no outcome. -/
def offerFrame (producer : Producer) (outside : Outside) (tensor : TensorHeader) (payload : Option (List UInt8))
    (payloadLen : UInt32) (metadata : Option FrameMetadata) : Option Issue :=
  if producer.headerNslots == 0 || producer.poolCount == 0 || producer.headerRegion.addr.isNone then
    some (.refused producer "tp_producer_offer_frame: producer not attached")
  else
    let timestampNs := (metadata.map FrameMetadata.timestampNs).getD nullU64
    let metaVersion := (metadata.map FrameMetadata.metaVersion).getD nullU32
    match outside.traceId with
    | none => some { code := -1, producer := producer }
    | some _ =>
        match findPoolForLength producer.pools producer.poolCount payloadLen.toNat with
        | .fault => none
        | .missing => some (.refused producer "tp_producer_offer_frame: no pool for payload length")
        | .found pool =>
            let seq := producer.nextSeq
            let next := { producer with nextSeq := seq + 1 }
            let result := publishFrame next outside seq tensor payload payloadLen pool.poolId timestampNs metaVersion
            result.issue next (if outside.descriptor < 0 then -1 else seq.toInt64)

def tryClaim (producer : Producer) (length : UInt64) (claim : BufferClaim) : Option Issue :=
  match producer.headerRegion.addr with
  | none => some (.refused producer "tp_producer_try_claim: producer not attached")
  | some region =>
      if producer.headerNslots == 0 || producer.poolCount == 0 then
        some (.refused producer "tp_producer_try_claim: producer not attached")
      else
        match findPoolForLength producer.pools producer.poolCount length.toNat with
        | .fault => none
        | .missing => some (.refused producer "tp_producer_try_claim: no pool for payload length")
        | .found pool =>
            let seq := producer.nextSeq
            let headerIndex := ringIndex seq producer.headerNslots
            if producer.headerRegion.length < slotEnd headerIndex then
              none
            else
              some
                { code := seq.toInt64
                  producer := { producer with nextSeq := seq + 1 }
                  stores := [.header region (slotAt headerIndex) (.stamp (seqInProgress seq))]
                  claim := some
                    { claim with
                      seq := seq
                      headerIndex := headerIndex
                      poolId := pool.poolId
                      payloadLen := length.toUInt32
                      payload := pool.region.addr.map fun target =>
                        ⟨target, payloadOffset headerIndex pool.strideBytes⟩
                      traceId := 0 } }

/-- The payload of a claim is what the caller has written behind its pointer. -/
def commitClaim (producer : Producer) (outside : Outside) (claim : BufferClaim) (payload : List UInt8)
    (metadata : Option FrameMetadata) : Option Issue :=
  let metadata := metadata.getD ⟨nullU64, nullU32⟩
  match outside.traceId with
  | none => some { code := -1, producer := producer, claim := some claim }
  | some traceId =>
      let result := publishFrame producer outside claim.seq claim.tensor (claim.payload.map fun _ => payload)
        claim.payloadLen claim.poolId metadata.timestampNs metadata.metaVersion
      (result.issue producer outside.descriptor).map fun issue =>
        { issue with
          claim := some { claim with traceId := traceId }
          copied := if issue.publications.isEmpty || claim.payloadLen == 0 then none else claim.payload }

def abortClaim (producer : Producer) (claim : BufferClaim) : Issue :=
  { code := 0, producer := producer, claim := some claim }

def queueClaim (producer : Producer) (claim : BufferClaim) : Option Issue :=
  if !producer.fixedPoolMode then
    some { code := adminAction, producer := producer, claim := some claim }
  else
    let seq := producer.nextSeq
    match producer.headerRegion.addr with
    | none => none
    | some region =>
        if producer.headerRegion.length < slotEnd claim.headerIndex then
          none
        else
          some
            { code := seq.toInt64
              producer := { producer with nextSeq := seq + 1 }
              stores := [.header region (slotAt claim.headerIndex) (.stamp (seqInProgress seq))]
              claim := some { claim with seq := seq, traceId := 0 } }

/-- A call of the application, with what it takes from outside. -/
inductive Call where
  | publish (outside : Outside) (seq : UInt64) (tensor : TensorHeader) (payload : Option (List UInt8))
      (payloadLen : UInt32) (poolId : UInt16) (timestampNs : UInt64) (metaVersion : UInt32)
  | offer (outside : Outside) (tensor : TensorHeader) (payload : Option (List UInt8)) (payloadLen : UInt32)
      (metadata : Option FrameMetadata)
  | tryClaim (length : UInt64) (claim : BufferClaim)
  | commit (outside : Outside) (claim : BufferClaim) (payload : List UInt8) (metadata : Option FrameMetadata)
  | abort (claim : BufferClaim)
  | queue (claim : BufferClaim)

def Call.perform (producer : Producer) : Call → Option Issue
  | .publish outside seq tensor payload payloadLen poolId timestampNs metaVersion =>
      (publishFrame producer outside seq tensor payload payloadLen poolId timestampNs metaVersion).issue producer
        outside.descriptor
  | .offer outside tensor payload payloadLen metadata =>
      offerFrame producer outside tensor payload payloadLen metadata
  | .tryClaim length claim => Client.tryClaim producer length claim
  | .commit outside claim payload metadata => commitClaim producer outside claim payload metadata
  | .abort claim => some (abortClaim producer claim)
  | .queue claim => queueClaim producer claim

end TensorPool.Client
