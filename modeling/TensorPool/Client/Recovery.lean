/-
This file shows when a consumer recovers what a producer has published in a slot.
-/

import TensorPool.Client.AttachChecks
import TensorPool.Client.Strides

namespace TensorPool.Client

open FixedField Seqlock
open Strides (extentBytes)

attribute [local instance] axes_neZero

/-- The strides that are inferred, wrapped to 32 bits, are not negative. -/
def SignedFrom (dims given : Fin 8 → Int32) : Int → List (Fin 8) → Prop
  | _, [] => True
  | bound, index :: rest =>
      (ints given index = 0 → 0 ≤ bound.bmod (2 ^ 32)) ∧
        SignedFrom dims given
          ((if ints given index = 0 then bound.bmod (2 ^ 32) else ints given index) * max (ints dims index) 1) rest

def SignedStrides (header : TensorHeader) : Prop :=
  SignedFrom header.dims header.strides (elementBytes header) (innerFirst header)

instance decidableSignedFrom (dims given : Fin 8 → Int32) :
    (bound : Int) → (order : List (Fin 8)) → Decidable (SignedFrom dims given bound order)
  | _, [] => .isTrue trivial
  | bound, index :: rest =>
      @instDecidableAnd (ints given index = 0 → 0 ≤ bound.bmod (2 ^ 32)) _ inferInstance
        (decidableSignedFrom dims given _ rest)

instance (header : TensorHeader) : Decidable (SignedStrides header) := decidableSignedFrom ..

/-- The consumer has mapped the header ring and the pools of the producer. -/
structure SharesRegions (consumer : Consumer) (producer : Producer) : Prop where
  useShm : consumer.useShm = true
  shmMapped : consumer.shmMapped = true
  headerNslots : consumer.headerNslots = producer.headerNslots
  headerRegion : consumer.headerRegion = producer.headerRegion
  pools : ∀ poolId pool, findPool producer.pools producer.poolCount poolId = .found pool →
    ∃ mapped, findPool consumer.pools consumer.poolCount poolId = .found mapped ∧
      mapped.strideBytes = pool.strideBytes

/-- The timestamp of a slot is the clock when the caller gives none. -/
def slotTimestamp (outside : Outside) (timestampNs : UInt64) : UInt64 :=
  if timestampNs == 0 || timestampNs == nullU64 then outside.nowNs else timestampNs

/-- A reader of the slot gets the values of the call that published it, and the same bytes when it encodes them
again. -/
structure Recovered (cell : SlotCell) (consumer : Consumer) (producer : Producer) (seq : UInt64) (payloadLen : UInt32)
    (poolId : UInt16) (timestampNs : UInt64) (metaVersion : UInt32) (prepared : TensorHeader) : Prop where
  slot : slotDecode.alone cell = some
    { seqCommit := seqCommitted seq
      valuesLenBytes := payloadLen
      payloadSlot := ringIndex seq producer.headerNslots
      poolId := poolId
      payloadOffset := 0
      timestampNs := timestampNs
      metaVersion := metaVersion
      headerBytesLength := tensorHeaderBytes }
  header : (tensorHeaderDecode 64 tensorHeaderBytes).alone cell = .ok prepared
  bytes : window cell.body 64 tensorHeaderBytes.toNat = encodeTensorHeader prepared
  beyond : ∀ index : Fin 8, prepared.ndims.toNat ≤ index.val → prepared.dims index = 0 ∧ prepared.strides index = 0
  valid : tensorHeaderValidate prepared = .ok prepared
  read : ∃ region pool reading, producer.headerRegion.addr = some region ∧
    findPool consumer.pools consumer.poolCount poolId = .found pool ∧
    readFrame consumer seq = .loads region (slotAt (ringIndex seq producer.headerNslots)) reading ∧
    reading.alone cell = .frame
      { tensor := prepared
        payload := pool.region.addr.map fun target =>
          ⟨target, payloadOffset (ringIndex seq producer.headerNslots) pool.strideBytes⟩
        payloadLen := payloadLen
        poolId := poolId
        payloadSlot := ringIndex seq producer.headerNslots
        timestampNs := timestampNs
        metaVersion := metaVersion }

section Signs

variable {dims given filled : Fin 8 → Int32} {inner : Fin 8} {rest : List (Fin 8)}

/-- A fill leaves no negative stride exactly when no wrapped product is one. -/
theorem wraps_signed (chain : (inner :: rest).IsChain (Wraps dims given filled))
    (givenSigns : ∀ index ∈ rest, 0 ≤ ints given index) :
    (∀ index ∈ rest, 0 ≤ ints filled index) ↔
      SignedFrom dims given (extentBytes (ints filled) (ints dims) inner) rest := by
  induction rest generalizing inner with
  | nil => simp [SignedFrom]
  | cons outer rest hypothesis =>
      obtain ⟨wraps, later⟩ := List.isChain_cons_cons.mp chain
      have value : ints filled outer =
          if ints given outer = 0 then (extentBytes (ints filled) (ints dims) inner).bmod (2 ^ 32)
          else ints given outer := by
        rw [Wraps] at wraps
        split
        next zero =>
          rw [if_pos zero] at wraps
          exact wraps
        next nonzero =>
          rw [if_neg nonzero] at wraps
          exact wraps.1
      have sign : 0 ≤ ints filled outer ↔
          (ints given outer = 0 → 0 ≤ (extentBytes (ints filled) (ints dims) inner).bmod (2 ^ 32)) := by
        rw [value]
        split
        next zero => simp [zero]
        next nonzero => simp [nonzero, givenSigns outer List.mem_cons_self]
      rw [List.forall_mem_cons, SignedFrom, sign,
        hypothesis later fun index member => givenSigns index (List.mem_cons_of_mem _ member), ← value]
      rfl

theorem validate_again_iff {header filled : TensorHeader} (accepted : tensorHeaderValidate header = .ok filled) :
    tensorHeaderValidate filled = .ok filled ↔ SignedStrides header := by
  obtain ⟨bounds, known, checked, fills, progress⟩ := tensorHeaderValidate_iff.mp accepted
  obtain ⟨inner, rest, order, shape, wraps, first⟩ := tensorFillStrides_wraps bounds.2 fills
  have signs := checkDims_innerFirst.mp checked
  rw [order] at signs
  have size : 0 ≤ elementBytes header ∧ (elementBytes header).bmod (2 ^ 32) = elementBytes header := by
    have all : ∀ size ∈ ([0, 1, 2, 4, 8] : List Nat), 0 ≤ (size : Int) ∧ (size : Int).bmod (2 ^ 32) = size :=
      by decide
    exact all _ (dtypeSizeBytes_mem header.dtype)
  have nonneg : 0 ≤ ints filled.strides inner := by
    rw [first]
    split
    · exact size.1
    · exact (signs inner List.mem_cons_self).2
  have later := wraps_signed wraps fun index member => (signs index (List.mem_cons_of_mem _ member)).2
  rw [validate_again accepted, SignedStrides, order, List.forall_mem_cons, and_iff_right nonneg, later,
    SignedFrom, size.2, ← first, and_iff_right fun _ => size.1]
  rfl

end Signs

section Publishing

variable {producer : Producer} {outside : Outside} {seq : UInt64} {tensor : TensorHeader}
    {payload : Option (List UInt8)}
  {payloadLen : UInt32} {poolId : UInt16} {timestampNs : UInt64} {metaVersion : UInt32} {publication : Publication}
  {stores : List Store}

/-- A published frame has the values of the call, and its payload fits the pool. -/
theorem publishFrame_values
    (published : publishFrame producer outside seq tensor payload payloadLen poolId timestampNs metaVersion =
      .published publication stores) :
    ∃ region pool prepared, producer.headerRegion.addr = some region ∧ producer.headerNslots ≠ 0 ∧
      findPool producer.pools producer.poolCount poolId = .found pool ∧ payloadLen ≤ pool.strideBytes ∧
      prepareTensorHeader tensor = .ok prepared ∧
      slotEnd (ringIndex seq producer.headerNslots) ≤ producer.headerRegion.length ∧
      publication =
        { seq := seq
          region := region
          headerIndex := ringIndex seq producer.headerNslots
          payloadLen := payloadLen
          poolId := poolId
          timestampNs := slotTimestamp outside timestampNs
          metaVersion := metaVersion
          tensor := prepared } := by
  unfold publishFrame at published
  split at published
  · cases published
  · split at published
    · cases published
    next region attached =>
      dsimp only at published
      split at published
      · cases published
      next ready =>
        split at published
        · cases published
        · cases published
        next pool found =>
          split at published
          · cases published
          next fits =>
            split at published
            · cases published
            next prepared valid =>
              split at published
              · cases published
              next inside =>
                have slots : producer.headerNslots ≠ 0 := by
                  intro zero
                  exact ready (by rw [zero]; rfl)
                have within := UInt32.not_lt.mp fits
                refine ⟨region, pool, prepared, attached, slots, found, within, valid, Nat.not_lt.mp inside, ?_⟩
                split at published
                · cases published
                  rfl
                · split at published
                  · cases published
                  · split at published
                    · cases published
                    · cases published
                      rfl

/-- After its stores the slot holds the publication, whatever it held before. -/
theorem published_holds {payload : List Store} (proper : (Write.publish publication payload).Proper)
    (before : SlotCell) :
    Holds (before.after (storesAt (publication.stores payload) publication.region (slotAt publication.headerIndex)))
      publication := by
  have stores := storesAt_write proper publication.region (slotAt publication.headerIndex)
  rw [if_pos ⟨rfl, rfl⟩] at stores
  change storesAt (publication.stores payload) _ _ = _ at stores
  rw [stores]
  exact update_holds proper before

/-- A read of a slot that holds a publication returns it when its pool is mapped and its header is valid again. -/
theorem read_holds {cell : SlotCell} {consumer : Consumer} {pool : Pool} (holds : Holds cell publication)
    (small : publication.seq.toNat < 2 ^ 63)
    (found : findPool consumer.pools consumer.poolCount publication.poolId = .found pool)
    (fits : publication.payloadLen ≤ pool.strideBytes)
    (valid : tensorHeaderValidate publication.tensor = .ok publication.tensor) :
    (readSlot consumer publication.seq publication.headerIndex).alone cell = .frame (publication.view pool) := by
  obtain ⟨stamp, shown, tensor, accepted⟩ := holds
  have shows' := slot_shows shown
  obtain ⟨dtype, majorOrder, progressUnit⟩ := tensorHeaderValidate_known accepted
  have decoded := decode_tensor shows'.header dtype majorOrder progressUnit
  have within : ¬ publication.payloadLen > pool.strideBytes := UInt32.not_lt.mpr fits
  unfold readSlot
  rw [Reading.alone, stamp, seqCommitted_isCommitted, if_neg (by decide), Reading.alone_bind, decode_slot shows']
  dsimp only
  rw [if_neg (by decide), if_neg (by simp), found]
  dsimp only
  rw [if_neg within, if_neg (by decide), Reading.alone_bind, decoded]
  dsimp only
  rw [valid]
  dsimp only
  rw [confirm, Reading.alone, stamp, seqCommitted_isCommitted, if_neg (by simp), seqValue_committed small,
    if_neg (by simp)]
  rfl

/-- A consumer that shares the regions loads the slot of the publication. -/
theorem readFrame_shared {consumer : Consumer} {region : Nat} (shares : SharesRegions consumer producer)
    (attached : producer.headerRegion.addr = some region) (slots : producer.headerNslots ≠ 0)
    (inside : slotEnd (ringIndex seq producer.headerNslots) ≤ producer.headerRegion.length) :
    readFrame consumer seq = .loads region (slotAt (ringIndex seq producer.headerNslots))
      (readSlot consumer seq (ringIndex seq producer.headerNslots)) := by
  have below : ¬ ringIndex seq producer.headerNslots ≥ producer.headerNslots :=
    UInt32.not_le.mpr (UInt32.lt_iff_toNat_lt.mpr (ringIndex_lt_of_ne_zero slots seq))
  unfold readFrame
  rw [shares.useShm, shares.shmMapped, shares.headerNslots, shares.headerRegion, if_neg (by decide),
    if_neg (by decide), if_neg (by simpa using slots)]
  dsimp only
  rw [if_neg below, attached]
  dsimp only
  rw [if_neg (Nat.not_lt.mpr inside)]

/-- The prepared header is zero beyond its dimensions. -/
theorem prepared_beyond {prepared : TensorHeader} (valid : prepareTensorHeader tensor = .ok prepared) (index : Fin 8)
    (outside : prepared.ndims.toNat ≤ index.val) : prepared.dims index = 0 ∧ prepared.strides index = 0 := by
  obtain ⟨bounds, known, checked, fills, progress⟩ := tensorHeaderValidate_iff.mp valid
  obtain ⟨inner, rest, order, distinct, shape, made⟩ := tensorFillStrides_along bounds.2 fills
  have ndims : prepared.ndims = tensor.ndims := by rw [shape]
  have beyond : ¬ index.val < tensor.ndims.toNat := by
    rw [ndims] at outside
    exact Nat.not_lt.mpr outside
  have absent : index ∉ inner :: rest := by
    rw [← order, mem_innerFirst bounds.2]
    exact beyond
  constructor
  · rw [shape]
    exact if_neg beyond
  · rw [fillFrom_keeps made index, fillInner]
    · split
      · rw [Function.update_of_ne (ne_of_mem_of_not_mem List.mem_cons_self absent).symm]
        exact if_neg beyond
      · exact if_neg beyond
    · intro pair member same
      exact absent (same ▸ List.mem_cons_of_mem _ (List.of_mem_zip member).1)

theorem signedFrom_congr {dims dims' given given' : Fin 8 → Int32} {order : List (Fin 8)} {bound : Int}
    (same : ∀ index ∈ order, dims index = dims' index ∧ given index = given' index) :
    SignedFrom dims given bound order ↔ SignedFrom dims' given' bound order := by
  induction order generalizing bound with
  | nil => rfl
  | cons index rest hypothesis =>
      obtain ⟨dim, stride⟩ := same index List.mem_cons_self
      have dimInt : ints dims index = ints dims' index := congrArg Int32.toInt dim
      have strideInt : ints given index = ints given' index := congrArg Int32.toInt stride
      rw [SignedFrom, SignedFrom, dimInt, strideInt,
        hypothesis fun other member => same other (List.mem_cons_of_mem _ member)]

/-- Whether a prepared header is valid again depends on the given header alone. -/
theorem prepared_again_iff {prepared : TensorHeader} (valid : prepareTensorHeader tensor = .ok prepared) :
    tensorHeaderValidate prepared = .ok prepared ↔ SignedStrides tensor := by
  have bounds := (tensorHeaderValidate_iff.mp valid).1
  have inside := @mem_innerFirst tensor bounds.2
  rw [validate_again_iff valid]
  apply signedFrom_congr
  intro index member
  exact ⟨if_pos ((inside index).mp member), if_pos ((inside index).mp member)⟩

end Publishing

/--
The consumer recovers a published frame with exactly the values of the call, and the same header bytes, if and only if
no inferred stride of its tensor header wraps to a negative number.
-/
theorem frame_recovered_iff (producer : Producer) (outside : Outside) (seq : UInt64) (tensor : TensorHeader)
    (payload : Option (List UInt8)) (payloadLen : UInt32) (poolId : UInt16) (timestampNs : UInt64)
    (metaVersion : UInt32) (publication : Publication) (stores : List Store) (consumer : Consumer) (before : SlotCell)
    (published : publishFrame producer outside seq tensor payload payloadLen poolId timestampNs metaVersion =
      .published publication stores)
    (small : seq.toNat < 2 ^ 63) (shares : SharesRegions consumer producer) :
    (∃ prepared, prepareTensorHeader tensor = .ok prepared ∧
      Recovered (before.after (storesAt stores publication.region
        (slotAt publication.headerIndex))) consumer producer seq payloadLen poolId
          (slotTimestamp outside timestampNs) metaVersion prepared) ↔ SignedStrides tensor := by
  obtain ⟨bytes, rfl, proper, -, -, -⟩ := publishFrame_published published
  obtain ⟨region, pool, prepared, attached, slots, found, fits, valid, inside, rfl⟩ := publishFrame_values published
  constructor
  · intro recovered
    obtain ⟨header, same, shown⟩ := recovered
    rw [valid] at same
    obtain rfl := Except.ok.inj same
    exact (prepared_again_iff valid).mp shown.valid
  · intro signed
    have again := (prepared_again_iff valid).mpr signed
    have holds := published_holds proper before
    have shown := slot_shows holds.shows
    obtain ⟨dtype, majorOrder, progressUnit⟩ := tensorHeaderValidate_known valid
    obtain ⟨mapped, present, stride⟩ := shares.pools poolId pool found
    apply Exists.intro prepared
    apply And.intro valid
    constructor
    · rw [decode_slot shown, holds.stamp]
    · exact decode_tensor shown.header dtype majorOrder progressUnit
    · have width : tensorHeaderBytes.toNat = (encodeTensorHeader prepared).length := by
        rw [encodeTensorHeader, headerBytesField.length_encode]
        rfl
      rw [width]
      exact shown.header.bytes
    · exact prepared_beyond valid
    · exact again
    · apply Exists.intro region
      apply Exists.intro mapped
      apply Exists.intro (readSlot consumer seq (ringIndex seq producer.headerNslots))
      apply And.intro attached
      apply And.intro present
      apply And.intro (readFrame_shared shares attached slots inside)
      have reading := read_holds holds small present (stride ▸ fits) again
      exact reading

/-- A producer with two slots and one pool of 64 bytes, and a consumer of its regions. -/
def publishingProducer : Producer where
  headerRegion := { addr := some 0, length := 1024 }
  pools := [{ poolId := 3, nslots := 2, strideBytes := 64, region := { addr := some 1, length := 256 } }]
  poolCount := 1
  headerNslots := 2

def sharingConsumer : Consumer where
  headerRegion := { addr := some 0, length := 1024 }
  pools := [{ poolId := 3, nslots := 2, strideBytes := 64, region := { addr := some 1, length := 256 } }]
  poolCount := 1
  headerNslots := 2
  shmMapped := true

theorem sharingConsumer_shares : SharesRegions sharingConsumer publishingProducer :=
  ⟨rfl, rfl, rfl, rfl, fun _ pool found => ⟨pool, found, rfl⟩⟩

theorem frame_recovered_small :
    ∃ publication stores,
      publishFrame publishingProducer ⟨77, some 1, 0⟩ 5 twoRows (some [1, 2, 3]) 3 3 0 9 =
        .published publication stores ∧
      ((∃ prepared, prepareTensorHeader twoRows = .ok prepared ∧
        Recovered (Cell.after ⟨0, fun _ => 0⟩ (storesAt stores publication.region (slotAt publication.headerIndex)))
          sharingConsumer publishingProducer 5 3 3 (slotTimestamp ⟨77, some 1, 0⟩ 0) 9 prepared) ↔
        SignedStrides twoRows) :=
  ⟨_, _, rfl, frame_recovered_iff publishingProducer ⟨77, some 1, 0⟩ 5 twoRows (some [1, 2, 3]) 3 3 0 9 _ _
    sharingConsumer ⟨0, fun _ => 0⟩ rfl (by decide) sharingConsumer_shares⟩

/-- The stride of the outermost dimension is 2^31 and wraps to a negative number. -/
def wrapping : TensorHeader :=
  { twoRows with
    dtype := 1, ndims := 3, progressUnit := progressUnitNone
    dims := fun index => if index = 0 then 1 else if index = 1 then 2 else if index = 2 then 1073741824 else 0 }

/-- The producer publishes the header, and the consumer refuses the frame. -/
theorem wrapping_not_recovered :
    ∃ publication stores,
      publishFrame publishingProducer ⟨77, some 1, 0⟩ 5 wrapping none 0 3 0 9 = .published publication stores ∧
      ¬ ∃ prepared, prepareTensorHeader wrapping = .ok prepared ∧
        Recovered (Cell.after ⟨0, fun _ => 0⟩ (storesAt stores publication.region (slotAt publication.headerIndex)))
          sharingConsumer publishingProducer 5 0 3 (slotTimestamp ⟨77, some 1, 0⟩ 0) 9 prepared := by
  apply Exists.intro _
  apply Exists.intro _
  apply And.intro rfl
  intro recovered
  obtain ⟨prepared, valid, shown⟩ := recovered
  exact absurd ((prepared_again_iff valid).mp shown.valid) (by decide)

end TensorPool.Client
