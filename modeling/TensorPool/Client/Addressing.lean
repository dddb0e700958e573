/-
This file compares the addresses of slots with those in unbounded integers.
-/

import TensorPool.Client.Placement
import TensorPool.Driver.RegionFile

namespace TensorPool.Client

open Seqlock

/-- In unbounded integers the header of a slot starts here, behind the superblock. -/
def exactHeader (index : Nat) : Nat := superblockSizeBytes + 256 * index

/-- In unbounded integers the payload of a slot starts here. -/
def exactPayload (stride index : Nat) : Nat := superblockSizeBytes + index * stride

/-- Two ranges of bytes share none. -/
def BytesApart (left leftLength right rightLength : Nat) : Prop :=
  left + leftLength ≤ right ∨ right + rightLength ≤ left

/-- A store of a frame goes to the header or to the payload of the slot with this index. -/
def Store.Exact (stride index : Nat) : Store → Prop
  | .header _ offset _ => superblockSizeBytes + offset.toNat = exactHeader index
  | .payload _ offset _ => exactPayload stride index ≤ offset ∧ offset < exactPayload stride index + stride

/-- A pointer to a payload is the exact one in the region of its pool. -/
def Pool.Exact (pool : Pool) (index : Nat) (pointer : Pointer) : Prop :=
  pool.region.addr = some pointer.region ∧ pointer.offset = exactPayload pool.strideBytes.toNat index

section Calls

variable (nslots stride : UInt32)

/-- A published frame is stored in its slot. -/
def PublishExact : Prop :=
  ∀ producer outside seq tensor payload payloadLen poolId timestampNs metaVersion publication stores pool,
    producer.headerNslots = nslots →
    publishFrame producer outside seq tensor payload payloadLen poolId timestampNs metaVersion =
      .published publication stores →
    findPool producer.pools producer.poolCount poolId = .found pool → pool.strideBytes = stride →
    ∀ store ∈ stores, store.Exact stride.toNat (seq.toNat % nslots.toNat)

/-- A claim marks its slot and points to its payload. -/
def ClaimExact : Prop :=
  ∀ producer length claim issue pool, producer.headerNslots = nslots →
    tryClaim producer length claim = some issue →
    findPoolForLength producer.pools producer.poolCount length.toNat = .found pool → pool.strideBytes = stride →
    (∀ store ∈ issue.stores, store.Exact stride.toNat (producer.nextSeq.toNat % nslots.toNat)) ∧
      ∀ made, issue.claim = some made → ∀ pointer, made.payload = some pointer →
        pool.Exact (producer.nextSeq.toNat % nslots.toNat) pointer

/-- A read loads from its slot, and the frame that it returns points to the payload of the slot. -/
def ReadExact : Prop :=
  ∀ consumer seq region offset reading, consumer.headerNslots = nslots →
    readFrame consumer seq = .loads region offset reading →
    superblockSizeBytes + offset.toNat = exactHeader (seq.toNat % nslots.toNat) ∧
      ∀ view pool, reading.Returns (.frame view) →
        findPool consumer.pools consumer.poolCount view.poolId = .found pool → pool.strideBytes = stride →
        ∀ pointer, view.payload = some pointer → pool.Exact (seq.toNat % nslots.toNat) pointer

/-- Each slot has its own bytes inside the files of the driver. -/
structure SlotsFit : Prop where
  headers : ∀ left right : UInt32, left < nslots → right < nslots → left ≠ right →
    BytesApart (superblockSizeBytes + (slotAt left).toNat) 256 (superblockSizeBytes + (slotAt right).toNat) 256
  payloads : ∀ left right : UInt32, left < nslots → right < nslots → left ≠ right →
    BytesApart (payloadOffset left stride) stride.toNat (payloadOffset right stride) stride.toNat
  headerInside : ∀ index : UInt32, index < nslots →
    superblockSizeBytes + (slotAt index).toNat + 256 ≤ (Driver.regionFileSize .headerRing nslots 0).toNat
  payloadInside : ∀ index : UInt32, index < nslots →
    payloadOffset index stride + stride.toNat ≤ (Driver.regionFileSize .payloadPool nslots stride).toNat

/-- The addresses of a ring and a pool are exact in every call, and their slots fit. -/
structure AddressedExactly : Prop where
  published : PublishExact nslots stride
  claimed : ClaimExact nslots stride
  read : ReadExact nslots stride
  fit : SlotsFit nslots stride

/-- Both products of the last slot stay below 2^32. -/
def ProductsFit : Prop := nslots.toNat ≤ 2 ^ 24 ∧ (nslots.toNat - 1) * stride.toNat < 2 ^ 32

end Calls

section Fitting

variable {nslots stride index : UInt32}

theorem slotAt_exact (fits : ProductsFit nslots stride) (inside : index < nslots) :
    superblockSizeBytes + (slotAt index).toNat = exactHeader index.toNat := by
  have bound := fits.1
  rw [UInt32.lt_iff_toNat_lt] at inside
  rw [slotAt, UInt32.toNat_mul, exactHeader]
  change 64 + index.toNat * 256 % 2 ^ 32 = 64 + 256 * index.toNat
  omega

theorem payloadOffset_exact (fits : ProductsFit nslots stride) (inside : index < nslots) :
    payloadOffset index stride = exactPayload stride.toNat index.toNat := by
  rw [UInt32.lt_iff_toNat_lt] at inside
  have last : index.toNat * stride.toNat ≤ (nslots.toNat - 1) * stride.toNat := Nat.mul_le_mul_right _ (by omega)
  rw [payloadOffset, exactPayload, UInt32.toNat_mul, Nat.mod_eq_of_lt (Nat.lt_of_le_of_lt last fits.2)]

/-- The next slot starts where the payload of a slot ends. -/
theorem exactPayload_step {left right : Nat} (stride : Nat) (before : left < right) :
    exactPayload stride left + stride ≤ exactPayload stride right := by
  have product : (left + 1) * stride ≤ right * stride := Nat.mul_le_mul_right _ before
  rw [Nat.add_one_mul] at product
  rw [exactPayload, exactPayload]
  omega

theorem slotsFit_of_productsFit (fits : ProductsFit nslots stride) : SlotsFit nslots stride where
  headers left right leftInside rightInside differ := by
    rw [slotAt_exact fits leftInside, slotAt_exact fits rightInside, BytesApart, exactHeader, exactHeader]
    rw [ne_eq, ← UInt32.toNat_inj] at differ
    omega
  payloads left right leftInside rightInside differ := by
    rw [payloadOffset_exact fits leftInside, payloadOffset_exact fits rightInside]
    rw [ne_eq, ← UInt32.toNat_inj] at differ
    rcases Nat.lt_or_gt_of_ne differ with before | after
    · exact .inl (exactPayload_step _ before)
    · exact .inr (exactPayload_step _ after)
  headerInside index inside := by
    rw [slotAt_exact fits inside, Driver.regionFileSize_header, exactHeader]
    rw [UInt32.lt_iff_toNat_lt] at inside
    change 64 + 256 * index.toNat + 256 ≤ _
    omega
  payloadInside index inside := by
    rw [payloadOffset_exact fits inside, Driver.regionFileSize_pool]
    exact exactPayload_step _ (UInt32.lt_iff_toNat_lt.mp inside)

end Fitting

theorem payloadStores_within {target : Pointer} {bytes : List UInt8} {store : Store}
    (member : store ∈ payloadStores target bytes) :
    ∃ offset byte, store = .payload target.region offset byte ∧ target.offset ≤ offset ∧
      offset < target.offset + bytes.length := by
  induction bytes generalizing target with
  | nil => cases member
  | cons byte rest hypothesis =>
      rw [payloadStores, List.mem_cons] at member
      rcases member with rfl | member
      · exact ⟨target.offset, byte, rfl, Nat.le_refl _, by simp⟩
      · obtain ⟨offset, value, rfl, first, last⟩ := hypothesis member
        refine ⟨offset, value, rfl, ?_, ?_⟩
        · exact Nat.le_of_succ_le first
        · rw [List.length_cons]
          change offset < target.offset + 1 + rest.length at last
          omega

/-- The payload of a frame is stored where the producer computes the payload of its slot. -/
theorem publishFrame_payload {producer : Producer} {outside : Outside} {seq : UInt64} {tensor : TensorHeader}
    {payload : Option (List UInt8)} {payloadLen : UInt32} {poolId : UInt16} {timestampNs : UInt64}
    {metaVersion : UInt32} {publication : Publication} {stores : List Store} {pool : Pool}
    (published : publishFrame producer outside seq tensor payload payloadLen poolId timestampNs metaVersion =
      .published publication stores) (found : findPool producer.pools producer.poolCount poolId = .found pool) :
    ∃ target bytes, stores = publication.stores
        (payloadStores ⟨target, payloadOffset (ringIndex seq producer.headerNslots) pool.strideBytes⟩ bytes) ∧
      publication.headerIndex = ringIndex seq producer.headerNslots ∧ bytes.length ≤ pool.strideBytes.toNat := by
  unfold publishFrame at published
  rw [found] at published
  split at published
  · cases published
  · split at published
    · cases published
    · dsimp only at published
      split at published
      · cases published
      · split at published
        · cases published
        next short =>
          split at published
          · cases published
          · split at published
            · cases published
            · split at published
              · cases published
                exact ⟨0, [], rfl, rfl, Nat.zero_le _⟩
              · split at published
                · cases published
                · split at published
                  · cases published
                  · cases published
                    refine ⟨_, _, rfl, rfl, ?_⟩
                    rw [List.length_map, List.length_range]
                    exact UInt32.le_iff_toNat_le.mp (UInt32.not_lt.mp short)

/-- A returned frame points where the consumer computes the payload of the slot that it loaded. -/
theorem readSlot_payload {consumer : Consumer} {seq : UInt64} {headerIndex : UInt32} {view : FrameView}
    (returns : (readSlot consumer seq headerIndex).Returns (.frame view)) :
    ∃ pool, findPool consumer.pools consumer.poolCount view.poolId = .found pool ∧
      view.payload = pool.region.addr.map fun target => ⟨target, payloadOffset headerIndex pool.strideBytes⟩ := by
  obtain ⟨seqFirst, returns⟩ := returns
  beta_reduce at returns
  split at returns
  · cases returns
  obtain ⟨decoded, -, returns⟩ := returns.bind
  split at returns
  · cases returns
  · split at returns
    · cases returns
    · split at returns
      · cases returns
      next sameSlot =>
        split at returns
        · cases returns
        · cases returns
        next pool found =>
          split at returns
          · cases returns
          · split at returns
            · cases returns
            · obtain ⟨header, -, returns⟩ := returns.bind
              split at returns
              · cases returns
              · split at returns
                · cases returns
                · obtain ⟨seqSecond, returns⟩ := returns
                  beta_reduce at returns
                  split at returns
                  · cases returns
                  · split at returns
                    · cases returns
                    · cases returns
                      rw [bne_iff_ne, not_not] at sameSlot
                      exact ⟨pool, found, by rw [sameSlot]⟩

theorem mem_publication_stores {publication : Publication} {payload : List Store} {store : Store}
    (member : store ∈ publication.stores payload) :
    store ∈ payload ∨ ∃ inner, store = .header publication.region (slotAt publication.headerIndex) inner := by
  rw [Publication.stores, List.mem_cons, List.mem_append, List.mem_append, List.mem_map, List.mem_singleton] at member
  rcases member with rfl | (inside | ⟨inner, -, rfl⟩) | rfl
  · exact .inr ⟨_, rfl⟩
  · exact .inl inside
  · exact .inr ⟨_, rfl⟩
  · exact .inr ⟨_, rfl⟩

section Exact

variable {nslots stride : UInt32}

theorem publishExact_of_fits (power : nslots.toNat.isPowerOfTwo) (fits : ProductsFit nslots stride) :
    PublishExact nslots stride := by
  intro producer outside seq tensor payload payloadLen poolId timestampNs metaVersion publication stores pool same
    published found strided store member
  subst same strided
  have inside := UInt32.lt_iff_toNat_lt.mpr (ringIndex_lt power seq)
  obtain ⟨target, bytes, rfl, slot, short⟩ := publishFrame_payload published found
  rw [← ringIndex_toNat power]
  rcases mem_publication_stores member with inPayload | ⟨inner, rfl⟩
  · obtain ⟨offset, byte, rfl, first, last⟩ := payloadStores_within inPayload
    rw [payloadOffset_exact fits inside] at first last
    exact ⟨first, Nat.lt_of_lt_of_le last (Nat.add_le_add_left short _)⟩
  · rw [slot]
    exact slotAt_exact fits inside

/-- A claim marks the slot of the next sequence number and points to its payload. -/
theorem tryClaim_made {producer : Producer} {length : UInt64} {claim : BufferClaim} {issue : Issue} {pool : Pool}
    (performed : tryClaim producer length claim = some issue)
    (found : findPoolForLength producer.pools producer.poolCount length.toNat = .found pool) :
    (∀ store ∈ issue.stores, ∃ region inner,
        store = .header region (slotAt (ringIndex producer.nextSeq producer.headerNslots)) inner) ∧
      ∀ made, issue.claim = some made → made.payload = pool.region.addr.map fun target =>
        ⟨target, payloadOffset (ringIndex producer.nextSeq producer.headerNslots) pool.strideBytes⟩ := by
  unfold tryClaim at performed
  rw [found] at performed
  split at performed
  · cases performed
    exact ⟨fun _ absent => (by cases absent), fun _ absent => (by cases absent)⟩
  · split at performed
    · cases performed
      exact ⟨fun _ absent => (by cases absent), fun _ absent => (by cases absent)⟩
    · dsimp only at performed
      split at performed
      · cases performed
      · cases performed
        refine ⟨fun store member => ⟨_, _, List.mem_singleton.mp member⟩, fun made given => ?_⟩
        cases given
        rfl

theorem claimExact_of_fits (power : nslots.toNat.isPowerOfTwo) (fits : ProductsFit nslots stride) :
    ClaimExact nslots stride := by
  intro producer length claim issue pool same performed found strided
  subst same strided
  have inside := UInt32.lt_iff_toNat_lt.mpr (ringIndex_lt power producer.nextSeq)
  obtain ⟨marks, points⟩ := tryClaim_made performed found
  rw [← ringIndex_toNat power]
  constructor
  · intro store member
    obtain ⟨region, inner, rfl⟩ := marks store member
    exact slotAt_exact fits inside
  · intro made given pointer held
    obtain ⟨target, mapped, rfl⟩ := Option.map_eq_some_iff.mp ((points made given).symm.trans held)
    exact ⟨mapped, payloadOffset_exact fits inside⟩

theorem readExact_of_fits (power : nslots.toNat.isPowerOfTwo) (fits : ProductsFit nslots stride) :
    ReadExact nslots stride := by
  intro consumer seq region offset reading same loads
  subst same
  have inside := UInt32.lt_iff_toNat_lt.mpr (ringIndex_lt power seq)
  obtain ⟨rfl, rfl⟩ := readFrame_loads loads
  rw [← ringIndex_toNat power]
  refine ⟨slotAt_exact fits inside, ?_⟩
  intro view pool returns found strided pointer held
  obtain ⟨other, found', payload⟩ := readSlot_payload returns
  rw [found] at found'
  cases found'
  subst strided
  obtain ⟨target, mapped, rfl⟩ := Option.map_eq_some_iff.mp (payload.symm.trans held)
  exact ⟨mapped, payloadOffset_exact fits inside⟩

/-- A producer that is about to use the last slot of its ring. -/
def lastSlotProducer (nslots stride : UInt32) : Producer where
  headerRegion := { addr := some 0, length := 2 ^ 64 }
  pools := [{ strideBytes := stride, region := { addr := some 1 } }]
  poolCount := 1
  headerNslots := nslots
  nextSeq := nslots.toUInt64 - 1

theorem lastSlotProducer_index (power : nslots.toNat.isPowerOfTwo) :
    (lastSlotProducer nslots stride).nextSeq.toNat % nslots.toNat = nslots.toNat - 1 := by
  have positive : 0 < nslots.toNat := Nat.pos_of_isPowerOfTwo power
  have one : 1 ≤ nslots.toUInt64 := by
    rw [UInt64.le_iff_toNat_le, UInt32.toNat_toUInt64]
    exact positive
  rw [lastSlotProducer, UInt64.toNat_sub_of_le _ _ one, UInt32.toNat_toUInt64]
  change (nslots.toNat - 1) % nslots.toNat = nslots.toNat - 1
  exact Nat.mod_eq_of_lt (by omega)

/-- An exact claim of the last slot needs both products below 2^32. -/
theorem fits_of_claimExact (power : nslots.toNat.isPowerOfTwo) (exact : ClaimExact nslots stride) :
    ProductsFit nslots stride := by
  have positive : 0 < nslots.toNat := Nat.pos_of_isPowerOfTwo power
  have slot := ringIndex_toNat power (lastSlotProducer nslots stride).nextSeq
  rw [lastSlotProducer_index power] at slot
  generalize indexed : ringIndex (lastSlotProducer nslots stride).nextSeq nslots = index at slot
  have roomy : ¬ (lastSlotProducer nslots stride).headerRegion.length < slotEnd index := by
    have below := (slotAt index).toNat_lt
    rw [slotEnd]
    change ¬ 2 ^ 64 < 64 + (slotAt index).toNat + 256
    omega
  have found : findPoolForLength (lastSlotProducer nslots stride).pools (lastSlotProducer nslots stride).poolCount
      (0 : UInt64).toNat = .found { strideBytes := stride, region := { addr := some 1 } } := by
    rfl
  have nonzero : (nslots == 0) = false := by
    rw [beq_eq_false_iff_ne]
    intro zero
    rw [zero] at positive
    cases positive
  obtain ⟨issue, performed, stores, made⟩ : ∃ issue,
      tryClaim (lastSlotProducer nslots stride) 0 blankClaim = some issue ∧
        issue.stores = [.header 0 (slotAt index) (.stamp (seqInProgress (lastSlotProducer nslots stride).nextSeq))] ∧
        issue.claim.map BufferClaim.payload = some (some ⟨1, payloadOffset index stride⟩) := by
    rw [tryClaim, found]
    dsimp only [lastSlotProducer] at indexed roomy ⊢
    simp only [indexed, nonzero, roomy, Bool.false_or, Nat.reduceBEq, Bool.false_eq_true, if_false]
    exact ⟨_, rfl, rfl, rfl⟩
  obtain ⟨marks, points⟩ := exact (lastSlotProducer nslots stride) 0 blankClaim issue _ rfl performed found rfl
  rw [lastSlotProducer_index power] at marks points
  obtain ⟨claim, given, payload⟩ := Option.map_eq_some_iff.mp made
  have header := marks _ (stores ▸ List.mem_singleton_self _)
  obtain ⟨-, place⟩ := points claim given _ payload
  change 64 + (slotAt index).toNat = 64 + 256 * (nslots.toNat - 1) at header
  change 64 + (index * stride).toNat = 64 + (nslots.toNat - 1) * stride.toNat at place
  have lowHeader := (slotAt index).toNat_lt
  have lowPayload := (index * stride).toNat_lt
  constructor
  · omega
  · omega

/--
Every call addresses the slots exactly, and the slots fit the files of the driver, if and only if both products
of the last slot stay below 2^32.
-/
theorem addressedExactly_iff (power : nslots.toNat.isPowerOfTwo) :
    AddressedExactly nslots stride ↔ ProductsFit nslots stride := by
  constructor
  · intro exact
    exact fits_of_claimExact power exact.claimed
  · intro fits
    exact ⟨publishExact_of_fits power fits, claimExact_of_fits power fits, readExact_of_fits power fits,
      slotsFit_of_productsFit fits⟩

theorem addressedExactly_iff_plain : AddressedExactly 8 64 ↔ ProductsFit 8 64 :=
  addressedExactly_iff ⟨3, rfl⟩

/-- The slots 0 and 4096 of a ring with 2^13 slots of 2^20 bytes share their payload. -/
theorem slots_share_payload : ¬ AddressedExactly 8192 1048576 ∧
    payloadOffset 4096 1048576 = payloadOffset 0 1048576 := by
  constructor
  · intro exact
    have apart := exact.fit.payloads 0 4096 (by decide) (by decide) (by decide)
    unfold BytesApart at apart
    exact absurd apart (by decide)
  · decide

end Exact

end TensorPool.Client
