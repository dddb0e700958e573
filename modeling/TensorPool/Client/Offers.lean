/-
This file shows when an offer commits exactly one frame or leaves the producer as it was.
-/

import TensorPool.Client.Recovery

namespace TensorPool.Client

open Seqlock

/-- A pool whose stride is the smallest one that holds the length. -/
structure Smallest (pools : List Pool) (length : Nat) (pool : Pool) : Prop where
  present : pool ∈ pools
  holds : length ≤ pool.strideBytes.toNat
  least : ∀ other ∈ pools, length ≤ other.strideBytes.toNat → pool.strideBytes ≤ other.strideBytes

/-- The stores that reach a slot by its index; an offset of 32 bits reaches only the first 2^24 slots. -/
def slotStores (stores : List Store) (region index : Nat) : List SlotStore :=
  if 256 * index < 2 ^ 32 then storesAt stores region (UInt32.ofNat (256 * index)) else []

def Store.isPayload : Store → Bool
  | .payload _ _ _ => true
  | .header _ _ _ => false

/-- The bytes of a frame's payload. -/
def payloadBytes (payload : Option (List UInt8)) (payloadLen : UInt32) : List UInt8 :=
  (List.range payloadLen.toNat).map fun index => (payload.getD []).getD index 0

/-- One frame is committed in the slot of the sequence number and in a pool, and every other slot stays. -/
structure CommitsFrame (producer : Producer) (payload : Option (List UInt8)) (payloadLen : UInt32) (issue : Issue) :
    Prop where
  code : issue.code.toInt = producer.nextSeq.toNat
  next : issue.producer = { producer with nextSeq := producer.nextSeq + 1 }
  slot : ∃ publication pool, issue.publications = [publication] ∧ publication.seq = producer.nextSeq ∧
    producer.headerRegion.addr = some publication.region ∧
    findPool producer.pools producer.poolCount publication.poolId = .found pool ∧
    (∀ before : SlotCell, Holds (before.after (slotStores issue.stores publication.region
      (producer.nextSeq.toNat % producer.headerNslots.toNat))) publication) ∧
    (∀ other < producer.headerNslots.toNat, other ≠ producer.nextSeq.toNat % producer.headerNslots.toNat →
      slotStores issue.stores publication.region other = []) ∧
    (payloadLen ≠ 0 → ∃ target, pool.region.addr = some target ∧
      issue.stores.filter Store.isPayload = payloadStores
        ⟨target, exactPayload pool.strideBytes.toNat (producer.nextSeq.toNat % producer.headerNslots.toNat)⟩
        (payloadBytes payload payloadLen))

/-- What an offer promises. -/
structure OfferSound (producer : Producer) (payload : Option (List UInt8)) (payloadLen : UInt32) (issue : Issue) :
    Prop where
  smallest : ∀ publication ∈ issue.publications, ∃ pool,
    findPool producer.pools producer.poolCount publication.poolId = .found pool ∧
      Smallest (producer.pools.take producer.poolCount) payloadLen.toNat pool
  none : (∀ pool ∈ producer.pools.take producer.poolCount, ¬ payloadLen.toNat ≤ pool.strideBytes.toNat) →
    issue.code = -1 ∧ issue.stores = []
  committed : 0 ≤ issue.code → CommitsFrame producer payload payloadLen issue
  untouched : issue.code < 0 → issue.stores = [] → issue.producer = producer

/-- The offer is refused before it takes a sequence number. -/
def RefusedEarly (producer : Producer) (outside : Outside) (payloadLen : UInt32) : Prop :=
  outside.traceId = none ∨
    ∀ pool ∈ producer.pools.take producer.poolCount, ¬ payloadLen.toNat ≤ pool.strideBytes.toNat

/-- The checks that come after the sequence number pass, and the addresses of the slot do not wrap. -/
structure PassesLate (producer : Producer) (outside : Outside) (tensor : TensorHeader) (payload : Option (List UInt8))
    (payloadLen : UInt32) : Prop where
  payload : payload.isSome = true ∨ payloadLen = 0
  header : ∃ prepared, prepareTensorHeader tensor = .ok prepared
  pools : ∀ best pool, findPoolForLength producer.pools producer.poolCount payloadLen.toNat = .found best →
    findPool producer.pools producer.poolCount best.poolId = .found pool → pool.strideBytes = best.strideBytes
  slot : 0 ≤ outside.descriptor → producer.nextSeq.toNat < 2 ^ 63 →
    producer.nextSeq.toNat % producer.headerNslots.toNat < 2 ^ 24
  place : 0 ≤ outside.descriptor → producer.nextSeq.toNat < 2 ^ 63 → payloadLen ≠ 0 → ∀ best,
    findPoolForLength producer.pools producer.poolCount payloadLen.toNat = .found best →
      producer.nextSeq.toNat % producer.headerNslots.toNat * best.strideBytes.toNat < 2 ^ 32

section Lookup

variable {pools : List Pool} {count length : Nat} {pool : Pool}

/-- The loop keeps a pool that is the smallest one so far. -/
theorem betterPool_smallest (visited : List Pool) (best : Option Pool) (rest : List Pool)
    (start : ∀ pool ∈ best, Smallest visited length pool)
    (none : best = none → ∀ pool ∈ visited, ¬ length ≤ pool.strideBytes.toNat) :
    (∀ pool ∈ rest.foldl (betterPool length) best, Smallest (visited ++ rest) length pool) ∧
      (rest.foldl (betterPool length) best = Option.none →
        ∀ pool ∈ visited ++ rest, ¬ length ≤ pool.strideBytes.toNat) := by
  induction rest generalizing visited best with
  | nil =>
      rw [List.append_nil]
      exact ⟨start, none⟩
  | cons next rest hypothesis =>
      rw [List.append_cons, List.foldl_cons]
      apply hypothesis
      · intro pool chosen
        unfold betterPool at chosen
        split at chosen
        next holds =>
          cases best with
          | none =>
              obtain rfl : next = pool := Option.some_inj.mp chosen
              constructor
              · simp
              · exact holds
              · intro other member fits
                rcases List.mem_append.mp member with old | new
                · exact absurd fits (none rfl other old)
                · rw [List.mem_singleton.mp new]
                  exact UInt32.le_refl _
          | some old =>
              have smallest := start old rfl
              dsimp only at chosen
              split at chosen
              next below =>
                obtain rfl : next = pool := Option.some_inj.mp chosen
                constructor
                · simp
                · exact holds
                · intro other member fits
                  rcases List.mem_append.mp member with earlier | new
                  · exact UInt32.le_trans (UInt32.le_of_lt below) (smallest.least other earlier fits)
                  · rw [List.mem_singleton.mp new]
                    exact UInt32.le_refl _
              next above =>
                obtain rfl : old = pool := Option.some_inj.mp chosen
                constructor
                · exact List.mem_append_left _ smallest.present
                · exact smallest.holds
                · intro other member fits
                  rcases List.mem_append.mp member with earlier | new
                  · exact smallest.least other earlier fits
                  · rw [List.mem_singleton.mp new]
                    exact UInt32.not_lt.mp above
        next small =>
          have smallest := start pool chosen
          constructor
          · exact List.mem_append_left _ smallest.present
          · exact smallest.holds
          · intro other member fits
            rcases List.mem_append.mp member with earlier | new
            · exact smallest.least other earlier fits
            · rw [List.mem_singleton.mp new] at fits
              exact absurd fits small
      · intro empty pool member
        unfold betterPool at empty
        split at empty
        · cases best with
          | none => cases empty
          | some old =>
              dsimp only at empty
              split at empty <;> cases empty
        next small =>
          rcases List.mem_append.mp member with earlier | new
          · exact none empty pool earlier
          · rw [List.mem_singleton.mp new]
            exact small

/-- The search keeps a smallest pool, and keeps none only when none holds the length. -/
theorem betterPool_start (pools : List Pool) (length : Nat) :
    (∀ pool ∈ pools.foldl (betterPool length) none, Smallest pools length pool) ∧
      (pools.foldl (betterPool length) none = none → ∀ pool ∈ pools, ¬ length ≤ pool.strideBytes.toNat) := by
  apply betterPool_smallest [] none pools
  · intro _ absent
    cases absent
  · intro _ _ absent
    cases absent

/-- The found pool is a smallest one. -/
theorem findPoolForLength_found (found : findPoolForLength pools count length = .found pool) :
    Smallest (pools.take count) length pool := by
  have visited := (betterPool_start (pools.take count) length).1
  rw [findPoolForLength] at found
  split at found
  · cases found
  · split at found
    next best chosen =>
      cases found
      exact visited pool chosen
    · cases found

/-- When none is found no pool holds the length. -/
theorem findPoolForLength_missing (missing : findPoolForLength pools count length = .missing) :
    ∀ pool ∈ pools.take count, ¬ length ≤ pool.strideBytes.toNat := by
  have visited := (betterPool_start (pools.take count) length).2
  rw [findPoolForLength] at missing
  split at missing
  · cases missing
  · split at missing
    · cases missing
    next none => exact visited none

/-- A pool of the table is found by its id, or an earlier one with the id is. -/
theorem findPool_member (member : pool ∈ pools.take count) :
    ∃ first, findPool pools count pool.poolId = .found first ∧ first ∈ pools.take count := by
  induction pools generalizing count with
  | nil => simp at member
  | cons head rest hypothesis =>
      cases count with
      | zero => simp at member
      | succ count =>
          rw [List.take_succ_cons] at member ⊢
          rw [findPool]
          split
          · exact ⟨head, rfl, List.mem_cons_self⟩
          next other =>
            rcases List.mem_cons.mp member with same | later
            · exact absurd (beq_iff_eq.mpr (congrArg Pool.poolId same.symm)) other
            · obtain ⟨first, found, inside⟩ := hypothesis later
              exact ⟨first, found, List.mem_cons_of_mem _ inside⟩

end Lookup

section Publishing

variable {producer : Producer} {outside : Outside} {seq : UInt64} {tensor : TensorHeader}
    {payload : Option (List UInt8)}
  {payloadLen : UInt32} {poolId : UInt16} {timestampNs : UInt64} {metaVersion : UInt32} {publication : Publication}
  {stores : List Store} {pool : Pool}

/-- The payload of a published frame is stored from the slot's place in its pool. -/
theorem publishFrame_stores
    (published : publishFrame producer outside seq tensor payload payloadLen poolId timestampNs metaVersion =
      .published publication stores) (found : findPool producer.pools producer.poolCount poolId = .found pool) :
    (payload.isSome = true ∨ payloadLen = 0) ∧ ∃ bytes, stores = publication.stores bytes ∧
      (payloadLen = 0 → bytes = []) ∧
      (payloadLen ≠ 0 → ∃ target, pool.region.addr = some target ∧
        bytes = payloadStores ⟨target, payloadOffset (ringIndex seq producer.headerNslots) pool.strideBytes⟩
          (payloadBytes payload payloadLen)) := by
  unfold publishFrame at published
  rw [found] at published
  split at published
  · cases published
  next given =>
    have present : payload.isSome = true ∨ payloadLen = 0 := by
      cases payload with
      | some bytes => exact Or.inl rfl
      | none =>
          have low : ¬ payloadLen > 0 := by simpa using given
          exact Or.inr (UInt32.le_zero_iff.mp (UInt32.not_lt.mp low))
    apply And.intro present
    split at published
    · cases published
    · dsimp only at published
      split at published
      · cases published
      · split at published
        · cases published
        · split at published
          · cases published
          · split at published
            · cases published
            · split at published
              next empty =>
                cases published
                refine ⟨[], rfl, fun _ => rfl, fun some => absurd (beq_iff_eq.mp empty) some⟩
              next some =>
                split at published
                · cases published
                next target mapped =>
                  split at published
                  · cases published
                  · cases published
                    refine ⟨_, rfl, fun none => absurd (beq_iff_eq.mpr none) some, fun _ => ⟨target, mapped, rfl⟩⟩

/-- A frame that passes the checks is not refused. -/
theorem publishFrame_accepts {text : String} {region : Nat} {prepared : TensorHeader}
    (given : payload.isSome = true ∨ payloadLen = 0) (attached : producer.headerRegion.addr = some region)
    (slots : producer.headerNslots ≠ 0) (count : producer.poolCount ≠ 0)
    (found : findPool producer.pools producer.poolCount poolId = .found pool)
    (fits : payloadLen ≤ pool.strideBytes) (valid : prepareTensorHeader tensor = .ok prepared) :
    publishFrame producer outside seq tensor payload payloadLen poolId timestampNs metaVersion ≠ .refused text := by
  intro refused
  have some : ¬ (payload.isNone && payloadLen > 0) = true := by
    cases given with
    | inl present => simp [Option.isNone_iff_eq_none, Option.ne_none_iff_isSome.mpr present]
    | inr zero => simp [zero]
  have ready : ¬ (producer.headerNslots == 0 || producer.poolCount == 0) = true := by simp [slots, count]
  unfold publishFrame at refused
  rw [if_neg some, attached] at refused
  dsimp only at refused
  rw [if_neg ready, found] at refused
  dsimp only at refused
  rw [if_neg (UInt32.not_lt.mpr fits), valid] at refused
  dsimp only at refused
  split at refused
  · cases refused
  · split at refused
    · cases refused
    · split at refused
      · cases refused
      · split at refused <;> cases refused

theorem payloadStores_filter (target : Pointer) (bytes : List UInt8) :
    (payloadStores target bytes).filter Store.isPayload = payloadStores target bytes := by
  induction bytes generalizing target with
  | nil => rfl
  | cons byte rest hypothesis =>
      rw [payloadStores, List.filter_cons_of_pos rfl, hypothesis]

/-- The stores of a publication that are not its payload go to its slot. -/
theorem publication_filter (target : Pointer) (bytes : List UInt8) :
    (publication.stores (payloadStores target bytes)).filter Store.isPayload = payloadStores target bytes := by
  have slot : ∀ (offset : UInt32) (inner : List SlotStore),
      (inner.map (Store.header publication.region offset)).filter Store.isPayload = [] := by
    intro offset inner
    rw [List.filter_eq_nil_iff]
    intro store member
    obtain ⟨_, _, rfl⟩ := List.mem_map.mp member
    exact Bool.false_ne_true
  rw [Publication.stores, List.filter_cons_of_neg Bool.false_ne_true, List.filter_append, List.filter_append,
    payloadStores_filter, slot, List.append_nil, List.filter_cons_of_neg Bool.false_ne_true]
  exact List.append_nil _

/-- The stores of a publication reach the slot whose offset theirs is. -/
theorem publication_slotStores {bytes : List Store} (proper : (Write.publish publication bytes).Proper)
    (index : Nat) :
    slotStores (publication.stores bytes) publication.region index =
      if publication.headerIndex.toNat % 2 ^ 24 = index then (Write.publish publication bytes).update.stores
        else [] := by
  have reached := storesAt_write proper publication.region
  rw [slotStores]
  split
  next low =>
    have same : slotAt publication.headerIndex = UInt32.ofNat (256 * index) ↔
        publication.headerIndex.toNat % 2 ^ 24 = index := by
      rw [← UInt32.toNat_inj, slotAt, UInt32.toNat_mul, UInt32.toNat_ofNat_of_lt' low]
      change publication.headerIndex.toNat * 256 % 2 ^ 32 = 256 * index ↔ _
      omega
    rw [Write.stores] at reached
    rw [reached]
    by_cases here : publication.headerIndex.toNat % 2 ^ 24 = index
    · rw [if_pos here, if_pos ⟨rfl, same.mpr here⟩]
    · rw [if_neg here, if_neg fun at_ => here (same.mp at_.2)]
  next high =>
    rw [if_neg]
    intro here
    have bound := Nat.mod_lt publication.headerIndex.toNat (show 0 < 2 ^ 24 by decide)
    omega

end Publishing

/-- The producer has mapped its header ring. -/
structure OfferReady (producer : Producer) : Prop where
  region : producer.headerRegion.addr.isSome = true
  slots : producer.headerNslots.toNat.isPowerOfTwo

/-- A mapped ring has slots. -/
theorem OfferReady.headerNslots_ne_zero {producer : Producer} (ready : OfferReady producer) :
    producer.headerNslots ≠ 0 := by
  intro zero
  have positive := Nat.pos_of_isPowerOfTwo ready.slots
  rw [zero] at positive
  exact absurd positive (by decide)

theorem toInt64_toInt (word : UInt64) : word.toInt64.toInt = (word.toNat : Int).bmod (2 ^ 64) := by
  change word.toBitVec.toInt = _
  rw [BitVec.toInt_eq_toNat_bmod]
  rfl

/-- A sequence number is returned as it is below half of the range. -/
theorem toInt64_nonneg (word : UInt64) : 0 ≤ word.toInt64 ↔ word.toNat < 2 ^ 63 := by
  have bound := word.toNat_lt
  rw [Int64.le_iff_toInt_le, toInt64_toInt]
  change 0 ≤ _ ↔ _
  rw [Int.bmod_def]
  split <;> omega

theorem toInt64_small {word : UInt64} (small : word.toNat < 2 ^ 63) : word.toInt64.toInt = word.toNat := by
  rw [toInt64_toInt]
  apply Int.bmod_eq_of_le <;> omega

section Offering

variable {producer : Producer} {outside : Outside} {tensor : TensorHeader} {payload : Option (List UInt8)}
  {payloadLen : UInt32} {poolId : UInt16} {timestampNs : UInt64} {metaVersion : UInt32} {publication : Publication}
  {stores : List Store} {pool : Pool}

/-- The producer after an offer has taken its sequence number. -/
def taken (producer : Producer) : Producer := { producer with nextSeq := producer.nextSeq + 1 }

/-- A published frame is committed exactly when its slot does not wrap. -/
theorem commitsFrame_iff (slots : producer.headerNslots.toNat.isPowerOfTwo)
    (published : publishFrame (taken producer) outside producer.nextSeq tensor payload payloadLen poolId timestampNs
      metaVersion = .published publication stores)
    (found : findPool producer.pools producer.poolCount poolId = .found pool)
    (small : producer.nextSeq.toNat < 2 ^ 63) :
    CommitsFrame producer payload payloadLen
        { code := producer.nextSeq.toInt64, producer := taken producer, stores, publications := [publication] } ↔
      producer.nextSeq.toNat % producer.headerNslots.toNat < 2 ^ 24 ∧
        (payloadLen ≠ 0 →
          producer.nextSeq.toNat % producer.headerNslots.toNat * pool.strideBytes.toNat < 2 ^ 32) := by
  obtain ⟨-, bytes, rfl, empty, some⟩ := publishFrame_stores published found
  obtain ⟨region, named, prepared, attached, -, -, -, valid, -, values⟩ := publishFrame_values published
  have silent : ∀ region offset, storesAt bytes region offset = [] := by
    intro region offset
    by_cases zero : payloadLen = 0
    · rw [empty zero]
      rfl
    · obtain ⟨target, -, made⟩ := some zero
      rw [made, storesAt_payload]
  have proper : (Write.publish publication bytes).Proper := by
    constructor
    · rw [values]
      exact ⟨_, valid⟩
    · exact silent
  have reached := publication_slotStores proper
  have index : publication.headerIndex.toNat = producer.nextSeq.toNat % producer.headerNslots.toNat := by
    rw [values]
    exact ringIndex_toNat slots producer.nextSeq
  have seq : publication.seq = producer.nextSeq := by rw [values]
  rw [index] at reached
  have filtered : ∀ {target : Pointer} {data : List UInt8}, bytes = payloadStores target data →
      (publication.stores bytes).filter Store.isPayload = payloadStores target data := by
    intro target data made
    rw [made]
    exact publication_filter target data
  constructor
  · intro commits
    obtain ⟨other, used, listed, -, -, byId, shown, -, stored⟩ := commits.slot
    obtain rfl : publication = other := (List.cons.inj listed).1
    rw [values] at byId
    change findPool producer.pools producer.poolCount poolId = _ at byId
    rw [found] at byId
    obtain rfl := Lookup.found.inj byId
    constructor
    · by_contra wide
      have stamp := (shown ⟨0, fun _ => 0⟩).stamp
      have missed := reached (producer.nextSeq.toNat % producer.headerNslots.toNat)
      rw [if_neg (by omega)] at missed
      dsimp only at stamp
      rw [missed] at stamp
      have word := congrArg UInt64.toNat stamp
      rw [seqCommitted_toNat] at word
      change 0 = _ at word
      omega
    · intro some'
      obtain ⟨target, mapped, kept⟩ := stored some'
      obtain ⟨target', mapped', made⟩ := some some'
      dsimp only at kept
      rw [filtered made] at kept
      have nonempty : payloadBytes payload payloadLen ≠ [] := by
        intro none
        have length := congrArg List.length none
        rw [payloadBytes, List.length_map, List.length_range, List.length_nil] at length
        exact some' (UInt32.toNat_inj.mp length)
      obtain ⟨byte, rest, shape⟩ := List.exists_cons_of_ne_nil nonempty
      rw [shape, payloadStores, payloadStores] at kept
      have place := (Store.payload.inj (List.cons.inj kept).1).2.1
      change payloadOffset (ringIndex producer.nextSeq producer.headerNslots) pool.strideBytes =
        exactPayload pool.strideBytes.toNat (producer.nextSeq.toNat % producer.headerNslots.toNat) at place
      rw [payloadOffset, exactPayload, UInt32.toNat_mul, ringIndex_toNat slots] at place
      have bound := Nat.mod_lt (producer.nextSeq.toNat % producer.headerNslots.toNat * pool.strideBytes.toNat)
        (show 0 < 2 ^ 32 by decide)
      omega
  · intro both
    obtain ⟨low, fits⟩ := both
    constructor
    · exact toInt64_small small
    · rfl
    · apply Exists.intro publication
      apply Exists.intro pool
      apply And.intro rfl
      apply And.intro seq
      apply And.intro
      · rw [values]
        exact attached
      apply And.intro
      · rw [values]
        exact found
      apply And.intro
      · intro before
        have here := reached (producer.nextSeq.toNat % producer.headerNslots.toNat)
        rw [if_pos (Nat.mod_eq_of_lt low)] at here
        dsimp only
        rw [here]
        have holds := published_holds proper before
        have own := storesAt_write proper publication.region (slotAt publication.headerIndex)
        rw [if_pos ⟨rfl, rfl⟩] at own
        change storesAt (publication.stores bytes) _ _ = _ at own
        rw [own] at holds
        exact holds
      apply And.intro
      · intro other _ apart
        have there := reached other
        rw [if_neg] at there
        · exact there
        · rw [Nat.mod_eq_of_lt low]
          exact apart.symm
      · intro some'
        obtain ⟨target, mapped, made⟩ := some some'
        apply Exists.intro target
        apply And.intro mapped
        have place : payloadOffset (ringIndex producer.nextSeq producer.headerNslots) pool.strideBytes =
            exactPayload pool.strideBytes.toNat (producer.nextSeq.toNat % producer.headerNslots.toNat) := by
          rw [payloadOffset, exactPayload, UInt32.toNat_mul, ringIndex_toNat slots, Nat.mod_eq_of_lt (fits some')]
        rw [← place]
        exact filtered made

/-- An offer by a ready producer is refused early, refused with its number taken, or published. -/
theorem offerFrame_cases {metadata : Option FrameMetadata} {issue : Issue} (ready : OfferReady producer)
    (performed : offerFrame producer outside tensor payload payloadLen metadata = some issue) :
    (RefusedEarly producer outside payloadLen ∧ issue.code = -1 ∧ issue.stores = [] ∧ issue.publications = [] ∧
        issue.producer = producer) ∨
      ∃ best timestampNs metaVersion, outside.traceId ≠ none ∧
        findPoolForLength producer.pools producer.poolCount payloadLen.toNat = .found best ∧
        ((∃ text, publishFrame (taken producer) outside producer.nextSeq tensor payload payloadLen best.poolId timestampNs
            metaVersion = .refused text ∧ issue = .refused (taken producer) text) ∨
          ∃ publication stores, publishFrame (taken producer) outside producer.nextSeq tensor payload payloadLen
            best.poolId timestampNs metaVersion = .published publication stores ∧
            issue =
              { code := if outside.descriptor < 0 then -1 else producer.nextSeq.toInt64
                producer := taken producer
                stores
                publications := [publication] }) := by
  have nonzero := ready.headerNslots_ne_zero
  have region := Option.isSome_iff_ne_none.mp ready.region
  unfold offerFrame at performed
  by_cases count : producer.poolCount = 0
  · rw [if_pos (by simp [count])] at performed
    cases performed
    have small : ∀ pool ∈ producer.pools.take producer.poolCount, ¬ payloadLen.toNat ≤ pool.strideBytes.toNat := by
      rw [count]
      exact fun _ listed => absurd listed List.not_mem_nil
    exact Or.inl ⟨Or.inr small, rfl, rfl, rfl, rfl⟩
  have open_ : ¬ (producer.headerNslots == 0 || producer.poolCount == 0 || producer.headerRegion.addr.isNone) =
    true := by
    simp [nonzero, count, region]
  rw [if_neg open_] at performed
  dsimp only at performed
  split at performed
  next none =>
    cases performed
    exact Or.inl ⟨Or.inl none, rfl, rfl, rfl, rfl⟩
  next traceId trace =>
    split at performed
    · cases performed
    next missing =>
      cases performed
      exact Or.inl ⟨Or.inr (findPoolForLength_missing missing), rfl, rfl, rfl, rfl⟩
    next best found =>
      apply Or.inr
      apply Exists.intro best
      apply Exists.intro _
      apply Exists.intro _
      have traced : outside.traceId ≠ none := by
        rw [trace]
        exact Option.some_ne_none _
      apply And.intro traced
      apply And.intro found
      unfold PublishResult.issue at performed
      split at performed
      · cases performed
      next text refused =>
        cases performed
        exact Or.inl ⟨text, refused, rfl⟩
      next publication stores published =>
        cases performed
        exact Or.inr ⟨publication, stores, published, rfl⟩

end Offering

/--
An offer commits one frame in the smallest pool or leaves a rejected frame without a trace if and only if it is
refused before its sequence number is taken, or the later checks pass, the id of the smallest pool names one with
its stride, and the slot lies below the wrap of 32 bits.
-/
theorem offer_sound_iff (producer : Producer) (outside : Outside) (tensor : TensorHeader)
    (payload : Option (List UInt8)) (payloadLen : UInt32) (metadata : Option FrameMetadata) (issue : Issue)
    (ready : OfferReady producer)
    (performed : offerFrame producer outside tensor payload payloadLen metadata = some issue) :
    OfferSound producer payload payloadLen issue ↔
      RefusedEarly producer outside payloadLen ∨ PassesLate producer outside tensor payload payloadLen := by
  rcases offerFrame_cases ready performed with early | ⟨best, timestampNs, metaVersion, trace, chosen, late⟩
  · obtain ⟨refused, code, stores, publications, kept⟩ := early
    apply iff_of_true _ (Or.inl refused)
    constructor
    · rw [publications]
      intro _ absent
      cases absent
    · intro _
      exact ⟨code, stores⟩
    · intro nonneg
      rw [code] at nonneg
      exact absurd nonneg (by decide)
    · intro _ _
      exact kept
  · have smallest := findPoolForLength_found chosen
    have notEarly : ¬ RefusedEarly producer outside payloadLen := by
      intro early
      cases early with
      | inl none => exact trace none
      | inr small => exact small best smallest.present smallest.holds
    obtain ⟨first, found, member⟩ := findPool_member smallest.present
    rw [or_iff_right notEarly]
    rcases late with ⟨text, refused, rfl⟩ | ⟨publication, stores, published, rfl⟩
    · constructor
      · intro sound
        have kept := sound.untouched (by change (-1 : Int64) < 0; decide) rfl
        have number : producer.nextSeq + 1 = producer.nextSeq := congrArg Producer.nextSeq kept
        have words := congrArg UInt64.toNat number
        have bound := producer.nextSeq.toNat_lt
        rw [UInt64.toNat_add, UInt64.toNat_one] at words
        omega
      · intro passes
        obtain ⟨prepared, valid⟩ := passes.header
        obtain ⟨region, attached⟩ := Option.isSome_iff_exists.mp ready.region
        have nonzero := ready.headerNslots_ne_zero
        have fits : payloadLen ≤ first.strideBytes := by
          rw [passes.pools best first chosen found]
          exact UInt32.le_iff_toNat_le.mpr smallest.holds
        have count : producer.poolCount ≠ 0 := by
          intro none
          have listed := smallest.present
          rw [none] at listed
          exact List.not_mem_nil listed
        exact absurd refused (publishFrame_accepts passes.payload attached nonzero count found fits valid)
    · obtain ⟨given, bytes, shape, -, -⟩ := publishFrame_stores published found
      obtain ⟨region, named, prepared, attached, -, named', fits, valid, -, values⟩ := publishFrame_values published
      change findPool producer.pools producer.poolCount best.poolId = _ at named'
      rw [found] at named'
      obtain rfl := Lookup.found.inj named'
      have id : publication.poolId = best.poolId := by rw [values]
      have used : (∃ pool, findPool producer.pools producer.poolCount publication.poolId = .found pool ∧
          Smallest (producer.pools.take producer.poolCount) payloadLen.toNat pool) ↔
          first.strideBytes = best.strideBytes := by
        rw [id, found]
        constructor
        · intro some
          obtain ⟨pool, same, other⟩ := some
          obtain rfl := Lookup.found.inj same
          apply UInt32.le_antisymm
          · exact other.least best smallest.present smallest.holds
          · exact smallest.least first other.present other.holds
        · intro same
          refine ⟨first, rfl, member, ?_, ?_⟩
          · rw [same]
            exact smallest.holds
          · rw [same]
            exact smallest.least
      have commits := fun small => commitsFrame_iff ready.slots published found small
      constructor
      · intro sound
        have same := used.mp (sound.smallest publication (List.mem_singleton_self _))
        have committed : 0 ≤ outside.descriptor → producer.nextSeq.toNat < 2 ^ 63 →
            producer.nextSeq.toNat % producer.headerNslots.toNat < 2 ^ 24 ∧
              (payloadLen ≠ 0 →
                producer.nextSeq.toNat % producer.headerNslots.toNat * first.strideBytes.toNat < 2 ^ 32) := by
          intro delivered small
          have done := sound.committed
          dsimp only at done
          rw [if_neg (Int64.not_lt.mpr delivered)] at done
          exact (commits small).mp (done ((toInt64_nonneg _).mpr small))
        constructor
        · exact given
        · exact ⟨prepared, valid⟩
        · intro other pool chosen' found'
          rw [chosen] at chosen'
          obtain rfl := Lookup.found.inj chosen'
          rw [found] at found'
          obtain rfl := Lookup.found.inj found'
          exact same
        · intro delivered small
          exact (committed delivered small).1
        · intro delivered small some other chosen'
          rw [chosen] at chosen'
          obtain rfl := Lookup.found.inj chosen'
          rw [← same]
          exact (committed delivered small).2 some
      · intro passes
        have same := passes.pools best first chosen found
        constructor
        · intro other listed
          rw [List.mem_singleton.mp listed]
          exact used.mpr same
        · intro none
          exact absurd smallest.holds (none best smallest.present)
        · intro nonneg
          dsimp only at nonneg
          have delivered : 0 ≤ outside.descriptor := by
            by_contra failed
            rw [if_pos (Int64.not_le.mp failed)] at nonneg
            exact absurd nonneg (by decide)
          rw [if_neg (Int64.not_lt.mpr delivered)] at nonneg ⊢
          have small := (toInt64_nonneg _).mp nonneg
          apply (commits small).mpr
          apply And.intro (passes.slot delivered small)
          intro some
          rw [same]
          exact passes.place delivered small some best chosen
        · intro _ none
          rw [shape] at none
          cases none

/-- A producer with two pools that is ready to offer. -/
def offeringProducer : Producer :=
  { publishingProducer with
    pools := [{ poolId := 4, nslots := 2, strideBytes := 128, region := { addr := some 2, length := 512 } },
      { poolId := 3, nslots := 2, strideBytes := 64, region := { addr := some 1, length := 256 } }]
    poolCount := 2
    nextSeq := 5 }

theorem offeringProducer_ready : OfferReady offeringProducer := ⟨rfl, ⟨1, rfl⟩⟩

theorem offer_sound_small :
    ∃ issue, offerFrame offeringProducer ⟨77, some 1, 0⟩ twoRows (some [1, 2, 3]) 3 none = some issue ∧
      (OfferSound offeringProducer (some [1, 2, 3]) 3 issue ↔
        RefusedEarly offeringProducer ⟨77, some 1, 0⟩ 3 ∨
          PassesLate offeringProducer ⟨77, some 1, 0⟩ twoRows (some [1, 2, 3]) 3) :=
  ⟨_, rfl, offer_sound_iff offeringProducer ⟨77, some 1, 0⟩ twoRows
    (some [1, 2, 3]) 3 none _ offeringProducer_ready rfl⟩

/-- An offer with an unknown element type is refused, and its sequence number is gone. -/
theorem refused_offer_counts :
    offerFrame offeringProducer ⟨77, some 1, 0⟩ { twoRows with dtype := 0 } (some [1, 2, 3]) 3 none =
      some (.refused (taken offeringProducer) "tp_tensor_header_validate: invalid dtype") ∧
    OfferReady offeringProducer ∧
    ¬ OfferSound offeringProducer (some [1, 2, 3]) 3
        (.refused (taken offeringProducer) "tp_tensor_header_validate: invalid dtype") := by
  apply And.intro rfl
  apply And.intro offeringProducer_ready
  intro sound
  have kept := sound.untouched (by decide) rfl
  have number := congrArg Producer.nextSeq kept
  exact absurd number (by decide)

end TensorPool.Client
