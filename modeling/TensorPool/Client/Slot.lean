/-
This file lays out the slots of the header ring and the stores that reach them.
-/

import TensorPool.Client.Types
import TensorPool.Library.Seqlock

namespace TensorPool.Client

open FixedField

def seqInProgress (seq : UInt64) : UInt64 := (seq <<< 1) ||| 0

def seqCommitted (seq : UInt64) : UInt64 := (seq <<< 1) ||| 1

def seqIsCommitted (seqCommit : UInt64) : Bool := (seqCommit &&& 1) != 0

def seqValue (seqCommit : UInt64) : UInt64 := seqCommit >>> 1

theorem seqCommitted_toNat (seq : UInt64) : (seqCommitted seq).toNat = 2 * (seq.toNat % 2 ^ 63) + 1 := by
  have even : (seq.toNat <<< 1 % 2 ^ 64) = 2 * (seq.toNat % 2 ^ 63) := by
    rw [Nat.shiftLeft_eq]
    omega
  rw [seqCommitted, UInt64.toNat_or, UInt64.toNat_shiftLeft, UInt64.toNat_one]
  change (seq.toNat <<< 1 % 2 ^ 64) ||| 1 = _
  rw [even]
  exact (Nat.two_pow_add_eq_or_of_lt (show 1 < 2 ^ 1 by decide) _).symm

theorem seqInProgress_toNat (seq : UInt64) : (seqInProgress seq).toNat = 2 * (seq.toNat % 2 ^ 63) := by
  rw [seqInProgress, UInt64.or_zero, UInt64.toNat_shiftLeft]
  change (seq.toNat <<< 1 % 2 ^ 64) = _
  rw [Nat.shiftLeft_eq]
  omega

theorem seqIsCommitted_iff (word : UInt64) : seqIsCommitted word = true ↔ word.toNat % 2 = 1 := by
  rw [seqIsCommitted, bne_iff_ne, ne_eq, ← UInt64.toNat_inj, UInt64.toNat_and, UInt64.toNat_one,
    UInt64.toNat_zero, Nat.and_one_is_mod]
  omega

theorem seqValue_toNat (word : UInt64) : (seqValue word).toNat = word.toNat / 2 := by
  rw [seqValue, UInt64.toNat_shiftRight]
  change word.toNat >>> 1 = _
  rw [Nat.shiftRight_eq_div_pow]

theorem seqCommitted_isCommitted (seq : UInt64) : seqIsCommitted (seqCommitted seq) = true := by
  rw [seqIsCommitted_iff, seqCommitted_toNat]
  omega

theorem seqInProgress_not_committed (seq : UInt64) : ¬ seqIsCommitted (seqInProgress seq) = true := by
  rw [seqIsCommitted_iff, seqInProgress_toNat]
  omega

theorem seqValue_committed {seq : UInt64} (small : seq.toNat < 2 ^ 63) : seqValue (seqCommitted seq) = seq := by
  rw [← UInt64.toNat_inj, seqValue_toNat, seqCommitted_toNat]
  omega

/-- Two small sequence numbers with one commit word are equal. -/
theorem seqCommitted_inj {left right : UInt64} (smallLeft : left.toNat < 2 ^ 63) (smallRight : right.toNat < 2 ^ 63)
    (same : seqCommitted left = seqCommitted right) : left = right := by
  rw [← seqValue_committed smallLeft, same, seqValue_committed smallRight]

abbrev SlotCell := Seqlock.Cell UInt64 UInt8
abbrev SlotStore := Seqlock.Store UInt64 UInt8

/-- The product has 32 bits, so a high index wraps around to a low offset. -/
def slotAt (index : UInt32) : UInt32 := index * headerSlotBytes

/-- The fields after the commit word, up to the end of the header bytes. -/
def slotField := uint32.pair (uint32.pair (uint16.pair (uint32.pair (uint64.pair (uint32.pair
  ((zeros 26).pair (uint32.pair headerBytesField)))))))

/-- The fields follow the eight bytes of the commit word. -/
def slotStart : Nat := 8

def tensorHeaderBytes : UInt32 := 192

structure Publication where
  seq : UInt64
  region : Nat
  headerIndex : UInt32
  payloadLen : UInt32
  poolId : UInt16
  timestampNs : UInt64
  metaVersion : UInt32
  tensor : TensorHeader
  deriving DecidableEq

/-- A store goes to a slot of a header ring or to a byte of a payload pool. -/
inductive Store where
  | header (region : Nat) (offset : UInt32) (store : SlotStore)
  | payload (region : Nat) (offset : Nat) (byte : UInt8)

def Store.at? (region : Nat) (offset : UInt32) : Store → Option SlotStore
  | .header region' offset' store => if region' = region ∧ offset' = offset then some store else none
  | .payload _ _ _ => none

/-- The stores that reach one slot, in order. -/
def storesAt (stores : List Store) (region : Nat) (offset : UInt32) : List SlotStore :=
  stores.filterMap (Store.at? region offset)

/-- Consecutive bytes are stored one after the other. -/
def bodyStores : Nat → List UInt8 → List SlotStore
  | _, [] => []
  | offset, byte :: rest => .body offset byte :: bodyStores (offset + 1) rest

namespace Publication

def slotBytes (publication : Publication) : List UInt8 :=
  slotField.encode
    (publication.payloadLen, publication.headerIndex, publication.poolId, 0, publication.timestampNs,
      publication.metaVersion, (), tensorHeaderBytes, tensorHeaderValue publication.tensor)

/-- The slot is marked, its fields are written, and its commit word is stored last. -/
def stores (publication : Publication) (payload : List Store) : List Store :=
  let slot := Store.header publication.region (slotAt publication.headerIndex)
  slot (.stamp (seqInProgress publication.seq)) ::
    (payload ++ (bodyStores slotStart publication.slotBytes).map slot ++
      [slot (.stamp (seqCommitted publication.seq))])

end Publication

/-- Bytes of a payload are stored one after the other. -/
def payloadStores (target : Pointer) : List UInt8 → List Store
  | [] => []
  | byte :: rest => .payload target.region target.offset byte :: payloadStores ⟨target.region, target.offset + 1⟩ rest

end TensorPool.Client
