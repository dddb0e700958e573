/-
This file holds the regions, the producer and the consumer of a client.
-/

import TensorPool.Client.Tensor

namespace TensorPool.Client

def superblockSizeBytes : Nat := 64
def headerSlotBytes : UInt32 := 256
def nullU32 : UInt32 := 0xFFFFFFFF
def nullU64 : UInt64 := 0xFFFFFFFFFFFFFFFF
def adminAction : Int64 := -4

/-- The address of a mapped region names the shared object behind it. -/
structure Region where
  addr : Option Nat := none
  length : Nat := 0
  deriving DecidableEq, Repr

structure Pool where
  poolId : UInt16 := 0
  nslots : UInt32 := 0
  strideBytes : UInt32 := 0
  region : Region := {}
  deriving DecidableEq, Repr

/-- A place in the bytes of a shared object. -/
structure Pointer where
  region : Nat
  offset : Nat
  deriving DecidableEq, Repr

/-- The allocated pools and the pool count are separate fields, and no pools mean a null pointer. -/
structure Producer where
  fixedPoolMode : Bool := false
  headerRegion : Region := {}
  pools : List Pool := []
  poolCount : Nat := 0
  headerNslots : UInt32 := 0
  nextSeq : UInt64 := 0
  deriving DecidableEq, Repr

structure Consumer where
  headerRegion : Region := {}
  pools : List Pool := []
  poolCount : Nat := 0
  headerNslots : UInt32 := 0
  useShm : Bool := true
  shmMapped : Bool := false
  deriving DecidableEq, Repr

/-- A lookup may touch a pool that does not exist. -/
inductive Lookup where
  | found (pool : Pool)
  | missing
  | fault
  deriving DecidableEq

/-- The lookup visits the pools below the count and stops at the first one with the id. -/
def findPool : List Pool → Nat → UInt16 → Lookup
  | _, 0, _ => .missing
  | [], _ + 1, _ => .fault
  | pool :: rest, count + 1, poolId =>
      if pool.poolId == poolId then .found pool else findPool rest count poolId

/-- The smallest stride that holds the length wins, and the first pool among equals. -/
def betterPool (length : Nat) (best : Option Pool) (pool : Pool) : Option Pool :=
  if pool.strideBytes.toNat ≥ length then
    match best with
    | none => some pool
    | some other => if pool.strideBytes < other.strideBytes then some pool else some other
  else
    best

def findPoolForLength (pools : List Pool) (count length : Nat) : Lookup :=
  if pools.length < count then
    .fault
  else
    match (pools.take count).foldl (betterPool length) none with
    | some pool => .found pool
    | none => .missing

end TensorPool.Client
