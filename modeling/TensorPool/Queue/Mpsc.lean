/-
This file holds the queue of many producers and one consumer.
Each call is split into its atomic steps and the single byte copies between them.
-/

import Mathlib.Data.Int.Notation
import Mathlib.Logic.Function.Basic
import TensorPool.Library.RingWindow

namespace TensorPool.Queue

inductive Errno where
  | einval
  | enomem
  | eagain
  deriving DecidableEq, Repr

structure QueueError where
  errno : Errno
  text : String
  deriving DecidableEq, Repr

structure MpscSlot where
  sequence : UInt64
  data : List UInt8

/-- The slots are the entries of the allocated buffer below the capacity. -/
structure MpscQueue where
  slots : Nat → MpscSlot
  slotSize : UInt64
  capacity : UInt64
  mask : UInt64
  itemSize : UInt64
  head : UInt64
  tail : UInt64

def isPowerOfTwo (value : UInt64) : Bool :=
  value != 0 && (value &&& (value - 1)) == 0

def mpscQueueInit (capacity : UInt64) : Except QueueError MpscQueue :=
  if capacity == 0 || !isPowerOfTwo capacity then
    .error ⟨.einval, "tp_mpsc_queue_init: invalid input"⟩
  else
    .ok
      { slots := fun _ => ⟨0, []⟩
        slotSize := 0
        capacity := capacity
        mask := capacity - 1
        itemSize := 0
        head := 0
        tail := 0 }

/-- The size of the slot header is eight bytes. -/
def mpscQueueAllocSlots (calloc : UInt64 → Bool) (queue : MpscQueue) (itemSize : UInt64) :
    Except QueueError MpscQueue :=
  if itemSize == 0 then
    .error ⟨.einval, "tp_mpsc_queue_alloc_slots: invalid item size"⟩
  else
    let slotSize := 8 + itemSize
    let totalSize := queue.capacity * slotSize
    if !calloc totalSize then
      .error ⟨.enomem, "tp_mpsc_queue_alloc_slots: alloc failed"⟩
    else
      .ok
        { queue with
          slots := fun index => ⟨UInt64.ofNat index, List.replicate itemSize.toNat 0⟩
          slotSize := slotSize
          itemSize := itemSize }

namespace MpscQueue

def slotAt (queue : MpscQueue) (index : UInt64) : MpscSlot :=
  queue.slots index.toNat

def storeSequence (queue : MpscQueue) (index sequence : UInt64) : MpscQueue :=
  { queue with
    slots := Function.update queue.slots index.toNat { queue.slotAt index with sequence := sequence } }

def storeByte (queue : MpscQueue) (index : UInt64) (offset : Nat) (byte : UInt8) : MpscQueue :=
  let slot := queue.slotAt index
  { queue with
    slots := Function.update queue.slots index.toNat { slot with data := slot.data.set offset byte } }

end MpscQueue

/-- A call leaves its outcome, and an offer also the moment when it takes its position. -/
inductive Event where
  | taken (producer : Nat) (item : List UInt8)
  | offered (producer : Nat) (item : List UInt8) (error : Option QueueError)
  | polled (item : Option (List UInt8))
  | pollRefused (error : QueueError)
  deriving DecidableEq, Repr

/-- The next step of an offer. -/
inductive OfferAt where
  | idle
  | loadTail (item : List UInt8)
  | loadSequence (item : List UInt8) (pos : UInt64)
  | exchange (item : List UInt8) (pos : UInt64)
  | copy (item : List UInt8) (pos : UInt64) (done : Nat)

/-- The next step of a poll. -/
inductive PollAt where
  | idle
  | loadHead
  | loadSequence (pos : UInt64)
  | exchange (pos : UInt64)
  | copy (pos : UInt64) (out : List UInt8)
  deriving DecidableEq

def queueFull : QueueError :=
  ⟨.eagain, "tp_mpsc_queue_offer: queue full"⟩

/-- The item size of the call is the length of its item. -/
def mpscQueueOffer (producer : Nat) (item : List UInt8) (queue : MpscQueue) : OfferAt × List Event :=
  if item.length != queue.itemSize.toNat then
    (.idle, [.offered producer item (some ⟨.einval, "tp_mpsc_queue_offer: item size mismatch"⟩)])
  else
    (.loadTail item, [])

/-- A weak exchange may fail although the tail has the expected value. -/
def offerStep (producer : Nat) (fails : Bool) (queue : MpscQueue) :
    OfferAt → MpscQueue × OfferAt × List Event
  | .idle => (queue, .idle, [])
  | .loadTail item => (queue, .loadSequence item queue.tail, [])
  | .loadSequence item pos =>
      let seq := (queue.slotAt (pos &&& queue.mask)).sequence
      let diff := seq.toInt64 - pos.toInt64
      if diff == 0 then
        (queue, .exchange item pos, [])
      else if diff < 0 then
        (queue, .idle, [.offered producer item (some queueFull)])
      else
        (queue, .loadTail item, [])
  | .exchange item pos =>
      if queue.tail == pos && !fails then
        ({ queue with tail := pos + 1 }, .copy item pos 0, [.taken producer item])
      else
        (queue, .loadSequence item queue.tail, [])
  | .copy item pos done =>
      let index := pos &&& queue.mask
      if done < queue.itemSize.toNat then
        (queue.storeByte index done (item.getD done 0), .copy item pos (done + 1), [])
      else
        (queue.storeSequence index (pos + 1), .idle, [.offered producer item none])

def mpscQueuePoll (itemSize : UInt64) (queue : MpscQueue) : PollAt × List Event :=
  if itemSize != queue.itemSize then
    (.idle, [.pollRefused ⟨.einval, "tp_mpsc_queue_poll: item size mismatch"⟩])
  else
    (.loadHead, [])

def pollStep (fails : Bool) (queue : MpscQueue) : PollAt → MpscQueue × PollAt × List Event
  | .idle => (queue, .idle, [])
  | .loadHead => (queue, .loadSequence queue.head, [])
  | .loadSequence pos =>
      let seq := (queue.slotAt (pos &&& queue.mask)).sequence
      let diff := seq.toInt64 - (pos + 1).toInt64
      if diff == 0 then
        (queue, .exchange pos, [])
      else if diff < 0 then
        (queue, .idle, [.polled none])
      else
        (queue, .loadHead, [])
  | .exchange pos =>
      if queue.head == pos && !fails then
        ({ queue with head := pos + 1 }, .copy pos [], [])
      else
        (queue, .loadSequence queue.head, [])
  | .copy pos out =>
      let index := pos &&& queue.mask
      if out.length < queue.itemSize.toNat then
        (queue, .copy pos (out ++ [(queue.slotAt index).data.getD out.length 0]), [])
      else
        (queue.storeSequence index (pos + queue.mask + 1), .idle, [.polled (some out)])

end TensorPool.Queue
