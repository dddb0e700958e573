/-
This file relates the queue and its threads to a ring of stamped slots.
-/

import TensorPool.Library.Signed
import TensorPool.Library.StampedRing
import TensorPool.Queue.History

namespace TensorPool.Queue

/-- A copying offer owns its position. -/
def OfferAt.copyAt : OfferAt → Option Nat
  | .copy _ pos _ => some pos.toNat
  | _ => none

/-- An offer that has not taken a position yet waits for one. -/
def OfferAt.waits : OfferAt → Nat
  | .loadTail _ => 1
  | .loadSequence _ _ => 1
  | .exchange _ _ => 1
  | _ => 0

/-- The window starts at the first item that is not delivered. -/
def System.ring (state : System) : StampedRing Nat UInt8 where
  size := state.queue.capacity.toNat
  entries := taken state.log
  low := (delivered state.log).length
  stamp index := (state.queue.slots index).sequence.toNat
  cells index := (state.queue.slots index).data
  busy position := ∃ producer, (state.producers producer).copyAt = some position

/-- The loaded position of an offer is never beyond the tail, and a found slot stays free for it. -/
def OfferSound (width : Nat) (ring : StampedRing Nat UInt8) (producer : Nat) : OfferAt → Prop
  | .idle => True
  | .loadTail item => item.length = width
  | .loadSequence item pos => item.length = width ∧ pos.toNat ≤ ring.entries.length
  | .exchange item pos =>
      item.length = width ∧ pos.toNat ≤ ring.entries.length ∧ pos.toNat < ring.low + ring.size
  | .copy item pos done =>
      item.length = width ∧ ring.entries[pos.toNat]? = some (producer, item) ∧ done ≤ width ∧
        (ring.cells (pos.toNat % ring.size)).take done = item.take done

def PollSound (ring : StampedRing Nat UInt8) (head : Nat) : PollAt → Prop
  | .idle => head = ring.low
  | .loadHead => head = ring.low
  | .loadSequence pos => head = ring.low ∧ pos.toNat = ring.low
  | .exchange pos => head = ring.low ∧ pos.toNat = ring.low ∧ ring.Written ring.low
  | .copy pos out =>
      head = ring.low + 1 ∧ pos.toNat = ring.low ∧ ring.Written ring.low ∧
        out = (ring.cells (ring.low % ring.size)).take out.length

structure Sound (width : Nat) (state : System) : Prop where
  power : state.queue.capacity.toNat.isPowerOfTwo
  upper : state.queue.capacity.toNat ≤ 2 ^ 61
  mask : state.queue.mask.toNat = state.queue.capacity.toNat - 1
  itemSize : state.queue.itemSize.toNat = width
  ring : state.ring.Sound width
  fifo : Fifo.Bounded state.queue.capacity.toNat (taken state.log) (delivered state.log)
  tail : state.queue.tail.toNat = (taken state.log).length
  producers : ∀ producer, OfferSound width state.ring producer (state.producers producer)
  consumer : PollSound state.ring state.queue.head.toNat state.consumer

/-- The loaded sequence is less than half of the word range ahead of the position. -/
def OfferAt.loadsNear (queue : MpscQueue) : OfferAt → Bool
  | .loadSequence _ pos => (queue.slotAt (pos &&& queue.mask)).sequence.toNat < pos.toNat + 2 ^ 63
  | _ => true

def LoadsNear (state : System) : Action → Prop
  | .offer producer _ => (state.producers producer).loadsNear state.queue = true
  | _ => True

instance decidableLoadsNear (state : System) : (action : Action) → Decidable (LoadsNear state action)
  | .offer producer _ => inferInstanceAs (Decidable ((state.producers producer).loadsNear state.queue = true))
  | .callOffer _ _ => isTrue trivial
  | .callPoll _ => isTrue trivial
  | .poll _ => isTrue trivial

variable {width producer other position : Nat} {state : System} {ring : StampedRing Nat UInt8}

namespace Sound

/-- The mask gives the place in the ring. -/
theorem index (sound : Sound width state) (pos : UInt64) :
    (pos &&& state.queue.mask).toNat = pos.toNat % state.ring.size := by
  rw [UInt64.toNat_and, sound.mask]
  exact RingWindow.land_mask sound.power pos.toNat

/-- The sequence of a slot is the stamp of its place. -/
theorem slot_stamp (sound : Sound width state) (pos : UInt64) :
    (state.queue.slotAt (pos &&& state.queue.mask)).sequence.toNat =
      state.ring.stamp (pos.toNat % state.ring.size) := by
  rw [MpscQueue.slotAt, sound.index]
  rfl

/-- The data of a slot are the cells of its place. -/
theorem slot_cells (sound : Sound width state) (pos : UInt64) :
    (state.queue.slotAt (pos &&& state.queue.mask)).data =
      state.ring.cells (pos.toNat % state.ring.size) := by
  rw [MpscQueue.slotAt, sound.index]
  rfl

end Sound

section Threads

variable {entry : Nat × List UInt8} {at' : OfferAt} {head : Nat} {poll : PollAt}

/-- An offer stays sound when a place is taken. -/
theorem OfferSound.take (sound : OfferSound width ring producer at') (entry : Nat × List UInt8) :
    OfferSound width (ring.take entry) producer at' := by
  have longer : ring.entries.length ≤ (ring.take entry).entries.length := by
    simp [StampedRing.take]
  cases at' with
  | idle => trivial
  | loadTail item => exact sound
  | loadSequence item pos => exact ⟨sound.1, sound.2.trans longer⟩
  | exchange item pos => exact ⟨sound.1, sound.2.1.trans longer, sound.2.2⟩
  | copy item pos done =>
      obtain ⟨length, known, rest⟩ := sound
      have short := (List.getElem?_eq_some_iff.mp known).1
      refine ⟨length, ?_, rest⟩
      change (ring.entries ++ [entry])[pos.toNat]? = _
      rw [List.getElem?_append_left short, known]

/-- The stores of one offer do not touch the slot of another one. -/
theorem OfferSound.store (valid : ring.Sound width) (sound : OfferSound width ring other at')
    (busy : ring.busy position) (held : ∀ owned, at'.copyAt = some owned → ring.busy owned ∧ owned ≠ position)
    (offset : Nat) (cell : UInt8) : OfferSound width (ring.store position offset cell) other at' := by
  cases at' with
  | copy item pos done =>
      obtain ⟨length, known, short, copied⟩ := sound
      obtain ⟨owned, different⟩ := held pos.toNat rfl
      have ⟨low, high⟩ := valid.held _ owned
      have ⟨lowOther, highOther⟩ := valid.held _ busy
      have room := valid.room
      have apart : pos.toNat % ring.size ≠ position % ring.size := fun same =>
        different (valid.unique low high lowOther (by omega) same)
      refine ⟨length, known, short, ?_⟩
      change (Function.update ring.cells _ _ (pos.toNat % ring.size)).take done = _
      rw [Function.update_of_ne apart, copied]
  | idle => trivial
  | loadTail item => exact sound
  | loadSequence item pos => exact sound
  | exchange item pos => exact sound

/-- An offer stays sound when another place is published. -/
theorem OfferSound.publish (sound : OfferSound width ring other at') (position : Nat) :
    OfferSound width (ring.publish position) other at' := by
  cases at' <;> exact sound

/-- An offer stays sound when a place is released. -/
theorem OfferSound.release (sound : OfferSound width ring other at') :
    OfferSound width ring.release other at' := by
  cases at' with
  | exchange item pos =>
      obtain ⟨length, known, room⟩ := sound
      refine ⟨length, known, ?_⟩
      change pos.toNat < ring.low + 1 + ring.size
      omega
  | idle => trivial
  | loadTail item => exact sound
  | loadSequence item pos => exact sound
  | copy item pos done => exact sound

/-- A written place stays written when another one is taken. -/
theorem Written.take (written : ring.Written position) (entry : Nat × List UInt8) :
    (ring.take entry).Written position := by
  obtain ⟨low, high, free⟩ := written
  refine ⟨low, ?_, ?_⟩
  · simp only [StampedRing.take, List.length_append, List.length_singleton]
    omega
  · rintro (busy | last)
    · exact free busy
    · omega

/-- A poll stays sound when a place is taken. -/
theorem PollSound.take (sound : PollSound ring head poll) (entry : Nat × List UInt8) :
    PollSound (ring.take entry) head poll := by
  cases poll with
  | idle => exact sound
  | loadHead => exact sound
  | loadSequence pos => exact sound
  | exchange pos => exact ⟨sound.1, sound.2.1, Written.take sound.2.2 entry⟩
  | copy pos out => exact ⟨sound.1, sound.2.1, Written.take sound.2.2.1 entry, sound.2.2.2⟩

/-- A poll stays sound when a busy place is stored to. -/
theorem PollSound.store (valid : ring.Sound width) (sound : PollSound ring head poll)
    (busy : ring.busy position) (offset : Nat) (cell : UInt8) :
    PollSound (ring.store position offset cell) head poll := by
  cases poll with
  | copy pos out =>
      obtain ⟨ahead, same, written, copied⟩ := sound
      have ⟨low, high⟩ := valid.held _ busy
      have positive := valid.positive
      have apart : ring.low % ring.size ≠ position % ring.size := by
        intro equal
        have one := valid.unique low high (Nat.le_refl _) (by omega) equal.symm
        exact written.2.2 (one ▸ busy)
      refine ⟨ahead, same, written, ?_⟩
      change out = (Function.update ring.cells _ _ (ring.low % ring.size)).take out.length
      rw [Function.update_of_ne apart]
      exact copied
  | idle => exact sound
  | loadHead => exact sound
  | loadSequence pos => exact sound
  | exchange pos => exact sound

/-- A poll stays sound when a place is published. -/
theorem PollSound.publish (sound : PollSound ring head poll) (position : Nat) :
    PollSound (ring.publish position) head poll := by
  have keeps : ring.Written ring.low → (ring.publish position).Written ring.low := fun written =>
    ⟨written.1, written.2.1, fun busy => written.2.2 busy.1⟩
  cases poll with
  | exchange pos => exact ⟨sound.1, sound.2.1, keeps sound.2.2⟩
  | copy pos out => exact ⟨sound.1, sound.2.1, keeps sound.2.2.1, sound.2.2.2⟩
  | idle => exact sound
  | loadHead => exact sound
  | loadSequence pos => exact sound

end Threads

end TensorPool.Queue
