/-
This file proves that every step of a thread keeps the queue sound.
-/

import TensorPool.Queue.Sound

namespace TensorPool.Queue

variable {width producer : Nat} {state : System} {item : List UInt8} {pos : UInt64}
  {events : List Event} {at' : OfferAt} {poll : PollAt}

/-- The state after a step of one offer that leaves the queue as it is. -/
def System.offerMoves (state : System) (producer : Nat) (at' : OfferAt) (events : List Event) : System :=
  { state with
    producers := Function.update state.producers producer at'
    log := state.log ++ events }

def System.pollMoves (state : System) (poll : PollAt) (events : List Event) : System :=
  { state with consumer := poll, log := state.log ++ events }

/-- A producer that keeps its copy leaves the copies of all producers. -/
theorem copyAt_update (producers : Nat → OfferAt) (producer : Nat) (at' : OfferAt)
    (same : at'.copyAt = (producers producer).copyAt) :
    (fun other => (Function.update producers producer at' other).copyAt) =
      fun other => (producers other).copyAt := by
  funext other
  by_cases equal : other = producer
  · rw [equal, Function.update_self, same]
  · rw [Function.update_of_ne equal]

/-- A producer that moves without a take or a delivery leaves the ring. -/
theorem ring_offerMoves (same : at'.copyAt = (state.producers producer).copyAt)
    (noTake : taken events = []) (noDelivery : delivered events = []) :
    (state.offerMoves producer at' events).ring = state.ring := by
  have copies := copyAt_update state.producers producer at' same
  unfold System.ring System.offerMoves
  simp only [taken_append, delivered_append, noTake, noDelivery, List.append_nil]
  congr 1
  funext position
  exact congrArg (fun owner : Nat → Option Nat => ∃ other, owner other = some position) copies

/-- A consumer that moves without a take or a delivery leaves the ring. -/
theorem ring_pollMoves (noTake : taken events = []) (noDelivery : delivered events = []) :
    (state.pollMoves poll events).ring = state.ring := by
  unfold System.ring System.pollMoves
  simp only [taken_append, delivered_append, noTake, noDelivery, List.append_nil]

namespace Sound

/-- A position that a thread copies into is busy. -/
theorem busy_of_copy {done : Nat} (copies : state.producers producer = .copy item pos done) :
    state.ring.busy pos.toNat :=
  ⟨producer, by rw [copies]; rfl⟩

/-- Two offers never copy into one position. -/
theorem owner (sound : Sound width state) {other done : Nat}
    (copies : state.producers producer = .copy item pos done)
    (held : (state.producers other).copyAt = some pos.toNat) : other = producer := by
  have mine := sound.producers producer
  have theirs := sound.producers other
  rw [copies] at mine
  cases at' : state.producers other with
  | copy otherItem otherPos otherDone =>
      rw [at'] at theirs held
      have samePos : otherPos.toNat = pos.toNat := Option.some.inj held
      have known := theirs.2.1
      rw [samePos, mine.2.1] at known
      exact (Prod.mk.inj (Option.some.inj known)).1.symm
  | idle => rw [at'] at held; cases held
  | loadTail _ => rw [at'] at held; cases held
  | loadSequence _ _ => rw [at'] at held; cases held
  | exchange _ _ => rw [at'] at held; cases held

/-- A producer that only moves keeps the queue sound. -/
theorem offerMoves (sound : Sound width state)
    (same : at'.copyAt = (state.producers producer).copyAt) (noTake : taken events = [])
    (noDelivery : delivered events = []) (next : OfferSound width state.ring producer at') :
    Sound width (state.offerMoves producer at' events) where
  power := sound.power
  upper := sound.upper
  mask := sound.mask
  itemSize := sound.itemSize
  ring := by
    rw [ring_offerMoves same noTake noDelivery]
    exact sound.ring
  fifo := by
    simp only [System.offerMoves, taken_append, delivered_append, noTake, noDelivery, List.append_nil]
    exact sound.fifo
  tail := by
    simp only [System.offerMoves, taken_append, noTake, List.append_nil]
    exact sound.tail
  producers other := by
    rw [ring_offerMoves same noTake noDelivery]
    simp only [System.offerMoves]
    by_cases equal : other = producer
    · rw [equal, Function.update_self]
      exact next
    · rw [Function.update_of_ne equal]
      exact sound.producers other
  consumer := by
    rw [ring_offerMoves same noTake noDelivery]
    exact sound.consumer

/-- A consumer that only moves keeps the queue sound. -/
theorem pollMoves (sound : Sound width state) (noTake : taken events = [])
    (noDelivery : delivered events = []) (next : PollSound state.ring state.queue.head.toNat poll) :
    Sound width (state.pollMoves poll events) where
  power := sound.power
  upper := sound.upper
  mask := sound.mask
  itemSize := sound.itemSize
  ring := by
    rw [ring_pollMoves noTake noDelivery]
    exact sound.ring
  fifo := by
    simp only [System.pollMoves, taken_append, delivered_append, noTake, noDelivery, List.append_nil]
    exact sound.fifo
  tail := by
    simp only [System.pollMoves, taken_append, noTake, List.append_nil]
    exact sound.tail
  producers other := by
    rw [ring_pollMoves noTake noDelivery]
    exact sound.producers other
  consumer := by
    rw [ring_pollMoves noTake noDelivery]
    exact next

/-- A call of offer keeps the queue sound. -/
theorem callOffer (sound : Sound width state) (producer : Nat) (item : List UInt8) :
    Sound width (state.step (.callOffer producer item)) := by
  simp only [System.step]
  split
  next idle =>
    unfold mpscQueueOffer
    split
    · exact sound.offerMoves (by rw [idle]) rfl rfl trivial
    next fits =>
      refine sound.offerMoves (by rw [idle]; rfl) rfl rfl ?_
      rw [bne_iff_ne, ne_eq, not_not, sound.itemSize] at fits
      exact fits
  · exact sound

/-- A call of poll keeps the queue sound. -/
theorem callPoll (sound : Sound width state) (itemSize : UInt64) :
    Sound width (state.step (.callPoll itemSize)) := by
  simp only [System.step]
  split
  next idle =>
    have ready := sound.consumer
    rw [idle] at ready
    unfold mpscQueuePoll
    split
    · exact sound.pollMoves rfl rfl ready
    · exact sound.pollMoves rfl rfl ready
  · exact sound

end Sound

/-- The state after an offer takes the position at the tail. -/
def System.takes (state : System) (producer : Nat) (item : List UInt8) (pos : UInt64) : System :=
  { state with
    queue := { state.queue with tail := pos + 1 }
    producers := Function.update state.producers producer (.copy item pos 0)
    log := state.log ++ [.taken producer item] }

def System.stores (state : System) (producer : Nat) (item : List UInt8) (pos : UInt64) (done : Nat) : System :=
  { state with
    queue := state.queue.storeByte (pos &&& state.queue.mask) done (item.getD done 0)
    producers := Function.update state.producers producer (.copy item pos (done + 1)) }

def System.publishes (state : System) (producer : Nat) (item : List UInt8) (pos : UInt64) : System :=
  { state with
    queue := state.queue.storeSequence (pos &&& state.queue.mask) (pos + 1)
    producers := Function.update state.producers producer .idle
    log := state.log ++ [.offered producer item none] }

/-- A step of an offer moves on, is refused, takes a position, stores a byte or publishes its item. -/
inductive OfferChange (width : Nat) (state : System) (producer : Nat) : System → Prop
  | moved (at' : OfferAt) (outside : (state.producers producer).copyAt = none) (stays : at'.copyAt = none)
      (waits : at'.waits ≤ (state.producers producer).waits)
      (next : OfferSound width state.ring producer at') :
      OfferChange width state producer (state.offerMoves producer at' [])
  | refused (item : List UInt8) (outside : (state.producers producer).copyAt = none)
      (full : state.ring.entries.length = state.ring.low + state.ring.size) :
      OfferChange width state producer
        (state.offerMoves producer .idle [.offered producer item (some queueFull)])
  | took (item : List UInt8) (pos : UInt64) (outside : (state.producers producer).copyAt = none)
      (waited : (state.producers producer).waits = 1) (last : pos.toNat = state.ring.entries.length)
      (free : state.ring.entries.length < state.ring.low + state.ring.size) (length : item.length = width) :
      OfferChange width state producer (state.takes producer item pos)
  | stored (item : List UInt8) (pos : UInt64) (done : Nat)
      (copies : state.producers producer = .copy item pos done) (short : done < width) :
      OfferChange width state producer (state.stores producer item pos done)
  | published (item : List UInt8) (pos : UInt64) (copies : state.producers producer = .copy item pos width) :
      OfferChange width state producer (state.publishes producer item pos)

/-- A step of an offer makes one of the known changes. -/
theorem offer_change (sound : Sound width state) (small : (taken state.log).length < 2 ^ 63)
    (producer : Nat) (fails : Bool) (near : LoadsNear state (.offer producer fails)) :
    OfferChange width state producer (state.step (.offer producer fails)) := by
  have ready := sound.producers producer
  have tail := sound.tail
  simp only [System.step]
  cases at' : state.producers producer with
  | idle => exact .moved .idle (by rw [at']; rfl) rfl (Nat.zero_le _) trivial
  | loadTail item =>
      rw [at'] at ready
      exact .moved (.loadSequence item _) (by rw [at']; rfl) rfl (by rw [at']; rfl)
        ⟨ready, Nat.le_of_eq tail⟩
  | loadSequence item pos =>
      rw [at'] at ready
      obtain ⟨length, known⟩ := ready
      have bound : pos.toNat < 2 ^ 63 := Nat.lt_of_le_of_lt known small
      rw [LoadsNear, at', OfferAt.loadsNear, decide_eq_true_iff] at near
      have below : pos.toNat ≤ (state.queue.slotAt (pos &&& state.queue.mask)).sequence.toNat + 2 ^ 63 := by
        omega
      have zero := Signed.difference_eq_zero near below
      have negative := Signed.difference_neg near below
      rw [sound.slot_stamp] at zero negative
      simp only [offerStep]
      split
      next found =>
        have shown := zero.mp (eq_of_beq found)
        exact .moved (.exchange item pos) (by rw [at']; rfl) rfl (by rw [at']; rfl)
          ⟨length, known, sound.ring.free_of_stamp shown⟩
      · split
        next older =>
          exact .refused item (by rw [at']; rfl) (sound.ring.full_of_stamp known (negative.mp older))
        · exact .moved (.loadTail item) (by rw [at']; rfl) rfl (by rw [at']; rfl) length
  | exchange item pos =>
      rw [at'] at ready
      obtain ⟨length, known, room⟩ := ready
      simp only [offerStep]
      split
      next wins =>
        obtain ⟨same, -⟩ := Bool.and_eq_true_iff.mp wins
        have last : pos.toNat = state.ring.entries.length := by
          rw [← eq_of_beq same]
          exact tail
        exact .took item pos (by rw [at']; rfl) (by rw [at']; rfl) last (last ▸ room) length
      · exact .moved (.loadSequence item _) (by rw [at']; rfl) rfl (by rw [at']; rfl)
          ⟨length, Nat.le_of_eq tail⟩
  | copy item pos done =>
      rw [at'] at ready
      obtain ⟨length, known, short, copied⟩ := ready
      simp only [offerStep, sound.itemSize]
      split
      next less =>
        rw [List.append_nil]
        exact .stored item pos done at' less
      next more =>
        obtain rfl : done = width := by omega
        exact .published item pos at'

/-- A copy loop that agrees with its source so far agrees after one more byte. -/
theorem take_set_succ {target source : List UInt8} {done : Nat} (room : done < target.length)
    (more : done < source.length) (copied : target.take done = source.take done) :
    (target.set done (source.getD done 0)).take (done + 1) = source.take (done + 1) := by
  have byte : source.getD done 0 = source[done] := by
    rw [List.getD_eq_getElem?_getD, List.getElem?_eq_getElem more, Option.getD_some]
  rw [List.take_add_one, List.take_add_one, List.take_set_of_le (Nat.le_refl _), copied,
    List.getElem?_set_self room, List.getElem?_eq_getElem more, byte]

/-- A taken place is the next one of the ring. -/
theorem ring_takes (outside : (state.producers producer).copyAt = none)
    (last : pos.toNat = state.ring.entries.length) :
    (state.takes producer item pos).ring = state.ring.take (producer, item) := by
  unfold System.ring System.takes StampedRing.take
  simp only [taken_append, delivered_append]
  congr 1
  · change (delivered state.log ++ []).length = _
    rw [List.append_nil]
  · funext position
    apply propext
    constructor
    · rintro ⟨other, owned⟩
      by_cases equal : other = producer
      · rw [equal, Function.update_self] at owned
        have same : pos.toNat = position := Option.some.inj owned
        exact .inr (same ▸ last)
      · rw [Function.update_of_ne equal] at owned
        exact .inl ⟨other, owned⟩
    · rintro (⟨other, owned⟩ | rfl)
      · have different : other ≠ producer := by
          rintro rfl
          rw [outside] at owned
          cases owned
        exact ⟨other, by rw [Function.update_of_ne different, owned]⟩
      · exact ⟨producer, by rw [Function.update_self]; exact congrArg some last⟩

/-- A stored byte is stored in the ring. -/
theorem ring_stores (sound : Sound width state) {done : Nat}
    (copies : state.producers producer = .copy item pos done) :
    (state.stores producer item pos done).ring = state.ring.store pos.toNat done (item.getD done 0) := by
  have index := sound.index pos
  have owners := copyAt_update state.producers producer (.copy item pos (done + 1)) (by rw [copies]; rfl)
  change _ = pos.toNat % state.queue.capacity.toNat at index
  unfold System.ring System.stores StampedRing.store MpscQueue.storeByte
  simp only [MpscQueue.slotAt, index]
  congr 1
  · funext slot
    by_cases equal : slot = pos.toNat % state.queue.capacity.toNat
    · rw [equal, Function.update_self]
    · rw [Function.update_of_ne equal]
  · funext slot
    by_cases equal : slot = pos.toNat % state.queue.capacity.toNat
    · rw [equal, Function.update_self, Function.update_self]
    · rw [Function.update_of_ne equal, Function.update_of_ne equal]
  · funext position
    exact congrArg (fun owner : Nat → Option Nat => ∃ other, owner other = some position) owners

/-- A small position does not wrap. -/
theorem toNat_succ (small : pos.toNat < 2 ^ 63) : (pos + 1).toNat = pos.toNat + 1 := by
  rw [UInt64.toNat_add, UInt64.toNat_one]
  omega

/-- A published place is published in the ring. -/
theorem ring_publishes (sound : Sound width state) (small : pos.toNat < 2 ^ 63) {done : Nat}
    (copies : state.producers producer = .copy item pos done) :
    (state.publishes producer item pos).ring = state.ring.publish pos.toNat := by
  have index := sound.index pos
  change _ = pos.toNat % state.queue.capacity.toNat at index
  unfold System.ring System.publishes StampedRing.publish MpscQueue.storeSequence
  simp only [MpscQueue.slotAt, index, taken_append, delivered_append]
  congr 1
  · exact List.append_nil _
  · change (delivered state.log ++ []).length = _
    rw [List.append_nil]
  · funext slot
    by_cases equal : slot = pos.toNat % state.queue.capacity.toNat
    · rw [equal, Function.update_self, Function.update_self]
      exact toNat_succ small
    · rw [Function.update_of_ne equal, Function.update_of_ne equal]
  · funext slot
    by_cases equal : slot = pos.toNat % state.queue.capacity.toNat
    · rw [equal, Function.update_self]
    · rw [Function.update_of_ne equal]
  · funext position
    apply propext
    constructor
    · rintro ⟨other, owned⟩
      by_cases equal : other = producer
      · rw [equal, Function.update_self] at owned
        cases owned
      · rw [Function.update_of_ne equal] at owned
        refine ⟨⟨other, owned⟩, fun same => ?_⟩
        exact equal (sound.owner copies (same ▸ owned))
    · rintro ⟨⟨other, owned⟩, different⟩
      have apart : other ≠ producer := by
        rintro rfl
        rw [copies] at owned
        exact different (Option.some.inj owned).symm
      exact ⟨other, by rw [Function.update_of_ne apart, owned]⟩

namespace Sound

/-- A copying offer has a position among the taken ones. -/
theorem copy_small (sound : Sound width state) (small : (taken state.log).length < 2 ^ 63) {done : Nat}
    (copies : state.producers producer = .copy item pos done) : pos.toNat < 2 ^ 63 := by
  have ready := sound.producers producer
  rw [copies] at ready
  have short : pos.toNat < (taken state.log).length := (List.getElem?_eq_some_iff.mp ready.2.1).1
  omega

/-- Taking a place keeps the queue sound. -/
theorem takes (sound : Sound width state) (small : (taken state.log).length < 2 ^ 63)
    (outside : (state.producers producer).copyAt = none) (last : pos.toNat = state.ring.entries.length)
    (free : state.ring.entries.length < state.ring.low + state.ring.size) (length : item.length = width) :
    Sound width (state.takes producer item pos) where
  power := sound.power
  upper := sound.upper
  mask := sound.mask
  itemSize := sound.itemSize
  ring := by
    rw [ring_takes outside last]
    exact sound.ring.take _ free
  fifo := by
    have grown := sound.fifo.take (producer, item) free
    simp only [System.takes, taken_append, delivered_append]
    change Fifo.Bounded _ (taken state.log ++ [(producer, item)]) (delivered state.log ++ [])
    rw [List.append_nil]
    exact grown
  tail := by
    change (pos + 1).toNat = (taken (state.log ++ [.taken producer item])).length
    rw [toNat_succ (last ▸ small), last, taken_append, List.length_append]
    rfl
  producers other := by
    rw [ring_takes outside last]
    simp only [System.takes]
    by_cases equal : other = producer
    · rw [equal, Function.update_self]
      refine ⟨length, ?_, Nat.zero_le _, rfl⟩
      change (state.ring.entries ++ [(producer, item)])[pos.toNat]? = _
      rw [last, List.getElem?_concat_length]
    · rw [Function.update_of_ne equal]
      exact (sound.producers other).take _
  consumer := by
    rw [ring_takes outside last]
    exact sound.consumer.take _

/-- Storing a byte keeps the queue sound. -/
theorem stores (sound : Sound width state) {done : Nat}
    (copies : state.producers producer = .copy item pos done) (short : done < width) :
    Sound width (state.stores producer item pos done) where
  power := sound.power
  upper := sound.upper
  mask := sound.mask
  itemSize := sound.itemSize
  ring := by
    rw [ring_stores sound copies]
    exact sound.ring.store (busy_of_copy copies) _ _
  fifo := sound.fifo
  tail := sound.tail
  producers other := by
    rw [ring_stores sound copies]
    simp only [System.stores]
    by_cases equal : other = producer
    · rw [equal, Function.update_self]
      have ready := sound.producers producer
      rw [copies] at ready
      obtain ⟨length, known, -, copied⟩ := ready
      refine ⟨length, known, short, ?_⟩
      have room := sound.ring.widths _ (sound.ring.index_lt pos.toNat)
      change (Function.update state.ring.cells _ _ (pos.toNat % state.ring.size)).take (done + 1) = _
      rw [Function.update_self]
      exact take_set_succ (by omega) (by omega) copied
    · rw [Function.update_of_ne equal]
      refine (sound.producers other).store sound.ring (busy_of_copy copies) ?_ _ _
      intro owned held
      exact ⟨⟨other, held⟩, fun same => equal (sound.owner copies (same ▸ held))⟩
  consumer := by
    rw [ring_stores sound copies]
    exact sound.consumer.store sound.ring (busy_of_copy copies) _ _

/-- Publishing a place keeps the queue sound. -/
theorem publishes (sound : Sound width state) (small : (taken state.log).length < 2 ^ 63)
    (copies : state.producers producer = .copy item pos width) :
    Sound width (state.publishes producer item pos) where
  power := sound.power
  upper := sound.upper
  mask := sound.mask
  itemSize := sound.itemSize
  ring := by
    have ready := sound.producers producer
    rw [copies] at ready
    obtain ⟨length, known, -, copied⟩ := ready
    rw [ring_publishes sound (sound.copy_small small copies) copies]
    refine sound.ring.publish (busy_of_copy copies) known ?_
    have whole := sound.ring.widths _ (sound.ring.index_lt pos.toNat)
    rw [← @List.take_length _ (state.ring.cells _), whole, copied, ← length, List.take_length]
  fifo := by
    simp only [System.publishes, taken_append, delivered_append]
    change Fifo.Bounded _ (taken state.log ++ []) (delivered state.log ++ [])
    rw [List.append_nil, List.append_nil]
    exact sound.fifo
  tail := by
    change state.queue.tail.toNat = (taken (state.log ++ [.offered producer item none])).length
    rw [taken_append, sound.tail]
    exact congrArg List.length (List.append_nil _).symm
  producers other := by
    rw [ring_publishes sound (sound.copy_small small copies) copies]
    simp only [System.publishes]
    by_cases equal : other = producer
    · rw [equal, Function.update_self]
      trivial
    · rw [Function.update_of_ne equal]
      exact (sound.producers other).publish _
  consumer := by
    rw [ring_publishes sound (sound.copy_small small copies) copies]
    exact sound.consumer.publish _

/-- Each change of an offer keeps the queue sound. -/
theorem offered (sound : Sound width state) (small : (taken state.log).length < 2 ^ 63) {after : System}
    (change : OfferChange width state producer after) : Sound width after := by
  cases change with
  | moved at' outside stays waits next => exact sound.offerMoves (stays.trans outside.symm) rfl rfl next
  | refused item outside full => exact sound.offerMoves outside.symm rfl rfl trivial
  | took item pos outside waited last free length => exact sound.takes small outside last free length
  | stored item pos done copies short => exact sound.stores copies short
  | published item pos copies => exact sound.publishes small copies

end Sound

/-- The state after the poll moves the head past its position. -/
def System.advances (state : System) (pos : UInt64) : System :=
  { state with queue := { state.queue with head := pos + 1 }, consumer := .copy pos [] }

def System.releases (state : System) (pos : UInt64) (out : List UInt8) : System :=
  { state with
    queue := state.queue.storeSequence (pos &&& state.queue.mask) (pos + state.queue.mask + 1)
    consumer := .idle
    log := state.log ++ [.polled (some out)] }

/-- The number of steps that a poll still takes when no exchange fails. -/
def PollAt.rank (width : Nat) : PollAt → Nat
  | .idle => 0
  | .loadHead => width + 4
  | .loadSequence _ => width + 3
  | .exchange _ => width + 2
  | .copy _ out => width + 1 - out.length

/-- A step of a poll moves on, finds no item, moves the head or returns the oldest item. -/
inductive PollChange (width : Nat) (fails : Bool) (state : System) : System → Prop
  | moved (poll : PollAt) (next : PollSound state.ring state.queue.head.toNat poll)
      (steps : state.consumer ≠ .idle →
        poll ≠ .idle ∧ poll.rank width < state.consumer.rank width + if fails then 2 else 0) :
      PollChange width fails state (state.pollMoves poll [])
  | empty (stays : state.queue.head.toNat = state.ring.low)
      (oldest : state.ring.entries.length = state.ring.low ∨ state.ring.busy state.ring.low) :
      PollChange width fails state (state.pollMoves .idle [.polled none])
  | advanced (pos : UInt64) (from' : state.consumer = .exchange pos) :
      PollChange width fails state (state.advances pos)
  | released (pos : UInt64) (out : List UInt8) (copies : state.consumer = .copy pos out)
      (whole : out.length = width) : PollChange width fails state (state.releases pos out)

/-- A step of a poll makes one of the known changes. -/
theorem poll_change (sound : Sound width state) (small : (taken state.log).length < 2 ^ 63) (fails : Bool) :
    PollChange width fails state (state.step (.poll fails)) := by
  have ready := sound.consumer
  simp only [System.step]
  cases at' : state.consumer with
  | idle =>
      rw [at'] at ready
      exact .moved .idle ready fun inside => absurd at' inside
  | loadHead =>
      rw [at'] at ready
      refine .moved (.loadSequence _) ⟨ready, ready⟩ fun _ => ⟨PollAt.noConfusion, ?_⟩
      rw [at']
      change width + 3 < width + 4 + _
      omega
  | loadSequence pos =>
      rw [at'] at ready
      obtain ⟨stays, same⟩ := ready
      have ordered := sound.ring.ordered
      change state.ring.low ≤ (taken state.log).length at ordered
      have bound : pos.toNat < 2 ^ 63 := by omega
      have next : (pos + 1).toNat = state.ring.low + 1 := by rw [toNat_succ bound, same]
      have shown : (state.queue.slotAt (pos &&& state.queue.mask)).sequence.toNat =
          state.ring.stamp (state.ring.low % state.ring.size) := by rw [sound.slot_stamp, same]
      simp only [pollStep]
      rcases sound.ring.oldest with ⟨stamp, oldest⟩ | ⟨stamp, written⟩
      · rw [stamp] at shown
        have zero := @Signed.difference_eq_zero
          (state.queue.slotAt (pos &&& state.queue.mask)).sequence (pos + 1) (by omega) (by omega)
        have negative := @Signed.difference_neg
          (state.queue.slotAt (pos &&& state.queue.mask)).sequence (pos + 1) (by omega) (by omega)
        rw [if_neg (by rw [beq_iff_eq, zero]; omega), if_pos (negative.mpr (by omega))]
        exact .empty stays oldest
      · rw [stamp] at shown
        have equal : (state.queue.slotAt (pos &&& state.queue.mask)).sequence = pos + 1 :=
          UInt64.toNat_inj.mp (by omega)
        rw [equal, Int64.sub_self, if_pos (by rfl)]
        refine .moved (.exchange pos) ⟨stays, same, written⟩ fun _ => ⟨PollAt.noConfusion, ?_⟩
        rw [at']
        change width + 2 < width + 3 + _
        omega
  | exchange pos =>
      rw [at'] at ready
      obtain ⟨stays, same, written⟩ := ready
      simp only [pollStep]
      split
      · rw [List.append_nil]
        exact .advanced pos at'
      next loses =>
        have failed : fails = true := by
          have equal : state.queue.head = pos := UInt64.toNat_inj.mp (by omega)
          rw [equal, beq_self_eq_true, Bool.true_and, Bool.not_eq_true, Bool.not_eq_false'] at loses
          exact loses
        refine .moved (.loadSequence _) ⟨stays, stays⟩ fun _ => ⟨PollAt.noConfusion, ?_⟩
        rw [at', failed, if_pos rfl]
        change width + 3 < width + 2 + 2
        omega
  | copy pos out =>
      rw [at'] at ready
      obtain ⟨ahead, same, written, copied⟩ := ready
      have room := sound.ring.widths _ (sound.ring.index_lt state.ring.low)
      have within : out.length ≤ width := by
        have cut := congrArg List.length copied
        rw [List.length_take] at cut
        omega
      simp only [pollStep, sound.itemSize, sound.slot_cells]
      split
      next less =>
        refine .moved (.copy pos _) ⟨ahead, same, written, ?_⟩ fun _ => ⟨PollAt.noConfusion, ?_⟩
        · rw [same, List.length_append, List.length_singleton, List.take_add_one, ← copied,
            List.getD_eq_getElem?_getD, List.getElem?_eq_getElem (by omega)]
          rfl
        · rw [at']
          simp only [PollAt.rank, List.length_append, List.length_singleton]
          omega
      next more => exact .released pos out at' (by omega)

/-- A released place is the first one of the ring. -/
theorem ring_releases (sound : Sound width state) (small : (taken state.log).length < 2 ^ 63)
    (same : pos.toNat = state.ring.low) (out : List UInt8) :
    (state.releases pos out).ring = state.ring.release := by
  have index := sound.index pos
  change _ = pos.toNat % state.queue.capacity.toNat at index
  have upper := sound.upper
  have positive : 0 < state.queue.capacity.toNat := sound.ring.positive
  have ordered : state.ring.low ≤ (taken state.log).length := sound.ring.ordered
  have stamp : (pos + state.queue.mask + 1).toNat = state.ring.low + state.queue.capacity.toNat := by
    rw [UInt64.toNat_add, UInt64.toNat_add, UInt64.toNat_one, sound.mask]
    omega
  change pos.toNat = (delivered state.log).length at same
  unfold System.ring System.releases StampedRing.release MpscQueue.storeSequence
  simp only [MpscQueue.slotAt, index, taken_append, delivered_append]
  congr 1
  · exact List.append_nil _
  · exact List.length_append
  · funext slot
    by_cases equal : slot = pos.toNat % state.queue.capacity.toNat
    · rw [equal, Function.update_self, ← same, Function.update_self, stamp, same]
      rfl
    · rw [Function.update_of_ne equal, ← same, Function.update_of_ne equal]
  · funext slot
    by_cases equal : slot = pos.toNat % state.queue.capacity.toNat
    · rw [equal, Function.update_self]
    · rw [Function.update_of_ne equal]

namespace Sound

/-- Taking the head keeps the queue sound. -/
theorem advances (sound : Sound width state) (small : (taken state.log).length < 2 ^ 63)
    (from' : state.consumer = .exchange pos) : Sound width (state.advances pos) where
  power := sound.power
  upper := sound.upper
  mask := sound.mask
  itemSize := sound.itemSize
  ring := sound.ring
  fifo := sound.fifo
  tail := sound.tail
  producers := sound.producers
  consumer := by
    have ready := sound.consumer
    rw [from'] at ready
    obtain ⟨stays, same, written⟩ := ready
    have ordered : state.ring.low ≤ (taken state.log).length := sound.ring.ordered
    refine ⟨?_, same, written, rfl⟩
    change (pos + 1).toNat = state.ring.low + 1
    rw [toNat_succ (by omega), same]

/-- The oldest item leaves with the bytes of its offer. -/
theorem oldest_item (sound : Sound width state) (written : state.ring.Written state.ring.low)
    {out : List UInt8} (whole : out.length = width)
    (copied : out = (state.ring.cells (state.ring.low % state.ring.size)).take out.length) :
    ∃ producer, (taken state.log)[(delivered state.log).length]? = some (producer, out) := by
  obtain ⟨low, short, free⟩ := written
  have known : state.ring.entries[state.ring.low]? = some state.ring.entries[state.ring.low] :=
    List.getElem?_eq_getElem short
  have room := sound.ring.widths _ (sound.ring.index_lt state.ring.low)
  have cells := (sound.ring.written _ _ low known free).2
  rw [whole, ← room, List.take_length, cells] at copied
  refine ⟨state.ring.entries[state.ring.low].1, known.trans ?_⟩
  rw [copied]

/-- Releasing the head keeps the queue sound. -/
theorem releases (sound : Sound width state) (small : (taken state.log).length < 2 ^ 63)
    {out : List UInt8} (copies : state.consumer = .copy pos out) (whole : out.length = width) :
    Sound width (state.releases pos out) := by
  have ready := sound.consumer
  rw [copies] at ready
  obtain ⟨ahead, same, written, copied⟩ := ready
  have ring := ring_releases sound small same out
  constructor
  · exact sound.power
  · exact sound.upper
  · exact sound.mask
  · exact sound.itemSize
  · rw [ring]
    exact sound.ring.release written
  · obtain ⟨producer, next⟩ := sound.oldest_item written whole copied
    have given := sound.fifo.give next
    simp only [System.releases, taken_append, delivered_append]
    change Fifo.Bounded _ (taken state.log ++ []) (delivered state.log ++ [out])
    rw [List.append_nil]
    exact given
  · change state.queue.tail.toNat = (taken (state.log ++ [.polled (some out)])).length
    rw [taken_append, sound.tail]
    exact congrArg List.length (List.append_nil _).symm
  · intro other
    rw [ring]
    exact (sound.producers other).release
  · rw [ring]
    exact ahead

/-- Each change of a poll keeps the queue sound. -/
theorem polled (sound : Sound width state) (small : (taken state.log).length < 2 ^ 63) {fails : Bool}
    {after : System} (change : PollChange width fails state after) : Sound width after := by
  cases change with
  | moved poll next steps => exact sound.pollMoves rfl rfl next
  | empty stays oldest => exact sound.pollMoves rfl rfl stays
  | advanced pos from' => exact sound.advances small from'
  | released pos out copies whole => exact sound.releases small copies whole

/-- Every step of every thread keeps the queue sound. -/
theorem step (sound : Sound width state) (small : (taken state.log).length < 2 ^ 63) (action : Action)
    (near : LoadsNear state action) : Sound width (state.step action) := by
  cases action with
  | callOffer producer item => exact sound.callOffer producer item
  | offer producer fails => exact sound.offered small (offer_change sound small producer fails near)
  | callPoll itemSize => exact sound.callPoll itemSize
  | poll fails => exact sound.polled small (poll_change sound small fails)

end Sound

end TensorPool.Queue
