/-
This file reads the lease table and the stream table as one abstract ledger.
-/

import TensorPool.Driver.Numbering
import TensorPool.Library.Ledger

namespace TensorPool.Driver

/-- A producer's lease excludes the other producers of its stream. -/
def Lease.entry (lease : Lease) : Ledger.Entry UInt64 UInt32 UInt32 UInt32 where
  id := lease.leaseId
  key := lease.streamId
  client := lease.clientId
  node := lease.nodeId
  exclusive := lease.role == .producer

/-- The holder of a stream is the producer that the stream remembers. -/
def StreamState.holder (stream : StreamState) : Option (UInt64 × UInt32) :=
  if stream.producerLeaseId = 0 then none else some (stream.producerLeaseId, stream.producerClientId)

def State.book (s : State) : Ledger.Book UInt64 UInt32 UInt32 UInt32 where
  entries := s.leases.map Lease.entry
  holder := fun streamId => (s.view streamId).bind StreamState.holder

/-- The entries depend only on the identities of the leases. -/
theorem entries_congr {left right : List Lease}
    (same : left.map Lease.identity = right.map Lease.identity) :
    left.map Lease.entry = right.map Lease.entry := by
  have images := congrArg (List.map Lease.entry) same
  rw [List.map_map, List.map_map] at images
  exact images

theorem book_congr {s s' : State} (leases : s'.leases.map Lease.identity = s.leases.map Lease.identity)
    (holders : ∀ streamId, (s'.view streamId).bind StreamState.holder = (s.view streamId).bind StreamState.holder) :
    s'.book = s.book := by
  unfold State.book
  rw [entries_congr leases]
  congr 1
  funext streamId
  exact holders streamId

/-- An update of a view that keeps the holder of its stream keeps every holder. -/
theorem holder_update {view : UInt32 → Option StreamState} {streamId : UInt32} {stream : Option StreamState}
    (same : stream.bind StreamState.holder = (view streamId).bind StreamState.holder) (other : UInt32) :
    (Function.update view streamId stream other).bind StreamState.holder =
      (view other).bind StreamState.holder := by
  by_cases here : other = streamId
  · rw [here, Function.update_self, same]
  · rw [Function.update_of_ne here]

/-- The end of a lease takes its holder from the stream. -/
theorem holder_release (stream : StreamState) (lease : Lease) : (stream.release lease).holder =
    if stream.holder.map Prod.fst = some lease.leaseId then none else stream.holder := by
  unfold StreamState.release StreamState.holder
  by_cases empty : stream.producerLeaseId = 0 <;>
    by_cases same : stream.producerLeaseId = lease.leaseId <;> simp_all

/-- The claim of a lease with an identifier makes it the holder. -/
theorem holder_claim (stream : StreamState) {lease : Lease} (nonzero : lease.leaseId ≠ 0) :
    (stream.claim lease).holder =
      if lease.role = .producer then some (lease.leaseId, lease.clientId) else stream.holder := by
  unfold StreamState.claim StreamState.holder
  by_cases producer : lease.role = .producer <;> simp [producer, nonzero]

/-- The driver's changes refine the steps of the ledger, when its identifiers are fresh. -/
theorem change_refines {o : Oracle} {label : Label} {s s' : State} (change : Change o label s s')
    (fresh : ∀ lease ∈ label.granted, lease.leaseId ∉ s.leases.map Lease.leaseId) :
    Relation.ReflTransGen Ledger.Book.Step s.book s'.book := by
  have stays (leases : s'.leases.map Lease.identity = s.leases.map Lease.identity)
      (holders : ∀ streamId, (s'.view streamId).bind StreamState.holder =
        (s.view streamId).bind StreamState.holder) :
      Relation.ReflTransGen Ledger.Book.Step s.book s'.book := by
    rw [book_congr leases holders]
  cases change with
  | talk quiet view => exact stays (by rw [quiet.leases]) (by simp [view])
  | provision quiet absent view =>
      refine stays (by rw [quiet.leases]) fun streamId => ?_
      rw [view, holder_update]
      rw [absent]
      rfl
  | renew known stable _ _ _ view =>
      refine stays (by rw [stable.2.1]) fun streamId => ?_
      rw [view, holder_update]
      rw [known]
      rfl
  | waste stable _ streams => exact stays (by rw [stable.2]) (by simp [view_congr streams])
  | extend stable leases _ streams => exact stays leases (by simp [view_congr streams])
  | grant known checks config leases counter cooled tidy calls view log =>
      rename_i stream lease checkedNs
      obtain ⟨seeded, -, numberOf⟩ := checks.leaseId
      have nonzero : lease.leaseId ≠ 0 := numberOf ▸ increment_ne_zero seeded
      have step := Ledger.Book.Step.grant s.book lease.entry ?_ ?_ ?_ ?_
      · refine Relation.ReflTransGen.single (cast (congrArg _ ?_) step)
        unfold State.book
        rw [leases, view, List.map_append, List.map_singleton]
        congr 1
        funext streamId
        unfold Ledger.Book.take
        by_cases here : streamId = lease.streamId
        · subst here
          rw [Function.update_self, Option.bind_some, holder_claim stream nonzero]
          change (if (lease.role == .producer) = true ∧ lease.streamId = lease.streamId
            then some (lease.leaseId, lease.clientId)
            else (s.view lease.streamId).bind StreamState.holder) = _
          rw [known]
          simp
        · rw [Function.update_of_ne here, if_neg]
          exact fun taken => here taken.2
      · intro member
        rw [State.book, List.map_map] at member
        exact fresh lease (List.mem_singleton_self lease) member
      · intro member
        obtain ⟨entry, inBook, same⟩ := List.mem_map.mp member
        obtain ⟨other, present, rfl⟩ := List.mem_map.mp inBook
        exact checks.client.2 other present same
      · intro member
        obtain ⟨entry, inBook, same⟩ := List.mem_map.mp member
        obtain ⟨other, present, rfl⟩ := List.mem_map.mp inBook
        exact checks.node.2 other present same
      · intro exclusive
        have free := checks.producer (by simpa [Lease.entry] using exclusive)
        change (s.view lease.streamId).bind StreamState.holder = none
        rw [known, Option.bind_some, StreamState.holder, if_pos free]
  | @finish _ _ before after lease atNs stable leases calls tidy view log =>
      have step := Ledger.Book.Step.finish (before.map Lease.entry) (after.map Lease.entry) lease.entry
        s.book.holder
      have start : s.book = ⟨before.map Lease.entry ++ lease.entry :: after.map Lease.entry, s.book.holder⟩ := by
        rw [State.book, leases.1]
        simp
      rw [start]
      refine Relation.ReflTransGen.single (cast (congrArg _ ?_) step)
      unfold State.book
      rw [leases.2, view, List.map_append]
      congr 1
      funext streamId
      unfold Ledger.Book.leave
      by_cases here : streamId = lease.streamId
      · subst here
        rw [Function.update_self]
        change (if lease.streamId = lease.streamId ∧
            ((s.view lease.streamId).bind StreamState.holder).map Prod.fst = some lease.leaseId then none
          else (s.view lease.streamId).bind StreamState.holder) = _
        rcases s.view lease.streamId with _ | stream
        · simp
        · simp only [Option.map_some, Option.bind_some, holder_release]
          by_cases leaver : stream.holder.map Prod.fst = some lease.leaseId
          · rw [if_pos ⟨trivial, leaver⟩, if_pos leaver]
          · rw [if_neg fun left => leaver left.2, if_neg leaver]
      · rw [Function.update_of_ne here, if_neg]
        exact fun left => here left.1

end TensorPool.Driver
