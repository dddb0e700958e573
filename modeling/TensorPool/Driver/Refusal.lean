/-
This file says what a refused attach leaves behind.
-/

import TensorPool.Driver.Exclusive

namespace TensorPool.Driver

open Attempt

/-- The epoch phase leaves a stream at a later epoch, with the page size of its first one. -/
def Moved (before after : StreamState) : Prop :=
  ∃ now asked createdNs, after = { before with
    epoch := nextEpoch now before.epoch
    epochCreatedNs := createdNs
    requireHugepages := before.pages asked }

/--
Only a request for an unknown stream that may be created draws an identifier or adds a stream.
The new stream has the default profile, no epoch and no producer.
-/
def Provided (request : AttachRequest) (s : State) (ranges : List IdRange) (streams : List StreamState) : Prop :=
  (ranges = s.streamIdRanges ∧ streams = s.streams) ∨
    Opens request s ∧ ∃ streamId, findStream s.streams streamId = none ∧ Chosen request s streamId ranges ∧
      (streams = s.streams ∨ ∃ profile, findDefaultProfile s.config = some profile ∧ streams = s.streams ++
        [{ streamId, profile := some profile, requireHugepages := s.config.requireHugepages }])

/-- Before an internal error one stream may have moved, for a producer or from no epoch. -/
def Bumped (request : AttachRequest) (code : ResponseCode) (streams streams' : List StreamState) : Prop :=
  streams' = streams ∨ code = .internalError ∧ ∃ index stream, index < streams.length ∧
    (request.role = some .producer ∨ (streams.getD index {}).epoch = 0) ∧
    Moved (streams.getD index {}) stream ∧ streams' = streams.set index stream

/-- The lease table is as before; the streams and the cursors are but for what the driver does not undo. -/
structure Leftover (request : AttachRequest) (code : ResponseCode) (s s' : State) : Prop where
  leases : s'.leases = s.leases
  streams : ∃ streams, Provided request s s'.streamIdRanges streams ∧ Bumped request code streams s'.streams

/-- The checks leave the cursors alone and the table too, unless the request opens a creation. -/
theorem Checks.leftover {o : Oracle} {request : AttachRequest} {s s' : State} (checks : Checks o request s s') :
    s'.leases = s.leases ∧ Provided request s s'.streamIdRanges s'.streams := by
  obtain ⟨m, provides, -, reads⟩ := checks
  rw [reads.leases, reads.ranges, reads.streams]
  cases provides with
  | same unchanged =>
      rw [unchanged]
      exact ⟨rfl, .inl ⟨rfl, rfl⟩⟩
  | tried ranges calls opens moved chosen =>
      obtain ⟨streamId, fresh, chosen⟩ := chosen
      rw [moved]
      exact ⟨rfl, .inr ⟨opens, streamId, fresh, chosen, .inl rfl⟩⟩
  | added ranges streamId profile opens fresh grown chosen standard =>
      rw [grown]
      exact ⟨rfl, .inr ⟨opens, streamId, fresh, chosen, .inr ⟨profile, standard, rfl⟩⟩⟩

/-- The epoch phase moves at most one stream of the table. -/
theorem Renews.leftover {o : Oracle} {request : AttachRequest} {role : Role} {index : Nat} {s s' : State}
    (renews : Renews o role index s s') (asked : request.role = some role) (inside : index < s.streams.length) :
    s'.leases = s.leases ∧ s'.streamIdRanges = s.streamIdRanges ∧
      Bumped request .internalError s.streams s'.streams := by
  cases renews with
  | kept unchanged =>
      rw [unchanged]
      exact ⟨rfl, rfl, .inl rfl⟩
  | renewed stream w due moved _ _ _ paged =>
      rw [moved]
      obtain ⟨pages, createdNs, stamped⟩ := paged
      refine ⟨rfl, rfl, .inr ⟨rfl, index, stream, inside, ?_,
        ⟨o.clock s.world.calls, pages, createdNs, stamped⟩, rfl⟩⟩
      exact due.imp (fun producer => asked.trans (congrArg some producer)) id

theorem grantAttach_leftover {o : Oracle} {request : AttachRequest} {s s' : State} {rejection : Rejection}
    (run : (grantAttach o request).exec s = (.error rejection, s')) :
    Leftover request rejection.code s s' := by
  cases grantAttach_error run with
  | checks left =>
      obtain ⟨leases, provided⟩ := left.leftover
      exact ⟨leases, s'.streams, provided, .inl rfl⟩
  | epoch admission streamId m checks asked found renews code =>
      obtain ⟨leases, provided⟩ := checks.leftover
      obtain ⟨leases', cursors, bumped⟩ := renews.leftover asked (findStream_inside found).1
      exact ⟨leases'.trans leases, m.streams, cursors ▸ provided, code ▸ bumped⟩
  | lease admission streamId m r checks asked found renews change streams ranges leases'' code =>
      obtain ⟨leases, provided⟩ := checks.leftover
      obtain ⟨leases', cursors, bumped⟩ := renews.leftover asked (findStream_inside found).1
      refine ⟨leases''.trans (leases'.trans leases), m.streams, ?_, ?_⟩
      · rw [ranges, cursors]
        exact provided
      · rw [streams, code]
        exact bumped

/-- A granted request adds its lease to the table. -/
theorem grantAttach_adds {o : Oracle} {request : AttachRequest} {s granted : State} {grant : Grant}
    (run : (grantAttach o request).exec s = (.ok grant, granted)) : granted.leases = s.leases ++ [grant.lease] := by
  obtain ⟨admission, streamId, m, r, same, commits⟩ := grantAttach_ok run
  obtain ⟨kept, -⟩ := commits.checks.leftover
  obtain ⟨renewed, -, -⟩ := commits.renews.leftover commits.admitted.role (findStream_inside commits.found).1
  have added : granted.leases = r.leases ++ [grant.lease] := by
    cases commits.change with
    | grant _ _ _ leases => exact leases
  rw [added, renewed, kept]

/-- A refused request gets its response after the driver left everything as it was. -/
theorem handleAttach_error {o : Oracle} {request : AttachRequest} {s s' : State} {rejection : Rejection}
    (outcome : (grantAttach o request).exec s = (.error rejection, s')) :
    (handleAttach o request s).2 = { s' with
      world := (sendAttachRefused o request.correlationId rejection.code rejection.message s'.world).2 } := by
  rw [handleAttach, outcome]

/-- In this environment no region can be written. -/
def brokenOracle : Oracle := { plainOracle with writesRegion := fun _ => false }

end TensorPool.Driver
