/-
This file compares the leases that the driver records with the grants that it sends.
-/

import TensorPool.Driver.Refusal
import TensorPool.Driver.Room

namespace TensorPool.Driver

open Attempt

/-- An `OK` response that the publication accepts grants the lease that it carries. -/
def Event.answer : Event → Option UInt64
  | .offered (.attachResponse response) result =>
      if 0 ≤ result ∧ response.code = .ok then
        response.body.map AttachBody.leaseId
      else none
  | _ => none

/-- The answers of one call are those that it adds to the log. -/
def newAnswers (s s' : State) : List UInt64 :=
  (s'.world.log.drop s.world.log.length).filterMap Event.answer

/-- The client has a new lease exactly when a response that grants it went out. -/
def RecordedIffAnswered (o : Oracle) (request : AttachRequest) (s : State) : Prop :=
  ∀ leaseId, (∃ lease ∈ (handleAttach o request s).2.leases, lease ∉ s.leases ∧
    lease.clientId = request.clientId ∧ lease.leaseId = leaseId) ↔
      leaseId ∈ newAnswers s (handleAttach o request s).2

/-- The response to a granted request can be encoded, and the publication accepts it. -/
def AnswerGoesOut (o : Oracle) (request : AttachRequest) (s : State) : Prop :=
  ∀ grant granted, (grantAttach o request).exec s = (.ok grant, granted) →
    RegionsEncode o granted.config (granted.streamAt grant.index) grant.requireHugepages
        (messageHeaderLength + attachResponseBlockLength) ∧
      0 ≤ o.offer (granted.announce o grant.index grant.requireHugepages).world.calls

/-- An event without a message is not an answer. -/
def Event.silent : Event → Prop
  | .offered _ _ => False
  | _ => True

theorem answer_of_silent {event : Event} (silent : event.silent) : event.answer = none := by
  cases event <;> first | rfl | exact silent.elim

/-- A change that is not talk sends nothing. -/
theorem Change.silent {o : Oracle} {label : Label} {s s' : State} (change : Change o label s s')
    (quiet : label ≠ .talk) : Journal.Grows Event.silent s.world.log s'.world.log := by
  cases change with
  | talk => exact absurd rfl quiet
  | provision still => exact still.world.log.mono fun _ absurdity => absurdity.elim
  | renew _ _ _ _ _ _ log renewal =>
      refine ⟨_, log, fun event member => ?_⟩
      rcases List.mem_cons.mp member with rfl | inside
      · trivial
      · cases renewal.1 event inside <;> trivial
  | waste _ _ _ _ log => exact log ▸ .refl _ _
  | grant _ _ _ _ _ _ _ _ _ log =>
      exact ⟨_, log, fun event member => by rw [List.mem_singleton.mp member]; trivial⟩
  | finish _ _ _ _ _ log =>
      exact ⟨_, log, fun event member => by rw [List.mem_singleton.mp member]; trivial⟩
  | extend _ _ _ _ _ log => exact log ▸ .refl _ _

theorem Checks.silent {o : Oracle} {request : AttachRequest} {s s' : State} (checks : Checks o request s s') :
    s'.world.log = s.world.log := by
  obtain ⟨m, provides, -, reads⟩ := checks
  rw [reads.log]
  cases provides with
  | same unchanged => rw [unchanged]
  | tried _ _ _ moved => rw [moved]
  | added _ _ _ _ _ grown =>
      rw [grown]
      rfl

theorem Renews.silent {o : Oracle} {role : Role} {index : Nat} {s s' : State} {streamId : UInt32}
    (renews : Renews o role index s s') (found : findStream s.streams streamId = some index) :
    Journal.Grows Event.silent s.world.log s'.world.log := by
  cases renews with
  | kept unchanged => exact unchanged ▸ .refl _ _
  | renewed _ _ _ _ _ change => exact (change streamId found).silent (by simp)

/-- A request is refused or granted before any message about it. -/
theorem grantAttach_silent {o : Oracle} {request : AttachRequest} {s s' : State} {outcome : Except Rejection Grant}
    (run : (grantAttach o request).exec s = (outcome, s')) :
    Journal.Grows Event.silent s.world.log s'.world.log := by
  cases outcome with
  | error rejection =>
      cases grantAttach_error run with
      | checks left => exact left.silent ▸ .refl _ _
      | epoch admission streamId m checks _ found renews => exact checks.silent ▸ renews.silent found
      | lease admission streamId m r checks _ found renews change =>
          exact (checks.silent ▸ renews.silent found).trans (change.silent (by simp))
  | ok grant =>
      obtain ⟨admission, streamId, m, r, -, granted⟩ := grantAttach_ok run
      exact (granted.checks.silent ▸ granted.renews.silent granted.found).trans (granted.change.silent (by simp))

/-- The answers are read from the part that the log gained. -/
theorem newAnswers_eq {s s' : State} {events : List Event} (grown : s'.world.log = s.world.log ++ events) :
    newAnswers s s' = events.filterMap Event.answer := by
  rw [newAnswers, grown, List.drop_left]

theorem answers_of_grows {allowed : Event → Prop} {log log' : List Event} (growth : Journal.Grows allowed log log')
    (silent : ∀ event, allowed event → event.answer = none) :
    ∃ events, log' = log ++ events ∧ events.filterMap Event.answer = [] := by
  obtain ⟨events, grown, admitted⟩ := growth
  exact ⟨events, grown, List.filterMap_eq_nil_iff.mpr fun event member => silent event (admitted event member)⟩

/-- A refused request grants nothing. -/
theorem refused_answers {o : Oracle} {request : AttachRequest} {s s' : State} {rejection : Rejection}
    (run : (grantAttach o request).exec s = (.error rejection, s')) :
    newAnswers s (handleAttach o request s).2 = [] := by
  obtain ⟨early, earlyLog, noEarly⟩ := answers_of_grows (grantAttach_silent run) fun _ => answer_of_silent
  have growth : World.Grows (fun event => event.answer = none) s'.world
      (sendAttachRefused o request.correlationId rejection.code rejection.message s'.world).2 :=
    sendAttachRefused_grows fun response result empty => by
      rw [Event.answer, empty]
      split <;> rfl
  obtain ⟨late, lateLog, noLate⟩ := answers_of_grows growth.log fun _ => id
  rw [handleAttach_error run]
  rw [earlyLog, List.append_assoc] at lateLog
  rw [newAnswers_eq lateLog, List.filterMap_append, noEarly, noLate, List.append_nil]

/-- The body of a response carries its lease. -/
theorem encodeAttachBody_lease {o : Oracle} {config : Config} {stream : StreamState} {lease : Lease}
    {requireHugepages : Bool} {body : AttachBody} {position : Nat}
    (encoded : encodeAttachBody o config stream lease requireHugepages = some (body, position)) :
    body.leaseId = lease.leaseId := by
  simp only [encodeAttachBody, Option.bind_eq_bind, Option.bind_eq_some_iff, Option.some.injEq,
    Prod.exists, Prod.mk.injEq] at encoded
  obtain ⟨profile, -, bodies, uri, place, -, rfl, -⟩ := encoded
  rfl

/-- The response answers when it is encoded and the publication accepts it. -/
theorem sendAttachGranted_answers (o : Oracle) (config : Config) (correlationId : Int) (stream : StreamState)
    (lease : Lease) (requireHugepages : Bool) (w : World) (leaseId : UInt64) :
    ∃ events, (sendAttachGranted o config correlationId stream lease requireHugepages w).2.log = w.log ++ events ∧
      (leaseId ∈ events.filterMap Event.answer ↔ leaseId = lease.leaseId ∧
        (encodeAttachBody o config stream lease requireHugepages).isSome = true ∧ 0 ≤ o.offer w.calls) := by
  unfold sendAttachGranted
  rcases encoded : encodeAttachBody o config stream lease requireHugepages with _ | ⟨body, position⟩
  · exact ⟨[], (List.append_nil _).symm, by simp⟩
  · refine ⟨[_], rfl, ?_⟩
    have carried := encodeAttachBody_lease encoded
    rw [List.filterMap_cons, List.filterMap_nil]
    by_cases accepted : 0 ≤ o.offer w.calls <;> simp [Event.answer, accepted, carried]

/-- The announce in between does not change what the response says. -/
theorem announce_encodes {o : Oracle} {s : State} {index : Nat} {lease : Lease} {requireHugepages : Bool}
    (inside : index < s.streams.length) :
    encodeAttachBody o (s.announce o index requireHugepages).config
        ((s.announce o index requireHugepages).streamAt index) lease requireHugepages =
      encodeAttachBody o s.config (s.streamAt index) lease requireHugepages := by
  obtain ⟨announcedNs, stamped⟩ := sendAnnounce_stream o s.config (s.streamAt index) requireHugepages s.world
  rw [State.announce]
  dsimp only
  rw [streamAt_setStream inside, stamped]
  rfl

/-- The answer of a granted request is its response. -/
theorem granted_answers {o : Oracle} {request : AttachRequest} {s granted : State} {grant : Grant}
    (run : (grantAttach o request).exec s = (.ok grant, granted)) (leaseId : UInt64) :
    leaseId ∈ newAnswers s (handleAttach o request s).2 ↔ leaseId = grant.lease.leaseId ∧
      RegionsEncode o granted.config (granted.streamAt grant.index) grant.requireHugepages
        (messageHeaderLength + attachResponseBlockLength) ∧
      0 ≤ o.offer (granted.announce o grant.index grant.requireHugepages).world.calls := by
  obtain ⟨admission, streamId, m, r, same, commits⟩ := grantAttach_ok run
  have inside : grant.index < granted.streams.length := same ▸ (findStream_inside commits.active.1).1
  obtain ⟨early, earlyLog, noEarly⟩ := answers_of_grows (grantAttach_silent run) fun _ => answer_of_silent
  obtain ⟨middle, middleLog, noMiddle⟩ := answers_of_grows
    (announce_log o granted grant.index grant.requireHugepages).log (by
      rintro _ ⟨announce, result, rfl⟩
      rfl)
  obtain ⟨late, lateLog, answers⟩ := sendAttachGranted_answers o
    (granted.announce o grant.index grant.requireHugepages).config request.correlationId
    ((granted.announce o grant.index grant.requireHugepages).streamAt grant.index) grant.lease
    grant.requireHugepages (granted.announce o grant.index grant.requireHugepages).world leaseId
  rw [middleLog, earlyLog, List.append_assoc, List.append_assoc] at lateLog
  rw [handleAttach_ok run, newAnswers_eq lateLog, List.filterMap_append, List.filterMap_append, noEarly, noMiddle,
    List.nil_append, List.nil_append, answers, announce_encodes inside, encodeAttachBody_some]

/-- The answer to a granted request leaves the table to the grant. -/
theorem handleAttach_adds {o : Oracle} {request : AttachRequest} {s granted : State} {grant : Grant}
    (run : (grantAttach o request).exec s = (.ok grant, granted)) :
    (handleAttach o request s).2.leases = s.leases ++ [grant.lease] := by
  have added : granted.leases = s.leases ++ [grant.lease] := grantAttach_adds run
  rw [handleAttach_ok run]
  exact added

/-- A granted request records its lease for a client that had none. -/
theorem granted_records {o : Oracle} {request : AttachRequest} {s granted : State} {grant : Grant}
    (run : (grantAttach o request).exec s = (.ok grant, granted)) (leaseId : UInt64) :
    (∃ lease ∈ (handleAttach o request s).2.leases, lease ∉ s.leases ∧ lease.clientId = request.clientId ∧
      lease.leaseId = leaseId) ↔ leaseId = grant.lease.leaseId := by
  obtain ⟨admission, streamId, m, r, same, commits⟩ := grantAttach_ok run
  obtain ⟨keptLeases, -⟩ := commits.checks.leftover
  have fresh (lease : Lease) (member : lease ∈ s.leases) : lease.clientId ≠ request.clientId :=
    commits.admitted.client.2 lease (keptLeases ▸ member)
  rw [handleAttach_adds run]
  constructor
  · rintro ⟨lease, member, new, -, rfl⟩
    rcases List.mem_append.mp member with old | last
    · exact absurd old new
    · rw [List.mem_singleton.mp last]
  · rintro rfl
    exact ⟨grant.lease, by simp, fun old => fresh _ old commits.client, commits.client, rfl⟩

/--
A lease is recorded exactly when it is granted by a response, if and only if the response of a granted
request can be encoded and the publication accepts it.
-/
theorem recordedIffAnswered_iff (o : Oracle) (request : AttachRequest) (s : State) :
    RecordedIffAnswered o request s ↔ AnswerGoesOut o request s := by
  rcases run : (grantAttach o request).exec s with ⟨rejection | grant, granted⟩
  · have kept : (handleAttach o request s).2.leases = s.leases := by
      rw [handleAttach_error run]
      exact (grantAttach_leftover run).leases
    constructor
    · intro _ grant granted' outcome
      rw [run] at outcome
      cases outcome
    · intro _ leaseId
      rw [refused_answers run, kept]
      constructor
      · rintro ⟨lease, member, new, -⟩
        exact absurd member new
      · intro absurdity
        cases absurdity
  · constructor
    · intro agrees grant' granted' outcome
      rw [run] at outcome
      cases outcome
      have recorded := (granted_records run grant.lease.leaseId).mpr rfl
      exact ((granted_answers run grant.lease.leaseId).mp ((agrees grant.lease.leaseId).mp recorded)).2
    · intro goesOut leaseId
      rw [granted_records run, granted_answers run]
      constructor
      · intro same
        exact ⟨same, goesOut grant granted run⟩
      · intro answered
        exact answered.1

/-- In this environment the publication accepts nothing. -/
def pressedOracle : Oracle := { plainOracle with offer := fun _ => -2 }

/-- The stream of this driver has so many pools. -/
def wideConfig (count : Nat) : Config :=
  { plainConfig with streams := [{ streamId := 1, profile := some { plainProfile with
      pools := (List.range count).map fun n => { poolId := n.toUInt16, strideBytes := 64 } } }] }

/-- A refused offer leaves a lease that no response granted, and so does a last pool without room for its block. -/
theorem recorded_unanswered :
    ¬ RecordedIffAnswered pressedOracle (plainRequest 1 .producer) (boot pressedOracle plainConfig false) ∧
      ¬ RecordedIffAnswered plainOracle (plainRequest 1 .producer) (boot plainOracle (wideConfig 25) false) := by
  constructor
  · intro agrees
    have answered := (agrees 6).mp ⟨plainLease 6 1 .producer, by decide +kernel⟩
    exact absurd answered (by decide +kernel)
  · intro agrees
    have answered := (agrees 6).mp ⟨plainLease 6 1 .producer, by decide +kernel⟩
    exact absurd answered (by decide +kernel)

end TensorPool.Driver
