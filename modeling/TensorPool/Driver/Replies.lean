/-
This file says which step of the driver answers a request to attach.
-/

import TensorPool.Driver.Honour

namespace TensorPool.Driver

open Attempt

/-- The whole text is in the message. -/
structure VarAscii.Sent (field : VarAscii) : Prop where
  whole : field.put = .whole
  short : strlen field.text ≤ bufferLength

/-- The event is no response to a request to attach, and another message has its whole text. -/
def Event.unanswering : Event → Prop
  | .offered (.attachResponse _) _ => False
  | .offered (.detachResponse response) _ => response.errorMessage.Sent
  | .offered (.leaseRevoked notice) _ => notice.errorMessage.Sent
  | _ => True

/-- A text that fits is put as a whole. -/
theorem putVarData_sent {limit position : Nat} {text : String} (inside : limit ≤ bufferLength)
    (fits : position + (4 + strlen text) ≤ limit) : (putVarData limit position text).1.Sent :=
  ⟨putVarData_whole.mpr fits, by rw [putVarData_text]; omega⟩

/-- The events of the regions answer nothing. -/
theorem unanswering_region {streamId : UInt32} {epoch : UInt64} {files : List RegionFile} {event : Event}
    (region : RegionEvent streamId epoch files event) : event.unanswering := by
  cases region <;> trivial

/-- The renewal of a stream answers nobody. -/
theorem fenceStream_unanswering (o : Oracle) (index : Nat) (s : State) :
    World.Grows Event.unanswering s.world (fenceStream o index s).world := by
  have bumped : World.Grows Event.unanswering s.world (bumpEpoch o (s.streamAt index) s.world).2 := by
    rw [bumpEpoch_eq]
    exact .call_record trivial _
  unfold fenceStream
  rcases result : bumpEpoch o (s.streamAt index) s.world with ⟨raised, w⟩
  rw [result] at bumped
  have created := (createShmEpoch_grows o s.config raised w).mono fun _ => unanswering_region
  dsimp only
  rcases outcome : createShmEpoch o s.config raised w with ⟨complete, stream, w'⟩
  rw [outcome] at created
  have grown : World.Grows Event.unanswering s.world (s.setStream index stream w').world := bumped.trans created
  dsimp only
  split
  · refine grown.trans ((announce_log o (s.setStream index stream w') index stream.requireHugepages).mono ?_)
    rintro _ ⟨announce, result, rfl⟩
    trivial
  · exact grown

/-- The fence answers no attach. -/
theorem fenceFreed_unanswering (o : Oracle) (isProducer : Bool) (stream : Option Nat) (s : State) :
    World.Grows Event.unanswering s.world (fenceFreed o isProducer stream s).world := by
  cases stream with
  | none => exact .refl _ _
  | some index =>
      change World.Grows _ s.world (if isProducer then fenceStream o index s else s).world
      split
      · exact fenceStream_unanswering o index s
      · exact .refl _ _

/-- A revocation answers no attach. -/
theorem revokeLease_unanswering (o : Oracle) (lease : Lease) (reason : LeaseRevokeReason) (text : String) (s : State)
    (short : strlen text ≤ 64) : World.Grows Event.unanswering s.world (revokeLease o lease reason text s).world := by
  unfold revokeLease sendLeaseRevoked
  have sent : (putVarData 512 (messageHeaderLength + leaseRevokedBlockLength) text).1.Sent :=
    putVarData_sent (by decide) (Nat.le_trans (Nat.add_le_add_left (Nat.add_le_add_left short 4) _) (by decide))
  exact (World.Grows.called _ s.world).trans (sendControl_grows fun _ => sent)

/-- The end of a lease records itself. -/
theorem endLease_unanswering (o : Oracle) (index : Nat) (stream : Option Nat) (lease : Lease) (atNs : UInt64)
    (s : State) : World.Grows Event.unanswering s.world (endLease o index stream lease atNs s).world := by
  obtain ⟨-, -, -, -, log, calls⟩ := recordNodeIdCooldown_frame o lease.nodeId atNs s
  obtain ⟨-, -, -, -, world⟩ := releaseProducer_frame stream lease (recordNodeIdCooldown o lease.nodeId atNs s)
  have cooled : World.Grows Event.unanswering s.world (recordNodeIdCooldown o lease.nodeId atNs s).world :=
    ⟨calls, by rw [log]; exact .refl _ _⟩
  change World.Grows _ s.world
    ((releaseProducer stream lease (recordNodeIdCooldown o lease.nodeId atNs s)).world.record
      (.leaseEnded lease atNs))
  rw [world]
  exact cooled.trans (.record trivial _)

/-- The answer to a detach answers no attach. -/
theorem respondDetach_unanswering (o : Oracle) (request : DetachRequest) (code : ResponseCode) (text : String)
    (s : State) (short : strlen text ≤ 64) :
    World.Grows Event.unanswering s.world (respondDetach o request code text s).2.world := by
  unfold respondDetach sendDetachResponse
  have sent : (putVarData 512 (messageHeaderLength + detachResponseBlockLength) text).1.Sent :=
    putVarData_sent (by decide) (Nat.le_trans (Nat.add_le_add_left (Nat.add_le_add_left short 4) _) (by decide))
  exact sendControl_grows fun _ => sent

/-- A detach answers no attach. -/
theorem handleDetach_unanswering (o : Oracle) (request : DetachRequest) (s : State) :
    World.Grows Event.unanswering s.world (handleDetach o request s).2.world := by
  unfold handleDetach
  dsimp only
  split
  · exact respondDetach_unanswering o request _ _ s (by decide +kernel)
  · split
    · exact respondDetach_unanswering o request _ _ s (by decide +kernel)
    next index lease _ =>
      have revoked := revokeLease_unanswering o lease .detached "lease detached" s (by decide +kernel)
      generalize revokeLease o lease .detached "lease detached" s = m at revoked ⊢
      have ended := endLease_unanswering o index (findStream s.streams request.streamId) lease (o.clock m.world.calls)
        { m with world := m.world.called }
      have freed := ended.trans (fenceFreed_unanswering o ((0 : UInt8) == Role.producer.code)
        (findStream s.streams request.streamId) _)
      exact (revoked.trans (.called _ m.world)).trans
        (freed.trans (respondDetach_unanswering o request .ok "" _ (by decide +kernel)))

/-- A keepalive answers no attach. -/
theorem handleKeepalive_unanswering (o : Oracle) (request : LeaseKeepalive) (s : State) :
    World.Grows Event.unanswering s.world (handleKeepalive o request s).world := by
  unfold handleKeepalive
  split
  · exact .refl _ _
  · split
    · exact .refl _ _
    · exact .called _ _

theorem expireLease_unanswering (o : Oracle) (now : UInt64) (index : Nat) (lease : Lease) (s : State) :
    World.Grows Event.unanswering s.world (expireLease o now index lease s).world :=
  (revokeLease_unanswering o lease .expired "lease expired" s (by decide +kernel)).trans
    ((endLease_unanswering o index _ lease now _).trans (fenceFreed_unanswering o _ _ _))

/-- The expiry answers no attach. -/
theorem expireLoop_unanswering (o : Oracle) (now : UInt64) (remaining index : Nat) (s : State) :
    World.Grows Event.unanswering s.world (expireLoop o now remaining index s).world := by
  induction remaining generalizing index s with
  | zero => exact .refl _ _
  | succ remaining hypothesis =>
      unfold expireLoop
      split
      · exact .refl _ _
      next lease _ =>
        split
        · exact (expireLease_unanswering o now index lease s).trans (hypothesis index _)
        · exact hypothesis (index + 1) s

/-- The announces answer no attach. -/
theorem announceTick_unanswering (o : Oracle) (s : State) :
    World.Grows Event.unanswering s.world (announceTick o s).world := by
  have each (indices : List Nat) (m : State) :
      World.Grows Event.unanswering m.world (indices.foldl (announceStream o) m).world := by
    induction indices generalizing m with
    | nil => exact .refl _ _
    | cons index rest hypothesis =>
        rw [List.foldl_cons]
        refine World.Grows.trans ?_ (hypothesis (announceStream o m index))
        unfold announceStream
        split
        · refine (announce_log o m index _).mono ?_
          rintro _ ⟨announce, result, rfl⟩
          trivial
        · exact .refl _ _
  rw [announceTick, apply_ite State.world]
  split
  · exact (World.Grows.called _ s.world).trans (each _ { s with world := s.world.called })
  · exact .called _ _

/-- Only a request to attach is answered with an attach response. -/
theorem step_unanswering (o : Oracle) (s : State) {op : Op} (calm : op.attaches = false) :
    World.Grows Event.unanswering s.world (step o s op).world := by
  cases op with
  | attach request => cases calm
  | detach request => exact handleDetach_unanswering o request s
  | keepalive request => exact handleKeepalive_unanswering o request s
  | expire => exact (World.Grows.called _ _).trans (expireLoop_unanswering o _ _ 0 { s with world := s.world.called })
  | announce => exact announceTick_unanswering o s

/-- The body of a response carries the fields of its lease. -/
structure Carries (body : AttachBody) (lease : Lease) : Prop where
  leaseId : body.leaseId = lease.leaseId
  expiry : body.leaseExpiryTimestampNs = lease.expiryNs
  streamId : body.streamId = lease.streamId
  nodeId : body.nodeId = lease.nodeId

/-- The body was encoded for its stream, and the error text of an `OK` response, an empty one, behind it. -/
def Fitted (o : Oracle) (body : AttachBody) (errorMessage : VarAscii) : Prop :=
  ∃ config stream lease requireHugepages position,
    encodeAttachBody o config stream lease requireHugepages = some (body, position) ∧
      errorMessage = (putVarData bufferLength position "").1

/-- An `OK` response follows the grant that it carries, which has the client and the role of the request. -/
structure Confirms (o : Oracle) (request : AttachRequest) (response : AttachResponse) (events : List Event) :
    Prop where
  correlationId : response.correlationId = request.correlationId
  refused : response.code ≠ .ok →
    response.body = none ∧ response.errorMessage.Sent
  granted : response.code = .ok → ∃ body lease checkedNs, response.body = some body ∧
    Fitted o body response.errorMessage ∧
    .leaseGranted lease checkedNs ∈ events ∧ Carries body lease ∧
    lease.clientId = request.clientId ∧ request.role = some lease.role

/-- The body of a grant has the fields of its stream and its lease. -/
theorem encodeAttachBody_fields {o : Oracle} {config : Config} {stream : StreamState} {lease : Lease}
    {requireHugepages : Bool} {body : AttachBody} {position : Nat}
    (encoded : encodeAttachBody o config stream lease requireHugepages = some (body, position))
    (same : stream.streamId = lease.streamId) : Carries body lease := by
  simp only [encodeAttachBody, Option.bind_eq_bind, Option.bind_eq_some_iff, Option.some.injEq,
    Prod.exists, Prod.mk.injEq] at encoded
  obtain ⟨profile, -, bodies, uri, place, -, rfl, -⟩ := encoded
  exact ⟨rfl, rfl, same, rfl⟩

/-- A refused request is answered with its own correlation id and another code. -/
theorem refused_confirms {o : Oracle} {request : AttachRequest} {s s' : State} {rejection : Rejection}
    (run : (grantAttach o request).exec s = (.error rejection, s')) {response : AttachResponse} {result : Int}
    (sent : .offered (.attachResponse response) result ∈ newEvents s (handleAttach o request s).2) :
    Confirms o request response (newEvents s (handleAttach o request s).2) := by
  obtain ⟨early, earlyLog, silent⟩ := grantAttach_silent run
  have growth : World.Grows (fun event => ∀ answer result, event = .offered (.attachResponse answer) result →
      answer.correlationId = request.correlationId ∧ answer.code = rejection.code ∧ answer.body = none ∧
        answer.errorMessage.Sent) s'.world
      (sendAttachRefused o request.correlationId rejection.code rejection.message s'.world).2 := by
    unfold sendAttachRefused
    refine sendControl_grows fun result answer other same => ?_
    cases same
    exact ⟨rfl, rfl, rfl, putVarData_sent (Nat.le_refl _)
      (Nat.le_trans (Nat.add_le_add_left (Nat.add_le_add_left (grantAttach_text run) 4) _) (by decide))⟩
  obtain ⟨late, lateLog, answers⟩ := growth.log
  have last : ∃ result, .offered (.attachResponse response) result ∈ late := by
    rw [handleAttach_error run, newEvents] at sent
    dsimp only at sent
    rw [lateLog, earlyLog, List.append_assoc, List.drop_left, List.mem_append] at sent
    rcases sent with talk | last
    · exact (silent _ talk).elim
    · exact ⟨result, last⟩
  obtain ⟨result', last⟩ := last
  obtain ⟨same, code, refused⟩ := answers _ last response result' rfl
  refine ⟨same, fun _ => refused, fun ok => absurd ok ?_⟩
  rw [code]
  exact grantAttach_refusal run

/-- The response to a granted request carries the lease that was granted. -/
theorem granted_confirms {o : Oracle} {request : AttachRequest} {s s' : State} {grant : Grant}
    (run : (grantAttach o request).exec s = (.ok grant, s')) {response : AttachResponse} {result : Int}
    (sent : .offered (.attachResponse response) result ∈ newEvents s (handleAttach o request s).2) :
    Confirms o request response (newEvents s (handleAttach o request s).2) := by
  obtain ⟨admission, streamId, m, r, same, granted⟩ := grantAttach_ok run
  obtain ⟨-, -, -, -, -, shown, -⟩ := grantAttach_taken run
  have inside : grant.index < s'.streams.length := same ▸ (findStream_inside granted.active.1).1
  obtain ⟨announcedNs, stamped⟩ := sendAnnounce_stream o s'.config (s'.streamAt grant.index)
    grant.requireHugepages s'.world
  have named : ((s'.announce o grant.index grant.requireHugepages).streamAt grant.index).streamId =
      grant.lease.streamId := by
    rw [State.announce]
    dsimp only
    rw [streamAt_setStream inside, stamped]
    exact shown
  have growth : World.Grows (fun event => ∀ answer result, event = .offered (.attachResponse answer) result →
      answer.correlationId = request.correlationId ∧ answer.code = .ok ∧
        ∃ body, answer.body = some body ∧ Fitted o body answer.errorMessage ∧ Carries body grant.lease)
      (s'.announce o grant.index grant.requireHugepages).world
      (sendAttachGranted o (s'.announce o grant.index grant.requireHugepages).config request.correlationId
        ((s'.announce o grant.index grant.requireHugepages).streamAt grant.index) grant.lease
        grant.requireHugepages (s'.announce o grant.index grant.requireHugepages).world).2 := by
    unfold sendAttachGranted
    split
    · exact .refl _ _
    next body position encoded =>
      refine sendControl_grows fun result answer other alike => ?_
      cases alike
      exact ⟨rfl, rfl, body, rfl, ⟨_, _, _, _, _, encoded, rfl⟩, encodeAttachBody_fields encoded named⟩
  obtain ⟨early, earlyLog, silent⟩ := grantAttach_silent run
  obtain ⟨middle, middleLog, announces⟩ := (announce_log o s' grant.index grant.requireHugepages).log
  obtain ⟨late, lateLog, answers⟩ := growth.log
  obtain ⟨atNs, grantLog, -⟩ := granted.log
  have recorded : .leaseGranted grant.lease atNs ∈ early := by
    obtain ⟨renewal, renewalLog, -⟩ := granted.checks.silent ▸ granted.renews.silent granted.found
    rw [grantLog, renewalLog, List.append_assoc] at earlyLog
    rw [← List.append_cancel_left earlyLog]
    exact List.mem_append_right _ (List.mem_singleton.mpr rfl)
  rw [handleAttach_ok run, newEvents] at sent ⊢
  dsimp only at sent ⊢
  rw [lateLog, middleLog, earlyLog, List.append_assoc, List.append_assoc, List.drop_left] at sent ⊢
  simp only [List.mem_append] at sent
  rcases sent with talk | talk | last
  · exact (silent _ talk).elim
  · obtain ⟨announce, other, differs⟩ := announces _ talk
    cases differs
  · obtain ⟨correlated, ok, body, carried, fitted, carries⟩ := answers _ last response result rfl
    refine ⟨correlated, fun refused => absurd ok refused, fun _ => ⟨body, grant.lease, atNs, carried, fitted,
      List.mem_append_left _ recorded, carries, granted.client, ?_⟩⟩
    rw [granted.role]
    exact granted.admitted.role

/-- Every response to a request to attach is sent by the step that handles the request, with its correlation id. -/
theorem step_confirms {o : Oracle} {s : State} {op : Op} {response : AttachResponse} {result : Int}
    (sent : .offered (.attachResponse response) result ∈ newEvents s (step o s op)) :
    ∃ request, op = .attach request ∧ Confirms o request response (newEvents s (step o s op)) := by
  cases calm : op.attaches with
  | false =>
      obtain ⟨events, grown, unanswering⟩ := (step_unanswering o s calm).log
      rw [newEvents, grown, List.drop_left] at sent
      exact (unanswering _ sent).elim
  | true =>
      cases op with
      | attach request =>
          refine ⟨request, rfl, ?_⟩
          rcases run : (grantAttach o request).exec s with ⟨rejection | grant, s'⟩
          · exact refused_confirms run sent
          · exact granted_confirms run sent
      | _ => cases calm

/-- The event is an answer to the request, or an announce, or no message. -/
def Event.attachTalk : Event → Prop
  | .offered (.attachResponse _) _ => True
  | .offered (.poolAnnounce _) _ => True
  | .offered _ _ => False
  | _ => True

theorem attachTalk_silent {event : Event} (silent : event.silent) : event.attachTalk := by
  cases event <;> trivial

/-- A request to attach leads to no other message than its answer and an announce. -/
theorem handleAttach_talk (o : Oracle) (request : AttachRequest) (s : State) :
    Journal.Grows Event.attachTalk s.world.log (handleAttach o request s).2.world.log := by
  rcases run : (grantAttach o request).exec s with ⟨rejection | grant, s'⟩
  · have growth : World.Grows Event.attachTalk s'.world
        (sendAttachRefused o request.correlationId rejection.code rejection.message s'.world).2 :=
      sendAttachRefused_grows fun _ _ _ => trivial
    rw [handleAttach_error run]
    exact ((grantAttach_silent run).mono fun _ => attachTalk_silent).trans growth.log
  · have announced : World.Grows Event.attachTalk s'.world
      (s'.announce o grant.index grant.requireHugepages).world := by
      refine (announce_log o s' grant.index grant.requireHugepages).mono ?_
      rintro _ ⟨announce, result, rfl⟩
      trivial
    have answered (config : Config) (stream : StreamState) (w : World) : World.Grows Event.attachTalk w
        (sendAttachGranted o config request.correlationId stream grant.lease grant.requireHugepages w).2 :=
      sendAttachGranted_grows fun _ _ _ _ _ _ => trivial
    rw [handleAttach_ok run]
    exact ((grantAttach_silent run).mono fun _ => attachTalk_silent).trans (announced.trans (answered _ _ _)).log

/-- What the driver guarantees of each message that it offers. -/
def Sendable (o : Oracle) : Message → Prop
  | .attachResponse response =>
      (response.code ≠ .ok → response.body = none ∧ response.errorMessage.Sent) ∧
      (response.code = .ok → ∃ body, response.body = some body ∧ Fitted o body response.errorMessage)
  | .detachResponse response => response.errorMessage.Sent
  | .leaseRevoked notice => notice.errorMessage.Sent
  | .poolAnnounce _ => True

/-- Each message that a step offers can be sent. -/
theorem step_sendable {o : Oracle} {s : State} {op : Op} {message : Message} {result : Int}
    (sent : .offered message result ∈ newEvents s (step o s op)) : Sendable o message := by
  have others (different : ∀ response, message ≠ .attachResponse response) : Sendable o message := by
    cases calm : op.attaches with
    | false =>
        obtain ⟨events, grown, unanswering⟩ := (step_unanswering o s calm).log
        rw [newEvents, grown, List.drop_left] at sent
        have plain := unanswering _ sent
        cases message with
        | attachResponse response => exact absurd rfl (different response)
        | detachResponse response => exact plain
        | leaseRevoked notice => exact plain
        | poolAnnounce announce => trivial
    | true =>
        cases op with
        | attach request =>
            obtain ⟨events, grown, talk⟩ := handleAttach_talk o request s
            rw [newEvents, step, grown, List.drop_left] at sent
            have plain := talk _ sent
            cases message with
            | attachResponse response => exact absurd rfl (different response)
            | detachResponse response => exact plain.elim
            | leaseRevoked notice => exact plain.elim
            | poolAnnounce announce => trivial
        | _ => cases calm
  cases message with
  | attachResponse response =>
      obtain ⟨request, -, confirms⟩ := step_confirms sent
      refine ⟨confirms.refused, fun ok => ?_⟩
      obtain ⟨body, lease, checkedNs, carried, fitted, -⟩ := confirms.granted ok
      exact ⟨body, carried, fitted⟩
  | detachResponse response => exact others fun _ same => by cases same
  | leaseRevoked notice => exact others fun _ same => by cases same
  | poolAnnounce announce => trivial

/-- A new driver has sent nothing. -/
theorem boot_silent (o : Oracle) (config : Config) (started : Bool) {message : Message} {result : Int} :
    .offered message result ∉ (boot o config started).world.log := by
  cases started with
  | false => exact List.not_mem_nil
  | true =>
      change _ ∉ (start o (init config)).world.log
      have collected : World.Grows (fun event => ∀ message result, event ≠ .offered message result)
          (init config).world (start o (init config)).world := by
        unfold start
        dsimp only
        split
        · refine List.foldlRecOn _ _ (World.Grows.called _ _) fun w growth stream member => growth.trans ?_
          refine (gcStream_grows o _ stream [] w).mono fun event region message result same => ?_
          rw [same] at region
          cases region
        · exact .called _ _
      obtain ⟨events, grown, quiet⟩ := collected.log
      intro present
      rw [grown] at present
      exact quiet _ present message result rfl

/-- A step only adds to the log. -/
theorem step_log {o : Oracle} {s : State} (tidy : Tidy s) (op : Op) :
    (step o s op).world.log = s.world.log ++ newEvents s (step o s op) := by
  obtain ⟨events, grown⟩ := (run_later (o := o) tidy [op]).log
  rw [run_cons, run_nil] at grown
  rw [newEvents, ← grown, List.drop_left]

/-- Every message of every run is one that the driver can send. -/
theorem run_sendable (o : Oracle) (config : Config) (started : Bool) (ops : List Op) {message : Message}
    {result : Int} (sent : .offered message result ∈ (run o (boot o config started) ops).world.log) :
      Sendable o message := by
  induction ops using List.reverseRecOn with
  | nil => exact absurd sent (boot_silent o config started)
  | append_singleton ops op hypothesis =>
      rw [run_append, run_cons, run_nil, step_log (run_tidy (boot_tidy o config started) ops),
        List.mem_append] at sent
      exact sent.elim hypothesis step_sendable

end TensorPool.Driver
