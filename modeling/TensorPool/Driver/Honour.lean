/-
This file compares what a granted attach carries with what its request asked for.
-/

import TensorPool.Driver.Epochs

namespace TensorPool.Driver

open Attempt

/-- A policy that names a page size asks for this flag. -/
def HugepagesPolicy.flag : HugepagesPolicy → Option Bool
  | .hugepages => some true
  | .standard => some false
  | _ => none

/-- An absent policy is unspecified. -/
def AttachRequest.pagesFlag (request : AttachRequest) : Option Bool :=
  (request.requireHugepages.getD .unspecified).flag

/-- The parameter of a region URI with its value. -/
def flagText (requireHugepages : Bool) : String := if requireHugepages then "true" else "false"

/-- The last parameter of a region URI is its page size. -/
def CarriesFlag (requireHugepages : Bool) (uri : String) : Prop :=
  ∃ address, uri = address ++ "|require_hugepages=" ++ flagText requireHugepages

/-- A response names the header region and one region for each pool. -/
def AttachBody.regionUris (body : AttachBody) : List VarAscii :=
  body.headerRegionUri :: body.payloadPools.map PoolBody.regionUri

/-- A body and a lease carry what the request asked for. -/
structure Honours (request : AttachRequest) (body : AttachBody) (lease : Lease) : Prop where
  stream : request.streamId ≠ 0 → body.streamId = request.streamId ∧ lease.streamId = request.streamId
  layout : request.expectedLayoutVersion ≠ 0 → body.layoutVersion = request.expectedLayoutVersion
  node : request.desiredNodeId ≠ nullU32 →
    body.nodeId = request.desiredNodeId ∧ lease.nodeId = request.desiredNodeId
  pages : ∀ flag, request.pagesFlag = some flag → ∀ uri ∈ body.regionUris,
    uri.put = .whole ∧ CarriesFlag flag uri.text

/-- The driver answers the request with this `OK` response. -/
def AnswersOk (o : Oracle) (request : AttachRequest) (s : State) (response : AttachResponse) : Prop :=
  response.code = .ok ∧
    ∃ result, .offered (.attachResponse response) result ∈ newEvents s (handleAttach o request s).2

/-- The response has a body, and the body and the new lease of the client honour the request. -/
def GrantHonours (o : Oracle) (request : AttachRequest) (s : State) (response : AttachResponse) : Prop :=
  ∃ body lease, response.body = some body ∧
    (handleAttach o request s).2.leases = s.leases ++ [lease] ∧ lease.leaseId = body.leaseId ∧
    Honours request body lease

/-- A stream that already has an epoch keeps regions with the pages that the request names. -/
def PagesAgree (request : AttachRequest) (s : State) : Prop :=
  ∀ index, findStream s.streams request.streamId = some index → (s.streamAt index).epoch ≠ 0 →
    ∀ flag, request.pagesFlag = some flag → (s.streamAt index).requireHugepages = flag

/-- The URIs of a request with such a policy fit in the response for its granted stream. -/
def UrisFit (o : Oracle) (request : AttachRequest) (s : State) : Prop :=
  ∀ grant granted, (grantAttach o request).exec s = (.ok grant, granted) → request.pagesFlag ≠ none →
    RegionsFit o granted.config (granted.streamAt grant.index) grant.requireHugepages
      (messageHeaderLength + attachResponseBlockLength)

/-- The two values of the parameter end differently. -/
theorem CarriesFlag.unique {first second : Bool} {uri : String} (one : CarriesFlag first uri)
    (other : CarriesFlag second uri) : first = second := by
  obtain ⟨head, rfl⟩ := one
  obtain ⟨tail, same⟩ := other
  have letters := congrArg (fun text => text.toList.reverse) same
  cases first <;> cases second
  · rfl
  · simp [flagText] at letters
  · simp [flagText] at letters
  · rfl

theorem fitted_eq_some {text uri : String} (fits : fitted text = some uri) : uri = text := by
  unfold fitted at fits
  split at fits <;> cases fits
  rfl

theorem fitted_short {text uri : String} (fits : fitted text = some uri) : strlen uri < uriMaxLength := by
  unfold fitted at fits
  split at fits
  · cases fits
  next short =>
    cases fits
    exact Nat.lt_of_not_ge short

/-- A built URI carries the flag of its call. -/
theorem buildRegionUri_flag {o : Oracle} {config : Config} {streamId : UInt32} {epoch : UInt64} {poolId : UInt16}
    {regionType : RegionType} {requireHugepages : Bool} {uri : String}
    (built : buildRegionUri o config streamId epoch poolId regionType requireHugepages = some uri) :
    CarriesFlag requireHugepages uri := by
  simp only [buildRegionUri, Option.bind_eq_bind, Option.bind_eq_some_iff] at built
  obtain ⟨path, -, fits⟩ := built
  rw [fitted_eq_some fits]
  exact ⟨"shm:file?path=" ++ path, rfl⟩

theorem encodeRegions_flag {o : Oracle} {config : Config} {stream : StreamState} {profile : Profile}
    {requireHugepages : Bool} {start after : Nat} {bodies : List PoolBody} {header : VarAscii}
    (encoded : encodeRegions o config stream profile requireHugepages start = some (bodies, header, after)) :
    ∀ uri ∈ header :: bodies.map PoolBody.regionUri, CarriesFlag requireHugepages uri.text := by
  obtain ⟨_, _, -, inner, -⟩ := encodeRegions_some.mp encoded
  intro uri member
  rcases List.mem_cons.mp member with rfl | member
  · exact buildRegionUri_flag (encodeRegions_header encoded)
  · obtain ⟨body, present, rfl⟩ := List.mem_map.mp member
    obtain ⟨-, pool, made⟩ := encodePools_texts inner body present
    exact buildRegionUri_flag made

/-- The body of a response takes the names from the stream and the lease, and its flag from the call. -/
theorem encodeAttachBody_carries {o : Oracle} {config : Config} {stream : StreamState} {lease : Lease}
    {requireHugepages : Bool} {body : AttachBody} {position : Nat}
    (encoded : encodeAttachBody o config stream lease requireHugepages = some (body, position)) :
    body.leaseId = lease.leaseId ∧ body.streamId = stream.streamId ∧ body.layoutVersion = layoutVersion ∧
      body.nodeId = lease.nodeId ∧ (∀ uri ∈ body.regionUris, CarriesFlag requireHugepages uri.text) ∧
      ((∀ uri ∈ body.regionUris, uri.put = .whole) ↔
        RegionsFit o config stream requireHugepages (messageHeaderLength + attachResponseBlockLength)) := by
  simp only [encodeAttachBody, Option.bind_eq_bind, Option.bind_eq_some_iff, Option.some.injEq, Prod.exists,
    Prod.mk.injEq] at encoded
  obtain ⟨profile, known, bodies, header, place, regions, rfl, -⟩ := encoded
  refine ⟨rfl, rfl, rfl, rfl, encodeRegions_flag regions, ?_⟩
  rw [← encodeRegions_fit known regions, AttachBody.regionUris, List.forall_mem_cons, List.forall_mem_map]

/-- A created stream is the requested one or an unknown one, and it has no epoch. -/
theorem createStream_ok {o : Oracle} {request : AttachRequest} {s s' : State} {streamId : UInt32}
    (absent : findStream s.streams request.streamId = none)
    (run : (createStream o request).exec s = (.ok streamId, s')) :
    (request.streamId ≠ 0 → streamId = request.streamId) ∧ findStream s.streams streamId = none ∧
      ∃ stream, stream.epoch = 0 ∧ s'.streams = s.streams ++ [stream] := by
  rw [createStream, exec_get_bind, exec_stopIf_bind] at run
  split at run
  · cases run
  obtain ⟨chosen, m, choice, afterChoice⟩ := exec_bind_ok.mp run
  have picked : (request.streamId ≠ 0 → chosen = request.streamId) ∧ findStream s.streams chosen = none ∧
      m.streams = s.streams := by
    rw [chooseStreamId, exec_get_bind] at choice
    split at choice
    · cases choice
      exact ⟨fun _ => rfl, absent, rfl⟩
    next zero =>
      rcases allocated : allocateStreamId s.streams s.streamIdRanges with _ | ⟨fresh, ranges⟩
      · rw [allocated] at choice
        cases choice
      · rw [allocated] at choice
        dsimp only at choice
        rw [exec_set_bind] at choice
        cases choice
        exact ⟨fun named => absurd named zero, allocateStreamId_fresh allocated, rfl⟩
  obtain ⟨named, fresh, same⟩ := picked
  split at afterChoice
  · cases afterChoice
  obtain ⟨_, p, added, last⟩ := exec_bind_ok.mp afterChoice
  cases last
  rw [addStream, exec_get_bind] at added
  split at added
  · cases added
    refine ⟨named, fresh, _, ?_, by rw [same]⟩
    rfl
  · rw [exec_set_bind] at added
    cases added

/-- The stream phase takes the stream of the request, or one that was unknown and has no epoch. -/
theorem attachStream_chosen {o : Oracle} {request : AttachRequest} {s s' : State} {index : Nat}
    (run : (attachStream o request).exec s = (.ok index, s')) :
    (request.streamId ≠ 0 → (s'.streamAt index).streamId = request.streamId) ∧
      ((findStream s.streams request.streamId = some index ∧ s' = s) ∨
        (findStream s.streams request.streamId = none ∧ (s'.streamAt index).epoch = 0)) := by
  obtain ⟨streamId, m, resolved, used⟩ := exec_bind_ok.mp run
  have unchanged := usableStream_state used
  subst unchanged
  have found : findStream s'.streams streamId = some index := by
    rw [usableStream, exec_get_bind] at used
    rcases lookup : findStream s'.streams streamId with _ | place
    · rw [lookup] at used
      cases used
    · rw [lookup] at used
      dsimp only at used
      rw [exec_stopIf_bind] at used
      split at used <;> cases used
      rfl
  rw [(findStream_inside found).2]
  rw [resolveStream, exec_get_bind] at resolved
  split at resolved
  · cases resolved
    exact ⟨fun _ => rfl, .inl ⟨found, rfl⟩⟩
  next unknown =>
    have absent := Option.not_isSome_iff_eq_none.mp unknown
    obtain ⟨named, fresh, stream, blank, grown⟩ := createStream_ok absent resolved
    refine ⟨named, .inr ⟨absent, ?_⟩⟩
    rw [grown, findStream_concat, fresh, Option.none_or] at found
    split at found
    · cases found
      rw [streamAt_last grown]
      exact blank
    · cases found

/-- A request that names a page size gets it from the check of the directory. -/
theorem attachHugepages_flag {o : Oracle} {request : AttachRequest} {s s' : State} {asked flag : Bool}
    (run : (attachHugepages o request).exec s = (.ok asked, s')) (named : request.pagesFlag = some flag) :
    asked = flag := by
  rw [AttachRequest.pagesFlag] at named
  rw [attachHugepages, exec_get_bind] at run
  dsimp only at run
  generalize request.requireHugepages.getD .unspecified = policy at named run
  rw [exec_stopIf_bind] at run
  split at run
  · cases run
  · cases policy <;> cases named
    · rw [shouldRequireHugepages, if_neg (by decide), if_pos rfl, exec_set_bind, exec_stopIf_bind] at run
      split at run <;> cases run
      rfl
    · rw [shouldRequireHugepages, if_pos rfl, exec_set_bind, exec_stopIf_bind] at run
      split at run <;> cases run
      rfl

/-- What the checks took from a request that they admit. -/
structure Taken (request : AttachRequest) (admission : Admission) (s m : State) : Prop where
  layout : request.expectedLayoutVersion = 0 ∨ request.expectedLayoutVersion = layoutVersion
  named : request.streamId ≠ 0 → (m.streamAt admission.index).streamId = request.streamId
  chosen : (findStream s.streams request.streamId = some admission.index ∧
      m.streamAt admission.index = s.streamAt admission.index) ∨
    (findStream s.streams request.streamId = none ∧ (m.streamAt admission.index).epoch = 0)
  asked : ∀ flag, request.pagesFlag = some flag → admission.asked = flag

theorem attachChecks_taken {o : Oracle} {request : AttachRequest} {s s' : State} {admission : Admission}
    (run : (attachChecks o request).exec s = (.ok admission, s')) : Taken request admission s s' := by
  unfold attachChecks at run
  obtain ⟨role, m, admitted, afterRole⟩ := exec_bind_ok.mp run
  obtain ⟨rfl, -, -, -, layout⟩ := attachAdmit_ok.mp admitted
  obtain ⟨index, p, provided, afterStream⟩ := exec_bind_ok.mp afterRole
  obtain ⟨named, chosen⟩ := attachStream_chosen provided
  rw [exec_get_bind, exec_stopIf_bind] at afterStream
  split at afterStream
  · cases afterStream
  obtain ⟨asked, q, paged, afterPages⟩ := exec_bind_ok.mp afterStream
  obtain ⟨checkedNs, r, noded, afterNode⟩ := exec_bind_ok.mp afterPages
  obtain ⟨now, t, timed, afterClock⟩ := exec_bind_ok.mp afterNode
  cases afterClock
  have reads := ((attachHugepages_reads paged).trans (attachNodeId_reads noded)).trans (attachClock_ok timed)
  refine ⟨layout, ?_, ?_, fun _ => attachHugepages_flag paged⟩
  · rw [reads.streamAt]
    exact named
  · rw [reads.streamAt]
    rcases chosen with ⟨known, rfl⟩ | fresh
    · exact .inl ⟨known, rfl⟩
    · exact .inr fresh

/-- The lease takes the desired node. -/
theorem attachLease_node {o : Oracle} {request : AttachRequest} {role : Role} {index : Nat} {now checkedNs : UInt64}
    {s s' : State} {lease : Lease}
    (run : (attachLease o request role index now checkedNs).exec s = (.ok lease, s'))
    (desired : request.desiredNodeId ≠ nullU32) : lease.nodeId = request.desiredNodeId := by
  rw [attachLease, exec_get_bind] at run
  dsimp only at run
  rw [exec_set_bind] at run
  obtain ⟨⟨nodeId, atNs⟩, p, named, afterNode⟩ := exec_bind_ok.mp run
  rw [leaseNodeId, exec_get_bind, if_pos desired] at named
  cases named
  obtain ⟨_, q, added, afterTable⟩ := exec_bind_ok.mp afterNode
  rw [exec_get_bind, exec_set_bind] at afterTable
  cases afterTable
  rfl

/-- The flag of a grant is the recorded one of its stream or the asked one. -/
theorem attachEpoch_pages {o : Oracle} {role : Role} {index : Nat} {asked requireHugepages : Bool} {s s' : State}
    (run : (attachEpoch o role index asked).exec s = (.ok requireHugepages, s')) :
    requireHugepages = (s.streamAt index).pages asked := by
  rw [attachEpoch, exec_get_bind] at run
  dsimp only at run
  split at run
  · rw [exec_set_bind, exec_stopIf_bind] at run
    split at run <;> cases run
    rfl
  · cases run
    rfl

/-- A granted request was taken by the checks, and its grant follows them. -/
theorem grantAttach_taken {o : Oracle} {request : AttachRequest} {s s' : State} {grant : Grant}
    (run : (grantAttach o request).exec s = (.ok grant, s')) :
    ∃ admission m, Taken request admission s m ∧
      grant.requireHugepages = (m.streamAt admission.index).pages admission.asked ∧
      (request.streamId ≠ 0 → grant.lease.streamId = request.streamId) ∧
      (s'.streamAt grant.index).streamId = grant.lease.streamId ∧
      (request.desiredNodeId ≠ nullU32 → grant.lease.nodeId = request.desiredNodeId) := by
  obtain ⟨admission, streamId, m, r, same, granted⟩ := grantAttach_ok run
  have taken := attachChecks_taken granted.checked
  unfold grantAttach at run
  rw [exec_bind, granted.checked] at run
  dsimp only at run
  unfold attachCommit at run
  obtain ⟨requireHugepages, p, renewed, afterEpoch⟩ := exec_bind_ok.mp run
  obtain ⟨lease, q, leased, last⟩ := exec_bind_ok.mp afterEpoch
  cases last
  refine ⟨admission, m, taken, attachEpoch_pages renewed, ?_, ?_, fun desired => attachLease_node leased desired⟩
  · intro named
    rw [granted.stream, ← (findStream_inside granted.found).2]
    exact taken.named named
  · obtain ⟨inside, holds⟩ := findStream_inside granted.refound
    dsimp only
    rw [granted.stream, State.streamAt, granted.streams, ← List.getElem_eq_getD (h := by simpa using inside)]
    simp only [List.getElem_set_self]
    unfold StreamState.claim
    split <;> exact holds

/-- Behind the checks only a creation, a node or the table of the leases can fail. -/
def commitRejections : List Rejection :=
  [⟨.internalError, "shm creation failed"⟩, ⟨.internalError, "node_id allocation failed"⟩,
    ⟨.internalError, "lease allocation failed"⟩]

/-- These are the refusals of a request. -/
def attachRejections : List Rejection :=
  admitRejections ++ streamRejections ++ [producerPresent] ++ pagesRejections ++ [nodeRejection] ++ commitRejections

theorem attachChecks_rejections {o : Oracle} {request : AttachRequest} {s s' : State} {rejection : Rejection}
    (run : (attachChecks o request).exec s = (.error rejection, s')) : rejection ∈ attachRejections := by
  unfold attachChecks at run
  simp only [attachRejections, List.mem_append, List.mem_singleton]
  rcases exec_bind_error.mp run with refused | ⟨role, m, admitted, afterRole⟩
  · simp [attachAdmit_rejections refused]
  rcases exec_bind_error.mp afterRole with refused | ⟨index, p, provided, afterStream⟩
  · simp [attachStream_rejections refused]
  rw [exec_get_bind, exec_stopIf_bind] at afterStream
  split at afterStream
  · cases afterStream
    simp [producerPresent]
  rcases exec_bind_error.mp afterStream with refused | ⟨asked, q, paged, afterPages⟩
  · simp [attachHugepages_rejections refused]
  rcases exec_bind_error.mp afterPages with refused | ⟨checkedNs, r, named, afterNode⟩
  · simp [attachNodeId_rejection refused]
  rcases exec_bind_error.mp afterNode with refused | ⟨now, t, timed, afterClock⟩
  · rw [attachClock, exec_get_bind, exec_set_bind] at refused
    cases refused
  · cases afterClock

theorem attachCommit_rejections {o : Oracle} {request : AttachRequest} {admission : Admission} {s s' : State}
    {rejection : Rejection} (run : (attachCommit o request admission).exec s = (.error rejection, s')) :
    rejection ∈ commitRejections := by
  unfold attachCommit at run
  rcases exec_bind_error.mp run with refused | ⟨requireHugepages, r, renewed, afterEpoch⟩
  · unfold attachEpoch at refused
    rw [exec_get_bind] at refused
    dsimp only at refused
    split at refused
    · rw [exec_set_bind, exec_stopIf_bind] at refused
      split at refused <;> cases refused
      decide
    · cases refused
  rcases exec_bind_error.mp afterEpoch with refused | ⟨lease, p, leased, last⟩
  · unfold attachLease at refused
    rw [exec_get_bind] at refused
    dsimp only at refused
    rw [exec_set_bind] at refused
    rcases exec_bind_error.mp refused with unnamed | ⟨⟨nodeId, atNs⟩, q, named, afterNode⟩
    · unfold leaseNodeId at unnamed
      rw [exec_get_bind] at unnamed
      split at unnamed
      · cases unnamed
      · dsimp only at unnamed
        rw [exec_set_bind, exec_stopIf_bind] at unnamed
        split at unnamed <;> cases unnamed
        decide
    · rcases exec_bind_error.mp afterNode with full | ⟨_, t, added, afterTable⟩
      · rcases addLease_cases full with ⟨success, -⟩ | ⟨failure, -⟩
        · cases success
        · cases failure
          decide
      · rw [exec_get_bind, exec_set_bind] at afterTable
        cases afterTable
  · cases last

/-- A refused request is refused for one of the listed reasons. -/
theorem grantAttach_rejections {o : Oracle} {request : AttachRequest} {s s' : State} {rejection : Rejection}
    (run : (grantAttach o request).exec s = (.error rejection, s')) : rejection ∈ attachRejections := by
  unfold grantAttach at run
  rcases exec_bind_error.mp run with refused | ⟨admission, m, checked, commit⟩
  · exact attachChecks_rejections refused
  · exact List.mem_append_right _ (attachCommit_rejections commit)

/-- A refusal never has the code of a grant. -/
theorem grantAttach_refusal {o : Oracle} {request : AttachRequest} {s s' : State} {rejection : Rejection}
    (run : (grantAttach o request).exec s = (.error rejection, s')) : rejection.code ≠ .ok := by
  have codes : ∀ rejection ∈ attachRejections, rejection.code ≠ .ok := by decide
  exact codes rejection (grantAttach_rejections run)

/-- The text of a refusal fits in its response. -/
theorem grantAttach_text {o : Oracle} {request : AttachRequest} {s s' : State} {rejection : Rejection}
    (run : (grantAttach o request).exec s = (.error rejection, s')) : strlen rejection.message ≤ 64 := by
  have texts : ∀ rejection ∈ attachRejections, strlen rejection.message ≤ 64 := by decide +kernel
  exact texts rejection (grantAttach_rejections run)

/-- An `OK` answer comes from a grant, and its body is the encoded one. -/
theorem answersOk_grant {o : Oracle} {request : AttachRequest} {s : State} {response : AttachResponse}
    (answered : AnswersOk o request s response) :
    ∃ grant granted body position, (grantAttach o request).exec s = (.ok grant, granted) ∧
      response.body = some body ∧ encodeAttachBody o granted.config (granted.streamAt grant.index) grant.lease
        grant.requireHugepages = some (body, position) := by
  obtain ⟨ok, result, sent⟩ := answered
  rcases run : (grantAttach o request).exec s with ⟨rejection | grant, granted⟩
  · obtain ⟨early, earlyLog, silent⟩ := grantAttach_silent run
    have growth : World.Grows (fun event => ∀ answer result, event = .offered (.attachResponse answer) result →
        answer.code = rejection.code) granted.world
        (sendAttachRefused o request.correlationId rejection.code rejection.message granted.world).2 := by
      unfold sendAttachRefused
      exact sendControl_grows fun result answer other same => by
        cases same
        rfl
    obtain ⟨late, lateLog, codes⟩ := growth.log
    rw [handleAttach_error run, newEvents] at sent
    dsimp only at sent
    rw [lateLog, earlyLog, List.append_assoc, List.drop_left, List.mem_append] at sent
    rcases sent with talk | last
    · exact (silent _ talk).elim
    · exact absurd ((codes _ last response result rfl).symm.trans ok) (grantAttach_refusal run)
  · obtain ⟨early, earlyLog, silent⟩ := grantAttach_silent run
    obtain ⟨middle, middleLog, announces⟩ := (announce_log o granted grant.index grant.requireHugepages).log
    obtain ⟨admission, streamId, m, r, same, commits⟩ := grantAttach_ok run
    have inside : grant.index < granted.streams.length := same ▸ (findStream_inside commits.active.1).1
    have growth : World.Grows (fun event => ∃ body position, encodeAttachBody o granted.config
          (granted.streamAt grant.index) grant.lease grant.requireHugepages = some (body, position) ∧
          ∀ answer result, event = .offered (.attachResponse answer) result → answer.body = some body)
        (granted.announce o grant.index grant.requireHugepages).world
        (sendAttachGranted o (granted.announce o grant.index grant.requireHugepages).config request.correlationId
          ((granted.announce o grant.index grant.requireHugepages).streamAt grant.index) grant.lease
          grant.requireHugepages (granted.announce o grant.index grant.requireHugepages).world).2 := by
      unfold sendAttachGranted
      split
      · exact .refl _ _
      next body position encoded =>
        rw [announce_encodes inside] at encoded
        refine sendControl_grows fun result => ⟨body, position, encoded, fun answer other same => ?_⟩
        cases same
        rfl
    obtain ⟨late, lateLog, bodies⟩ := growth.log
    rw [handleAttach_ok run, newEvents] at sent
    dsimp only at sent
    rw [lateLog, middleLog, earlyLog, List.append_assoc, List.append_assoc, List.drop_left, List.mem_append,
      List.mem_append] at sent
    rcases sent with talk | talk | last
    · exact (silent _ talk).elim
    · obtain ⟨announce, other, differs⟩ := announces _ talk
      cases differs
    · obtain ⟨body, position, encoded, carried⟩ := bodies _ last
      exact ⟨grant, granted, body, position, rfl, carried response result rfl, encoded⟩

/--
A grant that is answered honours its request, if and only if the recorded page setting of a stream with an
epoch agrees with the policy of the request, and the URIs fit in the response when there is such a policy.
-/
theorem grantHonours_iff {o : Oracle} {request : AttachRequest} {s : State} {response : AttachResponse}
    (answered : AnswersOk o request s response) :
    GrantHonours o request s response ↔ PagesAgree request s ∧ UrisFit o request s := by
  obtain ⟨grant, granted, body, position, run, carried, encoded⟩ := answersOk_grant answered
  obtain ⟨admission, m, taken, pages, named, granting, desired⟩ := grantAttach_taken run
  obtain ⟨leaseId, streamId, layout, nodeId, flags, whole⟩ := encodeAttachBody_carries encoded
  have recorded {index : Nat} (found : findStream s.streams request.streamId = some index)
      (active : (s.streamAt index).epoch ≠ 0) : grant.requireHugepages = (s.streamAt index).requireHugepages := by
    rcases taken.chosen with ⟨known, same⟩ | ⟨absent, -⟩
    · rw [found] at known
      cases known
      rw [pages, same, StreamState.pages, if_pos active]
    · rw [found] at absent
      cases absent
  constructor
  · rintro ⟨body', lease, carried', -, -, honours⟩
    rw [carried] at carried'
    cases carried'
    constructor
    · intro index found active flag policy
      have header : body.headerRegionUri ∈ body.regionUris := List.mem_cons_self
      have told := CarriesFlag.unique (honours.pages flag policy _ header).2 (flags _ header)
      rw [told, recorded found active]
    · intro grant' granted' same asked
      obtain ⟨flag, policy⟩ := Option.ne_none_iff_exists'.mp asked
      rw [run] at same
      cases same
      exact whole.mp fun uri member => (honours.pages flag policy uri member).1
  · rintro ⟨agrees, fits⟩
    refine ⟨body, grant.lease, carried, handleAttach_adds run, leaseId.symm, ?_, ?_, ?_, ?_⟩
    · intro nonzero
      exact ⟨by rw [streamId, granting, named nonzero], named nonzero⟩
    · intro expected
      rw [layout]
      exact (taken.layout.resolve_left expected).symm
    · intro asked
      exact ⟨by rw [nodeId, desired asked], desired asked⟩
    · intro flag policy uri member
      have chosen : grant.requireHugepages = flag := by
        rcases taken.chosen with ⟨known, same⟩ | ⟨-, blank⟩
        · by_cases active : (s.streamAt admission.index).epoch = 0
          · rw [pages, same, StreamState.pages, if_neg (not_not.mpr active), taken.asked flag policy]
          · rw [recorded known active, agrees _ known active flag policy]
        · rw [pages, StreamState.pages, if_neg (not_not.mpr blank), taken.asked flag policy]
      have asked : request.pagesFlag ≠ none := by
        rw [policy]
        exact Option.some_ne_none flag
      exact ⟨whole.mpr (fits grant granted run asked) uri member, chosen ▸ flags uri member⟩

/-- In this environment the directory is on huge pages. -/
def hugeOracle : Oracle := { plainOracle with hugepagesDir := fun _ => some true }

/-- This consumer asks for a page size. -/
def pagesRequest (policy : HugepagesPolicy) : AttachRequest :=
  { plainRequest 2 .consumer with requireHugepages := some policy }

/-- This is the answer for the second lease of the stream, without huge pages. -/
def standardAnswer : AttachResponse where
  correlationId := 0
  code := .ok
  body := some {
    leaseId := 7, leaseExpiryTimestampNs := 3000000100, streamId := 1, epoch := 100, layoutVersion := 1
    headerNslots := 8, headerSlotBytes := 256, nodeId := 2
    payloadPools := [{
      poolId := 1, poolNslots := 8, strideBytes := 64
      regionUri :=
        ⟨"shm:file?path=/dev/shm/tensorpool-unknown/default/1/100/1.pool|require_hugepages=false", .whole⟩ }]
    headerRegionUri :=
      ⟨"shm:file?path=/dev/shm/tensorpool-unknown/default/1/100/header.ring|require_hugepages=false", .whole⟩ }
  errorMessage := ⟨"", .whole⟩

/-- A driver with these pages and this number of pools after a producer attached without a policy. -/
def unspecifiedRun (o : Oracle) (config : Config) : State :=
  run o (boot o config false) [.attach (plainRequest 1 .producer)]

/-- A consumer that asks for standard pages gets them. -/
theorem grantHonours_iff_standard :
    GrantHonours plainOracle (pagesRequest .standard) (unspecifiedRun plainOracle plainConfig) standardAnswer := by
  have answered : AnswersOk plainOracle (pagesRequest .standard) (unspecifiedRun plainOracle plainConfig)
      standardAnswer := ⟨rfl, 1, by decide +kernel⟩
  refine (grantHonours_iff answered).mpr ⟨?_, ?_⟩
  · intro index found active flag policy
    have one : findStream (unspecifiedRun plainOracle plainConfig).streams (pagesRequest .standard).streamId =
        some 0 := by decide +kernel
    rw [one] at found
    cases found
    cases policy
    decide +kernel
  · intro grant granted ran _ profile known
    obtain ⟨grant', granted', body, position, ran', carried, encoded⟩ := answersOk_grant answered
    rw [ran] at ran'
    cases ran'
    obtain ⟨-, -, -, -, -, whole⟩ := encodeAttachBody_carries encoded
    cases carried
    exact whole.mp (by decide) profile known

/-- An `OK` response without its header URI is the only event that this test accepts. -/
def Event.cutsHeader : Event → Bool
  | .offered (.attachResponse response) _ =>
      response.code == .ok && response.body.any fun body => body.headerRegionUri.put != .whole
  | _ => false

/--
A consumer that asks for huge pages gets the regions that a producer without a policy made, and one that
asks for standard pages of 24 pools gets a response without the last URIs.
-/
theorem pages_not_honoured :
    (AnswersOk hugeOracle (pagesRequest .hugepages) (unspecifiedRun hugeOracle plainConfig) standardAnswer ∧
      ¬ GrantHonours hugeOracle (pagesRequest .hugepages) (unspecifiedRun hugeOracle plainConfig) standardAnswer) ∧
    ∃ response, AnswersOk plainOracle (pagesRequest .standard) (unspecifiedRun plainOracle (wideConfig 24)) response ∧
      ¬ GrantHonours plainOracle (pagesRequest .standard) (unspecifiedRun plainOracle (wideConfig 24)) response := by
  refine ⟨⟨⟨rfl, 1, by decide +kernel⟩, ?_⟩, ?_⟩
  · rintro ⟨body, lease, carried, -, -, honours⟩
    cases carried
    have told := (honours.pages true rfl _ List.mem_cons_self).2
    have standard : CarriesFlag false
        "shm:file?path=/dev/shm/tensorpool-unknown/default/1/100/header.ring|require_hugepages=false" :=
      ⟨"shm:file?path=/dev/shm/tensorpool-unknown/default/1/100/header.ring", by decide⟩
    exact absurd (told.unique standard) (by decide)
  · have cut : (newEvents (unspecifiedRun plainOracle (wideConfig 24))
      (handleAttach plainOracle (pagesRequest .standard)
        (unspecifiedRun plainOracle (wideConfig 24))).2).any Event.cutsHeader = true := by decide +kernel
    obtain ⟨event, sent, cutsHeader⟩ := List.any_eq_true.mp cut
    unfold Event.cutsHeader at cutsHeader
    split at cutsHeader
    next response result =>
      rw [Bool.and_eq_true, beq_iff_eq, Option.any_eq_true] at cutsHeader
      obtain ⟨ok, body, carried, headless⟩ := cutsHeader
      refine ⟨response, ⟨ok, result, sent⟩, ?_⟩
      rintro ⟨body', lease, carried', -, -, honours⟩
      cases carried.symm.trans carried'
      rw [(honours.pages false rfl _ List.mem_cons_self).1] at headless
      cases headless
    · cases cutsHeader

end TensorPool.Driver
