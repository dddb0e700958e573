/-
This file gives the handler of the discovery service for requests and says which requests it answers.
-/

import TensorPool.Discovery.Deliver

namespace TensorPool.Discovery

open Scan Flyweight FixedField DiscoveryResponse

/-- This is `tp_discovery_publication_t` with the channel that the publication was added for. -/
structure Publication where
  streamId : Int32
  added : Text
  deriving DecidableEq, Repr

/-- The channel is cut to its buffer. -/
def Publication.channel (publication : Publication) : Text := copyInto 1024 publication.added

/-- The handler reads and changes this part of the service. -/
structure Service where
  entries : List Entry := []
  publications : List Publication := []

/-- A message goes to a channel and a stream. -/
structure Offer where
  channel : Text
  streamId : Int32
  bytes : List UInt8
  deriving DecidableEq, Repr

/-- The environment also answers for the memory of the decoder, the publication and the text of the last error. -/
structure RequestOutside extends QueryOutside where
  decodes : Bool
  adds : Bool
  errmsg : Text

/-- The channel and the stream are compared with those of a publication. -/
def Publication.serves (channel : Text) (streamId : Int32) (publication : Publication) : Bool :=
  publication.streamId == streamId && publication.channel == channel

/-- This is `tp_discovery_get_publication`. -/
def getPublication (publications : List Publication) (channel : Text) (streamId : Int32) (adds : Bool) :
    Option (Publication × List Publication) :=
  match publications.find? (Publication.serves channel streamId) with
  | some publication => some (publication, publications)
  | none =>
      if adds then
        let publication : Publication := ⟨streamId, channel⟩
        some (publication, publications ++ [publication])
      else none

/-- The string that names the channel of the answer. -/
def Request.channel (request : Request) : Text := chars (request.responseChannel.getD [])

/-- An encoded response is offered when there is a publication for it. -/
def offerResponse (service : Service) (request : Request) (adds : Bool) (encoded : Scan Refusal (List UInt8)) :
    Option (List Offer × Service) :=
  match encoded with
  | fault => none
  | stop _ => some ([], service)
  | value bytes =>
      match getPublication service.publications request.channel request.responseStreamId.toInt32 adds with
      | none => some ([], service)
      | some (publication, publications) =>
          some ([⟨publication.added, publication.streamId, bytes⟩], { service with publications })

/-- This is `tp_discovery_send_error`. -/
def sendError (service : Service) (request : Request) (message : Text) (adds : Bool) :
    Option (List Offer × Service) :=
  if request.channel = [] ∨ request.responseStreamId = 0 then some ([], service)
  else offerResponse service request adds (encodeResponse errorSize (errorResponse request (some message)))

/-- This is `tp_discovery_service_response_close`; counted tags without an array are read through a null pointer. -/
def Response.closes (response : Response) : Bool :=
  response.results.all fun result => result.tagCount == 0 || result.tags.isSome

/-- The handler answers with what the query gives, or with the error that the query leaves. -/
def answerQuery (service : Service) (request : Request) (outside : RequestOutside) :
    Option (Option Response × List Entry) → Option (List Offer × Service)
  | none => none
  | some (none, entries) => sendError { service with entries } request outside.errmsg outside.adds
  | some (some response, entries) => do
      let outcome ← offerResponse { service with entries } request outside.adds (encodeResponse querySize response)
      if response.closes then some outcome else none

/--
This is `tp_discovery_handle_request`; a fault has no outcome.
A request whose tags were not allocated is modelled as one without an answer, where the source crashes as it
frees them.
-/
def handleRequest (config : Config) (service : Service) (bytes : List UInt8) (outside : RequestOutside) :
    Option (List Offer × Service) :=
  match decodeRequest bytes with
  | fault => none
  | stop _ => some ([], service)
  | value request =>
      if !outside.decodes || request.channel = [] then some ([], service)
      else if request.responseStreamId = 0 then
        sendError service request "response_stream_id must be non-zero".toUTF8.toList outside.adds
      else answerQuery service request outside (query config service.entries request outside.toQueryOutside)

/-- The entries that the query shows. -/
def Service.shown (service : Service) (config : Config) (request : Request) (outside : QueryOutside) : List Entry :=
  (pruneExpired config outside.pruneNs service.entries).filter fun entry => entry.shown config outside.nowNs request

/-- The bytes start like a response with the error status. -/
def CarriesError (requestId : UInt64) (bytes : List UInt8) : Prop :=
  ∃ more, bytes = responseHead ⟨requestId, .error, [], []⟩ ++ more

/--
The request is answered by one message on its channel and its stream.
The message carries all that the query finds, or an error when that cannot be delivered.
-/
def Answered (config : Config) (service : Service) (bytes : List UInt8) (outside : RequestOutside)
    (request : Request) :
    Prop :=
  ∃ offer after, handleRequest config service bytes outside = some ([offer], after) ∧
    offer.channel = request.channel ∧ offer.streamId = request.responseStreamId.toInt32 ∧
    ((∃ response ideal kept kept',
        query config service.entries request outside.toQueryOutside = some (some response, kept) ∧
        query config service.entries request outside.granting = some (some ideal, kept') ∧
        response.requestId = request.requestId ∧ response.status = .ok ∧
        response.results.map Result.shown = ideal.results.map Result.shown ∧ CarriesResults response offer.bytes) ∨
      ¬ Deliverable config (service.shown config request outside.toQueryOutside) outside.toQueryOutside ∧
        CarriesError request.requestId offer.bytes)

/-- A publication that serves the request was added for its channel. -/
def Service.Reaches (service : Service) (request : Request) : Prop :=
  ∀ publication, service.publications.find?
    (Publication.serves request.channel request.responseStreamId.toInt32) = some publication →
      publication.added = request.channel

/-- The client encodes the request so, or the service reads it so. -/
def Presents (request : Request) (bytes : List UInt8) : Prop :=
  (∃ contextChannel, encodeRequest contextChannel request = value bytes) ∨ decodeRequest bytes = value request

/-- The results can be delivered, or they are too many, or there is no memory for their array. -/
def Answerable (config : Config) (shown : List Entry) (outside : QueryOutside) : Prop :=
  config.maxResults.toNat < shown.length ∨ shown ≠ [] ∧ outside.allocates = false ∨ Deliverable config shown outside

section Requests

variable {config : Config} {service : Service} {request : Request} {bytes : List UInt8} {outside : RequestOutside}

/-- A publication that is found or added has the stream that was asked for. -/
theorem getPublication_added (publications : List Publication) (channel : Text) (streamId : Int32) :
    ∃ publication after, getPublication publications channel streamId true = some (publication, after) ∧
      publication.streamId = streamId ∧ (publication.added = channel ↔
        ∀ other, publications.find? (Publication.serves channel streamId) = some other → other.added = channel) := by
  unfold getPublication
  cases found : publications.find? (Publication.serves channel streamId) with
  | none => exact ⟨_, _, rfl, rfl, fun _ _ never => (Option.some_ne_none _ never.symm).elim, fun _ => rfl⟩
  | some publication =>
      have serves := List.find?_some found
      rw [Publication.serves, Bool.and_eq_true, beq_iff_eq, beq_iff_eq] at serves
      refine ⟨_, _, rfl, serves.1, ?_, ?_⟩
      · intro same other known
        cases known
        exact same
      · intro all
        exact all publication rfl

/-- A response that is encoded is offered once, on the stream of the request. -/
theorem offerResponse_value (service : Service) (request : Request) (bytes : List UInt8) :
    ∃ offer after, offerResponse service request true (value bytes) = some ([offer], after) ∧ offer.bytes = bytes ∧
      offer.streamId = request.responseStreamId.toInt32 ∧
        (offer.channel = request.channel ↔ service.Reaches request) := by
  obtain ⟨publication, publications, found, stream, channel⟩ :=
    getPublication_added service.publications request.channel request.responseStreamId.toInt32
  refine ⟨⟨publication.added, publication.streamId, bytes⟩, { service with publications }, ?_, rfl, stream, channel⟩
  unfold offerResponse
  dsimp only
  rw [found]

/-- An offered answer was encoded. -/
theorem offerResponse_some {encoded : Scan Refusal (List UInt8)} {offer : Offer} {after : Service}
    (offered : offerResponse service request true encoded = some ([offer], after)) :
    encoded = value offer.bytes ∧ (offer.channel = request.channel ↔ service.Reaches request) := by
  cases encoded with
  | fault => cases offered
  | stop error => cases offered
  | value bytes =>
      obtain ⟨same, last, found, content, -, channel⟩ := offerResponse_value service request bytes
      cases found.symm.trans offered
      exact ⟨by rw [content], channel⟩

/-- A request that is decoded is answered with what the query gives. -/
theorem handleRequest_query (decoded : decodeRequest bytes = value request) (named : request.channel ≠ [])
    (nonzero : request.responseStreamId ≠ 0) (decodes : outside.decodes = true) :
    handleRequest config service bytes outside =
      answerQuery service request outside (query config service.entries request outside.toQueryOutside) := by
  have known : ¬ (!outside.decodes || decide (request.channel = [])) = true := by
    rw [decodes, decide_eq_false named]
    exact Bool.false_ne_true
  unfold handleRequest
  rw [decoded]
  dsimp only
  rw [if_neg known, if_neg nonzero]

/-- A failed query is answered with an error. -/
theorem answerQuery_failed (named : request.channel ≠ []) (nonzero : request.responseStreamId ≠ 0)
    (adds : outside.adds = true) (entries : List Entry) :
    ∃ offer after, answerQuery service request outside (some (none, entries)) = some ([offer], after) ∧
      offer.streamId = request.responseStreamId.toInt32 ∧
        (offer.channel = request.channel ↔ service.Reaches request) ∧ CarriesError request.requestId offer.bytes := by
  obtain ⟨bytes, encoded, head⟩ :=
    @encodeResponse_empty errorSize (errorResponse request (some outside.errmsg)) rfl (by decide)
  obtain ⟨offer, after, offered, content, stream, channel⟩ :=
    offerResponse_value { service with entries } request bytes
  refine ⟨offer, after, ?_, stream, channel, ?_⟩
  · rw [answerQuery, sendError, if_neg (not_or.mpr ⟨named, nonzero⟩), encoded, adds]
    exact offered
  · rw [content]
    exact head

/-- A response that is encoded and closed is offered. -/
theorem answerQuery_encoded {response : Response} {content : List UInt8} (adds : outside.adds = true)
    (encoded : encodeResponse querySize response = value content) (closes : response.closes = true)
    (entries : List Entry) :
    ∃ offer after, answerQuery service request outside (some (some response, entries)) = some ([offer], after) ∧
      offer.streamId = request.responseStreamId.toInt32 ∧
        (offer.channel = request.channel ↔ service.Reaches request) ∧ offer.bytes = content := by
  obtain ⟨offer, after, offered, same, stream, channel⟩ :=
    offerResponse_value { service with entries } request content
  refine ⟨offer, after, ?_, stream, channel, same⟩
  rw [answerQuery, encoded, adds, offered]
  exact if_pos closes

/-- An answer that is offered was encoded. -/
theorem answerQuery_offered {response : Response} {entries : List Entry} {offer : Offer} {after : Service}
    (adds : outside.adds = true)
    (answered : answerQuery service request outside (some (some response, entries)) = some ([offer], after)) :
    encodeResponse querySize response = value offer.bytes ∧
      (offer.channel = request.channel ↔ service.Reaches request) := by
  rw [answerQuery, adds] at answered
  obtain ⟨outcome, offered, closed⟩ := Option.bind_eq_some_iff.mp answered
  split at closed
  · cases closed
    have found := offerResponse_some offered
    exact found
  · cases closed

/-- The query depends on the memory only behind its checks. -/
theorem query_eq (config : Config) (service : Service) (request : Request) (outside : QueryOutside) :
    query config service.entries request outside =
      if (service.shown config request outside).length > config.maxResults.toNat then
        some (some ⟨request.requestId, .error, limitExceeded, []⟩,
          pruneExpired config outside.pruneNs service.entries)
      else if (service.shown config request outside).isEmpty then
        some (some ⟨request.requestId, .ok, [], []⟩, pruneExpired config outside.pruneNs service.entries)
      else if !outside.allocates then some (none, pruneExpired config outside.pruneNs service.entries)
      else (fillResults config outside 0 (service.shown config request outside)).map fun results =>
        (some ⟨request.requestId, .ok, [], results⟩, pruneExpired config outside.pruneNs service.entries) := rfl

/-- Results with all of their tags are closed. -/
theorem closes_of_counted {response : Response} (counted : ∀ result ∈ response.results, result.Counted) :
    response.closes = true := by
  apply List.all_eq_true.mpr
  intro result member
  have tags := (counted result member).tags
  unfold Result.tagList at tags
  cases known : result.tags with
  | none =>
      rw [known, Option.getD_none, List.take_nil] at tags
      rw [← tags]
      rfl
  | some list => exact Bool.or_true _

/-- Behind its checks the query fills in the results of the shown entries. -/
theorem query_filled {config : Config} {service : Service} {request : Request} {outside : QueryOutside}
    (few : (service.shown config request outside).length ≤ config.maxResults.toNat)
    (memory : service.shown config request outside = [] ∨ outside.allocates = true) :
    query config service.entries request outside =
      (fillResults config outside 0 (service.shown config request outside)).map fun results =>
        (some ⟨request.requestId, .ok, [], results⟩, pruneExpired config outside.pruneNs service.entries) := by
  rw [query_eq, if_neg (Nat.not_lt.mpr few)]
  split
  next none =>
    rw [List.isEmpty_iff.mp none]
    rfl
  next some =>
    rw [memory.resolve_left fun none => some (List.isEmpty_iff.mpr none)]
    rfl

/-- The heads of an answer and of an error differ in their status. -/
theorem head_ne_error {response : Response} (fine : response.status = .ok) (requestId : UInt64)
    (more more' : List UInt8) : responseHead response ++ more ≠ responseHead ⟨requestId, .error, [], []⟩ ++
      more' := by
  intro same
  have heads := (List.append_inj same (by rw [length_responseHead, length_responseHead])).1
  have last := congrArg (·[16]?) heads
  simp only [responseHead, fine] at last
  change some (Status.ok.code) = some (Status.error.code) at last
  cases last

/-- Too many results are refused. -/
theorem answered_many
    (decoded : decodeRequest bytes = value request) (named : request.channel ≠ [])
    (nonzero : request.responseStreamId ≠ 0) (adds : outside.adds = true) (decodes : outside.decodes = true)
    (many : config.maxResults.toNat < (service.shown config request outside.toQueryOutside).length) :
    Answered config service bytes outside request ↔ service.Reaches request := by
  have asked := query_eq config service request outside.toQueryOutside
  rw [if_pos many] at asked
  obtain ⟨content, encoded, head⟩ :=
    @encodeResponse_empty querySize ⟨request.requestId, .error, limitExceeded, []⟩ rfl (by decide)
  obtain ⟨offer, after, answered, stream, channel, same⟩ := answerQuery_encoded adds encoded
    (closes_of_counted (List.forall_mem_nil _)) (pruneExpired config outside.pruneNs service.entries)
  have handled : handleRequest config service bytes outside = some ([offer], after) := by
    rw [handleRequest_query decoded named nonzero decodes, asked, answered]
  constructor
  · intro found
    obtain ⟨other, last, handled', own, -⟩ := found
    cases handled.symm.trans handled'
    exact channel.mp own
  · intro reaches
    refine ⟨offer, after, handled, channel.mpr reaches, stream, Or.inr ⟨?_, ?_⟩⟩
    · intro deliverable
      exact absurd deliverable.few (Nat.not_le.mpr many)
    · rw [same]
      exact head

/-- Without memory for the array of the results the request is refused. -/
theorem answered_unallocated
    (decoded : decodeRequest bytes = value request) (named : request.channel ≠ [])
    (nonzero : request.responseStreamId ≠ 0) (adds : outside.adds = true) (decodes : outside.decodes = true)
    (few : (service.shown config request outside.toQueryOutside).length ≤ config.maxResults.toNat)
    (shown : service.shown config request outside.toQueryOutside ≠ []) (allocates : outside.allocates = false) :
    Answered config service bytes outside request ↔ service.Reaches request := by
  have asked := query_eq config service request outside.toQueryOutside
  rw [if_neg (Nat.not_lt.mpr few), if_neg (fun none => shown (List.isEmpty_iff.mp none)), allocates, Bool.not_false,
    if_pos rfl] at asked
  obtain ⟨offer, after, answered, stream, channel, head⟩ :=
    @answerQuery_failed service request outside named nonzero adds
      (pruneExpired config outside.pruneNs service.entries)
  have handled : handleRequest config service bytes outside = some ([offer], after) := by
    rw [handleRequest_query decoded named nonzero decodes, asked, answered]
  constructor
  · intro found
    obtain ⟨other, last, handled', own, -⟩ := found
    cases handled.symm.trans handled'
    exact channel.mp own
  · intro reaches
    refine ⟨offer, after, handled, channel.mpr reaches, stream, Or.inr ⟨?_, head⟩⟩
    intro deliverable
    rcases deliverable.memory with none | granted
    · exact shown none
    · rw [allocates] at granted
      cases granted

/-- Results that are few and allocated are answered when they can be delivered. -/
theorem answered_queried
    (decoded : decodeRequest bytes = value request) (named : request.channel ≠ [])
    (nonzero : request.responseStreamId ≠ 0) (adds : outside.adds = true) (decodes : outside.decodes = true)
    (few : (service.shown config request outside.toQueryOutside).length ≤ config.maxResults.toNat)
    (memory : service.shown config request outside.toQueryOutside = [] ∨ outside.allocates = true) :
    Answered config service bytes outside request ↔ service.Reaches request ∧
      Deliverable config (service.shown config request outside.toQueryOutside) outside.toQueryOutside := by
  have asked := query_filled few memory
  have full := @query_filled config service request outside.toQueryOutside.granting few (Or.inr rfl)
  have handled := @handleRequest_query config service request bytes outside decoded named nonzero decodes
  constructor
  · intro found
    obtain ⟨offer, after, answered, own, -, carried⟩ := found
    rw [handled, asked] at answered
    cases filled :
      fillResults config outside.toQueryOutside 0 (service.shown config request outside.toQueryOutside) with
    | none =>
        rw [filled] at answered
        cases answered
    | some results =>
        rw [filled] at answered asked
        obtain ⟨encoded, channel⟩ := answerQuery_offered adds answered
        obtain ⟨held, -, inside, left, content, -⟩ := encodeResponse_eq_value encoded
        rcases carried with ⟨response, ideal, kept, kept', queried, granting, -, -, shown, carries⟩ | ⟨-, error⟩
        · cases asked.symm.trans queried
          rw [full] at granting
          obtain ⟨ideals, fulls, same⟩ := Option.map_eq_some_iff.mp granting
          cases same
          have granted := granted_of_fillResults filled fulls
            (fun result member => (held result member).counted) shown
          simp only [Nat.zero_add] at granted
          refine ⟨channel.mp own, few, memory, granted, ?_⟩
          obtain ⟨same, -, filled', -, -, -, length⟩ := fillResults_of_granted_all config granted
          cases filled.symm.trans filled'
          obtain ⟨more, parts⟩ := carries
          rw [← length]
          rw [parts] at inside
          simp only [List.length_append, length_responseHead, length_groupBytes] at inside
          omega
        · obtain ⟨more, head⟩ := error
          exact absurd (content.symm.trans head) (head_ne_error rfl _ _ _)
  · intro both
    obtain ⟨reaches, deliverable⟩ := both
    obtain ⟨results, ideals, filled, fulls, counted, shown, length⟩ :=
      fillResults_of_granted_all config deliverable.granted
    rw [filled] at asked
    obtain ⟨content, encoded, carries⟩ := @encodeResponse_fits ⟨request.requestId, .ok, [], results⟩ counted
      (by rw [length]; exact deliverable.room)
    obtain ⟨offer, after, answered, stream, channel, same⟩ :=
      answerQuery_encoded adds encoded (closes_of_counted counted)
        (pruneExpired config outside.pruneNs service.entries)
    have ideal := full.trans (congrArg (Option.map _) fulls)
    refine ⟨offer, after, ?_, channel.mpr reaches, stream, Or.inl ⟨_, _, _, _, asked, ideal, rfl, rfl, shown, ?_⟩⟩
    · rw [handled, asked]
      exact answered
    · rw [same]
      exact carries

/-- A decoded request is answered when its results can be delivered or are refused. -/
theorem decoded_answered_iff (decoded : decodeRequest bytes = value request) (named : request.channel ≠ [])
    (nonzero : request.responseStreamId ≠ 0) (adds : outside.adds = true) :
    Answered config service bytes outside request ↔ outside.decodes = true ∧ service.Reaches request ∧
      Answerable config (service.shown config request outside.toQueryOutside) outside.toQueryOutside := by
  cases decodes : outside.decodes with
  | false =>
      have silent : handleRequest config service bytes outside = some ([], service) := by
        unfold handleRequest
        rw [decoded]
        dsimp only
        rw [decodes]
        rfl
      constructor
      · intro found
        obtain ⟨offer, after, answered, -⟩ := found
        cases silent.symm.trans answered
      · intro all
        cases all.1
  | true =>
      by_cases many : config.maxResults.toNat < (service.shown config request outside.toQueryOutside).length
      · rw [answered_many decoded named nonzero adds decodes many]
        exact ⟨fun reaches => ⟨rfl, reaches, Or.inl many⟩, fun all => all.2.1⟩
      · have few := Nat.not_lt.mp many
        by_cases unallocated : service.shown config request outside.toQueryOutside ≠ [] ∧ outside.allocates = false
        · rw [answered_unallocated decoded named nonzero adds decodes few unallocated.1 unallocated.2]
          exact ⟨fun reaches => ⟨rfl, reaches, Or.inr (Or.inl unallocated)⟩, fun all => all.2.1⟩
        · have memory : service.shown config request outside.toQueryOutside = [] ∨ outside.allocates = true := by
            rw [not_and_or, not_not, Bool.not_eq_false] at unallocated
            exact unallocated
          rw [answered_queried decoded named nonzero adds decodes few memory]
          constructor
          · intro both
            exact ⟨rfl, both.1, Or.inr (Or.inr both.2)⟩
          · intro all
            exact ⟨all.2.1, (all.2.2.resolve_left many).resolve_left unallocated⟩

/-- An offer goes where the first characters of the channel lead. -/
theorem offerResponse_channel {adds : Bool} {encoded : Scan Refusal (List UInt8)} {offer : Offer} {after : Service}
    (offered : offerResponse service request adds encoded = some ([offer], after)) :
    copyInto 1024 offer.channel = copyInto 1024 request.channel := by
  unfold offerResponse at offered
  split at offered
  · cases offered
  · cases offered
  · split at offered
    · cases offered
    next publication publications found =>
      cases offered
      unfold getPublication at found
      split at found
      next known =>
        cases found
        have serves := List.find?_some known
        rw [Publication.serves, Bool.and_eq_true, beq_iff_eq, beq_iff_eq] at serves
        rw [← serves.2, Publication.channel, copyInto, copyInto, List.take_take]
        rfl
      · split at found
        · cases found
          rfl
        · cases found

theorem sendError_channel {adds : Bool} {message : Text} {offer : Offer} {after : Service}
    (sent : sendError service request message adds = some ([offer], after)) :
    copyInto 1024 offer.channel = copyInto 1024 request.channel := by
  unfold sendError at sent
  split at sent
  · cases sent
  · exact offerResponse_channel sent

theorem handleRequest_channel {offer : Offer} {after : Service} (decoded : decodeRequest bytes = value request)
    (handled : handleRequest config service bytes outside = some ([offer], after)) :
    copyInto 1024 offer.channel = copyInto 1024 request.channel := by
  unfold handleRequest at handled
  rw [decoded] at handled
  dsimp only at handled
  split at handled
  · cases handled
  · split at handled
    · exact sendError_channel handled
    · unfold answerQuery at handled
      split at handled
      · cases handled
      · have found := sendError_channel handled
        exact found
      · obtain ⟨outcome, offered, closed⟩ := Option.bind_eq_some_iff.mp handled
        split at closed
        · cases closed
          have found := offerResponse_channel offered
          exact found
        · cases closed

/-- The service does not answer a request as the client encodes it, because it reads another channel. -/
theorem sent_unanswered {contextChannel : Text} (encoded : encodeRequest contextChannel request = value bytes) :
    ¬ Answered config service bytes outside request := by
  intro found
  obtain ⟨offer, after, handled, own, -⟩ := found
  cases decoded : decodeRequest bytes with
  | fault =>
      unfold handleRequest at handled
      rw [decoded] at handled
      cases handled
  | stop error =>
      unfold handleRequest at handled
      rw [decoded] at handled
      cases handled
  | value misread =>
      obtain ⟨short, other⟩ := decodeRequest_channel encoded decoded
      have same := handleRequest_channel decoded handled
      have fits : misread.channel.length ≤ 4 := short
      have cut : copyInto 1024 misread.channel = misread.channel := List.take_of_length_le (by omega)
      rw [cut, own] at same
      have length := congrArg List.length same
      rw [copyInto, List.length_take] at length
      rw [copyInto, List.take_of_length_le (by omega)] at same
      exact other same.symm

/--
A request is answered exactly when the service reads it as it is, has memory for it, reaches its channel, and can
deliver its results or refuses their number or the memory for their array.
-/
theorem answered_iff (presented : Presents request bytes) (named : request.channel ≠ [])
    (nonzero : request.responseStreamId ≠ 0) (adds : outside.adds = true) :
    Answered config service bytes outside request ↔ decodeRequest bytes = value request ∧ outside.decodes = true ∧
      service.Reaches request ∧
        Answerable config (service.shown config request outside.toQueryOutside) outside.toQueryOutside := by
  rcases presented with ⟨contextChannel, encoded⟩ | decoded
  · apply iff_of_false (sent_unanswered encoded)
    intro all
    exact (decodeRequest_channel encoded all.1).2 rfl
  · rw [decoded_answered_iff decoded named nonzero adds]
    exact ⟨fun all => ⟨decoded, all⟩, fun all => all.2⟩

end Requests

/-- The service reads this request, whose texts stand in front of its tags. -/
def readRequest : Request := { listedRequest with responseChannel := some [97], responseStreamId := 3 }

def readBytes : List UInt8 :=
  messageHeader.encode ⟨DiscoveryRequest.blockLength, DiscoveryRequest.templateId, schemaId, schemaVersion⟩ ++
    (DiscoveryRequest.block readRequest ++ (dataBytes [97] ++ (dataBytes [] ++ groupBytes tagsBlockLength 0)))

def readOutside : RequestOutside := { listedOutside with decodes := true, adds := true, errmsg := [] }

theorem answered_iff_listed :
    Answered listedConfig ⟨[listedEntry], []⟩ readBytes readOutside readRequest ↔
      decodeRequest readBytes = value readRequest ∧ readOutside.decodes = true ∧
        Service.Reaches ⟨[listedEntry], []⟩ readRequest ∧
          Answerable listedConfig (Service.shown ⟨[listedEntry], []⟩ listedConfig readRequest listedOutside)
            listedOutside :=
  answered_iff (Or.inr (by decide +kernel)) (by decide) (by decide) rfl

/-- The registry holds the streams of 65 beacons. -/
def crowdedService : Service where
  entries := (List.range 65).map fun index => { streamId := UInt32.ofNat (index + 1), lastAnnounceNs := 100 }

/-- The results of 65 streams without pools do not fit the buffer, so the request is not answered. -/
theorem crowded_unanswered : Presents readRequest readBytes ∧ readRequest.channel ≠ [] ∧
    readRequest.responseStreamId ≠ 0 ∧ readOutside.adds = true ∧
      ¬ Answered { listedConfig with maxResults := 100 } crowdedService readBytes readOutside readRequest := by
  have decoded : decodeRequest readBytes = value readRequest := by decide +kernel
  refine ⟨Or.inr decoded, by decide, by decide, rfl, ?_⟩
  intro found
  have answered := (answered_queried decoded (by decide) (by decide) rfl rfl (by decide +kernel)
    (Or.inr rfl)).mp found
  have crowded : ¬ 21 + ((crowdedService.shown { listedConfig with maxResults := 100 } readRequest
      readOutside.toQueryOutside).map (Entry.room · { listedConfig with maxResults := 100 })).sum ≤ querySize := by
    decide +kernel
  exact crowded answered.2.room

end TensorPool.Discovery
