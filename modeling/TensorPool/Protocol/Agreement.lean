/-
This file proves that a client only holds a lease that the driver granted to one of its own requests.
-/

import TensorPool.Protocol.System

namespace TensorPool.Protocol

open Scan Flyweight FixedField
open DriverClient

/-- The client has the lease. -/
structure Matches (client : Client) (lease : Driver.Lease) : Prop where
  leaseId : client.activeLeaseId = lease.leaseId
  streamId : client.activeStreamId = lease.streamId
  clientId : client.clientId = lease.clientId
  role : client.role = lease.role.code

namespace System

/-- The lease was granted to a request of the client. -/
structure Granted (system : System) (index : Nat) (request : AttachRequest) (lease : Driver.Lease) : Prop where
  attempt : (index, request) ∈ system.attempts
  listed : (index, lease) ∈ system.granted
  asked : Driver.Asked request.heard lease

/-- The driver answered the request with `OK` and with what the information says, for the lease that it granted. -/
structure Won (system : System) (index : Nat) (request : AttachRequest) (info : AttachInfo)
    (response : Driver.AttachResponse) (body : Driver.AttachBody) (lease : Driver.Lease) : Prop where
  sent : ∃ result, .offered (.attachResponse response) result ∈ system.driver.world.log
  code : response.code = .ok
  carried : response.body = some body
  correlationId : response.correlationId = request.correlationId.toInt
  shown : info.toLeaseBlock = leaseFields body
  carries : Driver.Carries body lease
  granted : system.Granted index request lease

/-- An `OK` response answers an attempt of some client. -/
def Answered (system : System) (response : Driver.AttachResponse) : Prop :=
  ∃ index request body lease, response.body = some body ∧ response.correlationId = request.correlationId.toInt ∧
    Driver.Carries body lease ∧ system.Granted index request lease

/-- The identifier is zero, or that of a lease of the client. -/
def Owns (system : System) (index : Nat) (leaseId : UInt64) : Prop :=
  leaseId = 0 ∨ ∃ request lease, system.Granted index request lease ∧ lease.leaseId = leaseId

/-- A call asks for an attempt of its client, and its information comes from an answer to it. -/
structure Fit (system : System) (call : Call) : Prop where
  attempt : (call.index, call.current) ∈ system.attempts
  won : call.attach.info.code = codeOk →
    ∃ response body lease, system.Won call.index call.current call.attach.info response body lease

/-- A client that holds a lease was granted it. -/
def Held (system : System) (index : Nat) (client : Client) : Prop :=
  client.activeLeaseId ≠ 0 → ∃ request lease, system.Granted index request lease ∧ Matches client lease

/-- A fragment is what its sender can offer. -/
def Genuine (system : System) (packet : Packet) : Prop :=
  match packet.sender with
  | .client index =>
      (∃ request, packet.bytes = sendAttach request ∧ (index, request) ∈ system.attempts) ∨
        (∃ request, packet.bytes = sendDetach request ∧ system.Owns index request.leaseId) ∨
          ∃ request nowNs, packet.bytes = sendKeepalive request nowNs ∧ system.Owns index request.leaseId
  | .driver => ∃ message result, controlBytes message = some packet.bytes ∧
      .offered message result ∈ system.driver.world.log
  | .stranger => foreign packet.bytes = true

/-- What holds in every reachable state of the system. -/
structure Sound (o : Driver.Oracle) (config : Driver.Config) (started : Bool) (system : System) : Prop where
  driver : system.driver = Driver.run o (Driver.boot o config started) system.ops
  granted : system.granted.map Prod.snd = Driver.grants system.driver.world.log
  asked : ∀ entry ∈ system.granted, ∃ request, system.Granted entry.1 request entry.2
  answered : ∀ response result, .offered (.attachResponse response) result ∈ system.driver.world.log →
    response.code = .ok → system.Answered response
  distinct : (system.attempts.map fun attempt => attempt.2.correlationId).Nodup
  apart : (system.calls.map fun call => call.attach.correlationId).Nodup
  calls : ∀ call ∈ system.calls, system.Fit call
  wire : ∀ packet ∈ system.wire, system.Genuine packet
  held : ∀ index, system.Held index (system.clients index)

/-- The history of a later state goes on from the earlier one. -/
structure Later (system system' : System) : Prop where
  attempts : system.attempts ⊆ system'.attempts
  granted : system.granted ⊆ system'.granted
  log : system.driver.world.log ⊆ system'.driver.world.log

section Later

variable {system system' : System} {index : Nat} {request : AttachRequest} {lease : Driver.Lease}

/-- A grant stays one. -/
theorem Granted.later (granted : system.Granted index request lease) (later : Later system system') :
    system'.Granted index request lease :=
  ⟨later.attempts granted.attempt, later.granted granted.listed, granted.asked⟩

/-- What a client won stays won. -/
theorem Won.later {info : AttachInfo} {response : Driver.AttachResponse} {body : Driver.AttachBody}
    (won : system.Won index request info response body lease) (later : Later system system') :
    system'.Won index request info response body lease := by
  obtain ⟨result, sent⟩ := won.sent
  exact { won with sent := ⟨result, later.log sent⟩, granted := won.granted.later later }

/-- An answer stays one. -/
theorem Answered.later {response : Driver.AttachResponse} (answered : system.Answered response)
    (later : Later system system') : system'.Answered response := by
  obtain ⟨index, request, body, lease, carried, correlated, carries, granted⟩ := answered
  exact ⟨index, request, body, lease, carried, correlated, carries, granted.later later⟩

/-- A lease keeps its owner. -/
theorem Owns.later {leaseId : UInt64} (owns : system.Owns index leaseId) (later : Later system system') :
    system'.Owns index leaseId := by
  rcases owns with none | ⟨request, lease, granted, same⟩
  · exact .inl none
  · exact .inr ⟨request, lease, granted.later later, same⟩

/-- A fitting call stays fitting. -/
theorem Fit.later {call : Call} (fit : system.Fit call) (later : Later system system') : system'.Fit call := by
  refine ⟨later.attempts fit.attempt, fun ok => ?_⟩
  obtain ⟨response, body, lease, won⟩ := fit.won ok
  exact ⟨response, body, lease, won.later later⟩

/-- What a client holds stays held. -/
theorem Held.later {client : Client} (held : system.Held index client) (later : Later system system') :
    system'.Held index client := by
  intro active
  obtain ⟨request, lease, granted, same⟩ := held active
  exact ⟨request, lease, granted.later later, same⟩

/-- A genuine packet stays genuine. -/
theorem Genuine.later {packet : Packet} (genuine : system.Genuine packet) (later : Later system system') :
    system'.Genuine packet := by
  obtain ⟨sender, bytes⟩ := packet
  cases sender with
  | client index =>
      rcases genuine with ⟨request, sent, attempt⟩ | ⟨request, sent, owns⟩ | ⟨request, nowNs, sent, owns⟩
      · exact .inl ⟨request, sent, later.attempts attempt⟩
      · exact .inr (.inl ⟨request, sent, owns.later later⟩)
      · exact .inr (.inr ⟨request, nowNs, sent, owns.later later⟩)
  | driver =>
      obtain ⟨message, result, sent, logged⟩ := genuine
      exact ⟨message, result, sent, later.log logged⟩
  | stranger => exact genuine

end Later

section Moves

variable {o : Driver.Oracle} {config : Driver.Config} {started : Bool} {system system' : System}

/-- A step of another party leaves the driver alone, and what it adds is sound. -/
theorem Sound.moves (sound : Sound o config started system) (driver : system'.driver = system.driver)
    (ops : system'.ops = system.ops) (granted : system'.granted = system.granted)
    (attempts : system.attempts ⊆ system'.attempts)
    (distinct : (system'.attempts.map fun attempt => attempt.2.correlationId).Nodup)
    (apart : (system'.calls.map fun call => call.attach.correlationId).Nodup)
    (calls : ∀ call ∈ system'.calls, call ∈ system.calls ∨ system'.Fit call)
    (wire : ∀ packet ∈ system'.wire, packet ∈ system.wire ∨ system'.Genuine packet)
    (held : ∀ index, system'.clients index = system.clients index ∨ system'.Held index (system'.clients index)) :
    Sound o config started system' := by
  have later : Later system system' := ⟨attempts, granted ▸ List.Subset.refl _, driver ▸ List.Subset.refl _⟩
  constructor
  · rw [driver, ops, sound.driver]
  · rw [granted, driver, sound.granted]
  · intro entry member
    obtain ⟨request, own⟩ := sound.asked entry (granted ▸ member)
    exact ⟨request, own.later later⟩
  · intro response result sent ok
    exact (sound.answered response result (driver ▸ sent) ok).later later
  · exact distinct
  · exact apart
  · intro call member
    exact (calls call member).elim (fun old => (sound.calls call old).later later) id
  · intro packet member
    exact (wire packet member).elim (fun old => (sound.wire packet old).later later) id
  · intro index
    rcases held index with same | new
    · rw [same]
      exact (sound.held index).later later
    · exact new

/-- An offered fragment is the only new one. -/
theorem mem_offered {wire : List Packet} {sender : Party} {bytes : List UInt8} {result : Int} {packet : Packet}
    (member : packet ∈ wire ++ offered sender bytes result) : packet ∈ wire ∨ packet = ⟨sender, bytes⟩ := by
  rw [offered, List.mem_append] at member
  split at member
  · exact .inl (member.resolve_right List.not_mem_nil)
  · exact member.imp_right List.mem_singleton.mp

/-- Nothing changes where the item that is already there is put. -/
theorem set_same {α : Type} {list : List α} {position : Nat} {item : α} (found : list[position]? = some item) :
    list.set position item = list := by
  obtain ⟨inside, rfl⟩ := List.getElem?_eq_some_iff.mp found
  exact List.set_getElem_self inside

/-- Attempts with one correlation id are one attempt. -/
theorem Sound.attempt_unique (sound : Sound o config started system) {first second : Nat × AttachRequest}
    (one : first ∈ system.attempts) (two : second ∈ system.attempts)
    (same : first.2.correlationId = second.2.correlationId) : first = second :=
  List.inj_on_of_nodup_map sound.distinct one two same

/-- The correlation ids of the calls are those of attempts. -/
theorem Sound.known (sound : Sound o config started system) {correlationId : Int64}
    (used : correlationId ∈ system.calls.map fun call => call.attach.correlationId) :
    correlationId ∈ system.attempts.map fun attempt => attempt.2.correlationId := by
  obtain ⟨call, running, rfl⟩ := List.mem_map.mp used
  exact List.mem_map.mpr ⟨_, (sound.calls call running).attempt, rfl⟩

/-- A client names only its own lease. -/
theorem Sound.owns (sound : Sound o config started system) (index : Nat) :
    system.Owns index (system.clients index).activeLeaseId := by
  by_cases none : (system.clients index).activeLeaseId = 0
  · exact .inl none
  · obtain ⟨request, lease, granted, same⟩ := sound.held index none
    exact .inr ⟨request, lease, granted, same.leaseId.symm⟩

/-- A fragment ends a wait, brings information or changes nothing. -/
theorem hears_cases {call : Call} {fragment : Fragment} {attach : Attach}
    (heard : Exchange.hears call.attach.returned call.handler call.attach fragment = some attach) :
    attach = call.attach ∨ attach = { call.attach with done := true } ∨
      ∃ info, decodeAttachResponse fragment.allocates call.attach.correlationId call.attach.info fragment.bytes =
        value info ∧ attach = { call.attach with info, done := true } := by
  unfold Exchange.hears at heard
  split at heard
  · exact .inl (Option.some.inj heard).symm
  · unfold Call.handler at heard
    split at heard
    · unfold Attach.responseHandler at heard
      split at heard
      · exact .inl (Option.some.inj heard).symm
      · split at heard
        · cases heard
        · have same := (Option.some.inj heard).symm
          split at same
          · exact .inr (.inl same)
          · exact .inl same
        next info decoded => exact .inr (.inr ⟨info, decoded, (Option.some.inj heard).symm⟩)
    · unfold Attach.asyncHandler at heard
      split at heard
      · exact .inl (Option.some.inj heard).symm
      · split at heard
        · cases heard
        · exact .inl (Option.some.inj heard).symm
        next info decoded => exact .inr (.inr ⟨info, decoded, (Option.some.inj heard).symm⟩)

/-- Only an `OK` response of the driver is decoded to a grant. -/
theorem Genuine.grants {packet : Packet} {allocates : Bool} {correlationId : Int64} {start info : AttachInfo}
    (genuine : system.Genuine packet)
    (decoded : decodeAttachResponse allocates correlationId start packet.bytes = value info)
    (ok : info.code = codeOk) :
    ∃ response result, .offered (.attachResponse response) result ∈ system.driver.world.log ∧ response.code = .ok ∧
      Int64.ofInt response.correlationId = correlationId ∧
      ∀ body, response.body = some body → info.toLeaseBlock = leaseFields body := by
  obtain ⟨grants, -, listed, uri, -, rfl⟩ := decodeAttachResponse_ok.mp ⟨decoded, ok⟩
  have template := grants.template
  have opened {codec : Wire.Codec} {rest : List UInt8}
      (sent : packet.bytes = messageHeader.encode codec.header ++ rest) :
        codec.templateId = AttachResponse.templateId := by
    rw [sent, messageHeader.decode_encode] at template
    exact template
  obtain ⟨sender, bytes⟩ := packet
  cases sender with
  | client index =>
      rcases genuine with ⟨request, sent, -⟩ | ⟨request, sent, -⟩ | ⟨request, nowNs, sent, -⟩
      · exact absurd (opened sent) (by decide)
      · exact absurd (opened sent) (by decide)
      · exact absurd (opened sent) (by decide)
  | driver =>
      obtain ⟨message, result, sent, logged⟩ := genuine
      cases message with
      | attachResponse response =>
          have same : attachResponse response = bytes := Option.some.inj sent
          have code := grants.code
          have answered := grants.answered
          dsimp only at code answered ⊢
          rw [← same, attachResponse, drop_behind messageHeader 16 8 rfl, drop_behind int64 8 0 rfl, List.drop_zero,
            int32.decode_encode] at code
          rw [← same, attachResponse, drop_behind messageHeader 8 0 rfl, List.drop_zero,
            int64.decode_encode] at answered
          refine ⟨response, result, logged, ?_, answered, fun body carried => ?_⟩
          · cases shown : response.code with
            | ok => rfl
            | _ =>
                rw [shown] at code
                exact absurd code (by decide)
          · change leaseBlock.decode (bytes.drop 20) = leaseFields body
            rw [← same, attachResponse, drop_behind messageHeader 20 12 rfl, drop_behind int64 12 4 rfl,
              drop_behind int32 4 0 rfl, List.drop_zero, leaseBlock.decode_encode, carried]
            rfl
      | detachResponse response => exact absurd (opened (Option.some.inj sent).symm) (by decide)
      | leaseRevoked notice => exact absurd (opened (Option.some.inj sent).symm) (by decide)
      | poolAnnounce announce => cases sent
  | stranger =>
      have whole := grants.whole
      have schema := grants.schema
      have outside : foreign bytes = true := genuine
      rw [foreign, Bool.or_eq_true, decide_eq_true_eq, bne_iff_ne] at outside
      rcases outside with short | other
      · rw [width_messageHeader] at short
        dsimp only at whole
        omega
      · exact absurd schema other

/-- What a call hears fits its attempt. -/
theorem Sound.hears (sound : Sound o config started system) {call : Call} {packet : Packet} {allocates : Bool}
    {attach : Attach} (running : call ∈ system.calls) (sent : packet ∈ system.wire)
    (heard : Exchange.hears call.attach.returned call.handler call.attach ⟨packet.bytes, allocates⟩ = some attach) :
    system.Fit { call with attach } := by
  have fit := sound.calls call running
  rcases hears_cases heard with rfl | rfl | ⟨info, decoded, rfl⟩
  · exact fit
  · exact ⟨fit.attempt, fit.won⟩
  · refine ⟨fit.attempt, fun ok => ?_⟩
    obtain ⟨response, result, logged, code, correlated, shown⟩ := (sound.wire packet sent).grants decoded ok
    obtain ⟨index, request, body, lease, carried, answers, carries, granted⟩ :=
      sound.answered response result logged code
    have same : request.correlationId = call.current.correlationId := by
      rw [answers, Int64.ofInt_toInt] at correlated
      exact correlated
    have own := sound.attempt_unique granted.attempt fit.attempt same
    obtain ⟨rfl, rfl⟩ := Prod.mk.inj own
    exact ⟨response, body, lease, ⟨result, logged⟩, code, carried, answers, shown body carried, carries, granted⟩

/-- Only the code of a role is read as the role. -/
theorem getRole_code {value : UInt8} {role : Driver.Role} (read : getRole value = some role) : value = role.code := by
  unfold getRole at read
  split at read
  next same => cases read; exact same
  split at read
  next same => cases read; exact same
  split at read
  next same => cases read; exact same
  · cases read

/-- A client that was granted its request updates its lease to the granted one. -/
theorem Fit.updates {call : Call} (fit : system.Fit call) (ok : call.attach.info.code = codeOk) (client : Client) :
    system.Held call.index (client.updateLease call.attach.info call.attach.clientId call.request.role) := by
  intro _
  obtain ⟨response, body, lease, won⟩ := fit.won ok
  refine ⟨call.current, lease, won.granted, ?_, ?_, won.granted.asked.client.symm, ?_⟩
  · exact (congrArg LeaseBlock.leaseId won.shown).trans won.carries.leaseId
  · exact (congrArg LeaseBlock.streamId won.shown).trans won.carries.streamId
  · exact getRole_code won.granted.asked.role

/-- A client that keeps its lease, or gives it up, still holds what it was granted. -/
theorem Held.keeps {index : Nat} {client client' : Client} (held : system.Held index client)
    (kept : client'.activeLeaseId = client.activeLeaseId ∧ client'.activeStreamId = client.activeStreamId ∧
      client'.clientId = client.clientId ∧ client'.role = client.role) : system.Held index client' := by
  intro active
  obtain ⟨leaseId, streamId, clientId, role⟩ := kept
  obtain ⟨request, lease, granted, same⟩ := held (leaseId ▸ active)
  exact ⟨request, lease, granted, leaseId.trans same.leaseId, streamId.trans same.streamId,
    clientId.trans same.clientId, role.trans same.role⟩

/-- The answers of the driver on the wire are its messages. -/
theorem mem_answers {events : List Driver.Event} {packet : Packet} (member : packet ∈ answers events) :
    packet.sender = .driver ∧
      ∃ message result, controlBytes message = some packet.bytes ∧ .offered message result ∈ events := by
  obtain ⟨event, present, shown⟩ := List.mem_flatMap.mp member
  cases event with
  | offered message result =>
      dsimp only at shown
      split at shown
      next bytes sent =>
        rcases mem_offered (List.mem_append_right [] shown) with none | rfl
        · cases none
        · exact ⟨rfl, message, result, sent, present⟩
      · cases shown
  | _ => cases shown

/-- Every step of the driver keeps the system sound, when a request to attach comes from an attempt. -/
theorem Sound.operates (sound : Sound o config started system) {sender : Party} {op : Driver.Op}
    (asks : ∀ read, op = .attach read → ∃ index request, sender = .client index ∧ read = request.heard ∧
      (index, request) ∈ system.attempts) : Sound o config started (system.operate o sender op) := by
  have tidy : Driver.Tidy system.driver := by
    rw [sound.driver]
    exact Driver.run_tidy (Driver.boot_tidy o config started) _
  have log := Driver.step_log (o := o) tidy op
  generalize events : Driver.newEvents system.driver (Driver.step o system.driver op) = new at log
  have operated : system.operate o sender op = { system with
      driver := Driver.step o system.driver op
      wire := system.wire ++ answers new
      ops := system.ops ++ [op]
      granted := system.granted ++ grantees sender new } := by
    rw [operate, events]
  have gained : grantees sender new = [] ∧ Driver.grants new = [] ∨ ∃ index request lease, sender = .client index ∧
      op = .attach request.heard ∧ Driver.grants new = [lease] ∧ grantees sender new = [(index, lease)] ∧
        (index, request) ∈ system.attempts ∧ Driver.Asked request.heard lease := by
    have one := Driver.step_grants (o := o) tidy op
    rw [events] at one
    rcases one with none | ⟨read, lease, attaches, single, asked⟩
    · left
      refine ⟨?_, none⟩
      unfold grantees
      rw [none]
      split <;> rfl
    · right
      obtain ⟨index, request, client, rfl, attempt⟩ := asks read attaches
      refine ⟨index, request, lease, client, attaches, single, ?_, attempt, asked⟩
      rw [client, grantees, single]
      rfl
  have later : Later system (system.operate o sender op) := by
    rw [operated]
    exact ⟨List.Subset.refl _, List.subset_append_left _ _, log ▸ List.subset_append_left _ _⟩
  constructor
  · rw [operated, Driver.run_append, Driver.run_cons, Driver.run_nil, ← sound.driver]
  · rw [operated]
    dsimp only
    rw [log, Driver.grants_append, List.map_append, sound.granted]
    rcases gained with ⟨none, ungranted⟩ | ⟨index, request, lease, -, -, single, entry, -⟩
    · rw [none, ungranted, List.map_nil]
    · rw [single, entry]
      rfl
  · intro entry member
    have parts : entry ∈ system.granted ++ grantees sender new := by
      rw [operated] at member
      exact member
    rcases List.mem_append.mp parts with old | added
    · obtain ⟨request, own⟩ := sound.asked entry old
      exact ⟨request, own.later later⟩
    · rcases gained with ⟨none, -⟩ | ⟨index, request, lease, -, -, -, listed, attempt, asked⟩
      · rw [none] at added
        cases added
      · rw [listed, List.mem_singleton] at added
        subst added
        exact ⟨request, later.attempts attempt, member, asked⟩
  · intro response result sent ok
    have parts : .offered (.attachResponse response) result ∈ system.driver.world.log ++ new := by
      rw [operated] at sent
      exact log ▸ sent
    rcases List.mem_append.mp parts with old | added
    · exact (sound.answered response result old ok).later later
    · rw [← events] at added
      obtain ⟨read, body, lease, attaches, correlated, carried, -, single, asked, carries⟩ :=
        Driver.step_answers tidy added ok
      rw [events] at single
      rcases gained with ⟨-, ungranted⟩ | ⟨index, request, lease', -, attaches', single', entry, attempt, -⟩
      · rw [single] at ungranted
        cases ungranted
      · rw [single] at single'
        cases single'
        rw [attaches] at attaches'
        cases attaches'
        refine ⟨index, request, body, lease, carried, correlated, carries, later.attempts attempt, ?_, asked⟩
        rw [operated]
        exact List.mem_append_right _ (entry ▸ List.mem_singleton_self _)
  · rw [operated]
    exact sound.distinct
  · rw [operated]
    exact sound.apart
  · intro call member
    rw [operated] at member
    exact (sound.calls call member).later later
  · intro packet member
    have parts : packet ∈ system.wire ++ answers new := by
      rw [operated] at member
      exact member
    rcases List.mem_append.mp parts with old | added
    · exact (sound.wire packet old).later later
    · obtain ⟨sender', bytes⟩ := packet
      obtain ⟨rfl, message, result, shown, present⟩ := mem_answers added
      refine ⟨message, result, shown, ?_⟩
      rw [operated]
      exact log ▸ List.mem_append_right _ present
  · intro index
    exact (show system.Held index (system.clients index) from sound.held index).later later

/-- Packets from outside are ignored. -/
theorem onControlFragment_foreign {bytes : List UInt8} (outside : foreign bytes = true) :
    onControlFragment bytes = stop none := by
  obtain ignored | ⟨header, rest, rfl, schema, -⟩ := onControlFragment_cases bytes
  · exact ignored
  · rw [foreign, messageHeader.decode_encode, List.length_append, messageHeader.length_encode, Bool.or_eq_true,
      decide_eq_true_eq, bne_iff_ne] at outside
    exact (outside.elim (by omega) fun other => absurd schema other)

/-- The driver handles the requests of clients only. -/
theorem Genuine.served {packet : Packet} {op : Driver.Op} (genuine : system.Genuine packet)
    (heard : onControlFragment packet.bytes = value op) : ∃ index, packet.sender = .client index ∧
      ((∃ request, op = .attach request.heard ∧ (index, request) ∈ system.attempts) ∨
        (∃ request : DetachRequest, op = request.op ∧ system.Owns index request.leaseId) ∨
          ∃ request : LeaseKeepalive, op = request.op ∧ system.Owns index request.leaseId) := by
  obtain ⟨sender, bytes⟩ := packet
  dsimp only at heard
  cases sender with
  | client index =>
      refine ⟨index, rfl, ?_⟩
      rcases genuine with ⟨request, sent, attempt⟩ | ⟨request, sent, owns⟩ | ⟨request, nowNs, sent, owns⟩
      · rw [show bytes = sendAttach request from sent, sendAttach_heard] at heard
        exact .inl ⟨request, (Scan.value.inj heard).symm, attempt⟩
      · rw [show bytes = sendDetach request from sent, sendDetach_heard] at heard
        exact .inr (.inl ⟨request, (Scan.value.inj heard).symm, owns⟩)
      · rw [show bytes = sendKeepalive request nowNs from sent, sendKeepalive_heard] at heard
        exact .inr (.inr ⟨request, (Scan.value.inj heard).symm, owns⟩)
  | driver =>
      obtain ⟨message, result, sent, -⟩ := genuine
      rw [controlBytes_ignored sent] at heard
      cases heard
  | stranger =>
      rw [onControlFragment_foreign genuine] at heard
      cases heard

/-- Before and after a poll a call asks for the same attempt, or it asks again. -/
theorem polled_cases (call : Call) (fresh : Ids) :
    (call.retried = true ∧ ((call.polled fresh).correlationId = fresh.correlationId ∧
      (call.polled fresh).info.code = codeInternalError)) ∨
    (call.retried = false ∧ (call.polled fresh).correlationId = call.attach.correlationId ∧
      (call.polled fresh).clientId = call.attach.clientId ∧ (call.polled fresh).info = call.attach.info) := by
  unfold Call.polled Call.retried Attach.attachPolled Attach.asyncPolled Attach.polled
  cases call.attach.returned <;> cases call.attach.done <;> cases call.attach.retries <;> cases call.sync <;> simp

/-- A new call keeps the system sound when its correlation id is new. -/
theorem Sound.attaches (sound : Sound o config started system) (index : Nat) (request : AttachRequest) (sync : Bool)
    (fresh : Ids) (unused : (request.normalize fresh).correlationId ∉
      system.attempts.map fun attempt => attempt.2.correlationId) :
    Sound o config started (system.attach index request sync fresh) := by
  apply sound.moves
  · rfl
  · rfl
  · rfl
  · exact List.subset_append_left _ _
  · dsimp only [attach]
    rw [List.map_append, List.nodup_append_comm]
    exact List.nodup_cons.mpr ⟨unused, sound.distinct⟩
  · dsimp only [attach]
    rw [List.map_append, List.nodup_append_comm]
    refine List.nodup_cons.mpr ⟨fun used => unused (sound.known ?_), sound.apart⟩
    exact used
  · intro call member
    rcases List.mem_append.mp member with old | new
    · exact .inl old
    · rw [List.mem_singleton.mp new]
      refine .inr ⟨List.mem_append_right _ (List.mem_singleton_self _), fun ok => ?_⟩
      have other : codeInternalError ≠ codeOk := by decide
      exact absurd ok other
  · exact fun packet member => .inl member
  · exact fun index => .inl rfl

/-- A poll keeps the system sound when a call that asks again has a new correlation id. -/
theorem Sound.polls (sound : Sound o config started system) {position : Nat} {call : Call}
    (found : system.calls[position]? = some call) (fresh : Ids) (unused : call.retried = true →
      fresh.correlationId ∉ system.attempts.map fun attempt => attempt.2.correlationId) :
    Sound o config started (system.poll position call fresh) := by
  have fit := sound.calls call (List.mem_of_getElem? found)
  have attempts : system.attempts ⊆ (system.poll position call fresh).attempts := by
    dsimp only [poll]
    split
    · exact List.subset_append_left _ _
    · exact List.Subset.refl _
  have later : Later system (system.poll position call fresh) :=
    ⟨attempts, List.Subset.refl _, List.Subset.refl _⟩
  apply sound.moves
  · rfl
  · rfl
  · rfl
  · exact attempts
  · obtain ⟨again, renewed, -⟩ | ⟨waits, -⟩ := polled_cases call fresh
    · dsimp only [poll]
      rw [if_pos again, List.map_append, List.nodup_append_comm]
      refine List.nodup_cons.mpr ⟨?_, sound.distinct⟩
      dsimp only [Call.current]
      rw [renewed]
      exact unused again
    · dsimp only [poll]
      rw [if_neg (by rw [waits]; decide)]
      exact sound.distinct
  · dsimp only [poll]
    rw [List.map_set]
    obtain ⟨again, renewed, -⟩ | ⟨-, same, -⟩ := polled_cases call fresh
    · rw [renewed]
      exact sound.apart.set fun used => unused again (sound.known used)
    · rw [same, set_same (by rw [List.getElem?_map, found]; rfl)]
      exact sound.apart
  · intro other member
    rcases List.mem_or_eq_of_mem_set member with old | rfl
    · exact .inl old
    · right
      obtain ⟨again, -, code⟩ | ⟨waits, correlationId, clientId, info⟩ := polled_cases call fresh
      · constructor
        · dsimp only [poll]
          rw [if_pos again]
          exact List.mem_append_right _ (List.mem_singleton_self _)
        · intro ok
          dsimp only at ok
          rw [code] at ok
          exact absurd ok (by decide)
      · have same : ({ call with attach := call.polled fresh } : Call).current = call.current := by
          dsimp only [Call.current]
          rw [correlationId, clientId]
        constructor
        · rw [same]
          exact attempts fit.attempt
        · intro ok
          rw [same]
          dsimp only at ok ⊢
          rw [info] at ok ⊢
          obtain ⟨response, body, lease, won⟩ := fit.won ok
          exact ⟨response, body, lease, won.later later⟩
  · exact fun packet member => .inl member
  · intro index
    by_cases won : call.returns ∧ call.attach.info.code = codeOk
    · have clients : (system.poll position call fresh).clients = Function.update system.clients call.index
          ((system.clients call.index).updateLease call.attach.info call.attach.clientId call.request.role) :=
            if_pos won
      rw [clients]
      by_cases here : index = call.index
      · subst here
        rw [Function.update_self]
        exact .inr ((fit.updates won.2 _).later later)
      · exact .inl (Function.update_of_ne here _ _)
    · exact .inl (congrFun (if_neg won) index)

/-- A client that offers a fragment that it may offer, and keeps its lease or gives it up, keeps the system sound. -/
theorem Sound.offers (sound : Sound o config started system) {index : Nat} {client : Client} {bytes : List UInt8}
    (result : Int) (genuine : system.Genuine ⟨.client index, bytes⟩) (held : system.Held index client) :
    Sound o config started (system.offer index client bytes result) := by
  have later : Later system (system.offer index client bytes result) :=
    ⟨List.Subset.refl _, List.Subset.refl _, List.Subset.refl _⟩
  apply sound.moves
  · rfl
  · rfl
  · rfl
  · exact List.Subset.refl _
  · exact sound.distinct
  · exact sound.apart
  · exact fun call member => .inl member
  · intro packet member
    rcases mem_offered member with old | rfl
    · exact .inl old
    · exact .inr (genuine.later later)
  · intro other
    dsimp only [offer]
    by_cases here : other = index
    · subst here
      rw [Function.update_self]
      exact .inr (held.later later)
    · exact .inl (Function.update_of_ne here _ _)

/-- A turn gives up the lease, or it keeps it. -/
theorem Sound.turns (sound : Sound o config started system) (context : Context) (index : Nat) (nowNs : UInt64)
    (result : Int) : system.Held index ((system.clients index).turn context nowNs result).2 := by
  unfold Client.turn
  split
  · exact fun active => absurd rfl active
  · split
    · exact (sound.held index).keeps (Client.keepalive_lease context (system.clients index) nowNs result)
    · exact sound.held index

/-- Every step with a new correlation id for each attempt keeps the system sound. -/
theorem Sound.step (sound : Sound o config started system) {contexts : Nat → Context} {action : Action}
    (met : system.fresh action = true) (stepped : system.step o contexts action = some system') :
    Sound o config started system' := by
  have alive (index : Nat) (nowNs : UInt64) : system.Genuine
      ⟨.client index, sendKeepalive (keepaliveOf (system.clients index)) nowNs⟩ :=
    .inr (.inr ⟨keepaliveOf (system.clients index), nowNs, rfl, sound.owns index⟩)
  cases action with
  | attach index request sync fresh =>
      cases stepped
      apply sound.attaches
      simpa [System.fresh] using met
  | send position result =>
      obtain ⟨call, found, moved⟩ := Option.bind_eq_some_iff.mp stepped
      cases moved
      have fit := sound.calls call (List.mem_of_getElem? found)
      have sent := sound.offers result (.inl ⟨call.current, rfl, fit.attempt⟩) (sound.held call.index)
      rwa [offer, Function.update_eq_self] at sent
  | hear position packet allocates =>
      obtain ⟨call, found, later⟩ := Option.bind_eq_some_iff.mp stepped
      obtain ⟨fragment, sent, last⟩ := Option.bind_eq_some_iff.mp later
      obtain ⟨attach, heard, moved⟩ := Option.bind_eq_some_iff.mp last
      cases moved
      have fit := sound.hears (List.mem_of_getElem? found) (List.mem_of_getElem? sent) heard
      have same : attach.correlationId = call.attach.correlationId := by
        rcases hears_cases heard with rfl | rfl | ⟨info, -, rfl⟩ <;> rfl
      apply sound.moves
      · rfl
      · rfl
      · rfl
      · exact List.Subset.refl _
      · exact sound.distinct
      · dsimp only
        rw [List.map_set, same, set_same (by rw [List.getElem?_map, found]; rfl)]
        exact sound.apart
      · intro other member
        rcases List.mem_or_eq_of_mem_set member with old | rfl
        · exact .inl old
        · exact .inr (fit.later ⟨List.Subset.refl _, List.Subset.refl _, List.Subset.refl _⟩)
      · exact fun packet member => .inl member
      · exact fun index => .inl rfl
  | poll position fresh =>
      obtain ⟨call, found, moved⟩ := Option.bind_eq_some_iff.mp stepped
      cases moved
      apply sound.polls found
      intro again
      simpa [System.fresh, found, again] using met
  | turn index nowNs result =>
      have held := sound.turns (contexts index) index nowNs result
      dsimp only [System.step] at stepped
      split at stepped
      next result' client' turned =>
        cases stepped
        rw [turned] at held
        exact sound.offers result' (alive index nowNs) held
      next other client' _ turned =>
        cases stepped
        rw [turned] at held
        have kept := sound.offers (-1) (alive index nowNs) held
        rwa [offer, offered, if_pos (by decide), List.append_nil] at kept
  | keepalive index nowNs result =>
      cases stepped
      exact sound.offers result (alive index nowNs)
        ((sound.held index).keeps (Client.keepalive_lease _ _ _ _))
  | detach index correlationId result =>
      cases stepped
      exact sound.offers result
        (.inr (.inl ⟨detachOf (system.clients index) correlationId, rfl, sound.owns index⟩)) (sound.held index)
  | serve position =>
      obtain ⟨packet, sent, later⟩ := Option.bind_eq_some_iff.mp stepped
      split at later
      · cases later
      · cases later
        exact sound
      next op heard =>
        cases later
        apply sound.operates
        rintro read rfl
        obtain ⟨index, sender, asks | detaches | renews⟩ :=
          (sound.wire packet (List.mem_of_getElem? sent)).served heard
        · obtain ⟨request, same, attempt⟩ := asks
          exact ⟨index, request, sender, Driver.Op.attach.inj same, attempt⟩
        · obtain ⟨request, same, -⟩ := detaches
          cases same
        · obtain ⟨request, same, -⟩ := renews
          cases same
  | expire =>
      cases stepped
      exact sound.operates fun read same => by cases same
  | announce =>
      cases stepped
      exact sound.operates fun read same => by cases same
  | stranger bytes =>
      dsimp only [System.step] at stepped
      split at stepped
      next outside =>
        cases stepped
        apply sound.moves
        · rfl
        · rfl
        · rfl
        · exact List.Subset.refl _
        · exact sound.distinct
        · exact sound.apart
        · exact fun call member => .inl member
        · intro packet member
          rcases List.mem_append.mp member with old | new
          · exact .inl old
          · rw [List.mem_singleton.mp new]
            exact .inr outside
        · exact fun index => .inl rfl
      · cases stepped

/-- A booted system is sound. -/
theorem boot_sound (o : Driver.Oracle) (config : Driver.Config) (started : Bool) :
    Sound o config started (boot o config started) where
  driver := rfl
  granted := by
    obtain ⟨labels, path, talk⟩ := Driver.boot_trace o config started
    refine (Driver.trace_ungranted path fun label member => ?_).symm
    rw [talk label member]
    rfl
  asked := fun entry member => by cases member
  answered := fun response result sent => absurd sent (Driver.boot_silent o config started)
  distinct := List.nodup_nil
  apart := List.nodup_nil
  calls := fun call member => by cases member
  wire := fun packet member => by cases member
  held := fun index active => absurd rfl active

/-- A fresh run keeps the system sound. -/
theorem run_sound {contexts : Nat → Context} {actions : List Action}
    (ran : GuardedRun.runWhile fresh (System.step o contexts) (boot o config started) actions = some system) :
    Sound o config started system :=
  GuardedRun.keeps (fun _ _ _ sound met stepped => sound.step met stepped) ran (boot_sound o config started)

/-- A lease is granted once. -/
theorem Sound.grantee_unique (sound : Sound o config started system)
    (few : system.ops.countP Driver.Op.attaches < 2 ^ 64) {first second : Nat × Driver.Lease}
    (one : first ∈ system.granted) (two : second ∈ system.granted) (same : first.2.leaseId = second.2.leaseId) :
    first = second := by
  obtain ⟨distinct, -⟩ := Driver.run_numbered o config started system.ops few
  rw [← sound.driver, ← sound.granted, List.map_map] at distinct
  exact List.inj_on_of_nodup_map distinct one two same

/-- A client that holds a lease was granted it by the driver, and no other client holds it. -/
theorem Sound.agrees (sound : Sound o config started system) :
    (∀ index, (system.clients index).activeLeaseId ≠ 0 →
      ∃ request lease, system.Granted index request lease ∧ Matches (system.clients index) lease) ∧
    (system.ops.countP Driver.Op.attaches < 2 ^ 64 → ∀ index index', (system.clients index).activeLeaseId ≠ 0 →
      (system.clients index).activeLeaseId = (system.clients index').activeLeaseId → index = index') := by
  refine ⟨sound.held, fun few index index' active same => ?_⟩
  obtain ⟨request, lease, granted, shows⟩ := sound.held index active
  obtain ⟨request', lease', granted', shows'⟩ := sound.held index' (same ▸ active)
  have identifier : lease.leaseId = lease'.leaseId := by
    rw [← shows.leaseId, same, shows'.leaseId]
  exact congrArg Prod.fst (sound.grantee_unique few granted.listed granted'.listed identifier)

end Moves

end System

/--
In every order of the steps of the driver and its clients, with fragments lost, repeated, delayed and reordered, a
client only holds a lease that the driver granted to a request of this client, with what the request asked for, and
no two clients hold one lease. The correlation ids of different attempts differ.
-/
theorem run_granted (o : Driver.Oracle) (config : Driver.Config) (started : Bool) (contexts : Nat → Context)
    (actions : List Action) (system : System)
    (ran : GuardedRun.runWhile System.fresh (System.step o contexts) (System.boot o config started) actions =
      some system) :
    (∀ index, (system.clients index).activeLeaseId ≠ 0 →
      ∃ request lease, system.Granted index request lease ∧ Matches (system.clients index) lease) ∧
    system.granted.map Prod.snd = Driver.grants system.driver.world.log ∧
    (system.ops.countP Driver.Op.attaches < 2 ^ 64 → ∀ index index', (system.clients index).activeLeaseId ≠ 0 →
      (system.clients index).activeLeaseId = (system.clients index').activeLeaseId → index = index') := by
  have sound := System.run_sound ran
  obtain ⟨held, single⟩ := sound.agrees
  exact ⟨held, sound.granted, single⟩

/-- Two attempts with one correlation id both take the lease that was granted to one of them. -/
example : (GuardedRun.run (System.step Driver.plainOracle fun _ => ⟨1000000000, 3⟩)
    (System.boot Driver.plainOracle Driver.plainConfig false)
    [.attach 0 (AttachRequest.init 1 1) true ⟨7, 9⟩, .attach 1 (AttachRequest.init 1 1) true ⟨7, 10⟩, .send 0 1,
      .serve 0, .hear 0 1 true, .hear 1 1 true, .poll 0 ⟨8, 11⟩, .poll 1 ⟨9, 12⟩]).map
        (fun system => ((system.clients 0).activeLeaseId, (system.clients 1).activeLeaseId)) = some (6, 6) := by
  decide +kernel

/-- A producer attaches, and then a consumer, which also hears the answer to the producer. -/
def twoAttach : List Action :=
  [.attach 0 (AttachRequest.init 1 1) true ⟨7, 9⟩, .send 0 1, .serve 0, .hear 0 1 true, .poll 0 ⟨8, 10⟩,
    .attach 1 (AttachRequest.init 1 2) false ⟨11, 12⟩, .send 1 1, .serve 2, .hear 1 1 true, .hear 1 3 true,
    .poll 1 ⟨13, 14⟩]

def bothAttached : Option System :=
  GuardedRun.runWhile System.fresh (System.step Driver.plainOracle fun _ => ⟨1000000000, 3⟩)
    (System.boot Driver.plainOracle Driver.plainConfig false) twoAttach

theorem bothAttached_some : bothAttached.isSome = true := by decide +kernel

theorem bothAttached_granted :
    (∃ request lease, (bothAttached.get bothAttached_some).Granted 0 request lease ∧
      Matches ((bothAttached.get bothAttached_some).clients 0) lease) ∧
    ((bothAttached.get bothAttached_some).clients 0).activeLeaseId ≠
      ((bothAttached.get bothAttached_some).clients 1).activeLeaseId := by
  have active : ((bothAttached.get bothAttached_some).clients 0).activeLeaseId ≠ 0 := by decide +kernel
  obtain ⟨held, -, single⟩ :=
    run_granted Driver.plainOracle Driver.plainConfig false (fun _ => ⟨1000000000, 3⟩) twoAttach
      (bothAttached.get bothAttached_some) (Option.some_get bothAttached_some).symm
  refine ⟨held 0 active, fun same => ?_⟩
  have one := single (by decide +kernel) 0 1 active same
  cases one

end TensorPool.Protocol
