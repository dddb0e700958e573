/-
This file joins the driver and its clients through the fragments of their control stream.
-/

import TensorPool.Driver.Grants
import TensorPool.DriverClient.Lease
import TensorPool.Library.GuardedRun
import TensorPool.Protocol.Answers

namespace TensorPool.Protocol

open Scan Flyweight FixedField
open DriverClient

/-- Every party publishes on the control stream, and a stranger publishes messages of another schema. -/
inductive Party where
  | client (index : Nat)
  | driver
  | stranger
  deriving DecidableEq, Repr

/-- A fragment of the control stream with the party that offered it. -/
structure Packet where
  sender : Party
  bytes : List UInt8
  deriving DecidableEq, Repr

/-- The driver and its clients drop such a fragment at its header. -/
def foreign (bytes : List UInt8) : Bool :=
  bytes.length < messageHeader.width || (messageHeader.decode bytes).schemaId != schemaId

/-- A running `tp_driver_attach`, or a `tp_async_attach_t`, of one of the driver clients. -/
structure Call where
  index : Nat
  sync : Bool
  request : AttachRequest
  attach : Attach
  deriving DecidableEq, Repr

namespace Call

/-- The request of a call has the ids of its last attempt. -/
def current (call : Call) : AttachRequest :=
  { call.request with correlationId := call.attach.correlationId, clientId := call.attach.clientId }

def handler (call : Call) : Fragment → Option Attach :=
  if call.sync then call.attach.responseHandler else call.attach.asyncHandler

def polled (call : Call) (fresh : Ids) : Attach :=
  if call.sync then call.attach.attachPolled fresh else call.attach.asyncPolled fresh

/-- The call will ask again with other ids. -/
def retried (call : Call) : Bool := !call.attach.returned && call.attach.done && call.attach.retries

/-- The call will return, and its client then updates its lease when it was granted one. -/
def returns (call : Call) : Bool := !call.attach.returned && call.attach.done && !call.attach.retries

end Call

/-- This is `tp_driver_normalize_attach_request`. -/
def AttachRequest.normalize (request : AttachRequest) (fresh : Ids) : AttachRequest :=
  { request with
    correlationId := if request.correlationId = 0 then fresh.correlationId else request.correlationId
    clientId := if request.clientId = 0 then fresh.clientId else request.clientId }

/-- This is the request as the driver reads it. -/
def AttachRequest.heard (request : AttachRequest) : Driver.AttachRequest where
  correlationId := request.correlationId.toInt
  streamId := request.streamId
  clientId := request.clientId
  role := getRole request.role
  expectedLayoutVersion := request.expectedLayoutVersion
  publishMode := getPublishMode request.publishMode
  requireHugepages := getHugepagesPolicy request.requireHugepages
  desiredNodeId := request.desiredNodeId

/--
The driver, its clients, their calls, and every fragment that was ever offered.
The last three fields are history: the operations of the driver, the requests with their clients, and the
leases with the clients whose requests they answer. No party reads them.
-/
structure System where
  driver : Driver.State
  clients : Nat → Client := fun _ => {}
  calls : List Call := []
  wire : List Packet := []
  ops : List Driver.Op := []
  attempts : List (Nat × AttachRequest) := []
  granted : List (Nat × Driver.Lease) := []

/--
The parties act in any order. A fragment of the wire is heard by any call and by the driver at any time and any
number of times, or never; so fragments may be lost, repeated, delayed and reordered.
-/
inductive Action where
  | attach (index : Nat) (request : AttachRequest) (sync : Bool) (fresh : Ids)
  | send (position : Nat) (result : Int)
  | hear (position packet : Nat) (allocates : Bool)
  | poll (position : Nat) (fresh : Ids)
  | turn (index : Nat) (nowNs : UInt64) (result : Int)
  | keepalive (index : Nat) (nowNs : UInt64) (result : Int)
  | detach (index : Nat) (correlationId : Int64) (result : Int)
  | serve (packet : Nat)
  | expire
  | announce
  | stranger (bytes : List UInt8)
  deriving DecidableEq, Repr

/-- The keepalive of a client names its lease. -/
def keepaliveOf (client : Client) : LeaseKeepalive where
  leaseId := client.activeLeaseId
  streamId := client.activeStreamId
  clientId := client.clientId
  role := client.role

/-- The detach of a client names its lease. -/
def detachOf (client : Client) (correlationId : Int64) : DetachRequest where
  correlationId := correlationId
  leaseId := client.activeLeaseId
  streamId := client.activeStreamId
  clientId := client.clientId
  role := client.role

/-- An offer that is not taken puts nothing on the wire. -/
def offered (sender : Party) (bytes : List UInt8) (result : Int) : List Packet :=
  if result < 0 then [] else [⟨sender, bytes⟩]

/-- These are the fragments of the control stream among the messages that the driver offers. -/
def answers (events : List Driver.Event) : List Packet :=
  events.flatMap fun event =>
    match event with
    | .offered message result =>
        match controlBytes message with
        | some bytes => offered .driver bytes result
        | none => []
    | _ => []

/-- The leases that the driver grants to the sender of a request. -/
def grantees (sender : Party) (events : List Driver.Event) : List (Nat × Driver.Lease) :=
  match sender with
  | .client index => (Driver.grants events).map fun lease => (index, lease)
  | _ => []

namespace System

/-- The driver takes a step, and its answers go out. -/
def operate (o : Driver.Oracle) (system : System) (sender : Party) (op : Driver.Op) : System :=
  let driver := Driver.step o system.driver op
  let events := Driver.newEvents system.driver driver
  { system with
    driver
    wire := system.wire ++ answers events
    ops := system.ops ++ [op]
    granted := system.granted ++ grantees sender events }

/-- A client changes and offers a fragment. -/
def offer (system : System) (index : Nat) (client : Client) (bytes : List UInt8) (result : Int) : System :=
  { system with
    clients := Function.update system.clients index client
    wire := system.wire ++ offered (.client index) bytes result }

/-- A call starts with the ids of its request, or with fresh ones. -/
def attach (system : System) (index : Nat) (request : AttachRequest) (sync : Bool) (fresh : Ids) : System :=
  let request' := request.normalize fresh
  { system with
    calls := system.calls ++ [{
      index, sync, request := request', attach := {
        correlationId := request'.correlationId, clientId := request'.clientId,
          autoClientId := request.clientId == 0 } }]
    attempts := system.attempts ++ [(index, request')] }

/-- A call goes on after a poll: it waits, it asks again, or it returns and updates the lease that it was granted. -/
def poll (system : System) (position : Nat) (call : Call) (fresh : Ids) : System :=
  let call' := { call with attach := call.polled fresh }
  { system with
    clients :=
      if call.returns ∧ call.attach.info.code = codeOk then
        Function.update system.clients call.index
          ((system.clients call.index).updateLease call.attach.info call.attach.clientId call.request.role)
      else system.clients
    calls := system.calls.set position call'
    attempts := if call.retried then system.attempts ++ [(call.index, call'.current)] else system.attempts }

/-- A step fails where a position is unknown or a read would leave its fragment. -/
def step (o : Driver.Oracle) (contexts : Nat → Context) (system : System) : Action → Option System
  | .attach index request sync fresh => some (system.attach index request sync fresh)
  | .send position result => do
      let call ← system.calls[position]?
      some { system with wire := system.wire ++ offered (.client call.index) (sendAttach call.current) result }
  | .hear position packet allocates => do
      let call ← system.calls[position]?
      let packet ← system.wire[packet]?
      let attach ← Exchange.hears call.attach.returned call.handler call.attach ⟨packet.bytes, allocates⟩
      some { system with calls := system.calls.set position { call with attach } }
  | .poll position fresh => do
      let call ← system.calls[position]?
      some (system.poll position call fresh)
  | .turn index nowNs result =>
      let client := system.clients index
      match client.turn (contexts index) nowNs result with
      | (.offered result, client') =>
        some (system.offer index client' (sendKeepalive (keepaliveOf client) nowNs) result)
      | (_, client') => some { system with clients := Function.update system.clients index client' }
  | .keepalive index nowNs result =>
      let client := system.clients index
      some (system.offer index (client.keepalive (contexts index) nowNs result)
        (sendKeepalive (keepaliveOf client) nowNs) result)
  | .detach index correlationId result =>
      let client := system.clients index
      some (system.offer index client (sendDetach (detachOf client correlationId)) result)
  | .serve packet => do
      let packet ← system.wire[packet]?
      match onControlFragment packet.bytes with
      | fault => none
      | stop _ => some system
      | value op => some (system.operate o packet.sender op)
  | .expire => some (system.operate o .driver .expire)
  | .announce => some (system.operate o .driver .announce)
  | .stranger bytes => if foreign bytes then some { system with wire := system.wire ++ [⟨.stranger, bytes⟩] }
    else none

/-- A new attempt has a correlation id of its own. -/
def fresh (system : System) : Action → Bool
  | .attach _ request _ fresh =>
      !(system.attempts.map fun attempt => attempt.2.correlationId).contains (request.normalize fresh).correlationId
  | .poll position fresh =>
      match system.calls[position]? with
      | some call =>
          !call.retried || !(system.attempts.map fun attempt => attempt.2.correlationId).contains fresh.correlationId
      | none => true
  | _ => true

/-- The system starts with a driver that was initialized or started. -/
def boot (o : Driver.Oracle) (config : Driver.Config) (started : Bool) : System where
  driver := Driver.boot o config started

end System

end TensorPool.Protocol
