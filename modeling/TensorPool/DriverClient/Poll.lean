/-
This file follows the attach and detach requests of a driver client through the fragments of the control stream.
-/

import TensorPool.DriverClient.Decode

namespace TensorPool.DriverClient

open Scan Flyweight FixedField
open Discovery (Refusal Text copyAscii)

def codeRejected : Int32 := 3

namespace DetachResponse

def templateId : UInt16 := 4
def blockLength : UInt16 := 12

end DetachResponse

/-- This is `tp_driver_detach_info_t`. -/
structure DetachInfo where
  correlationId : Int64 := 0
  code : Int32 := 0
  errorMessage : Text := []
  deriving DecidableEq, Repr

/-- This is `tp_driver_decode_detach_response`; an invalid code leaves the correlation id that was read. -/
def decodeDetachResponse (info : DetachInfo) (bytes : List UInt8) : Scan (Refusal × DetachInfo) DetachInfo := do
  stopIf (bytes.length < messageHeader.width) (⟨-1, some "tp_driver_decode_detach_response: invalid input"⟩, info)
  let header ← read messageHeader 0 bytes
  stopIf (header.schemaId ≠ schemaId ∨ header.templateId ≠ DetachResponse.templateId) (⟨1, none⟩, info)
  stopIf (schemaVersion < header.version)
    (⟨-1, some "tp_driver_decode_detach_response: unsupported schema version"⟩, info)
  stopIf (header.blockLength ≠ DetachResponse.blockLength)
    (⟨-1, some "tp_driver_decode_detach_response: block length mismatch"⟩, info)
  let correlationId ← read int64 8 bytes
  let info := { info with correlationId }
  let code ← read int32 16 bytes
  stopIf (code ∉ knownCodes) (⟨-1, some "tp_driver_decode_detach_response: invalid response code"⟩, info)
  let (_, text, _) ← data (bytes.drop 20)
  value { info with code, errorMessage := copyAscii messageLength text }

/-- A message of the control stream, and whether the pools that it lists can be allocated. -/
structure Fragment where
  bytes : List UInt8
  allocates : Bool
  deriving DecidableEq, Repr

/-- The part of `tp_driver_response_ctx_t` and of `tp_async_attach_t` that the responses change. -/
structure Attach where
  correlationId : Int64
  clientId : UInt32
  autoClientId : Bool
  done : Bool := false
  info : AttachInfo := { code := codeInternalError }
  returned : Bool := false
  deriving DecidableEq, Repr

/-- The ids of the next request. -/
structure Ids where
  correlationId : Int64
  clientId : UInt32
  deriving DecidableEq, Repr

/-- This is `strstr` on the characters of a text. -/
def contains (part text : Text) : Bool := (chars text).tails.any fun tail => part.isPrefixOf tail

def alreadyAttached : Text := "client_id already attached".toUTF8.toList

namespace Attach

def satisfied (attach : Attach) : Bool := attach.done && attach.info.code == codeOk

/-- This is `tp_driver_response_handler`; a response that does not decode ends the wait. -/
def responseHandler (attach : Attach) (fragment : Fragment) : Option Attach :=
  if attach.satisfied then some attach
  else
    match decodeAttachResponse fragment.allocates attach.correlationId attach.info fragment.bytes with
    | fault => none
    | stop refusal => some (if refusal.code < 0 then { attach with done := true } else attach)
    | value info => some { attach with info, done := true }

/-- This is `tp_driver_async_attach_handler`. -/
def asyncHandler (attach : Attach) (fragment : Fragment) : Option Attach :=
  if attach.satisfied then some attach
  else
    match decodeAttachResponse fragment.allocates attach.correlationId attach.info fragment.bytes with
    | fault => none
    | stop _ => some attach
    | value info => some { attach with info, done := true }

/-- The client chose its id itself, and another client has it. -/
def retries (attach : Attach) : Bool :=
  attach.info.code == codeRejected && attach.autoClientId && contains alreadyAttached attach.info.errorMessage

/-- After a poll the call asks again with other ids, returns the information, or goes on waiting. -/
def polled (clears : AttachInfo → AttachInfo) (attach : Attach) (fresh : Ids) : Attach :=
  if attach.returned || !attach.done then attach
  else if attach.retries then
    { attach with
      correlationId := fresh.correlationId, clientId := fresh.clientId, info := clears attach.info, done := false }
  else { attach with returned := true }

/-- This is the end of the loop in `tp_driver_attach`. -/
def attachPolled : Attach → Ids → Attach := polled fun _ => { code := codeInternalError }

/-- This is the end of `tp_driver_attach_poll`, which keeps the other fields of the response. -/
def asyncPolled : Attach → Ids → Attach := polled fun info => { info with code := codeInternalError }

end Attach

/-- This is `tp_async_detach_t`, where the code keeps the id of its request only in the response. -/
structure Detach where
  correlationId : Int64
  done : Bool := false
  info : DetachInfo := {}
  returned : Bool := false
  deriving DecidableEq, Repr

namespace Detach

/-- This is `tp_driver_async_detach_handler`. -/
def asyncHandler (detach : Detach) (fragment : Fragment) : Option Detach :=
  match decodeDetachResponse detach.info fragment.bytes with
  | fault => none
  | stop (_, info) => some { detach with info }
  | value info => some { detach with info, done := true }

/-- This is the end of `tp_driver_detach_poll`. -/
def asyncPolled (detach : Detach) : Detach := if detach.done then { detach with returned := true } else detach

end Detach

/-- A synchronous attach, an asynchronous attach and a detach hear the same fragments, the last one first. -/
structure Exchange where
  attach : Attach
  async : Attach
  detach : Detach
  fragments : List Fragment := []
  deriving DecidableEq, Repr

inductive Event where
  | fragment (fragment : Fragment)
  | attachPolled (fresh : Ids)
  | detachPolled

namespace Exchange

/-- Both attaches start with the same request. -/
def start (ids : Ids) (autoClientId : Bool) (detachId : Int64) : Exchange where
  attach := { correlationId := ids.correlationId, clientId := ids.clientId, autoClientId }
  async := { correlationId := ids.correlationId, clientId := ids.clientId, autoClientId }
  detach := { correlationId := detachId, info := { correlationId := detachId } }

/-- A call that has returned hears nothing. -/
def hears (returned : Bool) {σ : Type} (handler : Fragment → Option σ) (state : σ) (fragment : Fragment) : Option σ :=
  if returned then some state else handler fragment

def step (exchange : Exchange) : Event → Option Exchange
  | .fragment fragment => do
      let attach ← hears exchange.attach.returned exchange.attach.responseHandler exchange.attach fragment
      let async ← hears exchange.async.returned exchange.async.asyncHandler exchange.async fragment
      let detach ← hears exchange.detach.returned exchange.detach.asyncHandler exchange.detach fragment
      some { attach, async, detach, fragments := fragment :: exchange.fragments }
  | .attachPolled fresh =>
      some { exchange with attach := exchange.attach.attachPolled fresh, async := exchange.async.asyncPolled fresh }
  | .detachPolled => some { exchange with detach := exchange.detach.asyncPolled }

end Exchange

end TensorPool.DriverClient
