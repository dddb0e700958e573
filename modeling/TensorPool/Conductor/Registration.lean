/-
This file runs the asynchronous registrations of a client, from the call of the application to its answer.
-/

import Mathlib.Data.List.Basic
import Mathlib.Logic.Function.Basic

namespace TensorPool.Conductor

/-- A handle is for a publication or for a subscription, and each kind has its own pending list. -/
inductive Kind where
  | publication
  | subscription
  deriving DecidableEq, Repr

def Kind.word : Kind → String
  | .publication => "publication"
  | .subscription => "subscription"

inductive AsyncStatus where
  | pending
  | complete
  | error
  deriving DecidableEq, Repr

structure Failure where
  errcode : Int32
  errmsg : String
  deriving DecidableEq

def einval : Int32 := 22
def enomem : Int32 := 12
def eagain : Int32 := 11

/-- A handle keeps the first 255 characters of a message. -/
def Failure.stored (failure : Failure) : Failure :=
  { failure with errmsg := String.ofList (failure.errmsg.toList.take 255) }

/-- This is `tp_publication_t` or `tp_subscription_t`. -/
structure Resource where
  raw : Nat
  channel : String
  streamId : Int32
  deriving DecidableEq

/-- This is `tp_async_add_publication_t` or `tp_async_add_subscription_t`. -/
structure Handle where
  kind : Kind
  channel : String
  streamId : Int32
  status : AsyncStatus := .pending
  resource : Option Resource := none
  aeronAsync : Option Nat := none
  failure : Failure := ⟨0, ""⟩
  deriving DecidableEq

/-- This is `tp_client_cmd_t`. -/
structure Command where
  type : Kind
  async : Nat
  deriving DecidableEq

def commandQueueCapacity : Nat := 1024

/-- The conductor waits for its next call, drains its commands, or walks a pending list. -/
inductive At where
  | idle
  | taking
  | polling (kind : Kind) (passed : Nat)
  | stored (kind : Kind) (passed : Nat)
  deriving DecidableEq, Repr

/-- A handle is accepted, submitted to Aeron, resolved by it, and reported to the application. -/
inductive Event where
  | accepted (id : Nat) (kind : Kind) (channel : String) (streamId : Int32)
  | submitted (id : Nat) (kind : Kind) (channel : String) (streamId : Int32) (result : Except Failure Nat)
  | resolved (id registration raw : Nat)
  | reported (id : Nat) (result : Except Failure (Option Resource))
  | closed (freed : List Nat)

/-- The heap keeps a handle under the number of its allocation, and `fault` is the first freed handle that was
touched. -/
structure State where
  heap : Nat → Option Handle := fun _ => none
  next : Nat := 0
  slots : Bool := false
  commands : List Command := []
  pendingPublications : List Nat := []
  pendingSubscriptions : List Nat := []
  at' : At := .idle
  isOpen : Bool := true
  fault : Option Nat := none
  log : List Event := []

namespace State

def pending (s : State) : Kind → List Nat
  | .publication => s.pendingPublications
  | .subscription => s.pendingSubscriptions

def setPending (s : State) (ids : List Nat) : Kind → State
  | .publication => { s with pendingPublications := ids }
  | .subscription => { s with pendingSubscriptions := ids }

def put (s : State) (id : Nat) (handle : Option Handle) : State :=
  { s with heap := Function.update s.heap id handle }

def record (s : State) (event : Event) : State := { s with log := s.log ++ [event] }

end State

/-- The allocations of one call either succeed or stop at the first that fails. -/
inductive Memory where
  | enough
  | noHandle
  | noChannel
  | noSlots
  deriving DecidableEq, Repr

/-- This is `tp_client_conductor_async_add_publication` or `tp_client_conductor_async_add_subscription`. -/
def asyncAdd (kind : Kind) (channel : String) (streamId : Int32) (memory : Memory) (s : State) :
    Except Failure Nat × State :=
  let name := "tp_client_conductor_async_add_" ++ kind.word
  if !s.isOpen then (.error ⟨einval, name ++ ": invalid input"⟩, s)
  else if memory = .noHandle then (.error ⟨enomem, name ++ ": alloc failed"⟩, s)
  else if memory = .noChannel then (.error ⟨enomem, name ++ ": channel alloc failed"⟩, s)
  else if !s.slots && memory = .noSlots then (.error ⟨enomem, "tp_mpsc_queue_alloc_slots: alloc failed"⟩, s)
  else if s.commands.length = commandQueueCapacity then
    (.error ⟨eagain, "tp_mpsc_queue_offer: queue full"⟩, { s with slots := true })
  else
    (.ok s.next,
      { s.put s.next (some { kind, channel, streamId }) with
        next := s.next + 1
        slots := true
        commands := s.commands ++ [⟨kind, s.next⟩]
        log := s.log ++ [.accepted s.next kind channel streamId] })

/-- This is `tp_client_conductor_async_add_publication_poll` or `tp_client_conductor_async_add_subscription_poll`. -/
def asyncPoll (id : Nat) (s : State) : Option (Except Failure (Option Resource)) × State :=
  match s.heap id with
  | none => (none, { s with fault := some id })
  | some handle =>
      match handle.status with
      | .pending => (none, s)
      | .error =>
          (some (.error handle.failure), (s.put id none).record (.reported id (.error handle.failure)))
      | .complete =>
          (some (.ok handle.resource), (s.put id none).record (.reported id (.ok handle.resource)))

/-- The wrapper and its copy of the channel are two allocations. -/
inductive Wrap where
  | enough
  | noWrapper
  | noChannel
  deriving DecidableEq, Repr

/-- These are the answers that one step of the conductor can read from its queue, from Aeron and from its
allocator. -/
structure Answer where
  stalled : Bool
  add : Except Failure Nat
  poll : Except Failure (Option Nat)
  wrap : Wrap

/-- This is `tp_publication_wrap` or `tp_subscription_wrap`. -/
def wrapResource (kind : Kind) (raw : Nat) (channel : String) (streamId : Int32) :
    Wrap → Except Failure Resource
  | .enough => .ok ⟨raw, channel, streamId⟩
  | .noWrapper => .error ⟨enomem, "tp_" ++ kind.word ++ "_wrap: alloc failed"⟩
  | .noChannel => .error ⟨enomem, "tp_" ++ kind.word ++ "_wrap: channel alloc failed"⟩

/-- This is `tp_async_publication_fail` or `tp_async_subscription_fail`. -/
def Handle.fail (handle : Handle) (failure : Failure) : Handle :=
  { handle with failure := failure.stored, status := .error }

/-- This is one command of `tp_client_conductor_process_commands`. -/
def processCommand (answer : Answer) (command : Command) (s : State) : State :=
  match s.heap command.async with
  | none => s
  | some handle =>
      let s := s.record (.submitted command.async handle.kind handle.channel handle.streamId answer.add)
      match answer.add with
      | .error failure =>
          s.put command.async (some (handle.fail
            ⟨failure.errcode, "tp_client_conductor_add_" ++ command.type.word ++ ": " ++ failure.errmsg⟩))
      | .ok registration =>
          (s.put command.async (some { handle with aeronAsync := some registration })).setPending
            (command.async :: s.pending command.type) command.type

/-- The walk over the publications is before the walk over the subscriptions. -/
def At.after : Kind → At
  | .publication => .polling .subscription 0
  | .subscription => .idle

/-- This is one handle of `tp_client_conductor_poll_pending`, as far as the store of its status. -/
def pollHandle (answer : Answer) (kind : Kind) (passed id : Nat) (s : State) : State :=
  match s.heap id with
  | none => s
  | some handle =>
      match answer.poll with
      | .ok none => { s with at' := .polling kind (passed + 1) }
      | .error failure =>
          { s.put id (some (handle.fail
              ⟨failure.errcode, "tp_client_conductor_add_" ++ kind.word ++ "_poll: " ++ failure.errmsg⟩)) with
            at' := .stored kind passed }
      | .ok (some raw) =>
          let s := s.record (.resolved id (handle.aeronAsync.getD 0) raw)
          match wrapResource kind raw handle.channel handle.streamId answer.wrap with
          | .error failure => { s.put id (some (handle.fail failure)) with at' := .stored kind passed }
          | .ok resource =>
              { s.put id (some { handle with resource := some resource, status := .complete }) with
                at' := .stored kind passed }

/-- The cursor is the link of the handle before, so a step at the cursor reads two handles. -/
def cursor (ids : List Nat) (passed : Nat) : List Nat := (ids.take (passed + 1)).drop (passed - 1)

/-- These are the handles that the next step of the conductor reads or writes. -/
def touched (answer : Answer) (s : State) : List Nat :=
  match s.at' with
  | .idle => []
  | .taking => if answer.stalled then [] else s.commands.head?.toList.map Command.async
  | .polling kind passed => cursor (s.pending kind) passed
  | .stored kind passed => cursor (s.pending kind) passed

/-- The store of a status and the removal from the list are two steps. -/
def advance (answer : Answer) (s : State) : State :=
  match s.at' with
  | .idle => if s.isOpen then { s with at' := .taking } else s
  | .taking =>
      match s.commands with
      | [] => { s with at' := .polling .publication 0 }
      | command :: rest =>
          if answer.stalled then { s with at' := .polling .publication 0 }
          else processCommand answer command { s with commands := rest }
  | .polling kind passed =>
      match (s.pending kind)[passed]? with
      | none => { s with at' := .after kind }
      | some id => pollHandle answer kind passed id s
  | .stored kind passed =>
      { s.setPending ((s.pending kind).eraseIdx passed) kind with at' := .polling kind passed }

/-- This is the next step of `tp_client_conductor_do_work` before its pollers. -/
def conductorStep (answer : Answer) (s : State) : State :=
  match (touched answer s).find? fun id => (s.heap id).isNone with
  | some id => { s with fault := some id }
  | none => advance answer s

/-- This is `tp_client_conductor_state_close`, which the conductor does not outlive. -/
def close (s : State) : State :=
  { s with
    heap := fun id => if id ∈ s.pendingPublications ++ s.pendingSubscriptions then none else s.heap id
    commands := []
    pendingPublications := []
    pendingSubscriptions := []
    isOpen := false
    log := s.log ++ [.closed (s.pendingPublications ++ s.pendingSubscriptions)] }

/-- The application calls, or the conductor takes its next step. -/
inductive Action where
  | add (kind : Kind) (channel : String) (streamId : Int32) (memory : Memory)
  | poll (id : Nat)
  | conductor (answer : Answer)
  | close

/-- After a freed handle was touched nothing is known, and a close waits for the end of the work. -/
def step (s : State) (action : Action) : State :=
  if s.fault.isSome then s
  else
    match action with
    | .add kind channel streamId memory => (asyncAdd kind channel streamId memory s).2
    | .poll id => (asyncPoll id s).2
    | .conductor answer => conductorStep answer s
    | .close => if s.at' = .idle ∧ s.isOpen then close s else s

def run (s : State) (actions : List Action) : State := actions.foldl step s

@[simp] theorem run_nil (s : State) : run s [] = s := rfl

@[simp] theorem run_cons (s : State) (action : Action) (actions : List Action) :
    run s (action :: actions) = run (step s action) actions := rfl

theorem run_append (s : State) (first second : List Action) :
    run s (first ++ second) = run (run s first) second := List.foldl_append

end TensorPool.Conductor
