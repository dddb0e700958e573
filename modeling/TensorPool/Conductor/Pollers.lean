/-
This file walks the registered pollers of the conductor while their callbacks register, unregister and call back
into it.
-/

import TensorPool.Conductor.Registration
import TensorPool.Library.Cursor

namespace TensorPool.Conductor

/-- This is `tp_client_poller_entry_t` under the number of its allocation, with 0 for no poller. -/
structure PollerEntry where
  id : Nat
  poller : Nat
  clientd : Nat
  fragmentLimit : Int32
  deriving DecidableEq

/-- A callback is seen by its call and its answer, and between them by what it registers and unregisters. -/
inductive PollerEvent where
  | polled (entry : PollerEntry)
  | registered (entry : PollerEntry)
  | unregistered (entry : PollerEntry)
  | answered (id : Nat) (work : Int32)
  deriving DecidableEq

/-- The count of polls is the time of the callbacks, and `exhausted` would tell that a bound of this model was
too small. -/
structure Pollers where
  useAgentInvoker : Bool := false
  entries : List PollerEntry := []
  next : Nat := 0
  doWorkDepth : Nat := 0
  polls : Nat := 0
  fault : Option Nat := none
  exhausted : Bool := false
  log : List PollerEvent := []

/-- A callback can call back into the client. -/
inductive Call where
  | register (poller clientd : Nat) (fragmentLimit : Int32) (enough : Bool)
  | unregister (poller clientd : Nat)
  | doWork (aeronWork : Int32)
  deriving DecidableEq

structure Reaction where
  calls : List Call
  work : Int32

/-- This is `tp_client_conductor_register_poller`. -/
def registerPoller (poller clientd : Nat) (fragmentLimit : Int32) (enough : Bool) (s : Pollers) :
    Except Failure Unit × Pollers :=
  if poller = 0 ∨ fragmentLimit ≤ 0 then
    (.error ⟨einval, "tp_client_conductor_register_poller: invalid input"⟩, s)
  else if !enough then (.error ⟨enomem, "tp_client_conductor_register_poller: alloc failed"⟩, s)
  else
    let entry := { id := s.next, poller, clientd, fragmentLimit }
    (.ok (), { s with entries := entry :: s.entries, next := s.next + 1, log := s.log ++ [.registered entry] })

def PollerEntry.registers (poller clientd : Nat) (entry : PollerEntry) : Bool :=
  entry.poller == poller && entry.clientd == clientd

/-- This is `tp_client_conductor_unregister_poller`, which frees the newest match. -/
def unregisterPoller (poller clientd : Nat) (s : Pollers) : Except Failure Unit × Pollers :=
  if poller = 0 then (.error ⟨einval, "tp_client_conductor_unregister_poller: invalid input"⟩, s)
  else
    match s.entries.find? (PollerEntry.registers poller clientd) with
    | none => (.error ⟨einval, "tp_client_conductor_unregister_poller: not registered"⟩, s)
    | some entry =>
        (.ok (),
          { s with
            entries := s.entries.eraseP (PollerEntry.registers poller clientd)
            log := s.log ++ [.unregistered entry] })

def perform (nested : Int32 → Pollers → Pollers) (s : Pollers) : Call → Pollers
  | .register poller clientd fragmentLimit enough => (registerPoller poller clientd fragmentLimit enough s).2
  | .unregister poller clientd => (unregisterPoller poller clientd s).2
  | .doWork aeronWork => nested aeronWork s

/-- This is the loop of `tp_client_conductor_poll_pollers` with a bound on its rounds. -/
def pollPollers (callbacks : Nat → PollerEntry → Reaction) (nested : Int32 → Pollers → Pollers) :
    Nat → Option PollerEntry → Int → Pollers → Int × Pollers
  | _, none, total, s => (total, s)
  | 0, some _, total, s => (total, { s with exhausted := true })
  | rounds + 1, some entry, total, s =>
      let reaction := callbacks s.polls entry
      let s := { s with polls := s.polls + 1, log := s.log ++ [.polled entry] }
      let s := reaction.calls.foldl (perform nested) s
      let s := { s with log := s.log ++ [.answered entry.id reaction.work] }
      if reaction.work < 0 then (-1, s)
      else
        -- the callback may have freed the entry whose link is read here
        match Cursor.after PollerEntry.id entry.id s.entries with
        | none => (total, { s with fault := some entry.id })
        | some rest => pollPollers callbacks nested rounds rest.head? (total + reaction.work.toInt) s

/-- This is `tp_client_conductor_do_work` after its commands, with a bound on the calls inside calls. -/
def doWork (callbacks : Nat → PollerEntry → Reaction) : Nat → Int32 → Pollers → Int × Pollers
  | 0, _, s => (0, { s with exhausted := true })
  | nesting + 1, aeronWork, s =>
      if s.useAgentInvoker && aeronWork < 0 then (-1, s)
      else
        let work := if s.useAgentInvoker then aeronWork.toInt else 0
        let s := { s with doWorkDepth := s.doWorkDepth + 1 }
        if s.doWorkDepth = 1 then
          let (pollWork, s) := pollPollers callbacks (fun aeronWork s => (doWork callbacks nesting aeronWork s).2)
            s.entries.length s.entries.head? 0 s
          let s := { s with doWorkDepth := s.doWorkDepth - 1 }
          if pollWork < 0 then (-1, s) else (work + pollWork, s)
        else (work, { s with doWorkDepth := s.doWorkDepth - 1 })

/-- This is the end of `tp_client_set_control_handlers` and its siblings, where the poller may be registered
already. -/
def setHandlers (poller clientd : Nat) (fragmentLimit : Int32) (registered enough : Bool) : List Call :=
  (if registered then [.unregister poller clientd] else []) ++ [.register poller clientd fragmentLimit enough]

/-- A call of the application outside of any callback. -/
inductive PollerOp where
  | register (poller clientd : Nat) (fragmentLimit : Int32) (enough : Bool)
  | unregister (poller clientd : Nat)
  | doWork (aeronWork : Int32)

/-- A call inside a call of the conductor never comes to a third one, so two levels are enough. -/
def pollerStep (callbacks : Nat → PollerEntry → Reaction) (s : Pollers) (op : PollerOp) : Pollers :=
  if s.fault.isSome then s
  else
    match op with
    | .register poller clientd fragmentLimit enough => (registerPoller poller clientd fragmentLimit enough s).2
    | .unregister poller clientd => (unregisterPoller poller clientd s).2
    | .doWork aeronWork => (doWork callbacks 2 aeronWork s).2

def pollerRun (callbacks : Nat → PollerEntry → Reaction) (s : Pollers) (ops : List PollerOp) : Pollers :=
  ops.foldl (pollerStep callbacks) s

end TensorPool.Conductor
