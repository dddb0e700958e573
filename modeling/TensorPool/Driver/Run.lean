/-
This file runs the driver from its start through any sequence of its operations.
-/

import Mathlib.Data.List.Basic
import TensorPool.Driver.Lease

namespace TensorPool.Driver

/-- This is `tp_driver_init` on a configuration that was loaded. -/
def init (config : Config) : State :=
  let config := { config with
    announcePeriodMs := if config.announcePeriodMs = 0 then 1000 else config.announcePeriodMs }
  { config
    streamIdRanges := config.streamIdRanges
    streams := config.streams.map fun stream =>
      { streamId := stream.streamId, profile := stream.profile,
        requireHugepages := config.requireHugepages }
    leases := []
    leaseCapacity := 0
    leaseCounter := 0
    nextAnnounceNs := 0
    nodeIdCooldowns := []
    nodeIdCooldownCapacity := 0
    world := {} }

/-- This is the part of `tp_driver_start` after its connections: the first collection. -/
def start (o : Oracle) (s : State) : State :=
  let s := { s with nextAnnounceNs := o.clock s.world.calls, world := s.world.called }
  if s.config.epochGcOnStartup && s.config.epochGcEnabled then
    { s with world := s.streams.foldl (fun w stream => gcStream o s.config stream w) s.world }
  else s

/-- A driver is used after its initialization or after its start. -/
def boot (o : Oracle) (config : Config) (started : Bool) : State :=
  if started then start o (init config) else init config

/-- Only a stream with an epoch is announced. -/
def announceStream (o : Oracle) (s : State) (index : Nat) : State :=
  if (s.streamAt index).epoch ≠ 0 then s.announce o index (s.streamAt index).requireHugepages else s

/-- This is the end of `tp_driver_do_work`, after the expiry of leases. -/
def announceTick (o : Oracle) (s : State) : State :=
  let now := o.clock s.world.calls
  let s := { s with world := s.world.called }
  let periodNs := s.config.announcePeriodMs.toUInt64 * 1000000
  if periodNs > 0 ∧ now ≥ s.nextAnnounceNs then
    { (List.range s.streams.length).foldl (announceStream o) s with nextAnnounceNs := now + periodNs }
  else s

inductive Op where
  | attach (request : AttachRequest)
  | detach (request : DetachRequest)
  | keepalive (request : LeaseKeepalive)
  | expire
  | announce
  deriving DecidableEq, Repr

/-- Each operation is one call into the driver. -/
def step (o : Oracle) (s : State) : Op → State
  | .attach request => (handleAttach o request s).2
  | .detach request => (handleDetach o request s).2
  | .keepalive request => handleKeepalive o request s
  | .expire => handleExpiredLeases o s
  | .announce => announceTick o s

def run (o : Oracle) (s : State) (ops : List Op) : State := ops.foldl (step o) s

@[simp] theorem run_nil (o : Oracle) (s : State) : run o s [] = s := rfl

@[simp] theorem run_cons (o : Oracle) (s : State) (op : Op) (ops : List Op) :
    run o s (op :: ops) = run o (step o s op) ops := by
  rw [run, List.foldl_cons, run]

theorem run_append (o : Oracle) (s : State) (first second : List Op) :
    run o s (first ++ second) = run o (run o s first) second := List.foldl_append

/-- This is `tp_driver_do_work` on the control messages that one poll delivers. -/
def doWork (o : Oracle) (polled : List Op) (s : State) : State :=
  announceTick o (handleExpiredLeases o (run o s polled))

/-- A call of `tp_driver_do_work` is a run. -/
theorem doWork_run (o : Oracle) (polled : List Op) (s : State) :
    doWork o polled s = run o s (polled ++ [.expire, .announce]) := by
  rw [run_append, run_cons, run_cons, run_nil]
  rfl

end TensorPool.Driver
