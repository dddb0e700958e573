/-
This file interleaves the steps of many offers with the steps of one consumer.
-/

import TensorPool.Queue.Mpsc

namespace TensorPool.Queue

/-- Each producer is one thread, and the log keeps the events in order. -/
structure System where
  queue : MpscQueue
  producers : Nat → OfferAt := fun _ => .idle
  consumer : PollAt := .idle
  log : List Event := []

/-- A thread calls an operation or takes the next step of its call. -/
inductive Action where
  | callOffer (producer : Nat) (item : List UInt8)
  | offer (producer : Nat) (fails : Bool)
  | callPoll (itemSize : UInt64)
  | poll (fails : Bool)
  deriving DecidableEq, Repr

namespace System

/-- A thread inside a call makes no second call. -/
def step (state : System) : Action → System
  | .callOffer producer item =>
      match state.producers producer with
      | .idle =>
          let (at', events) := mpscQueueOffer producer item state.queue
          { state with
            producers := Function.update state.producers producer at'
            log := state.log ++ events }
      | _ => state
  | .offer producer fails =>
      let (queue, at', events) := offerStep producer fails state.queue (state.producers producer)
      { state with
        queue := queue
        producers := Function.update state.producers producer at'
        log := state.log ++ events }
  | .callPoll itemSize =>
      match state.consumer with
      | .idle =>
          let (at', events) := mpscQueuePoll itemSize state.queue
          { state with consumer := at', log := state.log ++ events }
      | _ => state
  | .poll fails =>
      let (queue, at', events) := pollStep fails state.queue state.consumer
      { state with queue := queue, consumer := at', log := state.log ++ events }

def run (state : System) (actions : List Action) : System :=
  actions.foldl step state

theorem run_nil (state : System) : state.run [] = state := rfl

theorem run_append (state : System) (first second : List Action) :
    state.run (first ++ second) = (state.run first).run second :=
  List.foldl_append

theorem run_snoc (state : System) (actions : List Action) (action : Action) :
    state.run (actions ++ [action]) = (state.run actions).step action := by
  rw [run_append]
  rfl

end System

end TensorPool.Queue
