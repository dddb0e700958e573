/-
This file holds the trace id generator, with the steps of the calls that share its word.
-/

import Mathlib.Logic.Function.Basic

namespace TensorPool.TraceId

def maxNodeAndSequenceBits : UInt8 := 22

structure Generator where
  nodeIdBits : UInt8
  sequenceBits : UInt8
  nodeIdAndSequenceBits : UInt8
  maxNodeId : UInt64
  maxSequence : UInt64
  nodeBits : UInt64
  timestampOffsetMs : UInt64
  deriving DecidableEq, Repr

/-- The sum of the bits has the type of the bits. -/
def generatorInit (nodeIdBits sequenceBits : UInt8) (nodeId timestampOffsetMs realtimeMs nowMs : UInt64) :
    Except String Generator :=
  let nodeIdAndSequenceBits := nodeIdBits + sequenceBits
  let maxNodeId := ((1 : UInt64) <<< nodeIdBits.toUInt64) - 1
  if nodeIdAndSequenceBits > maxNodeAndSequenceBits then
    .error "tp_trace_id_generator_init: too many bits used"
  else if nodeId > maxNodeId then
    .error "tp_trace_id_generator_init: node_id out of range"
  else if timestampOffsetMs > realtimeMs then
    .error "tp_trace_id_generator_init: timestamp offset in future"
  else if timestampOffsetMs > nowMs then
    .error "tp_trace_id_generator_init: offset beyond clock"
  else
    .ok
      { nodeIdBits := nodeIdBits
        sequenceBits := sequenceBits
        nodeIdAndSequenceBits := nodeIdAndSequenceBits
        maxNodeId := maxNodeId
        maxSequence := ((1 : UInt64) <<< sequenceBits.toUInt64) - 1
        nodeBits := nodeId <<< sequenceBits.toUInt64
        timestampOffsetMs := timestampOffsetMs }

/-- The word that a call wants to store, or none when the sequence of its millisecond is exhausted. -/
def nextWord (generator : Generator) (old timestampMs : UInt64) : Option UInt64 :=
  let oldTimestampMs := old >>> generator.nodeIdAndSequenceBits.toUInt64
  if timestampMs > oldTimestampMs then
    some (timestampMs <<< generator.nodeIdAndSequenceBits.toUInt64)
  else
    let oldSequence := old &&& generator.maxSequence
    if oldSequence < generator.maxSequence then some (old + 1) else none

/-- The place of a call between two of its steps. -/
inductive NextAt where
  | idle
  | looping
  | loaded (old : UInt64)
  | timed (old timestampMs : UInt64)
  deriving DecidableEq, Repr

/-- The shared word, the calls of the threads, and the returned ids in the order of their exchanges. -/
structure Shared where
  timestampSequence : UInt64 := 0
  threads : Nat → NextAt := fun _ => .idle
  ids : List UInt64 := []

/-- A thread calls, loads the word, reads the clock, or tries its exchange, which may fail without a reason. -/
inductive Action where
  | call (thread : Nat)
  | load (thread : Nat)
  | clock (thread : Nat) (clockMs : UInt64)
  | exchange (thread : Nat) (fails : Bool)
  deriving DecidableEq, Repr

namespace Shared

def place (shared : Shared) (thread : Nat) (at' : NextAt) : Shared :=
  { shared with threads := Function.update shared.threads thread at' }

/-- A step that does not fit the place of its thread changes nothing. -/
def step (generator : Generator) (shared : Shared) : Action → Shared
  | .call thread =>
      match shared.threads thread with
      | .idle => shared.place thread .looping
      | _ => shared
  | .load thread =>
      match shared.threads thread with
      | .looping => shared.place thread (.loaded shared.timestampSequence)
      | _ => shared
  | .clock thread clockMs =>
      match shared.threads thread with
      | .loaded old => shared.place thread (.timed old (clockMs - generator.timestampOffsetMs))
      | _ => shared
  | .exchange thread fails =>
      match shared.threads thread with
      | .timed old timestampMs =>
          match nextWord generator old timestampMs with
          | none => shared.place thread .looping
          | some new =>
              if !fails && shared.timestampSequence == old then
                { (shared.place thread .idle) with
                  timestampSequence := new
                  ids := shared.ids ++ [new ||| generator.nodeBits] }
              else
                shared.place thread .looping
      | _ => shared

end Shared

/-- Several generators work side by side, and the log keeps the ids of all of them. -/
structure Generators (ι : Type) where
  shared : ι → Shared := fun _ => {}
  log : List (ι × UInt64) := []

namespace Generators

variable {ι : Type} [DecidableEq ι]

/-- A step of one generator logs the ids that it returns. -/
def step (generators : ι → Generator) (state : Generators ι) (which : ι) (action : Action) : Generators ι :=
  let after := (state.shared which).step (generators which) action
  { shared := Function.update state.shared which after
    log := state.log ++ (after.ids.drop (state.shared which).ids.length).map fun id => (which, id) }

def run (generators : ι → Generator) (state : Generators ι) (actions : List (ι × Action)) : Generators ι :=
  actions.foldl (fun state labelled => state.step generators labelled.1 labelled.2) state

end Generators

end TensorPool.TraceId
