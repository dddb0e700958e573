/-
This file interleaves one producer with any number of readers over shared slots.
-/

import TensorPool.Client.Read

namespace TensorPool.Client

open Seqlock

/-- A new region holds zeros. -/
def createdSlot : SlotCell := ⟨0, fun _ => 0⟩

/-- The slot at an offset of a header ring after some stores. -/
def slotAfter (stores : List Store) (region : Nat) (offset : UInt32) : SlotCell :=
  createdSlot.after (storesAt stores region offset)

/-- A read in flight counts the stores before its first load. -/
structure Reader where
  consumer : Consumer
  seq : UInt64
  region : Nat
  offset : UInt32
  opened : Option Nat := none
  program : SlotReading ReadResult

/-- The slot of a read, with the number of stores before its first load and before its last load. -/
structure Span where
  region : Nat
  offset : UInt32
  opened : Nat
  closed : Nat
  deriving DecidableEq, Repr

/-- A finished read has a span when it has loaded anything. -/
structure Returned where
  consumer : Consumer
  seq : UInt64
  result : ReadResult
  span : Option Span

/-- The stores of the current call that are still to come are pending. -/
structure System where
  producer : Producer
  stores : List Store := []
  pending : List Store := []
  publications : List Publication := []
  readers : Nat → Option Reader := fun _ => none
  returned : List Returned := []

/-- The producer calls or stores, and a reader calls or loads. -/
inductive Action where
  | call (call : Call)
  | store
  | read (reader : Nat) (consumer : Consumer) (seq : UInt64)
  | load (reader : Nat)

namespace System

def finish (system : System) (reader : Nat) (returned : Returned) : System :=
  { system with
    readers := Function.update system.readers reader none
    returned := system.returned ++ [returned] }

/-- The first load of a read sets its count. -/
def load (system : System) (index : Nat) (reader : Reader) : System :=
  let opened := reader.opened.getD system.stores.length
  match reader.program.step (slotAfter system.stores reader.region reader.offset) with
  | .ret result =>
      system.finish index
        { consumer := reader.consumer
          seq := reader.seq
          result := result
          span := some ⟨reader.region, reader.offset, opened, system.stores.length⟩ }
  | program =>
      { system with
        readers := Function.update system.readers index
          (some { reader with opened := some opened, program := program }) }

/-- A step that touches what does not exist has no outcome. -/
def step (system : System) : Action → Option System
  | .call call =>
      match system.pending, call.perform system.producer with
      | [], some issue =>
          some
            { system with
              producer := issue.producer
              pending := issue.stores
              publications := system.publications ++ issue.publications }
      | _, _ => none
  | .store =>
      match system.pending with
      | [] => none
      | store :: rest => some { system with stores := system.stores ++ [store], pending := rest }
  | .read index consumer seq =>
      match system.readers index, readFrame consumer seq with
      | none, .loads region offset program =>
          some
            { system with
              readers := Function.update system.readers index
                (some
                  { consumer := consumer
                    seq := seq
                    region := region
                    offset := offset
                    program := program }) }
      | none, .done .fault => none
      | none, .done result => some (system.finish index { consumer, seq, result, span := none })
      | some _, _ => none
  | .load index => (system.readers index).map (system.load index)

/-- Every step of such a run meets the guard. -/
def runWhile (guard : System → Action → Bool) : System → List Action → Option System
  | system, [] => some system
  | system, action :: rest =>
      if guard system action then (system.step action).bind (runWhile guard · rest) else none

def run (system : System) (actions : List Action) : Option System :=
  system.runWhile (fun _ _ => true) actions

/-- A property that each guarded step keeps holds at the end of a run. -/
theorem runWhile_keeps {guard : System → Action → Bool} {I : System → Prop}
    (keeps : ∀ system action after, I system → guard system action = true → step system action = some after → I after)
    {system after : System} {actions : List Action} (ran : system.runWhile guard actions = some after)
    (start : I system) : I after := by
  induction actions generalizing system with
  | nil =>
      cases ran
      exact start
  | cons action rest hypothesis =>
      rw [runWhile] at ran
      split at ran
      next met =>
        obtain ⟨middle, stepped, later⟩ := Option.bind_eq_some_iff.mp ran
        exact hypothesis later (keeps _ _ _ start met stepped)
      · cases ran

end System

end TensorPool.Client
