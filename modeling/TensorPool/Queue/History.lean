/-
This file reads the log of the queue as the history of a bounded queue.
-/

import TensorPool.Library.Fifo
import TensorPool.Library.Journal
import TensorPool.Queue.Threads

namespace TensorPool.Queue

def Event.take? : Event → Option (Nat × List UInt8)
  | .taken producer item => some (producer, item)
  | _ => none

def Event.accept? : Event → Option (Nat × List UInt8)
  | .offered producer item none => some (producer, item)
  | _ => none

def Event.deliver? : Event → Option (List UInt8)
  | .polled (some item) => some item
  | _ => none

/-- The items that hold a position of the queue, in the order of the positions. -/
def taken (log : List Event) : List (Nat × List UInt8) :=
  log.filterMap Event.take?

/-- The items whose offer succeeded, in the order of the returns. -/
def accepted (log : List Event) : List (Nat × List UInt8) :=
  log.filterMap Event.accept?

def delivered (log : List Event) : List (List UInt8) :=
  log.filterMap Event.deliver?

/-- The polls that returned an outcome. -/
def polls (log : List Event) : Nat :=
  log.countP fun event => match event with
    | .polled _ => true
    | _ => false

/-- The items of one producer. -/
def ofProducer (producer : Nat) (items : List (Nat × List UInt8)) : List (Nat × List UInt8) :=
  items.filter fun entry => entry.1 == producer

/-- A full queue has no free slot, and an empty poll without an offer in progress leaves no item. -/
def Truthful (capacity : Nat) (past : List Event) : Event → Prop
  | .offered _ _ (some error) =>
      error = queueFull → (taken past).length = (delivered past).length + capacity
  | .polled none =>
      (∀ producer, ofProducer producer (accepted past) = ofProducer producer (taken past)) →
        delivered past = (taken past).map Prod.snd
  | _ => True

/-- The queue delivers what it took, in order, and its refusals are true. -/
structure Refines (capacity : Nat) (log : List Event) : Prop where
  fifo : Fifo.Bounded capacity (taken log) (delivered log)
  perProducer : ∀ producer, ∃ inside : Option (List UInt8), ofProducer producer (taken log) =
    ofProducer producer (accepted log) ++ inside.toList.map (producer, ·)
  truthful : Journal.Along (Truthful capacity) log

section

variable (log events : List Event)

@[simp] theorem taken_append : taken (log ++ events) = taken log ++ taken events := List.filterMap_append

@[simp] theorem accepted_append : accepted (log ++ events) = accepted log ++ accepted events :=
  List.filterMap_append

@[simp] theorem delivered_append : delivered (log ++ events) = delivered log ++ delivered events :=
  List.filterMap_append

@[simp] theorem polls_append : polls (log ++ events) = polls log + polls events := List.countP_append

end

end TensorPool.Queue
