/-
This file bounds the time between the beats of a sender and their arrivals at a monitor.
-/

import Mathlib.Data.List.Chain

namespace Heartbeat

/--
A sender that is asked beats when its last beat is `interval` old. It is asked again within `pause`, and a beat
arrives within `delay`. A monitor waits for `window` after each arrival.
-/
structure Timing where
  interval : Nat
  pause : Nat
  delay : Nat
  window : Nat
  deriving DecidableEq, Repr

/-- The times of a sender and its monitor, with the beats on their way, the oldest one first. -/
structure Line where
  asked : Nat
  beaten : Nat
  flying : List Nat
  heard : Nat
  limit : Nat

/-- The time can go on to `now`: neither the sender nor the oldest beat is overdue. -/
structure Timely (timing : Timing) (asked : Nat) (flying : List Nat) (now : Nat) : Prop where
  sender : now ≤ asked + timing.pause
  beat : ∀ sent, flying.head? = some sent → now ≤ sent + timing.delay

/-- The beats follow each other closely from the last one that was heard to the last one that was sent. -/
structure Steady (timing : Timing) (line : Line) : Prop where
  close : (line.heard :: line.flying).IsChain fun earlier later => later < earlier + timing.interval + timing.pause
  last : (line.heard :: line.flying).getLast? = some line.beaten
  asked : line.asked < line.beaten + timing.interval
  waits : line.heard + timing.window ≤ line.limit

variable {timing : Timing} {line : Line} {now : Nat}

/-- The next beat is not late. -/
theorem Steady.soon (steady : Steady timing line) (timely : Timely timing line.asked line.flying now) :
    now < line.beaten + timing.interval + timing.pause := by
  have sender := timely.sender
  have asked := steady.asked
  omega

/-- A monitor with a wide window never gives its sender up. -/
theorem Steady.alive (steady : Steady timing line) (timely : Timely timing line.asked line.flying now)
    (wide : timing.interval + timing.pause + timing.delay ≤ timing.window) : now < line.limit := by
  have waits := steady.waits
  have soon := steady.soon timely
  have last := steady.last
  have close := steady.close
  have beat := timely.beat
  cases flying : line.flying with
  | nil =>
      rw [flying, List.getLast?_singleton, Option.some.injEq] at last
      omega
  | cons sent rest =>
      rw [flying] at beat close
      have arrives := beat sent rfl
      have after := (List.isChain_cons_cons.mp close).1
      omega

/-- A sender that is asked before its interval has passed rests. -/
theorem Steady.rests (steady : Steady timing line) (early : now < line.beaten + timing.interval) :
    Steady timing { line with asked := now } := { steady with asked := early }

/-- A sender that is asked in time beats in time. -/
theorem Steady.beats (steady : Steady timing line) (timely : Timely timing line.asked line.flying now)
    (positive : 0 < timing.interval) :
    Steady timing { line with asked := now, beaten := now, flying := line.flying ++ [now] } := by
  have soon := steady.soon timely
  constructor
  · rw [← List.cons_append]
    refine List.isChain_append.mpr ⟨steady.close, List.isChain_singleton _, ?_⟩
    intro earlier final later first
    rw [steady.last, Option.mem_def, Option.some.injEq] at final
    rw [List.head?_cons, Option.mem_def, Option.some.injEq] at first
    omega
  · rw [← List.cons_append]
    exact List.getLast?_concat
  · exact Nat.lt_add_of_pos_right positive
  · exact steady.waits

/-- The monitor waits on from the arrival of the oldest beat. -/
theorem Steady.arrives (steady : Steady timing line) {sent limit : Nat} {rest : List Nat}
    (first : line.flying = sent :: rest) (waits : sent + timing.window ≤ limit) :
    Steady timing { line with flying := rest, heard := sent, limit := limit } := by
  have close := steady.close
  have last := steady.last
  rw [first] at close last
  rw [List.getLast?_cons_cons] at last
  exact ⟨(List.isChain_cons_cons.mp close).2, last, steady.asked, waits⟩

end Heartbeat
