/-
This file numbers the lease identifiers of a run.
-/

import Mathlib.Data.List.Nodup
import TensorPool.Driver.RunTrace

namespace TensorPool.Driver

/-- The identifier that the counter reaches from its seed after some increments. -/
def leaseNumber (seed : UInt64) : Nat → UInt64
  | 0 => seed
  | count + 1 => increment (leaseNumber seed count)

/-- The counter goes round through every identifier but zero. -/
theorem leaseNumber_toNat {seed : UInt64} (seeded : seed ≠ 0) (count : Nat) :
    (leaseNumber seed count).toNat = (seed.toNat - 1 + count) % (2 ^ 64 - 1) + 1 := by
  have positive : 0 < seed.toNat := Nat.pos_of_ne_zero fun zero => seeded (UInt64.toNat_inj.mp zero)
  induction count with
  | zero =>
      have below := seed.toNat_lt
      change seed.toNat = _
      omega
  | succ count hypothesis =>
      have below := (leaseNumber seed count).toNat_lt
      have wrapped : (leaseNumber seed count + 1).toNat = ((leaseNumber seed count).toNat + 1) % 2 ^ 64 := by
        rw [UInt64.toNat_add, UInt64.toNat_one]
      change (increment (leaseNumber seed count)).toNat = _
      unfold increment
      split
      next zero =>
        have wraps := congrArg UInt64.toNat zero
        rw [wrapped, hypothesis, UInt64.toNat_zero] at wraps
        rw [UInt64.toNat_one]
        omega
      next nonzero =>
        have grows : (leaseNumber seed count + 1).toNat ≠ 0 := fun zero =>
          nonzero (UInt64.toNat_inj.mp zero)
        rw [wrapped, hypothesis] at grows ⊢
        omega

theorem leaseNumber_ne_zero {seed : UInt64} (seeded : seed ≠ 0) (count : Nat) :
    leaseNumber seed count ≠ 0 := by
  intro zero
  have number := leaseNumber_toNat seeded count
  rw [zero, UInt64.toNat_zero] at number
  omega

/-- Identifiers repeat only after the counter went round once. -/
theorem leaseNumber_distinct {seed : UInt64} (seeded : seed ≠ 0) {early late : Nat} (order : early < late)
    (near : late < early + (2 ^ 64 - 1)) : leaseNumber seed early ≠ leaseNumber seed late := by
  intro same
  have numbers := congrArg UInt64.toNat same
  rw [leaseNumber_toNat seeded, leaseNumber_toNat seeded] at numbers
  omega

/-- The log lists the leases that were granted. -/
def Event.granted : Event → Option Lease
  | .leaseGranted lease _ => some lease
  | _ => none

def grants (log : List Event) : List Lease := log.filterMap Event.granted

/-- After `drawn` identifiers the counter and every granted lease have their numbers. -/
structure Numbered (drawn : Nat) (s : State) : Prop where
  numbers : ∃ seed, seed ≠ 0 ∧ s.leaseCounter = (if drawn = 0 then 0 else leaseNumber seed drawn) ∧
    ∀ lease ∈ grants s.world.log, ∃ number, 1 ≤ number ∧ number ≤ drawn ∧
      lease.leaseId = leaseNumber seed number
  distinct : drawn < 2 ^ 64 → ((grants s.world.log).map Lease.leaseId).Nodup
  recorded : ∀ lease ∈ s.leases, ∃ granted ∈ grants s.world.log, granted.identity = lease.identity

/-- The log of a quiet change has the same grants. -/
theorem grants_grows {allowed : Event → Prop} {log log' : List Event}
    (growth : Journal.Grows allowed log log') (silent : ∀ event, allowed event → event.granted = none) :
    grants log' = grants log := growth.unread Event.granted silent

theorem talk_granted {s : State} {event : Event} (talk : Talk s event) : event.granted = none := by
  cases talk <;> rfl

theorem region_granted {streamId : UInt32} {epoch : UInt64} {files : List RegionFile} {event : Event}
    (region : RegionEvent streamId epoch files event) : event.granted = none := by
  cases region <;> rfl

/-- A grant adds its lease to the list of grants. -/
def Label.granted : Label → List Lease
  | .grant lease => [lease]
  | _ => []

/-- The grants of a changed log are the earlier ones, with a new lease after a grant. -/
theorem Change.grants {o : Oracle} {label : Label} {s s' : State} (change : Change o label s s') :
    Driver.grants s'.world.log = Driver.grants s.world.log ++ label.granted := by
  cases change with
  | talk quiet =>
      exact (grants_grows quiet.world.log fun _ => talk_granted).trans (List.append_nil _).symm
  | provision quiet =>
      exact (grants_grows quiet.world.log fun _ absurdity => absurdity.elim).trans (List.append_nil _).symm
  | renew _ _ _ _ _ _ log renewal =>
      rw [log, Driver.grants, List.filterMap_append, List.filterMap_cons]
      have silent := List.filterMap_eq_nil_iff.mpr fun event member => region_granted (renewal.1 event member)
      simp [silent, Event.granted, Driver.grants, Label.granted]
  | waste _ _ _ _ log => exact (congrArg Driver.grants log).trans (List.append_nil _).symm
  | grant _ _ _ _ _ _ _ _ _ log =>
      rw [log, Driver.grants, List.filterMap_append]
      rfl
  | finish _ _ _ _ _ log =>
      rw [log, Driver.grants, List.filterMap_append]
      rfl
  | extend _ _ _ _ _ log => exact (congrArg Driver.grants log).trans (List.append_nil _).symm

theorem init_numbered (config : Config) : Numbered 0 (init config) where
  numbers := ⟨1, by decide, rfl, fun lease member => by cases member⟩
  distinct _ := List.nodup_nil
  recorded lease member := by cases member

/-- The next identifier has the next number. -/
theorem Numbered.next {drawn : Nat} {s : State} (numbered : Numbered drawn s) {seeded : UInt64}
    (isSeed : Seeded s.leaseCounter seeded) : ∃ seed, seed ≠ 0 ∧
      increment seeded = leaseNumber seed (drawn + 1) ∧
      ∀ lease ∈ grants s.world.log, ∃ number, 1 ≤ number ∧ number ≤ drawn ∧
        lease.leaseId = leaseNumber seed number := by
  obtain ⟨seed, nonzero, counter, issued⟩ := numbered.numbers
  by_cases start : drawn = 0
  · subst start
    refine ⟨seeded, isSeed.1, rfl, fun lease member => ?_⟩
    obtain ⟨number, positive, bounded, -⟩ := issued lease member
    omega
  · rw [if_neg start] at counter
    have counting : s.leaseCounter ≠ 0 := counter ▸ leaseNumber_ne_zero nonzero drawn
    refine ⟨seed, nonzero, ?_, issued⟩
    rw [isSeed.2 counting, counter]
    rfl

/-- A fresh identifier was not granted before, below one full round. -/
theorem Numbered.fresh {drawn : Nat} {s : State} (numbered : Numbered drawn s) {seeded : UInt64}
    (isSeed : Seeded s.leaseCounter seeded) (few : drawn + 1 < 2 ^ 64) :
    increment seeded ∉ (grants s.world.log).map Lease.leaseId := by
  obtain ⟨seed, nonzero, next, issued⟩ := numbered.next isSeed
  intro member
  obtain ⟨lease, granted, same⟩ := List.mem_map.mp member
  obtain ⟨number, positive, bounded, numberOf⟩ := issued lease granted
  rw [next, numberOf] at same
  exact leaseNumber_distinct nonzero (by omega) (by omega) same

/-- Every change counts the identifiers that it draws. -/
theorem Numbered.change {drawn : Nat} {o : Oracle} {label : Label} {s s' : State}
    (numbered : Numbered drawn s) (change : Change o label s s') :
    Numbered (drawn + if label.draws then 1 else 0) s' := by
  have granted := change.grants
  have sameCounter (counter : s'.leaseCounter = s.leaseCounter) (kept : grants s'.world.log = grants s.world.log)
      (leases : ∀ lease ∈ s'.leases, ∃ old ∈ s.leases, old.identity = lease.identity) :
      Numbered drawn s' := by
    refine ⟨?_, ?_, fun lease member => ?_⟩
    · rw [counter, kept]
      exact numbered.numbers
    · rw [kept]
      exact numbered.distinct
    · obtain ⟨old, present, same⟩ := leases lease member
      obtain ⟨entry, inLog, identity⟩ := numbered.recorded old present
      exact ⟨entry, kept ▸ inLog, identity.trans same⟩
  have keptLeases (leases : s'.leases = s.leases) :
      ∀ lease ∈ s'.leases, ∃ old ∈ s.leases, old.identity = lease.identity :=
    fun lease member => ⟨lease, leases ▸ member, rfl⟩
  cases change with
  | talk quiet =>
      exact sameCounter quiet.leaseCounter (by simpa [Label.granted] using granted) (keptLeases quiet.leases)
  | provision quiet =>
      exact sameCounter quiet.leaseCounter (by simpa [Label.granted] using granted) (keptLeases quiet.leases)
  | renew _ stable => exact sameCounter stable.2.2 (by simpa [Label.granted] using granted) (keptLeases stable.2.1)
  | waste stable _ _ _ log counter =>
      obtain ⟨seeded, isSeed, moved⟩ := counter
      obtain ⟨seed, nonzero, next, issued⟩ := numbered.next isSeed
      refine ⟨⟨seed, nonzero, moved.trans next, fun lease member => ?_⟩, fun few => ?_, fun lease member => ?_⟩
      · obtain ⟨number, positive, bounded, numberOf⟩ := issued lease (log ▸ member)
        exact ⟨number, positive, Nat.le_succ_of_le bounded, numberOf⟩
      · rw [log]
        exact numbered.distinct (Nat.lt_of_succ_lt few)
      · rw [log]
        exact numbered.recorded lease (stable.2 ▸ member)
  | grant known fresh config leases counter cooled tidy calls view log =>
      rename_i stream lease checkedNs
      obtain ⟨seeded, isSeed, numberOf⟩ := fresh.leaseId
      obtain ⟨seed, nonzero, next, issued⟩ := numbered.next isSeed
      have added : grants s'.world.log = grants s.world.log ++ [lease] := granted
      refine ⟨⟨seed, nonzero, (counter.trans numberOf).trans next, fun other member => ?_⟩, fun few => ?_,
        fun other member => ?_⟩
      · rw [added, List.mem_append, List.mem_singleton] at member
        rcases member with old | rfl
        · obtain ⟨number, positive, bounded, same⟩ := issued other old
          exact ⟨number, positive, Nat.le_succ_of_le bounded, same⟩
        · exact ⟨drawn + 1, by omega, Nat.le_refl _, numberOf.trans next⟩
      · rw [added, List.map_append, List.map_singleton]
        refine List.nodup_append_comm.mp (List.nodup_cons.mpr ⟨?_, numbered.distinct (Nat.lt_of_succ_lt few)⟩)
        rw [numberOf]
        exact numbered.fresh isSeed few
      · rw [leases, List.mem_append, List.mem_singleton] at member
        rw [added]
        rcases member with old | rfl
        · obtain ⟨entry, inLog, identity⟩ := numbered.recorded other old
          exact ⟨entry, List.mem_append_left _ inLog, identity⟩
        · exact ⟨other, by simp, rfl⟩
  | finish stable leases =>
      refine sameCounter stable.2 (by simpa [Label.granted] using granted) fun lease member => ⟨lease, ?_, rfl⟩
      rw [leases.2, List.mem_append] at member
      rw [leases.1]
      simp only [List.mem_append, List.mem_cons]
      tauto
  | extend stable leases =>
      refine sameCounter stable.2 (by simpa [Label.granted] using granted) fun lease member => ?_
      have image : lease.identity ∈ s'.leases.map Lease.identity := List.mem_map_of_mem member
      rw [leases] at image
      obtain ⟨old, present, same⟩ := List.mem_map.mp image
      exact ⟨old, present, same⟩

/-- Every trace counts the identifiers that it draws. -/
theorem Numbered.trace {o : Oracle} {labels : List Label} {s s' : State}
    (path : Trace (Change o) labels s s') {past : List Label}
    (numbered : Numbered (past.countP Label.draws) s) :
    Numbered ((past ++ labels).countP Label.draws) s' := by
  refine path.invariant (I := fun labels s => Numbered (labels.countP Label.draws) s)
    (fun past s label s' numbered change => ?_) past numbered
  have counted := numbered.change change
  rw [List.countP_append, List.countP_singleton]
  exact counted

end TensorPool.Driver
