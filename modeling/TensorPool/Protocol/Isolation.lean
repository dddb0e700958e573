/-
This file proves that only the client that was granted a lease, or the time, ends or renews it.
-/

import TensorPool.Driver.Lifetime
import TensorPool.Protocol.Agreement

namespace TensorPool.Protocol

open Scan Flyweight FixedField
open DriverClient

namespace System

variable {o : Driver.Oracle} {config : Driver.Config} {started : Bool} {system system' : System}

/-- A lease of the table that a client names was granted to this client. -/
theorem Sound.holder (sound : Sound o config started system) (few : system.ops.countP Driver.Op.attaches < 2 ^ 64)
    {index : Nat} {leaseId : UInt64} (owns : system.Owns index leaseId) {lease : Driver.Lease}
    (present : lease ∈ system.driver.leases) (named : lease.leaseId = leaseId) :
    ∃ holder, (index, holder) ∈ system.granted ∧ holder.identity = lease.identity := by
  obtain ⟨-, nonzero, recorded⟩ := Driver.run_numbered o config started system.ops few
  rw [← sound.driver, ← sound.granted] at nonzero recorded
  obtain ⟨holder, granted, identity⟩ := recorded lease present
  obtain ⟨entry, listed, rfl⟩ := List.mem_map.mp granted
  have same := (Driver.Lease.same_identity identity).1
  rcases owns with zero | ⟨request, lease', own, identifier⟩
  · exact absurd (same.trans (named.trans zero)) (nonzero entry.2 granted)
  · have one := sound.grantee_unique few listed own.listed (same.trans (named.trans identifier.symm))
    subst one
    exact ⟨lease', listed, identity⟩

/-- A lease that is missing from a list without one of its members was that member. -/
theorem removed {leases : List Driver.Lease} {before after : List Driver.Lease} {target lease : Driver.Lease}
    (parts : leases = before ++ target :: after) (present : lease ∈ leases) (gone : lease ∉ before ++ after) :
    lease = target := by
  rw [parts, List.mem_append, List.mem_cons] at present
  rw [List.mem_append, not_or] at gone
  exact (present.resolve_left gone.1).resolve_right gone.2

/-- What ends or renews a lease of the table. -/
inductive Ends (o : Driver.Oracle) (system : System) (lease : Driver.Lease) : Action → Prop where
  | expired (passed : lease.expiryNs < o.clock system.driver.world.calls) : Ends o system lease .expire
  | holder {position index : Nat} {bytes : List UInt8} {holder : Driver.Lease}
      (sent : system.wire[position]? = some ⟨.client index, bytes⟩) (granted : (index, holder) ∈ system.granted)
      (identity : holder.identity = lease.identity) : Ends o system lease (.serve position)

/-- An operation of the driver has its cause in the action. -/
inductive Operates (system : System) : Action → Party → Driver.Op → Prop where
  | serve {position : Nat} {packet : Packet} {op : Driver.Op} (sent : system.wire[position]? = some packet)
      (heard : onControlFragment packet.bytes = value op) : Operates system (.serve position) packet.sender op
  | expire : Operates system .expire .driver .expire
  | announce : Operates system .announce .driver .announce

/-- A step is one operation of the driver, or it leaves the driver alone. -/
theorem step_driver {contexts : Nat → Context} {action : Action}
    (stepped : system.step o contexts action = some system') :
    (system'.driver = system.driver ∧ system'.ops = system.ops) ∨
      ∃ sender op, Operates system action sender op ∧ system' = system.operate o sender op := by
  cases action with
  | serve position =>
      obtain ⟨packet, sent, later⟩ := Option.bind_eq_some_iff.mp stepped
      split at later
      · cases later
      · cases later
        exact .inl ⟨rfl, rfl⟩
      next op heard =>
        cases later
        exact .inr ⟨packet.sender, op, .serve sent heard, rfl⟩
  | expire =>
      cases stepped
      exact .inr ⟨.driver, .expire, .expire, rfl⟩
  | announce =>
      cases stepped
      exact .inr ⟨.driver, .announce, .announce, rfl⟩
  | attach index request sync fresh =>
      cases stepped
      exact .inl ⟨rfl, rfl⟩
  | keepalive index nowNs result =>
      cases stepped
      exact .inl ⟨rfl, rfl⟩
  | detach index correlationId result =>
      cases stepped
      exact .inl ⟨rfl, rfl⟩
  | send position result =>
      obtain ⟨call, found, moved⟩ := Option.bind_eq_some_iff.mp stepped
      cases moved
      exact .inl ⟨rfl, rfl⟩
  | hear position packet allocates =>
      obtain ⟨call, found, later⟩ := Option.bind_eq_some_iff.mp stepped
      obtain ⟨fragment, sent, last⟩ := Option.bind_eq_some_iff.mp later
      obtain ⟨attach, heard, moved⟩ := Option.bind_eq_some_iff.mp last
      cases moved
      exact .inl ⟨rfl, rfl⟩
  | poll position fresh =>
      obtain ⟨call, found, moved⟩ := Option.bind_eq_some_iff.mp stepped
      cases moved
      exact .inl ⟨rfl, rfl⟩
  | turn index nowNs result =>
      dsimp only [System.step] at stepped
      split at stepped <;> cases stepped <;> exact .inl ⟨rfl, rfl⟩
  | stranger bytes =>
      dsimp only [System.step] at stepped
      split at stepped <;> cases stepped
      exact .inl ⟨rfl, rfl⟩

theorem step_ops {contexts : Nat → Context} {action : Action}
    (stepped : system.step o contexts action = some system') :
    system.ops <+: system'.ops := by
  rcases step_driver stepped with ⟨-, same⟩ | ⟨sender, op, -, rfl⟩
  · rw [same]
  · exact List.prefix_append _ _

theorem run_ops {contexts : Nat → Context} {actions : List Action}
    (ran : GuardedRun.runWhile fresh (System.step o contexts) system actions = some system') :
    system.ops <+: system'.ops := by
  let grown (later : System) : Prop := system.ops <+: later.ops
  have kept : grown system' := by
    refine GuardedRun.keeps (fun s action s' before _ stepped => ?_) ran List.prefix_rfl
    exact List.IsPrefix.trans before (step_ops stepped)
  exact kept

/-- A step that takes a lease out of the table, or moves its expiry, is its expiry or a request of its client. -/
theorem Sound.isolates (sound : Sound o config started system) (few : system.ops.countP Driver.Op.attaches < 2 ^ 64)
    {contexts : Nat → Context} {action : Action} (stepped : system.step o contexts action = some system')
    {lease : Driver.Lease} (present : lease ∈ system.driver.leases) (gone : lease ∉ system'.driver.leases) :
    Ends o system lease action := by
  rcases step_driver stepped with ⟨same, -⟩ | ⟨sender, op, operates, rfl⟩
  · exact absurd (same ▸ present) gone
  change lease ∉ (Driver.step o system.driver op).leases at gone
  have still (same : (Driver.step o system.driver op).leases = system.driver.leases) : Ends o system lease action :=
    absurd (same ▸ present) gone
  cases operates with
  | serve sent heard =>
      rename_i position packet
      obtain ⟨index, sender, asks⟩ := (sound.wire packet (List.mem_of_getElem? sent)).served heard
      obtain ⟨_, bytes⟩ := packet
      dsimp only at sender
      subst sender
      have named {leaseId : UInt64} (owns : system.Owns index leaseId) (same : lease.leaseId = leaseId) :
          Ends o system lease (.serve position) := by
        obtain ⟨holder, granted, identity⟩ := sound.holder few owns present same
        exact .holder sent granted identity
      rcases asks with ⟨request, rfl, -⟩ | ⟨request, rfl, owns⟩ | ⟨request, rfl, owns⟩
      · rcases Driver.handleAttach_leases o request.heard system.driver with same | ⟨added, joined, -⟩
        · exact still same
        · exact absurd (List.mem_append_left [added] present) (joined ▸ gone)
      · rcases Driver.handleDetach_leases o _ system.driver with same | ⟨before, target, after, parts, names, left, -⟩
        · exact still same
        · have same := removed parts present (left ▸ gone)
          simp only [Driver.DetachRequest.names, Driver.names, Bool.and_eq_true, beq_iff_eq] at names
          exact named owns (same ▸ names.1.1.1)
      · rcases Driver.handleKeepalive_leases o _ system.driver with same | ⟨before, target, after, parts, names,
          moved, -⟩
        · exact still same
        · have same : lease = target := by
            apply removed parts present
            intro member
            apply gone
            change lease ∈ (Driver.handleKeepalive o _ system.driver).leases
            rw [moved]
            rcases List.mem_append.mp member with early | late
            · exact List.mem_append_left _ early
            · exact List.mem_append_right _ (List.mem_cons_of_mem _ late)
          simp only [Driver.LeaseKeepalive.names, Driver.names, Bool.and_eq_true, beq_iff_eq] at names
          exact named owns (same ▸ names.1.1.1)
  | expire =>
      apply Ends.expired
      by_contra current
      apply gone
      change lease ∈ (Driver.handleExpiredLeases o system.driver).leases
      rw [Driver.handleExpiredLeases_leases]
      refine List.mem_filter.mpr ⟨present, ?_⟩
      rw [Driver.Lease.expired_iff, decide_eq_true_iff]
      exact .inr (UInt64.not_lt.mp current)
  | announce => exact still (Driver.announceTick_leases o system.driver)

/-- A lease that is gone after a run was ended, or renewed, by one of its steps. -/
theorem Sound.loses (sound : Sound o config started system) {contexts : Nat → Context} {actions : List Action}
    (ran : GuardedRun.runWhile fresh (System.step o contexts) system actions = some system')
    (few : system'.ops.countP Driver.Op.attaches < 2 ^ 64) {lease : Driver.Lease}
    (present : lease ∈ system.driver.leases) (gone : lease ∉ system'.driver.leases) :
    ∃ first action rest middle, actions = first ++ action :: rest ∧
      GuardedRun.runWhile fresh (System.step o contexts) system first = some middle ∧
      lease ∈ middle.driver.leases ∧ Ends o middle lease action := by
  induction actions generalizing system with
  | nil =>
      cases ran
      exact absurd present gone
  | cons action rest hypothesis =>
      have short := Nat.lt_of_le_of_lt (run_ops ran).sublist.countP_le few
      rw [GuardedRun.runWhile] at ran
      split at ran
      next met =>
        obtain ⟨next, stepped, later⟩ := Option.bind_eq_some_iff.mp ran
        by_cases stays : lease ∈ next.driver.leases
        · obtain ⟨first, last, tail, middle, rfl, reached, there, ends⟩ :=
            hypothesis (sound.step met stepped) later stays
          refine ⟨action :: first, last, tail, middle, rfl, ?_, there, ends⟩
          rw [GuardedRun.runWhile, if_pos met, stepped]
          exact reached
        · exact ⟨[], action, rest, system, rfl, rfl, present, sound.isolates short stepped present stays⟩
      · cases ran

end System

end TensorPool.Protocol
