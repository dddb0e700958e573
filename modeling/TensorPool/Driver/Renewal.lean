/-
This file proves that a keepalive renews the lease that it names, and that the other operations keep it.
-/

import TensorPool.Driver.Grants
import TensorPool.Driver.Lifetime

namespace TensorPool.Driver

/-- The time that a lease is given stays. -/
theorem run_leaseExpiry (o : Oracle) (config : Config) (started : Bool) (ops : List Op) (now : UInt64) :
    leaseExpiry (run o (boot o config started) ops).config now = leaseExpiry config now := by
  obtain ⟨early, booted, -⟩ := boot_trace o config started
  obtain ⟨late, path, -⟩ := run_trace (o := o) (boot_tidy o config started) ops
  rw [trace_config path, trace_config booted]
  rfl

/-- A lease that is given now expires later by the time that a lease is given, where this does not wrap. -/
theorem toNat_leaseExpiry {config : Config} {now : UInt64}
    (room : now.toNat + (leaseExpiry config 0).toNat < 2 ^ 64) :
    (leaseExpiry config now).toNat = now.toNat + (leaseExpiry config 0).toNat := by
  have split : leaseExpiry config now = now + leaseExpiry config 0 := by simp [leaseExpiry]
  rw [split, UInt64.toNat_add, Nat.mod_eq_of_lt room]

/-- The leases of the table have different identifiers. -/
theorem run_distinct (o : Oracle) (config : Config) (started : Bool) (ops : List Op)
    (few : ops.countP Op.attaches < 2 ^ 64) :
    ((run o (boot o config started) ops).leases.map Lease.leaseId).Nodup := by
  obtain ⟨past, orderly, drawn⟩ := run_orderly o config started ops
  have ids := (orderly.book (by omega)).ids
  rw [State.book, List.map_map] at ids
  exact ids

/-- A request with the identity of a lease finds this lease. -/
theorem ownedLease_present {leases : List Lease} (distinct : (leases.map Lease.leaseId).Nodup) {lease : Lease}
    (present : lease ∈ leases) (nonzero : lease.leaseId ≠ 0) :
    ∃ index, leases[index]? = some lease ∧
      ownedLease leases lease.leaseId lease.streamId lease.clientId lease.role = some (index, lease) := by
  obtain ⟨index, inside, here⟩ := List.getElem_of_mem present
  have there : leases[index]? = some lease := (List.getElem?_eq_getElem inside).trans (congrArg some here)
  have search : findLease leases lease.leaseId = some index := by
    rw [findLease, if_neg nonzero, List.findIdx?_eq_some_iff_getElem]
    refine ⟨inside, by rw [here, beq_self_eq_true], fun earlier before same => ?_⟩
    have place := same_place distinct (List.getElem?_eq_getElem (Nat.lt_trans before inside)) there
      (beq_iff_eq.mp same)
    omega
  refine ⟨index, there, ?_⟩
  simp [ownedLease, search, there]

/-- A keepalive that names a lease of the table renews it. -/
theorem step_renews (o : Oracle) (request : LeaseKeepalive) {s : State}
    (distinct : (s.leases.map Lease.leaseId).Nodup) {lease : Lease} (present : lease ∈ s.leases)
    (nonzero : lease.leaseId ≠ 0) (named : request.names lease = true) :
    { lease with expiryNs := leaseExpiry s.config (o.clock s.world.calls) } ∈
      (step o s (.keepalive request)).leases := by
  simp only [LeaseKeepalive.names, names, Bool.and_eq_true, beq_iff_eq] at named
  obtain ⟨⟨⟨leaseId, streamId⟩, clientId⟩, role⟩ := named
  obtain ⟨index, there, owned⟩ := ownedLease_present distinct present nonzero
  obtain ⟨inside, -⟩ := List.getElem?_eq_some_iff.mp there
  rw [leaseId, streamId, clientId] at owned
  change _ ∈ (handleKeepalive o request s).leases
  simp only [handleKeepalive, role, owned]
  exact List.mem_of_getElem? ((List.getElem?_set_self inside))

/-- The operation neither names the lease nor looks for expired ones. -/
def Op.spares (lease : Lease) : Op → Bool
  | .detach request => !request.names lease
  | .keepalive request => !request.names lease
  | .expire => false
  | _ => true

/-- A name means every lease with the same identity. -/
theorem names_identity {left right : Lease} (same : left.identity = right.identity) (leaseId : UInt64)
    (streamId clientId : UInt32) (role : Option Role) :
    names leaseId streamId clientId role left = names leaseId streamId clientId role right := by
  obtain ⟨leaseId', streamId', clientId', -, role'⟩ := Lease.same_identity same
  simp [names, leaseId', streamId', clientId', role']

theorem Op.spares_identity {left right : Lease} (same : left.identity = right.identity) (op : Op) :
    op.spares left = op.spares right := by
  cases op <;> simp [spares, DetachRequest.names, LeaseKeepalive.names, names_identity same]

/-- A lease stays between its neighbours when another one goes or changes. -/
theorem neighbour {leases before after : List Lease} {lease target : Lease}
    (parts : leases = before ++ target :: after) (present : lease ∈ leases) (other : lease ≠ target)
    (changed : List Lease) : lease ∈ before ++ (changed ++ after) := by
  rw [parts, List.mem_append, List.mem_cons] at present
  rcases present with early | same | late
  · exact List.mem_append_left _ early
  · exact absurd same other
  · exact List.mem_append_right _ (List.mem_append_right _ late)

/-- An operation that spares a lease keeps it. -/
theorem step_spares (o : Oracle) {s : State} {op : Op} {lease : Lease} (spared : op.spares lease = true)
    (present : lease ∈ s.leases) : lease ∈ (step o s op).leases := by
  cases op with
  | attach request =>
      change lease ∈ (handleAttach o request s).2.leases
      rcases handleAttach_leases o request s with same | ⟨added, joined, -⟩
      · exact same ▸ present
      · exact joined ▸ List.mem_append_left [added] present
  | detach request =>
      change lease ∈ (handleDetach o request s).2.leases
      rcases handleDetach_leases o request s with same | ⟨before, target, after, parts, named, left, -⟩
      · exact same ▸ present
      · have other : lease ≠ target := by
          rintro rfl
          simp [Op.spares, named] at spared
        rw [left]
        exact neighbour parts present other []
  | keepalive request =>
      change lease ∈ (handleKeepalive o request s).leases
      rcases handleKeepalive_leases o request s with same | ⟨before, target, after, parts, named, moved, -⟩
      · exact same ▸ present
      · have other : lease ≠ target := by
          rintro rfl
          simp [Op.spares, named] at spared
        rw [moved]
        exact neighbour parts present other [_]
  | expire => cases spared
  | announce => exact (announceTick_leases o s).symm ▸ present

/-- The expiry of leases keeps a lease until its expiry has passed. -/
theorem step_early (o : Oracle) {s : State} {lease : Lease} (early : o.clock s.world.calls ≤ lease.expiryNs)
    (present : lease ∈ s.leases) : lease ∈ (step o s .expire).leases := by
  change lease ∈ (handleExpiredLeases o s).leases
  rw [handleExpiredLeases_leases]
  refine List.mem_filter.mpr ⟨present, ?_⟩
  simp [Lease.expired, UInt64.not_lt.mpr early]

end TensorPool.Driver
