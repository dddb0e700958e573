/-
This file keeps the identities of leases apart, also in time.
-/

import TensorPool.Driver.Epochs
import TensorPool.Driver.Fencing

namespace TensorPool.Driver

open Attempt

/-- The clients and the nodes of the table are named and distinct. -/
structure Identified (s : State) : Prop where
  clients : (s.leases.map Lease.clientId).Nodup ∧ ∀ lease ∈ s.leases, lease.clientId ≠ 0
  nodes : (s.leases.map Lease.nodeId).Nodup ∧ ∀ lease ∈ s.leases, lease.nodeId ≠ nullU32

/-- A lease with a new value of a field keeps the values distinct. -/
theorem nodup_concat {α : Type} {leases : List Lease} {lease : Lease} (field : Lease → α)
    (distinct : (leases.map field).Nodup) (fresh : ∀ other ∈ leases, field other ≠ field lease) :
    ((leases ++ [lease]).map field).Nodup := by
  rw [List.map_append, List.map_singleton]
  apply List.nodup_append_comm.mp
  apply List.nodup_cons.mpr
  refine ⟨fun member => ?_, distinct⟩
  obtain ⟨other, present, same⟩ := List.mem_map.mp member
  exact fresh other present same

/-- Every change keeps clients and nodes distinct. -/
theorem distinct_change {o : Oracle} {label : Label} {s s' : State} (change : Change o label s s')
    (distinct : (s.leases.map Lease.clientId).Nodup ∧ (s.leases.map Lease.nodeId).Nodup) :
    (s'.leases.map Lease.clientId).Nodup ∧ (s'.leases.map Lease.nodeId).Nodup := by
  cases change with
  | talk quiet => exact quiet.leases ▸ distinct
  | provision quiet => exact quiet.leases ▸ distinct
  | renew _ stable => exact stable.2.1 ▸ distinct
  | waste stable => exact stable.2 ▸ distinct
  | grant _ fresh _ leases =>
      rw [leases]
      exact ⟨nodup_concat Lease.clientId distinct.1 fresh.client.2, nodup_concat Lease.nodeId distinct.2 fresh.node.2⟩
  | finish _ leases =>
      rw [leases.1] at distinct
      rw [leases.2]
      have fewer {α : Type} (field : Lease → α) {before after : List Lease} {lease : Lease} :
          List.Sublist ((before ++ after).map field) ((before ++ lease :: after).map field) :=
        ((List.sublist_cons_self _ _).append_left _).map field
      exact ⟨distinct.1.sublist (fewer Lease.clientId), distinct.2.sublist (fewer Lease.nodeId)⟩
  | extend _ leases =>
      have clients (list : List Lease) : list.map Lease.clientId = (list.map Lease.identity).map Lease.clientId := by
        rw [List.map_map]
        rfl
      have nodes (list : List Lease) : list.map Lease.nodeId = (list.map Lease.identity).map Lease.nodeId := by
        rw [List.map_map]
        rfl
      rw [clients, nodes, leases, ← clients, ← nodes]
      exact distinct

/-- The clock of this environment never goes back or wraps a cooldown, and its tables can grow. -/
structure Paced (o : Oracle) (config : Config) : Prop where
  forward : ∀ early late, early ≤ late → (o.clock early).toNat ≤ (o.clock late).toNat
  room : ∀ call, (o.clock call).toNat + config.nodeIdReuseCooldownMs.toNat * 1000000 < 2 ^ 64
  grows : ∀ call, o.reallocates call = true

/-- A node other than zero is granted again only when its cooldown is over at the time of the check. -/
def CoolsDown (config : Config) (past : List Event) (event : Event) : Prop :=
  ∀ lease checkedNs ended atNs, event = .leaseGranted lease checkedNs → .leaseEnded ended atNs ∈ past →
    ended.nodeId = lease.nodeId → lease.nodeId ≠ 0 →
      atNs.toNat + config.nodeIdReuseCooldownMs.toNat * 1000000 ≤ checkedNs.toNat

/-- The event ends a lease at this time, or ends none. -/
def EndsAt (now : UInt64) (event : Event) : Prop := ∀ lease atNs, event = .leaseEnded lease atNs → atNs = now

/-- The event grants no lease and ends none. -/
def Event.plain : Event → Prop
  | .leaseGranted _ _ | .leaseEnded _ _ => False
  | _ => True

/-- A plain event ends nothing too early. -/
theorem plain_ends {event : Event} (plain : event.plain) (now : UInt64) : EndsAt now event := by
  rintro lease atNs rfl
  exact plain.elim

/-- The labels of changes that grant no lease and end none. -/
def Label.plain : Label → Bool
  | .grant _ | .finish _ => false
  | _ => true

/-- A change with a plain label logs plain events, and its cooldowns stay or expire. -/
theorem Change.plain {o : Oracle} {label : Label} {s s' : State} (change : Change o label s s')
    (kind : label.plain = true) : Journal.Grows Event.plain s.world.log s'.world.log ∧ Cooled o s s' := by
  cases change with
  | talk quiet =>
      refine ⟨quiet.world.log.mono fun event talk => ?_, quiet.cooled⟩
      cases talk <;> trivial
  | provision quiet => exact ⟨quiet.world.log.mono fun _ absurdity => absurdity.elim, quiet.cooled⟩
  | renew _ _ cooled _ _ _ log renewal =>
      refine ⟨⟨_, log, fun event member => ?_⟩, cooled⟩
      rcases List.mem_cons.mp member with rfl | inside
      · trivial
      · cases renewal.1 event inside <;> trivial
  | waste _ cooled _ _ log => exact ⟨log ▸ .refl _ _, cooled⟩
  | grant => cases kind
  | finish => cases kind
  | extend _ _ cooled _ _ log => exact ⟨log ▸ .refl _ _, cooled⟩

/-- A trace with plain labels logs plain events, and its cooldowns stay or expire. -/
theorem plain_trace {o : Oracle} {labels : List Label} {s s' : State} (path : Trace (Change o) labels s s')
    (kinds : ∀ label ∈ labels, label.plain = true) : Journal.Grows Event.plain s.world.log s'.world.log := by
  induction path with
  | nil s => exact .refl _ _
  | snoc path last hypothesis =>
      have before := hypothesis fun label member => kinds label (List.mem_append_left _ member)
      exact before.trans (last.plain (kinds _ (by simp))).1

/-- A change without a grant logs none. -/
theorem Change.ungranted {o : Oracle} {label : Label} {s s' : State} (change : Change o label s s')
    (ungranting : ∀ lease, label ≠ .grant lease) :
    Journal.Grows (fun event => event.granted = none) s.world.log s'.world.log := by
  obtain ⟨events, grown⟩ := change.grows
  refine ⟨events, grown.symm, ?_⟩
  have kept := change.grants
  have none : label.granted = [] := by
    cases label with
    | grant lease => exact absurd rfl (ungranting lease)
    | _ => rfl
  rw [none, List.append_nil, ← grown, Driver.grants, Driver.grants, List.filterMap_append] at kept
  exact List.filterMap_eq_nil_iff.mp (List.append_right_eq_self.mp kept)

/-- A trace without a grant logs none. -/
theorem ungranted_trace {o : Oracle} {labels : List Label} {s s' : State} (path : Trace (Change o) labels s s')
    (ungranting : ∀ label ∈ labels, ∀ lease, label ≠ .grant lease) :
    Journal.Grows (fun event => event.granted = none) s.world.log s'.world.log := by
  induction path with
  | nil s => exact .refl _ _
  | snoc path last hypothesis =>
      have before := hypothesis fun label member => ungranting label (List.mem_append_left _ member)
      exact before.trans (last.ungranted (ungranting _ (by simp)))

/-- An event that grants nothing meets no cooldown. -/
theorem ungranted_cools {event : Event} (ungranted : event.granted = none) (config : Config) (past : List Event) :
    CoolsDown config past event := by
  rintro lease checkedNs ended atNs rfl
  cases ungranted

/-- An ended node cools down in the table, or one of the first readings has reached the end of its cooldown. -/
def Cooling (o : Oracle) (readings : Nat) (s : State) : Prop :=
  ∀ ended atNs, .leaseEnded ended atNs ∈ s.world.log → ended.nodeId ≠ 0 → ended.nodeId ≠ nullU32 →
    (∃ cooldown ∈ s.nodeIdCooldowns, cooldown.nodeId = ended.nodeId ∧
      atNs.toNat + s.config.nodeIdReuseCooldownMs.toNat * 1000000 ≤ cooldown.expiresNs.toNat) ∨
    ∃ call < readings, atNs.toNat + s.config.nodeIdReuseCooldownMs.toNat * 1000000 ≤ (o.clock call).toNat

/-- No change touches the configuration. -/
theorem Change.config {o : Oracle} {label : Label} {s s' : State} (change : Change o label s s') :
    s'.config = s.config := by
  cases change with
  | talk quiet => exact quiet.config
  | provision quiet => exact quiet.config
  | renew _ stable => exact stable.1
  | waste stable => exact stable.1
  | grant _ _ config => exact config
  | finish stable => exact stable.1
  | extend stable => exact stable.1

/-- A change that ends no lease drops only entries that a reading has reached. -/
theorem Cooling.keeps {o : Oracle} {readings : Nat} {s s' : State} (cooling : Cooling o readings s)
    (config : s'.config = s.config) (cooled : Cooled o s s') (calls : s'.world.calls ≤ readings)
    (ended : ∀ lease atNs, .leaseEnded lease atNs ∈ s'.world.log → .leaseEnded lease atNs ∈ s.world.log) :
    Cooling o readings s' := by
  intro lease atNs member nonzero named
  rw [config]
  rcases cooling lease atNs (ended lease atNs member) nonzero named with ⟨cooldown, present, same, late⟩ | reached
  · rcases cooled cooldown present with kept | ⟨call, before, reached⟩
    · exact .inl ⟨cooldown, kept, same, late⟩
    · exact .inr ⟨call, Nat.lt_of_lt_of_le before calls, Nat.le_trans late (UInt64.le_iff_toNat_le.mp reached)⟩
  · exact .inr reached

/-- Plain events end nothing. -/
theorem plain_ended {log log' : List Event} (growth : Journal.Grows Event.plain log log') (lease : Lease)
    (atNs : UInt64) (member : .leaseEnded lease atNs ∈ log') : .leaseEnded lease atNs ∈ log :=
  (growth.source member).resolve_right id

/-- Without a wrap the expiry is the time of the end and the cooldown. -/
theorem cooldownExpiry_toNat {config : Config} {atNs : UInt64}
    (room : atNs.toNat + config.nodeIdReuseCooldownMs.toNat * 1000000 < 2 ^ 64) :
    (cooldownExpiry config atNs).toNat = atNs.toNat + config.nodeIdReuseCooldownMs.toNat * 1000000 := by
  have small := config.nodeIdReuseCooldownMs.toNat_lt
  have million : (1000000 : UInt64).toNat = 1000000 := by decide
  rw [cooldownExpiry, UInt64.toNat_add, UInt64.toNat_mul, UInt32.toNat_toUInt64, million]
  omega

/-- The end of a lease starts a cooldown that lasts longer than every earlier one. -/
theorem Cooling.finish {o : Oracle} {readings : Nat} {lease : Lease} {now : UInt64} {s s' : State}
    (cooling : Cooling o readings s) (paced : Paced o s.config) (cools : s.config.nodeIdReuseCooldownMs ≠ 0)
    (change : Change o (.finish lease) s s') (reading : ∃ call < readings, now = o.clock call)
    (earlier : ∀ ended atNs, .leaseEnded ended atNs ∈ s.world.log → atNs ≤ now)
    (ends : Journal.Grows (EndsAt now) s.world.log s'.world.log) : Cooling o readings s' := by
  have config := change.config
  cases change with
  | @finish _ _ _ _ _ atNs _ _ _ _ _ log started =>
      obtain ⟨added, grown, kinds⟩ := ends
      rw [log, List.append_cancel_left_eq] at grown
      have same : atNs = now := kinds (.leaseEnded lease atNs) (by simp [← grown]) lease atNs rfl
      subst same
      obtain ⟨call, before, read⟩ := reading
      have expiry := cooldownExpiry_toNat (read ▸ paced.room call)
      intro ended endedNs member nonzero named
      rw [config]
      rw [log, List.mem_append, List.mem_singleton] at member
      rcases member with old | new
      · rcases cooling ended endedNs old nonzero named with ⟨cooldown, present, node, late⟩ | reached
        · have order := UInt64.le_iff_toNat_le.mp (earlier ended endedNs old)
          rcases started.kept cooldown present with kept | reached | ⟨replaced, there⟩
          · exact .inl ⟨cooldown, kept, node, late⟩
          · exact .inr ⟨call, before, read ▸ Nat.le_trans late (UInt64.le_iff_toNat_le.mp reached)⟩
          · exact .inl ⟨_, there, replaced.symm.trans node, by rw [expiry]; omega⟩
        · exact .inr reached
      · cases new
        have there := started.started nonzero named cools paced.grows
        exact .inl ⟨_, there, rfl, Nat.le_of_eq expiry.symm⟩

/-- What was cooling is cooling after more readings. -/
theorem Cooling.more {o : Oracle} {readings more : Nat} {s : State} (cooling : Cooling o readings s)
    (later : readings ≤ more) : Cooling o more s := by
  intro ended atNs member nonzero named
  apply (cooling ended atNs member nonzero named).imp id
  rintro ⟨call, before, reached⟩
  exact ⟨call, Nat.lt_of_lt_of_le before later, reached⟩

/-- A trace that ends leases at one time and grants none keeps the nodes cooling. -/
theorem Cooling.trace {o : Oracle} {readings : Nat} {now : UInt64} {labels : List Label} {s s' : State}
    (path : Trace (Change o) labels s s') (cooling : Cooling o readings s) (paced : Paced o s.config)
    (cools : s.config.nodeIdReuseCooldownMs ≠ 0) (ungranting : ∀ label ∈ labels, ∀ lease, label ≠ .grant lease)
    (reading : (∃ call < readings, now = o.clock call) ∨ ∀ label ∈ labels, label.plain = true)
    (earlier : ∀ ended atNs, .leaseEnded ended atNs ∈ s.world.log → atNs ≤ now)
    (ends : Journal.Grows (EndsAt now) s.world.log s'.world.log) (calls : s'.world.calls ≤ readings) :
    Cooling o readings s' ∧ s'.config = s.config := by
  induction path with
  | nil => exact ⟨cooling, rfl⟩
  | @snoc labels s m s' label path last hypothesis =>
      obtain ⟨late, lateLog⟩ := last.grows
      obtain ⟨first, firstLog⟩ := (later_trace path).log
      obtain ⟨added, grown, kinds⟩ := ends
      rw [← lateLog, ← firstLog, List.append_assoc, List.append_cancel_left_eq] at grown
      have firstEnds : ∀ event ∈ first, EndsAt now event := fun event member =>
        kinds event (grown ▸ List.mem_append_left _ member)
      obtain ⟨before, config⟩ := hypothesis cooling paced cools
        (fun other member => ungranting other (List.mem_append_left _ member))
        (reading.imp id fun plain other member => plain other (List.mem_append_left _ member)) earlier
        ⟨first, firstLog.symm, firstEnds⟩ (Nat.le_trans last.calls_le calls)
      refine ⟨?_, last.config.trans config⟩
      by_cases kind : label.plain = true
      · obtain ⟨plain, cooled⟩ := last.plain kind
        exact before.keeps last.config cooled calls (plain_ended plain)
      · have timed : ∃ call < readings, now = o.clock call := reading.resolve_right fun plain =>
          kind (plain label (by simp))
        cases label with
        | finish lease =>
            refine before.finish (config ▸ paced) (config ▸ cools) last timed (fun ended atNs member => ?_)
              ⟨late, lateLog.symm, fun event member => kinds event (grown ▸ List.mem_append_right _ member)⟩
            rw [← firstLog] at member
            rcases List.mem_append.mp member with old | new
            · exact earlier ended atNs old
            · rw [firstEnds _ new ended atNs rfl]
              exact UInt64.le_refl _
        | grant lease => exact absurd rfl (ungranting _ (by simp) lease)
        | _ => exact absurd rfl kind

/-- A revocation logs plain events. -/
theorem revokeLease_plain (o : Oracle) (lease : Lease) (reason : LeaseRevokeReason) (text : String) (s : State) :
    Journal.Grows Event.plain s.world.log (revokeLease o lease reason text s).world.log :=
  (sendLeaseRevoked_grows fun _ _ => trivial).log

/-- The fence of a freed stream logs plain events. -/
theorem fenceFreed_plain (o : Oracle) (isProducer : Bool) (streamId : UInt32) (s : State) :
    Journal.Grows Event.plain s.world.log
      (fenceFreed o isProducer (findStream s.streams streamId) s).world.log := by
  rcases found : findStream s.streams streamId with _ | index
  · exact .refl _ _
  · rw [fenceFreed]
    split
    · rcases fenceStream_trace (o := o) found with path | path
      · exact plain_trace path (by simp [Label.plain])
      · exact plain_trace path (by simp [Label.plain])
    · exact .refl _ _

/-- The turn of an expired lease ends it at the time of the pass. -/
theorem expireLease_ends (o : Oracle) (now : UInt64) (index : Nat) (lease : Lease) (s : State) :
    Journal.Grows (EndsAt now) s.world.log (expireLease o now index lease s).world.log := by
  have revoked := (revokeLease_plain o lease .expired "lease expired" s).mono fun _ plain => plain_ends plain now
  have streams : (revokeLease o lease .expired "lease expired" s).streams = s.streams := rfl
  unfold expireLease
  dsimp only
  generalize revokeLease o lease .expired "lease expired" s = r at revoked streams
  have ended := (endLease_effect o index (findStream s.streams lease.streamId) lease now r).2.2.2
  have lookup := endLease_lookup o index (findStream s.streams lease.streamId) lease now r lease.streamId
  rw [streams] at lookup
  generalize endLease o index (findStream s.streams lease.streamId) lease now r = m at ended lookup ⊢
  have fenced := (fenceFreed_plain o (lease.role == .producer) lease.streamId m).mono fun _ plain =>
    plain_ends plain now
  rw [lookup] at fenced
  refine (revoked.trans ⟨_, ended, fun event member => ?_⟩).trans fenced
  rw [List.mem_singleton.mp member]
  intro other atNs same
  cases same
  rfl

/-- The expiry ends leases at its time. -/
theorem expireLoop_ends (o : Oracle) (now : UInt64) (remaining index : Nat) (s : State) :
    Journal.Grows (EndsAt now) s.world.log (expireLoop o now remaining index s).world.log := by
  induction remaining generalizing index s with
  | zero => exact .refl _ _
  | succ remaining hypothesis =>
      unfold expireLoop
      split
      · exact .refl _ _
      next lease present =>
        split
        · exact (expireLease_ends o now index lease s).trans (hypothesis index _)
        · exact hypothesis (index + 1) s

/-- An operation that grants nothing ends leases at most at one reading of its own. -/
def Settles (o : Oracle) (s s' : State) : Prop :=
  ∃ labels, Trace (Change o) labels s s' ∧ (∀ label ∈ labels, ∀ lease, label ≠ .grant lease) ∧
    ∃ call, s.world.calls ≤ call ∧ (call < s'.world.calls ∨ ∀ label ∈ labels, label.plain = true) ∧
      Journal.Grows (EndsAt (o.clock call)) s.world.log s'.world.log

/-- A trace with plain labels settles. -/
theorem settles_of_plain {o : Oracle} {labels : List Label} {s s' : State} (path : Trace (Change o) labels s s')
    (plain : ∀ label ∈ labels, label.plain = true) : Settles o s s' := by
  refine ⟨labels, path, fun label member lease same => ?_, s.world.calls, Nat.le_refl _, .inr plain,
    (plain_trace path plain).mono fun _ kind => plain_ends kind _⟩
  have kind := plain label member
  rw [same] at kind
  cases kind

/-- The expiry settles. -/
theorem expire_settles (o : Oracle) (s : State) : Settles o s (handleExpiredLeases o s) := by
  obtain ⟨labels, path, fences⟩ := expireLoop_trace o (o.clock s.world.calls) s.leases.length 0
    { s with world := s.world.called }
  refine ⟨[.talk] ++ labels, (Trace.single (called_talk o s)).append path, fun label member lease same => ?_,
    s.world.calls, Nat.le_refl _, .inl (later_trace path).calls, expireLoop_ends ..⟩
  subst same
  rcases List.mem_append.mp member with first | later
  · simp at first
  · cases fences.settled _ later

/-- The answer to a detach logs plain events. -/
theorem respondDetach_grows (o : Oracle) (request : DetachRequest) (code : ResponseCode) (text : String) (s : State) :
    World.Grows Event.plain s.world (respondDetach o request code text s).2.world :=
  sendDetachResponse_grows fun _ _ => trivial

/-- A detach settles. -/
theorem detach_settles (o : Oracle) (request : DetachRequest) (s : State) :
    Settles o s (handleDetach o request s).2 := by
  obtain ⟨labels, path, kinds⟩ := handleDetach_trace o request s
  have ungranting : ∀ label ∈ labels, ∀ lease, label ≠ .grant lease := by
    intro label member lease same
    subst same
    rcases kinds _ member with talk | ⟨other, finish⟩
    · cases talk
    · cases finish
  have refused (code : ResponseCode) (text : String)
      (same : (handleDetach o request s).2 = (respondDetach o request code text s).2) :
      Settles o s (handleDetach o request s).2 := by
    rw [same]
    exact settles_of_plain (.single (respond_talk ..)) (by simp [Label.plain])
  rcases asked : request.role with _ | role
  · exact refused .invalidParams "invalid role" (by rw [handleDetach, asked])
  rcases owned : ownedLease s.leases request.leaseId request.streamId request.clientId role with _ | ⟨index, lease⟩
  · exact refused .rejected "lease not found" (by rw [handleDetach, asked]; dsimp only; rw [owned])
  obtain ⟨present, -, -, streamId, -, -⟩ := ownedLease_some owned
  have unfenced (target : Option Nat) (m : State) :
      fenceFreed o ((0 : UInt8) == Role.producer.code) target m = m := by cases target <;> rfl
  have revoked : World.Grows Event.plain s.world (revokeLease o lease .detached "lease detached" s).world :=
    sendLeaseRevoked_grows fun _ _ => trivial
  have accepted : (handleDetach o request s).2 = (respondDetach o request .ok ""
      (endLease o index (findStream s.streams request.streamId) lease
        (o.clock (revokeLease o lease .detached "lease detached" s).world.calls)
        { revokeLease o lease .detached "lease detached" s with
          world := (revokeLease o lease .detached "lease detached" s).world.called })).2 := by
    rw [handleDetach, asked]
    dsimp only
    rw [owned]
    dsimp only
    rw [unfenced]
  have streams : (revokeLease o lease .detached "lease detached" s).streams = s.streams := rfl
  have leases : (revokeLease o lease .detached "lease detached" s).leases = s.leases := rfl
  rw [accepted] at path ⊢
  generalize revokeLease o lease .detached "lease detached" s = r at path revoked streams leases ⊢
  have lookup : findStream r.streams lease.streamId = findStream s.streams request.streamId := by
    rw [streams, streamId]
  have ended := (endLease_effect o index (findStream s.streams request.streamId) lease (o.clock r.world.calls)
    { r with world := r.world.called }).2.2.2
  have calls := (finish_change (o := o) (s := { r with world := r.world.called }) (o.clock r.world.calls) lookup
    (leases ▸ present)).calls_le
  generalize endLease o index (findStream s.streams request.streamId) lease (o.clock r.world.calls)
    { r with world := r.world.called } = m at path ended calls ⊢
  have responded := respondDetach_grows o request .ok "" m
  refine ⟨labels, path, ungranting, r.world.calls, revoked.calls, .inl (Nat.lt_of_lt_of_le calls responded.calls),
    ((revoked.log.mono fun _ plain => plain_ends plain _).trans ⟨_, ended, fun event member => ?_⟩).trans
      (responded.log.mono fun _ plain => plain_ends plain _)⟩
  rw [List.mem_singleton.mp member]
  intro other atNs same
  cases same
  rfl

/-- Every operation but an attach settles. -/
theorem step_settles {o : Oracle} {s : State} {op : Op} (tidy : Tidy s) (calm : op.attaches = false) :
    Settles o s (step o s op) := by
  cases op with
  | attach request => cases calm
  | detach request => exact detach_settles o request s
  | keepalive request =>
      obtain ⟨labels, path, kinds⟩ := handleKeepalive_trace o request s
      exact settles_of_plain path fun label member => by rw [kinds label member]; rfl
  | expire => exact expire_settles o s
  | announce =>
      obtain ⟨labels, path, kinds⟩ := announceTick_trace (o := o) tidy
      exact settles_of_plain path fun label member => by rw [kinds label member]; rfl

/-- The cooldowns of a state are timed and running, and its log respects them. -/
structure Cooldowns (o : Oracle) (config : Config) (s : State) : Prop where
  same : s.config = config
  timed : ∀ ended atNs, .leaseEnded ended atNs ∈ s.world.log → ∃ call < s.world.calls, atNs = o.clock call
  cooling : Cooling o s.world.calls s
  apart : Journal.Along (CoolsDown config) s.world.log

/-- What settles keeps the cooldowns. -/
theorem Cooldowns.settle {o : Oracle} {config : Config} {s s' : State} (cooldowns : Cooldowns o config s)
    (paced : Paced o config) (cools : config.nodeIdReuseCooldownMs ≠ 0) (settles : Settles o s s') :
    Cooldowns o config s' := by
  obtain ⟨labels, path, ungranting, call, late, reading, ends⟩ := settles
  have later := later_trace path
  have earlier (ended : Lease) (atNs : UInt64) (member : .leaseEnded ended atNs ∈ s.world.log) :
    atNs ≤ o.clock call := by
    obtain ⟨other, before, same⟩ := cooldowns.timed ended atNs member
    rw [same, UInt64.le_iff_toNat_le]
    exact paced.forward other call (by omega)
  have same := cooldowns.same
  obtain ⟨cooling, config'⟩ := (cooldowns.cooling.more later.calls).trace path (same ▸ paced)
    (same ▸ cools) ungranting (reading.imp (fun before => ⟨call, before, rfl⟩) id) earlier ends (Nat.le_refl _)
  refine ⟨config'.trans same, fun ended atNs member => ?_, cooling,
    cooldowns.apart.grows (ungranted_trace path ungranting) fun past event _ kind => ungranted_cools kind config past⟩
  have old (known : .leaseEnded ended atNs ∈ s.world.log) : ∃ call < s'.world.calls, atNs = o.clock call := by
    obtain ⟨other, before, read⟩ := cooldowns.timed ended atNs known
    exact ⟨other, Nat.lt_of_lt_of_le before later.calls, read⟩
  rcases reading with within | plain
  · rcases ends.source member with known | new
    · exact old known
    · exact ⟨call, within, new ended atNs rfl⟩
  · exact old (plain_ended (plain_trace path plain) ended atNs member)

/-- The check of a desired node reads the clock in a state that the checks lead to. -/
theorem attachChecks_node {o : Oracle} {request : AttachRequest} {s s' : State} {admission : Admission}
    (run : (attachChecks o request).exec s = (.ok admission, s')) (desired : request.desiredNodeId ≠ nullU32) :
    ∃ m, Checks o request s m ∧ admission.checkedNs = o.clock m.world.calls ∧
      (nodeIdInCooldown m.nodeIdCooldowns request.desiredNodeId admission.checkedNs).1 = false := by
  unfold attachChecks at run
  obtain ⟨role, m, admitted, afterRole⟩ := exec_bind_ok.mp run
  obtain ⟨rfl, -⟩ := attachAdmit_ok.mp admitted
  obtain ⟨index, p, provided, afterStream⟩ := exec_bind_ok.mp afterRole
  obtain ⟨provides, known⟩ := attachStream_provides provided
  rw [exec_get_bind, exec_stopIf_bind] at afterStream
  split at afterStream
  · cases afterStream
  · obtain ⟨asked, q, paged, afterPages⟩ := exec_bind_ok.mp afterStream
    obtain ⟨checkedNs, r, named, afterNode⟩ := exec_bind_ok.mp afterPages
    obtain ⟨now, t, timed, afterClock⟩ := exec_bind_ok.mp afterNode
    cases afterClock
    obtain ⟨-, read, -, warm⟩ := attachNodeId_ok named desired
    exact ⟨q, ⟨p, provides, known, attachHugepages_reads paged⟩, read, warm⟩

/-- A node that cools down in a state is granted only at the end of its cooldown. -/
theorem Cooling.respected {o : Oracle} {s : State} {ended : Lease} {atNs checkedNs : UInt64} {call : Nat}
    (cooling : Cooling o s.world.calls s) (paced : Paced o s.config) (member : .leaseEnded ended atNs ∈ s.world.log)
    (nonzero : ended.nodeId ≠ 0) (named : ended.nodeId ≠ nullU32) (late : s.world.calls ≤ call)
    (read : checkedNs = o.clock call) (warm : ∀ cooldown ∈ s.nodeIdCooldowns, cooldown.nodeId = ended.nodeId →
      cooldown.expiresNs ≤ checkedNs) :
    atNs.toNat + s.config.nodeIdReuseCooldownMs.toNat * 1000000 ≤ checkedNs.toNat := by
  rcases cooling ended atNs member nonzero named with ⟨cooldown, present, same, expiry⟩ | ⟨other, before, reached⟩
  · exact Nat.le_trans expiry (UInt64.le_iff_toNat_le.mp (warm cooldown present same))
  · rw [read]
    exact Nat.le_trans reached (paced.forward other call (by omega))

/-- A calm label is plain. -/
theorem calm_plain {label : Label} (calm : label.calm = true) : label.plain = true := by
  cases label <;> first | rfl | cases calm

/-- The checks of an attach settle. -/
theorem Checks.settles {o : Oracle} {request : AttachRequest} {s s' : State} (checks : Checks o request s s') :
    Settles o s s' := by
  obtain ⟨labels, path, calm⟩ := checks.trace
  exact settles_of_plain path fun label member => calm_plain (calm label member)

/-- The renewal of a stream settles. -/
theorem Renews.settles {o : Oracle} {role : Role} {index : Nat} {s s' : State} {streamId : UInt32}
    (renews : Renews o role index s s') (found : findStream s.streams streamId = some index) : Settles o s s' := by
  rcases renews.trace found with path | path
  · exact settles_of_plain path (by simp)
  · exact settles_of_plain path (by simp [Label.plain])

/-- A granted lease was not ended within the cooldown before its check. -/
theorem Granted.cools {o : Oracle} {config : Config} {request : AttachRequest} {admission : Admission} {lease : Lease}
    {streamId : UInt32} {s m r s' : State} (granted : Granted o request admission lease streamId s m r s')
    (paced : Paced o config) (cools : config.nodeIdReuseCooldownMs ≠ 0) (cooldowns : Cooldowns o config s) :
    Cooldowns o config s' := by
  have checked := cooldowns.settle paced cools granted.checks.settles
  have renewed := checked.settle paced cools (granted.renews.settles granted.found)
  have change := granted.change
  obtain ⟨atNs, log, node⟩ := granted.log
  have named : lease.nodeId ≠ nullU32 := by
    cases change with
    | grant _ fresh => exact fresh.node.1
  have ended (other : Lease) (otherNs : UInt64) (member : .leaseEnded other otherNs ∈ s'.world.log) :
      .leaseEnded other otherNs ∈ r.world.log := by
    rw [log, List.mem_append, List.mem_singleton] at member
    exact member.resolve_right (by simp)
  refine ⟨change.config.trans renewed.same, fun other otherNs member => ?_, ?_, ?_⟩
  · obtain ⟨call, before, read⟩ := renewed.timed other otherNs (ended other otherNs member)
    exact ⟨call, Nat.lt_of_lt_of_le before change.calls_le, read⟩
  · have cooled : Cooled o r s' := by
      cases change with
      | grant _ _ _ _ _ cooled => exact cooled
    exact (renewed.cooling.more change.calls_le).keeps change.config cooled (Nat.le_refl _) ended
  · rw [log, Journal.along_push]
    refine ⟨renewed.apart, fun lease' checkedNs other otherNs same member node' nonzero => ?_⟩
    cases same
    rw [← renewed.same]
    rcases node with ⟨desired, node, read⟩ | ⟨call, late, read, check⟩
    · obtain ⟨q, checks, reading, passed⟩ := attachChecks_node granted.checked desired
      have there := cooldowns.settle paced cools checks.settles
      have before : .leaseEnded other otherNs ∈ q.world.log := by
        rw [checks.silent, ← granted.checks.silent]
        rcases granted.renews.trace granted.found with path | path
        · exact plain_ended (plain_trace path (by simp)) other otherNs member
        · exact plain_ended (plain_trace path (by simp [Label.plain])) other otherNs member
      have room := there.cooling.respected (there.same ▸ paced) before (node' ▸ nonzero) (node' ▸ named)
        (Nat.le_refl _) (read.trans reading) fun cooldown present same => ?_
      · rwa [there.same, ← renewed.same] at room
      · rw [read]
        have asked := (same.trans node').trans node
        exact warm_of_check passed (node ▸ nonzero) present asked
    · refine renewed.cooling.respected (renewed.same ▸ paced) member (node' ▸ nonzero) (node' ▸ named) late read ?_
      intro cooldown present same
      exact check.warm nonzero cooldown present (same.trans node')

/-- An announce of an active stream settles. -/
theorem announced_settles {o : Oracle} {s : State} {index : Nat} {streamId : UInt32} (requireHugepages : Bool)
    (found : findStream s.streams streamId = some index) (active : Active s.world.log (s.streamAt index)) :
    Settles o s (s.announce o index requireHugepages) :=
  settles_of_plain (.single (announce_talk requireHugepages found active)) (by simp [Label.plain])

/-- An attach keeps the cooldowns. -/
theorem Cooldowns.attach {o : Oracle} {config : Config} {s : State} (cooldowns : Cooldowns o config s)
    (paced : Paced o config) (cools : config.nodeIdReuseCooldownMs ≠ 0) (request : AttachRequest) :
    Cooldowns o config (handleAttach o request s).2 := by
  rcases outcome : (grantAttach o request).exec s with ⟨rejection | grant, s'⟩
  · have refusal : Settles o s' { s' with world := (sendAttachRefused o request.correlationId
        rejection.code rejection.message s'.world).2 } :=
      settles_of_plain (.single (.talk (.ofWorld (sendAttachRefused_grows fun response result empty =>
        .silent result (by rw [Message.advert, empty]; rfl))) (view_congr rfl))) (by simp [Label.plain])
    rw [handleAttach_error outcome]
    refine Cooldowns.settle ?_ paced cools refusal
    cases grantAttach_error outcome with
    | checks left => exact cooldowns.settle paced cools left.settles
    | epoch _ _ m checks _ found renews =>
        exact (cooldowns.settle paced cools checks.settles).settle paced cools (renews.settles found)
    | lease _ _ m r checks _ found renews change =>
        exact ((cooldowns.settle paced cools checks.settles).settle paced cools (renews.settles found)).settle paced
          cools (settles_of_plain (.single change) (by simp [Label.plain]))
  · obtain ⟨admission, streamId, m, r, place, granted⟩ := grantAttach_ok outcome
    obtain ⟨found, active⟩ := granted.active
    rw [← place] at found active
    have announced := (granted.cools paced cools cooldowns).settle paced cools
      (announced_settles grant.requireHugepages found active)
    obtain ⟨refound, core⟩ := announce_keeps (o := o) grant.requireHugepages found
    rw [handleAttach_ok outcome]
    exact announced.settle paced cools (settles_of_plain (.single (respond_granted_talk request.correlationId
      grant.lease grant.requireHugepages refound
      (active.keeps core (announce_log o s' grant.index grant.requireHugepages)))) (by simp [Label.plain]))

/-- Every reachable state of a paced run has its cooldowns. -/
theorem run_cooldowns {o : Oracle} {config : Config} (paced : Paced o (init config).config)
    (cools : (init config).config.nodeIdReuseCooldownMs ≠ 0) (started : Bool) (ops : List Op) :
    Cooldowns o (init config).config (run o (boot o config started) ops) := by
  induction ops using List.reverseRecOn with
  | nil =>
      obtain ⟨labels, path, talk⟩ := boot_trace o config started
      have start : Cooldowns o (init config).config (init config) :=
        ⟨rfl, fun _ _ member => (by cases member), fun _ _ member => (by cases member), .nil⟩
      refine start.settle paced cools (settles_of_plain path fun label member => ?_)
      rw [talk label member]
      rfl
  | append_singleton ops op hypothesis =>
      rw [run_append, run_cons, run_nil]
      rcases calm : op.attaches with _ | _
      · exact hypothesis.settle paced cools (step_settles (run_tidy (boot_tidy o config started) ops) calm)
      · cases op with
        | attach request => exact hypothesis.attach paced cools request
        | _ => cases calm

/--
Clients and nodes are always distinct. Below one round of attach requests the lease identifiers are
distinct in the table and were never granted twice. In a paced environment no node other than zero is
granted before its cooldown is over.
-/
theorem run_identities (o : Oracle) (config : Config) (started : Bool) (ops : List Op) :
    Identified (run o (boot o config started) ops) ∧
      (ops.countP Op.attaches < 2 ^ 64 →
        ((run o (boot o config started) ops).leases.map Lease.leaseId).Nodup ∧
          ((grants (run o (boot o config started) ops).world.log).map Lease.leaseId).Nodup) ∧
      (config.nodeIdReuseCooldownMs ≠ 0 → Paced o config →
        Journal.Along (CoolsDown config) (run o (boot o config started) ops).world.log) := by
  obtain ⟨past, orderly, drawn⟩ := run_orderly o config started ops
  refine ⟨?_, fun few => ?_, fun cools paced => ?_⟩
  · obtain ⟨early, booted, -⟩ := boot_trace o config started
    obtain ⟨late, path, -⟩ := run_trace (o := o) (boot_tidy o config started) ops
    obtain ⟨clients, nodes⟩ :=
      (booted.append path).keeps (fun _ _ _ distinct change => distinct_change change distinct) ⟨List.nodup_nil,
        List.nodup_nil⟩
    exact ⟨⟨clients, fun lease member => (orderly.named lease member).1⟩,
      ⟨nodes, fun lease member => (orderly.named lease member).2⟩⟩
  · have short := Nat.lt_of_le_of_lt drawn few
    have distinct := (orderly.book short).ids
    rw [State.book, List.map_map] at distinct
    exact ⟨distinct, orderly.numbered.distinct short⟩
  · have steady : Paced o (init config).config := ⟨paced.forward, paced.room, paced.grows⟩
    exact (run_cooldowns steady cools started ops).apart

/-- The clock of this environment stands still and its tables can grow. -/
def steadyOracle (now : UInt64) : Oracle :=
  { plainOracle with
    clock := fun _ => now
    reallocates := fun _ => true }

/-- A node of this driver cools down for one second. -/
def coolConfig : Config := { plainConfig with nodeIdReuseCooldownMs := 1000 }

/-- A client takes a node, leaves, and asks for the node again. -/
def returnOps (nodeId : UInt32) : List Op :=
  [.attach { plainRequest 1 .consumer with desiredNodeId := nodeId }, .detach (plainDetach 6 1 .consumer),
    .attach { plainRequest 1 .consumer with desiredNodeId := nodeId }]

theorem run_identities_cool :
    Identified (run (steadyOracle 100) (boot (steadyOracle 100) coolConfig false) (returnOps 7)) ∧
      ((run (steadyOracle 100) (boot (steadyOracle 100) coolConfig false) (returnOps 7)).leases.map
        Lease.leaseId).Nodup ∧
      Journal.Along (CoolsDown coolConfig)
        (run (steadyOracle 100) (boot (steadyOracle 100) coolConfig false) (returnOps 7)).world.log := by
  obtain ⟨identified, distinct, apart⟩ :=
    run_identities (steadyOracle 100) coolConfig false (returnOps 7)
  refine ⟨identified, (distinct (by decide)).1, apart (by decide) ⟨fun _ _ _ => Nat.le_refl _, fun _ => ?_,
    fun _ => rfl⟩⟩
  change (100 : UInt64).toNat + (1000 : UInt32).toNat * 1000000 < 2 ^ 64
  decide

/-- The log lists when nodes were granted and when their leases ended. -/
def Event.visit : Event → Option (Bool × UInt32 × UInt64)
  | .leaseGranted lease checkedNs => some (true, lease.nodeId, checkedNs)
  | .leaseEnded lease atNs => some (false, lease.nodeId, atNs)
  | _ => none

/--
Lease identifiers repeat in the table after a round of the counter, node zero has no cooldown, and a
cooldown that would end past the last reading of the clock is over at once.
-/
theorem identities_repeat :
    ¬ ((run plainOracle (boot plainOracle plainConfig false) roundOps).leases.map Lease.leaseId).Nodup ∧
      (run (steadyOracle 100) (boot (steadyOracle 100) coolConfig false) (returnOps 0)).world.log.filterMap
        Event.visit = [(true, 0, 100), (false, 0, 100), (true, 0, 100)] ∧
      (run (steadyOracle 0xFFFFFFFFFFFFFFFF) (boot (steadyOracle 0xFFFFFFFFFFFFFFFF) coolConfig false)
        (returnOps 7)).world.log.filterMap Event.visit =
          [(true, 7, 0xFFFFFFFFFFFFFFFF), (false, 7, 0xFFFFFFFFFFFFFFFF), (true, 7, 0xFFFFFFFFFFFFFFFF)] := by
  refine ⟨fun distinct => ?_, by decide +kernel, by decide +kernel⟩
  obtain ⟨createdNs, announcedNs, w, turned⟩ := round_state
  rw [turned] at distinct
  change ((plainConsumers ++ [plainLease 6 9 .producer]).map Lease.leaseId).Nodup at distinct
  exact absurd distinct (by decide +kernel)

end TensorPool.Driver
