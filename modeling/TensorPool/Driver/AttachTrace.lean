/-
This file takes an attach apart into changes.
-/

import TensorPool.Driver.AttachChecks

namespace TensorPool.Driver

open Attempt

/-- The epoch phase leaves an active stream to a consumer and renews any other. -/
inductive Renews (o : Oracle) (role : Role) (index : Nat) (s s' : State) : Prop
  | kept (unchanged : s' = s) (consumer : role ≠ .producer) (active : (s.streamAt index).epoch ≠ 0)
  | renewed (stream : StreamState) (w : World) (due : role = .producer ∨ (s.streamAt index).epoch = 0)
      (moved : s' = s.setStream index stream w)
      (core : stream.core = { (s.streamAt index).core with
        epoch := nextEpoch (o.clock s.world.calls) (s.streamAt index).epoch })
      (change : ∀ streamId, findStream s.streams streamId = some index → Change o (.renew streamId) s s')
      (bumped : ∀ streamId, findStream s.streams streamId = some index →
        .epochBumped streamId stream.epoch ∈ w.log)
      (paged : ∃ asked createdNs, stream = { (s.streamAt index) with
        epoch := nextEpoch (o.clock s.world.calls) (s.streamAt index).epoch
        epochCreatedNs := createdNs
        requireHugepages := (s.streamAt index).pages asked })

theorem attachEpoch_renews {o : Oracle} {role : Role} {index : Nat} {asked : Bool} {s s' : State}
    {outcome : Except Rejection Bool} (run : (attachEpoch o role index asked).exec s = (outcome, s')) :
    Renews o role index s s' ∧ (∀ rejection, outcome = .error rejection →
      rejection.code = .internalError ∧ (role = .producer ∨ (s.streamAt index).epoch = 0)) := by
  unfold attachEpoch at run
  rw [exec_get_bind] at run
  dsimp only at run
  generalize pages : (s.streamAt index).pages asked = require at run
  have renew (streamId : UInt32) (found : findStream s.streams streamId = some index) :=
    renew_change (o := o) require found
  obtain ⟨createdNs, stamped⟩ := createShmEpoch_stream o s.config
    { (bumpEpoch o (s.streamAt index) s.world).1 with requireHugepages := require }
    (bumpEpoch o (s.streamAt index) s.world).2
  dsimp only at renew
  generalize createShmEpoch o s.config _ _ = created at run renew stamped
  split at run
  next due =>
    rw [exec_set_bind, exec_stopIf_bind] at run
    have renewed : Renews o role index s (s.setStream index created.2.1 created.2.2) := by
      refine .renewed created.2.1 created.2.2 due rfl ?_ (fun streamId found => (renew streamId found).1)
        (fun streamId found => (renew streamId found).2.2) ⟨asked, createdNs, ?_⟩
      · rw [stamped, bumpEpoch_eq]
        rfl
      · rw [stamped, bumpEpoch_eq, pages]
    split at run
    · cases run
      refine ⟨renewed, fun rejection failed => ?_⟩
      cases failed
      exact ⟨rfl, due⟩
    · cases run
      exact ⟨renewed, fun _ failed => by cases failed⟩
  next undue =>
    cases run
    rw [not_or] at undue
    exact ⟨.kept rfl undue.1 undue.2, fun _ failed => by cases failed⟩

/-- An incremented counter is never zero. -/
theorem increment_ne_zero (counter : UInt64) : increment counter ≠ 0 := by
  unfold increment
  split
  · decide
  · assumption

theorem seedU64_ne_zero (o : Oracle) (w : World) : (seedU64 o w).1 ≠ 0 := by
  unfold seedU64
  dsimp only
  split
  · decide
  · assumption

/-- A draw reads the random source until a node is available or its attempts are over. -/
theorem drawNodeId_spec (o : Oracle) (leases : List Lease) (cooldowns : List NodeIdCooldown)
    (counter now : UInt64) (remaining : Nat) (attempts : UInt64) (w : World) :
    w.calls ≤ (drawNodeId o leases cooldowns counter now remaining attempts w).2.calls ∧
      (drawNodeId o leases cooldowns counter now remaining attempts w).2.log = w.log ∧
      ((drawNodeId o leases cooldowns counter now remaining attempts w).1 ≠ nullU32 →
        nodeIdAvailable leases cooldowns
          (drawNodeId o leases cooldowns counter now remaining attempts w).1 now = true) := by
  induction remaining generalizing attempts w with
  | zero => exact ⟨Nat.le_refl _, rfl, fun absent => absurd rfl absent⟩
  | succ remaining hypothesis =>
      unfold drawNodeId
      dsimp only
      split
      next available => exact ⟨Nat.le_succ _, rfl, fun _ => available⟩
      · obtain ⟨calls, log, available⟩ := hypothesis (attempts + 1) (seedU64 o w).2
        exact ⟨Nat.le_trans (Nat.le_succ _) calls, log, available⟩

/-- A node that was drawn is available at the first reading of the clock. -/
theorem nextNodeId_spec {o : Oracle} {s : State} (seeded : s.leaseCounter ≠ 0) :
    Reads o s (nextNodeId o s).2 ∧ s.world.calls < (nextNodeId o s).2.world.calls ∧
      ((nextNodeId o s).1 ≠ nullU32 → nodeIdAvailable s.leases
        (pruneNodeIdCooldowns s.nodeIdCooldowns (o.clock s.world.calls)) (nextNodeId o s).1
        (o.clock s.world.calls) = true) := by
  unfold nextNodeId seedCounter
  dsimp only
  rw [if_neg seeded]
  obtain ⟨calls, log, available⟩ := drawNodeId_spec o s.leases
    (pruneNodeIdCooldowns s.nodeIdCooldowns (o.clock s.world.calls)) s.leaseCounter
    (o.clock s.world.calls) 1024 0 s.world.called
  have later : s.world.calls < (drawNodeId o s.leases (pruneNodeIdCooldowns s.nodeIdCooldowns
      (o.clock s.world.calls)) s.leaseCounter (o.clock s.world.calls) 1024 0 s.world.called).2.calls := calls
  exact ⟨⟨rfl, rfl, rfl, rfl, rfl, rfl, log, Nat.le_of_lt later, cooled_prune s.world.calls rfl later⟩,
    later, available⟩

/-- The identifier of the new lease continues the counter. -/
theorem nextLeaseId_spec (o : Oracle) (counter : UInt64) (w : World) :
    (∃ seeded, Seeded counter seeded ∧ (nextLeaseId o counter w).1 = increment seeded) ∧
      w.calls ≤ (nextLeaseId o counter w).2.calls ∧ (nextLeaseId o counter w).2.log = w.log := by
  unfold nextLeaseId seedCounter
  by_cases unseeded : counter = 0
  · rw [if_pos unseeded]
    exact ⟨⟨_, ⟨seedU64_ne_zero o w, fun seeded => absurd unseeded seeded⟩, rfl⟩, Nat.le_succ _, rfl⟩
  · rw [if_neg unseeded]
    exact ⟨⟨counter, ⟨unseeded, fun _ => rfl⟩, rfl⟩, Nat.le_refl _, rfl⟩

/-- What a granted lease shows about its node at the time of the check. -/
structure NodeChecked (o : Oracle) (s : State) (nodeId : UInt32) (checkedNs : UInt64) : Prop where
  named : nodeId ≠ nullU32
  unused : nodeIdInUse s.leases nodeId = false
  warm : nodeId ≠ 0 → ∀ cooldown ∈ s.nodeIdCooldowns, cooldown.nodeId = nodeId →
    cooldown.expiresNs ≤ checkedNs

/-- A check against the cooldowns passes when every entry of the node was reached. -/
theorem warm_of_check {cooldowns : List NodeIdCooldown} {nodeId : UInt32} {now : UInt64}
    (passed : (nodeIdInCooldown cooldowns nodeId now).1 = false) (nonzero : nodeId ≠ 0)
    {cooldown : NodeIdCooldown} (member : cooldown ∈ cooldowns) (same : cooldown.nodeId = nodeId) :
    cooldown.expiresNs ≤ now := by
  rw [nodeIdInCooldown, if_neg nonzero] at passed
  simp only [pruneNodeIdCooldowns, List.any_eq_false, List.mem_filter, decide_eq_true_eq, beq_iff_eq] at passed
  by_contra later
  exact passed cooldown ⟨member, UInt64.not_le.mp later⟩ same

/-- The node of a lease is checked, whether it was desired or drawn. -/
theorem leaseNodeId_reads {o : Oracle} {request : AttachRequest} {checkedNs : UInt64} {s s' : State}
    {outcome : Except Rejection (UInt32 × UInt64)} (seeded : s.leaseCounter ≠ 0)
    (run : (leaseNodeId o request checkedNs).exec s = (outcome, s')) :
    Reads o s s' ∧ ∀ rejection, outcome = .error rejection → rejection.code = .internalError := by
  obtain ⟨reads, -, -⟩ := nextNodeId_spec (o := o) seeded
  unfold leaseNodeId at run
  rw [exec_get_bind] at run
  split at run
  · cases run
    exact ⟨.refl o s, fun _ failed => by cases failed⟩
  · dsimp only at run
    rw [exec_set_bind, exec_stopIf_bind] at run
    split at run <;> cases run
    · exact ⟨reads, fun rejection failed => by cases failed; rfl⟩
    · exact ⟨reads, fun _ failed => by cases failed⟩

theorem leaseNodeId_ok {o : Oracle} {request : AttachRequest} {checkedNs : UInt64} {s s' : State}
    {nodeId : UInt32} {atNs : UInt64} (seeded : s.leaseCounter ≠ 0)
    (run : (leaseNodeId o request checkedNs).exec s = (.ok (nodeId, atNs), s')) :
    (request.desiredNodeId ≠ nullU32 ∧ nodeId = request.desiredNodeId ∧ atNs = checkedNs) ∨
      (request.desiredNodeId = nullU32 ∧ NodeChecked o s nodeId atNs ∧ atNs = o.clock s.world.calls) := by
  obtain ⟨-, -, available⟩ := nextNodeId_spec (o := o) seeded
  unfold leaseNodeId at run
  rw [exec_get_bind] at run
  split at run
  next desired =>
    cases run
    exact .inl ⟨desired, rfl, rfl⟩
  next undesired =>
    dsimp only at run
    rw [exec_set_bind, exec_stopIf_bind] at run
    split at run
    · cases run
    next named =>
      cases run
      have free := available named
      simp only [nodeIdAvailable, Bool.and_eq_true, bne_iff_ne, Bool.not_eq_true'] at free
      obtain ⟨⟨⟨nonzero, -⟩, unused⟩, passed⟩ := free
      refine .inr ⟨Decidable.not_not.mp undesired, ⟨named, unused, fun _ cooldown member same => ?_⟩, rfl⟩
      by_cases later : o.clock s.world.calls < cooldown.expiresNs
      · have kept : cooldown ∈ pruneNodeIdCooldowns s.nodeIdCooldowns (o.clock s.world.calls) := by
          rw [pruneNodeIdCooldowns, List.mem_filter]
          exact ⟨member, by simpa using later⟩
        exact warm_of_check passed nonzero kept same
      · exact UInt64.not_lt.mp later

/-- The lease table grows by the new lease, or the driver only asked for memory. -/
theorem addLease_cases {o : Oracle} {lease : Lease} {checkedNs : UInt64} {s s' : State}
    {outcome : Except Rejection Unit} (run : (addLease o lease checkedNs).exec s = (outcome, s')) :
    (outcome = .ok () ∧ ∃ capacity calls, s' = { s with
        leases := s.leases ++ [lease]
        leaseCapacity := capacity
        world := ⟨s.world.calls + calls, s.world.log ++ [.leaseGranted lease checkedNs]⟩ }) ∨
      (outcome = .error ⟨.internalError, "lease allocation failed"⟩ ∧
        s' = { s with world := s.world.called }) := by
  unfold addLease at run
  rw [exec_get_bind] at run
  split at run
  · split at run
    · cases run
      exact .inl ⟨rfl, grownCapacity s.leaseCapacity, 1, rfl⟩
    · rw [exec_set_bind] at run
      cases run
      exact .inr ⟨rfl, rfl⟩
  · cases run
    exact .inl ⟨rfl, s.leaseCapacity, 0, rfl⟩

/-- The identifier is taken before the node, the table and the stream. -/
theorem attachLease_start {o : Oracle} {s : State} :
    ∃ m, m = { s with
        leaseCounter := (nextLeaseId o s.leaseCounter s.world).1
        world := (nextLeaseId o s.leaseCounter s.world).2 } ∧ m.leaseCounter ≠ 0 ∧
      (∃ seeded, Seeded s.leaseCounter seeded ∧ m.leaseCounter = increment seeded) ∧
      s.world.calls ≤ m.world.calls ∧ m.world.log = s.world.log := by
  obtain ⟨⟨seeded, isSeed, next⟩, calls, log⟩ := nextLeaseId_spec o s.leaseCounter s.world
  exact ⟨_, rfl, by rw [next]; exact increment_ne_zero seeded, ⟨seeded, isSeed, next⟩, calls, log⟩

/-- A lease phase that fails wastes its identifier and nothing else. -/
theorem attachLease_error {o : Oracle} {request : AttachRequest} {role : Role} {index : Nat}
    {now checkedNs : UInt64} {s s' : State} {rejection : Rejection}
    (run : (attachLease o request role index now checkedNs).exec s = (.error rejection, s')) :
    Change o .waste s s' ∧ rejection.code = .internalError ∧ s'.streams = s.streams ∧
      s'.streamIdRanges = s.streamIdRanges ∧ s'.leases = s.leases := by
  obtain ⟨m, start, nonzero, counter, calls, log⟩ := attachLease_start (o := o) (s := s)
  unfold attachLease at run
  rw [exec_get_bind] at run
  dsimp only at run
  rw [exec_set_bind, ← start] at run
  have wasted {t : State} (reads : Reads o m t) : Change o .waste s t ∧ t.streams = s.streams ∧
      t.streamIdRanges = s.streamIdRanges ∧ t.leases = s.leases := by
    have same : m.config = s.config ∧ m.leases = s.leases ∧ m.streams = s.streams ∧
        m.streamIdRanges = s.streamIdRanges ∧ m.nodeIdCooldowns = s.nodeIdCooldowns := by
      rw [start]
      exact ⟨rfl, rfl, rfl, rfl, rfl⟩
    have cooled : Cooled o s t := fun cooldown member =>
      reads.cooled cooldown (same.2.2.2.2 ▸ member)
    exact ⟨.waste ⟨reads.config.trans same.1, reads.leases.trans same.2.1⟩ cooled
      (reads.streams.trans same.2.2.1) (Nat.le_trans calls reads.calls) (reads.log.trans log)
      (reads.leaseCounter ▸ counter), reads.streams.trans same.2.2.1, reads.ranges.trans same.2.2.2.1,
      reads.leases.trans same.2.1⟩
  rcases exec_bind_error.mp run with refused | ⟨⟨nodeId, atNs⟩, p, named, afterNode⟩
  · obtain ⟨reads, code⟩ := leaseNodeId_reads nonzero refused
    obtain ⟨change, facts⟩ := wasted reads
    exact ⟨change, code _ rfl, facts⟩
  · obtain ⟨reads, -⟩ := leaseNodeId_reads nonzero named
    rcases exec_bind_error.mp afterNode with refused | ⟨_, q, added, afterTable⟩
    · rcases addLease_cases refused with ⟨success, -⟩ | ⟨failure, state⟩
      · cases success
      · cases failure
        obtain ⟨change, facts⟩ := wasted (state ▸ reads.trans (.called o p))
        exact ⟨change, rfl, facts⟩
    · rw [exec_get_bind, exec_set_bind] at afterTable
      cases afterTable

/-- The new lease as the driver fills it in. -/
theorem attachLease_ok {o : Oracle} {request : AttachRequest} {role : Role} {index : Nat}
    {now checkedNs : UInt64} {s s' : State} {lease : Lease} {streamId : UInt32}
    (run : (attachLease o request role index now checkedNs).exec s = (.ok lease, s'))
    (found : findStream s.streams streamId = some index)
    (client : request.clientId ≠ 0 ∧ ∀ other ∈ s.leases, other.clientId ≠ request.clientId)
    (producer : role = .producer → (s.streamAt index).producerLeaseId = 0)
    (node : request.desiredNodeId ≠ nullU32 → nodeIdInUse s.leases request.desiredNodeId = false) :
    Change o (.grant lease) s s' ∧ lease.clientId = request.clientId ∧ lease.role = role ∧
      lease.streamId = streamId ∧ s'.streams = s.streams.set index ((s.streamAt index).claim lease) ∧
      ∃ atNs, s'.world.log = s.world.log ++ [.leaseGranted lease atNs] ∧
        ((request.desiredNodeId ≠ nullU32 ∧ lease.nodeId = request.desiredNodeId ∧ atNs = checkedNs) ∨
          ∃ call, s.world.calls ≤ call ∧ atNs = o.clock call ∧ NodeChecked o s lease.nodeId atNs) := by
  obtain ⟨m, start, nonzero, ⟨seeded, isSeed, counter⟩, calls, log⟩ := attachLease_start (o := o) (s := s)
  unfold attachLease at run
  rw [exec_get_bind] at run
  dsimp only at run
  rw [exec_set_bind, ← start] at run
  obtain ⟨⟨nodeId, atNs⟩, p, named, afterNode⟩ := exec_bind_ok.mp run
  obtain ⟨reads, -⟩ := leaseNodeId_reads nonzero named
  have picked := leaseNodeId_ok nonzero named
  obtain ⟨_, q, added, afterTable⟩ := exec_bind_ok.mp afterNode
  rw [exec_get_bind, exec_set_bind] at afterTable
  have same : m.config = s.config ∧ m.leases = s.leases ∧ m.streams = s.streams ∧
      m.nodeIdCooldowns = s.nodeIdCooldowns ∧ m.leaseCounter = (nextLeaseId o s.leaseCounter s.world).1 := by
    rw [start]
    exact ⟨rfl, rfl, rfl, rfl, rfl⟩
  obtain ⟨mConfig, mLeases, mStreams, mCooldowns, mCounter⟩ := same
  rcases addLease_cases added with ⟨-, capacity, extra, state⟩ | ⟨failure, -⟩
  swap
  · cases failure
  have qStreams : q.streams = s.streams := by rw [state, ← mStreams, ← reads.streams]
  have qStreamAt : q.streamAt index = s.streamAt index := by rw [State.streamAt, State.streamAt, qStreams]
  cases afterTable
  generalize filled : newLease s.config request role (s.streamAt index).streamId now
    (nextLeaseId o s.leaseCounter s.world).1 nodeId = lease at *
  have leaseStream : lease.streamId = streamId := by rw [← filled]; exact (findStream_inside found).2
  have claimed : ((s.streamAt index).claim lease).core = (s.streamAt index).core.claim lease := by
    unfold StreamState.claim
    split <;> rfl
  have claimedId : ((s.streamAt index).claim lease).streamId = streamId := by
    unfold StreamState.claim
    split <;> exact (findStream_inside found).2
  have refound : findStream q.streams streamId = some index := qStreams ▸ found
  have checkedNode : lease.nodeId ≠ nullU32 ∧ nodeIdInUse s.leases lease.nodeId = false := by
    rw [← filled]
    rcases picked with ⟨desired, rfl, -⟩ | ⟨-, checked, -⟩
    · exact ⟨desired, node desired⟩
    · exact ⟨checked.named, mLeases ▸ checked.unused⟩
  have nodes : ∀ other ∈ s.leases, other.nodeId ≠ lease.nodeId := by
    obtain ⟨notNull, unused⟩ := checkedNode
    simp only [nodeIdInUse, bne_iff_ne.mpr notNull, Bool.true_and, List.any_eq_false, beq_iff_eq] at unused
    exact unused
  have fresh : Fresh s (s.streamAt index).core lease := by
    refine ⟨?_, ⟨checkedNode.1, nodes⟩, ?_, ⟨seeded, isSeed, ?_⟩⟩ <;> rw [← filled]
    · exact client
    · exact producer
    · rw [← counter, mCounter]
      rfl
  have qLog : q.world.log = s.world.log ++ [.leaseGranted lease atNs] := by
    rw [state]
    exact congrArg (· ++ [Event.leaseGranted lease atNs]) (reads.log.trans log)
  have qCalls : s.world.calls ≤ q.world.calls := by
    rw [state]
    exact Nat.le_trans calls (Nat.le_trans reads.calls (Nat.le_add_right ..))
  have cooled : Cooled o s (q.setStream index ((s.streamAt index).claim lease) q.world) := by
    intro cooldown member
    have moved := reads.cooled cooldown (mCooldowns ▸ member)
    rw [state]
    rcases moved with kept | ⟨call, before, reached⟩
    · exact .inl kept
    · exact .inr ⟨call, Nat.lt_of_lt_of_le before (Nat.le_add_right ..), reached⟩
  rw [qStreamAt]
  refine ⟨.grant (leaseStream ▸ view_found found) fresh ?_ ?_ ?_ cooled ?_ qCalls ?_ qLog,
    by rw [← filled]; rfl, by rw [← filled]; rfl, leaseStream, by rw [setStream_streams, qStreams], atNs, qLog, ?_⟩
  · rw [setStream_config, state, ← mConfig, ← reads.config]
  · rw [setStream_leases, state, ← mLeases, ← reads.leases]
  · rw [setStream_leaseCounter, state, ← filled]
    exact reads.leaseCounter.trans mCounter
  · intro tidy
    exact (tidy.congr qStreams).setStream _ refound claimedId
  · rw [view_setStream _ refound claimedId, view_congr qStreams, claimed, leaseStream]
  · rcases picked with ⟨desired, same, atSame⟩ | ⟨-, checked, atSame⟩
    · exact .inl ⟨desired, by rw [← filled]; exact same, atSame⟩
    · refine .inr ⟨m.world.calls, calls, atSame, ?_⟩
      rw [← filled]
      exact ⟨checked.named, mLeases ▸ checked.unused, mCooldowns ▸ checked.warm⟩

/-- The way of a granted request through the checks, the epoch and the lease. -/
structure Granted (o : Oracle) (request : AttachRequest) (admission : Admission) (lease : Lease)
    (streamId : UInt32) (s m r s' : State) : Prop where
  checked : (attachChecks o request).exec s = (.ok admission, m)
  checks : Checks o request s m
  admitted : Admitted request admission m
  found : findStream m.streams streamId = some admission.index
  renews : Renews o admission.role admission.index m r
  refound : findStream r.streams streamId = some admission.index
  change : Change o (.grant lease) r s'
  client : lease.clientId = request.clientId
  role : lease.role = admission.role
  stream : lease.streamId = streamId
  streams : s'.streams = r.streams.set admission.index ((r.streamAt admission.index).claim lease)
  log : ∃ atNs, s'.world.log = r.world.log ++ [.leaseGranted lease atNs] ∧
    ((request.desiredNodeId ≠ nullU32 ∧ lease.nodeId = request.desiredNodeId ∧ atNs = admission.checkedNs) ∨
      ∃ call, r.world.calls ≤ call ∧ atNs = o.clock call ∧ NodeChecked o r lease.nodeId atNs)

/-- What the epoch phase keeps for the lease phase. -/
theorem Renews.keeps {o : Oracle} {role : Role} {index : Nat} {s s' : State} {streamId : UInt32}
    (renews : Renews o role index s s') (found : findStream s.streams streamId = some index) :
    findStream s'.streams streamId = some index ∧ s'.leases = s.leases ∧ s'.config = s.config ∧
      s'.streamIdRanges = s.streamIdRanges ∧
      (s'.streamAt index).producerLeaseId = (s.streamAt index).producerLeaseId ∧
      (s'.streamAt index).profile = (s.streamAt index).profile := by
  obtain ⟨inside, same⟩ := findStream_inside found
  cases renews with
  | kept unchanged =>
      subst unchanged
      exact ⟨found, rfl, rfl, rfl, rfl, rfl⟩
  | renewed stream w due moved core =>
      have named : stream.streamId = streamId := by
        rw [← StreamState.core_streamId, core]
        exact same
      have held : stream.producerLeaseId = (s.streamAt index).producerLeaseId := by
        rw [← StreamState.core_producerLeaseId, core]
        rfl
      have profile : stream.profile = (s.streamAt index).profile := by
        rw [← StreamState.core_profile, core]
        rfl
      rw [moved, streamAt_setStream inside]
      refine ⟨?_, rfl, rfl, rfl, held, profile⟩
      rw [setStream_streams, findStream_set (named.trans same.symm), found]

/-- A granted request went through every phase. -/
theorem grantAttach_ok {o : Oracle} {request : AttachRequest} {s s' : State} {grant : Grant}
    (run : (grantAttach o request).exec s = (.ok grant, s')) :
    ∃ admission streamId m r, grant.index = admission.index ∧
      Granted o request admission grant.lease streamId s m r s' := by
  unfold grantAttach at run
  obtain ⟨admission, m, checked, commit⟩ := exec_bind_ok.mp run
  obtain ⟨checks, admitted⟩ := attachChecks_ok checked
  obtain ⟨streamId, found⟩ := admitted.found
  unfold attachCommit at commit
  obtain ⟨requireHugepages, r, renewed, afterEpoch⟩ := exec_bind_ok.mp commit
  obtain ⟨renews, -⟩ := attachEpoch_renews renewed
  obtain ⟨refound, leases, config, -, held, -⟩ := renews.keeps found
  obtain ⟨lease, p, leased, last⟩ := exec_bind_ok.mp afterEpoch
  cases last
  obtain ⟨change, client, role, stream, streams, atNs, log, node⟩ := attachLease_ok leased refound
    (leases ▸ admitted.client) (held ▸ admitted.producer) (leases ▸ admitted.node)
  exact ⟨admission, streamId, m, r, rfl, checked, checks, admitted, found, renews, refound, change, client,
    role, stream, streams, atNs, log, node⟩

/-- A refused request stopped at a check, at its epoch or at its lease. -/
inductive Refused (o : Oracle) (request : AttachRequest) (rejection : Rejection) (s s' : State) : Prop
  | checks (left : Checks o request s s')
  | epoch (admission : Admission) (streamId : UInt32) (m : State) (checks : Checks o request s m)
      (asked : request.role = some admission.role) (found : findStream m.streams streamId = some admission.index)
      (renews : Renews o admission.role admission.index m s') (code : rejection.code = .internalError)
  | lease (admission : Admission) (streamId : UInt32) (m r : State) (checks : Checks o request s m)
      (asked : request.role = some admission.role) (found : findStream m.streams streamId = some admission.index)
      (renews : Renews o admission.role admission.index m r) (change : Change o .waste r s')
      (streams : s'.streams = r.streams) (ranges : s'.streamIdRanges = r.streamIdRanges)
      (leases : s'.leases = r.leases) (code : rejection.code = .internalError)

theorem grantAttach_error {o : Oracle} {request : AttachRequest} {s s' : State} {rejection : Rejection}
    (run : (grantAttach o request).exec s = (.error rejection, s')) : Refused o request rejection s s' := by
  unfold grantAttach at run
  rcases exec_bind_error.mp run with refused | ⟨admission, m, checked, commit⟩
  · exact .checks (attachChecks_error refused)
  obtain ⟨checks, admitted⟩ := attachChecks_ok checked
  obtain ⟨streamId, found⟩ := admitted.found
  unfold attachCommit at commit
  rcases exec_bind_error.mp commit with refused | ⟨requireHugepages, r, renewed, afterEpoch⟩
  · obtain ⟨renews, code⟩ := attachEpoch_renews refused
    exact .epoch admission streamId m checks admitted.role found renews (code rejection rfl).1
  obtain ⟨renews, -⟩ := attachEpoch_renews renewed
  rcases exec_bind_error.mp afterEpoch with refused | ⟨lease, p, leased, last⟩
  · obtain ⟨change, code, streams, ranges, leases⟩ := attachLease_error refused
    exact .lease admission streamId m r checks admitted.role found renews change streams ranges leases code
  · cases last

def Label.draws : Label → Bool
  | .waste | .grant _ => true
  | _ => false

def Label.renews : Label → Bool
  | .renew _ => true
  | _ => false

/-- An attach draws at most one identifier, renews at most one stream and ends no lease. -/
structure Attempted (labels : List Label) : Prop where
  kinds : ∀ label ∈ labels, ∀ lease, label ≠ .finish lease
  draws : labels.countP Label.draws ≤ 1
  renews : labels.countP Label.renews ≤ 1

/-- The checks are a calm trace. -/
theorem Checks.trace {o : Oracle} {request : AttachRequest} {s s' : State} (checks : Checks o request s s') :
    ∃ labels, Trace (Change o) labels s s' ∧ ∀ label ∈ labels, label.calm = true := by
  obtain ⟨m, provides, -, reads⟩ := checks
  obtain ⟨labels, path, calm⟩ := provides.trace (o := o)
  refine ⟨labels ++ [.talk], path.append (Trace.single reads.talk), fun label member => ?_⟩
  rcases List.mem_append.mp member with old | new
  · exact calm label old
  · rw [List.mem_singleton.mp new]
    rfl

theorem Renews.trace {o : Oracle} {role : Role} {index : Nat} {s s' : State} {streamId : UInt32}
    (renews : Renews o role index s s') (found : findStream s.streams streamId = some index) :
    Trace (Change o) [] s s' ∨ Trace (Change o) [.renew streamId] s s' := by
  cases renews with
  | kept unchanged =>
      subst unchanged
      exact .inl (.nil _)
  | renewed _ _ _ _ _ change => exact .inr (Trace.single (change streamId found))

/-- Calm labels, one epoch and one lease are within the budget of an attach. -/
theorem attempted_of_phases {calm epoch lease : List Label} (quiet : ∀ label ∈ calm, label.calm = true)
    (one : epoch = [] ∨ ∃ streamId, epoch = [.renew streamId])
    (last : ∀ label ∈ lease, label = .talk ∨ label.draws = true) (short : lease.countP Label.draws ≤ 1) :
    Attempted (calm ++ epoch ++ lease) := by
  have still (label : Label) (member : label ∈ calm) : label.draws = false ∧ label.renews = false := by
    have kind := quiet label member
    cases label <;> simp_all [Label.calm, Label.draws, Label.renews]
  have calmDraws : calm.countP Label.draws = 0 := List.countP_eq_zero.mpr fun label member => by
    simp [(still label member).1]
  have calmRenews : calm.countP Label.renews = 0 := List.countP_eq_zero.mpr fun label member => by
    simp [(still label member).2]
  have leaseRenews : lease.countP Label.renews = 0 := List.countP_eq_zero.mpr fun label member => by
    rcases last label member with rfl | draws
    · simp [Label.renews]
    · cases label <;> simp_all [Label.draws, Label.renews]
  refine ⟨fun label member ended same => ?_, ?_, ?_⟩
  · subst same
    rcases List.mem_append.mp member with inside | inLease
    · rcases List.mem_append.mp inside with inCalm | inEpoch
      · cases quiet _ inCalm
      · rcases one with rfl | ⟨streamId, rfl⟩ <;> simp at inEpoch
    · rcases last _ inLease with same | draws
      · cases same
      · cases draws
  · rw [List.countP_append, List.countP_append, calmDraws]
    rcases one with rfl | ⟨streamId, rfl⟩ <;> simpa [Label.draws] using short
  · rw [List.countP_append, List.countP_append, calmRenews, leaseRenews]
    rcases one with rfl | ⟨streamId, rfl⟩ <;> simp [Label.renews]

theorem StreamState.claim_epoch (stream : StreamState) (lease : Lease) :
    (stream.claim lease).epoch = stream.epoch ∧ (stream.claim lease).streamId = stream.streamId := by
  unfold StreamState.claim
  split <;> exact ⟨rfl, rfl⟩

/-- A granted request leaves its stream found and active. -/
theorem Granted.active {o : Oracle} {request : AttachRequest} {admission : Admission} {lease : Lease}
    {streamId : UInt32} {s m r s' : State} (granted : Granted o request admission lease streamId s m r s') :
    findStream s'.streams streamId = some admission.index ∧
      Active s'.world.log (s'.streamAt admission.index) := by
  obtain ⟨inside, same⟩ := findStream_inside granted.refound
  obtain ⟨epoch, named⟩ := StreamState.claim_epoch (r.streamAt admission.index) lease
  have streamAt : s'.streamAt admission.index = (r.streamAt admission.index).claim lease := by
    rw [State.streamAt, granted.streams]
    simp [inside]
  refine ⟨by rw [granted.streams, findStream_set named, granted.refound], ?_⟩
  obtain ⟨atNs, log, -⟩ := granted.log
  rw [Active, streamAt, epoch, named, log, same]
  cases granted.renews with
  | kept unchanged _ active => exact .inl (unchanged ▸ active)
  | renewed stream w _ moved _ _ bumped =>
      refine .inr (List.mem_append_left _ ?_)
      rw [moved, streamAt_setStream (findStream_inside granted.found).1]
      exact bumped streamId granted.found

/-- The announce of a stream keeps its identity and its place. -/
theorem announce_keeps {o : Oracle} {s : State} {streamId : UInt32} {index : Nat} (requireHugepages : Bool)
    (found : findStream s.streams streamId = some index) :
    findStream (s.announce o index requireHugepages).streams streamId = some index ∧
      ((s.announce o index requireHugepages).streamAt index).core = (s.streamAt index).core := by
  obtain ⟨announcedNs, stamped⟩ := sendAnnounce_stream o s.config (s.streamAt index) requireHugepages s.world
  obtain ⟨inside, same⟩ := findStream_inside found
  unfold State.announce
  dsimp only
  rw [stamped, streamAt_setStream inside]
  refine ⟨Eq.trans (findStream_set ?_ streamId) found, rfl⟩
  rfl

/-- An announce adds at most its own message. -/
theorem announce_log (o : Oracle) (s : State) (index : Nat) (requireHugepages : Bool) :
    World.Grows (fun event => ∃ announce result, event = .offered (.poolAnnounce announce) result) s.world
      (s.announce o index requireHugepages).world :=
  sendAnnounce_grows fun _ announce result _ => ⟨announce, result, rfl⟩

/-- An active stream stays active while its epoch stays and the log grows. -/
theorem Active.keeps {stream stream' : StreamState} {allowed : Event → Prop} {w w' : World}
    (active : Active w.log stream) (core : stream'.core = stream.core) (growth : World.Grows allowed w w') :
    Active w'.log stream' := by
  have epoch : stream'.epoch = stream.epoch := by rw [← StreamState.core_epoch, core, StreamState.core_epoch]
  rw [Active, epoch, StreamState.same_streamId core]
  exact active.imp id growth.log.keeps

/-- A granted response of a found and active stream is talk. -/
theorem respond_granted_talk {o : Oracle} {s : State} {streamId : UInt32} {index : Nat}
    (correlationId : Int) (lease : Lease) (requireHugepages : Bool)
    (found : findStream s.streams streamId = some index)
    (active : Active s.world.log (s.streamAt index)) :
    Change o .talk s { s with world := (sendAttachGranted o s.config correlationId (s.streamAt index) lease
      requireHugepages s.world).2 } := by
  refine .talk (.ofWorld (sendAttachGranted_grows fun response body position result carried encoded => ?_))
    (view_congr rfl)
  exact .advert result (view_found found) active (encodeAttachBody_advert carried encoded)

/-- An attach is a trace of the changes that one request can make. -/
theorem handleAttach_trace (o : Oracle) (request : AttachRequest) (s : State) :
    ∃ labels, Trace (Change o) labels s (handleAttach o request s).2 ∧ Attempted labels := by
  unfold handleAttach
  rcases outcome : (grantAttach o request).exec s with ⟨rejection | grant, s'⟩
  · have refusal : Change o .talk s' { s' with world := (sendAttachRefused o request.correlationId
        rejection.code rejection.message s'.world).2 } :=
      .talk (.ofWorld (sendAttachRefused_grows fun response result empty => .silent result (by
        rw [Message.advert, empty]; rfl))) (view_congr rfl)
    cases grantAttach_error outcome with
    | checks left =>
        obtain ⟨calm, path, quiet⟩ := left.trace
        exact ⟨calm ++ [] ++ [.talk], (path.append (.nil _)).append (.single refusal),
          attempted_of_phases quiet (.inl rfl) (by simp) (by simp [Label.draws])⟩
    | epoch admission streamId m checks _ found renews =>
        obtain ⟨calm, path, quiet⟩ := checks.trace
        rcases renews.trace found with epoch | epoch
        · exact ⟨calm ++ [] ++ [.talk], (path.append epoch).append (.single refusal),
            attempted_of_phases quiet (.inl rfl) (by simp) (by simp [Label.draws])⟩
        · exact ⟨calm ++ [.renew streamId] ++ [.talk], (path.append epoch).append (.single refusal),
            attempted_of_phases quiet (.inr ⟨streamId, rfl⟩) (by simp) (by simp [Label.draws])⟩
    | lease admission streamId m r checks _ found renews change =>
        obtain ⟨calm, path, quiet⟩ := checks.trace
        have wasted := (Trace.single change).append (.single refusal)
        rcases renews.trace found with epoch | epoch
        · exact ⟨calm ++ [] ++ ([.waste] ++ [.talk]), (path.append epoch).append wasted,
            attempted_of_phases quiet (.inl rfl) (by simp [Label.draws]) (by simp [List.countP_cons, Label.draws])⟩
        · exact ⟨calm ++ [.renew streamId] ++ ([.waste] ++ [.talk]), (path.append epoch).append wasted,
            attempted_of_phases quiet (.inr ⟨streamId, rfl⟩) (by simp [Label.draws])
              (by simp [List.countP_cons, Label.draws])⟩
  · obtain ⟨admission, streamId, m, r, same, granted⟩ := grantAttach_ok outcome
    obtain ⟨found, active⟩ := granted.active
    rw [← same] at found active
    have announced := announce_talk (o := o) grant.requireHugepages found active
    obtain ⟨refound, core⟩ := announce_keeps (o := o) grant.requireHugepages found
    have still : Active (s'.announce o grant.index grant.requireHugepages).world.log
        ((s'.announce o grant.index grant.requireHugepages).streamAt grant.index) :=
      active.keeps core (announce_log o s' grant.index grant.requireHugepages)
    have responded := respond_granted_talk (o := o) request.correlationId grant.lease
      grant.requireHugepages refound still
    have last := ((Trace.single granted.change).append (.single announced)).append (.single responded)
    obtain ⟨calm, path, quiet⟩ := granted.checks.trace
    rcases granted.renews.trace granted.found with epoch | epoch
    · exact ⟨_, (path.append epoch).append last,
        attempted_of_phases quiet (.inl rfl) (by simp [Label.draws]) (by simp [List.countP_cons, Label.draws])⟩
    · exact ⟨_, (path.append epoch).append last,
        attempted_of_phases quiet (.inr ⟨streamId, rfl⟩) (by simp [Label.draws])
          (by simp [List.countP_cons, Label.draws])⟩

/-- A refused request has the rejection that its response carries. -/
def attachRefusal (o : Oracle) (request : AttachRequest) (s : State) : Option Rejection :=
  match ((grantAttach o request).exec s).1 with
  | .error rejection => some rejection
  | .ok _ => none

theorem attachRefusal_eq_some {o : Oracle} {request : AttachRequest} {s : State} {rejection : Rejection} :
    attachRefusal o request s = some rejection ↔
      ∃ s', (grantAttach o request).exec s = (.error rejection, s') := by
  rw [attachRefusal]
  rcases (grantAttach o request).exec s with ⟨_ | _, s'⟩ <;> simp

/-- A producer is refused for its stream exactly when the checks before find a producer there. -/
theorem producerPresent_iff {o : Oracle} {request : AttachRequest} {s : State} :
    attachRefusal o request s = some producerPresent ↔
      (attachAdmit request).exec s = (.ok .producer, s) ∧ ∃ index m,
        (attachStream o request).exec s = (.ok index, m) ∧ (m.streamAt index).producerLeaseId ≠ 0 := by
  rw [attachRefusal_eq_some]
  constructor
  · rintro ⟨s', outcome⟩
    rw [grantAttach] at outcome
    rcases exec_bind_error.mp outcome with unchecked | ⟨admission, m, -, uncommitted⟩
    · rw [attachChecks] at unchecked
      rcases exec_bind_error.mp unchecked with unadmitted | ⟨role, m, admitted, afterRole⟩
      · exact absurd (attachAdmit_rejections unadmitted) (by decide)
      obtain ⟨rfl, -⟩ := attachAdmit_ok.mp admitted
      rcases exec_bind_error.mp afterRole with unprovided | ⟨index, p, provided, afterStream⟩
      · exact absurd (attachStream_rejections unprovided) (by decide)
      rw [exec_get_bind, exec_stopIf_bind] at afterStream
      split at afterStream
      next taken =>
        obtain ⟨rfl, held⟩ := taken
        exact ⟨admitted, index, p, provided, held⟩
      rcases exec_bind_error.mp afterStream with unpaged | ⟨asked, q, -, afterPages⟩
      · exact absurd (attachHugepages_rejections unpaged) (by decide)
      rcases exec_bind_error.mp afterPages with unnamed | ⟨checkedNs, r, -, afterNode⟩
      · exact absurd (attachNodeId_rejection unnamed) (by decide)
      rcases exec_bind_error.mp afterNode with untimed | ⟨now, t, -, afterClock⟩
      · cases untimed
      · cases afterClock
    · have code : producerPresent.code = .internalError := by
        rw [attachCommit] at uncommitted
        rcases exec_bind_error.mp uncommitted with unrenewed | ⟨_, r, -, afterEpoch⟩
        · exact ((attachEpoch_renews unrenewed).2 _ rfl).1
        rcases exec_bind_error.mp afterEpoch with unleased | ⟨lease, p, -, last⟩
        · exact (attachLease_error unleased).2.1
        · cases last
      cases code
  · rintro ⟨admitted, index, m, provided, held⟩
    rw [grantAttach, exec_bind, attachChecks, exec_bind, admitted]
    dsimp only
    rw [exec_bind, provided]
    dsimp only
    rw [exec_get_bind, exec_stopIf_bind, if_pos ⟨rfl, held⟩]
    exact ⟨m, rfl⟩

/-- A producer that passes every check is granted when its regions exist and the table has room. -/
theorem grantAttach_pass {o : Oracle} {request : AttachRequest} {s : State} {index : Nat} {stream : StreamState}
    {w : World} {nowNs checkedNs : UInt64}
    (passed : (attachChecks o request).exec s =
      (.ok ⟨.producer, index, false, checkedNs, nowNs⟩, { s with world := s.world.called.called }))
    (inside : index < s.streams.length)
    (created : createShmEpoch o s.config
      { (bumpEpoch o (s.streamAt index) s.world.called.called).1 with
        requireHugepages := (s.streamAt index).pages false }
      (bumpEpoch o (s.streamAt index) s.world.called.called).2 = (true, stream, w))
    (seeded : s.leaseCounter ≠ 0) (desired : request.desiredNodeId ≠ nullU32)
    (room : s.leases.length < s.leaseCapacity) :
    let lease := newLease s.config request .producer stream.streamId nowNs (increment s.leaseCounter)
      request.desiredNodeId
    ∃ w' require, (grantAttach o request).exec s = (.ok ⟨index, lease, require⟩, { s with
      streams := s.streams.set index (stream.claim lease)
      leases := s.leases ++ [lease]
      leaseCounter := increment s.leaseCounter
      world := w' }) := by
  have spacious : ¬ (s.leases.length + 1 > s.leaseCapacity) := by omega
  have place := streamAt_setStream inside stream w
  rw [State.setStream, State.streamAt] at place
  dsimp only at place
  refine ⟨w.record (.leaseGranted (newLease s.config request .producer stream.streamId nowNs
    (increment s.leaseCounter)
      request.desiredNodeId) checkedNs), (s.streamAt index).pages false, ?_⟩
  rw [grantAttach, exec_bind, passed]
  dsimp only
  rw [attachCommit, exec_bind, attachEpoch, exec_get_bind]
  dsimp only
  rw [if_pos (.inl rfl)]
  unfold State.streamAt at created ⊢
  dsimp only at created ⊢
  rw [created]
  dsimp only
  rw [exec_set_bind, exec_stopIf_bind, if_neg (by decide), exec_pure]
  dsimp only
  rw [exec_bind, attachLease, exec_get_bind]
  have drawn : nextLeaseId o s.leaseCounter w = (increment s.leaseCounter, w) := by
    rw [nextLeaseId, seedCounter, if_neg seeded]
  simp only [drawn, exec_bind, leaseNodeId, exec_get, if_pos desired, exec_pure, State.setStream, addLease,
    if_neg spacious, exec_set, State.streamAt, place, List.set_set]

/-- A consumer that passes every check spends an identifier when the table cannot grow. -/
theorem grantAttach_exhausted {o : Oracle} {request : AttachRequest} {s : State} {index : Nat}
    {nowNs checkedNs : UInt64} {asked : Bool}
    (passed : (attachChecks o request).exec s =
      (.ok ⟨.consumer, index, asked, checkedNs, nowNs⟩, { s with world := s.world.called.called }))
    (active : (s.streamAt index).epoch ≠ 0) (seeded : s.leaseCounter ≠ 0)
    (desired : request.desiredNodeId ≠ nullU32) (full : s.leaseCapacity ≤ s.leases.length)
    (stuck : o.reallocates (s.world.calls + 2) = false) :
    (grantAttach o request).exec s = (.error ⟨.internalError, "lease allocation failed"⟩,
      { s with leaseCounter := increment s.leaseCounter, world := s.world.called.called.called }) := by
  have crowded : s.leases.length + 1 > s.leaseCapacity := by omega
  have undue : ¬ (Role.consumer = .producer ∨ (s.streamAt index).epoch = 0) := by simp [active]
  have drawn (w : World) : nextLeaseId o s.leaseCounter w = (increment s.leaseCounter, w) := by
    rw [nextLeaseId, seedCounter, if_neg seeded]
  rw [grantAttach, exec_bind, passed]
  dsimp only
  rw [attachCommit, exec_bind, attachEpoch, exec_get_bind]
  unfold State.streamAt at undue ⊢
  dsimp only
  rw [if_neg undue, exec_pure]
  dsimp only
  rw [exec_bind, attachLease, exec_get_bind]
  simp only [drawn, exec_set, exec_bind, leaseNodeId, exec_get, if_pos desired, exec_pure, addLease, if_pos crowded,
    World.called_calls, stuck, Bool.false_eq_true, if_false, exec_throw]

/-- A granted attach announces its stream and answers. -/
theorem handleAttach_ok {o : Oracle} {request : AttachRequest} {s s' : State} {grant : Grant}
    (outcome : (grantAttach o request).exec s = (.ok grant, s')) :
    (handleAttach o request s).2 = { s'.announce o grant.index grant.requireHugepages with
      world := (sendAttachGranted o (s'.announce o grant.index grant.requireHugepages).config
        request.correlationId ((s'.announce o grant.index grant.requireHugepages).streamAt grant.index) grant.lease
        grant.requireHugepages (s'.announce o grant.index grant.requireHugepages).world).2 } := by
  rw [handleAttach, outcome]

end TensorPool.Driver
