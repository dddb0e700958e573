/-
This file follows a lease from its grant through its keepalives to its detach or its expiry.
-/

import TensorPool.Driver.Fencing
import TensorPool.Driver.Identity
import TensorPool.Driver.Refusal

namespace TensorPool.Driver

open Attempt

/-- The times of a lease come from one reading of the clock. -/
theorem attachChecks_reading {o : Oracle} {request : AttachRequest} {s s' : State} {admission : Admission}
    (checked : (attachChecks o request).exec s = (.ok admission, s')) :
    ∃ call < s'.world.calls, admission.now = o.clock call := by
  unfold attachChecks at checked
  obtain ⟨role, a, -, afterRole⟩ := exec_bind_ok.mp checked
  obtain ⟨index, b, -, afterStream⟩ := exec_bind_ok.mp afterRole
  rw [exec_get_bind, exec_stopIf_bind] at afterStream
  split at afterStream
  · cases afterStream
  obtain ⟨asked, c, -, afterPages⟩ := exec_bind_ok.mp afterStream
  obtain ⟨checkedNs, d, -, afterNode⟩ := exec_bind_ok.mp afterPages
  obtain ⟨now, e, timed, last⟩ := exec_bind_ok.mp afterNode
  unfold attachClock at timed
  rw [exec_get_bind, exec_set_bind] at timed
  cases timed
  cases last
  exact ⟨d.world.calls, Nat.lt_succ_self _, rfl⟩

/-- A new lease expires after the configured number of intervals. -/
theorem attachLease_expiry {o : Oracle} {request : AttachRequest} {role : Role} {index : Nat}
    {now checkedNs : UInt64} {s s' : State} {lease : Lease}
    (leased : (attachLease o request role index now checkedNs).exec s = (.ok lease, s')) :
    lease.expiryNs = leaseExpiry s.config now := by
  unfold attachLease at leased
  rw [exec_get_bind] at leased
  dsimp only at leased
  rw [exec_set_bind] at leased
  obtain ⟨⟨nodeId, atNs⟩, a, -, afterNode⟩ := exec_bind_ok.mp leased
  obtain ⟨_, b, -, afterTable⟩ := exec_bind_ok.mp afterNode
  rw [exec_get_bind, exec_set_bind] at afterTable
  cases afterTable
  rfl

theorem trace_config {o : Oracle} {labels : List Label} {s s' : State}
    (path : Trace (Change o) labels s s') : s'.config = s.config := by
  induction path with
  | nil => rfl
  | snoc _ last hypothesis => exact last.config.trans hypothesis

theorem trace_calls {o : Oracle} {labels : List Label} {s s' : State}
    (path : Trace (Change o) labels s s') : s.world.calls ≤ s'.world.calls := by
  induction path with
  | nil => exact Nat.le_refl _
  | snoc _ last hypothesis => exact Nat.le_trans hypothesis last.calls_le

/-- The lease of a grant joins the table with an expiry that a reading of the clock fixes. -/
theorem grantAttach_leases {o : Oracle} {request : AttachRequest} {s s' : State} {grant : Grant}
    (outcome : (grantAttach o request).exec s = (.ok grant, s')) :
    s'.leases = s.leases ++ [grant.lease] ∧
      ∃ call < s'.world.calls, grant.lease.expiryNs = leaseExpiry s.config (o.clock call) := by
  obtain ⟨admission, streamId, m, r, -, granted⟩ := grantAttach_ok outcome
  obtain ⟨call, earlier, read⟩ := attachChecks_reading granted.checked
  obtain ⟨calm, path, -⟩ := granted.checks.trace
  have config := trace_config path
  have later : m.world.calls ≤ s'.world.calls := by
    rcases granted.renews.trace granted.found with epoch | epoch
    · exact Nat.le_trans (trace_calls epoch) granted.change.calls_le
    · exact Nat.le_trans (trace_calls epoch) granted.change.calls_le
  refine ⟨grantAttach_adds outcome, call, Nat.lt_of_lt_of_le earlier later, ?_⟩
  · unfold grantAttach at outcome
    obtain ⟨_, _, checked, commit⟩ := exec_bind_ok.mp outcome
    rw [granted.checked] at checked
    cases checked
    unfold attachCommit at commit
    obtain ⟨_, r', renewed, afterEpoch⟩ := exec_bind_ok.mp commit
    obtain ⟨lease, _, leased, last⟩ := exec_bind_ok.mp afterEpoch
    cases last
    have kept := ((attachEpoch_renews renewed).1.keeps granted.found).2.2.1
    rw [← config, ← kept, ← read]
    exact attachLease_expiry leased

/-- An attach adds at most one lease to the table. -/
theorem handleAttach_leases (o : Oracle) (request : AttachRequest) (s : State) :
    (handleAttach o request s).2.leases = s.leases ∨
      ∃ lease, (handleAttach o request s).2.leases = s.leases ++ [lease] ∧
        ∃ call < (handleAttach o request s).2.world.calls,
          lease.expiryNs = leaseExpiry s.config (o.clock call) := by
  rcases outcome : (grantAttach o request).exec s with ⟨rejection | grant, s'⟩
  · obtain ⟨leases, -⟩ := grantAttach_leftover outcome
    rw [handleAttach_error outcome]
    exact .inl leases
  · obtain ⟨leases, call, earlier, expiry⟩ := grantAttach_leases outcome
    rw [handleAttach_ok outcome]
    have announced := (announce_log o s' grant.index grant.requireHugepages).calls
    have answered (config : Config) (correlationId : Int) (stream : StreamState) (requireHugepages : Bool)
      (w : World) :
        World.Grows (fun _ => True) w
          (sendAttachGranted o config correlationId stream grant.lease requireHugepages w).2 :=
      sendAttachGranted_grows fun _ _ _ _ _ _ => trivial
    exact .inr ⟨grant.lease, leases, call,
      Nat.lt_of_lt_of_le earlier (Nat.le_trans announced (answered _ _ _ _ _).calls), expiry⟩

/-- A request names a lease when its four fields are the fields of the lease. -/
def names (leaseId : UInt64) (streamId clientId : UInt32) (role : Option Role) (lease : Lease) : Bool :=
  lease.leaseId == leaseId && lease.streamId == streamId && lease.clientId == clientId && role == some lease.role

def DetachRequest.names (request : DetachRequest) : Lease → Bool :=
  Driver.names request.leaseId request.streamId request.clientId request.role

def LeaseKeepalive.names (request : LeaseKeepalive) : Lease → Bool :=
  Driver.names request.leaseId request.streamId request.clientId request.role

/-- A lease of the table stands between the leases before it and after it. -/
theorem parts_of_place {leases : List Lease} {index : Nat} {lease : Lease} (there : leases[index]? = some lease) :
    leases = leases.take index ++ lease :: leases.drop (index + 1) := by
  obtain ⟨inside, rfl⟩ := List.getElem?_eq_some_iff.mp there
  rw [List.getElem_cons_drop, List.take_append_drop]

theorem ownedLease_names {leases : List Lease} {leaseId : UInt64} {streamId clientId : UInt32} {role : Role}
    {index : Nat} {lease : Lease} (owned : ownedLease leases leaseId streamId clientId role = some (index, lease)) :
    leases[index]? = some lease ∧ names leaseId streamId clientId (some role) lease = true := by
  obtain ⟨there, -, rfl, rfl, rfl, rfl⟩ := ownedLease_some owned
  exact ⟨there, by simp [names]⟩

/-- The response is the last event of an answered detach. -/
theorem respondDetach_log (o : Oracle) (request : DetachRequest) (s : State) :
    ∃ result, (respondDetach o request .ok "" s).2.world.log.getLast? =
      some (.offered (.detachResponse ⟨request.correlationId, .ok, ⟨"", .whole⟩⟩) result) := by
  refine ⟨o.offer s.world.calls, ?_⟩
  have fits : putVarData 512 (messageHeaderLength + detachResponseBlockLength) "" = (⟨"", .whole⟩, 24) := by
    decide +kernel
  change (sendDetachResponse o request.correlationId .ok "" s.world).2.log.getLast? = _
  rw [sendDetachResponse, fits]
  exact List.getLast?_concat

/-- A detach takes out the lease that it names and says so, or leaves the table. -/
theorem handleDetach_leases (o : Oracle) (request : DetachRequest) (s : State) :
    (handleDetach o request s).2.leases = s.leases ∨
      ∃ before lease after, s.leases = before ++ lease :: after ∧ request.names lease = true ∧
        (handleDetach o request s).2.leases = before ++ after ∧
        ∃ result, (handleDetach o request s).2.world.log.getLast? =
          some (.offered (.detachResponse ⟨request.correlationId, .ok, ⟨"", .whole⟩⟩) result) := by
  cases asked : request.role with
  | none =>
      left
      rw [handleDetach, asked]
      rfl
  | some role =>
      cases owned : ownedLease s.leases request.leaseId request.streamId request.clientId role with
      | none =>
          left
          rw [handleDetach, asked]
          dsimp only
          rw [owned]
          rfl
      | some found =>
          obtain ⟨index, lease⟩ := found
          obtain ⟨there, named⟩ := ownedLease_names owned
          right
          refine ⟨s.leases.take index, lease, s.leases.drop (index + 1), parts_of_place there, ?_, ?_, ?_⟩
          · rw [DetachRequest.names, asked]
            exact named
          · rw [(handleDetach_effect asked owned).1, List.eraseIdx_eq_take_drop_succ]
          · rw [handleDetach, asked]
            dsimp only
            rw [owned]
            exact respondDetach_log o request _

/-- A keepalive moves the expiry of the lease that it names, or leaves the table. -/
theorem handleKeepalive_leases (o : Oracle) (request : LeaseKeepalive) (s : State) :
    (handleKeepalive o request s).leases = s.leases ∨
      ∃ before lease after, s.leases = before ++ lease :: after ∧ request.names lease = true ∧
        (handleKeepalive o request s).leases =
          before ++ { lease with expiryNs := leaseExpiry s.config (o.clock s.world.calls) } :: after ∧
        (handleKeepalive o request s).world.calls = s.world.calls + 1 := by
  cases asked : request.role with
  | none =>
      left
      rw [handleKeepalive, asked]
  | some role =>
      cases owned : ownedLease s.leases request.leaseId request.streamId request.clientId role with
      | none =>
          left
          rw [handleKeepalive, asked]
          dsimp only
          rw [owned]
      | some found =>
          obtain ⟨index, lease⟩ := found
          obtain ⟨there, named⟩ := ownedLease_names owned
          obtain ⟨inside, -⟩ := List.getElem?_eq_some_iff.mp there
          right
          refine ⟨s.leases.take index, lease, s.leases.drop (index + 1), parts_of_place there, ?_, ?_, ?_⟩
          · rw [LeaseKeepalive.names, asked]
            exact named
          · rw [handleKeepalive, asked]
            dsimp only
            rw [owned]
            exact (List.set_eq_take_append_cons_drop ..).trans (if_pos inside)
          · rw [handleKeepalive, asked]
            dsimp only
            rw [owned]
            rfl

/-- The announces of a tick touch no lease. -/
theorem announceTick_leases (o : Oracle) (s : State) : (announceTick o s).leases = s.leases := by
  have each (indices : List Nat) (m : State) : (indices.foldl (announceStream o) m).leases = m.leases := by
    induction indices generalizing m with
    | nil => rfl
    | cons index rest hypothesis =>
        rw [List.foldl_cons, hypothesis, announceStream]
        split
        · rfl
        · rfl
  rw [announceTick, apply_ite State.leases]
  dsimp only
  rw [each, ite_self]

/-- The expiry loop keeps the leases before its index and filters the others. -/
theorem expireLoop_leases (o : Oracle) (now : UInt64) (remaining : Nat) {s : State} {before after : List Lease}
    (parts : s.leases = before ++ after) (enough : after.length ≤ remaining) :
    (expireLoop o now remaining before.length s).leases = before ++ after.filter fun lease => !lease.expired now := by
  induction remaining generalizing s before after with
  | zero =>
      rw [List.eq_nil_of_length_eq_zero (Nat.le_zero.mp enough)] at parts ⊢
      exact parts
  | succ remaining hypothesis =>
      unfold expireLoop
      cases after with
      | nil =>
          rw [parts, List.append_nil, List.getElem?_eq_none (Nat.le_refl _), List.filter_nil, List.append_nil]
          exact parts.trans (List.append_nil _)
      | cons lease after =>
          have room : after.length ≤ remaining := by
            rw [List.length_cons] at enough
            omega
          rw [parts, List.getElem?_append_right (Nat.le_refl _), Nat.sub_self, List.getElem?_cons_zero]
          dsimp only
          split
          next expired =>
            have fewer : (expireLease o now before.length lease s).leases = before ++ after := by
              rw [expireLease_leases, parts, List.eraseIdx_append_of_length_le (Nat.le_refl _), Nat.sub_self]
              rfl
            rw [hypothesis fewer room, List.filter_cons_of_neg (by simp [expired])]
          next current =>
            have passed : s.leases = (before ++ [lease]) ++ after := by rw [parts, List.append_assoc]; rfl
            have next := hypothesis passed room
            rw [List.length_append, List.length_singleton, List.append_assoc] at next
            rw [next, List.filter_cons_of_pos (by simp [current])]
            rfl

/-- A pass over the table takes out every lease whose expiry lies before its reading of the clock. -/
theorem handleExpiredLeases_leases (o : Oracle) (s : State) :
    (handleExpiredLeases o s).leases = s.leases.filter fun lease => !lease.expired (o.clock s.world.calls) := by
  have whole := @expireLoop_leases o (o.clock s.world.calls) s.leases.length { s with world := s.world.called } []
    s.leases rfl (Nat.le_refl _)
  exact whole

/-- Every expiry in the table comes from an earlier reading of the clock. -/
def Issued (o : Oracle) (s : State) : Prop :=
  ∀ lease ∈ s.leases, ∃ call < s.world.calls, lease.expiryNs = leaseExpiry s.config (o.clock call)

theorem Issued.step {o : Oracle} {s : State} (issued : Issued o s) (tidy : Tidy s) (op : Op) :
    Issued o (step o s op) := by
  obtain ⟨labels, path, -⟩ := step_trace (o := o) op tidy
  have config := trace_config path
  have calls := trace_calls path
  have old (lease : Lease) (present : lease ∈ s.leases) :
      ∃ call < (Driver.step o s op).world.calls,
        lease.expiryNs = leaseExpiry (Driver.step o s op).config (o.clock call) := by
    obtain ⟨call, earlier, expiry⟩ := issued lease present
    exact ⟨call, Nat.lt_of_lt_of_le earlier calls, config ▸ expiry⟩
  intro lease present
  cases op with
  | attach request =>
      rcases handleAttach_leases o request s with same | ⟨added, joined, call, earlier, expiry⟩
      · exact old lease (same ▸ present)
      · change lease ∈ (handleAttach o request s).2.leases at present
        rw [joined] at present
        rcases List.mem_append.mp present with before | new
        · exact old lease before
        · rw [List.mem_singleton.mp new]
          exact ⟨call, earlier, config ▸ expiry⟩
  | detach request =>
      rcases handleDetach_leases o request s with same | ⟨before, gone, after, parts, -, left, -⟩
      · exact old lease (same ▸ present)
      · change lease ∈ (handleDetach o request s).2.leases at present
        rw [left] at present
        apply old
        rw [parts]
        rcases List.mem_append.mp present with early | late
        · exact List.mem_append_left _ early
        · exact List.mem_append_right _ (List.mem_cons_of_mem _ late)
  | keepalive request =>
      rcases handleKeepalive_leases o request s with same | ⟨before, renewed, after, parts, -, moved, read⟩
      · exact old lease (same ▸ present)
      · change lease ∈ (handleKeepalive o request s).leases at present
        rw [moved] at present
        rcases List.mem_append.mp present with early | late
        · exact old lease (parts ▸ List.mem_append_left _ early)
        · cases List.mem_cons.mp late with
          | inl here =>
              rw [here]
              refine ⟨s.world.calls, ?_, congrFun (congrArg leaseExpiry config.symm) _⟩
              change s.world.calls < (handleKeepalive o request s).world.calls
              rw [read]
              exact Nat.lt_succ_self _
          | inr there => exact old lease (parts ▸ List.mem_append_right _ (List.mem_cons_of_mem _ there))
  | expire =>
      change lease ∈ (handleExpiredLeases o s).leases at present
      rw [handleExpiredLeases_leases] at present
      exact old lease (List.mem_filter.mp present).1
  | announce =>
      change lease ∈ (announceTick o s).leases at present
      rw [announceTick_leases] at present
      exact old lease present

theorem issued_run {o : Oracle} {s : State} (issued : Issued o s) (tidy : Tidy s) (ops : List Op) :
    Issued o (run o s ops) := by
  induction ops generalizing s with
  | nil => exact issued
  | cons op rest hypothesis =>
      obtain ⟨labels, path, -⟩ := step_trace (o := o) op tidy
      rw [run_cons]
      exact hypothesis (issued.step tidy op) (tidy_trace path tidy)

/-- A booted driver has no lease. -/
theorem boot_leases (o : Oracle) (config : Config) (started : Bool) : (boot o config started).leases = [] := by
  cases started with
  | false => rfl
  | true =>
      change (start o (init config)).leases = []
      unfold start
      dsimp only
      split
      · rfl
      · rfl

/-- An expiry follows its reading of the clock while it does not wrap. -/
theorem leaseExpiry_mono {config : Config} {early late : UInt64} (order : early ≤ late)
    (room : late.toNat + (leaseExpiry config 0).toNat < 2 ^ 64) :
    leaseExpiry config early ≤ leaseExpiry config late := by
  unfold leaseExpiry at room ⊢
  rw [UInt64.zero_add] at room
  generalize config.leaseKeepaliveIntervalMs.toUInt64 * 1000000 * config.leaseExpiryGraceIntervals.toUInt64 = span
    at room ⊢
  rw [UInt64.le_iff_toNat_le] at order ⊢
  rw [UInt64.toNat_add, UInt64.toNat_add, Nat.mod_eq_of_lt room, Nat.mod_eq_of_lt (by omega)]
  omega

/-- The way of the leases through one operation. -/
structure Lifetime (o : Oracle) (s : State) (op : Op) : Prop where
  removed : ∀ lease ∈ s.leases, (∀ other ∈ (step o s op).leases, other.identity ≠ lease.identity) →
    (∃ request, op = .detach request ∧ request.names lease = true ∧ ∃ result,
      (step o s op).world.log.getLast? =
        some (.offered (.detachResponse ⟨request.correlationId, .ok, ⟨"", .whole⟩⟩) result)) ∨
    (op = .expire ∧ lease.expiryNs < o.clock s.world.calls)
  detached : ∀ request, op = .detach request → (step o s op).leases = s.leases ∨
    ∃ before lease after, s.leases = before ++ lease :: after ∧ request.names lease = true ∧
      (step o s op).leases = before ++ after
  renewed : ∀ request, op = .keepalive request → (step o s op).leases = s.leases ∨
    ∃ before lease after expiryNs, s.leases = before ++ lease :: after ∧ request.names lease = true ∧
      (step o s op).leases = before ++ { lease with expiryNs } :: after ∧
      ((∀ early late, early ≤ late → o.clock early ≤ o.clock late) →
        (o.clock s.world.calls).toNat + (leaseExpiry s.config 0).toNat < 2 ^ 64 → lease.expiryNs ≤ expiryNs)
  expired : op = .expire → (step o s op).leases =
    s.leases.filter fun lease => lease.expiryNs = 0 ∨ o.clock s.world.calls ≤ lease.expiryNs

theorem Lease.expired_iff (lease : Lease) (now : UInt64) :
    (!lease.expired now) = decide (lease.expiryNs = 0 ∨ now ≤ lease.expiryNs) := by
  rw [Bool.eq_iff_iff, decide_eq_true_iff, Lease.expired, Bool.not_eq_true', Bool.and_eq_false_iff,
    bne_eq_false_iff_eq, decide_eq_false_iff_not, gt_iff_lt, UInt64.not_lt]

/-- A lease that stays in the table is not removed. -/
theorem stays {leases : List Lease} {lease : Lease} (present : lease ∈ leases)
    (gone : ∀ other ∈ leases, other.identity ≠ lease.identity) : False := gone lease present rfl

theorem step_lifetime {o : Oracle} {s : State} (issued : Issued o s) (op : Op) : Lifetime o s op where
  removed := by
    intro lease present gone
    cases op with
    | attach request =>
        change ∀ other ∈ (handleAttach o request s).2.leases, _ at gone
        rcases handleAttach_leases o request s with same | ⟨added, joined, -⟩
        · exact (stays (same ▸ present) gone).elim
        · exact (stays (joined ▸ List.mem_append_left _ present) gone).elim
    | detach request =>
        change ∀ other ∈ (handleDetach o request s).2.leases, _ at gone
        rcases handleDetach_leases o request s with same | ⟨before, target, after, parts, named, left, answered⟩
        · exact (stays (same ▸ present) gone).elim
        · left
          rw [left] at gone
          rw [parts, List.mem_append, List.mem_cons] at present
          rcases present with early | rfl | late
          · exact (stays (List.mem_append_left _ early) gone).elim
          · exact ⟨request, rfl, named, answered⟩
          · exact (stays (List.mem_append_right _ late) gone).elim
    | keepalive request =>
        change ∀ other ∈ (handleKeepalive o request s).leases, _ at gone
        rcases handleKeepalive_leases o request s with same | ⟨before, target, after, parts, -, moved, -⟩
        · exact (stays (same ▸ present) gone).elim
        · rw [moved] at gone
          rw [parts, List.mem_append, List.mem_cons] at present
          rcases present with early | rfl | late
          · exact (stays (List.mem_append_left _ early) gone).elim
          · exact (gone _ (List.mem_append_right _ (List.mem_cons_self ..)) (Lease.identity_extend _ _)).elim
          · exact (stays (List.mem_append_right _ (List.mem_cons_of_mem _ late)) gone).elim
    | expire =>
        change ∀ other ∈ (handleExpiredLeases o s).leases, _ at gone
        rw [handleExpiredLeases_leases] at gone
        right
        refine ⟨rfl, ?_⟩
        by_contra current
        apply stays (List.mem_filter.mpr ⟨present, ?_⟩) gone
        rw [Lease.expired_iff, decide_eq_true_iff]
        exact .inr (UInt64.not_lt.mp current)
    | announce =>
        change ∀ other ∈ (announceTick o s).leases, _ at gone
        rw [announceTick_leases] at gone
        exact (stays present gone).elim
  detached := by
    rintro request rfl
    rcases handleDetach_leases o request s with same | ⟨before, lease, after, parts, named, left, -⟩
    · exact .inl same
    · exact .inr ⟨before, lease, after, parts, named, left⟩
  renewed := by
    rintro request rfl
    rcases handleKeepalive_leases o request s with same | ⟨before, lease, after, parts, named, moved, -⟩
    · exact .inl same
    · refine .inr ⟨before, lease, after, _, parts, named, moved, fun rising room => ?_⟩
      obtain ⟨call, earlier, expiry⟩ := issued lease (parts ▸ List.mem_append_right _ (List.mem_cons_self ..))
      rw [expiry]
      exact leaseExpiry_mono (rising _ _ (Nat.le_of_lt earlier)) room
  expired := by
    rintro rfl
    change (handleExpiredLeases o s).leases = _
    rw [handleExpiredLeases_leases]
    congr 1
    funext lease
    exact lease.expired_iff _

/--
In every run leases end by their detach or after their expiry, keepalives renew one lease, and a pass
takes out exactly the expired leases.
-/
theorem run_lifetime (o : Oracle) (config : Config) (started : Bool) (ops : List Op) (op : Op) :
    Lifetime o (run o (boot o config started) ops) op := by
  have start : Issued o (boot o config started) := by
    intro lease present
    rw [boot_leases] at present
    exact absurd present List.not_mem_nil
  exact step_lifetime (issued_run start (boot_tidy o config started) ops) op

/-- A pass takes out every lease that expired before its reading, also one whose expiry is zero. -/
def ExpiresAll (o : Oracle) (s : State) : Prop :=
  (step o s .expire).leases = s.leases.filter fun lease => !decide (lease.expiryNs < o.clock s.world.calls)

/-- A keepalive never moves an expiry back, whatever the configured product is. -/
def NeverBack (o : Oracle) (s : State) : Prop :=
  ∀ request, ∀ lease ∈ s.leases, ∀ other ∈ (step o s (.keepalive request)).leases,
    other.identity = lease.identity → lease.expiryNs ≤ other.expiryNs

/-- This clock stands still and then moves on once. -/
def lateOracle (calls : Nat) (first second : UInt64) : Oracle :=
  { plainOracle with clock := fun call => if call < calls then first else second }

def longConfig : Config :=
  { plainConfig with leaseKeepaliveIntervalMs := 4294967295, leaseExpiryGraceIntervals := 4294 }

def instantConfig : Config := { plainConfig with leaseKeepaliveIntervalMs := 0 }

def plainKeepalive (leaseId : UInt64) (clientId : UInt32) (role : Role) : LeaseKeepalive where
  leaseId := leaseId
  streamId := 1
  clientId := clientId
  role := some role

theorem lateOracle_rises (calls : Nat) {first second : UInt64} (order : first ≤ second) (early late : Nat)
    (before : early ≤ late) : (lateOracle calls first second).clock early ≤
      (lateOracle calls first second).clock late := by
  change (if early < calls then first else second) ≤ if late < calls then first else second
  split
  · split
    · exact UInt64.le_refl _
    · exact order
  · rw [if_neg (by omega)]
    exact UInt64.le_refl _

def instantRun : State :=
  run (lateOracle 11 0 5) (boot (lateOracle 11 0 5) instantConfig false) [.attach (plainRequest 1 .consumer)]

def longRun : State :=
  run (lateOracle 11 100 4200000000000000) (boot (lateOracle 11 100 4200000000000000) longConfig false)
    [.attach (plainRequest 1 .consumer)]

/-- A lease without an expiry survives its pass, and a wrapped expiry moves back. -/
theorem lifetime_fails :
    ¬ ExpiresAll (lateOracle 11 0 5) (run (lateOracle 11 0 5) (boot (lateOracle 11 0 5) instantConfig false)
        [.attach (plainRequest 1 .consumer)]) ∧
      (∀ early late, early ≤ late → (lateOracle 11 100 4200000000000000).clock early ≤
        (lateOracle 11 100 4200000000000000).clock late) ∧
      ¬ NeverBack (lateOracle 11 100 4200000000000000) (run (lateOracle 11 100 4200000000000000)
        (boot (lateOracle 11 100 4200000000000000) longConfig false) [.attach (plainRequest 1 .consumer)]) := by
  have survives : ¬ ExpiresAll (lateOracle 11 0 5) instantRun := by
    intro pass
    have kept : (step (lateOracle 11 0 5) instantRun .expire).leases.length = 1 := by decide +kernel
    have gone : (instantRun.leases.filter fun lease =>
        !decide (lease.expiryNs < (lateOracle 11 0 5).clock instantRun.world.calls)).length = 0 := by
      decide +kernel
    exact absurd (kept.symm.trans ((congrArg List.length pass).trans gone)) (by decide)
  have back : ¬ NeverBack (lateOracle 11 100 4200000000000000) longRun := by
    intro kept
    have moved := kept (plainKeepalive 6 1 .consumer) ⟨6, 18442589564730000100, 100, 1, 1, 1, .consumer⟩
      (by decide +kernel) ⟨6, 45491020448384, 100, 1, 1, 1, .consumer⟩ (by decide +kernel) (by decide)
    exact absurd moved (by decide)
  exact ⟨survives, lateOracle_rises 11 (by decide), back⟩

end TensorPool.Driver
