/-
This file shows that the producers of a stream get different epochs.
-/

import TensorPool.Driver.Grants

namespace TensorPool.Driver

/-- The driver answered with an epoch for the lease of a producer. -/
structure Produces (log : List Event) (lease : Lease) (epoch : UInt64) : Prop where
  granted : lease ∈ grants log
  producer : lease.role = .producer
  told : ∃ response result body, .offered (.attachResponse response) result ∈ log ∧ response.code = .ok ∧
    response.body = some body ∧ Carries body lease ∧ body.epoch = epoch

/-- The epochs of a stream rise along a short run. -/
theorem run_rising {o : Oracle} (early : ∀ call, (o.clock call).toNat < 2 ^ 63) (config : Config) (started : Bool)
    {ops : List Op} (short : ops.length < 2 ^ 63) (streamId : UInt32) :
    (epochs streamId (run o (boot o config started) ops).world.log).Pairwise (· < ·) := by
  obtain ⟨past, -, risen, -, counted⟩ := run_risen early config started ops short
  apply risen.rising
  have bound := counted streamId
  omega

/-- Every `OK` response of a run carries a lease that was granted. -/
theorem run_carries (o : Oracle) (config : Config) (started : Bool) (ops : List Op) {response : AttachResponse}
    {result : Int} (sent : .offered (.attachResponse response) result ∈ (run o (boot o config started) ops).world.log)
    (ok : response.code = .ok) : ∃ body lease, response.body = some body ∧ Carries body lease ∧
      lease ∈ grants (run o (boot o config started) ops).world.log := by
  induction ops using List.reverseRecOn with
  | nil => exact absurd sent (boot_silent o config started)
  | append_singleton ops op hypothesis =>
      have tidy := run_tidy (o := o) (boot_tidy o config started) ops
      rw [run_append, run_cons, run_nil, step_log tidy, List.mem_append] at sent
      rw [run_append, run_cons, run_nil, step_log tidy, grants_append]
      rcases sent with old | new
      · obtain ⟨body, lease, carried, carries, granted⟩ := hypothesis old
        exact ⟨body, lease, carried, carries, List.mem_append_left _ granted⟩
      · obtain ⟨request, body, lease, -, -, carried, -, single, -, carries⟩ := step_answers tidy new ok
        exact ⟨body, lease, carried, carries, List.mem_append_right _ (single ▸ List.mem_singleton_self _)⟩

/-- The responses for one lease answer one request. -/
theorem run_correlates (o : Oracle) (config : Config) (started : Bool) (ops : List Op)
    (few : ops.countP Op.attaches < 2 ^ 64) {response response' : AttachResponse} {result result' : Int}
    {body body' : AttachBody}
    (sent : .offered (.attachResponse response) result ∈ (run o (boot o config started) ops).world.log)
    (sent' : .offered (.attachResponse response') result' ∈ (run o (boot o config started) ops).world.log)
    (ok : response.code = .ok) (ok' : response'.code = .ok) (carried : response.body = some body)
    (carried' : response'.body = some body') (same : body.leaseId = body'.leaseId) :
    response.correlationId = response'.correlationId := by
  induction ops using List.reverseRecOn with
  | nil => exact absurd sent (boot_silent o config started)
  | append_singleton ops op hypothesis =>
      have tidy := run_tidy (o := o) (boot_tidy o config started) ops
      obtain ⟨distinct, -⟩ := run_numbered o config started (ops ++ [op]) few
      rw [run_append, run_cons, run_nil, step_log tidy] at sent sent' distinct
      rw [List.mem_append] at sent sent'
      rw [grants_append, List.map_append] at distinct
      rw [List.countP_append] at few
      have crossed {response response' : AttachResponse} {result result' : Int} {body body' : AttachBody}
          (old : .offered (.attachResponse response) result ∈ (run o (boot o config started) ops).world.log)
          (new : .offered (.attachResponse response') result' ∈
            newEvents (run o (boot o config started) ops) (step o (run o (boot o config started) ops) op))
          (ok : response.code = .ok) (ok' : response'.code = .ok) (carried : response.body = some body)
          (carried' : response'.body = some body') : body.leaseId ≠ body'.leaseId := by
        obtain ⟨body₀, lease, shown, carries, granted⟩ := run_carries o config started ops old ok
        obtain ⟨request, body₁, lease', -, -, shown', -, single, -, carries'⟩ := step_answers tidy new ok'
        rw [carried] at shown
        rw [carried'] at shown'
        cases shown
        cases shown'
        intro same
        have apart := (List.nodup_append.mp distinct).2.2 lease.leaseId (List.mem_map_of_mem granted) lease'.leaseId
          (List.mem_map_of_mem (single ▸ List.mem_singleton_self _))
        apply apart
        rw [← carries.leaseId, same, carries'.leaseId]
      rcases sent with old | new
      · rcases sent' with old' | new'
        · exact hypothesis (by omega) old old'
        · exact absurd same (crossed old new' ok ok' carried carried')
      · rcases sent' with old' | new'
        · exact absurd same.symm (crossed old' new ok' ok carried' carried)
        · obtain ⟨request, -, -, attaches, correlated, -⟩ := step_answers tidy new ok
          obtain ⟨request', -, -, attaches', correlated', -⟩ := step_answers tidy new' ok'
          rw [attaches] at attaches'
          cases attaches'
          rw [correlated, correlated']

/-- Granted leases with one identifier are one lease. -/
theorem grants_unique {log : List Event} (distinct : ((grants log).map Lease.leaseId).Nodup) {first second : Lease}
    (one : first ∈ grants log) (two : second ∈ grants log) (same : first.leaseId = second.leaseId) : first = second :=
  List.inj_on_of_nodup_map distinct one two same

/-- A producer that got its epoch in a step was granted its lease and its epoch by this step. -/
theorem step_produces {o : Oracle} {config : Config} {started : Bool} {ops : List Op} {op : Op}
    (few : (ops ++ [op]).countP Op.attaches < 2 ^ 64) {lease : Lease} {epoch : UInt64}
    (produces : Produces (run o (boot o config started) (ops ++ [op])).world.log lease epoch) :
    Produces (run o (boot o config started) ops).world.log lease epoch ∨
      lease ∈ grants (newEvents (run o (boot o config started) ops) (step o (run o (boot o config started) ops) op)) ∧
        .epochBumped lease.streamId epoch ∈
          newEvents (run o (boot o config started) ops) (step o (run o (boot o config started) ops) op) := by
  have tidy := run_tidy (o := o) (boot_tidy o config started) ops
  obtain ⟨distinct, -⟩ := run_numbered o config started (ops ++ [op]) few
  have log : (run o (boot o config started) (ops ++ [op])).world.log =
    (run o (boot o config started) ops).world.log ++
      newEvents (run o (boot o config started) ops) (step o (run o (boot o config started) ops) op) := by
    rw [run_append, run_cons, run_nil, step_log tidy]
  obtain ⟨granted, producer, response, result, body, sent, ok, carried, carries, shown⟩ := produces
  rw [log, List.mem_append] at sent
  rcases sent with old | new
  · left
    obtain ⟨body', lease', carried', carries', granted'⟩ := run_carries o config started ops old ok
    rw [carried] at carried'
    cases carried'
    have same : lease = lease' := by
      apply grants_unique distinct granted
      · rw [log, grants_append]
        exact List.mem_append_left _ granted'
      · rw [← carries.leaseId, carries'.leaseId]
    subst same
    exact ⟨granted', producer, response, result, body, old, ok, carried, carries, shown⟩
  · right
    obtain ⟨request, body', lease', attaches, -, carried', -, single, asked, carries'⟩ := step_answers tidy new ok
    rw [carried] at carried'
    cases carried'
    have same : lease = lease' := by
      apply grants_unique distinct granted
      · rw [log, grants_append, single]
        exact List.mem_append_right _ (List.mem_singleton_self _)
      · rw [← carries.leaseId, carries'.leaseId]
    subst same
    refine ⟨single ▸ List.mem_singleton_self _, ?_⟩
    apply GrantsProducer.bumps
    exact ⟨request, response, body, result, attaches, producer ▸ asked.role, new, ok, carried,
      carries.streamId, shown⟩

/-- The epoch of a producer was logged, and no other producer of its stream got it. -/
structure Succeeds (log : List Event) : Prop where
  bumped : ∀ lease epoch, Produces log lease epoch → .epochBumped lease.streamId epoch ∈ log
  alone : ∀ lease lease' epoch, Produces log lease epoch → Produces log lease' epoch →
    lease.streamId = lease'.streamId → lease = lease'

/-- In every run with an early clock different producers of a stream get different epochs. -/
theorem run_succeeds {o : Oracle} (early : ∀ call, (o.clock call).toNat < 2 ^ 63) (config : Config) (started : Bool)
    {ops : List Op} (short : ops.length < 2 ^ 63) : Succeeds (run o (boot o config started) ops).world.log := by
  induction ops using List.reverseRecOn with
  | nil =>
      have silent (lease : Lease) (epoch : UInt64) : ¬ Produces (boot o config started).world.log lease epoch := by
        rintro ⟨-, -, response, result, body, sent, -⟩
        exact boot_silent o config started sent
      exact ⟨fun lease epoch produces => absurd produces (silent lease epoch),
        fun lease lease' epoch produces => absurd produces (silent lease epoch)⟩
  | append_singleton ops op hypothesis =>
      have shorter := short
      rw [List.length_append, List.length_singleton] at shorter
      obtain ⟨bumped, alone⟩ := hypothesis (by omega)
      have few : (ops ++ [op]).countP Op.attaches < 2 ^ 64 :=
        Nat.lt_of_le_of_lt List.countP_le_length (Nat.lt_trans short (by decide))
      have tidy := run_tidy (o := o) (boot_tidy o config started) ops
      have log : (run o (boot o config started) (ops ++ [op])).world.log =
          (run o (boot o config started) ops).world.log ++
            newEvents (run o (boot o config started) ops) (step o (run o (boot o config started) ops) op) := by
        rw [run_append, run_cons, run_nil, step_log tidy]
      have once {streamId : UInt32} {epoch : UInt64}
          (before : .epochBumped streamId epoch ∈ (run o (boot o config started) ops).world.log)
          (again : .epochBumped streamId epoch ∈
            newEvents (run o (boot o config started) ops)
              (step o (run o (boot o config started) ops) op)) : False := by
        have order := (List.pairwise_cons.mp (run_rising early config started short streamId)).2
        rw [log, List.filterMap_append] at order
        exact UInt64.lt_irrefl _ ((List.pairwise_append.mp order).2.2 epoch (mem_epochs before) epoch
          (mem_epochs again))
      constructor
      · intro lease epoch produces
        rw [log]
        rcases step_produces few produces with old | ⟨-, new⟩
        · exact List.mem_append_left _ (bumped lease epoch old)
        · exact List.mem_append_right _ new
      · intro lease lease' epoch produces produces' same
        rcases step_produces few produces with old | ⟨granted, new⟩
        · rcases step_produces few produces' with old' | ⟨-, new'⟩
          · exact alone lease lease' epoch old old' same
          · exact (once (bumped lease epoch old) (same ▸ new')).elim
        · rcases step_produces few produces' with old' | ⟨granted', -⟩
          · exact (once (bumped lease' epoch old') (same ▸ new)).elim
          · rcases step_grants (o := o) tidy op with none | ⟨request, single, -, listed, -⟩
            · rw [none] at granted
              cases granted
            · rw [listed, List.mem_singleton] at granted granted'
              rw [granted, granted']

end TensorPool.Driver
