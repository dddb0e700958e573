/-
This file ties each lease that a step grants to the request that the step handles.
-/

import TensorPool.Driver.Replies

namespace TensorPool.Driver

open Attempt

/-- The lease has what its request asked for. -/
structure Asked (request : AttachRequest) (lease : Lease) : Prop where
  client : lease.clientId = request.clientId
  role : request.role = some lease.role
  stream : request.streamId ≠ 0 → lease.streamId = request.streamId
  node : request.desiredNodeId ≠ nullU32 → lease.nodeId = request.desiredNodeId

@[simp] theorem grants_append (first second : List Event) :
    grants (first ++ second) = grants first ++ grants second :=
  List.filterMap_append

theorem mem_grants {lease : Lease} {log : List Event} :
    lease ∈ grants log ↔ ∃ checkedNs, .leaseGranted lease checkedNs ∈ log := by
  unfold grants
  rw [List.mem_filterMap]
  constructor
  · rintro ⟨event, member, granted⟩
    cases event <;> cases granted
    exact ⟨_, member⟩
  · rintro ⟨checkedNs, member⟩
    exact ⟨_, member, rfl⟩

/-- The grants of a trace are those of its labels. -/
theorem trace_grants {o : Oracle} {labels : List Label} {s s' : State} (path : Trace (Change o) labels s s') :
    grants s'.world.log = grants s.world.log ++ labels.flatMap Label.granted := by
  induction path with
  | nil => simp
  | snoc _ last hypothesis =>
      rw [last.grants, hypothesis, List.flatMap_append, List.append_assoc]
      simp

/-- A trace without a grant adds none to the log. -/
theorem trace_ungranted {o : Oracle} {labels : List Label} {s s' : State} (path : Trace (Change o) labels s s')
    (calm : ∀ label ∈ labels, label.granted = []) : grants s'.world.log = grants s.world.log := by
  rw [trace_grants path, List.flatMap_eq_nil_iff.mpr calm, List.append_nil]

/-- A refused request has no grant. -/
theorem refused_ungranted {o : Oracle} {request : AttachRequest} {s s' : State} {rejection : Rejection}
    (run : (grantAttach o request).exec s = (.error rejection, s')) :
    grants (handleAttach o request s).2.world.log = grants s.world.log := by
  have refused : grants (handleAttach o request s).2.world.log = grants s'.world.log := by
    rw [handleAttach_error run]
    apply grants_grows (sendAttachRefused_grows _).log
    · exact fun event plain => plain
    · exact fun _ _ _ => rfl
  have calmly {labels : List Label} (quiet : ∀ label ∈ labels, label.calm = true) :
      ∀ label ∈ labels, label.granted = [] := by
    intro label member
    have kind := quiet label member
    cases label with
    | grant lease => cases kind
    | _ => rfl
  rw [refused]
  cases grantAttach_error run with
  | checks left =>
      obtain ⟨labels, path, calm⟩ := left.trace
      exact trace_ungranted path (calmly calm)
  | epoch admission streamId m checks _ found renews =>
      obtain ⟨labels, path, calm⟩ := checks.trace
      rw [← trace_ungranted path (calmly calm)]
      rcases renews.trace found with still | renewed
      · exact trace_ungranted still (by simp)
      · exact trace_ungranted renewed (by simp [Label.granted])
  | lease admission streamId m r checks _ found renews change =>
      obtain ⟨labels, path, calm⟩ := checks.trace
      rw [← trace_ungranted path (calmly calm), trace_ungranted (.single change) (by simp [Label.granted])]
      rcases renews.trace found with still | renewed
      · exact trace_ungranted still (by simp)
      · exact trace_ungranted renewed (by simp [Label.granted])

/-- A granted request adds its lease, which has what the request asked for. -/
theorem granted_asked {o : Oracle} {request : AttachRequest} {s s' : State} {grant : Grant}
    (run : (grantAttach o request).exec s = (.ok grant, s')) :
    grant.lease ∈ grants (newEvents s (handleAttach o request s).2) ∧ Asked request grant.lease := by
  obtain ⟨admission, streamId, m, r, same, granted⟩ := grantAttach_ok run
  obtain ⟨-, -, -, -, stream, -, node⟩ := grantAttach_taken run
  obtain ⟨middle, middleLog, -⟩ := (announce_log o s' grant.index grant.requireHugepages).log
  have growth : World.Grows (fun _ => True) (s'.announce o grant.index grant.requireHugepages).world
      (handleAttach o request s).2.world := by
    rw [handleAttach_ok run]
    exact sendAttachGranted_grows fun _ _ _ _ _ _ => trivial
  obtain ⟨late, lateLog, -⟩ := growth.log
  obtain ⟨early, earlyLog, -⟩ := grantAttach_silent run
  obtain ⟨atNs, grantLog, -⟩ := granted.log
  obtain ⟨renewal, renewalLog, -⟩ := granted.checks.silent ▸ granted.renews.silent granted.found
  have recorded : .leaseGranted grant.lease atNs ∈ early := by
    rw [grantLog, renewalLog, List.append_assoc] at earlyLog
    rw [← List.append_cancel_left earlyLog]
    simp
  constructor
  · rw [mem_grants, newEvents, lateLog, middleLog, earlyLog, List.append_assoc, List.append_assoc, List.drop_left]
    exact ⟨atNs, List.mem_append_left _ recorded⟩
  · exact ⟨granted.client, granted.admitted.role.trans (congrArg some granted.role.symm), stream, node⟩

/-- A step grants at most one lease, to the request that it handles. -/
theorem step_grants {o : Oracle} {s : State} (tidy : Tidy s) (op : Op) :
    grants (newEvents s (step o s op)) = [] ∨ ∃ request lease, op = .attach request ∧
      grants (newEvents s (step o s op)) = [lease] ∧ Asked request lease := by
  obtain ⟨labels, path, kinds⟩ := step_trace (o := o) op tidy
  have gained : grants (newEvents s (step o s op)) = labels.flatMap Label.granted := by
    have whole := trace_grants path
    rw [step_log tidy op, grants_append] at whole
    exact List.append_cancel_left whole
  have few : (labels.flatMap Label.granted).length ≤ labels.countP Label.draws := by
    clear path kinds gained
    induction labels with
    | nil => simp
    | cons label rest hypothesis =>
        rw [List.flatMap_cons, List.length_append, List.countP_cons]
        cases label <;> simp [Label.granted, Label.draws] at hypothesis ⊢ <;> omega
  have once := Nat.le_trans few kinds.draws
  rw [← gained] at once
  cases op with
  | attach request =>
      rcases run : (grantAttach o request).exec s with ⟨rejection | grant, s'⟩
      · left
        have whole := refused_ungranted run
        change grants (step o s (.attach request)).world.log = _ at whole
        rw [step_log tidy, grants_append] at whole
        exact List.append_right_eq_self.mp whole
      · right
        obtain ⟨member, asked⟩ := granted_asked run
        change grant.lease ∈ grants (newEvents s (step o s (.attach request))) at member
        obtain ⟨lease, single⟩ := List.length_eq_one_iff.mp (Nat.le_antisymm once (List.length_pos_of_mem member))
        rw [single, List.mem_singleton] at member
        subst member
        exact ⟨request, grant.lease, rfl, single, asked⟩
  | _ => exact .inl (List.length_eq_zero_iff.mp (Nat.le_zero.mp once))

/-- A step that answers with `OK` grants the lease that it answers with. -/
theorem step_answers {o : Oracle} {s : State} {op : Op} {response : AttachResponse} {result : Int} (tidy : Tidy s)
    (sent : .offered (.attachResponse response) result ∈ newEvents s (step o s op)) (ok : response.code = .ok) :
    ∃ request body lease, op = .attach request ∧ response.correlationId = request.correlationId ∧
      response.body = some body ∧ Fitted o body response.errorMessage ∧
      grants (newEvents s (step o s op)) = [lease] ∧ Asked request lease ∧ Carries body lease := by
  obtain ⟨request, rfl, confirms⟩ := step_confirms sent
  obtain ⟨body, lease, checkedNs, carried, fitted, granted, carries, -⟩ := confirms.granted ok
  have member : lease ∈ grants (newEvents s (step o s (.attach request))) := mem_grants.mpr ⟨checkedNs, granted⟩
  rcases step_grants (o := o) tidy (.attach request) with none | ⟨request', lease', same, single, asked⟩
  · rw [none] at member
    cases member
  · cases same
    rw [single, List.mem_singleton] at member
    subst member
    exact ⟨request, body, lease, rfl, confirms.correlationId, carried, fitted, single, asked, carries⟩

/-- The leases of a run have different identifiers other than zero, and the table has only granted ones. -/
theorem run_numbered (o : Oracle) (config : Config) (started : Bool) (ops : List Op)
    (few : ops.countP Op.attaches < 2 ^ 64) :
    ((grants (run o (boot o config started) ops).world.log).map Lease.leaseId).Nodup ∧
      (∀ lease ∈ grants (run o (boot o config started) ops).world.log, lease.leaseId ≠ 0) ∧
      ∀ lease ∈ (run o (boot o config started) ops).leases,
        ∃ granted ∈ grants (run o (boot o config started) ops).world.log, granted.identity = lease.identity := by
  obtain ⟨past, orderly, drawn⟩ := run_orderly o config started ops
  obtain ⟨numbers, distinct, recorded⟩ := orderly.numbered
  refine ⟨distinct (by omega), fun lease member => ?_, recorded⟩
  obtain ⟨seed, nonzero, -, numbered⟩ := numbers
  obtain ⟨number, -, -, same⟩ := numbered lease member
  rw [same]
  exact leaseNumber_ne_zero nonzero number

end TensorPool.Driver
