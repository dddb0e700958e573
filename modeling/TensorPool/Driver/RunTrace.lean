/-
This file takes every operation and every run apart into changes.
-/

import TensorPool.Driver.AttachTrace

namespace TensorPool.Driver

/-- The labels that an operation can have. -/
def OpLabels : Op → List Label → Prop
  | .attach _, labels => Attempted labels
  | _, labels => Fences labels

theorem fences_of_plain {labels : List Label} (settled : ∀ label ∈ labels, label.settled = true)
    (plain : ∀ label ∈ labels, label.renews = false) : Fences labels := by
  refine ⟨settled, fun streamId => ?_⟩
  have absent : Label.renew streamId ∉ labels := fun member => by
    have kind := plain _ member
    cases kind
  rw [List.count_eq_zero_of_not_mem absent]
  exact Nat.zero_le _

/-- Every operation on a tidy table is a trace. -/
theorem step_trace {o : Oracle} {s : State} (op : Op) (tidy : Tidy s) :
    ∃ labels, Trace (Change o) labels s (step o s op) ∧ OpLabels op labels := by
  cases op with
  | attach request => exact handleAttach_trace o request s
  | detach request =>
      obtain ⟨labels, path, kinds⟩ := handleDetach_trace o request s
      refine ⟨labels, path, fences_of_plain (fun label member => ?_) fun label member => ?_⟩ <;>
        rcases kinds label member with rfl | ⟨lease, rfl⟩ <;> rfl
  | keepalive request =>
      obtain ⟨labels, path, kinds⟩ := handleKeepalive_trace o request s
      refine ⟨labels, path, fences_of_plain (fun label member => ?_) fun label member => ?_⟩ <;>
        rw [kinds label member] <;> rfl
  | expire => exact handleExpiredLeases_trace o s
  | announce =>
      obtain ⟨labels, path, kinds⟩ := announceTick_trace (o := o) tidy
      refine ⟨labels, path, fences_of_plain (fun label member => ?_) fun label member => ?_⟩ <;>
        rw [kinds label member] <;> rfl

/-- Every stream of a new driver is blank. -/
theorem init_blank (config : Config) (index : Nat) : ((init config).streamAt index).epoch = 0 ∧
    ((init config).streamAt index).producerLeaseId = 0 ∧
    ((init config).streamAt index).producerClientId = 0 := by
  by_cases inside : index < (init config).streams.length
  · rw [streamAt_eq inside]
    simp [init]
  · rw [State.streamAt, List.getD_eq_default _ _ (Nat.le_of_not_lt inside)]
    exact ⟨rfl, rfl, rfl⟩

theorem init_tidy (config : Config) : Tidy (init config) := fun index _ _ => init_blank config index

/-- The first collection spares the missing epoch of every stream. -/
theorem boot_trace (o : Oracle) (config : Config) (started : Bool) :
    ∃ labels, Trace (Change o) labels (init config) (boot o config started) ∧
      ∀ label ∈ labels, label = .talk := by
  cases started with
  | false => exact ⟨[], .nil _, by simp⟩
  | true =>
      change ∃ labels, Trace (Change o) labels (init config) (start o (init config)) ∧ _
      refine ⟨[.talk], Trace.single ?_, by simp⟩
      unfold start
      dsimp only
      have read : World.Grows (Talk (init config)) (init config).world (init config).world.called :=
        .called _ _
      split
      · refine .talk ⟨rfl, rfl, rfl, ?_, fun _ member => .inl member, fun tidy => tidy.congr rfl⟩ (view_congr rfl)
        refine List.foldlRecOn _ _ read fun w growth stream member => ?_
        have blank : stream.epoch = 0 := by
          obtain ⟨index, inside, rfl⟩ := List.getElem_of_mem member
          rw [← streamAt_eq inside]
          exact (init_blank config index).1
        refine growth.trans ((gcStream_grows o _ stream [] w).mono fun event kind => ?_)
        cases kind with
        | created file member => cases member
        | failed file member => cases member
        | removed stale different complete =>
            refine .removed stale (fun viewed known => ?_) complete
            obtain ⟨index, -, rfl⟩ := view_eq_some.mp known
            rw [StreamState.core_epoch, (init_blank config index).1, ← blank]
            exact different
      · exact .talk ⟨rfl, rfl, rfl, read, fun _ member => .inl member, fun tidy => tidy.congr rfl⟩
          (view_congr rfl)

/-- Every booted driver is tidy. -/
theorem boot_tidy (o : Oracle) (config : Config) (started : Bool) : Tidy (boot o config started) := by
  obtain ⟨labels, path, -⟩ := boot_trace o config started
  exact tidy_trace path (init_tidy config)

theorem run_tidy {o : Oracle} {s : State} (tidy : Tidy s) (ops : List Op) : Tidy (run o s ops) := by
  induction ops generalizing s with
  | nil => exact tidy
  | cons op rest hypothesis =>
      obtain ⟨labels, path, -⟩ := step_trace (o := o) op tidy
      rw [run_cons]
      exact hypothesis (tidy_trace path tidy)

/-- An attach is the only operation that draws lease identifiers. -/
def Op.attaches : Op → Bool
  | .attach _ => true
  | _ => false

theorem OpLabels.draws {op : Op} {labels : List Label} (kinds : OpLabels op labels) :
    labels.countP Label.draws ≤ if op.attaches then 1 else 0 := by
  have settled (fences : Fences labels) : labels.countP Label.draws = 0 :=
    List.countP_eq_zero.mpr fun label member => by
      have kind := fences.settled label member
      cases label <;> first | exact Bool.false_ne_true | cases kind
  cases op with
  | attach request => exact Attempted.draws kinds
  | detach request => exact Nat.le_of_eq (settled kinds)
  | keepalive request => exact Nat.le_of_eq (settled kinds)
  | expire => exact Nat.le_of_eq (settled kinds)
  | announce => exact Nat.le_of_eq (settled kinds)

/-- A run draws at most one identifier for each attach. -/
theorem run_trace {o : Oracle} {s : State} (tidy : Tidy s) (ops : List Op) :
    ∃ labels, Trace (Change o) labels s (run o s ops) ∧
      labels.countP Label.draws ≤ ops.countP Op.attaches := by
  induction ops generalizing s with
  | nil => exact ⟨[], .nil s, Nat.le_refl _⟩
  | cons op rest hypothesis =>
      obtain ⟨first, path, kinds⟩ := step_trace (o := o) op tidy
      obtain ⟨later, tail, drawn⟩ := hypothesis (tidy_trace path tidy)
      refine ⟨first ++ later, path.append tail, ?_⟩
      have budget := kinds.draws
      rw [List.countP_append, List.countP_cons]
      omega

end TensorPool.Driver
