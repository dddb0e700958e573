/-
This file gives runs of a step that can fail, under a guard that each step must meet.
-/

import Mathlib.Data.List.Basic

namespace GuardedRun

variable {σ α : Type}

/-- A run stops with no outcome at the first step that fails or misses the guard. -/
def runWhile (guard : σ → α → Bool) (step : σ → α → Option σ) : σ → List α → Option σ
  | s, [] => some s
  | s, action :: rest => if guard s action then (step s action).bind (runWhile guard step · rest) else none

def run (step : σ → α → Option σ) : σ → List α → Option σ := runWhile (fun _ _ => true) step

variable {guard : σ → α → Bool} {step : σ → α → Option σ} {s s' : σ}

theorem run_append {front back : List α} :
    run step s (front ++ back) = (run step s front).bind (run step · back) := by
  induction front generalizing s with
  | nil => rfl
  | cons action front hypothesis =>
      cases stepped : step s action with
      | none => simp [run, runWhile, stepped]
      | some middle =>
          have rest := @hypothesis middle
          simpa [run, runWhile, stepped] using rest

/-- A property that each guarded step keeps holds at the end of a run. -/
theorem keeps {I : σ → Prop}
    (kept : ∀ s action s', I s → guard s action = true → step s action = some s' → I s')
    {actions : List α} (ran : runWhile guard step s actions = some s') (start : I s) : I s' := by
  induction actions generalizing s with
  | nil =>
      cases ran
      exact start
  | cons action rest hypothesis =>
      rw [runWhile] at ran
      split at ran
      next met =>
        obtain ⟨middle, stepped, later⟩ := Option.bind_eq_some_iff.mp ran
        exact hypothesis later (kept _ _ _ start met stepped)
      · cases ran

/-- A property that each step of a kind keeps holds at the end of a run of such steps. -/
theorem keepsAll {I : σ → Prop} {kind : α → Prop}
    (kept : ∀ s action s', I s → kind action → step s action = some s' → I s') {actions : List α}
    (all : ∀ action ∈ actions, kind action) (ran : run step s actions = some s') (start : I s) : I s' := by
  induction actions generalizing s with
  | nil =>
      cases ran
      exact start
  | cons action rest hypothesis =>
      rw [run, runWhile, if_pos rfl] at ran
      obtain ⟨middle, stepped, later⟩ := Option.bind_eq_some_iff.mp ran
      have first := kept _ _ _ start (all action List.mem_cons_self) stepped
      exact hypothesis (fun other member => all other (List.mem_cons_of_mem _ member)) later first

/-- Where a kept property and the guard hold the other step does what the first one does, so it follows a guarded
run. -/
theorem follows {I : σ → Prop} {other : σ → α → Option σ}
    (kept : ∀ s action s', I s → guard s action = true → step s action = some s' → I s')
    (same : ∀ s action s', I s → guard s action = true → step s action = some s' → other s action = some s')
    {actions : List α} (ran : runWhile guard step s actions = some s') (start : I s) :
      run other s actions = some s' := by
  induction actions generalizing s with
  | nil => exact ran
  | cons action rest hypothesis =>
      rw [runWhile] at ran
      split at ran
      next met =>
        obtain ⟨middle, stepped, later⟩ := Option.bind_eq_some_iff.mp ran
        rw [run, runWhile, if_pos rfl, same s action middle start met stepped]
        exact hypothesis later (kept _ _ _ start met stepped)
      · cases ran

/-- Where a kept property and the guard hold both steps do the same, so a guarded run of one is a run of the other. -/
theorem agrees {I : σ → Prop} {other : σ → α → Option σ}
    (kept : ∀ s action s', I s → guard s action = true → step s action = some s' → I s')
    (same : ∀ s action, I s → guard s action = true → step s action = other s action)
    {actions : List α} (ran : runWhile guard step s actions = some s') (start : I s) :
      run other s actions = some s' := by
  apply follows kept _ ran start
  intro s action s' holds met stepped
  rw [← same s action holds met, stepped]

/-- Where a relation is kept by the quiet steps of one side and by the other steps of both, the quiet steps can
be left out. -/
theorem skips {R : σ → σ → Prop} {loud : α → Bool}
    (quiet : ∀ s t action s', R s t → guard s action = true → loud action = false → step s action = some s' → R s' t)
    (both : ∀ s t action s', R s t → guard s action = true → loud action = true → step s action = some s' →
      ∃ t', step t action = some t' ∧ R s' t')
    {t : σ} {actions : List α} (ran : runWhile guard step s actions = some s') (related : R s t) :
    ∃ t', run step t (actions.filter loud) = some t' ∧ R s' t' := by
  induction actions generalizing s t with
  | nil =>
      cases ran
      exact ⟨t, rfl, related⟩
  | cons action rest hypothesis =>
      rw [runWhile] at ran
      split at ran
      next met =>
        obtain ⟨middle, stepped, later⟩ := Option.bind_eq_some_iff.mp ran
        cases heard : loud action with
        | false =>
            rw [List.filter_cons_of_neg (by rw [heard]; exact Bool.false_ne_true)]
            exact hypothesis later (quiet _ _ _ _ related met heard stepped)
        | true =>
            obtain ⟨other, followed, related'⟩ := both _ _ _ _ related met heard stepped
            obtain ⟨last, ended, kept⟩ := hypothesis later related'
            refine ⟨last, ?_, kept⟩
            rw [List.filter_cons_of_pos heard, run, runWhile, if_pos rfl, followed]
            exact ended
      · cases ran

end GuardedRun
