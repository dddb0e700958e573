/-
This file gives labelled paths of a step relation.
-/

import Mathlib.Data.List.Basic

/-- The path takes one step for each label, in order. -/
inductive Trace {lab σ : Type} (R : lab → σ → σ → Prop) : List lab → σ → σ → Prop
  | nil (s : σ) : Trace R [] s s
  | snoc {labels : List lab} {s m s' : σ} {label : lab} (path : Trace R labels s m) (last : R label m s') :
      Trace R (labels ++ [label]) s s'

namespace Trace

variable {lab σ : Type} {R : lab → σ → σ → Prop} {labels labels' : List lab} {s m s' : σ}

theorem single {label : lab} (step : R label s s') : Trace R [label] s s' := (nil s).snoc step

theorem append (first : Trace R labels s m) (second : Trace R labels' m s') :
    Trace R (labels ++ labels') s s' := by
  induction second with
  | nil => simpa using first
  | snoc _ last hypothesis =>
      rw [← List.append_assoc]
      exact (hypothesis first).snoc last

/-- A property of the labels so far and the state holds at the end of a path when each step keeps it. -/
theorem invariant {I : List lab → σ → Prop}
    (keeps : ∀ past s label s', I past s → R label s s' → I (past ++ [label]) s')
    (path : Trace R labels s s') (past : List lab) (start : I past s) : I (past ++ labels) s' := by
  induction path with
  | nil => simpa using start
  | snoc _ last hypothesis =>
      rw [← List.append_assoc]
      exact keeps _ _ _ _ (hypothesis start) last

/-- A property of states alone needs no labels. -/
theorem keeps {I : σ → Prop} (step : ∀ s label s', I s → R label s s' → I s')
    (path : Trace R labels s s') (start : I s) : I s' :=
  path.invariant (I := fun _ s => I s) (fun _ s label s' => step s label s') [] start

/-- A reflexive and transitive relation of states holds along a path when it holds at each step. -/
theorem relates {Q : σ → σ → Prop} (refl : ∀ s, Q s s) (trans : ∀ {a b c}, Q a b → Q b c → Q a c)
    (step : ∀ s label s', R label s s' → Q s s') (path : Trace R labels s s') : Q s s' := by
  induction path with
  | nil s => exact refl s
  | snoc _ last hypothesis => exact trans hypothesis (step _ _ _ last)

end Trace
