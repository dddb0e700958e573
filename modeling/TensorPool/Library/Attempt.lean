/-
This file gives the rules for stateful code that can stop with a refusal.
A refused attempt keeps the state that it reached.
-/

import Mathlib.Data.List.Basic
import Mathlib.Order.Defs.Unbundled

abbrev Attempt (σ ε α : Type) := ExceptT ε (StateM σ) α

namespace Attempt

variable {σ ε α β : Type}

/-- The run of an attempt gives its outcome and the state at its end. -/
def exec (action : Attempt σ ε α) (s : σ) : Except ε α × σ := (ExceptT.run action).run s

@[simp] theorem exec_pure (a : α) (s : σ) : exec (pure a : Attempt σ ε α) s = (.ok a, s) := rfl

@[simp] theorem exec_throw (e : ε) (s : σ) : exec (throw e : Attempt σ ε α) s = (.error e, s) := rfl

@[simp] theorem exec_get (s : σ) : exec (get : Attempt σ ε σ) s = (.ok s, s) := rfl

@[simp] theorem exec_set (s t : σ) : exec (set t : Attempt σ ε PUnit) s = (.ok ⟨⟩, t) := rfl

/-- The second part runs where the first succeeded. -/
theorem exec_bind (first : Attempt σ ε α) (next : α → Attempt σ ε β) (s : σ) :
    exec (first >>= next) s = match exec first s with
      | (.ok a, m) => exec (next a) m
      | (.error e, m) => (.error e, m) := by
  rcases outcome : exec first s with ⟨value, m⟩
  have unfolded : exec (first >>= next) s =
      (match exec first s with
        | (value, m) => (ExceptT.bindCont next value).run m) := rfl
  rw [unfolded, outcome]
  cases value <;> rfl

/-- A sequence completes when both of its parts do. -/
theorem exec_bind_ok {first : Attempt σ ε α} {next : α → Attempt σ ε β} {s s' : σ} {b : β} :
    exec (first >>= next) s = (.ok b, s') ↔
      ∃ a m, exec first s = (.ok a, m) ∧ exec (next a) m = (.ok b, s') := by
  rw [exec_bind]
  rcases exec first s with ⟨_ | a, m⟩ <;> simp

/-- A sequence is refused in its first part, or in its second after the first completed. -/
theorem exec_bind_error {first : Attempt σ ε α} {next : α → Attempt σ ε β} {s s' : σ} {e : ε} :
    exec (first >>= next) s = (.error e, s') ↔
      exec first s = (.error e, s') ∨
        ∃ a m, exec first s = (.ok a, m) ∧ exec (next a) m = (.error e, s') := by
  rw [exec_bind]
  rcases exec first s with ⟨_ | a, m⟩ <;> simp

/-- The attempt stops with `e` when the condition holds. -/
def stopIf (bad : Prop) [Decidable bad] (e : ε) : Attempt σ ε Unit :=
  if bad then throw e else pure ()

/-- A check passes when its condition is false, and changes nothing. -/
@[simp] theorem exec_stopIf_ok {bad : Prop} [Decidable bad] {e : ε} {s s' : σ} {u : Unit} :
    exec (stopIf bad e : Attempt σ ε Unit) s = (.ok u, s') ↔ ¬ bad ∧ s' = s := by
  unfold stopIf
  split <;> simp_all [eq_comm]

/-- A check stops when its condition is true, and changes nothing. -/
@[simp] theorem exec_stopIf_error {bad : Prop} [Decidable bad] {e e' : ε} {s s' : σ} :
    exec (stopIf bad e : Attempt σ ε Unit) s = (.error e', s') ↔ bad ∧ e' = e ∧ s' = s := by
  unfold stopIf
  split <;> simp_all [eq_comm]

theorem exec_stopIf (bad : Prop) [Decidable bad] (e : ε) (s : σ) :
    exec (stopIf bad e : Attempt σ ε Unit) s = if bad then (.error e, s) else (.ok (), s) := by
  unfold stopIf
  split <;> rfl

/-- A check either stops the attempt or leaves it to its rest. -/
theorem exec_stopIf_bind (bad : Prop) [Decidable bad] (e : ε) (next : Unit → Attempt σ ε α) (s : σ) :
    exec (stopIf bad e >>= next) s = if bad then (.error e, s) else exec (next ()) s := by
  rw [exec_bind, exec_stopIf]
  by_cases holds : bad
  · rw [if_pos holds, if_pos holds]
  · rw [if_neg holds, if_neg holds]

/-- A write is done before its rest. -/
theorem exec_set_bind (t : σ) (next : PUnit → Attempt σ ε α) (s : σ) :
    exec (set t >>= next) s = exec (next ⟨⟩) t := by
  rw [exec_bind, exec_set]

/-- A read leaves its rest to the state that it read. -/
theorem exec_get_bind (next : σ → Attempt σ ε α) (s : σ) :
    exec (get >>= next) s = exec (next s) s := by
  rw [exec_bind, exec_get]

/-- The run of an attempt relates its start to its end, whatever its outcome is. -/
def Relates (relation : σ → σ → Prop) (action : Attempt σ ε α) (s : σ) : Prop :=
  relation s (exec action s).2

namespace Relates

variable {relation : σ → σ → Prop} {s t : σ}

theorem pure [Std.Refl relation] (a : α) : Relates relation (pure a : Attempt σ ε α) s := Std.Refl.refl s

theorem throw [Std.Refl relation] (e : ε) : Relates relation (throw e : Attempt σ ε α) s := Std.Refl.refl s

theorem set (related : relation s t) : Relates relation (set t : Attempt σ ε PUnit) s := related

/-- A reading relates nothing new. -/
theorem get_bind {next : σ → Attempt σ ε α} (rest : Relates relation (next s) s) :
    Relates relation (get >>= next) s := by
  rwa [Relates, exec_get_bind]

/-- A related writing may come first. -/
theorem set_bind [IsTrans σ relation] {next : PUnit → Attempt σ ε α} (related : relation s t)
    (rest : Relates relation (next ⟨⟩) t) : Relates relation (MonadStateOf.set t >>= next) s := by
  rw [Relates, exec_set_bind]
  exact IsTrans.trans s t _ related rest

/-- A check may come first. -/
theorem stopIf_bind [Std.Refl relation] {bad : Prop} [Decidable bad] {e : ε} {next : Unit → Attempt σ ε α}
    (rest : ¬ bad → Relates relation (next ()) s) : Relates relation (stopIf bad e >>= next) s := by
  rw [Relates, exec_stopIf_bind]
  split
  · exact Std.Refl.refl s
  next holds => exact rest holds

/-- A sequence relates its ends when each of its parts does. -/
theorem bind [IsTrans σ relation] {first : Attempt σ ε α} {next : α → Attempt σ ε β}
    (earlier : Relates relation first s) (later : ∀ a m, Relates relation (next a) m) :
    Relates relation (first >>= next) s := by
  rw [Relates, exec_bind]
  rw [Relates] at earlier
  rcases outcome : exec first s with ⟨_ | a, m⟩
  · rwa [outcome] at earlier
  · rw [outcome] at earlier
    exact IsTrans.trans s m _ earlier (later a m)

end Relates

end Attempt
