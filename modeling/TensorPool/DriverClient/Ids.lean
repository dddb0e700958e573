/-
This file interleaves the threads that draw correlation ids and client ids from their shared counters.
-/

import Mathlib.Algebra.Group.Nat.Defs
import TensorPool.Library.Ticket

namespace TensorPool.DriverClient

/-- A seed is read from the random device, and where that fails it is made of the clock, the process and an
address. -/
structure Entropy where
  random : Option UInt64
  nowNs : UInt64
  pid : UInt64
  address : UInt64
  deriving DecidableEq

/-- This is `tp_driver_seed_u64`. -/
def seedU64 (entropy : Entropy) : UInt64 :=
  let seed := entropy.random.getD 0
  let seed := if seed = 0 then entropy.nowNs ^^^ (entropy.pid <<< 32) ^^^ entropy.address else seed
  let seed := seed &&& 0x7fffffffffffffff
  if seed = 0 then 1 else seed

/-- A counter starts at a value made of the seed, and a call narrows the word that it draws. -/
structure Source (α : Type) where
  start : UInt64 → UInt64
  narrow : UInt64 → α
  value : α → Nat
  modulus : Nat
  exact' : ∀ word, value (narrow word) = word.toNat % modulus
  small : ∀ seed, 0 < seed.toNat → seed.toNat < 2 ^ 63 → 0 < (start seed).toNat ∧ (start seed).toNat < 2 ^ 63

/-- This is what `tp_driver_next_client_id` makes of its seed. -/
def clientStart (seed : UInt64) : UInt64 :=
  let seed32 := (seed ^^^ (seed >>> 32)).toUInt32
  (if seed32 = 0 then 1 else seed32).toUInt64

/-- This is the counter of `tp_driver_next_correlation_id`. -/
def correlationSource : Source UInt64 where
  start seed := seed
  narrow word := word
  value := UInt64.toNat
  modulus := 2 ^ 64
  exact' word := (Nat.mod_eq_of_lt word.toNat_lt).symm
  small _ positive below := ⟨positive, below⟩

/-- This is the counter of `tp_driver_next_client_id`; its `atomic_uint_fast32_t` is taken to have 64 bits. -/
def clientSource : Source UInt32 where
  start := clientStart
  narrow := UInt64.toUInt32
  value := UInt32.toNat
  modulus := 2 ^ 32
  exact' := UInt64.toNat_toUInt32
  small seed _ _ := by
    rw [clientStart]
    generalize (seed ^^^ (seed >>> 32)).toUInt32 = seed32
    rw [UInt32.toNat_toUInt64]
    have below := seed32.toNat_lt
    split
    · decide
    next different =>
      have positive : seed32.toNat ≠ 0 := fun zero => different (UInt32.toNat_inj.mp zero)
      omega

/-- The next step of a call: the exchange of the seed, the first draw, or the second draw after a zero. -/
inductive DrawAt where
  | idle
  | exchange (seed : UInt64)
  | first
  | second
  deriving DecidableEq

structure Draws (α : Type) where
  counter : UInt64 := 0
  threads : Nat → DrawAt := fun _ => .idle
  drawn : List α := []
  ids : List α := []

/-- A thread calls and loads the counter, tries its weak exchange, or adds to the counter. -/
inductive DrawAction where
  | load (thread : Nat) (entropy : Entropy)
  | exchange (thread : Nat) (fails : Bool)
  | fetch (thread : Nat)
  deriving DecidableEq

namespace Draws

variable {α : Type}

def place (s : Draws α) (thread : Nat) (at' : DrawAt) : Draws α :=
  { s with threads := Function.update s.threads thread at' }

/-- A step that does not fit the place of its thread changes nothing. -/
def step (source : Source α) (s : Draws α) : DrawAction → Draws α
  | .load thread entropy =>
      match s.threads thread with
      | .idle =>
          if s.counter = 0 then s.place thread (.exchange (source.start (seedU64 entropy)))
          else s.place thread .first
      | _ => s
  | .exchange thread fails =>
      match s.threads thread with
      | .exchange seed =>
          { s.place thread .first with counter := if !fails && s.counter == 0 then seed else s.counter }
      | _ => s
  | .fetch thread =>
      let current := source.narrow s.counter
      let s' := { s with counter := s.counter + 1, drawn := s.drawn ++ [current] }
      match s.threads thread with
      | .first =>
          if source.value current = 0 then s'.place thread .second
          else { s'.place thread .idle with ids := s.ids ++ [current] }
      | .second => { s'.place thread .idle with ids := s.ids ++ [current] }
      | _ => s

def run (source : Source α) (s : Draws α) (actions : List DrawAction) : Draws α := actions.foldl (step source) s

end Draws

/-- A seed is positive and below half of the range. -/
theorem seedU64_small (entropy : Entropy) : 0 < (seedU64 entropy).toNat ∧ (seedU64 entropy).toNat < 2 ^ 63 := by
  rw [seedU64]
  generalize (if entropy.random.getD 0 = 0 then _ else _ : UInt64) = word
  have below : (word &&& 0x7fffffffffffffff).toNat < 2 ^ 63 := by
    rw [UInt64.toNat_and]
    exact Nat.lt_of_le_of_lt Nat.and_le_right (by decide)
  split
  · decide
  next different =>
    have positive : (word &&& 0x7fffffffffffffff).toNat ≠ 0 := fun zero => different (UInt64.toNat_inj.mp zero)
    omega

/-- The drawn words are consecutive, and an exchange succeeds only before the first draw. -/
structure Draws.Sound {α : Type} (source : Source α) (s : Draws α) : Prop where
  consecutive : ∃ base, base < 2 ^ 63 ∧ s.counter.toNat = base + s.drawn.length ∧
    s.drawn.map source.value = Ticket.draws base source.modulus s.drawn.length
  seeds : ∀ thread seed, s.threads thread = .exchange seed → seed.toNat < 2 ^ 63
  retried : ∀ thread, s.threads thread = .second → 0 ∈ s.drawn.map source.value
  returned : s.ids.Sublist s.drawn
  nonzero : ∀ id ∈ s.ids, source.value id ≠ 0

namespace Draws

variable {α : Type} {source : Source α} {s : Draws α}

/-- So many draws neither wrap the counter nor repeat a value. -/
def Few (source : Source α) (s : Draws α) : Prop := s.drawn.length ≤ source.modulus ∧ s.drawn.length ≤ 2 ^ 63

/-- A new counter is sound. -/
theorem sound_start (source : Source α) : Sound source {} where
  consecutive := ⟨0, by decide, rfl, rfl⟩
  seeds _ _ exchanging := by cases exchanging
  retried _ retries := by cases retries
  returned := List.Sublist.refl _
  nonzero _ present := absurd present List.not_mem_nil

theorem place_thread (s : Draws α) (thread other : Nat) (at' : DrawAt) :
    (s.place thread at').threads other = if other = thread then at' else s.threads other := by
  change Function.update s.threads thread at' other = _
  rw [Function.update_apply]

/-- A thread that moves to no exchange and no second draw keeps the facts. -/
theorem Sound.place (sound : Sound source s) (thread : Nat) {at' : DrawAt}
    (seeds : ∀ seed, at' = .exchange seed → seed.toNat < 2 ^ 63)
    (retried : at' = .second → 0 ∈ s.drawn.map source.value) : Sound source (s.place thread at') := by
  refine ⟨sound.consecutive, ?_, ?_, sound.returned, sound.nonzero⟩
  · intro other seed exchanging
    rw [place_thread] at exchanging
    split at exchanging
    · exact seeds seed exchanging
    · exact sound.seeds other seed exchanging
  · intro other retries
    rw [place_thread] at retries
    split at retries
    · exact retried retries
    · exact sound.retried other retries

/-- A draw takes the next word of the counter. -/
theorem Sound.draws (sound : Sound source s)
    (few : Few source { s with counter := s.counter + 1, drawn := s.drawn ++ [source.narrow s.counter] }) :
    Sound source { s with counter := s.counter + 1, drawn := s.drawn ++ [source.narrow s.counter] } := by
  obtain ⟨base, below, counter, drawn⟩ := sound.consecutive
  have room : s.drawn.length + 1 ≤ 2 ^ 63 := by simpa [Few] using few.2
  refine ⟨⟨base, below, ?_, ?_⟩, sound.seeds, ?_, sound.returned.trans (List.sublist_append_left _ _), sound.nonzero⟩
  · dsimp only
    rw [UInt64.toNat_add, counter, List.length_append, List.length_singleton, ← Nat.add_assoc]
    exact Nat.mod_eq_of_lt (by change base + s.drawn.length + 1 < 2 ^ 64; omega)
  · dsimp only
    rw [List.map_append, List.length_append, List.length_singleton, Ticket.draws_succ, drawn, List.map_singleton,
      source.exact', counter]
  · intro thread retries
    rw [List.map_append]
    exact List.mem_append_left _ (sound.retried thread retries)

/-- Few drawn values are distinct. -/
theorem Sound.distinct (sound : Sound source s) (few : Few source s) : (s.drawn.map source.value).Nodup := by
  obtain ⟨base, -, -, drawn⟩ := sound.consecutive
  rw [drawn]
  exact Ticket.draws_nodup few.1

/-- A returned id is the last draw, and it is not zero. -/
theorem Sound.returns (sound : Sound source s) {ids : List α} {id : α} (drawn : s.drawn = ids ++ [id])
    (earlier : s.ids.Sublist ids) (nonzero : source.value id ≠ 0) (thread : Nat) :
    Sound source { s.place thread .idle with ids := s.ids ++ [id] } := by
  have placed : Sound source (s.place thread .idle) := sound.place thread (fun _ => by rintro ⟨⟩) (by rintro ⟨⟩)
  refine ⟨placed.consecutive, placed.seeds, placed.retried, ?_, ?_⟩
  · change (s.ids ++ [id]).Sublist s.drawn
    rw [drawn]
    exact earlier.append (List.Sublist.refl _)
  · intro other present
    rcases List.mem_append.mp present with old | new
    · exact sound.nonzero other old
    · rw [List.mem_singleton.mp new]
      exact nonzero

/-- The exchange of the seed keeps the counter sound. -/
theorem Sound.exchanges (sound : Sound source s) {thread : Nat} {seed : UInt64}
    (exchanging : s.threads thread = .exchange seed) (fails : Bool) :
    Sound source { s.place thread .first with counter := if !fails && s.counter == 0 then seed else s.counter } := by
  have placed : Sound source (s.place thread .first) := sound.place thread (fun _ => by rintro ⟨⟩) (by rintro ⟨⟩)
  refine ⟨?_, placed.seeds, placed.retried, placed.returned, placed.nonzero⟩
  split
  next first =>
    obtain ⟨base, -, counter, drawn⟩ := sound.consecutive
    have zero : s.counter = 0 := eq_of_beq (Bool.and_eq_true_iff.mp first).2
    rw [zero] at counter
    change 0 = base + s.drawn.length at counter
    have none' : s.drawn.length = 0 := by omega
    refine ⟨seed.toNat, sound.seeds thread seed exchanging, ?_, ?_⟩
    · change seed.toNat = seed.toNat + s.drawn.length
      rw [none', Nat.add_zero]
    · change s.drawn.map source.value = Ticket.draws _ _ s.drawn.length
      rw [List.length_eq_zero_iff.mp none']
      rfl
  · exact sound.consecutive

/-- Each step keeps the counter sound. -/
theorem Sound.step (sound : Sound source s) (action : DrawAction) (few : Few source (step source s action)) :
    Sound source (Draws.step source s action) := by
  cases action with
  | load thread entropy =>
      rw [Draws.step]
      split
      · split
        · refine sound.place thread ?_ (by rintro ⟨⟩)
          intro seed same
          obtain rfl := DrawAt.exchange.inj same
          obtain ⟨positive, below⟩ := seedU64_small entropy
          exact (source.small _ positive below).2
        · exact sound.place thread (fun _ => by rintro ⟨⟩) (by rintro ⟨⟩)
      · exact sound
  | exchange thread fails =>
      rw [Draws.step]
      split
      next seed exchanging => exact sound.exchanges exchanging fails
      · exact sound
  | fetch thread =>
      rw [Draws.step] at few ⊢
      dsimp only at few ⊢
      cases at' : s.threads thread with
      | idle => exact sound
      | exchange seed => exact sound
      | first =>
          rw [at'] at few
          dsimp only at few ⊢
          split at few
          next zero =>
            rw [if_pos zero]
            refine (sound.draws few).place thread (fun _ => by rintro ⟨⟩) fun _ => ?_
            rw [List.map_append, List.map_singleton, zero]
            exact List.mem_append_right _ List.mem_cons_self
          next nonzero =>
            rw [if_neg nonzero]
            exact (sound.draws few).returns rfl sound.returned nonzero thread
      | second =>
          rw [at'] at few
          have drawn := sound.draws few
          have distinct := drawn.distinct few
          refine drawn.returns rfl sound.returned ?_ thread
          intro zero
          rw [List.map_append, List.map_singleton, zero, List.nodup_append'] at distinct
          exact distinct.2.2 (sound.retried thread at') (List.mem_singleton.mpr rfl)

/-- A step forgets no drawn value. -/
theorem drawn_step (source : Source α) (s : Draws α) (action : DrawAction) :
    s.drawn.length ≤ (step source s action).drawn.length := by
  cases action with
  | load thread entropy =>
      rw [step]
      split
      · split <;> exact Nat.le_refl _
      · exact Nat.le_refl _
  | exchange thread fails =>
      rw [step]
      split <;> exact Nat.le_refl _
  | fetch thread =>
      have longer : s.drawn.length ≤ (s.drawn ++ [source.narrow s.counter]).length := by
        rw [List.length_append]
        exact Nat.le_add_right _ _
      rw [step]
      dsimp only
      split
      · split <;> exact longer
      · exact longer
      · exact Nat.le_refl _

/-- A run forgets no drawn value. -/
theorem drawn_run (source : Source α) (s : Draws α) (actions : List DrawAction) :
    s.drawn.length ≤ (run source s actions).drawn.length := by
  induction actions generalizing s with
  | nil => exact Nat.le_refl _
  | cons action rest hypothesis => exact Nat.le_trans (drawn_step source s action) (hypothesis _)

/-- A run keeps the counter sound. -/
theorem Sound.run (sound : Sound source s) (actions : List DrawAction) (few : Few source (run source s actions)) :
    Sound source (Draws.run source s actions) := by
  induction actions generalizing s with
  | nil => exact sound
  | cons action rest hypothesis =>
      have shorter := drawn_run source (Draws.step source s action) rest
      exact hypothesis (sound.step action ⟨Nat.le_trans shorter few.1, Nat.le_trans shorter few.2⟩) few

/-- In every interleaving the returned ids are distinct and not zero, until the counter was advanced too often. -/
theorem ids_distinct (source : Source α) (actions : List DrawAction)
    (few : Few source (Draws.run source {} actions)) :
    (Draws.run source {} actions).ids.Nodup ∧ ∀ id ∈ (Draws.run source {} actions).ids, source.value id ≠ 0 := by
  have sound := (sound_start source).run actions few
  have distinct : (Draws.run source {} actions).drawn.Nodup := List.Nodup.of_map source.value (sound.distinct few)
  exact ⟨distinct.sublist sound.returned, sound.nonzero⟩

end Draws

/-- Different words are different numbers. -/
theorem toInt64_injective {one other : UInt64} (same : one.toInt64 = other.toInt64) : one = other := by
  simpa using congrArg Int64.toUInt64 same

/-- The signed correlation ids and the client ids of every interleaving are distinct and not zero. -/
theorem nextIds_distinct (correlations clients : List DrawAction)
    (few : (Draws.run correlationSource {} correlations).drawn.length ≤ 2 ^ 63)
    (few' : (Draws.run clientSource {} clients).drawn.length ≤ 2 ^ 32) :
    ((Draws.run correlationSource {} correlations).ids.map UInt64.toInt64).Nodup ∧
      0 ∉ (Draws.run correlationSource {} correlations).ids.map UInt64.toInt64 ∧
      (Draws.run clientSource {} clients).ids.Nodup ∧ 0 ∉ (Draws.run clientSource {} clients).ids := by
  obtain ⟨distinct, nonzero⟩ := Draws.ids_distinct correlationSource correlations
    ⟨Nat.le_trans few (by decide), few⟩
  obtain ⟨distinct', nonzero'⟩ := Draws.ids_distinct clientSource clients ⟨few', Nat.le_trans few' (by decide)⟩
  refine ⟨?_, ?_, distinct', fun zero => nonzero' 0 zero rfl⟩
  · exact distinct.map fun one other same => toInt64_injective same
  · intro zero
    obtain ⟨id, present, same⟩ := List.mem_map.mp zero
    apply nonzero id present
    rw [toInt64_injective (same.trans (show (0 : Int64) = (0 : UInt64).toInt64 from rfl))]
    rfl

/-- Two threads race for the seed, the exchange of the first one fails without a reason, and it draws a zero. -/
def racingDraws : List DrawAction :=
  [.load 1 ⟨some 8589934597, 0, 0, 0⟩, .load 2 ⟨some 6, 0, 0, 0⟩, .exchange 1 true, .fetch 1, .exchange 2 false,
    .fetch 2, .fetch 1]

theorem racingDraws_distinct : (Draws.run clientSource {} racingDraws).ids = [1, 2] ∧
    ((Draws.run correlationSource {} racingDraws).ids.map UInt64.toInt64).Nodup ∧
      0 ∉ (Draws.run correlationSource {} racingDraws).ids.map UInt64.toInt64 ∧
      (Draws.run clientSource {} racingDraws).ids.Nodup ∧ 0 ∉ (Draws.run clientSource {} racingDraws).ids :=
  ⟨by decide, nextIds_distinct racingDraws racingDraws (by decide) (by decide)⟩

end TensorPool.DriverClient
