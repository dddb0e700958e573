/-
This file shows that the ids of generators with distinct nodes are unique and rise.
-/

import Mathlib.Data.List.Induction
import TensorPool.Library.PackedWord
import TensorPool.TraceId.Generator

namespace TensorPool.TraceId

open PackedWord

/-- The fields of an accepted generator as numbers. -/
structure Accepted (generator : Generator) (nodeBits sequenceBits node : Nat) : Prop where
  bits : nodeBits + sequenceBits ≤ 22
  shift : generator.nodeIdAndSequenceBits.toUInt64.toNat % 64 = nodeBits + sequenceBits
  maxSequence : generator.maxSequence.toNat = 2 ^ sequenceBits - 1
  nodeFits : node < 2 ^ nodeBits
  node : generator.nodeBits.toNat = 2 ^ sequenceBits * node

section Accepted

variable {generator : Generator} {nodeBits sequenceBits node : Nat}

theorem one_shift {bits : UInt8} (small : bits.toNat ≤ 22) :
    (((1 : UInt64) <<< bits.toUInt64) - 1).toNat = 2 ^ bits.toNat - 1 := by
  have power : ((1 : UInt64) <<< bits.toUInt64).toNat = 2 ^ bits.toNat := by
    have fits : 2 ^ bits.toNat < 2 ^ 64 := Nat.pow_lt_pow_right (by decide) (by omega)
    rw [UInt64.toNat_shiftLeft, UInt8.toNat_toUInt64, Nat.mod_eq_of_lt (by omega : bits.toNat < 64),
      UInt64.toNat_one, Nat.one_shiftLeft, Nat.mod_eq_of_lt fits]
  have positive : (1 : UInt64) ≤ (1 : UInt64) <<< bits.toUInt64 := by
    rw [UInt64.le_iff_toNat_le, power]
    exact Nat.one_le_two_pow
  rw [UInt64.toNat_sub_of_le _ _ positive, power, UInt64.toNat_one]

/-- An initialised generator holds its fields without a loss. -/
theorem generatorInit_accepted {nodeIdBits sequenceIdBits : UInt8} {nodeId offset realtimeMs nowMs : UInt64}
    (small : nodeIdBits.toNat + sequenceIdBits.toNat ≤ 22)
    (made : generatorInit nodeIdBits sequenceIdBits nodeId offset realtimeMs nowMs = .ok generator) :
    Accepted generator nodeIdBits.toNat sequenceIdBits.toNat nodeId.toNat ∧
      generator.timestampOffsetMs = offset := by
  unfold generatorInit at made
  dsimp only at made
  split at made
  · cases made
  · split at made
    · cases made
    next inRange =>
      split at made
      · cases made
      · split at made
        · cases made
        · cases made
          have bound : nodeId.toNat < 2 ^ nodeIdBits.toNat := by
            have range := UInt64.not_lt.mp inRange
            rw [UInt64.le_iff_toNat_le, one_shift (by omega)] at range
            have positive := Nat.two_pow_pos nodeIdBits.toNat
            omega
          refine ⟨⟨small, ?_, one_shift (by omega), bound, ?_⟩, rfl⟩
          · rw [UInt8.toNat_toUInt64, UInt8.toNat_add, Nat.mod_eq_of_lt (by omega : _ < 2 ^ 8),
              Nat.mod_eq_of_lt (by omega)]
          · have fits : 2 ^ sequenceIdBits.toNat * nodeId.toNat < 2 ^ 64 := by
              have inner := middle_lt (Nat.two_pow_pos sequenceIdBits.toNat) bound
              have outer : 2 ^ (nodeIdBits.toNat + sequenceIdBits.toNat) ≤ 2 ^ 64 :=
                Nat.pow_le_pow_right (by decide) (by omega)
              omega
            rw [UInt64.toNat_shiftLeft, UInt8.toNat_toUInt64, Nat.mod_eq_of_lt (by omega : _ < 64),
              Nat.shiftLeft_eq, Nat.mul_comm, Nat.mod_eq_of_lt fits]

/-- The word of a generator has no node. -/
def Plain (nodeBits sequenceBits : Nat) (word : UInt64) : Prop :=
  word.toNat % 2 ^ (nodeBits + sequenceBits) < 2 ^ sequenceBits

/-- The next word is greater and has no node either. -/
theorem nextWord_rises (accepted : Accepted generator nodeBits sequenceBits node) {old timestampMs new : UInt64}
    (plain : Plain nodeBits sequenceBits old)
    (fits : timestampMs.toNat * 2 ^ (nodeBits + sequenceBits) < 2 ^ 64)
    (next : nextWord generator old timestampMs = some new) :
    old.toNat < new.toNat ∧ Plain nodeBits sequenceBits new := by
  have size := Nat.two_pow_pos (nodeBits + sequenceBits)
  unfold nextWord at next
  dsimp only at next
  split at next
  next later =>
    cases next
    rw [gt_iff_lt, UInt64.lt_iff_toNat_lt, UInt64.toNat_shiftRight, accepted.shift, Nat.shiftRight_eq_div_pow]
      at later
    have value : (timestampMs <<< generator.nodeIdAndSequenceBits.toUInt64).toNat =
        timestampMs.toNat * 2 ^ (nodeBits + sequenceBits) := by
      rw [UInt64.toNat_shiftLeft, accepted.shift, Nat.shiftLeft_eq, Nat.mod_eq_of_lt fits]
    rw [Plain, value]
    refine ⟨(Nat.div_lt_iff_lt_mul size).mp later, ?_⟩
    rw [Nat.mul_mod_left]
    exact Nat.two_pow_pos _
  · split at next
    next room =>
      cases next
      have divides : 2 ^ sequenceBits ∣ 2 ^ (nodeBits + sequenceBits) := Nat.pow_dvd_pow 2 (Nat.le_add_left ..)
      have wide : 2 ^ sequenceBits ∣ 2 ^ 64 := Nat.pow_dvd_pow 2 (by have := accepted.bits; omega)
      have low : old.toNat % 2 ^ sequenceBits = old.toNat % 2 ^ (nodeBits + sequenceBits) := by
        rw [← Nat.mod_mod_of_dvd old.toNat divides, Nat.mod_eq_of_lt plain]
      have mask := Nat.and_two_pow_sub_one_eq_mod old.toNat sequenceBits
      rw [UInt64.lt_iff_toNat_lt, UInt64.toNat_and, accepted.maxSequence, mask, low] at room
      have stays : old.toNat + 1 < 2 ^ 64 := by
        have bound := old.toNat_lt
        have last : (2 ^ 64 - 1) % 2 ^ sequenceBits = 2 ^ sequenceBits - 1 := by
          obtain ⟨count, total⟩ := wide
          have positive := Nat.two_pow_pos sequenceBits
          cases count with
          | zero => omega
          | succ count =>
              have split : 2 ^ 64 - 1 = 2 ^ sequenceBits * count + (2 ^ sequenceBits - 1) := by
                rw [total, Nat.mul_succ]
                omega
              rw [split, Nat.mul_add_mod, Nat.mod_eq_of_lt (by omega)]
        by_contra full
        have top : old.toNat = 2 ^ 64 - 1 := by omega
        rw [← low, top, last] at room
        omega
      have value : (old + 1).toNat = old.toNat + 1 := by
        rw [UInt64.toNat_add, UInt64.toNat_one, Nat.mod_eq_of_lt stays]
      rw [Plain, value]
      refine ⟨Nat.lt_succ_self _, ?_⟩
      have smaller : 2 ^ sequenceBits ≤ 2 ^ (nodeBits + sequenceBits) := Nat.le_of_dvd size divides
      have parts := Nat.div_add_mod old.toNat (2 ^ (nodeBits + sequenceBits))
      have grouped : old.toNat + 1 = 2 ^ (nodeBits + sequenceBits) * (old.toNat / 2 ^ (nodeBits + sequenceBits)) +
          (old.toNat % 2 ^ (nodeBits + sequenceBits) + 1) := by
        rw [← Nat.add_assoc, parts]
      rw [grouped, Nat.mul_add_mod, Nat.mod_eq_of_lt (by omega)]
      omega
    · cases next

/-- An id is its word with the node between the two fields. -/
theorem id_packs (accepted : Accepted generator nodeBits sequenceBits node) {word : UInt64}
    (plain : Plain nodeBits sequenceBits word) :
    (word ||| generator.nodeBits).toNat = word.toNat + 2 ^ sequenceBits * node ∧
      (word ||| generator.nodeBits).toNat / 2 ^ sequenceBits % 2 ^ nodeBits = node := by
  have parts : word.toNat = pack nodeBits sequenceBits (word.toNat / 2 ^ (nodeBits + sequenceBits)) 0
      (word.toNat % 2 ^ (nodeBits + sequenceBits)) := by
    rw [pack, Nat.mul_zero, Nat.add_zero, Nat.div_add_mod]
  have joined := @or_middle _ _ (word.toNat / 2 ^ (nodeBits + sequenceBits)) _ _ plain accepted.nodeFits
  rw [← parts] at joined
  rw [UInt64.toNat_or, accepted.node, joined]
  refine ⟨?_, middle_field plain accepted.nodeFits⟩
  rw [pack, Nat.add_right_comm, Nat.div_add_mod]

end Accepted

/-- The clock of a generator does not run before its offset, and its reading fits beside the other fields. -/
def ValidClock (generator : Generator) (bits : Nat) : Action → Prop
  | .clock _ clockMs => generator.timestampOffsetMs ≤ clockMs ∧
      (clockMs - generator.timestampOffsetMs).toNat * 2 ^ bits < 2 ^ 64
  | _ => True

instance (generator : Generator) (bits : Nat) (action : Action) : Decidable (ValidClock generator bits action) :=
  match action with
  | .clock _ _ => inferInstanceAs (Decidable (_ ∧ _))
  | .call _ => inferInstanceAs (Decidable True)
  | .load _ => inferInstanceAs (Decidable True)
  | .exchange _ _ => inferInstanceAs (Decidable True)

/-- The returned ids rise, belong to the node, and stay at or below the id of the word. -/
structure Sound (nodeBits sequenceBits node : Nat) (shared : Shared) : Prop where
  plain : Plain nodeBits sequenceBits shared.timestampSequence
  fits : ∀ thread old timestampMs, shared.threads thread = .timed old timestampMs →
    timestampMs.toNat * 2 ^ (nodeBits + sequenceBits) < 2 ^ 64
  rising : shared.ids.Pairwise (· < ·)
  below : ∀ id ∈ shared.ids, id.toNat ≤ shared.timestampSequence.toNat + 2 ^ sequenceBits * node
  nodes : ∀ id ∈ shared.ids, id.toNat / 2 ^ sequenceBits % 2 ^ nodeBits = node
  nonzero : ∀ id ∈ shared.ids, id ≠ 0

namespace Sound

variable {generator : Generator} {nodeBits sequenceBits node : Nat} {shared : Shared}

theorem start (nodeBits sequenceBits node : Nat) : Sound nodeBits sequenceBits node {} where
  plain := by
    rw [Plain, UInt64.toNat_zero, Nat.zero_mod]
    exact Nat.two_pow_pos _
  fits := fun _ _ _ absent => by cases absent
  rising := List.Pairwise.nil
  below := fun _ absent => absurd absent List.not_mem_nil
  nodes := fun _ absent => absurd absent List.not_mem_nil
  nonzero := fun _ absent => absurd absent List.not_mem_nil

theorem place (sound : Sound nodeBits sequenceBits node shared) (thread : Nat) {at' : NextAt}
    (fits : ∀ old timestampMs, at' = .timed old timestampMs →
      timestampMs.toNat * 2 ^ (nodeBits + sequenceBits) < 2 ^ 64) :
    Sound nodeBits sequenceBits node (shared.place thread at') := by
  obtain ⟨plain, fits', rising, below, nodes, nonzero⟩ := sound
  refine ⟨plain, fun other old timestampMs timed => ?_, rising, below, nodes, nonzero⟩
  change Function.update shared.threads thread at' other = _ at timed
  by_cases same : other = thread
  · subst same
    rw [Function.update_self] at timed
    exact fits old timestampMs timed
  · rw [Function.update_of_ne same] at timed
    exact fits' other old timestampMs timed

/-- A successful exchange returns an id above all earlier ones. -/
theorem exchange (accepted : Accepted generator nodeBits sequenceBits node)
    (sound : Sound nodeBits sequenceBits node shared) {new : UInt64}
    (rises : shared.timestampSequence.toNat < new.toNat) (plain : Plain nodeBits sequenceBits new) :
    Sound nodeBits sequenceBits node
      { shared with timestampSequence := new, ids := shared.ids ++ [new ||| generator.nodeBits] } := by
  obtain ⟨value, own⟩ := id_packs accepted plain
  refine ⟨plain, sound.fits, ?_, ?_, ?_, ?_⟩
  · refine List.pairwise_append.mpr ⟨sound.rising, List.pairwise_singleton _ _, ?_⟩
    intro early present late latest
    cases List.mem_singleton.mp latest
    rw [UInt64.lt_iff_toNat_lt, value]
    have bound := sound.below early present
    omega
  · intro id present
    rcases List.mem_append.mp present with early | late
    · have bound := sound.below id early
      change id.toNat ≤ new.toNat + _
      omega
    · cases List.mem_singleton.mp late
      exact value.le
  · intro id present
    rcases List.mem_append.mp present with early | late
    · exact sound.nodes id early
    · cases List.mem_singleton.mp late
      exact own
  · intro id present
    rcases List.mem_append.mp present with early | late
    · exact sound.nonzero id early
    · cases List.mem_singleton.mp late
      intro zero
      rw [zero, UInt64.toNat_zero] at value
      omega

/-- A step of a call keeps the ids sound and returns at most one new id. -/
theorem step (accepted : Accepted generator nodeBits sequenceBits node)
    (sound : Sound nodeBits sequenceBits node shared) {action : Action}
    (clock : ValidClock generator (nodeBits + sequenceBits) action) :
    Sound nodeBits sequenceBits node (shared.step generator action) := by
  cases action with
  | call thread =>
      rw [Shared.step]
      split
      · exact sound.place thread nofun
      · exact sound
  | load thread =>
      rw [Shared.step]
      split
      · exact sound.place thread nofun
      · exact sound
  | clock thread clockMs =>
      rw [Shared.step]
      split
      · refine sound.place thread fun old timestampMs timed => ?_
        cases timed
        exact clock.2
      · exact sound
  | exchange thread fails =>
      rw [Shared.step]
      split
      next old timestampMs timed =>
        split
        · exact sound.place thread nofun
        next new next =>
          split
          next success =>
            rw [Bool.and_eq_true, beq_iff_eq] at success
            rw [← success.2] at next
            obtain ⟨rises, plain⟩ := nextWord_rises accepted sound.plain
              (sound.fits thread old timestampMs timed) next
            have idle : Sound nodeBits sequenceBits node (shared.place thread .idle) := sound.place thread nofun
            exact exchange accepted idle rises plain
          · exact sound.place thread nofun
      · exact sound

end Sound

/-- A step adds at most one id at the end. -/
theorem step_ids (generator : Generator) (shared : Shared) (action : Action) :
    ∃ added, (shared.step generator action).ids = shared.ids ++ added ∧ added.length ≤ 1 := by
  have keeps : ∃ added, shared.ids = shared.ids ++ added ∧ added.length ≤ 1 :=
    ⟨[], (List.append_nil _).symm, Nat.zero_le _⟩
  cases action with
  | call thread =>
      rw [Shared.step]
      split <;> exact keeps
  | load thread =>
      rw [Shared.step]
      split <;> exact keeps
  | clock thread clockMs =>
      rw [Shared.step]
      split <;> exact keeps
  | exchange thread fails =>
      rw [Shared.step]
      split
      · split
        · exact keeps
        · split
          · exact ⟨_, rfl, Nat.le_refl _⟩
          · exact keeps
      · exact keeps

section Run

variable {ι : Type} [DecidableEq ι] {generators : ι → Generator} {nodeBits sequenceBits : Nat} {node : ι → Nat}

/-- Every generator is sound, and the log holds its ids in their order and no id twice. -/
structure Logged (nodeBits sequenceBits : Nat) (node : ι → Nat) (state : Generators ι) : Prop where
  sound : ∀ which, Sound nodeBits sequenceBits (node which) (state.shared which)
  own : ∀ which, (state.log.filter fun entry => entry.1 = which).map Prod.snd = (state.shared which).ids
  nodup : (state.log.map Prod.snd).Nodup

theorem Logged.mem {state : Generators ι} (logged : Logged nodeBits sequenceBits node state) {which : ι} {id : UInt64}
    (present : (which, id) ∈ state.log) : id ∈ (state.shared which).ids := by
  rw [← logged.own which]
  exact List.mem_map_of_mem (List.mem_filter.mpr ⟨present, decide_eq_true rfl⟩)

theorem tagged_own (which : ι) (ids : List UInt64) :
    ((ids.map fun id => (which, id)).filter fun entry => entry.1 = which).map Prod.snd = ids := by
  induction ids with
  | nil => rfl
  | cons id rest hypothesis =>
      rw [List.map_cons, List.filter_cons, if_pos (decide_eq_true rfl), List.map_cons, hypothesis]

theorem tagged_other {which other : ι} (apart : other ≠ which) (ids : List UInt64) :
    (ids.map fun id => (which, id)).filter (fun entry => entry.1 = other) = [] := by
  refine List.filter_eq_nil_iff.mpr fun entry present => ?_
  obtain ⟨id, -, rfl⟩ := List.mem_map.mp present
  rw [decide_eq_true_eq]
  exact apart.symm

theorem Logged.step (accepted : ∀ which, Accepted (generators which) nodeBits sequenceBits (node which))
    (distinct : Function.Injective node) {state : Generators ι} (logged : Logged nodeBits sequenceBits node state)
    {which : ι} {action : Action} (clock : ValidClock (generators which) (nodeBits + sequenceBits) action) :
    Logged nodeBits sequenceBits node (state.step generators which action) := by
  obtain ⟨added, ids, short⟩ := step_ids (generators which) (state.shared which) action
  have after := (logged.sound which).step (accepted which) clock
  have fresh : ((state.shared which).step (generators which) action).ids.drop (state.shared which).ids.length =
    added := by
    rw [ids, List.drop_left]
  have log : (state.step generators which action).log = state.log ++ added.map fun id => (which, id) := by
    rw [Generators.step, ← fresh]
  refine ⟨fun other => ?_, fun other => ?_, ?_⟩
  · change Sound _ _ _ (Function.update state.shared which _ other)
    by_cases same : other = which
    · subst same
      rw [Function.update_self]
      exact after
    · rw [Function.update_of_ne same]
      exact logged.sound other
  · change _ = (Function.update state.shared which _ other).ids
    rw [log, List.filter_append, List.map_append, logged.own]
    by_cases same : other = which
    · subst same
      rw [Function.update_self, ids, tagged_own]
    · rw [Function.update_of_ne same, tagged_other same, List.map_nil, List.append_nil]
  · have values : (added.map fun id => (which, id)).map Prod.snd = added := by
      rw [List.map_map]
      exact List.map_id added
    rw [log, List.map_append, values, List.nodup_append]
    have rising := after.rising
    rw [ids, List.pairwise_append] at rising
    refine ⟨logged.nodup, rising.2.1.imp UInt64.ne_of_lt, fun early present late present' => ?_⟩
    obtain ⟨⟨other, id⟩, logged', rfl⟩ := List.mem_map.mp present
    have earlier := logged.mem logged'
    by_cases same : other = which
    · subst same
      exact UInt64.ne_of_lt (rising.2.2 id earlier late present')
    · intro alike
      have first := (logged.sound other).nodes id earlier
      have second := after.nodes late (ids ▸ List.mem_append_right _ present')
      rw [← alike] at second
      exact same (distinct (first.symm.trans second))

theorem logged_run (accepted : ∀ which, Accepted (generators which) nodeBits sequenceBits (node which))
    (distinct : Function.Injective node) {actions : List (ι × Action)}
    (clocks : ∀ labelled ∈ actions, ValidClock (generators labelled.1) (nodeBits + sequenceBits) labelled.2) :
    Logged nodeBits sequenceBits node (Generators.run generators {} actions) := by
  induction actions using List.reverseRecOn with
  | nil => exact ⟨fun _ => Sound.start _ _ _, fun _ => rfl, List.nodup_nil⟩
  | append_singleton actions labelled hypothesis =>
      have before := hypothesis fun earlier present => clocks earlier (List.mem_append_left _ present)
      rw [Generators.run, List.foldl_append]
      exact before.step accepted distinct (clocks labelled (List.mem_append_right _ List.mem_cons_self))

/-- No two calls of any generators return one id, the ids of each generator rise, and no id is zero. -/
theorem ids_unique {nodeIdBits sequenceIdBits : UInt8} (bits : nodeIdBits.toNat + sequenceIdBits.toNat ≤ 22)
    {nodeId offset realtimeMs nowMs : ι → UInt64}
    (made : ∀ which, generatorInit nodeIdBits sequenceIdBits (nodeId which) (offset which) (realtimeMs which)
      (nowMs which) = .ok (generators which))
    (distinct : Function.Injective nodeId) {actions : List (ι × Action)}
    (clocks : ∀ labelled ∈ actions,
      ValidClock (generators labelled.1) (nodeIdBits.toNat + sequenceIdBits.toNat) labelled.2) :
    ((Generators.run generators {} actions).log.map Prod.snd).Nodup ∧
      (∀ which, (((Generators.run generators {} actions).log.filter fun entry => entry.1 = which).map
        Prod.snd).Pairwise (· < ·)) ∧
        ∀ entry ∈ (Generators.run generators {} actions).log, entry.2 ≠ 0 := by
  have accepted := fun which => (generatorInit_accepted bits (made which)).1
  have apart : Function.Injective fun which => (nodeId which).toNat :=
    fun left right same => distinct (UInt64.toNat_inj.mp same)
  have logged := logged_run accepted apart clocks
  refine ⟨logged.nodup, fun which => ?_, fun entry present => ?_⟩
  · rw [logged.own which]
    exact (logged.sound which).rising
  · exact (logged.sound entry.1).nonzero entry.2 (logged.mem present)

end Run

def pairNode (which : Bool) : UInt64 := if which then 1 else 0

/-- Two generators with one bit for the node and one for the sequence. -/
def pair (which : Bool) : Generator := ⟨1, 1, 2, 1, 1, pairNode which <<< 1, 0⟩

/-- Two threads of one generator race for its word, and the other generator uses the same time. -/
def pairRun : List (Bool × Action) :=
  [(true, .call 0), (true, .call 1), (true, .load 0), (true, .load 1), (true, .clock 0 5), (true, .clock 1 5),
    (true, .exchange 0 false), (true, .exchange 1 false), (true, .load 1), (true, .clock 1 4),
    (true, .exchange 1 false), (false, .call 0), (false, .load 0), (false, .clock 0 5), (false, .exchange 0 false)]

example : (Generators.run pair {} pairRun).log = [(true, 22), (true, 23), (false, 20)] := by decide +kernel

theorem ids_unique_pair : ((Generators.run pair {} pairRun).log.map Prod.snd).Nodup := by
  have made : ∀ which, generatorInit 1 1 (pairNode which) 0 0 0 = .ok (pair which) := by
    intro which
    cases which <;> rfl
  have distinct : Function.Injective pairNode := by
    intro left right same
    cases left <;> cases right <;> first | rfl | exact absurd same (by decide)
  have clocks : ∀ labelled ∈ pairRun,
      ValidClock (pair labelled.1) ((1 : UInt8).toNat + (1 : UInt8).toNat) labelled.2 := by decide
  exact (ids_unique (by decide) made distinct clocks).1

end TensorPool.TraceId
