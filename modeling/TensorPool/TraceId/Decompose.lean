/-
This file shows that the ids of a generator give back the node, the sequence and the time that they were made of.
-/

import TensorPool.TraceId.Unique

namespace TensorPool.TraceId

open PackedWord

/-- This is `tp_trace_id_extract_timestamp`. -/
def extractTimestamp (generator : Generator) (traceId : UInt64) : UInt64 :=
  traceId >>> generator.nodeIdAndSequenceBits.toUInt64

/-- This is `tp_trace_id_extract_node_id`. -/
def extractNodeId (generator : Generator) (traceId : UInt64) : UInt64 :=
  (traceId >>> generator.sequenceBits.toUInt64) &&& generator.maxNodeId

/-- This is `tp_trace_id_extract_sequence`. -/
def extractSequence (generator : Generator) (traceId : UInt64) : UInt64 := traceId &&& generator.maxSequence

/-- An id with the time and the sequence that its call has used. -/
structure Issued where
  id : UInt64
  timestampMs : UInt64
  sequence : UInt64
  deriving DecidableEq, Repr

/-- A new time starts its sequence, and an old one continues it. -/
def issue (generator : Generator) (old timestampMs new : UInt64) : Issued :=
  let oldTimestampMs := old >>> generator.nodeIdAndSequenceBits.toUInt64
  if timestampMs > oldTimestampMs then ⟨new ||| generator.nodeBits, timestampMs, 0⟩
  else ⟨new ||| generator.nodeBits, oldTimestampMs, (old &&& generator.maxSequence) + 1⟩

namespace Shared

/-- What a step issues: the id of a successful exchange. -/
def issues (generator : Generator) (shared : Shared) : Action → List Issued
  | .exchange thread fails =>
      match shared.threads thread with
      | .timed old timestampMs =>
          match nextWord generator old timestampMs with
          | none => []
          | some new =>
              if !fails && shared.timestampSequence == old then [issue generator old timestampMs new] else []
      | _ => []
  | _ => []

/-- What the calls of a run issue. -/
def issued (generator : Generator) : Shared → List Action → List Issued
  | _, [] => []
  | shared, action :: rest => shared.issues generator action ++ issued generator (shared.step generator action) rest

end Shared

/-- The shifted time of an id is not cut. -/
def Issued.Fits (generator : Generator) (issued : Issued) : Prop :=
  issued.timestampMs.toNat * 2 ^ generator.nodeIdAndSequenceBits.toNat < 2 ^ 64

/-- The fields of an id are those that it was made of. -/
structure Issued.Decomposes (generator : Generator) (nodeId : UInt64) (issued : Issued) : Prop where
  node : extractNodeId generator issued.id = nodeId
  sequence : extractSequence generator issued.id = issued.sequence
  timestamp : extractTimestamp generator issued.id = issued.timestampMs

/-- The fields fit beside each other, the ids of every run decompose, and the fields determine the id. -/
structure Decomposable (generator : Generator) (nodeId : UInt64) : Prop where
  bits : generator.nodeIdBits.toNat + generator.sequenceBits.toNat ≤ 22
  decomposes : ∀ actions, ∀ issued ∈ Shared.issued generator {} actions, issued.Fits generator →
    issued.Decomposes generator nodeId
  determined : ∀ one other, extractNodeId generator one = extractNodeId generator other →
    extractSequence generator one = extractSequence generator other →
    extractTimestamp generator one = extractTimestamp generator other → one = other

theorem issue_id (generator : Generator) (old timestampMs new : UInt64) :
    (issue generator old timestampMs new).id = new ||| generator.nodeBits := by
  unfold issue
  dsimp only
  split <;> rfl

/-- The ids of a step are those that it issues. -/
theorem ids_issues (generator : Generator) (shared : Shared) (action : Action) :
    (shared.step generator action).ids = shared.ids ++ (shared.issues generator action).map Issued.id := by
  have kept : shared.ids = shared.ids ++ [] := (List.append_nil _).symm
  cases action with
  | call thread =>
      rw [Shared.step]
      split <;> exact kept
  | load thread =>
      rw [Shared.step]
      split <;> exact kept
  | clock thread clockMs =>
      rw [Shared.step]
      split <;> exact kept
  | exchange thread fails =>
      unfold Shared.step Shared.issues
      dsimp only
      cases place : shared.threads thread with
      | idle => exact kept
      | looping => exact kept
      | loaded old => exact kept
      | timed old timestampMs =>
          dsimp only
          cases next : nextWord generator old timestampMs with
          | none => exact kept
          | some new =>
              dsimp only
              split
              · rw [List.map_singleton, issue_id]
              · exact kept

/-- The ids of a run are those that its calls issue. -/
theorem ids_issued (generator : Generator) (shared : Shared) (actions : List Action) :
    (actions.foldl (Shared.step generator) shared).ids = shared.ids ++
      (shared.issued generator actions).map Issued.id := by
  induction actions generalizing shared with
  | nil => exact (List.append_nil _).symm
  | cons action rest hypothesis =>
      rw [List.foldl_cons, hypothesis, ids_issues, Shared.issued, List.map_append, List.append_assoc]

section Fields

variable {generator : Generator} {nodeBits sequenceBits node : Nat}

/-- The masks and the shift of the extractors belong to the same fields as the packing. -/
structure Extracts (generator : Generator) (nodeBits sequenceBits : Nat) : Prop where
  shift : generator.sequenceBits.toUInt64.toNat % 64 = sequenceBits
  maxNodeId : generator.maxNodeId.toNat = 2 ^ nodeBits - 1

theorem generatorInit_fields {nodeIdBits sequenceIdBits : UInt8} {nodeId offset realtimeMs nowMs : UInt64}
    (made : generatorInit nodeIdBits sequenceIdBits nodeId offset realtimeMs nowMs = .ok generator) :
    generator.nodeIdBits = nodeIdBits ∧ generator.sequenceBits = sequenceIdBits ∧
      generator.nodeIdAndSequenceBits = nodeIdBits + sequenceIdBits ∧ nodeIdBits + sequenceIdBits ≤ 22 ∧
      generator.maxNodeId = ((1 : UInt64) <<< nodeIdBits.toUInt64) - 1 := by
  unfold generatorInit at made
  dsimp only at made
  split at made
  · cases made
  next small =>
    split at made
    · cases made
    · split at made
      · cases made
      · split at made
        · cases made
        · cases made
          exact ⟨rfl, rfl, rfl, UInt8.not_lt.mp small, rfl⟩

theorem extracts_of_small {nodeIdBits sequenceIdBits : UInt8} {nodeId offset realtimeMs nowMs : UInt64}
    (small : nodeIdBits.toNat + sequenceIdBits.toNat ≤ 22)
    (made : generatorInit nodeIdBits sequenceIdBits nodeId offset realtimeMs nowMs = .ok generator) :
    Extracts generator nodeIdBits.toNat sequenceIdBits.toNat := by
  obtain ⟨-, sequenceBits, -, -, maxNodeId⟩ := generatorInit_fields made
  constructor
  · rw [sequenceBits, UInt8.toNat_toUInt64, Nat.mod_eq_of_lt (by omega)]
  · rw [maxNodeId, one_shift (by omega)]

theorem extractTimestamp_toNat (accepted : Accepted generator nodeBits sequenceBits node) (traceId : UInt64) :
    (extractTimestamp generator traceId).toNat = traceId.toNat / 2 ^ (nodeBits + sequenceBits) := by
  rw [extractTimestamp, UInt64.toNat_shiftRight, accepted.shift, Nat.shiftRight_eq_div_pow]

theorem extractSequence_toNat (accepted : Accepted generator nodeBits sequenceBits node) (traceId : UInt64) :
    (extractSequence generator traceId).toNat = traceId.toNat % 2 ^ sequenceBits := by
  rw [extractSequence, UInt64.toNat_and, accepted.maxSequence, Nat.and_two_pow_sub_one_eq_mod]

theorem extractNodeId_toNat (extracts : Extracts generator nodeBits sequenceBits) (traceId : UInt64) :
    (extractNodeId generator traceId).toNat = traceId.toNat / 2 ^ sequenceBits % 2 ^ nodeBits := by
  rw [extractNodeId, UInt64.toNat_and, extracts.maxNodeId, Nat.and_two_pow_sub_one_eq_mod, UInt64.toNat_shiftRight,
    extracts.shift, Nat.shiftRight_eq_div_pow]

/-- The fields of a number determine it. -/
theorem fields_determine {nodeBits sequenceBits one other : Nat}
    (low : one % 2 ^ sequenceBits = other % 2 ^ sequenceBits)
    (middle : one / 2 ^ sequenceBits % 2 ^ nodeBits = other / 2 ^ sequenceBits % 2 ^ nodeBits)
    (high : one / 2 ^ (nodeBits + sequenceBits) = other / 2 ^ (nodeBits + sequenceBits)) : one = other := by
  rw [Nat.add_comm, Nat.pow_add, ← Nat.div_div_eq_div_mul, ← Nat.div_div_eq_div_mul] at high
  have upper : one / 2 ^ sequenceBits = other / 2 ^ sequenceBits := by
    rw [← Nat.div_add_mod (one / 2 ^ sequenceBits) (2 ^ nodeBits), high, middle, Nat.div_add_mod]
  rw [← Nat.div_add_mod one (2 ^ sequenceBits), upper, low, Nat.div_add_mod]

/-- The parts of an id whose word has a time and a sequence. -/
theorem id_fields (accepted : Accepted generator nodeBits sequenceBits node) {new : UInt64} {time sequence : Nat}
    (word : new.toNat = 2 ^ (nodeBits + sequenceBits) * time + sequence)
    (sequenceFits : sequence < 2 ^ sequenceBits) :
    (new ||| generator.nodeBits).toNat = pack nodeBits sequenceBits time node sequence := by
  have plain : Plain nodeBits sequenceBits new := by
    have smaller : 2 ^ sequenceBits ≤ 2 ^ (nodeBits + sequenceBits) :=
      Nat.pow_le_pow_right (by decide) (Nat.le_add_left ..)
    rw [Plain, word, Nat.mul_add_mod, Nat.mod_eq_of_lt (by omega)]
    exact sequenceFits
  rw [(id_packs accepted plain).1, word, pack]
  omega

/-- The word of a call has the time and the sequence of the id, if the shifted time is not cut. -/
theorem issue_word (accepted : Accepted generator nodeBits sequenceBits node) {old timestampMs new : UInt64}
    (plain : Plain nodeBits sequenceBits old) (next : nextWord generator old timestampMs = some new)
    (fits : (issue generator old timestampMs new).timestampMs.toNat * 2 ^ (nodeBits + sequenceBits) < 2 ^ 64) :
    new.toNat = 2 ^ (nodeBits + sequenceBits) * (issue generator old timestampMs new).timestampMs.toNat +
        (issue generator old timestampMs new).sequence.toNat ∧
      (issue generator old timestampMs new).sequence.toNat < 2 ^ sequenceBits := by
  unfold issue at fits ⊢
  unfold nextWord at next
  dsimp only at next fits ⊢
  split at next
  next later =>
    cases next
    rw [if_pos later] at fits ⊢
    have value : (timestampMs <<< generator.nodeIdAndSequenceBits.toUInt64).toNat =
        timestampMs.toNat * 2 ^ (nodeBits + sequenceBits) := by
      rw [UInt64.toNat_shiftLeft, accepted.shift, Nat.shiftLeft_eq, Nat.mod_eq_of_lt fits]
    constructor
    · rw [value, UInt64.toNat_zero, Nat.add_zero, Nat.mul_comm]
    · exact Nat.two_pow_pos _
  next same =>
    rw [if_neg same] at fits ⊢
    split at next
    next room =>
      cases next
      have low := extractSequence_toNat accepted old
      have high := extractTimestamp_toNat accepted old
      rw [extractSequence] at low
      rw [extractTimestamp] at high
      have smaller : 2 ^ sequenceBits ≤ 2 ^ (nodeBits + sequenceBits) :=
        Nat.pow_le_pow_right (by decide) (Nat.le_add_left ..)
      have divides : 2 ^ sequenceBits ∣ 2 ^ (nodeBits + sequenceBits) := Nat.pow_dvd_pow 2 (Nat.le_add_left ..)
      have whole : old.toNat % 2 ^ sequenceBits = old.toNat % 2 ^ (nodeBits + sequenceBits) := by
        rw [← Nat.mod_mod_of_dvd old.toNat divides, Nat.mod_eq_of_lt plain]
      rw [UInt64.lt_iff_toNat_lt, low, accepted.maxSequence] at room
      have sequence : ((old &&& generator.maxSequence) + 1).toNat = old.toNat % 2 ^ sequenceBits + 1 := by
        have bits := accepted.bits
        have bound : 2 ^ sequenceBits ≤ 2 ^ 22 := Nat.pow_le_pow_right (by decide) (by omega)
        rw [UInt64.toNat_add, low, UInt64.toNat_one, Nat.mod_eq_of_lt (by omega)]
      have parts := Nat.div_add_mod old.toNat (2 ^ (nodeBits + sequenceBits))
      have stays : old.toNat + 1 < 2 ^ 64 := by
        have bits := accepted.bits
        obtain ⟨count, total⟩ : 2 ^ (nodeBits + sequenceBits) ∣ 2 ^ 64 := Nat.pow_dvd_pow 2 (by omega)
        rw [high, Nat.mul_comm] at fits
        have below : old.toNat / 2 ^ (nodeBits + sequenceBits) < count := by
          rw [total] at fits
          exact Nat.lt_of_mul_lt_mul_left fits
        have last := Nat.mul_le_mul_left (2 ^ (nodeBits + sequenceBits)) below
        rw [Nat.mul_succ] at last
        omega
      rw [UInt64.toNat_add, UInt64.toNat_one, Nat.mod_eq_of_lt stays, high, sequence, whole]
      constructor
      · rw [← Nat.add_assoc, parts]
      · omega
    · cases next

/-- The word keeps no node also where a time is cut. -/
theorem nextWord_plain (accepted : Accepted generator nodeBits sequenceBits node) {old timestampMs new : UInt64}
    (plain : Plain nodeBits sequenceBits old) (next : nextWord generator old timestampMs = some new) :
    Plain nodeBits sequenceBits new := by
  by_cases later : timestampMs > old >>> generator.nodeIdAndSequenceBits.toUInt64
  · unfold nextWord at next
    dsimp only at next
    rw [if_pos later] at next
    cases next
    have bits := accepted.bits
    obtain ⟨count, total⟩ : 2 ^ (nodeBits + sequenceBits) ∣ 2 ^ 64 := Nat.pow_dvd_pow 2 (by omega)
    rw [Plain, UInt64.toNat_shiftLeft, accepted.shift, Nat.shiftLeft_eq, total, Nat.mul_comm timestampMs.toNat,
      Nat.mul_mod_mul_left, Nat.mul_mod_right]
    exact Nat.two_pow_pos _
  · have within : timestampMs.toNat * 2 ^ (nodeBits + sequenceBits) < 2 ^ 64 := by
      have before := UInt64.le_iff_toNat_le.mp (UInt64.not_lt.mp later)
      rw [UInt64.toNat_shiftRight, accepted.shift, Nat.shiftRight_eq_div_pow] at before
      have bound := old.toNat_lt
      have scaled := Nat.mul_le_mul_right (2 ^ (nodeBits + sequenceBits)) before
      have cut := Nat.div_mul_le_self old.toNat (2 ^ (nodeBits + sequenceBits))
      omega
    exact (nextWord_rises accepted plain within next).2

/-- An id of a word without a node decomposes. -/
theorem issue_decomposes (accepted : Accepted generator nodeBits sequenceBits node)
    (extracts : Extracts generator nodeBits sequenceBits) {nodeId : UInt64} (named : nodeId.toNat = node)
    {old timestampMs new : UInt64} (plain : Plain nodeBits sequenceBits old)
    (next : nextWord generator old timestampMs = some new)
    (fits : (issue generator old timestampMs new).timestampMs.toNat * 2 ^ (nodeBits + sequenceBits) < 2 ^ 64) :
    (issue generator old timestampMs new).Decomposes generator nodeId := by
  obtain ⟨word, small⟩ := issue_word accepted plain next fits
  have fields := id_fields accepted word small
  constructor
  · rw [← UInt64.toNat_inj, extractNodeId_toNat extracts, issue_id, fields,
      middle_field small accepted.nodeFits, named]
  · rw [← UInt64.toNat_inj, extractSequence_toNat accepted, issue_id, fields, low_field small]
  · rw [← UInt64.toNat_inj, extractTimestamp_toNat accepted, issue_id, fields, high_field small accepted.nodeFits]

theorem step_plain (accepted : Accepted generator nodeBits sequenceBits node) {shared : Shared}
    (plain : Plain nodeBits sequenceBits shared.timestampSequence) (action : Action) :
    Plain nodeBits sequenceBits (shared.step generator action).timestampSequence := by
  cases action with
  | call thread =>
      rw [Shared.step]
      split <;> exact plain
  | load thread =>
      rw [Shared.step]
      split <;> exact plain
  | clock thread clockMs =>
      rw [Shared.step]
      split <;> exact plain
  | exchange thread fails =>
      rw [Shared.step]
      split
      · split
        · exact plain
        next new next =>
          split
          next success =>
            rw [Bool.and_eq_true, beq_iff_eq] at success
            rw [← success.2] at next
            exact nextWord_plain accepted plain next
          · exact plain
      · exact plain

/-- What a step issues comes from the word that it replaces. -/
theorem issues_from {shared : Shared} {action : Action} {issued : Issued}
    (present : issued ∈ shared.issues generator action) :
    ∃ timestampMs new, nextWord generator shared.timestampSequence timestampMs = some new ∧
      issued = issue generator shared.timestampSequence timestampMs new := by
  unfold Shared.issues at present
  split at present
  · split at present
    · split at present
      · cases present
      next new next =>
        split at present
        next success =>
          rw [Bool.and_eq_true, beq_iff_eq] at success
          rw [← success.2] at next present
          exact ⟨_, new, next, List.mem_singleton.mp present⟩
        · cases present
    · cases present
  · cases present

theorem issued_decomposes (accepted : Accepted generator nodeBits sequenceBits node)
    (extracts : Extracts generator nodeBits sequenceBits) {nodeId : UInt64} (named : nodeId.toNat = node)
    {shared : Shared} (plain : Plain nodeBits sequenceBits shared.timestampSequence) (actions : List Action)
    {issued : Issued} (present : issued ∈ shared.issued generator actions)
    (fits : issued.timestampMs.toNat * 2 ^ (nodeBits + sequenceBits) < 2 ^ 64) :
    issued.Decomposes generator nodeId := by
  induction actions generalizing shared with
  | nil => cases present
  | cons action rest hypothesis =>
      cases List.mem_append.mp present with
      | inl now =>
          obtain ⟨timestampMs, new, next, rfl⟩ := issues_from now
          exact issue_decomposes accepted extracts named plain next fits
      | inr later => exact hypothesis (step_plain accepted plain action) later

end Fields

/-- An accepted generator is decomposable exactly when the sum of its bits does not wrap. -/
theorem decomposable_iff {nodeIdBits sequenceBits : UInt8} {nodeId offset realtimeMs nowMs : UInt64}
    {generator : Generator} (made : generatorInit nodeIdBits sequenceBits nodeId offset realtimeMs nowMs =
      .ok generator) :
    Decomposable generator nodeId ↔ nodeIdBits.toNat + sequenceBits.toNat < 256 := by
  obtain ⟨nodeField, sequenceField, sumField, sum, -⟩ := generatorInit_fields made
  constructor
  · intro decomposable
    have bits := decomposable.bits
    rw [nodeField, sequenceField] at bits
    omega
  · intro unwrapped
    have small : nodeIdBits.toNat + sequenceBits.toNat ≤ 22 := by
      have bound := UInt8.le_iff_toNat_le.mp sum
      rw [UInt8.toNat_add, Nat.mod_eq_of_lt unwrapped] at bound
      exact bound
    obtain ⟨accepted, -⟩ := generatorInit_accepted small made
    have extracts := extracts_of_small small made
    constructor
    · rw [nodeField, sequenceField]
      exact small
    · intro actions issued present fits
      have shift : generator.nodeIdAndSequenceBits.toNat = nodeIdBits.toNat + sequenceBits.toNat := by
        rw [sumField, UInt8.toNat_add, Nat.mod_eq_of_lt unwrapped]
      rw [Issued.Fits, shift] at fits
      exact issued_decomposes accepted extracts rfl (Sound.start _ _ 0).plain actions present fits
    · intro one other node sequence timestamp
      rw [← UInt64.toNat_inj, extractNodeId_toNat extracts, extractNodeId_toNat extracts] at node
      rw [← UInt64.toNat_inj, extractSequence_toNat accepted, extractSequence_toNat accepted] at sequence
      rw [← UInt64.toNat_inj, extractTimestamp_toNat accepted, extractTimestamp_toNat accepted] at timestamp
      exact UInt64.toNat_inj.mp (fields_determine sequence node timestamp)

/-- The default bits of a generator decompose. -/
theorem decomposable_default : ∃ generator, generatorInit 10 12 5 0 1000 1000 = .ok generator ∧
    Decomposable generator 5 := by
  have made : ∃ generator, generatorInit 10 12 5 0 1000 1000 = .ok generator := ⟨_, rfl⟩
  obtain ⟨generator, made⟩ := made
  exact ⟨generator, made, (decomposable_iff made).mpr (by decide)⟩

/-- 200 and 56 bits make 0 in a byte, and are accepted. -/
theorem wrapped_accepted : ∃ generator, generatorInit 200 56 0 0 1000 1000 = .ok generator ∧
    ¬Decomposable generator 0 := by
  refine ⟨_, rfl, ?_⟩
  intro decomposable
  exact absurd decomposable.bits (by decide)

end TensorPool.TraceId
