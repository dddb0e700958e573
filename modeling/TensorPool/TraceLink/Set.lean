/-
This file encodes the set of the frames that a frame was made from, and decodes such a set.
-/

import TensorPool.Wire.Inside

namespace TensorPool.TraceLink

open Scan Flyweight FixedField Wire

/-- This is `tp_tracelink_set_t`; the parents are counted by their list. -/
structure TracelinkSet where
  streamId : UInt32
  epoch : UInt64
  seq : UInt64
  traceId : UInt64
  parents : List UInt64
  deriving DecidableEq, Repr

namespace TracelinkSet

def codec : Codec := ⟨904, 1, 28, 1⟩
def parentsBlockLength : Nat := 8

def block (set : TracelinkSet) : List UInt8 :=
  uint32.encode set.streamId ++ (uint64.encode set.epoch ++ (uint64.encode set.seq ++ uint64.encode set.traceId))

/-- The length that the encoder asks of its buffer. -/
def required (set : TracelinkSet) : Nat := 8 + 28 + 4 + set.parents.length * 8

end TracelinkSet

/-- This is the loop of `tp_tracelink_validate_parents`, which compares each parent with those in front of it. -/
def parentsValid : List UInt64 → List UInt64 → Bool
  | _, [] => true
  | front, parent :: parents => parent ≠ 0 && parent ∉ front && parentsValid (front ++ [parent]) parents

/-- This is `tp_tracelink_validate_parents`. -/
def tracelinkValidateParents (parents : List UInt64) : Bool := parents ≠ [] && parentsValid [] parents

/-- This is `tp_tracelink_set_encode`, which does not look at the result of wrapping the group; a refused group has
no position, and the parents are put through it all the same. -/
def tracelinkSetEncode (length : Nat) (set : TracelinkSet) : Scan Refusal (List UInt8) := do
  stopIf (set.traceId = 0) ⟨-1, some "tp_tracelink_set_encode: trace_id is required"⟩
  stopIf (set.parents.length = 0 ∨ 65535 < set.parents.length)
    ⟨-1, some "tp_tracelink_set_encode: invalid parent count"⟩
  stopIf (tracelinkValidateParents set.parents = false) ⟨-1, some "tp_tracelink_set_encode: invalid parent list"⟩
  stopIf (length < set.required) ⟨-1, some "tp_tracelink_set_encode: buffer too small"⟩
  match putGroup length TracelinkSet.parentsBlockLength set.parents.length
      (messageHeader.encode TracelinkSet.codec.header ++ set.block) with
  | none => fault
  | some written => value (written ++ set.parents.flatMap uint64.encode)

/-- This is the loop of the decoder over the parents, with the parents that are met. -/
def decodeParents (blockLength : Nat) : Nat → List UInt64 → List UInt8 → Scan Refusal (List UInt64)
  | 0, met, _ => value met
  | count + 1, met, rest => do
      let behind ← checkedEntry ⟨-1, some "tp_tracelink_set_decode: parents group truncated"⟩ blockLength rest
      let parent ← read uint64 0 rest
      stopIf (parent = 0) ⟨-1, some "tp_tracelink_set_decode: parent trace_id invalid"⟩
      stopIf (parent ∈ met) ⟨-1, some "tp_tracelink_set_decode: duplicate parent trace_id"⟩
      decodeParents blockLength count (met ++ [parent]) behind

/-- This is `tp_tracelink_set_decode`. -/
def tracelinkSetDecode (maxParents : Nat) (bytes : List UInt8) : Scan Refusal TracelinkSet := do
  let header ← openMessage "tp_tracelink_set_decode" ": buffer too short" true TracelinkSet.codec bytes
  let streamId ← read uint32 8 bytes
  let epoch ← read uint64 12 bytes
  let seq ← read uint64 20 bytes
  let traceId ← read uint64 28 bytes
  stopIf (traceId = 0) ⟨-1, some "tp_tracelink_set_decode: trace_id missing"⟩
  let rest ← behindBlock header bytes
  let (blockLength, count, rest) ←
    checkedGroup ⟨-1, some "tp_tracelink_set_decode: parents group invalid"⟩ rest
  stopIf (count < 1 ∨ maxParents < count) ⟨-1, some "tp_tracelink_set_decode: parent count invalid"⟩
  let parents ← decodeParents blockLength count [] rest
  value { streamId, epoch, seq, traceId, parents }

/-- The encoder takes a set whose parents are non-zero and distinct, when the buffer has room for it. -/
structure Admitted (length : Nat) (set : TracelinkSet) : Prop where
  traceId : set.traceId ≠ 0
  some : set.parents ≠ []
  few : set.parents.length ≤ 65535
  nonzero : ∀ parent ∈ set.parents, parent ≠ 0
  distinct : set.parents.Nodup
  room : set.required ≤ length

/-- The encoded set is decoded again with room for its parents. -/
def DecodesBack (length : Nat) (set : TracelinkSet) : Prop :=
  ∃ encoded, tracelinkSetEncode length set = value encoded ∧
    ∀ maxParents, set.parents.length ≤ maxParents → tracelinkSetDecode maxParents encoded = value set

/-- These are the dimensions of the group in a fragment, and the parent at the start of an entry. -/
def groupBlock (bytes : List UInt8) : Nat := (uint16.decode (bytes.drop 36)).toNat
def groupCount (bytes : List UInt8) : Nat := (uint16.decode (bytes.drop 38)).toNat
def parentAt (bytes : List UInt8) (index : Nat) : UInt64 := uint64.decode (bytes.drop (40 + index * groupBlock bytes))

/-- The fragment holds the set as a whole, and the encoder takes the set. -/
structure Sound (bytes : List UInt8) (set : TracelinkSet) : Prop where
  traceId : set.traceId ≠ 0
  some : set.parents ≠ []
  nonzero : ∀ parent ∈ set.parents, parent ≠ 0
  distinct : set.parents.Nodup
  block : 36 ≤ bytes.length
  entries : ∀ index < set.parents.length,
    40 + index * groupBlock bytes + 8 ≤ bytes.length ∧ 40 + (index + 1) * groupBlock bytes ≤ bytes.length
  encodes : ∀ length, set.required ≤ length → ∃ encoded, tracelinkSetEncode length set = value encoded

/-- The loop passes an entry that is in the fragment and has a new parent. -/
structure Passed (bytes : List UInt8) (index : Nat) : Prop where
  inside : 40 + (index + 1) * groupBlock bytes ≤ bytes.length
  nonzero : parentAt bytes index ≠ 0
  new : ∀ earlier < index, parentAt bytes earlier ≠ parentAt bytes index

/-- An entry that the fragment holds has room for its parent, which it need not have when the group declares less. -/
def RoomAt (bytes : List UInt8) (index : Nat) : Prop :=
  40 + (index + 1) * groupBlock bytes ≤ bytes.length → 40 + index * groupBlock bytes + 8 ≤ bytes.length

/-- Each entry that the loop comes to has room for its parent, and the loop does not pass as many entries as the
encoder cannot put. -/
structure ParentsHeld (bytes : List UInt8) : Prop where
  room : ∀ index < groupCount bytes, (∀ earlier < index, Passed bytes earlier) → RoomAt bytes index
  few : (∀ index < groupCount bytes, Passed bytes index) → groupCount bytes ≠ 65535

/-- The fragment holds the block, and its group is held when the loop comes to it. -/
def SetHeld (maxParents : Nat) (bytes : List UInt8) : Prop :=
  Addressed TracelinkSet.codec bytes → Current TracelinkSet.codec bytes →
    36 ≤ bytes.length ∧ (uint64.decode (bytes.drop 28) ≠ 0 → 40 ≤ bytes.length →
      1 ≤ groupCount bytes → groupCount bytes ≤ maxParents → ParentsHeld bytes)

variable {length maxParents : Nat} {set : TracelinkSet} {bytes : List UInt8}

theorem parentsValid_iff {front parents : List UInt64} (distinct : front.Nodup) :
    parentsValid front parents = true ↔ (∀ parent ∈ parents, parent ≠ 0) ∧ (front ++ parents).Nodup := by
  induction parents generalizing front with
  | nil => simp [parentsValid, distinct]
  | cons parent parents hypothesis =>
      rw [parentsValid]
      simp only [Bool.and_eq_true, decide_eq_true_eq, List.forall_mem_cons]
      by_cases new : parent ∈ front
      · constructor
        · intro valid
          exact absurd new valid.1.2
        · intro valid
          have apart := (List.nodup_append.mp valid.2).2.2
          exact absurd rfl (apart parent new parent (List.mem_cons_self ..))
      · have longer : (front ++ [parent]).Nodup := by
          apply List.nodup_append.mpr ⟨distinct, List.pairwise_singleton .., ?_⟩
          intro other earlier same member equal
          rw [List.mem_singleton] at member
          exact new (member ▸ equal ▸ earlier)
        rw [hypothesis longer, List.append_assoc, List.singleton_append]
        simp only [new, not_false_eq_true, and_true, and_assoc]

theorem validateParents_iff {parents : List UInt64} : tracelinkValidateParents parents = true ↔
    parents ≠ [] ∧ (∀ parent ∈ parents, parent ≠ 0) ∧ parents.Nodup := by
  rw [tracelinkValidateParents, Bool.and_eq_true, decide_eq_true_eq, parentsValid_iff List.nodup_nil, List.nil_append]

/-- These are the bytes of a set that is written as a whole. -/
def TracelinkSet.encoded (set : TracelinkSet) : List UInt8 :=
  messageHeader.encode TracelinkSet.codec.header ++ set.block ++
    groupBytes TracelinkSet.parentsBlockLength set.parents.length ++ set.parents.flatMap uint64.encode

/-- The last count of the group is reserved, so a set with as many parents has no group. -/
theorem setEncode_admitted (admitted : Admitted length set) :
    tracelinkSetEncode length set = if set.parents.length = 65535 then fault else value set.encoded := by
  have counted : ¬ (set.parents.length = 0 ∨ 65535 < set.parents.length) := by
    have positive := List.length_pos_iff.mpr admitted.some
    have few := admitted.few
    omega
  have valid : ¬ tracelinkValidateParents set.parents = false := by
    rw [Bool.not_eq_false, validateParents_iff]
    exact ⟨admitted.some, admitted.nonzero, admitted.distinct⟩
  have front : (messageHeader.encode TracelinkSet.codec.header ++ set.block).length + 4 ≤ length := by
    have room := admitted.room
    rw [TracelinkSet.required] at room
    have size : (messageHeader.encode TracelinkSet.codec.header ++ set.block).length = 36 := by
      simp [TracelinkSet.block, FixedField.length_encode]
    omega
  rw [tracelinkSetEncode, stopIf_pass admitted.traceId, value_bind, stopIf_pass counted, value_bind,
    stopIf_pass valid, value_bind, stopIf_pass (Nat.not_lt.mpr admitted.room), value_bind, putGroup]
  by_cases last : set.parents.length = 65535
  · rw [if_pos last, if_neg (by omega)]
  · have few := admitted.few
    rw [if_neg last, if_pos ⟨by omega, front⟩]
    rfl

theorem setEncode_refused (other : ¬ Admitted length set) :
    ∃ refusal, tracelinkSetEncode length set = stop refusal := by
  unfold tracelinkSetEncode stopIf
  split
  · exact ⟨_, rfl⟩
  next traceId =>
    rw [value_bind]
    split
    · exact ⟨_, rfl⟩
    next counted =>
      rw [value_bind]
      split
      · exact ⟨_, rfl⟩
      next valid =>
        rw [value_bind]
        split
        · exact ⟨_, rfl⟩
        next room =>
          rw [Bool.not_eq_false, validateParents_iff] at valid
          exact absurd ⟨traceId, valid.1, by omega, valid.2.1, valid.2.2, Nat.not_lt.mp room⟩ other

/-- The loop reads new parents back as they are put. -/
theorem decodeParents_flatMap {met parents : List UInt64} (nonzero : ∀ parent ∈ parents, parent ≠ 0)
    (distinct : (met ++ parents).Nodup) :
    decodeParents 8 parents.length met (parents.flatMap uint64.encode) = value (met ++ parents) := by
  induction parents generalizing met with
  | nil => rw [List.length_nil, decodeParents, List.append_nil]
  | cons parent parents hypothesis =>
      have step : nextEntry 8 (uint64.encode parent ++ parents.flatMap uint64.encode) =
          some (parents.flatMap uint64.encode) := nextEntry_append _ (uint64.length_encode parent)
      have first : (read uint64 0 (uint64.encode parent ++ parents.flatMap uint64.encode) : Scan Refusal UInt64) =
          value parent := read_here ..
      have new : parent ∉ met := by
        intro earlier
        exact (List.nodup_append.mp distinct).2.2 parent earlier parent (List.mem_cons_self ..) rfl
      have rest := @hypothesis (met ++ [parent])
        (fun other member => nonzero other (List.mem_cons_of_mem _ member)) (by rwa [List.append_assoc])
      rw [List.length_cons, decodeParents, List.flatMap_cons, checkedEntry, step]
      dsimp only
      rw [value_bind, first, value_bind, stopIf_pass (nonzero parent (List.mem_cons_self ..)), value_bind,
        stopIf_pass new, value_bind, rest, List.append_assoc, List.singleton_append]

/-- A set that is written as a whole is read back. -/
theorem setDecode_encoded (admitted : Admitted length set) (room : set.parents.length ≤ maxParents) :
    tracelinkSetDecode maxParents set.encoded = value set := by
  have few : set.parents.length < 2 ^ 16 := Nat.lt_succ_of_le admitted.few
  have positive := List.length_pos_iff.mpr admitted.some
  have counted : ¬ (set.parents.length < 1 ∨ maxParents < set.parents.length) := by omega
  let tail := groupBytes TracelinkSet.parentsBlockLength set.parents.length ++ set.parents.flatMap uint64.encode
  have shape : set.encoded = messageHeader.encode TracelinkSet.codec.header ++ (set.block ++ tail) := by
    rw [TracelinkSet.encoded, List.append_assoc, List.append_assoc]
  have long : 36 ≤ set.encoded.length := by
    simp [shape, TracelinkSet.block, FixedField.length_encode]
    omega
  have opened : openMessage "tp_tracelink_set_decode" ": buffer too short" true TracelinkSet.codec set.encoded =
      value TracelinkSet.codec.header := by
    have whole : ¬ set.encoded.length < messageHeader.width := by
      rw [width_messageHeader]
      omega
    rw [openMessage, stopIf_pass whole, value_bind, shape, read_here, value_bind]
    rfl
  have behind : (behindBlock TracelinkSet.codec.header set.encoded : Scan Refusal _) = value tail := by
    have fits : 8 + TracelinkSet.codec.header.blockLength.toNat ≤ set.encoded.length := long
    rw [behindBlock, if_pos fits, shape, ← List.append_assoc, List.drop_left']
    rw [List.length_append, FixedField.length_encode]
    rfl
  have grouped : (checkedGroup ⟨-1, some "tp_tracelink_set_decode: parents group invalid"⟩ tail : Scan Refusal _) =
      value (8, set.parents.length, set.parents.flatMap uint64.encode) := by
    have found : (group (groupBytes 8 set.parents.length ++
      set.parents.flatMap uint64.encode) : Scan Refusal _) = _ :=
      group_groupBytes 8 set.parents.length (set.parents.flatMap uint64.encode) (by decide) few
    obtain ⟨inside, block, count, rest⟩ := group_eq_value.mp found
    change checkedGroup _ (groupBytes 8 set.parents.length ++ set.parents.flatMap uint64.encode) = _
    rw [checkedGroup, if_neg (Nat.not_lt.mpr inside), ← block, ← count, ← rest]
  rw [tracelinkSetDecode, opened, value_bind, behind]
  simp (disch := decide) only [shape, TracelinkSet.block, List.append_assoc, read_here, read_behind,
    width_messageHeader, width_uint32, width_uint64, Nat.reduceSub, value_bind, stopIf_pass admitted.traceId,
      grouped, stopIf_pass counted]
  rw [decodeParents_flatMap admitted.nonzero (by rw [List.nil_append]; exact admitted.distinct), value_bind,
    List.nil_append]

/-- What is encoded is decoded again when the group can hold the parents. -/
theorem decodesBack_iff : ((∀ refusal, tracelinkSetEncode length set ≠ stop refusal) → DecodesBack length set) ↔
    (Admitted length set → set.parents.length ≠ 65535) := by
  constructor
  · intro decodes admitted last
    have undefined : tracelinkSetEncode length set = fault := by rw [setEncode_admitted admitted, if_pos last]
    obtain ⟨encoded, written, -⟩ := decodes fun refusal refused => by cases undefined.symm.trans refused
    rw [undefined] at written
    cases written
  · intro few accepted
    have admitted : Admitted length set := by
      by_contra other
      obtain ⟨refusal, refused⟩ := setEncode_refused other
      exact accepted refusal refused
    refine ⟨set.encoded, ?_, fun maxParents room => setDecode_encoded admitted room⟩
    rw [setEncode_admitted admitted, if_neg (few admitted)]

/-- A walk fits the indices that it comes to, and it finishes when it passes all of them. -/
def Walk (passed fits : Nat → Prop) (finished : Prop) (start count : Nat) : Prop :=
  (∀ index, start ≤ index → index < start + count → (∀ earlier, start ≤ earlier → earlier < index → passed earlier) →
    fits index) ∧ ((∀ index, start ≤ index → index < start + count → passed index) → finished)

theorem walk_zero {passed fits : Nat → Prop} {finished : Prop} {start : Nat} :
    Walk passed fits finished start 0 ↔ finished := by
  constructor
  · intro walk
    apply walk.2
    intro index low high
    omega
  · intro finished
    constructor
    · intro index low high
      omega
    · intro _
      exact finished

/-- A walk comes to its first index, and goes on when it passes this one. -/
theorem walk_succ {passed fits : Nat → Prop} {finished : Prop} {start count : Nat} :
    Walk passed fits finished start (count + 1) ↔
      fits start ∧ (passed start → Walk passed fits finished (start + 1) count) := by
  have after {index : Nat} (passes : passed start)
      (all : ∀ earlier, start + 1 ≤ earlier → earlier < index → passed earlier) :
      ∀ earlier, start ≤ earlier → earlier < index → passed earlier := by
    intro earlier low high
    obtain same | more := Nat.eq_or_lt_of_le low
    · exact same ▸ passes
    · exact all earlier more high
  constructor
  · intro walk
    constructor
    · apply walk.1 start (Nat.le_refl _) (by omega)
      intro earlier low high
      omega
    · intro passes
      constructor
      · intro index low high before
        exact walk.1 index (by omega) (by omega) (after passes before)
      · intro all
        apply walk.2
        rw [← Nat.add_assoc, Nat.add_right_comm]
        exact after passes all
  · intro walk
    constructor
    · intro index low high before
      obtain same | more := Nat.eq_or_lt_of_le low
      · exact same ▸ walk.1
      · have passes : passed start := before start (Nat.le_refl _) more
        apply (walk.2 passes).1 index more (by omega)
        intro earlier low' high'
        exact before earlier (by omega) high'
    · intro all
      apply (walk.2 (all start (Nat.le_refl _) (by omega))).2
      intro index low high
      exact all index (by omega) (by omega)

/-- The loop stays inside of the fragment when each entry that it comes to has room for its parent. -/
theorem ensures_decodeParents {condition : List UInt64 → Prop} {count start : Nat}
    (here : 40 + start * groupBlock bytes ≤ bytes.length) :
    (decodeParents (groupBlock bytes) count ((List.range start).map (parentAt bytes))
        (bytes.drop (40 + start * groupBlock bytes))).Ensures condition ↔
      Walk (Passed bytes) (RoomAt bytes)
        (condition ((List.range (start + count)).map (parentAt bytes))) start count := by
  induction count generalizing start with
  | zero => rw [decodeParents, ensures_value, walk_zero, Nat.add_zero]
  | succ count hypothesis =>
      have next : 40 + start * groupBlock bytes + groupBlock bytes = 40 + (start + 1) * groupBlock bytes := by
        rw [Nat.succ_mul, Nat.add_assoc]
      have met : (List.range start).map (parentAt bytes) ++ [parentAt bytes start] =
          (List.range (start + 1)).map (parentAt bytes) := by
        rw [List.range_succ, List.map_append, List.map_singleton]
      have new : parentAt bytes start ∉ (List.range start).map (parentAt bytes) ↔
          ∀ earlier < start, parentAt bytes earlier ≠ parentAt bytes start := by
        simp
      have shifted : start + (count + 1) = start + 1 + count := by omega
      rw [decodeParents, walk_succ, shifted]
      simp only [ensures_bind, ensures_checkedEntry, ensures_read, ensures_stopIf, List.drop_drop, List.length_drop,
        Nat.zero_add, width_uint64, next]
      change (_ → _ ∧ (parentAt bytes start ≠ 0 → parentAt bytes start ∉ _ →
        (decodeParents _ _ (_ ++ [parentAt bytes start]) _).Ensures condition)) ↔ _
      rw [new, met]
      by_cases inside : 40 + (start + 1) * groupBlock bytes ≤ bytes.length
      · have reached : groupBlock bytes ≤ bytes.length - (40 + start * groupBlock bytes) := by omega
        have room : 8 ≤ bytes.length - (40 + start * groupBlock bytes) ↔ RoomAt bytes start := by
          unfold RoomAt
          omega
        simp only [reached, forall_const, hypothesis inside, room]
        apply and_congr_right
        intro _
        constructor
        · intro goes passed
          exact goes passed.nonzero passed.new
        · intro goes nonzero fresh
          exact goes ⟨inside, nonzero, fresh⟩
      · constructor
        · intro _
          exact ⟨fun held => absurd held inside, fun passed => absurd passed.inside inside⟩
        · intro _ reached
          omega

/-- The parents of the entries that the loop has passed are a set that the encoder takes. -/
theorem sound_passed {streamId : UInt32} {epoch seq traceId : UInt64} (block : 36 ≤ bytes.length)
    (present : traceId ≠ 0) (positive : 1 ≤ groupCount bytes) (few : groupCount bytes ≠ 65535)
    (passed : ∀ index < groupCount bytes, Passed bytes index)
    (room : ∀ index < groupCount bytes, RoomAt bytes index) :
    Sound bytes ⟨streamId, epoch, seq, traceId, (List.range (groupCount bytes)).map (parentAt bytes)⟩ := by
  have nonzero : ∀ parent ∈ (List.range (groupCount bytes)).map (parentAt bytes), parent ≠ 0 := by
    intro parent member
    obtain ⟨index, inside, same⟩ := List.mem_map.mp member
    exact same ▸ (passed index (List.mem_range.mp inside)).nonzero
  have distinct : ((List.range (groupCount bytes)).map (parentAt bytes)).Nodup := by
    rw [List.nodup_iff_pairwise_ne, List.pairwise_map]
    apply List.pairwise_lt_range.imp_of_mem
    intro earlier later _ inside before
    exact (passed later (List.mem_range.mp inside)).new earlier before
  have counted : ((List.range (groupCount bytes)).map (parentAt bytes)).length = groupCount bytes := by
    rw [List.length_map, List.length_range]
  have some : (List.range (groupCount bytes)).map (parentAt bytes) ≠ [] := by
    apply List.ne_nil_of_length_pos
    rw [counted]
    exact positive
  have small : groupCount bytes < 65536 := (uint16.decode (bytes.drop 38)).toNat_lt
  constructor
  · exact present
  · exact some
  · exact nonzero
  · exact distinct
  · exact block
  · intro index inside
    have inside : index < groupCount bytes := counted ▸ inside
    have here := (passed index inside).inside
    exact ⟨room index inside here, here⟩
  · intro length enough
    have held : ((List.range (groupCount bytes)).map (parentAt bytes)).length ≤ 65535 := by omega
    rw [setEncode_admitted ⟨present, some, held, nonzero, distinct, enough⟩, if_neg (by rw [counted]; exact few)]
    exact ⟨_, rfl⟩

/-- The decoder accepts only sets that the fragment holds and that can be encoded, when the fragment is held. -/
theorem ensures_setDecode :
    (tracelinkSetDecode maxParents bytes).Ensures (Sound bytes) ↔ SetHeld maxParents bytes := by
  unfold tracelinkSetDecode
  simp only [ensures_bind, ensures_openMessage, ensures_read, ensures_stopIf, ensures_behindBlock,
    ensures_checkedGroup, ensures_value, forall_const, width_uint32, width_uint64, List.drop_drop, List.length_drop]
  apply forall_congr'
  intro addressed
  apply forall_congr'
  intro current
  have start : 8 + (messageHeader.decode bytes).blockLength.toNat = 36 := by
    rw [current.blockLength]
    rfl
  have walk {condition : List UInt64 → Prop} (room : 40 ≤ bytes.length) :
      (decodeParents (groupBlock bytes) (groupCount bytes) [] (bytes.drop 40)).Ensures condition ↔
        Walk (Passed bytes) (RoomAt bytes) (condition ((List.range (groupCount bytes)).map (parentAt bytes))) 0
          (groupCount bytes) := by
    have whole := @ensures_decodeParents bytes condition (groupCount bytes) 0 (by omega)
    rwa [Nat.zero_mul, Nat.zero_add] at whole
  rw [start]
  change (_ ∧ _ ∧ _ ∧ 36 ≤ _ ∧ (_ → _ ∧ (_ → ¬ (groupCount bytes < 1 ∨ maxParents < groupCount bytes) →
    (decodeParents (groupBlock bytes) (groupCount bytes) [] (bytes.drop 40)).Ensures _))) ↔ _
  constructor
  · intro ensured
    refine ⟨ensured.2.2.2.1, fun present room positive enough => ?_⟩
    have loop := (walk room).mp ((ensured.2.2.2.2 present).2 (by omega) (by omega))
    constructor
    · intro index inside before
      exact loop.1 index (Nat.zero_le _) (by omega) fun earlier _ => before earlier
    · intro passed last
      have sound := loop.2 fun index _ inside => passed index (by omega)
      obtain ⟨encoded, written⟩ := sound.encodes _ (Nat.le_refl _)
      have counted : ((List.range (groupCount bytes)).map (parentAt bytes)).length = 65535 := by
        rw [List.length_map, List.length_range, last]
      rw [setEncode_admitted ⟨present, sound.some, Nat.le_of_eq counted, sound.nonzero, sound.distinct,
        Nat.le_refl _⟩, if_pos counted] at written
      cases written
  · intro held
    refine ⟨by omega, by omega, by omega, held.1, fun present => ⟨held.1, fun room counted => ?_⟩⟩
    have held' := held.2 present (by omega) (by omega) (by omega)
    rw [walk (by omega)]
    constructor
    · intro index _ inside before
      exact held'.room index (by omega) fun earlier => before earlier (Nat.zero_le _)
    · intro all
      have passed : ∀ index < groupCount bytes, Passed bytes index := fun index inside =>
        all index (Nat.zero_le _) (by omega)
      apply sound_passed held.1 present (by omega) (held'.few passed) passed
      intro index inside
      exact held'.room index inside fun earlier before => passed earlier (by omega)

/-- A set is read back exactly when its group can hold its parents, and a fragment is decoded exactly when it
holds its block, has room for the parent of each entry, and does not pass the reserved count. -/
theorem tracelinkSet_roundTrip_iff (length maxParents : Nat) (set : TracelinkSet) (bytes : List UInt8) :
    (((∀ refusal, tracelinkSetEncode length set ≠ stop refusal) → DecodesBack length set) ↔
      (Admitted length set → set.parents.length ≠ 65535)) ∧
    ((tracelinkSetDecode maxParents bytes).Ensures (Sound bytes) ↔ SetHeld maxParents bytes) :=
  ⟨decodesBack_iff, ensures_setDecode⟩

/-- The first numbers are distinct and not zero. -/
def firstParents (count : Nat) : List UInt64 := (List.range count).map fun index => UInt64.ofNat (index + 1)

theorem admitted_first {count : Nat} (positive : 0 < count) (few : count ≤ 65535) (traceId : UInt64)
    (present : traceId ≠ 0) :
    Admitted (40 + count * 8) ⟨1, 2, 3, traceId, firstParents count⟩ := by
  have counted : (firstParents count).length = count := by rw [firstParents, List.length_map, List.length_range]
  have number (index : Nat) (inside : index < count) : (UInt64.ofNat (index + 1)).toNat = index + 1 :=
    UInt64.toNat_ofNat_of_lt (show index + 1 < 2 ^ 64 by omega)
  constructor
  · exact present
  · apply List.ne_nil_of_length_pos
    rw [counted]
    exact positive
  · rw [counted]
    exact few
  · intro parent member zero
    obtain ⟨index, inside, same⟩ := List.mem_map.mp member
    have value := number index (List.mem_range.mp inside)
    rw [same, zero, UInt64.toNat_zero] at value
    omega
  · change (firstParents count).Nodup
    rw [List.nodup_iff_pairwise_ne, firstParents, List.pairwise_map]
    apply List.pairwise_lt_range.imp_of_mem
    intro earlier later inside inside' before same
    have value := congrArg UInt64.toNat same
    rw [number earlier (List.mem_range.mp inside), number later (List.mem_range.mp inside')] at value
    omega
  · rw [TracelinkSet.required, counted]

/-- The group of this fragment declares empty entries and has one of them. -/
def emptyEntry : List UInt8 :=
  [28, 0, 1, 0, 136, 3, 1, 0, 1, 0, 0, 0, 2, 0, 0, 0, 0, 0, 0, 0, 3, 0, 0, 0, 0, 0, 0, 0, 4, 0, 0, 0, 0, 0, 0,
    0, 0, 0, 1, 0]

/-- As many parents as a group cannot count are accepted and put through no group, and the parent of an empty entry is
read behind the end of the fragment. -/
theorem reserved_count_lost :
    (∃ length set, (∀ refusal, tracelinkSetEncode length set ≠ stop refusal) ∧ ¬ DecodesBack length set) ∧
      ¬ (tracelinkSetDecode 1 emptyEntry).Ensures (Sound emptyEntry) := by
  constructor
  · have admitted := admitted_first (by decide : 0 < 65535) (Nat.le_refl _) 4 (by decide)
    have undefined := setEncode_admitted admitted
    rw [if_pos (by rw [firstParents, List.length_map, List.length_range])] at undefined
    apply Exists.intro
    apply Exists.intro
    constructor
    · intro refusal
      rw [undefined]
      intro refused
      cases refused
    · intro decodes
      obtain ⟨encoded, written, -⟩ := decodes
      cases undefined.symm.trans written
  · have outside : tracelinkSetDecode 1 emptyEntry = fault := by decide
    rw [outside]
    exact not_ensures_fault

end TensorPool.TraceLink
