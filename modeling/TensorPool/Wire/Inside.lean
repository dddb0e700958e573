/-
This file says which fragments the decoders of the control messages read inside of their bounds.
-/

import TensorPool.Wire.Decode

namespace TensorPool.Wire

open Scan Flyweight FixedField

/-- The fragment carries the header of a message. -/
structure Addressed (codec : Codec) (bytes : List UInt8) : Prop where
  whole : 8 ≤ bytes.length
  schemaId : (messageHeader.decode bytes).schemaId = codec.schemaId
  templateId : (messageHeader.decode bytes).templateId = codec.templateId

/-- The version is not newer than that of the codec, and the block is the one of the codec. -/
structure Current (codec : Codec) (bytes : List UInt8) : Prop where
  version : (messageHeader.decode bytes).version ≤ codec.version
  blockLength : (messageHeader.decode bytes).blockLength = codec.blockLength

/-- A message has a block, perhaps a group whose entries hold data fields, and data fields. -/
structure Layout where
  codec : Codec
  group : Option Nat := none
  texts : Nat := 0
  deriving DecidableEq, Repr

/-- What stands behind the fields of a message that the fragment holds as a whole. -/
def Layout.behind (layout : Layout) (bytes : List UInt8) : Option (List UInt8) :=
  let start := 8 + layout.codec.blockLength.toNat
  if start ≤ bytes.length then
    ((layout.group.elim some afterGroup) (bytes.drop start)).bind (afterTexts layout.texts)
  else none

/-- The message is one of the codec, and the fragment holds its fields as a whole. -/
structure Whole (layout : Layout) (bytes : List UInt8) : Prop where
  current : Current layout.codec bytes
  behind : (layout.behind bytes).isSome

variable {bytes : List UInt8} {codec : Codec}

/-- A whole message holds its block. -/
theorem Whole.inside {layout : Layout} (whole : Whole layout bytes) :
    8 + layout.codec.blockLength.toNat ≤ bytes.length := by
  by_contra short
  have behind := whole.behind
  rw [Layout.behind, if_neg short] at behind
  cases behind

/-- The opener goes on with the header of an addressed message, and when it is strict of a current one. -/
theorem ensures_openMessage {name short : String} {strict : Bool} {condition : Header → Prop} :
    (openMessage name short strict codec bytes).Ensures condition ↔
      (Addressed codec bytes → (strict → Current codec bytes) → condition (messageHeader.decode bytes)) := by
  unfold openMessage
  simp only [ensures_bind, ensures_stopIf, ensures_read, ensures_value, List.drop_zero, Nat.zero_add, not_lt]
  constructor
  · intro ensured addressed current
    obtain ⟨-, opened⟩ := ensured addressed.whole
    apply opened
    · rw [not_or, not_not, not_not]
      exact ⟨addressed.schemaId, addressed.templateId⟩
    · intro newer
      exact absurd newer.2 (UInt16.not_lt.mpr (current newer.1).version)
    · intro other
      exact other.2 (current other.1).blockLength
  · intro opened whole
    refine ⟨whole, fun named version block => ?_⟩
    rw [not_or, not_not, not_not] at named
    apply opened ⟨whole, named.1, named.2⟩
    intro checked
    exact ⟨UInt16.not_lt.mp fun newer => version ⟨checked, newer⟩, not_not.mp fun other => block ⟨checked, other⟩⟩

/-- A fragment carries one template. -/
theorem Addressed.unique {other : Codec} (addressed : Addressed codec bytes) (addressed' : Addressed other bytes) :
    codec.templateId = other.templateId := addressed.templateId.symm.trans addressed'.templateId

/-- A message that is opened carries its header. -/
theorem openMessage_addressed {name short : String} {strict : Bool} {header : Header}
    (opened : openMessage name short strict codec bytes = value header) :
    Addressed codec bytes ∧ header = messageHeader.decode bytes := by
  have ensured : (openMessage name short strict codec bytes).Ensures fun header =>
      Addressed codec bytes ∧ header = messageHeader.decode bytes :=
    ensures_openMessage.mpr fun addressed _ => ⟨addressed, rfl⟩
  rw [opened] at ensured
  exact ensured

/-- A message of another codec is left to another decoder. -/
theorem openMessage_other {name short : String} {strict : Bool} {other : Codec} (addressed : Addressed other bytes)
    (different : other.schemaId ≠ codec.schemaId ∨ other.templateId ≠ codec.templateId) :
    openMessage name short strict codec bytes = stop ⟨1, none⟩ := by
  have whole : (read messageHeader 0 bytes : Scan Refusal Header) = value (messageHeader.decode bytes) :=
    read_eq_value.mpr ⟨addressed.whole, rfl⟩
  rw [← addressed.schemaId, ← addressed.templateId] at different
  rw [openMessage, width_messageHeader, stopIf_pass (Nat.not_lt.mpr addressed.whole), value_bind, whole, value_bind,
    stopIf, if_pos different, stop_bind]

/-- A message that the decoder knows is opened. -/
theorem openMessage_current {name short : String} {strict : Bool} (addressed : Addressed codec bytes)
    (current : Current codec bytes) :
    openMessage name short strict codec bytes = value (messageHeader.decode bytes) := by
  have whole : (read messageHeader 0 bytes : Scan Refusal Header) = value (messageHeader.decode bytes) :=
    read_eq_value.mpr ⟨addressed.whole, rfl⟩
  have named : ¬ ((messageHeader.decode bytes).schemaId ≠ codec.schemaId ∨
      (messageHeader.decode bytes).templateId ≠ codec.templateId) := by
    rw [not_or, not_not, not_not]
    exact ⟨addressed.schemaId, addressed.templateId⟩
  have version : ¬ (strict ∧ codec.version < (messageHeader.decode bytes).version) :=
    fun newer => absurd newer.2 (UInt16.not_lt.mpr current.version)
  have block : ¬ (strict ∧ (messageHeader.decode bytes).blockLength ≠ codec.blockLength) :=
    fun other => other.2 current.blockLength
  rw [openMessage, width_messageHeader, stopIf_pass (Nat.not_lt.mpr addressed.whole), value_bind, whole, value_bind,
    stopIf_pass named, value_bind, stopIf_pass version, value_bind, stopIf_pass block, value_bind]

/-- A decoder that checks the version and the block refuses any other ones. -/
theorem openMessage_stale {name short : String} (stale : ¬ Current codec bytes) :
    ∃ refusal, openMessage name short true codec bytes = stop refusal := by
  have ensured : (openMessage name short true codec bytes).Ensures fun _ => False :=
    ensures_openMessage.mpr fun _ current => stale (current rfl)
  cases opened : openMessage name short true codec bytes with
  | fault =>
      rw [opened] at ensured
      exact absurd ensured not_ensures_fault
  | stop refusal => exact ⟨refusal, rfl⟩
  | value header =>
      rw [opened] at ensured
      exact absurd ensured id

/-- The opener of the handlers goes on with an addressed message. -/
theorem ensures_openFrame {condition : Unit → Prop} :
    (openFrame codec bytes).Ensures condition ↔ (Addressed codec bytes → condition ()) := by
  unfold openFrame
  simp only [ensures_bind, ensures_stopIf, ensures_read, List.drop_zero, Nat.zero_add, not_lt, not_or, not_not]
  constructor
  · intro ensured addressed
    exact (ensured addressed.whole).2 ⟨addressed.schemaId, addressed.templateId⟩
  · intro opened whole
    exact ⟨whole, fun named => opened ⟨whole, named.1, named.2⟩⟩

/-- The position behind the block is inside when the block is. -/
theorem ensures_behindBlock {ε : Type} {header : Header} {condition : List UInt8 → Prop} :
    (behindBlock header bytes : Scan ε _).Ensures condition ↔
      8 + header.blockLength.toNat ≤ bytes.length ∧ condition (bytes.drop (8 + header.blockLength.toNat)) := by
  unfold behindBlock
  split <;> simp_all

/-- A checked text goes on when it is found. -/
theorem ensures_decodeVarData {ε : Type} {error : ε} {rest : List UInt8} {condition : Text × List UInt8 → Prop} :
    (decodeVarData error rest).Ensures condition ↔ ∀ found, checkedData rest = some found → condition found := by
  unfold decodeVarData
  split <;> simp_all

/-- The fragment holds the fields of the block up to the first one outside of its enumeration, or all of them. -/
def BlockHeld (bytes : List UInt8) (all : Prop) : List (Nat × List UInt8) → Prop
  | [] => all
  | (offset, known) :: choices =>
      offset < bytes.length ∧ (uint8.decode (bytes.drop offset) ∈ known → BlockHeld bytes all choices)

/-- No text is always inside. -/
theorem texts_none {condition : Prop} {rest : List UInt8} :
    ((afterTexts 0 rest).isSome → condition) ↔ condition := by
  simp [afterTexts]

/-- Checked data fields in a row are passed when the bytes hold all of them. -/
theorem texts_more {condition : Prop} {count : Nat} {rest : List UInt8} :
    ((afterTexts (count + 1) rest).isSome → condition) ↔
      ∀ text behind, checkedData rest = some (text, behind) → (afterTexts count behind).isSome → condition := by
  rw [afterTexts, ← checkedData_behind]
  cases checkedData rest with
  | none => simp
  | some found =>
      simp only [Option.map_some, Option.bind_some, Option.some.injEq]
      constructor
      · intro passed text behind same
        rw [same] at passed
        exact passed
      · intro passed
        exact passed found.1 found.2 rfl

/-- Behind the block of the codec the data fields are those of the layout. -/
theorem whole_of_texts {layout : Layout} (current : Current layout.codec bytes) (plain : layout.group = none)
    (inside : 8 + layout.codec.blockLength.toNat ≤ bytes.length)
    (texts : (afterTexts layout.texts (bytes.drop (8 + (messageHeader.decode bytes).blockLength.toNat))).isSome) :
    Whole layout bytes := by
  rw [current.blockLength] at texts
  refine ⟨current, ?_⟩
  rw [Layout.behind, if_pos inside, plain, Option.elim_none, Option.bind_some]
  exact texts

/-- A group of the layout has its entries behind its dimensions. -/
theorem whole_of_group (layout : Layout) {texts : Nat} {behind : List UInt8} (current : Current layout.codec bytes)
    (grouped : layout.group = some texts) (inside : 8 + layout.codec.blockLength.toNat + 4 ≤ bytes.length)
    (walked : afterEntries (uint16.decode (bytes.drop (8 + layout.codec.blockLength.toNat))).toNat texts
      (uint16.decode (bytes.drop (8 + layout.codec.blockLength.toNat + 2))).toNat
      (bytes.drop (8 + layout.codec.blockLength.toNat + 4)) = some behind)
    (last : (afterTexts layout.texts behind).isSome) : Whole layout bytes := by
  refine ⟨current, ?_⟩
  have start : 4 ≤ (bytes.drop (8 + layout.codec.blockLength.toNat)).length := by
    rw [List.length_drop]
    omega
  rw [Layout.behind, if_pos (by omega), grouped, Option.elim_some, afterGroup, if_pos start, List.drop_drop,
    List.drop_drop, walked, Option.bind_some]
  exact last

/-- The block and the data fields behind the position that the header gives. -/
def Passed (texts : Nat) (bytes : List UInt8) (condition : Prop) : Prop :=
  8 + (messageHeader.decode bytes).blockLength.toNat ≤ bytes.length ∧
    ((afterTexts texts (bytes.drop (8 + (messageHeader.decode bytes).blockLength.toNat))).isSome → condition)

/-- With the header checks only the block has to be there. -/
theorem passed_strict (layout : Layout) (current : Current layout.codec bytes) (plain : layout.group = none) :
    Passed layout.texts bytes (Whole layout bytes) ↔ 8 + layout.codec.blockLength.toNat ≤ bytes.length := by
  unfold Passed
  constructor
  · intro passed
    have inside := passed.1
    rwa [current.blockLength] at inside
  · intro inside
    constructor
    · rwa [current.blockLength]
    · intro texts
      exact whole_of_texts current plain inside texts

/-- Without the header checks a message of another kind must not be passed. -/
theorem passed_lax (layout : Layout) (plain : layout.group = none)
    (inside : 8 + layout.codec.blockLength.toNat ≤ bytes.length) :
    Passed layout.texts bytes (Whole layout bytes) ↔
      (¬ Current layout.codec bytes → Passed layout.texts bytes False) := by
  constructor
  · intro passed other
    exact ⟨passed.1, fun texts => other (passed.2 texts).current⟩
  · intro passed
    by_cases current : Current layout.codec bytes
    · exact (passed_strict layout current plain).mpr inside
    · exact ⟨(passed current).1, fun texts => absurd texts (passed current).2⟩

theorem passed_one {condition : Prop} :
    (8 + (messageHeader.decode bytes).blockLength.toNat ≤ bytes.length ∧
      ∀ text behind, checkedData (bytes.drop (8 + (messageHeader.decode bytes).blockLength.toNat)) = some (text,
        behind) → condition) ↔ Passed 1 bytes condition := by
  simp only [Passed, texts_more, texts_none]

theorem passed_two {condition : Prop} :
    (8 + (messageHeader.decode bytes).blockLength.toNat ≤ bytes.length ∧
      ∀ text behind, checkedData (bytes.drop (8 + (messageHeader.decode bytes).blockLength.toNat)) = some (text,
        behind) → ∀ text later, checkedData behind = some (text, later) → condition) ↔ Passed 2 bytes condition := by
  simp only [Passed, texts_more, texts_none]

theorem passed_three {condition : Prop} :
    (8 + (messageHeader.decode bytes).blockLength.toNat ≤ bytes.length ∧
      ∀ text behind, checkedData (bytes.drop (8 + (messageHeader.decode bytes).blockLength.toNat)) = some (text,
        behind) → ∀ text later, checkedData behind = some (text, later) →
          ∀ text last, checkedData later = some (text, last) → condition) ↔ Passed 3 bytes condition := by
  simp only [Passed, texts_more, texts_none]

def helloLayout : Layout := { codec := ConsumerHello.codec, texts := 2 }

/-- A hello is decoded inside exactly when the block is held up to its first unknown enumeration. -/
theorem hello_inside : (decodeConsumerHello bytes).Ensures (fun _ => Whole helloLayout bytes) ↔
    (Addressed ConsumerHello.codec bytes → Current ConsumerHello.codec bytes →
      BlockHeld bytes (47 ≤ bytes.length) [(16, bools), (17, bools), (18, modes)]) := by
  unfold decodeConsumerHello
  simp only [ensures_bind, ensures_openMessage, ensures_read, ensures_stopIf, ensures_behindBlock,
    ensures_decodeVarData, ensures_value, Prod.forall, forall_const, not_not, width_uint8, width_uint32, passed_two]
  apply forall_congr'
  intro addressed
  apply forall_congr'
  intro current
  have tail : Passed 2 bytes (Whole helloLayout bytes) ↔ 47 ≤ bytes.length := passed_strict helloLayout current rfl
  simp only [tail, BlockHeld]
  grind

def configLayout : Layout := { codec := ConsumerConfig.codec, texts := 3 }

/-- A consumer configuration is decoded inside exactly when its block is held so. -/
theorem config_inside : (decodeConsumerConfig bytes).Ensures (fun _ => Whole configLayout bytes) ↔
    (Addressed ConsumerConfig.codec bytes → Current ConsumerConfig.codec bytes →
      BlockHeld bytes (26 ≤ bytes.length) [(16, bools), (17, modes)]) := by
  unfold decodeConsumerConfig
  simp only [ensures_bind, ensures_openMessage, ensures_read, ensures_stopIf, ensures_behindBlock,
    ensures_decodeVarData, ensures_value, Prod.forall, forall_const, not_not, width_uint8, width_uint32, passed_three]
  apply forall_congr'
  intro addressed
  apply forall_congr'
  intro current
  have tail : Passed 3 bytes (Whole configLayout bytes) ↔ 26 ≤ bytes.length := passed_strict configLayout current rfl
  simp only [tail, BlockHeld]
  grind

def chunkLayout : Layout := { codec := MetaBlob.chunkCodec, texts := 1 }

/-- A chunk is decoded inside exactly when its block is. -/
theorem chunk_inside : (decodeMetaBlobChunk bytes).Ensures (fun _ => Whole chunkLayout bytes) ↔
    (Addressed MetaBlob.chunkCodec bytes → Current MetaBlob.chunkCodec bytes → 24 ≤ bytes.length) := by
  unfold decodeMetaBlobChunk
  simp only [ensures_bind, ensures_openMessage, ensures_read, ensures_behindBlock, ensures_decodeVarData,
    ensures_value, Prod.forall, forall_const, width_uint32, width_uint64, passed_one]
  apply forall_congr'
  intro addressed
  apply forall_congr'
  intro current
  have tail : Passed 1 bytes (Whole chunkLayout bytes) ↔ 24 ≤ bytes.length := passed_strict chunkLayout current rfl
  rw [tail]
  omega

def announceLayout : Layout := { codec := DataSourceAnnounce.codec, texts := 2 }

/-- A source announce is decoded inside exactly when its block is and, for another version or length, its texts are
not. -/
theorem dataSourceAnnounce_inside : (decodeDataSourceAnnounce bytes).Ensures (fun _ => Whole announceLayout bytes) ↔
    (Addressed DataSourceAnnounce.codec bytes →
      28 ≤ bytes.length ∧ (¬ Current DataSourceAnnounce.codec bytes → Passed 2 bytes False)) := by
  unfold decodeDataSourceAnnounce
  simp only [ensures_bind, ensures_openMessage, ensures_read, ensures_behindBlock, ensures_decodeVarData,
    ensures_value, Prod.forall, Bool.false_eq_true, false_implies, forall_const, width_uint32, width_uint64,
      passed_two]
  apply forall_congr'
  intro addressed
  constructor
  · intro ensured
    obtain ⟨-, -, -, inside, passed⟩ := ensured
    exact ⟨inside, (passed_lax announceLayout rfl inside).mp passed⟩
  · intro held
    obtain ⟨inside, passed⟩ := held
    refine ⟨?_, ?_, ?_, inside, (passed_lax announceLayout rfl inside).mpr passed⟩ <;> omega

def responseLayout : Layout := { codec := ControlResponse.codec, texts := 1 }

/-- A control response is decoded inside exactly when its block is and, for another version or length, its text is
not. -/
theorem controlResponse_inside : (decodeControlResponse bytes).Ensures (fun _ => Whole responseLayout bytes) ↔
    (Addressed ControlResponse.codec bytes →
      20 ≤ bytes.length ∧ (int32.decode (bytes.drop 16) ∈ responseCodes →
        ¬ Current ControlResponse.codec bytes → Passed 1 bytes False)) := by
  unfold decodeControlResponse
  simp only [ensures_bind, ensures_openMessage, ensures_read, ensures_stopIf, ensures_behindBlock,
    ensures_decodeVarData, ensures_value, Prod.forall, Bool.false_eq_true, false_implies, forall_const, not_not,
      passed_one]
  apply forall_congr'
  intro addressed
  constructor
  · intro ensured
    obtain ⟨-, inside, passed⟩ := ensured
    exact ⟨inside, fun known => (passed_lax responseLayout rfl inside).mp (passed known)⟩
  · intro held
    obtain ⟨inside, passed⟩ := held
    refine ⟨?_, inside, fun known => (passed_lax responseLayout rfl inside).mpr (passed known)⟩
    change 16 ≤ _
    omega

/-- A message of a block alone is whole when its header and its block are there. -/
theorem whole_block {codec : Codec} :
    Whole { codec } bytes ↔ Current codec bytes ∧ 8 + codec.blockLength.toNat ≤ bytes.length := by
  constructor
  · intro whole
    exact ⟨whole.current, whole.inside⟩
  · intro held
    refine ⟨held.1, ?_⟩
    rw [Layout.behind, if_pos held.2]
    rfl

theorem metaBlobAnnounce_inside :
    (decodeMetaBlobAnnounce bytes).Ensures (fun _ => Whole { codec := MetaBlob.announceCodec } bytes) ↔
      (Addressed MetaBlob.announceCodec bytes → Current MetaBlob.announceCodec bytes ∧ 36 ≤ bytes.length) := by
  unfold decodeMetaBlobAnnounce
  simp only [ensures_bind, ensures_openMessage, ensures_read, ensures_value, Bool.false_eq_true, false_implies,
    forall_const, width_uint32, width_uint64, whole_block]
  apply forall_congr'
  intro addressed
  change _ ∧ _ ∧ _ ∧ _ ∧ _ ∧ _ ∧ 36 ≤ _ ↔ _
  grind

theorem metaBlobComplete_inside :
    (decodeMetaBlobComplete bytes).Ensures (fun _ => Whole { codec := MetaBlob.completeCodec } bytes) ↔
      (Addressed MetaBlob.completeCodec bytes → Current MetaBlob.completeCodec bytes ∧ 24 ≤ bytes.length) := by
  unfold decodeMetaBlobComplete
  simp only [ensures_bind, ensures_openMessage, ensures_read, ensures_value, Bool.false_eq_true, false_implies,
    forall_const, width_uint32, width_uint64, whole_block]
  apply forall_congr'
  intro addressed
  change _ ∧ _ ∧ _ ∧ _ ∧ 24 ≤ _ ↔ _
  grind

theorem frameDescriptor_inside :
    (decodeFrameDescriptor bytes).Ensures (fun _ => Whole { codec := FrameDescriptor.codec } bytes) ↔
      (Addressed FrameDescriptor.codec bytes → Current FrameDescriptor.codec bytes ∧ 48 ≤ bytes.length) := by
  unfold decodeFrameDescriptor
  simp only [ensures_bind, ensures_openFrame, ensures_read, ensures_value, width_uint32, width_uint64, whole_block]
  apply forall_congr'
  intro addressed
  change _ ∧ _ ∧ _ ∧ _ ∧ _ ∧ _ ∧ _ ∧ 48 ≤ _ ↔ _
  grind

theorem frameProgress_inside :
    (decodeFrameProgress bytes).Ensures (fun _ => Whole { codec := FrameProgress.codec } bytes) ↔
      (Addressed FrameProgress.codec bytes → Current FrameProgress.codec bytes ∧ 37 ≤ bytes.length) := by
  unfold decodeFrameProgress
  simp only [ensures_bind, ensures_openFrame, ensures_read, ensures_value, width_uint8, width_uint32, width_uint64,
    whole_block]
  apply forall_congr'
  intro addressed
  change _ ∧ _ ∧ _ ∧ _ ∧ _ ∧ _ ∧ 37 ≤ _ ↔ _
  grind

/-- The head of a group goes on when it is inside. -/
theorem ensures_checkedGroup {ε : Type} {error : ε} {rest : List UInt8} {condition : Nat × Nat × List UInt8 → Prop} :
    (checkedGroup error rest).Ensures condition ↔
      (4 ≤ rest.length →
        condition ((uint16.decode rest).toNat, (uint16.decode (rest.drop 2)).toNat, rest.drop 4)) := by
  unfold checkedGroup
  split
  next short =>
    simp only [ensures_stop, true_iff]
    intro inside
    omega
  next inside => simp only [ensures_value, Nat.le_of_not_lt inside, forall_const]

/-- An entry goes on when its block is inside. -/
theorem ensures_checkedEntry {ε : Type} {error : ε} {blockLength : Nat} {rest : List UInt8}
    {condition : List UInt8 → Prop} :
    (checkedEntry error blockLength rest).Ensures condition ↔
      (blockLength ≤ rest.length → condition (rest.drop blockLength)) := by
  unfold checkedEntry nextEntry
  by_cases inside : blockLength ≤ rest.length
  · rw [if_pos inside]
    simp only [ensures_value, inside, forall_const]
  · rw [if_neg inside]
    simp only [ensures_stop, inside, false_implies]

/-- Each entry up to the end of the walk has room for the fields of a pool, also when the group declares less. -/
def PoolsHeld (blockLength : Nat) : Nat → List UInt8 → Prop
  | 0, _ => True
  | count + 1, rest =>
      blockLength ≤ rest.length → 10 ≤ rest.length ∧
        ∀ behind, afterData (rest.drop blockLength) = some behind → PoolsHeld blockLength count behind

theorem checkedData_all {rest : List UInt8} {condition : List UInt8 → Prop} :
    (∀ text behind, checkedData rest = some (text, behind) → condition behind) ↔
      ∀ behind, afterData rest = some behind → condition behind := by
  rw [← checkedData_behind]
  cases checkedData rest with
  | none => simp
  | some found =>
      simp only [Option.map_some, Option.some.injEq]
      constructor
      · intro passed behind same
        exact same ▸ passed found.1 found.2 rfl
      · intro passed text behind same
        exact passed behind (congrArg Prod.snd same)

/-- The loop over the pools stays inside when each entry has room for its fields. -/
theorem ensures_pools (condition : List UInt8 → Prop) {blockLength count : Nat} {rest : List UInt8} :
    (entries (decodePoolDesc blockLength) count rest).Ensures (fun found => condition found.2) ↔
      PoolsHeld blockLength count rest ∧
        ∀ behind, afterEntries blockLength 1 count rest = some behind → condition behind := by
  induction count generalizing rest with
  | zero => simp [entries, PoolsHeld, afterEntries]
  | succ count hypothesis =>
      rw [entries]
      simp only [ensures_bind, decodePoolDesc, ensures_checkedEntry, ensures_read, ensures_decodeVarData,
        ensures_value, Prod.forall, width_uint16, width_uint32, checkedData_all, hypothesis]
      by_cases block : blockLength ≤ rest.length
      · simp only [block, forall_const, PoolsHeld, afterEntries, if_true, afterTexts, Option.bind_eq_some_iff]
        grind
      · simp only [block, false_implies, PoolsHeld, afterEntries, if_false, true_iff, true_and]
        intro behind none
        cases none

def poolsLayout : Layout := { codec := ShmPoolAnnounce.codec, group := some 1, texts := 1 }

/-- An announce is decoded inside exactly when its block, its group and each entered pool are. -/
theorem shmPoolAnnounce_inside :
    (∀ allocates, (decodeShmPoolAnnounce allocates bytes).Ensures (fun _ => Whole poolsLayout bytes)) ↔
      (Addressed ShmPoolAnnounce.codec bytes → Current ShmPoolAnnounce.codec bytes →
        43 ≤ bytes.length ∧ (uint8.decode (bytes.drop 32) ∈ clockDomains → 47 ≤ bytes.length →
          PoolsHeld (uint16.decode (bytes.drop 43)).toNat (uint16.decode (bytes.drop 45)).toNat
            (bytes.drop 47))) := by
  unfold decodeShmPoolAnnounce
  simp only [ensures_bind, ensures_openMessage, ensures_read, ensures_stopIf, ensures_behindBlock,
    ensures_checkedGroup, ensures_decodeVarData, ensures_value, Prod.forall, forall_const, not_not, width_uint8,
      width_uint16, width_uint32,
    width_uint64, checkedData_all]
  have walk {count blockLength : Nat} {rest : List UInt8} := @ensures_pools
    (fun rest => ∀ behind, afterData rest = some behind → Whole poolsLayout bytes) blockLength count rest
  simp only [walk, List.drop_drop, List.length_drop]
  constructor
  · intro ensured addressed current
    obtain ⟨-, -, -, -, -, -, inside, -, walked⟩ := ensured true addressed current
    refine ⟨inside, fun known room => ?_⟩
    have walked := (walked known).2
    rw [current.blockLength] at walked
    exact (walked (Nat.le_sub_of_add_le room) (by simp)).1
  · intro held allocates addressed current
    obtain ⟨inside, pools⟩ := held addressed current
    refine ⟨?_, ?_, ?_, ?_, ?_, ?_, inside, ?_, fun known => ⟨?_, fun room _ => ?_⟩⟩ <;> try omega
    · rw [current.blockLength]
      exact inside
    · rw [current.blockLength] at room ⊢
      have room : 47 ≤ bytes.length := by
        change 4 ≤ bytes.length - 43 at room
        omega
      refine ⟨pools known room, fun behind walked last found => ?_⟩
      apply whole_of_group poolsLayout current rfl room walked
      change ((afterData behind).bind (afterTexts 0)).isSome
      rw [found]
      rfl

theorem passed_bind {α β : Type} {found : Option α} {next : α → Option β} {condition : Prop} :
    (∀ result, found = some result → (next result).isSome → condition) ↔ ((found.bind next).isSome → condition) := by
  cases found <;> simp

/-- Every attribute that the callback gets is passed by the walk. -/
theorem ensures_attributes {blockLength count : Nat} {met : List MetaAttribute} {rest : List UInt8}
    {condition : Prop} :
    (decodeAttributes blockLength count met rest).Ensures (fun _ => condition) ↔
      ((afterEntries blockLength 3 count rest).isSome → condition) := by
  induction count generalizing met rest with
  | zero => simp [decodeAttributes, afterEntries]
  | succ count hypothesis =>
      rw [decodeAttributes]
      simp only [ensures_bind, ensures_mapStop, decodeAttribute, ensures_checkedEntry, ensures_decodeVarData,
        ensures_value, Prod.forall, checkedData_all, hypothesis]
      by_cases block : blockLength ≤ rest.length
      · simp only [block, forall_const, afterEntries, if_true, afterTexts, passed_bind, Option.bind_assoc,
          Option.bind_some]
      · simp [block, afterEntries]

def metaLayout (callback : Bool) : Layout :=
  { codec := DataSourceMeta.codec, group := if callback then some 3 else none }

/-- A source description is decoded inside exactly when its block is. -/
theorem dataSourceMeta_inside :
    (∀ callback, (decodeDataSourceMeta callback bytes).Ensures (fun _ => Whole (metaLayout callback) bytes)) ↔
      (Addressed DataSourceMeta.codec bytes → Current DataSourceMeta.codec bytes → 24 ≤ bytes.length) := by
  unfold decodeDataSourceMeta
  simp only [ensures_bind, ensures_mapStop, ensures_openMessage, ensures_read, ensures_behindBlock,
    ensures_checkedGroup, forall_const, width_uint32, width_uint64]
  constructor
  · intro ensured addressed current
    exact (ensured true addressed current).2.2.1
  · intro held callback addressed current
    have inside := held addressed current
    rw [current.blockLength]
    refine ⟨by omega, by omega, inside, inside, fun room => ?_⟩
    cases callback with
    | false => exact whole_block.mpr ⟨current, inside⟩
    | true =>
        rw [if_pos rfl, ensures_bind]
        apply ensures_attributes.mpr
        intro walked
        obtain ⟨behind, walked⟩ := Option.isSome_iff_exists.mp walked
        rw [List.drop_drop, List.drop_drop] at walked
        have room : 24 + 4 ≤ bytes.length := by
          rw [List.length_drop] at room
          change 4 ≤ bytes.length - 24 at room
          omega
        exact whole_of_group (metaLayout true) current rfl room walked rfl

end TensorPool.Wire
