/-
This file shows when the merge-map encoders respect their buffer.
-/

import TensorPool.Merge.Encode

namespace TensorPool.Merge

open FixedField

/-- The setters of a block stay inside of it and reach its end. -/
structure Spans (setters : List FieldStore) (width : Nat) : Prop where
  inside : ∀ store ∈ setters, store.last ≤ width
  reaches : ∃ store ∈ setters, store.last = width

section Stores

variable {stores setters : List FieldStore} {base width length total : Nat} {encoding : Encoding}

/-- A shifted store ends later by the shift. -/
theorem place_last (store : FieldStore) (base : Nat) : (store.shift base).last = base + store.last :=
  Nat.add_assoc ..

/-- A block is stored inside of the buffer exactly when it ends there. -/
theorem Spans.placed (spans : Spans setters width) :
    (∀ store ∈ place base setters, store.last ≤ length) ↔ base + width ≤ length := by
  rw [place, List.forall_mem_map]
  constructor
  · intro inside
    obtain ⟨store, member, last⟩ := spans.reaches
    have bound := inside store member
    rw [place_last, last] at bound
    exact bound
  · intro fits store member
    have bound := spans.inside store member
    rw [place_last]
    omega

/-- Stores in front of an encoding stay inside when they and the encoding do. -/
theorem forall_after (stores : List FieldStore) (encoding : Encoding) :
    (∀ store ∈ (encoding.after stores).stores, store.last ≤ length) ↔
      (∀ store ∈ stores, store.last ≤ length) ∧ ∀ store ∈ encoding.stores, store.last ≤ length :=
  List.forall_mem_append

/-- Stores inside of the buffer do not matter. -/
theorem respects_after (inside : ∀ store ∈ stores, store.last ≤ length) :
    RespectsBuffer length total (encoding.after stores) ↔ RespectsBuffer length total encoding := by
  constructor
  · intro respects
    exact ⟨((forall_after _ _).mp respects.inside).2, respects.defined, respects.refused, respects.reported⟩
  · intro respects
    exact ⟨(forall_after _ _).mpr ⟨inside, respects.inside⟩, respects.defined, respects.refused, respects.reported⟩

/-- An encoding that is refused at once respects its buffer. -/
theorem respects_rejected (text : String) : RespectsBuffer length total ⟨[], .rejected text⟩ where
  inside := fun _ absent => absurd absent List.not_mem_nil
  defined := fun same => (by cases same)
  refused := fun _ => ⟨text, rfl⟩
  reported := fun _ same => (by cases same)

/-- An undefined encoding respects no buffer. -/
theorem not_respects_undefined : ¬ RespectsBuffer length total ⟨stores, .undefined⟩ :=
  fun respects => respects.defined rfl

/-- A reported length is right when it is the whole one and fits. -/
theorem respects_written (outLen : Nat) :
    RespectsBuffer length total ⟨[], .written outLen⟩ ↔ outLen = total ∧ total ≤ length := by
  constructor
  · intro respects
    obtain ⟨same, fits⟩ := respects.reported outLen rfl
    exact ⟨same, same ▸ fits⟩
  · intro both
    obtain ⟨rfl, fits⟩ := both
    constructor
    · exact fun _ absent => absurd absent List.not_mem_nil
    · exact fun same => (by cases same)
    · intro short
      omega
    · intro other same
      cases same
      exact ⟨rfl, fits⟩

/-- Setters span a block when their ends do. -/
theorem Spans.of_ends {ends : List Nat} (same : setters.map FieldStore.last = ends)
    (bounded : ∀ last ∈ ends, last ≤ width) (reached : width ∈ ends) : Spans setters width := by
  subst same
  constructor
  · exact List.forall_mem_map.mp bounded
  · exact List.mem_map.mp reached

/-- The setters of the header span it. -/
theorem header_spans (header : MessageHeader) : Spans (headerSetters header) messageHeaderLength :=
  Spans.of_ends (show _ = [2, 4, 6, 8] from rfl) (by decide) (by decide)

/-- The setters of the head of a group span it. -/
theorem group_spans (entryLength count : Nat) : Spans (groupSetters entryLength count) groupHeaderLength :=
  Spans.of_ends (show _ = [2, 4] from rfl) (by decide) (by decide)

/-- The setters of a sequence map span its block. -/
theorem sequenceRoot_spans (map : SequenceMergeMap) : Spans (sequenceRootSetters map) sequenceBlockLength.toNat :=
  Spans.of_ends (show _ = [4, 12, 20] from rfl) (by decide) (by decide)

/-- The setters of a timestamp map span its block. -/
theorem timestampRoot_spans (map : TimestampMergeMap) : Spans (timestampRootSetters map) timestampBlockLength.toNat :=
  Spans.of_ends (show _ = [4, 12, 21, 20, 29] from rfl) (by decide) (by decide)

/-- The setters of a request span its block. -/
theorem request_spans (outStreamId : UInt32) (epoch : UInt64) :
    Spans (requestSetters outStreamId epoch) requestBlockLength.toNat :=
  Spans.of_ends (show _ = [4, 12] from rfl) (by decide) (by decide)

/-- The two alternatives of a rule are set in different orders. -/
theorem sequenceRule_spans (rule : SequenceMergeRule) : Spans (sequenceRuleSetters rule) sequenceEntryLength := by
  rw [sequenceRuleSetters]
  split
  · exact Spans.of_ends (show _ = [4, 5, 9, 13] from rfl) (by decide) (by decide)
  · exact Spans.of_ends (show _ = [4, 5, 13, 9] from rfl) (by decide) (by decide)

/-- The setters of a timestamp rule span its entry. -/
theorem timestampRule_spans (rule : TimestampMergeRule) : Spans (timestampRuleSetters rule) timestampEntryLength := by
  rw [timestampRuleSetters]
  split
  · exact Spans.of_ends (show _ = [4, 5, 6, 14, 22] from rfl) (by decide) (by decide)
  · exact Spans.of_ends (show _ = [4, 5, 6, 22, 14] from rfl) (by decide) (by decide)

end Stores

section Announce

variable {Rule : Type} {name : String} {valid : Rule → Bool} {setters : Rule → List FieldStore}
  {entryLength length position : Nat} {rules : List Rule}

/-- The leading rules end with the first one that is not valid. -/
theorem leadingRules_cons (rule : Rule) (rest : List Rule) :
    leadingRules valid (rule :: rest) = if valid rule then leadingRules valid rest + 1 else 0 := by
  rw [leadingRules, List.takeWhile_cons]
  split
  · rfl
  · rfl

/-- The entries respect the buffer exactly when the ones before the first invalid rule fit. -/
theorem encodeRules_respects (spans : ∀ rule, Spans (setters rule) entryLength) (fits : position ≤ length) :
    RespectsBuffer length (position + rules.length * entryLength)
        (encodeRules name valid setters entryLength length position rules) ↔
      position + leadingRules valid rules * entryLength ≤ length := by
  induction rules generalizing position with
  | nil =>
      rw [encodeRules, respects_written]
      simp [leadingRules, fits]
  | cons rule rest hypothesis =>
      rw [encodeRules, leadingRules_cons]
      cases known : valid rule with
      | false =>
          rw [Bool.not_false, if_pos rfl, if_neg Bool.false_ne_true]
          apply iff_of_true (respects_rejected _)
          omega
      | true =>
          rw [Bool.not_true, if_neg Bool.false_ne_true, if_pos rfl, Nat.add_one_mul]
          have whole : position + (rule :: rest).length * entryLength =
              position + entryLength + rest.length * entryLength := by
            rw [List.length_cons, Nat.add_one_mul]
            omega
          by_cases room : position + entryLength ≤ length
          · rw [respects_after ((spans rule).placed.mpr room), if_neg (Nat.not_lt.mpr room), whole, hypothesis room]
            omega
          · constructor
            · intro respects
              exact absurd ((spans rule).placed.mp ((forall_after _ _).mp respects.inside).1) room
            · intro enough
              omega

/-- The group respects the buffer where its header and the entries fit, or where the first rule stops the encoder. -/
theorem encodeGroup_respects (spans : ∀ rule, Spans (setters rule) entryLength) :
    RespectsBuffer length (position + groupHeaderLength + rules.length * entryLength)
        (encodeGroup name valid setters entryLength length position rules) ↔
      rules.head?.any (fun rule => !valid rule) = true ∨
        rules.length ≤ groupMax ∧
          position + groupHeaderLength + leadingRules valid rules * entryLength ≤ length := by
  unfold encodeGroup
  by_cases refused : groupMax < rules.length ∨ position + groupHeaderLength > length
  · have bound : ¬ (rules.length ≤ groupMax ∧
        position + groupHeaderLength + leadingRules valid rules * entryLength ≤ length) := by omega
    rw [if_pos (by simpa using refused), or_iff_left bound]
    cases rules with
    | nil =>
        have small : ¬ groupMax < ([] : List Rule).length := Nat.not_lt_zero _
        rw [respects_written]
        simp only [List.head?_nil, Option.any_none, List.length_nil, Bool.false_eq_true, iff_false, not_and]
        intro same
        omega
    | cons rule rest =>
        rw [List.head?_cons, Option.any_some]
        cases known : valid rule with
        | false =>
            simp only [known, Bool.not_false, if_pos]
            exact iff_of_true (respects_rejected _) trivial
        | true =>
            simp only [known, Bool.not_true, Bool.false_eq_true, if_false]
            exact iff_of_false not_respects_undefined (fun absurdity => absurdity)
  · rw [not_or, Nat.not_lt, Nat.not_lt] at refused
    rw [if_neg (by simpa using refused), respects_after ((group_spans entryLength rules.length).placed.mpr refused.2),
      encodeRules_respects spans refused.2, and_iff_right refused.1]
    constructor
    · exact Or.inr
    · intro either
      cases either with
      | inr enough => exact enough
      | inl stopped =>
          cases rules with
          | nil => cases stopped
          | cons rule rest =>
              rw [List.head?_cons, Option.any_some, Bool.not_eq_true'] at stopped
              rw [leadingRules_cons, stopped]
              have room := refused.2
              simpa using room

/-- The encoder of a map respects its buffer exactly when there is room for what it writes. -/
theorem encodeMap_respects (header : MessageHeader) {root : List FieldStore}
    (spans : ∀ rule, Spans (setters rule) entryLength)
    (rootSpans : Spans root header.blockLength.toNat) :
    RespectsBuffer length (announceLength header.blockLength.toNat entryLength rules.length)
        (encodeMap name valid setters entryLength length header root rules) ↔
      RoomFor valid header.blockLength.toNat entryLength length rules := by
  rw [encodeMap, RoomFor]
  by_cases many : 65535 < rules.length
  · rw [if_pos many]
    exact iff_of_true (respects_rejected _) (Or.inl many)
  · rw [if_neg many, or_iff_right many]
    by_cases short : length < messageHeaderLength
    · rw [if_pos short]
      apply iff_of_false not_respects_undefined
      intro room
      omega
    · rw [if_neg short]
      by_cases room : messageHeaderLength + header.blockLength.toNat ≤ length
      · have inside : ∀ store ∈ headerSetters header ++ place messageHeaderLength root, store.last ≤ length := by
          rw [List.forall_mem_append]
          constructor
          · intro store member
            exact Nat.le_trans ((header_spans header).inside store member) (Nat.not_lt.mp short)
          · exact rootSpans.placed.mpr room
        rw [if_neg (Nat.not_lt.mpr room), respects_after inside, and_iff_right room]
        exact encodeGroup_respects spans
      · rw [if_pos (Nat.not_le.mp room)]
        exact iff_of_false not_respects_undefined fun both => room both.1

end Announce

/-- A request has no group, so the whole message fits or the encoder does not respect the buffer. -/
theorem encodeRequest_respects {length : Nat} (header : MessageHeader) {block : List FieldStore}
    (spans : Spans block header.blockLength.toNat) :
    RespectsBuffer length (header.blockLength.toNat + messageHeaderLength) (encodeRequest length header block) ↔
      header.blockLength.toNat + messageHeaderLength ≤ length := by
  rw [encodeRequest]
  by_cases short : length < messageHeaderLength
  · rw [if_pos short]
    apply iff_of_false not_respects_undefined
    omega
  · rw [if_neg short]
    constructor
    · intro respects
      exact (respects.reported _ rfl).2
    · intro fits
      have inside : ∀ store ∈ headerSetters header ++ place messageHeaderLength block, store.last ≤ length := by
        rw [List.forall_mem_append]
        constructor
        · intro store member
          exact Nat.le_trans ((header_spans header).inside store member) (Nat.not_lt.mp short)
        · exact spans.placed.mpr (by omega)
      have ends : RespectsBuffer length (header.blockLength.toNat + messageHeaderLength)
          ⟨[], .written (header.blockLength.toNat + messageHeaderLength)⟩ := (respects_written _).mpr ⟨rfl, fits⟩
      have all := (respects_after inside).mpr ends
      rw [Encoding.after, List.append_nil] at all
      exact all

/-- The encoders respect their buffer exactly where there is room for what they store before they end. -/
theorem encoders_respect_iff (length : Nat) (sequence : SequenceMergeMap) (timestamp : TimestampMergeMap)
    (outStreamId : UInt32) (epoch : UInt64) :
    (RespectsBuffer length (announceLength 20 13 sequence.rules.length) (sequenceMapEncoding length sequence) ↔
        RoomFor sequenceRuleValid 20 13 length sequence.rules) ∧
      (RespectsBuffer length (announceLength 29 22 timestamp.rules.length) (timestampMapEncoding length timestamp) ↔
        RoomFor timestampRuleValid 29 22 length timestamp.rules) ∧
      (RespectsBuffer length 20 (sequenceRequestEncoding length outStreamId epoch) ↔ 20 ≤ length) ∧
      (RespectsBuffer length 20 (timestampRequestEncoding length outStreamId epoch) ↔ 20 ≤ length) := by
  constructor
  · exact encodeMap_respects ⟨sequenceBlockLength, sequenceTemplateId, schemaId, schemaVersion⟩ sequenceRule_spans
      (sequenceRoot_spans sequence)
  constructor
  · exact encodeMap_respects ⟨timestampBlockLength, timestampTemplateId, schemaId, schemaVersion⟩ timestampRule_spans
      (timestampRoot_spans timestamp)
  constructor
  · exact encodeRequest_respects ⟨requestBlockLength, sequenceRequestTemplateId, schemaId, schemaVersion⟩
      (request_spans outStreamId epoch)
  · exact encodeRequest_respects ⟨requestBlockLength, timestampRequestTemplateId, schemaId, schemaVersion⟩
      (request_spans outStreamId epoch)

/-- A map with one rule is stored behind the end of a buffer that has room for the group header only. -/
theorem rule_stored_outside :
    ⟨36, uint8.encode 0⟩ ∈ (sequenceMapEncoding 36 ⟨1, 1, nullU64, [⟨7, .offset, 0, 0⟩]⟩).stores ∧
      (sequenceMapEncoding 36 ⟨1, 1, nullU64, [⟨7, .offset, 0, 0⟩]⟩).result = .written 32 ∧
      ¬ RespectsBuffer 36 (announceLength 20 13 1)
        (sequenceMapEncoding 36 ⟨1, 1, nullU64, [⟨7, .offset, 0, 0⟩]⟩) := by
  have stored : ⟨36, uint8.encode 0⟩ ∈ (sequenceMapEncoding 36 ⟨1, 1, nullU64, [⟨7, .offset, 0, 0⟩]⟩).stores := by
    decide
  constructor
  · exact stored
  constructor
  · rfl
  · intro respects
    exact absurd (respects.inside _ stored) (by decide)

end TensorPool.Merge
