/-
This file shows which merge maps survive a round trip.
-/

import TensorPool.Merge.Wire
import Mathlib.Tactic.Common

namespace TensorPool.Merge

/-- What an accepted encoding holds is decoded as the expected map. -/
def RoundTrips {Map : Type} (encoded : Encoded) (decode : List UInt8 → Except String (Option Map))
    (expected : Map) : Prop :=
  match encoded with
  | .rejected _ => True
  | .undefined => False
  | .written bytes => decode bytes = .ok (some expected)

/-- The field that the rule type does not use has no value on the wire. -/
def SequenceMergeRule.carried (rule : SequenceMergeRule) : SequenceMergeRule :=
  if rule.ruleType = .offset then { rule with windowSize := 0 } else { rule with offset := 0 }

def TimestampMergeRule.carried (rule : TimestampMergeRule) : TimestampMergeRule :=
  if rule.ruleType = .offset then { rule with windowNs := 0 } else { rule with offsetNs := 0 }

/-- The parameter that the rule uses is the null value of its field. -/
def SequenceMergeRule.Reserved (rule : SequenceMergeRule) : Prop :=
  if rule.ruleType = .offset then rule.offset = offsetNullValue else rule.windowSize = windowSizeNullValue

def TimestampMergeRule.Reserved (rule : TimestampMergeRule) : Prop :=
  if rule.ruleType = .offset then rule.offsetNs = offsetNsNullValue else rule.windowNs = windowNsNullValue

section Announce

variable {Root Entry Head Rule : Type} {codec : GeneratedCodec Root Entry} {name : String}
  {header : MessageHeader} {root : Root} {head : Head} {rules : List Rule} {valid : Rule → Bool}
  {entry : Rule → Entry} {loadRoot : Root → Except String Head} {load : Entry → Except String Rule}
  {maxRules : Nat}

/-- The loop succeeds when every entry does. -/
theorem decodeRules_ok {bytes : List UInt8} {carried : Rule → Rule} {index : Nat}
    (reads : ∀ offset (inside : offset < rules.length),
      codec.entry bytes (index + offset) = some (entry rules[offset]))
    (loads : ∀ rule ∈ rules, load (entry rule) = .ok (carried rule)) :
    decodeRules codec name load bytes rules.length index = .ok (rules.map carried) := by
  induction rules generalizing index with
  | nil => rfl
  | cons rule rules hypothesis =>
      rw [List.forall_mem_cons] at loads
      have first := reads 0 (Nat.zero_lt_succ _)
      rw [List.length_cons, decodeRules, decodeRule]
      rw [Nat.add_zero, List.getElem_cons_zero] at first
      simp only [first, loads.1]
      rw [hypothesis _ loads.2]
      · rfl
      · intro offset inside
        have later := reads (offset + 1) (Nat.succ_lt_succ inside)
        rw [List.getElem_cons_succ] at later
        rw [← later]
        congr 1
        omega

/-- The loop fails when some entry does. -/
theorem decodeRules_reads {bytes : List UInt8} {decoded : List Rule} {remaining index : Nat}
    (done : decodeRules codec name load bytes remaining index = .ok decoded) :
    ∀ offset < remaining, ∃ rule, decodeRule codec name load bytes (index + offset) = .ok rule := by
  induction remaining generalizing index decoded with
  | zero => exact fun offset inside => absurd inside (Nat.not_lt_zero offset)
  | succ remaining hypothesis =>
      rw [decodeRules] at done
      cases first : decodeRule codec name load bytes index with
      | error text => simp [first] at done
      | ok rule =>
          cases rest : decodeRules codec name load bytes remaining (index + 1) with
          | error text => simp [first, rest, Except.map] at done
          | ok rules =>
              intro offset inside
              cases offset with
              | zero => exact ⟨rule, first⟩
              | succ offset =>
                  obtain ⟨later, found⟩ := hypothesis rest offset (Nat.lt_of_succ_lt_succ inside)
                  rw [Nat.add_right_comm] at found
                  exact ⟨later, found⟩

/-- A short enough announce passes every check up to its root and its rules. -/
theorem decodeAnnounce_bytes {templateId blockLength : UInt16} (few : rules.length ≤ groupMax)
    (room : rules.length ≤ maxRules) (schema : header.schemaId = schemaId)
    (template : header.templateId = templateId) (version : header.version = schemaVersion)
    (block : header.blockLength = blockLength) :
    decodeAnnounce codec name templateId blockLength loadRoot load (codec.bytes header root (rules.map entry))
        maxRules =
      match loadRoot root with
      | .error text => .error text
      | .ok head =>
        (decodeRules codec name load (codec.bytes header root (rules.map entry)) rules.length 0).map
          fun loaded => some (head, loaded) := by
  have short : (rules.map entry).length ≤ groupMax := by rwa [List.length_map]
  have bound : rules.length < 2 ^ 16 := by
    rw [groupMax] at few
    omega
  rw [decodeAnnounce, if_neg (Nat.not_lt.mpr (codec.length_bytes ..)), codec.header_bytes _ _ _ short,
    if_neg (by simp [schema, template]), if_neg (by simp [version]), if_neg (not_not.mpr block),
    codec.root_bytes _ _ _ short]
  cases loadRoot root with
  | error text => rfl
  | ok head =>
      have count : (UInt16.ofNat (rules.map entry).length).toNat = rules.length := by
        rw [List.length_map, UInt16.toNat_ofNat', Nat.mod_eq_of_lt bound]
      simp only [codec.count_bytes _ _ _ short, count]
      rw [if_neg (Nat.not_lt.mpr room)]

theorem entry_written (few : rules.length ≤ groupMax) (index : Nat) (inside : index < rules.length) :
    codec.entry (codec.bytes header root (rules.map entry)) index = some (entry rules[index]) := by
  have short : (rules.map entry).length ≤ groupMax := by rwa [List.length_map]
  rw [codec.entry_bytes _ _ _ _ short (by rwa [List.length_map]), List.getElem?_map,
    List.getElem?_eq_getElem inside, Option.map_some]

/-- The rules are all decoded, or the decoding fails. -/
theorem decodeRules_written {carried : Rule → Rule} {good : Rule → Prop} (few : rules.length ≤ groupMax)
    (loads : ∀ rule ∈ rules, good rule → load (entry rule) = .ok (carried rule))
    (fails : ∀ rule ∈ rules, ¬good rule → ∃ text, load (entry rule) = .error text) :
    ((∀ rule ∈ rules, good rule) ∧
        decodeRules codec name load (codec.bytes header root (rules.map entry)) rules.length 0 =
          .ok (rules.map carried)) ∨
      ((¬∀ rule ∈ rules, good rule) ∧
        ∃ text, decodeRules codec name load (codec.bytes header root (rules.map entry)) rules.length 0 =
          .error text) := by
  by_cases every : ∀ rule ∈ rules, good rule
  · apply Or.inl
    refine ⟨every, decodeRules_ok ?_ fun rule present => loads rule present (every rule present)⟩
    intro offset inside
    rw [Nat.zero_add]
    exact entry_written few offset inside
  · apply Or.inr
    refine ⟨every, ?_⟩
    cases done : decodeRules codec name load (codec.bytes header root (rules.map entry)) rules.length 0 with
    | error text => exact ⟨text, rfl⟩
    | ok decoded =>
        apply absurd _ every
        intro rule present
        by_contra bad
        obtain ⟨index, inside, rfl⟩ := List.getElem_of_mem present
        obtain ⟨loaded, read⟩ := decodeRules_reads done index inside
        obtain ⟨text, failed⟩ := fails _ present bad
        rw [Nat.zero_add, decodeRule, entry_written few index inside] at read
        simp [failed] at read

/-- The encoder refuses the rules, or the decoder can carry them. -/
def Survives (valid : Rule → Bool) (good : Rule → Prop) (known : Prop) (rules : List Rule) : Prop :=
  65535 < rules.length ∨ (rules.length = 65535 ∧ rules.head?.all valid = false) ∨
    (rules.length ≤ groupMax ∧ (rules.all valid = false ∨ known ∧ ∀ rule ∈ rules, good rule))

theorem encodeAnnounce_roundTrips {Map : Type} {assemble : Head × List Rule → Map}
    {decode : List UInt8 → Except String (Option Map)} {templateId blockLength : UInt16} {decoder : String}
    {carried : Rule → Rule} {good : Rule → Prop} {known : Prop} (room : rules.length ≤ maxRules)
    (schema : header.schemaId = schemaId) (template : header.templateId = templateId)
    (version : header.version = schemaVersion) (block : header.blockLength = blockLength)
    (decodes : ∀ bytes, decode bytes =
      (decodeAnnounce codec decoder templateId blockLength loadRoot load bytes maxRules).map (Option.map assemble))
    (loadsRoot : known → loadRoot root = .ok head) (failsRoot : ¬known → ∃ text, loadRoot root = .error text)
    (loads : ∀ rule, valid rule = true → good rule → load (entry rule) = .ok (carried rule))
    (fails : ∀ rule, valid rule = true → ¬good rule → ∃ text, load (entry rule) = .error text) :
    RoundTrips (encodeAnnounce codec name header root valid entry rules) decode
        (assemble (head, rules.map carried)) ↔ Survives valid good known rules := by
  rw [encodeAnnounce, Survives]
  split_ifs with many full refusable every
  · simp [RoundTrips, many]
  · simp only [RoundTrips, false_iff, not_or, not_and]
    refine ⟨many, fun _ => ?_, fun few => absurd full (Nat.not_lt.mpr few)⟩
    rw [refusable]
    decide
  · have exact : rules.length = 65535 := by
      rw [groupMax] at full
      omega
    simp [RoundTrips, exact, refusable]
  · have few : rules.length ≤ groupMax := Nat.not_lt.mp full
    have valid : ∀ rule ∈ rules, valid rule = true := List.all_eq_true.mp every
    have decided := @decodeRules_written Root Entry Rule codec decoder header root rules entry load carried good few
      (fun rule present => loads rule (valid rule present)) fun rule present => fails rule (valid rule present)
    have bound : rules.length ≤ 65534 := few
    simp only [RoundTrips, decodes, decodeAnnounce_bytes few room schema template version block]
    by_cases knows : known
    · rw [loadsRoot knows]
      rcases decided with ⟨fine, done⟩ | ⟨bad, text, failed⟩
      · simp only [done, Except.map, Option.map_some, true_iff]
        exact .inr (.inr ⟨few, .inr ⟨knows, fine⟩⟩)
      · simp only [failed, Except.map, reduceCtorEq, false_iff, not_or, not_and]
        exact ⟨many, fun full => by omega, fun _ => ⟨Bool.not_eq_false _ ▸ every, fun _ => bad⟩⟩
    · obtain ⟨text, failed⟩ := failsRoot knows
      simp only [failed, Except.map, reduceCtorEq, false_iff, not_or, not_and]
      exact ⟨many, fun full => by omega, fun _ => ⟨Bool.not_eq_false _ ▸ every, fun knows' => absurd knows' knows⟩⟩
  · simp only [RoundTrips, true_iff]
    exact .inr (.inr ⟨Nat.not_lt.mp full, .inl (Bool.eq_false_iff.mpr every)⟩)

end Announce

section Sequence

variable (codec : GeneratedCodec SequenceRoot SequenceEntry) {rule : SequenceMergeRule}

theorem loadSequenceRule_ok (valid : sequenceRuleValid rule = true) (good : ¬rule.Reserved) :
    loadSequenceRule codec (sequenceEntry rule) = .ok rule.carried := by
  obtain ⟨stream, kind, offset, window⟩ := rule
  cases kind with
  | unknown => cases valid
  | offset =>
      simp only [SequenceMergeRule.Reserved, if_pos] at good
      simp [loadSequenceRule, sequenceEntry, SequenceMergeRule.carried, MergeRuleType.code, good,
        codec.schemaRuleTypes.1]
  | window =>
      simp only [SequenceMergeRule.Reserved, reduceCtorEq, if_false] at good
      simp only [sequenceRuleValid, bne_iff_ne] at valid
      simp [loadSequenceRule, sequenceEntry, SequenceMergeRule.carried, MergeRuleType.code, good, valid,
        codec.schemaRuleTypes.2]

theorem loadSequenceRule_error (valid : sequenceRuleValid rule = true) (bad : ¬¬rule.Reserved) :
    ∃ text, loadSequenceRule codec (sequenceEntry rule) = .error text := by
  obtain ⟨stream, kind, offset, window⟩ := rule
  rw [not_not] at bad
  cases kind with
  | unknown => cases valid
  | offset =>
      simp only [SequenceMergeRule.Reserved, if_pos] at bad
      simp [loadSequenceRule, sequenceEntry, MergeRuleType.code, bad, codec.schemaRuleTypes.1]
  | window =>
      simp only [SequenceMergeRule.Reserved, reduceCtorEq, if_false] at bad
      simp [loadSequenceRule, sequenceEntry, MergeRuleType.code, bad, codec.schemaRuleTypes.2]

/-- The null value of the field is the null value of the map. -/
theorem null_kept {n : UInt64} (same : n = nullU64) (value : UInt64) :
    (if (if value = nullU64 then n else value) = n then nullU64
      else if value = nullU64 then n else value) = value := by
  subst same
  by_cases absent : value = nullU64
  · rw [absent, if_pos rfl, if_pos rfl]
  · rw [if_neg absent, if_neg absent]

/-- A sequence map comes back exactly when it is refused or no rule carries a null value. -/
theorem sequenceMergeMap_roundTrips (map : SequenceMergeMap) {maxRules : Nat}
    (room : map.rules.length ≤ maxRules) :
    RoundTrips (sequenceMergeMapEncode codec map) (fun bytes => sequenceMergeMapDecode codec bytes maxRules)
        { map with rules := map.rules.map SequenceMergeRule.carried } ↔
      Survives sequenceRuleValid (fun rule => ¬rule.Reserved) True map.rules := by
  apply @encodeAnnounce_roundTrips _ _ SequenceRoot _ codec _ _ _
    { outStreamId := map.outStreamId, epoch := map.epoch, staleTimeoutNs := map.staleTimeoutNs } map.rules
    sequenceRuleValid sequenceEntry loadSequenceRoot (loadSequenceRule codec) maxRules _ assembleSequenceMap
  · exact room
  · rfl
  · rfl
  · rfl
  · rfl
  · exact fun _ => rfl
  · intro _
    have stale := null_kept (n := staleTimeoutNullValue) rfl map.staleTimeoutNs
    simp only [loadSequenceRoot, stale]
  · exact fun impossible => absurd trivial impossible
  · exact fun rule => loadSequenceRule_ok codec
  · exact fun rule => loadSequenceRule_error codec

end Sequence

section Timestamp

variable (codec : GeneratedCodec TimestampRoot TimestampEntry) {rule : TimestampMergeRule}

theorem timestampRuleValid_source (valid : timestampRuleValid rule = true) :
    codec.knownTimestampSource rule.timestampSource.toUInt8 = true ∧
      rule.timestampSource.toUInt8.toUInt32 = rule.timestampSource := by
  rw [timestampRuleValid] at valid
  split at valid
  · cases valid
  · rename_i known
    rw [not_and_or, not_not, not_not] at known
    rcases known with same | same
    · rw [same]
      exact ⟨codec.schemaTimestampSources.1, rfl⟩
    · rw [same]
      exact ⟨codec.schemaTimestampSources.2, rfl⟩

theorem loadTimestampRule_ok (valid : timestampRuleValid rule = true) (good : ¬rule.Reserved) :
    loadTimestampRule codec (timestampEntry rule) = .ok rule.carried := by
  obtain ⟨known, same⟩ := timestampRuleValid_source codec valid
  obtain ⟨stream, kind, source, offset, window⟩ := rule
  simp only at known same
  cases kind with
  | unknown => simp [timestampRuleValid] at valid
  | offset =>
      simp only [TimestampMergeRule.Reserved, if_pos] at good
      simp [loadTimestampRule, timestampEntry, TimestampMergeRule.carried, MergeRuleType.code, good, known, same,
        codec.schemaRuleTypes.1]
  | window =>
      simp only [TimestampMergeRule.Reserved, reduceCtorEq, if_false] at good
      have size : window ≠ 0 := by
        rw [timestampRuleValid] at valid
        split at valid
        · cases valid
        · exact bne_iff_ne.mp valid
      simp [loadTimestampRule, timestampEntry, TimestampMergeRule.carried, MergeRuleType.code, good, known, same,
        size, codec.schemaRuleTypes.2]

theorem loadTimestampRule_error (valid : timestampRuleValid rule = true) (bad : ¬¬rule.Reserved) :
    ∃ text, loadTimestampRule codec (timestampEntry rule) = .error text := by
  obtain ⟨known, -⟩ := timestampRuleValid_source codec valid
  obtain ⟨stream, kind, source, offset, window⟩ := rule
  simp only at known
  rw [not_not] at bad
  cases kind with
  | unknown => simp [timestampRuleValid] at valid
  | offset =>
      simp only [TimestampMergeRule.Reserved, if_pos] at bad
      simp [loadTimestampRule, timestampEntry, MergeRuleType.code, bad, known, codec.schemaRuleTypes.1]
  | window =>
      simp only [TimestampMergeRule.Reserved, reduceCtorEq, if_false] at bad
      simp [loadTimestampRule, timestampEntry, MergeRuleType.code, bad, known, codec.schemaRuleTypes.2]

/-- A timestamp map also needs a clock domain that the getter knows. -/
theorem timestampMergeMap_roundTrips (map : TimestampMergeMap) {maxRules : Nat}
    (room : map.rules.length ≤ maxRules) :
    RoundTrips (timestampMergeMapEncode codec map) (fun bytes => timestampMergeMapDecode codec bytes maxRules)
        { map with rules := map.rules.map TimestampMergeRule.carried } ↔
      Survives timestampRuleValid (fun rule => ¬rule.Reserved) (codec.knownClockDomain map.clockDomain = true)
        map.rules := by
  apply @encodeAnnounce_roundTrips _ _ TimestampRoot _ codec _ _ _
    { outStreamId := map.outStreamId
      epoch := map.epoch
      staleTimeoutNs := map.staleTimeoutNs
      clockDomain := map.clockDomain
      latenessNs := map.latenessNs } map.rules
    timestampRuleValid timestampEntry (loadTimestampRoot codec) (loadTimestampRule codec) maxRules _
    assembleTimestampMap
  · exact room
  · rfl
  · rfl
  · rfl
  · rfl
  · exact fun _ => rfl
  · intro known
    have stale := null_kept (n := staleTimeoutNullValue) rfl map.staleTimeoutNs
    have late := null_kept (n := latenessNullValue) rfl map.latenessNs
    rw [loadTimestampRoot, if_neg (by simp [known])]
    simp only [stale, late]
  · intro unknown
    exact ⟨_, if_pos (by simp [unknown])⟩
  · exact fun rule => loadTimestampRule_ok codec
  · exact fun rule => loadTimestampRule_error codec

end Timestamp

/-- A map of either kind comes back exactly when it is refused or fits the announce. -/
theorem mergeMaps_roundTrip_iff (sequence : GeneratedCodec SequenceRoot SequenceEntry)
    (timestamp : GeneratedCodec TimestampRoot TimestampEntry) :
    (∀ (map : SequenceMergeMap) (maxRules : Nat), map.rules.length ≤ maxRules →
      (RoundTrips (sequenceMergeMapEncode sequence map)
          (fun bytes => sequenceMergeMapDecode sequence bytes maxRules)
          { map with rules := map.rules.map SequenceMergeRule.carried } ↔
        Survives sequenceRuleValid (fun rule => ¬rule.Reserved) True map.rules)) ∧
      ∀ (map : TimestampMergeMap) (maxRules : Nat), map.rules.length ≤ maxRules →
        (RoundTrips (timestampMergeMapEncode timestamp map)
            (fun bytes => timestampMergeMapDecode timestamp bytes maxRules)
            { map with rules := map.rules.map TimestampMergeRule.carried } ↔
          Survives timestampRuleValid (fun rule => ¬rule.Reserved)
            (timestamp.knownClockDomain map.clockDomain = true) map.rules) :=
  ⟨fun map _ room => sequenceMergeMap_roundTrips sequence map room,
    fun map _ room => timestampMergeMap_roundTrips timestamp map room⟩

def alignedMap : SequenceMergeMap where
  outStreamId := 11
  epoch := 42
  staleTimeoutNs := nullU64
  rules := [⟨1, .offset, -5, 0⟩, ⟨2, .window, 0, 10⟩]

def laggedMap : TimestampMergeMap where
  outStreamId := 11
  epoch := 42
  staleTimeoutNs := 7
  clockDomain := clockDomainMonotonic
  latenessNs := nullU64
  rules := [⟨1, .window, .slotHeader, 0, 10⟩]

theorem aligned_and_lagged_return :
    RoundTrips (sequenceMergeMapEncode sequenceWire alignedMap)
        (fun bytes => sequenceMergeMapDecode sequenceWire bytes 2)
        { alignedMap with rules := alignedMap.rules.map SequenceMergeRule.carried } ∧
      RoundTrips (timestampMergeMapEncode timestampWire laggedMap)
        (fun bytes => timestampMergeMapDecode timestampWire bytes 1)
        { laggedMap with rules := laggedMap.rules.map TimestampMergeRule.carried } := by
  have both := mergeMaps_roundTrip_iff sequenceWire timestampWire
  constructor
  · apply (both.1 alignedMap 2 (by decide +kernel)).mpr
    apply Or.inr
    apply Or.inr
    unfold SequenceMergeRule.Reserved
    decide +kernel
  · apply (both.2 laggedMap 1 (by decide +kernel)).mpr
    apply Or.inr
    apply Or.inr
    unfold TimestampMergeRule.Reserved
    decide +kernel

def leastOffsetMap : SequenceMergeMap where
  outStreamId := 11
  epoch := 42
  staleTimeoutNs := nullU64
  rules := [⟨1, .offset, Int32.minValue, 0⟩]

def undeclaredMap : TimestampMergeMap where
  outStreamId := 11
  epoch := 42
  staleTimeoutNs := nullU64
  clockDomain := 0
  latenessNs := nullU64
  rules := [⟨1, .window, .slotHeader, 0, 10⟩]

/-- The decoder refuses what the encoder wrote for the least offset and for an undeclared clock domain. -/
theorem leastOffset_lost :
    (match sequenceMergeMapEncode sequenceWire leastOffsetMap with
      | .written bytes => sequenceMergeMapDecode sequenceWire bytes 1
      | _ => .ok none) = .error "tp_sequence_merge_map_decode: invalid offset rule" ∧
      (match timestampMergeMapEncode timestampWire undeclaredMap with
        | .written bytes => timestampMergeMapDecode timestampWire bytes 1
        | _ => .ok none) = .error "tp_timestamp_merge_map_decode: invalid clock domain" := by
  decide +kernel

end TensorPool.Merge
