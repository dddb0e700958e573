/-
This file shows which fragments the merge-map decoders treat as the claim of a valid announce demands.
-/

import TensorPool.Merge.Scan

namespace TensorPool.Merge

open Scan Flyweight FixedField

/-- Each of so many rules has the property, at the steps of the group. -/
def AllRules (entryLength : Nat) (holds : List UInt8 → Prop) : Nat → List UInt8 → Prop
  | 0, _ => True
  | count + 1, rest => holds rest ∧ AllRules entryLength holds count (rest.drop entryLength)

/-- Some rule is missing or refused, and the rules before it are taken. -/
def RefusesRule (entryLength : Nat) (takes refuses : List UInt8 → Prop) : Nat → List UInt8 → Prop
  | 0, _ => False
  | count + 1, rest => rest.length < entryLength ∨ refuses rest ∨
      takes rest ∧ RefusesRule entryLength takes refuses count (rest.drop entryLength)

section Rules

variable {Entry Rule : Type} {name : String} {entryLength count : Nat} {scanRule : List UInt8 → Scan Refusal Rule}
  {takes refuses holds : List UInt8 → Prop} {rest : List UInt8}

/-- What a rule does with the bytes that it finds: it is taken, refused, or not all there. -/
structure Reads (scanRule : List UInt8 → Scan Refusal Rule) (takes refuses : List UInt8 → Prop) : Prop where
  taken : ∀ rest, takes rest → ∃ rule, scanRule rest = value rule
  refused : ∀ rest, ¬ takes rest → refuses rest → ∃ text, scanRule rest = stop text
  missing : ∀ rest, ¬ takes rest → ¬ refuses rest → scanRule rest = fault
  apart : ∀ rest, takes rest → ¬ refuses rest

/-- Rules have both properties when they have each. -/
theorem allRules_and {holds' : List UInt8 → Prop} :
    AllRules entryLength (fun rest => holds rest ∧ holds' rest) count rest ↔
      AllRules entryLength holds count rest ∧ AllRules entryLength holds' count rest := by
  induction count generalizing rest with
  | zero => simp [AllRules]
  | succ count hypothesis =>
      simp only [AllRules, hypothesis]
      exact and_and_and_comm

/-- A property of all rules is one of each by its number. -/
theorem allRules_index : AllRules entryLength holds count rest ↔
    ∀ index < count, holds (rest.drop (index * entryLength)) := by
  induction count generalizing rest with
  | zero => simp [AllRules]
  | succ count hypothesis =>
      have later (index : Nat) : (rest.drop entryLength).drop (index * entryLength) =
          rest.drop ((index + 1) * entryLength) := by
        rw [List.drop_drop, Nat.succ_mul, Nat.add_comm]
      simp only [AllRules, hypothesis, later]
      constructor
      · intro each index inside
        cases index with
        | zero =>
            rw [Nat.zero_mul, List.drop_zero]
            exact each.1
        | succ index => exact each.2 index (Nat.lt_of_succ_lt_succ inside)
      · intro each
        refine ⟨?_, fun index inside => each (index + 1) (Nat.succ_lt_succ inside)⟩
        have first := each 0 (Nat.zero_lt_succ count)
        rwa [Nat.zero_mul, List.drop_zero] at first

/-- Rules of a known length lie inside when their number does. -/
theorem allRules_inside : AllRules entryLength (fun rest => entryLength ≤ rest.length) count rest ↔
    count * entryLength ≤ rest.length := by
  induction count generalizing rest with
  | zero => simp [AllRules]
  | succ count hypothesis =>
      simp only [AllRules, hypothesis, List.length_drop, Nat.succ_mul]
      omega

/-- The loop ends with all rules, at a rule that is refused, or outside of the fragment. -/
theorem scanRules_cases (reads : Reads scanRule takes refuses) (count : Nat) (rest : List UInt8) :
    (AllRules entryLength (fun rest => entryLength ≤ rest.length ∧ takes rest) count rest ∧
        ¬ RefusesRule entryLength takes refuses count rest ∧
        ∃ rules, scanRules name entryLength scanRule count rest = value rules) ∨
      (RefusesRule entryLength takes refuses count rest ∧
        ¬ AllRules entryLength (fun rest => entryLength ≤ rest.length ∧ takes rest) count rest ∧
        ∃ text, scanRules name entryLength scanRule count rest = stop text) ∨
      (¬ RefusesRule entryLength takes refuses count rest ∧
        ¬ AllRules entryLength (fun rest => entryLength ≤ rest.length ∧ takes rest) count rest ∧
        scanRules name entryLength scanRule count rest = fault) := by
  induction count generalizing rest with
  | zero => exact .inl ⟨trivial, not_false, [], rfl⟩
  | succ count hypothesis =>
      rw [AllRules, RefusesRule, scanRules, nextEntry]
      by_cases short : entryLength ≤ rest.length
      · rw [if_pos short]
        dsimp only
        by_cases take : takes rest
        · obtain ⟨rule, first⟩ := reads.taken rest take
          have kept := reads.apart rest take
          rw [first, value_bind]
          obtain ⟨all, none', rules, later⟩ | ⟨refused, broken, text, later⟩ | ⟨none', broken, later⟩ :=
            hypothesis (rest.drop entryLength)
          · rw [later]
            exact .inl ⟨⟨⟨short, take⟩, all⟩, by simp [short, kept, none'], _, rfl⟩
          · rw [later]
            exact .inr (.inl ⟨.inr (.inr ⟨take, refused⟩), fun every => broken every.2, text, rfl⟩)
          · rw [later]
            exact .inr (.inr ⟨by simp [short, kept, none'], fun every => broken every.2, rfl⟩)
        · by_cases refuse : refuses rest
          · obtain ⟨text, first⟩ := reads.refused rest take refuse
            rw [first]
            exact .inr (.inl ⟨.inr (.inl refuse), fun every => take every.1.2, text, rfl⟩)
          · rw [reads.missing rest take refuse]
            exact .inr (.inr ⟨by simp [short, take, refuse], fun every => take every.1.2, rfl⟩)
      · rw [if_neg short]
        exact .inr (.inl ⟨.inl (Nat.lt_of_not_le short), fun every => short every.1.1, _, rfl⟩)

/-- With the length of the codec each rule is taken, or some rule is refused. -/
theorem total_rules {entry : FixedField Entry} {loads : Entry → Prop}
    (whole : ∀ rest : List UInt8, entry.width ≤ rest.length → ¬ loads (entry.decode rest) → refuses rest)
    (none' : ¬ RefusesRule entry.width (fun rest => entry.width ≤ rest.length ∧ loads (entry.decode rest)) refuses
      count rest) :
    AllRules entry.width (fun rest => entry.width ≤ rest.length ∧ entry.width ≤ rest.length ∧
      loads (entry.decode rest)) count rest := by
  induction count generalizing rest with
  | zero => trivial
  | succ count hypothesis =>
      simp only [RefusesRule, not_or, not_and, Nat.not_lt] at none'
      obtain ⟨inside, kept, later⟩ := none'
      have loaded : loads (entry.decode rest) := by
        by_contra lost
        exact kept (whole rest inside lost)
      exact ⟨⟨inside, inside, loaded⟩, hypothesis (later ⟨inside, loaded⟩)⟩

/-- A decoded rule has a property exactly when its bytes do. -/
theorem scanRules_all {valid : Rule → Prop} (same : ∀ rest rule, scanRule rest = value rule →
    (valid rule ↔ holds rest)) {rules : List Rule}
    (scanned : scanRules name entryLength scanRule count rest = value rules) :
    rules.length = count ∧ ((∀ rule ∈ rules, valid rule) ↔ AllRules entryLength holds count rest) := by
  induction count generalizing rest rules with
  | zero =>
      cases scanned
      simp [AllRules]
  | succ count hypothesis =>
      rw [scanRules, nextEntry] at scanned
      split at scanned
      · cases scanned
      next behind step =>
        split at step
        · cases step
          simp only [bind_eq_value] at scanned
          obtain ⟨rule, first, later, found, shape⟩ := scanned
          cases shape
          obtain ⟨length, all⟩ := hypothesis found
          rw [List.length_cons, length, List.forall_mem_cons, AllRules, all, same rest rule first]
          exact ⟨rfl, Iff.rfl⟩
        · cases step

end Rules

section Announce

variable {Root Entry Head Rule Map : Type} {root : FixedField Root} {entry : FixedField Entry} {name : String}
  {templateId blockLength : UInt16} {loadRoot : Root → Except String Head} {scanRule : List UInt8 → Scan Refusal Rule}
  {bytes : List UInt8} {maxRules : Nat}

/-- A fragment that does not name the announce is refused or skipped. -/
theorem scanAnnounce_unnamed (other : ¬ Named templateId blockLength bytes) :
    ∃ text, scanAnnounce name templateId blockLength root loadRoot scanRule bytes maxRules = stop text := by
  rw [scanAnnounce]
  by_cases whole : messageHeader.width ≤ bytes.length
  · rw [stopIf_pass (Nat.not_lt.mpr whole), value_bind, Flyweight.read, if_pos (by omega), value_bind, List.drop_zero]
    by_cases named : (messageHeader.decode bytes).schemaId ≠ schemaId ∨
        (messageHeader.decode bytes).templateId ≠ templateId
    · rw [stopIf, if_pos named]
      exact ⟨_, rfl⟩
    · rw [stopIf_pass named, value_bind]
      rw [not_or, not_not, not_not] at named
      by_cases version : schemaVersion < (messageHeader.decode bytes).version
      · rw [stopIf, if_pos version]
        exact ⟨_, rfl⟩
      · rw [stopIf_pass version, value_bind]
        have block : (messageHeader.decode bytes).blockLength ≠ blockLength :=
          fun same => other ⟨whole, named.1, named.2, UInt16.not_lt.mp version, same⟩
        rw [stopIf, if_pos block]
        exact ⟨_, rfl⟩
  · rw [stopIf, if_pos (Nat.lt_of_not_le whole)]
    exact ⟨_, rfl⟩

/-- Behind the header come the root, the dimensions and the rules. -/
theorem scanAnnounce_named (named : Named templateId blockLength bytes) :
    scanAnnounce name templateId blockLength root loadRoot scanRule bytes maxRules =
      (read root messageHeader.width bytes >>= fun given => scanOf (loadRoot given) >>= fun head =>
        stopIf ((bytes.drop (messageHeader.width + root.width)).length < 4) (some (name ++ ": rules truncated")) >>=
          fun _ => group (bytes.drop (messageHeader.width + root.width)) >>= fun (entryLength, count, rest) =>
            stopIf (maxRules < count) (some (name ++ ": rule capacity exceeded")) >>= fun _ =>
              scanRules name entryLength scanRule count rest >>= fun rules => value (head, rules)) := by
  have known : ¬ ((messageHeader.decode bytes).schemaId ≠ schemaId ∨
      (messageHeader.decode bytes).templateId ≠ templateId) := by
    rw [not_or, not_not, not_not]
    exact ⟨named.schema, named.template⟩
  rw [scanAnnounce, stopIf_pass (Nat.not_lt.mpr named.whole), value_bind, Flyweight.read, if_pos (by
    have whole := named.whole
    omega), value_bind, List.drop_zero, stopIf_pass known, value_bind,
    stopIf_pass (UInt16.not_lt.mpr named.version), value_bind, stopIf_pass (not_not.mpr named.block), value_bind]

/-- The dimensions that are there are the ones of the layout. -/
theorem group_layout (dimensions : messageHeader.width + root.width + 4 ≤ bytes.length) :
    (group (bytes.drop (messageHeader.width + root.width)) : Scan Refusal _) =
      value (entryLengthAt root bytes, countAt root bytes, rulesAt root bytes) := by
  have length := List.length_drop (i := messageHeader.width + root.width) (l := bytes)
  rw [group, Flyweight.read, if_pos (by rw [width_uint16]; omega), value_bind, Flyweight.read,
    if_pos (by rw [width_uint16]; omega), value_bind, List.drop_drop, List.drop_drop, List.drop_drop]
  rfl

/-- This is what the roots and the rules of an announce do in its decoder. -/
structure Format (root : FixedField Root) (entry : FixedField Entry) (loadRoot : Root → Except String Head)
    (scanRule : List UInt8 → Scan Refusal Rule) (known rootDeclared : Root → Prop)
    (loads declared sourced : Entry → Prop) (refuses : List UInt8 → Prop) : Prop where
  head : ∀ given, known given → ∃ head, loadRoot given = .ok head
  headless : ∀ given, ¬ known given → ∃ text, loadRoot given = .error text
  rootKnown : ∀ given, rootDeclared given → known given
  reads : Reads scanRule (fun rest => entry.width ≤ rest.length ∧ loads (entry.decode rest)) refuses
  whole : ∀ rest : List UInt8, entry.width ≤ rest.length → ¬ loads (entry.decode rest) → refuses rest
  split : ∀ given, declared given ↔ loads given ∧ sourced given

/-- The condition on a fragment: what names the announce has its whole block, and then it is refused or it is
valid. -/
def Guarded (root : FixedField Root) (entry : FixedField Entry) (templateId blockLength : UInt16)
    (known rootDeclared : Root → Prop) (loads sourced : Entry → Prop) (refuses : List UInt8 → Prop)
    (bytes : List UInt8) (maxRules : Nat) : Prop :=
  Named templateId blockLength bytes →
    messageHeader.width + root.width ≤ bytes.length ∧
      (¬ known (root.decode (bytes.drop messageHeader.width)) ∨
        bytes.length < messageHeader.width + root.width + 4 ∨ maxRules < countAt root bytes ∨
        RefusesRule (entryLengthAt root bytes) (fun rest => entry.width ≤ rest.length ∧
          loads (entry.decode rest)) refuses (countAt root bytes) (rulesAt root bytes) ∨
        entryLengthAt root bytes = entry.width ∧ countAt root bytes ≤ groupMax ∧
          rootDeclared (root.decode (bytes.drop messageHeader.width)) ∧
          ∀ index < countAt root bytes, sourced (entry.entry (rulesAt root bytes) index))

variable {known rootDeclared : Root → Prop} {loads declared sourced : Entry → Prop} {refuses : List UInt8 → Prop}
  {assemble : Head × List Rule → Map} {encode : Map → Encoded} {valid : Rule → Prop}

/-- The decoder treats a fragment as demanded exactly under the condition. -/
theorem exact_iff (format : Format root entry loadRoot scanRule known rootDeclared loads declared sourced refuses)
    (same : ∀ rest rule, scanRule rest = value rule → (valid rule ↔ sourced (entry.decode rest)))
    (encodes : ∀ head rules, (∃ bytes, encode (assemble (head, rules)) = .written bytes) ↔
      rules.length ≤ groupMax ∧ ∀ rule ∈ rules, valid rule) :
    Exact (scanAnnounce name templateId blockLength root loadRoot scanRule bytes maxRules >>= fun message =>
        value (assemble message))
        (Valid root entry templateId blockLength rootDeclared declared bytes maxRules) encode ↔
      Guarded root entry templateId blockLength known rootDeclared loads sourced refuses bytes maxRules := by
  have stopped {text : Refusal} {decoded : Scan Refusal Map} (stops : decoded = stop text)
      (invalid : ¬ Valid root entry templateId blockLength rootDeclared declared bytes maxRules) :
      Exact decoded (Valid root entry templateId blockLength rootDeclared declared bytes maxRules) encode := by
    rw [stops]
    constructor
    · intro leaves
      cases leaves
    · constructor
      · intro read
        obtain ⟨map, impossible⟩ := read
        cases impossible
      · intro found
        exact absurd found invalid
    · intro map impossible
      cases impossible
  have faulted {decoded : Scan Refusal Map} (faults : decoded = fault) :
      ¬ Exact decoded (Valid root entry templateId blockLength rootDeclared declared bytes maxRules) encode :=
    fun exact => exact.inside faults
  by_cases named : Named templateId blockLength bytes
  · rw [Guarded, forall_prop_of_true named, scanAnnounce_named named, Flyweight.read]
    by_cases block : messageHeader.width + root.width ≤ bytes.length
    · rw [if_pos block, value_bind, and_iff_right block]
      by_cases knows : known (root.decode (bytes.drop messageHeader.width))
      · obtain ⟨head, loaded⟩ := format.head _ knows
        rw [loaded, scanOf, value_bind, iff_false_intro (not_not.mpr knows), false_or]
        by_cases dimensions : messageHeader.width + root.width + 4 ≤ bytes.length
        · have long : ¬ (bytes.drop (messageHeader.width + root.width)).length < 4 := by
            rw [List.length_drop]
            omega
          rw [stopIf_pass long, value_bind, group_layout dimensions, value_bind,
            iff_false_intro (Nat.not_lt.mpr dimensions), false_or]
          dsimp only
          by_cases fits : countAt root bytes ≤ maxRules
          · rw [stopIf_pass (Nat.not_lt.mpr fits), value_bind, iff_false_intro (Nat.not_lt.mpr fits), false_or]
            obtain ⟨all, none', rules, scanned⟩ | ⟨refused, broken, text, scanned⟩ | ⟨none', broken, scanned⟩ :=
              @scanRules_cases _ name (entryLengthAt root bytes) _ _ _ format.reads (countAt root bytes)
                (rulesAt root bytes)
            · rw [scanned, value_bind, value_bind, iff_false_intro none', false_or]
              obtain ⟨length, valid'⟩ := scanRules_all same scanned
              constructor
              · intro exact
                have accepted := exact.accepts.mp ⟨_, rfl⟩
                have written := (encodes head rules).mp (exact.again _ rfl)
                rw [length] at written
                exact ⟨accepted.entryLength, written.1, accepted.head,
                  fun index inside => ((format.split _).mp (accepted.each index inside)).2⟩
              · intro found
                obtain ⟨step, few, declaredRoot, sources⟩ := found
                rw [step] at all valid'
                have inside := allRules_inside.mp (allRules_and.mp all).1
                have loaded := allRules_index.mp (allRules_and.mp (allRules_and.mp all).2).2
                have accepted : Valid root entry templateId blockLength rootDeclared declared bytes maxRules :=
                  ⟨named, dimensions, inside, step, fits, declaredRoot,
                    fun index below => (format.split _).mpr ⟨loaded index below, sources index below⟩⟩
                refine ⟨fun faults => (by cases faults), ⟨fun _ => accepted, fun _ => ⟨_, rfl⟩⟩, fun map shown => ?_⟩
                cases shown
                apply (encodes head rules).mpr
                rw [length]
                exact ⟨few, valid'.mpr (allRules_index.mpr sources)⟩
            · rw [scanned]
              apply iff_of_true (stopped rfl fun accepted => ?_) (.inl refused)
              apply broken
              rw [accepted.entryLength, allRules_and, allRules_and, allRules_inside]
              exact ⟨accepted.inside, accepted.inside,
                allRules_index.mpr fun index below => ((format.split _).mp (accepted.each index below)).1⟩
            · rw [scanned]
              apply iff_of_false (faulted rfl)
              rw [iff_false_intro none', false_or]
              intro found
              rw [found.1] at none' broken
              exact broken (total_rules format.whole none')
          · rw [stopIf, if_pos (Nat.lt_of_not_le fits)]
            exact iff_of_true (stopped rfl fun accepted => fits accepted.count) (.inl (Nat.lt_of_not_le fits))
        · have short : (bytes.drop (messageHeader.width + root.width)).length < 4 := by
            rw [List.length_drop]
            omega
          rw [stopIf, if_pos short]
          exact iff_of_true (stopped rfl fun accepted => dimensions accepted.dimensions)
            (.inl (Nat.lt_of_not_le dimensions))
      · obtain ⟨text, refused⟩ := format.headless _ knows
        rw [refused]
        exact iff_of_true (stopped rfl fun accepted => knows (format.rootKnown _ accepted.head)) (.inl knows)
    · rw [if_neg block]
      exact iff_of_false (faulted rfl) fun found => block found.1
  · obtain ⟨text, refused⟩ := @scanAnnounce_unnamed _ _ _ root name _ _ loadRoot scanRule bytes maxRules named
    rw [refused]
    exact iff_of_true (stopped rfl fun accepted => named accepted.named) fun found => absurd found named

/-- The encoder accepts valid rules, as long as their number fits the group. -/
theorem encodeAnnounce_written {Root Entry Rule : Type} (codec : GeneratedCodec Root Entry) (header : MessageHeader)
    (given : Root) (accepts : Rule → Bool) (entry : Rule → Entry) (rules : List Rule) :
    (∃ bytes, encodeAnnounce codec name header given accepts entry rules = .written bytes) ↔
      rules.length ≤ groupMax ∧ ∀ rule ∈ rules, accepts rule = true := by
  rw [encodeAnnounce, ← List.all_eq_true]
  have limit : groupMax = 65534 := rfl
  split_ifs with many full refusable every
  · simp only [exists_const, false_iff]
    omega
  · simp only [exists_const, false_iff]
    omega
  · simp only [exists_const, false_iff]
    omega
  · exact iff_of_true ⟨_, rfl⟩ ⟨Nat.not_lt.mp full, every⟩
  · simp [every]

end Announce

section Sequence

variable {entry : SequenceEntry} {rest : List UInt8}

/-- The fragment holds a rule type that no rule has, or a whole rule with other parameters than its own. -/
def refusesSequenceRule (rest : List UInt8) : Prop :=
  5 ≤ rest.length ∧ sequenceWire.knownRuleType (uint8.decode (rest.drop 4)) = false ∨
    sequenceEntryField.width ≤ rest.length ∧ ¬ (sequenceEntryField.decode rest).Declared

/-- A declared entry is loaded as a valid rule. -/
theorem loadSequenceRule_declared (declared : entry.Declared) :
    sequenceWire.knownRuleType entry.ruleType = true ∧
      ∃ rule, loadSequenceRule sequenceWire entry = .ok rule ∧ sequenceRuleValid rule = true := by
  obtain ⟨stream, kind, offset, window⟩ := entry
  obtain ⟨rfl, present, rfl⟩ | ⟨rfl, rfl, present, positive⟩ := declared
  · simp only at present
    refine ⟨rfl, ⟨stream, .offset, offset, 0⟩, ?_, ?_⟩
    · simp [loadSequenceRule, MergeRuleType.code, sequenceWire, wireCodec, present]
    · rfl
  · simp only at present positive
    refine ⟨rfl, ⟨stream, .window, 0, window⟩, ?_, ?_⟩
    · simp [loadSequenceRule, MergeRuleType.code, sequenceWire, wireCodec, present, positive]
    · simp [sequenceRuleValid, positive]

/-- Another entry is refused. -/
theorem loadSequenceRule_undeclared (other : ¬ entry.Declared) :
    ∃ text, loadSequenceRule sequenceWire entry = .error text := by
  unfold loadSequenceRule
  split_ifs with unknown offset paired window paired' empty
  · exact ⟨_, rfl⟩
  · exact ⟨_, rfl⟩
  · rw [not_or, not_not] at paired
    exact absurd (.inl ⟨offset, paired⟩) other
  · exact ⟨_, rfl⟩
  · exact ⟨_, rfl⟩
  · rw [not_or, not_not] at paired'
    exact absurd (.inr ⟨window, paired'.2, paired'.1, empty⟩) other
  · exact ⟨_, rfl⟩

/-- The rule type stands in front of the parameters. -/
theorem sequence_ruleType (rest : List UInt8) :
    (sequenceEntryField.decode rest).ruleType = uint8.decode (rest.drop 4) := rfl

/-- The scan of a sequence rule reads one entry. -/
theorem scanSequenceRule_reads :
    Reads scanSequenceRule (fun rest => sequenceEntryField.width ≤ rest.length ∧
      (sequenceEntryField.decode rest).Declared) refusesSequenceRule where
  taken := by
    intro rest ⟨inside, declared⟩
    have width : sequenceEntryField.width = 13 := rfl
    obtain ⟨known, rule, loaded, -⟩ := loadSequenceRule_declared declared
    rw [sequence_ruleType] at known
    refine ⟨rule, ?_⟩
    rw [scanSequenceRule, Flyweight.read, if_pos (by rw [width_uint8]; omega), value_bind,
      stopIf_pass (by simp [known]), value_bind, Flyweight.read, if_pos (by omega), value_bind, List.drop_zero,
        loaded, scanOf]
  refused := by
    intro rest other refuses
    have width : sequenceEntryField.width = 13 := rfl
    have five : 4 + uint8.width ≤ rest.length := by
      rw [width_uint8]
      obtain ⟨inside, -⟩ | ⟨inside, -⟩ := refuses <;> omega
    rw [scanSequenceRule, Flyweight.read, if_pos five, value_bind]
    by_cases known : sequenceWire.knownRuleType (uint8.decode (rest.drop 4)) = false
    · rw [stopIf, if_pos known]
      exact ⟨_, rfl⟩
    · obtain ⟨inside, undeclared⟩ := refuses.resolve_left fun unknown => known unknown.2
      obtain ⟨text, failed⟩ := loadSequenceRule_undeclared undeclared
      rw [stopIf_pass known, value_bind, Flyweight.read, if_pos (by omega), value_bind, List.drop_zero, failed,
        scanOf]
      exact ⟨_, rfl⟩
  missing := by
    intro rest other kept
    have width : sequenceEntryField.width = 13 := rfl
    rw [refusesSequenceRule, not_or, not_and, not_and, not_not] at kept
    have short : rest.length < 13 := by
      by_contra inside
      exact other ⟨by omega, kept.2 (by omega)⟩
    rw [scanSequenceRule, Flyweight.read]
    by_cases five : 4 + uint8.width ≤ rest.length
    · rw [if_pos five, value_bind, stopIf_pass (kept.1 five), value_bind, Flyweight.read, if_neg (by omega),
        fault_bind]
    · rw [if_neg five, fault_bind]
  apart := by
    intro rest ⟨inside, declared⟩ refuses
    obtain ⟨known, -⟩ := loadSequenceRule_declared declared
    obtain ⟨-, unknown⟩ | ⟨-, undeclared⟩ := refuses
    · rw [sequence_ruleType, unknown] at known
      cases known
    · exact undeclared declared

/-- The sequence map has the format of a map. -/
theorem sequenceFormat :
    Format sequenceRootField sequenceEntryField loadSequenceRoot scanSequenceRule (fun _ => True) (fun _ => True)
      SequenceEntry.Declared SequenceEntry.Declared (fun _ => True) refusesSequenceRule where
  head := fun _ _ => ⟨_, rfl⟩
  headless := fun _ impossible => absurd trivial impossible
  rootKnown := fun _ _ => trivial
  reads := scanSequenceRule_reads
  whole := fun _ inside undeclared => .inr ⟨inside, undeclared⟩
  split := fun _ => (and_iff_left trivial).symm

/-- A scanned sequence rule is valid. -/
theorem scanSequenceRule_valid {rule : SequenceMergeRule} (scanned : scanSequenceRule rest = value rule) :
    sequenceRuleValid rule = true := by
  rw [scanSequenceRule] at scanned
  simp only [bind_eq_value] at scanned
  obtain ⟨ruleType, -, -, -, entry, -, found⟩ := scanned
  by_cases declared : entry.Declared
  · obtain ⟨-, loaded, here, valid⟩ := loadSequenceRule_declared declared
    rw [here, scanOf] at found
    cases found
    exact valid
  · obtain ⟨text, failed⟩ := loadSequenceRule_undeclared declared
    rw [failed, scanOf] at found
    cases found

/-- The condition for a sequence map. -/
def GuardedSequence (bytes : List UInt8) (maxRules : Nat) : Prop :=
  Guarded sequenceRootField sequenceEntryField sequenceTemplateId sequenceBlockLength (fun _ => True) (fun _ => True)
    SequenceEntry.Declared (fun _ => True) refusesSequenceRule bytes maxRules

/-- The decoder of sequence maps is exact on guarded bytes only. -/
theorem scanSequenceMap_exact (bytes : List UInt8) (maxRules : Nat) :
    Exact (scanSequenceMap bytes maxRules) (ValidSequence bytes maxRules) (sequenceMergeMapEncode sequenceWire) ↔
      GuardedSequence bytes maxRules := by
  have same : ∀ rest rule, scanSequenceRule rest = value rule → (sequenceRuleValid rule = true ↔ True) :=
    fun rest rule scanned => iff_of_true (scanSequenceRule_valid scanned) trivial
  exact exact_iff sequenceFormat same fun head rules =>
    encodeAnnounce_written sequenceWire _ _ sequenceRuleValid sequenceEntry rules

end Sequence

section Timestamp

variable {entry : TimestampEntry} {rest : List UInt8}

/-- The decoder takes a rule with the null value as its source. -/
def TimestampEntry.Loads (entry : TimestampEntry) : Prop :=
  entry.Paired ∧ timestampWire.knownTimestampSource entry.timestampSource = true

/-- The fragment holds a rule type or a source that no rule has, or a whole rule that does not load. -/
def refusesTimestampRule (rest : List UInt8) : Prop :=
  5 ≤ rest.length ∧ timestampWire.knownRuleType (uint8.decode (rest.drop 4)) = false ∨
    6 ≤ rest.length ∧ timestampWire.knownTimestampSource (uint8.decode (rest.drop 5)) = false ∨
      timestampEntryField.width ≤ rest.length ∧ ¬ (timestampEntryField.decode rest).Loads

/-- An entry that loads is a rule, which is valid when its source is. -/
theorem loadTimestampRule_loads (loads : entry.Loads) :
    timestampWire.knownRuleType entry.ruleType = true ∧ ∃ rule, loadTimestampRule timestampWire entry = .ok rule ∧
      (timestampRuleValid rule = true ↔ entry.Sourced) := by
  obtain ⟨stream, kind, source, offset, window⟩ := entry
  obtain ⟨paired, known⟩ := loads
  have sourced : (source = 1 ∨ source = 2) ↔
      ¬ (source.toUInt32 ≠ TimestampSource.frameDescriptor ∧ source.toUInt32 ≠ TimestampSource.slotHeader) := by
    have known' : source = 1 ∨ source = 2 ∨ source = 255 := by
      simpa [timestampWire, wireCodec, or_assoc] using known
    obtain rfl | rfl | rfl := known' <;> decide
  obtain ⟨rfl, present, rfl⟩ | ⟨rfl, rfl, present, positive⟩ := paired
  · simp only at present known
    refine ⟨rfl, ⟨stream, .offset, source.toUInt32, offset, 0⟩, ?_, ?_⟩
    · have kind : timestampWire.knownRuleType 0 = true := rfl
      simp [loadTimestampRule, MergeRuleType.code, kind, known, present]
    · rw [TimestampEntry.Sourced, sourced, timestampRuleValid]
      split
      next unlisted => exact iff_of_false nofun (not_not.mpr unlisted)
      next listed => exact iff_of_true rfl listed
  · simp only at present positive known
    refine ⟨rfl, ⟨stream, .window, source.toUInt32, 0, window⟩, ?_, ?_⟩
    · have kind : timestampWire.knownRuleType 1 = true := rfl
      simp [loadTimestampRule, MergeRuleType.code, kind, known, present, positive]
    · rw [TimestampEntry.Sourced, sourced, timestampRuleValid]
      split
      next unlisted => exact iff_of_false nofun (not_not.mpr unlisted)
      next listed => exact iff_of_true (bne_iff_ne.mpr positive) listed

/-- Another entry is refused. -/
theorem loadTimestampRule_fails (other : ¬ entry.Loads) :
    ∃ text, loadTimestampRule timestampWire entry = .error text := by
  unfold loadTimestampRule
  split_ifs with unknown source offset paired window paired' empty
  · exact ⟨_, rfl⟩
  · exact ⟨_, rfl⟩
  · exact ⟨_, rfl⟩
  · rw [not_or, not_not] at paired
    exact absurd ⟨.inl ⟨offset, paired⟩, by simpa using source⟩ other
  · exact ⟨_, rfl⟩
  · exact ⟨_, rfl⟩
  · rw [not_or, not_not] at paired'
    exact absurd ⟨.inr ⟨window, paired'.2, paired'.1, empty⟩, by simpa using source⟩ other
  · exact ⟨_, rfl⟩

theorem timestamp_ruleType (rest : List UInt8) :
    (timestampEntryField.decode rest).ruleType = uint8.decode (rest.drop 4) := rfl

theorem timestamp_source (rest : List UInt8) :
    (timestampEntryField.decode rest).timestampSource = uint8.decode (rest.drop 5) := by
  change uint8.decode ((rest.drop 4).drop 1) = _
  rw [List.drop_drop]

/-- The scan of a timestamp rule reads one entry. -/
theorem scanTimestampRule_reads :
    Reads scanTimestampRule (fun rest => timestampEntryField.width ≤ rest.length ∧
      (timestampEntryField.decode rest).Loads) refusesTimestampRule where
  taken := by
    intro rest ⟨inside, loads⟩
    have width : timestampEntryField.width = 22 := rfl
    obtain ⟨known, rule, loaded, -⟩ := loadTimestampRule_loads loads
    have source := loads.2
    rw [timestamp_ruleType] at known
    rw [timestamp_source] at source
    refine ⟨rule, ?_⟩
    rw [scanTimestampRule, Flyweight.read, if_pos (by rw [width_uint8]; omega), value_bind,
      stopIf_pass (by simp [known]), value_bind, Flyweight.read, if_pos (by rw [width_uint8]; omega),
        value_bind, stopIf_pass (by simp [source]),
      value_bind, Flyweight.read, if_pos (by omega), value_bind, List.drop_zero, loaded, scanOf]
  refused := by
    intro rest other refuses
    have width : timestampEntryField.width = 22 := rfl
    have five : 4 + uint8.width ≤ rest.length := by
      rw [width_uint8]
      obtain ⟨inside, -⟩ | ⟨inside, -⟩ | ⟨inside, -⟩ := refuses <;> omega
    rw [scanTimestampRule, Flyweight.read, if_pos five, value_bind]
    by_cases known : timestampWire.knownRuleType (uint8.decode (rest.drop 4)) = false
    · rw [stopIf, if_pos known]
      exact ⟨_, rfl⟩
    · have later := refuses.resolve_left fun unknown => known unknown.2
      have six : 5 + uint8.width ≤ rest.length := by
        rw [width_uint8]
        obtain ⟨inside, -⟩ | ⟨inside, -⟩ := later <;> omega
      rw [stopIf_pass known, value_bind, Flyweight.read, if_pos six, value_bind]
      by_cases source : timestampWire.knownTimestampSource (uint8.decode (rest.drop 5)) = false
      · rw [stopIf, if_pos source]
        exact ⟨_, rfl⟩
      · obtain ⟨inside, fails⟩ := later.resolve_left fun unknown => source unknown.2
        obtain ⟨text, failed⟩ := loadTimestampRule_fails fails
        rw [stopIf_pass source, value_bind, Flyweight.read, if_pos (by omega), value_bind, List.drop_zero,
          failed, scanOf]
        exact ⟨_, rfl⟩
  missing := by
    intro rest other kept
    have width : timestampEntryField.width = 22 := rfl
    rw [refusesTimestampRule, not_or, not_or, not_and, not_and, not_and, not_not] at kept
    obtain ⟨kind, source, whole⟩ := kept
    have short : rest.length < 22 := by
      by_contra inside
      exact other ⟨by omega, whole (by omega)⟩
    rw [scanTimestampRule, Flyweight.read]
    by_cases five : 4 + uint8.width ≤ rest.length
    · rw [if_pos five, value_bind, stopIf_pass (kind five), value_bind, Flyweight.read]
      by_cases six : 5 + uint8.width ≤ rest.length
      · rw [if_pos six, value_bind, stopIf_pass (source six), value_bind, Flyweight.read, if_neg (by omega),
          fault_bind]
      · rw [if_neg six, fault_bind]
    · rw [if_neg five, fault_bind]
  apart := by
    intro rest ⟨inside, loads⟩ refuses
    obtain ⟨known, -⟩ := loadTimestampRule_loads loads
    have source := loads.2
    obtain ⟨-, unknown⟩ | ⟨-, unknown⟩ | ⟨-, fails⟩ := refuses
    · rw [timestamp_ruleType, unknown] at known
      cases known
    · rw [timestamp_source, unknown] at source
      cases source
    · exact fails loads

/-- The timestamp map has the format of a map. -/
theorem timestampFormat :
    Format timestampRootField timestampEntryField (loadTimestampRoot timestampWire) scanTimestampRule
      (fun given => timestampWire.knownClockDomain given.clockDomain =
        true) TimestampRoot.Declared TimestampEntry.Loads
      TimestampEntry.Declared TimestampEntry.Sourced refusesTimestampRule where
  head := by
    intro given known
    exact ⟨_, if_neg (by simp [known])⟩
  headless := by
    intro given unknown
    exact ⟨_, if_pos (by simpa using unknown)⟩
  rootKnown := by
    intro given declared
    obtain same | same := declared <;> rw [same] <;> rfl
  reads := scanTimestampRule_reads
  whole := fun _ inside fails => .inr (.inr ⟨inside, fails⟩)
  split := by
    intro given
    constructor
    · intro ⟨paired, sourced⟩
      refine ⟨⟨paired, ?_⟩, sourced⟩
      obtain same | same := sourced <;> rw [same] <;> rfl
    · exact fun ⟨loads, sourced⟩ => ⟨loads.1, sourced⟩

/-- A scanned timestamp rule is valid exactly when its source is. -/
theorem scanTimestampRule_valid {rule : TimestampMergeRule} (scanned : scanTimestampRule rest = value rule) :
    timestampRuleValid rule = true ↔ (timestampEntryField.decode rest).Sourced := by
  rw [scanTimestampRule] at scanned
  simp only [bind_eq_value] at scanned
  obtain ⟨ruleType, -, -, -, source, -, -, -, entry, here, found⟩ := scanned
  obtain ⟨-, rfl⟩ := read_eq_value.mp here
  rw [List.drop_zero] at found
  by_cases loads : (timestampEntryField.decode rest).Loads
  · obtain ⟨-, loaded, shown, valid⟩ := loadTimestampRule_loads loads
    rw [shown, scanOf] at found
    cases found
    exact valid
  · obtain ⟨text, failed⟩ := loadTimestampRule_fails loads
    rw [failed, scanOf] at found
    cases found

/-- The condition for a timestamp map. -/
def GuardedTimestamp (bytes : List UInt8) (maxRules : Nat) : Prop :=
  Guarded timestampRootField timestampEntryField timestampTemplateId timestampBlockLength
    (fun given => timestampWire.knownClockDomain given.clockDomain = true) TimestampRoot.Declared TimestampEntry.Loads
    TimestampEntry.Sourced refusesTimestampRule bytes maxRules

/-- The decoder of timestamp maps is exact on guarded bytes only. -/
theorem scanTimestampMap_exact (bytes : List UInt8) (maxRules : Nat) :
    Exact (scanTimestampMap bytes maxRules) (ValidTimestamp bytes maxRules) (timestampMergeMapEncode timestampWire) ↔
      GuardedTimestamp bytes maxRules := by
  have same : ∀ rest rule, scanTimestampRule rest = value rule →
      (timestampRuleValid rule = true ↔ (timestampEntryField.decode rest).Sourced) :=
    fun rest rule scanned => scanTimestampRule_valid scanned
  exact exact_iff timestampFormat same fun head rules =>
    encodeAnnounce_written timestampWire _ _ timestampRuleValid timestampEntry rules

end Timestamp

/-- Each decoder treats a fragment as demanded exactly under its condition. -/
theorem mergeMaps_exact_iff (bytes : List UInt8) (maxRules : Nat) :
    (Exact (scanSequenceMap bytes maxRules) (ValidSequence bytes maxRules) (sequenceMergeMapEncode sequenceWire) ↔
        GuardedSequence bytes maxRules) ∧
      (Exact (scanTimestampMap bytes maxRules) (ValidTimestamp bytes maxRules)
          (timestampMergeMapEncode timestampWire) ↔ GuardedTimestamp bytes maxRules) :=
  ⟨scanSequenceMap_exact bytes maxRules, scanTimestampMap_exact bytes maxRules⟩

/-- A fragment with nothing behind its header. -/
def bareAnnounce : List UInt8 := messageHeader.encode ⟨sequenceBlockLength, sequenceTemplateId, schemaId,
    schemaVersion⟩

/-- A timestamp map whose only rule has the null value as its source. -/
def sourcelessAnnounce : List UInt8 :=
  announceBytes timestampRootField timestampEntryField
    ⟨timestampBlockLength, timestampTemplateId, schemaId, schemaVersion⟩ ⟨11, 42, nullU64, 1, nullU64⟩
    [⟨1, 0, 255, 5, windowNsNullValue⟩]

/-- The first fragment is read behind its end, and the encoder refuses the map of the second one. -/
theorem announces_not_exact :
    ¬ Exact (scanSequenceMap bareAnnounce 4) (ValidSequence bareAnnounce 4) (sequenceMergeMapEncode sequenceWire) ∧
      ¬ Exact (scanTimestampMap sourcelessAnnounce 1) (ValidTimestamp sourcelessAnnounce 1)
        (timestampMergeMapEncode timestampWire) := by
  constructor
  · intro exact
    exact exact.inside (by decide +kernel)
  · intro exact
    obtain ⟨bytes, written⟩ :=
      exact.again ⟨11, 42, nullU64, 1, nullU64, [⟨1, .offset, 255, 5, 0⟩]⟩ (by decide +kernel)
    have rejected : timestampMergeMapEncode timestampWire ⟨11, 42, nullU64, 1, nullU64, [⟨1, .offset, 255, 5, 0⟩]⟩ =
        .rejected "tp_timestamp_merge_map_encode: invalid rule" := by decide +kernel
    rw [rejected] at written
    cases written

end TensorPool.Merge
