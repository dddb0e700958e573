/-
This file compares the loaded ranges of stream identifiers with the texts of the document.
The loader checks each text alone and compares no two of them.
-/

import Mathlib.Data.List.Forall2
import TensorPool.Driver.Allocation
import TensorPool.Driver.Loader

namespace TensorPool.Driver

open Shm (bind_ok)

/-- A decimal numeral may have spaces and a sign before its digits. -/
def numeral (text : List Char) : Option Int :=
  let text := text.dropWhile spaceChar
  let negative := text.head? == some '-'
  let digits := if negative || text.head? == some '+' then text.drop 1 else text
  if digits.isEmpty || !digits.all Char.isDigit then none
  else
    let value : Nat := digits.foldl (fun value digit => 10 * value + (digit.toNat - 48)) 0
    some (if negative then -value else value)

/-- A text spells one number, or two numbers around its first dash. -/
def spelled (text : String) : Option (Int × Int) :=
  let letters := text.toList
  let left := letters.takeWhile fun letter => letter != '-'
  if left.length = letters.length then (numeral letters).map fun number => (number, number)
  else do
    let low ← numeral left
    let high ← numeral (letters.drop (left.length + 1))
    some (low, high)

/-- A number lies in the interval that the text spells. -/
def Spans (text : String) (number : Int) : Prop :=
  ∃ low high, spelled text = some (low, high) ∧ low ≤ number ∧ number ≤ high

def Datum.text : Datum → Option String
  | .string text => some text
  | _ => none

def Datum.number : Datum → Option Int
  | .int64 value => some value.toInt
  | _ => none

/-- These are the range texts of one key. -/
def Datum.texts : Datum → List String
  | .string text => [text]
  | .array items => items.filterMap Datum.text
  | _ => []

/-- These are the range texts of a document in the order of their loading. -/
def rangeTexts (document : Datum) : List String :=
  let driver := document.get "driver"
  (driver.get "stream_id_range").texts ++ (driver.get "descriptor_stream_id_range").texts ++
    (driver.get "control_stream_id_range").texts

/-- These are the entries of a table. -/
def Datum.entries : Datum → List (String × Datum)
  | .table entries => entries
  | _ => []

/-- These are the numbers that a document gives to its streams and channels. -/
def fixedNumbers (document : Datum) : List Int :=
  let driver := document.get "driver"
  ((document.get "streams").entries.filterMap fun entry => (entry.2.get "stream_id").number) ++
    [driver.get "control_stream_id", driver.get "announce_stream_id",
      driver.get "qos_stream_id"].filterMap Datum.number

/-- These are all the ranges of a configuration. -/
def DriverSettings.ranges (driver : DriverSettings) : List IdRange :=
  driver.streamIdRanges ++ driver.descriptorStreamIdRanges ++ driver.controlStreamIdRanges

/-- These identifiers are in use without any allocation. -/
def LoadedConfig.fixedIds (loaded : LoadedConfig) : List UInt32 :=
  loaded.config.streams.map StreamDef.streamId ++
    [loaded.driver.controlStreamId, loaded.driver.announceStreamId, loaded.driver.qosStreamId]

def IdRange.Disjoint (first second : IdRange) : Prop :=
  ∀ streamId, first.Contains streamId → ¬ second.Contains streamId

/-- The loaded ranges are proper, apart from each other and from the fixed identifiers, and as they are spelled. -/
structure Separate (document : Datum) (loaded : LoadedConfig) : Prop where
  proper : ∀ range ∈ loaded.driver.ranges, 0 < range.start ∧ range.start ≤ range.stop
  disjoint : loaded.driver.ranges.Pairwise IdRange.Disjoint
  fixed : ∀ range ∈ loaded.driver.ranges, ∀ streamId ∈ loaded.fixedIds, ¬ range.Contains streamId
  spelled : List.Forall₂ (fun text range => spelled text = some (↑range.start.toNat, ↑range.stop.toNat))
    (rangeTexts document) loaded.driver.ranges

/-- No text hides a part behind a null character or has a second dash. -/
def PlainText (text : String) : Prop := Char.ofNat 0 ∉ text.toList ∧ text.toList.count '-' ≤ 1

instance (text : String) : Decidable (PlainText text) := inferInstanceAs (Decidable (_ ∧ _))

/-- The document itself keeps its intervals apart from each other and from its other numbers. -/
structure SeparateTexts (document : Datum) : Prop where
  plain : ∀ text ∈ rangeTexts document, PlainText text
  disjoint : (rangeTexts document).Pairwise fun first second => ∀ number, Spans first number → ¬ Spans second number
  fixed : ∀ text ∈ rangeTexts document, ∀ number ∈ fixedNumbers document, ¬ Spans text number

section Numerals

theorem baseDigit_ten : baseDigit 10 = Char.isDigit := by
  funext c
  rw [baseDigit, Bool.and_eq_left_iff_imp]
  intro digit
  have bounds := Char.isDigit_iff_toNat.mp digit
  rw [decide_eq_true_eq]
  have zero : '0'.toNat = 48 := rfl
  have nine : '9'.toNat = 57 := rfl
  omega

/-- The digits of a numeral have this value. -/
def digitsValue (digits : List Char) : Nat := digits.foldl (fun value digit => 10 * value + (digit.toNat - 48)) 0

/-- These are the characters behind the spaces and the sign. -/
def behindSign (text : List Char) : List Char :=
  let text := text.dropWhile spaceChar
  if text.head? == some '-' || text.head? == some '+' then text.drop 1 else text

/-- The first character behind the spaces is a minus sign. -/
def minusSign (text : List Char) : Bool := (text.dropWhile spaceChar).head? == some '-'

/-- A number is whole when every character behind its sign is a digit. -/
theorem wholeNumber_some {text : List Char} {value : Nat} (whole : wholeNumber 10 text = some value) :
    behindSign text ≠ [] ∧ (behindSign text).all Char.isDigit = true ∧
      value = if digitsValue (behindSign text) < 2 ^ 64 then
        (if minusSign text then (2 ^ 64 - digitsValue (behindSign text)) % 2 ^ 64 else digitsValue (behindSign text))
        else 2 ^ 64 - 1 := by
  have read : strtoul 10 text = some (value, []) := by
    unfold wholeNumber at whole
    split at whole
    next read => rw [read, Option.some.inj whole]
    · cases whole
  have unfolded : strtoul 10 text =
      if ((behindSign text).takeWhile Char.isDigit).isEmpty then none
      else some (if digitsValue ((behindSign text).takeWhile Char.isDigit) < 2 ^ 64 then
        (if minusSign text then (2 ^ 64 - digitsValue ((behindSign text).takeWhile Char.isDigit)) % 2 ^ 64
          else digitsValue ((behindSign text).takeWhile Char.isDigit)) else 2 ^ 64 - 1,
        (behindSign text).drop ((behindSign text).takeWhile Char.isDigit).length) := by
    rw [← baseDigit_ten]
    rfl
  rw [unfolded] at read
  split at read
  · cases read
  next present =>
    obtain ⟨same, rest⟩ := Prod.mk.inj (Option.some.inj read)
    have whole : (behindSign text).takeWhile Char.isDigit = behindSign text := by
      apply (List.takeWhile_prefix _).eq_of_length_le
      exact List.drop_eq_nil_iff.mp rest
    rw [whole] at present same
    exact ⟨by simpa using present, List.all_eq_true.mpr (List.takeWhile_eq_self_iff.mp whole), same.symm⟩

/-- A numeral is a sign and digits. -/
theorem numeral_eq (text : List Char) : numeral text =
    if (behindSign text).isEmpty || !(behindSign text).all Char.isDigit then none
    else some (if minusSign text then -↑(digitsValue (behindSign text)) else ↑(digitsValue (behindSign text))) := rfl

/-- Digits without a minus sign in front of them contain no dash. -/
theorem minusSign_iff {text : List Char} (digits : (behindSign text).all Char.isDigit = true) :
    minusSign text = true ↔ '-' ∈ text := by
  have split : text.takeWhile spaceChar ++ text.dropWhile spaceChar = text := List.takeWhile_append_dropWhile
  have spaces : '-' ∉ text.takeWhile spaceChar := by
    intro member
    have space := List.mem_takeWhile_imp member
    cases space
  have whole : '-' ∈ text ↔ '-' ∈ text.dropWhile spaceChar := by
    conv_lhs => rw [← split]
    rw [List.mem_append]
    tauto
  have plain : '-' ∉ behindSign text := by
    intro member
    have digit := List.all_eq_true.mp digits _ member
    cases digit
  rw [whole, minusSign]
  unfold behindSign at plain
  dsimp only at plain
  generalize text.dropWhile spaceChar = tail at plain ⊢
  cases tail with
  | nil => simp
  | cons first rest =>
      simp only [List.head?_cons, beq_iff_eq, Option.some.injEq, Bool.or_eq_true, List.drop_succ_cons, List.drop_zero,
        List.mem_cons] at plain ⊢
      constructor
      · intro minus
        exact Or.inl minus.symm
      · intro member
        by_contra other
        split at plain
        · exact plain (member.resolve_left fun same => other same.symm)
        · exact plain (List.mem_cons.mpr member)

/-- A whole number of at most 32 bits is its numeral unless it has a minus sign. -/
theorem wholeNumber_numeral {text : List Char} {value : Nat} (whole : wholeNumber 10 text = some value)
    (positive : value ≠ 0) (short : value ≤ 4294967295) : numeral text = some ↑value ↔ '-' ∉ text := by
  obtain ⟨present, digits, same⟩ := wholeNumber_some whole
  have shown : ((behindSign text).isEmpty || !(behindSign text).all Char.isDigit) = false := by
    rw [digits, List.isEmpty_eq_false_iff.mpr present]
    rfl
  rw [numeral_eq, shown, ← minusSign_iff digits]
  split at same
  · by_cases negative : minusSign text = true
    · simp only [negative]
      simp
      omega
    · simp only [negative] at same ⊢
      simp [same]
  · omega

/-- A numeral has no null character. -/
theorem numeral_plain {text : List Char} {value : Int} (spelled : numeral text = some value) :
    Char.ofNat 0 ∉ text := by
  rw [numeral_eq] at spelled
  split at spelled
  · cases spelled
  next digits =>
    have all : (behindSign text).all Char.isDigit = true := by
      simp only [Bool.or_eq_true, Bool.not_eq_true', not_or, Bool.not_eq_false] at digits
      exact digits.2
    have split : text.takeWhile spaceChar ++ text.dropWhile spaceChar = text := List.takeWhile_append_dropWhile
    intro member
    rw [← split, List.mem_append] at member
    rcases member with space | later
    · have spaced := List.mem_takeWhile_imp space
      cases spaced
    · have behind : Char.ofNat 0 ∈ behindSign text := by
        unfold behindSign
        dsimp only
        generalize text.dropWhile spaceChar = tail at later ⊢
        cases tail with
        | nil => cases later
        | cons first rest =>
            split
            next sign =>
              rcases List.mem_cons.mp later with same | inside
              · rw [← same] at sign
                cases sign
              · exact inside
            · exact later
      have digit := List.all_eq_true.mp all _ behind
      cases digit

/-- The parts around the first dash make up the text. -/
theorem split_dash {letters : List Char}
    (dashed : (letters.takeWhile fun letter => letter != '-').length ≠ letters.length) :
    letters = (letters.takeWhile fun letter => letter != '-') ++
      '-' :: letters.drop ((letters.takeWhile fun letter => letter != '-').length + 1) := by
  induction letters with
  | nil => exact absurd rfl dashed
  | cons first rest hypothesis =>
      rw [List.takeWhile_cons] at dashed ⊢
      by_cases dash : first = '-'
      · subst dash
        rfl
      · have other : (first != '-') = true := bne_iff_ne.mpr dash
        rw [if_pos other] at dashed ⊢
        rw [List.length_cons, List.drop_succ_cons, List.cons_append, ← hypothesis]
        intro same
        exact dashed (by rw [List.length_cons, List.length_cons, same])

theorem not_mem_left (letters : List Char) : '-' ∉ letters.takeWhile fun letter => letter != '-' := by
  intro member
  have other := List.mem_takeWhile_imp member
  cases other

/-- Without a dash the text before the first dash is the whole text. -/
theorem left_whole {letters : List Char}
    (same : (letters.takeWhile fun letter => letter != '-').length = letters.length) : '-' ∉ letters := by
  have whole := (List.takeWhile_prefix fun letter : Char => letter != '-').eq_of_length same
  rw [← whole]
  exact not_mem_left letters

/-- A spelled range holds no null letter. -/
theorem spelled_plain {text : String} {ends : Int × Int} (shown : spelled text = some ends) :
    Char.ofNat 0 ∉ text.toList := by
  unfold spelled at shown
  dsimp only at shown
  split at shown
  · obtain ⟨number, read, -⟩ := Option.map_eq_some_iff.mp shown
    exact numeral_plain read
  next dashed =>
    obtain ⟨low, lower, shown⟩ := Option.bind_eq_some_iff.mp shown
    obtain ⟨high, upper, -⟩ := Option.bind_eq_some_iff.mp shown
    rw [split_dash dashed, List.mem_append, List.mem_cons]
    rintro (left | dash | right)
    · exact numeral_plain lower left
    · cases dash
    · exact numeral_plain upper right

/-- Two ends that the parser accepts are the spelled ones when the right one has no second dash. -/
theorem rangeEnds_spelled {text : String} {first last : Nat} (ends : rangeEnds text.toList = some (first, last))
    (positive : first ≠ 0 ∧ last ≠ 0) (short : first ≤ 4294967295 ∧ last ≤ 4294967295) :
    spelled text = some (↑first, ↑last) ↔ text.toList.count '-' ≤ 1 := by
  unfold rangeEnds at ends
  unfold spelled
  dsimp only at ends ⊢
  split at ends
  next same =>
    obtain ⟨number, whole, pair⟩ := Option.map_eq_some_iff.mp ends
    cases pair
    have plain := left_whole same
    rw [if_pos same, (wholeNumber_numeral whole positive.1 short.1).mpr plain, List.count_eq_zero_of_not_mem plain]
    simp
  next dashed =>
    split at ends
    · cases ends
    obtain ⟨low, left, ends⟩ := Option.bind_eq_some_iff.mp ends
    obtain ⟨high, right, ends⟩ := Option.bind_eq_some_iff.mp ends
    cases ends
    have lower := (wholeNumber_numeral left positive.1 short.1).mpr (not_mem_left _)
    have upper := wholeNumber_numeral right positive.2 short.2
    have counted : text.toList.count '-' =
        (text.toList.drop ((text.toList.takeWhile fun letter => letter != '-').length + 1)).count '-' + 1 := by
      conv_lhs => rw [split_dash dashed]
      rw [List.count_append, List.count_cons_self, List.count_eq_zero_of_not_mem (not_mem_left _), Nat.zero_add]
    have single (count : Nat) : count + 1 ≤ 1 ↔ count = 0 := by omega
    rw [if_neg dashed, lower, counted, single, List.count_eq_zero, ← upper]
    simp [Option.bind_eq_some_iff]

end Numerals

/-- An accepted text gives a proper range, and the one that it spells when the text is plain. -/
theorem parseRangeString_some {text : String} {range : IdRange} (parsed : parseRangeString text = some range) :
    range.Sound ∧ range.next = range.start ∧
      (spelled text = some (↑range.start.toNat, ↑range.stop.toNat) ↔ PlainText text) := by
  unfold parseRangeString at parsed
  split at parsed
  · cases parsed
  next first last ends =>
    split at parsed
    · cases parsed
    next bounds =>
      cases parsed
      have start : (UInt32.ofNat first).toNat = first := by
        rw [UInt32.toNat_ofNat']
        exact Nat.mod_eq_of_lt (by omega)
      have stop : (UInt32.ofNat last).toNat = last := by
        rw [UInt32.toNat_ofNat']
        exact Nat.mod_eq_of_lt (by omega)
      have positive : 0 < UInt32.ofNat first := by
        rw [UInt32.lt_iff_toNat_lt, start]
        change 0 < first
        omega
      have ordered : UInt32.ofNat first ≤ UInt32.ofNat last := by
        rw [UInt32.le_iff_toNat_le, start, stop]
        omega
      refine ⟨⟨positive, ordered, UInt32.le_refl _, ordered⟩, rfl, ?_⟩
      dsimp only
      rw [start, stop, PlainText]
      by_cases hidden : Char.ofNat 0 ∈ text.toList
      · constructor
        · intro shown
          exact absurd hidden (spelled_plain shown)
        · intro plain
          exact absurd hidden plain.1
      · have whole : cString text = text := by
          rw [cString, List.takeWhile_eq_self_iff.mpr, String.ofList_toList]
          intro letter member
          rw [bne_iff_ne]
          rintro rfl
          exact hidden member
        rw [whole] at ends
        rw [rangeEnds_spelled ends (by omega) (by omega)]
        exact (and_iff_right hidden).symm

/-- The range is what the parser makes of the text. -/
def Parsed (text : String) (range : IdRange) : Prop := parseRangeString text = some range

section Document

/-- A parsed range is that of its text. -/
theorem parseRange_ok {name : String} {datum : Datum} {range : IdRange} (loaded : parseRange name datum = .ok range) :
    ∃ text, datum.text = some text ∧ Parsed text range := by
  unfold parseRange at loaded
  split at loaded
  next text =>
    split at loaded
    · cases loaded
    next parsed =>
      cases loaded
      exact ⟨text, rfl, parsed⟩
  · cases loaded

/-- Each text of a key gives one range, in order. -/
theorem parseRanges_ok {name : String} {datum : Datum} {ranges : List IdRange}
    (loaded : parseRanges datum name = .ok ranges) : List.Forall₂ Parsed datum.texts ranges := by
  unfold parseRanges at loaded
  split at loaded
  · cases loaded
    exact .nil
  · split at loaded
    · cases loaded
    next parsed =>
      cases loaded
      exact .cons parsed .nil
  next items =>
    induction items generalizing ranges with
    | nil =>
        cases loaded
        exact .nil
    | cons item items hypothesis =>
        rw [List.mapM_cons] at loaded
        obtain ⟨range, here, later⟩ := bind_ok.mp loaded
        obtain ⟨others, rest, same⟩ := bind_ok.mp later
        cases same
        obtain ⟨text, shown, parsed⟩ := parseRange_ok here
        have texts : (Datum.array (item :: items)).texts = text :: (Datum.array items).texts := by
          rw [Datum.texts, Datum.texts, List.filterMap_cons_some shown]
        rw [texts]
        exact .cons parsed (hypothesis rest)
  · cases loaded

/-- A required identifier is the number of its datum. -/
theorem copyUint32_number {old value : UInt32} {datum : Datum} {name : String}
    (copied : copyUint32 old datum name true = .ok value) : datum.number = some ↑value.toNat := by
  obtain ⟨read, integer, same⟩ := bind_ok.mp copied
  unfold copyInteger at integer
  split at integer
  · cases integer
  next number =>
    split at integer
    · cases integer
    next bounds =>
      cases integer
      cases same
      change some number.toInt = some ↑(UInt32.ofNat number.toInt.toNat).toNat
      rw [UInt32.toNat_ofNat', Nat.mod_eq_of_lt (by omega), Int.toNat_of_nonneg (by omega)]
  · cases integer

/-- The ranges of the driver are those of the three fields. -/
theorem loadDriver_ok {datum : Datum} {driver : DriverSettings} (loaded : loadDriver datum = .ok driver) :
    List.Forall₂ Parsed ((datum.get "stream_id_range").texts ++ (datum.get "descriptor_stream_id_range").texts ++
      (datum.get "control_stream_id_range").texts) driver.ranges ∧
      [datum.get "control_stream_id", datum.get "announce_stream_id", datum.get "qos_stream_id"].filterMap
        Datum.number = [driver.controlStreamId, driver.announceStreamId, driver.qosStreamId].map fun streamId =>
          ↑streamId.toNat := by
  unfold loadDriver at loaded
  split at loaded
  · simp only [bind_ok] at loaded
    obtain ⟨_, -, _, -, _, -, control, controlRead, _, -, announce, announceRead, _, -, qos, qosRead, streams,
      streamsRead, descriptors, descriptorsRead, controls, controlsRead, same⟩ := loaded
    cases same
    constructor
    · exact List.rel_append (List.rel_append (parseRanges_ok streamsRead) (parseRanges_ok descriptorsRead))
        (parseRanges_ok controlsRead)
    · rw [List.filterMap_cons_some (copyUint32_number controlRead),
        List.filterMap_cons_some (copyUint32_number announceRead),
          List.filterMap_cons_some (copyUint32_number qosRead)]
      rfl
  · cases loaded

/-- The number of a loaded stream is that of its entry. -/
theorem loadStream_number {profiles : List Profile} {before : List StreamDef} {datum : Datum} {stream : StreamDef}
    (loaded : loadStream profiles before datum = .ok stream) :
    (datum.get "stream_id").number = some ↑stream.streamId.toNat := by
  unfold loadStream at loaded
  split at loaded
  · obtain ⟨streamId, read, loaded⟩ := bind_ok.mp loaded
    split at loaded
    · cases loaded
    · obtain ⟨profileName, -, loaded⟩ := bind_ok.mp loaded
      split at loaded
      · cases loaded
      · split at loaded
        · cases loaded
        · cases loaded
          exact copyUint32_number read
  · cases loaded

/-- The numbers of loaded streams are those of their entries. -/
theorem loadStreamEntries_numbers {profiles : List Profile} {before streams : List StreamDef}
    {entries : List (String × Datum)} (loaded : loadStreamEntries profiles before entries = .ok streams) :
    (streams.map fun stream => (↑stream.streamId.toNat : Int)) =
      (before.map fun stream => (↑stream.streamId.toNat : Int)) ++
        entries.filterMap fun entry => (entry.2.get "stream_id").number := by
  induction entries generalizing before with
  | nil =>
      cases loaded
      rw [List.filterMap_nil, List.append_nil]
  | cons entry rest hypothesis =>
      obtain ⟨stream, here, later⟩ := bind_ok.mp loaded
      have numbers : ((entry :: rest).filterMap fun entry => (entry.2.get "stream_id").number) =
          ↑stream.streamId.toNat :: rest.filterMap fun entry => (entry.2.get "stream_id").number :=
        List.filterMap_cons_some (loadStream_number here)
      rw [hypothesis later, numbers, List.map_append, List.append_assoc]
      rfl

/-- The numbers of the streams are those of the file. -/
theorem loadStreams_numbers {profiles : List Profile} {datum : Datum} {streams : List StreamDef}
    (loaded : loadStreams profiles datum = .ok streams) :
    (streams.map fun stream => (↑stream.streamId.toNat : Int)) =
      datum.entries.filterMap fun entry => (entry.2.get "stream_id").number := by
  unfold loadStreams at loaded
  split at loaded
  · cases loaded
    rfl
  · exact loadStreamEntries_numbers loaded
  · cases loaded

/-- A loaded configuration has the ranges and the numbers of its document. -/
theorem configLoad_numbers {finalizes : List String → Except String Unit} {document : Datum} {loaded : LoadedConfig}
    (accepted : configLoad finalizes (.ok document) = .ok loaded) :
    List.Forall₂ Parsed (rangeTexts document) loaded.driver.ranges ∧
      fixedNumbers document = loaded.fixedIds.map fun streamId => ↑streamId.toNat := by
  simp only [configLoad, bind_ok] at accepted
  obtain ⟨_, parsed, driver, driven, _, -, _, -, _, -, streams, read, _, -, _, -, _, -, same⟩ := accepted
  cases parsed
  cases same
  obtain ⟨ranges, channels⟩ := loadDriver_ok driven
  refine ⟨ranges, ?_⟩
  unfold fixedNumbers LoadedConfig.fixedIds
  dsimp only
  rw [List.map_append, List.map_map, ← channels, ← loadStreams_numbers read]
  rfl

end Document

section Separation

/-- A plain text spans exactly the identifiers of its range. -/
theorem spans_iff {text : String} {range : IdRange}
    (shown : spelled text = some (↑range.start.toNat, ↑range.stop.toNat)) {number : Int} :
    Spans text number ↔ ∃ streamId : UInt32, ↑streamId.toNat = number ∧ range.Contains streamId := by
  unfold Spans IdRange.Contains
  simp only [shown, Option.some.injEq, Prod.mk.injEq]
  constructor
  · rintro ⟨_, _, ⟨rfl, rfl⟩, lower, upper⟩
    have bound := range.stop.toNat_lt
    have same : (UInt32.ofNat number.toNat).toNat = number.toNat := by
      rw [UInt32.toNat_ofNat']
      exact Nat.mod_eq_of_lt (by omega)
    refine ⟨UInt32.ofNat number.toNat, ?_, ?_, ?_⟩
    · omega
    · rw [UInt32.le_iff_toNat_le]
      omega
    · rw [UInt32.le_iff_toNat_le]
      omega
  · rintro ⟨streamId, rfl, lower, upper⟩
    rw [UInt32.le_iff_toNat_le] at lower upper
    exact ⟨_, _, ⟨rfl, rfl⟩, by omega, by omega⟩

/-- Spelled ranges are disjoint exactly when the parsed ones are. -/
theorem disjoint_iff {first second : String} {left right : IdRange}
    (firstShown : spelled first = some (↑left.start.toNat, ↑left.stop.toNat))
    (secondShown : spelled second = some (↑right.start.toNat, ↑right.stop.toNat)) :
    (∀ number, Spans first number → ¬ Spans second number) ↔ left.Disjoint right := by
  constructor
  · intro apart streamId inLeft inRight
    exact apart _ ((spans_iff firstShown).mpr ⟨streamId, rfl, inLeft⟩)
      ((spans_iff secondShown).mpr ⟨streamId, rfl, inRight⟩)
  · intro apart number inFirst inSecond
    obtain ⟨streamId, rfl, inLeft⟩ := (spans_iff firstShown).mp inFirst
    obtain ⟨other, same, inRight⟩ := (spans_iff secondShown).mp inSecond
    rw [UInt32.toNat_inj.mp (Int.ofNat_inj.mp same)] at inRight
    exact apart streamId inLeft inRight

/-- Matching lists are pairwise related together. -/
theorem pairwise_iff {α β : Type*} {relation : α → β → Prop} {first : α → α → Prop} {second : β → β → Prop}
    {lefts : List α} {rights : List β} (matching : List.Forall₂ relation lefts rights)
    (each : ∀ {a b c d}, relation a b → relation c d → (first a c ↔ second b d)) :
    lefts.Pairwise first ↔ rights.Pairwise second := by
  induction matching with
  | nil => simp
  | @cons left right lefts rights here rest hypothesis =>
      have heads : (∀ other ∈ lefts, first left other) ↔ ∀ other ∈ rights, second right other := by
        clear hypothesis
        induction rest with
        | nil => simp
        | cons inside _ later => rw [List.forall_mem_cons, List.forall_mem_cons, each here inside, later]
      rw [List.pairwise_cons, List.pairwise_cons, heads, hypothesis]

/-- Matching lists have related properties together. -/
theorem forall_iff {α β : Type*} {relation : α → β → Prop} {first : α → Prop} {second : β → Prop} {lefts : List α}
    {rights : List β} (matching : List.Forall₂ relation lefts rights)
    (each : ∀ {a b}, relation a b → (first a ↔ second b)) : (∀ a ∈ lefts, first a) ↔ ∀ b ∈ rights, second b := by
  induction matching with
  | nil => simp
  | cons here _ hypothesis => rw [List.forall_mem_cons, List.forall_mem_cons, each here, hypothesis]

/-- The texts are plain exactly when the ranges are what the texts spell. -/
theorem forall₂_spelled {texts : List String} {ranges : List IdRange} (matching : List.Forall₂ Parsed texts ranges) :
    List.Forall₂ (fun text range => spelled text = some (↑range.start.toNat, ↑range.stop.toNat)) texts ranges ↔
      ∀ text ∈ texts, PlainText text := by
  induction matching with
  | nil => simp
  | cons here _ hypothesis =>
      rw [List.forall₂_cons, List.forall_mem_cons, (parseRangeString_some here).2.2, hypothesis]

/-- An accepted configuration is separate exactly when its document is. -/
theorem configLoad_separate {finalizes : List String → Except String Unit} {document : Datum} {loaded : LoadedConfig}
    (accepted : configLoad finalizes (.ok document) = .ok loaded) :
    Separate document loaded ↔ SeparateTexts document := by
  obtain ⟨ranges, numbers⟩ := configLoad_numbers accepted
  have whole := forall₂_spelled ranges
  have proper : (∀ text ∈ rangeTexts document, True) ↔
      ∀ range ∈ loaded.driver.ranges, 0 < range.start ∧ range.start ≤ range.stop := by
    apply forall_iff ranges
    intro text range parsed
    have sound := (parseRangeString_some parsed).1
    exact iff_of_true trivial ⟨sound.positive, sound.ordered⟩
  have fixed (shown : List.Forall₂ (fun text range => spelled text = some (↑range.start.toNat, ↑range.stop.toNat))
      (rangeTexts document) loaded.driver.ranges) :
      (∀ text ∈ rangeTexts document, ∀ number ∈ fixedNumbers document, ¬ Spans text number) ↔
        ∀ range ∈ loaded.driver.ranges, ∀ streamId ∈ loaded.fixedIds, ¬ range.Contains streamId := by
    apply forall_iff shown
    intro text range same
    rw [numbers, List.forall_mem_map]
    apply forall₂_congr
    intro streamId _
    rw [spans_iff same]
    constructor
    · intro outside inside
      exact outside ⟨streamId, rfl, inside⟩
    · rintro outside ⟨other, equal, inside⟩
      rw [UInt32.toNat_inj.mp (Int.ofNat_inj.mp equal)] at inside
      exact outside inside
  constructor
  · intro separate
    exact ⟨whole.mp separate.spelled, (pairwise_iff separate.spelled disjoint_iff).mpr separate.disjoint,
      (fixed separate.spelled).mpr separate.fixed⟩
  · intro separate
    have shown := whole.mpr separate.plain
    exact ⟨proper.mp fun _ _ => trivial, (pairwise_iff shown disjoint_iff).mp separate.disjoint,
      (fixed shown).mp separate.fixed, shown⟩

end Separation

/-- This document has one range for streams, one for descriptors and one stream. -/
def rangedDocument (streams descriptors : String) (streamId : Int64) : Datum := .table [
  ("driver", .table [
    ("control_channel", .string "aeron:ipc"), ("control_stream_id", .int64 1000),
    ("announce_channel", .string "aeron:ipc"), ("announce_stream_id", .int64 1001),
    ("qos_channel", .string "aeron:ipc"), ("qos_stream_id", .int64 1200),
    ("stream_id_range", .string streams), ("descriptor_stream_id_range", .array [.string descriptors])]),
  ("shm", .table [("base_dir", .string "/dev/shm"), ("namespace", .string "default")]),
  ("policies", .table []),
  ("profiles", .table [("plain", .table [("header_nslots", .int64 8),
    ("payload_pools", .array [.table [("pool_id", .int64 1), ("stride_bytes", .int64 64)]])])]),
  ("streams", .table [("camera", .table [("stream_id", .int64 streamId), ("profile", .string "plain")])])]

/-- The loader accepts two ranges that share the identifiers from 25 to 29. -/
theorem configLoad_overlap : ¬ ∀ (finalizes : List String → Except String Unit) (document : Datum)
    (loaded : LoadedConfig), configLoad finalizes (.ok document) = .ok loaded → Separate document loaded := by
  intro claim
  have ranges : (configLoad (fun _ => .ok ()) (.ok (rangedDocument "20-29" "25-40" 7))).toOption.map
      (fun loaded => loaded.driver.ranges) = some [⟨20, 29, 20⟩, ⟨25, 40, 25⟩] := by decide +kernel
  rcases outcome : configLoad (fun _ => .ok ()) (.ok (rangedDocument "20-29" "25-40" 7)) with text | loaded
  · rw [outcome] at ranges
    cases ranges
  · have separate := claim _ _ loaded outcome
    rw [outcome] at ranges
    have shape : loaded.driver.ranges = [⟨20, 29, 20⟩, ⟨25, 40, 25⟩] := Option.some.inj ranges
    have apart := separate.disjoint
    rw [shape, List.pairwise_pair] at apart
    exact apart 25 ⟨by decide, by decide⟩ ⟨by decide, by decide⟩

/-- Two ranges with a gap between them are loaded as they are spelled. -/
theorem configLoad_separate_gap : ∃ loaded,
    configLoad (fun _ => .ok ()) (.ok (rangedDocument "20-29" " 30-+40" 7)) = .ok loaded ∧
      Separate (rangedDocument "20-29" " 30-+40" 7) loaded := by
  have accepted : (configLoad (fun _ => .ok ()) (.ok (rangedDocument "20-29" " 30-+40" 7))).toOption.isSome =
    true := by
    decide +kernel
  rcases outcome : configLoad (fun _ => .ok ()) (.ok (rangedDocument "20-29" " 30-+40" 7)) with text | loaded
  · rw [outcome] at accepted
    cases accepted
  have texts : rangeTexts (rangedDocument "20-29" " 30-+40" 7) = ["20-29", " 30-+40"] := by rfl
  have numbers : fixedNumbers (rangedDocument "20-29" " 30-+40" 7) = [7, 1000, 1001, 1200] := by rfl
  have first : spelled "20-29" = some (20, 29) := by decide +kernel
  have second : spelled " 30-+40" = some (30, 40) := by decide +kernel
  refine ⟨loaded, rfl, (configLoad_separate outcome).mpr ⟨?_, ?_, ?_⟩⟩
  · rw [texts]
    decide +kernel
  · rw [texts, List.pairwise_pair]
    rintro number ⟨low, high, shown, lower, upper⟩ ⟨low', high', shown', lower', upper'⟩
    rw [first] at shown
    rw [second] at shown'
    cases shown
    cases shown'
    omega
  · rw [texts, numbers]
    rintro text member number given ⟨low, high, shown, lower, upper⟩
    simp only [List.mem_cons, List.not_mem_nil, or_false] at member given
    rcases member with rfl | rfl
    · rw [first] at shown
      cases shown
      omega
    · rw [second] at shown
      cases shown
      omega

end TensorPool.Driver
