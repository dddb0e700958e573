/-
This file says which fragments the decoders of the driver client read inside of their bounds, and gathers all
decoders.
-/

import TensorPool.DriverClient.Complete
import TensorPool.DriverClient.Notices
import TensorPool.DriverClient.Poll
import TensorPool.Wire.Inside

namespace TensorPool.Wire

open Scan Flyweight FixedField

variable {bytes : List UInt8}

/-- The reader of a text goes on when its length is inside. -/
theorem ensures_data_any {ε : Type} {rest : List UInt8} {condition : Prop} :
    (data rest : Scan ε _).Ensures (fun _ => condition) ↔ 4 ≤ rest.length ∧ condition := by
  rw [ensures_data]
  cases checkedData rest <;> exact Iff.rfl

/-- What is behind a text has its length in front. -/
theorem room_of_afterData {rest behind : List UInt8} (found : afterData rest = some behind) : 4 ≤ rest.length := by
  by_contra short
  rw [afterData, if_neg (by omega)] at found
  cases found

/-- The accessors of the driver client need the length of a text, and the text has to be there to be reported. -/
theorem passed_data (layout : Layout) (current : Current layout.codec bytes) (plain : layout.group = none)
    (one : layout.texts = 1) :
    (8 + (messageHeader.decode bytes).blockLength.toNat ≤ bytes.length ∧
        4 ≤ (bytes.drop (8 + (messageHeader.decode bytes).blockLength.toNat)).length ∧ Whole layout bytes) ↔
      (layout.behind bytes).isSome := by
  rw [current.blockLength]
  constructor
  · intro passed
    exact passed.2.2.behind
  · intro whole
    have found := whole
    rw [Layout.behind, plain, one] at found
    split at found
    next inside =>
      refine ⟨inside, ?_, current, whole⟩
      obtain ⟨last, walked⟩ := Option.isSome_iff_exists.mp found
      change (afterData _).bind _ = _ at walked
      obtain ⟨behind, text, -⟩ := Option.bind_eq_some_iff.mp walked
      exact room_of_afterData text
    · cases found

def revokedLayout : Layout := { codec := DriverClient.LeaseRevoked.codec, texts := 1 }

open DriverClient in
/-- A revocation is decoded inside exactly when its block and its text are, up to an unknown enumeration. -/
theorem leaseRevoked_inside : (decodeLeaseRevoked bytes).Ensures (fun _ => Whole revokedLayout bytes) ↔
    (Addressed LeaseRevoked.codec bytes → Current LeaseRevoked.codec bytes →
      BlockHeld bytes (revokedLayout.behind bytes).isSome [(32, roles), (33, leaseRevokeReasons)]) := by
  unfold decodeLeaseRevoked
  simp only [ensures_bind, ensures_openMessage, ensures_read, ensures_stopIf, ensures_behindBlock, ensures_data_any,
    ensures_value, forall_const, not_not, width_uint8, width_uint32, width_uint64]
  apply forall_congr'
  intro addressed
  apply forall_congr'
  intro current
  simp only [BlockHeld, passed_data revokedLayout current rfl rfl]
  have block : (revokedLayout.behind bytes).isSome → 34 ≤ bytes.length := by
    intro whole
    exact ((passed_data revokedLayout current rfl rfl).mpr whole).2.2.inside
  grind

def shutdownLayout : Layout := { codec := DriverClient.Shutdown.codec, texts := 1 }

open DriverClient in
/-- A shutdown is decoded inside exactly when its block and its text are, up to an unknown reason. -/
theorem shutdown_inside : (decodeShutdown bytes).Ensures (fun _ => Whole shutdownLayout bytes) ↔
    (Addressed Shutdown.codec bytes → Current Shutdown.codec bytes →
      BlockHeld bytes (shutdownLayout.behind bytes).isSome [(16, shutdownReasons)]) := by
  unfold decodeShutdown
  simp only [ensures_bind, ensures_openMessage, ensures_read, ensures_stopIf, ensures_behindBlock, ensures_data_any,
    ensures_value, forall_const, not_not, width_uint8, width_uint64]
  apply forall_congr'
  intro addressed
  apply forall_congr'
  intro current
  simp only [BlockHeld, passed_data shutdownLayout current rfl rfl]
  have block : (shutdownLayout.behind bytes).isSome → 17 ≤ bytes.length := by
    intro whole
    exact ((passed_data shutdownLayout current rfl rfl).mpr whole).2.2.inside
  grind

open DriverClient

/-- The checks of the header, as the decoders of the driver client make them. -/
theorem header_checks {template length : UInt16} {condition : Prop} :
    (¬ bytes.length < messageHeader.width → 0 + messageHeader.width ≤ bytes.length ∧
      (¬ ((messageHeader.decode bytes).schemaId ≠ schemaId ∨ (messageHeader.decode bytes).templateId ≠ template) →
        ¬ schemaVersion < (messageHeader.decode bytes).version →
          (messageHeader.decode bytes).blockLength = length → condition)) ↔
      (Addressed (DriverClient.codec template length) bytes → Current (DriverClient.codec template length) bytes →
        condition) := by
  constructor
  · intro checks addressed current
    have whole : ¬ bytes.length < messageHeader.width := Nat.not_lt.mpr addressed.whole
    apply (checks whole).2
    · rw [not_or, not_not, not_not]
      exact ⟨addressed.schemaId, addressed.templateId⟩
    · exact UInt16.not_lt.mpr current.version
    · exact current.blockLength
  · intro opened whole
    have whole := Nat.le_of_not_lt whole
    refine ⟨by rwa [Nat.zero_add], fun named version block => ?_⟩
    rw [not_or, not_not, not_not] at named
    exact opened ⟨whole, named.1, named.2⟩ ⟨UInt16.not_lt.mp version, block⟩

def detachCodec : Codec := DriverClient.codec DetachResponse.templateId DetachResponse.blockLength
def detachLayout : Layout := { codec := detachCodec, texts := 1 }

/-- A detach response is decoded inside exactly when its block and its text are, up to an unknown code. -/
theorem detachResponse_inside :
    (∀ info, (decodeDetachResponse info bytes).Ensures (fun _ => Whole detachLayout bytes)) ↔
      (Addressed detachCodec bytes → Current detachCodec bytes →
        20 ≤ bytes.length ∧ (int32.decode (bytes.drop 16) ∈ knownCodes → (detachLayout.behind bytes).isSome)) := by
  have someInfo : Nonempty DetachInfo := ⟨{}⟩
  unfold decodeDetachResponse
  simp only [ensures_bind, ensures_read, ensures_stopIf, ensures_data_any, ensures_value, not_not, List.drop_zero,
    header_checks, forall_const]
  apply forall_congr'
  intro addressed
  apply forall_congr'
  intro current
  have tail := passed_data detachLayout current rfl rfl
  rw [current.blockLength] at tail
  change 20 ≤ _ ∧ _ ↔ _ at tail
  rw [← tail]
  change 16 ≤ _ ∧ 20 ≤ _ ∧ (_ → 4 ≤ (bytes.drop 20).length ∧ _) ↔ _ ∧ (_ → _ ∧ 4 ≤ (bytes.drop 20).length ∧ _)
  grind

def attachCodec : Codec := DriverClient.codec AttachResponse.templateId AttachResponse.blockLength
def attachLayout : Layout := { codec := attachCodec, group := some 1, texts := 1 }

/-- The texts of a refused response stand where the client gets to when it skips the blocks of the pools. -/
def refusedTexts (bytes : List UInt8) : Option (List UInt8) :=
  if 66 ≤ bytes.length then
    afterTexts 2 (skipEntries (entryLengthAt bytes) (countAt bytes) (poolsAt bytes))
  else none

/-- What a decoded response reports is in the fragment; a response that the client refuses reports no pools. -/
structure AttachReported (bytes : List UInt8) (info : AttachInfo) : Prop where
  current : Current attachCodec bytes
  block : 62 ≤ bytes.length
  granted : int32.decode (bytes.drop 16) = codeOk → info.code = codeOk → Whole attachLayout bytes
  refused : int32.decode (bytes.drop 16) ≠ codeOk → (refusedTexts bytes).isSome

/-- The client takes the fields of a pool. -/
structure Taken (headerNslots : UInt32) (rest : List UInt8) : Prop where
  nslots : (poolBlock.decode rest).2.1 ≠ DriverClient.nullU32
  strideBytes : (poolBlock.decode rest).2.2 ≠ DriverClient.nullU32
  same : (poolBlock.decode rest).2.1 = headerNslots

/--
Each pool that the client gets to has room for its fields and for the length of its URI, and a group that is cut off
has no URI of a header behind it.
-/
def PoolsWalked (headerNslots : UInt32) (blockLength : Nat) : Nat → List UInt8 → Prop
  | 0, rest => 4 ≤ rest.length
  | count + 1, rest =>
      if blockLength ≤ rest.length then
        10 ≤ rest.length ∧ (Taken headerNslots rest → 4 ≤ (rest.drop blockLength).length ∧
          ∀ uri behind, checkedData (rest.drop blockLength) = some (uri, behind) → chars uri ≠ [] →
            PoolsWalked headerNslots blockLength count behind)
      else 4 ≤ rest.length ∧ ∀ uri behind, checkedData rest = some (uri, behind) → chars uri = []

/-- The header URI behind the pools ends a granted response. -/
def HeaderUri (condition : Prop) (rest : List UInt8) : Prop :=
  4 ≤ rest.length ∧ ∀ uri behind, checkedData rest = some (uri, behind) → chars uri ≠ [] → condition

/-- The header URI is taken when it is inside and not empty. -/
theorem ensures_decodeHeaderUri {info : AttachInfo} {rest : List UInt8} {condition : AttachInfo → Prop} {whole : Prop}
    (refused : ∀ info : AttachInfo, info.code = codeInvalidParams → condition info)
    (taken : ∀ uri, condition { info with headerRegionUri := uri } ↔ whole) :
    (decodeHeaderUri info rest).Ensures condition ↔ HeaderUri whole rest := by
  unfold decodeHeaderUri HeaderUri
  rw [ensures_bind, ensures_data]
  apply and_congr_right
  intro room
  cases checkedData rest with
  | none =>
      simp only [if_true, ensures_value, reduceCtorEq, false_implies, implies_true, iff_true]
      exact refused _ rfl
  | some found =>
      obtain ⟨uri, behind⟩ := found
      simp only [reduceCtorEq, if_false, chars_copied, Option.some.injEq, Prod.mk.injEq, and_imp]
      by_cases named : chars uri = []
      · rw [if_pos named, ensures_value]
        constructor
        · intro _ other tail same _ present
          exact absurd (same ▸ named) present
        · intro _
          exact refused _ rfl
      · rw [if_neg named, ensures_value, taken]
        constructor
        · intro holds other tail _ _ _
          exact holds
        · intro all
          exact all uri behind rfl rfl named

/-- One entry is filled before the others. -/
theorem ensures_fill_more {α : Type} {each : List UInt8 → Scan (α × String) (Option (α × List UInt8))} {count : Nat}
    {rest : List UInt8} {condition : List UInt8 → Prop} :
    (Discovery.fill each (count + 1) rest).Ensures (fun found => condition found.2) ↔
      (each rest).Ensures fun step => step.elim (condition rest) fun taken =>
        (Discovery.fill each count taken.2).Ensures fun found => condition found.2 := by
  rw [Discovery.fill]
  cases each rest with
  | fault => exact Iff.rfl
  | stop refused => exact Iff.rfl
  | value step =>
      cases step with
      | none => exact Iff.rfl
      | some taken =>
          simp only [ensures_value, Option.elim_some]
          cases Discovery.fill each count taken.2 <;> exact Iff.rfl

/-- A pool is read as far as its fields are taken. -/
theorem ensures_decodePool (other : Prop) (condition : List UInt8 → Prop) {headerNslots : UInt32} {blockLength : Nat}
    {rest : List UInt8} (block : blockLength ≤ rest.length) :
    (decodePool headerNslots blockLength rest).Ensures (fun step => step.elim other fun taken => condition taken.2) ↔
      10 ≤ rest.length ∧ (Taken headerNslots rest → 4 ≤ (rest.drop blockLength).length ∧
        ∀ uri behind, checkedData (rest.drop blockLength) = some (uri, behind) → chars uri ≠ [] →
          condition behind) := by
  unfold decodePool
  rw [nextEntry, if_pos block]
  simp only [ensures_bind, ensures_read, ensures_stopIf, ensures_data, ensures_value, Nat.zero_add, List.drop_zero]
  apply and_congr_right
  intro fields
  have taken : Taken headerNslots rest ↔ ¬ ((poolBlock.decode rest).2.1 = DriverClient.nullU32 ∨
      (poolBlock.decode rest).2.2 = DriverClient.nullU32) ∧ ¬ (poolBlock.decode rest).2.1 ≠ headerNslots := by
    rw [not_or, not_not]
    constructor
    · intro taken
      exact ⟨⟨taken.nslots, taken.strideBytes⟩, taken.same⟩
    · intro passed
      exact ⟨passed.1.1, passed.1.2, passed.2⟩
  rw [taken, and_imp]
  apply forall_congr'
  intro present
  apply forall_congr'
  intro same
  apply and_congr_right
  intro room
  cases checkedData (rest.drop blockLength) with
  | none => simp
  | some found =>
      obtain ⟨uri, behind⟩ := found
      simp [chars_copied]

/-- The loop over the pools of a granted response, and the URI of the header behind it. -/
theorem ensures_fill {headerNslots : UInt32} {blockLength count : Nat} {rest : List UInt8} {whole : Prop}
    (same : whole ↔ ((afterEntries blockLength 1 count rest).bind (afterTexts 1)).isSome) :
    (Discovery.fill (decodePool headerNslots blockLength) count rest).Ensures (fun found => HeaderUri whole found.2) ↔
      PoolsWalked headerNslots blockLength count rest := by
  induction count generalizing rest with
  | zero =>
      rw [Discovery.fill, ensures_value, PoolsWalked, HeaderUri]
      constructor
      · intro uri
        exact uri.1
      · intro room
        refine ⟨room, fun uri behind found _ => same.mpr ?_⟩
        have there : afterData rest = some behind := by rw [← checkedData_behind, found, Option.map_some]
        simp [afterEntries, afterTexts, there]
  | succ count hypothesis =>
      rw [Discovery.fill, PoolsWalked]
      by_cases block : blockLength ≤ rest.length
      · rw [if_pos block]
        have step := @ensures_fill_more PoolInfo (decodePool headerNslots blockLength) count rest (HeaderUri whole)
        rw [Discovery.fill] at step
        rw [step, ensures_decodePool _ (fun behind => (Discovery.fill (decodePool headerNslots blockLength) count
          behind).Ensures fun found => HeaderUri whole found.2) block]
        apply and_congr_right
        intro fields
        apply forall_congr'
        intro taken
        apply and_congr_right
        intro room
        apply forall_congr'
        intro uri
        apply forall_congr'
        intro behind
        apply forall_congr'
        intro found
        apply forall_congr'
        intro named
        apply hypothesis
        have there : afterData (rest.drop blockLength) = some behind := by
          rw [← checkedData_behind, found, Option.map_some]
        rw [same, afterEntries, if_pos block, afterTexts, there, Option.bind_some]
        rfl
      · rw [if_neg block]
        rw [decodePool_none.mpr (Nat.lt_of_not_le block)]
        dsimp only
        rw [ensures_value, HeaderUri]
        rw [afterEntries, if_neg block, Option.bind_none] at same
        have never : ¬ whole := by simp [same]
        simp only [never]
        grind

/-- A granted response is read up to the first field that the client does not take. -/
structure GrantedHeld (bytes : List UInt8) : Prop where
  block : 62 ≤ bytes.length
  pools : (leaseBlock.decode (bytes.drop 20)).missing = false →
    (leaseBlock.decode (bytes.drop 20)).headerSlotBytes = headerSlotBytes →
    (leaseBlock.decode (bytes.drop 20)).headerNslots ≠ 0 →
    66 ≤ bytes.length ∧ (countAt bytes ≠ 0 →
      PoolsWalked (leaseBlock.decode (bytes.drop 20)).headerNslots (entryLengthAt bytes) (countAt bytes)
        (poolsAt bytes))

/-- Each field that the decoder of an attach response gets to is in the fragment. -/
def AttachHeld (correlationId : Int64) (bytes : List UInt8) : Prop :=
  16 ≤ bytes.length ∧ (int64.decode (bytes.drop 8) = correlationId →
    20 ≤ bytes.length ∧ (int32.decode (bytes.drop 16) ∈ knownCodes →
      if int32.decode (bytes.drop 16) = codeOk then GrantedHeld bytes else (refusedTexts bytes).isSome))

/-- The reader of a group goes on when its head is inside. -/
theorem ensures_group {ε : Type} {rest : List UInt8} {condition : Nat × Nat × List UInt8 → Prop} :
    (group rest : Scan ε _).Ensures condition ↔
      4 ≤ rest.length ∧ condition ((uint16.decode rest).toNat, (uint16.decode (rest.drop 2)).toNat, rest.drop 4) := by
  unfold group
  simp only [ensures_bind, ensures_read, ensures_value, width_uint16, Nat.zero_add, List.drop_zero]
  grind

/-- The layout of a granted response is that of its group and of the URI behind it. -/
theorem whole_attach (current : Current attachCodec bytes) (room : 66 ≤ bytes.length) :
    Whole attachLayout bytes ↔
      ((afterEntries (entryLengthAt bytes) 1 (countAt bytes) (poolsAt bytes)).bind (afterTexts 1)).isSome := by
  have start : 4 ≤ (bytes.drop 62).length := by
    rw [List.length_drop]
    omega
  have block : 8 + attachLayout.codec.blockLength.toNat ≤ bytes.length := by
    change 62 ≤ _
    omega
  have shape : attachLayout.behind bytes =
      (afterEntries (entryLengthAt bytes) 1 (countAt bytes) (poolsAt bytes)).bind (afterTexts 1) := by
    rw [Layout.behind, if_pos block]
    change (afterGroup 1 (bytes.drop 62)).bind (afterTexts 1) = _
    rw [afterGroup, if_pos start, List.drop_drop, List.drop_drop]
    rfl
  rw [← shape]
  constructor
  · intro whole
    exact whole.behind
  · intro behind
    exact ⟨current, behind⟩

/-- The pools are taken when each of them is inside and usable. -/
theorem ensures_decodePools {info : AttachInfo} {whole : Prop} {condition : AttachInfo → Prop}
    (same : 66 ≤ bytes.length →
      (whole ↔ ((afterEntries (entryLengthAt bytes) 1 (countAt bytes) (poolsAt bytes)).bind (afterTexts 1)).isSome))
    (refused : ∀ info : AttachInfo, info.code ≠ codeOk → condition info)
    (taken : ∀ pools count uri, condition { info with pools := pools, poolCount := count, headerRegionUri := uri } ↔
      whole) :
    (∀ allocates, (decodePools allocates info (bytes.drop 62)).Ensures condition) ↔
      66 ≤ bytes.length ∧
        (countAt bytes ≠ 0 → PoolsWalked info.headerNslots (entryLengthAt bytes) (countAt bytes)
          (poolsAt bytes)) := by
  have invalid (info : AttachInfo) (code : info.code = codeInvalidParams) : condition info := by
    apply refused
    rw [code]
    decide
  unfold decodePools
  have length : (uint16.decode (bytes.drop 62)).toNat = entryLengthAt bytes := rfl
  have counted : (uint16.decode (bytes.drop (62 + 2))).toNat = countAt bytes := rfl
  have stood : bytes.drop (62 + 4) = poolsAt bytes := rfl
  simp only [ensures_bind, ensures_group, List.length_drop, List.drop_drop, length, counted, stood, ensures_ite,
    ensures_value, Bool.forall_bool, Bool.true_eq_false]
  by_cases room : 66 ≤ bytes.length
  case neg =>
    constructor
    · intro ensured
      have start := ensured.1.1
      omega
    · intro held
      exact absurd held.1 room
  rw [← ensures_fill (same room)]
  have unlisted : condition (AttachInfo.refuse { info with poolCount := countAt bytes } codeInvalidParams
      "attach response missing payload pools") := invalid _ rfl
  have unallocated : condition (AttachInfo.refuse { info with poolCount := 0 } codeInternalError
      "attach response pool allocation failed") := by
    apply refused
    change codeInternalError ≠ codeOk
    decide
  cases filled : Discovery.fill (decodePool info.headerNslots (entryLengthAt bytes)) (countAt bytes)
    (poolsAt bytes) with
  | fault =>
      simp only [not_ensures_fault]
      grind
  | stop error =>
      have stopped (pools : List PoolInfo) : condition (AttachInfo.refuse { info with
          poolCount := countAt bytes, pools := some pools } codeInvalidParams error.2) := invalid _ rfl
      simp only [ensures_stop, ensures_value]
      grind
  | value found =>
      have uri (pools : List PoolInfo) := @ensures_decodeHeaderUri
        { info with poolCount := countAt bytes, pools := some pools } found.2 condition whole invalid
        fun uri => taken _ _ uri
      simp only [ensures_value, uri]
      grind

/-- A grant is taken when its block, its pools and its URI are inside. -/
theorem ensures_decodeGranted {info : AttachInfo} {whole : Prop} {condition : AttachInfo → Prop}
    (same : 66 ≤ bytes.length →
      (whole ↔ ((afterEntries (entryLengthAt bytes) 1 (countAt bytes) (poolsAt bytes)).bind (afterTexts 1)).isSome))
    (refused : ∀ info : AttachInfo, info.code ≠ codeOk → condition info)
    (taken : ∀ block pools count uri, condition
      { info with toLeaseBlock := block, pools := pools, poolCount := count, headerRegionUri := uri } ↔ whole) :
    (∀ allocates, (decodeGranted allocates info bytes).Ensures condition) ↔ GrantedHeld bytes := by
  have invalid (code : Int32) (other : code ≠ codeOk) (info : AttachInfo) (text : String) :
      condition (info.refuse code text) := refused _ other
  have pools := @ensures_decodePools bytes { info with toLeaseBlock := leaseBlock.decode (bytes.drop 20) }
    whole condition same refused (taken _)
  have fields := invalid codeInternalError (by decide)
  have params := invalid codeInvalidParams (by decide)
  unfold decodeGranted
  simp only [ensures_bind, ensures_read, ensures_ite, ensures_value, fields, params, implies_true, true_and, not_not,
    Bool.not_eq_true]
  constructor
  · intro ensured
    refine ⟨(ensured true).1, fun required slotBytes headerNslots => pools.mp fun allocates => ?_⟩
    exact (ensured allocates).2 required slotBytes headerNslots
  · intro held allocates
    refine ⟨held.block, fun required slotBytes headerNslots => ?_⟩
    exact pools.mpr (held.pools required slotBytes headerNslots) allocates

/-- A refused response reports its text when the client gets to it. -/
theorem ensures_decodeRefused {info : AttachInfo} {condition : AttachInfo → Prop}
    (taken : ∀ text, condition { info with errorMessage := text } ↔ (refusedTexts bytes).isSome) :
    (decodeRefused info bytes).Ensures condition ↔ (refusedTexts bytes).isSome := by
  unfold decodeRefused
  simp only [ensures_bind, ensures_group, ensures_data, ensures_value, taken, List.length_drop, List.drop_drop]
  have length : (uint16.decode (bytes.drop 62)).toNat = entryLengthAt bytes := rfl
  have counted : (uint16.decode (bytes.drop (62 + 2))).toNat = countAt bytes := rfl
  have stood : bytes.drop (62 + 4) = poolsAt bytes := rfl
  simp only [length, counted, stood]
  constructor
  · intro ensured
    obtain ⟨-, -, shown⟩ := ensured
    split at shown <;> obtain ⟨-, shown⟩ := shown <;> split at shown <;> exact shown
  · intro found
    have texts := found
    rw [refusedTexts] at texts
    split at texts
    next room =>
      obtain ⟨last, walked⟩ := Option.isSome_iff_exists.mp texts
      obtain ⟨behind, uri, walked⟩ := Option.bind_eq_some_iff.mp walked
      obtain ⟨last, text, -⟩ := Option.bind_eq_some_iff.mp walked
      have uriRoom := room_of_afterData uri
      have textRoom := room_of_afterData text
      rw [← checkedData_behind] at uri
      obtain ⟨taken, shown, rfl⟩ := Option.map_eq_some_iff.mp uri
      rw [← checkedData_behind] at text
      obtain ⟨taken', shown', rfl⟩ := Option.map_eq_some_iff.mp text
      rw [shown]
      refine ⟨by omega, uriRoom, textRoom, ?_⟩
      rw [shown']
      exact found
    · cases texts

/-- A granted response is decoded inside exactly when what the decoder gets to is. -/
theorem granted_inside (current : Current attachCodec bytes) (granted : int32.decode (bytes.drop 16) = codeOk)
    (info : AttachInfo) :
    (∀ allocates, (decodeGranted allocates { info with code := codeOk } bytes).Ensures (AttachReported bytes)) ↔
      GrantedHeld bytes := by
  by_cases block : 62 ≤ bytes.length
  · apply ensures_decodeGranted (whole_attach current)
    · intro info other
      exact ⟨current, block, fun _ ok => absurd ok other, fun refused => absurd granted refused⟩
    · intro lease pools count uri
      constructor
      · intro reported
        exact reported.granted granted rfl
      · intro whole
        exact ⟨current, block, fun _ _ => whole, fun refused => absurd granted refused⟩
  · constructor
    · intro ensured
      have started := ensured true
      unfold decodeGranted at started
      rw [ensures_bind, ensures_read] at started
      exact absurd started.1 block
    · intro held
      exact absurd held.block block

/-- A refusal is decoded inside exactly when its texts are. -/
theorem refused_inside (current : Current attachCodec bytes) (refused : int32.decode (bytes.drop 16) ≠ codeOk)
    (info : AttachInfo) :
    (decodeRefused info bytes).Ensures (AttachReported bytes) ↔ (refusedTexts bytes).isSome := by
  apply ensures_decodeRefused
  intro text
  constructor
  · intro reported
    exact reported.refused refused
  · intro found
    refine ⟨current, ?_, fun granted => absurd granted refused, fun _ => found⟩
    by_contra short
    rw [refusedTexts, if_neg (by omega)] at found
    cases found

/-- An attach response is decoded inside exactly when it is held. -/
theorem attachResponse_inside (correlationId : Int64) :
    (∀ allocates info,
      (decodeAttachResponse allocates correlationId info bytes).Ensures (AttachReported bytes)) ↔
        (Addressed attachCodec bytes → Current attachCodec bytes → AttachHeld correlationId bytes) := by
  unfold decodeAttachResponse
  simp only [ensures_bind, ensures_read, ensures_stopIf, not_not, List.drop_zero, header_checks]
  constructor
  · intro ensured addressed current
    have first := ensured true {} addressed current
    refine ⟨first.1, fun answered => ⟨(first.2 answered).1, fun known => ?_⟩⟩
    by_cases granted : int32.decode (bytes.drop 16) = codeOk
    · rw [if_pos granted]
      apply (granted_inside current granted {}).mp
      intro allocates
      have shown := ((ensured allocates {} addressed current).2 answered).2 known
      rw [if_pos granted, granted] at shown
      exact shown
    · rw [if_neg granted]
      have shown := (first.2 answered).2 known
      rw [if_neg granted] at shown
      exact (refused_inside current granted _).mp shown
  · intro held allocates info addressed current
    obtain ⟨inside, answers⟩ := held addressed current
    refine ⟨inside, fun answered => ⟨(answers answered).1, fun known => ?_⟩⟩
    have shown := (answers answered).2 known
    by_cases granted : int32.decode (bytes.drop 16) = codeOk
    · rw [if_pos granted] at shown ⊢
      rw [granted]
      exact (granted_inside current granted info).mpr shown allocates
    · rw [if_neg granted] at shown ⊢
      exact (refused_inside current granted _).mpr shown

/-- These are the decoders of the control plane, and the two handlers of frames up to their own checks. -/
inductive Decoder where
  | consumerHello
  | consumerConfig
  | dataSourceAnnounce
  | shmPoolAnnounce
  | dataSourceMeta
  | controlResponse
  | metaBlobAnnounce
  | metaBlobChunk
  | metaBlobComplete
  | attachResponse (correlationId : Int64)
  | detachResponse
  | leaseRevoked
  | shutdown
  | frameDescriptor
  | frameProgress
  deriving DecidableEq, Repr

namespace Decoder

/--
The decoder reads nothing outside of the fragment, and what it decodes has a header of its codec and lies in the
fragment with its block, the entries of its group and its data fields.
-/
def Inside (bytes : List UInt8) : Decoder → Prop
  | consumerHello => (decodeConsumerHello bytes).Ensures fun _ => Whole helloLayout bytes
  | consumerConfig => (decodeConsumerConfig bytes).Ensures fun _ => Whole configLayout bytes
  | dataSourceAnnounce => (decodeDataSourceAnnounce bytes).Ensures fun _ => Whole announceLayout bytes
  | shmPoolAnnounce => ∀ allocates, (decodeShmPoolAnnounce allocates bytes).Ensures fun _ => Whole poolsLayout bytes
  | dataSourceMeta =>
      ∀ callback, (decodeDataSourceMeta callback bytes).Ensures fun _ => Whole (metaLayout callback) bytes
  | controlResponse => (decodeControlResponse bytes).Ensures fun _ => Whole responseLayout bytes
  | metaBlobAnnounce =>
      (decodeMetaBlobAnnounce bytes).Ensures fun _ => Whole { codec := MetaBlob.announceCodec } bytes
  | metaBlobChunk => (decodeMetaBlobChunk bytes).Ensures fun _ => Whole chunkLayout bytes
  | metaBlobComplete =>
      (decodeMetaBlobComplete bytes).Ensures fun _ => Whole { codec := MetaBlob.completeCodec } bytes
  | attachResponse correlationId =>
      ∀ allocates info, (decodeAttachResponse allocates correlationId info bytes).Ensures (AttachReported bytes)
  | detachResponse => ∀ info, (decodeDetachResponse info bytes).Ensures fun _ => Whole detachLayout bytes
  | leaseRevoked => (decodeLeaseRevoked bytes).Ensures fun _ => Whole revokedLayout bytes
  | shutdown => (decodeShutdown bytes).Ensures fun _ => Whole shutdownLayout bytes
  | frameDescriptor => (decodeFrameDescriptor bytes).Ensures fun _ => Whole { codec := FrameDescriptor.codec } bytes
  | frameProgress => (decodeFrameProgress bytes).Ensures fun _ => Whole { codec := FrameProgress.codec } bytes

def codec : Decoder → Codec
  | consumerHello => ConsumerHello.codec
  | consumerConfig => ConsumerConfig.codec
  | dataSourceAnnounce => DataSourceAnnounce.codec
  | shmPoolAnnounce => ShmPoolAnnounce.codec
  | dataSourceMeta => DataSourceMeta.codec
  | controlResponse => ControlResponse.codec
  | metaBlobAnnounce => MetaBlob.announceCodec
  | metaBlobChunk => MetaBlob.chunkCodec
  | metaBlobComplete => MetaBlob.completeCodec
  | attachResponse _ => attachCodec
  | detachResponse => detachCodec
  | leaseRevoked => LeaseRevoked.codec
  | shutdown => Shutdown.codec
  | frameDescriptor => FrameDescriptor.codec
  | frameProgress => FrameProgress.codec

/--
What a fragment with the header of the message has to hold for the decoder. A decoder that checks the version and the
block length reads only what passes them, and one that does not has to be stopped by its data fields, if it has any.
-/
def Held (bytes : List UInt8) (decoder : Decoder) : Prop :=
  match decoder with
  | consumerHello =>
      Current decoder.codec bytes → BlockHeld bytes (47 ≤ bytes.length) [(16, bools), (17, bools), (18, modes)]
  | consumerConfig => Current decoder.codec bytes → BlockHeld bytes (26 ≤ bytes.length) [(16, bools), (17, modes)]
  | dataSourceAnnounce => 28 ≤ bytes.length ∧ (¬ Current decoder.codec bytes → Passed 2 bytes False)
  | shmPoolAnnounce => Current decoder.codec bytes →
      43 ≤ bytes.length ∧ (uint8.decode (bytes.drop 32) ∈ clockDomains → 47 ≤ bytes.length →
        PoolsHeld (uint16.decode (bytes.drop 43)).toNat (uint16.decode (bytes.drop 45)).toNat (bytes.drop 47))
  | dataSourceMeta => Current decoder.codec bytes → 24 ≤ bytes.length
  | controlResponse => 20 ≤ bytes.length ∧
      (int32.decode (bytes.drop 16) ∈ responseCodes → ¬ Current decoder.codec bytes → Passed 1 bytes False)
  | metaBlobAnnounce => Current decoder.codec bytes ∧ 36 ≤ bytes.length
  | metaBlobChunk => Current decoder.codec bytes → 24 ≤ bytes.length
  | metaBlobComplete => Current decoder.codec bytes ∧ 24 ≤ bytes.length
  | attachResponse correlationId => Current decoder.codec bytes → AttachHeld correlationId bytes
  | detachResponse => Current decoder.codec bytes →
      20 ≤ bytes.length ∧ (int32.decode (bytes.drop 16) ∈ knownCodes → (detachLayout.behind bytes).isSome)
  | leaseRevoked => Current decoder.codec bytes →
      BlockHeld bytes (revokedLayout.behind bytes).isSome [(32, roles), (33, leaseRevokeReasons)]
  | shutdown => Current decoder.codec bytes →
      BlockHeld bytes (shutdownLayout.behind bytes).isSome [(16, shutdownReasons)]
  | frameDescriptor => Current decoder.codec bytes ∧ 48 ≤ bytes.length
  | frameProgress => Current decoder.codec bytes ∧ 37 ≤ bytes.length

end Decoder

/-- A decoder stays inside of a fragment if and only if the fragment is not its own or holds what it reads. -/
theorem decoder_inside_iff (decoder : Decoder) (bytes : List UInt8) :
    decoder.Inside bytes ↔ (Addressed decoder.codec bytes → decoder.Held bytes) := by
  cases decoder with
  | consumerHello => exact hello_inside
  | consumerConfig => exact config_inside
  | dataSourceAnnounce => exact dataSourceAnnounce_inside
  | shmPoolAnnounce => exact shmPoolAnnounce_inside
  | dataSourceMeta => exact dataSourceMeta_inside
  | controlResponse => exact controlResponse_inside
  | metaBlobAnnounce => exact metaBlobAnnounce_inside
  | metaBlobChunk => exact chunk_inside
  | metaBlobComplete => exact metaBlobComplete_inside
  | attachResponse correlationId => exact attachResponse_inside correlationId
  | detachResponse => exact detachResponse_inside
  | leaseRevoked => exact leaseRevoked_inside
  | shutdown => exact shutdown_inside
  | frameDescriptor => exact frameDescriptor_inside
  | frameProgress => exact frameProgress_inside

/-- This frame descriptor has a version that the codec does not know. -/
def newerFrame : List UInt8 :=
  messageHeader.encode { FrameDescriptor.codec.header with version := 2 } ++ List.replicate 40 0

/-- A fragment that ends behind its header is read past its end, and a frame of a newer version is taken. -/
theorem truncated_reads_outside :
    ¬ Decoder.detachResponse.Inside (messageHeader.encode detachCodec.header) ∧
      ¬ Decoder.frameDescriptor.Inside newerFrame := by
  constructor
  · intro inside
    have faults : decodeDetachResponse {} (messageHeader.encode detachCodec.header) = fault := by decide +kernel
    have ensured := inside {}
    rw [faults] at ensured
    exact ensured
  · intro inside
    have taken : decodeFrameDescriptor newerFrame = value ⟨0, 0, 0, 0, 0, 0⟩ := by decide +kernel
    rw [Decoder.Inside, taken] at inside
    have known := inside.current.version
    exact absurd known (by decide +kernel)

end TensorPool.Wire
