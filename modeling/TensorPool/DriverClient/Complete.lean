/-
This file shows when a granted response is decoded as a whole.
-/

import TensorPool.DriverClient.Decode

namespace TensorPool.DriverClient

open Scan Flyweight FixedField
open Discovery (Refusal Text copyAscii copyInto fill padded)

/-- A text stands behind its length. -/
structure TextAt (rest : List UInt8) (text : Text) (behind : List UInt8) : Prop where
  whole : 4 ≤ rest.length
  length : (uint32.decode rest).toNat = text.length
  bytes : rest.drop 4 = text ++ behind

/-- The pool whose block stands in front of the bytes. -/
def poolAt (rest : List UInt8) (uri : Text) : PoolInfo where
  poolId := (poolBlock.decode rest).1
  nslots := (poolBlock.decode rest).2.1
  strideBytes := (poolBlock.decode rest).2.2
  regionUri := uri

/-- The entries of the pool group stand one behind the other. -/
inductive Entries (blockLength : Nat) : List UInt8 → List PoolInfo → List UInt8 → Prop
  | nil (rest : List UInt8) : Entries blockLength rest [] rest
  | cons {rest behind tail : List UInt8} {uri : Text} {pools : List PoolInfo} (block : blockLength ≤ rest.length)
      (fields : poolBlock.width ≤ rest.length) (text : TextAt (rest.drop blockLength) uri behind)
      (others : Entries blockLength behind pools tail) : Entries blockLength rest (poolAt rest uri :: pools) tail

def entryLengthAt (bytes : List UInt8) : Nat := (uint16.decode (bytes.drop 62)).toNat

def countAt (bytes : List UInt8) : Nat := (uint16.decode (bytes.drop 64)).toNat

def poolsAt (bytes : List UInt8) : List UInt8 := bytes.drop 66

/-- A string ends before its first null byte. -/
def PoolInfo.read (pool : PoolInfo) : PoolInfo := { pool with regionUri := chars pool.regionUri }

/-- The information is that of the whole message. -/
structure Complete (bytes : List UInt8) (info : AttachInfo) : Prop where
  block : info.toLeaseBlock = leaseBlock.decode (bytes.drop 20)
  required : info.toLeaseBlock.missing = false
  slotBytes : info.headerSlotBytes = headerSlotBytes
  pools : ∃ listed tail behind, Entries (entryLengthAt bytes) (poolsAt bytes) listed tail ∧ listed ≠ [] ∧
    listed.length = countAt bytes ∧ info.poolCount = listed.length ∧
    info.pools.map (List.map PoolInfo.read) = some listed ∧
    (∀ pool ∈ listed, pool.nslots = info.headerNslots ∧ pool.strideBytes ≠ nullU32 ∧ pool.regionUri ≠ []) ∧
    TextAt tail (chars info.headerRegionUri) behind ∧ chars info.headerRegionUri ≠ []

/-- The message grants the request, as far as its root fields tell. -/
structure Grants (correlationId : Int64) (bytes : List UInt8) : Prop where
  whole : 66 ≤ bytes.length
  schema : (messageHeader.decode bytes).schemaId = schemaId
  template : (messageHeader.decode bytes).templateId = AttachResponse.templateId
  version : (messageHeader.decode bytes).version ≤ schemaVersion
  blockLength : (messageHeader.decode bytes).blockLength = AttachResponse.blockLength
  answered : int64.decode (bytes.drop 8) = correlationId
  code : int32.decode (bytes.drop 16) = codeOk
  required : (leaseBlock.decode (bytes.drop 20)).missing = false
  slotBytes : (leaseBlock.decode (bytes.drop 20)).headerSlotBytes = headerSlotBytes
  headerNslots : (leaseBlock.decode (bytes.drop 20)).headerNslots ≠ 0
  count : countAt bytes ≠ 0

/-- The number of slots of a pool is that of the header, and its URI does not start with a null byte. -/
structure Usable (headerNslots : UInt32) (pool : PoolInfo) : Prop where
  nslots : pool.nslots = headerNslots
  present : pool.nslots ≠ nullU32
  strideBytes : pool.strideBytes ≠ nullU32
  regionUri : chars pool.regionUri ≠ []

/-- The pools up to the end of the group, or up to the end of the message, and the URI behind them. -/
structure Listed (bytes : List UInt8) (listed : List PoolInfo) (uri : Text) : Prop where
  entries : ∃ tail behind, Entries (entryLengthAt bytes) (poolsAt bytes) listed tail ∧
    (listed.length = countAt bytes ∨ listed.length < countAt bytes ∧ tail.length < entryLengthAt bytes) ∧
    TextAt tail uri behind
  usable : ∀ pool ∈ listed, Usable (leaseBlock.decode (bytes.drop 20)).headerNslots pool
  header : chars uri ≠ []

/-- A string has room in its array, and no null byte. -/
def Plain (text : Text) : Prop := text.length < uriLength ∧ 0 ∉ text

/-- No entry lies behind the end of the message, and each URI has room. -/
def Whole (correlationId : Int64) (bytes : List UInt8) : Prop :=
  Grants correlationId bytes → ∀ listed uri, Listed bytes listed uri →
    listed.length = countAt bytes ∧ (∀ pool ∈ listed, Plain pool.regionUri) ∧ Plain uri

/-- The pool as the client copies it. -/
def PoolInfo.copied (pool : PoolInfo) : PoolInfo :=
  { pool with regionUri := copyAscii uriLength (some pool.regionUri) }

variable {ε : Type} {headerNslots : UInt32} {blockLength : Nat} {rest tail : List UInt8}

/-- One text stands at a place. -/
theorem TextAt.unique {text other : Text} {left right : List UInt8} (one : TextAt rest text left)
    (two : TextAt rest other right) : text = other ∧ left = right :=
  List.append_inj (one.bytes.symm.trans two.bytes) (one.length.symm.trans two.length)

theorem data_text {length : Nat} {text : Text} {behind : List UInt8} :
    (data rest : Scan ε _) = value (length, some text, behind) ↔ TextAt rest text behind ∧ length = text.length := by
  rw [data, bind_eq_value]
  simp only [read_eq_value, List.drop_zero, width_uint32, Nat.zero_add]
  constructor
  · intro found
    obtain ⟨size, ⟨whole, same⟩, shown⟩ := found
    subst same
    split at shown
    next fits =>
      simp only [Scan.value.injEq, Prod.mk.injEq, Option.some.injEq] at shown
      obtain ⟨rfl, rfl, rfl⟩ := shown
      have long : ((rest.drop 4).take (uint32.decode rest).toNat).length = (uint32.decode rest).toNat := by
        rw [List.length_take, List.length_drop]
        omega
      refine ⟨⟨whole, long.symm, ?_⟩, long.symm⟩
      rw [← List.drop_drop, List.take_append_drop]
    next => simp at shown
  · intro found
    obtain ⟨⟨whole, size, shape⟩, rfl⟩ := found
    refine ⟨_, ⟨whole, rfl⟩, ?_⟩
    have total := congrArg List.length shape
    rw [List.length_drop, List.length_append] at total
    rw [if_pos (by omega), ← List.drop_drop, shape, size, List.take_left' rfl, List.drop_left' rfl]

theorem decodePool_none : decodePool headerNslots blockLength rest = value none ↔ rest.length < blockLength := by
  unfold decodePool nextEntry
  split
  next none =>
    split at none
    · cases none
    · simp
      omega
  next behind some =>
    split at some
    next inside =>
      simp only [bind_eq_value, stopIf_eq_value]
      constructor
      · simp
      · omega
    · cases some

/-- The first byte of a text tells whether its string is empty. -/
theorem chars_copied (uri : Text) : chars (copyAscii uriLength (some uri)) = [] ↔ chars uri = [] := by
  cases uri with
  | nil => exact Iff.rfl
  | cons byte uri =>
      change (byte :: uri.take 4094).takeWhile _ = [] ↔ (byte :: uri).takeWhile _ = []
      rw [List.takeWhile_cons, List.takeWhile_cons]
      split <;> simp

/-- A text is copied as a whole when it is plain. -/
theorem chars_copied_self {uri : Text} : chars (copyAscii uriLength (some uri)) = uri ↔ Plain uri := by
  constructor
  · intro same
    have short : uri.length ≤ uriLength - 1 := by
      calc uri.length = (chars (copyAscii uriLength (some uri))).length := by rw [same]
        _ ≤ (copyAscii uriLength (some uri)).length := length_chars_le _
        _ ≤ uriLength - 1 := List.length_take_le ..
    refine ⟨Nat.lt_of_le_of_lt short (by decide), fun null => ?_⟩
    rw [← same] at null
    have other := List.mem_takeWhile_imp null
    simp at other
  · intro plain
    have room : uri.length ≤ uriLength - 1 := Nat.le_sub_one_of_lt plain.1
    rw [copyAscii, Option.getD_some, copyInto, List.take_of_length_le room, chars, List.takeWhile_eq_self_iff]
    intro byte member
    rw [bne_iff_ne]
    intro null
    exact plain.2 (null ▸ member)

/-- A pool that the loop takes is usable, and it is the one of the message. -/
theorem decodePool_some {pool : PoolInfo} : decodePool headerNslots blockLength rest = value (some (pool, tail)) ↔
    ∃ uri, blockLength ≤ rest.length ∧ poolBlock.width ≤ rest.length ∧ TextAt (rest.drop blockLength) uri tail ∧
      Usable headerNslots (poolAt rest uri) ∧ pool = (poolAt rest uri).copied := by
  unfold decodePool nextEntry
  by_cases block : blockLength ≤ rest.length
  · rw [if_pos block]
    simp only [bind_eq_value, stopIf_eq_value, read_eq_value, Nat.zero_add, List.drop_zero]
    constructor
    · intro taken
      obtain ⟨fields, ⟨inside, rfl⟩, _, present, _, same, ⟨_, text, behind⟩, found, _, some, _, named, shown⟩ := taken
      obtain ⟨uri, rfl⟩ := Option.ne_none_iff_exists'.mp some
      have here := (data_text.mp found).1
      simp only [Scan.value.injEq, Option.some.injEq, Prod.mk.injEq] at shown
      obtain ⟨rfl, rfl⟩ := shown
      rw [not_or] at present
      exact ⟨uri, block, inside, here, ⟨not_not.mp same, present.1, present.2, mt (chars_copied uri).mpr named⟩, rfl⟩
    · intro found
      obtain ⟨uri, -, inside, here, usable, rfl⟩ := found
      exact ⟨_, ⟨inside, rfl⟩, (), not_or.mpr ⟨usable.present, usable.strideBytes⟩, (), not_not.mpr usable.nslots, _,
        data_text.mpr ⟨here, rfl⟩, (), Option.some_ne_none uri, (), mt (chars_copied uri).mp usable.regionUri, rfl⟩
  · rw [if_neg block]
    constructor
    · intro taken
      cases taken
    · intro found
      obtain ⟨uri, inside, -⟩ := found
      exact absurd inside block

/-- The loop takes the usable pools up to the count, or up to the end of the message. -/
theorem fill_pools {count : Nat} {pools : List PoolInfo} :
    fill (decodePool headerNslots blockLength) count rest = value (pools, tail) ↔
      ∃ listed, Entries blockLength rest listed tail ∧ (∀ pool ∈ listed, Usable headerNslots pool) ∧
        pools = listed.map PoolInfo.copied ∧
        (listed.length = count ∨ listed.length < count ∧ tail.length < blockLength) := by
  induction count generalizing rest pools with
  | zero =>
      rw [fill]
      constructor
      · intro ended
        cases ended
        exact ⟨[], .nil _, by simp, rfl, .inl rfl⟩
      · intro found
        obtain ⟨listed, entries, -, rfl, same | ⟨fewer, -⟩⟩ := found
        · obtain rfl := List.eq_nil_of_length_eq_zero same
          cases entries
          rfl
        · exact absurd fewer (Nat.not_lt_zero _)
  | succ count hypothesis =>
      rw [fill]
      constructor
      · intro filled
        split at filled
        · cases filled
        · cases filled
        next none =>
          cases filled
          exact ⟨[], .nil _, by simp, rfl, .inr ⟨Nat.succ_pos _, decodePool_none.mp none⟩⟩
        next pool behind taken =>
          obtain ⟨uri, block, fields, text, usable, rfl⟩ := decodePool_some.mp taken
          split at filled
          · cases filled
          · cases filled
          next others left later =>
            cases filled
            obtain ⟨listed, entries, each, rfl, ending⟩ := hypothesis.mp later
            refine ⟨_, .cons block fields text entries, List.forall_mem_cons.mpr ⟨usable, each⟩, rfl, ?_⟩
            rw [List.length_cons]
            omega
      · intro found
        obtain ⟨listed, entries, each, rfl, ending⟩ := found
        cases entries with
        | nil =>
            obtain same | ⟨-, short⟩ := ending
            · cases same
            · rw [decodePool_none.mpr short]
              rfl
        | cons block fields text others =>
            obtain ⟨usable, each⟩ := List.forall_mem_cons.mp each
            rw [decodePool_some.mpr ⟨_, block, fields, text, usable, rfl⟩]
            dsimp only
            rw [hypothesis.mpr ⟨_, others, each, rfl, by rw [List.length_cons] at ending; omega⟩]
            rfl

/-- One list of entries goes on with the other one. -/
theorem Entries.agree {listed others : List PoolInfo} {left right : List UInt8}
    (entries : Entries blockLength rest listed left) (more : Entries blockLength rest others right)
    (fewer : listed.length ≤ others.length) :
    listed = others ∧ left = right ∨ listed.length < others.length ∧ blockLength ≤ left.length := by
  induction entries generalizing others with
  | nil rest =>
      cases more with
      | nil => exact .inl ⟨rfl, rfl⟩
      | cons block => exact .inr ⟨Nat.succ_pos _, block⟩
  | cons block fields text entries hypothesis =>
      cases more with
      | nil => exact absurd fewer (Nat.not_succ_le_zero _)
      | cons block' fields' text' more =>
          obtain ⟨rfl, rfl⟩ := text.unique text'
          obtain ⟨rfl, rfl⟩ | ⟨shorter, left⟩ := hypothesis more (Nat.le_of_succ_le_succ fewer)
          · exact .inl ⟨rfl, rfl⟩
          · exact .inr ⟨Nat.succ_lt_succ shorter, left⟩

variable {correlationId : Int64} {allocates : Bool} {start info given : AttachInfo} {bytes : List UInt8}

/-- The header URI is taken as it stands behind the pools. -/
theorem decodeHeaderUri_ok : decodeHeaderUri given rest = value info ∧ info.code = codeOk ↔
    given.code = codeOk ∧ ∃ uri behind, TextAt rest uri behind ∧ chars uri ≠ [] ∧
      info = { given with headerRegionUri := copyAscii uriLength (some uri) } := by
  unfold decodeHeaderUri
  simp only [bind_eq_value]
  constructor
  · intro decoded
    obtain ⟨⟨⟨length, text, behind⟩, found, shown⟩, ok⟩ := decoded
    cases text with
    | none =>
        cases shown
        exact absurd ok (show codeInvalidParams ≠ codeOk by decide)
    | some uri =>
        dsimp only at shown
        rw [if_neg (Option.some_ne_none uri)] at shown
        split at shown
        · cases shown
          exact absurd ok (show codeInvalidParams ≠ codeOk by decide)
        next named =>
          cases shown
          exact ⟨ok, uri, behind, (data_text.mp found).1, mt (chars_copied uri).mpr named, rfl⟩
  · intro found
    obtain ⟨ok, uri, behind, text, named, rfl⟩ := found
    refine ⟨⟨_, data_text.mpr ⟨text, rfl⟩, ?_⟩, ok⟩
    dsimp only
    rw [if_neg (Option.some_ne_none uri), if_neg (mt (chars_copied uri).mp named)]

/-- The information of the pools and of the URI that the loop met. -/
def assembled (given : AttachInfo) (bytes : List UInt8) (listed : List PoolInfo) (uri : Text) : AttachInfo :=
  { given with
    pools := some (padded (countAt bytes) {} (listed.map PoolInfo.copied))
    poolCount := countAt bytes
    headerRegionUri := copyAscii uriLength (some uri) }

/-- The pools of a granted response are taken up to the end of the group, or of the message. -/
theorem decodePools_ok (nslots : given.headerNslots = (leaseBlock.decode (bytes.drop 20)).headerNslots) :
    decodePools allocates given (bytes.drop 62) = value info ∧ info.code = codeOk ↔
      given.code = codeOk ∧ 66 ≤ bytes.length ∧ countAt bytes ≠ 0 ∧ allocates = true ∧
        ∃ listed uri, Listed bytes listed uri ∧ info = assembled given bytes listed uri := by
  unfold decodePools
  rw [bind_eq_value]
  have length := List.length_drop (i := 62) (l := bytes)
  constructor
  · intro decoded
    obtain ⟨⟨⟨blockLength, count, rest⟩, dimensions, shown⟩, ok⟩ := decoded
    obtain ⟨inside, rfl, rfl, rfl⟩ := group_eq_value.mp dimensions
    rw [List.drop_drop, List.drop_drop] at shown
    dsimp only at shown
    split at shown
    · cases shown
      exact absurd ok (show codeInvalidParams ≠ codeOk by decide)
    next some =>
      split at shown
      · cases shown
        exact absurd ok (show codeInternalError ≠ codeOk by decide)
      next allocated =>
        split at shown
        · cases shown
        · cases shown
          exact absurd ok (show codeInvalidParams ≠ codeOk by decide)
        next pools rest filled =>
          obtain ⟨good, uri, behind, text, named, rfl⟩ := decodeHeaderUri_ok.mp ⟨shown, ok⟩
          obtain ⟨listed, entries, usable, rfl, ending⟩ := fill_pools.mp filled
          rw [nslots] at usable
          exact ⟨good, by omega, some, (Bool.not_eq_false _).mp allocated, listed, uri,
            ⟨⟨rest, behind, entries, ending, text⟩, usable, named⟩, rfl⟩
  · intro found
    obtain ⟨good, whole, some, rfl, listed, uri, ⟨⟨tail, behind, entries, ending, text⟩, usable, named⟩, rfl⟩ := found
    rw [← nslots] at usable
    have filled : fill (decodePool given.headerNslots (entryLengthAt bytes)) (countAt bytes) (poolsAt bytes) =
        value (listed.map PoolInfo.copied, tail) := fill_pools.mpr ⟨listed, entries, usable, rfl, ending⟩
    refine ⟨⟨(entryLengthAt bytes, countAt bytes, poolsAt bytes), group_eq_value.mpr ⟨by omega, rfl, ?_, ?_⟩,
      ?_⟩, good⟩
    · rw [List.drop_drop]
      rfl
    · rw [List.drop_drop]
      rfl
    · dsimp only
      rw [if_neg some, if_neg (by decide), filled]
      change decodeHeaderUri { given with
        pools := Option.some (padded (countAt bytes) {} (listed.map PoolInfo.copied)),
          poolCount := countAt bytes } tail = _
      apply And.left
      rw [decodeHeaderUri_ok]
      exact ⟨good, uri, behind, text, named, rfl⟩

theorem decodeGranted_ok : decodeGranted allocates given bytes = value info ∧ info.code = codeOk ↔
    given.code = codeOk ∧ 66 ≤ bytes.length ∧ (leaseBlock.decode (bytes.drop 20)).missing = false ∧
      (leaseBlock.decode (bytes.drop 20)).headerSlotBytes = headerSlotBytes ∧
      (leaseBlock.decode (bytes.drop 20)).headerNslots ≠ 0 ∧ countAt bytes ≠ 0 ∧ allocates = true ∧
      ∃ listed uri, Listed bytes listed uri ∧
        info = assembled { given with toLeaseBlock := leaseBlock.decode (bytes.drop 20) } bytes listed uri := by
  have pools := @decodePools_ok allocates info
    { given with toLeaseBlock := leaseBlock.decode (bytes.drop 20) } bytes rfl
  unfold decodeGranted
  simp only [bind_eq_value, read_eq_value]
  constructor
  · intro decoded
    obtain ⟨⟨_, ⟨-, rfl⟩, shown⟩, ok⟩ := decoded
    split at shown
    · cases shown
      exact absurd ok (show codeInternalError ≠ codeOk by decide)
    next required =>
      split at shown
      · cases shown
        exact absurd ok (show codeInvalidParams ≠ codeOk by decide)
      next slotBytes =>
        split at shown
        · cases shown
          exact absurd ok (show codeInvalidParams ≠ codeOk by decide)
        next headerNslots =>
          obtain ⟨good, whole, rest⟩ := pools.mp ⟨shown, ok⟩
          exact ⟨good, whole, (Bool.not_eq_true _).mp required, not_not.mp slotBytes, headerNslots, rest⟩
  · intro found
    obtain ⟨good, whole, required, slotBytes, headerNslots, rest⟩ := found
    obtain ⟨shown, ok⟩ := pools.mpr ⟨good, whole, rest⟩
    refine ⟨⟨_, ⟨?_, rfl⟩, ?_⟩, ok⟩
    · change 20 + 42 ≤ _
      omega
    · rw [if_neg ((Bool.not_eq_true _).mpr required), if_neg (not_not.mpr slotBytes), if_neg headerNslots]
      exact shown

theorem decodeRefused_code (refused : decodeRefused given bytes = value info) : info.code = given.code := by
  unfold decodeRefused at refused
  simp only [bind_eq_value] at refused
  obtain ⟨_, -, _, -, _, -, shown⟩ := refused
  cases shown
  rfl

/-- A response is decoded as granted when it grants the request and lists usable pools. -/
theorem decodeAttachResponse_ok : decodeAttachResponse allocates correlationId start bytes = value info ∧
      info.code = codeOk ↔
    Grants correlationId bytes ∧ allocates = true ∧ ∃ listed uri, Listed bytes listed uri ∧
      info =
        assembled { start with toLeaseBlock := leaseBlock.decode (bytes.drop 20), code := codeOk } bytes listed uri := by
  unfold decodeAttachResponse
  simp only [bind_eq_value, stopIf_eq_value, read_eq_value, Nat.zero_add, List.drop_zero]
  constructor
  · intro decoded
    obtain ⟨⟨_, -, header, ⟨-, rfl⟩, _, named, _, version, _, block, _, ⟨-, rfl⟩, _, answered, code, ⟨-, rfl⟩,
      _, known, shown⟩, ok⟩ := decoded
    rw [not_or] at named
    split at shown
    next granted =>
      obtain ⟨-, whole, required, slotBytes, headerNslots, count, allocated, listed, uri, usable, rfl⟩ :=
        decodeGranted_ok.mp ⟨shown, ok⟩
      refine ⟨⟨whole, not_not.mp named.1, not_not.mp named.2, UInt16.not_lt.mp version, not_not.mp block,
        not_not.mp answered, granted, required, slotBytes, headerNslots, count⟩, allocated, listed, uri, usable, ?_⟩
      rw [← granted]
    next refused => exact absurd ((decodeRefused_code shown).symm.trans ok) refused
  · intro found
    obtain ⟨grants, allocated, listed, uri, usable, rfl⟩ := found
    obtain ⟨shown, ok⟩ := (@decodeGranted_ok allocates _ { start with code := codeOk } bytes).mpr
      ⟨rfl, grants.whole, grants.required, grants.slotBytes, grants.headerNslots, grants.count, allocated,
        listed, uri, usable, rfl⟩
    have whole := grants.whole
    refine ⟨⟨(), ?_, _, ⟨?_, rfl⟩, (), ?_, (), UInt16.not_lt.mpr grants.version, (),
      not_not.mpr grants.blockLength, _, ⟨?_, rfl⟩, (), not_not.mpr grants.answered, _, ⟨?_, rfl⟩, (), ?_, ?_⟩, ok⟩
    · rw [width_messageHeader]
      omega
    · rw [width_messageHeader]
      omega
    · rw [not_or]
      exact ⟨not_not.mpr grants.schema, not_not.mpr grants.template⟩
    · change 8 + 8 ≤ _
      omega
    · change 16 + 4 ≤ _
      omega
    · rw [grants.code]
      decide
    · rw [grants.code, if_pos rfl]
      exact shown

/-- When as many pools are listed as announced, the array has no cleared element. -/
theorem padded_listed {listed : List PoolInfo} (all : listed.length = countAt bytes) :
    padded (countAt bytes) {} (listed.map PoolInfo.copied) = listed.map PoolInfo.copied := by
  rw [padded, List.length_map, all, Nat.sub_self, List.replicate_zero, List.append_nil]

theorem PoolInfo.read_copied {pool : PoolInfo} : pool.copied.read = pool ↔ Plain pool.regionUri := by
  obtain ⟨poolId, nslots, strideBytes, uri⟩ := pool
  rw [← chars_copied_self, PoolInfo.copied, PoolInfo.read]
  simp

/-- A granted response is decoded as the whole message if and only if the message is whole. -/
theorem complete_iff (correlationId : Int64) (bytes : List UInt8) :
    (∀ allocates start info, decodeAttachResponse allocates correlationId start bytes = value info →
      info.code = codeOk → Complete bytes info) ↔ Whole correlationId bytes := by
  constructor
  · intro complete grants listed uri shown
    obtain ⟨decoded, ok⟩ := (@decodeAttachResponse_ok correlationId true {} _ bytes).mpr
      ⟨grants, rfl, listed, uri, shown, rfl⟩
    obtain ⟨announced, tail, behind, entries, -, all, -, same, -, text, -⟩ := (complete _ _ _ decoded ok).pools
    obtain ⟨left, after, listing, ending, here⟩ := shown.entries
    have fewer : listed.length ≤ announced.length := by omega
    obtain ⟨rfl, rfl⟩ | ⟨shorter, longer⟩ := listing.agree entries fewer
    · rw [assembled, padded_listed all, Option.map_some, List.map_map] at same
      have each := List.map_inj_left.mp ((Option.some.inj same).trans (List.map_id listed).symm)
      have alike := List.append_inj (text.bytes.symm.trans here.bytes) (text.length.symm.trans here.length)
      exact ⟨all, fun pool member => PoolInfo.read_copied.mp (each pool member), chars_copied_self.mp alike.1⟩
    · omega
  · intro whole allocates start info decoded ok
    obtain ⟨grants, -, listed, uri, shown, rfl⟩ := decodeAttachResponse_ok.mp ⟨decoded, ok⟩
    obtain ⟨all, plain, header⟩ := whole grants listed uri shown
    obtain ⟨tail, behind, entries, -, text⟩ := shown.entries
    have uri' := chars_copied_self.mpr header
    refine ⟨rfl, grants.required, grants.slotBytes, listed, tail, behind, entries, ?_, all, all.symm, ?_, ?_, ?_, ?_⟩
    · intro none
      rw [none] at all
      exact grants.count all.symm
    · rw [assembled, padded_listed all, Option.map_some, List.map_map]
      congr 1
      conv_rhs => rw [← List.map_id listed]
      apply List.map_congr_left
      intro pool member
      exact PoolInfo.read_copied.mpr (plain pool member)
    · intro pool member
      have usable := shown.usable pool member
      exact ⟨usable.nslots, usable.strideBytes, fun none => usable.regionUri (by rw [none]; rfl)⟩
    · change TextAt tail (chars (copyAscii uriLength (some uri))) behind
      rwa [uri']
    · change chars (copyAscii uriLength (some uri)) ≠ []
      exact mt (chars_copied uri).mp shown.header

/-- A response announces one pool, and the message ends behind the URI of the header. -/
def shortEntry : List UInt8 :=
  messageHeader.encode ⟨AttachResponse.blockLength, AttachResponse.templateId, schemaId, schemaVersion⟩ ++
    (int64.encode 7 ++ (int32.encode codeOk ++ (leaseBlock.encode ⟨1, nullU64, 3, 1, 1, 64, headerSlotBytes,
      nullU32⟩ ++ (groupBytes 10 1 ++ dataBytes [97]))))

/-- The client takes the response with a cleared pool. -/
def shortEntryInfo : AttachInfo where
  toLeaseBlock := ⟨1, nullU64, 3, 1, 1, 64, headerSlotBytes, nullU32⟩
  code := codeOk
  headerRegionUri := [97]
  pools := some [{}]
  poolCount := 1

theorem shortEntry_accepted : decodeAttachResponse true 7 {} shortEntry = value shortEntryInfo ∧
    shortEntryInfo.code = codeOk ∧ ¬ Complete shortEntry shortEntryInfo := by
  refine ⟨by decide +kernel, rfl, fun complete => ?_⟩
  obtain ⟨listed, -, -, -, -, -, -, same, each, -⟩ := complete.pools
  obtain rfl : [({} : PoolInfo)] = listed := Option.some.inj same
  exact (each {} (List.mem_singleton_self _)).2.2 rfl

end TensorPool.DriverClient
