/-
This file gives the handlers of the discovery service for announces and compares what they pass on with what was sent.
The handlers pass pointers into the fragment, whose strings end at the next null byte.
-/

import Mathlib.Data.List.Infix
import TensorPool.Library.Utf8
import TensorPool.Driver.Honour
import TensorPool.Discovery.Response
import TensorPool.Wire.RoundTrip

namespace TensorPool.Discovery

open Scan Flyweight FixedField

/-- A pointer into a fragment shows the bytes from its place to the end of the fragment. -/
abbrev Pointer := List UInt8

/-- The accessor of a data field gives the place behind its length, and a null pointer when the data does not fit. -/
def dataPointer (rest : List UInt8) : Scan Unit (Option Pointer × List UInt8) := do
  let (_, text, behind) ← data rest
  value (text.map fun _ => rest.drop 4, behind)

/-- The header checks of the handlers stop without a word. -/
def openFragment (codec : Wire.Codec) (bytes : List UInt8) : Scan Unit (List UInt8) := do
  stopIf (bytes.length < messageHeader.width) ()
  let header ← read messageHeader 0 bytes
  stopIf (header.schemaId ≠ codec.schemaId ∨ header.templateId ≠ codec.templateId) ()
  stopIf (codec.version < header.version ∨ header.blockLength ≠ codec.blockLength) ()
  Wire.behindBlock header bytes

/-- This is `tp_shm_pool_announce_pool_t` as the handler fills it in. -/
structure PassedPool where
  poolId : UInt16
  poolNslots : UInt32
  strideBytes : UInt32
  regionUri : Option Pointer
  deriving DecidableEq, Repr

def PassedPool.cleared : PassedPool := ⟨0, 0, 0, none⟩

/-- The loop stops at an entry that is missing, and the rest of the array stays cleared. -/
def passPools (blockLength : Nat) : Nat → List UInt8 → Scan Unit (List PassedPool)
  | 0, _ => value []
  | count + 1, rest =>
      match nextEntry blockLength rest with
      | none => value (List.replicate (count + 1) PassedPool.cleared)
      | some behind => do
          let poolId ← read uint16 0 rest
          let poolNslots ← read uint32 2 rest
          let strideBytes ← read uint32 6 rest
          let (regionUri, behind) ← dataPointer behind
          let pools ← passPools blockLength count behind
          value (⟨poolId, poolNslots, strideBytes, regionUri⟩ :: pools)

/-- This is `tp_shm_pool_announce_t` as the handler fills it in. -/
structure PassedAnnounce where
  streamId : UInt32
  producerId : UInt32
  epoch : UInt64
  announceTimestampNs : UInt64
  layoutVersion : UInt32
  headerNslots : UInt32
  headerSlotBytes : UInt16
  headerRegionUri : Option Pointer
  pools : List PassedPool
  deriving DecidableEq, Repr

/-- This is `tp_discovery_on_announce_fragment` up to its call; the header URI is read in front of the pools. -/
def passAnnounce (allocates : Bool) (bytes : List UInt8) : Scan Unit PassedAnnounce := do
  let rest ← openFragment Wire.ShmPoolAnnounce.codec bytes
  let streamId ← read uint32 8 bytes
  let producerId ← read uint32 12 bytes
  let epoch ← read uint64 16 bytes
  let announceTimestampNs ← read uint64 24 bytes
  let layoutVersion ← read uint32 33 bytes
  let headerNslots ← read uint32 37 bytes
  let headerSlotBytes ← read uint16 41 bytes
  let (headerRegionUri, rest) ← dataPointer rest
  let (blockLength, count, rest) ← group rest
  stopIf (0 < count ∧ allocates = false) ()
  let pools ← passPools blockLength count rest
  value { streamId, producerId, epoch, announceTimestampNs, layoutVersion, headerNslots, headerSlotBytes
          headerRegionUri, pools }

/-- This is `tp_data_source_announce_t` as the handler fills it in. -/
structure PassedDataSource where
  streamId : UInt32
  producerId : UInt32
  epoch : UInt64
  metaVersion : UInt32
  name : Option Pointer
  summary : Option Pointer
  deriving DecidableEq, Repr

/-- This is `tp_discovery_on_metadata_fragment` up to its call. -/
def passDataSource (bytes : List UInt8) : Scan Unit PassedDataSource := do
  let rest ← openFragment Wire.DataSourceAnnounce.codec bytes
  let streamId ← read uint32 8 bytes
  let producerId ← read uint32 12 bytes
  let epoch ← read uint64 16 bytes
  let metaVersion ← read uint32 24 bytes
  let (name, rest) ← dataPointer rest
  let (summary, _) ← dataPointer rest
  value { streamId, producerId, epoch, metaVersion, name, summary }

/-- The string at the pointer is the text when the text and a null byte stand there; a null pointer is the empty
one. -/
def PointsTo (text : Text) : Option Pointer → Prop
  | none => text = []
  | some pointer => 0 ∉ text ∧ text ++ [0] <+: pointer

/-- A passed pool has the fields and the string of the announced one. -/
structure PassedPool.Carries (passed : PassedPool) (pool : Wire.AnnouncePool) : Prop where
  poolId : passed.poolId = pool.poolId
  poolNslots : passed.poolNslots = pool.poolNslots
  strideBytes : passed.strideBytes = pool.strideBytes
  regionUri : PointsTo (Wire.string pool.regionUri) passed.regionUri

/-- A passed announce has the fields and the strings of the announced one. -/
structure PassedAnnounce.Carries (passed : PassedAnnounce) (announce : Wire.ShmPoolAnnounce) : Prop where
  streamId : passed.streamId = announce.streamId
  producerId : passed.producerId = announce.producerId
  epoch : passed.epoch = announce.epoch
  layoutVersion : passed.layoutVersion = announce.layoutVersion
  headerNslots : passed.headerNslots = announce.headerNslots
  pools : List.Forall₂ PassedPool.Carries passed.pools announce.pools
  headerRegionUri : PointsTo (Wire.string announce.headerRegionUri) passed.headerRegionUri

structure PassedDataSource.Carries (passed : PassedDataSource) (announce : Wire.DataSourceAnnounce) : Prop where
  streamId : passed.streamId = announce.streamId
  producerId : passed.producerId = announce.producerId
  epoch : passed.epoch = announce.epoch
  name : PointsTo (Wire.string announce.name) passed.name

section Pointers

theorem dataPointer_eq_value {rest behind : List UInt8} {pointer : Option Pointer}
    (parsed : dataPointer rest = value (pointer, behind)) :
    4 ≤ rest.length ∧ (pointer = none ∧ behind = rest ∨
      ∃ length, length = (uint32.decode rest).toNat ∧ 4 + length ≤ rest.length ∧ pointer = some (rest.drop 4) ∧
        behind = rest.drop (4 + length)) := by
  simp only [dataPointer, data, bind_eq_value, read_eq_value, List.drop_zero, width_uint32] at parsed
  obtain ⟨⟨length, text, after⟩, ⟨word, ⟨room, rfl⟩, found⟩, same⟩ := parsed
  cases same
  refine ⟨by omega, ?_⟩
  split at found
  next fits =>
    cases found
    exact Or.inr ⟨_, rfl, fits, rfl, rfl⟩
  · cases found
    exact Or.inl ⟨rfl, rfl⟩

/-- A string without a null byte ends in front of the next one. -/
theorem run_length {run front back : List UInt8} (here : run <+: front ++ 0 :: back) (full : 0 ∉ run) :
    run.length ≤ front.length := by
  by_contra longer
  have inside : front ++ [0] <+: run := by
    apply List.prefix_of_prefix_length_le _ here
    · rw [List.length_append, List.length_singleton]
      omega
    · exact ⟨back, by simp⟩
  exact full (inside.subset (List.mem_append_right front List.mem_cons_self))

/-- The length of data that fits a short fragment ends with a null byte. -/
theorem length_ends {rest : List UInt8} (four : 4 ≤ rest.length) (small : (uint32.decode rest).toNat < 2 ^ 24) :
    ∃ front back, front.length = 3 ∧ rest = front ++ 0 :: back := by
  rcases rest with _ | ⟨a, _ | ⟨b, _ | ⟨c, _ | ⟨top, back⟩⟩⟩⟩
  · simp at four
  · simp at four
  · simp at four
  · simp at four
  · refine ⟨[a, b, c], back, rfl, ?_⟩
    have word : (uint32.decode (a :: b :: c :: top :: back)).toNat =
        a.toNat + 256 * (b.toNat + 256 * (c.toNat + 256 * top.toNat)) := by
      have bounds := And.intro a.toNat_lt (And.intro b.toNat_lt (And.intro c.toNat_lt top.toNat_lt))
      change (UInt32.ofNat (a.toNat + 256 * (b.toNat + 256 * (c.toNat + 256 * (top.toNat + 256 * 0))))).toNat = _
      rw [UInt32.toNat_ofNat_of_lt' (by change _ < 4294967296; omega)]
      omega
    have zero : top = 0 := by
      rw [← UInt8.toNat_inj]
      change top.toNat = 0
      omega
    rw [zero]
    rfl

end Pointers

section Pools

/-- The lengths of the strings of the pools. -/
def uriLengths (pools : List Wire.AnnouncePool) : Nat :=
  (pools.map fun pool => (Wire.string pool.regionUri).length).sum

theorem uriLengths_cleared {count : Nat} {pools : List Wire.AnnouncePool}
    (carries : List.Forall₂ PassedPool.Carries (List.replicate count PassedPool.cleared) pools) :
    uriLengths pools = 0 := by
  induction count generalizing pools with
  | zero =>
      cases carries
      rfl
  | succ count hypothesis =>
      cases carries with
      | cons first others =>
          have empty : Wire.string _ = [] := first.regionUri
          rw [uriLengths, List.map_cons, List.sum_cons, empty, List.length_nil, Nat.zero_add]
          exact hypothesis others

/--
The strings of the pools stand one behind the other in the fragment, so they are not longer than it.
The length of each string ends with a null byte in a short fragment, so no string runs into the next one.
-/
theorem uriLengths_le {blockLength count : Nat} {rest run : List UInt8} {passed : List PassedPool}
    {pools : List Wire.AnnouncePool} (small : rest.length < 2 ^ 24)
    (parsed : passPools blockLength count rest = value passed)
    (carries : List.Forall₂ PassedPool.Carries passed pools) (here : run <+: rest) (full : 0 ∉ run) :
    run.length + uriLengths pools ≤ rest.length := by
  induction count generalizing rest run passed pools with
  | zero =>
      cases parsed
      cases carries
      exact here.length_le
  | succ count hypothesis =>
      rw [passPools] at parsed
      split at parsed
      · cases parsed
        rw [uriLengths_cleared carries]
        exact here.length_le
      next behind stepped =>
        obtain ⟨poolId, -, parsed⟩ := bind_eq_value.mp parsed
        obtain ⟨poolNslots, -, parsed⟩ := bind_eq_value.mp parsed
        obtain ⟨strideBytes, -, parsed⟩ := bind_eq_value.mp parsed
        obtain ⟨⟨regionUri, after⟩, pointed, parsed⟩ := bind_eq_value.mp parsed
        obtain ⟨others, later, same⟩ := bind_eq_value.mp parsed
        cases same
        unfold nextEntry at stepped
        split at stepped
        next room =>
          cases stepped
          have left : (rest.drop blockLength).length = rest.length - blockLength := List.length_drop
          cases carries with
          | @cons _ pool _ more first rest' =>
              have sum : uriLengths (pool :: more) = (Wire.string pool.regionUri).length + uriLengths more := rfl
              have shown := first.regionUri
              rw [sum]
              obtain ⟨four, ⟨null, same⟩ | ⟨length, word, fits, pointer, moved⟩⟩ := dataPointer_eq_value pointed
              · dsimp only at shown
                rw [null] at shown
                rw [same] at later
                have empty : Wire.string pool.regionUri = [] := shown
                have tail : run.drop blockLength <+: rest.drop blockLength := here.drop blockLength
                have bound := hypothesis (by omega) later rest' tail fun zero => full (List.mem_of_mem_drop zero)
                rw [List.length_drop] at bound
                rw [empty, List.length_nil]
                omega
              · dsimp only at shown
                rw [pointer] at shown
                obtain ⟨whole, ended⟩ := shown
                have start : Wire.string pool.regionUri <+: (rest.drop blockLength).drop 4 :=
                  (List.prefix_append _ _).trans ended
                have tail : (Wire.string pool.regionUri).drop length <+: after := by
                  rw [moved, ← List.drop_drop]
                  exact start.drop length
                have bound := hypothesis (by rw [moved, List.length_drop]; omega) later rest' tail
                  fun zero => whole (List.mem_of_mem_drop zero)
                have short : (uint32.decode (rest.drop blockLength)).toNat < 2 ^ 24 := by omega
                obtain ⟨front, back, three, split⟩ := length_ends four short
                have ended : run <+: (rest.take blockLength ++ front) ++ 0 :: back := by
                  rw [List.append_assoc, ← split, List.take_append_drop]
                  exact here
                have stops := run_length ended full
                rw [List.length_append, List.length_take, three] at stops
                rw [moved, List.length_drop, List.length_drop] at bound
                omega
        · cases stepped

end Pools

section Fragments

/-- A message of the codec is opened behind its block. -/
theorem openFragment_sent (codec : Wire.Codec) {block : List UInt8} (rest : List UInt8)
    (length : block.length = codec.blockLength.toNat) :
    openFragment codec (messageHeader.encode codec.header ++ (block ++ rest)) = value rest := by
  have long : ¬ (messageHeader.encode codec.header ++ (block ++ rest)).length < messageHeader.width := by
    rw [List.length_append, messageHeader.length_encode]
    omega
  have named : ¬ (codec.header.schemaId ≠ codec.schemaId ∨ codec.header.templateId ≠ codec.templateId) := by
    rw [not_or, not_not, not_not]
    exact ⟨rfl, rfl⟩
  have fitting : ¬ (codec.version < codec.header.version ∨ codec.header.blockLength ≠ codec.blockLength) := by
    rw [not_or, not_not]
    exact ⟨UInt16.lt_irrefl _, rfl⟩
  rw [openFragment, stopIf_pass long, value_bind, read_here, value_bind, stopIf_pass named, value_bind,
    stopIf_pass fitting, value_bind, Wire.behindBlock_sent rest length]

/-- The strings of an announce are read behind its block. -/
theorem passAnnounce_parts {allocates : Bool} {announce : Wire.ShmPoolAnnounce} {rest : List UInt8}
    {passed : PassedAnnounce}
    (parsed : passAnnounce allocates
      (messageHeader.encode Wire.ShmPoolAnnounce.codec.header ++ (announce.block ++ rest)) = value passed) :
    ∃ behind blockLength count last, dataPointer rest = value (passed.headerRegionUri, behind) ∧
      group behind = (value (blockLength, count, last) : Scan Unit _) ∧
        passPools blockLength count last = value passed.pools := by
  rw [passAnnounce, openFragment_sent _ _ (Wire.length_block announce), value_bind] at parsed
  simp only [bind_eq_value] at parsed
  obtain ⟨_, -, _, -, _, -, _, -, _, -, _, -, _, -, pointed, here, grouped, dims, _, -, pools, entered,
    same⟩ := parsed
  cases same
  exact ⟨_, _, _, _, here, dims, entered⟩

/-- A string that starts in front of a short length ends in the length at the latest. -/
theorem pointsTo_length {text front back : List UInt8} {count : Nat} (small : count < 2 ^ 24)
    (shown : PointsTo text (some (front ++ (uint32.encode (UInt32.ofNat count) ++ back)))) :
    text.length ≤ front.length + 3 := by
  obtain ⟨whole, ended⟩ := shown
  have four : 4 ≤ (uint32.encode (UInt32.ofNat count) ++ back).length := by
    rw [List.length_append, uint32.length_encode]
    exact Nat.le_add_right _ _
  have word : (uint32.decode (uint32.encode (UInt32.ofNat count) ++ back)).toNat < 2 ^ 24 := by
    rw [uint32.decode_encode, UInt32.toNat_ofNat_of_lt' (Nat.lt_trans small (by decide))]
    exact small
  obtain ⟨begin, behind, three, split⟩ := length_ends four word
  rw [split, ← List.append_assoc] at ended
  have stops := run_length ((List.prefix_append _ _).trans ended) whole
  rw [List.length_append, three] at stops
  exact stops

theorem length_poolBytes (pools : List Wire.AnnouncePool) :
    (pools.flatMap Wire.AnnouncePool.bytes).length = 14 * pools.length + uriLengths pools := by
  rw [Wire.length_poolBytes]
  induction pools with
  | nil => rfl
  | cons pool rest hypothesis =>
      rw [List.map_cons, List.sum_cons, hypothesis, List.length_cons, uriLengths, uriLengths, List.map_cons,
        List.sum_cons]
      omega

/--
No announce with a header URI is passed on as it was sent.
The header URI is read where the dimensions of the pools stand, so it is null or a part of the pools.
-/
theorem pools_misread {allocates : Bool} {announce : Wire.ShmPoolAnnounce} {passed : PassedAnnounce}
    (few : announce.pools.length < 2 ^ 16) (named : Wire.string announce.headerRegionUri ≠ [])
    (short : (groupBytes Wire.ShmPoolAnnounce.poolsBlockLength announce.pools.length ++
      (announce.pools.flatMap Wire.AnnouncePool.bytes ++ dataBytes (Wire.string announce.headerRegionUri))).length <
        2 ^ 24)
    (parsed : passAnnounce allocates (messageHeader.encode Wire.ShmPoolAnnounce.codec.header ++ (announce.block ++
      (groupBytes Wire.ShmPoolAnnounce.poolsBlockLength announce.pools.length ++
        (announce.pools.flatMap Wire.AnnouncePool.bytes ++ dataBytes (Wire.string announce.headerRegionUri))))) =
          value passed) : ¬ passed.Carries announce := by
  intro carries
  obtain ⟨behind, blockLength, count, last, pointed, dims, entered⟩ := passAnnounce_parts parsed
  have shown := carries.headerRegionUri
  have size : (groupBytes Wire.ShmPoolAnnounce.poolsBlockLength announce.pools.length ++
      (announce.pools.flatMap Wire.AnnouncePool.bytes ++
        dataBytes (Wire.string announce.headerRegionUri))).length =
      8 + 14 * announce.pools.length + uriLengths announce.pools +
        (Wire.string announce.headerRegionUri).length := by
    rw [List.length_append, List.length_append, length_groupBytes, length_poolBytes, length_dataBytes]
    omega
  rw [size] at short
  obtain ⟨-, ⟨null, -⟩ | ⟨length, word, fits, pointer, moved⟩⟩ := dataPointer_eq_value pointed
  · rw [null] at shown
    exact named shown
  · have number : length = 10 + 65536 * announce.pools.length := by
      have looks := (read_eq_value.mp (read_groupBytes (ε := Unit) Wire.ShmPoolAnnounce.poolsBlockLength
        announce.pools.length (announce.pools.flatMap Wire.AnnouncePool.bytes ++
          dataBytes (Wire.string announce.headerRegionUri)) (by decide) few)).2
      rw [List.drop_zero] at looks
      rw [word, looks]
      exact UInt32.toNat_ofNat_of_lt' (by change 10 + 65536 * announce.pools.length < 4294967296; omega)
    obtain ⟨inside, -, -, rest⟩ := group_eq_value.mp dims
    have remaining : last.length = behind.length - 4 := by rw [rest, List.length_drop]
    rw [moved, List.length_drop, size] at remaining inside
    rw [size] at fits
    have strings := uriLengths_le (by omega) entered carries.pools (List.nil_prefix : [] <+: _) List.not_mem_nil
    rw [List.length_nil] at strings
    rw [pointer, List.drop_left' (length_groupBytes ..)] at shown
    have header : (Wire.string announce.headerRegionUri).length ≤ 13 ∧
        (announce.pools.length = 0 → (Wire.string announce.headerRegionUri).length ≤ 3) := by
      cases pools : announce.pools with
      | nil =>
          rw [pools, List.flatMap_nil, List.nil_append, dataBytes] at shown
          have below := @pointsTo_length _ [] _ _ (by omega) shown
          exact ⟨Nat.le_trans below (by decide), fun _ => below⟩
      | cons pool more =>
          have part : (Wire.string pool.regionUri).length ≤ uriLengths announce.pools := by
            rw [pools]
            exact Nat.le_add_right _ _
          rw [pools, List.flatMap_cons, Wire.AnnouncePool.bytes, dataBytes] at shown
          simp only [List.append_assoc] at shown
          exact ⟨pointsTo_length (by omega) shown, fun none => absurd none (Nat.succ_ne_zero _)⟩
    omega

end Fragments

section Driver

theorem length_string_le (text : String) :
    (Wire.string (some text.toUTF8.toList)).length ≤ Driver.strlen text := by
  apply Nat.le_trans (length_chars_le _)
  change text.toUTF8.toList.length ≤ _
  rw [Utf8.toList_toUTF8, Utf8.length_bytes]
  exact Nat.le_refl _

theorem length_bodies_le (bodies : List Driver.PoolBody) :
    (bodies.map fun body => 10 + 4 + (Wire.string (some body.regionUri.text.toUTF8.toList)).length).sum ≤
      Driver.bodiesLength bodies := by
  induction bodies with
  | nil => exact Nat.le_refl _
  | cons body rest hypothesis =>
      have here := length_string_le body.regionUri.text
      rw [Driver.bodiesLength] at hypothesis ⊢
      rw [List.map_cons, List.map_cons, List.sum_cons, List.sum_cons]
      simp only [Driver.poolBlockLength] at hypothesis ⊢
      omega

/-- A URI of the driver is not empty. -/
theorem buildRegionUri_ne_nil {o : Driver.Oracle} {config : Driver.Config} {streamId : UInt32} {epoch : UInt64}
    {poolId : UInt16} {regionType : Driver.RegionType} {requireHugepages : Bool} {uri : String}
    (built : Driver.buildRegionUri o config streamId epoch poolId regionType requireHugepages = some uri) :
    Wire.string (some uri.toUTF8.toList) ≠ [] := by
  simp only [Driver.buildRegionUri, Option.bind_eq_bind, Option.bind_eq_some_iff] at built
  obtain ⟨path, -, fits⟩ := built
  have whole : ∃ rest : String, uri = "shm:file?path=" ++ rest := by
    refine ⟨path ++ ("|require_hugepages=" ++ (if requireHugepages then "true" else "false")), ?_⟩
    rw [Driver.fitted_eq_some fits, ← String.append_assoc, ← String.append_assoc]
    rfl
  obtain ⟨rest, same⟩ := whole
  have letters : Utf8.bytes "shm:file?path=" = 115 :: Utf8.bytes "hm:file?path=" := by decide
  rw [Wire.string, Option.getD_some, Utf8.toList_toUTF8, same, Utf8.bytes_append, letters]
  exact List.cons_ne_nil _ _

/-- An announce of the driver with whole URIs fits its buffer, and its header URI is not empty. -/
theorem encodeAnnounce_fits {o : Driver.Oracle} {config : Driver.Config} {stream : Driver.StreamState}
    {requireHugepages : Bool} {now : UInt64} {announce : Driver.PoolAnnounce}
    (built : Driver.encodeAnnounce o config stream requireHugepages now = some announce) (whole : announce.Whole) :
    Wire.announceSize (Wire.driverAnnounce announce) ≤ Driver.bufferLength ∧
      Wire.string (Wire.driverAnnounce announce).headerRegionUri ≠ [] := by
  simp only [Driver.encodeAnnounce, Option.bind_eq_bind, Option.bind_eq_some_iff, Option.some.injEq,
    Prod.exists] at built
  obtain ⟨profile, -, bodies, header, after, regions, rfl⟩ := built
  refine ⟨?_, buildRegionUri_ne_nil (Driver.encodeRegions_header regions)⟩
  have room := (Driver.encodeRegions_whole regions).mp whole
  have strings := length_bodies_le bodies
  have named := length_string_le header.text
  rw [Wire.announceSize, Wire.driverAnnounce, List.map_map]
  change 8 + 35 + 4 + 4 + (Wire.string (some header.text.toUTF8.toList)).length +
    (bodies.map fun body => 10 + 4 + (Wire.string (some body.regionUri.text.toUTF8.toList)).length).sum ≤ _
  simp only [Driver.messageHeaderLength, Driver.poolAnnounceBlockLength, Driver.groupHeaderLength] at room
  omega

end Driver

section DataSource

variable {announce : Wire.DataSourceAnnounce}

/-- Data that fits is read with a pointer to the rest of the fragment. -/
theorem dataPointer_dataBytes (text rest : List UInt8) (small : text.length < 2 ^ 32) :
    dataPointer (dataBytes text ++ rest) = value (some (text ++ rest), rest) := by
  have behind : (dataBytes text ++ rest).drop 4 = text ++ rest := by
    rw [dataBytes, List.append_assoc]
    exact List.drop_left' (uint32.length_encode _)
  rw [dataPointer, data_dataBytes text rest small, value_bind, behind]
  rfl

/-- A pointer is found where at least a length stands. -/
theorem dataPointer_total {rest : List UInt8} (four : 4 ≤ rest.length) :
    ∃ pointer behind, dataPointer rest = value (pointer, behind) := by
  have word : (read uint32 0 rest : Scan Unit _) = value (uint32.decode rest) :=
    read_eq_value.mpr ⟨by rw [Nat.zero_add]; exact four, rfl⟩
  rw [dataPointer, data, word, value_bind]
  split
  · exact ⟨_, _, rfl⟩
  · exact ⟨_, _, rfl⟩

/-- The fields of the block are passed on as they were sent, with the strings behind it. -/
theorem passDataSource_block (rest : List UInt8) :
    passDataSource (messageHeader.encode Wire.DataSourceAnnounce.codec.header ++ (announce.block ++ rest)) = (do
      let (name, rest) ← dataPointer rest
      let (summary, _) ← dataPointer rest
      value ⟨announce.streamId, announce.producerId, announce.epoch, announce.metaVersion, name, summary⟩) := by
  rw [passDataSource, openFragment_sent _ _ rfl, value_bind]
  simp (disch := decide) only [Wire.DataSourceAnnounce.block, List.append_assoc, read_here, read_behind,
    width_messageHeader, width_uint32, width_uint64, Nat.reduceSub, value_bind]

/-- The room that the block leaves in the buffer takes the name and the summary, each as far as it fits. -/
def dataSourceTexts (announce : Wire.DataSourceAnnounce) : List UInt8 :=
  putData 484 (Wire.string announce.summary) (putData 484 (Wire.string announce.name) [])

theorem encodeDataSourceAnnounce_eq (announce : Wire.DataSourceAnnounce) :
    Wire.encodeDataSourceAnnounce announce = messageHeader.encode Wire.DataSourceAnnounce.codec.header ++
      (announce.block ++ dataSourceTexts announce) := by
  have head : (messageHeader.encode Wire.DataSourceAnnounce.codec.header ++ announce.block).length = 28 := rfl
  change putData 512 (Wire.string announce.summary) (putData 512 (Wire.string announce.name)
    (messageHeader.encode Wire.DataSourceAnnounce.codec.header ++ announce.block)) = _
  conv_lhs => rw [← List.append_nil (messageHeader.encode Wire.DataSourceAnnounce.codec.header ++ announce.block)]
  rw [putData_append _ _ _ (by rw [head]; decide), putData_append _ _ _ (by rw [head]; decide), head,
    List.append_assoc]
  rfl

theorem length_dataSourceTexts (announce : Wire.DataSourceAnnounce) : (dataSourceTexts announce).length ≤ 484 := by
  obtain ⟨-, -, first⟩ := @putData_extends 484 (Wire.string announce.name) [] (by decide)
  obtain ⟨-, -, second⟩ := putData_extends 484 (Wire.string announce.summary) first
  exact second

/-- A string has no null byte. -/
theorem zero_not_mem_string (pointer : Option Text) : 0 ∉ Wire.string pointer := by
  intro member
  have nonzero := List.mem_takeWhile_imp member
  cases nonzero

/-- The name ends at once when the length of the summary begins with a null byte. -/
theorem pointsTo_name {text more : List UInt8} (whole : 0 ∉ text) (count : Nat) :
    PointsTo text (some (text ++ (uint32.encode (UInt32.ofNat count) ++ more))) ↔ count % 256 = 0 := by
  have first : ∃ rest, uint32.encode (UInt32.ofNat count) = UInt8.ofNat (UInt32.ofNat count).toNat :: rest := ⟨_, rfl⟩
  obtain ⟨rest, begins⟩ := first
  have byte : UInt8.ofNat (UInt32.ofNat count).toNat = 0 ↔ count % 256 = 0 := by
    rw [← UInt8.toNat_inj, UInt8.toNat_ofNat', UInt32.toNat_ofNat']
    change count % 2 ^ 32 % 2 ^ 8 = 0 ↔ _
    omega
  rw [begins, ← byte, PointsTo, List.prefix_append_right_inj, List.cons_append, List.cons_prefix_cons]
  constructor
  · intro shown
    exact shown.2.1.symm
  · intro zero
    exact ⟨whole, zero.symm, List.nil_prefix⟩

/-- A name that fits is put as a whole. -/
theorem dataSourceTexts_named (fits : (Wire.string announce.name).length ≤ 480) : dataSourceTexts announce =
    putData 484 (Wire.string announce.summary) (dataBytes (Wire.string announce.name)) := by
  have put : putData 484 (Wire.string announce.name) [] = [] ++ dataBytes (Wire.string announce.name) :=
    putData_fits (by rw [List.length_nil]; omega)
  rw [dataSourceTexts, put, List.nil_append]

/-- The length of the summary stands behind a name that leaves room for it. -/
theorem dataSourceTexts_room (room : (Wire.string announce.name).length ≤ 476) :
    ∃ more, dataSourceTexts announce = dataBytes (Wire.string announce.name) ++
      (uint32.encode (UInt32.ofNat (Wire.string announce.summary).length) ++ more) := by
  have space : (dataBytes (Wire.string announce.name)).length + 4 ≤ 484 := by
    rw [length_dataBytes]
    omega
  obtain ⟨more, put, -⟩ := putData_length (Wire.string announce.summary) space
  rw [dataSourceTexts_named (by omega), put]
  exact ⟨more, rfl⟩

/-- The name that is passed on is shorter than the room for it. -/
theorem passed_name_length {name : Option Pointer} {behind : List UInt8}
    (pointed : dataPointer (dataSourceTexts announce) = value (name, behind))
    (shown : PointsTo (Wire.string announce.name) name) : (Wire.string announce.name).length < 480 := by
  have room := length_dataSourceTexts announce
  obtain ⟨-, ⟨null, -⟩ | ⟨-, -, -, pointer, -⟩⟩ := dataPointer_eq_value pointed
  · rw [null] at shown
    have empty : Wire.string announce.name = [] := shown
    rw [empty]
    decide
  · rw [pointer] at shown
    have inside := shown.2.length_le
    rw [List.length_append, List.length_singleton, List.length_drop] at inside
    omega

/-- A beacon is passed on as it was sent when the length of its summary ends its name with a null byte. -/
theorem dataSource_passed_iff :
    (∃ passed, passDataSource (Wire.encodeDataSourceAnnounce announce) = value passed ∧ passed.Carries announce) ↔
      (Wire.string announce.name).length ≤ 476 ∧ (Wire.string announce.summary).length % 256 = 0 := by
  have whole := zero_not_mem_string announce.name
  rw [encodeDataSourceAnnounce_eq, passDataSource_block]
  constructor
  · intro found
    obtain ⟨passed, parsed, carries⟩ := found
    obtain ⟨⟨name, behind⟩, pointed, parsed⟩ := bind_eq_value.mp parsed
    obtain ⟨_, -, same⟩ := bind_eq_value.mp parsed
    cases same
    have shown := carries.name
    have short := passed_name_length pointed shown
    by_cases room : (Wire.string announce.name).length ≤ 476
    · obtain ⟨more, texts⟩ := dataSourceTexts_room room
      rw [texts, dataPointer_dataBytes _ _ (by omega)] at pointed
      cases pointed
      exact ⟨room, (pointsTo_name whole _).mp shown⟩
    · have full : ¬ (dataBytes (Wire.string announce.name)).length + 4 ≤ 484 := by
        rw [length_dataBytes]
        omega
      rw [dataSourceTexts_named (by omega), putData, if_neg full, ← List.append_nil (dataBytes _),
        dataPointer_dataBytes _ _ (by omega)] at pointed
      cases pointed
      have inside := shown.2.length_le
      rw [List.length_append, List.append_nil, List.length_singleton] at inside
      omega
  · intro room
    obtain ⟨more, texts⟩ := dataSourceTexts_room room.1
    have four : 4 ≤ (uint32.encode (UInt32.ofNat (Wire.string announce.summary).length) ++ more).length := by
      rw [List.length_append, uint32.length_encode]
      exact Nat.le_add_right _ _
    obtain ⟨summary, behind, pointed⟩ := dataPointer_total four
    rw [texts, dataPointer_dataBytes _ _ (by omega), value_bind]
    dsimp only
    rw [pointed, value_bind]
    exact ⟨_, rfl, rfl, rfl, rfl, (pointsTo_name whole _).mpr room.2⟩

end DataSource

/-- These announcements reach the discovery service. -/
inductive Announcement where
  | pools (announce : Wire.ShmPoolAnnounce)
  | dataSource (announce : Wire.DataSourceAnnounce)

/-- The driver and the producers send these bytes; the URIs of the driver fit in its message. -/
inductive Sends : Announcement → List UInt8 → Prop where
  | driver {o : Driver.Oracle} {config : Driver.Config} {stream : Driver.StreamState} {requireHugepages : Bool}
      {now : UInt64} {announce : Driver.PoolAnnounce} {bytes : List UInt8}
      (built : Driver.encodeAnnounce o config stream requireHugepages now = some announce) (whole : announce.Whole)
      (encoded : Wire.encodeDriverAnnounce announce = .ok bytes) : Sends (.pools (Wire.driverAnnounce announce)) bytes
  | producer {announce : Wire.ShmPoolAnnounce} {bytes : List UInt8}
      (encoded : Wire.encodeShmPoolAnnounce announce = .ok bytes) : Sends (.pools announce) bytes
  | beacon {announce : Wire.DataSourceAnnounce} : Sends (.dataSource announce)
    (Wire.encodeDataSourceAnnounce announce)

/-- The transport carries no longer message. -/
def maxMessageLength : Nat := 16 * 1024 * 1024

/-- The handler passes on what was sent. -/
def Ingested (allocates : Bool) (bytes : List UInt8) : Announcement → Prop
  | .pools announce => ∃ passed, passAnnounce allocates bytes = value passed ∧ passed.Carries announce
  | .dataSource announce => ∃ passed, passDataSource bytes = value passed ∧ passed.Carries announce

/-- The name of a beacon leaves room for the length of the summary, whose first byte is null. -/
def Announcement.Readable : Announcement → Prop
  | .pools _ => False
  | .dataSource announce =>
      (Wire.string announce.name).length ≤ 476 ∧ (Wire.string announce.summary).length % 256 = 0

/-- No announce of pools is passed on as it was put. -/
theorem putAnnounce_misread {size : Nat} {wrapRefusal nextRefusal : Wire.Refusal} {announce : Wire.ShmPoolAnnounce}
    {bytes : List UInt8} (put : Wire.putAnnounce size wrapRefusal nextRefusal announce = .ok bytes)
    (fits : Wire.announceSize announce ≤ size) (named : Wire.string announce.headerRegionUri ≠ [])
    (carried : bytes.length ≤ maxMessageLength) (allocates : Bool) :
      ¬ Ingested allocates bytes (.pools announce) := by
  intro found
  obtain ⟨passed, parsed, carries⟩ := found
  obtain ⟨few, same⟩ := Wire.putAnnounce_bytes put fits
  rw [same] at parsed carried
  have length : (messageHeader.encode Wire.ShmPoolAnnounce.codec.header).length = 8 := rfl
  rw [List.length_append, List.length_append, length, Wire.length_block] at carried
  apply pools_misread few named _ parsed carries
  have bound : maxMessageLength = 2 ^ 24 := rfl
  omega

/-- The handlers pass on what was sent exactly for the beacons whose name ends with its bytes. -/
theorem ingested_iff {announcement : Announcement} {bytes : List UInt8} (sent : Sends announcement bytes)
    (carried : bytes.length ≤ maxMessageLength) (allocates : Bool) :
    Ingested allocates bytes announcement ↔ announcement.Readable := by
  cases sent with
  | driver built whole encoded =>
      obtain ⟨fits, named⟩ := encodeAnnounce_fits built whole
      exact iff_of_false (putAnnounce_misread encoded fits named carried allocates) not_false
  | producer encoded =>
      unfold Wire.encodeShmPoolAnnounce at encoded
      split at encoded
      · cases encoded
      · split at encoded
        · cases encoded
        next named =>
          exact iff_of_false (putAnnounce_misread encoded (Nat.le_refl _) named carried allocates) not_false
  | beacon => exact dataSource_passed_iff

def namedBeacon : Wire.DataSourceAnnounce := ⟨7, 1, 1, 1, some [99], none⟩

theorem ingested_iff_named : Ingested true (Wire.encodeDataSourceAnnounce namedBeacon) (.dataSource namedBeacon) ↔
    Announcement.Readable (.dataSource namedBeacon) :=
  ingested_iff .beacon (by decide) true

def summarizedBeacon : Wire.DataSourceAnnounce := ⟨7, 1, 1, 1, some [99], some [100, 101]⟩

def announcedPool : Wire.ShmPoolAnnounce where
  streamId := 7
  producerId := 1
  epoch := 1
  announceTimestampNs := 100
  announceClockDomain := 1
  layoutVersion := 1
  headerNslots := 4
  headerSlotBytes := 256
  headerRegionUri := some [104]
  pools := [⟨1, 4, 64, some [112]⟩]

/-- The header URI of an announce is lost, and the length of a summary is read as the end of the name. -/
theorem announcements_misread :
    (∃ bytes, Sends (.pools announcedPool) bytes ∧ bytes.length ≤ maxMessageLength ∧
      ¬ Ingested true bytes (.pools announcedPool)) ∧
    ∃ bytes, Sends (.dataSource summarizedBeacon) bytes ∧ bytes.length ≤ maxMessageLength ∧
      ¬ Ingested true bytes (.dataSource summarizedBeacon) := by
  constructor
  · have encoded : ∃ bytes, Wire.encodeShmPoolAnnounce announcedPool = .ok bytes ∧ bytes.length ≤ maxMessageLength ∧
        passAnnounce true bytes = value ⟨7, 1, 1, 100, 1, 4, 256, none, [⟨1, 4, 64, some [112, 1, 0, 0, 0, 104]⟩]⟩ :=
      ⟨_, rfl, by decide, by decide⟩
    obtain ⟨bytes, put, short, pointer⟩ := encoded
    refine ⟨bytes, .producer put, short, ?_⟩
    intro found
    obtain ⟨passed, parsed, carries⟩ := found
    cases pointer.symm.trans parsed
    have lost : [(104 : UInt8)] = [] := carries.headerRegionUri
    cases lost
  · refine ⟨_, .beacon, by decide, ?_⟩
    intro found
    obtain ⟨passed, parsed, carries⟩ := found
    have pointer : passDataSource (Wire.encodeDataSourceAnnounce summarizedBeacon) =
        value ⟨7, 1, 1, 1, some [99, 2, 0, 0, 0, 100, 101], some [100, 101]⟩ := by decide
    cases pointer.symm.trans parsed
    have shown : [(99 : UInt8), 0] <+: [99, 2, 0, 0, 0, 100, 101] := carries.name.2
    revert shown
    decide

end TensorPool.Discovery
