/-
This file loads the configuration of the driver from a parsed document.
-/

import Mathlib.Data.List.Nodup
import Mathlib.Data.List.TakeWhile
import TensorPool.Driver.Attach
import TensorPool.Shm.Uri

namespace TensorPool.Driver

/-- This is `toml_datum_t`; the last kind stands for floats and times. -/
inductive Datum where
  | unknown
  | string (text : String)
  | int64 (value : Int64)
  | boolean (value : Bool)
  | array (items : List Datum)
  | table (entries : List (String × Datum))
  | other

/-- This is `toml_get`; a missing key and a datum without keys give an unknown datum. -/
def Datum.get (datum : Datum) (key : String) : Datum :=
  match datum with
  | .table entries => ((entries.find? fun entry => entry.1 == key).map Prod.snd).getD .unknown
  | _ => .unknown

/-- A failed call stops with its text. -/
def refuseLoad {α : Type} (text : String) : Except String α := .error ("tp_driver_config_load: " ++ text)

/-- A string of the document is read up to its first null character. -/
def cString (text : String) : String := String.ofList (text.toList.takeWhile fun letter => letter != Char.ofNat 0)

/-- This is `tp_driver_copy_string`; an absent value leaves the buffer as it was. -/
def copyString (size : Nat) (old : String) (datum : Datum) (name : String) (required : Bool) : Except String String :=
  match datum with
  | .unknown => if required then refuseLoad ("missing " ++ name) else .ok old
  | .string text => if strlen text ≥ size then refuseLoad (name ++ " too long") else .ok (cString text)
  | _ => refuseLoad (name ++ " must be a string")

/-- The three copies of an integer differ in their bounds. -/
def copyInteger (low high : Int) (datum : Datum) (name : String) (required : Bool) : Except String (Option Int) :=
  match datum with
  | .unknown => if required then refuseLoad ("missing " ++ name) else .ok none
  | .int64 value =>
      if value.toInt < low ∨ high < value.toInt then refuseLoad (name ++ " out of range") else .ok (some value.toInt)
  | _ => refuseLoad (name ++ " must be an integer")

/-- This is `tp_driver_copy_uint32`. -/
def copyUint32 (old : UInt32) (datum : Datum) (name : String) (required : Bool) : Except String UInt32 := do
  let value ← copyInteger 0 4294967295 datum name required
  return (value.map fun number => UInt32.ofNat number.toNat).getD old

/-- This is `tp_driver_copy_int32`. -/
def copyInt32 (old : Int32) (datum : Datum) (name : String) (required : Bool) : Except String Int32 := do
  let value ← copyInteger (-2147483648) 2147483647 datum name required
  return (value.map Int32.ofInt).getD old

/-- This is `tp_driver_copy_uint64`, which has no upper bound below that of the datum. -/
def copyUint64 (old : UInt64) (datum : Datum) (name : String) (required : Bool) : Except String UInt64 := do
  let value ← copyInteger 0 9223372036854775807 datum name required
  return (value.map fun number => UInt64.ofNat number.toNat).getD old

/-- This is `tp_driver_copy_bool`. -/
def copyBool (old : Bool) (datum : Datum) (name : String) (required : Bool) : Except String Bool :=
  match datum with
  | .unknown => if required then refuseLoad ("missing " ++ name) else .ok old
  | .boolean value => .ok value
  | _ => refuseLoad (name ++ " must be a boolean")

/-- This is a digit of a base up to ten. -/
def baseDigit (base : Nat) (c : Char) : Bool := c.isDigit && c.toNat - 48 < base

/-- This is `strtoul` with the text behind the number; without a digit it reads nothing. -/
def strtoul (base : Nat) (text : List Char) : Option (Nat × List Char) :=
  let text := text.dropWhile spaceChar
  let negative := text.head? == some '-'
  let behind := if negative || text.head? == some '+' then text.drop 1 else text
  let digits := behind.takeWhile (baseDigit base)
  if digits.isEmpty then none
  else
    let value := digits.foldl (fun value digit => base * value + (digit.toNat - 48)) 0
    let clamped := if value < 2 ^ 64 then (if negative then (2 ^ 64 - value) % 2 ^ 64 else value) else 2 ^ 64 - 1
    some (clamped, behind.drop digits.length)

/-- A number must be the whole text. -/
def wholeNumber (base : Nat) (text : List Char) : Option Nat :=
  match strtoul base text with
  | some (value, []) => some value
  | _ => none

/-- This is `tp_driver_parse_permissions_mode` without its result. -/
def parsePermissionsMode (datum : Datum) : Except String Unit :=
  match datum with
  | .unknown => .ok ()
  | .string text =>
      match wholeNumber 8 (cString text).toList with
      | none => refuseLoad "permissions_mode invalid"
      | some mode => if mode > 511 then refuseLoad "permissions_mode out of range" else .ok ()
  | _ => refuseLoad "permissions_mode must be a string"

/-- The two ends of a range stand around its first dash; a single number is both ends. -/
def rangeEnds (text : List Char) : Option (Nat × Nat) :=
  let left := text.takeWhile fun letter => letter != '-'
  if left.length = text.length then (wholeNumber 10 text).map fun first => (first, first)
  else
    let right := text.drop (left.length + 1)
    if left.isEmpty || left.length ≥ 32 || right.isEmpty || right.length ≥ 32 then none
    else do
      let first ← wholeNumber 10 left
      let last ← wholeNumber 10 right
      some (first, last)

/-- This is `tp_driver_parse_range_string` with the range that is then added. -/
def parseRangeString (text : String) : Option IdRange :=
  match rangeEnds (cString text).toList with
  | none => none
  | some (first, last) =>
      if first = 0 ∨ last = 0 ∨ first > 4294967295 ∨ last > 4294967295 ∨ first > last then none
      else some { start := UInt32.ofNat first, stop := UInt32.ofNat last, next := UInt32.ofNat first }

/-- One turn of the loop over the ranges of an array. -/
def parseRange (name : String) (datum : Datum) : Except String IdRange :=
  match datum with
  | .string text =>
      match parseRangeString text with
      | none => refuseLoad ("invalid " ++ name ++ " range")
      | some range => .ok range
  | _ => refuseLoad (name ++ " range must be string")

/-- This is `tp_driver_parse_ranges`. -/
def parseRanges (datum : Datum) (name : String) : Except String (List IdRange) :=
  match datum with
  | .unknown => .ok []
  | .string text =>
      match parseRangeString text with
      | none => refuseLoad ("invalid " ++ name ++ " range")
      | some range => .ok [range]
  | .array items => items.mapM (parseRange name)
  | _ => refuseLoad (name ++ " range must be string or array")

/-- This is `tp_driver_find_profile`. -/
def findProfile (profiles : List Profile) (name : String) : Option Profile :=
  profiles.find? fun profile => profile.name == name

/-- This is `tp_driver_validate_pow2`. -/
def validatePow2 (value : UInt32) (name : String) : Except String Unit :=
  if value = 0 ∨ value &&& (value - 1) ≠ 0 then refuseLoad (name ++ " must be power of two") else .ok ()

/-- This is `tp_driver_load_allowed_base_dirs`. -/
def loadAllowedBaseDirs (datum : Datum) : Except String (List String) :=
  match datum with
  | .unknown => .ok []
  | .array items => items.mapM fun item =>
      match item with
      | .string text => .ok (cString text)
      | _ => refuseLoad "allowed_base_dirs must be strings"
  | _ => refuseLoad "allowed_base_dirs must be array"

/-- One turn of the loop over the pools of a profile. -/
def loadPool (before : List PoolDef) (datum : Datum) : Except String PoolDef :=
  match datum with
  | .table _ => do
      let poolId ← copyUint32 0 (datum.get "pool_id") "payload_pools.pool_id" true
      if poolId = 0 ∨ poolId > 65535 then refuseLoad "pool_id must be 1..65535"
      else
        let strideBytes ← copyUint32 0 (datum.get "stride_bytes") "payload_pools.stride_bytes" true
        if strideBytes = 0 ∨ strideBytes % 64 ≠ 0 then refuseLoad "stride_bytes must be multiple of 64"
        else if before.any fun pool => pool.poolId == poolId.toUInt16 then refuseLoad "duplicate pool_id"
        else .ok ⟨poolId.toUInt16, strideBytes⟩
  | _ => refuseLoad "payload_pools entries must be tables"

def loadPools (before : List PoolDef) : List Datum → Except String (List PoolDef)
  | [] => .ok before
  | datum :: rest => do
      let pool ← loadPool before datum
      loadPools (before ++ [pool]) rest

/--
A name is cut to the buffer of a profile.
A cut inside of a character gives no string, so such a name stays whole and is as different from every name that fits.
-/
def cutName (name : String) : String :=
  let kept := name.toList.inits.foldl (fun kept letters =>
    if strlen (String.ofList letters) ≤ 127 then letters else kept) []
  if strlen (String.ofList kept) = 127 then String.ofList kept else name

/-- One turn of the loop over the profiles. -/
def loadProfile (entry : String × Datum) : Except String Profile :=
  match entry.2 with
  | .table _ => do
      let headerNslots ← copyUint32 0 (entry.2.get "header_nslots") "profiles.<name>.header_nslots" true
      validatePow2 headerNslots "profiles.<name>.header_nslots"
      match entry.2.get "payload_pools" with
      | .array (first :: rest) =>
          let pools ← loadPools [] (first :: rest)
          return { name := cutName entry.1, headerNslots, pools }
      | _ => refuseLoad "payload_pools must be array"
  | _ => refuseLoad "profile entry must be table"

/-- This is `tp_driver_load_profiles`. -/
def loadProfiles (datum : Datum) : Except String (List Profile) :=
  match datum with
  | .unknown => refuseLoad "profiles missing"
  | .table [] => refuseLoad "profiles empty"
  | .table entries => entries.mapM loadProfile
  | _ => refuseLoad "profiles must be table"

/-- One turn of the loop over the streams. -/
def loadStream (profiles : List Profile) (before : List StreamDef) (datum : Datum) : Except String StreamDef :=
  match datum with
  | .table _ => do
      let streamId ← copyUint32 0 (datum.get "stream_id") "streams.<name>.stream_id" true
      if streamId = 0 then refuseLoad "stream_id must be non-zero"
      else
        let profileName ← copyString 128 "" (datum.get "profile") "streams.<name>.profile" true
        match findProfile profiles profileName with
        | none => refuseLoad ("unknown profile " ++ profileName)
        | some profile =>
            if before.any fun stream => stream.streamId == streamId then refuseLoad "duplicate stream_id"
            else .ok ⟨streamId, some profile⟩
  | _ => refuseLoad "stream entry must be table"

def loadStreamEntries (profiles : List Profile) (before : List StreamDef) :
    List (String × Datum) → Except String (List StreamDef)
  | [] => .ok before
  | entry :: rest => do
      let stream ← loadStream profiles before entry.2
      loadStreamEntries profiles (before ++ [stream]) rest

/-- This is `tp_driver_load_streams`. -/
def loadStreams (profiles : List Profile) (datum : Datum) : Except String (List StreamDef) :=
  match datum with
  | .unknown => .ok []
  | .table entries => loadStreamEntries profiles [] entries
  | _ => refuseLoad "streams must be table"

/-- These are the stream identifiers that the table of the driver gives. -/
structure DriverSettings where
  controlStreamId : UInt32
  announceStreamId : UInt32
  qosStreamId : UInt32
  streamIdRanges : List IdRange
  descriptorStreamIdRanges : List IdRange
  controlStreamIdRanges : List IdRange
  deriving DecidableEq, Repr

/-- The table of the driver gives identifiers and ranges; its texts are only checked. -/
def loadDriver (driver : Datum) : Except String DriverSettings :=
  match driver with
  | .table _ => do
      let _ ← copyString 256 "" (driver.get "instance_id") "driver.instance_id" false
      let _ ← copyString 4096 "" (driver.get "aeron_dir") "driver.aeron_dir" false
      let _ ← copyString 4096 "" (driver.get "control_channel") "driver.control_channel" true
      let controlStreamId ← copyUint32 0 (driver.get "control_stream_id") "driver.control_stream_id" true
      let _ ← copyString 4096 "" (driver.get "announce_channel") "driver.announce_channel" true
      let announceStreamId ← copyUint32 0 (driver.get "announce_stream_id") "driver.announce_stream_id" true
      let _ ← copyString 4096 "" (driver.get "qos_channel") "driver.qos_channel" true
      let qosStreamId ← copyUint32 0 (driver.get "qos_stream_id") "driver.qos_stream_id" true
      let streamIdRanges ← parseRanges (driver.get "stream_id_range") "driver.stream_id_range"
      let descriptorStreamIdRanges ← parseRanges (driver.get "descriptor_stream_id_range")
        "driver.descriptor_stream_id_range"
      let controlStreamIdRanges ← parseRanges (driver.get "control_stream_id_range") "driver.control_stream_id_range"
      return { controlStreamId, announceStreamId, qosStreamId, streamIdRanges, descriptorStreamIdRanges,
               controlStreamIdRanges }
  | _ => refuseLoad "missing [driver] table"

/-- These are the settings of the shared memory. -/
structure ShmSettings where
  baseDir : String
  namespaceName : String
  requireHugepages : Bool
  allowedBaseDirs : List String
  deriving DecidableEq, Repr

def loadShm (shm : Datum) : Except String ShmSettings :=
  match shm with
  | .table _ => do
      let baseDir ← copyString 4096 "/dev/shm" (shm.get "base_dir") "shm.base_dir" true
      let namespaceName ← copyString 256 "default" (shm.get "namespace") "shm.namespace" true
      let requireHugepages ← copyBool false (shm.get "require_hugepages") "shm.require_hugepages" false
      let _ ← copyUint32 4096 (shm.get "page_size_bytes") "shm.page_size_bytes" false
      parsePermissionsMode (shm.get "permissions_mode")
      let allowedBaseDirs ← loadAllowedBaseDirs (shm.get "allowed_base_dirs")
      return { baseDir, namespaceName, requireHugepages, allowedBaseDirs }
  | _ => refuseLoad "missing [shm] table"

/-- These are the policies with the defaults of `tp_driver_config_init`. -/
structure Policies where
  allowDynamicStreams : Bool := false
  defaultProfile : String := ""
  announcePeriodMs : UInt32 := 1000
  leaseKeepaliveIntervalMs : UInt32 := 1000
  leaseExpiryGraceIntervals : UInt32 := 3
  nodeIdReuseCooldownMs : UInt32 := 1000
  epochGcEnabled : Bool := true
  epochGcKeep : UInt32 := 2
  epochGcMinAgeNs : UInt64 := 3000000000
  epochGcOnStartup : Bool := false
  deriving DecidableEq, Repr

def loadPolicies (policies : Datum) : Except String Policies :=
  match policies with
  | .table _ => do
      let defaults : Policies := {}
      let allowDynamicStreams ← copyBool defaults.allowDynamicStreams (policies.get "allow_dynamic_streams")
        "policies.allow_dynamic_streams" false
      let defaultProfile ← copyString 128 defaults.defaultProfile (policies.get "default_profile")
        "policies.default_profile" false
      let announcePeriodMs ← copyUint32 defaults.announcePeriodMs (policies.get "announce_period_ms")
        "policies.announce_period_ms" false
      let leaseKeepaliveIntervalMs ← copyUint32 defaults.leaseKeepaliveIntervalMs
        (policies.get "lease_keepalive_interval_ms") "policies.lease_keepalive_interval_ms" false
      let leaseExpiryGraceIntervals ← copyUint32 defaults.leaseExpiryGraceIntervals
        (policies.get "lease_expiry_grace_intervals") "policies.lease_expiry_grace_intervals" false
      let nodeIdReuseCooldownMs ← copyUint32 defaults.nodeIdReuseCooldownMs (policies.get "node_id_reuse_cooldown_ms")
        "policies.node_id_reuse_cooldown_ms" false
      let _ ← copyBool true (policies.get "prefault_shm") "policies.prefault_shm" false
      let _ ← copyBool false (policies.get "mlock_shm") "policies.mlock_shm" false
      let epochGcEnabled ← copyBool defaults.epochGcEnabled (policies.get "epoch_gc_enabled")
        "policies.epoch_gc_enabled" false
      let epochGcKeep ← copyUint32 defaults.epochGcKeep (policies.get "epoch_gc_keep") "policies.epoch_gc_keep" false
      let epochGcMinAgeNs ← copyUint64 defaults.epochGcMinAgeNs (policies.get "epoch_gc_min_age_ns")
        "policies.epoch_gc_min_age_ns" false
      let epochGcOnStartup ← copyBool defaults.epochGcOnStartup (policies.get "epoch_gc_on_startup")
        "policies.epoch_gc_on_startup" false
      return { allowDynamicStreams, defaultProfile, announcePeriodMs, leaseKeepaliveIntervalMs,
               leaseExpiryGraceIntervals, nodeIdReuseCooldownMs, epochGcEnabled, epochGcKeep, epochGcMinAgeNs,
               epochGcOnStartup }
  | _ => refuseLoad "missing [policies] table"

/-- The texts of the supervisor fit buffers of this size. -/
def supervisorString (supervisor : Datum) (key : String) : Except String String :=
  copyString 1024 "" (supervisor.get key) ("supervisor." ++ key) false

def supervisorInt32 (supervisor : Datum) (key : String) : Except String Int32 :=
  copyInt32 0 (supervisor.get key) ("supervisor." ++ key) false

def supervisorUint32 (supervisor : Datum) (key : String) : Except String UInt32 :=
  copyUint32 0 (supervisor.get key) ("supervisor." ++ key) false

def supervisorBool (supervisor : Datum) (key : String) : Except String Bool :=
  copyBool false (supervisor.get key) ("supervisor." ++ key) false

/--
This is `tp_driver_load_supervisor` without its result.
The mode is written into one byte, so its checks see the lowest byte of the number.
-/
def loadSupervisor (supervisor : Datum) : Except String Unit :=
  match supervisor with
  | .unknown => .ok ()
  | .table _ => do
      let _ ← supervisorString supervisor "control_channel"
      let _ ← supervisorString supervisor "announce_channel"
      let _ ← supervisorString supervisor "metadata_channel"
      let _ ← supervisorString supervisor "qos_channel"
      let _ ← supervisorInt32 supervisor "control_stream_id"
      let _ ← supervisorInt32 supervisor "announce_stream_id"
      let _ ← supervisorInt32 supervisor "metadata_stream_id"
      let _ ← supervisorInt32 supervisor "qos_stream_id"
      let _ ← supervisorUint32 supervisor "consumer_capacity"
      let _ ← supervisorUint32 supervisor "consumer_stale_ms"
      let _ ← supervisorBool supervisor "per_consumer_enabled"
      let _ ← supervisorString supervisor "per_consumer_descriptor_channel"
      let _ ← supervisorString supervisor "per_consumer_control_channel"
      let descriptorBase ← supervisorInt32 supervisor "per_consumer_descriptor_base"
      let controlBase ← supervisorInt32 supervisor "per_consumer_control_base"
      let descriptorRange ← supervisorUint32 supervisor "per_consumer_descriptor_range"
      let controlRange ← supervisorUint32 supervisor "per_consumer_control_range"
      let _ ← supervisorBool supervisor "force_no_shm"
      let forceMode ← supervisorUint32 supervisor "force_mode"
      let _ ← supervisorString supervisor "payload_fallback_uri"
      if descriptorBase ≠ 0 ∧ descriptorRange = 0 then refuseLoad "per_consumer_descriptor_range required"
      else if controlBase ≠ 0 ∧ controlRange = 0 then refuseLoad "per_consumer_control_range required"
      else if forceMode.toUInt8 ≠ 0 ∧ forceMode.toUInt8 ≠ 1 ∧ forceMode.toUInt8 ≠ 2 then
        refuseLoad "supervisor.force_mode invalid"
      else .ok ()
  | _ => refuseLoad "[supervisor] must be a table"

/-- Dynamic streams need a profile and identifiers. -/
def checkDynamic (policies : Policies) (profiles : List Profile) (ranges : List IdRange) : Except String Unit :=
  if policies.allowDynamicStreams then
    if policies.defaultProfile.isEmpty then refuseLoad "default_profile required for dynamic streams"
    else if findProfile profiles policies.defaultProfile = none then refuseLoad "default_profile not found"
    else if ranges = [] then refuseLoad "stream_id_range required for dynamic streams"
    else .ok ()
  else .ok ()

/-- A period without a minimum age sets the age to three periods. -/
def gcMinAge (policies : Policies) : UInt64 :=
  if policies.announcePeriodMs > 0 ∧ policies.epochGcMinAgeNs = 0 then
    3 * policies.announcePeriodMs.toUInt64 * 1000000
  else policies.epochGcMinAgeNs

/-- The loaded configuration has fields that only its clients read. -/
structure LoadedConfig where
  driver : DriverSettings
  config : Config
  deriving DecidableEq, Repr

/--
This is `tp_driver_config_load` on the outcome of the parser.
`finalizes` stands for `tp_context_finalize_allowed_paths`; without allowed directories the base is the only one.
-/
def configLoad (finalizes : List String → Except String Unit) (parsed : Except String Datum) :
    Except String LoadedConfig := do
  let document ← parsed.mapError ("tp_driver_config_load: " ++ ·)
  let driver ← loadDriver (document.get "driver")
  let shm ← loadShm (document.get "shm")
  let policies ← loadPolicies (document.get "policies")
  let profiles ← loadProfiles (document.get "profiles")
  let streams ← loadStreams profiles (document.get "streams")
  loadSupervisor (document.get "supervisor")
  checkDynamic policies profiles driver.streamIdRanges
  finalizes (if shm.allowedBaseDirs = [] then [shm.baseDir] else shm.allowedBaseDirs)
  let config : Config :=
    { shmBaseDir := shm.baseDir, shmNamespace := shm.namespaceName, requireHugepages := shm.requireHugepages,
      allowDynamicStreams := policies.allowDynamicStreams, defaultProfile := policies.defaultProfile,
      announcePeriodMs := policies.announcePeriodMs, leaseKeepaliveIntervalMs := policies.leaseKeepaliveIntervalMs,
      leaseExpiryGraceIntervals := policies.leaseExpiryGraceIntervals, epochGcEnabled := policies.epochGcEnabled,
      epochGcOnStartup := policies.epochGcOnStartup, epochGcKeep := policies.epochGcKeep,
      epochGcMinAgeNs := gcMinAge policies, nodeIdReuseCooldownMs := policies.nodeIdReuseCooldownMs,
      streamIdRanges := driver.streamIdRanges, profiles, streams }
  return { driver, config }

/-- A profile passes the checks of the loader. -/
structure Profile.Sound (profile : Profile) : Prop where
  headerNslots : profile.headerNslots ≠ 0 ∧ profile.headerNslots &&& (profile.headerNslots - 1) = 0
  pools : profile.pools ≠ []
  distinct : (profile.pools.map PoolDef.poolId).Nodup
  poolId : ∀ pool ∈ profile.pools, pool.poolId ≠ 0
  strideBytes : ∀ pool ∈ profile.pools, pool.strideBytes ≠ 0 ∧ pool.strideBytes % 64 = 0

/-- A configuration passes the checks of the loader. -/
structure Config.Sound (config : Config) : Prop where
  baseDir : Char.ofNat 0 ∉ config.shmBaseDir.toList
  profiles : ∀ profile ∈ config.profiles, profile.Sound
  streams : ∀ stream ∈ config.streams, stream.streamId ≠ 0 ∧
    ∃ profile ∈ config.profiles, stream.profile = some profile
  distinct : (config.streams.map StreamDef.streamId).Nodup
  dynamic : config.allowDynamicStreams = true →
    (∃ profile, findDefaultProfile config = some profile) ∧ config.streamIdRanges ≠ []

section Sound

open Shm (bind_ok)

/-- Each result of a pass over a list comes from one of its items. -/
theorem mapM_ok {α β : Type} {each : α → Except String β} {items : List α} {results : List β}
    (passed : items.mapM each = .ok results) : ∀ result ∈ results, ∃ item ∈ items, each item = .ok result := by
  induction items generalizing results with
  | nil =>
      cases passed
      intro result absent
      cases absent
  | cons item items hypothesis =>
      rw [List.mapM_cons] at passed
      obtain ⟨first, here, later⟩ := bind_ok.mp passed
      obtain ⟨others, rest, same⟩ := bind_ok.mp later
      cases same
      intro result member
      rcases List.mem_cons.mp member with rfl | inside
      · exact ⟨item, List.mem_cons_self, here⟩
      · obtain ⟨found, present, shown⟩ := hypothesis rest result inside
        exact ⟨found, List.mem_cons_of_mem _ present, shown⟩

/-- A string of C holds no null letter. -/
theorem cString_plain (text : String) : Char.ofNat 0 ∉ (cString text).toList := by
  intro present
  rw [cString, String.toList_ofList] at present
  have kept := List.mem_takeWhile_imp present
  simp at kept

/-- A required string holds no null letter. -/
theorem copyString_required {size : Nat} {old name text : String} {datum : Datum}
    (copied : copyString size old datum name true = .ok text) : Char.ofNat 0 ∉ text.toList := by
  unfold copyString at copied
  split at copied
  · cases copied
  · split at copied
    · cases copied
    · cases copied
      exact cString_plain _
  · cases copied

/-- A pool has an identifier that is new and a stride in units of 64 bytes. -/
theorem loadPool_ok {before : List PoolDef} {datum : Datum} {pool : PoolDef}
    (loaded : loadPool before datum = .ok pool) :
    pool.poolId ≠ 0 ∧ (pool.strideBytes ≠ 0 ∧ pool.strideBytes % 64 = 0) ∧
      pool.poolId ∉ before.map PoolDef.poolId := by
  unfold loadPool at loaded
  split at loaded
  · obtain ⟨poolId, -, loaded⟩ := bind_ok.mp loaded
    split at loaded
    · cases loaded
    next inRange =>
      obtain ⟨strideBytes, -, loaded⟩ := bind_ok.mp loaded
      split at loaded
      · cases loaded
      next aligned =>
        split at loaded
        · cases loaded
        next fresh =>
          cases loaded
          rw [not_or] at inRange aligned
          refine ⟨?_, ⟨aligned.1, not_not.mp aligned.2⟩, ?_⟩
          · intro zero
            apply inRange.1
            have small : poolId.toNat ≤ 65535 := UInt32.le_iff_toNat_le.mp (UInt32.not_lt.mp inRange.2)
            have number := congrArg UInt16.toNat zero
            rw [UInt32.toNat_toUInt16] at number
            apply UInt32.toNat_inj.mp
            change poolId.toNat % 65536 = 0 at number
            change poolId.toNat = 0
            omega
          · intro known
            obtain ⟨other, member, same⟩ := List.mem_map.mp known
            apply fresh
            rw [List.any_eq_true]
            exact ⟨other, member, beq_iff_eq.mpr same⟩
  · cases loaded

/-- Loaded pools have distinct numbers and aligned strides. -/
theorem loadPools_ok {before pools : List PoolDef} {items : List Datum} (loaded : loadPools before items = .ok pools)
    (distinct : (before.map PoolDef.poolId).Nodup) (sound : ∀ pool ∈ before,
      pool.poolId ≠ 0 ∧ pool.strideBytes ≠ 0 ∧ pool.strideBytes % 64 = 0) :
    (pools.map PoolDef.poolId).Nodup ∧ pools.length = before.length + items.length ∧ ∀ pool ∈ pools,
      pool.poolId ≠ 0 ∧ pool.strideBytes ≠ 0 ∧ pool.strideBytes % 64 = 0 := by
  induction items generalizing before with
  | nil =>
      cases loaded
      exact ⟨distinct, rfl, sound⟩
  | cons datum rest hypothesis =>
      obtain ⟨pool, here, later⟩ := bind_ok.mp loaded
      obtain ⟨nonzero, aligned, fresh⟩ := loadPool_ok here
      have longer := hypothesis later ?_ ?_
      · obtain ⟨ids, length, all⟩ := longer
        rw [List.length_append, List.length_singleton] at length
        exact ⟨ids, by rw [length, List.length_cons]; omega, all⟩
      · rw [List.map_append, List.map_singleton, ← List.concat_eq_append]
        exact List.Nodup.concat fresh distinct
      · intro other member
        rcases List.mem_append.mp member with old | last
        · exact sound other old
        · rw [List.mem_singleton.mp last]
          exact ⟨nonzero, aligned⟩

/-- A validated count is a power of two. -/
theorem validatePow2_ok {value : UInt32} {name : String} (valid : validatePow2 value name = .ok ()) :
    value ≠ 0 ∧ value &&& (value - 1) = 0 := by
  unfold validatePow2 at valid
  split at valid
  · cases valid
  next power =>
    rw [not_or, not_not] at power
    exact power

/-- A loaded profile is sound. -/
theorem loadProfile_ok {entry : String × Datum} {profile : Profile} (loaded : loadProfile entry = .ok profile) :
    profile.Sound := by
  unfold loadProfile at loaded
  split at loaded
  · obtain ⟨headerNslots, -, loaded⟩ := bind_ok.mp loaded
    obtain ⟨_, power, loaded⟩ := bind_ok.mp loaded
    split at loaded
    next first rest _ =>
      obtain ⟨pools, read, same⟩ := bind_ok.mp loaded
      cases same
      obtain ⟨distinct, length, sound⟩ := loadPools_ok read List.nodup_nil (List.forall_mem_nil _)
      refine ⟨validatePow2_ok power, ?_, distinct, fun pool member => (sound pool member).1,
        fun pool member => (sound pool member).2⟩
      intro empty
      dsimp only at empty
      rw [empty, List.length_nil, List.length_cons] at length
      omega
    · cases loaded
  · cases loaded

/-- All loaded profiles are sound. -/
theorem loadProfiles_ok {datum : Datum} {profiles : List Profile} (loaded : loadProfiles datum = .ok profiles) :
    ∀ profile ∈ profiles, profile.Sound := by
  unfold loadProfiles at loaded
  split at loaded
  · cases loaded
  · cases loaded
  · intro profile member
    obtain ⟨entry, -, read⟩ := mapM_ok loaded profile member
    exact loadProfile_ok read
  · cases loaded

/-- A loaded stream has a new number and a known profile. -/
theorem loadStream_ok {profiles : List Profile} {before : List StreamDef} {datum : Datum} {stream : StreamDef}
    (loaded : loadStream profiles before datum = .ok stream) :
    (stream.streamId ≠ 0 ∧ ∃ profile ∈ profiles, stream.profile = some profile) ∧
      stream.streamId ∉ before.map StreamDef.streamId := by
  unfold loadStream at loaded
  split at loaded
  · obtain ⟨streamId, -, loaded⟩ := bind_ok.mp loaded
    split at loaded
    · cases loaded
    next nonzero =>
      obtain ⟨profileName, -, loaded⟩ := bind_ok.mp loaded
      split at loaded
      · cases loaded
      next profile found =>
        split at loaded
        · cases loaded
        next fresh =>
          cases loaded
          refine ⟨⟨nonzero, profile, List.mem_of_find?_eq_some found, rfl⟩, ?_⟩
          intro known
          obtain ⟨other, member, same⟩ := List.mem_map.mp known
          apply fresh
          rw [List.any_eq_true]
          exact ⟨other, member, beq_iff_eq.mpr same⟩
  · cases loaded

/-- Loaded streams have distinct numbers and known profiles. -/
theorem loadStreamEntries_ok {profiles : List Profile} {before streams : List StreamDef}
    {entries : List (String × Datum)} (loaded : loadStreamEntries profiles before entries = .ok streams)
    (distinct : (before.map StreamDef.streamId).Nodup) (sound : ∀ stream ∈ before, stream.streamId ≠ 0 ∧
      ∃ profile ∈ profiles, stream.profile = some profile) :
    (streams.map StreamDef.streamId).Nodup ∧ ∀ stream ∈ streams, stream.streamId ≠ 0 ∧
      ∃ profile ∈ profiles, stream.profile = some profile := by
  induction entries generalizing before with
  | nil =>
      cases loaded
      exact ⟨distinct, sound⟩
  | cons entry rest hypothesis =>
      obtain ⟨stream, here, later⟩ := bind_ok.mp loaded
      obtain ⟨known, fresh⟩ := loadStream_ok here
      apply hypothesis later
      · rw [List.map_append, List.map_singleton, ← List.concat_eq_append]
        exact List.Nodup.concat fresh distinct
      · intro other member
        rcases List.mem_append.mp member with old | last
        · exact sound other old
        · rw [List.mem_singleton.mp last]
          exact known

/-- The streams of a file have distinct numbers and known profiles. -/
theorem loadStreams_ok {profiles : List Profile} {datum : Datum} {streams : List StreamDef}
    (loaded : loadStreams profiles datum = .ok streams) :
    (streams.map StreamDef.streamId).Nodup ∧ ∀ stream ∈ streams, stream.streamId ≠ 0 ∧
      ∃ profile ∈ profiles, stream.profile = some profile := by
  unfold loadStreams at loaded
  split at loaded
  · cases loaded
    exact ⟨List.nodup_nil, List.forall_mem_nil _⟩
  · exact loadStreamEntries_ok loaded List.nodup_nil (List.forall_mem_nil _)
  · cases loaded

/-- The loaded directory holds no null letter. -/
theorem loadShm_ok {datum : Datum} {shm : ShmSettings} (loaded : loadShm datum = .ok shm) :
    Char.ofNat 0 ∉ shm.baseDir.toList := by
  unfold loadShm at loaded
  split at loaded
  · obtain ⟨baseDir, copied, loaded⟩ := bind_ok.mp loaded
    obtain ⟨_, -, _, -, _, -, _, -, _, -, same⟩ := by simpa only [bind_ok] using loaded
    cases same
    exact copyString_required copied
  · cases loaded

/-- Dynamic streams have a known default profile and a range. -/
theorem checkDynamic_ok {policies : Policies} {profiles : List Profile} {ranges : List IdRange}
    (checked : checkDynamic policies profiles ranges = .ok ()) (dynamic : policies.allowDynamicStreams = true) :
    policies.defaultProfile.isEmpty = false ∧
      (∃ profile, findProfile profiles policies.defaultProfile = some profile) ∧ ranges ≠ [] := by
  rw [checkDynamic, if_pos dynamic] at checked
  split at checked
  · cases checked
  next named =>
    split at checked
    · cases checked
    next found =>
      split at checked
      · cases checked
      next ranged => exact ⟨by simpa using named, Option.ne_none_iff_exists'.mp found, ranged⟩

/-- Every configuration that is loaded passes the checks of the loader. -/
theorem configLoad_sound {finalizes : List String → Except String Unit} {parsed : Except String Datum}
    {loaded : LoadedConfig} (accepted : configLoad finalizes parsed = .ok loaded) : loaded.config.Sound := by
  simp only [configLoad, bind_ok] at accepted
  obtain ⟨document, -, driver, -, shm, memory, policies, -, profiles, known, streams, read, _, -, _, dynamic, _, -,
    same⟩ := accepted
  cases same
  obtain ⟨distinct, sourced⟩ := loadStreams_ok read
  refine ⟨loadShm_ok memory, loadProfiles_ok known, sourced, distinct, ?_⟩
  intro allowed
  obtain ⟨named, found, ranged⟩ := checkDynamic_ok dynamic allowed
  refine ⟨?_, ranged⟩
  rw [findDefaultProfile, if_neg (by rw [named]; exact Bool.false_ne_true)]
  exact found

end Sound

end TensorPool.Driver
