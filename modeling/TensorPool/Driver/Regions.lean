/-
This file names, creates and collects the region files of a stream.
-/

import Mathlib.Data.List.Basic
import TensorPool.Driver.Types

namespace TensorPool.Driver

/-- This is `strlen` on a string without a null byte. -/
def strlen (text : String) : Nat := text.utf8ByteSize

/-- This is `TP_URI_MAX_LENGTH`, the size of every path and URI buffer. -/
def uriMaxLength : Nat := 4096

/-- This is `isalnum` in the C locale, with the two extra characters that the driver allows. -/
def componentChar (c : Char) : Bool := c.isAlphanum || c == '-' || c == '_'

/-- This is `tp_driver_sanitize_component` on its buffer of 128 bytes. -/
def sanitizeComponent (input : String) : String :=
  String.ofList ((input.toList.take 127).map fun c => if componentChar c then c else '_')

/-- This is `tp_driver_validate_namespace`. -/
def validateNamespace (name : String) : Bool :=
  !name.isEmpty && name.toList.all componentChar

/-- The path names the user, or `unknown` when there is no usable name. -/
def userComponent (o : Oracle) : String :=
  let name := sanitizeComponent (o.user.getD "unknown")
  if name.isEmpty then "unknown" else name

def regionFileName (regionType : RegionType) (poolId : UInt16) : String :=
  match regionType with
  | .headerRing => "header.ring"
  | .payloadPool => s!"{poolId.toNat}.pool"

/-- Every path starts with an absolute base and a checked namespace. -/
def pathRoot (o : Oracle) (config : Config) : Option String :=
  if config.shmBaseDir.toList.head? ≠ some '/' then none
  else if !validateNamespace config.shmNamespace then none
  else some s!"{config.shmBaseDir}/tensorpool-{userComponent o}/{config.shmNamespace}"

/-- A rendering that does not fit its buffer is an error. -/
def fitted (text : String) : Option String :=
  if strlen text ≥ uriMaxLength then none else some text

/-- This is `tp_driver_build_region_path`. -/
def buildRegionPath (o : Oracle) (config : Config) (streamId : UInt32) (epoch : UInt64)
    (poolId : UInt16) (regionType : RegionType) : Option String := do
  let root ← pathRoot o config
  fitted s!"{root}/{streamId.toNat}/{epoch.toNat}/{regionFileName regionType poolId}"

/-- This is `tp_driver_build_stream_dir`. -/
def buildStreamDir (o : Oracle) (config : Config) (streamId : UInt32) : Option String := do
  let root ← pathRoot o config
  fitted s!"{root}/{streamId.toNat}"

/-- This is `tp_driver_build_epoch_dir`. -/
def buildEpochDir (o : Oracle) (config : Config) (streamId : UInt32) (epoch : UInt64) :
    Option String := do
  let dir ← buildStreamDir o config streamId
  fitted s!"{dir}/{epoch.toNat}"

/-- This is `tp_driver_build_region_uri`. -/
def buildRegionUri (o : Oracle) (config : Config) (streamId : UInt32) (epoch : UInt64)
    (poolId : UInt16) (regionType : RegionType) (requireHugepages : Bool) : Option String := do
  let path ← buildRegionPath o config streamId epoch poolId regionType
  let flag := if requireHugepages then "true" else "false"
  fitted s!"shm:file?path={path}|require_hugepages={flag}"

/--
This is `tp_driver_create_region_file`.
One answer stands for all its system calls, from `mkdir` to `fsync`.
-/
def createRegionFile (o : Oracle) (config : Config) (file : RegionFile) (w : World) : Bool × World :=
  match buildRegionPath o config file.streamId file.epoch file.poolId file.regionType with
  | none => (false, w.record (.regionFailed file))
  | some _ =>
      if o.writesRegion w.calls then (true, w.called.record (.regionCreated file))
      else (false, w.called.record (.regionFailed file))

/-- The header ring comes first, then one file for each pool of the profile. -/
def epochFiles (stream : StreamState) (profile : Profile) : List RegionFile :=
  { streamId := stream.streamId, epoch := stream.epoch, regionType := .headerRing, poolId := 0,
    nslots := profile.headerNslots, slotBytes := headerSlotBytes, strideBytes := 0 } ::
  profile.pools.map fun pool =>
    { streamId := stream.streamId, epoch := stream.epoch, regionType := .payloadPool,
      poolId := pool.poolId, nslots := profile.headerNslots, slotBytes := nullU32,
      strideBytes := pool.strideBytes }

/-- The creation stops at the first file that fails. -/
def createRegionFiles (o : Oracle) (config : Config) : List RegionFile → World → Bool × World
  | [], w => (true, w)
  | file :: rest, w =>
      match createRegionFile o config file w with
      | (false, w) => (false, w)
      | (true, w) => createRegionFiles o config rest w

/-- This is `isspace` in the C locale. -/
def spaceChar (c : Char) : Bool := c == ' ' || (9 ≤ c.toNat && c.toNat ≤ 13)

/-- This is the decimal form that `strtoull` reads, with its clamping and its sign. -/
def strtoullDigits (digits : List Char) : Option Nat :=
  if digits.isEmpty || !digits.all Char.isDigit then none
  else some (digits.foldl (fun value digit => 10 * value + (digit.toNat - '0'.toNat)) 0)

/-- The driver skips a name that `strtoull` does not read to its end. -/
def parseEpoch (name : String) : Option UInt64 :=
  match name.toList.dropWhile spaceChar with
  | '-' :: digits => (strtoullDigits digits).map fun value =>
      if value < 2 ^ 64 then 0 - UInt64.ofNat value else 0xFFFFFFFFFFFFFFFF
  | '+' :: digits => (strtoullDigits digits).map fun value =>
      if value < 2 ^ 64 then UInt64.ofNat value else 0xFFFFFFFFFFFFFFFF
  | digits => (strtoullDigits digits).map fun value =>
      if value < 2 ^ 64 then UInt64.ofNat value else 0xFFFFFFFFFFFFFFFF

/-- An entry counts when it is a directory named by an epoch other than the current one. -/
def staleEpoch (dir : String) (current : UInt64) (entry : DirEntry) : Option UInt64 :=
  if entry.name.toList.head? = some '.' then none
  else match parseEpoch entry.name with
    | none => none
    | some epoch =>
        if epoch = current then none
        else if (fitted s!"{dir}/{entry.name}").isNone then none
        else if entry.isDirectory = some true then some epoch
        else none

/-- The scan ends early when its array of epochs cannot grow. -/
def collectEpochs (o : Oracle) (dir : String) (current : UInt64) :
    List DirEntry → List UInt64 → Nat → World → List UInt64 × World
  | [], epochs, _, w => (epochs, w)
  | entry :: rest, epochs, capacity, w =>
      match staleEpoch dir current entry with
      | none => collectEpochs o dir current rest epochs capacity w
      | some epoch =>
          if epochs.length = capacity then
            if o.reallocates w.calls then
              collectEpochs o dir current rest (epochs ++ [epoch])
                (if capacity = 0 then 8 else capacity * 2) w.called
            else (epochs, w.called)
          else collectEpochs o dir current rest (epochs ++ [epoch]) capacity w

/--
This is `tp_driver_remove_epoch_dir`.
The files are unlinked whatever the answer of `rmdir`, which keeps a directory that holds something else.
-/
def removeEpochDir (o : Oracle) (config : Config) (streamId : UInt32) (epoch : UInt64) (w : World) :
    World :=
  match buildEpochDir o config streamId epoch with
  | none => w
  | some _ => w.called.record (.epochRemoved streamId epoch (o.removesDir w.calls))

/-- A directory younger than the minimum age stays. -/
def collectEpoch (o : Oracle) (config : Config) (streamId : UInt32) (dir : String) (now : UInt64)
    (w : World) (epoch : UInt64) : World :=
  if (fitted s!"{dir}/{epoch.toNat}").isNone then w
  else match o.modified w.calls with
    | none => w.called
    | some modifiedNs =>
        if config.epochGcMinAgeNs > 0 ∧ now - modifiedNs < config.epochGcMinAgeNs then w.called
        else removeEpochDir o config streamId epoch w.called

/-- This is `tp_driver_gc_stream`; its caller ignores the result. -/
def gcStream (o : Oracle) (config : Config) (stream : StreamState) (w : World) : World :=
  let now := o.clock w.calls
  let w := w.called
  if !config.epochGcEnabled || config.epochGcKeep = 0 then w
  else match buildStreamDir o config stream.streamId with
    | none => w
    | some dir =>
        match o.listing w.calls with
        | none => w.called
        | some entries =>
            let (epochs, w) := collectEpochs o dir stream.epoch entries [] 0 w.called
            let keepOld := config.epochGcKeep.toNat - 1
            let sorted := epochs.mergeSort fun left right => left ≤ right
            (sorted.take (epochs.length - keepOld)).foldl
              (collectEpoch o config stream.streamId dir now) w

/-- This is `tp_driver_create_shm_epoch`. -/
def createShmEpoch (o : Oracle) (config : Config) (stream : StreamState) (w : World) :
    Bool × StreamState × World :=
  match stream.profile with
  | none => (false, stream, w)
  | some profile =>
      match createRegionFiles o config (epochFiles stream profile) w with
      | (false, w) => (false, stream, w)
      | (true, w) =>
          let stream := { stream with epochCreatedNs := o.clock w.calls }
          let w := w.called
          if config.epochGcEnabled then (true, stream, gcStream o config stream w)
          else (true, stream, w)

/-- This is `tp_driver_bump_epoch`; the increment wraps at 64 bits. -/
def bumpEpoch (o : Oracle) (stream : StreamState) (w : World) : StreamState × World :=
  let now := o.clock w.calls
  let stream := if now ≤ stream.epoch then { stream with epoch := stream.epoch + 1 }
    else { stream with epoch := now }
  (stream, w.called.record (.epochBumped stream.streamId stream.epoch))

end TensorPool.Driver
