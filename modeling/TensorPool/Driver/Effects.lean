/-
This file says what each helper of the driver adds to the log.
-/

import TensorPool.Driver.View
import TensorPool.Library.Journal

namespace TensorPool.Driver

/-- The world makes calls and logs only events that `allowed` admits. -/
structure World.Grows (allowed : Event → Prop) (w w' : World) : Prop where
  calls : w.calls ≤ w'.calls
  log : Journal.Grows allowed w.log w'.log

namespace World.Grows

variable {allowed allowed' : Event → Prop} {w w' w'' : World}

theorem refl (allowed : Event → Prop) (w : World) : Grows allowed w w :=
  ⟨Nat.le_refl _, .refl allowed w.log⟩

theorem trans (first : Grows allowed w w') (second : Grows allowed w' w'') : Grows allowed w w'' :=
  ⟨Nat.le_trans first.calls second.calls, first.log.trans second.log⟩

theorem mono (weaker : ∀ event, allowed event → allowed' event) (growth : Grows allowed w w') :
    Grows allowed' w w' := ⟨growth.calls, growth.log.mono weaker⟩

theorem called (allowed : Event → Prop) (w : World) : Grows allowed w w.called :=
  ⟨Nat.le_succ _, .refl allowed w.log⟩

theorem record {event : Event} (admitted : allowed event) (w : World) :
    Grows allowed w (w.record event) := ⟨Nat.le_refl _, .push event admitted⟩

theorem call_record {event : Event} (admitted : allowed event) (w : World) :
    Grows allowed w (w.called.record event) := (called allowed w).trans (record admitted w.called)

end World.Grows

/-- The regions of an epoch are written by its creation and never removed as stale. -/
inductive RegionEvent (streamId : UInt32) (epoch : UInt64) (files : List RegionFile) : Event → Prop
  | created (file : RegionFile) (member : file ∈ files) : RegionEvent streamId epoch files (.regionCreated file)
  | failed (file : RegionFile) (member : file ∈ files) : RegionEvent streamId epoch files (.regionFailed file)
  | removed (stale : UInt64) (different : stale ≠ epoch) (complete : Bool) :
      RegionEvent streamId epoch files (.epochRemoved streamId stale complete)

/-- A creation logs its success or its failure. -/
theorem createRegionFile_log (o : Oracle) (config : Config) (file : RegionFile) (w : World) :
    w.calls ≤ (createRegionFile o config file w).2.calls ∧
      (createRegionFile o config file w).2.log = w.log ++
        [if (createRegionFile o config file w).1 then .regionCreated file else .regionFailed file] := by
  unfold createRegionFile
  split
  · simp
  · split <;> simp

/-- A successful creation of several files logs each of them. -/
theorem createRegionFiles_success {o : Oracle} {config : Config} {files : List RegionFile} {w w' : World}
    (created : createRegionFiles o config files w = (true, w')) :
    w.calls ≤ w'.calls ∧ w'.log = w.log ++ files.map Event.regionCreated := by
  induction files generalizing w with
  | nil => simp_all [createRegionFiles]
  | cons file rest hypothesis =>
      obtain ⟨grown, logged⟩ := createRegionFile_log o config file w
      unfold createRegionFiles at created
      rcases result : createRegionFile o config file w with ⟨_ | _, middle⟩ <;> rw [result] at created grown logged
      · cases created
      · obtain ⟨later, tail⟩ := hypothesis created
        refine ⟨Nat.le_trans grown later, ?_⟩
        rw [tail, logged]
        simp

/-- A failed creation logs the file that stopped it. -/
theorem createRegionFiles_failure {o : Oracle} {config : Config} {files : List RegionFile} {w w' : World}
    (stopped : createRegionFiles o config files w = (false, w')) :
    w.calls ≤ w'.calls ∧ ∃ made file rest, files = made ++ file :: rest ∧
      w'.log = w.log ++ made.map Event.regionCreated ++ [.regionFailed file] := by
  induction files generalizing w with
  | nil => simp [createRegionFiles] at stopped
  | cons file rest hypothesis =>
      obtain ⟨grown, logged⟩ := createRegionFile_log o config file w
      unfold createRegionFiles at stopped
      rcases result : createRegionFile o config file w with ⟨_ | _, middle⟩ <;> rw [result] at stopped grown logged
      · cases stopped
        exact ⟨grown, [], file, rest, rfl, by simpa using logged⟩
      · obtain ⟨later, made, bad, tail, split, log⟩ := hypothesis stopped
        refine ⟨Nat.le_trans grown later, file :: made, bad, tail, by rw [split]; rfl, ?_⟩
        rw [log, logged]
        simp

/-- The scan never gathers the current epoch. -/
theorem collectEpochs_stale (o : Oracle) (dir : String) {current : UInt64} (entries : List DirEntry)
    {epochs : List UInt64} (capacity : Nat) (w : World) (others : ∀ epoch ∈ epochs, epoch ≠ current) :
    (∀ epoch ∈ (collectEpochs o dir current entries epochs capacity w).1, epoch ≠ current) ∧
      w.calls ≤ (collectEpochs o dir current entries epochs capacity w).2.calls ∧
      (collectEpochs o dir current entries epochs capacity w).2.log = w.log := by
  induction entries generalizing epochs capacity w with
  | nil => exact ⟨others, Nat.le_refl _, rfl⟩
  | cons entry rest hypothesis =>
      unfold collectEpochs
      split
      · exact hypothesis capacity w others
      next epoch stale =>
        have extended : ∀ item ∈ epochs ++ [epoch], item ≠ current := by
          intro item member
          rcases List.mem_append.mp member with old | new
          · exact others item old
          · rw [List.mem_singleton.mp new]
            unfold staleEpoch at stale
            grind
        split
        · split
          · obtain ⟨stales, calls, log⟩ := hypothesis (if capacity = 0 then 8 else capacity * 2) w.called extended
            exact ⟨stales, Nat.le_trans (Nat.le_succ _) calls, log⟩
          · exact ⟨others, Nat.le_succ _, rfl⟩
        · exact hypothesis capacity w extended

/-- A collected directory is that of its epoch. -/
theorem collectEpoch_grows {o : Oracle} {config : Config} {streamId : UInt32} {dir : String}
    {now epoch current : UInt64} {files : List RegionFile} (stale : epoch ≠ current) (w : World) :
    World.Grows (RegionEvent streamId current files) w (collectEpoch o config streamId dir now w epoch) := by
  unfold collectEpoch
  split
  · exact .refl _ w
  · split
    · exact .called _ w
    · split
      · exact .called _ w
      · unfold removeEpochDir
        split
        · exact .called _ w
        · exact (World.Grows.called _ w).trans (.call_record (.removed epoch stale _) w.called)

/-- The collection removes directories of other epochs only. -/
theorem gcStream_grows (o : Oracle) (config : Config) (stream : StreamState) (files : List RegionFile)
    (w : World) :
    World.Grows (RegionEvent stream.streamId stream.epoch files) w (gcStream o config stream w) := by
  have reading := World.Grows.called (RegionEvent stream.streamId stream.epoch files) w
  unfold gcStream
  dsimp only
  split
  · exact reading
  · split
    · exact reading
    next dir _ =>
      split
      · exact reading.trans (.called _ _)
      next entries _ =>
        obtain ⟨stales, calls, log⟩ := collectEpochs_stale o dir entries 0 w.called.called
          (List.forall_mem_nil fun epoch => epoch ≠ stream.epoch)
        have gathered : World.Grows (RegionEvent stream.streamId stream.epoch files) w
            (collectEpochs o dir stream.epoch entries [] 0 w.called.called).2 :=
          ⟨(by simp at calls ⊢; omega), by rw [log]; exact .refl _ _⟩
        refine List.foldlRecOn _ _ gathered fun middle growth epoch member => ?_
        have old := stales epoch (List.mem_mergeSort.mp (List.mem_of_mem_take member))
        exact growth.trans (collectEpoch_grows old middle)

/-- A created epoch has all its files in the log, and its directory stays. -/
theorem createShmEpoch_success {o : Oracle} {config : Config} {stream stream' : StreamState}
    {w w' : World} (created : createShmEpoch o config stream w = (true, stream', w')) :
    ∃ profile middle, stream.profile = some profile ∧ w.calls ≤ middle.calls ∧
      middle.log = w.log ++ (epochFiles stream profile).map Event.regionCreated ∧
      World.Grows (RegionEvent stream.streamId stream.epoch []) middle w' := by
  unfold createShmEpoch at created
  split at created
  · cases created
  next profile known =>
    split at created
    · cases created
    next middle files =>
      obtain ⟨calls, log⟩ := createRegionFiles_success files
      refine ⟨profile, middle, known, calls, log, ?_⟩
      dsimp only at created
      split at created <;> cases created
      · exact (World.Grows.called _ middle).trans
          (gcStream_grows o config { stream with epochCreatedNs := o.clock middle.calls } [] middle.called)
      · exact .called _ middle

/-- A failed creation of a profile's epoch logs a file that failed. -/
theorem createShmEpoch_failure {o : Oracle} {config : Config} {stream stream' : StreamState}
    {w w' : World} {profile : Profile} (known : stream.profile = some profile)
    (stopped : createShmEpoch o config stream w = (false, stream', w')) :
    w.calls ≤ w'.calls ∧ ∃ made file rest, epochFiles stream profile = made ++ file :: rest ∧
      w'.log = w.log ++ made.map Event.regionCreated ++ [.regionFailed file] := by
  unfold createShmEpoch at stopped
  rw [known] at stopped
  dsimp only at stopped
  split at stopped
  next files =>
    cases stopped
    exact createRegionFiles_failure files
  next files => split at stopped <;> cases stopped

/-- A creation changes only a time stamp of its stream. -/
theorem createShmEpoch_stream (o : Oracle) (config : Config) (stream : StreamState) (w : World) :
    ∃ createdNs, (createShmEpoch o config stream w).2.1 = { stream with epochCreatedNs := createdNs } := by
  unfold createShmEpoch
  split
  · exact ⟨stream.epochCreatedNs, rfl⟩
  · split
    · exact ⟨stream.epochCreatedNs, rfl⟩
    next middle _ => dsimp only; split <;> exact ⟨o.clock middle.calls, rfl⟩

/-- A file of an epoch carries the stream and the epoch. -/
theorem epochFiles_identity {stream : StreamState} {profile : Profile} {file : RegionFile}
    (member : file ∈ epochFiles stream profile) :
    file.streamId = stream.streamId ∧ file.epoch = stream.epoch := by
  simp only [epochFiles, List.mem_cons, List.mem_map] at member
  rcases member with rfl | ⟨pool, -, rfl⟩ <;> exact ⟨rfl, rfl⟩

/-- The files of an epoch, or none of them without a profile. -/
def StreamState.files (stream : StreamState) : List RegionFile :=
  match stream.profile with
  | none => []
  | some profile => epochFiles stream profile

/-- Every outcome of a creation logs only region events of its epoch. -/
theorem createShmEpoch_grows (o : Oracle) (config : Config) (stream : StreamState) (w : World) :
    World.Grows (RegionEvent stream.streamId stream.epoch stream.files) w
      (createShmEpoch o config stream w).2.2 := by
  rcases result : createShmEpoch o config stream w with ⟨_ | _, stream', w'⟩
  · rcases known : stream.profile with _ | profile
    · unfold createShmEpoch at result
      rw [known] at result
      cases result
      exact .refl _ w
    · obtain ⟨calls, made, file, rest, split, log⟩ := createShmEpoch_failure known result
      refine ⟨calls, made.map Event.regionCreated ++ [.regionFailed file], by simpa using log, ?_⟩
      intro event member
      have files : stream.files = made ++ file :: rest := by rw [StreamState.files, known, ← split]
      rcases List.mem_append.mp member with inMade | last
      · obtain ⟨item, inside, rfl⟩ := List.mem_map.mp inMade
        exact .created item (by rw [files]; simp [inside])
      · rw [List.mem_singleton.mp last]
        exact .failed file (by rw [files]; simp)
  · obtain ⟨profile, middle, known, calls, log, growth⟩ := createShmEpoch_success result
    have files : stream.files = epochFiles stream profile := by rw [StreamState.files, known]
    refine World.Grows.trans ⟨calls, _, log, ?_⟩ (growth.mono fun event admitted => ?_)
    · intro event member
      obtain ⟨file, inside, rfl⟩ := List.mem_map.mp member
      exact .created file (files ▸ inside)
    · cases admitted with
      | created file member => cases member
      | failed file member => cases member
      | removed stale different complete => exact .removed stale different complete

/-- A creation whose paths exist and whose writes succeed completes. -/
theorem createRegionFiles_pass {o : Oracle} {config : Config} (written : ∀ call, o.writesRegion call = true)
    (files : List RegionFile) (w : World)
    (named : ∀ file ∈ files, (buildRegionPath o config file.streamId file.epoch file.poolId
      file.regionType).isSome = true) : ∃ w', createRegionFiles o config files w = (true, w') := by
  induction files generalizing w with
  | nil => exact ⟨w, rfl⟩
  | cons file rest hypothesis =>
      obtain ⟨path, found⟩ := Option.isSome_iff_exists.mp (named file (by simp))
      have created : createRegionFile o config file w = (true, w.called.record (.regionCreated file)) := by
        rw [createRegionFile, found]
        dsimp only
        rw [if_pos (written w.calls)]
      rw [createRegionFiles, created]
      exact hypothesis _ fun other member => named other (by simp [member])

theorem createShmEpoch_pass {o : Oracle} {config : Config} (written : ∀ call, o.writesRegion call = true)
    (kept : config.epochGcEnabled = false) {stream : StreamState} {profile : Profile} (w : World)
    (known : stream.profile = some profile) (named : ∀ file ∈ epochFiles stream profile,
      (buildRegionPath o config file.streamId file.epoch file.poolId file.regionType).isSome = true) :
    ∃ createdNs w', createShmEpoch o config stream w =
      (true, { stream with epochCreatedNs := createdNs }, w') := by
  obtain ⟨middle, files⟩ := createRegionFiles_pass written (epochFiles stream profile) w named
  refine ⟨o.clock middle.calls, middle.called, ?_⟩
  rw [createShmEpoch, known]
  dsimp only
  rw [files]
  dsimp only
  rw [kept, if_neg (by decide)]

/-- This is the epoch that a bump reaches. -/
def nextEpoch (now epoch : UInt64) : UInt64 := if now ≤ epoch then epoch + 1 else now

theorem bumpEpoch_eq (o : Oracle) (stream : StreamState) (w : World) :
    bumpEpoch o stream w =
      ({ stream with epoch := nextEpoch (o.clock w.calls) stream.epoch },
        w.called.record (.epochBumped stream.streamId (nextEpoch (o.clock w.calls) stream.epoch))) := by
  unfold bumpEpoch nextEpoch
  dsimp only
  split <;> rfl

/-- A bump goes up unless the epoch is the last one. -/
theorem lt_nextEpoch {now epoch : UInt64} (room : epoch.toNat + 1 < 2 ^ 64) : epoch < nextEpoch now epoch := by
  unfold nextEpoch
  rw [UInt64.lt_iff_toNat_lt]
  split
  · rw [UInt64.toNat_add, UInt64.toNat_one]
    omega
  next late => exact UInt64.lt_iff_toNat_lt.mp (UInt64.not_le.mp late)

/-- A bumped epoch is bounded by the reading of the clock and the epoch before it. -/
theorem nextEpoch_le {now epoch : UInt64} (room : epoch.toNat + 1 < 2 ^ 64) :
    (nextEpoch now epoch).toNat ≤ max now.toNat (epoch.toNat + 1) := by
  unfold nextEpoch
  split
  · rw [UInt64.toNat_add, UInt64.toNat_one]
    omega
  · omega

/-- A control message logs its offer. -/
theorem sendControl_grows {allowed : Event → Prop} {o : Oracle} {message : Message} {w : World}
    (admitted : ∀ result, allowed (.offered message result)) :
    World.Grows allowed w (sendControl o message w).2 := .call_record (admitted _) w

/-- A pool is encoded when its block fits and its URI can be built, and then the others follow. -/
theorem encodePools_cons {limit : Nat} {nslots : UInt32} {uri : PoolDef → Option String} {pool : PoolDef}
    {rest : List PoolDef} {position after : Nat} {bodies : List PoolBody} :
    encodePools limit nslots uri (pool :: rest) position = some (bodies, after) ↔
      ∃ text others, position + poolBlockLength ≤ limit ∧ uri pool = some text ∧
        encodePools limit nslots uri rest (putVarData limit (position + poolBlockLength) text).2 =
          some (others, after) ∧
        bodies = ⟨pool.poolId, nslots, pool.strideBytes,
          (putVarData limit (position + poolBlockLength) text).1⟩ :: others := by
  rw [encodePools, advance]
  constructor
  · intro encoded
    simp only [Option.bind_eq_bind, Option.bind_eq_some_iff, Option.some.injEq, Prod.exists, Prod.mk.injEq] at encoded
    obtain ⟨moved, fits, text, built, others, _, inner, rfl, rfl⟩ := encoded
    split at fits
    next room =>
      cases fits
      exact ⟨text, others, room, built, inner, rfl⟩
    · cases fits
  · rintro ⟨text, others, room, built, inner, rfl⟩
    rw [if_pos room]
    simp only [Option.bind_eq_bind, Option.bind_some, built, inner]

/-- The regions are encoded when the pools are and the URI of the header ring can be built. -/
theorem encodeRegions_some {o : Oracle} {config : Config} {stream : StreamState} {profile : Profile}
    {requireHugepages : Bool} {start after : Nat} {bodies : List PoolBody} {header : VarAscii} :
    encodeRegions o config stream profile requireHugepages start = some (bodies, header, after) ↔
      ∃ position text, start + groupHeaderLength ≤ bufferLength ∧
        encodePools bufferLength profile.headerNslots (fun pool => buildRegionUri o config stream.streamId
          stream.epoch pool.poolId .payloadPool requireHugepages) profile.pools (start + groupHeaderLength) =
            some (bodies, position) ∧
        buildRegionUri o config stream.streamId stream.epoch 0 .headerRing requireHugepages = some text ∧
        putVarData bufferLength position text = (header, after) := by
  rw [encodeRegions, advance]
  constructor
  · intro encoded
    simp only [Option.bind_eq_bind, Option.bind_eq_some_iff, Option.some.injEq, Prod.exists, Prod.mk.injEq] at encoded
    obtain ⟨moved, fits, _, position, inner, text, built, rfl, put⟩ := encoded
    split at fits
    next room =>
      cases fits
      exact ⟨position, text, room, inner, built, put⟩
    · cases fits
  · rintro ⟨position, text, room, inner, built, put⟩
    rw [if_pos room]
    simp only [Option.bind_eq_bind, Option.bind_some, inner, built, put]

/-- An announce changes only the time of the last announce. -/
theorem sendAnnounce_stream (o : Oracle) (config : Config) (stream : StreamState)
    (requireHugepages : Bool) (w : World) :
    ∃ announcedNs, (sendAnnounce o config stream requireHugepages w).1 =
      { stream with lastAnnounceNs := announcedNs } := by
  unfold sendAnnounce
  dsimp only
  split
  · exact ⟨stream.lastAnnounceNs, rfl⟩
  · exact ⟨o.clock w.calls, rfl⟩

/-- An announce is an encoding of its stream. -/
theorem sendAnnounce_grows {allowed : Event → Prop} {o : Oracle} {config : Config} {stream : StreamState}
    {requireHugepages : Bool} {w : World}
    (admitted : ∀ now announce result, encodeAnnounce o config stream requireHugepages now = some announce →
      allowed (.offered (.poolAnnounce announce) result)) :
    World.Grows allowed w (sendAnnounce o config stream requireHugepages w).2 := by
  unfold sendAnnounce
  dsimp only
  split
  · exact .called _ w
  next announce encoded =>
    exact (World.Grows.called _ w).trans (sendControl_grows fun result => admitted _ _ result encoded)

/-- A revocation names its lease. -/
theorem sendLeaseRevoked_grows {allowed : Event → Prop} {o : Oracle} {lease : Lease}
    {reason : LeaseRevokeReason} {text : String} {w : World}
    (admitted : ∀ notice result, allowed (.offered (.leaseRevoked notice) result)) :
    World.Grows allowed w (sendLeaseRevoked o lease reason text w).2 := by
  unfold sendLeaseRevoked
  exact (World.Grows.called _ w).trans (sendControl_grows fun result => admitted _ result)

theorem sendDetachResponse_grows {allowed : Event → Prop} {o : Oracle} {correlationId : Int}
    {code : ResponseCode} {text : String} {w : World}
    (admitted : ∀ response result, allowed (.offered (.detachResponse response) result)) :
    World.Grows allowed w (sendDetachResponse o correlationId code text w).2 := by
  unfold sendDetachResponse
  exact sendControl_grows fun result => admitted _ result

/-- A refusal carries no regions. -/
theorem sendAttachRefused_grows {allowed : Event → Prop} {o : Oracle} {correlationId : Int}
    {code : ResponseCode} {text : String} {w : World}
    (admitted : ∀ response result, response.body = none →
      allowed (.offered (.attachResponse response) result)) :
    World.Grows allowed w (sendAttachRefused o correlationId code text w).2 := by
  unfold sendAttachRefused
  exact sendControl_grows fun result => admitted _ result rfl

/-- A granted response is an encoding of its stream and its lease. -/
theorem sendAttachGranted_grows {allowed : Event → Prop} {o : Oracle} {config : Config}
    {correlationId : Int} {stream : StreamState} {lease : Lease} {requireHugepages : Bool} {w : World}
    (admitted : ∀ response body position result, response.body = some body →
      encodeAttachBody o config stream lease requireHugepages = some (body, position) →
      allowed (.offered (.attachResponse response) result)) :
    World.Grows allowed w
      (sendAttachGranted o config correlationId stream lease requireHugepages w).2 := by
  unfold sendAttachGranted
  split
  · exact .refl _ w
  next body position encoded => exact sendControl_grows fun result => admitted _ _ _ result rfl encoded

end TensorPool.Driver
