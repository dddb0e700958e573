/-
This file takes the operations on leases and the announces apart into changes.
-/

import TensorPool.Driver.Change

namespace TensorPool.Driver

/-- A viewed stream carries the identifier that finds it. -/
theorem view_identity {s : State} {streamId : UInt32} {stream : StreamState}
    (known : s.view streamId = some stream) : streamId ≠ 0 ∧ stream.streamId = streamId := by
  obtain ⟨index, found, rfl⟩ := view_eq_some.mp known
  exact ⟨(findStream_eq_some.mp found).1, (findStream_inside found).2⟩

/-- A write that keeps the core of its stream keeps the table tidy. -/
theorem Tidy.setStream_core {s : State} (tidy : Tidy s) {index : Nat} {stream : StreamState} (w : World)
    (same : stream.core = (s.streamAt index).core) : Tidy (s.setStream index stream w) := by
  have sameId := StreamState.same_streamId same
  intro place within unfound
  rw [setStream_streams, List.length_set] at within
  rw [setStream_streams, findStream_set sameId] at unfound
  by_cases here : place = index
  · subst here
    rw [streamAt_setStream within] at unfound ⊢
    rw [sameId] at unfound
    have blank := tidy place within unfound
    rw [← StreamState.core_epoch, ← StreamState.core_producerLeaseId,
      ← StreamState.core_producerClientId, same]
    exact blank
  · rw [streamAt_setStream_ne here] at unfound ⊢
    exact tidy place within unfound

/-- The encoded pools repeat the pools of the profile. -/
theorem encodePools_pools {limit : Nat} {nslots : UInt32} {uri : PoolDef → Option String}
    {pools : List PoolDef} {position : Nat} {bodies : List PoolBody} {position' : Nat}
    (encoded : encodePools limit nslots uri pools position = some (bodies, position')) :
    bodies.map (fun body => (body.poolId, body.poolNslots, body.strideBytes)) =
      pools.map fun pool => (pool.poolId, nslots, pool.strideBytes) := by
  induction pools generalizing position bodies position' with
  | nil =>
      cases encoded
      rfl
  | cons pool rest hypothesis =>
      obtain ⟨_, _, -, -, inner, rfl⟩ := encodePools_cons.mp encoded
      rw [List.map_cons, List.map_cons, hypothesis inner]

theorem encodeRegions_pools {o : Oracle} {config : Config} {stream : StreamState} {profile : Profile}
    {requireHugepages : Bool} {position : Nat} {bodies : List PoolBody} {uri : VarAscii} {position' : Nat}
    (encoded : encodeRegions o config stream profile requireHugepages position =
      some (bodies, uri, position')) :
    bodies.map (fun body => (body.poolId, body.poolNslots, body.strideBytes)) =
      profile.pools.map fun pool => (pool.poolId, profile.headerNslots, pool.strideBytes) := by
  obtain ⟨_, _, -, inner, -⟩ := encodeRegions_some.mp encoded
  exact encodePools_pools inner

/-- The fields of an encoding describe the files of its epoch. -/
theorem describedFiles_eq {stream : StreamState} {profile : Profile} {bodies : List PoolBody}
    (same : bodies.map (fun body => (body.poolId, body.poolNslots, body.strideBytes)) =
      profile.pools.map fun pool => (pool.poolId, profile.headerNslots, pool.strideBytes)) :
    describedFiles stream.streamId stream.epoch profile.headerNslots headerSlotBytes bodies =
      epochFiles stream profile := by
  unfold describedFiles epochFiles
  congr 1
  have mapped := congrArg (List.map fun row : UInt16 × UInt32 × UInt32 =>
    ({ streamId := stream.streamId, epoch := stream.epoch, regionType := .payloadPool, poolId := row.1,
       nslots := row.2.1, slotBytes := nullU32, strideBytes := row.2.2 } : RegionFile)) same
  simpa [Function.comp_def] using mapped

/-- An announce describes its stream. -/
theorem encodeAnnounce_advert {o : Oracle} {config : Config} {stream : StreamState}
    {requireHugepages : Bool} {now : UInt64} {announce : PoolAnnounce}
    (encoded : encodeAnnounce o config stream requireHugepages now = some announce) :
    (Message.poolAnnounce announce).advert = some stream.advert := by
  simp only [encodeAnnounce, Option.bind_eq_bind, Option.bind_eq_some_iff, Option.some.injEq,
    Prod.exists] at encoded
  obtain ⟨profile, known, bodies, uri, position, regions, rfl⟩ := encoded
  simp only [Message.advert, StreamState.advert, StreamState.files, known]
  rw [describedFiles_eq (encodeRegions_pools regions)]

/-- A granted response describes its stream. -/
theorem encodeAttachBody_advert {o : Oracle} {config : Config} {stream : StreamState} {lease : Lease}
    {requireHugepages : Bool} {body : AttachBody} {position : Nat} {response : AttachResponse}
    (carried : response.body = some body)
    (encoded : encodeAttachBody o config stream lease requireHugepages = some (body, position)) :
    (Message.attachResponse response).advert = some stream.advert := by
  simp only [encodeAttachBody, Option.bind_eq_bind, Option.bind_eq_some_iff, Option.some.injEq,
    Prod.exists, Prod.mk.injEq] at encoded
  obtain ⟨profile, known, bodies, uri, place, regions, rfl, -⟩ := encoded
  simp only [Message.advert, carried, Option.map_some, StreamState.advert, StreamState.files, known]
  rw [describedFiles_eq (encodeRegions_pools regions)]

/-- An announce of a found and active stream is talk. -/
theorem announce_talk {o : Oracle} {s : State} {streamId : UInt32} {index : Nat} (requireHugepages : Bool)
    (found : findStream s.streams streamId = some index)
    (active : Active s.world.log (s.streamAt index)) :
    Change o .talk s (s.announce o index requireHugepages) := by
  obtain ⟨announcedNs, stream⟩ := sendAnnounce_stream o s.config (s.streamAt index) requireHugepages s.world
  have core : (sendAnnounce o s.config (s.streamAt index) requireHugepages s.world).1.core =
      (s.streamAt index).core := by rw [stream]; rfl
  refine .talk ⟨rfl, rfl, rfl, ?_, fun _ member => .inl member, fun tidy => tidy.setStream_core _ core⟩
    (view_setStream_core _ core)
  refine sendAnnounce_grows fun now announce result encoded => ?_
  exact .advert result (view_found found) active (encodeAnnounce_advert encoded)

/-- A message without regions is talk. -/
theorem revoke_talk (o : Oracle) (lease : Lease) (reason : LeaseRevokeReason) (text : String) (s : State) :
    Change o .talk s (revokeLease o lease reason text s) :=
  .talk (.ofWorld (sendLeaseRevoked_grows fun _ result => .silent result rfl)) (view_congr rfl)

theorem respond_talk (o : Oracle) (request : DetachRequest) (code : ResponseCode) (text : String)
    (s : State) : Change o .talk s (respondDetach o request code text s).2 :=
  .talk (.ofWorld (sendDetachResponse_grows fun _ result => .silent result rfl)) (view_congr rfl)

/-- A reading of the clock is talk. -/
theorem called_talk (o : Oracle) (s : State) : Change o .talk s { s with world := s.world.called } :=
  .talk (.ofWorld (.called _ s.world)) (view_congr rfl)

/-- A bump and a creation together move a found stream to its next epoch. -/
theorem renew_change {o : Oracle} {s : State} {streamId : UInt32} {index : Nat} (requireHugepages : Bool)
    (found : findStream s.streams streamId = some index) :
    let bumped := bumpEpoch o (s.streamAt index) s.world
    let created := createShmEpoch o s.config
      { bumped.1 with requireHugepages := requireHugepages } bumped.2
    Change o (.renew streamId) s (s.setStream index created.2.1 created.2.2) ∧
      created.2.1.core = { (s.streamAt index).core with
        epoch := nextEpoch (o.clock s.world.calls) (s.streamAt index).epoch } ∧
      .epochBumped streamId created.2.1.epoch ∈ created.2.2.log := by
  obtain ⟨inside, same⟩ := findStream_inside found
  rw [bumpEpoch_eq]
  dsimp only
  generalize target : ({ (s.streamAt index) with
    epoch := nextEpoch (o.clock s.world.calls) (s.streamAt index).epoch,
    requireHugepages := requireHugepages } : StreamState) = stream
  generalize before : s.world.called.record (.epochBumped (s.streamAt index).streamId
    (nextEpoch (o.clock s.world.calls) (s.streamAt index).epoch)) = w
  obtain ⟨createdNs, stamped⟩ := createShmEpoch_stream o s.config stream w
  have growth := createShmEpoch_grows o s.config stream w
  have core : (createShmEpoch o s.config stream w).2.1.core = { (s.streamAt index).core with
      epoch := nextEpoch (o.clock s.world.calls) (s.streamAt index).epoch } := by
    rw [stamped, ← target]
    rfl
  have renamed : (createShmEpoch o s.config stream w).2.1.streamId = streamId := by
    rw [stamped, ← target]
    exact same
  obtain ⟨events, log, admitted⟩ := growth.log
  have started : w.log = s.world.log ++ [.epochBumped streamId
      (nextEpoch (o.clock s.world.calls) (s.streamAt index).epoch)] := by
    rw [← before, World.record_log, World.called_log, same]
  have calls : s.world.calls + 1 ≤ (createShmEpoch o s.config stream w).2.2.calls := by
    have later := growth.calls
    rw [← before] at later ⊢
    exact later
  refine ⟨@Change.renew o _ _ streamId _ s.world.calls events (view_found found) ⟨rfl, rfl, rfl⟩
    (fun _ member => .inl member) (fun tidy => tidy.setStream _ found renamed)
    ⟨Nat.le_refl _, calls⟩ (by rw [view_setStream _ found renamed, core]; rfl) ?_ ?_, core, ?_⟩
  · rw [setStream_world, log, started]
    simp
  · have identity : stream.streamId = streamId ∧
        stream.epoch = nextEpoch (o.clock s.world.calls) (s.streamAt index).epoch ∧
        stream.files = ({ (s.streamAt index).core with
          epoch := nextEpoch (o.clock s.world.calls) (s.streamAt index).epoch } : StreamState).files := by
      rw [← target]
      exact ⟨same, rfl, rfl⟩
    rw [identity.1, identity.2.1, identity.2.2] at admitted
    refine ⟨admitted, ?_⟩
    rcases result : createShmEpoch o s.config stream w with ⟨_ | _, stream', w'⟩
    · rcases known : stream.profile with _ | profile
      · have empty : stream.files = [] := by rw [StreamState.files, known]
        rw [identity.2.2] at empty
        refine .inr fun file member => ?_
        exact absurd ((congrArg (file ∈ ·) empty).mp member) List.not_mem_nil
      obtain ⟨-, made, file, rest, split, written⟩ := createShmEpoch_failure known result
      have member : file ∈ epochFiles stream profile := by rw [split]; simp
      have owned := epochFiles_identity member
      refine .inl ⟨file, owned.1.trans identity.1, owned.2.trans identity.2.1, ?_⟩
      rw [result] at log
      rw [log, List.append_assoc, List.append_cancel_left_eq] at written
      rw [written]
      simp
    · obtain ⟨profile', middle, known', -, written, removed⟩ := createShmEpoch_success result
      obtain ⟨later, rest, -⟩ := removed.log
      refine .inr fun file member => ?_
      rw [result] at log
      rw [log, written, List.append_assoc, List.append_cancel_left_eq] at rest
      have files' : stream.files = epochFiles stream profile' := by rw [StreamState.files, known']
      rw [rest, ← files', identity.2.2]
      exact List.mem_append_left _ (List.mem_map_of_mem member)
  · have grown : Event.epochBumped streamId (nextEpoch (o.clock s.world.calls) (s.streamAt index).epoch) ∈
        (createShmEpoch o s.config stream w).2.2.log := growth.log.keeps (by rw [started]; simp)
    have epoch : (createShmEpoch o s.config stream w).2.1.epoch =
        nextEpoch (o.clock s.world.calls) (s.streamAt index).epoch := by
      rw [stamped, ← target]
    rw [epoch]
    exact grown

/-- The cooldown of a node touches no stream and no lease. -/
theorem recordNodeIdCooldown_frame (o : Oracle) (nodeId : UInt32) (now : UInt64) (s : State) :
    (recordNodeIdCooldown o nodeId now s).config = s.config ∧
      (recordNodeIdCooldown o nodeId now s).leases = s.leases ∧
      (recordNodeIdCooldown o nodeId now s).streams = s.streams ∧
      (recordNodeIdCooldown o nodeId now s).leaseCounter = s.leaseCounter ∧
      (recordNodeIdCooldown o nodeId now s).world.log = s.world.log ∧
      s.world.calls ≤ (recordNodeIdCooldown o nodeId now s).world.calls := by
  unfold recordNodeIdCooldown
  dsimp only
  split
  · exact ⟨rfl, rfl, rfl, rfl, rfl, Nat.le_refl _⟩
  · split
    · exact ⟨rfl, rfl, rfl, rfl, rfl, Nat.le_refl _⟩
    · split
      · split <;> exact ⟨rfl, rfl, rfl, rfl, rfl, Nat.le_succ _⟩
      · exact ⟨rfl, rfl, rfl, rfl, rfl, Nat.le_refl _⟩

/-- Without a cooldown time no node cools down. -/
theorem recordNodeIdCooldown_off {o : Oracle} {nodeId : UInt32} {now : UInt64} {s : State}
    (off : s.config.nodeIdReuseCooldownMs = 0) : recordNodeIdCooldown o nodeId now s = s :=
  if_pos (.inr (.inr off))

theorem StreamState.release_streamId (stream : StreamState) (lease : Lease) :
    (stream.release lease).streamId = stream.streamId := by
  unfold StreamState.release
  split <;> rfl

/-- The release of a found stream changes one place of the view. -/
theorem releaseProducer_view (lease : Lease) (s : State) :
    (releaseProducer (findStream s.streams lease.streamId) lease s).view =
      Function.update s.view lease.streamId
        ((s.view lease.streamId).map fun stream => stream.release lease) := by
  rcases found : findStream s.streams lease.streamId with _ | index
  · rw [view_eq_none.mpr found, Option.map_none, ← view_eq_none.mpr found, Function.update_eq_self]
    rfl
  · have same := (StreamState.release_streamId (s.streamAt index) lease).trans (findStream_inside found).2
    have core : ((s.streamAt index).release lease).core = (s.streamAt index).core.release lease := by
      unfold StreamState.release
      rw [StreamState.core_producerLeaseId]
      split <;> rfl
    rw [view_found found, Option.map_some, ← core]
    exact view_setStream _ found same

theorem releaseProducer_tidy (lease : Lease) {s : State} (tidy : Tidy s) :
    Tidy (releaseProducer (findStream s.streams lease.streamId) lease s) := by
  rcases found : findStream s.streams lease.streamId with _ | index
  · exact tidy
  · exact tidy.setStream _ found
      ((StreamState.release_streamId (s.streamAt index) lease).trans (findStream_inside found).2)

theorem releaseProducer_frame (stream : Option Nat) (lease : Lease) (s : State) :
    (releaseProducer stream lease s).config = s.config ∧
      (releaseProducer stream lease s).leases = s.leases ∧
      (releaseProducer stream lease s).leaseCounter = s.leaseCounter ∧
      (releaseProducer stream lease s).nodeIdCooldowns = s.nodeIdCooldowns ∧
      (releaseProducer stream lease s).world = s.world := by
  cases stream <;> exact ⟨rfl, rfl, rfl, rfl, rfl⟩

/-- The end of a lease keeps every lookup of a stream. -/
theorem endLease_lookup (o : Oracle) (index : Nat) (stream : Option Nat) (lease : Lease) (atNs : UInt64)
    (s : State) (streamId : UInt32) :
    findStream (endLease o index stream lease atNs s).streams streamId = findStream s.streams streamId := by
  obtain ⟨-, -, streams, -, -, -⟩ := recordNodeIdCooldown_frame o lease.nodeId atNs s
  change findStream (releaseProducer stream lease (recordNodeIdCooldown o lease.nodeId atNs s)).streams _ = _
  rw [← streams]
  generalize recordNodeIdCooldown o lease.nodeId atNs s = m
  cases stream with
  | none => rfl
  | some target => exact findStream_set (StreamState.release_streamId _ lease) streamId

/-- A renewal replaces one entry of its node. -/
theorem renewCooldown_some {nodeId : UInt32} {expiresNs : UInt64} {cooldowns renewed : List NodeIdCooldown}
    (renews : renewCooldown nodeId expiresNs cooldowns = some renewed) : ⟨nodeId, expiresNs⟩ ∈ renewed ∧
      ∀ cooldown ∈ cooldowns, cooldown ∈ renewed ∨ cooldown.nodeId = nodeId := by
  induction cooldowns generalizing renewed with
  | nil => cases renews
  | cons first rest hypothesis =>
      unfold renewCooldown at renews
      split at renews
      next same =>
        cases renews
        subst same
        refine ⟨List.mem_cons_self, fun cooldown member => ?_⟩
        rcases List.mem_cons.mp member with rfl | inRest
        · exact .inr rfl
        · exact .inl (List.mem_cons_of_mem _ inRest)
      · obtain ⟨others, inner, rfl⟩ := Option.map_eq_some_iff.mp renews
        obtain ⟨started, kept⟩ := hypothesis inner
        refine ⟨List.mem_cons_of_mem _ started, fun cooldown member => ?_⟩
        rcases List.mem_cons.mp member with rfl | inRest
        · exact .inl List.mem_cons_self
        · exact (kept cooldown inRest).imp (List.mem_cons_of_mem _) id

/-- A recorded cooldown starts, and the others stay until their time. -/
theorem recordNodeIdCooldown_cools (o : Oracle) (nodeId : UInt32) (atNs : UInt64) (s : State) :
    Cools o nodeId atNs s (recordNodeIdCooldown o nodeId atNs s) := by
  have pruned (cooldown : NodeIdCooldown) (member : cooldown ∈ s.nodeIdCooldowns) :
      cooldown ∈ pruneNodeIdCooldowns s.nodeIdCooldowns atNs ∨ cooldown.expiresNs ≤ atNs := by
    by_cases late : atNs < cooldown.expiresNs
    · exact .inl (List.mem_filter.mpr ⟨member, by simpa using late⟩)
    · exact .inr (UInt64.not_lt.mp late)
  unfold recordNodeIdCooldown
  dsimp only
  split
  next off =>
    refine ⟨fun cooldown member => .inl member, fun nonzero named cooling => ?_⟩
    rcases off with zero | null | free
    · exact absurd zero nonzero
    · exact absurd null named
    · exact absurd free cooling
  · split
    next renewed renews =>
      obtain ⟨started, kept⟩ := renewCooldown_some renews
      refine ⟨fun cooldown member => ?_, fun _ _ _ _ => started⟩
      rcases pruned cooldown member with stays | expired
      · exact (kept cooldown stays).imp id fun same => .inr ⟨same, started⟩
      · exact .inr (.inl expired)
    · split
      · split
        · exact ⟨fun cooldown member => (pruned cooldown member).imp (List.mem_append_left _) .inl,
            fun _ _ _ _ => by simp⟩
        next stuck =>
          exact ⟨fun cooldown member => (pruned cooldown member).imp id .inl,
            fun _ _ _ grows => absurd (grows _) stuck⟩
      · exact ⟨fun cooldown member => (pruned cooldown member).imp (List.mem_append_left _) .inl,
          fun _ _ _ _ => by simp⟩

/-- The end of a lease in the table is one change. -/
theorem finish_change {o : Oracle} {s : State} {index : Nat} {lease : Lease} {stream : Option Nat}
    (atNs : UInt64) (lookup : findStream s.streams lease.streamId = stream)
    (present : s.leases[index]? = some lease) :
    Change o (.finish lease) s (endLease o index stream lease atNs s) := by
  subst lookup
  obtain ⟨config, leases, streams, counter, log, calls⟩ :=
    recordNodeIdCooldown_frame o lease.nodeId atNs s
  have cools := recordNodeIdCooldown_cools o lease.nodeId atNs s
  unfold endLease removeLease
  dsimp only
  generalize recordNodeIdCooldown o lease.nodeId atNs s = m at config leases streams counter log calls cools
  obtain ⟨config', leases', counter', cooldowns', world'⟩ :=
    releaseProducer_frame (findStream s.streams lease.streamId) lease m
  obtain ⟨inside, at_index⟩ := List.getElem?_eq_some_iff.mp present
  have view := releaseProducer_view lease m
  rw [streams, view_congr streams] at view
  refine @Change.finish o _ _ (s.leases.take index) (s.leases.drop (index + 1)) lease atNs
    ⟨config'.trans config, counter'.trans counter⟩ ⟨?_, ?_⟩ ?_ ?_ ?_ ?_ ⟨?_, ?_⟩
  · rw [← at_index, List.getElem_cons_drop, List.take_append_drop]
  · rw [leases', leases, List.eraseIdx_eq_take_drop_succ]
  · rw [World.record_calls, world']
    exact calls
  · intro tidy
    have moved := releaseProducer_tidy lease (tidy.congr streams)
    rw [streams] at moved
    exact moved.congr rfl
  · rw [← view]
    exact view_congr rfl
  · rw [World.record_log, world', log]
  · rw [cooldowns']
    exact cools.kept
  · rw [cooldowns']
    exact cools.started

/-- A fence renews its stream and then may announce it. -/
theorem fenceStream_trace {o : Oracle} {s : State} {streamId : UInt32} {index : Nat}
    (found : findStream s.streams streamId = some index) :
    Trace (Change o) [.renew streamId] s (fenceStream o index s) ∨
      Trace (Change o) [.renew streamId, .talk] s (fenceStream o index s) := by
  obtain ⟨inside, same⟩ := findStream_inside found
  obtain ⟨renewed, core, bumped⟩ := renew_change (o := o) (s.streamAt index).requireHugepages found
  unfold fenceStream
  rw [bumpEpoch_eq] at *
  dsimp only at *
  generalize createShmEpoch o s.config _ _ = created at *
  split
  · refine .inr (Trace.append (Trace.single renewed) (Trace.single ?_))
    have renamed : created.2.1.streamId = streamId := by
      rw [← StreamState.core_streamId, core]
      exact same
    have refound : findStream (s.setStream index created.2.1 created.2.2).streams streamId = some index := by
      rw [setStream_streams, findStream_set (renamed.trans same.symm), found]
    refine announce_talk created.2.1.requireHugepages refound (.inr ?_)
    rw [streamAt_setStream inside, renamed]
    exact bumped
  · exact .inl (Trace.single renewed)

/-- A lease that ends in this label was the producer of this stream. -/
def Label.endsProducer (streamId : UInt32) : Label → Bool
  | .finish lease => lease.role == .producer && lease.streamId == streamId
  | _ => false

/-- These labels stand for changes of an operation that grants nothing. -/
def Label.settled : Label → Bool
  | .talk | .renew _ | .finish _ | .extend => true
  | _ => false

/-- Every renewal of the trace comes with the end of a producer of its stream. -/
structure Fences (labels : List Label) : Prop where
  settled : ∀ label ∈ labels, label.settled = true
  renewals : ∀ streamId, labels.count (.renew streamId) ≤ labels.countP (Label.endsProducer streamId)

theorem Fences.nil : Fences [] := ⟨by simp, by simp⟩

theorem Fences.append {first second : List Label} (one : Fences first) (two : Fences second) :
    Fences (first ++ second) := by
  refine ⟨fun label member => ?_, fun streamId => ?_⟩
  · rcases List.mem_append.mp member with left | right
    · exact one.settled label left
    · exact two.settled label right
  · rw [List.count_append, List.countP_append]
    exact Nat.add_le_add (one.renewals streamId) (two.renewals streamId)

/-- One turn of the expiry loop renews the stream of the producer that it ends. -/
theorem Fences.turn {lease : Lease} (producer : lease.role = .producer) (tail : List Label)
    (short : tail = [] ∨ tail = [.talk]) :
    Fences ([.talk] ++ [.finish lease] ++ .renew lease.streamId :: tail) := by
  refine ⟨?_, fun streamId => ?_⟩
  · rcases short with rfl | rfl
    · exact List.forall_mem_cons.mpr ⟨rfl, List.forall_mem_cons.mpr ⟨rfl, List.forall_mem_singleton.mpr rfl⟩⟩
    · exact List.forall_mem_cons.mpr
        ⟨rfl, List.forall_mem_cons.mpr ⟨rfl, List.forall_mem_cons.mpr ⟨rfl, List.forall_mem_singleton.mpr rfl⟩⟩⟩
  · by_cases same : lease.streamId = streamId <;> rcases short with rfl | rfl <;>
      simp_all [Label.endsProducer]

/-- An expired lease is revoked and ended, and a producer's stream is fenced. -/
theorem expireLease_trace (o : Oracle) (now : UInt64) {s : State} {index : Nat} {lease : Lease}
    (present : s.leases[index]? = some lease) :
    ∃ labels, Trace (Change o) labels s (expireLease o now index lease s) ∧ Fences labels := by
  have revoked := Trace.single (revoke_talk o lease .expired "lease expired" s)
  generalize middle : revokeLease o lease .expired "lease expired" s = r at revoked
  have streams : r.streams = s.streams := by rw [← middle]; rfl
  have leases : r.leases = s.leases := by rw [← middle]; rfl
  have ended := revoked.append (Trace.single (finish_change (o := o) now rfl (leases ▸ present)))
  have lookup := endLease_lookup o index (findStream r.streams lease.streamId) lease now r lease.streamId
  have plain : Fences ([.talk] ++ [.finish lease]) :=
    ⟨List.forall_mem_cons.mpr ⟨rfl, List.forall_mem_singleton.mpr rfl⟩, by simp⟩
  unfold expireLease
  dsimp only
  rw [middle, ← streams]
  generalize endLease o index (findStream r.streams lease.streamId) lease now r = m at ended lookup ⊢
  rcases found : findStream r.streams lease.streamId with _ | target
  · exact ⟨_, ended, plain⟩
  · rw [found] at lookup
    rcases producer : lease.role == .producer with _ | _
    · exact ⟨_, ended, plain⟩
    · have fences := Fences.turn (beq_iff_eq.mp producer)
      rcases fenceStream_trace (o := o) lookup with fenced | fenced
      · exact ⟨_, ended.append fenced, fences [] (.inl rfl)⟩
      · exact ⟨_, ended.append fenced, fences [.talk] (.inr rfl)⟩

theorem expireLoop_trace (o : Oracle) (now : UInt64) (remaining index : Nat) (s : State) :
    ∃ labels, Trace (Change o) labels s (expireLoop o now remaining index s) ∧ Fences labels := by
  induction remaining generalizing index s with
  | zero => exact ⟨[], .nil s, .nil⟩
  | succ remaining hypothesis =>
      unfold expireLoop
      split
      · exact ⟨[], .nil s, .nil⟩
      next lease present =>
        split
        · obtain ⟨first, turn, fences⟩ := expireLease_trace o now present
          obtain ⟨rest, path, later⟩ := hypothesis index (expireLease o now index lease s)
          exact ⟨first ++ rest, turn.append path, fences.append later⟩
        · exact hypothesis (index + 1) s

/-- A pass over the expired leases is a trace of fences. -/
theorem handleExpiredLeases_trace (o : Oracle) (s : State) :
    ∃ labels, Trace (Change o) labels s (handleExpiredLeases o s) ∧ Fences labels := by
  obtain ⟨labels, path, fences⟩ := expireLoop_trace o (o.clock s.world.calls) s.leases.length 0
    { s with world := s.world.called }
  exact ⟨[.talk] ++ labels, (Trace.single (called_talk o s)).append path,
    Fences.append ⟨List.forall_mem_singleton.mpr rfl, by simp⟩ fences⟩

/-- An owned lease stands at its index with the identity that the request names. -/
theorem ownedLease_some {leases : List Lease} {leaseId : UInt64} {streamId clientId : UInt32} {role : Role}
    {index : Nat} {lease : Lease} (owned : ownedLease leases leaseId streamId clientId role = some (index, lease)) :
    leases[index]? = some lease ∧ leaseId ≠ 0 ∧ lease.leaseId = leaseId ∧ lease.streamId = streamId ∧
      lease.clientId = clientId ∧ lease.role = role := by
  simp only [ownedLease, findLease, Option.bind_eq_bind, Option.bind_eq_some_iff] at owned
  obtain ⟨place, search, candidate, there, matched⟩ := owned
  split at search
  · cases search
  next nonzero =>
    split at matched
    · cases matched
    next same =>
      cases matched
      obtain ⟨inside, named, -⟩ := List.findIdx?_eq_some_iff_getElem.mp search
      rw [List.getElem?_eq_getElem inside] at there
      cases there
      simp only [beq_iff_eq] at named
      refine ⟨List.getElem?_eq_getElem inside, nonzero, named, ?_⟩
      tauto

/-- A detach ends at most its own lease and renews nothing. -/
theorem handleDetach_trace (o : Oracle) (request : DetachRequest) (s : State) :
    ∃ labels, Trace (Change o) labels s (handleDetach o request s).2 ∧
      ∀ label ∈ labels, label = .talk ∨ ∃ lease, label = .finish lease := by
  unfold handleDetach
  dsimp only
  split
  · exact ⟨[.talk], Trace.single (respond_talk ..), by simp⟩
  · split
    · exact ⟨[.talk], Trace.single (respond_talk ..), by simp⟩
    next role _ index lease owned =>
      obtain ⟨present, -, -, streamId, -, -⟩ := ownedLease_some owned
      have revoked := Trace.single (revoke_talk o lease .detached "lease detached" s)
      generalize middle : revokeLease o lease .detached "lease detached" s = r at revoked
      have streams : r.streams = s.streams := by rw [← middle]; rfl
      have leases : r.leases = s.leases := by rw [← middle]; rfl
      have read := revoked.append (Trace.single (called_talk o r))
      have lookup : findStream r.streams lease.streamId = findStream s.streams request.streamId := by
        rw [streams, streamId]
      have ended := read.append (Trace.single
        (finish_change (o := o) (o.clock r.world.calls) lookup (leases ▸ present)))
      have unfenced (target : Option Nat) (m : State) :
          fenceFreed o ((0 : UInt8) == Role.producer.code) target m = m := by cases target <;> rfl
      rw [unfenced]
      exact ⟨_, ended.append (Trace.single (respond_talk o request .ok "" _)), by simp⟩

/-- The identity of a lease leaves out its expiry. -/
theorem Lease.identity_extend (lease : Lease) (expiryNs : UInt64) :
    Lease.identity { lease with expiryNs := expiryNs } = lease.identity := rfl

/-- A keepalive extends one lease or does nothing. -/
theorem handleKeepalive_trace (o : Oracle) (request : LeaseKeepalive) (s : State) :
    ∃ labels, Trace (Change o) labels s (handleKeepalive o request s) ∧
      ∀ label ∈ labels, label = .extend := by
  unfold handleKeepalive
  split
  · exact ⟨[], .nil s, by simp⟩
  · split
    · exact ⟨[], .nil s, by simp⟩
    next role _ index lease owned =>
      obtain ⟨present, -, -, -, -, -⟩ := ownedLease_some owned
      refine ⟨[.extend], Trace.single (.extend ⟨rfl, rfl⟩ ?_ (fun _ member => .inl member) rfl
        (Nat.le_succ _) rfl), by simp⟩
      obtain ⟨inside, there⟩ := List.getElem?_eq_some_iff.mp present
      have same := lease.identity_extend (leaseExpiry s.config (o.clock s.world.calls))
      apply List.ext_getElem?
      intro place
      rw [List.map_set, same, List.getElem?_set]
      split
      next here =>
        subst here
        simp [inside, there]
      · rfl

/-- An announce of one stream in a tidy table is talk or nothing. -/
theorem announceStream_trace {o : Oracle} {s : State} {index : Nat} (tidy : Tidy s)
    (inside : index < s.streams.length) :
    ∃ labels, Trace (Change o) labels s (announceStream o s index) ∧ ∀ label ∈ labels, label = .talk := by
  unfold announceStream
  split
  next active =>
    exact ⟨[.talk], Trace.single (announce_talk _ (tidy.found inside active) (.inl active)), by simp⟩
  · exact ⟨[], .nil s, by simp⟩

/-- Every change keeps the table tidy. -/
theorem Change.tidy {o : Oracle} {label : Label} {s s' : State} (change : Change o label s s')
    (tidy : Tidy s) : Tidy s' := by
  cases change with
  | talk quiet => exact quiet.tidy tidy
  | provision quiet => exact quiet.tidy tidy
  | renew _ _ _ keeps => exact keeps tidy
  | waste _ _ streams => exact tidy.congr streams
  | grant _ _ _ _ _ _ keeps => exact keeps tidy
  | finish _ _ _ keeps => exact keeps tidy
  | extend _ _ _ streams => exact tidy.congr streams

/-- Every trace keeps the table tidy. -/
theorem tidy_trace {o : Oracle} {labels : List Label} {s s' : State}
    (path : Trace (Change o) labels s s') (tidy : Tidy s) : Tidy s' :=
  path.keeps (fun _ _ _ tidy change => change.tidy tidy) tidy

/-- The announces of a tidy table are talk. -/
theorem announceTick_trace {o : Oracle} {s : State} (tidy : Tidy s) :
    ∃ labels, Trace (Change o) labels s (announceTick o s) ∧ ∀ label ∈ labels, label = .talk := by
  have read := Trace.single (called_talk o s)
  unfold announceTick
  dsimp only
  split
  · let Announced (m : State) : Prop := ∃ labels, Trace (Change o) labels s m ∧
      (∀ label ∈ labels, label = .talk) ∧ m.streams.length = s.streams.length
    have first : Announced { s with world := s.world.called } := ⟨[.talk], read, by simp, rfl⟩
    have announced : Announced ((List.range s.streams.length).foldl (announceStream o)
        { s with world := s.world.called }) := by
      refine List.foldlRecOn _ _ first ?_
      rintro m ⟨labels, path, talk, length⟩ index member
      have inside : index < m.streams.length := by
        rw [length]
        exact List.mem_range.mp member
      obtain ⟨more, later, quiet⟩ := announceStream_trace (o := o) (tidy_trace path tidy) inside
      refine ⟨labels ++ more, path.append later, fun label member => ?_, ?_⟩
      · exact (List.mem_append.mp member).elim (talk label) (quiet label)
      · rw [← length]
        unfold announceStream
        split
        · exact List.length_set
        · rfl
    obtain ⟨labels, path, talk, -⟩ := announced
    have stamped (m : State) (atNs : UInt64) : Change o .talk m { m with nextAnnounceNs := atNs } :=
      .talk ⟨rfl, rfl, rfl, .refl _ _, .refl o _, fun tidy => tidy.congr rfl⟩ (view_congr rfl)
    refine ⟨labels ++ [.talk], path.append (Trace.single (stamped _ _)), fun label member => ?_⟩
    rcases List.mem_append.mp member with old | new
    · exact talk label old
    · exact List.mem_singleton.mp new
  · exact ⟨[.talk], read, by simp⟩

end TensorPool.Driver
