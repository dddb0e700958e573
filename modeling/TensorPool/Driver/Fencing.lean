/-
This file compares the two ways in which the lease of a producer ends.
An expired lease fences its stream; a detached one does not.
-/

import TensorPool.Driver.Exclusive
import TensorPool.Driver.Room

namespace TensorPool.Driver

/-- A revocation goes out with the identity of its lease. -/
theorem revokeLease_told (o : Oracle) (lease : Lease) (reason : LeaseRevokeReason) (text : String) (s : State) :
    ∃ notice result w', revokeLease o lease reason text s = { s with world := w' } ∧ s.world.calls ≤ w'.calls ∧
      w'.log = s.world.log ++ [.offered (.leaseRevoked notice) result] ∧ notice.leaseId = lease.leaseId ∧
      notice.streamId = lease.streamId ∧ notice.clientId = lease.clientId ∧ notice.role = lease.role := by
  unfold revokeLease sendLeaseRevoked
  refine ⟨_, o.offer s.world.called.calls, _, rfl, ?_, rfl, rfl, rfl, rfl, rfl⟩
  change s.world.calls ≤ s.world.calls + 1 + 1
  omega

/-- The end of a lease takes it out of the table and frees its stream. -/
theorem endLease_effect (o : Oracle) (index : Nat) (stream : Option Nat) (lease : Lease) (atNs : UInt64)
    (s : State) :
    (endLease o index stream lease atNs s).config = s.config ∧
      (endLease o index stream lease atNs s).leases = s.leases.eraseIdx index ∧
      (endLease o index stream lease atNs s).streams = (releaseProducer stream lease s).streams ∧
      (endLease o index stream lease atNs s).world.log = s.world.log ++ [.leaseEnded lease atNs] := by
  obtain ⟨config, leases, streams, -, log, -⟩ := recordNodeIdCooldown_frame o lease.nodeId atNs s
  unfold endLease removeLease
  dsimp only
  generalize recordNodeIdCooldown o lease.nodeId atNs s = m at config leases streams log
  obtain ⟨config', leases', -, -, world'⟩ := releaseProducer_frame stream lease m
  refine ⟨config'.trans config, by rw [leases', leases], ?_, by rw [World.record_log, world', log]⟩
  cases stream with
  | none => exact streams
  | some target =>
      change m.streams.set target ((m.streamAt target).release lease) = _
      rw [State.streamAt, streams]
      rfl

theorem endLease_calls (o : Oracle) (index : Nat) (stream : Option Nat) (lease : Lease) (atNs : UInt64) (s : State) :
    s.world.calls ≤ (endLease o index stream lease atNs s).world.calls := by
  obtain ⟨-, -, -, -, -, calls⟩ := recordNodeIdCooldown_frame o lease.nodeId atNs s
  obtain ⟨-, -, -, -, world⟩ := releaseProducer_frame stream lease (recordNodeIdCooldown o lease.nodeId atNs s)
  change _ ≤ (releaseProducer stream lease (recordNodeIdCooldown o lease.nodeId atNs s)).world.calls
  rwa [world]

/-- The announce of a new epoch follows its creation, or a file of the epoch failed. -/
def AnnouncedOrFailed (streamId : UInt32) (epoch : UInt64) (events : List Event) : Prop :=
  (∃ file, file.streamId = streamId ∧ file.epoch = epoch ∧ .regionFailed file ∈ events) ∨
    ∃ announce result, announce.streamId = streamId ∧ announce.epoch = epoch ∧
      .offered (.poolAnnounce announce) result ∈ events

/-- The driver can encode an announce of the next epoch of the stream, whatever its clock reads from now on. -/
def Announceable (o : Oracle) (config : Config) (stream : StreamState) (calls : Nat) : Prop :=
  ∀ call, calls ≤ call → RegionsEncode o config { stream with epoch := nextEpoch (o.clock call) stream.epoch }
    stream.requireHugepages (messageHeaderLength + poolAnnounceBlockLength)

theorem Announceable.later {o : Oracle} {config : Config} {stream : StreamState} {calls calls' : Nat}
    (announceable : Announceable o config stream calls) (later : calls ≤ calls') :
    Announceable o config stream calls' := fun call after => announceable call (Nat.le_trans later after)

/-- An encoded announce names its stream and its epoch. -/
theorem encodeAnnounce_names {o : Oracle} {config : Config} {stream : StreamState} {requireHugepages : Bool}
    {now : UInt64} {announce : PoolAnnounce}
    (encoded : encodeAnnounce o config stream requireHugepages now = some announce) :
    announce.streamId = stream.streamId ∧ announce.epoch = stream.epoch := by
  simp only [encodeAnnounce, Option.bind_eq_bind, Option.bind_eq_some_iff, Option.some.injEq,
    Prod.exists] at encoded
  obtain ⟨profile, -, bodies, uri, position, -, rfl⟩ := encoded
  exact ⟨rfl, rfl⟩

/-- A created epoch is announced, and a failed one leaves the file that failed. -/
theorem created_effect {o : Oracle} {s : State} {index : Nat} {target : StreamState} (w : World)
    (inside : index < s.streams.length)
    (encodes : RegionsEncode o s.config target target.requireHugepages
      (messageHeaderLength + poolAnnounceBlockLength))
    {created : Bool × StreamState × World} (result : createShmEpoch o s.config target w = created) :
    ∃ s' stream events, (if created.1 then
        (s.setStream index created.2.1 created.2.2).announce o index created.2.1.requireHugepages
        else s.setStream index created.2.1 created.2.2) = s' ∧
      s'.streams = s.streams.set index stream ∧ stream.core = target.core ∧ s'.config = s.config ∧
      s'.leases = s.leases ∧ s'.world.log = w.log ++ events ∧
      AnnouncedOrFailed target.streamId target.epoch events := by
  obtain ⟨createdNs, stamped⟩ := createShmEpoch_stream o s.config target w
  rw [result] at stamped
  obtain ⟨success, stream, w'⟩ := created
  dsimp only at stamped ⊢
  cases success with
  | false =>
      obtain ⟨_, encoded⟩ := Option.isSome_iff_exists.mp encodes
      obtain ⟨profile, known, -⟩ := Option.bind_eq_some_iff.mp encoded
      obtain ⟨-, made, file, rest, split, log⟩ := createShmEpoch_failure known result
      have owned := epochFiles_identity (show file ∈ epochFiles target profile by rw [split]; simp)
      refine ⟨_, stream, made.map Event.regionCreated ++ [.regionFailed file], if_neg (by decide), rfl,
        by rw [stamped]; rfl, rfl, rfl, by rw [← List.append_assoc]; exact log, ?_⟩
      exact .inl ⟨file, owned.1, owned.2, by simp⟩
  | true =>
      obtain ⟨profile, middle, -, -, log, growth⟩ := createShmEpoch_success result
      obtain ⟨collected, gathered, -⟩ := growth.log
      obtain ⟨announce, encoded⟩ := Option.isSome_iff_exists.mp
        ((@encodeAnnounce_some o s.config target target.requireHugepages (o.clock w'.calls)).mpr encodes)
      have encoded' : encodeAnnounce o s.config stream stream.requireHugepages (o.clock w'.calls) =
          some announce := by
        rw [stamped]
        exact encoded
      obtain ⟨sameId, sameEpoch⟩ := encodeAnnounce_names encoded
      have place := streamAt_setStream inside stream w'
      have announced : (s.setStream index stream w').announce o index stream.requireHugepages =
          (s.setStream index stream w').setStream index { stream with lastAnnounceNs := o.clock w'.calls }
            (sendControl o (.poolAnnounce announce) w'.called).2 := by
        rw [State.announce, place, setStream_config, setStream_world, sendAnnounce]
        dsimp only
        rw [encoded']
      refine ⟨_, { stream with lastAnnounceNs := o.clock w'.calls },
        (epochFiles target profile).map Event.regionCreated ++ collected ++
          [.offered (.poolAnnounce announce) (o.offer (w'.calls + 1))],
        (if_pos rfl).trans announced, ?_, by rw [stamped]; rfl, rfl, rfl, ?_,
        .inr ⟨announce, o.offer (w'.calls + 1), sameId, sameEpoch, by simp⟩⟩
      · rw [setStream_streams, setStream_streams, List.set_set]
      · rw [setStream_world]
        change w'.log ++ [Event.offered (.poolAnnounce announce) (o.offer (w'.calls + 1))] = _
        rw [gathered, log, List.append_assoc, List.append_assoc, List.append_assoc]

/-- A fence moves a found stream to its next epoch and tells about it. -/
theorem fenceStream_effect {o : Oracle} {s : State} {streamId : UInt32} {index : Nat}
    (found : findStream s.streams streamId = some index)
    (announceable : Announceable o s.config (s.streamAt index) s.world.calls) :
    ∃ stream events, (fenceStream o index s).streams = s.streams.set index stream ∧
      stream.core = { (s.streamAt index).core with
        epoch := nextEpoch (o.clock s.world.calls) (s.streamAt index).epoch } ∧
      (fenceStream o index s).config = s.config ∧ (fenceStream o index s).leases = s.leases ∧
      (fenceStream o index s).world.log = s.world.log ++ events ∧
      AnnouncedOrFailed streamId (nextEpoch (o.clock s.world.calls) (s.streamAt index).epoch) events := by
  obtain ⟨inside, same⟩ := findStream_inside found
  have due := announceable s.world.calls (Nat.le_refl _)
  generalize moved : nextEpoch (o.clock s.world.calls) (s.streamAt index).epoch = epoch at due ⊢
  obtain ⟨s', stream, events, ends, streams, core, config, leases, log, told⟩ := created_effect
    (s.world.called.record (.epochBumped (s.streamAt index).streamId epoch)) inside due rfl
  have fenced : fenceStream o index s = s' := by
    rw [fenceStream, bumpEpoch_eq, moved]
    exact ends
  rw [fenced]
  refine ⟨stream, .epochBumped (s.streamAt index).streamId epoch :: events, streams, core, config, leases, ?_, ?_⟩
  · rw [log, World.record_log, World.called_log, List.append_assoc]
    rfl
  · rw [same] at told
    refine told.imp ?_ ?_
    · rintro ⟨file, sameId, sameEpoch, member⟩
      exact ⟨file, sameId, sameEpoch, List.mem_cons_of_mem _ member⟩
    · rintro ⟨announce, result, sameId, sameEpoch, member⟩
      exact ⟨announce, result, sameId, sameEpoch, List.mem_cons_of_mem _ member⟩

/-- A fence writes one stream, which keeps its identifier. -/
theorem fenceStream_frame {o : Oracle} {s : State} {index : Nat} (inside : index < s.streams.length) :
    ∃ stream events, (fenceStream o index s).streams = s.streams.set index stream ∧
      stream.streamId = (s.streamAt index).streamId ∧ (fenceStream o index s).config = s.config ∧
      (fenceStream o index s).leases = s.leases ∧ s.world.calls ≤ (fenceStream o index s).world.calls ∧
      (fenceStream o index s).world.log = s.world.log ++ events := by
  unfold fenceStream
  rw [bumpEpoch_eq]
  dsimp only
  generalize target : ({ (s.streamAt index) with
    epoch := nextEpoch (o.clock s.world.calls) (s.streamAt index).epoch } : StreamState) = bumped
  generalize recorded : s.world.called.record (.epochBumped (s.streamAt index).streamId
    (nextEpoch (o.clock s.world.calls) (s.streamAt index).epoch)) = w
  obtain ⟨createdNs, stamped⟩ := createShmEpoch_stream o s.config bumped w
  obtain ⟨later, events, grown, -⟩ := createShmEpoch_grows o s.config bumped w
  have start : s.world.calls ≤ w.calls := by
    rw [← recorded]
    exact Nat.le_succ _
  generalize createShmEpoch o s.config bumped w = created at stamped later grown ⊢
  have named : created.2.1.streamId = (s.streamAt index).streamId := by rw [stamped, ← target]
  have log : created.2.2.log = s.world.log ++ (.epochBumped (s.streamAt index).streamId
      (nextEpoch (o.clock s.world.calls) (s.streamAt index).epoch) :: events) := by
    rw [grown, ← recorded, World.record_log, World.called_log, List.append_assoc]
    rfl
  split
  · obtain ⟨announcedNs, announced⟩ :=
      sendAnnounce_stream o s.config created.2.1 created.2.1.requireHugepages created.2.2
    obtain ⟨after, said, spoken, -⟩ := announce_log o (s.setStream index created.2.1 created.2.2) index
      created.2.1.requireHugepages
    rw [setStream_world, log, List.append_assoc] at spoken
    refine ⟨{ created.2.1 with lastAnnounceNs := announcedNs }, _, ?_, named, rfl, rfl,
      Nat.le_trans (Nat.le_trans start later) after, spoken⟩
    rw [State.announce, streamAt_setStream inside, setStream_config, setStream_world]
    dsimp only
    rw [announced, setStream_streams, setStream_streams, List.set_set]
  · exact ⟨created.2.1, _, rfl, named, rfl, rfl, Nat.le_trans start later, log⟩

/-- The stream at this index is the same afterwards. -/
structure Spared (streamId : UInt32) (index : Nat) (s s' : State) : Prop where
  found : findStream s'.streams streamId = some index
  kept : s'.streamAt index = s.streamAt index
  config : s'.config = s.config
  calls : s.world.calls ≤ s'.world.calls
  log : ∃ events, s'.world.log = s.world.log ++ events

namespace Spared

variable {streamId : UInt32} {index : Nat} {s m s' : State}

theorem refl (found : findStream s.streams streamId = some index) : Spared streamId index s s :=
  ⟨found, rfl, rfl, Nat.le_refl _, [], (List.append_nil _).symm⟩

theorem trans (first : Spared streamId index s m) (second : Spared streamId index m s') :
    Spared streamId index s s' := by
  obtain ⟨early, earlyLog⟩ := first.log
  obtain ⟨late, lateLog⟩ := second.log
  exact ⟨second.found, second.kept.trans first.kept, second.config.trans first.config,
    Nat.le_trans first.calls second.calls, early ++ late, by rw [lateLog, earlyLog, List.append_assoc]⟩

/-- A write to another stream, or one that changes nothing, spares the stream. -/
theorem write {target : Nat} {stream : StreamState} (found : findStream s.streams streamId = some index)
    (written : s'.streams = s.streams.set target stream)
    (same : stream.streamId = (s.streamAt target).streamId)
    (apart : target = index → stream = s.streamAt index) (config : s'.config = s.config)
    (calls : s.world.calls ≤ s'.world.calls) (log : ∃ events, s'.world.log = s.world.log ++ events) :
      Spared streamId index s s' := by
  refine ⟨?_, ?_, config, calls, log⟩
  · rw [written, findStream_set same, found]
  · have inside := (findStream_inside found).1
    rw [State.streamAt, written, List.getD_eq_getElem _ _ (by simpa using inside)]
    by_cases here : target = index
    · rw [List.getElem_set, if_pos here, apart here]
    · rw [List.getElem_set, if_neg here, ← streamAt_eq inside]

theorem view (spared : Spared streamId index s s') (found : findStream s.streams streamId = some index) :
    s'.view streamId = s.view streamId := by
  rw [view_found spared.found, view_found found, spared.kept]

end Spared

/-- The end of this lease leaves the stream and its producer alone. -/
def Bystander (lease : Lease) (stream : StreamState) : Prop :=
  lease.streamId = stream.streamId → lease.role ≠ .producer ∧ stream.producerLeaseId ≠ lease.leaseId

/-- The turn of an expired lease takes it out of the table. -/
theorem expireLease_leases (o : Oracle) (now : UInt64) (index : Nat) (lease : Lease) (s : State) :
    (expireLease o now index lease s).leases = s.leases.eraseIdx index := by
  have ended := (endLease_effect o index (findStream s.streams lease.streamId) lease now
    (revokeLease o lease .expired "lease expired" s)).2.1
  have lookup := endLease_lookup o index (findStream s.streams lease.streamId) lease now
    (revokeLease o lease .expired "lease expired" s) lease.streamId
  unfold expireLease
  dsimp only
  generalize endLease o index (findStream s.streams lease.streamId) lease now
    (revokeLease o lease .expired "lease expired" s) = m at ended lookup ⊢
  rcases target : findStream s.streams lease.streamId with _ | place
  · exact ended
  · rw [fenceFreed]
    split
    · have inside := (findStream_inside (lookup.trans target)).1
      obtain ⟨stream, events, -, -, -, leases, -, -⟩ := fenceStream_frame (o := o) inside
      exact leases.trans ended
    · exact ended

/-- The turn of a bystander spares the stream. -/
theorem expireLease_spares {o : Oracle} {s : State} {lease : Lease} (now : UInt64) (place : Nat)
    {streamId : UInt32} {index : Nat} (found : findStream s.streams streamId = some index)
    (apart : Bystander lease (s.streamAt index)) :
    Spared streamId index s (expireLease o now place lease s) := by
  have named := (findStream_inside found).2
  obtain ⟨notice, result, w, revoked, read, told, -⟩ := revokeLease_told o lease .expired "lease expired" s
  obtain ⟨config, -, streams, log⟩ := endLease_effect o place (findStream s.streams lease.streamId) lease now
    (revokeLease o lease .expired "lease expired" s)
  have later := endLease_calls o place (findStream s.streams lease.streamId) lease now { s with world := w }
  rw [revoked] at config streams log
  dsimp only at config streams log later
  have grown : ∃ events, (endLease o place (findStream s.streams lease.streamId) lease now
      { s with world := w }).world.log = s.world.log ++ events := ⟨_, by rw [log, told, List.append_assoc]⟩
  have lookup := endLease_lookup o place (findStream s.streams lease.streamId) lease now
    { s with world := w } lease.streamId
  unfold expireLease
  dsimp only
  rw [revoked]
  generalize endLease o place (findStream s.streams lease.streamId) lease now { s with world := w } = m
    at config streams grown lookup later ⊢
  rcases target : findStream s.streams lease.streamId with _ | other
  · rw [target] at streams
    change m.streams = s.streams at streams
    have kept : m.streamAt index = s.streamAt index := by rw [State.streamAt, State.streamAt, streams]
    exact ⟨streams ▸ found, kept, config, Nat.le_trans read later, grown⟩
  · rw [target] at streams
    have otherNamed := (findStream_inside target).2
    have same (here : other = index) : lease.streamId = (s.streamAt index).streamId := by rw [← otherNamed, here]
    have released : Spared streamId index s m := by
      refine .write found streams (StreamState.release_streamId _ lease) (fun here => ?_) config
        (Nat.le_trans read later) grown
      subst here
      exact if_neg (apart (same rfl)).2
    rw [fenceFreed]
    split
    next producer =>
      obtain ⟨stream, events, written, kept, config', -, after, log'⟩ :=
        fenceStream_frame (o := o) (findStream_inside (lookup.trans target)).1
      refine released.trans (.write released.found written kept (fun here => ?_) config' after ⟨events, log'⟩)
      exact absurd (beq_iff_eq.mp producer) (apart (same here)).1
    · exact released

/-- The rest of a pass spares a stream when only bystanders are left. -/
theorem expireLoop_spares {o : Oracle} {streamId : UInt32} {place : Nat} (now : UInt64) (remaining index : Nat)
    {s : State} (found : findStream s.streams streamId = some place)
    (apart : ∀ lease ∈ s.leases, Bystander lease (s.streamAt place)) :
    Spared streamId place s (expireLoop o now remaining index s) ∧
      ∀ lease ∈ (expireLoop o now remaining index s).leases, lease ∈ s.leases := by
  induction remaining generalizing index s with
  | zero => exact ⟨.refl found, fun _ member => member⟩
  | succ remaining hypothesis =>
      unfold expireLoop
      split
      · exact ⟨.refl found, fun _ member => member⟩
      next lease present =>
        split
        · have turn := expireLease_spares (o := o) now index found
            (apart lease (List.mem_of_getElem? present))
          have fewer := expireLease_leases o now index lease s
          have inside (other : Lease) (member : other ∈ (expireLease o now index lease s).leases) :
              other ∈ s.leases := List.mem_of_mem_eraseIdx (fewer ▸ member)
          obtain ⟨spared, subset⟩ := hypothesis index turn.found fun other member => by
            rw [turn.kept]
            exact apart other (inside other member)
          exact ⟨turn.trans spared, fun other member => inside other (subset other member)⟩
        · exact hypothesis (index + 1) found apart

/-- The stream moved on, forgot its producer and told about it after the revocation of the lease. -/
structure Fenced (lease : Lease) (s s' : State) : Prop where
  removed : ∀ other ∈ s'.leases, other.leaseId ≠ lease.leaseId
  moved : ∃ stream stream', s.view lease.streamId = some stream ∧ s'.view lease.streamId = some stream' ∧
    stream.epoch < stream'.epoch ∧ stream'.producerLeaseId = 0 ∧ stream'.producerClientId = 0 ∧
    ∃ early notice result late,
      s'.world.log = s.world.log ++ early ++ .offered (.leaseRevoked notice) result :: late ∧
      notice.leaseId = lease.leaseId ∧ notice.streamId = lease.streamId ∧
      notice.clientId = lease.clientId ∧ notice.role = lease.role ∧
      AnnouncedOrFailed lease.streamId stream'.epoch late

/-- The turn of a producer moves its stream on. -/
theorem expireLease_turn {o : Oracle} {s : State} {lease : Lease} {index : Nat} (now : UInt64) (place : Nat)
    (producer : lease.role = .producer) (found : findStream s.streams lease.streamId = some index)
    (held : (s.streamAt index).producerLeaseId = lease.leaseId)
    (room : (s.streamAt index).epoch.toNat + 1 < 2 ^ 64)
    (announceable : Announceable o s.config (s.streamAt index) s.world.calls) :
    ∃ stream notice result late, findStream (expireLease o now place lease s).streams lease.streamId = some index ∧
      (expireLease o now place lease s).streamAt index = stream ∧
      (s.streamAt index).epoch < stream.epoch ∧ stream.producerLeaseId = 0 ∧ stream.producerClientId = 0 ∧
      (expireLease o now place lease s).world.log =
        s.world.log ++ .offered (.leaseRevoked notice) result :: late ∧
      notice.leaseId = lease.leaseId ∧ notice.streamId = lease.streamId ∧
      notice.clientId = lease.clientId ∧ notice.role = lease.role ∧
      AnnouncedOrFailed lease.streamId stream.epoch late := by
  obtain ⟨inside, named⟩ := findStream_inside found
  obtain ⟨notice, result, w, revoked, read, told, names⟩ := revokeLease_told o lease .expired "lease expired" s
  obtain ⟨config, -, streams, log⟩ := endLease_effect o place (findStream s.streams lease.streamId) lease now
    (revokeLease o lease .expired "lease expired" s)
  have lookup := endLease_lookup o place (findStream s.streams lease.streamId) lease now
    { s with world := w } lease.streamId
  have later := endLease_calls o place (some index) lease now { s with world := w }
  rw [revoked] at config streams log
  unfold expireLease
  dsimp only at config streams log ⊢
  rw [revoked, found, producer]
  rw [found] at config streams log lookup
  generalize endLease o place (some index) lease now { s with world := w } = m at config streams log lookup later ⊢
  change m.streams = s.streams.set index ((s.streamAt index).release lease) at streams
  have freed : m.streamAt index = { (s.streamAt index) with producerLeaseId := 0, producerClientId := 0 } := by
    have released : (s.streamAt index).release lease =
        { (s.streamAt index) with producerLeaseId := 0, producerClientId := 0 } := if_pos held
    rw [State.streamAt, streams, List.getD_eq_getElem _ _ (by simpa using inside), List.getElem_set_self, released]
  have foundAfter : findStream m.streams lease.streamId = some index := lookup
  have announceableAfter : Announceable o m.config (m.streamAt index) m.world.calls := by
    rw [config, freed]
    exact announceable.later (Nat.le_trans read later)
  obtain ⟨stream, events, written, core, -, -, log', announced⟩ := fenceStream_effect foundAfter announceableAfter
  have fields : stream.epoch = nextEpoch (o.clock m.world.calls) (s.streamAt index).epoch ∧
      stream.producerLeaseId = 0 ∧ stream.producerClientId = 0 ∧ stream.streamId = lease.streamId := by
    rw [← StreamState.core_epoch, ← StreamState.core_producerLeaseId, ← StreamState.core_producerClientId,
      ← StreamState.core_streamId, core, freed]
    exact ⟨rfl, rfl, rfl, named⟩
  have insideAfter : index < m.streams.length := (findStream_inside foundAfter).1
  have place' : (fenceStream o index m).streamAt index = stream := by
    rw [State.streamAt, written, List.getD_eq_getElem _ _ (by simpa using insideAfter), List.getElem_set_self]
  have kept : stream.streamId = (m.streamAt index).streamId :=
    fields.2.2.2.trans (findStream_inside foundAfter).2.symm
  refine ⟨stream, notice, result, .leaseEnded lease now :: events, ?_, place', ?_, fields.2.1, fields.2.2.1, ?_,
    names.1, names.2.1, names.2.2.1, names.2.2.2.trans producer, ?_⟩
  · change findStream (fenceStream o index m).streams lease.streamId = some index
    rw [written, findStream_set kept, foundAfter]
  · rw [fields.1]
    exact lt_nextEpoch room
  · change (fenceStream o index m).world.log = _
    rw [log', log, told, List.append_assoc, List.append_assoc]
    rfl
  · rw [fields.1]
    rw [freed] at announced
    refine announced.imp ?_ ?_
    · rintro ⟨file, sameId, sameEpoch, member⟩
      exact ⟨file, sameId, sameEpoch, List.mem_cons_of_mem _ member⟩
    · rintro ⟨announce, sent, sameId, sameEpoch, member⟩
      exact ⟨announce, sent, sameId, sameEpoch, List.mem_cons_of_mem _ member⟩

/-- A lease that has not expired stays in the table. -/
theorem expireLoop_keeps {o : Oracle} {now : UInt64} {lease : Lease} (current : lease.expired now = false)
    (remaining index : Nat) {s : State} (present : lease ∈ s.leases) :
    lease ∈ (expireLoop o now remaining index s).leases := by
  induction remaining generalizing index s with
  | zero => exact present
  | succ remaining hypothesis =>
      unfold expireLoop
      split
      · exact present
      next other there =>
        split
        next expired =>
          apply hypothesis
          rw [expireLease_leases]
          obtain ⟨place, inside, here⟩ := List.getElem_of_mem present
          have different : place ≠ index := by
            rintro rfl
            rw [List.getElem?_eq_getElem inside, here] at there
            rw [← Option.some.inj there, current] at expired
            cases expired
          exact List.mem_eraseIdx_iff_getElem.mpr ⟨place, inside, different, here⟩
        · exact hypothesis (index + 1) present

/-- An identifier without a repetition has one place. -/
theorem same_place {leases : List Lease} (distinct : (leases.map Lease.leaseId).Nodup) {first second : Nat}
    {left right : Lease} (atFirst : leases[first]? = some left) (atSecond : leases[second]? = some right)
    (same : left.leaseId = right.leaseId) : first = second := by
  obtain ⟨inside, -⟩ := List.getElem?_eq_some_iff.mp atFirst
  apply (List.getElem?_inj (by simpa using inside) distinct).mp
  rw [List.getElem?_map, List.getElem?_map, atFirst, atSecond, Option.map_some, Option.map_some, same]

/-- What the other leases of a table say about the stream of a producer. -/
structure Alone (lease : Lease) (index : Nat) (s : State) : Prop where
  found : findStream s.streams lease.streamId = some index
  held : (s.streamAt index).producerLeaseId = lease.leaseId
  distinct : (s.leases.map Lease.leaseId).Nodup
  nonzero : ∀ other ∈ s.leases, other.leaseId ≠ 0
  others : ∀ other ∈ s.leases, other ≠ lease → Bystander other (s.streamAt index)

/-- After the turn of the producer only bystanders are left. -/
theorem expireLoop_after {o : Oracle} {now : UInt64} {lease : Lease} {place : Nat} {s : State} (remaining index : Nat)
    (alone : Alone lease place s) (producer : lease.role = .producer) (present : s.leases[index]? = some lease)
    (room : (s.streamAt place).epoch.toNat + 1 < 2 ^ 64)
    (announceable : Announceable o s.config (s.streamAt place) s.world.calls) :
    Fenced lease s (expireLoop o now remaining index (expireLease o now index lease s)) := by
  obtain ⟨stream, notice, result, late, found, there, newer, freed, freedClient, log, names⟩ :=
    expireLease_turn now index producer alone.found alone.held room announceable
  have leases := expireLease_leases o now index lease s
  generalize expireLease o now index lease s = m at found there log leases ⊢
  have fewer (other : Lease) (member : other ∈ m.leases) : other ∈ s.leases ∧ other.leaseId ≠ lease.leaseId := by
    rw [leases] at member
    refine ⟨List.mem_of_mem_eraseIdx member, fun same => ?_⟩
    obtain ⟨other', within, different, is⟩ := List.mem_eraseIdx_iff_getElem.mp member
    exact different (same_place alone.distinct
      ((List.getElem?_eq_getElem within).trans (congrArg some is)) present same)
  have apart : ∀ other ∈ m.leases, Bystander other (m.streamAt place) := by
    intro other member same
    obtain ⟨old, different⟩ := fewer other member
    have named : (m.streamAt place).streamId = (s.streamAt place).streamId :=
      (findStream_inside found).2.trans (findStream_inside alone.found).2.symm
    refine ⟨(alone.others other old (fun equal => different (equal ▸ rfl)) (same.trans named)).1, ?_⟩
    rw [there, freed]
    exact (alone.nonzero other old).symm
  obtain ⟨spared, subset⟩ := expireLoop_spares (o := o) now remaining index found apart
  obtain ⟨more, rest⟩ := spared.log
  refine ⟨fun other member => (fewer other (subset other member)).2, (s.streamAt place).core, stream.core,
    view_found alone.found, ?_, newer, freed, freedClient, [], notice, result, late ++ more, ?_,
    names.1, names.2.1, names.2.2.1, names.2.2.2.1, ?_⟩
  · rw [spared.view found, view_found found, there]
  · rw [rest, log, List.append_nil, List.append_assoc]
    rfl
  · refine names.2.2.2.2.imp ?_ ?_
    · rintro ⟨file, sameId, sameEpoch, member⟩
      exact ⟨file, sameId, sameEpoch, List.mem_append_left _ member⟩
    · rintro ⟨announce, sent, sameId, sameEpoch, member⟩
      exact ⟨announce, sent, sameId, sameEpoch, List.mem_append_left _ member⟩

/-- The pass fences the stream of every expired producer that it reaches. -/
theorem expireLoop_fences {o : Oracle} {now : UInt64} {lease : Lease} {place : Nat} (remaining index : Nat)
    {s : State} (alone : Alone lease place s) (producer : lease.role = .producer)
    (expired : lease.expired now = true) (target : Nat) (ahead : index ≤ target)
    (present : s.leases[target]? = some lease) (enough : s.leases.length ≤ remaining + index)
    (room : (s.streamAt place).epoch.toNat + 1 < 2 ^ 64)
    (announceable : Announceable o s.config (s.streamAt place) s.world.calls) :
    Fenced lease s (expireLoop o now remaining index s) := by
  induction remaining generalizing index target s with
  | zero =>
      obtain ⟨inside, -⟩ := List.getElem?_eq_some_iff.mp present
      omega
  | succ remaining hypothesis =>
      obtain ⟨inside, here⟩ := List.getElem?_eq_some_iff.mp present
      have within : index < s.leases.length := by omega
      rw [expireLoop, List.getElem?_eq_getElem within]
      dsimp only
      rcases Nat.lt_or_eq_of_le ahead with later | rfl
      · have different : s.leases[index] ≠ lease := by
          intro same
          have equal := same_place alone.distinct (List.getElem?_eq_getElem within) present
            (congrArg Lease.leaseId same)
          omega
        split
        · have turn := expireLease_spares (o := o) now index alone.found
            (alone.others _ (List.getElem_mem within) different)
          have leases := expireLease_leases o now index s.leases[index] s
          have same := turn.view alone.found
          generalize expireLease o now index s.leases[index] s = m at turn leases same ⊢
          have old (other : Lease) (member : other ∈ m.leases) : other ∈ s.leases :=
            List.mem_of_mem_eraseIdx (leases ▸ member)
          have length : m.leases.length = s.leases.length - 1 := by rw [leases, List.length_eraseIdx_of_lt within]
          have alone' : Alone lease place m := by
            refine ⟨turn.found, turn.kept ▸ alone.held, ?_,
              fun other member => alone.nonzero other (old other member),
                fun other member => turn.kept ▸ alone.others other (old other member)⟩
            rw [leases]
            exact alone.distinct.sublist ((List.eraseIdx_sublist _ _).map _)
          have moved : m.leases[target - 1]? = some lease := by
            rw [leases, List.getElem?_eraseIdx_of_ge (by omega), Nat.sub_add_cancel (by omega), present]
          have fenced := hypothesis index alone' (target - 1) (by omega) moved (by omega) (turn.kept ▸ room)
            (turn.config ▸ turn.kept ▸ announceable.later turn.calls)
          obtain ⟨stream, stream', known, known', newer, freed, freedClient, early, notice, result, late, log,
            names⟩ :=
            fenced.moved
          obtain ⟨events, grown⟩ := turn.log
          refine ⟨fenced.removed, stream, stream', same ▸ known, known', newer, freed, freedClient, events ++ early,
            notice, result, late, ?_, names⟩
          rw [log, grown, List.append_assoc s.world.log]
        · exact hypothesis (index + 1) alone target (by omega) present (by omega) room announceable
      · rw [here, if_pos expired]
        exact expireLoop_after remaining index alone producer present room announceable

/-- A producer of an orderly state is alone at the stream that it found. -/
theorem alone_of_orderly {past : List Label} {s : State} (orderly : Orderly past s)
    (few : past.countP Label.draws < 2 ^ 64) {lease : Lease} (present : lease ∈ s.leases)
    (producer : lease.role = .producer) : ∃ index, Alone lease index s := by
  have sound := orderly.book few
  have distinct : (s.leases.map Lease.leaseId).Nodup := by
    have ids := sound.ids
    rw [State.book, List.map_map] at ids
    exact ids
  have exclusive (other : Lease) (same : other.role = .producer) : other.entry.exclusive = true := by
    rw [Lease.entry, same]
    rfl
  have holder := (sound.held lease.streamId lease.leaseId lease.clientId).mpr
    ⟨lease.entry, List.mem_map_of_mem present, exclusive lease producer, rfl, rfl, rfl⟩
  change (s.view lease.streamId).bind StreamState.holder = _ at holder
  obtain ⟨stream, known, holds⟩ := Option.bind_eq_some_iff.mp holder
  obtain ⟨index, found, core⟩ := view_eq_some.mp known
  have held : (s.streamAt index).producerLeaseId = lease.leaseId := by
    rw [StreamState.holder] at holds
    split at holds
    · cases holds
    · rw [← StreamState.core_producerLeaseId, core]
      exact congrArg Prod.fst (Option.some.inj holds)
  refine ⟨index, found, held, distinct, orderly.numbered.nonzero, fun other member different same => ?_⟩
  have unequal : other.leaseId ≠ lease.leaseId := fun equal =>
    different (List.inj_on_of_nodup_map distinct member present equal)
  refine ⟨fun otherProducer => unequal ?_, held ▸ unequal.symm⟩
  exact congrArg Ledger.Entry.id (sound.exclusive (List.mem_map_of_mem member) (List.mem_map_of_mem present)
    (exclusive other otherProducer) (exclusive lease producer) (same.trans (findStream_inside found).2))

/-- A trace without an end keeps every identifier in the table. -/
theorem kept_trace {o : Oracle} {labels : List Label} {s s' : State} (path : Trace (Change o) labels s s')
    (lasting : ∀ label ∈ labels, ∀ lease, label ≠ .finish lease) {lease : Lease} (present : lease ∈ s.leases) :
    ∃ other ∈ s'.leases, other.leaseId = lease.leaseId := by
  induction path with
  | nil => exact ⟨lease, present, rfl⟩
  | @snoc labels s m s' label path last hypothesis =>
      obtain ⟨other, member, same⟩ := hypothesis (fun label member => lasting label (by simp [member])) present
      cases last with
      | talk quiet => exact ⟨other, quiet.leases ▸ member, same⟩
      | provision quiet => exact ⟨other, quiet.leases ▸ member, same⟩
      | renew _ stable => exact ⟨other, stable.2.1 ▸ member, same⟩
      | waste stable => exact ⟨other, stable.2 ▸ member, same⟩
      | grant _ _ _ leases => exact ⟨other, by rw [leases]; exact List.mem_append_left _ member, same⟩
      | finish => exact absurd rfl (lasting _ (List.mem_append_right labels (List.mem_singleton_self _)) _)
      | extend _ leases =>
          have image : other.identity ∈ m.leases.map Lease.identity := List.mem_map_of_mem member
          rw [← leases] at image
          obtain ⟨new, inside, identity⟩ := List.mem_map.mp image
          exact ⟨new, inside, (Lease.same_identity identity).1.trans same⟩

/-- An accepted detach takes its lease out and frees its stream, which keeps its epoch. -/
theorem handleDetach_effect {o : Oracle} {request : DetachRequest} {s : State} {role : Role} {index : Nat}
    {lease : Lease} (asked : request.role = some role)
    (owned : ownedLease s.leases request.leaseId request.streamId request.clientId role = some (index, lease)) :
    (handleDetach o request s).2.leases = s.leases.eraseIdx index ∧
      (handleDetach o request s).2.streams =
        (releaseProducer (findStream s.streams request.streamId) lease s).streams := by
  have unfenced (target : Option Nat) (m : State) :
      fenceFreed o ((0 : UInt8) == Role.producer.code) target m = m := by cases target <;> rfl
  unfold handleDetach
  rw [asked]
  dsimp only
  rw [owned]
  dsimp only
  rw [unfenced]
  obtain ⟨-, leases, streams, -⟩ := endLease_effect o index (findStream s.streams request.streamId) lease
    (o.clock (revokeLease o lease .detached "lease detached" s).world.calls)
    { revokeLease o lease .detached "lease detached" s with
      world := (revokeLease o lease .detached "lease detached" s).world.called }
  refine ⟨leases, streams.trans ?_⟩
  cases findStream s.streams request.streamId <;> rfl

/-- Every producer whose lease ends in this operation leaves a fenced stream. -/
def FencesEnds (o : Oracle) (s : State) (op : Op) : Prop :=
  ∀ lease ∈ s.leases, lease.role = .producer →
    (∀ other ∈ (step o s op).leases, other.leaseId ≠ lease.leaseId) → Fenced lease s (step o s op)

/--
Producers end by their expiry only, at streams whose epoch can still grow and whose next announce can be
encoded.
-/
def EndsByExpiry (o : Oracle) (s : State) : Op → Prop
  | .detach request => request.role = some .producer →
      ownedLease s.leases request.leaseId request.streamId request.clientId .producer = none
  | .expire => ∀ lease ∈ s.leases, lease.role = .producer → lease.expired (o.clock s.world.calls) = true →
      ∀ index, findStream s.streams lease.streamId = some index →
        (s.streamAt index).epoch.toNat + 1 < 2 ^ 64 ∧
          Announceable o s.config (s.streamAt index) s.world.calls
  | _ => True

/-- A pass over expired leases fences the stream of every producer that it ends. -/
theorem expire_fences {o : Oracle} {past : List Label} {s : State} (orderly : Orderly past s)
    (few : past.countP Label.draws < 2 ^ 64) (safe : EndsByExpiry o s .expire) : FencesEnds o s .expire := by
  intro lease present producer ended
  obtain ⟨index, alone⟩ := alone_of_orderly orderly few present producer
  obtain ⟨target, inside, here⟩ := List.getElem_of_mem present
  have expired : lease.expired (o.clock s.world.calls) = true := by
    by_contra current
    exact ended lease (expireLoop_keeps (by simpa using current) s.leases.length 0 present) rfl
  obtain ⟨room, announceable⟩ := safe lease present producer expired index alone.found
  have read : Alone lease index { s with world := s.world.called } :=
    ⟨alone.found, alone.held, alone.distinct, alone.nonzero, alone.others⟩
  have fenced := expireLoop_fences s.leases.length 0 read producer expired target (Nat.zero_le _)
    ((List.getElem?_eq_getElem inside).trans (congrArg some here)) (Nat.le_refl _) room
    (announceable.later (Nat.le_succ _))
  exact ⟨fenced.removed, fenced.moved⟩

/-- A detach that is no producer's ends no producer. -/
theorem detach_fences {o : Oracle} {s : State} {request : DetachRequest}
    (safe : EndsByExpiry o s (.detach request)) : FencesEnds o s (.detach request) := by
  intro lease present producer ended
  have stays (same : (handleDetach o request s).2.leases = s.leases) : Fenced lease s (step o s (.detach request)) :=
    absurd rfl (ended lease (same ▸ present))
  rcases asked : request.role with _ | role
  · apply stays
    rw [handleDetach, asked]
    rfl
  · rcases owned : ownedLease s.leases request.leaseId request.streamId request.clientId role with _ | ⟨index, gone⟩
    · apply stays
      rw [handleDetach, asked]
      dsimp only
      rw [owned]
      rfl
    · have notProducer : role ≠ .producer := by
        rintro rfl
        rw [safe asked] at owned
        cases owned
      obtain ⟨there, -, -, -, -, goneRole⟩ := ownedLease_some owned
      obtain ⟨leases, -⟩ := handleDetach_effect (o := o) asked owned
      obtain ⟨place, inside, here⟩ := List.getElem_of_mem present
      have different : place ≠ index := by
        rintro rfl
        rw [List.getElem?_eq_getElem inside, here] at there
        rw [← Option.some.inj there, producer] at goneRole
        exact notProducer goneRole.symm
      refine absurd rfl (ended lease ?_)
      change lease ∈ (handleDetach o request s).2.leases
      rw [leases]
      exact List.mem_eraseIdx_iff_getElem.mpr ⟨place, inside, different, here⟩

/-- The detach of a producer takes its lease away and leaves the epoch of its stream. -/
theorem detach_unfenced {o : Oracle} {past : List Label} {s : State} (orderly : Orderly past s)
    (few : past.countP Label.draws < 2 ^ 64) {request : DetachRequest}
    (slipped : ¬ EndsByExpiry o s (.detach request)) :
    ¬ FencesEnds o s (.detach request) := by
  intro fences
  simp only [EndsByExpiry, Classical.not_imp] at slipped
  obtain ⟨asked, accepted⟩ := slipped
  obtain ⟨⟨index, lease⟩, owned⟩ := Option.ne_none_iff_exists'.mp accepted
  obtain ⟨there, -, -, named, -, producer⟩ := ownedLease_some owned
  have present := List.mem_of_getElem? there
  obtain ⟨place, alone⟩ := alone_of_orderly orderly few present producer
  obtain ⟨leases, streams⟩ := handleDetach_effect (o := o) asked owned
  have fenced := fences lease present producer fun other member same => by
    change other ∈ (handleDetach o request s).2.leases at member
    rw [leases] at member
    obtain ⟨spot, inside, different, is⟩ := List.mem_eraseIdx_iff_getElem.mp member
    exact different (same_place alone.distinct
      ((List.getElem?_eq_getElem inside).trans (congrArg some is)) there same)
  obtain ⟨stream, stream', known, known', newer, -⟩ := fenced.moved
  have view : (step o s (.detach request)).view lease.streamId =
      (s.view lease.streamId).map fun stream => stream.release lease := by
    have released := congrFun (releaseProducer_view lease s) lease.streamId
    rw [Function.update_self, named] at released
    rw [← named] at streams
    exact (congrFun (view_congr (s := releaseProducer _ lease s) streams) _).trans (named ▸ released)
  rw [view, known, Option.map_some] at known'
  have kept : (stream.release lease).epoch = stream.epoch := by
    unfold StreamState.release
    split <;> rfl
  rw [← Option.some.inj known', kept] at newer
  exact absurd newer (by simp)

/-- An operation that ends no lease fences nothing and owes nothing. -/
theorem kept_fences {o : Oracle} {s : State} {op : Op} {labels : List Label}
    (path : Trace (Change o) labels s (step o s op)) (lasting : ∀ label ∈ labels, ∀ lease, label ≠ .finish lease) :
    FencesEnds o s op := by
  intro lease present _ ended
  obtain ⟨other, member, same⟩ := kept_trace path lasting present
  exact absurd same (ended other member)

/--
In every run the end of a producer fences its stream when the lease ended by its expiry, and the
detach of a producer never does.
-/
theorem run_fences (o : Oracle) (config : Config) (started : Bool) (ops : List Op) (op : Op)
    (few : ops.countP Op.attaches < 2 ^ 64) :
    (EndsByExpiry o (run o (boot o config started) ops) op →
      FencesEnds o (run o (boot o config started) ops) op) ∧
    ∀ request, op = .detach request → FencesEnds o (run o (boot o config started) ops) op →
      EndsByExpiry o (run o (boot o config started) ops) op := by
  obtain ⟨past, orderly, drawn⟩ := run_orderly o config started ops
  have short := Nat.lt_of_le_of_lt drawn few
  generalize run o (boot o config started) ops = s at orderly ⊢
  constructor
  · intro safe
    cases op with
    | attach request =>
        obtain ⟨labels, path, attempted⟩ := handleAttach_trace o request s
        exact kept_fences path attempted.kinds
    | detach request => exact detach_fences safe
    | keepalive request =>
        obtain ⟨labels, path, kinds⟩ := handleKeepalive_trace o request s
        refine kept_fences path fun label member lease => ?_
        rw [kinds label member]
        simp
    | expire => exact expire_fences orderly short safe
    | announce =>
        obtain ⟨labels, path, kinds⟩ := announceTick_trace (o := o) orderly.tidy
        refine kept_fences path fun label member lease => ?_
        rw [kinds label member]
        simp
  · rintro request rfl fences
    by_contra slipped
    exact detach_unfenced orderly short slipped fences

/-- This clock jumps past the expiry of every lease that was granted before. -/
def jumpOracle (calls : Nat) : Oracle :=
  { plainOracle with clock := fun call => if call < calls then 100 else 9000000000 }

theorem run_fences_expire :
    FencesEnds (jumpOracle 11) (run (jumpOracle 11) (boot (jumpOracle 11) plainConfig false)
      [.attach (plainRequest 1 .producer)]) .expire ∧
    (step (jumpOracle 11) (run (jumpOracle 11) (boot (jumpOracle 11) plainConfig false)
      [.attach (plainRequest 1 .producer)]) .expire).leases = [] := by
  refine ⟨?_, by decide +kernel⟩
  apply (run_fences (jumpOracle 11) plainConfig false [.attach (plainRequest 1 .producer)] .expire (by decide)).1
  intro lease present producer expired index found
  have inside := (findStream_inside found).1
  have one : (run (jumpOracle 11) (boot (jumpOracle 11) plainConfig false)
      [.attach (plainRequest 1 .producer)]).streams.length = 1 := by decide +kernel
  obtain rfl : index = 0 := by omega
  refine ⟨by decide +kernel, fun call _ => ?_⟩
  have reads : (jumpOracle 11).clock call = 100 ∨ (jumpOracle 11).clock call = 9000000000 := ite_eq_or_eq ..
  rcases reads with early | late
  · rw [early]
    decide +kernel
  · rw [late]
    decide +kernel

theorem run_fences_detach :
    ¬ FencesEnds plainOracle (run plainOracle (boot plainOracle plainConfig false)
      [.attach (plainRequest 1 .producer)]) (.detach (plainDetach 6 1 .producer)) := by
  intro fences
  have fenced := fences (plainLease 6 1 .producer) (by decide +kernel) rfl (by decide +kernel)
  obtain ⟨stream, stream', known, known', newer, -⟩ := fenced.moved
  have before : ((run plainOracle (boot plainOracle plainConfig false)
      [.attach (plainRequest 1 .producer)]).view 1).map StreamState.epoch = some 100 := by decide +kernel
  have after : ((step plainOracle (run plainOracle (boot plainOracle plainConfig false)
      [.attach (plainRequest 1 .producer)]) (.detach (plainDetach 6 1 .producer))).view 1).map StreamState.epoch =
      some 100 := by decide +kernel
  rw [show (plainLease 6 1 .producer).streamId = 1 from rfl] at known known'
  rw [known, Option.map_some] at before
  rw [known', Option.map_some] at after
  rw [Option.some.inj before, Option.some.inj after] at newer
  exact absurd newer (by decide)

end TensorPool.Driver
