/-
This file says which regions exist when the driver advertises them.
-/

import TensorPool.Driver.Refusal

namespace TensorPool.Driver

/-- A creation of the advertised epoch failed. -/
def Failed (advert : Advert) (log : List Event) : Prop :=
  ∃ file, file.streamId = advert.streamId ∧ file.epoch = advert.epoch ∧ .regionFailed file ∈ log

/-- Every advertised file was created, and no collection has touched its epoch since. -/
def Backed (advert : Advert) (log : List Event) : Prop :=
  ∃ early late, log = early ++ late ∧ (∀ file ∈ advert.files, .regionCreated file ∈ late) ∧
    ∀ complete, .epochRemoved advert.streamId advert.epoch complete ∉ late

/-- An advert is backed when it is sent, unless the creation of its epoch failed before. -/
def BackedUnlessFailed (past : List Event) (event : Event) : Prop :=
  ∀ message result advert, event = .offered message result → message.advert = some advert →
    Failed advert past ∨ Backed advert past

/-- The regions of every active stream are there or failed, and so were those of every advert. -/
structure Backing (s : State) : Prop where
  streams : ∀ streamId stream, s.view streamId = some stream → Active s.world.log stream →
    Failed stream.advert s.world.log ∨ Backed stream.advert s.world.log
  bumped : ∀ streamId epoch, .epochBumped streamId epoch ∈ s.world.log → s.view streamId ≠ none
  adverts : Journal.Along BackedUnlessFailed s.world.log

/-- A longer log keeps a failure, and it keeps a backed epoch that it does not remove. -/
theorem backed_grows {allowed : Event → Prop} {advert : Advert} {log log' : List Event}
    (growth : Journal.Grows allowed log log')
    (spared : ∀ event, allowed event → ∀ complete, event ≠ .epochRemoved advert.streamId advert.epoch complete)
    (backed : Failed advert log ∨ Backed advert log) : Failed advert log' ∨ Backed advert log' := by
  rcases backed with ⟨file, streamId, epoch, failed⟩ | ⟨early, late, split, created, kept⟩
  · exact .inl ⟨file, streamId, epoch, growth.keeps failed⟩
  · obtain ⟨added, grown, admitted⟩ := growth
    refine .inr ⟨early, late ++ added, ?_, fun file member => ?_, fun complete removed => ?_⟩
    · rw [grown, split, List.append_assoc]
    · exact List.mem_append_left _ (created file member)
    · rcases List.mem_append.mp removed with inLate | inAdded
      · exact kept complete inLate
      · exact spared _ (admitted _ inAdded) complete rfl

/-- An event without a message is no advert. -/
theorem unsaid_backed {past : List Event} {event : Event}
    (unsaid : ∀ message result, event ≠ .offered message result) :
    BackedUnlessFailed past event := fun message result _ same => absurd same (unsaid message result)

theorem init_backing (config : Config) : Backing (init config) where
  streams streamId stream known active := by
    rcases active with started | bumped
    · exact absurd (init_view known).1 started
    · cases bumped
  bumped streamId epoch member := by cases member
  adverts := .nil

/-- Messages about active streams are backed, and a collection spares what is active. -/
theorem Backing.talk {s s' : State} (backing : Backing s) (growth : Journal.Grows (Talk s) s.world.log s'.world.log)
    (view : s'.view = s.view) : Backing s' := by
  have unbumped {streamId : UInt32} {epoch : UInt64} (member : .epochBumped streamId epoch ∈ s'.world.log) :
      .epochBumped streamId epoch ∈ s.world.log := by
    rcases growth.source member with old | new
    · exact old
    · cases new
  have keeps {streamId : UInt32} {stream : StreamState} (known : s.view streamId = some stream)
      {log : List Event} (grown : Journal.Grows (Talk s) s.world.log log)
      (backed : Failed stream.advert s.world.log ∨ Backed stream.advert s.world.log) :
      Failed stream.advert log ∨ Backed stream.advert log := by
    refine backed_grows grown (fun event admitted complete same => ?_) backed
    subst same
    cases admitted with
    | removed stale different =>
        refine different stream ?_ rfl
        exact (congrArg s.view (view_identity known).2).trans known
  refine ⟨fun streamId stream known active => ?_, fun streamId epoch member => ?_, ?_⟩
  · rw [view] at known
    exact keeps known growth (backing.streams streamId stream known (active.imp id unbumped))
  · rw [view]
    exact backing.bumped streamId epoch (unbumped member)
  · refine backing.adverts.grows growth fun past event grown admitted => ?_
    rintro message result advert rfl said
    cases admitted with
    | silent _ quiet =>
        rw [quiet] at said
        cases said
    | advert _ known active described =>
        rw [described] at said
        cases said
        exact keeps known grown (backing.streams _ _ known active)

/-- These events are about leases alone. -/
def Event.aboutLeases : Event → Prop
  | .leaseGranted _ _ | .leaseEnded _ _ => True
  | _ => False

/-- A change of leases and of producers keeps the regions. -/
theorem Backing.lease {s s' : State} (backing : Backing s)
    (growth : Journal.Grows Event.aboutLeases s.world.log s'.world.log)
    (view : ∀ streamId, (s'.view streamId).map StreamState.advert = (s.view streamId).map StreamState.advert) :
    Backing s' := by
  have unbumped {streamId : UInt32} {epoch : UInt64} (member : .epochBumped streamId epoch ∈ s'.world.log) :
      .epochBumped streamId epoch ∈ s.world.log := by
    rcases growth.source member with old | new
    · exact old
    · exact new.elim
  refine ⟨fun streamId stream known active => ?_, fun streamId epoch member => ?_, ?_⟩
  · have image := view streamId
    rw [known, Option.map_some] at image
    obtain ⟨old, there, same⟩ := Option.map_eq_some_iff.mp image.symm
    have fields : old.streamId = stream.streamId ∧ old.epoch = stream.epoch :=
      ⟨congrArg Advert.streamId same, congrArg Advert.epoch same⟩
    rw [← same]
    refine backed_grows growth (fun event admitted complete removed => ?_) (backing.streams streamId old there ?_)
    · rw [removed] at admitted
      exact admitted.elim
    · rw [Active, fields.1, fields.2]
      exact active.imp id unbumped
  · intro gone
    have image := view streamId
    rw [gone, Option.map_none] at image
    exact backing.bumped streamId epoch (unbumped member) (Option.map_eq_none_iff.mp image.symm)
  · refine backing.adverts.grows growth fun past event _ admitted => unsaid_backed fun message result same => ?_
    rw [same] at admitted
    exact admitted.elim

/-- A new epoch has its regions, or one of them failed. -/
theorem Backing.renew {s s' : State} (backing : Backing s) {streamId : UInt32} {stream : StreamState} {epoch : UInt64}
    {events : List Event} (known : s.view streamId = some stream)
    (view : s'.view = Function.update s.view streamId (some { stream with epoch := epoch }))
    (log : s'.world.log = s.world.log ++ .epochBumped streamId epoch :: events)
    (renewal : Renewal streamId epoch { stream with epoch := epoch }.files events) : Backing s' := by
  have named := (view_identity known).2
  have growth : Journal.Grows (fun event => event = .epochBumped streamId epoch ∨
      RegionEvent streamId epoch { stream with epoch := epoch }.files event) s.world.log s'.world.log :=
    ⟨_, log, fun event member => (List.mem_cons.mp member).imp id (renewal.1 event)⟩
  refine ⟨fun other viewed there active => ?_, fun other bumped member => ?_, ?_⟩
  · rw [view] at there
    by_cases here : other = streamId
    · rw [here, Function.update_self] at there
      cases there
      rcases renewal.2 with ⟨file, sameStream, sameEpoch, failed⟩ | created
      · refine .inl ⟨file, sameStream.trans named.symm, sameEpoch, ?_⟩
        rw [log]
        exact List.mem_append_right _ (List.mem_cons_of_mem _ failed)
      · refine .inr ⟨s.world.log, .epochBumped streamId epoch :: events, log, fun file member => ?_,
          fun complete removed => ?_⟩
        · exact List.mem_cons_of_mem _ (created file member)
        · rcases List.mem_cons.mp removed with absurdity | inside
          · cases absurdity
          · cases renewal.1 _ inside with
            | removed stale different => exact different rfl
    · rw [Function.update_of_ne here] at there
      have different : viewed.streamId ≠ streamId := (view_identity there).2.symm ▸ here
      have active' : Active s.world.log viewed := by
        refine active.imp id fun member => ?_
        rcases growth.source member with old | same | region
        · exact old
        · cases same
          exact absurd rfl different
        · cases region
      refine backed_grows growth (fun event admitted complete removed => ?_)
        (backing.streams other viewed there active')
      rw [removed] at admitted
      rcases admitted with same | region
      · cases same
      · cases region
        exact different rfl
  · rw [view]
    by_cases here : other = streamId
    · rw [here, Function.update_self]
      simp
    · rw [Function.update_of_ne here]
      rcases growth.source member with old | same | region
      · exact backing.bumped other bumped old
      · cases same
        exact absurd rfl here
      · cases region
  · refine backing.adverts.grows growth fun past event _ admitted => unsaid_backed fun message result same => ?_
    rw [same] at admitted
    rcases admitted with absurdity | region
    · cases absurdity
    · cases region

/-- An update that keeps the advert of its stream keeps every advert. -/
theorem advert_update {view : UInt32 → Option StreamState} {streamId : UInt32} {stream : Option StreamState}
    (same : stream.map StreamState.advert = (view streamId).map StreamState.advert) (other : UInt32) :
    (Function.update view streamId stream other).map StreamState.advert =
      (view other).map StreamState.advert := by
  by_cases here : other = streamId
  · rw [here, Function.update_self, same]
  · rw [Function.update_of_ne here]

theorem StreamState.claim_advert (stream : StreamState) (lease : Lease) :
    (stream.claim lease).advert = stream.advert := by
  unfold StreamState.claim
  split <;> rfl

theorem StreamState.release_advert (stream : StreamState) (lease : Lease) :
    (stream.release lease).advert = stream.advert := by
  unfold StreamState.release
  split <;> rfl

/-- Every change keeps the regions of what is active. -/
theorem Backing.change {o : Oracle} {label : Label} {s s' : State} (backing : Backing s)
    (change : Change o label s s') : Backing s' := by
  cases change with
  | talk quiet view => exact backing.talk quiet.world.log view
  | provision quiet fresh view =>
      rename_i streamId profile
      have log : s'.world.log = s.world.log := by
        obtain ⟨added, grown, none⟩ := quiet.world.log
        rw [grown, List.eq_nil_iff_forall_not_mem.mpr none, List.append_nil]
      refine ⟨fun other stream there active => ?_, fun other epoch member => ?_, log ▸ backing.adverts⟩
      · rw [view] at there
        rw [log] at active ⊢
        by_cases here : other = streamId
        · rw [here, Function.update_self] at there
          cases there
          rcases active with started | bumped
          · exact absurd rfl started
          · exact absurd fresh (backing.bumped streamId 0 bumped)
        · rw [Function.update_of_ne here] at there
          exact backing.streams other stream there active
      · rw [view]
        by_cases here : other = streamId
        · rw [here, Function.update_self]
          simp
        · rw [Function.update_of_ne here]
          exact backing.bumped other epoch (log ▸ member)
  | renew known _ _ _ _ view log renewal => exact backing.renew known view log renewal
  | waste _ _ streams _ log =>
      exact backing.lease (log ▸ .refl _ _) fun streamId => by rw [view_congr streams]
  | grant known _ _ _ _ _ _ _ view log =>
      refine backing.lease ⟨_, log, fun event member => ?_⟩ fun streamId => ?_
      · rw [List.mem_singleton.mp member]
        trivial
      · rw [view]
        exact advert_update (by rw [known, Option.map_some, Option.map_some, StreamState.claim_advert]) streamId
  | finish _ _ _ _ view log =>
      refine backing.lease ⟨_, log, fun event member => ?_⟩ fun streamId => ?_
      · rw [List.mem_singleton.mp member]
        trivial
      · rw [view]
        refine advert_update ?_ streamId
        rw [Option.map_map]
        congr 1
        funext stream
        exact stream.release_advert _
  | extend _ _ _ streams _ log =>
      exact backing.lease (log ▸ .refl _ _) fun streamId => by rw [view_congr streams]

/-- Every reachable state has the regions of what it advertised. -/
theorem run_backing (o : Oracle) (config : Config) (started : Bool) (ops : List Op) :
    Backing (run o (boot o config started) ops) := by
  obtain ⟨early, booted, -⟩ := boot_trace o config started
  obtain ⟨late, path, -⟩ := run_trace (o := o) (boot_tidy o config started) ops
  exact (booted.append path).keeps (fun _ _ _ backing change => backing.change change) (init_backing config)

/--
Every announce and every granted response of a run is backed by the regions that it describes, when no
creation of its epoch failed before.
-/
theorem run_adverts_backed (o : Oracle) (config : Config) (started : Bool) (ops : List Op)
    {past rest : List Event} {message : Message} {result : Int} {advert : Advert}
    (split : (run o (boot o config started) ops).world.log = past ++ .offered message result :: rest)
    (said : message.advert = some advert) (whole : ¬ Failed advert past) : Backed advert past :=
  ((run_backing o config started ops).adverts past _ rest split message result advert rfl said).resolve_left whole

/-- This is the announce of the plain stream at its first epoch. -/
def plainAnnounce (producerId : UInt32) : PoolAnnounce where
  streamId := 1
  producerId := producerId
  epoch := 100
  announceTimestampNs := 100
  layoutVersion := 1
  headerNslots := 8
  headerSlotBytes := 256
  payloadPools := [⟨1, 8, 64,
    ⟨"shm:file?path=/dev/shm/tensorpool-unknown/default/1/100/1.pool|require_hugepages=false", .whole⟩⟩]
  headerRegionUri :=
    ⟨"shm:file?path=/dev/shm/tensorpool-unknown/default/1/100/header.ring|require_hugepages=false", .whole⟩

/-- These are the files of the plain stream at its first epoch. -/
def plainAdvert : Advert := ⟨1, 100, describedFiles 1 100 8 256 (plainAnnounce 0).payloadPools⟩

/-- The log of one granted producer. -/
def plainLog : List Event :=
  (run plainOracle (boot plainOracle plainConfig false) [.attach (plainRequest 1 .producer)]).world.log

/-- A failed creation is the only event that this test accepts. -/
def Event.isFailure : Event → Bool
  | .regionFailed _ => true
  | _ => false

theorem run_adverts_backed_plain : Backed plainAdvert (plainLog.take 4) :=
  @run_adverts_backed plainOracle plainConfig false [.attach (plainRequest 1 .producer)] (plainLog.take 4)
    (plainLog.drop 5) (.poolAnnounce (plainAnnounce 1)) 1 plainAdvert (by decide +kernel) (by decide +kernel)
    (by
      rintro ⟨file, -, -, failed⟩
      have none : ∀ event ∈ plainLog.take 4, event.isFailure = false := by
        decide +kernel
      exact absurd (none _ failed) Bool.noConfusion)

/-- The run of a producer whose regions cannot be written, and then of an announce tick. -/
def brokenRun : State :=
  run brokenOracle (boot brokenOracle plainConfig false) [.attach (plainRequest 1 .producer), .announce]

/-- After a failed creation the announce tick advertises regions that no creation made. -/
theorem announced_unbacked :
    brokenRun.world.log = brokenRun.world.log.take 3 ++ .offered (.poolAnnounce (plainAnnounce 0)) 1 :: [] ∧
      ¬ Backed plainAdvert (brokenRun.world.log.take 3) := by
  constructor
  · decide +kernel
  · rintro ⟨early, late, split, created, -⟩
    have missing : Event.regionCreated ⟨1, 100, .headerRing, 0, 8, 256, 0⟩ ∉ brokenRun.world.log.take 3 := by
      decide +kernel
    have member := created ⟨1, 100, .headerRing, 0, 8, 256, 0⟩ (by decide)
    exact missing (split ▸ List.mem_append_right early member)

end TensorPool.Driver
