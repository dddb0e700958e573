/-
This file says what the checks of an attach read and what they leave behind.
-/

import TensorPool.Driver.LeaseTrace

namespace TensorPool.Driver

open Attempt

/-- A check reads the clock and the system and may drop old cooldowns, and nothing else. -/
structure Reads (o : Oracle) (s s' : State) : Prop where
  config : s'.config = s.config
  leases : s'.leases = s.leases
  leaseCapacity : s'.leaseCapacity = s.leaseCapacity
  leaseCounter : s'.leaseCounter = s.leaseCounter
  streams : s'.streams = s.streams
  ranges : s'.streamIdRanges = s.streamIdRanges
  log : s'.world.log = s.world.log
  calls : s.world.calls ≤ s'.world.calls
  cooled : Cooled o s s'

namespace Reads

variable {o : Oracle} {s m s' : State}

theorem refl (o : Oracle) (s : State) : Reads o s s :=
  ⟨rfl, rfl, rfl, rfl, rfl, rfl, rfl, Nat.le_refl _, .refl o s⟩

theorem trans (first : Reads o s m) (second : Reads o m s') : Reads o s s' :=
  ⟨second.config.trans first.config, second.leases.trans first.leases,
    second.leaseCapacity.trans first.leaseCapacity, second.leaseCounter.trans first.leaseCounter,
    second.streams.trans first.streams, second.ranges.trans first.ranges, second.log.trans first.log,
    Nat.le_trans first.calls second.calls, first.cooled.trans second.cooled second.calls⟩

theorem called (o : Oracle) (s : State) : Reads o s { s with world := s.world.called } :=
  ⟨rfl, rfl, rfl, rfl, rfl, rfl, rfl, Nat.le_succ _, fun _ member => .inl member⟩

/-- Readings leave the view. -/
theorem view (reads : Reads o s s') : s'.view = s.view := view_congr reads.streams

/-- Readings leave the streams. -/
theorem streamAt (reads : Reads o s s') (index : Nat) : s'.streamAt index = s.streamAt index := by
  rw [State.streamAt, State.streamAt, reads.streams]

/-- A check is talk without words. -/
theorem talk (reads : Reads o s s') : Change o .talk s s' :=
  .talk ⟨reads.config, reads.leases, reads.leaseCounter, ⟨reads.calls, reads.log ▸ .refl _ _⟩,
    reads.cooled, fun tidy => tidy.congr reads.streams⟩ reads.view

end Reads

/-- A pruned entry has been reached by the reading of the clock that pruned it. -/
theorem cooled_prune {o : Oracle} {s s' : State} (call : Nat)
    (pruned : s'.nodeIdCooldowns = pruneNodeIdCooldowns s.nodeIdCooldowns (o.clock call))
    (read : call < s'.world.calls) : Cooled o s s' := by
  intro cooldown member
  by_cases later : o.clock call < cooldown.expiresNs
  · refine .inl ?_
    rw [pruned, pruneNodeIdCooldowns, List.mem_filter]
    exact ⟨member, by simpa using later⟩
  · exact .inr ⟨call, read, UInt64.not_lt.mp later⟩

/-- An admitted request has a role and a free client. -/
theorem attachAdmit_ok {request : AttachRequest} {s s' : State} {role : Role} :
    (attachAdmit request).exec s = (.ok role, s') ↔ s' = s ∧ request.role = some role ∧
      request.clientId ≠ 0 ∧ clientIdInUse s.leases request.clientId = false ∧
      (request.expectedLayoutVersion = 0 ∨ request.expectedLayoutVersion = layoutVersion) := by
  unfold attachAdmit
  rw [exec_bind_ok]
  rcases request.role with _ | asked
  · simp
  · simp only [exec_get, exec_bind_ok, exec_stopIf_ok, exec_pure, Prod.mk.injEq, Except.ok.injEq,
      Option.some.injEq]
    constructor
    · rintro ⟨_, _, ⟨rfl, rfl⟩, _, _, ⟨nonzero, rfl⟩, _, _, ⟨unused, rfl⟩, _, _, ⟨layout, rfl⟩, rfl, rfl⟩
      refine ⟨rfl, rfl, nonzero, by simpa using unused, ?_⟩
      tauto
    · rintro ⟨rfl, rfl, nonzero, unused, layout⟩
      refine ⟨_, _, ⟨rfl, rfl⟩, ⟨⟩, _, ⟨nonzero, rfl⟩, ⟨⟩, _, ⟨by simpa using unused, rfl⟩, ⟨⟩, _, ⟨?_, rfl⟩,
        rfl, rfl⟩
      tauto

/-- A request that is not admitted changes nothing. -/
theorem attachAdmit_error {request : AttachRequest} {s s' : State} {rejection : Rejection}
    (refused : (attachAdmit request).exec s = (.error rejection, s')) : s' = s := by
  unfold attachAdmit at refused
  rcases role : request.role with _ | role
  · rw [role] at refused
    cases refused
    rfl
  · simp only [role, exec_bind_error, exec_get, exec_stopIf_ok, exec_stopIf_error, exec_pure,
      Prod.mk.injEq, reduceCtorEq, false_and, false_or, Except.ok.injEq] at refused
    grind

/-- A request opens the creation of a stream when its own is unknown and may be created. -/
def Opens (request : AttachRequest) (s : State) : Prop :=
  findStream s.streams request.streamId = none ∧ createAllowed request = true ∧ s.config.allowDynamicStreams = true

/-- One range has given an identifier and goes on behind it; its bounds and the other ranges are as before. -/
def Drawn (streamId : UInt32) (ranges ranges' : List IdRange) : Prop :=
  ∃ front range rest, ranges = front ++ range :: rest ∧
    ranges' = front ++ { range with next := range.after streamId } :: rest

/-- A request names its stream, or it names stream zero and draws an identifier from a range. -/
def Chosen (request : AttachRequest) (s : State) (streamId : UInt32) (ranges : List IdRange) : Prop :=
  (request.streamId ≠ 0 ∧ streamId = request.streamId ∧ ranges = s.streamIdRanges) ∨
    (request.streamId = 0 ∧ Drawn streamId s.streamIdRanges ranges)

/-- The stream phase at most moves a cursor, asks for memory and adds one blank stream. -/
inductive Provides (request : AttachRequest) (s s' : State) : Prop
  | same (unchanged : s' = s)
  | tried (ranges : List IdRange) (calls : Nat) (opens : Opens request s)
      (moved : s' = { s with streamIdRanges := ranges, world := ⟨s.world.calls + calls, s.world.log⟩ })
      (chosen : ∃ streamId, findStream s.streams streamId = none ∧ Chosen request s streamId ranges)
  | added (ranges : List IdRange) (streamId : UInt32) (profile : Profile) (opens : Opens request s)
      (fresh : findStream s.streams streamId = none)
      (grown : s' = { s with
        streamIdRanges := ranges
        world := s.world.called
        streams := s.streams ++
          [{ streamId, profile := some profile, requireHugepages := s.config.requireHugepages }] })
      (chosen : Chosen request s streamId ranges) (standard : findDefaultProfile s.config = some profile)

/-- Providing a stream leaves the leases. -/
theorem Provides.leases {request : AttachRequest} {s s' : State} (provides : Provides request s s') :
    s'.leases = s.leases := by
  cases provides with
  | same unchanged => rw [unchanged]
  | tried _ _ _ moved => rw [moved]
  | added _ _ _ _ _ grown => rw [grown]

/-- The scan of a range stops at an identifier that no lookup finds. -/
theorem scanRange_fresh {streams : List StreamState} {range : IdRange} {remaining : Nat}
    {start cursor : UInt32} (scanned : scanRange streams range remaining start = some cursor) :
    findStream streams cursor = none := by
  induction remaining generalizing start with
  | zero => cases scanned
  | succ remaining hypothesis =>
      unfold scanRange at scanned
      split at scanned
      next free =>
        cases scanned
        exact free
      · exact hypothesis scanned

/-- An allocated identifier is not in the table. -/
theorem allocateStreamId_fresh {streams : List StreamState} {ranges ranges' : List IdRange}
    {streamId : UInt32} (allocated : allocateStreamId streams ranges = some (streamId, ranges')) :
    findStream streams streamId = none := by
  induction ranges generalizing ranges' with
  | nil => cases allocated
  | cons range rest hypothesis =>
      unfold allocateStreamId at allocated
      split at allocated
      next cursor scanned =>
        cases allocated
        exact scanRange_fresh scanned
      · obtain ⟨⟨_, _⟩, inner, same⟩ := Option.map_eq_some_iff.mp allocated
        cases same
        exact hypothesis inner

/-- An allocated identifier is drawn from one range, whose cursor moves on. -/
theorem allocateStreamId_drawn {streams : List StreamState} {ranges ranges' : List IdRange}
    {streamId : UInt32} (allocated : allocateStreamId streams ranges = some (streamId, ranges')) :
    Drawn streamId ranges ranges' := by
  induction ranges generalizing ranges' with
  | nil => cases allocated
  | cons range rest hypothesis =>
      unfold allocateStreamId at allocated
      split at allocated
      · cases allocated
        exact ⟨[], range, rest, rfl, rfl⟩
      · obtain ⟨⟨_, _⟩, inner, same⟩ := Option.map_eq_some_iff.mp allocated
        cases same
        obtain ⟨front, moved, behind, rfl, rfl⟩ := hypothesis inner
        exact ⟨range :: front, moved, behind, rfl, rfl⟩

/-- The creation of a stream has the three outcomes of the stream phase. -/
theorem createStream_provides {o : Oracle} {request : AttachRequest} {s s' : State}
    {outcome : Except Rejection UInt32} (absent : findStream s.streams request.streamId = none)
    (run : (createStream o request).exec s = (outcome, s')) : Provides request s s' := by
  unfold createStream chooseStreamId addStream at run
  by_cases closed : (!createAllowed request || !s.config.allowDynamicStreams) = true
  · simp only [exec_bind, exec_get, exec_stopIf, if_pos closed] at run
    exact .same (Prod.mk.inj run).2.symm
  · have opened : Opens request s := ⟨absent, by simpa using closed⟩
    by_cases named : request.streamId ≠ 0
    · have chosen : Chosen request s request.streamId s.streamIdRanges := .inl ⟨named, rfl, rfl⟩
      rcases standard : findDefaultProfile s.config with _ | profile
      · simp only [exec_bind, exec_get, exec_stopIf, if_neg closed, if_pos named, exec_pure,
          standard, exec_throw] at run
        exact .same (Prod.mk.inj run).2.symm
      · by_cases grown : o.reallocates s.world.calls = true
        · simp only [exec_bind, exec_get, exec_stopIf, if_neg closed, if_pos named, exec_pure,
            standard, if_pos grown, exec_set] at run
          exact .added s.streamIdRanges request.streamId _ opened absent (Prod.mk.inj run).2.symm chosen standard
        · simp only [exec_bind, exec_get, exec_stopIf, if_neg closed, if_pos named, exec_pure,
            standard, if_neg grown, exec_set, exec_throw] at run
          exact .tried s.streamIdRanges 1 opened (Prod.mk.inj run).2.symm ⟨_, absent, chosen⟩
    · rcases allocation : allocateStreamId s.streams s.streamIdRanges with _ | ⟨streamId, ranges⟩
      · simp only [exec_bind, exec_get, exec_stopIf, if_neg closed, if_neg named, allocation,
          exec_throw] at run
        exact .same (Prod.mk.inj run).2.symm
      · have fresh := allocateStreamId_fresh allocation
        have chosen : Chosen request s streamId ranges := .inr ⟨not_not.mp named, allocateStreamId_drawn allocation⟩
        rcases standard : findDefaultProfile s.config with _ | profile
        · simp only [exec_bind, exec_get, exec_stopIf, if_neg closed, if_neg named, allocation,
            exec_set, exec_pure, standard, exec_throw] at run
          exact .tried ranges 0 opened (Prod.mk.inj run).2.symm ⟨streamId, fresh, chosen⟩
        · by_cases grown : o.reallocates s.world.calls = true
          · simp only [exec_bind, exec_get, exec_stopIf, if_neg closed, if_neg named, allocation,
              exec_set, exec_pure, standard, if_pos grown] at run
            exact .added ranges streamId _ opened fresh (Prod.mk.inj run).2.symm chosen standard
          · simp only [exec_bind, exec_get, exec_stopIf, if_neg closed, if_neg named, allocation,
              exec_set, exec_pure, standard, if_neg grown, exec_throw] at run
            exact .tried ranges 1 opened (Prod.mk.inj run).2.symm ⟨streamId, fresh, chosen⟩

/-- The second lookup changes nothing. -/
theorem usableStream_state {streamId : UInt32} {s s' : State} {outcome : Except Rejection Nat}
    (run : (usableStream streamId).exec s = (outcome, s')) : s' = s := by
  unfold usableStream at run
  rcases found : findStream s.streams streamId with _ | index
  · simp only [exec_bind, exec_get, found, exec_throw] at run
    exact (Prod.mk.inj run).2.symm
  · rcases pools : (s.streamAt index).poolless with _ | _
    · simp only [exec_bind, exec_get, found, exec_stopIf, pools, Bool.false_eq_true, if_false, exec_pure] at run
      exact (Prod.mk.inj run).2.symm
    · simp only [exec_bind, exec_get, found, exec_stopIf, pools, if_true] at run
      exact (Prod.mk.inj run).2.symm

/-- The resolution of a stream provides it, or leaves everything when it is there. -/
theorem resolveStream_provides {o : Oracle} {request : AttachRequest} {s s' : State}
    {outcome : Except Rejection UInt32} (run : (resolveStream o request).exec s = (outcome, s')) :
    Provides request s s' ∧ (findStream s.streams request.streamId ≠ none → s' = s) := by
  unfold resolveStream at run
  by_cases absent : findStream s.streams request.streamId = none
  · simp only [exec_bind, exec_get, absent, Option.isSome_none, Bool.false_eq_true, if_false] at run
    exact ⟨createStream_provides absent run, fun known => absurd absent known⟩
  · have known := Option.isSome_iff_ne_none.mpr absent
    simp only [exec_bind, exec_get, known, if_true, exec_pure] at run
    have unchanged := (Prod.mk.inj run).2.symm
    exact ⟨.same unchanged, fun _ => unchanged⟩

/-- A request for a known stream changes nothing in the stream phase. -/
theorem attachStream_provides {o : Oracle} {request : AttachRequest} {s s' : State}
    {outcome : Except Rejection Nat} (run : (attachStream o request).exec s = (outcome, s')) :
    Provides request s s' ∧ (findStream s.streams request.streamId ≠ none → s' = s) := by
  unfold attachStream at run
  rw [exec_bind] at run
  rcases resolved : (resolveStream o request).exec s with ⟨_ | streamId, m⟩ <;> rw [resolved] at run
  · cases run
    exact resolveStream_provides resolved
  · rw [usableStream_state run]
    exact resolveStream_provides resolved

/-- The stream phase ends at a found stream with pools. -/
theorem attachStream_ok {o : Oracle} {request : AttachRequest} {s s' : State} {index : Nat}
    (run : (attachStream o request).exec s = (.ok index, s')) :
    (∃ streamId, findStream s'.streams streamId = some index) ∧ (s'.streamAt index).poolless = false := by
  obtain ⟨streamId, m, -, used⟩ := exec_bind_ok.mp run
  rw [usableStream_state used]
  unfold usableStream at used
  rcases found : findStream m.streams streamId with _ | place
  · simp only [exec_bind, exec_get, found, exec_throw, Prod.mk.injEq, reduceCtorEq, false_and] at used
  · simp only [exec_bind_ok, exec_get, Prod.mk.injEq, Except.ok.injEq] at used
    obtain ⟨_, _, ⟨rfl, rfl⟩, used⟩ := used
    rw [found] at used
    simp only [exec_bind_ok, exec_stopIf_ok, exec_pure, Prod.mk.injEq, Except.ok.injEq] at used
    obtain ⟨_, _, ⟨pools, rfl⟩, rfl, rfl⟩ := used
    exact ⟨⟨streamId, found⟩, by simpa using pools⟩

/-- A lookup in a longer table falls back on the new stream. -/
theorem findStream_concat (streams : List StreamState) (stream : StreamState) (streamId : UInt32) :
    findStream (streams ++ [stream]) streamId = (findStream streams streamId).or
      (if streamId ≠ 0 ∧ stream.streamId = streamId then some streams.length else none) := by
  unfold findStream
  by_cases zero : streamId = 0
  · simp [zero]
  · by_cases named : stream.streamId = streamId <;> simp [zero, named, List.findIdx?_append]

/-- An added stream leaves the others. -/
theorem streamAt_concat {s s' : State} {stream : StreamState} (grown : s'.streams = s.streams ++ [stream])
    {index : Nat} (inside : index < s.streams.length) : s'.streamAt index = s.streamAt index := by
  rw [State.streamAt, State.streamAt, grown, List.getD_append _ _ _ _ inside]

/-- An added stream is the last one. -/
theorem streamAt_last {s s' : State} {stream : StreamState} (grown : s'.streams = s.streams ++ [stream]) :
    s'.streamAt s.streams.length = stream := by
  rw [State.streamAt, grown, List.getD_append_right _ _ _ _ (Nat.le_refl _)]
  simp

/-- A blank stream at the end keeps the table tidy. -/
theorem Tidy.concat {s s' : State} {stream : StreamState} (tidy : Tidy s)
    (grown : s'.streams = s.streams ++ [stream]) (blank : stream.epoch = 0 ∧ stream.producerLeaseId = 0 ∧
      stream.producerClientId = 0) : Tidy s' := by
  intro index inside unfound
  rw [grown, List.length_append, List.length_singleton] at inside
  rcases Nat.lt_succ_iff_lt_or_eq.mp inside with old | rfl
  · rw [streamAt_concat grown old] at unfound ⊢
    refine tidy index old fun found => unfound ?_
    rw [grown, findStream_concat, found]
    rfl
  · rw [streamAt_last grown]
    exact blank

/-- The view of a longer table has the new stream under its identifier. -/
theorem view_concat {s s' : State} {stream : StreamState} (grown : s'.streams = s.streams ++ [stream])
    (fresh : findStream s.streams stream.streamId = none) :
    s'.view = if stream.streamId = 0 then s.view
      else Function.update s.view stream.streamId (some stream.core) := by
  funext streamId
  rw [State.view, grown, findStream_concat]
  rcases found : findStream s.streams streamId with _ | index
  · by_cases named : streamId ≠ 0 ∧ stream.streamId = streamId
    · obtain ⟨nonzero, rfl⟩ := named
      rw [if_pos ⟨nonzero, rfl⟩, if_neg nonzero, Function.update_self, Option.none_or, Option.map_some,
        streamAt_last grown]
    · rw [if_neg named, Option.none_or, Option.map_none]
      split
      · exact (view_eq_none.mpr found).symm
      next nonzero =>
        have other : streamId ≠ stream.streamId := by
          rintro rfl
          exact named ⟨nonzero, rfl⟩
        rw [Function.update_of_ne other, view_eq_none.mpr found]
  · have other : streamId ≠ stream.streamId := by
      rintro rfl
      rw [fresh] at found
      cases found
    have inside := (findStream_inside found).1
    rw [Option.some_or, Option.map_some, streamAt_concat grown inside]
    split
    · exact (view_found found).symm
    · rw [Function.update_of_ne other, view_found found]

/-- These labels stand for changes that touch no epoch and no lease. -/
def Label.calm : Label → Bool
  | .talk | .provision _ => true
  | _ => false

/-- The stream phase is a calm trace that leaves the leases alone. -/
theorem Provides.trace {o : Oracle} {request : AttachRequest} {s s' : State} (provides : Provides request s s') :
    ∃ labels, Trace (Change o) labels s s' ∧ ∀ label ∈ labels, label.calm = true := by
  cases provides with
  | same unchanged =>
      subst unchanged
      exact ⟨[], .nil _, by simp⟩
  | tried ranges calls _ moved =>
      refine ⟨[.talk], Trace.single (.talk ?_ ?_), by simp [Label.calm]⟩ <;> subst moved
      · exact ⟨rfl, rfl, rfl, ⟨Nat.le_add_right .., .refl _ _⟩, fun _ member => .inl member,
          fun tidy => tidy.congr rfl⟩
      · exact view_congr rfl
  | added ranges streamId profile _ fresh grown =>
      have streams : s'.streams = s.streams ++ [_] := congrArg State.streams grown
      have view := view_concat streams fresh
      have growth (allowed : Event → Prop) : Quiet o allowed s s' := by
        refine ⟨?_, ?_, ?_, ?_, ?_, fun tidy => tidy.concat streams ⟨rfl, rfl, rfl⟩⟩ <;> rw [grown]
        · exact .called _ _
        · exact fun _ member => .inl member
      by_cases zero : streamId = 0
      · rw [if_pos zero] at view
        exact ⟨[.talk], Trace.single (.talk (growth _) view), by simp [Label.calm]⟩
      · rw [if_neg zero] at view
        exact ⟨[.provision streamId], Trace.single (.provision (growth _) (view_eq_none.mpr fresh) view),
          by simp [Label.calm]⟩

/-- The check of the page size asks the system at most once. -/
theorem attachHugepages_state {o : Oracle} {request : AttachRequest} {s s' : State}
    {outcome : Except Rejection Bool} (run : (attachHugepages o request).exec s = (outcome, s')) :
    s' = s ∨ s' = { s with world := s.world.called } := by
  unfold attachHugepages at run
  rw [exec_get_bind] at run
  dsimp only at run
  rw [exec_stopIf_bind] at run
  split at run
  · exact .inl (Prod.mk.inj run).2.symm
  · split at run
    · rw [exec_set_bind, exec_stopIf_bind] at run
      split at run <;> exact .inr (Prod.mk.inj run).2.symm
    · split at run
      · rw [exec_set_bind, exec_stopIf_bind] at run
        split at run <;> exact .inr (Prod.mk.inj run).2.symm
      · exact .inl (Prod.mk.inj run).2.symm

/-- The check of the pages only reads. -/
theorem attachHugepages_reads {o : Oracle} {request : AttachRequest} {s s' : State}
    {outcome : Except Rejection Bool} (run : (attachHugepages o request).exec s = (outcome, s')) :
    Reads o s s' := by
  rcases attachHugepages_state run with rfl | rfl
  · exact .refl o _
  · exact .called o s

/-- The check of a node reads the clock and prunes the cooldowns at that time. -/
theorem attachNodeId_reads {o : Oracle} {request : AttachRequest} {s s' : State}
    {outcome : Except Rejection UInt64} (run : (attachNodeId o request).exec s = (outcome, s')) :
    Reads o s s' := by
  unfold attachNodeId at run
  rw [exec_get_bind] at run
  dsimp only at run
  split at run
  · cases run
    exact .refl o s
  · split at run
    · rw [exec_set_bind] at run
      cases run
      exact .called o s
    · rw [exec_set_bind, exec_stopIf_bind] at run
      have reads : Reads o s { s with
          nodeIdCooldowns := (nodeIdInCooldown s.nodeIdCooldowns request.desiredNodeId
            (o.clock s.world.calls)).2
          world := s.world.called } := by
        refine ⟨rfl, rfl, rfl, rfl, rfl, rfl, rfl, Nat.le_succ _, ?_⟩
        by_cases zero : request.desiredNodeId = 0
        · intro cooldown member
          refine .inl ?_
          rwa [nodeIdInCooldown, if_pos zero]
        · refine cooled_prune s.world.calls ?_ (Nat.lt_succ_self _)
          rw [nodeIdInCooldown, if_neg zero]
      split at run <;> cases run <;> exact reads

/-- A desired node that passes its check is unused and out of cooldown at that time. -/
theorem attachNodeId_ok {o : Oracle} {request : AttachRequest} {s s' : State} {checkedNs : UInt64}
    (run : (attachNodeId o request).exec s = (.ok checkedNs, s')) (desired : request.desiredNodeId ≠ nullU32) :
    nodeIdInUse s.leases request.desiredNodeId = false ∧ checkedNs = o.clock s.world.calls ∧
      s.world.calls < s'.world.calls ∧
      (nodeIdInCooldown s.nodeIdCooldowns request.desiredNodeId checkedNs).1 = false := by
  unfold attachNodeId at run
  rw [exec_get_bind] at run
  dsimp only at run
  rw [if_neg desired] at run
  split at run
  · rw [exec_set_bind] at run
    cases run
  next unused =>
    rw [exec_set_bind, exec_stopIf_bind] at run
    split at run
    · cases run
    next warm =>
      cases run
      exact ⟨by simpa using unused, rfl, Nat.lt_succ_self _, by simpa using warm⟩

/-- The reading of the clock only reads. -/
theorem attachClock_ok {o : Oracle} {s s' : State} {outcome : Except Rejection UInt64}
    (run : (attachClock o).exec s = (outcome, s')) : Reads o s s' := by
  unfold attachClock at run
  rw [exec_get_bind, exec_set_bind] at run
  cases run
  exact .called o s

/-- The facts that the checks establish about the state where the driver commits. -/
structure Admitted (request : AttachRequest) (admission : Admission) (s : State) : Prop where
  role : request.role = some admission.role
  client : request.clientId ≠ 0 ∧ ∀ lease ∈ s.leases, lease.clientId ≠ request.clientId
  found : ∃ streamId, findStream s.streams streamId = some admission.index
  pools : (s.streamAt admission.index).poolless = false
  producer : admission.role = .producer → (s.streamAt admission.index).producerLeaseId = 0
  node : request.desiredNodeId ≠ nullU32 → nodeIdInUse s.leases request.desiredNodeId = false

/-- The checks provide a stream and then read; a known stream is not touched. -/
def Checks (o : Oracle) (request : AttachRequest) (s s' : State) : Prop :=
  ∃ m, Provides request s m ∧ (findStream s.streams request.streamId ≠ none → m = s) ∧ Reads o m s'

theorem Checks.refl (o : Oracle) (request : AttachRequest) (s : State) : Checks o request s s :=
  ⟨s, .same rfl, fun _ => rfl, .refl o s⟩

/-- Readings may follow the checks. -/
theorem Checks.reads {o : Oracle} {request : AttachRequest} {s m s' : State} (checks : Checks o request s m)
    (reads : Reads o m s') : Checks o request s s' := by
  obtain ⟨provided, provides, known, first⟩ := checks
  exact ⟨provided, provides, known, first.trans reads⟩

/-- A request that fails a check leaves only what the checks leave. -/
theorem attachChecks_error {o : Oracle} {request : AttachRequest} {s s' : State} {rejection : Rejection}
    (run : (attachChecks o request).exec s = (.error rejection, s')) : Checks o request s s' := by
  unfold attachChecks at run
  rcases exec_bind_error.mp run with refused | ⟨role, m, admitted, afterRole⟩
  · rw [attachAdmit_error refused]
    exact .refl o request s
  obtain ⟨rfl, -⟩ := attachAdmit_ok.mp admitted
  rcases exec_bind_error.mp afterRole with refused | ⟨index, p, provided, afterStream⟩
  · obtain ⟨provides, known⟩ := attachStream_provides refused
    exact ⟨s', provides, known, .refl o s'⟩
  obtain ⟨provides, known⟩ := attachStream_provides provided
  have checks : Checks o request m p := ⟨p, provides, known, .refl o p⟩
  rw [exec_get_bind, exec_stopIf_bind] at afterStream
  split at afterStream
  · cases afterStream
    exact checks
  rcases exec_bind_error.mp afterStream with refused | ⟨asked, q, paged, afterPages⟩
  · exact checks.reads (attachHugepages_reads refused)
  have pages := attachHugepages_reads paged
  rcases exec_bind_error.mp afterPages with refused | ⟨checkedNs, r, named, afterNode⟩
  · exact checks.reads (pages.trans (attachNodeId_reads refused))
  have nodes := pages.trans (attachNodeId_reads named)
  rcases exec_bind_error.mp afterNode with refused | ⟨now, t, timed, afterClock⟩
  · exact checks.reads (nodes.trans (attachClock_ok refused))
  · cases afterClock

/-- A request that passes every check is admitted where the driver commits. -/
theorem attachChecks_ok {o : Oracle} {request : AttachRequest} {s s' : State} {admission : Admission}
    (run : (attachChecks o request).exec s = (.ok admission, s')) :
    Checks o request s s' ∧ Admitted request admission s' := by
  unfold attachChecks at run
  obtain ⟨role, m, admitted, afterRole⟩ := exec_bind_ok.mp run
  obtain ⟨rfl, asRole, nonzero, unused, -⟩ := attachAdmit_ok.mp admitted
  obtain ⟨index, p, provided, afterStream⟩ := exec_bind_ok.mp afterRole
  obtain ⟨provides, known⟩ := attachStream_provides provided
  obtain ⟨⟨streamId, found⟩, pools⟩ := attachStream_ok provided
  rw [exec_get_bind, exec_stopIf_bind] at afterStream
  split at afterStream
  · cases afterStream
  next free =>
    obtain ⟨asked, q, paged, afterPages⟩ := exec_bind_ok.mp afterStream
    obtain ⟨checkedNs, r, named, afterNode⟩ := exec_bind_ok.mp afterPages
    obtain ⟨now, t, timed, afterClock⟩ := exec_bind_ok.mp afterNode
    cases afterClock
    have pages := attachHugepages_reads paged
    have nodes := pages.trans (attachNodeId_reads named)
    have reads := nodes.trans (attachClock_ok timed)
    have leases := provides.leases
    refine ⟨⟨p, provides, known, reads⟩, asRole, ⟨nonzero, ?_⟩, ⟨streamId, ?_⟩, ?_, ?_, ?_⟩
    · intro lease member
      rw [reads.leases, leases] at member
      simp only [clientIdInUse, Bool.or_eq_false_iff, List.any_eq_false, beq_iff_eq] at unused
      exact unused.2 lease member
    · rw [reads.streams]
      exact found
    · rw [reads.streamAt]
      exact pools
    · intro producer
      rw [reads.streamAt]
      by_contra held
      exact free ⟨producer, held⟩
    · intro desired
      rw [reads.leases, ← pages.leases]
      exact (attachNodeId_ok named desired).1

/-- The rejections of each phase, with the texts that the driver sends. -/
def admitRejections : List Rejection :=
  [⟨.invalidParams, "invalid role"⟩, ⟨.invalidParams, "client_id must be non-zero"⟩,
    ⟨.rejected, "client_id already attached"⟩, ⟨.rejected, "layout version mismatch"⟩]

def streamRejections : List Rejection :=
  [⟨.rejected, "stream not provisioned"⟩, ⟨.invalidParams, "no stream ids available"⟩,
    ⟨.invalidParams, "default profile missing"⟩, ⟨.internalError, "stream allocation failed"⟩,
    ⟨.invalidParams, "invalid profile"⟩]

def producerPresent : Rejection := ⟨.rejected, "producer already attached"⟩

def pagesRejections : List Rejection :=
  [⟨.invalidParams, "invalid hugepages policy"⟩, ⟨.rejected, "hugepages not available"⟩,
    ⟨.rejected, "standard pages requested"⟩]

def nodeRejection : Rejection := ⟨.rejected, "desired node_id unavailable"⟩

/-- The admission refuses with its own texts. -/
theorem attachAdmit_rejections {request : AttachRequest} {s s' : State} {rejection : Rejection}
    (refused : (attachAdmit request).exec s = (.error rejection, s')) : rejection ∈ admitRejections := by
  rw [attachAdmit, exec_get_bind] at refused
  rcases role : request.role with _ | role
  · rw [role] at refused
    cases refused
    decide
  · rw [role] at refused
    dsimp only at refused
    rw [exec_stopIf_bind, exec_stopIf_bind, exec_stopIf_bind] at refused
    repeat' split at refused
    all_goals cases refused
    all_goals decide

/-- The search for a stream refuses with its own texts. -/
theorem attachStream_rejections {o : Oracle} {request : AttachRequest} {s s' : State} {rejection : Rejection}
    (refused : (attachStream o request).exec s = (.error rejection, s')) : rejection ∈ streamRejections := by
  rw [attachStream, exec_bind_error, resolveStream, exec_get_bind] at refused
  rcases refused with unresolved | ⟨streamId, m, -, unusable⟩
  · split at unresolved
    · cases unresolved
    · rw [createStream, exec_get_bind, exec_stopIf_bind] at unresolved
      split at unresolved
      · cases unresolved
        decide
      · rw [exec_bind_error] at unresolved
        rcases unresolved with unchosen | ⟨streamId, m, -, unadded⟩
        · rw [chooseStreamId, exec_get_bind] at unchosen
          split at unchosen
          · cases unchosen
          · split at unchosen <;> cases unchosen
            decide
        · split at unadded
          · cases unadded
            decide
          · rw [exec_bind_error, addStream, exec_get_bind] at unadded
            rcases unadded with full | ⟨_, _, -, done⟩
            · split at full
              · cases full
              · rw [exec_set_bind] at full
                cases full
                decide
            · cases done
  · rw [usableStream, exec_get_bind] at unusable
    split at unusable
    · cases unusable
      decide
    · rw [exec_stopIf_bind] at unusable
      split at unusable <;> cases unusable
      decide

/-- The check of the pages refuses with its own texts. -/
theorem attachHugepages_rejections {o : Oracle} {request : AttachRequest} {s s' : State} {rejection : Rejection}
    (refused : (attachHugepages o request).exec s = (.error rejection, s')) : rejection ∈ pagesRejections := by
  rw [attachHugepages, exec_get_bind] at refused
  dsimp only at refused
  rw [exec_stopIf_bind] at refused
  split at refused
  · cases refused
    decide
  · split at refused
    · rw [exec_set_bind, exec_stopIf_bind] at refused
      split at refused <;> cases refused
      decide
    · split at refused
      · rw [exec_set_bind, exec_stopIf_bind] at refused
        split at refused <;> cases refused
        decide
      · cases refused

/-- The check of the node refuses with its own text. -/
theorem attachNodeId_rejection {o : Oracle} {request : AttachRequest} {s s' : State} {rejection : Rejection}
    (refused : (attachNodeId o request).exec s = (.error rejection, s')) : rejection = nodeRejection := by
  rw [attachNodeId, exec_get_bind] at refused
  dsimp only at refused
  split at refused
  · cases refused
  · split at refused
    · rw [exec_set_bind] at refused
      cases refused
      rfl
    · rw [exec_set_bind, exec_stopIf_bind] at refused
      split at refused <;> cases refused
      rfl

/-- A request for a free place at a known stream passes every check. -/
theorem attachChecks_pass {o : Oracle} {request : AttachRequest} {s : State} {role : Role} {index : Nat}
    (asked : request.role = some role) (nonzero : request.clientId ≠ 0)
    (unused : clientIdInUse s.leases request.clientId = false) (layout : request.expectedLayoutVersion = 0)
    (found : findStream s.streams request.streamId = some index)
    (pools : (s.streamAt index).poolless = false)
    (free : role = .producer → (s.streamAt index).producerLeaseId = 0)
    (pages : request.requireHugepages = none ∧ s.config.requireHugepages = false)
    (desired : request.desiredNodeId ≠ nullU32) (node : nodeIdInUse s.leases request.desiredNodeId = false)
    (warm : s.nodeIdCooldowns = []) :
    (attachChecks o request).exec s = (.ok ⟨role, index, false, o.clock s.world.calls, o.clock (s.world.calls + 1)⟩,
      { s with world := s.world.called.called }) := by
  have admitted : (attachAdmit request).exec s = (.ok role, s) :=
    attachAdmit_ok.mpr ⟨rfl, asked, nonzero, unused, .inl layout⟩
  have known : (findStream s.streams request.streamId).isSome = true := by rw [found]; rfl
  have provided : (attachStream o request).exec s = (.ok index, s) := by
    rw [attachStream, exec_bind, resolveStream, exec_get_bind, if_pos known, exec_pure]
    dsimp only
    rw [usableStream, exec_get_bind, found]
    dsimp only
    rw [exec_stopIf_bind, if_neg (by rw [pools]; decide), exec_pure]
  have paged : (attachHugepages o request).exec s = (.ok false, s) := by
    rw [attachHugepages, exec_get_bind, pages.1]
    dsimp only [Option.getD]
    rw [exec_stopIf_bind, if_neg (by decide), shouldRequireHugepages, pages.2, if_neg (by decide), if_neg (by decide),
      exec_pure]
    all_goals decide
  have cooling : nodeIdInCooldown s.nodeIdCooldowns request.desiredNodeId (o.clock s.world.calls) =
      (false, []) := by
    rw [warm, nodeIdInCooldown]
    split <;> rfl
  have named : (attachNodeId o request).exec s = (.ok (o.clock s.world.calls),
    { s with world := s.world.called }) := by
    rw [attachNodeId, exec_get_bind]
    dsimp only
    rw [if_neg desired, if_neg (by rw [node]; decide), cooling, exec_set_bind, exec_stopIf_bind,
      if_neg (by decide), exec_pure, ← warm]
  rw [attachChecks, exec_bind, admitted]
  dsimp only
  rw [exec_bind, provided]
  dsimp only
  rw [exec_get_bind, exec_stopIf_bind, if_neg (by tauto), exec_bind, paged]
  dsimp only
  rw [exec_bind, named]
  dsimp only
  rw [exec_bind, attachClock, exec_get_bind, exec_set_bind]
  rfl

end TensorPool.Driver
