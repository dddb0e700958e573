/-
This file follows the cursors of the dynamic stream ranges through every allocation.
The loop of one range counts its attempts in 32 bits and wraps its cursor at the end of the range.
-/

import Mathlib.Data.List.Basic
import TensorPool.Driver.AttachChecks
import TensorPool.Library.Rotation

namespace TensorPool.Driver

open Attempt

/-- This is the inner loop of `tp_driver_allocate_stream_id`; it needs fuel because its counter may wrap. -/
def scanLoop (streams : List StreamState) (range : IdRange) : Nat → UInt32 → UInt32 → Option (Option UInt32)
  | 0, _, _ => none
  | fuel + 1, attempts, cursor =>
      if attempts ≤ range.stop - range.start then
        if findStream streams cursor = none then some (some cursor)
        else scanLoop streams range fuel (attempts + 1) (range.after cursor)
      else some none

/-- This is `tp_driver_allocate_stream_id` with the ranges that it leaves behind. -/
def allocateLoop (streams : List StreamState) (fuel : Nat) :
    List IdRange → Option (Option UInt32 × List IdRange)
  | [] => some (none, [])
  | range :: rest =>
      match scanLoop streams range fuel 0 range.next with
      | none => none
      | some (some cursor) => some (some cursor, { range with next := range.after cursor } :: rest)
      | some none => (allocateLoop streams fuel rest).map fun (streamId, ranges) => (streamId, range :: ranges)

def IdRange.Contains (range : IdRange) (streamId : UInt32) : Prop :=
  range.start ≤ streamId ∧ streamId ≤ range.stop

/-- A range starts above zero, does not end before its start and has its cursor inside. -/
structure IdRange.Sound (range : IdRange) : Prop where
  positive : 0 < range.start
  ordered : range.start ≤ range.stop
  inside : range.Contains range.next

/-- No stream of the table has this identifier. -/
def Unused (streams : List StreamState) (streamId : UInt32) : Prop :=
  ∀ stream ∈ streams, stream.streamId ≠ streamId

/-- An identifier is unused exactly when the table has no stream for it. -/
theorem findStream_eq_none {streams : List StreamState} {streamId : UInt32} (nonzero : streamId ≠ 0) :
    findStream streams streamId = none ↔ Unused streams streamId := by
  rw [findStream, if_neg nonzero, List.findIdx?_eq_none_iff]
  apply forall₂_congr
  intro stream _
  simp

section Cursor

variable {range : IdRange} {cursor : UInt32}

/-- The cursor of a range is a rotating cursor. -/
theorem IdRange.toNat_after (inside : range.Contains cursor) :
    (range.after cursor).toNat = Rotation.advance range.start.toNat range.stop.toNat cursor.toNat := by
  have upper := UInt32.le_iff_toNat_le.mp inside.2
  have bound := range.stop.toNat_lt
  unfold IdRange.after Rotation.advance
  by_cases last : cursor = range.stop
  · rw [if_pos last, if_pos (congrArg UInt32.toNat last)]
  · have different : cursor.toNat ≠ range.stop.toNat := fun same => last (UInt32.toNat_inj.mp same)
    rw [if_neg last, if_neg different, UInt32.toNat_add, UInt32.toNat_one, Nat.mod_eq_of_lt (by omega)]

/-- The cursor moves inside its range. -/
theorem IdRange.contains_after (inside : range.Contains cursor) :
    range.Contains (range.after cursor) := by
  have stays := Rotation.advance_inside (UInt32.le_iff_toNat_le.mp inside.1) (UInt32.le_iff_toNat_le.mp inside.2)
  rw [← toNat_after inside] at stays
  exact ⟨UInt32.le_iff_toNat_le.mpr stays.1, UInt32.le_iff_toNat_le.mpr stays.2⟩

/-- Moves of the cursor are those of a rotation over the range. -/
theorem IdRange.iterate_after (inside : range.Contains cursor) (steps : Nat) :
    range.Contains (range.after^[steps] cursor) ∧ (range.after^[steps] cursor).toNat =
      (Rotation.advance range.start.toNat range.stop.toNat)^[steps] cursor.toNat := by
  induction steps with
  | zero => exact ⟨inside, rfl⟩
  | succ steps hypothesis =>
      rw [Function.iterate_succ_apply', Function.iterate_succ_apply', ← hypothesis.2]
      exact ⟨contains_after hypothesis.1, toNat_after hypothesis.1⟩

/-- Any identifier of a range comes up within one round of its cursor. -/
theorem IdRange.exists_iterate_after (sound : range.Sound) {streamId : UInt32} (member : range.Contains streamId) :
    ∃ steps < (range.stop - range.start).toNat + 1, range.after^[steps] range.next = streamId := by
  obtain ⟨steps, short, reached⟩ := Rotation.exists_iterate_advance
    (UInt32.le_iff_toNat_le.mp sound.inside.1) (UInt32.le_iff_toNat_le.mp sound.inside.2)
    (UInt32.le_iff_toNat_le.mp member.1) (UInt32.le_iff_toNat_le.mp member.2)
  rw [← (iterate_after sound.inside steps).2] at reached
  rw [UInt32.toNat_sub_of_le _ _ sound.ordered]
  exact ⟨steps, by omega, UInt32.toNat_inj.mp reached⟩

end Cursor

/-- A range with a moved cursor is sound. -/
theorem IdRange.Sound.moved {range : IdRange} {cursor : UInt32} (sound : range.Sound)
    (inside : range.Contains cursor) : ({ range with next := range.after cursor } : IdRange).Sound :=
  have stays : range.Contains (range.after cursor) := IdRange.contains_after inside
  ⟨sound.positive, sound.ordered, stays⟩

/-- The scan of a range is a scan of its rotation. -/
theorem scanRange_eq_scan (streams : List StreamState) (range : IdRange) (remaining : Nat) (cursor : UInt32) :
    scanRange streams range remaining cursor =
      Rotation.scan (fun cursor => findStream streams cursor = none) range.after remaining cursor := by
  induction remaining generalizing cursor with
  | zero => rfl
  | succ remaining hypothesis =>
      rw [scanRange, Rotation.scan, hypothesis]

/-- The scan of a range gives up exactly when every identifier of the range is in use. -/
theorem scanRange_eq_none {streams : List StreamState} {range : IdRange} (sound : range.Sound) :
    scanRange streams range ((range.stop - range.start).toNat + 1) range.next = none ↔
      ∀ streamId, range.Contains streamId → ¬ Unused streams streamId := by
  have nonzero {streamId : UInt32} (member : range.Contains streamId) : streamId ≠ 0 := by
    rintro rfl
    exact absurd (UInt32.lt_of_lt_of_le sound.positive member.1) (UInt32.lt_irrefl 0)
  rw [scanRange_eq_scan, Rotation.scan_eq_none]
  constructor
  · intro taken streamId member
    obtain ⟨steps, short, reached⟩ := IdRange.exists_iterate_after sound member
    have tried := taken steps short
    rwa [reached, findStream_eq_none (nonzero member)] at tried
  · intro taken steps _
    have inside := (IdRange.iterate_after sound.inside steps).1
    rw [findStream_eq_none (nonzero inside)]
    exact taken _ inside

/-- A scanned identifier is an unused one of the range. -/
theorem scanRange_eq_some {streams : List StreamState} {range : IdRange} {remaining : Nat} {streamId : UInt32}
    (sound : range.Sound) (scanned : scanRange streams range remaining range.next = some streamId) :
    range.Contains streamId ∧ Unused streams streamId := by
  have free := scanRange_fresh scanned
  rw [scanRange_eq_scan] at scanned
  obtain ⟨-, steps, -, rfl⟩ := Rotation.scan_eq_some scanned
  have inside := (IdRange.iterate_after sound.inside steps).1
  have nonzero : range.after^[steps] range.next ≠ 0 := by
    intro zero
    rw [zero] at inside
    exact absurd (UInt32.lt_of_lt_of_le sound.positive inside.1) (UInt32.lt_irrefl 0)
  exact ⟨inside, (findStream_eq_none nonzero).mp free⟩

/-- A range above zero has fewer identifiers than the counter has values. -/
theorem IdRange.Sound.width {range : IdRange} (sound : range.Sound) :
    (range.stop - range.start).toNat + 1 < UInt32.size := by
  have positive : 0 < range.start.toNat := UInt32.lt_iff_toNat_lt.mp sound.positive
  have bound := range.stop.toNat_lt
  rw [UInt32.toNat_sub_of_le _ _ sound.ordered]
  change range.stop.toNat - range.start.toNat + 1 < 2 ^ 32
  omega

/-- The counter of the inner loop reaches the width of the range before it can wrap. -/
theorem scanLoop_eq {streams : List StreamState} {range : IdRange} (sound : range.Sound) {remaining fuel : Nat}
    {attempts : UInt32} (cursor : UInt32)
    (counted : attempts.toNat + remaining = (range.stop - range.start).toNat + 1) (enough : remaining < fuel) :
    scanLoop streams range fuel attempts cursor = some (scanRange streams range remaining cursor) := by
  have width := sound.width
  induction remaining generalizing fuel attempts cursor with
  | zero =>
      obtain ⟨fuel, rfl⟩ := Nat.exists_eq_succ_of_ne_zero (Nat.pos_iff_ne_zero.mp enough)
      have passed : ¬ attempts ≤ range.stop - range.start := by
        rw [UInt32.le_iff_toNat_le]
        omega
      rw [scanLoop, if_neg passed, scanRange]
  | succ remaining hypothesis =>
      obtain ⟨fuel, rfl⟩ := Nat.exists_eq_succ_of_ne_zero (Nat.ne_of_gt (Nat.lt_of_le_of_lt (Nat.zero_le _) enough))
      have within : attempts ≤ range.stop - range.start := by
        rw [UInt32.le_iff_toNat_le]
        omega
      have next : (attempts + 1).toNat = attempts.toNat + 1 := by
        rw [UInt32.toNat_add, UInt32.toNat_one]
        exact Nat.mod_eq_of_lt (show attempts.toNat + 1 < UInt32.size by omega)
      rw [scanLoop, if_pos within, scanRange]
      split
      · rfl
      · exact hypothesis _ (by omega) (by omega)

/-- With enough fuel the loop is the allocation, and a failed one leaves the ranges as they are. -/
theorem allocateLoop_eq {streams : List StreamState} {ranges : List IdRange}
    (sound : ∀ range ∈ ranges, range.Sound) {fuel : Nat} (enough : UInt32.size ≤ fuel) :
    allocateLoop streams fuel ranges =
      some ((allocateStreamId streams ranges).elim (none, ranges) fun result => (some result.1, result.2)) := by
  induction ranges with
  | nil => rfl
  | cons range rest hypothesis =>
      have first := sound range List.mem_cons_self
      have later := hypothesis fun range member => sound range (List.mem_cons_of_mem _ member)
      have room := first.width
      have scanned : scanLoop streams range fuel 0 range.next =
          some (scanRange streams range ((range.stop - range.start).toNat + 1) range.next) :=
        scanLoop_eq first range.next (Nat.zero_add _) (by omega)
      rw [allocateLoop, scanned, allocateStreamId]
      cases scanRange streams range ((range.stop - range.start).toNat + 1) range.next with
      | some cursor => rfl
      | none =>
          change (allocateLoop streams fuel rest).map _ = _
          rw [later]
          cases allocateStreamId streams rest <;> rfl

/-- An allocation moves the cursor of one range past the unused identifier that it takes there. -/
theorem allocateStreamId_some {streams : List StreamState} {ranges ranges' : List IdRange} {streamId : UInt32}
    (sound : ∀ range ∈ ranges, range.Sound)
    (allocated : allocateStreamId streams ranges = some (streamId, ranges')) :
    Unused streams streamId ∧ ∃ before range after, ranges = before ++ range :: after ∧
      range.Contains streamId ∧ ranges' = before ++ { range with next := range.after streamId } :: after := by
  induction ranges generalizing ranges' with
  | nil => cases allocated
  | cons range rest hypothesis =>
      unfold allocateStreamId at allocated
      split at allocated
      next cursor scanned =>
        cases allocated
        obtain ⟨member, unused⟩ := scanRange_eq_some (sound range List.mem_cons_self) scanned
        exact ⟨unused, [], range, rest, rfl, member, rfl⟩
      · obtain ⟨⟨_, moved⟩, inner, same⟩ := Option.map_eq_some_iff.mp allocated
        cases same
        obtain ⟨unused, before, taken, after, split, member, rfl⟩ :=
          hypothesis (fun range member => sound range (List.mem_cons_of_mem _ member)) inner
        exact ⟨unused, range :: before, taken, after, by rw [split, List.cons_append], member, rfl⟩

/-- An allocation fails exactly when every identifier of every range is in use. -/
theorem allocateStreamId_none {streams : List StreamState} {ranges : List IdRange}
    (sound : ∀ range ∈ ranges, range.Sound) :
    allocateStreamId streams ranges = none ↔
      ∀ range ∈ ranges, ∀ streamId, range.Contains streamId → ¬ Unused streams streamId := by
  induction ranges with
  | nil => simp [allocateStreamId]
  | cons range rest hypothesis =>
      have taken := @scanRange_eq_none streams range (sound range List.mem_cons_self)
      have later := hypothesis fun range member => sound range (List.mem_cons_of_mem _ member)
      rw [List.forall_mem_cons, ← taken, ← later, allocateStreamId]
      split
      next cursor scanned => simp [scanned]
      next scanned => simp [scanned]

/-- An allocation keeps every range and every cursor sound. -/
theorem allocateStreamId_sound {streams : List StreamState} {ranges ranges' : List IdRange} {streamId : UInt32}
    (sound : ∀ range ∈ ranges, range.Sound)
    (allocated : allocateStreamId streams ranges = some (streamId, ranges')) :
    ∀ range ∈ ranges', range.Sound := by
  obtain ⟨-, before, range, after, rfl, member, rfl⟩ := allocateStreamId_some sound allocated
  simp only [List.forall_mem_append, List.forall_mem_cons] at sound ⊢
  exact ⟨sound.1, sound.2.1.moved member, sound.2.2⟩

/-- The ranges keep their bounds, and their cursors stay inside when they were. -/
structure Turns (ranges ranges' : List IdRange) : Prop where
  bounds : ranges'.map (fun range => (range.start, range.stop)) = ranges.map fun range => (range.start, range.stop)
  sound : (∀ range ∈ ranges, range.Sound) → ∀ range ∈ ranges', range.Sound

namespace Turns

theorem refl (ranges : List IdRange) : Turns ranges ranges := ⟨rfl, id⟩

theorem trans {first second third : List IdRange} (earlier : Turns first second) (later : Turns second third) :
    Turns first third :=
  ⟨later.bounds.trans earlier.bounds, later.sound ∘ earlier.sound⟩

/-- An allocation moves the cursor of one range and nothing else. -/
theorem allocate {streams : List StreamState} {ranges ranges' : List IdRange} {streamId : UInt32}
    (allocated : allocateStreamId streams ranges = some (streamId, ranges')) : Turns ranges ranges' := by
  refine ⟨?_, fun sound => allocateStreamId_sound sound allocated⟩
  induction ranges generalizing ranges' with
  | nil => cases allocated
  | cons range rest hypothesis =>
      unfold allocateStreamId at allocated
      split at allocated
      · cases allocated
        rfl
      · obtain ⟨⟨_, moved⟩, inner, same⟩ := Option.map_eq_some_iff.mp allocated
        cases same
        rw [List.map_cons, List.map_cons, hypothesis inner]

end Turns

/-- The ranges of a state turn while an attempt runs. -/
def State.Turns (s s' : State) : Prop := Driver.Turns s.streamIdRanges s'.streamIdRanges

/-- What leaves the ranges alone turns them by nothing. -/
theorem State.Turns.same {s s' : State} (kept : s'.streamIdRanges = s.streamIdRanges) : State.Turns s s' := by
  rw [State.Turns, kept]
  exact Turns.refl _

instance : Std.Refl State.Turns := ⟨fun _ => State.Turns.same rfl⟩

instance : IsTrans State State.Turns := ⟨fun _ _ _ earlier later => Turns.trans earlier later⟩

section Run

variable {o : Oracle} {request : AttachRequest} {s : State}

/-- Only the choice of an identifier moves a cursor. -/
theorem chooseStreamId_turns (streamId : UInt32) : Relates State.Turns (chooseStreamId streamId) s := by
  apply Relates.get_bind
  split
  · exact Relates.pure _
  · rcases allocated : allocateStreamId s.streams s.streamIdRanges with _ | ⟨fresh, ranges⟩
    · exact Relates.throw _
    · refine Relates.set_bind ?_ (Relates.pure _)
      exact Turns.allocate allocated

theorem addStream_turns (streamId : UInt32) (profile : Profile) :
    Relates State.Turns (addStream o streamId profile) s := by
  apply Relates.get_bind
  split
  · exact Relates.set (.same rfl)
  · exact Relates.set_bind (.same rfl) (Relates.throw _)

/-- A new stream turns the range that it took its identifier from. -/
theorem createStream_turns : Relates State.Turns (createStream o request) s := by
  apply Relates.get_bind
  apply Relates.stopIf_bind
  intro _
  apply Relates.bind (chooseStreamId_turns _)
  intro streamId m
  split
  · exact Relates.throw _
  · apply Relates.bind (addStream_turns _ _)
    intro _ _
    exact Relates.pure _

theorem usableStream_turns (streamId : UInt32) : Relates State.Turns (usableStream streamId) s := by
  apply Relates.get_bind
  split
  · exact Relates.throw _
  · apply Relates.stopIf_bind
    intro _
    exact Relates.pure _

theorem attachStream_turns : Relates State.Turns (attachStream o request) s := by
  apply Relates.bind
  · apply Relates.get_bind
    split
    · exact Relates.pure _
    · exact createStream_turns
  · intro streamId m
    exact usableStream_turns streamId

theorem attachAdmit_turns : Relates State.Turns (attachAdmit request) s := by
  apply Relates.get_bind
  split
  · exact Relates.throw _
  · apply Relates.stopIf_bind
    intro _
    apply Relates.stopIf_bind
    intro _
    apply Relates.stopIf_bind
    intro _
    exact Relates.pure _

theorem attachHugepages_turns : Relates State.Turns (attachHugepages o request) s := by
  apply Relates.get_bind
  apply Relates.stopIf_bind
  intro _
  split
  · refine Relates.set_bind (.same rfl) ?_
    apply Relates.stopIf_bind
    intro _
    exact Relates.pure _
  · split
    · refine Relates.set_bind (.same rfl) ?_
      apply Relates.stopIf_bind
      intro _
      exact Relates.pure _
    · exact Relates.pure _

theorem attachNodeId_turns : Relates State.Turns (attachNodeId o request) s := by
  apply Relates.get_bind
  dsimp only
  split
  · exact Relates.pure _
  · split
    · exact Relates.set_bind (.same rfl) (Relates.throw _)
    · refine Relates.set_bind (.same rfl) ?_
      apply Relates.stopIf_bind
      intro _
      exact Relates.pure _

/-- The checks of an attach turn the ranges when they create a stream. -/
theorem attachChecks_turns : Relates State.Turns (attachChecks o request) s := by
  apply Relates.bind attachAdmit_turns
  intro role _
  apply Relates.bind attachStream_turns
  intro index _
  apply Relates.get_bind
  apply Relates.stopIf_bind
  intro _
  apply Relates.bind attachHugepages_turns
  intro asked _
  apply Relates.bind attachNodeId_turns
  intro checkedNs _
  apply Relates.bind
  · apply Relates.get_bind
    exact Relates.set_bind (.same rfl) (Relates.pure _)
  · intro now _
    exact Relates.pure _

theorem attachEpoch_turns (role : Role) (index : Nat) (asked : Bool) :
    Relates State.Turns (attachEpoch o role index asked) s := by
  apply Relates.get_bind
  dsimp only
  split
  · refine Relates.set_bind (.same rfl) ?_
    apply Relates.stopIf_bind
    intro _
    exact Relates.pure _
  · exact Relates.pure _

theorem leaseNodeId_turns (checkedNs : UInt64) : Relates State.Turns (leaseNodeId o request checkedNs) s := by
  apply Relates.get_bind
  split
  · exact Relates.pure _
  · refine Relates.set_bind (.same rfl) ?_
    apply Relates.stopIf_bind
    intro _
    exact Relates.pure _

theorem addLease_turns (lease : Lease) (checkedNs : UInt64) : Relates State.Turns (addLease o lease checkedNs) s := by
  apply Relates.get_bind
  split
  · split
    · exact Relates.set (.same rfl)
    · exact Relates.set_bind (.same rfl) (Relates.throw _)
  · exact Relates.set (.same rfl)

theorem attachLease_turns (role : Role) (index : Nat) (now checkedNs : UInt64) :
    Relates State.Turns (attachLease o request role index now checkedNs) s := by
  apply Relates.get_bind
  refine Relates.set_bind (.same rfl) ?_
  apply Relates.bind (leaseNodeId_turns _)
  intro node _
  apply Relates.bind (addLease_turns _ _)
  intro _ m
  apply Relates.get_bind
  exact Relates.set_bind (.same rfl) (Relates.pure _)

theorem grantAttach_turns : Relates State.Turns (grantAttach o request) s := by
  apply Relates.bind attachChecks_turns
  intro admission _
  apply Relates.bind (attachEpoch_turns _ _ _)
  intro pages _
  apply Relates.bind (attachLease_turns _ _ _ _)
  intro lease _
  exact Relates.pure _

/-- An attach only turns the ranges. -/
theorem handleAttach_turns : State.Turns s (handleAttach o request s).2 := by
  have granted : State.Turns s ((grantAttach o request).exec s).2 := grantAttach_turns
  unfold handleAttach
  rcases outcome : (grantAttach o request).exec s with ⟨_ | grant, s'⟩
  · rwa [outcome] at granted
  · rwa [outcome] at granted

/-- The end of a lease leaves the ranges alone. -/
@[simp] theorem streamIdRanges_endLease (index : Nat) (stream : Option Nat) (lease : Lease) (atNs : UInt64) :
    (endLease o index stream lease atNs s).streamIdRanges = s.streamIdRanges := by
  have cooled : (recordNodeIdCooldown o lease.nodeId atNs s).streamIdRanges = s.streamIdRanges := by
    unfold recordNodeIdCooldown
    dsimp only
    split
    · rfl
    split
    · rfl
    · split
      · split <;> rfl
      · rfl
  cases stream <;> exact cooled

@[simp] theorem streamIdRanges_fenceFreed (isProducer : Bool) (stream : Option Nat) :
    (fenceFreed o isProducer stream s).streamIdRanges = s.streamIdRanges := by
  cases stream with
  | none => rfl
  | some index =>
      unfold fenceFreed
      dsimp only
      split
      · unfold fenceStream
        dsimp only
        split <;> rfl
      · rfl

theorem streamIdRanges_handleDetach (request : DetachRequest) :
    (handleDetach o request s).2.streamIdRanges = s.streamIdRanges := by
  unfold handleDetach
  dsimp only
  split
  · rfl
  · split
    · rfl
    · change (fenceFreed o _ _ (endLease o _ _ _ _ _)).streamIdRanges = _
      rw [streamIdRanges_fenceFreed, streamIdRanges_endLease]
      rfl

theorem streamIdRanges_handleKeepalive (request : LeaseKeepalive) :
    (handleKeepalive o request s).streamIdRanges = s.streamIdRanges := by
  unfold handleKeepalive
  split
  · rfl
  · split <;> rfl

theorem streamIdRanges_expireLoop (now : UInt64) (remaining index : Nat) :
    (expireLoop o now remaining index s).streamIdRanges = s.streamIdRanges := by
  induction remaining generalizing index s with
  | zero => rfl
  | succ remaining hypothesis =>
      unfold expireLoop
      split
      · rfl
      · split
        · rw [hypothesis, expireLease, streamIdRanges_fenceFreed, streamIdRanges_endLease]
          rfl
        · exact hypothesis _

@[simp] theorem streamIdRanges_announce (index : Nat) (requireHugepages : Bool) :
    (s.announce o index requireHugepages).streamIdRanges = s.streamIdRanges := by
  unfold State.announce
  rcases sendAnnounce o s.config (s.streamAt index) requireHugepages s.world with ⟨stream, w⟩
  rfl

theorem streamIdRanges_announceStreams (indices : List Nat) :
    (indices.foldl (announceStream o) s).streamIdRanges = s.streamIdRanges := by
  induction indices generalizing s with
  | nil => rfl
  | cons index rest hypothesis =>
      rw [List.foldl_cons, hypothesis, announceStream]
      split
      · exact streamIdRanges_announce _ _
      · rfl

theorem streamIdRanges_announceTick : (announceTick o s).streamIdRanges = s.streamIdRanges := by
  rw [announceTick]
  split
  · exact streamIdRanges_announceStreams _
  · rfl

/-- A step only turns the ranges. -/
theorem step_turns (op : Op) : State.Turns s (step o s op) := by
  cases op with
  | attach request => exact handleAttach_turns
  | detach request => exact .same (streamIdRanges_handleDetach request)
  | keepalive request => exact .same (streamIdRanges_handleKeepalive request)
  | expire => exact .same (streamIdRanges_expireLoop _ _ _)
  | announce => exact .same streamIdRanges_announceTick

/-- A run only turns the ranges. -/
theorem run_turns (ops : List Op) : State.Turns s (run o s ops) := by
  induction ops generalizing s with
  | nil => exact .same rfl
  | cons op ops hypothesis => exact Turns.trans (step_turns op) hypothesis

end Run

/-- Every cursor that a driver reaches lies inside its range, and no range moves. -/
theorem run_ranges_sound {config : Config} (sound : ∀ range ∈ config.streamIdRanges, range.Sound) (o : Oracle)
    (started : Bool) (ops : List Op) :
      Turns config.streamIdRanges (run o (boot o config started) ops).streamIdRanges ∧
        ∀ range ∈ (run o (boot o config started) ops).streamIdRanges, range.Sound := by
  have booted : (boot o config started).streamIdRanges = config.streamIdRanges := by
    unfold boot start
    split
    · dsimp only
      split <;> rfl
    · rfl
  have turned : State.Turns (boot o config started) (run o (boot o config started) ops) := run_turns ops
  rw [State.Turns, booted] at turned
  exact ⟨turned, turned.sound sound⟩

/-- An allocation ends, finds an identifier exactly when one is free, and moves only the cursor that it used. -/
theorem allocateLoop_fresh {ranges : List IdRange} (sound : ∀ range ∈ ranges, range.Sound)
    (streams : List StreamState) :
    ∃ outcome ranges', (∃ enough, ∀ fuel, enough ≤ fuel →
      allocateLoop streams fuel ranges = some (outcome, ranges')) ∧
        (outcome.isSome ↔ ∃ range ∈ ranges, ∃ streamId, range.Contains streamId ∧ Unused streams streamId) ∧
      (∀ streamId, outcome = some streamId → Unused streams streamId ∧ ∃ before range after,
        ranges = before ++ range :: after ∧ range.Contains streamId ∧ range.Contains (range.after streamId) ∧
          ranges' = before ++ { range with next := range.after streamId } :: after) ∧
      (outcome = none → ranges' = ranges) := by
  cases allocated : allocateStreamId streams ranges with
  | none =>
      have taken := (allocateStreamId_none sound).mp allocated
      refine ⟨none, ranges, ⟨UInt32.size, fun fuel enough => ?_⟩, ?_, ?_, fun _ => rfl⟩
      · rw [allocateLoop_eq sound enough, allocated]
        rfl
      · simpa using taken
      · intro _ same
        cases same
  | some result =>
      obtain ⟨streamId, ranges'⟩ := result
      obtain ⟨unused, before, range, after, split, member, moved⟩ := allocateStreamId_some sound allocated
      refine ⟨some streamId, ranges', ⟨UInt32.size, fun fuel enough => ?_⟩, ?_, ?_, ?_⟩
      · rw [allocateLoop_eq sound enough, allocated]
        rfl
      · refine ⟨fun _ => ⟨range, ?_, streamId, member, unused⟩, fun _ => rfl⟩
        rw [split]
        exact List.mem_append_cons_self
      · intro other same
        cases same
        exact ⟨unused, before, range, after, split, member, IdRange.contains_after member, moved⟩
      · intro same
        cases same

/-- The last range but one is full, and the cursor of the last one wraps at the largest identifier. -/
theorem allocateLoop_wraps : ∃ outcome ranges',
    (∃ enough, ∀ fuel, enough ≤ fuel → allocateLoop [{ streamId := 7 }, { streamId := 1 }] fuel
      [⟨7, 7, 7⟩, ⟨1, 4294967295, 4294967295⟩] = some (outcome, ranges')) ∧
    outcome = some 4294967295 ∧ ranges' = [⟨7, 7, 7⟩, ⟨1, 4294967295, 1⟩] := by
  have sound : ∀ range ∈ ([⟨7, 7, 7⟩, ⟨1, 4294967295, 4294967295⟩] : List IdRange), range.Sound := by
    simp only [List.forall_mem_cons]
    refine ⟨⟨by decide, by decide, by decide, by decide⟩, ⟨by decide, by decide, by decide, by decide⟩, ?_⟩
    exact List.forall_mem_nil _
  obtain ⟨outcome, ranges', ⟨enough, ends⟩, -⟩ := allocateLoop_fresh sound [{ streamId := 7 }, { streamId := 1 }]
  have whole : allocateLoop [{ streamId := 7 }, { streamId := 1 }] (enough + 3)
      [⟨7, 7, 7⟩, ⟨1, 4294967295, 4294967295⟩] = some (some 4294967295, [⟨7, 7, 7⟩, ⟨1, 4294967295, 1⟩]) := by
    simp [allocateLoop, scanLoop, findStream, IdRange.after]
  have same := (ends (enough + 3) (by omega)).symm.trans whole
  cases same
  exact ⟨_, _, ⟨enough, ends⟩, rfl, rfl⟩

end TensorPool.Driver
