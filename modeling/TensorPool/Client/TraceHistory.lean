/-
This file shows that the trace links of a producer are those of the descriptors that it published.
-/

import TensorPool.Client.AttachChecks
import TensorPool.Client.FanOutExact
import TensorPool.Client.Placement
import TensorPool.Client.Session
import TensorPool.Library.DirectMapped
import TensorPool.Library.GuardedRun
import TensorPool.TraceLink.Set

namespace TensorPool.Client

open Scan
open Shm (Machine)
open TraceLink (TracelinkSet)

/-- This is `tp_tracelink_entry_t`. -/
structure TracelinkEntry where
  seq : UInt64
  traceId : UInt64
  deriving DecidableEq, Repr

/-- A new entry has the null sequence number and no trace. -/
def TracelinkEntry.blank : TracelinkEntry := ⟨0xFFFFFFFFFFFFFFFF, 0⟩

/-- The entries are allocated or not. -/
abbrev TracelinkEntries := Option (List TracelinkEntry)

/-- This is `tp_producer_init_tracelink_entries`; the entries of an earlier attach are freed first. -/
def initTracelinkEntries (headerNslots : UInt32) (allocates : Bool) (entries : TracelinkEntries) : TracelinkEntries :=
  if headerNslots = 0 then entries
  else if !allocates then none
  else some (List.replicate headerNslots.toNat .blank)

/-- The entry of a sequence number. -/
def tracelinkIndex (headerNslots : UInt32) (seq : UInt64) : Nat := (seq &&& (headerNslots - 1).toUInt64).toNat

/-- This is `tp_producer_record_tracelink_descriptor`, which has no outcome when it writes behind the entries. -/
def recordTracelinkDescriptor (headerNslots : UInt32) (entries : TracelinkEntries) (seq traceId : UInt64) :
    Option TracelinkEntries :=
  match entries with
  | none => some none
  | some table =>
      if headerNslots = 0 then some (some table)
      else if tracelinkIndex headerNslots seq < table.length then
        some (some (table.set (tracelinkIndex headerNslots seq) ⟨seq, traceId⟩))
      else none

/-- This is `tp_producer_default_tracelink_validator`, which faults when it reads behind the entries. -/
def defaultTracelinkValidator (headerNslots : UInt32) (entries : TracelinkEntries) (set : TracelinkSet) :
    Scan String Unit :=
  match entries with
  | none => stop "tp_producer_tracelink_validate: trace history unavailable"
  | some table =>
      if headerNslots = 0 then stop "tp_producer_tracelink_validate: trace history unavailable"
      else
        match table[tracelinkIndex headerNslots set.seq]? with
        | none => fault
        | some entry =>
            if entry.seq ≠ set.seq ∨ entry.traceId ≠ set.traceId then
              stop "tp_producer_tracelink_validate: descriptor mismatch"
            else value ()

/-- The entries after `tp_producer_attach_config`; a slot count that is refused leaves those that are there. -/
def attachTracelinkEntries (allocations : Allocations) (config : AttachConfig) (code : Int)
    (entries : TracelinkEntries) : TracelinkEntries :=
  if config.layoutVersion ≠ Shm.layoutVersion then none
  else if isPowerOfTwo config.headerNslots = false then entries
  else if allocations.tracelinkEntries = false then initTracelinkEntries config.headerNslots false entries
  else if config.pools.length > 0 ∧
    allocations.pools = false then initTracelinkEntries config.headerNslots true entries
  else if code < 0 then none
  else initTracelinkEntries config.headerNslots true entries

/-- A producer with its trace links, whether it is attached, and the descriptors since the attach that a publication
has accepted. -/
structure TraceSession where
  producer : AttachedProducer := {}
  announcer : Announcer
  tracelinkEntries : TracelinkEntries := none
  attached : Bool := false
  accepted : List TracelinkEntry := []

inductive TraceAction where
  | manage (action : Manager.Action)
  | publish (frame : Frame) (nowNs : UInt64) (outcome : Target → Int)
  | attach (machine : Machine) (allocations : Allocations) (producerId : UInt32) (config : AttachConfig)
  | unmap

namespace TraceSession

/-- The descriptors carry the stream and the epoch of the producer. -/
def announcing (session : TraceSession) : Announcer :=
  { session.announcer with streamId := session.producer.streamId, epoch := session.producer.epoch }

/-- A publication took the descriptor. -/
def takes (session : TraceSession) (frame : Frame) (nowNs : UInt64) (outcome : Target → Int) : Bool :=
  (publishDescriptor session.announcing frame nowNs outcome).offers.any fun offer => 0 ≤ outcome offer.1

/-- This is `tp_producer_publish_descriptor` with its record. -/
def publish (session : TraceSession) (frame : Frame) (nowNs : UInt64) (outcome : Target → Int) :
    Option TraceSession :=
  let announced := publishDescriptor session.announcing frame nowNs outcome
  let recorded :=
    if announced.traced then
      recordTracelinkDescriptor session.producer.headerNslots session.tracelinkEntries frame.seq frame.traceId
    else some session.tracelinkEntries
  recorded.map fun entries =>
    { session with
      announcer := announced.announcer
      tracelinkEntries := entries
      accepted :=
        if session.takes frame nowNs outcome then session.accepted ++ [⟨frame.seq, frame.traceId⟩]
        else session.accepted }

def attach (session : TraceSession) (machine : Machine) (allocations : Allocations) (producerId : UInt32)
    (config : AttachConfig) : Option TraceSession :=
  (producerAttachConfig machine allocations producerId config session.producer).map
    fun (outcome : AttachOutcome AttachedProducer) =>
    { session with
      producer := outcome.client
      tracelinkEntries := attachTracelinkEntries allocations config outcome.code session.tracelinkEntries
      attached := decide (outcome.code = 0)
      accepted := [] }

/-- This is `tp_producer_unmap_regions` with its entries. -/
def unmap (session : TraceSession) : Option TraceSession :=
  (producerUnmapRegions session.producer).map fun producer =>
    { session with producer, tracelinkEntries := none, attached := false, accepted := [] }

def step (session : TraceSession) : TraceAction → Option TraceSession
  | .manage action => some { session with announcer := session.announcer.manage action }
  | .publish frame nowNs outcome => session.publish frame nowNs outcome
  | .attach machine allocations producerId config => session.attach machine allocations producerId config
  | .unmap => session.unmap

def validate (session : TraceSession) (set : TracelinkSet) : Scan String Unit :=
  defaultTracelinkValidator session.producer.headerNslots session.tracelinkEntries set

/-- The slot of the ring in which the sequence number falls. -/
def slot (session : TraceSession) (seq : UInt64) : Nat := seq.toNat % session.producer.headerNslots.toNat

/-- The last descriptor that a publication accepted among those in a slot of the ring. -/
def lastAccepted (session : TraceSession) (index : Nat) : Option TracelinkEntry :=
  DirectMapped.last (fun entry => session.slot entry.seq) index session.accepted

end TraceSession

section Entries

variable {headerNslots : UInt32} {entries : TracelinkEntries} {table : List TracelinkEntry}

theorem isPowerOfTwo_toNat (power : isPowerOfTwo headerNslots = true) :
    headerNslots ≠ 0 ∧ headerNslots.toNat.isPowerOfTwo := by
  rw [isPowerOfTwo, Bool.and_eq_true, bne_iff_ne, beq_iff_eq] at power
  obtain ⟨nonzero, mask⟩ := power
  have positive : headerNslots.toNat ≠ 0 := fun zero => nonzero (UInt32.toNat_inj.mp zero)
  have one : 1 ≤ headerNslots := UInt32.le_iff_toNat_le.mpr (Nat.pos_of_ne_zero positive)
  have none := congrArg UInt32.toNat mask
  rw [UInt32.toNat_and, UInt32.toNat_sub_of_le _ _ one] at none
  exact ⟨nonzero, Nat.ne_zero_and_sub_one_eq_zero_iff_isPowerOfTwo.mp ⟨positive, none⟩⟩

/-- The entry of a sequence number is that of its slot. -/
theorem tracelinkIndex_mod (power : isPowerOfTwo headerNslots = true) (seq : UInt64) :
    tracelinkIndex headerNslots seq = seq.toNat % headerNslots.toNat := by
  obtain ⟨nonzero, power⟩ := isPowerOfTwo_toNat power
  have positive : 0 < headerNslots.toNat := Nat.pos_of_ne_zero fun zero => nonzero (UInt32.toNat_inj.mp zero)
  rw [tracelinkIndex, UInt64.toNat_and, ringMask_toNat positive, RingWindow.land_mask power]

theorem tracelinkIndex_lt (power : isPowerOfTwo headerNslots = true) (seq : UInt64) :
    tracelinkIndex headerNslots seq < headerNslots.toNat := by
  rw [tracelinkIndex_mod power]
  exact Nat.mod_lt _ (Nat.pos_of_isPowerOfTwo (isPowerOfTwo_toNat power).2)

/-- A table of the size of the ring takes each record in its slot. -/
theorem record_table (power : isPowerOfTwo headerNslots = true) (sized : table.length = headerNslots.toNat)
    (seq traceId : UInt64) :
    recordTracelinkDescriptor headerNslots (some table) seq traceId =
      some (some (table.set (seq.toNat % headerNslots.toNat) ⟨seq, traceId⟩)) := by
  have inside : tracelinkIndex headerNslots seq < table.length := by
    rw [sized]
    exact tracelinkIndex_lt power seq
  rw [recordTracelinkDescriptor, if_neg (isPowerOfTwo_toNat power).1, if_pos inside, tracelinkIndex_mod power]

/-- The validator accepts a set when the entry of its slot is that of the set. -/
theorem validator_iff (power : isPowerOfTwo headerNslots = true) (sized : table.length = headerNslots.toNat)
    (set : TracelinkSet) :
    defaultTracelinkValidator headerNslots (some table) set ≠ fault ∧
      (defaultTracelinkValidator headerNslots (some table) set = value () ↔
        table[set.seq.toNat % headerNslots.toNat]? = some ⟨set.seq, set.traceId⟩) := by
  have inside : set.seq.toNat % headerNslots.toNat < table.length := by
    rw [sized, ← tracelinkIndex_mod power]
    exact tracelinkIndex_lt power set.seq
  rw [defaultTracelinkValidator, if_neg (isPowerOfTwo_toNat power).1, tracelinkIndex_mod power]
  cases found : table[set.seq.toNat % headerNslots.toNat]? with
  | none =>
      rw [List.getElem?_eq_none_iff] at found
      omega
  | some entry =>
      obtain ⟨seq, traceId⟩ := entry
      dsimp only
      by_cases other : seq ≠ set.seq ∨ traceId ≠ set.traceId
      · rw [if_pos other]
        constructor
        · intro outside
          cases outside
        · constructor
          · intro accepted
            cases accepted
          · intro same
            cases same
            exact absurd other (by simp)
      · rw [if_neg other]
        rw [not_or, not_not, not_not] at other
        rw [other.1, other.2]
        simp

end Entries

section Attach

variable {machine : Machine} {allocations : Allocations} {producerId : UInt32} {config : AttachConfig}
  {producer : AttachedProducer} {outcome : AttachOutcome AttachedProducer}

/-- An attach that succeeds leaves a blank entry for each slot. -/
theorem attachTracelinkEntries_attached (entries : TracelinkEntries)
    (returned : producerAttachConfig machine allocations producerId config producer = some outcome)
    (code : outcome.code = 0) :
    isPowerOfTwo config.headerNslots = true ∧ outcome.client.headerNslots = config.headerNslots ∧
      attachTracelinkEntries allocations config outcome.code entries =
        some (List.replicate config.headerNslots.toNat .blank) := by
  unfold producerAttachConfig at returned
  dsimp only at returned
  split at returned
  · rw [producerAttachCleanup_code returned] at code
    cases code
  next layout =>
    split at returned
    · cases returned
      cases code
    next power =>
      split at returned
      · cases returned
        cases code
      next entries' =>
        split at returned
        · cases returned
          cases code
        next pools =>
          split at returned
          · rw [producerAttachCleanup_code returned] at code
            cases code
          · split at returned
            · cases returned
              have layout : config.layoutVersion = Shm.layoutVersion := by simpa using layout
              have power : isPowerOfTwo config.headerNslots = true := by simpa using power
              have allocated : allocations.tracelinkEntries = true := by simpa using entries'
              have pools : ¬ (config.pools.length > 0 ∧ allocations.pools = false) := by simpa using pools
              refine ⟨power, rfl, ?_⟩
              rw [attachTracelinkEntries, if_neg (not_not.mpr layout), if_neg (by rw [power]; exact Bool.noConfusion),
                if_neg (by rw [allocated]; exact Bool.noConfusion), if_neg pools, if_neg (Int.lt_irrefl 0),
                initTracelinkEntries, if_neg (isPowerOfTwo_toNat power).1]
              rfl
            · rw [producerAttachCleanup_code returned] at code
              cases code

end Attach

namespace TraceSession

variable {session after : TraceSession}

/-- The entries of an attached producer show the last descriptor of each slot that a publication accepted. -/
def Traced (session : TraceSession) : Prop :=
  session.attached = true → isPowerOfTwo session.producer.headerNslots = true ∧
    ∃ table, session.tracelinkEntries = some table ∧
      DirectMapped.Shows (fun entry => session.slot entry.seq) .blank session.producer.headerNslots.toNat table
        session.accepted

theorem publish_some (traced : session.Traced) (attached : session.attached = true) (frame : Frame) (nowNs : UInt64)
    (outcome : Target → Int) :
    ∃ after, session.publish frame nowNs outcome = some after ∧ after.Traced := by
  obtain ⟨power, table, present, shows'⟩ := traced attached
  have flag : (publishDescriptor session.announcing frame nowNs outcome).traced = session.takes frame nowNs outcome :=
    publishDescriptor_traced
  rw [publish, flag, present, record_table power shows'.length]
  cases session.takes frame nowNs outcome with
  | false => exact ⟨_, rfl, fun _ => ⟨power, table, rfl, shows'⟩⟩
  | true =>
      refine ⟨_, rfl, fun _ => ⟨power, _, rfl, ?_⟩⟩
      have recorded := @DirectMapped.Shows.record _ _ _ ⟨frame.seq, frame.traceId⟩ _ _ _ shows'
      exact recorded

theorem publish_attached {frame : Frame} {nowNs : UInt64} {outcome : Target → Int}
    (published : session.publish frame nowNs outcome = some after) : after.attached = session.attached := by
  obtain ⟨entries, -, rfl⟩ := Option.map_eq_some_iff.mp published
  rfl

/-- A step keeps the trace links of an attached producer. -/
theorem Traced.step (traced : session.Traced) {action : TraceAction} (stepped : session.step action = some after) :
    after.Traced := by
  cases action with
  | manage action =>
      cases stepped
      exact traced
  | publish frame nowNs outcome =>
      intro attached
      have before : session.attached = true := by rw [← publish_attached stepped, attached]
      obtain ⟨after', published, traced'⟩ := publish_some traced before frame nowNs outcome
      cases published.symm.trans stepped
      exact traced' attached
  | attach machine allocations producerId config =>
      intro attached
      obtain ⟨outcome, returned, rfl⟩ := Option.map_eq_some_iff.mp stepped
      have code : outcome.code = 0 := of_decide_eq_true attached
      obtain ⟨power, sized, blank⟩ := attachTracelinkEntries_attached session.tracelinkEntries returned code
      change isPowerOfTwo outcome.client.headerNslots = true ∧ ∃ table, attachTracelinkEntries _ _ _ _ = some table ∧
        DirectMapped.Shows _ _ outcome.client.headerNslots.toNat table []
      rw [sized]
      exact ⟨power, _, blank, DirectMapped.shows_blank⟩
  | unmap =>
      intro attached
      obtain ⟨producer, -, rfl⟩ := Option.map_eq_some_iff.mp stepped
      cases attached

theorem traced_run {announcer : Announcer} {actions : List TraceAction}
    (ran : GuardedRun.run TraceSession.step { announcer } actions = some session) : session.Traced := by
  apply GuardedRun.keeps (fun _ _ _ traced _ stepped => Traced.step traced stepped) ran
  intro attached
  cases attached

/-- The set is that of the last accepted descriptor of its slot. -/
def Matches (session : TraceSession) (set : TracelinkSet) : Prop :=
  session.lastAccepted (session.slot set.seq) = some ⟨set.seq, set.traceId⟩

theorem validate_iff (traced : session.Traced) (attached : session.attached = true) (set : TracelinkSet)
    (present : set.traceId ≠ 0) :
    session.validate set ≠ fault ∧ (session.validate set = value () ↔ session.Matches set) := by
  obtain ⟨power, table, entries, shows'⟩ := traced attached
  have validated := validator_iff power shows'.length set
  have inside : session.slot set.seq < session.producer.headerNslots.toNat :=
    Nat.mod_lt _ (Nat.pos_of_isPowerOfTwo (isPowerOfTwo_toNat power).2)
  have other : (⟨set.seq, set.traceId⟩ : TracelinkEntry) ≠ .blank := by
    intro same
    exact present (congrArg TracelinkEntry.traceId same)
  rw [validate, entries]
  exact ⟨validated.1, validated.2.trans (shows'.holds_iff inside other)⟩

theorem unmap_refuses (unmapped : session.unmap = some after) (set : TracelinkSet) :
    after.validate set ≠ value () := by
  obtain ⟨producer, -, rfl⟩ := Option.map_eq_some_iff.mp unmapped
  intro accepted
  cases accepted

/-- In every run an attached producer accepts exactly the sets of the last accepted descriptor of each slot, its
publications never write behind the entries, and an unmap or another attach forgets the descriptors before it. -/
theorem tracelinks_match (announcer : Announcer) (actions : List TraceAction) (session : TraceSession)
    (ran : GuardedRun.run TraceSession.step { announcer } actions = some session) :
    (session.attached = true → ∀ set : TracelinkSet, set.traceId ≠ 0 →
      session.validate set ≠ fault ∧ (session.validate set = value () ↔ session.Matches set)) ∧
    (session.attached = true → ∀ frame nowNs outcome, (session.publish frame nowNs outcome).isSome) ∧
    (∀ after, session.unmap = some after → ∀ set, after.validate set ≠ value ()) ∧
    (∀ machine allocations producerId config after,
      session.attach machine allocations producerId config = some after → after.attached = true →
        ∀ set : TracelinkSet, set.traceId ≠ 0 → after.validate set ≠ value ()) := by
  have traced := traced_run ran
  refine ⟨fun attached set present => validate_iff traced attached set present, ?_, ?_, ?_⟩
  · intro attached frame nowNs outcome
    obtain ⟨after, published, -⟩ := publish_some traced attached frame nowNs outcome
    rw [published]
    rfl
  · intro after unmapped set
    exact unmap_refuses unmapped set
  · intro machine allocations producerId config after stepped attached set present accepted
    have step : session.step (.attach machine allocations producerId config) = some after := stepped
    have matched := (validate_iff (traced.step step) attached set present).2.mp accepted
    obtain ⟨outcome, -, rfl⟩ := Option.map_eq_some_iff.mp stepped
    cases matched

end TraceSession

/-- The descriptors of this producer go to one shared publication. -/
def sharedAnnouncer : Announcer := { streamId := 1, epoch := 5, descriptorPublication := some ⟨[], 1⟩ }

/-- The first and the third descriptor share a slot, and the fourth one is not accepted. -/
def sharedActions : List TraceAction :=
  [.attach (smallMachine 0 576) allAllocated 7 smallConfig, .publish ⟨4, 0, 0, 9⟩ 1 fun _ => 64,
    .publish ⟨5, 0, 0, 10⟩ 2 fun _ => 64, .publish ⟨6, 0, 0, 11⟩ 3 fun _ => 64, .publish ⟨7, 0, 0, 12⟩ 4 fun _ => -1]

/-- A descriptor that the shared publication has accepted is linked until the next one of its slot is. -/
theorem tracelinks_match_shared :
    ∃ session, GuardedRun.run TraceSession.step { announcer := sharedAnnouncer } sharedActions = some session ∧
      (session.validate ⟨1, 5, 6, 11, [2, 3]⟩ = value () ∧ session.validate ⟨1, 5, 4, 9, [2, 3]⟩ ≠ value ()) ∧
      (session.validate ⟨1, 5, 5, 10, [2, 3]⟩ = value () ∧ session.validate ⟨1, 5, 7, 12, [2, 3]⟩ ≠ value ()) := by
  have evaluated : (GuardedRun.run TraceSession.step { announcer := sharedAnnouncer } sharedActions).map
      (fun session => (session.attached, session.producer.headerNslots, session.accepted)) =
        some (true, 2, [⟨4, 9⟩, ⟨5, 10⟩, ⟨6, 11⟩]) := by decide +kernel
  obtain ⟨session, ran, same⟩ := Option.map_eq_some_iff.mp evaluated
  simp only [Prod.mk.injEq] at same
  obtain ⟨attached, nslots, accepted⟩ := same
  have links := (TraceSession.tracelinks_match sharedAnnouncer sharedActions session ran).1 attached
  have last : ∀ set, session.Matches set ↔ DirectMapped.last (fun entry => entry.seq.toNat % 2) (set.seq.toNat % 2)
      [⟨4, 9⟩, ⟨5, 10⟩, ⟨6, 11⟩] = some (⟨set.seq, set.traceId⟩ : TracelinkEntry) := by
    intro set
    rw [TraceSession.Matches, TraceSession.lastAccepted, accepted]
    simp only [TraceSession.slot, nslots]
    rfl
  refine ⟨session, ran, ⟨(links _ (by decide)).2.mpr ((last _).mpr (by decide)), fun valid => ?_⟩,
    (links _ (by decide)).2.mpr ((last _).mpr (by decide)), fun valid => ?_⟩
  · exact absurd ((last _).mp ((links _ (by decide)).2.mp valid)) (by decide)
  · exact absurd ((last _).mp ((links _ (by decide)).2.mp valid)) (by decide)

end TensorPool.Client
