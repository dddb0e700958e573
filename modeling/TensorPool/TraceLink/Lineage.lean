/-
This file follows the trace ids of frames that are made from other frames, and the sets that name their parents.
-/

import TensorPool.Library.GuardedRun
import TensorPool.Library.Provenance
import TensorPool.TraceId.Unique
import TensorPool.TraceLink.Set

namespace TensorPool.TraceLink

open TraceId Scan Wire

def maxParents : Nat := 256

/-- This is what a call puts out, with the parents that it was given. -/
structure Resolution where
  traceId : UInt64
  emit : Bool
  parents : List UInt64
  deriving DecidableEq, Repr

def Resolution.link (resolution : Resolution) : Provenance.Link UInt64 := ⟨resolution.traceId, resolution.parents⟩

/-- A call is refused, takes the id of its only parent, or draws an id from its generator. -/
inductive Resolved (ι : Type) where
  | refused (text : String)
  | inherits (resolution : Resolution)
  | draws (which : ι)
  deriving DecidableEq, Repr

/-- This is `tp_tracelink_resolve_trace_id` up to the call of the generator. -/
def resolveTraceId {ι : Type} (generator : Option ι) (parents : List UInt64) : Resolved ι :=
  if maxParents < parents.length then
    .refused "tp_tracelink_resolve_trace_id: parent count invalid"
  else if 0 < parents.length ∧ tracelinkValidateParents parents = false then
    .refused "tp_tracelink_resolve_trace_id: invalid parent list"
  else
    match parents, generator with
    | [parent], _ => .inherits ⟨parent, false, parents⟩
    | _, none => .refused "tp_tracelink_resolve_trace_id: generator required"
    | _, some which => .draws which

/-- This is the rest of the call, with the id from the generator. -/
def resolveDrawn (parents : List UInt64) (traceId : UInt64) : Except String Resolution :=
  if traceId = 0 then
    .error "tp_tracelink_resolve_trace_id: generator returned 0"
  else
    .ok ⟨traceId, 1 < parents.length, parents⟩

/-- This is `tp_tracelink_set_from_claim`. -/
def tracelinkSetFromClaim (streamId : UInt32) (epoch seq traceId : UInt64) (parents : List UInt64) :
    Except String TracelinkSet :=
  if traceId = 0 then
    .error "tp_tracelink_set_from_claim: trace_id missing"
  else
    .ok ⟨streamId, epoch, seq, traceId, parents⟩

/-- This is `tp_producer_send_tracelink_set` up to the offer; a long set gets a buffer of its own length. -/
def producerSendTracelinkSet (streamId : UInt32) (epoch : UInt64) (validator : Option (TracelinkSet → Int))
    (set : TracelinkSet) : Scan Refusal (List UInt8) := do
  stopIf (set.streamId ≠ streamId ∨ set.epoch ≠ epoch)
    ⟨-1, some "tp_producer_send_tracelink_set: stream/epoch mismatch"⟩
  stopIf (∃ check ∈ validator, check set < 0) ⟨-1, none⟩
  tracelinkSetEncode (if 512 < set.required then set.required else 512) set

/-- Threads call with parents, and their calls share the words of the generators. -/
structure Lineage (ι : Type) where
  generators : Generators ι := {}
  asked : ι → Nat → List UInt64 := fun _ _ => []
  resolutions : List Resolution := []

/-- A thread begins a call, or takes one step of the generator. -/
inductive Act (ι : Type) where
  | resolve (generator : Option ι) (thread : Nat) (parents : List UInt64)
  | load (which : ι) (thread : Nat)
  | clock (which : ι) (thread : Nat) (clockMs : UInt64)
  | exchange (which : ι) (thread : Nat) (fails : Bool)
  deriving DecidableEq, Repr

namespace Lineage

variable {ι : Type} [DecidableEq ι]

/-- These are all ids that were drawn, in the order of their exchanges. -/
def ids (lineage : Lineage ι) : List UInt64 := lineage.generators.log.map Prod.snd

def ask (lineage : Lineage ι) (which : ι) (thread : Nat) (parents : List UInt64) : Lineage ι :=
  { lineage with asked := Function.update lineage.asked which (Function.update (lineage.asked which) thread parents) }

/-- A step of the generator that returns an id ends the call of its thread. -/
def next (generators : ι → Generator) (lineage : Lineage ι) (which : ι) (thread : Nat) (action : Action) :
    Lineage ι :=
  let after := lineage.generators.step generators which action
  let drawn := (after.log.drop lineage.generators.log.length).map Prod.snd
  { lineage with
    generators := after
    resolutions := lineage.resolutions ++
      drawn.filterMap fun traceId => (resolveDrawn (lineage.asked which thread) traceId).toOption }

def step (generators : ι → Generator) (lineage : Lineage ι) : Act ι → Option (Lineage ι)
  | .resolve generator thread parents =>
      match resolveTraceId generator parents with
      | .refused _ => some lineage
      | .inherits resolution => some { lineage with resolutions := lineage.resolutions ++ [resolution] }
      | .draws which =>
          match (lineage.generators.shared which).threads thread with
          | .idle => some ((lineage.ask which thread parents).next generators which thread (.call thread))
          | _ => none
  | .load which thread => some (lineage.next generators which thread (.load thread))
  | .clock which thread clockMs => some (lineage.next generators which thread (.clock thread clockMs))
  | .exchange which thread fails => some (lineage.next generators which thread (.exchange thread fails))

/-- A parent is the id of a frame that has one, and the clock is valid. -/
def valid (generators : ι → Generator) (bits : Nat) (lineage : Lineage ι) : Act ι → Bool
  | .resolve _ _ parents => parents.all fun parent => parent = 0 || parent ∈ lineage.ids
  | .clock which thread clockMs => decide (ValidClock (generators which) bits (.clock thread clockMs))
  | _ => true

/-- These are the sets that a producer is told to send. -/
def sets (lineage : Lineage ι) : List (Provenance.Link UInt64) :=
  (lineage.resolutions.filter Resolution.emit).map Resolution.link

/-- These are the calls that drew an id. -/
def drawn (lineage : Lineage ι) : List Resolution :=
  lineage.resolutions.filter fun resolution => resolution.parents.length ≠ 1

end Lineage

/-- These are the parents with which a call draws an id. -/
structure Askable (parents : List UInt64) : Prop where
  few : parents.length ≤ maxParents
  several : parents.length ≠ 1
  nonzero : ∀ parent ∈ parents, parent ≠ 0
  distinct : parents.Nodup

theorem Askable.nil : Askable [] := ⟨Nat.zero_le _, Nat.zero_ne_one, fun _ absent => absurd absent List.not_mem_nil,
  List.nodup_nil⟩

section Resolve

variable {ι : Type} {generator : Option ι} {parents : List UInt64}

/-- The parents that pass the checks of a call are few, non-zero and distinct. -/
theorem checks_pass (count : ¬ maxParents < parents.length)
    (list : ¬ (0 < parents.length ∧ tracelinkValidateParents parents = false)) :
    parents.length ≤ maxParents ∧ (∀ parent ∈ parents, parent ≠ 0) ∧ parents.Nodup := by
  cases parents with
  | nil => simp [maxParents]
  | cons parent rest =>
      have valid : tracelinkValidateParents (parent :: rest) = true := by
        by_contra refused
        exact list ⟨Nat.succ_pos _, Bool.eq_false_of_not_eq_true refused⟩
      exact ⟨Nat.le_of_not_lt count, (validateParents_iff.mp valid).2⟩

/-- An id is drawn for askable parents only. -/
theorem resolveTraceId_draws {which : ι} (draws : resolveTraceId generator parents = .draws which) :
    Askable parents := by
  unfold resolveTraceId at draws
  split at draws
  · cases draws
  next count =>
    split at draws
    · cases draws
    next list =>
      obtain ⟨few, nonzero, distinct⟩ := checks_pass count list
      split at draws
      · cases draws
      · cases draws
      next several =>
        refine ⟨few, ?_, nonzero, distinct⟩
        intro single
        obtain ⟨parent, rfl⟩ := List.length_eq_one_iff.mp single
        exact several parent rfl

/-- Only the id of a single parent is inherited. -/
theorem resolveTraceId_inherits {resolution : Resolution}
    (inherits : resolveTraceId generator parents = .inherits resolution) :
    ∃ parent, parents = [parent] ∧ parent ≠ 0 ∧ resolution = ⟨parent, false, [parent]⟩ := by
  unfold resolveTraceId at inherits
  split at inherits
  · cases inherits
  next count =>
    split at inherits
    · cases inherits
    next list =>
      obtain ⟨-, nonzero, -⟩ := checks_pass count list
      split at inherits
      next parent =>
        cases inherits
        exact ⟨parent, rfl, nonzero parent List.mem_cons_self, rfl⟩
      · cases inherits
      · cases inherits

end Resolve

/-- A resolution repeats the id of its parent, or has an id that was drawn after its parents. -/
def Derived (ids : List UInt64) (resolution : Resolution) : Prop :=
  (∃ parent ∈ ids, resolution = ⟨parent, false, [parent]⟩) ∨
    Provenance.Rooted ids resolution.link ∧ Askable resolution.parents ∧
      resolution.emit = decide (1 < resolution.parents.length)

/-- What is derived from some ids is derived from more. -/
theorem Derived.append {ids : List UInt64} {resolution : Resolution} (derived : Derived ids resolution)
    (more : List UInt64) : Derived (ids ++ more) resolution := by
  obtain ⟨parent, member, same⟩ | ⟨rooted, rest⟩ := derived
  · exact .inl ⟨parent, List.mem_append_left _ member, same⟩
  · exact .inr ⟨rooted.append more, rest⟩

section Run

variable {ι : Type} [DecidableEq ι] {generators : ι → Generator} {nodeBits sequenceBits : Nat} {node : ι → Nat}
variable {lineage : Lineage ι}

/-- Calls ask with ids that were drawn, and each drawn id belongs to one finished call. -/
structure Traced (nodeBits sequenceBits : Nat) (node : ι → Nat) (lineage : Lineage ι) : Prop where
  logged : Logged nodeBits sequenceBits node lineage.generators
  askable : ∀ which thread, Askable (lineage.asked which thread)
  asked : ∀ which thread, ∀ parent ∈ lineage.asked which thread, parent ∈ lineage.ids
  drawn : lineage.drawn.map Resolution.traceId = lineage.ids
  derived : ∀ resolution ∈ lineage.resolutions, Derived lineage.ids resolution

/-- A new lineage is traced. -/
theorem Traced.start : Traced nodeBits sequenceBits node ({} : Lineage ι) where
  logged := ⟨fun _ => Sound.start _ _ _, fun _ => rfl, List.nodup_nil⟩
  askable := fun _ _ => .nil
  asked := fun _ _ _ absent => absurd absent List.not_mem_nil
  drawn := rfl
  derived := fun _ absent => absurd absent List.not_mem_nil

/-- A question about known parents keeps the lineage traced. -/
theorem Traced.ask (traced : Traced nodeBits sequenceBits node lineage) {parents : List UInt64}
    (askable : Askable parents) (known : ∀ parent ∈ parents, parent ∈ lineage.ids) (which : ι) (thread : Nat) :
    Traced nodeBits sequenceBits node (lineage.ask which thread parents) := by
  have either : ∀ (P : List UInt64 → Prop), P parents → (∀ which thread, P (lineage.asked which thread)) →
      ∀ other thread', P ((lineage.ask which thread parents).asked other thread') := by
    intro P new old other thread'
    simp only [Lineage.ask, Function.update_apply]
    split
    · rw [Function.update_apply]
      split
      · exact new
      · exact old which thread'
    · exact old other thread'
  exact ⟨traced.logged, either _ askable traced.askable,
    either (fun parents => ∀ parent ∈ parents, parent ∈ lineage.ids) known traced.asked, traced.drawn, traced.derived⟩

/-- The log gets the ids that a step returns. -/
theorem step_log (generators : ι → Generator) (state : Generators ι) (which : ι) (action : Action) :
    ∃ added, added.length ≤ 1 ∧
      ((state.step generators which action).shared which).ids = (state.shared which).ids ++ added ∧
        (state.step generators which action).log = state.log ++ added.map fun id => (which, id) := by
  obtain ⟨added, ids, short⟩ := step_ids (generators which) (state.shared which) action
  refine ⟨added, short, ?_, ?_⟩
  · simp [Generators.step, ids]
  · simp [Generators.step, ids]

/-- A step of a generator keeps the lineage traced. -/
theorem Traced.next (accepted : ∀ which, Accepted (generators which) nodeBits sequenceBits (node which))
    (apart : Function.Injective node) (traced : Traced nodeBits sequenceBits node lineage) {which : ι} (thread : Nat)
    {action : Action} (clock : ValidClock (generators which) (nodeBits + sequenceBits) action) :
    Traced nodeBits sequenceBits node (lineage.next generators which thread action) := by
  have logged := traced.logged.step accepted apart clock
  obtain ⟨added, short, ids, log⟩ := step_log generators lineage.generators which action
  have nonzero : ∀ id ∈ added, id ≠ 0 := by
    intro id member
    apply (logged.sound which).nonzero
    rw [ids]
    exact List.mem_append_right _ member
  have issued : (lineage.next generators which thread action).ids = lineage.ids ++ added := by
    simp [Lineage.next, Lineage.ids, log, Function.comp_def]
  have resolved : (lineage.next generators which thread action).resolutions =
      lineage.resolutions ++ added.map fun id =>
        ⟨id, 1 < (lineage.asked which thread).length, lineage.asked which thread⟩ := by
    simp only [Lineage.next, log, List.drop_left, List.map_map, Function.comp_def, List.map_id']
    congr 1
    rw [← List.filterMap_eq_map]
    apply List.filterMap_congr
    intro id member
    rw [resolveDrawn, if_neg (nonzero id member)]
    rfl
  have askable := traced.askable which thread
  have drawn : (lineage.next generators which thread action).drawn.map Resolution.traceId =
      lineage.drawn.map Resolution.traceId ++ added := by
    simp [Lineage.drawn, resolved, List.filter_append, List.filter_map, Function.comp_def, askable.several]
  refine ⟨logged, traced.askable, ?_, ?_, ?_⟩
  · intro other thread' parent member
    rw [issued]
    exact List.mem_append_left _ (traced.asked other thread' parent member)
  · rw [drawn, issued, traced.drawn]
  · intro resolution member
    rw [resolved] at member
    obtain before | now := List.mem_append.mp member
    · rw [issued]
      exact (traced.derived resolution before).append added
    · obtain ⟨id, present, rfl⟩ := List.mem_map.mp now
      have alone : added = [id] := by
        obtain ⟨only, rfl⟩ := List.length_eq_one_iff.mp (Nat.le_antisymm short (List.length_pos_of_mem present))
        rw [List.mem_singleton.mp present]
      let link : Provenance.Link UInt64 := ⟨id, lineage.asked which thread⟩
      have parents : ∀ parent ∈ link.parents, parent ∈ lineage.ids := traced.asked which thread
      rw [issued, alone]
      exact .inr ⟨Provenance.rooted_last parents, askable, rfl⟩

/-- Each valid act keeps the lineage traced. -/
theorem Traced.step (accepted : ∀ which, Accepted (generators which) nodeBits sequenceBits (node which))
    (apart : Function.Injective node) (traced : Traced nodeBits sequenceBits node lineage) {act : Act ι}
    {lineage' : Lineage ι} (valid : lineage.valid generators (nodeBits + sequenceBits) act = true)
    (stepped : lineage.step generators act = some lineage') : Traced nodeBits sequenceBits node lineage' := by
  cases act with
  | load which thread =>
      cases stepped
      exact traced.next accepted apart thread trivial
  | clock which thread clockMs =>
      cases stepped
      exact traced.next accepted apart thread (of_decide_eq_true valid)
  | exchange which thread fails =>
      cases stepped
      exact traced.next accepted apart thread trivial
  | resolve generator thread parents =>
      have known : ∀ parent ∈ parents, parent ≠ 0 → parent ∈ lineage.ids := by
        intro parent member nonzero
        have issued := List.all_eq_true.mp valid parent member
        simp only [Bool.or_eq_true, decide_eq_true_eq] at issued
        exact issued.resolve_left nonzero
      simp only [Lineage.step] at stepped
      split at stepped
      · cases stepped
        exact traced
      next resolution inherits =>
        cases stepped
        obtain ⟨parent, rfl, nonzero, rfl⟩ := resolveTraceId_inherits inherits
        refine ⟨traced.logged, traced.askable, traced.asked, ?_, ?_⟩
        · apply Eq.trans _ traced.drawn
          simp [Lineage.drawn]
        · intro resolution member
          obtain before | now := List.mem_append.mp member
          · exact traced.derived resolution before
          · cases List.mem_singleton.mp now
            exact .inl ⟨parent, known parent List.mem_cons_self nonzero, rfl⟩
      next which draws =>
        split at stepped
        · cases stepped
          have askable := resolveTraceId_draws draws
          have issued : ∀ parent ∈ parents, parent ∈ lineage.ids := by
            intro parent member
            exact known parent member (askable.nonzero parent member)
          exact (traced.ask askable issued which thread).next accepted apart thread trivial
        · cases stepped

/-- A valid run ends in a traced lineage. -/
theorem Traced.run (accepted : ∀ which, Accepted (generators which) nodeBits sequenceBits (node which))
    (apart : Function.Injective node) {acts : List (Act ι)}
    (ran : GuardedRun.runWhile (Lineage.valid generators (nodeBits + sequenceBits)) (Lineage.step generators)
    {} acts =
      some lineage) : Traced nodeBits sequenceBits node lineage :=
  GuardedRun.keeps (fun _ _ _ traced valid stepped => Traced.step accepted apart traced valid stepped) ran .start

/-- A set that is told to be sent has the parents of a call, and its id was drawn after them. -/
theorem Traced.sets (traced : Traced nodeBits sequenceBits node lineage) {set : Provenance.Link UInt64}
    (member : set ∈ lineage.sets) : Provenance.Rooted lineage.ids set ∧ Askable set.parents ∧ set.parents ≠ [] := by
  obtain ⟨resolution, kept, rfl⟩ := List.mem_map.mp member
  obtain ⟨present, emit⟩ := List.mem_filter.mp kept
  obtain ⟨parent, -, rfl⟩ | ⟨rooted, askable, same⟩ := traced.derived resolution present
  · cases emit
  · rw [same, decide_eq_true_eq] at emit
    exact ⟨rooted, askable, List.ne_nil_of_length_pos (Nat.zero_lt_of_lt emit)⟩

/-- The sets are told in the order in which their ids were drawn. -/
theorem Traced.sublist (traced : Traced nodeBits sequenceBits node lineage) :
    (lineage.sets.map Provenance.Link.child).Sublist lineage.ids := by
  have several : lineage.resolutions.filter Resolution.emit = lineage.drawn.filter Resolution.emit := by
    rw [Lineage.drawn, List.filter_filter]
    apply List.filter_congr
    intro resolution member
    obtain ⟨parent, -, rfl⟩ | ⟨-, askable, -⟩ := traced.derived resolution member
    · rfl
    · simp [askable.several]
  rw [← traced.drawn, Lineage.sets, several, List.map_map]
  exact List.filter_sublist.map Resolution.traceId

/-- A set with the parents of a call is sent in a message that every reader decodes. -/
theorem send_decodes {streamId : UInt32} {epoch seq traceId : UInt64} {parents : List UInt64}
    (askable : Askable parents) (some : parents ≠ []) (present : traceId ≠ 0)
    {validator : Option (TracelinkSet → Int)} {set : TracelinkSet}
    (made : tracelinkSetFromClaim streamId epoch seq traceId parents = .ok set)
    (accepts : ∀ check ∈ validator, 0 ≤ check set) :
    ∃ encoded, producerSendTracelinkSet streamId epoch validator set = value encoded ∧
      tracelinkSetDecode maxParents encoded = value set := by
  rw [tracelinkSetFromClaim, if_neg present] at made
  cases made
  have few := askable.few
  have admitted : Admitted (if 512 < TracelinkSet.required ⟨streamId, epoch, seq, traceId, parents⟩ then
      TracelinkSet.required ⟨streamId, epoch, seq, traceId, parents⟩ else 512) ⟨streamId, epoch, seq, traceId,
        parents⟩ := by
    refine ⟨present, some, few.trans (by decide), askable.nonzero, askable.distinct, ?_⟩
    split
    · exact Nat.le_refl _
    · omega
  have passed : ¬ ∃ check ∈ validator, check ⟨streamId, epoch, seq, traceId, parents⟩ < 0 := by
    rintro ⟨check, member, negative⟩
    exact absurd negative (not_lt.mpr (accepts check member))
  have short : parents.length ≠ 65535 := by
    intro long
    rw [long] at few
    exact absurd few (by decide)
  refine ⟨_, ?_, setDecode_encoded admitted few⟩
  rw [producerSendTracelinkSet, stopIf_pass (by simp), value_bind, stopIf_pass passed, value_bind,
    setEncode_admitted admitted, if_neg short]

/-- Each id that a generator issued belongs to one call, and nothing descends from itself; each parent was drawn by a
call, and each set can be sent by the producer of its frame, to be decoded by every reader. -/
structure Genealogy (lineage : Lineage ι) : Prop where
  issued : lineage.drawn.map Resolution.traceId = lineage.ids
  origins : (lineage.drawn.map Resolution.traceId).Nodup
  single : (lineage.sets.map Provenance.Link.child).Nodup
  ends : WellFounded (Provenance.Parent lineage.sets)
  known : ∀ resolution ∈ lineage.resolutions, ∀ parent ∈ resolution.parents,
    ∃ origin ∈ lineage.drawn, origin.traceId = parent
  sent : ∀ link ∈ lineage.sets, ∀ streamId epoch seq, ∃ set,
    tracelinkSetFromClaim streamId epoch seq link.child link.parents = .ok set ∧
      ∀ validator : Option (TracelinkSet → Int), (∀ check ∈ validator, 0 ≤ check set) →
        ∃ encoded, producerSendTracelinkSet streamId epoch validator set = value encoded ∧
          tracelinkSetDecode maxParents encoded = value set

/-- A traced lineage is a genealogy. -/
theorem Traced.genealogy (traced : Traced nodeBits sequenceBits node lineage) : Genealogy lineage where
  issued := traced.drawn
  origins := traced.drawn ▸ traced.logged.nodup
  single := traced.sublist.nodup traced.logged.nodup
  ends := Provenance.wellFounded traced.logged.nodup fun _ member => (traced.sets member).1
  known := by
    intro resolution member parent named
    have issued : parent ∈ lineage.ids := by
      obtain ⟨single, present, rfl⟩ | ⟨⟨before, after, split, parents⟩, -⟩ := traced.derived resolution member
      · rw [List.mem_singleton.mp named]
        exact present
      · rw [split]
        exact List.mem_append_left _ (parents parent named)
    rw [← traced.drawn] at issued
    exact List.mem_map.mp issued
  sent := by
    intro link member streamId epoch seq
    obtain ⟨rooted, askable, some⟩ := traced.sets member
    obtain ⟨⟨which, id⟩, present, same⟩ := List.mem_map.mp rooted.child
    have nonzero : link.child ≠ 0 := same ▸ (traced.logged.sound which).nonzero id (traced.logged.mem present)
    have made : tracelinkSetFromClaim streamId epoch seq link.child link.parents =
        .ok ⟨streamId, epoch, seq, link.child, link.parents⟩ := if_neg nonzero
    exact ⟨_, made, fun _ accepts => send_decodes askable some nonzero made accepts⟩

/-- Whatever calls race for the generators, the ids of the frames and the sets of their parents are a genealogy. -/
theorem run_lineage {nodeIdBits sequenceIdBits : UInt8} (bits : nodeIdBits.toNat + sequenceIdBits.toNat ≤ 22)
    {nodeId offset realtimeMs nowMs : ι → UInt64}
    (made : ∀ which, generatorInit nodeIdBits sequenceIdBits (nodeId which) (offset which) (realtimeMs which)
      (nowMs which) = .ok (generators which))
    (distinct : Function.Injective nodeId) {acts : List (Act ι)}
    (ran : GuardedRun.runWhile (Lineage.valid generators (nodeIdBits.toNat + sequenceIdBits.toNat))
      (Lineage.step generators) {} acts = some lineage) : Genealogy lineage := by
  have accepted := fun which => (generatorInit_accepted bits (made which)).1
  have apart : Function.Injective fun which => (nodeId which).toNat :=
    fun left right same => distinct (UInt64.toNat_inj.mp same)
  exact (Traced.run accepted apart ran).genealogy

end Run

/-- Two threads race for the ids of two sources, and a stage behind another generator joins them. -/
def joined : List (Act Bool) :=
  [.resolve (some true) 0 [], .resolve (some true) 1 [], .load true 0, .load true 1, .clock true 0 5, .clock true 1 5,
    .exchange true 0 false, .exchange true 1 false, .load true 1, .clock true 1 4, .exchange true 1 false,
    .resolve (some false) 0 [22, 23], .load false 0, .clock false 0 5, .exchange false 0 false, .resolve none 0 [20]]

theorem joined_lineage : ∃ lineage, GuardedRun.runWhile (Lineage.valid pair 2) (Lineage.step pair) {} joined =
    some lineage ∧ lineage.sets = [⟨20, [22, 23]⟩] ∧ Genealogy lineage := by
  have made : ∀ which, generatorInit 1 1 (pairNode which) 0 0 0 = .ok (pair which) := by
    intro which
    cases which <;> rfl
  have distinct : Function.Injective pairNode := by
    intro left right same
    cases left <;> cases right <;> first | rfl | exact absurd same (by decide)
  have told : (GuardedRun.runWhile (Lineage.valid pair 2) (Lineage.step pair) {} joined).map Lineage.sets =
      some [⟨20, [22, 23]⟩] := by decide +kernel
  obtain ⟨lineage, ran, sets⟩ := Option.map_eq_some_iff.mp told
  exact ⟨lineage, ran, sets, run_lineage (by decide) made distinct ran⟩

end TensorPool.TraceLink
