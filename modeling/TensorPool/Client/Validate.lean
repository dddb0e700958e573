/-
This file checks a progress notice against its slot, one load at a time, while the producer goes on.
-/

import TensorPool.Client.Attach
import TensorPool.Client.Untorn
import TensorPool.Library.GuardedRun
import TensorPool.Wire.Decode

namespace TensorPool.Client

open FixedField Seqlock
open TensorPool.Wire (FrameProgress)

/-- The codes are 1 and -1, and a fault has none. -/
inductive ProgressRejection where
  | absent
  | failed (text : String)
  | fault

/-- This is what a call with the code 0 has checked. -/
structure ProgressCheck where
  slot : SlotView
  tensor : TensorHeader

abbrev ProgressResult := Except ProgressRejection ProgressCheck

/-- The second load of the commit word is the last one. -/
def confirmSlot (seq seqCommitBegin : UInt64) (slot : SlotView) : SlotReading (Except ProgressRejection SlotView) :=
  .stamp fun seqCommitEnd =>
    if seqCommitEnd != seqCommitBegin || !seqIsCommitted seqCommitEnd then
      .ret (.error .absent)
    else if slot.seqCommit != seqCommitEnd then
      .ret (.error .absent)
    else if !seqIsCommitted slot.seqCommit then
      .ret (.error .absent)
    else if seqValue slot.seqCommit != seq then
      .ret (.error (.failed "tp_consumer_validate_progress: seq mismatch"))
    else if seqValue seqCommitEnd != seq then
      .ret (.error (.failed "tp_consumer_validate_progress: seq mismatch"))
    else
      .ret (.ok slot)

/-- This is the part of the call that loads the commit word. -/
def validateSlot (seq : UInt64) : SlotReading (Except ProgressRejection SlotView) :=
  .stamp fun seqCommitBegin =>
    if !seqIsCommitted seqCommitBegin then
      .ret (.error .absent)
    else if seqValue seqCommitBegin != seq then
      .ret (.error (.failed "tp_consumer_validate_progress: seq mismatch"))
    else do
      match ← slotDecode with
      | none => return .error (.failed "tp_slot_decode: headerBytes missing")
      | some slot => confirmSlot seq seqCommitBegin slot

/-- This is the part of the call after its last load of the commit word. -/
def validateTensor (consumer : Consumer) (payloadBytesFilled : UInt64) (slot : SlotView) :
    SlotReading ProgressResult :=
  match findPool consumer.pools consumer.poolCount slot.poolId with
  | .fault => .ret (.error .fault)
  | .missing => .ret (.error (.failed "tp_consumer_validate_progress: pool not found"))
  | .found pool =>
      if slot.valuesLenBytes > pool.strideBytes then
        .ret (.error (.failed "tp_consumer_validate_progress: payload exceeds stride"))
      else if payloadBytesFilled > slot.valuesLenBytes.toUInt64 then
        .ret (.error (.failed "tp_consumer_validate_progress: payload bytes exceed values"))
      else if slot.headerBytesLength != tensorHeaderBytes then
        .ret (.error (.failed "tp_consumer_validate_progress: header bytes length mismatch"))
      else do
        match ← tensorHeaderDecode 64 slot.headerBytesLength with
        | .error text => return .error (.failed text)
        | .ok tensor =>
            match tensorHeaderValidate tensor with
            | .error text => return .error (.failed text)
            | .ok _ => return .ok { slot, tensor }

/-- A call ends at once or loads from one slot of the header ring. -/
inductive ProgressCall where
  | done (rejection : ProgressRejection)
  | loads (region : Nat) (offset : UInt32)

def validateProgress (consumer : AttachedConsumer) (progress : FrameProgress) : ProgressCall :=
  if !consumer.shmMapped then
    .done .absent
  else if consumer.headerNslots == 0 then
    .done (.failed "tp_consumer_validate_progress: header ring unavailable")
  else if progress.streamId != consumer.streamId then
    .done .absent
  else if progress.epoch != consumer.epoch then
    .done .absent
  else
    let headerIndex := ringIndex progress.seq consumer.headerNslots
    if headerIndex ≥ consumer.headerNslots then
      .done (.failed "tp_consumer_validate_progress: header index out of range")
    else
      match consumer.headerRegion.addr with
      | none => .done .fault
      | some region =>
          if consumer.headerRegion.length < slotEnd headerIndex then
            .done .fault
          else
            .loads region (slotAt headerIndex)

/-- A call in flight is in front of its last load of the commit word or behind it. -/
inductive ProgressPhase where
  | slot (program : SlotReading (Except ProgressRejection SlotView))
  | tensor (program : SlotReading ProgressResult)

structure Validation where
  consumer : AttachedConsumer
  progress : FrameProgress
  region : Nat
  offset : UInt32
  phase : ProgressPhase

structure JudgedCall where
  consumer : AttachedConsumer
  progress : FrameProgress
  result : ProgressResult

/-- A part without loads is the end of the call. -/
def enterTensor : SlotReading ProgressResult → ProgressResult ⊕ ProgressPhase
  | .ret result => .inl result
  | program => .inr (.tensor program)

/-- A load ends the call or moves it on. -/
def Validation.load (validation : Validation) (cell : SlotCell) : ProgressResult ⊕ ProgressPhase :=
  match validation.phase with
  | .slot program =>
      match program.step cell with
      | .ret (.error rejection) => .inl (.error rejection)
      | .ret (.ok slot) =>
          enterTensor (validateTensor validation.consumer.toConsumer validation.progress.payloadBytesFilled slot)
      | program => .inr (.slot program)
  | .tensor program => enterTensor (program.step cell)

/-- One consumer checks one notice after the other while a producer publishes. -/
structure Watch where
  system : System
  validation : Option Validation := none
  validated : List JudgedCall := []

/-- The producer or a reader takes a step, or the consumer calls or loads. -/
inductive WatchAction where
  | act (action : Action)
  | validate (consumer : AttachedConsumer) (progress : FrameProgress)
  | load

namespace Watch

def finish (watch : Watch) (validated : JudgedCall) : Watch :=
  { watch with validation := none, validated := watch.validated ++ [validated] }

def settle (watch : Watch) (validation : Validation) : ProgressResult ⊕ ProgressPhase → Watch
  | .inl result => watch.finish ⟨validation.consumer, validation.progress, result⟩
  | .inr phase => { watch with validation := some { validation with phase } }

def load (watch : Watch) (validation : Validation) : Watch :=
  watch.settle validation
    (validation.load (slotAfter watch.system.stores validation.region validation.offset))

/-- A step that touches what does not exist has no outcome. -/
def step (watch : Watch) : WatchAction → Option Watch
  | .act action => (watch.system.step action).map fun system => { watch with system }
  | .validate consumer progress =>
      match watch.validation, validateProgress consumer progress with
      | none, .loads region offset =>
          some
            { watch with
              validation := some
                { consumer := consumer
                  progress := progress
                  region := region
                  offset := offset
                  phase := .slot (validateSlot progress.seq) } }
      | none, .done .fault => none
      | none, .done rejection => some (watch.finish ⟨consumer, progress, .error rejection⟩)
      | some _, _ => none
  | .load => watch.validation.map watch.load

end Watch

/-- The store changes a header byte of this slot. -/
def Store.rewrites (region : Nat) (offset : UInt32) (cell : SlotCell) (store : Store) : Bool :=
  match store.at? region offset with
  | some (.body place byte) => decide (64 ≤ place) && cell.body place != byte
  | _ => false

/-- No store changes the header of the slot between the last load of its commit word and the end of the call. -/
def Watch.calm (watch : Watch) : WatchAction → Bool
  | .act .store =>
      match watch.validation, watch.system.pending with
      | some ⟨_, _, region, offset, .tensor _⟩, store :: _ =>
          !store.rewrites region offset (slotAfter watch.system.stores region offset)
      | _, _ => true
  | _ => true

theorem Watch.calm_store {watch : Watch} {store : Store} {rest : List Store} {validation : Validation}
    {program : SlotReading ProgressResult} (calm : watch.calm (.act .store) = true)
    (pending : watch.system.pending = store :: rest) (present : watch.validation = some validation)
    (phase : validation.phase = .tensor program) :
    store.rewrites validation.region validation.offset
      (slotAfter watch.system.stores validation.region validation.offset) = false := by
  obtain ⟨consumer, progress, region, offset, phase'⟩ := validation
  obtain rfl : phase' = .tensor program := phase
  rw [Watch.calm, present, pending] at calm
  exact Bool.not_eq_true' _ ▸ calm

/-- All that a call with the code 0 has checked comes from the one publication of the wanted number. -/
structure Judged (publications : List Publication) (validated : JudgedCall) (check : ProgressCheck)
    (publication : Publication) : Prop where
  stream : validated.progress.streamId = validated.consumer.streamId
  epoch : validated.progress.epoch = validated.consumer.epoch
  published : publication ∈ publications
  seq : publication.seq = validated.progress.seq
  single : ∀ other ∈ publications, other.seq = validated.progress.seq → other = publication
  valuesLen : check.slot.valuesLenBytes = publication.payloadLen
  poolId : check.slot.poolId = publication.poolId
  headerLength : check.slot.headerBytesLength = tensorHeaderBytes
  tensor : check.tensor = publication.tensor
  filled : validated.progress.payloadBytesFilled ≤ publication.payloadLen.toUInt64

def IsPassed (result : Except ProgressRejection SlotView) : Prop := ∃ slot, result = .ok slot

/-- The last check passes only when the slot shows the same stamp again. -/
theorem confirmSlot_closes (seq seqCommitBegin : UInt64) (slot : SlotView) :
    Reading.Closes IsPassed seqCommitBegin (confirmSlot seq seqCommitBegin slot) := by
  have absent : ¬ IsPassed (.error .absent) := nofun
  constructor
  · intro other differs
    beta_reduce
    rw [bne_iff_ne.mpr differs, Bool.true_or, if_pos rfl]
    exact absent
  · right
    beta_reduce
    split
    · exact ⟨_, rfl⟩
    · split
      · exact ⟨_, rfl⟩
      · split
        · exact ⟨_, rfl⟩
        · split
          · exact ⟨_, rfl⟩
          · split
            · exact ⟨_, rfl⟩
            · exact ⟨_, rfl⟩

/-- The first part of a call goes on with a committed word only, and it passes right after the second load of one. -/
theorem validateSlot_opens (seq : UInt64) : Reading.Opens IsPassed Committed (validateSlot seq) := by
  have absent : ¬ IsPassed (.error .absent) := nofun
  have failed : ∀ text, ¬ IsPassed (.error (.failed text)) := fun _ => nofun
  intro seqCommitBegin
  constructor
  · intro committed
    rw [Committed] at committed
    beta_reduce
    rw [committed, if_neg (by decide)]
    split
    · exact failed _
    · refine Reading.closes_bind _ _ fun decoded => ?_
      split
      · exact failed _
      · exact confirmSlot_closes _ _ _
  · intro uncommitted
    rw [Committed, Bool.not_eq_true] at uncommitted
    beta_reduce
    rw [uncommitted, if_pos (by decide)]
    exact absent

/-- Bytes are loaded behind their start. -/
theorem loadBytes_loadsIn {start offset : Nat} (past : start ≤ offset) (width : Nat) :
    (loadBytes offset width).LoadsIn (start ≤ ·) := by
  induction width generalizing offset with
  | zero => exact trivial
  | succ width hypothesis =>
      refine ⟨past, fun byte => Reading.loadsIn_bind (hypothesis (by omega)) fun _ => ?_⟩
      exact trivial

/-- A field is loaded behind its start. -/
theorem loadField_loadsIn {α : Type} {start offset : Nat} (field : FixedField α) (past : start ≤ offset) :
    (loadField field offset).LoadsIn (start ≤ ·) :=
  Reading.loadsIn_bind (loadBytes_loadsIn past _) fun _ => trivial

/-- Entries are loaded behind their start. -/
theorem loadEntries_loadsIn {α : Type} {start offset : Nat} (field : FixedField α) (past : start ≤ offset)
    (count : Nat) : (loadEntries field offset count).LoadsIn (start ≤ ·) := by
  induction count generalizing offset with
  | zero => exact trivial
  | succ count hypothesis =>
      apply Reading.loadsIn_bind (loadField_loadsIn field past)
      intro entry
      apply Reading.loadsIn_bind (hypothesis (by omega))
      intro rest
      exact trivial

/-- The decoder loads the header bytes only. -/
theorem tensorHeaderDecode_loadsIn (start : Nat) (length : UInt32) :
    (tensorHeaderDecode start length).LoadsIn (start ≤ ·) := by
  unfold tensorHeaderDecode
  split
  · exact trivial
  · apply Reading.loadsIn_bind (loadField_loadsIn _ (by omega)) fun schemaId => ?_
    apply Reading.loadsIn_bind (loadField_loadsIn _ (by omega)) fun templateId => ?_
    apply Reading.loadsIn_bind (loadField_loadsIn _ (by omega)) fun version => ?_
    apply Reading.loadsIn_bind (loadField_loadsIn _ (by omega)) fun blockLength => ?_
    split
    · exact trivial
    · split
      · exact trivial
      · split
        · exact trivial
        · split
          · exact trivial
          · apply Reading.loadsIn_bind (loadField_loadsIn _ (by omega)) fun dtype => ?_
            split
            · exact trivial
            · apply Reading.loadsIn_bind (loadField_loadsIn _ (by omega)) fun majorOrder => ?_
              split
              · exact trivial
              · apply Reading.loadsIn_bind (loadField_loadsIn _ (by omega)) fun ndims => ?_
                apply Reading.loadsIn_bind (loadField_loadsIn _ (by omega)) fun progressUnit => ?_
                split
                · exact trivial
                · apply Reading.loadsIn_bind (loadField_loadsIn _ (by omega)) fun stride => ?_
                  apply Reading.loadsIn_bind (loadEntries_loadsIn _ (by omega) _) fun dims => ?_
                  apply Reading.loadsIn_bind (loadEntries_loadsIn _ (by omega) _) fun strides => ?_
                  exact trivial

/-- The tensor header is loaded behind the fixed part of the slot. -/
theorem validateTensor_loadsIn (consumer : Consumer) (payloadBytesFilled : UInt64) (slot : SlotView) :
    (validateTensor consumer payloadBytesFilled slot).LoadsIn (64 ≤ ·) := by
  unfold validateTensor
  split
  · exact trivial
  · exact trivial
  · split
    · exact trivial
    · split
      · exact trivial
      · split
        · exact trivial
        · apply Reading.loadsIn_bind (tensorHeaderDecode_loadsIn 64 _) fun decoded => ?_
          split
          · exact trivial
          · split
            · exact trivial
            · exact trivial

/-- A slot is read only for the stream and the epoch of the consumer. -/
theorem validateProgress_loads {consumer : AttachedConsumer} {progress : FrameProgress} {region : Nat}
    {offset : UInt32} (loads : validateProgress consumer progress = .loads region offset) :
    progress.streamId = consumer.streamId ∧ progress.epoch = consumer.epoch := by
  unfold validateProgress at loads
  dsimp only at loads
  split at loads
  · cases loads
  · split at loads
    · cases loads
    · split at loads
      · cases loads
      next stream =>
        split at loads
        · cases loads
        next epoch =>
          rw [bne_iff_ne, ne_eq, not_not] at stream epoch
          exact ⟨stream, epoch⟩

/-- A slot with a closed word lets the first part of a call pass. -/
structure SlotPassed (seq : UInt64) (cell : SlotCell) (slot : SlotView) : Prop where
  committed : Committed cell.stamp
  alone : (validateSlot seq).alone cell = .ok slot

/-- These are the checks that the second part of a call makes. -/
structure TensorChecked (consumer : Consumer) (payloadBytesFilled : UInt64) (cell : SlotCell) (slot : SlotView)
    (check : ProgressCheck) : Prop where
  same : check.slot = slot
  filled : payloadBytesFilled ≤ slot.valuesLenBytes.toUInt64
  headerLength : slot.headerBytesLength = tensorHeaderBytes
  tensor : (tensorHeaderDecode 64 tensorHeaderBytes).alone cell = .ok check.tensor

/-- A passed check has checked the tensor header of one slot. -/
theorem validateTensor_ok {consumer : Consumer} {payloadBytesFilled : UInt64} {cell : SlotCell} {slot : SlotView}
    {check : ProgressCheck} (passed : (validateTensor consumer payloadBytesFilled slot).alone cell = .ok check) :
    TensorChecked consumer payloadBytesFilled cell slot check := by
  unfold validateTensor at passed
  split at passed
  · cases passed
  · cases passed
  · split at passed
    · cases passed
    · split at passed
      · cases passed
      next filled =>
        split at passed
        · cases passed
        next length =>
          rw [bne_iff_ne, ne_eq, not_not] at length
          rw [Reading.alone_bind, length] at passed
          split at passed
          · cases passed
          next tensor decoded =>
            split at passed
            · cases passed
            · cases passed
              exact ⟨rfl, UInt64.not_lt.mp filled, length, decoded⟩

/-- The rest of a call loads from a header that is still the one of the slot that has passed. -/
structure Checking (stores : List Store) (validation : Validation) (program : SlotReading ProgressResult) : Prop where
  loads : program.LoadsIn (64 ≤ ·)
  source : ∃ past slot, past <+: stores ∧
    SlotPassed validation.progress.seq (slotAfter past validation.region validation.offset) slot ∧
      (∀ place, 64 ≤ place → (slotAfter stores validation.region validation.offset).body place =
        (slotAfter past validation.region validation.offset).body place) ∧
        program.alone (slotAfter past validation.region validation.offset) =
          (validateTensor validation.consumer.toConsumer validation.progress.payloadBytesFilled slot).alone
            (slotAfter past validation.region validation.offset)

/-- A call in flight follows its slot, and behind the last load of the commit word it follows the header only. -/
structure Validation.Tracked (stores : List Store) (validation : Validation) : Prop where
  wanted : validation.progress.streamId = validation.consumer.streamId ∧
    validation.progress.epoch = validation.consumer.epoch
  slot : ∀ program, validation.phase = .slot program → program = validateSlot validation.progress.seq ∨
    ∃ past, past <+: stores ∧
      InFlight Committed IsPassed createdSlot (validateSlot validation.progress.seq)
        (storesAt past validation.region validation.offset)
        (storesAt stores validation.region validation.offset) program
  tensor : ∀ program, validation.phase = .tensor program → Checking stores validation program

/-- After some of the stores the slot passes both parts of the call. -/
structure JudgedCall.Sourced (stores : List Store) (validated : JudgedCall) (check : ProgressCheck) : Prop where
  wanted : validated.progress.streamId = validated.consumer.streamId ∧
    validated.progress.epoch = validated.consumer.epoch
  source : ∃ region offset past, past <+: stores ∧
    SlotPassed validated.progress.seq (slotAfter past region offset) check.slot ∧
      (validateTensor validated.consumer.toConsumer validated.progress.payloadBytesFilled check.slot).alone
        (slotAfter past region offset) = .ok check

variable {stores : List Store} {validation : Validation} {validated : JudgedCall} {check : ProgressCheck}
  {program : SlotReading ProgressResult}

/-- What a verdict is about stays among more stores. -/
theorem JudgedCall.Sourced.grow (sourced : validated.Sourced stores check) (added : List Store) :
    validated.Sourced (stores ++ added) check := by
  obtain ⟨wanted, region, offset, past, within, passed, alone⟩ := sourced
  exact ⟨wanted, region, offset, past, within.trans (List.prefix_append _ _), passed, alone⟩

/-- Stores change the slot one after the other. -/
theorem slotAfter_append (stores added : List Store) (region : Nat) (offset : UInt32) :
    slotAfter (stores ++ added) region offset =
      (slotAfter stores region offset).after (storesAt added region offset) := by
  rw [slotAfter, storesAt_append, Cell.after_append]
  rfl

/-- A store that changes no header byte leaves the header as it is. -/
theorem Store.keeps_header {store : Store} {region : Nat} {offset : UInt32}
    (calm : store.rewrites region offset (slotAfter stores region offset) = false) (place : Nat)
    (header : 64 ≤ place) :
    (slotAfter (stores ++ [store]) region offset).body place = (slotAfter stores region offset).body place := by
  rw [slotAfter_append, storesAt, List.filterMap_cons]
  unfold Store.rewrites at calm
  cases reached : store.at? region offset with
  | none => rfl
  | some inner =>
      rw [reached] at calm
      cases inner with
      | stamp word => rfl
      | body changed byte =>
          change Function.update (slotAfter stores region offset).body changed byte place = _
          by_cases same : place = changed
          · subst same
            change (decide (64 ≤ place) && (slotAfter stores region offset).body place != byte) = false at calm
            rw [decide_eq_true header, Bool.true_and, bne_eq_false_iff_eq] at calm
            rw [Function.update_self, calm]
          · exact Function.update_of_ne same _ _

/-- A store that does not rewrite the slot leaves the check of its tensor header. -/
theorem Checking.grow {store : Store} (checking : Checking stores validation program)
    (calm : store.rewrites validation.region validation.offset
      (slotAfter stores validation.region validation.offset) = false) :
    Checking (stores ++ [store]) validation program := by
  obtain ⟨loads, past, slot, within, passed, header, alone⟩ := checking
  refine ⟨loads, past, slot, within.trans (List.prefix_append _ _), passed, ?_, alone⟩
  intro place inside
  rw [Store.keeps_header calm place inside, header place inside]

/-- A calm store leaves a validation on its track. -/
theorem Validation.Tracked.grow {store : Store} (tracked : validation.Tracked stores)
    (calm : ∀ program, validation.phase = .tensor program →
      store.rewrites validation.region validation.offset
        (slotAfter stores validation.region validation.offset) = false) :
    validation.Tracked (stores ++ [store]) where
  wanted := tracked.wanted
  slot := by
    intro program phase
    rcases tracked.slot program phase with unopened | ⟨past, within, flight⟩
    · exact .inl unopened
    · refine .inr ⟨past, within.trans (List.prefix_append _ _), ?_⟩
      rw [storesAt_append]
      exact flight.grow _
  tensor := fun program phase => (tracked.tensor program phase).grow (calm program phase)

/-- The next load of the first part follows the slot. -/
theorem Validation.Tracked.load_slot {program : SlotReading (Except ProgressRejection SlotView)}
    (tracked : validation.Tracked stores) (phase : validation.phase = .slot program)
    (disciplined : Disciplined Committed createdSlot (storesAt stores validation.region validation.offset)) :
    ∃ past, past <+: stores ∧
      Loaded Committed IsPassed createdSlot (validateSlot validation.progress.seq)
        (storesAt past validation.region validation.offset)
        (storesAt stores validation.region validation.offset)
        (program.step (slotAfter stores validation.region validation.offset)) := by
  have opens := validateSlot_opens validation.progress.seq
  rcases tracked.slot program phase with rfl | ⟨past, within, flight⟩
  · exact ⟨stores, List.prefix_refl _, load_first opens⟩
  · refine ⟨past, within, ?_⟩
    rcases flight with refuses | following
    · exact .inl (.inl (Refuses.load refuses _))
    · exact following.load disciplined

/-- A step adds at most the next pending store. -/
theorem System.step_stores {system after : System} {action : Action} (stepped : system.step action = some after) :
    after.stores = system.stores ∨
      ∃ store rest, action = .store ∧ system.pending = store :: rest ∧ after.stores = system.stores ++ [store] := by
  cases action with
  | call call =>
      rw [System.step] at stepped
      split at stepped
      all_goals cases stepped
      exact .inl rfl
  | store =>
      rw [System.step] at stepped
      split at stepped
      · cases stepped
      next store rest pending =>
        cases stepped
        exact .inr ⟨store, rest, rfl, pending, rfl⟩
  | read index consumer seq =>
      rw [System.step] at stepped
      split at stepped
      all_goals cases stepped
      all_goals exact .inl rfl
  | load index =>
      obtain ⟨reader, -, rfl⟩ := Option.map_eq_some_iff.mp stepped
      exact .inl (system.load_same index reader).2.1

/-- A call in flight is tracked, and every call that returned 0 has one source. -/
structure Watch.Followed (watch : Watch) : Prop where
  validation : ∀ validation, watch.validation = some validation → validation.Tracked watch.system.stores
  validated : ∀ validated ∈ watch.validated, ∀ check, validated.result = .ok check →
    validated.Sourced watch.system.stores check

namespace Watch

variable {watch after : Watch}

/-- A call that loads leaves the system as it is. -/
theorem settle_system (watch : Watch) (validation : Validation) (outcome : ProgressResult ⊕ ProgressPhase) :
    (watch.settle validation outcome).system = watch.system := by
  cases outcome with
  | inl result => rfl
  | inr phase => rfl

/-- A step of the run is a step of its system or leaves the system as it is. -/
theorem step_system {action : WatchAction} (stepped : watch.step action = some after) :
    after.system = watch.system ∨ ∃ inner, watch.system.step inner = some after.system := by
  cases action with
  | act inner =>
      obtain ⟨system, moved, rfl⟩ := Option.map_eq_some_iff.mp stepped
      exact .inr ⟨inner, moved⟩
  | validate consumer progress =>
      rw [Watch.step] at stepped
      split at stepped
      all_goals cases stepped
      all_goals exact .inl rfl
  | load =>
      obtain ⟨validation, -, rfl⟩ := Option.map_eq_some_iff.mp stepped
      exact .inl (watch.settle_system _ _)

/-- Each step is explained by the writes of its producer. -/
theorem step_explained {action : WatchAction} {writes : List Write}
    (explained : Explained (fun _ => True) watch.system writes) (stepped : watch.step action = some after) :
    ∃ writes', Explained (fun _ => True) after.system writes' := by
  rcases step_system stepped with same | ⟨inner, moved⟩
  · rw [same]
    exact ⟨writes, explained⟩
  · exact explained.step moved fun _ _ _ _ _ _ => trivial

/-- No publication is forgotten. -/
theorem publications_grow {action : WatchAction} (stepped : watch.step action = some after) :
    ∃ added, after.system.publications = watch.system.publications ++ added := by
  rcases step_system stepped with same | ⟨inner, moved⟩
  · rw [same]
    exact ⟨[], (List.append_nil _).symm⟩
  · exact System.publications_grow moved

end Watch

namespace Watch.Followed

variable {watch after : Watch}

/-- The end of a validation is followed. -/
theorem finish (followed : watch.Followed)
    (last : ∀ check, validated.result = .ok check → validated.Sourced watch.system.stores check) :
    (watch.finish validated).Followed where
  validation := nofun
  validated := by
    intro other present check accepted
    rcases List.mem_append.mp present with early | late
    · exact followed.validated other early check accepted
    · cases List.mem_singleton.mp late
      exact last check accepted

/-- The rest of a call either goes on in the second part or has ended with one source. -/
theorem enter (followed : watch.Followed)
    (wanted : validation.progress.streamId = validation.consumer.streamId ∧
      validation.progress.epoch = validation.consumer.epoch)
    (checking : Checking watch.system.stores validation program) :
    (watch.settle validation (enterTensor program)).Followed := by
  have going : ({ watch with validation := some { validation with phase := .tensor program } } : Watch).Followed := by
    refine ⟨?_, followed.validated⟩
    intro other present
    cases present
    refine ⟨wanted, nofun, ?_⟩
    intro program' phase
    cases phase
    exact ⟨checking.loads, checking.source⟩
  cases program with
  | ret result =>
      refine followed.finish fun check accepted => ⟨wanted, ?_⟩
      obtain ⟨-, past, slot, within, passed, -, alone⟩ := checking
      have checked : (validateTensor validation.consumer.toConsumer validation.progress.payloadBytesFilled slot).alone
          (slotAfter past validation.region validation.offset) = .ok check := alone.symm.trans accepted
      obtain rfl := (validateTensor_ok checked).same
      exact ⟨_, _, past, within, passed, checked⟩
  | stamp next => exact going
  | body offset next => exact going

/-- A load of a validation is followed. -/
theorem load (followed : watch.Followed) (present : watch.validation = some validation)
    (disciplined : Disciplined Committed createdSlot
      (storesAt watch.system.stores validation.region validation.offset)) : (watch.load validation).Followed := by
  have tracked := followed.validation validation present
  unfold Watch.load Validation.load
  split
  next program phase =>
    obtain ⟨past, within, loaded⟩ := tracked.load_slot phase disciplined
    split
    next rejection ended => exact followed.finish nofun
    next slot ended =>
      rw [ended] at loaded
      rcases loaded with flight | ⟨result, same, quiet, committed, alone⟩
      · exact absurd ⟨slot, rfl⟩ flight.refused
      · cases same
        have whole : slotAfter watch.system.stores validation.region validation.offset =
            slotAfter past validation.region validation.offset := congrArg createdSlot.after quiet
        have header : ∀ place, 64 ≤ place →
            (slotAfter watch.system.stores validation.region validation.offset).body place =
              (slotAfter past validation.region validation.offset).body place := by
          intro place _
          rw [whole]
        exact followed.enter tracked.wanted
          ⟨validateTensor_loadsIn _ _ _, past, slot, within, ⟨committed, alone⟩, header, rfl⟩
    next going rejected passed =>
      refine ⟨?_, followed.validated⟩
      intro other present'
      cases present'
      refine ⟨tracked.wanted, ?_, nofun⟩
      intro program' phase'
      cases phase'
      rcases loaded with flight | ⟨result, ended, -⟩
      · exact .inr ⟨past, within, flight⟩
      · cases result with
        | error rejection => exact absurd ended (rejected rejection)
        | ok slot => exact absurd ended (passed slot)
  next program phase =>
    obtain ⟨loads, past, slot, within, passed, header, alone⟩ := tracked.tensor program phase
    refine followed.enter tracked.wanted ⟨loads.step _, past, slot, within, passed, header, ?_⟩
    rw [← (loads.step _).alone_congr header, Reading.alone_step, loads.alone_congr header, alone]

/-- Each calm step of the run keeps the call tracked. -/
theorem step {action : WatchAction} {allowed : Write → Prop} {writes : List Write}
    (explained : Explained allowed watch.system writes) (once : Once watch.system.publications)
    (followed : watch.Followed) (calm : watch.calm action = true)
    (stepped : watch.step action = some after) :
    after.Followed := by
  cases action with
  | act action =>
      obtain ⟨system, moved, rfl⟩ := Option.map_eq_some_iff.mp stepped
      rcases System.step_stores moved with same | ⟨store, rest, rfl, pending, grown⟩
      · refine ⟨?_, ?_⟩
        · intro validation present
          rw [same]
          exact followed.validation validation present
        · rw [same]
          exact followed.validated
      · refine ⟨?_, ?_⟩
        · intro validation present
          rw [grown]
          refine (followed.validation validation present).grow fun program phase => ?_
          exact watch.calm_store calm pending present phase
        · intro validated present check accepted
          rw [grown]
          exact (followed.validated validated present check accepted).grow _
  | validate consumer progress =>
      rw [Watch.step] at stepped
      split at stepped
      next region offset idle loads =>
        cases stepped
        refine ⟨?_, followed.validated⟩
        intro validation present
        cases present
        refine ⟨validateProgress_loads loads, ?_, nofun⟩
        intro program phase
        cases phase
        exact .inl rfl
      · cases stepped
      next rejection idle _ =>
        cases stepped
        exact followed.finish nofun
      · cases stepped
  | load =>
      obtain ⟨validation, present, rfl⟩ := Option.map_eq_some_iff.mp stepped
      exact followed.load present (explained.disciplined once _ _)

end Watch.Followed

/-- A calm run that publishes each sequence number once keeps its call tracked. -/
theorem watch_followed {producer : Producer} {actions : List WatchAction} {watch : Watch}
    (ran : GuardedRun.runWhile Watch.calm Watch.step { system := { producer := producer } } actions = some watch)
    (once : Once watch.system.publications) :
    (∃ writes, Explained (fun _ => True) watch.system writes) ∧ watch.Followed := by
  have start : ({ system := { producer := producer } } : Watch).Followed :=
    ⟨nofun, fun _ absent => absurd absent List.not_mem_nil⟩
  have step : ∀ (watch : Watch) action after,
      ((∃ writes, Explained (fun _ => True) watch.system writes) ∧
        (Once watch.system.publications → watch.Followed)) → watch.calm action = true →
      watch.step action = some after →
      (∃ writes, Explained (fun _ => True) after.system writes) ∧
        (Once after.system.publications → after.Followed) := by
    intro watch action after holds calm stepped
    obtain ⟨⟨writes, explained⟩, followed⟩ := holds
    refine ⟨Watch.step_explained explained stepped, fun once => ?_⟩
    obtain ⟨added, grown⟩ := Watch.publications_grow stepped
    rw [grown] at once
    exact Watch.Followed.step explained once.earlier (followed once.earlier) calm stepped
  have kept := GuardedRun.keeps
    (I := fun watch : Watch => (∃ writes, Explained (fun _ => True) watch.system writes) ∧
      (Once watch.system.publications → watch.Followed))
    step ran ⟨⟨[], Explained.start _ producer⟩, fun _ => start⟩
  exact ⟨kept.1, kept.2 once⟩

/-- A slot that holds a publication passes with what was published. -/
theorem validateSlot_published {seq : UInt64} {cell : SlotCell} {publication : Publication} {slot : SlotView}
    (holds : Holds cell publication) (small : publication.seq.toNat < 2 ^ 63)
    (passed : (validateSlot seq).alone cell = .ok slot) :
    publication.seq = seq ∧ slot.valuesLenBytes = publication.payloadLen ∧ slot.poolId = publication.poolId := by
  unfold validateSlot at passed
  rw [Reading.alone, holds.stamp, seqCommitted_isCommitted, if_neg (by decide), seqValue_committed small] at passed
  split at passed
  · cases passed
  next same =>
    rw [bne_iff_ne, ne_eq, not_not] at same
    rw [Reading.alone_bind, decode_slot (slot_shows holds.shows)] at passed
    dsimp only at passed
    rw [confirmSlot, Reading.alone, holds.stamp, seqCommitted_isCommitted, seqValue_committed small] at passed
    simp only [same, bne_self_eq_false, Bool.not_true, Bool.or_self, Bool.false_eq_true, if_false] at passed
    cases passed
    exact ⟨same, rfl, rfl⟩

/-- A slot that holds a publication shows its tensor header. -/
theorem decode_published {cell : SlotCell} {publication : Publication} (holds : Holds cell publication) :
    (tensorHeaderDecode 64 tensorHeaderBytes).alone cell = .ok publication.tensor := by
  obtain ⟨-, shown, tensor, accepted⟩ := holds
  obtain ⟨dtype, majorOrder, progressUnit⟩ := tensorHeaderValidate_known accepted
  exact decode_tensor (slot_shows shown).header dtype majorOrder progressUnit

/-- In every calm run a call with the code 0 has judged one publication, the one of the wanted number. -/
theorem validateProgress_judged {producer : Producer} {actions : List WatchAction} {watch : Watch}
    {validated : JudgedCall} {check : ProgressCheck}
    (ran : GuardedRun.runWhile Watch.calm Watch.step { system := { producer := producer } } actions = some watch)
    (small : ∀ publication ∈ watch.system.publications, publication.seq.toNat < 2 ^ 63)
    (once : (watch.system.publications.map Publication.seq).Nodup) (finished : validated ∈ watch.validated)
    (accepted : validated.result = .ok check) :
    ∃ publication, Judged watch.system.publications validated check publication := by
  obtain ⟨⟨writes, explained⟩, followed⟩ := watch_followed ran ⟨small, once⟩
  obtain ⟨⟨stream, epoch⟩, region, offset, past, within, ⟨committed, passed⟩, checked⟩ :=
    followed.validated validated finished check accepted
  rw [List.prefix_iff_eq_take] at within
  rw [within] at committed passed checked
  obtain ⟨publication, payload, present, -, -, holds⟩ := explained.holds past.length committed
  have published : publication ∈ watch.system.publications := explained.publications ▸ mem_publications present
  obtain ⟨seq, valuesLen, poolId⟩ := validateSlot_published holds (small _ published) passed
  obtain ⟨-, filled, headerLength, tensor⟩ := validateTensor_ok checked
  rw [decode_published holds] at tensor
  refine ⟨publication, stream, epoch, published, seq, ?_, valuesLen, poolId, headerLength, ?_, valuesLen ▸ filled⟩
  · intro other present' same
    exact List.inj_on_of_nodup_map once present' published (same.trans seq.symm)
  · exact (Except.ok.inj tensor).symm

/-- A ring of one slot with one pool. -/
def narrowProducer : Producer where
  headerRegion := ⟨some 1, 320⟩
  pools := [⟨1, 1, 64, ⟨some 2, 128⟩⟩]
  poolCount := 1
  headerNslots := 1

def narrowConsumer : AttachedConsumer where
  headerRegion := ⟨some 1, 320⟩
  pools := [⟨1, 1, 64, ⟨some 2, 128⟩⟩]
  poolCount := 1
  headerNslots := 1
  shmMapped := true
  streamId := 7
  epoch := 1

def smallProgress : FrameProgress := ⟨7, 1, 0, 0, 1⟩

def wideTensor : TensorHeader := { smallTensor with dims := fun index => if index.val = 0 then 8 else 0 }

/-- The first frame is checked while the next one comes into the same slot. -/
def lappedRun (tensor : TensorHeader) : List WatchAction :=
  .act (.call smallOffer) :: List.replicate 250 (.act .store) ++ [.validate narrowConsumer smallProgress] ++
    List.replicate 37 .load ++ .act (.call (.offer ⟨7, some 0, 0⟩ tensor (some []) 0 none)) ::
      List.replicate 80 (.act .store) ++ List.replicate 82 .load

/-- The two frames have small numbers. -/
theorem small_of_seqs {publications : List Publication} (seqs : publications.map Publication.seq = [0, 1]) :
    ∀ publication ∈ publications, publication.seq.toNat < 2 ^ 63 := by
  intro publication present
  have known : publication.seq ∈ [(0 : UInt64), 1] := seqs ▸ List.mem_map_of_mem present
  rcases List.mem_pair.mp known with same | same
  · rw [same]
    decide
  · rw [same]
    decide

def firstExtent (tensor : TensorHeader) : Int32 := tensor.dims ⟨0, by decide⟩

/-- The number and the first extent of each frame, and of each check. -/
def Watch.extents (watch : Watch) : List (UInt64 × Int32) × List (UInt64 × Option Int32) :=
  (watch.system.publications.map fun publication => (publication.seq, firstExtent publication.tensor),
    watch.validated.map fun validated =>
      (validated.progress.seq, validated.result.toOption.map fun check => firstExtent check.tensor))

theorem Watch.extents_check {watch : Watch} {frames : List (UInt64 × Int32)} {seq : UInt64} {extent : Int32}
    (shown : watch.extents = (frames, [(seq, some extent)])) :
    ∃ validated ∈ watch.validated, ∃ check, validated.result = .ok check ∧ validated.progress.seq = seq ∧
      firstExtent check.tensor = extent := by
  obtain ⟨validated, alone, same⟩ := List.map_eq_singleton_iff.mp (Prod.mk.inj shown).2
  obtain ⟨number, extent'⟩ := Prod.mk.inj same
  obtain ⟨check, accepted, dims⟩ := Option.map_eq_some_iff.mp extent'
  refine ⟨validated, alone ▸ List.mem_singleton_self _, check, ?_, number, dims⟩
  cases result : validated.result with
  | error rejection =>
      rw [result] at accepted
      cases accepted
  | ok check' =>
      rw [result] at accepted
      cases accepted
      rfl

theorem Watch.extents_seqs {watch : Watch} {frames : List (UInt64 × Int32)} {checks : List (UInt64 × Option Int32)}
    (shown : watch.extents = (frames, checks)) :
    watch.system.publications.map Publication.seq = frames.map Prod.fst := by
  rw [← (Prod.mk.inj shown).1, List.map_map]
  rfl

theorem header_of_next_frame : ∃ watch validated check,
    GuardedRun.run Watch.step { system := { producer := narrowProducer } } (lappedRun wideTensor) = some watch ∧
      (∀ publication ∈ watch.system.publications, publication.seq.toNat < 2 ^ 63) ∧
        (watch.system.publications.map Publication.seq).Nodup ∧ validated ∈ watch.validated ∧
          validated.result = .ok check ∧
            ¬ ∃ publication, Judged watch.system.publications validated check publication := by
  have shape : (GuardedRun.run Watch.step { system := { producer := narrowProducer } }
      (lappedRun wideTensor)).map Watch.extents = some ([(0, 4), (1, 8)], [(0, some 8)]) := by decide +kernel
  obtain ⟨watch, ran, shown⟩ := Option.map_eq_some_iff.mp shape
  obtain ⟨validated, finished, check, accepted, number, extent⟩ := Watch.extents_check shown
  have seqs : watch.system.publications.map Publication.seq = [0, 1] := Watch.extents_seqs shown
  refine ⟨watch, validated, check, ran, small_of_seqs seqs, seqs ▸ by decide, finished, accepted, fun same => ?_⟩
  obtain ⟨publication, judged⟩ := same
  have known : (publication.seq, firstExtent publication.tensor) ∈ [((0 : UInt64), (4 : Int32)), (1, 8)] :=
    (Prod.mk.inj shown).1 ▸ List.mem_map_of_mem judged.published
  rw [judged.seq, number, ← judged.tensor, extent] at known
  exact absurd known (by decide)

theorem validateProgress_judged_lapped : ∃ watch validated check publication,
    GuardedRun.runWhile Watch.calm Watch.step { system := { producer := narrowProducer } } (lappedRun smallTensor) =
        some watch ∧
      validated ∈ watch.validated ∧ validated.result = .ok check ∧
        Judged watch.system.publications validated check publication := by
  have shape : (GuardedRun.runWhile Watch.calm Watch.step { system := { producer := narrowProducer } }
      (lappedRun smallTensor)).map Watch.extents = some ([(0, 4), (1, 4)], [(0, some 4)]) := by decide +kernel
  obtain ⟨watch, ran, shown⟩ := Option.map_eq_some_iff.mp shape
  obtain ⟨validated, finished, check, accepted, -⟩ := Watch.extents_check shown
  have seqs : watch.system.publications.map Publication.seq = [0, 1] := Watch.extents_seqs shown
  obtain ⟨publication, judged⟩ :=
    validateProgress_judged ran (small_of_seqs seqs) (seqs ▸ by decide) finished accepted
  exact ⟨watch, validated, check, publication, ran, finished, accepted, judged⟩

end TensorPool.Client
