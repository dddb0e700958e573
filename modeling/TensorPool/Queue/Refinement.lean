/-
This file proves that every run of the queue with two slots or more is one of a bounded queue.
-/

import TensorPool.Queue.Delivery

namespace TensorPool.Queue

variable {width producer : Nat} {state : System} {actions : List Action}

abbrev Truth (state : System) : Prop :=
  Journal.Along (Truthful state.queue.capacity.toNat) state.log

/-- A step without an event tells the truth. -/
theorem truth_same {state after : System} (truth : Truth state)
    (capacity : after.queue.capacity = state.queue.capacity) (log : after.log = state.log ++ []) : Truth after := by
  unfold Truth
  rw [log, capacity, List.append_nil]
  exact truth

/-- A step with a truthful event tells the truth. -/
theorem truth_push {state after : System} (truth : Truth state)
    (capacity : after.queue.capacity = state.queue.capacity) {event : Event} (log : after.log = state.log ++ [event])
    (good : Truthful state.queue.capacity.toNat state.log event) : Truth after := by
  unfold Truth
  rw [log, capacity]
  exact (Journal.along_push _ _).mpr ⟨truth, good⟩

/-- An empty poll found nothing, or the oldest item is still inside its offer. -/
theorem empty_truthful (sound : Sound width state) (ordered : Ordered state)
    (oldest : state.ring.entries.length = state.ring.low ∨ state.ring.busy state.ring.low) :
    Truthful state.queue.capacity.toNat state.log (.polled none) := by
  intro all
  rcases oldest with drained | ⟨producer, held⟩
  · exact sound.fifo.drained drained.symm
  · have order := ordered producer
    rw [all producer] at order
    cases at' : state.producers producer with
    | copy item pos done =>
        rw [at'] at order
        have longer := congrArg List.length order
        rw [List.length_append] at longer
        change _ = _ + 1 at longer
        omega
    | idle => rw [at'] at held; cases held
    | loadTail _ => rw [at'] at held; cases held
    | loadSequence _ _ => rw [at'] at held; cases held
    | exchange _ _ => rw [at'] at held; cases held

/-- Each step near its loads tells the truth. -/
theorem truth_step (truth : Truth state) (ordered : Ordered state) (sound : Sound width state)
    (small : (taken state.log).length < 2 ^ 63) (action : Action) (near : LoadsNear state action) :
    Truth (state.step action) := by
  cases action with
  | offer producer fails =>
      have change := offer_change sound small producer fails near
      generalize state.step (.offer producer fails) = after at change
      cases change with
      | moved at' outside stays waits next => exact truth_same truth rfl rfl
      | refused item outside full => exact truth_push truth rfl rfl fun _ => full
      | stored item pos done copies short => exact truth
      | took item pos outside waited last free length => exact truth_push truth rfl rfl trivial
      | published item pos copies => exact truth_push truth rfl rfl trivial
  | poll fails =>
      have change := poll_change sound small fails
      generalize state.step (.poll fails) = after at change
      cases change with
      | moved poll next steps => exact truth_same truth rfl rfl
      | empty stays oldest => exact truth_push truth rfl rfl (empty_truthful sound ordered oldest)
      | advanced pos from' => exact truth
      | released pos out copies whole => exact truth_push truth rfl rfl trivial
  | callPoll itemSize =>
      simp only [System.step]
      split
      · unfold mpscQueuePoll
        split
        · exact truth_push truth rfl rfl trivial
        · exact truth_same truth rfl rfl
      · exact truth
  | callOffer producer item =>
      simp only [System.step]
      split
      · unfold mpscQueueOffer
        split
        · exact truth_push truth rfl rfl fun same => absurd same (by decide)
        · exact truth_same truth rfl rfl
      · exact truth

/-- Every load of the run finds a slot near the position of its offer. -/
def RunsNear (state : System) : List Action → Prop
  | [] => True
  | action :: rest => LoadsNear state action ∧ RunsNear (state.step action) rest

instance decidableRunsNear (state : System) : (actions : List Action) → Decidable (RunsNear state actions)
  | [] => isTrue trivial
  | action :: rest => @instDecidableAnd _ _ _ (decidableRunsNear (state.step action) rest)

/-- A run is near when both of its parts are. -/
theorem runsNear_append (state : System) (first second : List Action) :
    RunsNear state (first ++ second) ↔ RunsNear state first ∧ RunsNear (state.run first) second := by
  induction first generalizing state with
  | nil =>
      rw [List.nil_append, RunsNear, true_and]
      rfl
  | cons action first hypothesis =>
      rw [List.cons_append, RunsNear, RunsNear, hypothesis, and_assoc]
      rfl

/-- The buffer of the slots is in place and fits in the address space. -/
structure Placed (capacity itemSize : UInt64) (queue : MpscQueue) : Prop where
  fits : capacity.toNat * (8 + itemSize.toNat) < 2 ^ 64
  made : ∃ calloc empty, mpscQueueInit capacity = .ok empty ∧
    mpscQueueAllocSlots calloc empty itemSize = .ok queue

/-- The check of the capacity is that for a power of two. -/
theorem isPowerOfTwo_iff (value : UInt64) : isPowerOfTwo value = true ↔ value.toNat.isPowerOfTwo := by
  unfold isPowerOfTwo
  rw [← Nat.ne_zero_and_sub_one_eq_zero_iff_isPowerOfTwo, Bool.and_eq_true, bne_iff_ne, beq_iff_eq, ne_eq,
    ← UInt64.toNat_inj, ← UInt64.toNat_inj, UInt64.toNat_and, UInt64.toNat_zero]
  constructor
  · rintro ⟨positive, none⟩
    rw [UInt64.toNat_sub_of_le _ _ (UInt64.le_iff_toNat_le.mpr (by rw [UInt64.toNat_one]; omega)),
      UInt64.toNat_one] at none
    exact ⟨positive, none⟩
  · rintro ⟨positive, none⟩
    rw [UInt64.toNat_sub_of_le _ _ (UInt64.le_iff_toNat_le.mpr (by rw [UInt64.toNat_one]; omega)),
      UInt64.toNat_one]
    exact ⟨positive, none⟩

/-- The constructor accepts the powers of two. -/
theorem init_accepts {capacity : UInt64} {empty : MpscQueue} (accepted : mpscQueueInit capacity = .ok empty) :
    capacity.toNat.isPowerOfTwo ∧ empty.capacity = capacity ∧ empty.mask = capacity - 1 ∧
      empty.head = 0 ∧ empty.tail = 0 := by
  unfold mpscQueueInit at accepted
  split at accepted
  · cases accepted
  next valid =>
    cases accepted
    rw [Bool.or_eq_true, not_or, Bool.not_eq_true, Bool.not_eq_true', Bool.not_eq_false] at valid
    exact ⟨(isPowerOfTwo_iff capacity).mp valid.2, rfl, rfl, rfl, rfl⟩

/-- An allocation gives the queue its slots. -/
theorem alloc_places {calloc : UInt64 → Bool} {empty queue : MpscQueue} {itemSize : UInt64}
    (placed : mpscQueueAllocSlots calloc empty itemSize = .ok queue) :
    itemSize ≠ 0 ∧ queue = { empty with
      slots := fun index => ⟨UInt64.ofNat index, List.replicate itemSize.toNat 0⟩
      slotSize := 8 + itemSize
      itemSize := itemSize } := by
  unfold mpscQueueAllocSlots at placed
  split at placed
  · cases placed
  next positive =>
    dsimp only at placed
    split at placed
    · cases placed
    · cases placed
      exact ⟨fun zero => positive (beq_iff_eq.mpr zero), rfl⟩

/-- A queue in place starts sound when it has two slots or more. -/
theorem sound_start {capacity itemSize : UInt64} {queue : MpscQueue} (placed : Placed capacity itemSize queue)
    (several : capacity ≠ 1) : Sound itemSize.toNat ({ queue := queue } : System) := by
  obtain ⟨fits, calloc, empty, accepted, made⟩ := placed
  obtain ⟨power, size, mask, head, tail⟩ := init_accepts accepted
  obtain ⟨positive, rfl⟩ := alloc_places made
  have atLeast : 0 < capacity.toNat := Nat.pos_of_isPowerOfTwo power
  have notOne : capacity.toNat ≠ 1 := fun one => several (UInt64.toNat_inj.mp one)
  have wide : capacity.toNat * 8 ≤ capacity.toNat * (8 + itemSize.toNat) :=
    Nat.mul_le_mul_left _ (Nat.le_add_right ..)
  constructor
  · exact size ▸ power
  · change empty.capacity.toNat ≤ 2 ^ 61
    rw [size]
    omega
  · change empty.mask.toNat = empty.capacity.toNat - 1
    have one : (1 : UInt64) ≤ capacity := UInt64.le_iff_toNat_le.mpr (by rw [UInt64.toNat_one]; omega)
    rw [mask, size, UInt64.toNat_sub_of_le _ _ one, UInt64.toNat_one]
  · rfl
  · constructor
    · change 2 ≤ empty.capacity.toNat
      rw [size]
      omega
    · exact Nat.le_refl 0
    · exact Nat.zero_le _
    · intro index short
      exact List.length_replicate
    · intro position above below waits
      change position < 0 + empty.capacity.toNat at below
      change (UInt64.ofNat (position % empty.capacity.toNat)).toNat = position
      have bound := empty.capacity.toNat_lt
      rw [Nat.mod_eq_of_lt (by omega), UInt64.toNat_ofNat_of_lt' (by rw [UInt64.size]; omega)]
    · intro position entry above known free
      cases known
    · rintro position ⟨producer, held⟩
      cases held
  · exact .empty
  · change empty.tail.toNat = 0
    rw [tail]
    rfl
  · exact fun producer => trivial
  · change empty.head.toNat = 0
    rw [head]
    rfl

/-- What every run of the queue keeps. -/
structure Kept (width : Nat) (actions : List Action) (state : System) : Prop where
  sound : Sound width state
  called : Called actions state
  ordered : Ordered state
  truth : Truth state

/-- Few calls take few places. -/
theorem Kept.small (kept : Kept width actions state) (few : (callers actions).length < 2 ^ 63) :
    (taken state.log).length < 2 ^ 63 :=
  Nat.lt_of_le_of_lt kept.called.taken_le few

/-- A step near its loads keeps the queue. -/
theorem Kept.step (kept : Kept width actions state) (few : (callers actions).length < 2 ^ 63) (action : Action)
    (near : LoadsNear state action) : Kept width (actions ++ [action]) (state.step action) where
  sound := kept.sound.step (kept.small few) action near
  called := kept.called.step kept.sound (kept.small few) action near
  ordered := kept.ordered.step kept.sound (kept.small few) action near
  truth := truth_step kept.truth kept.ordered kept.sound (kept.small few) action near

/-- A new queue with several slots is kept. -/
theorem kept_start {capacity itemSize : UInt64} {queue : MpscQueue} (placed : Placed capacity itemSize queue)
    (several : capacity ≠ 1) : Kept itemSize.toNat [] ({ queue := queue } : System) where
  sound := sound_start placed several
  called _ := Nat.le_refl 0
  ordered _ := rfl
  truth := Journal.Along.nil

/-- The run extends the calls so far. -/
theorem Kept.run {past : List Action} (kept : Kept width past state) (actions : List Action)
    (few : (callers (past ++ actions)).length < 2 ^ 63) (near : RunsNear state actions) :
    Kept width (past ++ actions) (state.run actions) := by
  induction actions generalizing past state with
  | nil =>
      rw [List.append_nil]
      exact kept
  | cons action rest hypothesis =>
      have early : (callers past).length < 2 ^ 63 := by
        rw [callers_append, List.length_append] at few
        omega
      have next := kept.step early action near.1
      rw [List.append_cons] at few ⊢
      exact hypothesis next few near.2

/-- A taken item whose offer returned keeps its bytes in its slot until its delivery. -/
def KeepsBytes (state : System) : Prop :=
  ∀ position producer item, (delivered state.log).length ≤ position →
    (taken state.log)[position]? = some (producer, item) →
    (state.producers producer).copyAt ≠ some position →
      (state.queue.slotAt (UInt64.ofNat position &&& state.queue.mask)).data = item

/-- A sound queue keeps the bytes of each item. -/
theorem Sound.keepsBytes (sound : Sound width state) (small : (taken state.log).length < 2 ^ 63) :
    KeepsBytes state := by
  intro position producer item above known finished
  have short : position < (taken state.log).length := (List.getElem?_eq_some_iff.mp known).1
  have exact' : (UInt64.ofNat position).toNat = position :=
    UInt64.toNat_ofNat_of_lt' (by rw [UInt64.size]; omega)
  have free : ¬ state.ring.busy position := by
    rintro ⟨other, held⟩
    cases at' : state.producers other with
    | copy otherItem pos done =>
        have theirs := sound.producers other
        rw [at'] at theirs held
        have same : pos.toNat = position := Option.some.inj held
        have owned : (taken state.log)[pos.toNat]? = some (other, otherItem) := theirs.2.1
        rw [same, known] at owned
        obtain rfl : producer = other := (Prod.mk.inj (Option.some.inj owned)).1
        rw [at'] at finished
        exact finished held
    | idle => rw [at'] at held; cases held
    | loadTail _ => rw [at'] at held; cases held
    | loadSequence _ _ => rw [at'] at held; cases held
    | exchange _ _ => rw [at'] at held; cases held
  rw [sound.slot_cells, exact']
  exact (sound.ring.written position (producer, item) above known free).2

def isPoll : Action → Bool
  | .poll _ => true
  | _ => false

def isFailedPoll : Action → Bool
  | .poll true => true
  | _ => false

/-- A poll that starts without an offer in progress returns, unless its exchange keeps failing. -/
def Terminates (start : System) (actions : List Action) : Prop :=
  ∀ before itemSize after, actions = before ++ .callPoll itemSize :: after →
    itemSize = (start.run before).queue.itemSize → (start.run before).consumer = .idle →
    (∀ producer, (start.run before).producers producer = .idle) →
    itemSize.toNat + 4 + 2 * after.countP isFailedPoll < after.countP isPoll →
      polls (start.run before).log < polls (start.run actions).log

/-- A step never takes an outcome out of the log. -/
theorem polls_mono (state : System) (action : Action) : polls state.log ≤ polls (state.step action).log := by
  have grows : ∀ events, polls state.log ≤ polls (state.log ++ events) := by
    intro events
    rw [polls_append]
    exact Nat.le_add_right ..
  cases action with
  | offer producer fails => exact grows _
  | poll fails => exact grows _
  | callOffer producer item =>
      simp only [System.step]
      split
      · exact grows _
      · exact Nat.le_refl _
  | callPoll itemSize =>
      simp only [System.step]
      split
      · exact grows _
      · exact Nat.le_refl _

/-- Polls are not forgotten. -/
theorem polls_run_mono (state : System) (actions : List Action) :
    polls state.log ≤ polls (state.run actions).log := by
  induction actions generalizing state with
  | nil => exact Nat.le_refl _
  | cons action rest hypothesis => exact (polls_mono state action).trans (hypothesis _)

/-- Only the consumer moves the consumer. -/
theorem consumer_of_other (action : Action) (inside : state.consumer ≠ .idle) (other : isPoll action = false) :
    (state.step action).consumer = state.consumer := by
  cases action with
  | poll fails => cases other
  | offer producer fails => rfl
  | callOffer producer item =>
      simp only [System.step]
      split <;> rfl
  | callPoll itemSize =>
      unfold System.step
      dsimp only
      split
      next idle => exact absurd idle inside
      · rfl

/-- A step of a poll returns an outcome or brings it nearer to its end. -/
theorem poll_progress (sound : Sound width state) (small : (taken state.log).length < 2 ^ 63) (fails : Bool)
    (inside : state.consumer ≠ .idle) :
    polls state.log < polls (state.step (.poll fails)).log ∨
      (state.step (.poll fails)).consumer ≠ .idle ∧
        (state.step (.poll fails)).consumer.rank width <
          state.consumer.rank width + if fails then 2 else 0 := by
  have change := poll_change sound small fails
  generalize state.step (.poll fails) = after at change
  cases change with
  | moved poll next steps => exact .inr (steps inside)
  | empty stays oldest =>
      change _ < polls (state.log ++ [.polled none]) ∨ _
      rw [polls_append]
      exact .inl (Nat.lt_succ_self _)
  | advanced pos from' =>
      refine .inr ⟨PollAt.noConfusion, ?_⟩
      rw [from']
      change width + 1 < width + 2 + _
      omega
  | released pos out copies whole =>
      change _ < polls (state.log ++ [.polled (some out)]) ∨ _
      rw [polls_append]
      exact .inl (Nat.lt_succ_self _)

/-- A poll that has not returned has used up at most its steps. -/
theorem Kept.poll_runs {past : List Action} (kept : Kept width past state) (inside : state.consumer ≠ .idle)
    (actions : List Action) (few : (callers (past ++ actions)).length < 2 ^ 63) (near : RunsNear state actions) :
    polls state.log < polls (state.run actions).log ∨
      (state.run actions).consumer.rank width + actions.countP isPoll ≤
        state.consumer.rank width + 2 * actions.countP isFailedPoll := by
  induction actions generalizing past state with
  | nil => exact .inr (Nat.le_refl _)
  | cons action rest hypothesis =>
      have early : (callers past).length < 2 ^ 63 := by
        rw [callers_append, List.length_append] at few
        omega
      have next := kept.step early action near.1
      have later : (callers ((past ++ [action]) ++ rest)).length < 2 ^ 63 := by
        rw [← List.append_cons]
        exact few
      have grows := polls_mono state action
      change _ < polls ((state.step action).run rest).log ∨ ((state.step action).run rest).consumer.rank width + _ ≤ _
      by_cases polling : isPoll action = true
      · cases action with
        | poll fails =>
            have counts : (Action.poll fails :: rest).countP isPoll = rest.countP isPoll + 1 :=
              List.countP_cons_of_pos rfl
            have failures : (Action.poll fails :: rest).countP isFailedPoll =
                rest.countP isFailedPoll + if fails then 1 else 0 := by
              cases fails with
              | false => exact List.countP_cons_of_neg Bool.false_ne_true
              | true => exact List.countP_cons_of_pos rfl
            rcases poll_progress kept.sound (kept.small early) fails inside with returned | ⟨inside', lower⟩
            · have more := polls_run_mono (state.step (.poll fails)) rest
              exact .inl (Nat.lt_of_lt_of_le returned more)
            · rcases hypothesis next inside' later near.2 with returned | bound
              · exact .inl (Nat.lt_of_le_of_lt grows returned)
              · right
                rw [counts, failures]
                cases fails <;> simp only [if_true, Bool.false_eq_true, if_false] at lower ⊢ <;> omega
        | offer producer fails => cases polling
        | callOffer producer item => cases polling
        | callPoll itemSize => cases polling
      · rw [Bool.not_eq_true] at polling
        have same := consumer_of_other action inside polling
        have failed : isFailedPoll action = false := by
          cases action with
          | poll fails => cases polling
          | offer producer fails => rfl
          | callOffer producer item => rfl
          | callPoll itemSize => rfl
        rw [List.countP_cons_of_neg (by rw [polling]; exact Bool.false_ne_true),
          List.countP_cons_of_neg (by rw [failed]; exact Bool.false_ne_true), ← same]
        rcases hypothesis next (same ▸ inside) later near.2 with returned | bound
        · exact .inl (Nat.lt_of_le_of_lt grows returned)
        · exact .inr bound

/-- The calls of a kept run end. -/
theorem Kept.terminates {start : System} (kept : Kept width [] start) (actions : List Action)
    (few : (callers actions).length < 2 ^ 63) (near : RunsNear start actions) : Terminates start actions := by
  rintro before itemSize after rfl sized idle _ enough
  have early : (callers before).length < 2 ^ 63 := by
    rw [callers_append, List.length_append] at few
    omega
  obtain ⟨nearBefore, nearCall, nearAfter⟩ := (runsNear_append start before _).mp near
  have reached := kept.run before early nearBefore
  have same : itemSize.toNat = width := by rw [sized, reached.sound.itemSize]
  have entered : (start.run before).step (.callPoll itemSize) = (start.run before).pollMoves .loadHead [] := by
    unfold System.step
    dsimp only
    rw [idle, mpscQueuePoll, if_neg (by rw [sized, bne_self_eq_false]; exact Bool.false_ne_true)]
    rfl
  have next := reached.step early _ nearCall
  rw [entered] at next nearAfter
  have later : (callers (([] ++ before) ++ [.callPoll itemSize] ++ after)).length < 2 ^ 63 := by
    rw [List.nil_append, ← List.append_cons]
    exact few
  have rest := next.poll_runs PollAt.noConfusion after later nearAfter
  have outcome : (start.run (before ++ .callPoll itemSize :: after)) =
      ((start.run before).pollMoves .loadHead []).run after := by
    rw [System.run_append, ← entered]
    rfl
  have logged : polls ((start.run before).pollMoves .loadHead []).log = polls (start.run before).log := by
    change polls ((start.run before).log ++ []) = _
    rw [List.append_nil]
  rw [outcome, ← logged]
  rcases rest with returned | bound
  · exact returned
  · change _ ≤ width + 4 + _ at bound
    omega

/-- The loads are near while the offers and the slots together stay below half of the word range. -/
theorem Kept.loads_near (kept : Kept width actions state)
    (few : (callers actions).length + state.queue.capacity.toNat ≤ 2 ^ 63) (action : Action) :
    LoadsNear state action := by
  cases action with
  | offer producer fails =>
      change (state.producers producer).loadsNear state.queue = true
      unfold OfferAt.loadsNear
      split
      next item pos at' =>
        rw [decide_eq_true_iff]
        have taken_le := kept.called.taken_le
        have sound := kept.sound
        have several := sound.ring.several
        have ordered := sound.ring.ordered
        rw [sound.slot_stamp]
        change 2 ≤ state.queue.capacity.toNat at several
        change state.ring.low ≤ (taken state.log).length at ordered
        obtain ⟨held, above, below, same, ⟨stamp, -⟩ | ⟨stamp, -, short, -⟩⟩ := sound.ring.shows pos.toNat
        · change held < state.ring.low + state.queue.capacity.toNat at below
          omega
        · change held < (taken state.log).length at short
          omega
      · rfl
  | poll fails => trivial
  | callOffer producer item => trivial
  | callPoll itemSize => trivial

/-- No step changes the capacity. -/
theorem step_capacity (state : System) (action : Action) :
    (state.step action).queue.capacity = state.queue.capacity := by
  cases action with
  | offer producer fails =>
      unfold System.step
      dsimp only
      cases state.producers producer <;> simp only [offerStep] <;> repeat (first | rfl | split)
  | poll fails =>
      unfold System.step
      dsimp only
      cases state.consumer <;> simp only [pollStep] <;> repeat (first | rfl | split)
  | callPoll itemSize =>
      unfold System.step
      dsimp only
      split <;> rfl
  | callOffer producer item =>
      unfold System.step
      dsimp only
      split <;> rfl

/-- The capacity of a queue stays. -/
theorem run_capacity (state : System) (actions : List Action) :
    (state.run actions).queue.capacity = state.queue.capacity := by
  induction actions generalizing state with
  | nil => rfl
  | cons action rest hypothesis => exact (hypothesis _).trans (step_capacity state action)

/-- A placed queue has the asked capacity. -/
theorem Placed.capacity_eq {capacity itemSize : UInt64} {queue : MpscQueue}
    (placed : Placed capacity itemSize queue) : queue.capacity = capacity := by
  obtain ⟨fits, calloc, empty, accepted, made⟩ := placed
  obtain ⟨positive, rfl⟩ := alloc_places made
  exact (init_accepts accepted).2.1

/-- With few calls all loads are near. -/
theorem Kept.near_of_few {past : List Action} (kept : Kept width past state) (actions : List Action)
    (few : (callers (past ++ actions)).length + state.queue.capacity.toNat ≤ 2 ^ 63) : RunsNear state actions := by
  induction actions generalizing past state with
  | nil => trivial
  | cons action rest hypothesis =>
      have positive := kept.sound.ring.positive
      change 0 < state.queue.capacity.toNat at positive
      have early : (callers past).length + state.queue.capacity.toNat ≤ 2 ^ 63 := by
        rw [callers_append, List.length_append] at few
        omega
      have near := kept.loads_near early action
      have next := kept.step (by omega) action near
      refine ⟨near, hypothesis next ?_⟩
      rw [← List.append_cons, step_capacity]
      exact few

def noSlots (capacity : UInt64) : MpscQueue :=
  { slots := fun _ => ⟨0, []⟩, slotSize := 0, capacity := capacity, mask := capacity - 1, itemSize := 0,
    head := 0, tail := 0 }

/-- The queue has slots for items of one byte. -/
def byteSlots (capacity : UInt64) : MpscQueue :=
  { noSlots capacity with slots := fun index => ⟨UInt64.ofNat index, [0]⟩, slotSize := 9, itemSize := 1 }

/-- An accepted capacity has room for slots of one byte. -/
theorem byteSlots_placed {capacity : UInt64} (accepted : mpscQueueInit capacity = .ok (noSlots capacity))
    (fits : capacity.toNat * 9 < 2 ^ 64) : Placed capacity 1 (byteSlots capacity) :=
  ⟨fits, fun _ => true, noSlots capacity, accepted, rfl⟩

/-- A queue of two slots or more delivers every accepted item once, unchanged and in order. -/
theorem run_refines_fifo {capacity itemSize : UInt64} {queue : MpscQueue} (placed : Placed capacity itemSize queue)
    (several : capacity ≠ 1) (actions : List Action) (few : (callers actions).length < 2 ^ 63)
    (near : RunsNear { queue := queue } actions) :
    Refines capacity.toNat (System.run { queue := queue } actions).log ∧
      KeepsBytes (System.run { queue := queue } actions) ∧ Terminates { queue := queue } actions := by
  have start := kept_start placed several
  have reached := start.run actions few near
  have small := reached.small few
  have size : (System.run { queue := queue } actions).queue.capacity = capacity :=
    (run_capacity _ actions).trans placed.capacity_eq
  refine ⟨⟨?_, fun producer => ?_, ?_⟩, reached.sound.keepsBytes small, start.terminates actions few near⟩
  · exact size ▸ reached.sound.fifo
  · exact ⟨_, reached.ordered producer⟩
  · exact size ▸ reached.truth

/-- Two offers interleave on two slots, a third one finds the queue full, and two polls deliver. -/
def twoSlotRun : List Action :=
  [.callOffer 0 [5], .callOffer 1 [6], .offer 0 false, .offer 1 false, .offer 0 false, .offer 1 false,
    .offer 1 false, .offer 0 false, .offer 0 false, .offer 1 false, .offer 0 false, .offer 1 false,
    .offer 0 false, .offer 0 false, .offer 0 false, .callOffer 1 [7], .offer 1 false, .offer 1 false,
    .callPoll 1, .poll false, .poll false, .poll true, .poll false, .poll false, .poll false, .poll false,
    .callPoll 1, .poll false, .poll false, .poll false, .poll false, .poll false]

example : (System.run { queue := byteSlots 2 } twoSlotRun).log =
    [.taken 1 [6], .taken 0 [5], .offered 1 [6] none, .offered 0 [5] none, .offered 1 [7] (some queueFull),
      .polled (some [6]), .polled (some [5])] := by
  decide +kernel

theorem twoSlotRun_refines : Refines (2 : UInt64).toNat (System.run { queue := byteSlots 2 } twoSlotRun).log ∧
    KeepsBytes (System.run { queue := byteSlots 2 } twoSlotRun) ∧
      Terminates { queue := byteSlots 2 } twoSlotRun := by
  have placed : Placed 2 1 (byteSlots 2) := byteSlots_placed rfl (by decide)
  have start := kept_start placed (by decide)
  have near := start.near_of_few twoSlotRun (by decide)
  exact run_refines_fifo placed (by decide) twoSlotRun (by decide) near

/-- One slot takes a second item before a poll. -/
def oneSlotRun : List Action :=
  [.callOffer 0 [5], .offer 0 false, .offer 0 false, .offer 0 false, .offer 0 false, .offer 0 false,
    .callOffer 0 [6], .offer 0 false, .offer 0 false, .offer 0 false, .offer 0 false, .offer 0 false]

/-- The poll keeps loading a sequence that is ahead of its position. -/
def Spins (log : List Event) (state : System) : Prop :=
  state.queue = (System.run { queue := byteSlots 1 } oneSlotRun).queue ∧ state.log = log ∧
    (state.consumer = .loadHead ∨ state.consumer = .loadSequence 0)

/-- The consumer spins on. -/
theorem Spins.step {log : List Event} (spins : Spins log state) : Spins log (state.step (.poll false)) := by
  obtain ⟨queue, same, loading | loading⟩ := spins
  · unfold System.step
    dsimp only
    rw [loading, queue]
    exact ⟨rfl, (List.append_nil _).trans same, .inr rfl⟩
  · unfold System.step
    dsimp only
    rw [loading, queue]
    exact ⟨rfl, (List.append_nil _).trans same, .inl rfl⟩

/-- The consumer spins as long as it is let. -/
theorem Spins.run {log : List Event} (spins : Spins log state) (steps : Nat) :
    Spins log (state.run (List.replicate steps (.poll false))) := by
  induction steps generalizing state with
  | zero => exact spins
  | succ steps hypothesis => exact hypothesis spins.step

/-- One slot accepts two items, loses the first and never returns from the poll. -/
theorem oneSlot_overwrites : Placed 1 1 (byteSlots 1) ∧ (callers oneSlotRun).length < 2 ^ 63 ∧
    RunsNear { queue := byteSlots 1 } oneSlotRun ∧
    accepted (System.run { queue := byteSlots 1 } oneSlotRun).log = [(0, [5]), (0, [6])] ∧
    delivered (System.run { queue := byteSlots 1 } oneSlotRun).log = [] ∧
    ¬ Refines (1 : UInt64).toNat (System.run { queue := byteSlots 1 } oneSlotRun).log ∧
    ¬ KeepsBytes (System.run { queue := byteSlots 1 } oneSlotRun) ∧
    ∀ steps, polls (System.run { queue := byteSlots 1 }
      (oneSlotRun ++ .callPoll 1 :: List.replicate steps (.poll false))).log = 0 := by
  have log : (System.run { queue := byteSlots 1 } oneSlotRun).log =
      [.taken 0 [5], .offered 0 [5] none, .taken 0 [6], .offered 0 [6] none] := by decide +kernel
  refine ⟨byteSlots_placed rfl (by decide), by decide, by decide +kernel, by rw [log]; rfl, by rw [log]; rfl,
    ?_, ?_, fun steps => ?_⟩
  · rintro ⟨⟨-, room⟩, -, -⟩
    rw [log] at room
    exact absurd room (by decide)
  · intro kept
    have lost := kept 0 0 [5] (by rw [log]; exact Nat.le_refl 0) (by rw [log]; rfl)
      (by decide +kernel)
    exact absurd lost (by decide +kernel)
  · have entered : Spins (System.run { queue := byteSlots 1 } oneSlotRun).log
        ((System.run { queue := byteSlots 1 } oneSlotRun).step (.callPoll 1)) :=
      ⟨rfl, List.append_nil _, .inl rfl⟩
    have same := (entered.run steps).2.1
    rw [log] at same
    have split : System.run { queue := byteSlots 1 }
      (oneSlotRun ++ .callPoll 1 :: List.replicate steps (.poll false)) =
        ((System.run { queue := byteSlots 1 } oneSlotRun).step (.callPoll 1)).run
          (List.replicate steps (.poll false)) := by
      rw [System.run_append]
      rfl
    rw [split, same]
    rfl

end TensorPool.Queue
