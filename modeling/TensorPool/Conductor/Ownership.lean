/-
This file proves when no run of the registrations touches a freed handle.
-/

import Mathlib.Data.List.Nodup
import TensorPool.Conductor.Registration

namespace TensorPool.Conductor

/-- This reads the numbers of the accepted handles. -/
def Event.accepted? : Event → Option Nat
  | .accepted id _ _ _ => some id
  | _ => none

def Event.reported? : Event → Option Nat
  | .reported id _ => some id
  | _ => none

/-- A close frees the handles of the pending lists. -/
def Event.freed : Event → List Nat
  | .closed freed => freed
  | _ => []

def acceptedIds (log : List Event) : List Nat := log.filterMap Event.accepted?

def reportedIds (log : List Event) : List Nat := log.filterMap Event.reported?

def freedIds (log : List Event) : List Nat := log.flatMap Event.freed

/-- The application polls only a handle that it got and that was not yet reported to it. -/
def Held (s : State) (id : Nat) : Prop := id ∈ acceptedIds s.log ∧ id ∉ reportedIds s.log

instance (s : State) (id : Nat) : Decidable (Held s id) := inferInstanceAs (Decidable (_ ∧ _))

/-- This handle has its final status and is still in its list. -/
def State.window (s : State) : Option Nat :=
  match s.at' with
  | .stored kind passed => (s.pending kind)[passed]?
  | _ => none

/-- A poll between the store of a status and the removal frees a linked handle, and a poll after a close may find
it freed. -/
def Hazard (s : State) : Action → Prop
  | .poll id => s.window = some id ∨ id ∈ freedIds s.log
  | _ => False

def Permitted (s : State) : Action → Prop
  | .poll id => Held s id
  | _ => True

/-- Every step of the run meets the property where it is taken. -/
def Throughout (allowed : State → Action → Prop) : State → List Action → Prop
  | _, [] => True
  | s, action :: rest => allowed s action ∧ Throughout allowed (step s action) rest

instance (s : State) (action : Action) : Decidable (Permitted s action) :=
  match action with
  | .poll id => inferInstanceAs (Decidable (Held s id))
  | .add .. | .conductor _ | .close => inferInstanceAs (Decidable True)

instance (s : State) (action : Action) : Decidable (Hazard s action) :=
  match action with
  | .poll id => inferInstanceAs (Decidable (s.window = some id ∨ id ∈ freedIds s.log))
  | .add .. | .conductor _ | .close => inferInstanceAs (Decidable False)

instance decidableThroughout {allowed : State → Action → Prop} [here : ∀ s action, Decidable (allowed s action)] :
    (s : State) → (actions : List Action) → Decidable (Throughout allowed s actions)
  | _, [] => .isTrue trivial
  | s, action :: rest =>
      @instDecidableAnd _ _ (here s action) (decidableThroughout (step s action) rest)

@[simp] theorem pending_put (s : State) (id : Nat) (handle : Option Handle) (kind : Kind) :
    (s.put id handle).pending kind = s.pending kind := by
  cases kind <;> rfl

@[simp] theorem pending_record (s : State) (event : Event) (kind : Kind) :
    (s.record event).pending kind = s.pending kind := by
  cases kind <;> rfl

theorem pending_setPending (s : State) (ids : List Nat) (kind other : Kind) :
    (s.setPending ids kind).pending other = if other = kind then ids else s.pending other := by
  cases kind <;> cases other <;> rfl

@[simp] theorem heap_setPending (s : State) (ids : List Nat) (kind : Kind) :
    (s.setPending ids kind).heap = s.heap := by
  cases kind <;> rfl

@[simp] theorem next_setPending (s : State) (ids : List Nat) (kind : Kind) :
    (s.setPending ids kind).next = s.next := by
  cases kind <;> rfl

@[simp] theorem commands_setPending (s : State) (ids : List Nat) (kind : Kind) :
    (s.setPending ids kind).commands = s.commands := by
  cases kind <;> rfl

@[simp] theorem at_setPending (s : State) (ids : List Nat) (kind : Kind) :
    (s.setPending ids kind).at' = s.at' := by
  cases kind <;> rfl

@[simp] theorem isOpen_setPending (s : State) (ids : List Nat) (kind : Kind) :
    (s.setPending ids kind).isOpen = s.isOpen := by
  cases kind <;> rfl

@[simp] theorem fault_setPending (s : State) (ids : List Nat) (kind : Kind) :
    (s.setPending ids kind).fault = s.fault := by
  cases kind <;> rfl

@[simp] theorem log_setPending (s : State) (ids : List Nat) (kind : Kind) :
    (s.setPending ids kind).log = s.log := by
  cases kind <;> rfl

theorem heap_put (s : State) (id other : Nat) (handle : Option Handle) :
    (s.put id handle).heap other = if other = id then handle else s.heap other := by
  change Function.update s.heap id handle other = _
  rw [Function.update_apply]

/-- An event adds to the accepted handles what it accepts. -/
theorem acceptedIds_push (log : List Event) (event : Event) :
    acceptedIds (log ++ [event]) = acceptedIds log ++ event.accepted?.toList := by
  rw [acceptedIds, List.filterMap_append]
  cases event <;> rfl

/-- An event adds to the reported handles what it reports. -/
theorem reportedIds_push (log : List Event) (event : Event) :
    reportedIds (log ++ [event]) = reportedIds log ++ event.reported?.toList := by
  rw [reportedIds, List.filterMap_append]
  cases event <;> rfl

/-- An event adds to the freed handles what it frees. -/
theorem freedIds_push (log : List Event) (event : Event) :
    freedIds (log ++ [event]) = freedIds log ++ event.freed := by
  rw [freedIds, List.flatMap_append, List.flatMap_singleton]
  rfl

/-- A queued handle is not yet known to Aeron. -/
def Queued (s : State) (command : Command) : Prop :=
  ∃ handle, s.heap command.async = some handle ∧ handle.kind = command.type ∧ handle.status = .pending ∧
    handle.aeronAsync = none

/-- A linked handle is known to Aeron, and only in the window it has a final status. -/
def Linked (s : State) (kind : Kind) (id : Nat) : Prop :=
  ∃ handle, s.heap id = some handle ∧ handle.kind = kind ∧ handle.aeronAsync ≠ none ∧
    (handle.status = .pending ↔ s.window ≠ some id)

/-- Each live handle is in one place, and no list holds a freed one. -/
structure Sound (s : State) : Prop where
  unbroken : s.fault = none
  unused : ∀ id, s.next ≤ id → s.heap id = none
  numbered : ∀ id ∈ acceptedIds s.log, id < s.next
  queuedOnce : (s.commands.map Command.async).Nodup
  linkedOnce : ∀ kind, (s.pending kind).Nodup
  queued : ∀ command ∈ s.commands, Queued s command
  linked : ∀ kind, ∀ id ∈ s.pending kind, Linked s kind id
  inside : ∀ kind passed, s.at' = .stored kind passed → passed < (s.pending kind).length
  live : ∀ id, Held s id → id ∉ freedIds s.log → (s.heap id).isSome
  gone : ∀ id ∈ freedIds s.log, id < s.next ∧ s.heap id = none
  placed : s.isOpen = true → ∀ id handle, s.heap id = some handle → handle.status = .pending →
    id ∈ s.commands.map Command.async ∨ id ∈ s.pending handle.kind

/-- A new conductor is sound. -/
theorem sound_start : Sound {} where
  unbroken := rfl
  unused _ _ := rfl
  numbered _ present := absurd present List.not_mem_nil
  queuedOnce := List.nodup_nil
  linkedOnce kind := by cases kind <;> exact List.nodup_nil
  queued _ present := absurd present List.not_mem_nil
  linked kind _ present := by cases kind <;> exact absurd present List.not_mem_nil
  inside _ _ stored := by cases stored
  live _ held _ := absurd held.1 List.not_mem_nil
  gone _ present := absurd present List.not_mem_nil
  placed _ _ _ present := by cases present

variable {s : State}

/-- The handle whose link is still to be read is the one at the cursor of its list. -/
theorem window_linked {id : Nat} (window : s.window = some id) :
    ∃ kind passed, s.at' = .stored kind passed ∧ (s.pending kind)[passed]? = some id ∧ id ∈ s.pending kind := by
  rw [State.window] at window
  split at window
  next kind passed stored => exact ⟨kind, passed, stored, window, List.mem_of_getElem? window⟩
  · cases window

/-- A queued handle is in no pending list. -/
theorem Sound.apart (sound : Sound s) {command : Command} (queued : command ∈ s.commands) (kind : Kind) :
    command.async ∉ s.pending kind := by
  intro present
  obtain ⟨handle, here, -, -, unknown⟩ := sound.queued command queued
  obtain ⟨other, there, -, known, -⟩ := sound.linked kind _ present
  rw [here] at there
  obtain rfl := Option.some.inj there
  exact known unknown

/-- No handle waits in both lists. -/
theorem Sound.one_list (sound : Sound s) {kind other : Kind} {id : Nat} (here : id ∈ s.pending kind)
    (there : id ∈ s.pending other) : kind = other := by
  obtain ⟨handle, present, same, -⟩ := sound.linked kind id here
  obtain ⟨handle', present', same', -⟩ := sound.linked other id there
  rw [present] at present'
  obtain rfl := Option.some.inj present'
  rw [← same, ← same']

theorem pending_same {s s' : State} (publications : s'.pendingPublications = s.pendingPublications)
    (subscriptions : s'.pendingSubscriptions = s.pendingSubscriptions) (kind : Kind) :
    s'.pending kind = s.pending kind := by
  cases kind
  · exact publications
  · exact subscriptions

/-- The conductor holds no half-removed handle unless it has just stored a status. -/
theorem window_none {s : State} (moving : ∀ kind passed, s.at' ≠ .stored kind passed) : s.window = none := by
  rw [State.window]
  split
  next kind passed stored => exact absurd stored (moving kind passed)
  · rfl

/-- A handle that the heap keeps stays where it is. -/
theorem Queued.same {s' : State} {command : Command} (queued : Queued s command)
    (heap : s'.heap command.async = s.heap command.async) : Queued s' command := by
  rw [Queued, heap]
  exact queued

/-- A linked handle stays linked while its memory and the window stay. -/
theorem Linked.same {s' : State} {kind : Kind} {id : Nat} (linked : Linked s kind id)
    (heap : s'.heap id = s.heap id) (window : s'.window = some id ↔ s.window = some id) : Linked s' kind id := by
  obtain ⟨handle, here, same, known, status⟩ := linked
  refine ⟨handle, by rw [heap, here], same, known, ?_⟩
  rw [status, ne_eq, ne_eq, window]

/-- A move between two places that store no status keeps every handle where it is. -/
theorem Sound.moves (sound : Sound s) (at' : At) (before : s.window = none)
    (after : ∀ kind passed, at' ≠ .stored kind passed) : Sound { s with at' := at' } := by
  have lists : ∀ kind, ({ s with at' := at' } : State).pending kind = s.pending kind := pending_same rfl rfl
  have none' : ({ s with at' := at' } : State).window = none := window_none after
  refine { sound with linkedOnce := ?_, linked := ?_, inside := ?_, placed := ?_ }
  · intro kind
    rw [lists]
    exact sound.linkedOnce kind
  · intro kind id present
    rw [lists] at present
    exact (sound.linked kind id present).same rfl (by rw [none', before])
  · intro kind passed stored
    exact absurd stored (after kind passed)
  · intro isOpen id handle here waits
    rw [lists]
    exact sound.placed isOpen id handle here waits

/-- An accepted handle is new, and it is the last of the queue. -/
theorem Sound.accepts (sound : Sound s) (kind : Kind) (channel : String) (streamId : Int32) (memory : Memory) :
    Sound (asyncAdd kind channel streamId memory s).2 := by
  rw [asyncAdd]
  split
  · exact sound
  split
  · exact sound
  split
  · exact sound
  split
  · exact sound
  split
  · exact { sound with linked := sound.linked, placed := sound.placed }
  next isOpen _ _ _ _ =>
    have fresh : s.heap s.next = none := sound.unused s.next (Nat.le_refl _)
    have other : ∀ id, (s.heap id).isSome → id ≠ s.next := by
      rintro id present rfl
      rw [fresh] at present
      cases present
    have unqueued : ∀ command ∈ s.commands, command.async ≠ s.next := by
      intro command queued
      obtain ⟨handle, here, -⟩ := sound.queued command queued
      exact other _ (by rw [here]; rfl)
    refine ⟨sound.unbroken, ?_, ?_, ?_, sound.linkedOnce, ?_, ?_, sound.inside, ?_, ?_, ?_⟩
    · intro id beyond
      change s.next + 1 ≤ id at beyond
      change (s.put s.next _).heap id = none
      rw [heap_put, if_neg (by omega)]
      exact sound.unused id (by omega)
    · intro id accepted
      rw [acceptedIds_push] at accepted
      rcases List.mem_append.mp accepted with old | new
      · have := sound.numbered id old
        change id < s.next + 1
        omega
      · obtain rfl := List.mem_singleton.mp new
        exact Nat.lt_succ_self _
    · rw [List.map_append, List.nodup_append']
      refine ⟨sound.queuedOnce, List.nodup_singleton _, ?_⟩
      intro id old new
      obtain ⟨command, queued, rfl⟩ := List.mem_map.mp old
      exact unqueued command queued (List.mem_singleton.mp new)
    · intro command queued
      rcases List.mem_append.mp queued with old | new
      · apply (sound.queued command old).same
        change (s.put s.next _).heap _ = _
        rw [heap_put, if_neg (unqueued command old)]
      · obtain rfl := List.mem_singleton.mp new
        refine ⟨{ kind, channel, streamId }, ?_, rfl, rfl, rfl⟩
        change (s.put s.next _).heap s.next = _
        rw [heap_put, if_pos rfl]
    · intro kind' id present
      have linked := sound.linked kind' id present
      apply linked.same
      · change (s.put s.next _).heap _ = _
        obtain ⟨handle, here, -⟩ := linked
        rw [heap_put, if_neg (other id (by rw [here]; rfl))]
      · rfl
    · intro id held kept
      change ((s.put s.next _).heap id).isSome
      rw [heap_put]
      split
      · rfl
      next different =>
        rw [Held, acceptedIds_push, reportedIds_push] at held
        rw [freedIds_push] at kept
        obtain ⟨accepted, unreported⟩ := held
        apply sound.live id
        · refine ⟨?_, by simpa [Event.reported?] using unreported⟩
          simpa [Event.accepted?, different] using accepted
        · simpa [Event.freed] using kept
    · intro id present
      rw [freedIds_push] at present
      obtain ⟨used, free⟩ := sound.gone id (by simpa [Event.freed] using present)
      refine ⟨Nat.lt_succ_of_lt used, ?_⟩
      change (s.put s.next _).heap id = none
      rw [heap_put, if_neg (Nat.ne_of_lt used)]
      exact free
    · intro _ id handle here waits
      change (s.put s.next _).heap id = _ at here
      rw [heap_put] at here
      split at here
      next same =>
        left
        rw [List.map_append, same]
        exact List.mem_append_right _ (List.mem_singleton.mpr rfl)
      · have there := sound.placed (by simpa using isOpen) id handle here waits
        rw [List.map_append]
        exact there.imp (List.mem_append_left _) fun linked => linked

/-- A finished handle that was removed from its list is in no list, so it can be freed. -/
theorem Sound.frees (sound : Sound s) {id : Nat} {handle : Handle} (here : s.heap id = some handle)
    (finished : handle.status ≠ .pending) (outside : s.window ≠ some id)
    (result : Except Failure (Option Resource)) :
    Sound ((s.put id none).record (.reported id result)) := by
  have unqueued : ∀ command ∈ s.commands, command.async ≠ id := by
    rintro command queued rfl
    obtain ⟨other, there, -, waits, -⟩ := sound.queued command queued
    rw [here] at there
    obtain rfl := Option.some.inj there
    exact finished waits
  have unlinked : ∀ kind, id ∉ s.pending kind := by
    intro kind present
    obtain ⟨other, there, -, -, waits⟩ := sound.linked kind id present
    rw [here] at there
    obtain rfl := Option.some.inj there
    exact finished (waits.mpr outside)
  have heap : ∀ other, other ≠ id → ((s.put id none).record (.reported id result)).heap other = s.heap other := by
    intro other different
    change (s.put id none).heap other = _
    rw [heap_put, if_neg different]
  refine ⟨sound.unbroken, ?_, ?_, sound.queuedOnce, sound.linkedOnce, ?_, ?_, sound.inside, ?_, ?_, ?_⟩
  · intro other beyond
    change (s.put id none).heap other = none
    rw [heap_put]
    split
    · rfl
    · exact sound.unused other beyond
  · intro other accepted
    apply sound.numbered other
    change other ∈ acceptedIds (s.log ++ [_]) at accepted
    rw [acceptedIds_push] at accepted
    simpa [Event.accepted?] using accepted
  · intro command queued
    exact (sound.queued command queued).same (heap _ (unqueued command queued))
  · intro kind other present
    have different : other ≠ id := by
      rintro rfl
      exact unlinked kind present
    exact (sound.linked kind other present).same (heap other different) Iff.rfl
  · rintro other ⟨accepted, unreported⟩ kept
    change other ∈ acceptedIds (s.log ++ [_]) at accepted
    change other ∉ reportedIds (s.log ++ [_]) at unreported
    change other ∉ freedIds (s.log ++ [_]) at kept
    rw [acceptedIds_push] at accepted
    rw [reportedIds_push] at unreported
    rw [freedIds_push] at kept
    simp only [Event.accepted?, Event.reported?, Event.freed, Option.toList, List.append_nil, List.mem_append,
      List.mem_singleton, not_or] at accepted unreported kept
    rw [heap other unreported.2]
    exact sound.live other ⟨accepted, unreported.1⟩ kept
  · intro other present
    change other ∈ freedIds (s.log ++ [_]) at present
    rw [freedIds_push] at present
    obtain ⟨used, free⟩ := sound.gone other (by simpa [Event.freed] using present)
    refine ⟨used, ?_⟩
    change (s.put id none).heap other = none
    rw [heap_put, free, ite_self]
  · intro isOpen other handle' there waits
    change (s.put id none).heap other = _ at there
    rw [heap_put] at there
    split at there
    · cases there
    · exact sound.placed isOpen other handle' there waits

/-- This is the effect of a poll of the application where there is no hazard. -/
theorem Sound.polls (sound : Sound s) {id : Nat} (held : Held s id) (safe : ¬ Hazard s (.poll id)) :
    Sound (asyncPoll id s).2 := by
  obtain ⟨outside, kept⟩ := not_or.mp safe
  obtain ⟨handle, here⟩ := Option.isSome_iff_exists.mp (sound.live id held kept)
  simp only [asyncPoll, here]
  cases status : handle.status with
  | pending => exact sound
  | error => exact sound.frees here (by rw [status]; exact AsyncStatus.noConfusion) outside _
  | complete => exact sound.frees here (by rw [status]; exact AsyncStatus.noConfusion) outside _

/-- The facts about the log do not change with an event that neither accepts, reports nor frees. -/
theorem Sound.quiet (sound : Sound s) (event : Event) (accepts : event.accepted? = none)
    (reports : event.reported? = none) (frees : event.freed = []) : Sound (s.record event) := by
  have logs : acceptedIds (s.record event).log = acceptedIds s.log ∧
    reportedIds (s.record event).log = reportedIds s.log ∧
      freedIds (s.record event).log = freedIds s.log := by
    change acceptedIds (s.log ++ [event]) = _ ∧ reportedIds (s.log ++ [event]) = _ ∧ freedIds (s.log ++ [event]) = _
    rw [acceptedIds_push, reportedIds_push, freedIds_push, accepts, reports, frees]
    simp
  obtain ⟨accepted, reported, freed⟩ := logs
  refine ⟨sound.unbroken, sound.unused, ?_, sound.queuedOnce, sound.linkedOnce, sound.queued, sound.linked,
    sound.inside, ?_, ?_, sound.placed⟩
  · rw [accepted]
    exact sound.numbered
  · intro id held kept
    rw [Held, accepted, reported] at held
    rw [freed] at kept
    exact sound.live id held kept
  · rw [freed]
    exact sound.gone

/-- A store into a live handle keeps the numbers that are not yet used. -/
theorem Sound.unused_put (sound : Sound s) {id : Nat} {handle : Handle} (here : s.heap id = some handle)
    (handle' : Option Handle) : ∀ other, s.next ≤ other → (s.put id handle').heap other = none := by
  intro other beyond
  have free := sound.unused other beyond
  rw [heap_put, if_neg]
  · exact free
  · rintro rfl
    rw [here] at free
    cases free

/-- A store into a handle frees none. -/
theorem Sound.live_put (sound : Sound s) (id : Nat) (handle : Handle) :
    ∀ other, Held s other → other ∉ freedIds s.log → ((s.put id (some handle)).heap other).isSome := by
  intro other held kept
  rw [heap_put]
  split
  · rfl
  · exact sound.live other held kept

/-- A store into a live handle brings none back. -/
theorem Sound.gone_put (sound : Sound s) {id : Nat} {handle : Handle} (here : s.heap id = some handle)
    (handle' : Option Handle) : ∀ other ∈ freedIds s.log, other < s.next ∧ (s.put id handle').heap other = none := by
  intro other present
  obtain ⟨used, free⟩ := sound.gone other present
  refine ⟨used, ?_⟩
  rw [heap_put, if_neg]
  · exact free
  · rintro rfl
    rw [here] at free
    cases free

/-- What follows the oldest command in the queue is queued under other numbers. -/
theorem Sound.behind (sound : Sound s) {command : Command} {rest : List Command}
    (first : s.commands = command :: rest) :
    (rest.map Command.async).Nodup ∧ ∀ other ∈ rest, other.async ≠ command.async ∧ Queued s other := by
  have once := sound.queuedOnce
  rw [first, List.map_cons, List.nodup_cons] at once
  refine ⟨once.2, fun other present => ⟨fun same => once.1 ?_, ?_⟩⟩
  · rw [← same]
    exact List.mem_map_of_mem present
  · apply sound.queued
    rw [first]
    exact List.mem_cons_of_mem _ present

/-- A pending handle apart from the oldest command is still queued or linked. -/
theorem Sound.remains (sound : Sound s) {command : Command} {rest : List Command}
    (first : s.commands = command :: rest) (isOpen : s.isOpen = true) {id : Nat} {handle : Handle}
    (different : id ≠ command.async) (here : s.heap id = some handle) (waits : handle.status = .pending) :
    id ∈ rest.map Command.async ∨ id ∈ s.pending handle.kind := by
  have placed := sound.placed isOpen id handle here waits
  rw [first, List.map_cons, List.mem_cons] at placed
  exact placed.imp_left fun present => present.resolve_left different

/-- A taken command whose handle gets its final status at once leaves no trace in the lists. -/
theorem Sound.rejects (sound : Sound s) {command : Command} {rest : List Command} {handle : Handle}
    (first : s.commands = command :: rest) (taking : s.at' = .taking) (finished : handle.status ≠ .pending) :
    Sound ({ s with commands := rest }.put command.async (some handle)) := by
  obtain ⟨once, queued⟩ := sound.behind first
  have oldest : command ∈ s.commands := by
    rw [first]
    exact List.mem_cons_self
  obtain ⟨before, here, -⟩ := sound.queued command oldest
  have others : ∀ id, id ≠ command.async → (s.put command.async (some handle)).heap id = s.heap id := by
    intro id different
    rw [heap_put, if_neg different]
  refine ⟨sound.unbroken, sound.unused_put here _, sound.numbered, once, sound.linkedOnce, ?_, ?_, ?_,
    sound.live_put _ _, sound.gone_put here _, ?_⟩
  · intro other present
    exact (queued other present).2.same (others _ (queued other present).1)
  · intro kind id present
    have different : id ≠ command.async := by
      rintro rfl
      exact sound.apart oldest kind present
    exact (sound.linked kind id present).same (others id different) Iff.rfl
  · intro kind passed stored
    change s.at' = _ at stored
    rw [taking] at stored
    cases stored
  · intro isOpen id other there waits
    change (s.put command.async _).heap id = _ at there
    rw [heap_put] at there
    split at there
    · obtain rfl := Option.some.inj there
      exact absurd waits finished
    next different => exact sound.remains first isOpen different there waits

/-- A taken command whose handle is known to Aeron becomes the first of its pending list. -/
theorem Sound.links (sound : Sound s) {command : Command} {rest : List Command} {handle : Handle}
    (first : s.commands = command :: rest) (taking : s.at' = .taking) (kind : handle.kind = command.type)
    (waits : handle.status = .pending) (known : handle.aeronAsync ≠ none) :
    Sound (({ s with commands := rest }.put command.async (some handle)).setPending
      (command.async :: s.pending command.type) command.type) := by
  obtain ⟨once, queued⟩ := sound.behind first
  have oldest : command ∈ s.commands := by
    rw [first]
    exact List.mem_cons_self
  obtain ⟨before, here, -⟩ := sound.queued command oldest
  have others : ∀ id, id ≠ command.async → (s.put command.async (some handle)).heap id = s.heap id := by
    intro id different
    rw [heap_put, if_neg different]
  have quiet : s.window = none := by rw [State.window, taking]
  have quiet' : (({ s with commands := rest }.put command.async (some handle)).setPending
      (command.async :: s.pending command.type) command.type).window = none := by
    rw [State.window, at_setPending]
    change (match s.at' with | .stored _ _ => _ | _ => _) = none
    rw [taking]
  refine ⟨?_, ?_, ?_, ?_, ?_, ?_, ?_, ?_, ?_, ?_, ?_⟩
  · rw [fault_setPending]
    exact sound.unbroken
  · rw [next_setPending, heap_setPending]
    exact sound.unused_put here _
  · rw [log_setPending, next_setPending]
    exact sound.numbered
  · rw [commands_setPending]
    exact once
  · intro kind'
    rw [pending_setPending]
    split
    · exact List.nodup_cons.mpr ⟨sound.apart oldest _, sound.linkedOnce _⟩
    · exact sound.linkedOnce kind'
  · intro other present
    rw [commands_setPending] at present
    apply (queued other present).2.same
    rw [heap_setPending]
    exact others _ (queued other present).1
  · intro kind' id present
    rw [pending_setPending] at present
    by_cases same : id = command.async
    · subst same
      have kinds : kind' = command.type := by
        by_contra different
        rw [if_neg different] at present
        exact sound.apart oldest kind' present
      refine ⟨handle, ?_, by rw [kinds, kind], known, by simp [quiet', waits]⟩
      rw [heap_setPending, heap_put, if_pos rfl]
    · have old : id ∈ s.pending kind' := by
        split at present
        next kinds =>
          rw [kinds]
          exact (List.mem_cons.mp present).resolve_left same
        · exact present
      apply (sound.linked kind' id old).same
      · rw [heap_setPending]
        exact others id same
      · rw [quiet', quiet]
  · intro kind' passed stored
    rw [at_setPending] at stored
    change s.at' = _ at stored
    rw [taking] at stored
    cases stored
  · intro id held kept
    rw [Held, log_setPending] at held
    rw [log_setPending] at kept
    rw [heap_setPending]
    exact sound.live_put _ _ id held kept
  · rw [log_setPending, next_setPending, heap_setPending]
    exact sound.gone_put here _
  · intro isOpen id other there waits'
    rw [isOpen_setPending] at isOpen
    rw [heap_setPending, heap_put] at there
    rw [commands_setPending, pending_setPending]
    split at there
    next same =>
      obtain rfl := Option.some.inj there
      right
      rw [if_pos kind, same]
      exact List.mem_cons_self
    next different =>
      refine (sound.remains first isOpen different there waits').imp_right fun linked => ?_
      split
      next same =>
        rw [← same]
        exact List.mem_cons_of_mem _ linked
      · exact linked

/-- The conductor takes the oldest command. -/
theorem Sound.processes (sound : Sound s) (answer : Answer) {command : Command} {rest : List Command}
    (first : s.commands = command :: rest) (taking : s.at' = .taking) :
    Sound (processCommand answer command { s with commands := rest }) := by
  obtain ⟨handle, here, kind, waits, unknown⟩ := sound.queued command (by rw [first]; exact List.mem_cons_self)
  have logged := sound.quiet
    (.submitted command.async handle.kind handle.channel handle.streamId answer.add) rfl rfl rfl
  simp only [processCommand, here]
  cases added : answer.add with
  | error failure =>
      rw [added] at logged
      exact logged.rejects first taking AsyncStatus.noConfusion
  | ok registration =>
      rw [added] at logged
      exact logged.links first taking kind waits (Option.some_ne_none registration)

/-- A status is stored while its handle is still linked. -/
theorem Sound.stores (sound : Sound s) {kind : Kind} {passed id : Nat} {handle handle' : Handle}
    (polling : s.at' = .polling kind passed) (current : (s.pending kind)[passed]? = some id)
    (here : s.heap id = some handle) (kind' : handle'.kind = handle.kind)
    (known : handle'.aeronAsync = handle.aeronAsync) (finished : handle'.status ≠ .pending) :
    Sound { s.put id (some handle') with at' := .stored kind passed } := by
  have quiet : s.window = none := by rw [State.window, polling]
  have opened : State.window { s.put id (some handle') with at' := .stored kind passed } = some id := by
    rw [← current]
    cases kind <;> rfl
  have others : ∀ other, other ≠ id → (s.put id (some handle')).heap other = s.heap other := by
    intro other different
    rw [heap_put, if_neg different]
  refine ⟨sound.unbroken, sound.unused_put here _, sound.numbered, sound.queuedOnce, sound.linkedOnce, ?_, ?_, ?_,
    sound.live_put _ _, sound.gone_put here _, ?_⟩
  · intro command queued
    apply (sound.queued command queued).same
    apply others
    rintro rfl
    exact sound.apart queued kind (List.mem_of_getElem? current)
  · intro other id' present
    have linked := sound.linked other id' present
    by_cases same : id' = id
    · obtain ⟨before, there, kind'', known', -⟩ := linked
      rw [same, here] at there
      obtain rfl := Option.some.inj there
      refine ⟨handle', ?_, by rw [kind', kind''], by rw [known]; exact known', ?_⟩
      · change (s.put id _).heap id' = _
        rw [heap_put, if_pos same]
      · rw [opened, same]
        simp [finished]
    · refine linked.same ?_ ?_
      · exact others id' same
      · rw [opened, quiet]
        simp [Ne.symm same]
  · intro other position stored
    obtain ⟨rfl, rfl⟩ := At.stored.inj stored
    exact (List.getElem?_eq_some_iff.mp current).1
  · intro isOpen other there present waits
    change (s.put id _).heap other = _ at present
    rw [heap_put] at present
    split at present
    · obtain rfl := Option.some.inj present
      exact absurd waits finished
    · exact sound.placed isOpen other there present waits

/-- A poll of a pending handle keeps the heap sound, whatever Aeron answers. -/
theorem Sound.polled (sound : Sound s) (answer : Answer) {kind : Kind} {passed id : Nat}
    (polling : s.at' = .polling kind passed) (current : (s.pending kind)[passed]? = some id) :
    Sound (pollHandle answer kind passed id s) := by
  obtain ⟨handle, here, -⟩ := sound.linked kind id (List.mem_of_getElem? current)
  simp only [pollHandle, here]
  cases answer.poll with
  | error failure => exact sound.stores polling current here rfl rfl AsyncStatus.noConfusion
  | ok raw =>
      cases raw with
      | none => exact sound.moves _ (by rw [State.window, polling]) fun _ _ => At.noConfusion
      | some raw =>
          have logged := sound.quiet (.resolved id (handle.aeronAsync.getD 0) raw) rfl rfl rfl
          have current' : ((s.record (.resolved id (handle.aeronAsync.getD 0) raw)).pending kind)[passed]? =
            some id := by
            rw [pending_record]
            exact current
          dsimp only
          split
          · exact logged.stores polling current' here rfl rfl AsyncStatus.noConfusion
          · exact logged.stores polling current' here rfl rfl AsyncStatus.noConfusion

/-- The removal of a finished handle ends its window. -/
theorem Sound.unlinks (sound : Sound s) {kind : Kind} {passed : Nat} (stored : s.at' = .stored kind passed) :
    Sound { s.setPending ((s.pending kind).eraseIdx passed) kind with at' := .polling kind passed } := by
  have inside := sound.inside kind passed stored
  have open' : s.window = some (s.pending kind)[passed] := by
    rw [State.window, stored]
    exact List.getElem?_eq_getElem inside
  have erased : (s.pending kind).eraseIdx passed = (s.pending kind).erase (s.pending kind)[passed] :=
    ((sound.linkedOnce kind).erase_getElem passed inside).symm
  have lists : ∀ other, State.pending { s.setPending ((s.pending kind).eraseIdx passed) kind with
      at' := .polling kind passed } other = if other = kind then (s.pending kind).eraseIdx passed
        else s.pending other := by
    intro other
    rw [← pending_setPending]
    cases other <;> rfl
  have shut : State.window { s.setPending ((s.pending kind).eraseIdx passed) kind with
      at' := .polling kind passed } = none := rfl
  refine ⟨?_, ?_, ?_, ?_, ?_, ?_, ?_, fun _ _ => At.noConfusion, ?_, ?_, ?_⟩
  · exact (fault_setPending ..).trans sound.unbroken
  · simpa using sound.unused
  · simpa using sound.numbered
  · simpa using sound.queuedOnce
  · intro other
    rw [lists]
    split
    · exact (sound.linkedOnce kind).eraseIdx passed
    · exact sound.linkedOnce other
  · intro command queued
    refine (sound.queued command (by simpa using queued)).same ?_
    exact congrFun (heap_setPending ..) _
  · intro other id present
    rw [lists] at present
    have old : id ∈ s.pending other ∧ id ≠ (s.pending kind)[passed] := by
      split at present
      next same =>
        rw [erased, (sound.linkedOnce kind).mem_erase_iff] at present
        exact ⟨same ▸ present.2, present.1⟩
      next different =>
        refine ⟨present, fun same => different (sound.one_list present ?_)⟩
        rw [same]
        exact List.getElem_mem inside
    refine (sound.linked other id old.1).same ?_ ?_
    · exact congrFun (heap_setPending ..) _
    · rw [shut, open']
      simp [Ne.symm old.2]
  · intro id held kept
    simpa using sound.live id (by simpa [Held] using held) (by simpa using kept)
  · simpa using sound.gone
  · intro isOpen id handle here waits
    rw [lists]
    have present : s.heap id = some handle := by simpa using here
    have placed := sound.placed (by simpa using isOpen) id handle present waits
    refine placed.imp (fun queued => by simpa using queued) fun linked => ?_
    split
    next same =>
      rw [same] at linked
      rw [erased, (sound.linkedOnce kind).mem_erase_iff]
      obtain ⟨other, there, -, -, status⟩ := sound.linked kind id linked
      rw [present] at there
      obtain rfl := Option.some.inj there
      refine ⟨fun current => status.mp waits ?_, linked⟩
      rw [open', current]
    · exact linked

/-- A close frees the linked handles and forgets the queued ones. -/
theorem Sound.closes (sound : Sound s) (idle : s.at' = .idle) : Sound (close s) := by
  have lists : ∀ kind, (close s).pending kind = [] := by
    intro kind
    cases kind <;> rfl
  refine ⟨sound.unbroken, ?_, ?_, List.nodup_nil, ?_, ?_, ?_, ?_, ?_, ?_,
    fun isOpen => absurd isOpen Bool.false_ne_true⟩
  · intro id beyond
    dsimp only [close]
    rw [sound.unused id beyond, ite_self]
  · intro id accepted
    dsimp only [close] at accepted ⊢
    rw [acceptedIds_push] at accepted
    exact sound.numbered id (by simpa [Event.accepted?] using accepted)
  · intro kind
    rw [lists]
    exact List.nodup_nil
  · intro command queued
    exact absurd queued List.not_mem_nil
  · intro kind id present
    rw [lists] at present
    exact absurd present List.not_mem_nil
  · intro kind passed stored
    change s.at' = _ at stored
    rw [idle] at stored
    cases stored
  · intro id held kept
    dsimp only [close, Held] at held kept ⊢
    rw [acceptedIds_push, reportedIds_push] at held
    rw [freedIds_push, List.mem_append, not_or] at kept
    rw [if_neg (show id ∉ s.pendingPublications ++ s.pendingSubscriptions from kept.2)]
    exact sound.live id (by simpa [Held, Event.accepted?, Event.reported?] using held) kept.1
  · intro id present
    dsimp only [close] at present ⊢
    rw [freedIds_push, List.mem_append] at present
    rcases present with old | new
    · obtain ⟨used, free⟩ := sound.gone id old
      exact ⟨used, by rw [free, ite_self]⟩
    · refine ⟨?_, if_pos new⟩
      have linked : ∃ kind, id ∈ s.pending kind := by
        rcases List.mem_append.mp new with first | second
        · exact ⟨.publication, first⟩
        · exact ⟨.subscription, second⟩
      obtain ⟨kind, linked⟩ := linked
      obtain ⟨handle, here, -⟩ := sound.linked kind id linked
      by_contra beyond
      rw [sound.unused id (Nat.le_of_not_lt beyond)] at here
      cases here

theorem mem_of_cursor {ids : List Nat} {passed id : Nat} (present : id ∈ cursor ids passed) : id ∈ ids :=
  List.mem_of_mem_take (List.mem_of_mem_drop present)

/-- Where no hazard was met the conductor touches live handles only. -/
theorem Sound.touches (sound : Sound s) (answer : Answer) : ∀ id ∈ touched answer s, (s.heap id).isSome := by
  have linked : ∀ kind passed, ∀ id ∈ cursor (s.pending kind) passed, (s.heap id).isSome := by
    intro kind passed id present
    obtain ⟨handle, here, -⟩ := sound.linked kind id (mem_of_cursor present)
    rw [here]
    rfl
  intro id present
  rw [touched] at present
  split at present
  · exact absurd present List.not_mem_nil
  · split at present
    · exact absurd present List.not_mem_nil
    · obtain ⟨command, first, rfl⟩ := List.mem_map.mp present
      obtain ⟨handle, here, -⟩ := sound.queued command (List.mem_of_mem_head? (Option.mem_toList.mp first))
      rw [here]
      rfl
  · exact linked _ _ id present
  · exact linked _ _ id present

/-- Each step of a call of the conductor keeps the heap sound. -/
theorem Sound.advances (sound : Sound s) (answer : Answer) : Sound (advance answer s) := by
  rw [advance]
  split
  next idle =>
    split
    · exact sound.moves _ (by rw [State.window, idle]) fun _ _ => At.noConfusion
    · exact sound
  next taking =>
    have quiet : s.window = none := by rw [State.window, taking]
    split
    · exact sound.moves _ quiet fun _ _ => At.noConfusion
    next command rest first =>
      split
      · exact sound.moves _ quiet fun _ _ => At.noConfusion
      · exact sound.processes answer first taking
  next kind passed polling =>
    split
    · refine sound.moves _ (by rw [State.window, polling]) ?_
      cases kind <;> exact fun _ _ => At.noConfusion
    next id current => exact sound.polled answer polling current
  next kind passed stored => exact sound.unlinks stored

/-- The conductor keeps the heap sound in its idle state too. -/
theorem Sound.conducts (sound : Sound s) (answer : Answer) : Sound (conductorStep answer s) := by
  have safe : (touched answer s).find? (fun id => (s.heap id).isNone) = none := by
    rw [List.find?_eq_none]
    intro id present
    rw [Option.isNone_iff_eq_none, ← Option.not_isSome_iff_eq_none, not_not]
    exact sound.touches answer id present
  rw [conductorStep, safe]
  exact sound.advances answer

/-- Every step without a hazard keeps each handle in its place. -/
theorem Sound.step (sound : Sound s) (action : Action) (permitted : Permitted s action) (safe : ¬ Hazard s action) :
    Sound (step s action) := by
  rw [Conductor.step.eq_def, sound.unbroken, if_neg (by simp)]
  cases action with
  | add kind channel streamId memory => exact sound.accepts kind channel streamId memory
  | poll id => exact sound.polls permitted safe
  | conductor answer => exact sound.conducts answer
  | close =>
      dsimp only
      split
      next idle => exact sound.closes idle.1
      · exact sound

/-- A run of permitted actions without hazards keeps the heap sound. -/
theorem Sound.run (sound : Sound s) (actions : List Action) (permitted : Throughout Permitted s actions)
    (safe : Throughout (fun s action => ¬ Hazard s action) s actions) : Sound (run s actions) := by
  induction actions generalizing s with
  | nil => exact sound
  | cons action rest hypothesis =>
      exact hypothesis (sound.step action permitted.1 safe.1) permitted.2 safe.2

section Freed

variable {answer : Answer}

/-- A command frees no handle. -/
theorem processCommand_freed (command : Command) :
    freedIds (processCommand answer command s).log = freedIds s.log := by
  rw [processCommand]
  split
  · rfl
  · dsimp only
    split
    · exact (freedIds_push s.log _).trans (List.append_nil _)
    · rw [log_setPending]
      exact (freedIds_push s.log _).trans (List.append_nil _)

/-- A poll of a pending handle frees none. -/
theorem pollHandle_freed (kind : Kind) (passed id : Nat) :
    freedIds (pollHandle answer kind passed id s).log = freedIds s.log := by
  rw [pollHandle]
  split
  · rfl
  · split
    · rfl
    · rfl
    · dsimp only
      split
      · exact (freedIds_push s.log _).trans (List.append_nil _)
      · exact (freedIds_push s.log _).trans (List.append_nil _)

/-- The conductor frees no handle. -/
theorem advance_freed : freedIds (advance answer s).log = freedIds s.log := by
  rw [advance]
  split
  · split <;> rfl
  · split
    · rfl
    · split
      · rfl
      · exact processCommand_freed _
  · split
    · rfl
    · exact pollHandle_freed _ _ _
  · exact congrArg freedIds (log_setPending ..)

/-- The conductor does not close the client. -/
theorem advance_isOpen (s : State) (answer : Answer) : (advance answer s).isOpen = s.isOpen := by
  rw [advance]
  split
  · split <;> rfl
  · split
    · rfl
    · split
      · rfl
      · rw [processCommand]
        split
        · rfl
        · dsimp only
          split
          · rfl
          · exact isOpen_setPending ..
  · split
    · rfl
    · rw [pollHandle]
      split
      · rfl
      · split
        · rfl
        · rfl
        · dsimp only
          split <;> rfl
  · exact isOpen_setPending ..

/-- Handles are freed by the close only. -/
theorem freed_closed (closed : freedIds s.log ≠ [] → s.isOpen = false) (action : Action) :
    freedIds (step s action).log ≠ [] → (step s action).isOpen = false := by
  rw [Conductor.step.eq_def]
  split
  · exact closed
  cases action with
  | add kind channel streamId memory =>
      dsimp only
      rw [asyncAdd]
      split; · exact closed
      split; · exact closed
      split; · exact closed
      split; · exact closed
      split; · exact closed
      intro freed
      apply closed
      intro none
      apply freed
      exact (freedIds_push s.log _).trans (by rw [none]; rfl)
  | poll id =>
      have reported : ∀ result, freedIds (s.log ++ [.reported id result]) ≠ [] → s.isOpen = false := by
        intro result freed
        rw [freedIds_push] at freed
        exact closed (by simpa [Event.freed] using freed)
      simp only [asyncPoll]
      split
      · exact closed
      · split
        · exact closed
        · exact reported _
        · exact reported _
  | conductor answer =>
      dsimp only
      rw [conductorStep]
      split
      · exact closed
      · rw [advance_freed, advance_isOpen]
        exact closed
  | close =>
      dsimp only
      split
      · exact fun _ => rfl
      · exact closed

end Freed

/-- The handle at the cursor was freed, so the next step of the conductor touches it; a call that touched a freed
handle does not end. -/
def Doomed (s : State) : Prop :=
  s.fault ≠ none ∧ ¬(s.at' = .idle ∧ s.isOpen = true) ∨ ∃ id, s.window = some id ∧ id < s.next ∧ s.heap id = none

/-- A hazard is never repaired. -/
theorem Sound.dooms (sound : Sound s) (closed : freedIds s.log ≠ [] → s.isOpen = false) {action : Action}
    (permitted : Permitted s action) (hazard : Hazard s action) : Doomed (Conductor.step s action) := by
  cases action with
  | poll id =>
      rw [Conductor.step.eq_def, sound.unbroken, if_neg (by simp)]
      rcases hazard with window | freed
      · obtain ⟨kind, passed, stored, -, present⟩ := window_linked window
        obtain ⟨handle, here, -, -, status⟩ := sound.linked kind id present
        have finished : handle.status ≠ .pending := by
          rw [ne_eq, status, not_not]
          exact window
        have doomed : ∀ result, Doomed ((s.put id none).record (.reported id result)) := by
          intro result
          refine Or.inr ⟨id, window, sound.numbered id permitted.1, ?_⟩
          change (s.put id none).heap id = none
          rw [heap_put, if_pos rfl]
        simp only [asyncPoll, here]
        cases left : handle.status with
        | pending => exact absurd left finished
        | error => exact doomed _
        | complete => exact doomed _
      · left
        have shut := closed (List.ne_nil_of_mem freed)
        simp [asyncPoll, (sound.gone id freed).2, shut]
  | add | conductor | close => exact hazard.elim

/-- The next step of the conductor touches the freed handle, and it goes no further. -/
theorem freed_touched (answer : Answer) {id : Nat} (window : s.window = some id) (free : s.heap id = none) :
    ∃ other, conductorStep answer s = { s with fault := some other } := by
  obtain ⟨kind, passed, stored, current, -⟩ := window_linked window
  have touches : id ∈ touched answer s := by
    rw [touched, stored]
    change id ∈ cursor (s.pending kind) passed
    obtain ⟨inside, rfl⟩ := List.getElem?_eq_some_iff.mp current
    rw [cursor, List.mem_iff_getElem]
    refine ⟨passed - (passed - 1), by simp; omega, ?_⟩
    rw [List.getElem_drop, List.getElem_take]
    congr 1
    omega
  rw [conductorStep]
  split
  next other _ => exact ⟨other, rfl⟩
  next missed =>
    rw [List.find?_eq_none] at missed
    exact absurd (by rw [free]; rfl) (missed id touches)

/-- The next step of the conductor touches what was freed. -/
theorem Doomed.faults (doomed : Doomed s) (answer : Answer) :
    (Conductor.step s (.conductor answer)).fault ≠ none := by
  rw [Conductor.step.eq_def]
  split
  next broken => exact Option.isSome_iff_ne_none.mp broken
  next unbroken =>
    obtain ⟨id, window, used, free⟩ :=
      doomed.resolve_left fun broken => unbroken (Option.isSome_iff_ne_none.mpr broken.1)
    obtain ⟨other, touches⟩ := freed_touched answer window free
    dsimp only
    rw [touches]
    exact Option.some_ne_none other

/-- No action of the callers repairs a doomed state. -/
theorem Doomed.step (doomed : Doomed s) (action : Action) : Doomed (Conductor.step s action) := by
  rw [Conductor.step.eq_def]
  split
  next broken => exact doomed
  next unbroken =>
    obtain ⟨id, window, used, free⟩ :=
      doomed.resolve_left fun broken => unbroken (Option.isSome_iff_ne_none.mpr broken.1)
    obtain ⟨kind, passed, stored, -⟩ := window_linked window
    have busy : ¬(s.at' = .idle ∧ s.isOpen = true) := by
      rw [stored]
      exact fun idle => nomatch idle.1
    cases action with
    | add kind' channel streamId memory =>
        dsimp only
        rw [asyncAdd]
        split; · exact doomed
        split; · exact doomed
        split; · exact doomed
        split; · exact doomed
        split; · exact doomed
        refine Or.inr ⟨id, window, Nat.lt_succ_of_lt used, ?_⟩
        change (s.put s.next _).heap id = none
        rw [heap_put, if_neg (Nat.ne_of_lt used)]
        exact free
    | poll other =>
        have freed : ∀ result, Doomed ((s.put other none).record (.reported other result)) := by
          intro result
          refine Or.inr ⟨id, window, used, ?_⟩
          change (s.put other none).heap id = none
          rw [heap_put, free, ite_self]
        simp only [asyncPoll]
        split
        · exact Or.inl ⟨Option.some_ne_none other, busy⟩
        · split
          · exact doomed
          · exact freed _
          · exact freed _
    | conductor answer =>
        obtain ⟨other, touches⟩ := freed_touched answer window free
        dsimp only
        rw [touches]
        exact Or.inl ⟨Option.some_ne_none other, busy⟩
    | close =>
        dsimp only
        rw [if_neg (by simp [stored])]
        exact doomed

/-- A doomed state stays doomed. -/
theorem Doomed.run (doomed : Doomed s) (actions : List Action) : Doomed (run s actions) := by
  induction actions generalizing s with
  | nil => exact doomed
  | cons action rest hypothesis => exact hypothesis (doomed.step action)

/-- The conductor is never idle and open again once a freed handle is to be touched. -/
theorem Doomed.busy (doomed : Doomed s) : ¬(s.at' = .idle ∧ s.isOpen = true) := by
  rcases doomed with broken | ⟨id, window, -⟩
  · exact broken.2
  · obtain ⟨kind, passed, stored, -⟩ := window_linked window
    rw [stored]
    exact fun idle => nomatch idle.1

/-- A run after which no handle is doomed had no hazard. -/
theorem Sound.safe (sound : Sound s) (closed : freedIds s.log ≠ [] → s.isOpen = false) {actions : List Action}
    (permitted : Throughout Permitted s actions) (saved : ¬Doomed (Conductor.run s actions)) :
    Throughout (fun s action => ¬ Hazard s action) s actions := by
  induction actions generalizing s with
  | nil => trivial
  | cons action rest hypothesis =>
      by_cases hazard : Hazard s action
      · exact absurd ((sound.dooms closed permitted.1 hazard).run rest) saved
      · exact ⟨hazard, hypothesis (sound.step action permitted.1 hazard)
          (freed_closed closed action) permitted.2 saved⟩

/-- The conductor touches no freed handle exactly when no poll came between a store and its removal or after a
close. -/
theorem run_untouched_iff (actions : List Action) (answer : Answer) (permitted : Throughout Permitted {} actions) :
    (run {} (actions ++ [.conductor answer])).fault = none ↔
      Throughout (fun s action => ¬ Hazard s action) {} actions := by
  constructor
  · intro untouched
    refine sound_start.safe (fun freed => absurd rfl freed) permitted fun doomed => ?_
    rw [run_append] at untouched
    exact absurd untouched (doomed.faults answer)
  · intro safe
    have kept := (sound_start.run actions permitted safe).step (.conductor answer) trivial not_false
    rw [run_append]
    exact kept.unbroken

def plainAnswer : Answer := ⟨false, .ok 7, .ok (some 40), .enough⟩

/-- The poll is before the removal, and the removal reads the freed handle. -/
def earlyPoll : List Action :=
  [.add .publication "aeron:ipc" 1000 .enough, .conductor plainAnswer, .conductor plainAnswer, .conductor plainAnswer,
    .conductor plainAnswer, .poll 0]

/-- The handle is freed before the conductor has read its link. -/
theorem earlyPoll_touches : (run {} (earlyPoll ++ [.conductor plainAnswer])).fault = some 0 ∧
    ((run {} (earlyPoll ++ [.conductor plainAnswer])).fault = none ↔
      Throughout (fun s action => ¬ Hazard s action) {} earlyPoll) :=
  ⟨by decide, run_untouched_iff earlyPoll plainAnswer
    ⟨trivial, trivial, trivial, trivial, trivial, (by decide : Held _ 0), trivial⟩⟩

end TensorPool.Conductor
