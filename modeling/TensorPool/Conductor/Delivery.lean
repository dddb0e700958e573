/-
This file proves that each accepted registration is submitted in its turn and answered at most once with its own
resource.
-/

import TensorPool.Conductor.Ownership
import TensorPool.Library.Journal

namespace TensorPool.Conductor

def Event.submitted? : Event → Option Nat
  | .submitted id _ _ _ _ => some id
  | _ => none

def Event.resolved? : Event → Option Nat
  | .resolved id _ _ => some id
  | _ => none

def submittedIds (log : List Event) : List Nat := log.filterMap Event.submitted?

def resolvedIds (log : List Event) : List Nat := log.filterMap Event.resolved?

/-- An answer comes once, after the submission of its own channel and stream and with what Aeron gave for it. -/
def Answers (past : List Event) : Event → Prop
  | .accepted id _ _ _ => id ∉ acceptedIds past
  | .submitted id kind channel streamId _ =>
      .accepted id kind channel streamId ∈ past ∧ submittedIds past ++ [id] <+: acceptedIds past
  | .resolved id registration _ =>
      (∃ kind channel streamId, .submitted id kind channel streamId (.ok registration) ∈ past) ∧ id ∉ resolvedIds past
  | .reported id (.error _) => id ∈ submittedIds past ∧ id ∉ reportedIds past
  | .reported id (.ok resource) =>
      id ∉ reportedIds past ∧ ∃ kind channel streamId registration raw,
        .accepted id kind channel streamId ∈ past ∧
        .submitted id kind channel streamId (.ok registration) ∈ past ∧
        .resolved id registration raw ∈ past ∧ resource = some ⟨raw, channel, streamId⟩
  | .closed _ => True

/-- An event adds what it submits. -/
theorem submittedIds_push (log : List Event) (event : Event) :
    submittedIds (log ++ [event]) = submittedIds log ++ event.submitted?.toList := by
  rw [submittedIds, List.filterMap_append]
  cases event <;> rfl

/-- An event adds what it resolves. -/
theorem resolvedIds_push (log : List Event) (event : Event) :
    resolvedIds (log ++ [event]) = resolvedIds log ++ event.resolved?.toList := by
  rw [resolvedIds, List.filterMap_append]
  cases event <;> rfl

/-- The log tells where the fields of a live handle come from. -/
structure Told (log : List Event) (id : Nat) (handle : Handle) : Prop where
  accepted : .accepted id handle.kind handle.channel handle.streamId ∈ log
  submitted : ∀ registration, handle.aeronAsync = some registration →
    .submitted id handle.kind handle.channel handle.streamId (.ok registration) ∈ log
  waits : handle.status = .pending → id ∉ resolvedIds log
  failed : handle.status = .error → id ∈ submittedIds log
  complete : handle.status = .complete → ∃ registration raw, handle.aeronAsync = some registration ∧
    .resolved id registration raw ∈ log ∧ handle.resource = some ⟨raw, handle.channel, handle.streamId⟩
  unreported : id ∉ reportedIds log

structure Honest (s : State) : Prop where
  answers : Journal.Along Answers s.log
  inTurn : s.isOpen = true → acceptedIds s.log = submittedIds s.log ++ s.commands.map Command.async
  ahead : submittedIds s.log ++ s.commands.map Command.async <+: acceptedIds s.log
  told : ∀ id handle, s.heap id = some handle → Told s.log id handle
  resolvedUsed : ∀ id ∈ resolvedIds s.log, id < s.next
  reportedUsed : ∀ id ∈ reportedIds s.log, id < s.next

variable {s : State} {log : List Event} {id : Nat} {handle : Handle}

theorem mem_push (log : List Event) (event : Event) : event ∈ log ++ [event] :=
  List.mem_append_right _ (List.mem_singleton.mpr rfl)

/-- What the log tells of a handle stays true while no event answers the handle. -/
theorem Told.push (told : Told log id handle) (event : Event)
    (unresolved : handle.status = .pending → event.resolved? ≠ some id) (unreported : event.reported? ≠ some id) :
    Told (log ++ [event]) id handle where
  accepted := List.mem_append_left _ told.accepted
  submitted registration known := List.mem_append_left _ (told.submitted registration known)
  waits waits := by
    rw [resolvedIds_push, List.mem_append, not_or]
    refine ⟨told.waits waits, fun present => unresolved waits (Option.mem_toList.mp present)⟩
  failed failed := by
    rw [submittedIds_push]
    exact List.mem_append_left _ (told.failed failed)
  complete complete := by
    obtain ⟨registration, raw, known, present, same⟩ := told.complete complete
    exact ⟨registration, raw, known, List.mem_append_left _ present, same⟩
  unreported := by
    rw [reportedIds_push, List.mem_append, not_or]
    exact ⟨told.unreported, fun present => unreported (Option.mem_toList.mp present)⟩

/-- A new conductor is honest. -/
theorem honest_start : Honest {} where
  answers := Journal.Along.nil
  inTurn _ := rfl
  ahead := List.nil_prefix
  told _ _ present := by cases present
  resolvedUsed _ present := absurd present List.not_mem_nil
  reportedUsed _ present := absurd present List.not_mem_nil

/-- A registration keeps the conductor honest. -/
theorem Honest.accepts (honest : Honest s) (sound : Sound s) (kind : Kind) (channel : String) (streamId : Int32)
    (memory : Memory) : Honest (asyncAdd kind channel streamId memory s).2 := by
  rw [asyncAdd]
  split
  · exact honest
  split
  · exact honest
  split
  · exact honest
  split
  · exact honest
  split
  · exact ⟨honest.answers, honest.inTurn, honest.ahead, honest.told, honest.resolvedUsed, honest.reportedUsed⟩
  next isOpen _ _ _ _ =>
    have turn : acceptedIds (s.log ++ [.accepted s.next kind channel streamId]) =
        submittedIds (s.log ++ [.accepted s.next kind channel streamId]) ++
          (s.commands ++ [(⟨kind, s.next⟩ : Command)]).map Command.async := by
      rw [acceptedIds_push, submittedIds_push, honest.inTurn (by simpa using isOpen), List.map_append]
      simp [Event.accepted?, Event.submitted?]
    refine ⟨?_, fun _ => turn, turn ▸ List.prefix_refl _, ?_, ?_, ?_⟩
    · refine (Journal.along_push _ _).mpr ⟨honest.answers, fun present => ?_⟩
      exact absurd (sound.numbered _ present) (Nat.lt_irrefl _)
    · intro id handle here
      change (s.put s.next _).heap id = _ at here
      rw [heap_put] at here
      split at here
      next same =>
        obtain rfl := Option.some.inj here
        subst same
        refine ⟨mem_push _ _, fun _ =>
          by rintro ⟨⟩, fun _ present => ?_, by rintro ⟨⟩, by rintro ⟨⟩, fun present => ?_⟩
        · rw [resolvedIds_push] at present
          exact absurd (honest.resolvedUsed _ (by simpa [Event.resolved?] using present)) (Nat.lt_irrefl _)
        · rw [reportedIds_push] at present
          exact absurd (honest.reportedUsed _ (by simpa [Event.reported?] using present)) (Nat.lt_irrefl _)
      · exact (honest.told id handle here).push _ (fun _ => by rintro ⟨⟩) (by rintro ⟨⟩)
    · intro id present
      rw [resolvedIds_push] at present
      exact Nat.lt_succ_of_lt (honest.resolvedUsed id (by simpa [Event.resolved?] using present))
    · intro id present
      rw [reportedIds_push] at present
      exact Nat.lt_succ_of_lt (honest.reportedUsed id (by simpa [Event.reported?] using present))

/-- An event that neither accepts nor submits changes no turn. -/
theorem Honest.turns (honest : Honest s) (event : Event) (accepts : event.accepted? = none)
    (submits : event.submitted? = none) :
    (s.isOpen = true → acceptedIds (s.log ++ [event]) = submittedIds (s.log ++ [event]) ++
      s.commands.map Command.async) ∧
        submittedIds (s.log ++ [event]) ++ s.commands.map Command.async <+: acceptedIds (s.log ++ [event]) := by
  rw [acceptedIds_push, submittedIds_push, accepts, submits]
  simpa using ⟨honest.inTurn, honest.ahead⟩

/-- A report is the answer of its handle, and the handle is gone after it. -/
theorem Honest.reports (honest : Honest s) (sound : Sound s) (here : s.heap id = some handle)
    (result : Except Failure (Option Resource)) (good : Answers s.log (.reported id result)) :
      Honest ((s.put id none).record (.reported id result)) := by
  have used : id < s.next := by
    by_contra beyond
    rw [sound.unused id (Nat.le_of_not_lt beyond)] at here
    cases here
  have turns := honest.turns (.reported id result) rfl rfl
  refine ⟨(Journal.along_push _ _).mpr ⟨honest.answers, good⟩, turns.1, turns.2, ?_, ?_, ?_⟩
  · intro other handle' there
    change (s.put id none).heap other = _ at there
    rw [heap_put] at there
    split at there
    · cases there
    next different =>
      apply (honest.told other handle' there).push (.reported id result) fun _ => by rintro ⟨⟩
      simpa [Event.reported?] using Ne.symm different
  · intro other present
    change other ∈ resolvedIds (s.log ++ [_]) at present
    rw [resolvedIds_push] at present
    exact honest.resolvedUsed other (by simpa [Event.resolved?] using present)
  · intro other present
    change other ∈ reportedIds (s.log ++ [_]) at present
    rw [reportedIds_push] at present
    rcases List.mem_append.mp present with old | new
    · exact honest.reportedUsed other old
    · obtain rfl : id = other := by simpa [Event.reported?, eq_comm] using new
      exact used

/-- A poll of a caller keeps the conductor honest. -/
theorem Honest.polls (honest : Honest s) (sound : Sound s) (id : Nat) : Honest (asyncPoll id s).2 := by
  rw [asyncPoll]
  split
  · exact ⟨honest.answers, honest.inTurn, honest.ahead, honest.told, honest.resolvedUsed, honest.reportedUsed⟩
  next handle here =>
    have told := honest.told id handle here
    cases status : handle.status with
    | pending => exact honest
    | error =>
        exact honest.reports sound here _ ⟨told.failed status, told.unreported⟩
    | complete =>
        obtain ⟨registration, raw, known, resolved, same⟩ := told.complete status
        refine honest.reports sound here _ ⟨told.unreported, ?_⟩
        exact ⟨_, _, _, registration, raw, told.accepted, told.submitted registration known, resolved, same⟩

/-- A submission names the oldest command and the channel and stream of its handle. -/
theorem Honest.submits (honest : Honest s) {command : Command} {rest : List Command}
    (first : s.commands = command :: rest) (here : s.heap command.async = some handle)
    (result : Except Failure Nat) (handle' : Handle)
    (told : Told s.log command.async handle →
      Told (s.log ++ [.submitted command.async handle.kind handle.channel handle.streamId result]) command.async handle') :
    Honest (({ s with commands := rest }.record
      (.submitted command.async handle.kind handle.channel handle.streamId result)).put command.async
        (some handle')) := by
  have ahead := honest.ahead
  rw [first, List.map_cons, List.append_cons] at ahead
  refine ⟨?_, ?_, ?_, ?_, ?_, ?_⟩
  · refine (Journal.along_push _ _).mpr ⟨honest.answers, (honest.told _ handle here).accepted, ?_⟩
    exact (List.prefix_append _ _).trans ahead
  · intro isOpen
    change acceptedIds (s.log ++ [_]) = submittedIds (s.log ++ [_]) ++ rest.map Command.async
    rw [acceptedIds_push, submittedIds_push, honest.inTurn isOpen, first]
    simp [Event.accepted?, Event.submitted?]
  · change submittedIds (s.log ++ [_]) ++ rest.map Command.async <+: acceptedIds (s.log ++ [_])
    rw [acceptedIds_push, submittedIds_push]
    simpa [Event.accepted?, Event.submitted?] using ahead
  · intro id other there
    change (s.put command.async (some handle')).heap id = _ at there
    rw [heap_put] at there
    split at there
    next same =>
      obtain rfl := Option.some.inj there
      rw [same]
      exact told (honest.told _ handle here)
    · exact (honest.told id other there).push _ (fun _ => by rintro ⟨⟩) (by rintro ⟨⟩)
  · intro id present
    change id ∈ resolvedIds (s.log ++ [_]) at present
    rw [resolvedIds_push] at present
    exact honest.resolvedUsed id (by simpa [Event.resolved?] using present)
  · intro id present
    change id ∈ reportedIds (s.log ++ [_]) at present
    rw [reportedIds_push] at present
    exact honest.reportedUsed id (by simpa [Event.reported?] using present)

/-- The honesty of a state is about its heap, its commands and its log. -/
theorem Honest.same (honest : Honest s) {s' : State} (heap : s'.heap = s.heap) (next : s'.next = s.next)
    (commands : s'.commands = s.commands) (isOpen : s'.isOpen = s.isOpen) (log : s'.log = s.log) : Honest s' := by
  refine ⟨?_, ?_, ?_, ?_, ?_, ?_⟩
  · rw [log]
    exact honest.answers
  · rw [log, commands, isOpen]
    exact honest.inTurn
  · rw [log, commands]
    exact honest.ahead
  · rw [log, heap]
    exact honest.told
  · rw [log, next]
    exact honest.resolvedUsed
  · rw [log, next]
    exact honest.reportedUsed

/-- A processed command keeps the conductor honest. -/
theorem Honest.processes (honest : Honest s) (sound : Sound s) (answer : Answer) {command : Command}
    {rest : List Command} (first : s.commands = command :: rest) :
      Honest (processCommand answer command { s with commands := rest }) := by
  obtain ⟨handle, here, kind, waits, unknown⟩ := sound.queued command (by rw [first]; exact List.mem_cons_self)
  simp only [processCommand, here]
  cases answer.add with
  | error failure =>
      refine honest.submits first here (.error failure) _ fun told => ?_
      refine ⟨List.mem_append_left _ told.accepted, ?_, by rintro ⟨⟩, fun _ => ?_, by rintro ⟨⟩, ?_⟩
      · intro registration known
        change handle.aeronAsync = _ at known
        rw [unknown] at known
        cases known
      · rw [submittedIds_push]
        exact List.mem_append_right _ (List.mem_singleton.mpr rfl)
      · rw [reportedIds_push]
        simpa [Event.reported?] using told.unreported
  | ok registration =>
      have linked := honest.submits first here (.ok registration)
        { handle with aeronAsync := some registration } fun told => by
          refine ⟨List.mem_append_left _ told.accepted, ?_, fun _ => ?_, ?_, ?_, ?_⟩
          · rintro other known
            obtain rfl := Option.some.inj known
            exact mem_push _ _
          · rw [resolvedIds_push]
            simpa [Event.resolved?] using told.waits waits
          · intro failed
            rw [show handle.status = _ from failed] at waits
            cases waits
          · intro complete
            rw [show handle.status = _ from complete] at waits
            cases waits
          · rw [reportedIds_push]
            simpa [Event.reported?] using told.unreported
      exact linked.same (heap_setPending ..) (next_setPending ..) (commands_setPending ..) (isOpen_setPending ..)
        (log_setPending ..)

/-- A store of a final status tells what Aeron gave. -/
theorem Honest.stores (honest : Honest s) (id : Nat) (handle : Handle) (at' : At) (told : Told s.log id handle) :
    Honest { s.put id (some handle) with at' := at' } := by
  refine ⟨honest.answers, honest.inTurn, honest.ahead, ?_, honest.resolvedUsed, honest.reportedUsed⟩
  intro other handle' there
  change (s.put id (some handle)).heap other = _ at there
  rw [heap_put] at there
  split at there
  next same =>
    obtain rfl := Option.some.inj there
    rw [same]
    exact told
  · exact honest.told other handle' there

/-- A resource is resolved for a linked handle that still waits. -/
theorem Honest.resolves (honest : Honest s) (sound : Sound s) (here : s.heap id = some handle)
    (waits : handle.status = .pending) {registration : Nat} (known : handle.aeronAsync = some registration)
    (raw : Nat) :
    Journal.Along Answers (s.log ++ [.resolved id registration raw]) ∧
      (∀ other handle', other ≠ id → s.heap other = some handle' →
        Told (s.log ++ [.resolved id registration raw]) other handle') ∧
      ∀ other ∈ resolvedIds (s.log ++ [.resolved id registration raw]), other < s.next := by
  have told := honest.told id handle here
  refine ⟨?_, ?_, ?_⟩
  · exact (Journal.along_push _ _).mpr
      ⟨honest.answers, ⟨_, _, _, told.submitted registration known⟩, told.waits waits⟩
  · intro other handle' different there
    apply (honest.told other handle' there).push (.resolved id registration raw) _ (by rintro ⟨⟩)
    intro _
    simpa [Event.resolved?] using Ne.symm different
  · intro other present
    rw [resolvedIds_push] at present
    rcases List.mem_append.mp present with old | new
    · exact honest.resolvedUsed other old
    · obtain rfl : id = other := by simpa [Event.resolved?, eq_comm] using new
      exact sound.numbered _ (List.mem_filterMap.mpr ⟨_, told.accepted, rfl⟩)

/-- A poll of a pending handle keeps the conductor honest. -/
theorem Honest.polled (honest : Honest s) (sound : Sound s) (answer : Answer) {kind : Kind} {passed id : Nat}
    (polling : s.at' = .polling kind passed) (current : (s.pending kind)[passed]? = some id) :
    Honest (pollHandle answer kind passed id s) := by
  obtain ⟨handle, here, -, known, status⟩ := sound.linked kind id (List.mem_of_getElem? current)
  have waits : handle.status = .pending := by
    rw [status, State.window, polling]
    rintro ⟨⟩
  obtain ⟨registration, known⟩ := Option.ne_none_iff_exists'.mp known
  have told := honest.told id handle here
  have submitted : id ∈ submittedIds s.log :=
    List.mem_filterMap.mpr ⟨_, told.submitted registration known, rfl⟩
  simp only [pollHandle, here]
  cases answer.poll with
  | error failure =>
      refine honest.stores id _ _ ⟨told.accepted, told.submitted,
        by rintro ⟨⟩, fun _ => submitted, by rintro ⟨⟩, told.unreported⟩
  | ok raw =>
      cases raw with
      | none => exact honest.same rfl rfl rfl rfl rfl
      | some raw =>
          obtain ⟨along, others, used⟩ := honest.resolves sound here waits known raw
          have turns := honest.turns (.resolved id registration raw) rfl rfl
          have stored : ∀ handle' : Handle, Told (s.log ++ [.resolved id registration raw]) id handle' →
              Honest { (s.record (.resolved id registration raw)).put id
                (some handle') with at' := .stored kind passed } := by
            intro handle' told'
            refine ⟨along, turns.1, turns.2, ?_, used, ?_⟩
            · intro other there present
              change (s.put id (some handle')).heap other = _ at present
              rw [heap_put] at present
              split at present
              next same =>
                obtain rfl := Option.some.inj present
                rw [same]
                exact told'
              next different => exact others other there different present
            · intro other present
              change other ∈ reportedIds (s.log ++ [_]) at present
              rw [reportedIds_push] at present
              exact honest.reportedUsed other (by simpa [Event.reported?] using present)
          have kept : id ∉ reportedIds (s.log ++ [.resolved id registration raw]) := by
            rw [reportedIds_push]
            simpa [Event.reported?] using told.unreported
          simp only [known, Option.getD_some]
          cases answer.wrap with
          | enough =>
              refine stored _ ⟨List.mem_append_left _ told.accepted, fun other known' => ?_,
                by rintro ⟨⟩, by rintro ⟨⟩, fun _ => ?_, kept⟩
              · exact List.mem_append_left _ (told.submitted other (known.trans known'))
              · exact ⟨registration, raw, rfl, mem_push _ _, rfl⟩
          | noWrapper | noChannel =>
              refine stored _ ⟨List.mem_append_left _ told.accepted, fun other known' => ?_,
                by rintro ⟨⟩, fun _ => ?_, by rintro ⟨⟩, kept⟩
              · exact List.mem_append_left _ (told.submitted other known')
              · rw [submittedIds_push]
                exact List.mem_append_left _ submitted

/-- Each step of a call keeps the conductor honest. -/
theorem Honest.advances (honest : Honest s) (sound : Sound s) (answer : Answer) : Honest (advance answer s) := by
  rw [advance]
  split
  · split
    · exact honest.same rfl rfl rfl rfl rfl
    · exact honest
  · split
    · exact honest.same rfl rfl rfl rfl rfl
    next command rest first =>
      split
      · exact honest.same rfl rfl rfl rfl rfl
      · exact honest.processes sound answer first
  next kind passed polling =>
    split
    · exact honest.same rfl rfl rfl rfl rfl
    next id current => exact honest.polled sound answer polling current
  next kind passed stored =>
    exact honest.same (heap_setPending ..) (next_setPending ..) (commands_setPending ..) (isOpen_setPending ..)
      (log_setPending ..)

/-- The conductor keeps honest in its idle state too. -/
theorem Honest.conducts (honest : Honest s) (sound : Sound s) (answer : Answer) :
    Honest (conductorStep answer s) := by
  rw [conductorStep]
  split
  · exact honest.same rfl rfl rfl rfl rfl
  · exact honest.advances sound answer

/-- The close keeps the conductor honest. -/
theorem Honest.closes (honest : Honest s) : Honest (close s) := by
  refine ⟨(Journal.along_push _ _).mpr ⟨honest.answers, trivial⟩,
    fun isOpen => absurd isOpen Bool.false_ne_true, ?_, ?_, ?_, ?_⟩
  · change submittedIds (s.log ++ [_]) ++ [] <+: acceptedIds (s.log ++ [_])
    rw [acceptedIds_push, submittedIds_push]
    simpa [Event.accepted?, Event.submitted?] using (List.prefix_append _ _).trans honest.ahead
  · intro id handle here
    dsimp only [close] at here ⊢
    split at here
    · cases here
    · exact (honest.told id handle here).push _ (fun _ => by rintro ⟨⟩) (by rintro ⟨⟩)
  · intro id present
    change id ∈ resolvedIds (s.log ++ [_]) at present
    rw [resolvedIds_push] at present
    exact honest.resolvedUsed id (by simpa [Event.resolved?] using present)
  · intro id present
    change id ∈ reportedIds (s.log ++ [_]) at present
    rw [reportedIds_push] at present
    exact honest.reportedUsed id (by simpa [Event.reported?] using present)

/-- Each action keeps the conductor honest. -/
theorem Honest.step (honest : Honest s) (sound : Sound s) (action : Action) : Honest (Conductor.step s action) := by
  rw [Conductor.step.eq_def]
  split
  · exact honest
  cases action with
  | add kind channel streamId memory => exact honest.accepts sound kind channel streamId memory
  | poll id => exact honest.polls sound id
  | conductor answer => exact honest.conducts sound answer
  | close =>
      dsimp only
      split
      · exact honest.closes
      · exact honest

/-- A run of permitted actions without hazards keeps the conductor honest. -/
theorem Honest.run (honest : Honest s) (sound : Sound s) (actions : List Action)
    (permitted : Throughout Permitted s actions)
    (safe : Throughout (fun s action => ¬ Hazard s action) s actions) : Honest (Conductor.run s actions) := by
  induction actions generalizing s with
  | nil => exact honest
  | cons action rest hypothesis =>
      exact hypothesis (honest.step sound action) (sound.step action permitted.1 safe.1) permitted.2 safe.2

/-- In a run without a hazard the registrations are submitted in the order of their acceptance, and each answer
is the one of its own registration. -/
theorem run_answers (actions : List Action) (permitted : Throughout Permitted {} actions)
    (safe : Throughout (fun s action => ¬ Hazard s action) {} actions) :
    Journal.Along Answers (run {} actions).log :=
  (honest_start.run sound_start actions permitted safe).answers

/-- Aeron refuses the registration. -/
def failedAnswer : Answer := { plainAnswer with add := .error ⟨22, "no driver"⟩ }

/-- Two registrations are polled in the other order, each after its removal, and a third one fails. -/
def latePoll : List Action :=
  [.add .publication "aeron:ipc" 1000 .enough, .add .subscription "aeron:ipc" 1001 .enough] ++
    List.replicate 10 (.conductor plainAnswer) ++
      [.poll 1, .poll 0, .add .publication "aeron:udp" 1002 .enough, .conductor failedAnswer, .conductor failedAnswer,
        .poll 2]

theorem latePoll_answers :
    reportedIds (run {} latePoll).log = [1, 0, 2] ∧ Journal.Along Answers (run {} latePoll).log :=
  ⟨by decide +kernel, run_answers latePoll (by decide +kernel) (by decide +kernel)⟩

end TensorPool.Conductor
