/-
This file proves that one call of the conductor finishes every registration that Aeron decides.
-/

import TensorPool.Conductor.Ownership

namespace TensorPool.Conductor

/-- The queue shows its oldest command, and Aeron leaves nothing open. -/
structure Answer.Decides (answer : Answer) : Prop where
  shown : answer.stalled = false
  decided : answer.poll ≠ .ok none

/-- These are the steps that are left in a walk over a list, with the removals. -/
def walkLeft (length passed : Nat) : Nat := 1 + 2 * (length - passed)

def workLeft (s : State) : Nat :=
  match s.at' with
  | .idle => 0
  | .taking => 3 + 3 * s.commands.length + 2 * s.pendingPublications.length + 2 * s.pendingSubscriptions.length
  | .polling .publication _ => walkLeft s.pendingPublications.length 0 + walkLeft s.pendingSubscriptions.length 0
  | .stored .publication _ => walkLeft s.pendingPublications.length 1 + 1 + walkLeft s.pendingSubscriptions.length 0
  | .polling .subscription _ => walkLeft s.pendingSubscriptions.length 0
  | .stored .subscription _ => walkLeft s.pendingSubscriptions.length 1 + 1

/-- Where every answer decides, a walk stays at the head of its list and leaves nothing behind. -/
def Emptied (s : State) : At → Prop
  | .idle => s.commands = [] ∧ s.pendingPublications = [] ∧ s.pendingSubscriptions = []
  | .taking => True
  | .polling .publication passed | .stored .publication passed => s.commands = [] ∧ passed = 0
  | .polling .subscription passed | .stored .subscription passed =>
      s.commands = [] ∧ s.pendingPublications = [] ∧ passed = 0

variable {s : State}

/-- A command that is taken leaves at most one linked handle. -/
theorem processCommand_left (answer : Answer) (command : Command) (rest : List Command) (taking : s.at' = .taking) :
    let s' := processCommand answer command { s with commands := rest }
    s'.at' = .taking ∧ s'.commands = rest ∧
      s'.pendingPublications.length + s'.pendingSubscriptions.length ≤
        s.pendingPublications.length + s.pendingSubscriptions.length + 1 := by
  dsimp only [processCommand]
  split
  · exact ⟨taking, rfl, Nat.le_succ _⟩
  · split
    · exact ⟨taking, rfl, Nat.le_succ _⟩
    · rw [at_setPending, commands_setPending]
      refine ⟨taking, rfl, ?_⟩
      cases command.type
      · change (command.async :: s.pendingPublications).length + s.pendingSubscriptions.length ≤ _
        rw [List.length_cons]
        omega
      · change s.pendingPublications.length + (command.async :: s.pendingSubscriptions).length ≤ _
        rw [List.length_cons]
        omega

/-- A decided handle gets its final status and stays for its removal. -/
theorem pollHandle_left (answer : Answer) (decides : answer.Decides) (sound : Sound s) {kind : Kind}
    (passed : Nat) {id : Nat} (present : id ∈ s.pending kind) :
    let s' := pollHandle answer kind passed id s
    s'.at' = .stored kind passed ∧ s'.commands = s.commands ∧ s'.pendingPublications = s.pendingPublications ∧
      s'.pendingSubscriptions = s.pendingSubscriptions := by
  obtain ⟨handle, here, -⟩ := sound.linked kind id present
  simp only [pollHandle, here]
  cases polled : answer.poll with
  | error failure => exact ⟨rfl, rfl, rfl, rfl⟩
  | ok raw =>
      cases raw with
      | none => exact absurd polled decides.decided
      | some raw =>
          dsimp only
          split <;> exact ⟨rfl, rfl, rfl, rfl⟩

/-- Each step inside a call that decides everything brings the end nearer. -/
theorem advance_nearer (sound : Sound s) (answer : Answer) (decides : answer.Decides) (inside : s.at' ≠ .idle)
    (emptied : Emptied s s.at') :
    workLeft (advance answer s) < workLeft s ∧ Emptied (advance answer s) (advance answer s).at' := by
  rw [advance]
  split
  next idle => exact absurd idle inside
  next place =>
    split
    next queue =>
        simp only [workLeft, place, queue, walkLeft, Emptied, List.length_nil]
        exact ⟨by omega, trivial, trivial⟩
    next command rest queue =>
        obtain ⟨at', commands, lists⟩ := processCommand_left answer command rest place
        simp only [decides.shown, Bool.false_eq_true, if_false]
        generalize processCommand answer command { s with commands := rest } = s' at at' commands lists ⊢
        simp only [workLeft, at', commands, place, queue, List.length_cons, Emptied, and_true]
        omega
  next kind passed place =>
    rw [place] at emptied
    cases kind with
    | publication =>
        obtain ⟨queue, rfl⟩ := emptied
        cases first : s.pendingPublications with
        | nil =>
            simp only [State.pending, first, List.getElem?_nil, At.after, workLeft, place, walkLeft, Emptied, queue]
            exact ⟨by simp, trivial, trivial, trivial⟩
        | cons id rest =>
            have present : id ∈ s.pending .publication := by simp [State.pending, first]
            obtain ⟨at', commands, publications, subscriptions⟩ :=
              pollHandle_left answer decides sound 0 present
            simp only [State.pending, first, List.getElem?_cons_zero]
            generalize pollHandle answer _ 0 id s = s' at at' commands publications subscriptions ⊢
            simp only [workLeft, at', commands, publications, subscriptions, place, first, queue, walkLeft, Emptied,
              List.length_cons]
            exact ⟨by omega, trivial, trivial⟩
    | subscription =>
        obtain ⟨queue, published, rfl⟩ := emptied
        cases first : s.pendingSubscriptions with
        | nil =>
            simp only [State.pending, first, List.getElem?_nil, At.after, workLeft, place, walkLeft, Emptied, queue,
              published]
            exact ⟨by simp, trivial, trivial, trivial⟩
        | cons id rest =>
            have present : id ∈ s.pending .subscription := by simp [State.pending, first]
            obtain ⟨at', commands, publications, subscriptions⟩ :=
              pollHandle_left answer decides sound 0 present
            simp only [State.pending, first, List.getElem?_cons_zero]
            generalize pollHandle answer _ 0 id s = s' at at' commands publications subscriptions ⊢
            simp only [workLeft, at', commands, publications, subscriptions, place, first, queue, walkLeft, Emptied,
              published, List.length_cons]
            exact ⟨by omega, trivial, trivial, trivial⟩
  next kind passed place =>
    have inside' := sound.inside kind passed place
    rw [place] at emptied
    cases kind with
    | publication =>
        obtain ⟨queue, rfl⟩ := emptied
        change 0 < s.pendingPublications.length at inside'
        simp only [State.pending, State.setPending, workLeft, place, walkLeft, Emptied, queue,
          List.length_eraseIdx_of_lt inside']
        exact ⟨by omega, trivial, trivial⟩
    | subscription =>
        obtain ⟨queue, published, rfl⟩ := emptied
        change 0 < s.pendingSubscriptions.length at inside'
        simp only [State.pending, State.setPending, workLeft, place, walkLeft, Emptied, queue, published,
          List.length_eraseIdx_of_lt inside']
        exact ⟨by omega, trivial, trivial, trivial⟩

theorem conducts_advance (sound : Sound s) (answer : Answer) :
    step s (.conductor answer) = advance answer s := by
  rw [step.eq_def, sound.unbroken, if_neg (by simp)]
  dsimp only
  rw [conductorStep]
  split
  next id found =>
    have present := List.mem_of_find?_eq_some found
    have freed := List.find?_some found
    have live := sound.touches answer id present
    rw [Option.isNone_iff_eq_none] at freed
    rw [freed] at live
    cases live
  · rfl

/-- These are consecutive steps of the conductor. -/
def conduct (answers : Nat → Answer) (steps : Nat) : List Action :=
  (List.range steps).map fun n => .conductor (answers n)

theorem conduct_succ (answers : Nat → Answer) (steps : Nat) :
    conduct answers (steps + 1) = .conductor (answers 0) :: conduct (fun n => answers (n + 1)) steps := by
  rw [conduct, List.range_succ_eq_map, List.map_cons, List.map_map]
  rfl

theorem sound_conducted (sound : Sound s) (answers : Nat → Answer) (steps : Nat) :
    Sound (run s (conduct answers steps)) := by
  induction steps generalizing s answers with
  | zero => exact sound
  | succ steps hypothesis =>
      rw [conduct_succ, run_cons]
      exact hypothesis (sound.step (.conductor (answers 0)) trivial not_false) _

/-- A call that decides everything comes to its end. -/
theorem work_ends (sound : Sound s) (answers : Nat → Answer) (decides : ∀ n, (answers n).Decides)
    (emptied : Emptied s s.at') :
    ∃ steps ≤ workLeft s, (run s (conduct answers steps)).at' = .idle ∧
      Emptied (run s (conduct answers steps)) .idle := by
  induction left : workLeft s using Nat.strongRecOn generalizing s answers with
  | ind left hypothesis =>
      by_cases idle : s.at' = .idle
      · exact ⟨0, Nat.zero_le _, idle, idle ▸ emptied⟩
      · obtain ⟨nearer, emptied'⟩ := advance_nearer sound (answers 0) (decides 0) idle emptied
        obtain ⟨steps, few, ended, empty⟩ := hypothesis _ (left ▸ nearer) (sound.advances (answers 0))
          (fun n => answers (n + 1)) (fun n => decides (n + 1)) emptied' rfl
        refine ⟨steps + 1, by omega, ?_⟩
        rw [conduct_succ, run_cons, conducts_advance sound]
        exact ⟨ended, empty⟩

theorem isOpen_conduct (sound : Sound s) (answers : Nat → Answer) (steps : Nat) :
    (run s (conduct answers steps)).isOpen = s.isOpen := by
  induction steps generalizing s answers with
  | zero => rfl
  | succ steps hypothesis =>
      rw [conduct_succ, run_cons, conducts_advance sound, hypothesis (sound.advances _), advance_isOpen]

/-- One call of the conductor in which Aeron decides everything leaves every accepted handle with its final status. -/
theorem run_finishes (actions : List Action) (permitted : Throughout Permitted {} actions)
    (idle : (run {} actions).at' = .idle) (isOpen : (run {} actions).isOpen = true) (answers : Nat → Answer)
    (decides : ∀ n, (answers n).Decides) :
    let s := run {} actions
    ∃ steps ≤ 4 + 3 * s.commands.length + 2 * s.pendingPublications.length + 2 * s.pendingSubscriptions.length,
      (run s (conduct answers steps)).at' = .idle ∧
        ∀ id, Held (run s (conduct answers steps)) id → id ∉ freedIds (run s (conduct answers steps)).log →
          ∃ handle, (run s (conduct answers steps)).heap id = some handle ∧ handle.status ≠ .pending := by
  intro s
  have safe := sound_start.safe (fun freed => absurd rfl freed) permitted fun doomed => doomed.busy ⟨idle, isOpen⟩
  have sound : Sound s := sound_start.run actions permitted safe
  have begun : step s (.conductor (answers 0)) = { s with at' := .taking } := by
    rw [conducts_advance sound, advance, idle]
    exact if_pos isOpen
  have sound' : Sound { s with at' := .taking } := begun ▸ sound.step (.conductor (answers 0)) trivial not_false
  obtain ⟨steps, few, ended, commands, publications, subscriptions⟩ :=
    work_ends sound' (fun n => answers (n + 1)) (fun n => decides (n + 1)) trivial
  have same : run s (conduct answers (steps + 1)) =
      run { s with at' := .taking } (conduct (fun n => answers (n + 1)) steps) := by
    rw [conduct_succ, run_cons, begun]
  refine ⟨steps + 1, ?_, ?_, ?_⟩
  · change steps ≤ 3 + 3 * s.commands.length + 2 * s.pendingPublications.length +
      2 * s.pendingSubscriptions.length at few
    omega
  · rw [same]
    exact ended
  · rw [same]
    intro id held kept
    have last := sound_conducted sound' (fun n => answers (n + 1)) steps
    obtain ⟨handle, here⟩ := Option.isSome_iff_exists.mp (last.live id held kept)
    refine ⟨handle, here, fun waits => ?_⟩
    have opened := isOpen_conduct sound' (fun n => answers (n + 1)) steps
    rcases last.placed (opened.trans isOpen) id handle here waits with queued | linked
    · rw [commands] at queued
      exact absurd queued List.not_mem_nil
    · cases kind : handle.kind with
      | publication =>
          rw [kind, State.pending, publications] at linked
          exact absurd linked List.not_mem_nil
      | subscription =>
          rw [kind, State.pending, subscriptions] at linked
          exact absurd linked List.not_mem_nil

/-- One registration of each kind waits for the call. -/
def twoRegistrations : List Action :=
  [.add .publication "aeron:ipc" 1000 .enough, .add .subscription "aeron:ipc" 1001 .enough]

theorem twoRegistrations_finish :
    let s := run {} twoRegistrations
    ∃ steps ≤ 4 + 3 * s.commands.length + 2 * s.pendingPublications.length + 2 * s.pendingSubscriptions.length,
      (run s (conduct (fun _ => plainAnswer) steps)).at' = .idle ∧
        ∀ id, Held (run s (conduct (fun _ => plainAnswer) steps)) id →
          id ∉ freedIds (run s (conduct (fun _ => plainAnswer) steps)).log →
          ∃ handle, (run s (conduct (fun _ => plainAnswer) steps)).heap id = some handle ∧ handle.status ≠ .pending :=
  run_finishes twoRegistrations ⟨trivial, trivial, trivial⟩ rfl rfl _
    fun _ => ⟨rfl, by rintro ⟨⟩⟩

end TensorPool.Conductor
