/-
This file proves which pollers one call of the conductor polls, and when it reads a freed entry.
-/

import TensorPool.Conductor.Pollers

namespace TensorPool.Conductor

def PollerEvent.polled? : PollerEvent → Option PollerEntry
  | .polled entry => some entry
  | _ => none

def polledEntries (log : List PollerEvent) : List PollerEntry := log.filterMap PollerEvent.polled?

/-- A number is never used twice, and an unregistered entry is not in the list. -/
structure Pollers.Sound (s : Pollers) : Prop where
  distinct : (s.entries.map PollerEntry.id).Nodup
  used : ∀ entry ∈ s.entries, entry.id < s.next
  removed : ∀ entry, .unregistered entry ∈ s.log → entry.id < s.next ∧ entry.id ∉ s.entries.map PollerEntry.id

/-- The calls of a callback only register and unregister. -/
def PollerEvent.IsCall : PollerEvent → Prop
  | .registered _ => True
  | .unregistered _ => True
  | _ => False

/-- Between two states the cursor of a walk loses its entry or keeps its place, and the calls between tell what
was removed. -/
def Follows (cursor : Nat) (added : List PollerEvent) (s s' : Pollers) : Prop :=
  match Cursor.after PollerEntry.id cursor s.entries, Cursor.after PollerEntry.id cursor s'.entries with
  | none, later => later = none
  | some _, none => ∃ entry, .unregistered entry ∈ added ∧ entry.id = cursor
  | some rest, some rest' => rest'.Sublist rest ∧ ∀ entry ∈ rest, entry ∈ rest' ∨ .unregistered entry ∈ added

/-- The calls of a callback change the list and nothing else that the walk reads. -/
structure Called (cursor : Nat) (s s' : Pollers) : Prop where
  sound : s'.Sound
  depth : s'.doWorkDepth = s.doWorkDepth
  fault : s'.fault = s.fault
  exhausted : s'.exhausted = s.exhausted
  used : s.next ≤ s'.next
  calls : ∃ added, s'.log = s.log ++ added ∧ (∀ event ∈ added, event.IsCall) ∧ Follows cursor added s s'

variable {s s' : Pollers} {cursor : Nat}

/-- A registration takes a new number. -/
theorem registerPoller_sound (sound : s.Sound) (poller clientd : Nat) (fragmentLimit : Int32) (enough : Bool) :
    (registerPoller poller clientd fragmentLimit enough s).2.Sound := by
  rw [registerPoller]
  split
  · exact sound
  split
  · exact sound
  · have fresh : s.next ∉ s.entries.map PollerEntry.id := by
      intro present
      obtain ⟨entry, inside, same⟩ := List.mem_map.mp present
      have := sound.used entry inside
      omega
    refine ⟨List.nodup_cons.mpr ⟨fresh, sound.distinct⟩, ?_, ?_⟩
    · intro entry present
      rcases List.mem_cons.mp present with rfl | old
      · exact Nat.lt_succ_self _
      · exact Nat.lt_succ_of_lt (sound.used entry old)
    · intro entry present
      obtain ⟨used, absent⟩ := sound.removed entry (by simpa using present)
      refine ⟨Nat.lt_succ_of_lt used, ?_⟩
      rw [List.map_cons, List.mem_cons, not_or]
      exact ⟨Nat.ne_of_lt used, absent⟩

/-- A registration is no call of the conductor. -/
theorem registerPoller_quiet (poller clientd : Nat) (fragmentLimit : Int32) (enough : Bool) :
    (registerPoller poller clientd fragmentLimit enough s).2.doWorkDepth = s.doWorkDepth ∧
      (registerPoller poller clientd fragmentLimit enough s).2.exhausted = s.exhausted := by
  rw [registerPoller]
  split
  · exact ⟨rfl, rfl⟩
  split <;> exact ⟨rfl, rfl⟩

/-- What is unregistered is not in the list any more. -/
theorem unregisterPoller_sound (sound : s.Sound) (poller clientd : Nat) :
    (unregisterPoller poller clientd s).2.Sound := by
  rw [unregisterPoller]
  split
  · exact sound
  split
  · exact sound
  next entry found =>
    have erased : (s.entries.eraseP (PollerEntry.registers poller clientd)).Sublist s.entries := List.eraseP_sublist
    refine ⟨sound.distinct.sublist (erased.map _), fun other present => sound.used other (erased.subset present), ?_⟩
    intro other present
    rcases List.mem_append.mp present with old | new
    · obtain ⟨used, absent⟩ := sound.removed other old
      exact ⟨used, fun kept => absent ((erased.map _).subset kept)⟩
    · obtain rfl : other = entry := by simpa using new
      exact ⟨sound.used other (List.mem_of_find?_eq_some found), Cursor.not_mem_eraseP sound.distinct found⟩

theorem follows_refl (cursor : Nat) (added : List PollerEvent) (s : Pollers) : Follows cursor added s s := by
  rw [Follows]
  cases Cursor.after PollerEntry.id cursor s.entries with
  | none => rfl
  | some rest => exact ⟨List.Sublist.refl rest, fun entry present => Or.inl present⟩

/-- A cursor follows one change after the other. -/
theorem Follows.trans {before after : List PollerEvent} {middle last : Pollers}
    (first : Follows cursor before s middle) (second : Follows cursor after middle last) :
      Follows cursor (before ++ after) s last := by
  rw [Follows] at first second ⊢
  cases start : Cursor.after PollerEntry.id cursor s.entries with
  | none =>
      rw [start] at first
      rw [first] at second
      exact second
  | some rest =>
      rw [start] at first
      cases midway : Cursor.after PollerEntry.id cursor middle.entries with
      | none =>
          rw [midway] at first second
          obtain ⟨entry, removed, same⟩ := first
          rw [second]
          exact ⟨entry, List.mem_append_left _ removed, same⟩
      | some rest' =>
          rw [midway] at first second
          obtain ⟨fewer, others⟩ := first
          cases ended : Cursor.after PollerEntry.id cursor last.entries with
          | none =>
              rw [ended] at second
              obtain ⟨entry, removed, same⟩ := second
              exact ⟨entry, List.mem_append_right _ removed, same⟩
          | some rest'' =>
              rw [ended] at second
              refine ⟨second.1.trans fewer, fun entry present => ?_⟩
              rcases others entry present with kept | removed
              · exact (second.2 entry kept).imp_right (List.mem_append_right _)
              · exact Or.inr (List.mem_append_left _ removed)

theorem called_refl (sound : s.Sound) : Called cursor s s :=
  ⟨sound, rfl, rfl, rfl, Nat.le_refl _, [], (List.append_nil _).symm,
    fun _ present => absurd present List.not_mem_nil, follows_refl ..⟩

/-- The calls of a callback come one after the other. -/
theorem Called.trans {middle last : Pollers} (first : Called cursor s middle) (second : Called cursor middle last) :
    Called cursor s last := by
  obtain ⟨before, log, calls, follows⟩ := first.calls
  obtain ⟨after, log', calls', follows'⟩ := second.calls
  refine ⟨second.sound, second.depth.trans first.depth, second.fault.trans first.fault,
    second.exhausted.trans first.exhausted, Nat.le_trans first.used second.used, before ++ after, ?_, ?_,
      follows.trans follows'⟩
  · rw [log', log, List.append_assoc]
  · intro event present
    exact (List.mem_append.mp present).elim (calls event) (calls' event)

/-- A registration is in front of every cursor. -/
theorem called_register (sound : s.Sound) (inside : cursor < s.next) (poller clientd : Nat) (fragmentLimit : Int32)
    (enough : Bool) : Called cursor s (registerPoller poller clientd fragmentLimit enough s).2 := by
  have kept := registerPoller_sound sound poller clientd fragmentLimit enough
  rw [registerPoller] at kept ⊢
  split
  · exact called_refl sound
  split
  · exact called_refl sound
  next valid few =>
    rw [if_neg valid, if_neg few] at kept
    refine ⟨kept, rfl, rfl, rfl, Nat.le_succ _, [.registered ⟨s.next, poller, clientd, fragmentLimit⟩], rfl, ?_, ?_⟩
    · intro event present
      obtain rfl := List.mem_singleton.mp present
      trivial
    · have same : Cursor.after PollerEntry.id cursor (⟨s.next, poller, clientd, fragmentLimit⟩ :: s.entries) =
          Cursor.after PollerEntry.id cursor s.entries := by
        apply Cursor.after_other
        exact Nat.ne_of_gt inside
      rw [Follows]
      dsimp only
      rw [same]
      exact follows_refl cursor _ s

/-- A callback may unregister. -/
theorem called_unregister (sound : s.Sound) (poller clientd : Nat) :
    Called cursor s (unregisterPoller poller clientd s).2 := by
  have kept := unregisterPoller_sound sound poller clientd
  rw [unregisterPoller] at kept ⊢
  split
  · exact called_refl sound
  next valid =>
    rw [if_neg valid] at kept
    split
    · exact called_refl sound
    next entry found =>
      rw [found] at kept
      refine ⟨kept, rfl, rfl, rfl, Nat.le_refl _, [.unregistered entry], rfl, ?_, ?_⟩
      · intro event present
        obtain rfl := List.mem_singleton.mp present
        trivial
      · rw [Follows]
        dsimp only
        cases here : Cursor.after PollerEntry.id cursor s.entries with
        | none =>
            change Cursor.after PollerEntry.id cursor (s.entries.eraseP _) = none
            rw [Cursor.after_none_iff] at here ⊢
            intro present
            have erased : (s.entries.eraseP (PollerEntry.registers poller clientd)).Sublist s.entries :=
              List.eraseP_sublist
            exact here ((erased.map _).subset present)
        | some rest =>
            rcases Cursor.after_eraseP (PollerEntry.registers poller clientd) sound.distinct here with
              ⟨first, first', same, gone⟩ | ⟨rest', there, sublist, others⟩
            · rw [gone]
              rw [found] at first'
              obtain rfl := Option.some.inj first'
              exact ⟨entry, List.mem_singleton.mpr rfl, same⟩
            · rw [there]
              refine ⟨sublist, fun other present => (others other present).imp_right fun removed => ?_⟩
              rw [found] at removed
              obtain rfl := Option.some.inj removed
              exact List.mem_singleton.mpr rfl

/-- A callback is a list of calls, and those that come back into the conductor change nothing. -/
theorem called_reaction {nested : Int32 → Pollers → Pollers}
    (returns : ∀ aeronWork s, 0 < s.doWorkDepth → nested aeronWork s = s) (calls : List Call) (sound : s.Sound)
    (inside : cursor < s.next) (working : 0 < s.doWorkDepth) : Called cursor s (calls.foldl (perform nested) s) := by
  induction calls generalizing s with
  | nil => exact called_refl sound
  | cons call rest hypothesis =>
      have first : Called cursor s (perform nested s call) := by
        cases call with
        | register poller clientd fragmentLimit enough => exact called_register sound inside ..
        | unregister poller clientd => exact called_unregister sound ..
        | doWork aeronWork =>
            rw [perform, returns aeronWork s working]
            exact called_refl sound
      rw [List.foldl_cons]
      refine first.trans (hypothesis first.sound (Nat.lt_of_lt_of_le inside first.used) ?_)
      rw [first.depth]
      exact working

/-- What one walk leaves in the log and in the state, where `waiting` are the entries it had still to poll. -/
structure Walked (waiting : List PollerEntry) (s : Pollers) (result : Int) (s' : Pollers) (added : List PollerEvent) :
    Prop where
  log : s'.log = s.log ++ added
  sound : s'.Sound
  depth : s'.doWorkDepth = s.doWorkDepth
  bounded : s'.exhausted = s.exhausted
  inOrder : (polledEntries added).Sublist waiting
  answers : ∀ id work, .answered id work ∈ added → id ∈ waiting.map PollerEntry.id
  complete : s'.fault = none → 0 ≤ result → ∀ entry ∈ waiting, entry ∈ polledEntries added ∨
    .unregistered entry ∈ added
  fault : s'.fault ≠ none ↔ ∃ front id work entry, added = front ++ [.answered id work] ∧ 0 ≤ work ∧
    .unregistered entry ∈ added ∧ entry.id = id

theorem polledEntries_append (first second : List PollerEvent) :
    polledEntries (first ++ second) = polledEntries first ++ polledEntries second := List.filterMap_append

/-- The calls of a callback poll nothing. -/
theorem polledEntries_calls {added : List PollerEvent} (calls : ∀ event ∈ added, event.IsCall) :
    polledEntries added = [] := by
  rw [polledEntries, List.filterMap_eq_nil_iff]
  intro event present
  have call := calls event present
  cases event with
  | polled | answered => exact call.elim
  | registered | unregistered => rfl

theorem Pollers.Sound.log_only (sound : s.Sound) (polls : Nat) (event : PollerEvent)
    (keeps : ∀ entry, event ≠ .unregistered entry) :
      Pollers.Sound { s with polls := polls, log := s.log ++ [event] } := by
  refine ⟨sound.distinct, sound.used, fun entry present => sound.removed entry ?_⟩
  exact (List.mem_append.mp present).resolve_right fun new => keeps entry (List.mem_singleton.mp new).symm

/-- A walk without entries polls nothing. -/
theorem Walked.stop (sound : s.Sound) (unbroken : s.fault = none) (result : Int) : Walked [] s result s [] where
  log := (List.append_nil _).symm
  sound := sound
  depth := rfl
  bounded := rfl
  inOrder := List.Sublist.refl _
  answers _ _ present := absurd present List.not_mem_nil
  complete _ _ _ present := absurd present List.not_mem_nil
  fault := by simp [unbroken]

/-- One round polls the head of the waiting entries, and the walk goes on behind its link. -/
theorem pollPollers_walked (callbacks : Nat → PollerEntry → Reaction) {nested : Int32 → Pollers → Pollers}
    (returns : ∀ aeronWork s, 0 < s.doWorkDepth → nested aeronWork s = s) (rounds : Nat) (waiting : List PollerEntry)
    (total : Int) (sound : s.Sound) (working : 0 < s.doWorkDepth) (unbroken : s.fault = none)
    (suffix : waiting <:+ s.entries) (enough : waiting.length ≤ rounds) (positive : 0 ≤ total) :
    ∃ added, Walked waiting s (pollPollers callbacks nested rounds waiting.head? total s).1
      (pollPollers callbacks nested rounds waiting.head? total s).2 added := by
  induction rounds generalizing waiting total s with
  | zero =>
      obtain rfl : waiting = [] := List.length_eq_zero_iff.mp (Nat.le_zero.mp enough)
      exact ⟨[], Walked.stop sound unbroken total⟩
  | succ rounds hypothesis =>
      cases waiting with
      | nil => exact ⟨[], Walked.stop sound unbroken total⟩
      | cons entry rest =>
          have inside : entry ∈ s.entries := suffix.subset List.mem_cons_self
          have here := Cursor.after_of_suffix sound.distinct suffix
          have polled := sound.log_only (s.polls + 1) (.polled entry) (fun _ => by rintro ⟨⟩)
          have called := called_reaction returns (callbacks s.polls entry).calls polled
            (sound.used entry inside) working
          rw [List.head?_cons, pollPollers]
          generalize callbacks s.polls entry = reaction at called ⊢
          generalize reaction.calls.foldl (perform nested) _ = after at called ⊢
          obtain ⟨calls, log, isCall, follows⟩ := called.calls
          have answered := called.sound.log_only after.polls (.answered entry.id reaction.work)
            (fun _ => by rintro ⟨⟩)
          have log' : after.log ++ [.answered entry.id reaction.work] =
              s.log ++ (.polled entry :: calls ++ [.answered entry.id reaction.work]) := by
            rw [log]
            simp
          have one : polledEntries (.polled entry :: calls ++ [.answered entry.id reaction.work]) = [entry] := by
            rw [polledEntries_append, ← List.singleton_append, polledEntries_append, polledEntries_calls isCall]
            rfl
          have answers : ∀ id work, .answered id work ∈ .polled entry :: calls ++ [.answered entry.id reaction.work] →
              id = entry.id ∧ work = reaction.work := by
            intro id work present
            simp only [List.cons_append, List.mem_cons, reduceCtorEq, List.mem_append, List.not_mem_nil, or_false,
              PollerEvent.answered.injEq, false_or] at present
            exact present.resolve_left fun called => (isCall _ called).elim
          dsimp only
          split
          next negative =>
            refine ⟨_, log', answered, called.depth, called.exhausted, ?_, ?_, fun _ => ?_, ?_⟩
            · rw [one]
              exact List.singleton_sublist.mpr List.mem_cons_self
            · intro id work present
              rw [(answers id work present).1]
              exact List.mem_cons_self
            · intro nonnegative
              exact absurd (show (0 : Int) ≤ -1 from nonnegative) (by decide)
            · refine ⟨fun broken => absurd (called.fault.trans unbroken) broken, ?_⟩
              rintro ⟨front, id, work, removed, split, nonnegative, -⟩
              have last : .answered id work ∈ .polled entry :: calls ++ [.answered entry.id reaction.work] := by
                rw [split]
                exact List.mem_append_right _ (List.mem_singleton.mpr rfl)
              rw [(answers id work last).2] at nonnegative
              exact absurd negative (Int32.not_lt.mpr nonnegative)
          next nonnegative =>
            have nonnegative := Int32.not_lt.mp nonnegative
            simp only [Follows, here] at follows
            cases there : Cursor.after PollerEntry.id entry.id after.entries with
            | none =>
                rw [there] at follows
                obtain ⟨removed, unregistered, same⟩ := follows
                refine ⟨_, log', ⟨answered.distinct, answered.used, answered.removed⟩, called.depth,
                  called.exhausted, ?_, ?_, nofun, ?_⟩
                · rw [one]
                  exact List.singleton_sublist.mpr List.mem_cons_self
                · intro id work present
                  rw [(answers id work present).1]
                  exact List.mem_cons_self
                · refine ⟨fun _ => ⟨.polled entry :: calls, entry.id, reaction.work, removed, rfl, nonnegative,
                    ?_, same⟩, fun _ => Option.some_ne_none _⟩
                  exact List.mem_append_left _ (List.mem_cons_of_mem _ unregistered)
            | some rest' =>
                rw [there] at follows
                obtain ⟨fewer, others⟩ := follows
                have suffix' := Cursor.after_suffix there
                have positive' : 0 ≤ total + reaction.work.toInt := by
                  have := Int32.le_iff_toInt_le.mp nonnegative
                  have zero : (0 : Int32).toInt = 0 := rfl
                  omega
                obtain ⟨added, walked⟩ := hypothesis rest' (total + reaction.work.toInt) answered
                  (by rw [called.depth]; exact working) (called.fault.trans unbroken) suffix'
                  (by
                    have := fewer.length_le
                    rw [List.length_cons] at enough
                    omega) positive'
                refine ⟨(.polled entry :: calls ++ [.answered entry.id reaction.work]) ++ added, ?_, walked.sound,
                  walked.depth.trans called.depth, walked.bounded.trans called.exhausted, ?_, ?_, ?_, ?_⟩
                · rw [walked.log]
                  change after.log ++ _ ++ _ = _
                  rw [log', List.append_assoc]
                · rw [polledEntries_append, one]
                  exact List.Sublist.cons_cons entry (walked.inOrder.trans fewer)
                · intro id work present
                  rcases List.mem_append.mp present with now | later
                  · rw [(answers id work now).1]
                    exact List.mem_cons_self
                  · exact List.mem_cons_of_mem _ ((fewer.map _).subset (walked.answers id work later))
                · intro unbroken' finished other present
                  rw [polledEntries_append, one]
                  rcases List.mem_cons.mp present with rfl | behind
                  · exact Or.inl (List.mem_append_left _ List.mem_cons_self)
                  · rcases others other behind with kept | removed
                    · exact (walked.complete unbroken' finished other kept).imp (List.mem_append_right _)
                        (List.mem_append_right _)
                    · exact Or.inr (List.mem_append_left _ (List.mem_append_left _ (List.mem_cons_of_mem _ removed)))
                · rw [walked.fault]
                  have gone : ∀ other, .unregistered other ∈ .polled entry :: calls ++
                    [.answered entry.id reaction.work] →
                      other.id ∉ after.entries.map PollerEntry.id := by
                    intro other removed
                    refine (answered.removed other ?_).2
                    change _ ∈ after.log ++ _
                    rw [log']
                    exact List.mem_append_right _ removed
                  constructor
                  · rintro ⟨front, id, work, removed, rfl, nonnegative', present, same⟩
                    exact ⟨_, id, work, removed, (List.append_assoc ..).symm, nonnegative',
                      List.mem_append_right _ present, same⟩
                  · rintro ⟨front, id, work, removed, split, nonnegative', present, rfl⟩
                    rcases List.eq_nil_or_concat added with rfl | ⟨tail, last, rfl⟩
                    · rw [List.append_nil] at split present
                      have ended : .answered removed.id work ∈ .polled entry :: calls ++
                        [.answered entry.id reaction.work] := by
                        rw [split]
                        exact List.mem_append_right _ (List.mem_singleton.mpr rfl)
                      apply absurd _ (gone removed present)
                      rw [(answers _ _ ended).1, ← not_not (a := _ ∈ _), ← Cursor.after_none_iff, there]
                      exact Option.some_ne_none _
                    · rw [List.concat_eq_append, ← List.append_assoc] at split
                      obtain ⟨-, last'⟩ := List.append_inj' split rfl
                      obtain rfl := List.singleton_inj.mp last'
                      rw [List.concat_eq_append] at walked present ⊢
                      have later := walked.answers removed.id work
                        (List.mem_append_right _ (List.mem_singleton.mpr rfl))
                      rcases List.mem_append.mp present with now | then'
                      · exact absurd ((suffix'.sublist.map _).subset later) (gone removed now)
                      · exact ⟨tail, removed.id, work, removed, rfl, nonnegative', then', rfl⟩

/-- A call inside a callback polls nothing and gives the depth back. -/
theorem doWork_nested (callbacks : Nat → PollerEntry → Reaction) (nesting : Nat) (aeronWork : Int32)
    (working : 0 < s.doWorkDepth) : (doWork callbacks (nesting + 1) aeronWork s).2 = s := by
  rw [doWork]
  split
  · rfl
  · dsimp only
    rw [if_neg (by omega)]
    rfl

/-- Without a failure of Aeron the call walks the list. -/
theorem doWork_walked (callbacks : Nat → PollerEntry → Reaction) (aeronWork : Int32) (sound : s.Sound)
    (outside : s.doWorkDepth = 0) (unbroken : s.fault = none)
    (runs : (s.useAgentInvoker && decide (aeronWork < 0)) = false) :
    ∃ added, Walked s.entries s (doWork callbacks 2 aeronWork s).1 (doWork callbacks 2 aeronWork s).2 added := by
  have inner : Pollers.Sound { s with doWorkDepth := s.doWorkDepth + 1 } :=
    ⟨sound.distinct, sound.used, sound.removed⟩
  obtain ⟨added, walked⟩ := pollPollers_walked callbacks
    (fun aeronWork s working =>
      doWork_nested (s := s) callbacks 0 aeronWork working) s.entries.length s.entries 0 inner
    (Nat.succ_pos _) unbroken List.suffix_rfl (Nat.le_refl _) (Int.le_refl 0)
  refine ⟨added, ?_⟩
  rw [doWork, if_neg (by rw [runs]; exact Bool.false_ne_true)]
  dsimp only
  rw [if_pos (by omega)]
  generalize pollPollers callbacks _ s.entries.length s.entries.head? 0 _ = walk at walked ⊢
  have work : 0 ≤ if s.useAgentInvoker = true then aeronWork.toInt else 0 := by
    split
    next invoker =>
      rw [invoker, Bool.true_and, decide_eq_false_iff_not, Int32.not_lt, Int32.le_iff_toInt_le] at runs
      exact runs
    · exact Int.le_refl 0
  have depth : walk.2.doWorkDepth - 1 = s.doWorkDepth := by
    rw [walked.depth]
    rfl
  have kept : Pollers.Sound { walk.2 with doWorkDepth := walk.2.doWorkDepth - 1 } :=
    ⟨walked.sound.distinct, walked.sound.used, walked.sound.removed⟩
  split
  next negative =>
    exact ⟨walked.log, kept, depth, walked.bounded, walked.inOrder, walked.answers,
      fun _ nonnegative => absurd (show (0 : Int) ≤ -1 from nonnegative) (by decide), walked.fault⟩
  next nonnegative =>
    exact ⟨walked.log, kept, depth, walked.bounded, walked.inOrder, walked.answers,
      fun unbroken' _ => walked.complete unbroken' (Int.not_lt.mp nonnegative), walked.fault⟩

/-- Between its calls the conductor is at no depth, and no bound of the model was met. -/
structure Pollers.Settled (s : Pollers) : Prop where
  sound : s.Sound
  depth : s.doWorkDepth = 0
  bounded : s.exhausted = false

/-- Without a failure of Aeron the call walks the list, and with one it does nothing. -/
theorem doWork_cases (callbacks : Nat → PollerEntry → Reaction) (aeronWork : Int32) (settled : s.Settled)
    (unbroken : s.fault = none) :
    (s.useAgentInvoker = true ∧ aeronWork < 0 ∧ doWork callbacks 2 aeronWork s = (-1, s)) ∨
      ∃ added, Walked s.entries s (doWork callbacks 2 aeronWork s).1 (doWork callbacks 2 aeronWork s).2 added := by
  cases failed : s.useAgentInvoker && decide (aeronWork < 0) with
  | true =>
      left
      obtain ⟨invoker, negative⟩ := Bool.and_eq_true_iff.mp failed
      refine ⟨invoker, of_decide_eq_true negative, ?_⟩
      rw [doWork, if_pos failed]
  | false => exact Or.inr (doWork_walked callbacks aeronWork settled.sound settled.depth unbroken failed)

/-- Each call of the application leaves the conductor settled. -/
theorem pollerStep_settled (callbacks : Nat → PollerEntry → Reaction) (settled : s.Settled) (op : PollerOp) :
    (pollerStep callbacks s op).Settled := by
  rw [pollerStep.eq_def]
  split
  · exact settled
  next unbroken =>
    cases op with
    | register poller clientd fragmentLimit enough =>
        obtain ⟨depth, exhausted⟩ := registerPoller_quiet poller clientd fragmentLimit enough
        exact ⟨registerPoller_sound settled.sound .., depth.trans settled.depth, exhausted.trans settled.bounded⟩
    | unregister poller clientd =>
        have called : Called 0 s _ := called_unregister settled.sound poller clientd
        exact ⟨called.sound, called.depth.trans settled.depth, called.exhausted.trans settled.bounded⟩
    | doWork aeronWork =>
        rcases doWork_cases callbacks aeronWork settled (by simpa using unbroken) with ⟨-, -, same⟩ | ⟨added, walked⟩
        · dsimp only
          rw [same]
          exact settled
        · exact ⟨walked.sound, walked.depth.trans settled.depth, walked.bounded.trans settled.bounded⟩

/-- A run leaves the conductor settled. -/
theorem pollerRun_settled (callbacks : Nat → PollerEntry → Reaction) (settled : s.Settled) (ops : List PollerOp) :
    (pollerRun callbacks s ops).Settled := by
  induction ops generalizing s with
  | nil => exact settled
  | cons op rest hypothesis => exact hypothesis (pollerStep_settled callbacks settled op)

/-- A new conductor is settled. -/
theorem settled_start (useAgentInvoker : Bool) : Pollers.Settled { useAgentInvoker } :=
  ⟨⟨List.nodup_nil, fun _ present => absurd present List.not_mem_nil,
    fun _ present => absurd present List.not_mem_nil⟩, rfl, rfl⟩

/-- In every run each call of the conductor polls the entries it found, in their order and once, without those that a
callback unregistered, a call inside it polls nothing, and it reads a freed entry exactly when a callback
unregistered its own entry and did not fail. -/
theorem pollerRun_polls (callbacks : Nat → PollerEntry → Reaction) (useAgentInvoker : Bool) (ops : List PollerOp)
    (aeronWork : Int32) (unbroken : (pollerRun callbacks { useAgentInvoker } ops).fault = none) :
    let s := pollerRun callbacks { useAgentInvoker } ops
    (doWork callbacks 2 aeronWork s).2.Settled ∧
      ((s.useAgentInvoker = true ∧ aeronWork < 0 ∧ doWork callbacks 2 aeronWork s = (-1, s)) ∨
        ∃ added, Walked s.entries s (doWork callbacks 2 aeronWork s).1 (doWork callbacks 2 aeronWork s).2 added) ∧
      ∀ nesting innerWork (inner : Pollers), s.doWorkDepth < inner.doWorkDepth →
        (doWork callbacks (nesting + 1) innerWork inner).2 = inner := by
  intro s
  have settled : s.Settled := pollerRun_settled callbacks (settled_start useAgentInvoker) ops
  refine ⟨?_, doWork_cases callbacks aeronWork settled unbroken,
    fun nesting innerWork inner deeper => doWork_nested callbacks nesting innerWork (Nat.zero_lt_of_lt deeper)⟩
  have next := pollerStep_settled callbacks settled (.doWork aeronWork)
  rwa [pollerStep.eq_def, if_neg (by rw [unbroken]; exact Bool.false_ne_true)] at next

/-- A control handler sets the control handlers again. -/
def resetHandlers (_ : Nat) (entry : PollerEntry) : Reaction :=
  ⟨setHandlers entry.poller entry.clientd 10 true true, 1⟩

theorem resetHandlers_touches :
    (doWork resetHandlers 2 0 (pollerRun resetHandlers {} [.register 1 7 10 true])).2.fault = some 0 ∧
    let s := pollerRun resetHandlers {} [.register 1 7 10 true]
    (doWork resetHandlers 2 0 s).2.Settled ∧
      ((s.useAgentInvoker = true ∧ (0 : Int32) < 0 ∧ doWork resetHandlers 2 0 s = (-1, s)) ∨
        ∃ added, Walked s.entries s (doWork resetHandlers 2 0 s).1 (doWork resetHandlers 2 0 s).2 added) ∧
      ∀ nesting innerWork (inner : Pollers), s.doWorkDepth < inner.doWorkDepth →
        (doWork resetHandlers (nesting + 1) innerWork inner).2 = inner :=
  ⟨by decide, pollerRun_polls resetHandlers false [.register 1 7 10 true] 0 rfl⟩

end TensorPool.Conductor
