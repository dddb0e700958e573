/-
This file compares the streams that a query shows with the times of their accepted announces.
The time of an entry is also written by beacons and by new tags.
-/

import TensorPool.Discovery.Tags

namespace TensorPool.Discovery

/-- The registry with the time of the last accepted announce of each stream and the last reading of the clock. -/
structure History where
  entries : List Entry := []
  accepted : UInt32 → Option UInt64 := fun _ => none
  clockNs : UInt64 := 0

/-- The service also prunes its registry without a query. -/
inductive Moment where
  | act (action : Action)
  | prune (nowNs : UInt64)

/-- A fault has no outcome. -/
def History.step (config : Config) (history : History) : Moment → Option History
  | .act (.announce announce outside) =>
      let (outcome, entries) := applyAnnounce history.entries announce outside
      some { entries
             accepted := fun streamId =>
               if outcome = .applied ∧ streamId = announce.streamId then some outside.nowNs
               else history.accepted streamId
             clockNs := outside.nowNs }
  | .act (.dataSource announce outside) =>
      some { history with
        entries := (applyDataSource history.entries announce outside).2, clockNs := outside.nowNs }
  | .act (.setTags streamId tags outside) =>
      some { history with
        entries := (setTags history.entries streamId tags outside).2, clockNs := outside.nowNs }
  | .act (.query request outside) => (query config history.entries request outside).map fun answer =>
      { history with entries := answer.2, clockNs := outside.nowNs }
  | .prune nowNs => some { history with entries := pruneExpired config nowNs history.entries, clockNs := nowNs }

/-- A reading is positive as a signed number and not before the last one. -/
def goodReading (clockNs nowNs : UInt64) : Bool :=
  decide (clockNs ≤ nowNs) && decide (0 < nowNs) && decide (nowNs < 0x8000000000000000)

/-- The clock of the moment does not go back. -/
def History.timely (history : History) : Moment → Bool
  | .act (.announce _ outside) => goodReading history.clockNs outside.nowNs
  | .act (.dataSource _ outside) => goodReading history.clockNs outside.nowNs
  | .act (.setTags _ _ outside) => goodReading history.clockNs outside.nowNs
  | .act (.query _ outside) => goodReading history.clockNs outside.pruneNs &&
    goodReading outside.pruneNs outside.nowNs
  | .prune nowNs => goodReading history.clockNs nowNs

/-- The update finds an entry that meets the condition, or no entry and no room for one. -/
def History.meets (history : History) (streamId : UInt32) (grows : Bool) (condition : Entry → Bool) : Bool :=
  ({ entries := history.entries } : System).meets streamId grows condition

/--
An announce finds memory for its pools, and a beacon or new tags write no time other than the one that the entry has.
An announce that its first checks refuse, a regressing announce or beacon and tags without memory write nothing of it.
-/
def History.steady (history : History) : Moment → Bool
  | .act (.announce announce outside) => announce.unchecked ||
      history.meets announce.streamId outside.grows (·.newer announce.epoch) || outside.allocates
  | .act (.dataSource announce outside) => announce.streamId == 0 ||
      history.meets announce.streamId outside.grows fun entry =>
        entry.newer announce.epoch || entry.lastAnnounceNs == outside.nowNs
  | .act (.setTags streamId tags outside) => streamId == 0 ||
      history.meets streamId outside.grows (fun entry => entry.lastAnnounceNs == outside.nowNs) ||
      (!tags.isEmpty && !(outside.allocates && (List.range tags.length).all outside.copies))
  | _ => true

/-- The window in nanoseconds. -/
def windowNs (config : Config) : Nat := (expiryNs config).toNat

/-- The last accepted announce of the stream is at most the window old. -/
def History.live (history : History) (config : Config) (nowNs : UInt64) (streamId : UInt32) : Bool :=
  (history.accepted streamId).any fun acceptedNs => decide (nowNs.toNat ≤ acceptedNs.toNat + windowNs config)

/-- The entry carries the time of an accepted announce that is more than the window old. -/
def History.outdated (history : History) (config : Config) (nowNs : UInt64) (entry : Entry) : Bool :=
  history.accepted entry.streamId == some entry.lastAnnounceNs &&
    decide (entry.lastAnnounceNs.toNat + windowNs config < nowNs.toNat)

/-- These are the live streams whose entries pass the filters, in the order of the registry. -/
def History.matching (history : History) (config : Config) (request : Request) (nowNs : UInt64) : List UInt32 :=
  (history.entries.filter fun entry => history.live config nowNs entry.streamId && entry.matches request).map
    Entry.streamId

/-- A query returns exactly the live matches, and pruning removes exactly the outdated entries. -/
structure Exact (config : Config) (history : History) (request : Request) (outside : QueryOutside) : Prop where
  answers : ∃ response, query config history.entries request outside =
      some (some response, pruneExpired config outside.pruneNs history.entries) ∧
    ((history.matching config request outside.nowNs).length ≤ config.maxResults.toNat →
      response.status = .ok ∧ response.results.map Result.streamId = history.matching config request outside.nowNs) ∧
    (config.maxResults.toNat < (history.matching config request outside.nowNs).length →
      response.status = .error ∧ response.results = [])
  once : (history.matching config request outside.nowNs).Nodup
  complete : ∀ streamId, history.live config outside.nowNs streamId = true →
    ∃ entry ∈ history.entries, entry.streamId = streamId
  prunes : ∀ nowNs, history.timely (.prune nowNs) = true →
    pruneExpired config nowNs history.entries = history.entries.filter fun entry =>
      !history.outdated config nowNs entry

/-- The times of the registry are those of the accepted announces, as long as the window goes. -/
structure Fresh (config : Config) (history : History) : Prop where
  distinct : (history.entries.map Entry.streamId).Nodup
  pools : ∀ entry ∈ history.entries, entry.poolCount > 0 → entry.pools.isSome = true
  times : ∀ entry ∈ history.entries, entry.lastAnnounceNs ≠ 0 →
    history.accepted entry.streamId = some entry.lastAnnounceNs
  bounds : ∀ streamId acceptedNs, history.accepted streamId = some acceptedNs →
    acceptedNs ≠ 0 ∧ acceptedNs ≤ history.clockNs
  clock : history.clockNs < 0x8000000000000000
  kept : ∀ streamId acceptedNs, history.accepted streamId = some acceptedNs →
    (∃ entry ∈ history.entries, entry.streamId = streamId ∧ entry.lastAnnounceNs = acceptedNs) ∨
      acceptedNs.toNat + windowNs config < history.clockNs.toNat

section Window

variable {config : Config}

theorem windowNs_lt (config : Config) : windowNs config < 0x4000000000000000 := by
  have bound := config.announcePeriodMs.toNat_lt
  unfold windowNs expiryNs
  dsimp only
  have period : (config.announcePeriodMs.toUInt64 * 1000000).toNat = config.announcePeriodMs.toNat * 1000000 := by
    rw [UInt64.toNat_mul, UInt32.toNat_toUInt64]
    exact Nat.mod_eq_of_lt (by change config.announcePeriodMs.toNat * 1000000 < _; omega)
  split
  · decide
  · rw [UInt64.toNat_mul, period]
    exact Nat.lt_of_le_of_lt (Nat.mod_le _ _) (by change config.announcePeriodMs.toNat * 1000000 * 3 < _; omega)

/-- The sum of a time and the window does not wrap. -/
theorem past_window {timeNs nowNs : UInt64} (small : timeNs < 0x8000000000000000) :
    nowNs > timeNs + expiryNs config ↔ timeNs.toNat + windowNs config < nowNs.toNat := by
  have bound : timeNs.toNat < 0x8000000000000000 := UInt64.lt_iff_toNat_lt.mp small
  have window := windowNs_lt config
  rw [gt_iff_lt, UInt64.lt_iff_toNat_lt, UInt64.toNat_add, Nat.mod_eq_of_lt]
  · rfl
  · change timeNs.toNat + windowNs config < 0x10000000000000000
    omega

end Window

namespace Fresh

variable {config : Config} {history : History} {nowNs : UInt64}

theorem start (config : Config) : Fresh config {} where
  distinct := List.nodup_nil
  pools := List.forall_mem_nil _
  times := List.forall_mem_nil _
  bounds := by
    intro _ _ never
    cases never
  clock := by decide
  kept := by
    intro _ _ never
    cases never

/-- Time passes without an update. -/
theorem tick (fresh : Fresh config history) (reading : goodReading history.clockNs nowNs = true) :
    Fresh config { history with clockNs := nowNs } := by
  simp only [goodReading, Bool.and_eq_true, decide_eq_true_eq] at reading
  obtain ⟨⟨later, -⟩, small⟩ := reading
  refine { fresh with clock := small, bounds := ?_, kept := ?_ }
  · intro streamId acceptedNs known
    exact ⟨(fresh.bounds streamId acceptedNs known).1,
      UInt64.le_trans (fresh.bounds streamId acceptedNs known).2 later⟩
  · intro streamId acceptedNs known
    rcases fresh.kept streamId acceptedNs known with here | past
    · exact Or.inl here
    · exact Or.inr (Nat.lt_of_lt_of_le past (UInt64.le_iff_toNat_le.mp later))

/-- An accepted time is small enough to be added to the window. -/
theorem small (fresh : Fresh config history) {streamId : UInt32} {acceptedNs : UInt64}
    (known : history.accepted streamId = some acceptedNs) : acceptedNs < 0x8000000000000000 :=
  UInt64.lt_of_le_of_lt (fresh.bounds streamId acceptedNs known).2 fresh.clock

/-- A rewrite that keeps the time of its entry keeps the registry fresh. -/
theorem quiet (fresh : Fresh config history) {streamId : UInt32} {grows : Bool} {base new : Entry}
    {entries' : List Entry} (rewritten : Rewritten history.entries streamId grows base new entries')
    (time : new.lastAnnounceNs = base.lastAnnounceNs)
    (pools : new.poolCount > 0 → new.pools.isSome = true) : Fresh config { history with entries := entries' } := by
  refine { fresh with distinct := rewritten.distinct, pools := ?_, times := ?_, kept := ?_ }
  · intro entry present
    rcases (rewritten.member entry).mp present with rfl | ⟨old, -⟩
    · exact pools
    · exact fresh.pools entry old
  · intro entry present
    rcases (rewritten.member entry).mp present with rfl | ⟨old, -⟩
    · rw [time, rewritten.own, ← rewritten.base_streamId]
      rcases rewritten.source with ⟨among, -⟩ | ⟨-, blank, -⟩
      · exact fresh.times base among
      · rw [blank]
        intro nonzero
        exact absurd rfl nonzero
    · exact fresh.times entry old
  · intro another acceptedNs known
    rcases fresh.kept another acceptedNs known with ⟨entry, present, own, stamped⟩ | past
    · left
      by_cases same : another = streamId
      · refine ⟨new, (rewritten.member new).mpr (Or.inl rfl), rewritten.own.trans same.symm, ?_⟩
        rcases rewritten.source with ⟨among, named⟩ | ⟨absent, -⟩
        · rw [time, entry_unique fresh.distinct among present (named.trans (same.symm.trans own.symm)), stamped]
        · exact absurd (own.trans same) (absent entry present)
      · refine ⟨entry, (rewritten.member entry).mpr (Or.inr ⟨present, ?_⟩), own, stamped⟩
        rw [own]
        exact same
    · exact Or.inr past

/-- An accepted announce writes its time to its entry. -/
theorem announced (fresh : Fresh config history) {streamId : UInt32} {grows : Bool} {base new : Entry}
    {entries' : List Entry} (rewritten : Rewritten history.entries streamId grows base new entries')
    (time : new.lastAnnounceNs = history.clockNs)
    (positive : history.clockNs ≠ 0) (pools : new.pools.isSome = true) :
    Fresh config { history with
      entries := entries'
      accepted := fun another => if another = streamId then some history.clockNs else history.accepted another } := by
  refine ⟨rewritten.distinct, ?_, ?_, ?_, fresh.clock, ?_⟩
  · intro entry present
    rcases (rewritten.member entry).mp present with rfl | ⟨old, -⟩
    · exact fun _ => pools
    · exact fresh.pools entry old
  · intro entry present nonzero
    dsimp only
    rcases (rewritten.member entry).mp present with rfl | ⟨old, apart⟩
    · rw [if_pos rewritten.own, time]
    · rw [if_neg apart]
      exact fresh.times entry old nonzero
  · intro another acceptedNs known
    dsimp only at known
    split at known
    · cases known
      exact ⟨positive, UInt64.le_refl _⟩
    · exact fresh.bounds another acceptedNs known
  · intro another acceptedNs known
    dsimp only at known
    split at known
    next same =>
      cases known
      exact Or.inl ⟨new, (rewritten.member new).mpr (Or.inl rfl), rewritten.own.trans same.symm, time⟩
    next other =>
      rcases fresh.kept another acceptedNs known with ⟨entry, present, own, stamped⟩ | past
      · refine Or.inl ⟨entry, (rewritten.member entry).mpr (Or.inr ⟨present, ?_⟩), own, stamped⟩
        rw [own]
        exact other
      · exact Or.inr past

/-- A registry that is pruned at its last reading stays fresh. -/
theorem prune (fresh : Fresh config history) :
    Fresh config { history with entries := pruneExpired config history.clockNs history.entries } := by
  refine { fresh with
    distinct := fresh.distinct.sublist (List.filter_sublist.map _)
    pools := fun entry present => fresh.pools entry (List.mem_filter.mp present).1
    times := fun entry present => fresh.times entry (List.mem_filter.mp present).1
    kept := ?_ }
  intro streamId acceptedNs known
  rcases fresh.kept streamId acceptedNs known with ⟨entry, present, own, stamped⟩ | past
  · by_cases expired : entry.expired config history.clockNs = true
    · right
      rw [Entry.expired, Bool.and_eq_true, decide_eq_true_eq, stamped, past_window (fresh.small known)] at expired
      exact expired.2
    · refine Or.inl ⟨entry, List.mem_filter.mpr ⟨present, ?_⟩, own, stamped⟩
      rw [Bool.not_eq_true']
      exact Bool.eq_false_iff.mpr expired
  · exact Or.inr past

end Fresh

/-- An announce that ends behind its checks is ignored, or it has no memory, or its pools match or do not. -/
theorem Entry.announce_memory {entry : Entry} {announce : PoolAnnounce} {outside : Outside}
    (memory : entry.newer announce.epoch = true ∨ outside.allocates = true) :
    (entry.announce announce outside = (.ignored, entry)) ∨
      ((entry.announce announce outside).1 = .applied ∧
        (entry.announce announce outside).2.lastAnnounceNs = outside.nowNs ∧
        (entry.announce announce outside).2.pools.isSome = true) ∨
      ((entry.announce announce outside).1 ≠ .applied ∧
        (entry.announce announce outside).2.lastAnnounceNs = entry.lastAnnounceNs ∧
        (entry.announce announce outside).2.poolCount = 0) := by
  unfold Entry.announce
  dsimp only
  split
  · exact Or.inl rfl
  next current =>
    rw [memory.resolve_left current]
    right
    split
    next refused => cases refused
    · split
      · right
        refine ⟨?_, rfl, rfl⟩
        intro applied
        cases applied
      · exact Or.inl ⟨rfl, rfl, rfl⟩

/-- An update that meets a condition rewrites a known entry that meets it. -/
theorem meets_rewritten {history : History} {streamId : UInt32} {grows : Bool} {condition : Entry → Bool}
    (distinct : (history.entries.map Entry.streamId).Nodup) (nonzero : streamId ≠ 0)
    (met : history.meets streamId grows condition = true) {base new : Entry} {entries' : List Entry}
    (rewritten : Rewritten history.entries streamId grows base new entries') :
    base ∈ history.entries ∧ condition base = true := by
  rcases rewritten.source with ⟨among, own⟩ | ⟨absent, -, room⟩
  · exact ⟨among, meets_entry distinct met among own nonzero⟩
  · unfold History.meets System.meets at met
    rcases found : findEntry history.entries streamId with _ | index
    · rw [found, room] at met
      cases met
    · obtain ⟨entry, here, same⟩ := findEntry_some found
      exact absurd same (absent entry (List.mem_of_getElem? here))

section Step

variable {config : Config} {history after : History}

theorem PoolAnnounce.streamId_ne_zero {announce : PoolAnnounce} (passed : announce.unchecked = false) :
    announce.streamId ≠ 0 := by
  intro zero
  rw [PoolAnnounce.unchecked, zero] at passed
  cases passed

/-- The pools of a fresh registry stand behind their count, also in an entry that is about to be rewritten. -/
theorem Rewritten.pools {streamId : UInt32} {grows : Bool} {base new : Entry} {entries' : List Entry}
    (fresh : Fresh config history) (rewritten : Rewritten history.entries streamId grows base new entries') :
    base.poolCount > 0 → base.pools.isSome = true := by
  rcases rewritten.source with ⟨among, -⟩ | ⟨-, blank, -⟩
  · exact fresh.pools base among
  · rw [blank]
    intro counted
    cases counted

theorem History.step_announce (announce : PoolAnnounce) (outside : Outside) :
    history.step config (.act (.announce announce outside)) = some
      { entries := (applyAnnounce history.entries announce outside).2
        accepted := fun streamId =>
          if (applyAnnounce history.entries announce outside).1 = .applied ∧ streamId = announce.streamId then
            some outside.nowNs
          else history.accepted streamId
        clockNs := outside.nowNs } := rfl

/-- An announce with memory for its pools keeps the registry fresh. -/
theorem fresh_announce (fresh : Fresh config history) {announce : PoolAnnounce} {outside : Outside}
    (reading : goodReading history.clockNs outside.nowNs = true)
    (steady : history.steady (.act (.announce announce outside)) = true)
    (stepped : history.step config (.act (.announce announce outside)) = some after) : Fresh config after := by
  have passing := fresh.tick reading
  rw [History.step_announce] at stepped
  rw [← Option.some.inj stepped]
  have unaccepted (unapplied : (applyAnnounce history.entries announce outside).1 ≠ .applied) :
      (fun streamId =>
        if (applyAnnounce history.entries announce outside).1 = .applied ∧ streamId = announce.streamId then
          some outside.nowNs
        else history.accepted streamId) = history.accepted := by
    funext streamId
    exact if_neg fun both => unapplied both.1
  rcases applyAnnounce_rewrites fresh.distinct announce outside with
    ⟨same, unapplied, -⟩ | ⟨passed, base, rewritten, outcome⟩
  · rw [same, unaccepted unapplied]
    exact passing
  · have memory : base.newer announce.epoch = true ∨ outside.allocates = true := by
      rw [History.steady, passed, Bool.false_or, Bool.or_eq_true] at steady
      rcases steady with met | allocates
      · exact Or.inl (meets_rewritten fresh.distinct (PoolAnnounce.streamId_ne_zero passed) met rewritten).2
      · exact Or.inr allocates
    rcases Entry.announce_memory memory with ignored | ⟨applied, time, pools⟩ | ⟨unapplied, time, empty⟩
    · rw [ignored] at outcome rewritten
      have unapplied : (applyAnnounce history.entries announce outside).1 ≠ .applied := by
        rw [outcome]
        intro applied
        cases applied
      rw [unaccepted unapplied]
      exact passing.quiet rewritten rfl (rewritten.pools fresh)
    · rw [applied] at outcome
      have positive : outside.nowNs ≠ 0 := by
        simp only [goodReading, Bool.and_eq_true, decide_eq_true_eq] at reading
        exact fun zero => UInt64.lt_irrefl 0 (zero ▸ reading.1.2)
      have accepted : (fun streamId =>
          if (applyAnnounce history.entries announce outside).1 = .applied ∧ streamId = announce.streamId then
            some outside.nowNs
          else history.accepted streamId) = fun streamId =>
            if streamId = announce.streamId then some outside.nowNs else history.accepted streamId := by
        funext streamId
        simp only [outcome, true_and]
      rw [accepted]
      exact passing.announced rewritten time positive pools
    · rw [← outcome] at unapplied
      rw [unaccepted unapplied]
      apply passing.quiet rewritten time
      intro counted
      rw [empty] at counted
      cases counted

/-- A beacon that does not move the time of its entry keeps the registry fresh. -/
theorem fresh_dataSource (fresh : Fresh config history) {announce : DataSourceAnnounce} {outside : Outside}
    (reading : goodReading history.clockNs outside.nowNs = true)
    (steady : history.steady (.act (.dataSource announce outside)) = true)
    (stepped : history.step config (.act (.dataSource announce outside)) = some after) : Fresh config after := by
  have passing := fresh.tick reading
  have shape : after = { history with
      entries := (applyDataSource history.entries announce outside).2, clockNs := outside.nowNs } :=
    (Option.some.inj stepped).symm
  rw [shape]
  rcases applyDataSource_rewrites fresh.distinct announce outside with same | ⟨base, nonzero, current, rewritten⟩
  · rw [same]
    exact passing
  · rw [History.steady, beq_eq_false_iff_ne.mpr nonzero, Bool.false_or] at steady
    have held := (meets_rewritten fresh.distinct nonzero steady rewritten).2
    rw [current, Bool.false_or, beq_iff_eq] at held
    have pools := rewritten.pools fresh
    exact passing.quiet rewritten held.symm pools

/-- Tags that do not move the time of their entry keep the registry fresh. -/
theorem fresh_setTags (fresh : Fresh config history) {streamId : UInt32} {tags : List (Option Text)}
    {outside : TagOutside} (reading : goodReading history.clockNs outside.nowNs = true)
    (steady : history.steady (.act (.setTags streamId tags outside)) = true)
    (stepped : history.step config (.act (.setTags streamId tags outside)) = some after) : Fresh config after := by
  have passing := fresh.tick reading
  have shape : after = { history with
      entries := (setTags history.entries streamId tags outside).2, clockNs := outside.nowNs } :=
    (Option.some.inj stepped).symm
  rw [shape]
  rcases setTags_rewrites fresh.distinct streamId tags outside with
    ⟨same, -⟩ | ⟨base, nonzero, ⟨-, granted, rewritten⟩ | ⟨-, -, rewritten⟩⟩
  · rw [same]
    exact passing
  · rw [History.steady, beq_eq_false_iff_ne.mpr nonzero, granted, Bool.false_or, Bool.or_false] at steady
    have held := (meets_rewritten fresh.distinct nonzero steady rewritten).2
    rw [beq_iff_eq] at held
    have pools := rewritten.pools fresh
    exact passing.quiet rewritten held.symm pools
  · have pools := rewritten.pools fresh
    exact passing.quiet rewritten rfl pools

/-- A query prunes the registry at its first reading. -/
theorem fresh_query (fresh : Fresh config history) {request : Request} {outside : QueryOutside}
    (timely : history.timely (.act (.query request outside)) = true)
    (stepped : history.step config (.act (.query request outside)) = some after) : Fresh config after := by
  obtain ⟨first, second⟩ := Bool.and_eq_true_iff.mp timely
  obtain ⟨answer, asked, same⟩ := Option.map_eq_some_iff.mp stepped
  rw [← same, query_entries asked]
  exact (fresh.tick first).prune.tick second

theorem fresh_step {moment : Moment} (fresh : Fresh config history) (timely : history.timely moment = true)
    (steady : history.steady moment = true) (stepped : history.step config moment = some after) :
    Fresh config after := by
  cases moment with
  | prune nowNs =>
      have shape := (Option.some.inj stepped).symm
      rw [shape]
      exact (fresh.tick timely).prune
  | act action =>
      cases action with
      | announce announce outside => exact fresh_announce fresh timely steady stepped
      | dataSource announce outside => exact fresh_dataSource fresh timely steady stepped
      | setTags streamId tags outside => exact fresh_setTags fresh timely steady stepped
      | query request outside => exact fresh_query fresh timely stepped

end Step

section Answer

variable {config : Config} {history : History} {nowNs : UInt64}

theorem live_iff {streamId : UInt32} : history.live config nowNs streamId = true ↔
    ∃ acceptedNs, history.accepted streamId = some acceptedNs ∧
      nowNs.toNat ≤ acceptedNs.toNat + windowNs config := by
  rw [History.live, Option.any_eq_true]
  simp only [decide_eq_true_eq]

/-- A stream that is live has an entry with the time of its announce. -/
theorem Fresh.live_entry (fresh : Fresh config history) (later : history.clockNs ≤ nowNs) {streamId : UInt32}
    (live : history.live config nowNs streamId = true) : ∃ entry ∈ history.entries, entry.streamId = streamId ∧
      history.accepted streamId = some entry.lastAnnounceNs ∧ entry.lastAnnounceNs ≠ 0 := by
  obtain ⟨acceptedNs, known, young⟩ := live_iff.mp live
  rcases fresh.kept streamId acceptedNs known with ⟨entry, present, own, stamped⟩ | past
  · refine ⟨entry, present, own, ?_, ?_⟩
    · rw [stamped, known]
    · rw [stamped]
      exact (fresh.bounds streamId acceptedNs known).1
  · have order := UInt64.le_iff_toNat_le.mp later
    omega

/-- An entry is shown when its stream is live and it passes the filters. -/
theorem Fresh.shown (fresh : Fresh config history) (later : history.clockNs ≤ nowNs) {request : Request}
    {entry : Entry} (present : entry ∈ history.entries) : entry.shown config nowNs request =
      (history.live config nowNs entry.streamId && entry.matches request) := by
  rw [Entry.shown]
  congr 1
  rw [Bool.eq_iff_iff, Bool.not_eq_true', Bool.or_eq_false_iff, beq_eq_false_iff_ne, decide_eq_false_iff_not]
  constructor
  · rintro ⟨nonzero, within⟩
    have known := fresh.times entry present nonzero
    rw [past_window (fresh.small known)] at within
    exact live_iff.mpr ⟨_, known, Nat.not_lt.mp within⟩
  · intro live
    obtain ⟨other, among, own, known, nonzero⟩ := fresh.live_entry later live
    obtain ⟨acceptedNs, same, young⟩ := live_iff.mp live
    cases known.symm.trans same
    rw [entry_unique fresh.distinct present among own.symm, past_window (fresh.small known)]
    exact ⟨nonzero, Nat.not_lt.mpr young⟩

/-- An entry is pruned when it carries an old time of an accepted announce. -/
theorem Fresh.expired (fresh : Fresh config history) {entry : Entry} (present : entry ∈ history.entries) :
    entry.expired config nowNs = history.outdated config nowNs entry := by
  rw [Entry.expired, History.outdated, Bool.eq_iff_iff, Bool.and_eq_true, Bool.and_eq_true, bne_iff_ne, beq_iff_eq,
    decide_eq_true_eq, decide_eq_true_eq]
  constructor
  · rintro ⟨nonzero, old⟩
    have known := fresh.times entry present nonzero
    exact ⟨known, (past_window (fresh.small known)).mp old⟩
  · rintro ⟨known, old⟩
    exact ⟨(fresh.bounds _ _ known).1, (past_window (fresh.small known)).mpr old⟩

/-- Results are filled in for all entries when their pools are there. -/
theorem fillResults_complete (config : Config) (outside : QueryOutside) (index : Nat) {entries : List Entry}
    (pools : ∀ entry ∈ entries, entry.poolCount > 0 → entry.pools.isSome = true) :
    ∃ results, fillResults config outside index entries = some results ∧
      results.map Result.streamId = entries.map Entry.streamId := by
  induction entries generalizing index with
  | nil => exact ⟨[], rfl, rfl⟩
  | cons entry rest hypothesis =>
      obtain ⟨results, filled, named⟩ := hypothesis (index + 1) fun other member =>
        pools other (List.mem_cons_of_mem _ member)
      have first : ∃ result, entry.result config outside index = some result := by
        unfold Entry.result
        dsimp only
        split
        next counted =>
          rw [Bool.and_eq_true, decide_eq_true_eq] at counted
          obtain ⟨there, known⟩ := Option.isSome_iff_exists.mp (pools entry List.mem_cons_self counted.1)
          rw [known]
          exact ⟨_, rfl⟩
        · exact ⟨_, rfl⟩
      obtain ⟨result, here⟩ := first
      refine ⟨result :: results, ?_, ?_⟩
      · rw [fillResults, here, filled]
        rfl
      · rw [List.map_cons, List.map_cons, named, (Entry.result_some here).1]

/-- An entry of a live stream is not pruned before it is shown. -/
theorem Fresh.shown_unexpired (fresh : Fresh config history) {pruneNs : UInt64} (later : pruneNs ≤ nowNs)
    {entry : Entry}
    (present : entry ∈ history.entries) (live : history.live config nowNs entry.streamId = true)
    (order : history.clockNs ≤ nowNs) : entry.expired config pruneNs = false := by
  obtain ⟨other, among, own, known, -⟩ := fresh.live_entry order live
  obtain ⟨acceptedNs, same, young⟩ := live_iff.mp live
  cases known.symm.trans same
  have sooner := UInt64.le_iff_toNat_le.mp later
  rw [Entry.expired, entry_unique fresh.distinct present among own.symm, Bool.and_eq_false_iff]
  right
  rw [decide_eq_false_iff_not, past_window (fresh.small known)]
  omega

/-- The entries that a query shows are those of the live streams that pass the filters. -/
theorem Fresh.filter_shown (fresh : Fresh config history) {request : Request} {outside : QueryOutside}
    (order : history.clockNs ≤ outside.nowNs) (later : outside.pruneNs ≤ outside.nowNs) :
    (pruneExpired config outside.pruneNs history.entries).filter
        (fun entry => entry.shown config outside.nowNs request) =
      history.entries.filter fun entry =>
        history.live config outside.nowNs entry.streamId && entry.matches request := by
  change (history.entries.filter fun entry => !entry.expired config outside.pruneNs).filter _ = _
  rw [List.filter_filter]
  apply List.filter_congr
  intro entry present
  rw [fresh.shown order present]
  cases live : history.live config outside.nowNs entry.streamId with
  | false => rw [Bool.false_and, Bool.false_and]
  | true =>
      rw [fresh.shown_unexpired later present live order]
      exact Bool.and_true _

/-- A query of a fresh registry is exact. -/
theorem Fresh.exact (fresh : Fresh config history) {request : Request} {outside : QueryOutside}
    (timely : history.timely (.act (.query request outside)) = true) (memory : outside.allocates = true) :
    Exact config history request outside := by
  obtain ⟨first, second⟩ := Bool.and_eq_true_iff.mp timely
  have later : outside.pruneNs ≤ outside.nowNs := by
    simp only [goodReading, Bool.and_eq_true, decide_eq_true_eq] at second
    exact second.1.1
  have order : history.clockNs ≤ outside.nowNs := by
    simp only [goodReading, Bool.and_eq_true, decide_eq_true_eq] at first
    exact UInt64.le_trans first.1.1 later
  have shown : (pruneExpired config outside.pruneNs history.entries).filter
      (fun entry => entry.shown config outside.nowNs request) = _ := fresh.filter_shown order later
  have count : (history.matching config request outside.nowNs).length =
      ((pruneExpired config outside.pruneNs history.entries).filter
        fun entry => entry.shown config outside.nowNs request).length := by
    rw [shown, History.matching, List.length_map]
  constructor
  case answers =>
    unfold query
    dsimp only
    rw [count]
    split
    next above =>
      refine ⟨_, rfl, ?_, fun _ => ⟨rfl, rfl⟩⟩
      intro within
      exact absurd above (Nat.not_lt.mpr within)
    next within =>
      split
      next none =>
        refine ⟨_, rfl, ?_, fun above => absurd above within⟩
        intro _
        rw [shown, List.isEmpty_iff] at none
        rw [History.matching, none]
        exact ⟨rfl, rfl⟩
      next some =>
        rw [memory]
        have pools : ∀ entry ∈ (pruneExpired config outside.pruneNs history.entries).filter fun entry =>
            entry.shown config outside.nowNs request, entry.poolCount > 0 → entry.pools.isSome = true := by
          intro entry present
          exact fresh.pools entry (List.mem_filter.mp (List.mem_filter.mp present).1).1
        obtain ⟨results, filled, named⟩ := fillResults_complete config outside 0 pools
        rw [filled]
        refine ⟨_, rfl, ?_, fun above => absurd above within⟩
        intro _
        rw [shown] at named
        exact ⟨rfl, named⟩
  case once => exact fresh.distinct.sublist (List.filter_sublist.map _)
  case complete =>
    intro streamId live
    obtain ⟨entry, present, own, -⟩ := fresh.live_entry order live
    exact ⟨entry, present, own⟩
  case prunes =>
    intro nowNs _
    apply List.filter_congr
    intro entry present
    rw [← fresh.expired present]
    rfl

end Answer

/--
After every run a query shows exactly the matching streams of recent accepted announces, and pruning removes exactly
the outdated entries, as long as nothing but an accepted announce changes the time of an entry.
-/
theorem run_query_live {config : Config} {moments : List Moment} {history : History} {request : Request}
    {outside : QueryOutside}
    (ran : GuardedRun.runWhile (fun state moment => state.timely moment && state.steady moment)
    (History.step config) {}
      moments = some history)
    (timely : history.timely (.act (.query request outside)) = true) (memory : outside.allocates = true) :
    Exact config history request outside := by
  apply Fresh.exact _ timely memory
  apply GuardedRun.keeps (I := Fresh config) _ ran (Fresh.start config)
  intro state moment after fresh met stepped
  obtain ⟨timed, steady⟩ := Bool.and_eq_true_iff.mp met
  exact fresh_step fresh timed steady stepped

def plainBeacon : Moment := .act (.dataSource ⟨7, 1, 1, none⟩ plainOutside)

/-- A stream is announced, described by a beacon and tagged, it expires, and another one is announced. -/
def expiringMoments : List Moment :=
  [.act (.announce (plainAnnounce 1 4) plainOutside), plainBeacon, .act (.setTags 7 [some [97]] plainTags),
    .prune 1000000000,
    .act (.announce { plainAnnounce 1 4 with streamId := 8 } { plainOutside with nowNs := 5000000000 }),
    .prune 5000000000]

def lateQuery : QueryOutside := { plainQuery with pruneNs := 5000000000, nowNs := 5000000000 }

/-- The query finds the second stream, and the first one is pruned. -/
theorem run_query_live_expiring : ∃ history,
    GuardedRun.runWhile (fun state moment => state.timely moment && state.steady moment) (History.step plainConfig) {}
        expiringMoments = some history ∧
      history.entries.map Entry.streamId = [8] ∧ Exact plainConfig history plainRequest lateQuery := by
  have shape : (GuardedRun.runWhile (fun state moment => state.timely moment && state.steady moment)
      (History.step plainConfig) {} expiringMoments).map (fun history =>
        (history.timely (.act (.query plainRequest lateQuery)), history.entries.map Entry.streamId)) =
          some (true, [8]) := by decide +kernel
  obtain ⟨history, ran, facts⟩ := Option.map_eq_some_iff.mp shape
  obtain ⟨timely, entries⟩ := Prod.mk.inj facts
  exact ⟨history, ran, entries, run_query_live ran timely rfl⟩

/-- The history of one beacon. -/
def beaconHistory : History where
  entries := (applyDataSource [] ⟨7, 1, 1, none⟩ plainOutside).2
  clockNs := 100

/-- A beacon alone shows its stream. -/
theorem beacon_shows : ¬ ∀ (config : Config) (moments : List Moment) (history : History) (request : Request)
    (outside : QueryOutside),
    GuardedRun.runWhile History.timely (History.step config) {} moments = some history →
      history.timely (.act (.query request outside)) = true → outside.allocates = true →
        Exact config history request outside := by
  intro claim
  have exact := claim plainConfig [plainBeacon] beaconHistory plainRequest plainQuery
    (by
      rw [GuardedRun.runWhile, if_pos (by decide +kernel)]
      rfl)
    (by decide +kernel) rfl
  obtain ⟨response, answered, within, -⟩ := exact.answers
  have unmatched : beaconHistory.matching plainConfig plainRequest 100 = [] := by decide +kernel
  have results := (within (by rw [show plainQuery.nowNs = 100 from rfl, unmatched]; decide)).2
  have shows : (query plainConfig beaconHistory.entries plainRequest plainQuery).bind (fun answer =>
      answer.1.map fun response => response.results.map Result.streamId) = some [7] := by decide +kernel
  rw [answered] at shows
  change some (response.results.map Result.streamId) = some [7] at shows
  rw [results, show plainQuery.nowNs = 100 from rfl, unmatched] at shows
  cases shows

end TensorPool.Discovery
