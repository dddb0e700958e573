/-
This file shows that a discovery result describes one announce.
-/

import Mathlib.Data.List.Nodup
import TensorPool.Discovery.Service
import TensorPool.Library.GuardedRun

namespace TensorPool.Discovery

/-- The registry remembers the announces that it applied. -/
structure System where
  entries : List Entry := []
  accepted : List PoolAnnounce := []
  deriving DecidableEq, Repr

inductive Action where
  | announce (announce : PoolAnnounce) (outside : Outside)
  | dataSource (announce : DataSourceAnnounce) (outside : Outside)
  | setTags (streamId : UInt32) (tags : List (Option Text)) (outside : TagOutside)
  | query (request : Request) (outside : QueryOutside)

/-- A fault has no outcome. -/
def System.step (config : Config) (system : System) : Action → Option System
  | .announce announce outside =>
      let (outcome, entries) := applyAnnounce system.entries announce outside
      some ⟨entries, if outcome = .applied then system.accepted ++ [announce] else system.accepted⟩
  | .dataSource announce outside =>
    some { system with entries := (applyDataSource system.entries announce outside).2 }
  | .setTags streamId tags outside => some { system with entries := (setTags system.entries streamId tags outside).2 }
  | .query request outside =>
      (query config system.entries request outside).map fun answer => { system with entries := answer.2 }

/-- The pools of the announce fit its ring, and its texts fit their buffers. -/
def PoolAnnounce.whole (announce : PoolAnnounce) : Bool :=
  decide ((announce.headerRegionUri.getD []).length < uriLength) &&
    announce.pools.all fun pool =>
      pool.poolNslots == announce.headerNslots && decide ((pool.regionUri.getD []).length < uriLength)

def PoolAnnounce.unchecked (announce : PoolAnnounce) : Bool :=
  announce.streamId == 0 || announce.headerSlotBytes != Discovery.headerSlotBytes || announce.pools.isEmpty ||
    announce.headerNslots == 0

/-- The update finds an entry that meets the condition, or no entry and no room for one. -/
def System.meets (system : System) (streamId : UInt32) (grows : Bool) (condition : Entry → Bool) : Bool :=
  match findEntry system.entries streamId with
  | some index => condition (system.entries.getD index { streamId := 0 })
  | none => !grows

/--
An announce is refused by its first checks or ignored, or it is whole, current and finds memory for its
pools; a beacon and tags find an entry, whose epoch the beacon does not raise.
-/
def System.sound (system : System) : Action → Bool
  | .announce announce outside =>
      announce.unchecked || system.meets announce.streamId outside.grows (·.newer announce.epoch) ||
        outside.allocates && announce.whole &&
          system.accepted.all fun former =>
            former.streamId != announce.streamId || decide (former.epoch ≤ announce.epoch)
  | .dataSource announce outside =>
      announce.streamId == 0 || system.meets announce.streamId outside.grows (decide <| announce.epoch ≤ ·.epoch)
  | .setTags streamId _ outside => streamId == 0 || system.meets streamId outside.grows fun _ => true
  | .query _ outside => (List.range system.entries.length).all outside.poolsAllocate

def AnnouncedPool.said (pool : AnnouncedPool) : PoolEntry where
  poolId := pool.poolId
  poolNslots := pool.poolNslots
  strideBytes := pool.strideBytes
  regionUri := pool.regionUri.getD []

/-- The fields of a result are those of one accepted announce, and no later epoch was accepted. -/
structure Describes (accepted : List PoolAnnounce) (result : Result) (announce : PoolAnnounce) : Prop where
  known : announce ∈ accepted
  streamId : result.streamId = announce.streamId
  epoch : result.epoch = announce.epoch
  layoutVersion : result.layoutVersion = announce.layoutVersion
  headerNslots : result.headerNslots = announce.headerNslots
  headerSlotBytes : result.headerSlotBytes = announce.headerSlotBytes
  headerRegionUri : result.headerRegionUri = announce.headerRegionUri.getD []
  poolCount : result.poolCount = announce.pools.length
  pools : result.pools = some (announce.pools.map AnnouncedPool.said)
  nonempty : announce.pools ≠ []
  nslots : ∀ pool ∈ announce.pools, pool.poolNslots = result.headerNslots
  newest : ∀ other ∈ accepted, other.streamId = result.streamId → other.epoch ≤ result.epoch

/-- A found entry is that of the stream. -/
theorem findEntry_some {entries : List Entry} {streamId : UInt32} {index : Nat}
    (found : findEntry entries streamId = some index) :
    ∃ entry, entries[index]? = some entry ∧ entry.streamId = streamId := by
  unfold findEntry at found
  split at found
  · cases found
  · obtain ⟨inside, same, -⟩ := List.findIdx?_eq_some_iff_getElem.mp found
    exact ⟨entries[index], List.getElem?_eq_getElem inside, beq_iff_eq.mp same⟩

/-- When none is found no entry is that of the stream. -/
theorem findEntry_none {entries : List Entry} {streamId : UInt32} (nonzero : streamId ≠ 0)
    (missing : findEntry entries streamId = none) : ∀ entry ∈ entries, entry.streamId ≠ streamId := by
  intro entry present
  rw [findEntry, if_neg nonzero, List.findIdx?_eq_none_iff] at missing
  exact beq_eq_false_iff_ne.mp (missing entry present)

/-- A reserved place holds the entry of its stream, which is found or new. -/
structure Reserved (entries : List Entry) (streamId : UInt32) (grows : Bool) (index : Nat) (grown : List Entry)
    (base : Entry) : Prop where
  here : grown.getD index { streamId := 0 } = base
  own : base.streamId = streamId
  source : (base ∈ entries ∧ findEntry entries streamId = some index ∧ grown = entries) ∨
    (findEntry entries streamId = none ∧ base = { streamId := streamId } ∧ grows = true)
  distinct : ∀ new : Entry, new.streamId = streamId → ((grown.set index new).map Entry.streamId).Nodup
  others : ∀ (new entry : Entry), entry ∈ grown.set index new →
    entry = new ∨ entry ∈ entries ∧ entry.streamId ≠ streamId

/-- A written entry replaces the one of its stream. -/
theorem mem_of_mem_set {entries : List Entry} {index : Nat} {base new entry : Entry}
    (distinct : (entries.map Entry.streamId).Nodup) (here : entries[index]? = some base)
    (present : entry ∈ entries.set index new) : entry = new ∨ entry ∈ entries ∧ entry.streamId ≠ base.streamId := by
  obtain ⟨place, there⟩ := List.mem_iff_getElem?.mp present
  rw [List.getElem?_set] at there
  split at there
  · split at there
    · exact .inl (Option.some.inj there).symm
    · cases there
  next apart =>
    refine .inr ⟨List.mem_of_getElem? there, fun same => apart ?_⟩
    have left : (entries.map Entry.streamId)[index]? = some base.streamId := by rw [List.getElem?_map, here]; rfl
    have right : (entries.map Entry.streamId)[place]? = some base.streamId := by
      rw [List.getElem?_map, there, ← same]
      rfl
    obtain ⟨inside, -⟩ := List.getElem?_eq_some_iff.mp left
    exact (List.getElem?_inj inside distinct).mp (left.trans right.symm)

/-- A reserved entry is that of the stream or a new one. -/
theorem reserveEntry_some {entries grown : List Entry} {streamId : UInt32} {grows : Bool} {index : Nat}
    (nonzero : streamId ≠ 0) (distinct : (entries.map Entry.streamId).Nodup)
    (reserved : reserveEntry entries streamId grows = some (index, grown)) :
    ∃ base, Reserved entries streamId grows index grown base := by
  unfold reserveEntry at reserved
  split at reserved
  next place found =>
    cases reserved
    obtain ⟨base, here, same⟩ := findEntry_some found
    refine ⟨base, ?_, same, .inl ⟨List.mem_of_getElem? here, found, rfl⟩, fun new own => ?_,
      fun new entry present => ?_⟩
    · rw [List.getD_eq_getElem?_getD, here]
      rfl
    · have place : (entries.map Entry.streamId)[index]? = some base.streamId := by
        rw [List.getElem?_map, here, Option.map_some]
      obtain ⟨inside, is⟩ := List.getElem?_eq_some_iff.mp place
      rw [List.map_set, own, ← same, ← is, List.set_getElem_self]
      exact distinct
    · rw [← same]
      exact mem_of_mem_set distinct here present
  next missing =>
    split at reserved
    next room =>
      cases reserved
      have apart := findEntry_none nonzero missing
      refine ⟨{ streamId := streamId }, ?_, rfl, .inr ⟨missing, rfl, room⟩, fun new own => ?_,
        fun new entry present => ?_⟩
      · rw [List.getD_eq_getElem?_getD, List.getElem?_concat_length]
        rfl
      · rw [List.set_append_right _ _ (Nat.le_refl _), Nat.sub_self, List.set_cons_zero, List.map_append]
        refine List.nodup_append.mpr ⟨distinct, List.nodup_singleton _, ?_⟩
        intro left among right single
        rw [List.mem_singleton.mp single, own]
        obtain ⟨entry, present, rfl⟩ := List.mem_map.mp among
        exact apart entry present
      · rw [List.set_append_right _ _ (Nat.le_refl _), Nat.sub_self, List.set_cons_zero] at present
        cases List.mem_append.mp present with
        | inl old => exact .inr ⟨old, apart entry old⟩
        | inr last => exact .inl (List.mem_singleton.mp last)
    · cases reserved

/-- The entry shows an accepted announce, and no later epoch of its stream was accepted. -/
structure Shows (accepted : List PoolAnnounce) (entry : Entry) (announce : PoolAnnounce) : Prop where
  known : announce ∈ accepted
  streamId : entry.streamId = announce.streamId
  epoch : entry.epoch = announce.epoch
  layoutVersion : entry.layoutVersion = announce.layoutVersion
  headerNslots : entry.headerNslots = announce.headerNslots
  headerSlotBytes : entry.headerSlotBytes = announce.headerSlotBytes
  headerRegionUri : entry.headerRegionUri = announce.headerRegionUri.getD []
  poolCount : entry.poolCount = announce.pools.length
  pools : entry.pools = some (announce.pools.map AnnouncedPool.said)
  nonempty : announce.pools ≠ []
  whole : announce.whole = true
  newest : ∀ other ∈ accepted, other.streamId = entry.streamId → other.epoch ≤ entry.epoch

structure Consistent (system : System) : Prop where
  distinct : (system.entries.map Entry.streamId).Nodup
  shows : ∀ entry ∈ system.entries, ∃ announce, Shows system.accepted entry announce

/-- A copy of a text that fits is the text. -/
theorem copyInto_fits {size : Nat} {text : Text} (fits : text.length < size) : copyInto size text = text :=
  List.take_of_length_le (by omega)

/-- An announce is whole when its texts fit and its pools have the slots of the header. -/
theorem PoolAnnounce.whole_iff {announce : PoolAnnounce} : announce.whole = true ↔
    (announce.headerRegionUri.getD []).length < uriLength ∧ ∀ pool ∈ announce.pools,
      pool.poolNslots = announce.headerNslots ∧ (pool.regionUri.getD []).length < uriLength := by
  simp only [PoolAnnounce.whole, Bool.and_eq_true, decide_eq_true_eq, List.all_eq_true, beq_iff_eq]

/-- The pools of a whole announce are entered as they were said. -/
theorem whole_pools {announce : PoolAnnounce} (whole : announce.whole = true) :
    announce.pools.map AnnouncedPool.entry = announce.pools.map AnnouncedPool.said := by
  apply List.map_congr_left
  intro pool present
  obtain ⟨-, fits⟩ := (PoolAnnounce.whole_iff.mp whole).2 pool present
  rw [AnnouncedPool.entry, copyInto_fits fits]
  rfl

/-- A whole announce that is not older is applied, and its entry shows it. -/
theorem Entry.announce_whole {entry : Entry} {announce : PoolAnnounce} {outside : Outside}
    (current : entry.newer announce.epoch = false) (allocates : outside.allocates = true)
    (whole : announce.whole = true) :
    entry.announce announce outside = (.applied,
      { entry.rewrite announce with
        pools := some (announce.pools.map AnnouncedPool.said), lastAnnounceNs := outside.nowNs }) := by
  have matching : (announce.pools.any fun pool => pool.poolNslots != announce.headerNslots) = false := by
    rw [List.any_eq_false]
    intro pool present
    rw [((PoolAnnounce.whole_iff.mp whole).2 pool present).1, bne_self_eq_false]
    exact Bool.false_ne_true
  unfold Entry.announce
  rw [current, allocates, matching, whole_pools whole]
  rfl

/-- The ways of an announce through the registry. -/
inductive Applies (entries : List Entry) (announce : PoolAnnounce) (outside : Outside) : Outcome → List Entry → Prop
  | unchecked (text : String) (bad : announce.unchecked = true) :
    Applies entries announce outside (.refused text) entries
  | crowded (text : String) (full : reserveEntry entries announce.streamId outside.grows = none) :
      Applies entries announce outside (.refused text) entries
  | reserved {index : Nat} {grown : List Entry} (passed : announce.unchecked = false)
      (reserves : reserveEntry entries announce.streamId outside.grows = some (index, grown)) :
      Applies entries announce outside ((grown.getD index { streamId := 0 }).announce announce outside).1
        (grown.set index ((grown.getD index { streamId := 0 }).announce announce outside).2)

/-- An announce is refused, or it writes one entry. -/
theorem applyAnnounce_cases (entries : List Entry) (announce : PoolAnnounce) (outside : Outside) :
    Applies entries announce outside (applyAnnounce entries announce outside).1
      (applyAnnounce entries announce outside).2 := by
  unfold applyAnnounce
  split
  next zero => exact .unchecked _ (by simp [PoolAnnounce.unchecked, zero])
  next nonzero =>
    split
    next bytes => exact .unchecked _ (by simp [PoolAnnounce.unchecked, bytes])
    next bytes =>
      split
      next empty =>
        apply Applies.unchecked
        rcases empty with pools | nslots
        · simp [PoolAnnounce.unchecked, pools]
        · simp [PoolAnnounce.unchecked, nslots]
      next filled =>
        have passed : announce.unchecked = false := by
          rw [not_or] at filled
          rw [Classical.not_not] at bytes
          simp [PoolAnnounce.unchecked, nonzero, bytes, filled]
        split
        next full => exact .crowded _ full
        next index grown reserves => exact .reserved passed reserves

namespace Consistent

variable {system : System}

/-- An entry keeps what it shows when later announces are of other streams. -/
theorem later {accepted : List PoolAnnounce} {entry : Entry} {announce added : PoolAnnounce}
    (shows : Shows accepted entry announce) (apart : entry.streamId ≠ added.streamId) :
    Shows (accepted ++ [added]) entry announce :=
  { shows with
    known := List.mem_append_left _ shows.known
    newest := by
      intro other present same
      cases List.mem_append.mp present with
      | inl former => exact shows.newest other former same
      | inr last =>
          rw [List.mem_singleton.mp last] at same
          exact absurd same.symm apart }

/-- A new entry that shows what the found one did keeps the registry consistent. -/
theorem replace (consistent : Consistent system) {streamId : UInt32} {grows : Bool} {index : Nat}
    {grown : List Entry} {base new : Entry} (reserved : Reserved system.entries streamId grows index grown base)
    (own : new.streamId = streamId) (shows : ∃ announce, Shows system.accepted new announce) :
    Consistent { system with entries := grown.set index new } where
  distinct := reserved.distinct new own
  shows := by
    intro entry present
    cases reserved.others new entry present with
    | inl same =>
        rw [same]
        exact shows
    | inr old => exact consistent.shows entry old.1

/-- The condition of an update speaks of the entry that it reserves. -/
theorem meets_reserved {streamId : UInt32} {grows : Bool} {condition : Entry → Bool} {index : Nat}
    {grown : List Entry} {base : Entry} (reserved : Reserved system.entries streamId grows index grown base)
    (met : system.meets streamId grows condition = true) : base ∈ system.entries ∧ condition base = true := by
  unfold System.meets at met
  rcases reserved.source with ⟨present, found, same⟩ | ⟨missing, -, room⟩
  · rw [found] at met
    dsimp only at met
    rw [← same, reserved.here] at met
    exact ⟨present, met⟩
  · rw [missing, room] at met
    cases met

/-- Every announce keeps the registry consistent with what it has applied. -/
theorem announce (consistent : Consistent system) {announce : PoolAnnounce} {outside : Outside}
    (sound : system.sound (.announce announce outside) = true) {outcome : Outcome} {entries : List Entry}
    (applies : Applies system.entries announce outside outcome entries) :
    Consistent ⟨entries, if outcome = .applied then system.accepted ++ [announce] else system.accepted⟩ := by
  cases applies with
  | unchecked => exact consistent
  | crowded => exact consistent
  | @reserved index grown passed reserves =>
      have nonzero : announce.streamId ≠ 0 := by
        intro zero
        rw [PoolAnnounce.unchecked, zero] at passed
        cases passed
      obtain ⟨base, reserved⟩ := reserveEntry_some nonzero consistent.distinct reserves
      rw [reserved.here]
      rw [System.sound, passed, Bool.false_or, Bool.or_eq_true] at sound
      by_cases older : base.newer announce.epoch = true
      · have kept : base.announce announce outside = (.ignored, base) := if_pos older
        rw [kept]
        have among : base ∈ system.entries := by
          rcases reserved.source with ⟨present, -⟩ | ⟨-, fresh, -⟩
          · exact present
          · rw [fresh] at older
            cases older
        exact consistent.replace reserved reserved.own (consistent.shows base among)
      · have current : base.newer announce.epoch = false := Bool.eq_false_iff.mpr older
        have fine : (outside.allocates = true ∧ announce.whole = true) ∧
            (system.accepted.all fun former =>
              former.streamId != announce.streamId || decide (former.epoch ≤ announce.epoch)) = true := by
          rcases sound with met | fine
          · exact absurd (meets_reserved reserved met).2 older
          · rw [Bool.and_eq_true, Bool.and_eq_true] at fine
            exact fine
        obtain ⟨⟨allocates, whole⟩, newest⟩ := fine
        rw [Entry.announce_whole current allocates whole]
        dsimp only
        rw [if_pos rfl]
        constructor
        · exact reserved.distinct _ reserved.own
        · intro entry present
          cases reserved.others _ entry present with
          | inl same =>
              refine ⟨announce, ?_⟩
              rw [same]
              refine ⟨List.mem_append_right _ (List.mem_singleton_self _), reserved.own, rfl, rfl, rfl, rfl, ?_,
                rfl, rfl, ?_, whole, ?_⟩
              · exact copyInto_fits (PoolAnnounce.whole_iff.mp whole).1
              · intro empty
                rw [PoolAnnounce.unchecked, empty] at passed
                simp at passed
              · intro other among own
                cases List.mem_append.mp among with
                | inl former =>
                    have either := List.all_eq_true.mp newest other former
                    rw [Bool.or_eq_true, bne_iff_ne, decide_eq_true_iff] at either
                    exact either.resolve_left (Classical.not_not.mpr (own.trans reserved.own))
                | inr last =>
                    rw [List.mem_singleton.mp last]
                    exact UInt64.le_refl _
          | inr old =>
              obtain ⟨shown, shows⟩ := consistent.shows entry old.1
              exact ⟨shown, later shows old.2⟩

/-- A beacon of the shown epoch changes only what no announce says. -/
theorem dataSource (consistent : Consistent system) {announce : DataSourceAnnounce} {outside : Outside}
    (sound : system.sound (.dataSource announce outside) = true) :
    Consistent { system with entries := (applyDataSource system.entries announce outside).2 } := by
  unfold applyDataSource
  split
  · exact consistent
  next nonzero =>
    split
    · exact consistent
    next index grown reserves =>
      obtain ⟨base, reserved⟩ := reserveEntry_some nonzero consistent.distinct reserves
      dsimp only
      rw [reserved.here]
      rw [System.sound, Bool.or_eq_true, beq_iff_eq] at sound
      obtain ⟨among, notNewer⟩ := meets_reserved reserved (sound.resolve_left nonzero)
      rw [decide_eq_true_iff] at notNewer
      split
      next older =>
        rcases reserved.source with ⟨-, -, same⟩ | ⟨-, fresh, -⟩
        · rw [same]
          exact consistent
        · rw [fresh] at older
          cases older
      next current =>
        obtain ⟨shown, shows⟩ := consistent.shows base among
        refine consistent.replace reserved reserved.own ⟨shown, ?_⟩
        have level : announce.epoch = base.epoch := by
          by_cases zero : base.epoch = 0
          · rw [zero] at notNewer ⊢
            exact UInt64.le_antisymm notNewer (UInt64.zero_le)
          · simp only [Entry.newer, Bool.and_eq_true, bne_iff_ne, ne_eq, zero, not_false_eq_true, true_and,
              decide_eq_true_eq, UInt64.not_lt] at current
            exact UInt64.le_antisymm notNewer current
        exact { shows with
          epoch := level.trans shows.epoch
          newest := fun other present same => level ▸ shows.newest other present same }

/-- Sound tags keep the table consistent. -/
theorem setTags (consistent : Consistent system) {streamId : UInt32} {tags : List (Option Text)}
    {outside : TagOutside} (sound : system.sound (.setTags streamId tags outside) = true) :
    Consistent { system with entries := (setTags system.entries streamId tags outside).2 } := by
  unfold Discovery.setTags
  split
  · exact consistent
  next nonzero =>
    split
    · exact consistent
    next index grown reserves =>
      obtain ⟨base, reserved⟩ := reserveEntry_some nonzero consistent.distinct reserves
      dsimp only
      rw [reserved.here]
      rw [System.sound, Bool.or_eq_true, beq_iff_eq] at sound
      obtain ⟨among, -⟩ := meets_reserved reserved (sound.resolve_left nonzero)
      obtain ⟨shown, shows⟩ := consistent.shows base among
      have tagged : ∀ (tags : List Text) (nowNs : UInt64), Consistent { system with
          entries := grown.set index { base with tags := tags, lastAnnounceNs := nowNs } } := by
        intro tags nowNs
        exact consistent.replace reserved reserved.own ⟨shown, { shows with }⟩
      split
      · exact tagged [] outside.nowNs
      · split
        · exact tagged [] base.lastAnnounceNs
        · split
          · exact tagged _ outside.nowNs
          · exact tagged [] base.lastAnnounceNs

/-- The registry forgets expired entries and keeps the others as they are. -/
theorem filter (consistent : Consistent system) (kept : Entry → Bool) :
    Consistent { system with entries := system.entries.filter kept } where
  distinct := consistent.distinct.sublist (List.filter_sublist.map _)
  shows := fun entry present => consistent.shows entry (List.mem_filter.mp present).1

end Consistent

section Results

variable (config : Config) {outside : QueryOutside} {accepted : List PoolAnnounce}

/-- The result of an entry describes the announce that the entry shows. -/
theorem Shows.result {entry : Entry} {announce : PoolAnnounce} (shows : Shows accepted entry announce)
    {index : Nat} (allocates : outside.poolsAllocate index = true) :
    ∃ result, entry.result config outside index = some result ∧ Describes accepted result announce := by
  obtain ⟨uri, fits⟩ := PoolAnnounce.whole_iff.mp shows.whole
  have counted : decide (entry.poolCount > 0) = true := by
    rw [decide_eq_true_iff, shows.poolCount]
    exact List.length_pos_iff.mpr shows.nonempty
  have copied : (announce.pools.map AnnouncedPool.said).map
      (fun pool => { pool with regionUri := copyInto uriLength pool.regionUri }) =
        announce.pools.map AnnouncedPool.said := by
    rw [List.map_map]
    apply List.map_congr_left
    intro pool present
    rw [Function.comp_apply, AnnouncedPool.said, copyInto_fits (fits pool present).2]
  unfold Entry.result
  rw [counted, allocates, shows.pools]
  refine ⟨_, rfl, shows.known, shows.streamId, shows.epoch, shows.layoutVersion, shows.headerNslots,
    shows.headerSlotBytes, ?_, shows.poolCount, congrArg some copied, shows.nonempty, ?_, shows.newest⟩
  · change copyInto uriLength entry.headerRegionUri = _
    rw [shows.headerRegionUri, copyInto_fits uri]
  · intro pool present
    exact (fits pool present).1.trans shows.headerNslots.symm

/-- The results describe the announces that the entries show. -/
theorem fillResults_describe {entries : List Entry} (index : Nat)
    (shows : ∀ entry ∈ entries, ∃ announce, Shows accepted entry announce)
    (allocates : ∀ place < index + entries.length, outside.poolsAllocate place = true) :
    ∃ results, fillResults config outside index entries = some results ∧
      ∀ result ∈ results, ∃ announce, Describes accepted result announce := by
  induction entries generalizing index with
  | nil => exact ⟨[], rfl, nofun⟩
  | cons entry rest hypothesis =>
      obtain ⟨announce, shown⟩ := shows entry List.mem_cons_self
      rw [List.length_cons] at allocates
      obtain ⟨result, filled, describes⟩ :=
        shown.result config (allocates index (by omega))
      obtain ⟨results, others, described⟩ := hypothesis (index + 1)
        (fun entry present => shows entry (List.mem_cons_of_mem _ present)) fun place below =>
          allocates place (by omega)
      refine ⟨result :: results, ?_, List.forall_mem_cons.mpr ⟨⟨announce, describes⟩, described⟩⟩
      rw [fillResults, filled, others]
      rfl

/-- A query of a consistent registry describes accepted announces, and it keeps the registry consistent. -/
theorem query_describes (config : Config) {system : System} (consistent : Consistent system) (request : Request)
    (memory : system.sound (.query request outside) = true) :
    ∃ answer, query config system.entries request outside =
        some (answer, pruneExpired config outside.pruneNs system.entries) ∧
      ∀ response, answer = some response → ∀ result ∈ response.results,
        ∃ announce, Describes system.accepted result announce := by
  have pruned := consistent.filter fun entry =>
    !(entry.lastAnnounceNs != 0 && decide (outside.pruneNs > entry.lastAnnounceNs + expiryNs config))
  have fewer : (pruneExpired config outside.pruneNs system.entries).length ≤ system.entries.length :=
    List.length_filter_le ..
  change Consistent { system with entries := pruneExpired config outside.pruneNs system.entries } at pruned
  unfold query
  dsimp only
  generalize pruneExpired config outside.pruneNs system.entries = entries at pruned fewer
  split
  · refine ⟨_, rfl, fun response same => ?_⟩
    cases same
    nofun
  · split
    · refine ⟨_, rfl, fun response same => ?_⟩
      cases same
      nofun
    · split
      · exact ⟨none, rfl, nofun⟩
      · have shown : (entries.filter fun entry => entry.shown config outside.nowNs request).length ≤ entries.length :=
          List.length_filter_le ..
        have allocates : ∀ place < 0 + (entries.filter fun entry => entry.shown config outside.nowNs request).length,
            outside.poolsAllocate place = true := by
          intro place below
          exact List.all_eq_true.mp memory place (List.mem_range.mpr (by omega))
        obtain ⟨results, filled, described⟩ := fillResults_describe config 0
          (fun entry present => pruned.shows entry (List.mem_filter.mp present).1) allocates
        rw [filled]
        refine ⟨_, rfl, fun response same => ?_⟩
        cases same
        exact described

end Results

/-- Sound steps keep the registry consistent. -/
theorem Consistent.step {config : Config} {system after : System} {action : Action} (consistent : Consistent system)
    (sound : system.sound action = true) (stepped : system.step config action = some after) : Consistent after := by
  cases action with
  | announce announce outside =>
      cases stepped
      exact consistent.announce sound (applyAnnounce_cases system.entries announce outside)
  | dataSource announce outside =>
      cases stepped
      exact consistent.dataSource sound
  | setTags streamId tags outside =>
      cases stepped
      exact consistent.setTags sound
  | query request outside =>
      obtain ⟨answer, asked, -⟩ := query_describes config consistent request sound
      rw [System.step, asked] at stepped
      cases stepped
      exact consistent.filter _

/-- A sound run ends in a consistent table. -/
theorem consistent_run {config : Config} {actions : List Action} {system : System}
    (ran : GuardedRun.runWhile System.sound (System.step config) {} actions = some system) : Consistent system :=
  GuardedRun.keeps (fun _ _ _ consistent sound stepped => consistent.step sound stepped) ran
    ⟨List.nodup_nil, nofun⟩

/--
In every run of sound steps a query answers, and each of its results describes one accepted announce of
its stream with no later one.
-/
theorem run_describes (config : Config) (actions : List Action) (system : System)
    (ran : GuardedRun.runWhile System.sound (System.step config) {} actions = some system) (request : Request)
    (outside : QueryOutside) (memory : system.sound (.query request outside) = true) :
    ∃ answer entries, query config system.entries request outside = some (answer, entries) ∧
      ∀ response, answer = some response →
        (∀ result ∈ response.results, ∃ announce, Describes system.accepted result announce) ∧
        ∀ streamId, (∀ announce ∈ system.accepted, announce.streamId ≠ streamId) →
          ∀ result ∈ response.results, result.streamId ≠ streamId := by
  obtain ⟨answer, asked, describes⟩ := query_describes config (consistent_run ran) request memory
  refine ⟨answer, _, asked, fun response same => ⟨describes response same, fun streamId absent result present => ?_⟩⟩
  obtain ⟨announce, described⟩ := describes response same result present
  rw [described.streamId]
  exact absent announce described.known

/-- A configuration, an environment and announces for runs on fixed inputs. -/
def plainConfig : Config where
  driverInstanceId := [100]
  driverControlChannel := [97]
  driverControlStreamId := 1000
  announcePeriodMs := 1000
  maxResults := 8

def plainOutside : Outside := ⟨true, true, 100⟩

def plainQuery : QueryOutside := ⟨100, 100, true, fun _ => true, fun _ => true, fun _ _ => true⟩

/-- The request of any stream. -/
def plainRequest : Request := ⟨1, 1, none, 1, nullU32, nullU32, nullU64, none, []⟩

def plainAnnounce (epoch : UInt64) (poolNslots : UInt32) : PoolAnnounce where
  streamId := 7
  producerId := 1
  epoch := epoch
  layoutVersion := 1
  headerNslots := 4
  headerSlotBytes := 256
  headerRegionUri := some [104]
  pools := [⟨1, poolNslots, 64, some [112]⟩]

theorem run_describes_plain :
    ∃ (system : System) (answer : Option Response) (entries : List Entry),
      query plainConfig system.entries plainRequest plainQuery = some (answer, entries) ∧
        (answer.map fun response => response.results.length) = some 1 ∧
      ∀ response, answer = some response →
        (∀ result ∈ response.results, ∃ announce, Describes system.accepted result announce) ∧
        ∀ streamId, (∀ announce ∈ system.accepted, announce.streamId ≠ streamId) →
          ∀ result ∈ response.results, result.streamId ≠ streamId := by
  have outcome : (GuardedRun.runWhile System.sound (System.step plainConfig) {}
      [.announce (plainAnnounce 1 4) plainOutside, .announce (plainAnnounce 2 4) plainOutside]).map (fun system =>
        (system.sound (.query plainRequest plainQuery),
          (query plainConfig system.entries plainRequest plainQuery).map fun answer =>
            answer.1.map fun response => response.results.length)) = some (true, some (some 1)) := by decide +kernel
  obtain ⟨system, ran, facts⟩ := Option.map_eq_some_iff.mp outcome
  obtain ⟨memory, shown⟩ := Prod.mk.inj facts
  obtain ⟨answer, entries, asked, described⟩ := run_describes plainConfig _ system ran plainRequest plainQuery memory
  rw [asked] at shown
  exact ⟨system, answer, entries, asked, Option.some.inj shown, described⟩

/-- The first result of a query after these actions. -/
def firstResult (actions : List Action) : Option (System × Result) := do
  let system ← GuardedRun.run (System.step plainConfig) {} actions
  let (answer, _) ← query plainConfig system.entries plainRequest plainQuery
  let response ← answer
  let result ← response.results.head?
  some (system, result)

/-- A refused announce and a beacon alone both show a result that no announce describes. -/
theorem refused_announce_shown :
    ((applyAnnounce (applyAnnounce [] (plainAnnounce 1 4) plainOutside).2 (plainAnnounce 2 5) plainOutside).1 =
        .refused "tp_discovery: ignoring announce with pool_nslots mismatch" ∧
      ∃ system result, firstResult
          [.announce (plainAnnounce 1 4) plainOutside, .announce (plainAnnounce 2 5) plainOutside] =
            some (system, result) ∧
        result.epoch = 2 ∧ ∀ announce, ¬ Describes system.accepted result announce) ∧
    ∃ system result, firstResult [.dataSource ⟨7, 1, 1, none⟩ plainOutside] = some (system, result) ∧
      system.accepted = [] := by
  refine ⟨⟨by decide +kernel, ?_⟩, ?_⟩
  · have outcome : (firstResult
        [.announce (plainAnnounce 1 4) plainOutside, .announce (plainAnnounce 2 5) plainOutside]).map
          (fun found => (found.2.epoch, found.2.pools)) = some (2, none) := by decide +kernel
    obtain ⟨⟨system, result⟩, found, facts⟩ := Option.map_eq_some_iff.mp outcome
    obtain ⟨epoch, empty⟩ := Prod.mk.inj facts
    refine ⟨system, result, found, epoch, fun announce described => ?_⟩
    have shown := described.pools
    dsimp only at empty
    rw [empty] at shown
    cases shown
  · have outcome : (firstResult [.dataSource ⟨7, 1, 1, none⟩ plainOutside]).map (fun found => found.1.accepted) =
        some [] := by decide +kernel
    obtain ⟨⟨system, result⟩, found, none⟩ := Option.map_eq_some_iff.mp outcome
    exact ⟨system, result, found, none⟩

end TensorPool.Discovery
