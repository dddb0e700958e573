/-
This file says that each update of the registry rewrites at most the entry of its own stream.
-/

import TensorPool.Discovery.Snapshot

namespace TensorPool.Discovery

/-- The entry of one stream is rewritten, or added when there was none, and the other entries stay. -/
structure Rewritten (entries : List Entry) (streamId : UInt32) (grows : Bool) (base new : Entry)
    (entries' : List Entry) : Prop where
  distinct : (entries'.map Entry.streamId).Nodup
  source : (base ∈ entries ∧ base.streamId = streamId) ∨
    ((∀ entry ∈ entries, entry.streamId ≠ streamId) ∧ base = { streamId := streamId } ∧ grows = true)
  own : new.streamId = streamId
  member : ∀ entry, entry ∈ entries' ↔ entry = new ∨ entry ∈ entries ∧ entry.streamId ≠ streamId

theorem findEntry_isSome {entries : List Entry} {streamId : UInt32} (nonzero : streamId ≠ 0) :
    (findEntry entries streamId).isSome = true ↔ ∃ entry ∈ entries, entry.streamId = streamId := by
  rw [findEntry, if_neg nonzero, List.findIdx?_isSome, List.any_eq_true]
  simp

/-- A write to the place of a stream rewrites the entry of the stream. -/
theorem reserveEntry_rewritten {entries grown : List Entry} {streamId : UInt32} {grows : Bool} {index : Nat}
    (nonzero : streamId ≠ 0) (distinct : (entries.map Entry.streamId).Nodup)
    (reserved : reserveEntry entries streamId grows = some (index, grown)) {new : Entry}
    (own : new.streamId = streamId) :
    Rewritten entries streamId grows (grown.getD index { streamId := 0 }) new (grown.set index new) := by
  obtain ⟨base, place⟩ := reserveEntry_some nonzero distinct reserved
  rw [place.here]
  refine ⟨place.distinct new own, ?_, own, fun entry => ⟨place.others new entry, ?_⟩⟩
  · rcases place.source with ⟨present, -, -⟩ | ⟨missing, fresh, room⟩
    · exact Or.inl ⟨present, place.own⟩
    · exact Or.inr ⟨findEntry_none nonzero missing, fresh, room⟩
  · unfold reserveEntry at reserved
    split at reserved
    next found =>
      cases reserved
      obtain ⟨old, here, same⟩ := findEntry_some found
      obtain ⟨inside, -⟩ := List.getElem?_eq_some_iff.mp here
      rintro (rfl | ⟨present, apart⟩)
      · exact List.mem_set inside entry
      · obtain ⟨other, there⟩ := List.mem_iff_getElem?.mp present
        apply List.mem_iff_getElem?.mpr
        refine ⟨other, ?_⟩
        rw [List.getElem?_set_ne, there]
        rintro rfl
        rw [here] at there
        cases there
        exact apart same
    · split at reserved
      · cases reserved
        rw [List.set_append_right _ _ (Nat.le_refl _), Nat.sub_self, List.set_cons_zero, List.mem_append,
          List.mem_singleton]
        rintro (rfl | ⟨present, -⟩)
        · exact Or.inr rfl
        · exact Or.inl present
      · cases reserved

theorem Entry.announce_streamId (entry : Entry) (announce : PoolAnnounce) (outside : Outside) :
    (entry.announce announce outside).2.streamId = entry.streamId := by
  unfold Entry.announce
  dsimp only
  split
  · rfl
  · split
    · rfl
    · split <;> rfl

theorem Rewritten.base_streamId {entries entries' : List Entry} {streamId : UInt32} {grows : Bool}
    {base new : Entry} (rewritten : Rewritten entries streamId grows base new entries') :
      base.streamId = streamId := by
  rcases rewritten.source with ⟨-, same⟩ | ⟨-, fresh, -⟩
  · exact same
  · rw [fresh]

/-- An announce leaves the registry alone, or it announces to the entry of its stream. -/
theorem applyAnnounce_rewrites {entries : List Entry} (distinct : (entries.map Entry.streamId).Nodup)
    (announce : PoolAnnounce) (outside : Outside) :
    ((applyAnnounce entries announce outside).2 = entries ∧ (applyAnnounce entries announce outside).1 ≠ .applied ∧
      (announce.unchecked = true ∨ findEntry entries announce.streamId = none)) ∨
      (announce.unchecked = false ∧ ∃ base, Rewritten entries announce.streamId outside.grows base
        (base.announce announce outside).2 (applyAnnounce entries announce outside).2 ∧
        (applyAnnounce entries announce outside).1 = (base.announce announce outside).1) := by
  have applies := applyAnnounce_cases entries announce outside
  generalize (applyAnnounce entries announce outside).1 = outcome at applies ⊢
  generalize (applyAnnounce entries announce outside).2 = entries' at applies ⊢
  cases applies with
  | unchecked text bad =>
      refine Or.inl ⟨rfl, ?_, Or.inl bad⟩
      intro applied
      cases applied
  | crowded text full =>
      refine Or.inl ⟨rfl, ?_, Or.inr ?_⟩
      · intro applied
        cases applied
      · unfold reserveEntry at full
        split at full
        · cases full
        next missing => exact missing
  | @reserved index grown passed reserves =>
      have nonzero : announce.streamId ≠ 0 := by
        intro zero
        rw [PoolAnnounce.unchecked, zero] at passed
        cases passed
      obtain ⟨place, reserved⟩ := reserveEntry_some nonzero distinct reserves
      have own : ((grown.getD index { streamId := 0 }).announce announce outside).2.streamId = announce.streamId := by
        rw [Entry.announce_streamId, reserved.here]
        exact reserved.own
      exact Or.inr ⟨passed, _, reserveEntry_rewritten nonzero distinct reserves own, rfl⟩

/-- A beacon rewrites the names and the time of the entry of its stream. -/
def Entry.beacon (entry : Entry) (announce : DataSourceAnnounce) (outside : Outside) : Entry :=
  { entry with
    producerId := announce.producerId
    epoch := announce.epoch
    dataSourceName := (announce.name.map (copyInto nameLength)).getD entry.dataSourceName
    lastAnnounceNs := outside.nowNs }

/-- A beacon leaves the registry alone, or keeps the entry of its stream, or rewrites its names and its time. -/
theorem applyDataSource_rewrites {entries : List Entry} (distinct : (entries.map Entry.streamId).Nodup)
    (announce : DataSourceAnnounce) (outside : Outside) :
    (applyDataSource entries announce outside).2 = entries ∨
      ∃ base, announce.streamId ≠ 0 ∧ base.newer announce.epoch = false ∧
        Rewritten entries announce.streamId outside.grows base (base.beacon announce outside)
          (applyDataSource entries announce outside).2 := by
  unfold applyDataSource
  split
  · exact Or.inl rfl
  next nonzero =>
    split
    · exact Or.inl rfl
    next index grown reserves =>
      obtain ⟨place, reserved⟩ := reserveEntry_some nonzero distinct reserves
      dsimp only
      split
      next older =>
        left
        rcases reserved.source with ⟨-, -, same⟩ | ⟨-, fresh, -⟩
        · exact same
        · rw [reserved.here, fresh] at older
          cases older
      next current =>
        refine Or.inr ⟨_, nonzero, Bool.eq_false_iff.mpr current, reserveEntry_rewritten nonzero distinct reserves ?_⟩
        rw [Entry.beacon, reserved.here]
        exact reserved.own

/-- New tags leave the registry alone, or they rewrite the tags of the entry, and its time when they are applied. -/
theorem setTags_rewrites {entries : List Entry} (distinct : (entries.map Entry.streamId).Nodup) (streamId : UInt32)
    (tags : List (Option Text)) (outside : TagOutside) :
    ((setTags entries streamId tags outside).2 = entries ∧ (setTags entries streamId tags outside).1 ≠ .applied) ∨
      ∃ base, streamId ≠ 0 ∧
        (((setTags entries streamId tags outside).1 = .applied ∧
          (!tags.isEmpty && !(outside.allocates && (List.range tags.length).all outside.copies)) = false ∧
          Rewritten entries streamId outside.grows base
            { base with tags := tags.map (·.getD []), lastAnnounceNs := outside.nowNs }
            (setTags entries streamId tags outside).2) ∨
        ((setTags entries streamId tags outside).1 ≠ .applied ∧
          (!tags.isEmpty && !(outside.allocates && (List.range tags.length).all outside.copies)) = true ∧
          Rewritten entries streamId outside.grows base { base with tags := [] }
            (setTags entries streamId tags outside).2)) := by
  unfold setTags
  split
  · exact Or.inl ⟨rfl, nofun⟩
  next nonzero =>
    split
    · exact Or.inl ⟨rfl, nofun⟩
    next index grown reserves =>
      obtain ⟨place, reserved⟩ := reserveEntry_some nonzero distinct reserves
      have rewritten {new : Entry} (own : new.streamId = (grown.getD index { streamId := 0 }).streamId) :
          Rewritten entries streamId outside.grows (grown.getD index { streamId := 0 }) new
            (grown.set index new) := by
        apply reserveEntry_rewritten nonzero distinct reserves
        rw [own, reserved.here]
        exact reserved.own
      refine Or.inr ⟨grown.getD index { streamId := 0 }, nonzero, ?_⟩
      dsimp only
      split
      next empty =>
        rw [List.isEmpty_iff.mp empty]
        exact Or.inl ⟨rfl, rfl, rewritten rfl⟩
      next filled =>
        have nonempty : tags.isEmpty = false := Bool.eq_false_iff.mpr filled
        rw [nonempty]
        split
        next refused =>
          have exhausted : outside.allocates = false := by simpa using refused
          exact Or.inr ⟨nofun, by rw [exhausted]; rfl, rewritten rfl⟩
        next allocated =>
          split
          next whole =>
            have granted : outside.allocates = true := by simpa using allocated
            exact Or.inl ⟨rfl, by rw [granted, whole]; rfl, rewritten rfl⟩
          next broken =>
            have short : (List.range tags.length).all outside.copies = false := Bool.eq_false_iff.mpr broken
            exact Or.inr ⟨nofun, by rw [short, Bool.and_false]; rfl, rewritten rfl⟩

/-- A query prunes the registry and changes nothing else. -/
theorem query_entries {config : Config} {entries : List Entry} {request : Request} {outside : QueryOutside}
    {answer : Option Response × List Entry} (asked : query config entries request outside = some answer) :
    answer.2 = pruneExpired config outside.pruneNs entries := by
  unfold query at asked
  dsimp only at asked
  split at asked
  · cases asked
    rfl
  · split at asked
    · cases asked
      rfl
    · split at asked
      · cases asked
        rfl
      · obtain ⟨results, -, same⟩ := Option.map_eq_some_iff.mp asked
        cases same
        rfl

/-- Every step keeps one entry for each stream. -/
theorem distinct_step {config : Config} {system after : System} {action : Action}
    (distinct : (system.entries.map Entry.streamId).Nodup) (stepped : system.step config action = some after) :
    (after.entries.map Entry.streamId).Nodup := by
  cases action with
  | announce announce outside =>
      cases stepped
      rcases applyAnnounce_rewrites distinct announce outside with ⟨same, -, -⟩ | ⟨-, base, rewritten, -⟩
      · change ((applyAnnounce system.entries announce outside).2.map Entry.streamId).Nodup
        rwa [same]
      · exact rewritten.distinct
  | dataSource announce outside =>
      cases stepped
      rcases applyDataSource_rewrites distinct announce outside with same | ⟨base, -, -, rewritten⟩
      · change ((applyDataSource system.entries announce outside).2.map Entry.streamId).Nodup
        rwa [same]
      · exact rewritten.distinct
  | setTags streamId tags outside =>
      cases stepped
      rcases setTags_rewrites distinct streamId tags outside with
        ⟨same, -⟩ | ⟨base, -, ⟨-, -, rewritten⟩ | ⟨-, -, rewritten⟩⟩
      · change ((setTags system.entries streamId tags outside).2.map Entry.streamId).Nodup
        rwa [same]
      · exact rewritten.distinct
      · exact rewritten.distinct
  | query request outside =>
      obtain ⟨answer, asked, same⟩ := Option.map_eq_some_iff.mp stepped
      cases same
      rw [query_entries asked]
      exact distinct.sublist (List.filter_sublist.map _)

theorem distinct_run {config : Config} {actions : List Action} {system after : System}
    (ran : GuardedRun.run (System.step config) system actions = some after)
    (distinct : (system.entries.map Entry.streamId).Nodup) : (after.entries.map Entry.streamId).Nodup :=
  GuardedRun.keeps (I := fun system => (system.entries.map Entry.streamId).Nodup)
    (fun _ _ _ distinct _ stepped => distinct_step distinct stepped) ran distinct

end TensorPool.Discovery
