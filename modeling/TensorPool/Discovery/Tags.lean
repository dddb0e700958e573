/-
This file follows the tags of one stream through the updates of the registry.
Every announce that rewrites an entry also clears its tags.
-/

import TensorPool.Discovery.Rewrite

namespace TensorPool.Discovery

/-- A query removes such an entry. -/
def Entry.expired (entry : Entry) (config : Config) (nowNs : UInt64) : Bool :=
  entry.lastAnnounceNs != 0 && decide (nowNs > entry.lastAnnounceNs + expiryNs config)

/-- The step neither sets the tags of the stream again nor finds the stream expired. -/
def System.lasting (config : Config) (streamId : UInt32) (system : System) : Action → Bool
  | .setTags other _ _ => other != streamId
  | .query _ outside => system.entries.all fun entry =>
      entry.streamId != streamId || !entry.expired config outside.pruneNs
  | _ => true

/-- An announce for the stream is refused by its first checks, or it is older than the entry. -/
def System.spares (streamId : UInt32) (system : System) : Action → Bool
  | .announce announce outside => announce.streamId != streamId || announce.unchecked ||
      system.meets announce.streamId outside.grows (·.newer announce.epoch)
  | _ => true

/-- The stream has one entry, and the entry has these tags. -/
structure Tagged (streamId : UInt32) (tags : List Text) (entries : List Entry) : Prop where
  distinct : (entries.map Entry.streamId).Nodup
  present : ∃ entry ∈ entries, entry.streamId = streamId
  tagged : ∀ entry ∈ entries, entry.streamId = streamId → entry.tags = tags

/-- A result has these tags in order; without any tag it has no list of them. -/
structure Result.Carries (result : Result) (tags : List Text) : Prop where
  tagCount : result.tagCount = tags.length
  tags : tags ≠ [] → result.tags = some (tags.map some)

theorem entry_unique {entries : List Entry} (distinct : (entries.map Entry.streamId).Nodup) {left right : Entry}
    (leftIn : left ∈ entries) (rightIn : right ∈ entries) (same : left.streamId = right.streamId) : left = right :=
  List.inj_on_of_nodup_map distinct leftIn rightIn same

/-- An update that meets a condition meets it at the entry of its stream. -/
theorem meets_entry {system : System} {streamId : UInt32} {grows : Bool} {condition : Entry → Bool}
    (distinct : (system.entries.map Entry.streamId).Nodup) (met : system.meets streamId grows condition = true)
    {entry : Entry} (present : entry ∈ system.entries) (own : entry.streamId = streamId) (nonzero : streamId ≠ 0) :
    condition entry = true := by
  unfold System.meets at met
  rcases found : findEntry system.entries streamId with _ | index
  · exact absurd own (findEntry_none nonzero found entry present)
  · rw [found] at met
    obtain ⟨other, here, same⟩ := findEntry_some found
    dsimp only at met
    rw [List.getD_eq_getElem?_getD, here, Option.getD_some] at met
    rwa [entry_unique distinct present (List.mem_of_getElem? here) (own.trans same.symm)]

namespace Tagged

variable {streamId : UInt32} {tags : List Text} {entries entries' : List Entry}

/-- An update of another stream keeps the tags. -/
theorem other (held : Tagged streamId tags entries) {another : UInt32} {grows : Bool} {base new : Entry}
    (apart : another ≠ streamId)
    (rewritten : Rewritten entries another grows base new entries') : Tagged streamId tags entries' := by
  refine ⟨rewritten.distinct, ?_, ?_⟩
  · obtain ⟨entry, present, own⟩ := held.present
    refine ⟨entry, (rewritten.member entry).mpr (Or.inr ⟨present, ?_⟩), own⟩
    rw [own]
    exact apart.symm
  · intro entry present own
    rcases (rewritten.member entry).mp present with rfl | ⟨old, -⟩
    · exact absurd (rewritten.own.symm.trans own) apart
    · exact held.tagged entry old own

/-- An update of the stream keeps the tags when it keeps those of its entry. -/
theorem same (held : Tagged streamId tags entries) {grows : Bool} {base new : Entry}
    (rewritten : Rewritten entries streamId grows base new entries') (kept : base ∈ entries → new.tags = base.tags) :
    Tagged streamId tags entries' := by
  refine ⟨rewritten.distinct, ⟨new, (rewritten.member new).mpr (Or.inl rfl), rewritten.own⟩, ?_⟩
  intro entry present own
  rcases (rewritten.member entry).mp present with rfl | ⟨-, apart⟩
  · rcases rewritten.source with ⟨among, named⟩ | ⟨missing, -⟩
    · rw [kept among]
      exact held.tagged base among named
    · obtain ⟨old, among, named⟩ := held.present
      exact absurd named (missing old among)
  · exact absurd own apart

/-- A rewrite of any stream keeps the tags when it keeps those of its own entry. -/
theorem rewrite (held : Tagged streamId tags entries) {another : UInt32} {grows : Bool} {base new : Entry}
    (rewritten : Rewritten entries another grows base new entries')
    (kept : another = streamId → base ∈ entries → new.tags = base.tags) : Tagged streamId tags entries' := by
  by_cases own : another = streamId
  · subst own
    exact held.same rewritten (kept rfl)
  · exact held.other own rewritten

end Tagged

/-- A step that spares the tags of a lasting stream keeps them. -/
theorem tagged_step {config : Config} {streamId : UInt32} {tags : List Text} {system after : System} {action : Action}
    (held : Tagged streamId tags system.entries) (lasting : system.lasting config streamId action = true)
    (spared : system.spares streamId action = true) (stepped : system.step config action = some after) :
    Tagged streamId tags after.entries := by
  cases action with
  | announce announce outside =>
      cases stepped
      change Tagged streamId tags (applyAnnounce system.entries announce outside).2
      rcases applyAnnounce_rewrites held.distinct announce outside with ⟨same, -, -⟩ | ⟨passed, base, rewritten, -⟩
      · rwa [same]
      · apply held.rewrite rewritten
        intro own among
        rw [System.spares, passed, own, bne_self_eq_false, Bool.false_or, Bool.false_or] at spared
        have nonzero : streamId ≠ 0 := by
          rintro rfl
          rw [PoolAnnounce.unchecked, own] at passed
          cases passed
        have older := meets_entry held.distinct spared among (rewritten.base_streamId.trans own) nonzero
        rw [Entry.announce, if_pos older]
  | dataSource announce outside =>
      cases stepped
      change Tagged streamId tags (applyDataSource system.entries announce outside).2
      rcases applyDataSource_rewrites held.distinct announce outside with same | ⟨base, -, -, rewritten⟩
      · rwa [same]
      · exact held.rewrite rewritten fun _ _ => rfl
  | setTags another named outside =>
      cases stepped
      change Tagged streamId tags (setTags system.entries another named outside).2
      have apart : another ≠ streamId := bne_iff_ne.mp lasting
      rcases setTags_rewrites held.distinct another named outside with
        ⟨same, -⟩ | ⟨base, -, ⟨-, -, rewritten⟩ | ⟨-, -, rewritten⟩⟩
      · rwa [same]
      · exact held.other apart rewritten
      · exact held.other apart rewritten
  | query request outside =>
      obtain ⟨answer, asked, same⟩ := Option.map_eq_some_iff.mp stepped
      cases same
      dsimp only
      rw [query_entries asked]
      refine ⟨held.distinct.sublist (List.filter_sublist.map _), ?_, ?_⟩
      · obtain ⟨entry, present, own⟩ := held.present
        refine ⟨entry, List.mem_filter.mpr ⟨present, ?_⟩, own⟩
        have alive := List.all_eq_true.mp lasting entry present
        rw [own, bne_self_eq_false, Bool.false_or] at alive
        exact alive
      · intro entry present own
        exact held.tagged entry (List.mem_filter.mp present).1 own

theorem Entry.announce_untagged {entry : Entry} {announce : PoolAnnounce} {outside : Outside}
    (current : entry.newer announce.epoch = false) : (entry.announce announce outside).2.tags = [] := by
  unfold Entry.announce
  rw [current]
  dsimp only
  split
  · contradiction
  · split
    · rfl
    · split <;> rfl

/-- An announce that does not spare the stream leaves its entry without tags. -/
theorem announce_untags {system : System} {announce : PoolAnnounce} {outside : Outside}
    (distinct : (system.entries.map Entry.streamId).Nodup)
    (known : ∃ entry ∈ system.entries, entry.streamId = announce.streamId)
    (unspared : system.spares announce.streamId (.announce announce outside) = false) :
    Tagged announce.streamId [] (applyAnnounce system.entries announce outside).2 := by
  rw [System.spares, bne_self_eq_false, Bool.false_or, Bool.or_eq_false_iff] at unspared
  obtain ⟨passed, current⟩ := unspared
  have nonzero : announce.streamId ≠ 0 := by
    intro zero
    rw [PoolAnnounce.unchecked, zero] at passed
    cases passed
  obtain ⟨index, found⟩ := Option.isSome_iff_exists.mp ((findEntry_isSome nonzero).mpr known)
  obtain ⟨entry, here, own⟩ := findEntry_some found
  rw [System.meets, found] at current
  dsimp only at current
  rw [List.getD_eq_getElem?_getD, here, Option.getD_some] at current
  rcases applyAnnounce_rewrites distinct announce outside with ⟨-, -, bad | missing⟩ | ⟨-, base, rewritten, -⟩
  · rw [passed] at bad
    cases bad
  · rw [found] at missing
    cases missing
  · have same : base = entry := by
      rcases rewritten.source with ⟨among, named⟩ | ⟨absent, -⟩
      · exact entry_unique distinct among (List.mem_of_getElem? here) (named.trans own.symm)
      · exact absurd own (absent entry (List.mem_of_getElem? here))
    rw [same] at rewritten
    refine ⟨rewritten.distinct, ⟨_, (rewritten.member _).mpr (Or.inl rfl), rewritten.own⟩, ?_⟩
    intro other present named
    rcases (rewritten.member other).mp present with rfl | ⟨-, apart⟩
    · exact Entry.announce_untagged current
    · exact absurd named apart

/-- A result is filled from its entry. -/
theorem Entry.result_some {entry : Entry} {config : Config} {outside : QueryOutside} {index : Nat} {result : Result}
    (filled : entry.result config outside index = some result) : result.streamId = entry.streamId ∧
      result.tagCount = entry.tags.length ∧ result.tags =
        if !entry.tags.isEmpty && outside.tagsAllocate index then
          some (entry.tags.mapIdx fun place tag => if outside.tagCopies index place then some tag else none)
        else none := by
  unfold Entry.result at filled
  dsimp only at filled
  split at filled
  · obtain ⟨pools, -, same⟩ := Option.bind_eq_some_iff.mp filled
    cases same
    exact ⟨rfl, rfl, rfl⟩
  · obtain ⟨pools, -, same⟩ := Option.bind_eq_some_iff.mp filled
    cases same
    exact ⟨rfl, rfl, rfl⟩

theorem fillResults_source {config : Config} {outside : QueryOutside} {index : Nat} {entries : List Entry}
    {results : List Result} (filled : fillResults config outside index entries = some results) :
    ∀ result ∈ results, ∃ entry ∈ entries, ∃ place, entry.result config outside place = some result := by
  induction entries generalizing index results with
  | nil =>
      cases filled
      exact List.forall_mem_nil _
  | cons entry rest hypothesis =>
      obtain ⟨first, here, later⟩ := Option.bind_eq_some_iff.mp filled
      obtain ⟨others, there, same⟩ := Option.bind_eq_some_iff.mp later
      cases same
      intro result member
      rcases List.mem_cons.mp member with rfl | inside
      · exact ⟨entry, List.mem_cons_self, index, here⟩
      · obtain ⟨source, among, shown⟩ := hypothesis there result inside
        exact ⟨source, List.mem_cons_of_mem _ among, shown⟩

/-- The memory for the tags of results is granted. -/
def QueryOutside.KeepsTags (outside : QueryOutside) : Prop :=
  ∀ index, outside.tagsAllocate index = true ∧ ∀ place, outside.tagCopies index place = true

theorem Entry.result_carries {entry : Entry} {config : Config} {outside : QueryOutside} {index : Nat}
    {result : Result} (memory : outside.KeepsTags) (filled : entry.result config outside index = some result) :
    result.Carries entry.tags := by
  obtain ⟨-, tagCount, tags⟩ := Entry.result_some filled
  refine ⟨tagCount, ?_⟩
  intro nonempty
  have filled : entry.tags.isEmpty = false := List.isEmpty_eq_false_iff.mpr nonempty
  rw [tags, filled, (memory index).1]
  apply congrArg some
  apply List.ext_getElem
  · rw [List.length_mapIdx, List.length_map]
  · intro place _ _
    rw [List.getElem_mapIdx, List.getElem_map, (memory index).2]
    rfl

/-- Each result of a query comes from an entry that the query keeps. -/
theorem query_source {config : Config} {entries entries' : List Entry} {request : Request} {outside : QueryOutside}
    {response : Response} (asked : query config entries request outside = some (some response, entries')) :
    ∀ result ∈ response.results, ∃ entry ∈ entries, ∃ place, entry.result config outside place = some result := by
  unfold query at asked
  dsimp only at asked
  split at asked
  · cases asked
    exact List.forall_mem_nil _
  · split at asked
    · cases asked
      exact List.forall_mem_nil _
    · split at asked
      · cases asked
      · obtain ⟨results, filled, same⟩ := Option.map_eq_some_iff.mp asked
        cases same
        intro result member
        obtain ⟨entry, among, place, shown⟩ := fillResults_source filled result member
        exact ⟨entry, (List.mem_filter.mp (List.mem_filter.mp among).1).1, place, shown⟩

/-- Tags that are set make their stream tagged. -/
theorem setTags_tagged {entries entries' : List Entry} {streamId : UInt32} {tags : List (Option Text)}
    {outside : TagOutside} (distinct : (entries.map Entry.streamId).Nodup)
    (applied : setTags entries streamId tags outside = (.applied, entries')) :
    Tagged streamId (tags.map (·.getD [])) entries' := by
  have rewrites := setTags_rewrites distinct streamId tags outside
  rw [applied] at rewrites
  rcases rewrites with ⟨-, refused⟩ | ⟨base, -, ⟨-, -, rewritten⟩ | ⟨refused, -⟩⟩
  · exact absurd rfl refused
  · refine ⟨rewritten.distinct, ⟨_, (rewritten.member _).mpr (Or.inl rfl), rewritten.own⟩, ?_⟩
    intro entry present own
    rcases (rewritten.member entry).mp present with rfl | ⟨-, apart⟩
    · rfl
    · exact absurd own apart
  · exact absurd rfl refused

/-- Tags that are set last until the stream is tagged again, expires or is announced anew. -/
theorem run_tags (config : Config) (before between : List Action) (start system : System)
    (reached : GuardedRun.run (System.step config) {} before = some start) (streamId : UInt32)
    (tags : List (Option Text)) (outside : TagOutside) (entries : List Entry)
    (applied : setTags start.entries streamId tags outside = (.applied, entries))
    (ran : GuardedRun.runWhile
      (fun system action => system.lasting config streamId action && system.spares streamId action)
      (System.step config) { start with entries } between = some system)
    (request : Request) (asked : QueryOutside) (memory : asked.KeepsTags)
    (lasts : system.lasting config streamId (.query request asked) = true) :
    (∃ entry ∈ pruneExpired config asked.pruneNs system.entries, entry.streamId = streamId) ∧
      (∀ entry ∈ pruneExpired config asked.pruneNs system.entries, entry.streamId = streamId →
        (∀ tag ∈ request.tags, ∃ text ∈ tags.map (·.getD []), tag = some text) →
          request.tags.all entry.hasTag = true) ∧
      ∀ response entries', query config system.entries request asked = some (some response, entries') →
        ∀ result ∈ response.results, result.streamId = streamId → result.Carries (tags.map (·.getD [])) := by
  have start := setTags_tagged (distinct_run reached List.nodup_nil) applied
  have held : Tagged streamId (tags.map (·.getD [])) system.entries := by
    refine GuardedRun.keeps (I := fun system => Tagged streamId (tags.map (·.getD [])) system.entries) ?_ ran start
    intro system action after held met stepped
    rw [Bool.and_eq_true] at met
    exact tagged_step held met.1 met.2 stepped
  refine ⟨?_, ?_, ?_⟩
  · obtain ⟨entry, present, own⟩ := held.present
    refine ⟨entry, List.mem_filter.mpr ⟨present, ?_⟩, own⟩
    have alive := List.all_eq_true.mp lasts entry present
    rw [own, bne_self_eq_false, Bool.false_or] at alive
    exact alive
  · intro entry present own subset
    rw [List.all_eq_true]
    intro tag asks
    obtain ⟨text, known, rfl⟩ := subset tag asks
    rw [Entry.hasTag, held.tagged entry (List.mem_filter.mp present).1 own]
    exact List.contains_iff_mem.mpr known
  · intro response entries' answered result member own
    obtain ⟨entry, present, place, filled⟩ := query_source answered result member
    have named : entry.streamId = streamId := (Entry.result_some filled).1.symm.trans own
    rw [← held.tagged entry present named]
    exact Entry.result_carries memory filled

def plainTags : TagOutside := ⟨true, true, fun _ => true, 100⟩

def tagRequest : Request := { plainRequest with tags := [some [97]] }

/-- The registry after one announce, and then after the tag `a` was set for its stream. -/
def announcedSystem : System := ⟨(applyAnnounce [] (plainAnnounce 1 4) plainOutside).2, [plainAnnounce 1 4]⟩

def taggedEntries : List Entry := (setTags announcedSystem.entries 7 [some [97]] plainTags).2

/-- The registry after a regressing announce for the tagged stream. -/
def regressedSystem : System :=
  ⟨(applyAnnounce taggedEntries (plainAnnounce 0 4) plainOutside).2, [plainAnnounce 1 4]⟩

theorem run_tags_regressed :
    (∃ entry ∈ pruneExpired plainConfig 100 regressedSystem.entries, entry.streamId = 7) ∧
      (∀ entry ∈ pruneExpired plainConfig 100 regressedSystem.entries, entry.streamId = 7 →
        (∀ tag ∈ tagRequest.tags, ∃ text ∈ [some [97]].map (·.getD []), tag = some text) →
          tagRequest.tags.all entry.hasTag = true) ∧
      ∀ response entries',
        query plainConfig regressedSystem.entries tagRequest plainQuery = some (some response, entries') →
        ∀ result ∈ response.results, result.streamId = 7 → result.Carries ([some [97]].map (·.getD [])) :=
  run_tags plainConfig [.announce (plainAnnounce 1 4) plainOutside] [.announce (plainAnnounce 0 4) plainOutside]
    announcedSystem regressedSystem (by decide +kernel) 7 [some [97]] plainTags taggedEntries
    (Prod.ext (by decide +kernel) rfl) (by decide +kernel) tagRequest plainQuery (fun _ => ⟨rfl, fun _ => rfl⟩)
      (by decide +kernel)

/-- The registry after the announce was repeated for the tagged stream. -/
def repeatedSystem : System :=
  ⟨(applyAnnounce taggedEntries (plainAnnounce 1 4) plainOutside).2, [plainAnnounce 1 4, plainAnnounce 1 4]⟩

/-- The periodic repetition of an announce clears the tags of its stream. -/
theorem announce_clears_tags : ¬ ∀ (config : Config) (before between : List Action) (start system : System),
    GuardedRun.run (System.step config) {} before = some start → ∀ (streamId : UInt32) (tags : List (Option Text))
      (outside : TagOutside) (entries : List Entry),
    setTags start.entries streamId tags outside = (.applied, entries) →
    GuardedRun.runWhile (System.lasting config streamId) (System.step config) { start with entries } between =
      some system → ∀ (request : Request) (asked : QueryOutside), asked.KeepsTags →
    system.lasting config streamId (.query request asked) = true →
    ∀ entry ∈ pruneExpired config asked.pruneNs system.entries, entry.streamId = streamId →
      (∀ tag ∈ request.tags, ∃ text ∈ tags.map (·.getD []), tag = some text) →
        request.tags.all entry.hasTag = true := by
  intro claim
  have matched := claim plainConfig [.announce (plainAnnounce 1 4) plainOutside]
    [.announce (plainAnnounce 1 4) plainOutside] announcedSystem repeatedSystem (by decide +kernel) 7 [some [97]]
    plainTags taggedEntries (Prod.ext (by decide +kernel) rfl)
      (by decide +kernel) tagRequest plainQuery (fun _ => ⟨rfl, fun _ => rfl⟩)
    (by decide +kernel)
  have untagged : ∃ entry ∈ pruneExpired plainConfig plainQuery.pruneNs repeatedSystem.entries,
      entry.streamId = 7 ∧ tagRequest.tags.all entry.hasTag = false := by decide +kernel
  obtain ⟨entry, present, own, missing⟩ := untagged
  have asks : ∀ tag ∈ tagRequest.tags, ∃ text ∈ [some [97]].map (·.getD []), tag = some text := by decide +kernel
  rw [matched entry present own asks] at missing
  cases missing

end TensorPool.Discovery
