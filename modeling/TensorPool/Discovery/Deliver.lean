/-
This file says which results of a query fit a response with all that their entries have.
-/

import TensorPool.Discovery.RoundTrip

namespace TensorPool.Discovery

open Scan Flyweight FixedField DiscoveryResponse

/-- The environment grants all memory of the query. -/
def QueryOutside.granting (outside : QueryOutside) : QueryOutside :=
  { outside with
    allocates := true
    poolsAllocate := fun _ => true
    tagsAllocate := fun _ => true
    tagCopies := fun _ _ => true }

/-- The pools of the entry are there, and the memory for its pools and its tags is granted. -/
structure Entry.Granted (entry : Entry) (outside : QueryOutside) (index : Nat) : Prop where
  pools : entry.poolCount = 0 ∨ outside.poolsAllocate index = true ∧ entry.poolCount ≤ (entry.pools.getD []).length
  tags : entry.tags = [] ∨ outside.tagsAllocate index = true
  copies : ∀ place tag, entry.tags[place]? = some tag → outside.tagCopies index place = true ∨ chars tag = []

/-- This is the room that the result of an entry takes. -/
def Entry.room (entry : Entry) (config : Config) : Nat :=
  63 + (((entry.pools.getD []).take entry.poolCount).map fun pool =>
      14 + (chars (copyInto uriLength pool.regionUri)).length).sum +
    (entry.tags.map fun tag => 4 + (chars tag).length).sum +
      (chars (copyInto uriLength entry.headerRegionUri)).length +
    (chars (copyInto nameLength entry.dataSourceName)).length +
    (chars (copyInto nameLength config.driverInstanceId)).length +
    (chars (copyInto 1024 config.driverControlChannel)).length

/-- The results of the shown entries fit the message and its buffer with all of their pools and tags. -/
structure Deliverable (config : Config) (shown : List Entry) (outside : QueryOutside) : Prop where
  few : shown.length ≤ config.maxResults.toNat
  memory : shown = [] ∨ outside.allocates = true
  granted : ∀ index (entry : Entry), shown[index]? = some entry → entry.Granted outside index
  room : 21 + (shown.map (Entry.room · config)).sum ≤ querySize

/-- The bytes carry the whole results of the response. -/
def CarriesResults (response : Response) (bytes : List UInt8) : Prop :=
  ∃ more, bytes = responseHead response ++ (groupBytes resultsBlockLength response.results.length ++
    (response.results.flatMap Result.bytes ++ more))

section Encode

variable {size : Nat} {written : List UInt8}

theorem putGroup_fits {blockLength count : Nat} (few : count ≤ 65534) (room : written.length + 4 ≤ size) :
    putGroup size blockLength count written = some (written ++ groupBytes blockLength count) := by
  rw [putGroup, if_pos]
  exact ⟨by rw [Nat.mod_eq_of_lt (by omega)]; exact few, room⟩

/-- An array that is as long as its count has no missing element. -/
theorem slots_counted {α : Type} {count : Nat} {items : Option (List α)}
    (counted : ((items.getD []).take count).length = count) :
    slots count items = ((items.getD []).take count).map some := by
  apply List.ext_getElem?
  intro index
  rw [slots, List.getElem?_map, List.getElem?_map]
  by_cases inside : index < count
  · rw [List.getElem?_range inside, Option.map_some, List.getElem?_take_of_lt inside]
    have stored : index < (items.getD []).length := by
      rw [List.length_take] at counted
      omega
    cases items with
    | none => cases stored
    | some list =>
        change some list[index]? = list[index]?.map some
        rw [List.getElem?_eq_getElem (show index < list.length from stored)]
        rfl
  · rw [List.getElem?_eq_none (by rw [List.length_range]; omega), List.getElem?_eq_none (by omega)]
    rfl

theorem putPools_fits {pools : List PoolEntry}
    (fits : written.length + (pools.flatMap PoolEntry.bytes).length ≤ size) :
    (pools.map some).foldlM (putPool size) written =
      (value (written ++ pools.flatMap PoolEntry.bytes) : Scan Refusal _) := by
  induction pools generalizing written with
  | nil => rw [List.flatMap_nil, List.append_nil]; rfl
  | cons pool rest hypothesis =>
      rw [List.flatMap_cons, List.length_append, pool.length_bytes] at fits
      have here : putPool size written (some pool) = value (written ++ pool.bytes) := by
        rw [putPool, if_neg (by omega), PoolEntry.bytes, ← List.append_assoc, putData_fits]
        rw [List.length_append, pool.length_block]
        omega
      rw [List.map_cons, List.foldlM_cons, here, value_bind, hypothesis, List.flatMap_cons, List.append_assoc]
      rw [List.length_append, pool.length_bytes]
      omega

theorem putTags_fits {tags : List (Option Text)} (fits : written.length + (tags.flatMap tagBytes).length ≤ size) :
    (tags.map some).foldlM (putTagSlot size) written =
      (value (written ++ tags.flatMap tagBytes) : Scan Refusal _) := by
  induction tags generalizing written with
  | nil => rw [List.flatMap_nil, List.append_nil]; rfl
  | cons tag rest hypothesis =>
      have length : (tagBytes tag).length = 4 + (chars (tag.getD [])).length := length_dataBytes _
      rw [List.flatMap_cons, List.length_append, length] at fits
      have here : putTagSlot size written (some tag) = value (written ++ tagBytes tag) := by
        rw [putTagSlot, putTag, if_neg (by change ¬ size < written.length + 4; omega),
          if_neg (by change ¬ size < written.length + 4 + _; omega)]
        rfl
      rw [List.map_cons, List.foldlM_cons, here, value_bind, hypothesis, List.flatMap_cons, List.append_assoc]
      rw [List.length_append, length]
      omega

/-- A result that fits is put as a whole. -/
theorem putResult_fits {result : Result} (counted : result.Counted) (small : size ≤ querySize)
    (fits : written.length + result.bytes.length ≤ size) :
    putResult size written result = value (written ++ result.bytes) := by
  have limit : size ≤ 4096 := small
  have pools : 10 * result.poolCount ≤ (result.poolList.flatMap PoolEntry.bytes).length := by
    rw [← counted.pools]
    induction result.poolList with
    | nil => exact Nat.zero_le _
    | cons pool rest hypothesis =>
        rw [List.length_cons, List.flatMap_cons, List.length_append, pool.length_bytes, poolsBlockLength]
        omega
  have tags : 4 * result.tagCount ≤ (result.tagList.flatMap tagBytes).length := by
    rw [← counted.tags]
    induction result.tagList with
    | nil => exact Nat.zero_le _
    | cons tag rest hypothesis =>
        rw [List.length_cons, List.flatMap_cons, List.length_append, tagBytes, length_dataBytes]
        omega
  have length : result.bytes.length = 39 + (4 + ((result.poolList.flatMap PoolEntry.bytes).length +
      (4 + ((result.tagList.flatMap tagBytes).length + (textBytes result.texts).length)))) := by
    rw [Result.bytes, Result.groupsBytes]
    simp only [List.length_append, length_groupBytes, result.length_block]
    rfl
  have block : (written ++ result.block).length = written.length + 39 := by
    rw [List.length_append, result.length_block]
    rfl
  rw [putResult, if_neg (by change ¬ size < written.length + 39; omega),
    putGroup_fits (by omega) (by rw [block]; omega)]
  dsimp only
  rw [slots_counted counted.pools]
  change ((result.poolList.map some).foldlM (putPool size) _ >>= _) = _
  rw [putPools_fits (by rw [List.length_append, block, length_groupBytes]; omega), value_bind]
  rw [putGroup_fits (by omega) (by simp only [List.length_append, block, length_groupBytes] at *; omega)]
  dsimp only
  rw [slots_counted counted.tags]
  change ((result.tagList.map some).foldlM (putTagSlot size) _ >>= _) = _
  rw [putTags_fits (by simp only [List.length_append, block, length_groupBytes] at *; omega), value_bind,
    putResultTexts_pieces _ (by simp only [List.length_append, block, length_groupBytes] at *; omega),
    pieces_fits (by simp only [List.length_append, block, length_groupBytes] at *; omega), Result.bytes,
    Result.groupsBytes]
  simp only [List.append_assoc]

/-- Results that fit are put as a whole, one after the other. -/
theorem putResults_fits {results : List Result} (counted : ∀ result ∈ results, result.Counted)
    (small : size ≤ querySize)
    (fits : written.length + (results.flatMap Result.bytes).length ≤ size) :
    results.foldlM (putResult size) written = value (written ++ results.flatMap Result.bytes) := by
  induction results generalizing written with
  | nil =>
      rw [List.flatMap_nil, List.append_nil]
      rfl
  | cons result rest hypothesis =>
      rw [List.flatMap_cons, List.length_append] at fits
      have here : putResult size written result = value (written ++ result.bytes) :=
        putResult_fits (counted result List.mem_cons_self) small (by omega)
      rw [List.foldlM_cons, here, value_bind, hypothesis, List.flatMap_cons, List.append_assoc]
      · exact fun other member => counted other (List.mem_cons_of_mem _ member)
      · rw [List.length_append]
        omega

theorem resultsBlock_le (results : List Result) :
    39 * results.length ≤ (results.flatMap Result.bytes).length := by
  induction results with
  | nil => exact Nat.zero_le _
  | cons result rest hypothesis =>
      rw [List.length_cons, List.flatMap_cons, List.length_append, Result.bytes, List.length_append,
        result.length_block]
      change _ ≤ 39 + _ + _
      omega

/-- A response carries its results when they fit. -/
theorem encodeResponse_fits {response : Response} (counted : ∀ result ∈ response.results, result.Counted)
    (fits : 21 + (response.results.flatMap Result.bytes).length ≤ querySize) :
    ∃ bytes, encodeResponse querySize response = value bytes ∧ CarriesResults response bytes := by
  have count := resultsBlock_le response.results
  have head := length_responseHead response
  have limit : querySize = 4096 := rfl
  rw [encodeResponse, putGroup_fits (by omega) (by rw [head]; decide)]
  dsimp only
  have inside : (responseHead response ++ groupBytes resultsBlockLength response.results.length).length +
      (response.results.flatMap Result.bytes).length ≤ querySize := by
    rw [List.length_append, head, length_groupBytes]
    exact fits
  rw [putResults_fits counted (Nat.le_refl _) inside, value_bind,
    putData_piece _ (by rw [List.length_append]; exact inside)]
  generalize piece _ (chars response.errorMessage) = last
  refine ⟨_, rfl, last, ?_⟩
  simp only [List.append_assoc]

/-- A response without results is always encoded. -/
theorem encodeResponse_empty (response : Response) (empty : response.results = []) (room : 21 ≤ size) :
    ∃ bytes, encodeResponse size response = value bytes ∧ ∃ more, bytes = responseHead response ++ more := by
  have inside : (responseHead response ++ groupBytes resultsBlockLength ([] : List Result).length).length ≤ size := by
    rw [List.length_append, length_responseHead, length_groupBytes]
    exact room
  have put : encodeResponse size response = value (putData size (chars response.errorMessage)
      (responseHead response ++ groupBytes resultsBlockLength ([] : List Result).length)) := by
    rw [encodeResponse, empty, putGroup_fits (by decide) (by rw [length_responseHead]; exact room)]
    rfl
  refine ⟨_, put, ?_⟩
  rw [putData_piece _ inside]
  exact ⟨_, List.append_assoc _ _ _⟩

end Encode

section Results

variable {config : Config} {outside : QueryOutside} {entry : Entry} {index : Nat}

/-- A result repeats its entry beside the arrays that were granted. -/
def Entry.listed (entry : Entry) (config : Config) (pools : Option (List PoolEntry))
    (tags : Option (List (Option Text))) : Result where
  streamId := entry.streamId
  producerId := entry.producerId
  epoch := entry.epoch
  layoutVersion := entry.layoutVersion
  headerNslots := entry.headerNslots
  headerSlotBytes := entry.headerSlotBytes
  maxDims := entry.maxDims
  dataSourceId := entry.dataSourceId
  driverControlStreamId := config.driverControlStreamId.toUInt32
  headerRegionUri := copyInto uriLength entry.headerRegionUri
  dataSourceName := copyInto nameLength entry.dataSourceName
  driverInstanceId := copyInto nameLength config.driverInstanceId
  driverControlChannel := copyInto 1024 config.driverControlChannel
  poolCount := entry.poolCount
  pools := pools
  tagCount := entry.tags.length
  tags := tags

/-- This is a pool of an entry as a result copies it. -/
def PoolEntry.copied (pool : PoolEntry) : PoolEntry := { pool with regionUri := copyInto uriLength pool.regionUri }

/-- These are the tags of an entry as a result copies them. -/
def Entry.copiedTags (entry : Entry) (outside : QueryOutside) (index : Nat) : Option (List (Option Text)) :=
  if !entry.tags.isEmpty && outside.tagsAllocate index then
    some (entry.tags.mapIdx fun place tag => if outside.tagCopies index place then some tag else none)
  else none

theorem Entry.result_eq (entry : Entry) (config : Config) (outside : QueryOutside) (index : Nat) :
    entry.result config outside index = (if entry.poolCount > 0 && outside.poolsAllocate index then
      entry.pools.map fun pools => some (pools.map PoolEntry.copied) else some none).map fun pools =>
        entry.listed config pools (entry.copiedTags outside index) := by
  unfold Entry.result
  dsimp only
  split
  · cases entry.pools with
    | none => rfl
    | some pools => rfl
  · rfl

/-- The pools that a result counts are there, and so are its tags. -/
theorem Entry.listed_counted {pools : Option (List PoolEntry)} {tags : Option (List (Option Text))} :
    (entry.listed config pools tags).Counted ↔ ((pools.getD []).take entry.poolCount).length = entry.poolCount ∧
      ((tags.getD []).take entry.tags.length).length = entry.tags.length := by
  constructor
  · intro counted
    exact ⟨counted.pools, counted.tags⟩
  · intro both
    exact ⟨both.1, both.2⟩

theorem Entry.listed_shown {pools pools' : Option (List PoolEntry)} {tags tags' : Option (List (Option Text))} :
    (entry.listed config pools tags).shown = (entry.listed config pools' tags').shown ↔
      ((pools.getD []).take entry.poolCount).map PoolEntry.shown =
          ((pools'.getD []).take entry.poolCount).map PoolEntry.shown ∧
        ((tags.getD []).take entry.tags.length).map (fun tag => some (chars (tag.getD []))) =
          ((tags'.getD []).take entry.tags.length).map fun tag => some (chars (tag.getD [])) := by
  constructor
  · intro same
    exact ⟨Option.some.inj (congrArg Result.pools same), Option.some.inj (congrArg Result.tags same)⟩
  · intro both
    simp only [Result.shown, Result.poolList, Result.tagList, Entry.listed, both.1, both.2]

theorem Entry.length_copiedTags : ((entry.copiedTags outside index).getD []).length =
    if outside.tagsAllocate index then entry.tags.length else 0 := by
  unfold Entry.copiedTags
  cases entry.tags with
  | nil => simp
  | cons tag rest => cases outside.tagsAllocate index <;> simp

/-- The tags of an entry are all of them or none. -/
theorem Entry.take_copiedTags : ((entry.copiedTags outside index).getD []).take entry.tags.length =
    (entry.copiedTags outside index).getD [] := by
  apply List.take_of_length_le
  rw [Entry.length_copiedTags]
  split
  · exact Nat.le_refl _
  · exact Nat.zero_le _

/-- Tags that are all copied, or empty where they are not, show what the entry has. -/
theorem Entry.copiedTags_shown (allocates : outside.tagsAllocate index = true) :
    ((entry.copiedTags outside index).getD []).map (fun tag => some (chars (tag.getD []))) =
        entry.tags.map (fun tag => some (chars tag)) ↔
      ∀ place tag, entry.tags[place]? = some tag → outside.tagCopies index place = true ∨ chars tag = [] := by
  have list : (entry.copiedTags outside index).getD [] =
      entry.tags.mapIdx fun place tag => if outside.tagCopies index place then some tag else none := by
    unfold Entry.copiedTags
    rw [allocates]
    cases entry.tags with
    | nil => rfl
    | cons tag rest => rfl
  have one (tag : Text) (copied : Bool) :
      some (chars ((if copied then some tag else none).getD [])) = some (chars tag) ↔
        copied = true ∨ chars tag = [] := by
    cases copied with
    | true => simp
    | false =>
        change some (chars []) = some (chars tag) ↔ _
        rw [Option.some.injEq, eq_comm]
        simp [chars]
  rw [list]
  constructor
  · intro same place tag there
    have here := congrArg (·[place]?) same
    simp only [List.getElem?_map, List.getElem?_mapIdx, there, Option.map_some, Option.some.injEq] at here
    exact (one tag _).mp (congrArg some here)
  · intro copies
    apply List.ext_getElem?
    intro place
    rw [List.getElem?_map, List.getElem?_mapIdx, List.getElem?_map]
    cases there : entry.tags[place]? with
    | none => rfl
    | some tag =>
        rw [Option.map_some, Option.map_some, Option.map_some, (one tag _).mpr (copies place tag there)]

/-- A result with all of its pools and tags comes from an entry for which all memory is granted. -/
theorem Entry.granted_of_result {result ideal : Result} (filled : entry.result config outside index = some result)
    (full : entry.result config outside.granting index = some ideal) (counted : result.Counted)
    (same : result.shown = ideal.shown) : entry.Granted outside index := by
  rw [Entry.result_eq, Option.map_eq_some_iff] at filled full
  obtain ⟨pools, found, rfl⟩ := filled
  obtain ⟨pools', -, rfl⟩ := full
  obtain ⟨poolsCount, tagsCount⟩ := Entry.listed_counted.mp counted
  obtain ⟨-, tags⟩ := Entry.listed_shown.mp same
  rw [Entry.take_copiedTags, Entry.length_copiedTags] at tagsCount
  have allocated : entry.tags = [] ∨ outside.tagsAllocate index = true := by
    cases allocates : outside.tagsAllocate index with
    | true => exact Or.inr rfl
    | false =>
        rw [allocates] at tagsCount
        exact Or.inl (List.eq_nil_of_length_eq_zero tagsCount.symm)
  refine ⟨?_, allocated, ?_⟩
  · split at found
    next there =>
      rw [Bool.and_eq_true, decide_eq_true_eq] at there
      obtain ⟨list, known, rfl⟩ := Option.map_eq_some_iff.mp found
      rw [Option.getD_some, List.length_take, List.length_map] at poolsCount
      rw [known, Option.getD_some]
      exact Or.inr ⟨there.2, by omega⟩
    · cases found
      rw [Option.getD_none, List.take_nil] at poolsCount
      exact Or.inl poolsCount.symm
  · rcases allocated with none | allocates
    · intro place tag there
      rw [none] at there
      cases there
    · rw [Entry.take_copiedTags, Entry.take_copiedTags] at tags
      apply (Entry.copiedTags_shown allocates).mp
      rw [tags]
      apply (@Entry.copiedTags_shown outside.granting entry index rfl).mpr
      exact fun _ _ _ => Or.inl rfl

theorem length_poolsBytes (pools : List PoolEntry) : (pools.flatMap PoolEntry.bytes).length =
    (pools.map fun pool => 14 + (chars pool.regionUri).length).sum := by
  induction pools with
  | nil => rfl
  | cons pool rest hypothesis =>
      rw [List.flatMap_cons, List.length_append, hypothesis, pool.length_bytes, List.map_cons, List.sum_cons,
        poolsBlockLength]
      omega

theorem length_tagsBytes (tags : List (Option Text)) : (tags.flatMap tagBytes).length =
    ((tags.map fun tag => some (chars (tag.getD []))).map fun text => 4 + (text.getD []).length).sum := by
  induction tags with
  | nil => rfl
  | cons tag rest hypothesis =>
      rw [List.flatMap_cons, List.length_append, hypothesis, tagBytes, length_dataBytes]
      rfl

/-- The arrays that show what the entry has take the room of the entry. -/
theorem Entry.length_listed {pools : Option (List PoolEntry)} {tags : Option (List (Option Text))}
    (poolsShown : (pools.getD []).take entry.poolCount =
      ((entry.pools.getD []).take entry.poolCount).map PoolEntry.copied)
    (tagsShown : ((tags.getD []).take entry.tags.length).map (fun tag => some (chars (tag.getD []))) =
      entry.tags.map fun tag => some (chars tag)) :
    (entry.listed config pools tags).bytes.length = entry.room config := by
  have groups : (entry.listed config pools tags).bytes.length =
      39 + (4 + (((pools.getD []).take entry.poolCount).flatMap PoolEntry.bytes).length +
        (4 + (((tags.getD []).take entry.tags.length).flatMap tagBytes).length +
          (textBytes (entry.listed config pools tags).texts).length)) := by
    rw [Result.bytes, Result.groupsBytes]
    simp only [List.length_append, length_groupBytes, Result.length_block]
    change 39 + (4 + ((((pools.getD []).take entry.poolCount).flatMap PoolEntry.bytes).length +
      (4 + ((((tags.getD []).take entry.tags.length).flatMap tagBytes).length + _)))) = _
    omega
  rw [groups, length_poolsBytes, length_tagsBytes, poolsShown, tagsShown, Entry.room, List.map_map, List.map_map]
  simp only [Result.texts, length_textBytes_cons]
  change 39 + (4 + (((entry.pools.getD []).take entry.poolCount).map fun pool =>
    14 + (chars (copyInto uriLength pool.regionUri)).length).sum + (4 + (entry.tags.map fun tag =>
      4 + (chars tag).length).sum + (4 + (chars (copyInto uriLength entry.headerRegionUri)).length +
        (4 + (chars (copyInto nameLength entry.dataSourceName)).length +
          (4 + (chars (copyInto nameLength config.driverInstanceId)).length +
            (4 + (chars (copyInto 1024 config.driverControlChannel)).length + 0)))))) = _
  omega

/-- The pools of a granted entry are copied, whatever else is granted. -/
theorem Entry.Granted.copies_pools (granted : entry.Granted outside index) : ∃ pools,
    (if entry.poolCount > 0 && outside.poolsAllocate index then
      entry.pools.map fun pools => some (pools.map PoolEntry.copied) else some none) = some pools ∧
    (if entry.poolCount > 0 && outside.granting.poolsAllocate index then
      entry.pools.map fun pools => some (pools.map PoolEntry.copied) else some none) = some pools ∧
    (pools.getD []).take entry.poolCount = ((entry.pools.getD []).take entry.poolCount).map PoolEntry.copied ∧
    ((pools.getD []).take entry.poolCount).length = entry.poolCount := by
  by_cases none : entry.poolCount = 0
  · refine ⟨Option.none, ?_, ?_, ?_, ?_⟩ <;> simp [none]
  · obtain ⟨allocates, enough⟩ := granted.pools.resolve_left none
    have counted : decide (entry.poolCount > 0) = true := decide_eq_true (Nat.pos_of_ne_zero none)
    cases known : entry.pools with
    | none =>
        rw [known] at enough
        exact absurd (Nat.le_zero.mp enough) none
    | some list =>
        rw [known, Option.getD_some] at enough
        refine ⟨some (list.map PoolEntry.copied), ?_, ?_, ?_, ?_⟩
        · rw [counted, allocates]
          rfl
        · rw [counted]
          rfl
        · rw [Option.getD_some, Option.getD_some, List.map_take]
        · rw [Option.getD_some, List.length_take, List.length_map]
          omega

/-- An entry for which all memory is granted has a result with all of its pools and tags, of the expected length. -/
theorem Entry.result_of_granted (config : Config) (granted : entry.Granted outside index) :
    ∃ result ideal, entry.result config outside index = some result ∧
      entry.result config outside.granting index = some ideal ∧ result.Counted ∧ result.shown = ideal.shown ∧
        result.bytes.length = entry.room config := by
  obtain ⟨pools, here, full, copied, counted⟩ := granted.copies_pools
  have tags : ((entry.copiedTags outside index).getD []).map (fun tag => some (chars (tag.getD []))) =
      entry.tags.map fun tag => some (chars tag) := by
    rcases granted.tags with none | allocates
    · simp [Entry.copiedTags, none]
    · exact (Entry.copiedTags_shown allocates).mpr granted.copies
  have ideal : ((entry.copiedTags outside.granting index).getD []).map (fun tag => some (chars (tag.getD []))) =
      entry.tags.map fun tag => some (chars tag) :=
    (@Entry.copiedTags_shown outside.granting entry index rfl).mpr fun _ _ _ => Or.inl rfl
  refine ⟨entry.listed config pools (entry.copiedTags outside index),
    entry.listed config pools (entry.copiedTags outside.granting index), ?_, ?_, ?_, ?_, ?_⟩
  · rw [Entry.result_eq, here]
    rfl
  · rw [Entry.result_eq, full]
    rfl
  · rw [Entry.listed_counted, Entry.take_copiedTags]
    refine ⟨counted, ?_⟩
    have length := congrArg List.length tags
    rw [List.length_map, List.length_map] at length
    exact length
  · rw [Entry.listed_shown, Entry.take_copiedTags, Entry.take_copiedTags, tags, ideal]
    exact ⟨rfl, rfl⟩
  · apply Entry.length_listed copied
    rw [Entry.take_copiedTags]
    exact tags

/-- The results of granted entries are complete. -/
theorem fillResults_of_granted (config : Config) {entries : List Entry}
    (granted : ∀ place (entry : Entry), entries[place]? = some entry → entry.Granted outside (index + place)) :
    ∃ results ideals, fillResults config outside index entries = some results ∧
      fillResults config outside.granting index entries = some ideals ∧ (∀ result ∈ results, result.Counted) ∧
        results.map Result.shown = ideals.map Result.shown ∧
          (results.flatMap Result.bytes).length = (entries.map (Entry.room · config)).sum := by
  induction entries generalizing index with
  | nil => exact ⟨[], [], rfl, rfl, List.forall_mem_nil _, rfl, rfl⟩
  | cons entry rest hypothesis =>
      obtain ⟨result, ideal, here, full, counted, shown, length⟩ :=
        Entry.result_of_granted config (granted 0 entry rfl)
      have others : ∀ place (other : Entry), rest[place]? = some other →
        other.Granted outside (index + 1 + place) := by
        intro place other there
        rw [Nat.add_assoc, Nat.add_comm 1 place]
        exact granted (place + 1) other there
      obtain ⟨results, ideals, later, fulls, allCounted, allShown, total⟩ := hypothesis others
      refine ⟨result :: results, ideal :: ideals, ?_, ?_, List.forall_mem_cons.mpr ⟨counted, allCounted⟩, ?_, ?_⟩
      · rw [fillResults, show entry.result config outside index = some result from here, later]
        rfl
      · rw [fillResults, show entry.result config outside.granting index = some ideal from full, fulls]
        rfl
      · rw [List.map_cons, List.map_cons, shown, allShown]
      · rw [List.flatMap_cons, List.length_append, length, total, List.map_cons, List.sum_cons]

theorem fillResults_of_granted_all (config : Config) {entries : List Entry}
    (granted : ∀ place (entry : Entry), entries[place]? = some entry → entry.Granted outside place) :
    ∃ results ideals, fillResults config outside 0 entries = some results ∧
      fillResults config outside.granting 0 entries = some ideals ∧ (∀ result ∈ results, result.Counted) ∧
        results.map Result.shown = ideals.map Result.shown ∧
          (results.flatMap Result.bytes).length = (entries.map (Entry.room · config)).sum := by
  apply fillResults_of_granted
  intro place entry there
  rw [Nat.zero_add]
  exact granted place entry there

/-- Complete results come from granted entries. -/
theorem granted_of_fillResults {entries : List Entry} {results ideals : List Result}
    (filled : fillResults config outside index entries = some results)
    (full : fillResults config outside.granting index entries = some ideals)
    (counted : ∀ result ∈ results, result.Counted) (same : results.map Result.shown = ideals.map Result.shown) :
    ∀ place (entry : Entry), entries[place]? = some entry → entry.Granted outside (index + place) := by
  induction entries generalizing index results ideals with
  | nil =>
      intro place entry there
      cases there
  | cons first rest hypothesis =>
      rw [fillResults] at filled full
      obtain ⟨result, here, filled⟩ := Option.bind_eq_some_iff.mp filled
      obtain ⟨others, later, filled⟩ := Option.bind_eq_some_iff.mp filled
      obtain ⟨ideal, there, full⟩ := Option.bind_eq_some_iff.mp full
      obtain ⟨fulls, last, full⟩ := Option.bind_eq_some_iff.mp full
      cases filled
      cases full
      rw [List.map_cons, List.map_cons, List.cons.injEq] at same
      obtain ⟨one, all⟩ := List.forall_mem_cons.mp counted
      intro place entry at'
      cases place with
      | zero =>
          cases at'
          exact Entry.granted_of_result here there one same.1
      | succ place =>
          have granted := hypothesis later last all same.2 place entry at'
          rw [Nat.add_assoc, Nat.add_comm 1 place] at granted
          exact granted

end Results

end TensorPool.Discovery
