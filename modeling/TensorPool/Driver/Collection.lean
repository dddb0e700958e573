/-
This file says which epoch directories a collection removes from a listed stream directory.
The age of a directory is the difference of a monotonic reading and a modification time, modulo 64 bits.
-/

import Mathlib.Data.List.Dedup
import Mathlib.Data.List.Perm.Subperm
import TensorPool.Driver.Exclusive

namespace TensorPool.Driver

/-- A collection that is enabled lists the directory of its stream. -/
def gcListing (o : Oracle) (config : Config) (stream : StreamState) (w : World) :
    Option (String × List DirEntry) :=
  if !config.epochGcEnabled || config.epochGcKeep = 0 then none
  else match buildStreamDir o config stream.streamId with
    | none => none
    | some dir => (o.listing w.called.calls).map fun entries => (dir, entries)

/-- The cut spares one epoch less than the number to keep, and the current one is not among them. -/
def gcCandidates (keep : UInt32) (epochs : List UInt64) : List UInt64 :=
  (epochs.mergeSort fun left right => left ≤ right).take (epochs.length - (keep.toNat - 1))

/-- The age of a directory does not hold back its removal; the difference of the readings has no sign. -/
def ageAllows (config : Config) (now modifiedNs : UInt64) : Bool :=
  !(config.epochGcMinAgeNs > 0 && now - modifiedNs < config.epochGcMinAgeNs)

/-- The decimal path of an epoch fits its buffer, has a modification time and is old enough. -/
def gcTouches (config : Config) (dir : String) (now : UInt64) (times : UInt64 → Option UInt64)
    (epoch : UInt64) : Bool :=
  (fitted s!"{dir}/{epoch.toNat}").isSome &&
    (times epoch).any fun modifiedNs => ageAllows config now modifiedNs

/--
This is `tp_driver_gc_stream` on a directory with these modification times.
The result lists the epochs whose files it unlinks and whose directory it asks to remove.
-/
def gcTouched (o : Oracle) (config : Config) (stream : StreamState) (w : World)
    (times : UInt64 → Option UInt64) : List UInt64 :=
  match gcListing o config stream w with
  | none => []
  | some (dir, entries) =>
      let epochs := (collectEpochs o dir stream.epoch entries [] 0 w.called.called).1
      (gcCandidates config.epochGcKeep epochs).filter (gcTouches config dir (o.clock w.calls) times)

/-- A collection removes the directories that `rmdir` does not refuse. -/
def gcRemoved (o : Oracle) (config : Config) (stream : StreamState) (w : World)
    (times : UInt64 → Option UInt64) (removable : UInt64 → Bool) : List UInt64 :=
  (gcTouched o config stream w times).filter removable

/--
A look at a path gives its modification time, and `rmdir` has one answer for a directory.
Behind a call of `rmdir` the path is gone, or its time is new because files were unlinked.
-/
structure LooksUp (o : Oracle) (streamId : UInt32) (dir : String) (times : UInt64 → Option UInt64)
    (removable : UInt64 → Bool) (epoch : UInt64) (w : World) : Prop where
  time : (fitted s!"{dir}/{epoch.toNat}").isSome = true → o.modified w.calls = times epoch ∨
    (.epochRemoved streamId epoch (removable epoch) ∈ w.log ∧
      (removable epoch = true → o.modified w.calls = none))
  answer : o.removesDir w.called.calls = removable epoch

/-- All the looks of a collection are answered from the same directory. -/
def LooksUpAll (o : Oracle) (config : Config) (streamId : UInt32) (dir : String) (now : UInt64)
    (times : UInt64 → Option UInt64) (removable : UInt64 → Bool) : List UInt64 → World → Prop
  | [], _ => True
  | epoch :: rest, w => LooksUp o streamId dir times removable epoch w ∧
      LooksUpAll o config streamId dir now times removable rest
        (collectEpoch o config streamId dir now w epoch)

section Removal

variable {o : Oracle} {config : Config} {stream : StreamState} {dir : String} {now : UInt64}
  {times : UInt64 → Option UInt64} {removable : UInt64 → Bool}

/-- The directory of an epoch is in that of its stream. -/
theorem buildEpochDir_eq (built : buildStreamDir o config stream.streamId = some dir) (epoch : UInt64) :
    buildEpochDir o config stream.streamId epoch = fitted s!"{dir}/{epoch.toNat}" := by
  rw [buildEpochDir, built]
  rfl

/-- The turn of one candidate calls `rmdir` at most for its own directory. -/
theorem collectEpoch_log (built : buildStreamDir o config stream.streamId = some dir) (w : World)
    (epoch : UInt64) (looked : LooksUp o stream.streamId dir times removable epoch w)
    (removed : UInt64) (complete : Bool) :
    .epochRemoved stream.streamId removed complete ∈
        (collectEpoch o config stream.streamId dir now w epoch).log ↔
      .epochRemoved stream.streamId removed complete ∈ w.log ∨
        (removed = epoch ∧ gcTouches config dir now times epoch = true ∧
          removable epoch = complete) := by
  obtain ⟨time, answer⟩ := looked
  unfold collectEpoch gcTouches
  rcases path : fitted s!"{dir}/{epoch.toNat}" with _ | fits
  · simp
  rw [path] at time
  simp only [Option.isNone_some, Bool.false_eq_true, if_false, Option.isSome_some, Bool.true_and]
  rcases time rfl with known | ⟨before, gone⟩
  · rw [known]
    rcases times epoch with _ | modifiedNs
    · simp
    · simp only [Option.any_some, ageAllows, removeEpochDir, buildEpochDir_eq built, path, answer]
      by_cases young : config.epochGcMinAgeNs > 0 ∧ now - modifiedNs < config.epochGcMinAgeNs
      · simp [young]
      · simp only [if_neg young, World.record, World.called_log, List.mem_append,
          List.mem_singleton, Event.epochRemoved.injEq, true_and]
        have allowed : (!(decide (config.epochGcMinAgeNs > 0) &&
            decide (now - modifiedNs < config.epochGcMinAgeNs))) = true := by
          rw [Bool.not_eq_true', ← Bool.not_eq_true, Bool.and_eq_true, decide_eq_true_eq,
            decide_eq_true_eq]
          exact young
        rw [allowed]
        simp [eq_comm]
  · -- The directory was asked for before, so this turn adds no event that is new.
    have unchanged : .epochRemoved stream.streamId removed complete ∈ w.log ↔
        .epochRemoved stream.streamId removed complete ∈ w.log ∨
          (removed = epoch ∧ (times epoch).any (fun modifiedNs => ageAllows config now modifiedNs) = true ∧
            removable epoch = complete) := by
      constructor
      · exact Or.inl
      · rintro (old | ⟨rfl, -, rfl⟩)
        · exact old
        · exact before
    rcases found : o.modified w.calls with _ | modifiedNs
    · exact unchanged
    have refused : removable epoch = false := by
      by_contra granted
      rw [gone (Bool.not_eq_false _ ▸ granted)] at found
      cases found
    dsimp only
    split
    · exact unchanged
    · simp only [removeEpochDir, buildEpochDir_eq built, path, answer, World.record,
        World.called_log, List.mem_append, List.mem_singleton, Event.epochRemoved.injEq, true_and]
      rw [← unchanged]
      constructor
      · rintro (old | ⟨rfl, rfl⟩)
        · exact old
        · exact before
      · exact Or.inl

/-- A whole collection calls `rmdir` exactly for the candidates that it may touch. -/
theorem collectEpochs_log (built : buildStreamDir o config stream.streamId = some dir)
    {candidates : List UInt64} {w : World}
    (looked : LooksUpAll o config stream.streamId dir now times removable candidates w)
    (removed : UInt64) (complete : Bool) :
    .epochRemoved stream.streamId removed complete ∈
        (candidates.foldl (collectEpoch o config stream.streamId dir now) w).log ↔
      .epochRemoved stream.streamId removed complete ∈ w.log ∨
        (removed ∈ candidates.filter (gcTouches config dir now times) ∧
          removable removed = complete) := by
  induction candidates generalizing w with
  | nil => simp
  | cons epoch rest hypothesis =>
      obtain ⟨first, later⟩ := looked
      rw [List.foldl_cons, hypothesis later, collectEpoch_log built w epoch first, List.mem_filter,
        List.mem_filter, List.mem_cons]
      constructor
      · rintro ((old | ⟨rfl, allowed, answer⟩) | ⟨⟨member, allowed⟩, answer⟩)
        · exact Or.inl old
        · exact Or.inr ⟨⟨Or.inl rfl, allowed⟩, answer⟩
        · exact Or.inr ⟨⟨Or.inr member, allowed⟩, answer⟩
      · rintro (old | ⟨⟨rfl | member, allowed⟩, answer⟩)
        · exact Or.inl (Or.inl old)
        · exact Or.inl (Or.inr ⟨rfl, allowed, answer⟩)
        · exact Or.inr ⟨⟨member, allowed⟩, answer⟩

/-- The driver logs the calls of `rmdir` with their answers when its looks see one directory. -/
theorem gcStream_logged (w : World) (looked : ∀ dir entries,
      gcListing o config stream w = some (dir, entries) →
      LooksUpAll o config stream.streamId dir (o.clock w.calls) times removable
        (gcCandidates config.epochGcKeep
          (collectEpochs o dir stream.epoch entries [] 0 w.called.called).1)
        (collectEpochs o dir stream.epoch entries [] 0 w.called.called).2)
    (removed : UInt64) (complete : Bool) :
    .epochRemoved stream.streamId removed complete ∈ (gcStream o config stream w).log ↔
      .epochRemoved stream.streamId removed complete ∈ w.log ∨
        (removed ∈ gcTouched o config stream w times ∧ removable removed = complete) := by
  unfold gcStream gcTouched gcListing at *
  dsimp only at looked ⊢
  split
  · simp
  next enabled =>
    rw [if_neg enabled] at looked
    rcases built : buildStreamDir o config stream.streamId with _ | dir
    · simp
    rcases listed : o.listing w.called.calls with _ | entries
    · simp
    simp only [built, listed, Option.map_some, Option.some.injEq, Prod.mk.injEq, and_imp] at looked
    have calls := collectEpochs_log built (looked dir entries rfl rfl) removed complete
    have none : ∀ epoch ∈ ([] : List UInt64), epoch ≠ stream.epoch := List.forall_mem_nil _
    rw [(collectEpochs_stale o dir entries 0 w.called.called none).2.2] at calls
    exact calls

/-- The removals among the logged calls are those of `gcRemoved`. -/
theorem gcStream_removed (w : World) (looked : ∀ dir entries,
      gcListing o config stream w = some (dir, entries) →
      LooksUpAll o config stream.streamId dir (o.clock w.calls) times removable
        (gcCandidates config.epochGcKeep
          (collectEpochs o dir stream.epoch entries [] 0 w.called.called).1)
        (collectEpochs o dir stream.epoch entries [] 0 w.called.called).2) (removed : UInt64) :
    .epochRemoved stream.streamId removed true ∈ (gcStream o config stream w).log ↔
      .epochRemoved stream.streamId removed true ∈ w.log ∨
        removed ∈ gcRemoved o config stream w times removable := by
  rw [gcStream_logged w looked, gcRemoved, List.mem_filter]

end Removal

section Scan

/-- The memory for the epochs grows to 8, 16, 32 and more places until a growth is refused. -/
def gcRoom (o : Oracle) : Nat → Nat → Nat → Nat
  | 0, capacity, _ => capacity
  | growths + 1, capacity, call =>
      if o.reallocates call then gcRoom o growths (if capacity = 0 then 8 else capacity * 2) (call + 1) else capacity

/-- The entries that the scan reads as other epochs, as far as its memory holds them. -/
def gcCollected (o : Oracle) (stream : StreamState) (dir : String) (entries : List DirEntry) (call : Nat) :
    List UInt64 :=
  (entries.filterMap (staleEpoch dir stream.epoch)).take (gcRoom o entries.length 0 call)

/-- The room of the collection does not shrink. -/
theorem le_gcRoom (o : Oracle) (growths capacity call : Nat) : capacity ≤ gcRoom o growths capacity call := by
  induction growths generalizing capacity call with
  | zero => exact Nat.le_refl _
  | succ growths hypothesis =>
      rw [gcRoom]
      split
      · have larger : capacity ≤ if capacity = 0 then 8 else capacity * 2 := by split <;> omega
        exact Nat.le_trans larger (hypothesis _ _)
      · exact Nat.le_refl _

/-- The scan gathers the entries that its memory has room for. -/
theorem collectEpochs_eq (o : Oracle) (dir : String) (current : UInt64) (entries : List DirEntry)
    {epochs : List UInt64} {capacity growths : Nat} (w : World) (inside : epochs.length ≤ capacity)
    (enough : entries.length ≤ growths) :
    (collectEpochs o dir current entries epochs capacity w).1 = epochs ++
      (entries.filterMap (staleEpoch dir current)).take (gcRoom o growths capacity w.calls - epochs.length) := by
  induction entries generalizing epochs capacity growths w with
  | nil => simp [collectEpochs]
  | cons entry rest hypothesis =>
      rw [List.length_cons] at enough
      rw [collectEpochs]
      rcases stale : staleEpoch dir current entry with _ | epoch
      · rw [List.filterMap_cons_none stale]
        exact hypothesis w inside (by omega)
      · rw [List.filterMap_cons_some stale]
        dsimp only
        have extended : (epochs ++ [epoch]).length = epochs.length + 1 := by simp
        obtain ⟨fewer, rfl⟩ := Nat.exists_eq_add_of_le' (show 1 ≤ growths by omega)
        by_cases full : epochs.length = capacity
        · rw [if_pos full]
          by_cases granted : o.reallocates w.calls = true
          · have room := le_gcRoom o fewer (if capacity = 0 then 8 else capacity * 2) (w.calls + 1)
            have larger : capacity < if capacity = 0 then 8 else capacity * 2 := by split <;> omega
            have more : gcRoom o fewer (if capacity = 0 then 8 else capacity * 2) (w.calls + 1) - epochs.length =
              gcRoom o fewer (if capacity = 0 then 8 else capacity * 2) (w.calls + 1) - (epochs.length + 1) + 1 := by
              omega
            rw [if_pos granted, gcRoom, if_pos granted, more, List.take_succ_cons,
              hypothesis w.called (by omega) (by omega : rest.length ≤ fewer), extended, List.append_assoc]
            rfl
          · rw [if_neg granted, gcRoom, if_neg granted, full, Nat.sub_self, List.take_zero, List.append_nil]
        · have room := le_gcRoom o (fewer + 1) capacity w.calls
          have more : gcRoom o (fewer + 1) capacity w.calls - epochs.length =
            gcRoom o (fewer + 1) capacity w.calls - (epochs.length + 1) + 1 := by omega
          rw [if_neg full, hypothesis w (by omega) (by omega : rest.length ≤ fewer + 1), more, List.take_succ_cons,
            extended, List.append_assoc]
          rfl

theorem gcCollected_eq (o : Oracle) (stream : StreamState) (dir : String) (entries : List DirEntry) (w : World) :
    (collectEpochs o dir stream.epoch entries [] 0 w).1 = gcCollected o stream dir entries w.calls := by
  rw [collectEpochs_eq o dir stream.epoch entries w (Nat.zero_le _) (Nat.le_refl _)]
  rfl

/-- The cut of a sorted list keeps the members that enough members reach. -/
theorem mem_take_sorted {epochs : List UInt64} (sorted : epochs.Pairwise (· ≤ ·)) (spared : Nat) (epoch : UInt64) :
    epoch ∈ epochs.take (epochs.length - spared) ↔
      epoch ∈ epochs ∧ spared < epochs.countP fun other => epoch ≤ other := by
  induction epochs with
  | nil => simp
  | cons first rest hypothesis =>
      rw [List.pairwise_cons] at sorted
      have bounded := (rest.countP_le_length : rest.countP (fun other => epoch ≤ other) ≤ rest.length)
      by_cases enough : spared ≤ rest.length
      · have cut : (first :: rest).length - spared = rest.length - spared + 1 := by
          rw [List.length_cons]
          omega
        rw [cut, List.take_succ_cons, List.mem_cons, List.mem_cons, hypothesis sorted.2, List.countP_cons]
        by_cases same : epoch = first
        · have all : rest.countP (fun other => epoch ≤ other) = rest.length := by
            rw [List.countP_eq_length]
            intro other member
            rw [same]
            simpa using sorted.1 other member
          rw [all]
          simp [same]
          omega
        · constructor
          · rintro (equal | ⟨member, reached⟩)
            · exact absurd equal same
            · exact ⟨Or.inr member, by omega⟩
          · rintro ⟨equal | member, reached⟩
            · exact absurd equal same
            · have above : ¬ epoch ≤ first := fun below =>
                same (UInt64.le_antisymm below (sorted.1 epoch member))
              refine Or.inr ⟨member, ?_⟩
              simpa [above] using reached
      · have cut : (first :: rest).length - spared = 0 := by
          rw [List.length_cons]
          omega
        rw [cut, List.take_zero, List.countP_cons]
        constructor
        · intro absurdity
          cases absurdity
        · rintro ⟨-, reached⟩
          split at reached <;> omega

/-- A collected epoch is a candidate when at least as many collected ones as are kept reach it. -/
theorem mem_gcCandidates {keep : UInt32} (positive : keep ≠ 0) {epochs : List UInt64} {epoch : UInt64} :
    epoch ∈ gcCandidates keep epochs ↔ epoch ∈ epochs ∧ keep.toNat ≤ epochs.countP fun other => epoch ≤ other := by
  have sorted : (epochs.mergeSort fun left right => left ≤ right).Pairwise (· ≤ ·) := by
    have ordered : (epochs.mergeSort fun left right => left ≤ right).Pairwise
        fun left right => decide (left ≤ right) = true := by
      apply List.pairwise_mergeSort
      · intro low middle high first second
        rw [decide_eq_true_eq] at *
        exact UInt64.le_trans first second
      · intro first second
        simpa using UInt64.le_total first second
    exact ordered.imp fun below => by simpa using below
  have perm := List.mergeSort_perm epochs fun left right => left ≤ right
  have nonzero : keep.toNat ≠ 0 := fun zero => positive (UInt32.toNat_inj.mp zero)
  have cut := mem_take_sorted sorted (keep.toNat - 1) epoch
  rw [perm.length_eq, perm.mem_iff, perm.countP_eq] at cut
  rw [gcCandidates, cut]
  apply and_congr_right
  intro _
  omega

end Scan

section Names

/-- An entry is the directory of an epoch when its name is the decimal form of the epoch. -/
def decimalEpoch (entry : DirEntry) : Option UInt64 :=
  (parseEpoch entry.name).filter fun epoch =>
    entry.name == toString epoch.toNat && entry.isDirectory == some true

/-- These are the epochs other than the current one that have a directory. -/
def otherEpochs (current : UInt64) (entries : List DirEntry) : List UInt64 :=
  ((entries.filterMap decimalEpoch).filter fun epoch => epoch ≠ current).dedup

/-- Fewer other epochs than a collection keeps are newer than this one. -/
def Newest (keep : UInt32) (current : UInt64) (entries : List DirEntry) (epoch : UInt64) : Prop :=
  epoch ∈ otherEpochs current entries ∧
    (otherEpochs current entries).countP (fun other => epoch < other) < keep.toNat - 1

/-- These readable entries of a listing find room in the memory that the scan is given. -/
def heldEntries (o : Oracle) (stream : StreamState) (dir : String) (entries : List DirEntry)
    (call : Nat) : List DirEntry :=
  (entries.filter fun entry => (staleEpoch dir stream.epoch entry).isSome).take
    (gcRoom o entries.length 0 call)

/-- So many directories with a decimal name are newer than an epoch. -/
def newerNames (held : List DirEntry) (epoch : UInt64) : Nat :=
  (held.filterMap decimalEpoch).dedup.countP fun other => epoch < other

/-- So many names, decimal or not, read as an epoch or as a newer one. -/
def namesReaching (held : List DirEntry) (epoch : UInt64) : Nat :=
  held.countP fun entry => (parseEpoch entry.name).any fun other => epoch ≤ other

/-- A stale entry is a directory of another epoch. -/
theorem staleEpoch_some {dir : String} {current epoch : UInt64} {entry : DirEntry}
    (stale : staleEpoch dir current entry = some epoch) :
    epoch ≠ current ∧ parseEpoch entry.name = some epoch ∧ entry.isDirectory = some true := by
  unfold staleEpoch at stale
  grind

theorem decimalEpoch_parse {entry : DirEntry} {epoch : UInt64}
    (decimal : decimalEpoch entry = some epoch) : parseEpoch entry.name = some epoch :=
  (Option.filter_eq_some_iff.mp decimal).1

/-- The first results are those of the first items that have one. -/
theorem take_filterMap {α β : Type} (read : α → Option β) (items : List α) (room : Nat) :
    (items.filterMap read).take room =
      ((items.filter fun item => (read item).isSome).take room).filterMap read := by
  induction items generalizing room with
  | nil => simp
  | cons item rest hypothesis =>
      rcases known : read item with _ | value
      · simpa [known] using hypothesis room
      · cases room with
        | zero => simp
        | succ room => simpa [known] using hypothesis room

variable {o : Oracle} {stream : StreamState} {dir : String} {entries : List DirEntry} {call : Nat}

/-- The collected epochs are the readings of the entries that are held. -/
theorem gcCollected_held : gcCollected o stream dir entries call =
    (heldEntries o stream dir entries call).filterMap (staleEpoch dir stream.epoch) :=
  take_filterMap _ _ _

/-- A held entry is a stale one. -/
theorem heldEntries_stale {entry : DirEntry} (held : entry ∈ heldEntries o stream dir entries call) :
    entry ∈ entries ∧ ∃ epoch, staleEpoch dir stream.epoch entry = some epoch := by
  have kept := List.mem_filter.mp (List.mem_of_mem_take held)
  exact ⟨kept.1, Option.isSome_iff_exists.mp kept.2⟩

/-- A collected epoch is that of a held entry. -/
theorem mem_gcCollected {epoch : UInt64} : epoch ∈ gcCollected o stream dir entries call ↔
    ∃ entry ∈ heldEntries o stream dir entries call, parseEpoch entry.name = some epoch := by
  rw [gcCollected_held, List.mem_filterMap]
  constructor
  · rintro ⟨entry, held, stale⟩
    exact ⟨entry, held, (staleEpoch_some stale).2.1⟩
  · rintro ⟨entry, held, read⟩
    obtain ⟨-, other, stale⟩ := heldEntries_stale held
    have same := (staleEpoch_some stale).2.1.symm.trans read
    cases same
    exact ⟨entry, held, stale⟩

/-- The cut looks at as many collected epochs as there are names that reach an epoch. -/
theorem countP_gcCollected (epoch : UInt64) :
    (gcCollected o stream dir entries call).countP (fun other => epoch ≤ other) =
      namesReaching (heldEntries o stream dir entries call) epoch := by
  rw [gcCollected_held, List.countP_filterMap, namesReaching]
  apply List.countP_congr
  intro entry held
  obtain ⟨-, other, stale⟩ := heldEntries_stale held
  rw [stale, (staleEpoch_some stale).2.1]
  simp

/-- The decimal names that are held name collected epochs, and these have a directory. -/
theorem decimal_held {epoch : UInt64}
    (named : epoch ∈ (heldEntries o stream dir entries call).filterMap decimalEpoch) :
    epoch ∈ gcCollected o stream dir entries call ∧ epoch ∈ otherEpochs stream.epoch entries := by
  obtain ⟨entry, held, decimal⟩ := List.mem_filterMap.mp named
  obtain ⟨listed, other, stale⟩ := heldEntries_stale held
  have same := (staleEpoch_some stale).2.1.symm.trans (decimalEpoch_parse decimal)
  cases same
  refine ⟨mem_gcCollected.mpr ⟨entry, held, decimalEpoch_parse decimal⟩, ?_⟩
  rw [otherEpochs, List.mem_dedup, List.mem_filter]
  refine ⟨List.mem_filterMap.mpr ⟨entry, listed, decimal⟩, ?_⟩
  simpa using (staleEpoch_some stale).1

/-- The newer decimal names reach an epoch, and the name that the epoch is read from does. -/
theorem newerNames_lt {epoch : UInt64} (member : epoch ∈ gcCollected o stream dir entries call) :
    newerNames (heldEntries o stream dir entries call) epoch <
      namesReaching (heldEntries o stream dir entries call) epoch := by
  have names := List.nodup_dedup ((heldEntries o stream dir entries call).filterMap decimalEpoch)
  have newer := names.filter fun other => decide (epoch < other)
  have unique : (epoch :: ((heldEntries o stream dir entries call).filterMap decimalEpoch).dedup.filter
      fun other => epoch < other).Nodup := by
    refine List.nodup_cons.mpr ⟨?_, newer⟩
    intro above
    have strict := (List.mem_filter.mp above).2
    simp at strict
  have known : (epoch :: ((heldEntries o stream dir entries call).filterMap decimalEpoch).dedup.filter
      fun other => epoch < other) ⊆
      (gcCollected o stream dir entries call).filter fun other => epoch ≤ other := by
    intro other reached
    rw [List.mem_filter]
    rcases List.mem_cons.mp reached with rfl | above
    · exact ⟨member, by simp⟩
    · obtain ⟨named, strict⟩ := List.mem_filter.mp above
      have below : epoch < other := by simpa using strict
      exact ⟨(decimal_held (List.mem_dedup.mp named)).1, by simpa using UInt64.le_of_lt below⟩
  have counted := (unique.subperm known).length_le
  rw [List.length_cons, ← List.countP_eq_length_filter, ← List.countP_eq_length_filter,
    countP_gcCollected] at counted
  exact counted

/-- Enough newer decimal names put an epoch outside those that a collection spares. -/
theorem enough_not_newest {keep : UInt32} {epoch : UInt64}
    (enough : keep.toNat ≤ newerNames (heldEntries o stream dir entries call) epoch + 1) :
    ¬ Newest keep stream.epoch entries epoch := by
  rintro ⟨-, few⟩
  have names := List.nodup_dedup ((heldEntries o stream dir entries call).filterMap decimalEpoch)
  have known : ((heldEntries o stream dir entries call).filterMap decimalEpoch).dedup ⊆
      otherEpochs stream.epoch entries :=
    fun other named => (decimal_held (List.mem_dedup.mp named)).2
  have newer := (names.subperm known).countP_le fun other => epoch < other
  unfold newerNames at enough
  omega

theorem countP_le_eq (epochs : List UInt64) (epoch : UInt64) :
    epochs.countP (fun other => epoch ≤ other) =
      epochs.countP (fun other => epoch < other) + epochs.count epoch := by
  induction epochs with
  | nil => rfl
  | cons first rest hypothesis =>
      rw [List.countP_cons, List.countP_cons, List.count_cons, hypothesis]
      by_cases same : first = epoch
      · simp [same]
        omega
      · have different : first.toNat ≠ epoch.toNat := fun equal => same (UInt64.toNat_inj.mp equal)
        have strict : epoch ≤ first ↔ epoch < first := by
          rw [UInt64.le_iff_toNat_le, UInt64.lt_iff_toNat_lt]
          omega
        simp [same, strict]
        omega

/-- Distinct decimal names alone reach an epoch that one of them names. -/
theorem namesReaching_decimal (decimal : ∀ entry ∈ entries, ∀ epoch,
      staleEpoch dir stream.epoch entry = some epoch → decimalEpoch entry = some epoch)
    (distinct : (entries.filterMap (staleEpoch dir stream.epoch)).Nodup) (epoch : UInt64) :
    namesReaching (heldEntries o stream dir entries call) epoch ≤
      newerNames (heldEntries o stream dir entries call) epoch + 1 := by
  have unique : (gcCollected o stream dir entries call).Nodup :=
    distinct.sublist (List.take_sublist _ _)
  have named : (heldEntries o stream dir entries call).filterMap decimalEpoch =
      gcCollected o stream dir entries call := by
    rw [gcCollected_held]
    apply List.filterMap_congr
    intro entry held
    obtain ⟨listed, other, stale⟩ := heldEntries_stale held
    rw [stale, decimal entry listed other stale]
  rw [← countP_gcCollected, newerNames, named, unique.dedup, countP_le_eq]
  have once := List.nodup_iff_count_le_one.mp unique epoch
  omega

end Names

/--
A collection at the real time `realNs` spares what is current, newest or young.
It unlinks nothing of the current epoch and uses decimal paths only.
-/
structure GcSafe (o : Oracle) (config : Config) (stream : StreamState) (w : World)
    (times : UInt64 → Option UInt64) (removable : UInt64 → Bool) (realNs : Nat) : Prop where
  current : stream.epoch ∉ gcTouched o config stream w times
  newest : ∀ epoch ∈ gcRemoved o config stream w times removable, ∀ dir entries,
    gcListing o config stream w = some (dir, entries) →
      ¬ Newest config.epochGcKeep stream.epoch entries epoch
  young : ∀ epoch ∈ gcRemoved o config stream w times removable, ∀ modifiedNs,
    times epoch = some modifiedNs → config.epochGcMinAgeNs.toNat ≤ realNs - modifiedNs.toNat
  decimal : ∀ epoch ∈ gcTouched o config stream w times, ∃ dir,
    buildStreamDir o config stream.streamId = some dir ∧
      buildEpochDir o config stream.streamId epoch = some s!"{dir}/{epoch.toNat}"

/-- The monotonic reading lies inside the minimum age behind a modification time, modulo 64 bits. -/
def SeenYoung (minAgeNs monotonicNs modifiedNs : UInt64) : Prop :=
  (modifiedNs.toNat ≤ monotonicNs.toNat ∧ monotonicNs.toNat < modifiedNs.toNat + minAgeNs.toNat) ∨
    monotonicNs.toNat + 2 ^ 64 < modifiedNs.toNat + minAgeNs.toNat

instance (minAgeNs monotonicNs modifiedNs : UInt64) :
    Decidable (SeenYoung minAgeNs monotonicNs modifiedNs) :=
  inferInstanceAs (Decidable (_ ∨ _))

/-- A held name reads as this epoch, and the directory of its decimal path can be removed. -/
structure CanGo (held : List DirEntry) (dir : String) (times : UInt64 → Option UInt64)
    (removable : UInt64 → Bool) (epoch modifiedNs : UInt64) : Prop where
  read : ∃ entry ∈ held, parseEpoch entry.name = some epoch
  fits : (fitted s!"{dir}/{epoch.toNat}").isSome = true
  known : times epoch = some modifiedNs
  granted : removable epoch = true

/--
The clocks agree on the young directories that are not among the newest ones by their names.
The names that are no decimal epochs lift no directory to the cut that has to stay.
-/
structure GcHeld (o : Oracle) (config : Config) (stream : StreamState) (w : World)
    (times : UInt64 → Option UInt64) (removable : UInt64 → Bool) (realNs : Nat) : Prop where
  clocks : ∀ dir entries, gcListing o config stream w = some (dir, entries) → ∀ epoch modifiedNs,
    CanGo (heldEntries o stream dir entries w.called.called.calls) dir times removable epoch
      modifiedNs →
    config.epochGcKeep.toNat ≤
      newerNames (heldEntries o stream dir entries w.called.called.calls) epoch + 1 →
    realNs - modifiedNs.toNat < config.epochGcMinAgeNs.toNat →
    SeenYoung config.epochGcMinAgeNs (o.clock w.calls) modifiedNs
  names : ∀ dir entries, gcListing o config stream w = some (dir, entries) → ∀ epoch modifiedNs,
    CanGo (heldEntries o stream dir entries w.called.called.calls) dir times removable epoch
      modifiedNs →
    newerNames (heldEntries o stream dir entries w.called.called.calls) epoch + 1 <
      config.epochGcKeep.toNat →
    config.epochGcKeep.toNat ≤
      namesReaching (heldEntries o stream dir entries w.called.called.calls) epoch →
    Newest config.epochGcKeep stream.epoch entries epoch ∨
      realNs - modifiedNs.toNat < config.epochGcMinAgeNs.toNat →
    SeenYoung config.epochGcMinAgeNs (o.clock w.calls) modifiedNs

section Safety

variable {o : Oracle} {config : Config} {stream : StreamState} {w : World}
  {times : UInt64 → Option UInt64} {removable : UInt64 → Bool}

/-- A directory is listed only when a count to keep is configured. -/
theorem gcListing_some {dir : String} {entries : List DirEntry}
    (listed : gcListing o config stream w = some (dir, entries)) :
    config.epochGcKeep ≠ 0 ∧ buildStreamDir o config stream.streamId = some dir := by
  unfold gcListing at listed
  split at listed
  · cases listed
  next enabled =>
    split at listed
    · cases listed
    next built =>
      obtain ⟨_, -, same⟩ := Option.map_eq_some_iff.mp listed
      cases same
      exact ⟨fun zero => enabled (by simp [zero]), built⟩

/-- The age test keeps what the monotonic clock sees as young. -/
theorem ageAllows_iff {now modifiedNs : UInt64} : ageAllows config now modifiedNs = true ↔
    ¬ SeenYoung config.epochGcMinAgeNs now modifiedNs := by
  have readable := now.toNat_lt
  have possible := modifiedNs.toNat_lt
  rw [ageAllows, Bool.not_eq_true', ← Bool.not_eq_true, Bool.and_eq_true, decide_eq_true_eq,
    decide_eq_true_eq, SeenYoung, gt_iff_lt, UInt64.lt_iff_toNat_lt, UInt64.lt_iff_toNat_lt,
    UInt64.toNat_sub, UInt64.toNat_zero]
  omega

/-- The touched epochs are the old ones that the directory lets go. -/
theorem mem_gcTouched {epoch : UInt64} : epoch ∈ gcTouched o config stream w times ↔
    ∃ dir entries modifiedNs, gcListing o config stream w = some (dir, entries) ∧
      (∃ entry ∈ heldEntries o stream dir entries w.called.called.calls,
        parseEpoch entry.name = some epoch) ∧
      config.epochGcKeep.toNat ≤
        namesReaching (heldEntries o stream dir entries w.called.called.calls) epoch ∧
      (fitted s!"{dir}/{epoch.toNat}").isSome = true ∧ times epoch = some modifiedNs ∧
      ¬ SeenYoung config.epochGcMinAgeNs (o.clock w.calls) modifiedNs := by
  unfold gcTouched
  rcases listed : gcListing o config stream w with _ | ⟨dir, entries⟩
  · simp
  dsimp only
  rw [List.mem_filter, mem_gcCandidates (gcListing_some listed).1, gcCollected_eq, mem_gcCollected,
    countP_gcCollected, gcTouches, Bool.and_eq_true, Option.any_eq_true]
  constructor
  · rintro ⟨⟨member, reached⟩, fits, modifiedNs, known, old⟩
    exact ⟨dir, entries, modifiedNs, rfl, member, reached, fits, known, ageAllows_iff.mp old⟩
  · rintro ⟨_, _, modifiedNs, same, member, reached, fits, known, old⟩
    cases same
    exact ⟨⟨member, reached⟩, fits, modifiedNs, known, ageAllows_iff.mpr old⟩

/-- The removed epochs are the directories that can go, reach the cut and do not look young. -/
theorem mem_gcRemoved {epoch : UInt64} : epoch ∈ gcRemoved o config stream w times removable ↔
    ∃ dir entries modifiedNs, gcListing o config stream w = some (dir, entries) ∧
      CanGo (heldEntries o stream dir entries w.called.called.calls) dir times removable epoch
        modifiedNs ∧
      config.epochGcKeep.toNat ≤
        namesReaching (heldEntries o stream dir entries w.called.called.calls) epoch ∧
      ¬ SeenYoung config.epochGcMinAgeNs (o.clock w.calls) modifiedNs := by
  rw [gcRemoved, List.mem_filter, mem_gcTouched]
  constructor
  · rintro ⟨⟨dir, entries, modifiedNs, listed, read, reached, fits, known, old⟩, granted⟩
    exact ⟨dir, entries, modifiedNs, listed, ⟨read, fits, known, granted⟩, reached, old⟩
  · rintro ⟨dir, entries, modifiedNs, listed, ⟨read, fits, known, granted⟩, reached, old⟩
    exact ⟨⟨dir, entries, modifiedNs, listed, read, reached, fits, known, old⟩, granted⟩

/-- A name that reads as the current epoch is not held. -/
theorem current_untouched : stream.epoch ∉ gcTouched o config stream w times := by
  intro touched
  obtain ⟨dir, entries, _, _, ⟨entry, held, read⟩, _⟩ := mem_gcTouched.mp touched
  obtain ⟨-, other, stale⟩ := heldEntries_stale held
  obtain ⟨different, other_read, -⟩ := staleEpoch_some stale
  cases other_read.symm.trans read
  exact different rfl

/-- The path of a touched epoch is its decimal one. -/
theorem touched_decimal {epoch : UInt64} (touched : epoch ∈ gcTouched o config stream w times) :
    ∃ dir, buildStreamDir o config stream.streamId = some dir ∧
      buildEpochDir o config stream.streamId epoch = some s!"{dir}/{epoch.toNat}" := by
  obtain ⟨dir, entries, _, listed, _, _, fits, _⟩ := mem_gcTouched.mp touched
  obtain ⟨-, built⟩ := gcListing_some listed
  refine ⟨dir, built, ?_⟩
  rw [buildEpochDir_eq built]
  unfold fitted at fits ⊢
  split at fits
  · cases fits
  next short => rw [if_neg short]

/-- A collection is safe exactly when the clocks and the names hold back what must stay. -/
theorem gcStream_safe_iff (o : Oracle) (config : Config) (stream : StreamState) (w : World)
    (times : UInt64 → Option UInt64) (removable : UInt64 → Bool) (realNs : Nat) :
    GcSafe o config stream w times removable realNs ↔
      GcHeld o config stream w times removable realNs := by
  constructor
  · intro safe
    refine ⟨?_, ?_⟩
    · intro dir entries listed epoch modifiedNs free enough young
      by_contra old
      have above := newerNames_lt (mem_gcCollected.mpr free.read)
      have removed := mem_gcRemoved.mpr
        ⟨dir, entries, modifiedNs, listed, free, Nat.le_trans enough above, old⟩
      exact absurd (safe.young epoch removed modifiedNs free.known) (Nat.not_le.mpr young)
    · intro dir entries listed epoch modifiedNs free _ reached must
      by_contra old
      have removed := mem_gcRemoved.mpr ⟨dir, entries, modifiedNs, listed, free, reached, old⟩
      rcases must with newest | young
      · exact safe.newest epoch removed dir entries listed newest
      · exact absurd (safe.young epoch removed modifiedNs free.known) (Nat.not_le.mpr young)
  · intro held
    refine ⟨current_untouched, ?_, ?_, fun epoch touched => touched_decimal touched⟩
    · intro epoch removed dir entries listed newest
      obtain ⟨_, _, modifiedNs, same, free, reached, old⟩ := mem_gcRemoved.mp removed
      cases listed.symm.trans same
      by_cases enough : config.epochGcKeep.toNat ≤
          newerNames (heldEntries o stream dir entries w.called.called.calls) epoch + 1
      · exact enough_not_newest enough newest
      · exact old (held.names dir entries listed epoch modifiedNs free (Nat.not_le.mp enough) reached
          (Or.inl newest))
    · intro epoch removed modifiedNs given
      obtain ⟨dir, entries, _, listed, free, reached, old⟩ := mem_gcRemoved.mp removed
      cases given.symm.trans free.known
      by_contra recent
      have young := Nat.not_le.mp recent
      by_cases enough : config.epochGcKeep.toNat ≤
          newerNames (heldEntries o stream dir entries w.called.called.calls) epoch + 1
      · exact old (held.clocks dir entries listed epoch modifiedNs free enough young)
      · exact old (held.names dir entries listed epoch modifiedNs free (Nat.not_le.mp enough) reached
          (Or.inr young))

/-- Distinct decimal names and clocks that agree on the young directories make a collection safe. -/
theorem gcHeld_of_decimal {realNs : Nat}
    (decimal : ∀ dir entries, gcListing o config stream w = some (dir, entries) →
      (entries.filterMap (staleEpoch dir stream.epoch)).Nodup ∧ ∀ entry ∈ entries, ∀ epoch,
        staleEpoch dir stream.epoch entry = some epoch → decimalEpoch entry = some epoch)
    (clocks : ∀ epoch modifiedNs, times epoch = some modifiedNs →
      realNs - modifiedNs.toNat < config.epochGcMinAgeNs.toNat →
      SeenYoung config.epochGcMinAgeNs (o.clock w.calls) modifiedNs) :
    GcHeld o config stream w times removable realNs := by
  refine ⟨?_, ?_⟩
  · intro dir entries _ epoch modifiedNs free _ young
    exact clocks epoch modifiedNs free.known young
  · intro dir entries listed epoch modifiedNs _ few reached _
    obtain ⟨distinct, named⟩ := decimal dir entries listed
    have most := @namesReaching_decimal o stream dir entries w.called.called.calls named distinct epoch
    omega

end Safety

/-- The driver's clock counts from the start of the machine, and the directory was modified a second ago. -/
def bootClock : Oracle :=
  { plainOracle with clock := fun _ => 1000000000000, listing := fun _ => some [⟨"5", some true⟩] }

def youngEpoch : UInt64 → Option UInt64 := fun epoch => if epoch = 5 then some 1700000000000000000 else none

/-- A directory that is one second old is removed although the minimum age is three seconds. -/
theorem gcStream_removes_young : ¬ ∀ (o : Oracle) (config : Config) (stream : StreamState) (w : World)
    (times : UInt64 → Option UInt64) (removable : UInt64 → Bool) (realNs : Nat),
    GcSafe o config stream w times removable realNs := by
  intro claim
  have safe := claim bootClock
    { plainConfig with epochGcEnabled := true, epochGcKeep := 1, epochGcMinAgeNs := 3000000000 }
    { streamId := 1, epoch := 7 } {} youngEpoch (fun _ => true) 1700000001000000000
  have removed : (5 : UInt64) ∈ gcRemoved bootClock
      { plainConfig with epochGcEnabled := true, epochGcKeep := 1, epochGcMinAgeNs := 3000000000 }
      { streamId := 1, epoch := 7 } {} youngEpoch fun _ => true := by
    rw [gcRemoved, List.mem_filter, mem_gcTouched]
    refine ⟨⟨"/dev/shm/tensorpool-unknown/default/1", [⟨"5", some true⟩], 1700000000000000000, ?_⟩, rfl⟩
    decide +kernel
  exact absurd (safe.young 5 removed 1700000000000000000 rfl) (by decide)

end TensorPool.Driver
