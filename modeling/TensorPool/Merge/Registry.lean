/-
This file holds the registry of merge maps and follows its upserts.
-/

import TensorPool.Library.GuardedRun
import TensorPool.Library.Slots
import TensorPool.Merge.Types

namespace TensorPool.Merge

inductive MergeMapKind where
  | sequence
  | timestamp
  deriving DecidableEq, Repr

/-- A free entry is all zero. -/
structure Entry where
  inUse : Bool := false
  kind : MergeMapKind := .sequence
  outStreamId : UInt32 := 0
  epoch : UInt64 := 0
  lastAnnounceNs : UInt64 := 0
  sequenceMap : SequenceMergeMap := ⟨0, 0, 0, []⟩
  timestampMap : TimestampMergeMap := ⟨0, 0, 0, 0, 0, []⟩
  deriving DecidableEq, Repr

/-- An upsert stores its map, is refused with a text, or gets no memory for the rules. -/
inductive UpsertResult where
  | stored
  | refused (text : String)
  | unallocated
  deriving DecidableEq, Repr

namespace Entry

def serves (kind : MergeMapKind) (outStreamId : UInt32) (epoch : UInt64) (entry : Entry) : Bool :=
  entry.inUse && entry.kind == kind && entry.outStreamId == outStreamId && entry.epoch == epoch

/-- The entry is in use for another epoch of the stream. -/
def outdated (kind : MergeMapKind) (outStreamId : UInt32) (epoch : UInt64) (entry : Entry) : Bool :=
  entry.inUse && entry.kind == kind && entry.outStreamId == outStreamId && entry.epoch != epoch

/-- An entry in use is for one kind of map and one output. -/
def key (entry : Entry) : Option (MergeMapKind × UInt32) :=
  if entry.inUse then some (entry.kind, entry.outStreamId) else none

end Entry

section Registry

variable (entries : List Entry) (kind : MergeMapKind) (outStreamId : UInt32) (epoch : UInt64)

def findEntry : Option Entry := entries.find? (Entry.serves kind outStreamId epoch)

def findSequence : Option SequenceMergeMap := (findEntry entries .sequence outStreamId epoch).map Entry.sequenceMap

def findTimestamp : Option TimestampMergeMap :=
  (findEntry entries .timestamp outStreamId epoch).map Entry.timestampMap

/-- The loop stops at the entry of the map and remembers the first free one. -/
def findSlotFrom : Nat → Option Nat → List Entry → Option Nat
  | _, slot, [] => slot
  | index, slot, entry :: rest =>
      if entry.inUse then
        if entry.serves kind outStreamId epoch then some index else findSlotFrom (index + 1) slot rest
      else
        findSlotFrom (index + 1) (if slot.isNone then some index else slot) rest

def findSlot : Option Nat := findSlotFrom kind outStreamId epoch 0 none entries

def invalidateStream : List Entry :=
  entries.map fun entry => if entry.outdated kind outStreamId epoch then {} else entry

/-- The slot is cleared before the rules are allocated. -/
def upsert (caller : String) (needsRules allocates : Bool) (filled : Entry) : UpsertResult × List Entry :=
  let entries := invalidateStream entries kind outStreamId epoch
  match findSlot entries kind outStreamId epoch with
  | none => (.refused (caller ++ ": registry full"), entries)
  | some index =>
      if needsRules && !allocates then (.unallocated, entries.set index {})
      else (.stored, (entries.set index {}).set index filled)

end Registry

def Entry.ofSequence (map : SequenceMergeMap) (nowNs : UInt64) : Entry where
  inUse := true
  kind := .sequence
  outStreamId := map.outStreamId
  epoch := map.epoch
  lastAnnounceNs := nowNs
  sequenceMap := map

def Entry.ofTimestamp (map : TimestampMergeMap) (nowNs : UInt64) : Entry where
  inUse := true
  kind := .timestamp
  outStreamId := map.outStreamId
  epoch := map.epoch
  lastAnnounceNs := nowNs
  timestampMap := map

/-- The pointer to the rules may be null, and an empty list of rules is not allocated. -/
def upsertSequence (entries : List Entry) (map : SequenceMergeMap) (rulesGiven : Bool) (nowNs : UInt64)
    (allocates : Bool) : UpsertResult × List Entry :=
  if !rulesGiven then (.refused "tp_merge_map_registry_upsert_sequence: null input", entries)
  else upsert entries .sequence map.outStreamId map.epoch "tp_merge_map_registry_upsert_sequence" (!map.rules.isEmpty)
    allocates (.ofSequence map nowNs)

def upsertTimestamp (entries : List Entry) (map : TimestampMergeMap) (rulesGiven : Bool) (nowNs : UInt64)
    (allocates : Bool) : UpsertResult × List Entry :=
  if !rulesGiven then (.refused "tp_merge_map_registry_upsert_timestamp: null input", entries)
  else upsert entries .timestamp map.outStreamId map.epoch "tp_merge_map_registry_upsert_timestamp"
    (!map.rules.isEmpty) allocates (.ofTimestamp map nowNs)

inductive MergeMap where
  | sequence (map : SequenceMergeMap)
  | timestamp (map : TimestampMergeMap)
  deriving DecidableEq, Repr

namespace MergeMap

def kind : MergeMap → MergeMapKind
  | .sequence _ => .sequence
  | .timestamp _ => .timestamp

def outStreamId : MergeMap → UInt32
  | .sequence map => map.outStreamId
  | .timestamp map => map.outStreamId

def epoch : MergeMap → UInt64
  | .sequence map => map.epoch
  | .timestamp map => map.epoch

def ruleless : MergeMap → Bool
  | .sequence map => map.rules.isEmpty
  | .timestamp map => map.rules.isEmpty

def key (map : MergeMap) : MergeMapKind × UInt32 := (map.kind, map.outStreamId)

end MergeMap

/-- One call of the registry, with the outcome of its allocation. -/
structure Upsert where
  map : MergeMap
  rulesGiven : Bool := true
  nowNs : UInt64
  allocates : Bool := true
  deriving DecidableEq, Repr

namespace Upsert

def entry (call : Upsert) : Entry :=
  match call.map with
  | .sequence map => .ofSequence map call.nowNs
  | .timestamp map => .ofTimestamp map call.nowNs

def perform (call : Upsert) (entries : List Entry) : UpsertResult × List Entry :=
  match call.map with
  | .sequence map => upsertSequence entries map call.rulesGiven call.nowNs call.allocates
  | .timestamp map => upsertTimestamp entries map call.rulesGiven call.nowNs call.allocates

end Upsert

/-- A registry with the calls that stored their maps, the last one first. -/
structure Recorded where
  entries : List Entry
  log : List Upsert := []
  deriving DecidableEq, Repr

namespace Recorded

/-- A registry starts with free entries. -/
def start (capacity : Nat) : Recorded := { entries := List.replicate capacity {} }

def after (state : Recorded) (call : Upsert) : Recorded :=
  { entries := (call.perform state.entries).2
    log := if (call.perform state.entries).1 = .stored then call :: state.log else state.log }

def step (state : Recorded) (call : Upsert) : Option Recorded := some (state.after call)

/-- The last stored map of a kind and an output. -/
def last (state : Recorded) (key : MergeMapKind × UInt32) : Option Upsert :=
  state.log.find? fun call => call.map.key = key

def lastSequence (state : Recorded) (outStreamId : UInt32) : Option SequenceMergeMap :=
  (state.last (.sequence, outStreamId)).map fun call => call.entry.sequenceMap

def lastTimestamp (state : Recorded) (outStreamId : UInt32) : Option TimestampMergeMap :=
  (state.last (.timestamp, outStreamId)).map fun call => call.entry.timestampMap

/-- The registry holds one entry for each output, and a lookup finds its last stored map when the epoch is its own. -/
structure Latest (state : Recorded) : Prop where
  unique : ∀ key, (Slots.held Entry.key key state.entries).length ≤ 1
  sequence : ∀ outStreamId epoch, findSequence state.entries outStreamId epoch =
    (state.lastSequence outStreamId).filter fun map => map.epoch == epoch
  timestamp : ∀ outStreamId epoch, findTimestamp state.entries outStreamId epoch =
    (state.lastTimestamp outStreamId).filter fun map => map.epoch == epoch

/-- A call changes no entry of another key, and when it fails no lookup. -/
structure Contained (state : Recorded) (call : Upsert) : Prop where
  others : ∀ (index : Nat) entry, state.entries[index]? = some entry → entry.inUse = true →
    entry.key ≠ some call.map.key → (state.after call).entries[index]? = some entry
  failed : (call.perform state.entries).1 ≠ .stored → ∀ outStreamId epoch,
    findSequence (state.after call).entries outStreamId epoch = findSequence state.entries outStreamId epoch ∧
      findTimestamp (state.after call).entries outStreamId epoch = findTimestamp state.entries outStreamId epoch

/-- The allocation of the rules succeeds, or is not needed, or the output has no entry that it could lose. -/
def spared (state : Recorded) (call : Upsert) : Bool :=
  !call.rulesGiven || call.map.ruleless || call.allocates ||
    state.entries.all fun entry => entry.key != some call.map.key

end Recorded

end TensorPool.Merge
