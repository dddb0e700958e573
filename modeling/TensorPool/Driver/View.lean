/-
This file reads the stream table as a map from stream identifiers.
-/

import Mathlib.Data.List.GetD
import Mathlib.Logic.Function.Basic
import TensorPool.Driver.Lease

namespace TensorPool.Driver

/-- The core of a stream leaves out its time stamps and its page size. -/
def StreamState.core (stream : StreamState) : StreamState :=
  { stream with epochCreatedNs := 0, lastAnnounceNs := 0, requireHugepages := false }

@[simp] theorem StreamState.core_streamId (stream : StreamState) :
    stream.core.streamId = stream.streamId := rfl
@[simp] theorem StreamState.core_profile (stream : StreamState) :
    stream.core.profile = stream.profile := rfl
@[simp] theorem StreamState.core_epoch (stream : StreamState) : stream.core.epoch = stream.epoch := rfl
@[simp] theorem StreamState.core_producerLeaseId (stream : StreamState) :
    stream.core.producerLeaseId = stream.producerLeaseId := rfl
@[simp] theorem StreamState.core_producerClientId (stream : StreamState) :
    stream.core.producerClientId = stream.producerClientId := rfl
@[simp] theorem StreamState.core_core (stream : StreamState) : stream.core.core = stream.core := rfl

/-- Streams with one core have one identifier. -/
theorem StreamState.same_streamId {stream stream' : StreamState} (same : stream'.core = stream.core) :
    stream'.streamId = stream.streamId := by
  rw [← StreamState.core_streamId, same, StreamState.core_streamId]

/-- A lookup gives the core of the first stream with the identifier. -/
def State.view (s : State) (streamId : UInt32) : Option StreamState :=
  (findStream s.streams streamId).map fun index => (s.streamAt index).core

@[simp] theorem setStream_config (s : State) (index : Nat) (stream : StreamState) (w : World) :
    (s.setStream index stream w).config = s.config := rfl
@[simp] theorem setStream_leases (s : State) (index : Nat) (stream : StreamState) (w : World) :
    (s.setStream index stream w).leases = s.leases := rfl
@[simp] theorem setStream_leaseCounter (s : State) (index : Nat) (stream : StreamState) (w : World) :
    (s.setStream index stream w).leaseCounter = s.leaseCounter := rfl
@[simp] theorem setStream_nodeIdCooldowns (s : State) (index : Nat) (stream : StreamState) (w : World) :
    (s.setStream index stream w).nodeIdCooldowns = s.nodeIdCooldowns := rfl
@[simp] theorem setStream_world (s : State) (index : Nat) (stream : StreamState) (w : World) :
    (s.setStream index stream w).world = w := rfl
@[simp] theorem setStream_streams (s : State) (index : Nat) (stream : StreamState) (w : World) :
    (s.setStream index stream w).streams = s.streams.set index stream := rfl
@[simp] theorem setStream_ranges (s : State) (index : Nat) (stream : StreamState) (w : World) :
    (s.setStream index stream w).streamIdRanges = s.streamIdRanges := rfl

/-- Inside the table the lookup is that of the list. -/
theorem streamAt_eq {s : State} {index : Nat} (inside : index < s.streams.length) :
    s.streamAt index = s.streams[index] := by
  rw [State.streamAt, List.getD_eq_getElem _ _ inside]

/-- A written stream is read again. -/
theorem streamAt_setStream {s : State} {index : Nat} (inside : index < s.streams.length)
    (stream : StreamState) (w : World) : (s.setStream index stream w).streamAt index = stream := by
  rw [streamAt_eq (by simpa using inside)]
  simp

/-- A written stream leaves the others. -/
theorem streamAt_setStream_ne {s : State} {index other : Nat} (different : other ≠ index)
    (stream : StreamState) (w : World) :
    (s.setStream index stream w).streamAt other = s.streamAt other := by
  rw [State.streamAt, State.streamAt, List.getD_eq_getElem?_getD, List.getD_eq_getElem?_getD,
    setStream_streams, List.getElem?_set_ne (Ne.symm different)]

/-- A found index names the first stream with the identifier. -/
theorem findStream_eq_some {streams : List StreamState} {streamId : UInt32} {index : Nat} :
    findStream streams streamId = some index ↔ streamId ≠ 0 ∧ ∃ inside : index < streams.length,
      streams[index].streamId = streamId ∧
        ∀ earlier (before : earlier < index), streams[earlier].streamId ≠ streamId := by
  unfold findStream
  split <;> simp_all [List.findIdx?_eq_some_iff_getElem]

/-- The lookup reads nothing but the identifiers. -/
theorem findStream_congr {left right : List StreamState}
    (same : left.map StreamState.streamId = right.map StreamState.streamId) (streamId : UInt32) :
    findStream left streamId = findStream right streamId := by
  have reads (streams : List StreamState) :
      (streams.findIdx? fun stream => stream.streamId == streamId) =
        (streams.map StreamState.streamId).findIdx? (· == streamId) := by
    rw [List.findIdx?_map]
    rfl
  unfold findStream
  rw [reads, reads, same]

/-- A write that keeps the identifier of its stream keeps every lookup. -/
theorem findStream_set {streams : List StreamState} {index : Nat} {stream : StreamState}
    (same : stream.streamId = (streams.getD index {}).streamId) (streamId : UInt32) :
    findStream (streams.set index stream) streamId = findStream streams streamId := by
  apply findStream_congr
  rw [List.map_set]
  by_cases inside : index < streams.length
  · rw [same, List.getD_eq_getElem _ _ inside, ← List.getElem_map StreamState.streamId
      (h := by simpa using inside), List.set_getElem_self]
  · rw [List.set_eq_of_length_le (by simpa using inside)]

/-- The found index is inside the table, at a stream with the identifier. -/
theorem findStream_inside {s : State} {streamId : UInt32} {index : Nat}
    (found : findStream s.streams streamId = some index) :
    index < s.streams.length ∧ (s.streamAt index).streamId = streamId := by
  obtain ⟨-, inside, same, -⟩ := findStream_eq_some.mp found
  exact ⟨inside, (streamAt_eq inside).symm ▸ same⟩

/-- The view shows the first stream with the identifier. -/
theorem view_found {s : State} {streamId : UInt32} {index : Nat}
    (found : findStream s.streams streamId = some index) :
    s.view streamId = some (s.streamAt index).core := by
  rw [State.view, found, Option.map_some]

/-- The view shows no stream exactly when none is found. -/
theorem view_eq_none {s : State} {streamId : UInt32} :
    s.view streamId = none ↔ findStream s.streams streamId = none := Option.map_eq_none_iff

/-- The view shows a stream exactly when it is found. -/
theorem view_eq_some {s : State} {streamId : UInt32} {stream : StreamState} :
    s.view streamId = some stream ↔
      ∃ index, findStream s.streams streamId = some index ∧ (s.streamAt index).core = stream :=
  Option.map_eq_some_iff

/-- The identifier 0 stands for no stream. -/
@[simp] theorem view_zero (s : State) : s.view 0 = none := rfl

/-- The view depends on the table only. -/
theorem view_congr {s s' : State} (same : s'.streams = s.streams) : s'.view = s.view := by
  funext streamId
  simp only [State.view, State.streamAt, same]

/-- A write through a found index changes one place of the view. -/
theorem view_setStream {s : State} {streamId : UInt32} {index : Nat} {stream : StreamState} (w : World)
    (found : findStream s.streams streamId = some index) (same : stream.streamId = streamId) :
    (s.setStream index stream w).view = Function.update s.view streamId (some stream.core) := by
  obtain ⟨inside, old⟩ := findStream_inside found
  have lookup (other : UInt32) : findStream (s.streams.set index stream) other =
      findStream s.streams other := findStream_set (same.trans old.symm) other
  funext other
  by_cases here : other = streamId
  · subst here
    rw [Function.update_self, State.view, setStream_streams, lookup, found, Option.map_some,
      streamAt_setStream inside]
  · rw [Function.update_of_ne here, State.view, State.view, setStream_streams, lookup]
    rcases elsewhere : findStream s.streams other with _ | place
    · rfl
    · have different : place ≠ index := by
        rintro rfl
        exact here ((findStream_inside elsewhere).2.symm.trans old)
      simp only [Option.map_some, streamAt_setStream_ne different]

/-- A write that keeps the core keeps the whole view. -/
theorem view_setStream_core {s : State} {index : Nat} {stream : StreamState} (w : World)
    (same : stream.core = (s.streamAt index).core) : (s.setStream index stream w).view = s.view := by
  have sameId := StreamState.same_streamId same
  have lookup (other : UInt32) : findStream (s.streams.set index stream) other =
      findStream s.streams other := findStream_set sameId other
  funext other
  rw [State.view, State.view, setStream_streams, lookup]
  rcases findStream s.streams other with _ | place
  · rfl
  · by_cases here : place = index
    · subst here
      by_cases inside : place < s.streams.length
      · simp only [Option.map_some, streamAt_setStream inside, same]
      · rw [Option.map_some, State.streamAt, setStream_streams,
          List.set_eq_of_length_le (by simpa using inside)]
        rfl
    · simp only [Option.map_some, streamAt_setStream_ne here]

/-- A stream that no lookup finds has no epoch and no producer. -/
def Tidy (s : State) : Prop :=
  ∀ index < s.streams.length, findStream s.streams (s.streamAt index).streamId ≠ some index →
    (s.streamAt index).epoch = 0 ∧ (s.streamAt index).producerLeaseId = 0 ∧
      (s.streamAt index).producerClientId = 0

/-- A write to a found stream leaves the other streams as they are. -/
theorem Tidy.setStream {s : State} (tidy : Tidy s) {streamId : UInt32} {index : Nat}
    {stream : StreamState} (w : World) (found : findStream s.streams streamId = some index)
    (same : stream.streamId = streamId) : Tidy (s.setStream index stream w) := by
  obtain ⟨inside, old⟩ := findStream_inside found
  intro place within unfound
  rw [setStream_streams, List.length_set] at within
  rw [setStream_streams, findStream_set (same.trans old.symm)] at unfound
  by_cases here : place = index
  · subst here
    rw [streamAt_setStream inside, same] at unfound
    exact absurd found unfound
  · rw [streamAt_setStream_ne here] at unfound ⊢
    exact tidy place within unfound

/-- Whether a state is tidy depends on the table only. -/
theorem Tidy.congr {s s' : State} (tidy : Tidy s) (same : s'.streams = s.streams) : Tidy s' := by
  unfold Tidy State.streamAt at *
  rwa [same]

/-- A stream with an epoch is the one that its identifier finds. -/
theorem Tidy.found {s : State} (tidy : Tidy s) {index : Nat} (inside : index < s.streams.length)
    (active : (s.streamAt index).epoch ≠ 0) :
    findStream s.streams (s.streamAt index).streamId = some index := by
  by_contra unfound
  exact active (tidy index inside unfound).1

end TensorPool.Driver
