/-
This file shows when a progress poller never delivers fewer bytes for a frame than before.
-/

import TensorPool.Library.GuardedRun
import TensorPool.Library.Slots
import TensorPool.Wire.Decode

namespace TensorPool.Client

open TensorPool.Wire (FrameProgress)

/-- An entry remembers the last bytes of one frame. -/
structure TrackerEntry where
  streamId : UInt32
  epoch : UInt64
  seq : UInt64
  lastBytes : UInt64
  inUse : Bool
  deriving DecidableEq, Repr

/-- A frame is named by its stream, epoch and sequence number. -/
def frameOf (view : FrameProgress) : UInt32 × UInt64 × UInt64 := (view.streamId, view.epoch, view.seq)

namespace TrackerEntry

/-- This is an entry that `calloc` made. -/
def blank : TrackerEntry := { streamId := 0, epoch := 0, seq := 0, lastBytes := 0, inUse := false }

def blanks (count : Nat) : List TrackerEntry := List.replicate count blank

def frame (entry : TrackerEntry) : Option (UInt32 × UInt64 × UInt64) :=
  if entry.inUse then some (entry.streamId, entry.epoch, entry.seq) else none

def ofView (view : FrameProgress) : TrackerEntry :=
  { streamId := view.streamId, epoch := view.epoch, seq := view.seq, lastBytes := view.payloadBytesFilled,
    inUse := true }

def isFor (entry : TrackerEntry) (view : FrameProgress) : Bool :=
  entry.inUse && entry.seq == view.seq && entry.streamId == view.streamId && entry.epoch == view.epoch

/-- An entry is for a frame when it holds it. -/
theorem isFor_iff {entry : TrackerEntry} {view : FrameProgress} :
    entry.isFor view = true ↔ entry.frame = some (frameOf view) := by
  cases used : entry.inUse <;> simp [isFor, frame, frameOf, used]
  tauto

theorem update_ofView {entry : TrackerEntry} {view : FrameProgress} (found : entry.isFor view = true) :
    { entry with lastBytes := view.payloadBytesFilled } = ofView view := by
  simp only [isFor, Bool.and_eq_true, beq_iff_eq] at found
  obtain ⟨⟨⟨used, seq⟩, streamId⟩, epoch⟩ := found
  rw [ofView, ← used, seq, streamId, epoch]

end TrackerEntry

/-- The tracker is a list; it is empty where the source has no tracker. -/
structure ProgressPoller where
  tracker : List TrackerEntry
  trackerCursor : Nat
  headerNslots : UInt32
  maxPayloadBytes : UInt64
  validator : Bool
  deriving DecidableEq, Repr

namespace ProgressPoller

def trackerCapacity : Nat := 64

/-- This is the poller that `tp_progress_poller_init` leaves. -/
def init : ProgressPoller :=
  { tracker := TrackerEntry.blanks trackerCapacity, trackerCursor := 0, headerNslots := 0, maxPayloadBytes := 0,
    validator := false }

/-- This is `tp_progress_poller_resize`; the allocation may fail. -/
def resize (poller : ProgressPoller) (capacity : Nat) (allocated : Bool) : Option ProgressPoller :=
  if capacity = 0 then none
  else if capacity ≤ poller.tracker.length then some poller
  else if allocated then
    some { poller with
      tracker := poller.tracker ++ TrackerEntry.blanks (capacity - poller.tracker.length)
      trackerCursor := if capacity ≤ poller.trackerCursor then 0 else poller.trackerCursor }
  else none

/-- The first check of `tp_progress_poller_validate`. -/
def exceedsMax (poller : ProgressPoller) (view : FrameProgress) : Bool :=
  0 < poller.maxPayloadBytes && poller.maxPayloadBytes < view.payloadBytesFilled

/-- The tracker is grown to the ring before it is used. -/
def grow (poller : ProgressPoller) (allocated : Bool) : Option ProgressPoller :=
  if 0 < poller.headerNslots ∧ poller.tracker.length < poller.headerNslots.toNat then
    poller.resize poller.headerNslots.toNat allocated
  else some poller

/-- The validator is asked where one is registered. -/
def refuses (poller : ProgressPoller) (accepted : Bool) : Bool := poller.validator && !accepted

def ringIndex (poller : ProgressPoller) (view : FrameProgress) : Nat :=
  (view.seq &&& (poller.headerNslots - 1).toUInt64).toNat

/-- The place of the frame: its slot of the ring, or else the first entry that holds it. -/
def search (poller : ProgressPoller) (view : FrameProgress) : Option Nat :=
  if 0 < poller.headerNslots then
    (poller.tracker[poller.ringIndex view]?).bind fun entry =>
      if entry.isFor view then some (poller.ringIndex view) else none
  else poller.tracker.findIdx? (·.isFor view)

/-- A new frame takes its slot of the ring, or else the entry under the cursor. -/
def insert (poller : ProgressPoller) (view : FrameProgress) : ProgressPoller :=
  if 0 < poller.headerNslots then
    { poller with tracker := poller.tracker.set (poller.ringIndex view) (TrackerEntry.ofView view) }
  else
    { poller with
      tracker := poller.tracker.set poller.trackerCursor (TrackerEntry.ofView view)
      trackerCursor := (poller.trackerCursor + 1) % poller.tracker.length }

/-- This is `tp_progress_poller_validate` behind the growth of the tracker. -/
def track (poller : ProgressPoller) (view : FrameProgress) (accepted : Bool) : ProgressPoller × Bool :=
  if poller.tracker = [] then (poller, false)
  else match poller.search view with
  | some index =>
      match poller.tracker[index]? with
      | some entry =>
          if view.payloadBytesFilled < entry.lastBytes then (poller, false)
          else if poller.refuses accepted then (poller, false)
          else
            ({ poller with
                tracker := poller.tracker.set index { entry with lastBytes := view.payloadBytesFilled } }, true)
      | none => (poller, false)
  | none => if poller.refuses accepted then (poller, false) else (poller.insert view, true)

/-- This is `tp_progress_poller_validate`, with the answer of the validator; it tells whether the fragment is
delivered. -/
def validate (poller : ProgressPoller) (view : FrameProgress) (allocated accepted : Bool) : ProgressPoller × Bool :=
  if poller.exceedsMax view then (poller, false)
  else match poller.grow allocated with
  | none => (poller, false)
  | some grown => grown.track view accepted

/-- This is `tp_progress_poller_set_consumer`; no consumer counts as one without slots. -/
def setConsumer (poller : ProgressPoller) (headerNslots : UInt32) (allocated : Bool) : ProgressPoller :=
  let poller := { poller with validator := true, headerNslots }
  if 0 < headerNslots then
    (poller.resize headerNslots.toNat allocated).getD
      { poller with tracker := [], trackerCursor := 0, headerNslots := 0 }
  else poller

/-- The bytes that the poller compares with for a frame. -/
def remembered (poller : ProgressPoller) (view : FrameProgress) : Option UInt64 :=
  (poller.search view).bind fun index => poller.tracker[index]?.map TrackerEntry.lastBytes

end ProgressPoller

inductive ProgressAction where
  | fragment (view : FrameProgress) (allocated accepted : Bool)
  | setConsumer (headerNslots : UInt32) (allocated : Bool)
  | setHeaderNslots (headerNslots : UInt32)
  | setMaxPayloadBytes (maxPayloadBytes : UInt64)
  | setValidator (validator : Bool)

/-- A poller with the fragments that it has delivered, the newest first. -/
structure ProgressSession where
  poller : ProgressPoller
  delivered : List FrameProgress

namespace ProgressSession

def init : ProgressSession := { poller := ProgressPoller.init, delivered := [] }

/-- This is `tp_progress_poller_handler` behind the decoding. -/
def handle (session : ProgressSession) (view : FrameProgress) (allocated accepted : Bool) : ProgressSession :=
  { poller := (session.poller.validate view allocated accepted).1
    delivered :=
      if (session.poller.validate view allocated accepted).2 then view :: session.delivered else session.delivered }

def step (session : ProgressSession) : ProgressAction → Option ProgressSession
  | .fragment view allocated accepted => some (session.handle view allocated accepted)
  | .setConsumer headerNslots allocated =>
    some { session with poller := session.poller.setConsumer headerNslots allocated }
  | .setHeaderNslots headerNslots => some { session with poller := { session.poller with headerNslots } }
  | .setMaxPayloadBytes maxPayloadBytes => some { session with poller := { session.poller with maxPayloadBytes } }
  | .setValidator validator => some { session with poller := { session.poller with validator } }

/-- The bytes of each frame are delivered in an order that does not fall. -/
def Climbs (session : ProgressSession) : Prop :=
  session.delivered.Pairwise fun late early =>
    frameOf early = frameOf late → early.payloadBytesFilled ≤ late.payloadBytesFilled

/-- A fragment of a frame that was delivered before finds the entry of the frame, unless it is refused anyway. -/
def findsEntry (session : ProgressSession) : ProgressAction → Bool
  | .fragment view _ accepted =>
      (session.poller.search view).isSome || session.poller.exceedsMax view || session.poller.refuses accepted ||
        session.delivered.all fun earlier => frameOf earlier != frameOf view
  | _ => true

end ProgressSession

section Tracker

variable {poller grown : ProgressPoller} {view other : FrameProgress} {allocated accepted : Bool}
    {capacity index : Nat}
  {frame : UInt32 × UInt64 × UInt64}

open ProgressPoller

/-- A resize adds blank entries only. -/
theorem resize_blank (resized : poller.resize capacity allocated = some grown) :
    (∃ count, grown.tracker = poller.tracker ++ TrackerEntry.blanks count) ∧ capacity ≤ grown.tracker.length ∧
      grown.headerNslots = poller.headerNslots ∧ grown.validator = poller.validator := by
  unfold resize at resized
  split at resized
  · cases resized
  split at resized
  next enough =>
    cases resized
    exact ⟨⟨0, (List.append_nil _).symm⟩, enough, rfl, rfl⟩
  split at resized
  · cases resized
    apply And.intro ⟨_, rfl⟩
    simp only [List.length_append, TrackerEntry.blanks, List.length_replicate, and_true]
    omega
  · cases resized

/-- A poller is grown by blank entries, up to its ring. -/
theorem grow_blank (grew : poller.grow allocated = some grown) :
    (∃ count, grown.tracker = poller.tracker ++ TrackerEntry.blanks count) ∧
      grown.headerNslots = poller.headerNslots ∧ grown.validator = poller.validator := by
  unfold grow at grew
  split at grew
  · have resized := resize_blank grew
    exact ⟨resized.1, resized.2.2⟩
  · cases grew
    exact ⟨⟨0, (List.append_nil _).symm⟩, rfl, rfl⟩

/-- A blank entry is for no frame. -/
theorem not_isFor_blank (view : FrameProgress) : ¬TrackerEntry.blank.isFor view = true := by
  rw [TrackerEntry.isFor_iff]
  intro same
  cases same

/-- Blank entries are added behind the others. -/
theorem getElem?_blanks {tracker : List TrackerEntry} (count index : Nat) :
    (tracker ++ TrackerEntry.blanks count)[index]? = tracker[index]? ∨
      tracker[index]? = none ∧ (tracker ++ TrackerEntry.blanks count)[index]? = some TrackerEntry.blank := by
  by_cases inside : index < tracker.length
  · exact .inl (List.getElem?_append_left inside)
  rw [List.getElem?_append_right (by omega), TrackerEntry.blanks, List.getElem?_replicate,
    List.getElem?_eq_none (by omega)]
  split
  · exact .inr ⟨rfl, rfl⟩
  · exact .inl rfl

/-- A search does not see blank entries. -/
theorem search_grown (grew : poller.grow allocated = some grown) (view : FrameProgress) :
    grown.search view = poller.search view := by
  obtain ⟨⟨count, tracker⟩, nslots, -⟩ := grow_blank grew
  have same : grown.ringIndex view = poller.ringIndex view := by
    rw [ProgressPoller.ringIndex, ProgressPoller.ringIndex, nslots]
  unfold search
  rw [nslots, same, tracker]
  split
  · have cases := @getElem?_blanks poller.tracker count (poller.ringIndex view)
    obtain kept | ⟨missing, blank⟩ := cases
    · rw [kept]
    · rw [missing, blank, Option.bind_some, if_neg (not_isFor_blank view)]
      rfl
  · have none : (TrackerEntry.blanks count).findIdx? (·.isFor view) = none := by
      rw [List.findIdx?_eq_none_iff]
      intro entry present
      rw [List.eq_of_mem_replicate present]
      exact Bool.eq_false_iff.mpr (not_isFor_blank view)
    rw [List.findIdx?_append, none]
    simp

/-- What a search finds is an entry of the frame. -/
theorem search_some (found : poller.search view = some index) :
    ∃ entry, poller.tracker[index]? = some entry ∧ entry.isFor view = true := by
  unfold search at found
  split at found
  · obtain ⟨entry, here, chosen⟩ := Option.bind_eq_some_iff.mp found
    split at chosen
    next isFor =>
      cases chosen
      exact ⟨entry, here, isFor⟩
    · cases chosen
  · obtain ⟨inside, isFor, -⟩ := List.findIdx?_eq_some_iff_getElem.mp found
    exact ⟨_, List.getElem?_eq_getElem inside, isFor⟩

/-- Growth forgets nothing. -/
theorem remembered_grown (grew : poller.grow allocated = some grown) (view : FrameProgress) :
    grown.remembered view = poller.remembered view := by
  obtain ⟨⟨count, tracker⟩, -⟩ := grow_blank grew
  rw [remembered, remembered, search_grown grew]
  cases found : poller.search view with
  | none => rfl
  | some index =>
      obtain ⟨entry, here, -⟩ := search_some found
      obtain ⟨inside, -⟩ := List.getElem?_eq_some_iff.mp here
      rw [Option.bind_some, Option.bind_some, tracker, List.getElem?_append_left inside]

/-- What is tracked replaces one entry: that of the frame with no more bytes, or any entry when the search found
none. -/
theorem track_passed (passed : (poller.track view accepted).2 = true) :
    poller.refuses accepted = false ∧
    ∃ index, (poller.track view accepted).1.tracker = poller.tracker.set index (TrackerEntry.ofView view) ∧
      (poller.search view = none ∨
        ∃ entry, poller.tracker[index]? = some entry ∧ entry.frame = some (frameOf view) ∧
          entry.lastBytes ≤ view.payloadBytesFilled) := by
  unfold track at passed ⊢
  split at passed
  · cases passed
  next used =>
  rw [if_neg used]
  cases found : poller.search view with
  | none =>
      rw [found] at passed
      dsimp only at passed ⊢
      cases refused : poller.refuses accepted with
      | true =>
          rw [refused] at passed
          cases passed
      | false =>
          apply And.intro rfl
          rw [if_neg Bool.false_ne_true, ProgressPoller.insert]
          split
          · exact ⟨_, rfl, .inl rfl⟩
          · exact ⟨_, rfl, .inl rfl⟩
  | some index =>
      obtain ⟨entry, here, isFor⟩ := search_some found
      rw [found] at passed
      dsimp only at passed ⊢
      rw [here] at passed ⊢
      dsimp only at passed ⊢
      split at passed
      · cases passed
      next enough =>
      cases refused : poller.refuses accepted with
      | true =>
          rw [refused] at passed
          cases passed
      | false =>
          apply And.intro rfl
          rw [if_neg enough, if_neg Bool.false_ne_true, TrackerEntry.update_ofView isFor]
          exact ⟨index, rfl, .inr ⟨entry, here, TrackerEntry.isFor_iff.mp isFor, UInt64.not_lt.mp enough⟩⟩

/-- A dropped progress changes nothing. -/
theorem track_dropped (dropped : (poller.track view accepted).2 = false) :
    (poller.track view accepted).1 = poller := by
  unfold track at dropped ⊢
  grind

/-- A dropped fragment grows the tracker at most. -/
theorem validate_dropped (dropped : (poller.validate view allocated accepted).2 = false) :
    (poller.validate view allocated accepted).1 = poller ∨
      poller.grow allocated = some (poller.validate view allocated accepted).1 := by
  unfold validate at dropped ⊢
  split
  · exact .inl rfl
  next fits =>
  rw [if_neg fits] at dropped
  cases grew : poller.grow allocated with
  | none => exact .inl rfl
  | some grown =>
      rw [grew] at dropped
      exact .inr (congrArg some (track_dropped dropped).symm)

/-- A passed progress is in its bounds, and it is tracked after the growth. -/
theorem validate_passed (passed : (poller.validate view allocated accepted).2 = true) :
    poller.exceedsMax view = false ∧ ∃ grown, poller.grow allocated = some grown ∧
      poller.validate view allocated accepted = grown.track view accepted := by
  unfold validate at passed ⊢
  split at passed
  · cases passed
  next fits =>
  apply And.intro (Bool.eq_false_iff.mpr fits)
  rw [if_neg fits]
  cases grew : poller.grow allocated with
  | none =>
      rw [grew] at passed
      cases passed
  | some grown => exact ⟨grown, rfl, rfl⟩

end Tracker

namespace ProgressSession

variable {session session' : ProgressSession} {action : ProgressAction} {tracker : List TrackerEntry}
  {delivered : List FrameProgress} {view : FrameProgress}

/-- The tracker has one entry for a frame at most, and that one has the bytes that were delivered last. -/
structure Tracks (tracker : List TrackerEntry) (delivered : List FrameProgress) (frame : UInt32 × UInt64 × UInt64) :
    Prop where
  unique : (Slots.held TrackerEntry.frame frame tracker).length ≤ 1
  known : ∀ entry ∈ Slots.held TrackerEntry.frame frame tracker, ∃ earlier ∈ delivered, frameOf earlier = frame
  highest : ∀ entry ∈ Slots.held TrackerEntry.frame frame tracker, ∀ earlier ∈ delivered, frameOf earlier = frame →
    earlier.payloadBytesFilled ≤ entry.lastBytes

def Sound (session : ProgressSession) : Prop :=
  (∀ frame, Tracks session.poller.tracker session.delivered frame) ∧ session.Climbs

theorem held_blanks (frame : UInt32 × UInt64 × UInt64) (tracker : List TrackerEntry) (count : Nat) :
    Slots.held TrackerEntry.frame frame (tracker ++ TrackerEntry.blanks count) =
      Slots.held TrackerEntry.frame frame tracker := by
  rw [Slots.held_append]
  induction count with
  | zero => exact List.append_nil _
  | succ count hypothesis =>
      rw [TrackerEntry.blanks, List.replicate_succ, Slots.held_cons, if_neg (fun same => by cases same)]
      exact hypothesis

/-- Blank entries track nothing more. -/
theorem Tracks.blanks {frame : UInt32 × UInt64 × UInt64} (tracks : Tracks tracker delivered frame) (count : Nat) :
    Tracks (tracker ++ TrackerEntry.blanks count) delivered frame := by
  constructor <;> rw [held_blanks]
  · exact tracks.unique
  · exact tracks.known
  · exact tracks.highest

/-- An empty tracker tracks nothing. -/
theorem Tracks.empty (frame : UInt32 × UInt64 × UInt64) : Tracks [] delivered frame := by
  constructor
  · exact Nat.zero_le 1
  · intro entry present
    cases present
  · intro entry present
    cases present

theorem ofView_frame (view : FrameProgress) : (TrackerEntry.ofView view).frame = some (frameOf view) := rfl

/-- The entry of the delivered frame is its only one, and it has the most bytes. -/
theorem Tracks.fill {front back : List TrackerEntry} {old : TrackerEntry}
    (tracks : Tracks (front ++ old :: back) delivered (frameOf view))
    (place : (∀ earlier ∈ delivered, frameOf earlier ≠ frameOf view) ∨
      old.frame = some (frameOf view) ∧ old.lastBytes ≤ view.payloadBytesFilled) :
    Tracks (front ++ TrackerEntry.ofView view :: back) (view :: delivered) (frameOf view) := by
  have here : old.frame = some (frameOf view) ∨
      Slots.held TrackerEntry.frame (frameOf view) (front ++ old :: back) = [] := by
    cases place with
    | inl unknown =>
        apply Or.inr
        apply List.eq_nil_iff_forall_not_mem.mpr
        intro entry present
        obtain ⟨earlier, old, same⟩ := tracks.known entry present
        exact unknown earlier old same
    | inr found => exact .inl found.1
  have held := Slots.held_replace tracks.unique here (ofView_frame view)
  constructor <;> rw [held]
  · exact Nat.le_refl 1
  · intro entry present
    exact ⟨view, List.mem_cons_self, rfl⟩
  · intro entry present earlier old' same
    rw [List.mem_singleton.mp present]
    cases List.mem_cons.mp old' with
    | inl new =>
        rw [new]
        exact UInt64.le_refl _
    | inr before =>
        cases place with
        | inl unknown => exact absurd same (unknown earlier before)
        | inr found =>
            have inside : old ∈ Slots.held TrackerEntry.frame (frameOf view) (front ++ old :: back) := by
              simp [Slots.held, found.1]
            exact UInt64.le_trans (tracks.highest old inside earlier before same) found.2

/-- Another frame keeps its entry or loses it. -/
theorem Tracks.other {frame : UInt32 × UInt64 × UInt64} {front back : List TrackerEntry} {old : TrackerEntry}
    (tracks : Tracks (front ++ old :: back) delivered frame) (different : frameOf view ≠ frame) :
    Tracks (front ++ TrackerEntry.ofView view :: back) (view :: delivered) frame := by
  have filled : (TrackerEntry.ofView view).frame ≠ some frame := by
    intro same
    exact different (Option.some_inj.mp same)
  by_cases lost : old.frame = some frame
  · have held := Slots.held_clear tracks.unique (.inl lost) filled
    constructor <;> rw [held]
    · exact Nat.zero_le 1
    · intro entry present
      cases present
    · intro entry present
      cases present
  · have held := @Slots.held_replace_other _ _ _ _ _ front back _ _ lost filled
    constructor <;> rw [held]
    · exact tracks.unique
    · intro entry present
      obtain ⟨earlier, before, same⟩ := tracks.known entry present
      exact ⟨earlier, List.mem_cons_of_mem _ before, same⟩
    · intro entry present earlier before same
      cases List.mem_cons.mp before with
      | inl new => exact absurd (new ▸ same) different
      | inr before => exact tracks.highest entry present earlier before same

/-- A frame that has no entry was not delivered before, so no place is wrong for it. -/
theorem Tracks.outside {frame : UInt32 × UInt64 × UInt64} (tracks : Tracks tracker delivered frame)
    (unknown : ∀ earlier ∈ delivered, frameOf earlier ≠ frameOf view) :
    Tracks tracker (view :: delivered) frame := by
  constructor
  · exact tracks.unique
  · intro entry present
    obtain ⟨earlier, before, same⟩ := tracks.known entry present
    exact ⟨earlier, List.mem_cons_of_mem _ before, same⟩
  · intro entry present earlier before same
    obtain ⟨known, present', same'⟩ := tracks.known entry present
    cases List.mem_cons.mp before with
    | inl new => exact absurd (same'.trans (new ▸ same).symm) (unknown known present')
    | inr before => exact tracks.highest entry present earlier before same

/-- A delivery is tracked where it replaces the entry of its frame or its frame is new. -/
theorem Tracks.set {index : Nat} (tracks : ∀ frame, Tracks tracker delivered frame)
    (place : (∀ earlier ∈ delivered, frameOf earlier ≠ frameOf view) ∨
      ∃ entry, tracker[index]? = some entry ∧ entry.frame = some (frameOf view) ∧
        entry.lastBytes ≤ view.payloadBytesFilled)
    (frame : UInt32 × UInt64 × UInt64) :
    Tracks (tracker.set index (TrackerEntry.ofView view)) (view :: delivered) frame := by
  by_cases inside : index < tracker.length
  · have split : tracker = tracker.take index ++ tracker[index] :: tracker.drop (index + 1) := by
      rw [List.getElem_cons_drop, List.take_append_drop]
    have tracked := tracks frame
    rw [split] at tracked
    rw [List.set_eq_take_append_cons_drop, if_pos inside]
    by_cases same : frameOf view = frame
    · subst same
      apply tracked.fill
      apply place.imp_right
      intro found
      obtain ⟨entry, here, found⟩ := found
      rw [List.getElem?_eq_getElem inside, Option.some_inj] at here
      rw [here]
      exact found
    · exact tracked.other same
  · rw [List.set_eq_of_length_le (by omega)]
    apply (tracks frame).outside
    cases place with
    | inl unknown => exact unknown
    | inr found =>
        obtain ⟨entry, here, -⟩ := found
        exact absurd (List.getElem?_eq_some_iff.mp here).1 inside

/-- A tracked delivery has no fewer bytes than those before it. -/
theorem Sound.deliver {session : ProgressSession} {poller : ProgressPoller} {index : Nat} (sound : session.Sound)
    (place : (∀ earlier ∈ session.delivered, frameOf earlier ≠ frameOf view) ∨
      ∃ entry, session.poller.tracker[index]? = some entry ∧ entry.frame = some (frameOf view) ∧
        entry.lastBytes ≤ view.payloadBytesFilled)
    (written : poller.tracker = session.poller.tracker.set index (TrackerEntry.ofView view)) :
    Sound { poller, delivered := view :: session.delivered } := by
  constructor
  · intro frame
    change Tracks poller.tracker (view :: session.delivered) frame
    rw [written]
    exact Tracks.set sound.1 place frame
  · apply List.pairwise_cons.mpr
    apply And.intro _ sound.2
    intro earlier before same
    cases place with
    | inl unknown => exact absurd same (unknown earlier before)
    | inr found =>
        obtain ⟨entry, here, frame, enough⟩ := found
        apply UInt64.le_trans _ enough
        apply (sound.1 (frameOf view)).highest entry _ earlier before same
        rw [Slots.held, List.mem_filter]
        exact ⟨List.mem_of_getElem? here, decide_eq_true frame⟩

/-- Growth keeps the session sound. -/
theorem Sound.grow {session : ProgressSession} {poller : ProgressPoller} (sound : session.Sound)
    (grown : ∃ count, poller.tracker = session.poller.tracker ++ TrackerEntry.blanks count) :
    Sound { session with poller } := by
  obtain ⟨count, tracker⟩ := grown
  apply And.intro _ sound.2
  intro frame
  change Tracks poller.tracker session.delivered frame
  rw [tracker]
  exact (sound.1 frame).blanks count

/-- A session with the same tracker stays sound. -/
theorem Sound.same {session : ProgressSession} {poller : ProgressPoller} (sound : session.Sound)
    (tracker : poller.tracker = session.poller.tracker) : Sound { session with poller } :=
  sound.grow ⟨0, tracker.trans (List.append_nil _).symm⟩

/-- Another consumer keeps the session sound. -/
theorem Sound.setConsumer {session : ProgressSession} (sound : session.Sound) (headerNslots : UInt32)
    (allocated : Bool) :
    Sound { session with poller := session.poller.setConsumer headerNslots allocated } := by
  unfold ProgressPoller.setConsumer
  dsimp only
  split
  · cases resized : ProgressPoller.resize { session.poller with validator := true, headerNslots } headerNslots.toNat
      allocated with
    | none => exact ⟨fun frame => Tracks.empty frame, sound.2⟩
    | some grown => exact sound.grow (resize_blank resized).1
  · exact sound.same rfl

/-- A handled progress keeps the session sound. -/
theorem Sound.fragment {session : ProgressSession} (sound : session.Sound) {allocated accepted : Bool}
    (finds : session.findsEntry (.fragment view allocated accepted) = true) :
    (session.handle view allocated accepted).Sound := by
  rw [handle]
  cases passed : (session.poller.validate view allocated accepted).2 with
  | false =>
      rw [if_neg Bool.false_ne_true]
      cases validate_dropped passed with
      | inl same => exact sound.same (congrArg ProgressPoller.tracker same)
      | inr grew => exact sound.grow (grow_blank grew).1
  | true =>
      obtain ⟨fits, grown, grew, tracked⟩ := validate_passed passed
      rw [tracked, if_pos rfl]
      rw [tracked] at passed
      obtain ⟨asked, index, written, place⟩ := track_passed passed
      have blank := grow_blank grew
      have refused : session.poller.refuses accepted = false := by
        rw [← asked, ProgressPoller.refuses, ProgressPoller.refuses, blank.2.2]
      apply Sound.deliver (sound.grow blank.1) _ written
      apply place.imp_left
      intro missing
      rw [search_grown grew] at missing
      rw [findsEntry, missing, fits, refused] at finds
      intro earlier before same
      have different := List.all_eq_true.mp finds earlier before
      exact bne_iff_ne.mp different same

/-- Each step keeps the session sound. -/
theorem Sound.step (sound : session.Sound) (finds : session.findsEntry action = true)
    (stepped : session.step action = some session') : session'.Sound := by
  cases action with
  | fragment view allocated accepted =>
      obtain rfl := Option.some_inj.mp stepped
      exact sound.fragment finds
  | setConsumer headerNslots allocated =>
      obtain rfl := Option.some_inj.mp stepped
      exact sound.setConsumer headerNslots allocated
  | setHeaderNslots headerNslots =>
      obtain rfl := Option.some_inj.mp stepped
      exact sound.same rfl
  | setMaxPayloadBytes maxPayloadBytes =>
      obtain rfl := Option.some_inj.mp stepped
      exact sound.same rfl
  | setValidator validator =>
      obtain rfl := Option.some_inj.mp stepped
      exact sound.same rfl

theorem sound_init : init.Sound := by
  constructor
  · intro frame
    exact (Tracks.empty frame).blanks ProgressPoller.trackerCapacity
  · exact List.Pairwise.nil

end ProgressSession

/-- A dropped fragment leaves what is remembered of every frame. -/
theorem remembered_dropped {poller : ProgressPoller} {view : FrameProgress} {allocated accepted : Bool}
    (dropped : (poller.validate view allocated accepted).2 = false) (other : FrameProgress) :
    (poller.validate view allocated accepted).1.remembered other = poller.remembered other := by
  cases validate_dropped dropped with
  | inl same => rw [same]
  | inr grew => exact remembered_grown grew other

/-- While each fragment finds the entry of its frame the bytes do not fall; what is dropped never changes what is
remembered. -/
theorem progress_climbs {actions : List ProgressAction} {last : ProgressSession}
    (ran : GuardedRun.runWhile ProgressSession.findsEntry ProgressSession.step ProgressSession.init actions =
      some last)
    (poller : ProgressPoller) (view other : FrameProgress) (allocated accepted : Bool) :
    last.Climbs ∧
      ((poller.validate view allocated accepted).2 = false →
        (poller.validate view allocated accepted).1.remembered other = poller.remembered other) := by
  constructor
  · have kept : ∀ session action session', ProgressSession.Sound session →
      ProgressSession.findsEntry session action = true →
        ProgressSession.step session action = some session' → ProgressSession.Sound session' := by
      intro session action session' sound finds stepped
      exact sound.step finds stepped
    exact (GuardedRun.keeps kept ran ProgressSession.sound_init).2
  · intro dropped
    exact remembered_dropped dropped other

/-- A frame that is found again has climbed. -/
theorem progress_climbs_again : ∃ last : ProgressSession, last.Climbs ∧
    last.delivered = [⟨1, 1, 7, 10, 1⟩, ⟨1, 1, 7, 9, 1⟩, ⟨1, 1, 3, 5, 1⟩] := by
  have ran : ∃ last, GuardedRun.runWhile ProgressSession.findsEntry ProgressSession.step ProgressSession.init
      [.fragment ⟨1, 1, 3, 5, 1⟩ true true, .setConsumer 4 true, .fragment ⟨1, 1, 7, 9, 1⟩ true true,
        .fragment ⟨1, 1, 7, 10, 1⟩ true true, .fragment ⟨1, 1, 7, 8, 1⟩ true true] = some last ∧
      last.delivered = [⟨1, 1, 7, 10, 1⟩, ⟨1, 1, 7, 9, 1⟩, ⟨1, 1, 3, 5, 1⟩] := ⟨_, rfl, rfl⟩
  obtain ⟨last, ran, delivered⟩ := ran
  exact ⟨last, (progress_climbs ran ProgressPoller.init ⟨1, 1, 3, 5, 1⟩ ⟨1, 1, 3, 5, 1⟩ true true).1, delivered⟩

/-- A ring is set under a frame that is tracked, and the same frame falls from 10 bytes to 5. -/
theorem progress_falls : ∃ last,
    GuardedRun.run ProgressSession.step ProgressSession.init
      [.fragment ⟨1, 1, 3, 10, 1⟩ true true, .setConsumer 64 true, .fragment ⟨1, 1, 3, 5, 1⟩ true true] = some last ∧
      last.delivered = [⟨1, 1, 3, 5, 1⟩, ⟨1, 1, 3, 10, 1⟩] ∧ ¬last.Climbs := by
  refine ⟨_, rfl, rfl, ?_⟩
  intro climbs
  have falls := (List.pairwise_cons.mp climbs).1 ⟨1, 1, 3, 10, 1⟩ List.mem_cons_self rfl
  exact absurd falls (by decide)

end TensorPool.Client
