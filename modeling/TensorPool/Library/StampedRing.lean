/-
This file gives a ring of stamped slots that holds a moving window of positions.
A position is taken, filled cell by cell, published and at last released.
-/

import Mathlib.Logic.Function.Basic
import TensorPool.Library.RingWindow

/-- The stamp of a slot is the position that waits for its entry, or one more when the entry is written. -/
structure StampedRing (ι β : Type) where
  size : Nat
  entries : List (ι × List β)
  low : Nat
  stamp : Nat → Nat
  cells : Nat → List β
  busy : Nat → Prop

namespace StampedRing

variable {ι β : Type}

/-- The slots outside the window do not exist, and each slot of the window shows its position. -/
structure Sound (width : Nat) (ring : StampedRing ι β) : Prop where
  several : 2 ≤ ring.size
  ordered : ring.low ≤ ring.entries.length
  room : ring.entries.length ≤ ring.low + ring.size
  widths : ∀ index < ring.size, (ring.cells index).length = width
  waiting : ∀ position, ring.low ≤ position → position < ring.low + ring.size →
    ring.entries.length ≤ position ∨ ring.busy position → ring.stamp (position % ring.size) = position
  written : ∀ position entry, ring.low ≤ position → ring.entries[position]? = some entry →
    ¬ ring.busy position →
      ring.stamp (position % ring.size) = position + 1 ∧ ring.cells (position % ring.size) = entry.2
  held : ∀ position, ring.busy position → ring.low ≤ position ∧ position < ring.entries.length

/-- A position is written when its entry is complete and not yet released. -/
def Written (ring : StampedRing ι β) (position : Nat) : Prop :=
  ring.low ≤ position ∧ position < ring.entries.length ∧ ¬ ring.busy position

/-- A new entry takes the position after the last one. -/
def take (ring : StampedRing ι β) (entry : ι × List β) : StampedRing ι β :=
  { ring with
    entries := ring.entries ++ [entry]
    busy := fun position => ring.busy position ∨ position = ring.entries.length }

def store (ring : StampedRing ι β) (position offset : Nat) (cell : β) : StampedRing ι β :=
  { ring with
    cells := Function.update ring.cells (position % ring.size)
      ((ring.cells (position % ring.size)).set offset cell) }

def publish (ring : StampedRing ι β) (position : Nat) : StampedRing ι β :=
  { ring with
    stamp := Function.update ring.stamp (position % ring.size) (position + 1)
    busy := fun other => ring.busy other ∧ other ≠ position }

/-- The oldest position leaves, and its slot waits for the position one ring later. -/
def release (ring : StampedRing ι β) : StampedRing ι β :=
  { ring with
    low := ring.low + 1
    stamp := Function.update ring.stamp (ring.low % ring.size) (ring.low + ring.size) }

variable {width position other : Nat} {ring : StampedRing ι β} {entry : ι × List β}

namespace Sound

theorem positive (sound : ring.Sound width) : 0 < ring.size := by
  have := sound.several
  omega

theorem index_lt (sound : ring.Sound width) (position : Nat) : position % ring.size < ring.size :=
  Nat.mod_lt position sound.positive

/-- Two positions of the window that share a slot are one position. -/
theorem unique (sound : ring.Sound width) (first : ring.low ≤ position)
    (firstHigh : position < ring.entries.length) (second : ring.low ≤ other)
    (secondHigh : other < ring.low + ring.size) (same : position % ring.size = other % ring.size) :
    position = other := by
  have := sound.room
  exact RingWindow.unique first (by omega) second secondHigh same

/-- The slot of any position shows the position of the window that it holds, or one more. -/
theorem shows (sound : ring.Sound width) (position : Nat) :
    ∃ held, ring.low ≤ held ∧ held < ring.low + ring.size ∧ held % ring.size = position % ring.size ∧
      (ring.stamp (position % ring.size) = held ∧ (ring.entries.length ≤ held ∨ ring.busy held) ∨
        ring.stamp (position % ring.size) = held + 1 ∧ ring.Written held) := by
  obtain ⟨held, above, below, same⟩ := @RingWindow.exists_held ring.size ring.low sound.positive position
  refine ⟨held, above, below, same, ?_⟩
  rw [← same]
  by_cases waits : ring.entries.length ≤ held ∨ ring.busy held
  · exact .inl ⟨sound.waiting held above below waits, waits⟩
  · have short : held < ring.entries.length := by omega
    have free : ¬ ring.busy held := fun busy => waits (.inr busy)
    have known : ring.entries[held]? = some ring.entries[held] := List.getElem?_eq_getElem short
    exact .inr ⟨(sound.written held _ above known free).1, above, short, free⟩

/-- A slot that shows a position no newer than the end of the entries has room for it. -/
theorem free_of_stamp (sound : ring.Sound width) (shown : ring.stamp (position % ring.size) = position) :
    position < ring.low + ring.size := by
  have several := sound.several
  obtain ⟨held, above, below, same, ⟨stamp, -⟩ | ⟨stamp, -⟩⟩ := sound.shows position
  · omega
  · have next : position = held + 1 := by omega
    have far := RingWindow.apart same (by omega)
    omega

/-- A slot that shows an older position means that the ring is full. -/
theorem full_of_stamp (sound : ring.Sound width) (known : position ≤ ring.entries.length)
    (shown : ring.stamp (position % ring.size) < position) :
    ring.entries.length = ring.low + ring.size := by
  have room := sound.room
  obtain ⟨held, above, below, same, stamp⟩ := sound.shows position
  have less : held < position := by
    rcases stamp with ⟨stamp, -⟩ | ⟨stamp, -⟩ <;> omega
  have far := RingWindow.apart same less
  omega

/-- The slot of the oldest position shows it, or one more when its entry is written. -/
theorem oldest (sound : ring.Sound width) :
    ring.stamp (ring.low % ring.size) = ring.low ∧
        (ring.entries.length = ring.low ∨ ring.busy ring.low) ∨
      ring.stamp (ring.low % ring.size) = ring.low + 1 ∧ ring.Written ring.low := by
  have ordered := sound.ordered
  have positive := sound.positive
  obtain ⟨held, above, below, same, stamp⟩ := sound.shows ring.low
  have equal : held = ring.low :=
    RingWindow.unique above below (Nat.le_refl _) (by omega) same
  subst equal
  rcases stamp with ⟨stamp, long | busy⟩ | written
  · exact .inl ⟨stamp, .inl (by omega)⟩
  · exact .inl ⟨stamp, .inr busy⟩
  · exact .inr written

theorem take (sound : ring.Sound width) (entry : ι × List β)
    (free : ring.entries.length < ring.low + ring.size) : (ring.take entry).Sound width where
  several := sound.several
  ordered := by
    have := sound.ordered
    simp only [StampedRing.take, List.length_append, List.length_singleton]
    omega
  room := by
    simp only [StampedRing.take, List.length_append, List.length_singleton]
    omega
  widths := sound.widths
  waiting position above below waits := by
    apply sound.waiting position above below
    simp only [StampedRing.take, List.length_append, List.length_singleton] at waits
    rcases waits with long | busy | last
    · exact .inl (by omega)
    · exact .inr busy
    · exact .inl (by omega)
  written position entry above known free := by
    simp only [StampedRing.take, not_or] at known free
    have short : position < (ring.entries ++ [_]).length := (List.getElem?_eq_some_iff.mp known).1
    rw [List.length_append, List.length_singleton] at short
    rw [List.getElem?_append_left (by omega)] at known
    exact sound.written position entry above known free.1
  held position busy := by
    have ordered := sound.ordered
    simp only [StampedRing.take, List.length_append, List.length_singleton] at busy ⊢
    rcases busy with busy | last
    · have := sound.held position busy
      omega
    · omega

/-- A store into a busy position leaves every written entry as it is. -/
theorem store (sound : ring.Sound width) (busy : ring.busy position) (offset : Nat) (cell : β) :
    (ring.store position offset cell).Sound width where
  several := sound.several
  ordered := sound.ordered
  room := sound.room
  widths index short := by
    simp only [StampedRing.store]
    by_cases same : index = position % ring.size
    · rw [same, Function.update_self, List.length_set]
      exact sound.widths _ (sound.index_lt position)
    · rw [Function.update_of_ne same]
      exact sound.widths index short
  waiting := sound.waiting
  written other entry above known free := by
    have ⟨low, high⟩ := sound.held position busy
    have short : other < ring.entries.length := (List.getElem?_eq_some_iff.mp known).1
    have room := sound.room
    have apart : other % ring.size ≠ position % ring.size := by
      intro same
      have equal := sound.unique above short low (by omega) same
      exact free (equal ▸ busy)
    simp only [StampedRing.store, Function.update_of_ne apart]
    exact sound.written other entry above known free
  held := sound.held

/-- A publication completes the entry whose cells are in place. -/
theorem publish (sound : ring.Sound width) (busy : ring.busy position)
    (known : ring.entries[position]? = some entry)
    (complete : ring.cells (position % ring.size) = entry.2) : (ring.publish position).Sound width := by
  have ⟨low, high⟩ := sound.held position busy
  have room := sound.room
  have apart : ∀ other, ring.low ≤ other → other < ring.low + ring.size → other ≠ position →
      other % ring.size ≠ position % ring.size := by
    intro other above below different same
    exact different (sound.unique low high above below same.symm).symm
  constructor
  · exact sound.several
  · exact sound.ordered
  · exact sound.room
  · exact sound.widths
  · intro other above below waits
    have different : other ≠ position := by
      rintro rfl
      rcases waits with long | busy
      · exact absurd high (Nat.not_lt.mpr long)
      · exact busy.2 rfl
    simp only [StampedRing.publish]
    rw [Function.update_of_ne (apart other above below different)]
    exact sound.waiting other above below (waits.imp id And.left)
  · intro other found above foundAt free
    simp only [StampedRing.publish] at foundAt free ⊢
    by_cases equal : other = position
    · subst equal
      rw [known] at foundAt
      cases foundAt
      exact ⟨Function.update_self .., complete⟩
    · have short : other < ring.entries.length := (List.getElem?_eq_some_iff.mp foundAt).1
      rw [Function.update_of_ne (apart other above (by omega) equal)]
      exact sound.written other found above foundAt fun busy => free ⟨busy, equal⟩
  · exact fun other busy => sound.held other busy.1

/-- The release of the oldest written position opens its slot for the next ring. -/
theorem release (sound : ring.Sound width) (written : ring.Written ring.low) :
    ring.release.Sound width := by
  obtain ⟨-, short, free⟩ := written
  have room := sound.room
  have positive := sound.positive
  have apart : ∀ other, ring.low + 1 ≤ other → other < ring.low + ring.size →
      other % ring.size ≠ ring.low % ring.size := by
    intro other above below same
    have := RingWindow.apart same.symm (by omega)
    omega
  constructor
  · exact sound.several
  · exact short
  · change ring.entries.length ≤ ring.low + 1 + ring.size
    omega
  · exact sound.widths
  · intro other above below waits
    change ring.low + 1 ≤ other at above
    change other < ring.low + 1 + ring.size at below
    change ring.entries.length ≤ other ∨ ring.busy other at waits
    change Function.update ring.stamp (ring.low % ring.size) (ring.low + ring.size) (other % ring.size) = other
    by_cases last : other = ring.low + ring.size
    · rw [last, Nat.add_mod_right, Function.update_self]
    · rw [Function.update_of_ne (apart other above (by omega))]
      exact sound.waiting other (by omega) (by omega) waits
  · intro other found above foundAt free
    change ring.low + 1 ≤ other at above
    have below : other < ring.entries.length := (List.getElem?_eq_some_iff.mp foundAt).1
    change Function.update ring.stamp (ring.low % ring.size) (ring.low + ring.size) (other % ring.size) =
      other + 1 ∧ _
    rw [Function.update_of_ne (apart other above (by omega))]
    exact sound.written other found (by omega) foundAt free
  · intro other busy
    have ⟨low, high⟩ := sound.held other busy
    have different : other ≠ ring.low := fun same => free (same ▸ busy)
    exact ⟨by change ring.low + 1 ≤ other; omega, high⟩

end Sound

end StampedRing
