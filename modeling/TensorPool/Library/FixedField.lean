/-
This file gives fields of a fixed width and rows of such fields.
-/

import Mathlib.Data.List.Basic
import Mathlib.Tactic.Ring

/-- The bytes of a value have the declared width and decode in front of any bytes. -/
structure FixedField (α : Type) where
  width : Nat
  encode : α → List UInt8
  decode : List UInt8 → α
  length_encode : ∀ value, (encode value).length = width
  decode_encode : ∀ value rest, decode (encode value ++ rest) = value

namespace FixedField

/-- The least significant byte comes first. -/
def digits : Nat → Nat → List UInt8
  | 0, _ => []
  | width + 1, value => UInt8.ofNat value :: digits width (value / 256)

def number : Nat → List UInt8 → Nat
  | 0, _ => 0
  | _ + 1, [] => 0
  | width + 1, byte :: rest => byte.toNat + 256 * number width rest

theorem length_digits (width value : Nat) : (digits width value).length = width := by
  induction width generalizing value with
  | zero => rfl
  | succ width hypothesis => rw [digits, List.length_cons, hypothesis]

theorem number_digits (width value : Nat) (rest : List UInt8) :
    number width (digits width value ++ rest) = value % 256 ^ width := by
  induction width generalizing value with
  | zero => rw [number, Nat.pow_zero, Nat.mod_one]
  | succ width hypothesis =>
      rw [digits, List.cons_append, number, hypothesis, Nat.pow_succ', Nat.mod_mul]
      change value % 256 + _ = _
      rfl

def uint8 : FixedField UInt8 where
  width := 1
  encode := fun value => [value]
  decode := fun bytes => bytes.headD 0
  length_encode := fun _ => rfl
  decode_encode := fun _ _ => rfl

def uint16 : FixedField UInt16 where
  width := 2
  encode := fun value => digits 2 value.toNat
  decode := fun bytes => UInt16.ofNat (number 2 bytes)
  length_encode := fun _ => length_digits ..
  decode_encode := by
    intro value rest
    have bound : value.toNat < 256 ^ 2 := value.toNat_lt
    rw [number_digits, Nat.mod_eq_of_lt bound, UInt16.ofNat_toNat]

def uint32 : FixedField UInt32 where
  width := 4
  encode := fun value => digits 4 value.toNat
  decode := fun bytes => UInt32.ofNat (number 4 bytes)
  length_encode := fun _ => length_digits ..
  decode_encode := by
    intro value rest
    have bound : value.toNat < 256 ^ 4 := value.toNat_lt
    rw [number_digits, Nat.mod_eq_of_lt bound, UInt32.ofNat_toNat]

def uint64 : FixedField UInt64 where
  width := 8
  encode := fun value => digits 8 value.toNat
  decode := fun bytes => UInt64.ofNat (number 8 bytes)
  length_encode := fun _ => length_digits ..
  decode_encode := by
    intro value rest
    have bound : value.toNat < 256 ^ 8 := value.toNat_lt
    rw [number_digits, Nat.mod_eq_of_lt bound, UInt64.ofNat_toNat]

variable {α β : Type}

/-- A field of another type is stored through a map that can be undone. -/
def via (field : FixedField α) (store : β → α) (load : α → β) (undone : ∀ value, load (store value) = value) :
    FixedField β where
  width := field.width
  encode := fun value => field.encode (store value)
  decode := fun bytes => load (field.decode bytes)
  length_encode := fun _ => field.length_encode _
  decode_encode := by
    intro value rest
    rw [field.decode_encode, undone]

def int16 : FixedField Int16 := uint16.via Int16.toUInt16 UInt16.toInt16 fun _ => rfl

def int32 : FixedField Int32 := uint32.via Int32.toUInt32 UInt32.toInt32 fun _ => rfl

def int64 : FixedField Int64 := uint64.via Int64.toUInt64 UInt64.toInt64 fun _ => rfl

def pair (first : FixedField α) (second : FixedField β) : FixedField (α × β) where
  width := first.width + second.width
  encode := fun value => first.encode value.1 ++ second.encode value.2
  decode := fun bytes => (first.decode bytes, second.decode (bytes.drop first.width))
  length_encode := by
    intro value
    rw [List.length_append, first.length_encode, second.length_encode]
  decode_encode := by
    intro value rest
    rw [List.append_assoc, first.decode_encode,
      List.drop_left' (first.length_encode value.1), second.decode_encode]

/-- A row holds its values one after the other. -/
def row (field : FixedField α) (values : List α) : List UInt8 := values.flatMap field.encode

def entry (field : FixedField α) (bytes : List UInt8) (index : Nat) : α :=
  field.decode (bytes.drop (index * field.width))

theorem length_row (field : FixedField α) (values : List α) :
    (field.row values).length = values.length * field.width := by
  induction values with
  | nil => rw [row, List.flatMap_nil, List.length_nil, List.length_nil, Nat.zero_mul]
  | cons value values hypothesis =>
      rw [row, List.flatMap_cons, List.length_append, field.length_encode, List.length_cons]
      rw [row] at hypothesis
      rw [hypothesis]
      ring

theorem entry_row_append (field : FixedField α) (values : List α) (rest : List UInt8) (index : Nat)
    (inside : index < values.length) : field.entry (field.row values ++ rest) index = values[index] := by
  induction values generalizing index with
  | nil => exact absurd inside (Nat.not_lt_zero index)
  | cons value values hypothesis =>
      rw [row, List.flatMap_cons, entry, List.append_assoc]
      cases index with
      | zero => rw [Nat.zero_mul, List.drop_zero, field.decode_encode, List.getElem_cons_zero]
      | succ index =>
          rw [Nat.succ_mul, Nat.add_comm, ← List.drop_drop, List.drop_left' (field.length_encode value),
            List.getElem_cons_succ]
          exact hypothesis index (Nat.lt_of_succ_lt_succ inside)

/-- Each value of a row is read back at its index. -/
theorem entry_row (field : FixedField α) (values : List α) (index : Nat) (inside : index < values.length) :
    field.entry (field.row values) index = values[index] := by
  rw [← List.append_nil (field.row values), entry_row_append field values [] index inside]

/-- A row that holds a value for each index below the count. -/
def array (field : FixedField α) (count : Nat) : FixedField (Fin count → α) where
  width := count * field.width
  encode := fun values => field.row (List.ofFn values)
  decode := fun bytes index => field.entry bytes index
  length_encode := by
    intro values
    rw [length_row, List.length_ofFn]
  decode_encode := by
    intro values rest
    funext index
    have inside : index.val < (List.ofFn values).length := by
      rw [List.length_ofFn]
      exact index.isLt
    rw [entry_row_append field _ rest index.val inside, List.getElem_ofFn]

/-- Bytes that are written as zero and never read. -/
def zeros (count : Nat) : FixedField Unit where
  width := count
  encode := fun _ => List.replicate count 0
  decode := fun _ => ()
  length_encode := fun _ => List.length_replicate
  decode_encode := fun _ _ => rfl

/-- The bytes of a memory at consecutive offsets. -/
def window (memory : Nat → UInt8) (offset width : Nat) : List UInt8 :=
  (List.range width).map fun index => memory (offset + index)

/-- The memory shows the chunk at the offset. -/
def Shows (memory : Nat → UInt8) (offset : Nat) (chunk : List UInt8) : Prop :=
  ∀ index (inside : index < chunk.length), memory (offset + index) = chunk[index]

section Shows

variable {memory : Nat → UInt8} {offset : Nat} {chunk chunk' : List UInt8}

theorem Shows.bytes (shows' : Shows memory offset chunk) : window memory offset chunk.length = chunk := by
  apply List.ext_getElem
  · rw [window, List.length_map, List.length_range]
  · intro index inside inside'
    simp only [window, List.getElem_map, List.getElem_range]
    exact shows' index inside'

theorem Shows.left (shows' : Shows memory offset (chunk ++ chunk')) : Shows memory offset chunk := by
  intro index inside
  rw [shows' index (by rw [List.length_append]; omega), List.getElem_append_left inside]

theorem Shows.right (shows' : Shows memory offset (chunk ++ chunk')) :
    Shows memory (offset + chunk.length) chunk' := by
  intro index inside
  have all := shows' (chunk.length + index) (by rw [List.length_append]; omega)
  rw [← Nat.add_assoc] at all
  rw [all, List.getElem_append_right (Nat.le_add_right ..)]
  congr 1
  exact Nat.add_sub_cancel_left ..

/-- A field is read back from the memory that shows it. -/
theorem Shows.decode {field : FixedField α} {value : α} (shows' : Shows memory offset (field.encode value)) :
    field.decode (window memory offset field.width) = value := by
  have bytes := shows'.bytes
  rw [field.length_encode] at bytes
  rw [bytes, ← List.append_nil (field.encode value), field.decode_encode]

theorem Shows.first {first : FixedField α} {second : FixedField β} {value : α × β}
    (shows' : Shows memory offset ((first.pair second).encode value)) :
    Shows memory offset (first.encode value.1) :=
  shows'.left

theorem Shows.second {first : FixedField α} {second : FixedField β} {value : α × β}
    (shows' : Shows memory offset ((first.pair second).encode value)) :
    Shows memory (offset + first.width) (second.encode value.2) := by
  have right := shows'.right
  rwa [first.length_encode] at right

theorem Shows.row {field : FixedField α} {values : List α} (shows' : Shows memory offset (field.row values))
    (index : Nat) (inside : index < values.length) :
    Shows memory (offset + index * field.width) (field.encode values[index]) := by
  induction values generalizing offset index with
  | nil => exact absurd inside (Nat.not_lt_zero index)
  | cons value values hypothesis =>
      rw [FixedField.row, List.flatMap_cons] at shows'
      cases index with
      | zero =>
          rw [Nat.zero_mul, Nat.add_zero]
          exact shows'.left
      | succ index =>
          have right := shows'.right
          rw [field.length_encode] at right
          have found := hypothesis right index (Nat.lt_of_succ_lt_succ inside)
          have place : offset + field.width + index * field.width = offset + (index + 1) * field.width := by
            ring
          rwa [place] at found

theorem Shows.entry {field : FixedField α} {count : Nat} {values : Fin count → α}
    (shows' : Shows memory offset ((field.array count).encode values)) (index : Fin count) :
    Shows memory (offset + index * field.width) (field.encode (values index)) := by
  have inside : index.val < (List.ofFn values).length := by
    rw [List.length_ofFn]
    exact index.isLt
  have found := Shows.row shows' index.val inside
  rwa [List.getElem_ofFn] at found

end Shows

end FixedField
