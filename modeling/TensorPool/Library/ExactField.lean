/-
This file gives the fields whose bytes are determined by the value that is read from them.
-/

import TensorPool.Library.Flyweight

namespace FixedField

variable {α β : Type}

/-- Enough bytes start with the encoding of the value that is read from them. -/
def Exact (field : FixedField α) : Prop :=
  ∀ bytes : List UInt8, field.width ≤ bytes.length → field.encode (field.decode bytes) = bytes.take field.width

theorem number_lt (width : Nat) (bytes : List UInt8) : number width bytes < 256 ^ width := by
  induction width generalizing bytes with
  | zero => exact Nat.one_pos
  | succ width hypothesis =>
      cases bytes with
      | nil => exact Nat.pow_pos (by decide)
      | cons byte rest =>
          have small : byte.toNat < 256 := byte.toNat_lt
          have tail := hypothesis rest
          rw [number, Nat.pow_succ]
          omega

/-- The digits of a number that was read are the bytes that were read. -/
theorem digits_number (width : Nat) (bytes : List UInt8) (room : width ≤ bytes.length) :
    digits width (number width bytes) = bytes.take width := by
  induction width generalizing bytes with
  | zero => simp [digits]
  | succ width hypothesis =>
      cases bytes with
      | nil => simp at room
      | cons byte rest =>
          have small : byte.toNat < 256 := byte.toNat_lt
          have low : UInt8.ofNat (byte.toNat + 256 * number width rest) = byte := by
            rw [← UInt8.toNat_inj, UInt8.toNat_ofNat']
            omega
          have high : (byte.toNat + 256 * number width rest) / 256 = number width rest := by omega
          rw [number, digits, low, high, hypothesis rest (Nat.le_of_succ_le_succ room), List.take_succ_cons]

theorem exact_uint8 : Exact uint8 := by
  intro bytes room
  cases bytes with
  | nil => simp [uint8] at room
  | cons byte rest => simp [uint8]

theorem exact_uint16 : Exact uint16 := by
  intro bytes room
  have small := number_lt 2 bytes
  change digits 2 (UInt16.ofNat (number 2 bytes)).toNat = bytes.take 2
  rw [UInt16.toNat_ofNat_of_lt' small, digits_number 2 bytes room]

theorem exact_uint32 : Exact uint32 := by
  intro bytes room
  have small := number_lt 4 bytes
  change digits 4 (UInt32.ofNat (number 4 bytes)).toNat = bytes.take 4
  rw [UInt32.toNat_ofNat_of_lt' small, digits_number 4 bytes room]

theorem exact_uint64 : Exact uint64 := by
  intro bytes room
  have small := number_lt 8 bytes
  change digits 8 (UInt64.ofNat (number 8 bytes)).toNat = bytes.take 8
  rw [UInt64.toNat_ofNat_of_lt' small, digits_number 8 bytes room]

/-- A field that is stored through a bijection is as exact as the stored field. -/
theorem Exact.via {field : FixedField α} (exact : field.Exact) {store : β → α} {load : α → β}
    {undone : ∀ value, load (store value) = value} (redone : ∀ value, store (load value) = value) :
    Exact (field.via store load undone) := by
  intro bytes room
  change field.encode (store (load (field.decode bytes))) = bytes.take field.width
  rw [redone, exact bytes room]

theorem exact_int64 : Exact int64 := exact_uint64.via fun _ => rfl

theorem Exact.pair {first : FixedField α} {second : FixedField β} (exact : first.Exact) (exact' : second.Exact) :
    Exact (first.pair second) := by
  intro bytes room
  change first.width + second.width ≤ bytes.length at room
  change first.encode (first.decode bytes) ++ second.encode (second.decode (bytes.drop first.width)) =
    bytes.take (first.width + second.width)
  rw [exact bytes (by omega), exact' _ (by rw [List.length_drop]; omega), List.take_add]

open Flyweight in
theorem exact_messageHeader : Exact messageHeader :=
  (exact_uint16.pair (exact_uint16.pair (exact_uint16.pair exact_uint16))).via fun _ => rfl

open Scan Flyweight in
/-- A value is read from an exact field where its encoding stands. -/
theorem Exact.read_iff {ε : Type} {field : FixedField α} (exact : field.Exact) {offset : Nat} {bytes : List UInt8}
    {result : α} : (read field offset bytes : Scan ε α) = value result ↔
      ∃ front rest, front.length = offset ∧ bytes = front ++ (field.encode result ++ rest) := by
  rw [read_eq_value]
  constructor
  · rintro ⟨room, rfl⟩
    refine ⟨bytes.take offset, (bytes.drop offset).drop field.width, by simp; omega, ?_⟩
    rw [exact _ (by rw [List.length_drop]; omega), List.take_append_drop, List.take_append_drop]
  · rintro ⟨front, rest, rfl, rfl⟩
    refine ⟨?_, by rw [List.drop_left, field.decode_encode]⟩
    rw [List.length_append, List.length_append, field.length_encode]
    omega

end FixedField
