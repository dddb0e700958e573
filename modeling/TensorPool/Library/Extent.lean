/-
This file gives the rules for scans that stay inside of a fragment, and the extent of the message in one.
-/

import TensorPool.Library.Flyweight

namespace Scan

variable {ε ε' α β : Type}

/-- A scan that does not fault ensures a condition when its result, if it has one, meets the condition. -/
def Ensures (scan : Scan ε α) (condition : α → Prop) : Prop :=
  match scan with
  | fault => False
  | stop _ => True
  | value result => condition result

variable {scan : Scan ε α} {condition : α → Prop}

@[simp] theorem ensures_value {result : α} : (value result : Scan ε α).Ensures condition ↔ condition result := Iff.rfl

@[simp] theorem ensures_stop {error : ε} : (stop error : Scan ε α).Ensures condition := trivial

@[simp] theorem not_ensures_fault : ¬ (fault : Scan ε α).Ensures condition := id

@[simp] theorem ensures_bind {next : α → Scan ε β} {condition : β → Prop} :
    (scan >>= next).Ensures condition ↔ scan.Ensures fun result => (next result).Ensures condition := by
  cases scan <;> simp [Ensures]

@[simp] theorem ensures_stopIf {bad : Prop} [Decidable bad] {error : ε} {condition : Unit → Prop} :
    (stopIf bad error).Ensures condition ↔ (¬ bad → condition ()) := by
  unfold stopIf
  split <;> simp_all

@[simp] theorem ensures_mapStop {outer : ε → ε'} : (scan.mapStop outer).Ensures condition ↔
    scan.Ensures condition := by
  cases scan <;> rfl

theorem ensures_ite {decision : Prop} [Decidable decision] {other : Scan ε α} :
    (if decision then scan else other).Ensures condition ↔
      (decision → scan.Ensures condition) ∧ (¬ decision → other.Ensures condition) := by
  by_cases holds : decision <;> simp [holds]

end Scan

namespace Flyweight

open Scan

variable {ε α : Type}

@[simp] theorem ensures_read {field : FixedField α} {offset : Nat} {bytes : List UInt8} {condition : α → Prop} :
    (read field offset bytes : Scan ε α).Ensures condition ↔
      offset + field.width ≤ bytes.length ∧ condition (field.decode (bytes.drop offset)) := by
  unfold read
  split <;> simp_all

/-- What stands behind a data field that the bytes hold. -/
def afterData (rest : List UInt8) : Option (List UInt8) :=
  let length := (FixedField.uint32.decode rest).toNat
  if 4 + length ≤ rest.length then some (rest.drop (4 + length)) else none

/-- What stands behind data fields in a row. -/
def afterTexts : Nat → List UInt8 → Option (List UInt8)
  | 0, rest => some rest
  | count + 1, rest => (afterData rest).bind (afterTexts count)

/-- What stands behind the entries of a group, which have some data fields behind their block. -/
def afterEntries (blockLength texts : Nat) : Nat → List UInt8 → Option (List UInt8)
  | 0, rest => some rest
  | count + 1, rest =>
      if blockLength ≤ rest.length then
        (afterTexts texts (rest.drop blockLength)).bind (afterEntries blockLength texts count)
      else none

/-- What stands behind a group that the bytes hold. -/
def afterGroup (texts : Nat) (rest : List UInt8) : Option (List UInt8) :=
  if 4 ≤ rest.length then
    afterEntries (FixedField.uint16.decode rest).toNat texts (FixedField.uint16.decode (rest.drop 2)).toNat
      (rest.drop 4)
  else none

/-- A data field is read only when the bytes hold it. -/
def checkedData (rest : List UInt8) : Option (List UInt8 × List UInt8) :=
  if rest.length < 4 then none
  else
    let length := (FixedField.uint32.decode rest).toNat
    if rest.length < 4 + length then none else some ((rest.drop 4).take length, rest.drop (4 + length))

theorem checkedData_behind (rest : List UInt8) : (checkedData rest).map Prod.snd = afterData rest := by
  unfold checkedData afterData
  split
  next short =>
    rw [if_neg (by omega)]
    rfl
  · dsimp only
    split
    next long =>
      rw [if_neg (by omega)]
      rfl
    next inside =>
      rw [if_pos (by omega)]
      rfl

/-- The accessors of a data field check its data but not its length. -/
theorem data_eq (rest : List UInt8) :
    (data rest : Scan ε _) =
      if rest.length < 4 then fault
      else
        match checkedData rest with
        | none => value ((FixedField.uint32.decode rest).toNat, none, rest)
        | some (text, behind) => value ((FixedField.uint32.decode rest).toNat, some text, behind) := by
  by_cases short : rest.length < 4
  · rw [if_pos short, data, read_eq_fault.mpr (by rwa [width_uint32, Nat.zero_add]), fault_bind]
  · have whole : (read FixedField.uint32 0 rest : Scan ε _) = value (FixedField.uint32.decode rest) :=
      read_eq_value.mpr ⟨by rw [width_uint32]; omega, rfl⟩
    rw [if_neg short, data, whole, value_bind, checkedData, if_neg short]
    dsimp only
    by_cases long : rest.length < 4 + (FixedField.uint32.decode rest).toNat
    · rw [if_neg (by omega), if_pos long]
    · rw [if_pos (by omega), if_neg long]

/-- Data that the bytes hold is read back. -/
theorem checkedData_dataBytes (text rest : List UInt8) (small : text.length < 2 ^ 32) :
    checkedData (dataBytes text ++ rest) = some (text, rest) := by
  have found : (data (dataBytes text ++ rest) : Scan Unit _) = _ := data_dataBytes text rest small
  rw [data_eq] at found
  split at found
  · cases found
  · split at found
    · simp at found
    next shown =>
      simp only [value.injEq, Prod.mk.injEq, Option.some.injEq] at found
      rw [shown, found.2.1, found.2.2]

theorem ensures_data {condition : Nat × Option (List UInt8) × List UInt8 → Prop} {rest : List UInt8} :
    (data rest : Scan ε _).Ensures condition ↔ 4 ≤ rest.length ∧
      match checkedData rest with
      | none => condition ((FixedField.uint32.decode rest).toNat, none, rest)
      | some (text, behind) => condition ((FixedField.uint32.decode rest).toNat, some text, behind) := by
  rw [data_eq]
  split
  next short =>
    constructor
    · intro none
      exact absurd none not_ensures_fault
    · intro inside
      omega
  next whole =>
    have whole : 4 ≤ rest.length := Nat.le_of_not_lt whole
    split <;> simp [whole]

end Flyweight
