/-
This file gives the rules for messages that are read in place: fields at fixed offsets, repeating groups behind
their dimensions, and data behind its length.
-/

import Mathlib.Data.List.TakeWhile
import TensorPool.Library.FixedField

/-- A scan of a fragment faults when it reads outside of the fragment. -/
inductive Scan (ε α : Type) where
  | fault
  | stop (error : ε)
  | value (result : α)
  deriving DecidableEq, Repr

namespace Scan

variable {ε α β : Type}

protected def bind (scan : Scan ε α) (next : α → Scan ε β) : Scan ε β :=
  match scan with
  | fault => fault
  | stop error => stop error
  | value result => next result

instance : Monad (Scan ε) where
  pure := value
  bind := Scan.bind

@[simp] theorem pure_value (result : α) : (pure result : Scan ε α) = value result := rfl

@[simp] theorem value_bind (result : α) (next : α → Scan ε β) : (value result >>= next) = next result := rfl

@[simp] theorem stop_bind (error : ε) (next : α → Scan ε β) : (stop error >>= next) = stop error := rfl

@[simp] theorem fault_bind (next : α → Scan ε β) : ((fault : Scan ε α) >>= next) = fault := rfl

/-- A sequence has a result when both of its parts do. -/
theorem bind_eq_value {scan : Scan ε α} {next : α → Scan ε β} {result : β} :
    (scan >>= next) = value result ↔ ∃ middle, scan = value middle ∧ next middle = value result := by
  cases scan <;> simp

/-- The scan stops with `error` when the condition holds. -/
def stopIf (bad : Prop) [Decidable bad] (error : ε) : Scan ε Unit := if bad then stop error else value ()

/-- The check passes exactly when its condition is false. -/
@[simp] theorem stopIf_eq_value {bad : Prop} [Decidable bad] {error : ε} {result : Unit} :
    stopIf bad error = value result ↔ ¬ bad := by
  unfold stopIf
  split <;> simp_all

/-- A check whose condition is false passes. -/
theorem stopIf_pass {bad : Prop} [Decidable bad] {error : ε} (passed : ¬ bad) : stopIf bad error = value () :=
  if_neg passed

/-- The error of a scan is seen from the scan around it. -/
def mapStop {ε' : Type} (outer : ε → ε') : Scan ε α → Scan ε' α
  | fault => fault
  | stop error => stop (outer error)
  | value result => value result

@[simp] theorem mapStop_eq_value {ε' : Type} {outer : ε → ε'} {scan : Scan ε α} {result : α} :
    mapStop outer scan = value result ↔ scan = value result := by
  cases scan <;> simp [mapStop]

end Scan

namespace Flyweight

open Scan

variable {ε α β : Type}

/-- A read of a field checks nothing, so it faults where the fragment does not hold the field. -/
def read (field : FixedField α) (offset : Nat) (bytes : List UInt8) : Scan ε α :=
  if offset + field.width ≤ bytes.length then value (field.decode (bytes.drop offset)) else fault

/-- A field is read exactly when it is inside the bytes. -/
theorem read_eq_value {field : FixedField α} {offset : Nat} {bytes : List UInt8} {result : α} :
    (read field offset bytes : Scan ε α) = value result ↔
      offset + field.width ≤ bytes.length ∧ field.decode (bytes.drop offset) = result := by
  unfold read
  split <;> simp_all

/-- A read is a fault exactly when the field is not inside the bytes. -/
theorem read_eq_fault {field : FixedField α} {offset : Nat} {bytes : List UInt8} :
    (read field offset bytes : Scan ε α) = fault ↔ bytes.length < offset + field.width := by
  unfold read
  split <;> simp_all

theorem read_ne_stop {field : FixedField α} {offset : Nat} {bytes : List UInt8} {error : ε} :
    (read field offset bytes : Scan ε α) ≠ stop error := by
  unfold read
  split <;> simp

/-- A field is read back where it was written. -/
theorem read_here (field : FixedField α) (written : α) (rest : List UInt8) :
    (read field 0 (field.encode written ++ rest) : Scan ε α) = value written := by
  have room : 0 + field.width ≤ (field.encode written ++ rest).length := by
    rw [List.length_append, field.length_encode]
    omega
  rw [read, if_pos room, List.drop_zero, field.decode_encode]

/-- A read behind a field does not see the field. -/
theorem read_behind (field : FixedField α) (other : FixedField β) (written : β) {offset : Nat} (rest : List UInt8)
    (behind : other.width ≤ offset) :
    (read field offset (other.encode written ++ rest) : Scan ε α) = read field (offset - other.width) rest := by
  have place : offset = (other.encode written).length + (offset - other.width) := by
    rw [other.length_encode]
    omega
  unfold read
  rw [List.length_append, other.length_encode]
  apply if_congr (by omega) _ rfl
  conv_lhs => rw [place]
  rw [List.drop_append, List.drop_eq_nil_of_le (Nat.le_add_right ..), List.nil_append, Nat.add_sub_cancel_left]

/-- This is the header in front of the block of a message. -/
structure Header where
  blockLength : UInt16
  templateId : UInt16
  schemaId : UInt16
  version : UInt16
  deriving DecidableEq, Repr

def messageHeader : FixedField Header :=
  (FixedField.uint16.pair (FixedField.uint16.pair (FixedField.uint16.pair FixedField.uint16))).via
    (fun header => (header.blockLength, header.templateId, header.schemaId, header.version))
    (fun fields => ⟨fields.1, fields.2.1, fields.2.2.1, fields.2.2.2⟩) fun _ => rfl

@[simp] theorem width_uint8 : FixedField.uint8.width = 1 := rfl

@[simp] theorem width_uint16 : FixedField.uint16.width = 2 := rfl

@[simp] theorem width_uint32 : FixedField.uint32.width = 4 := rfl

@[simp] theorem width_uint64 : FixedField.uint64.width = 8 := rfl

@[simp] theorem width_messageHeader : messageHeader.width = 8 := rfl

/-- The characters of a string end before its first null byte. -/
def chars (text : List UInt8) : List UInt8 := text.takeWhile (· != 0)

/-- A string ends at its first null byte, and then has none. -/
theorem chars_chars (text : List UInt8) : chars (chars text) = chars text := List.takeWhile_idem

theorem length_chars_le (text : List UInt8) : (chars text).length ≤ text.length :=
  (List.takeWhile_sublist _).length_le

/-- Data stands behind its length. -/
def dataBytes (text : List UInt8) : List UInt8 :=
  FixedField.uint32.encode (UInt32.ofNat text.length) ++ text

/-- The length and the data are written as far as they fit, and nothing reports the rest. -/
def putData (size : Nat) (text written : List UInt8) : List UInt8 :=
  if written.length + 4 ≤ size then
    let lengthened := written ++ FixedField.uint32.encode (UInt32.ofNat text.length)
    if lengthened.length + text.length ≤ size then lengthened ++ text else lengthened
  else written

/-- What the two accessors of a data field give: its length, its bytes when the fragment holds them, and the rest. -/
def data (rest : List UInt8) : Scan ε (Nat × Option (List UInt8) × List UInt8) := do
  let length ← read FixedField.uint32 0 rest
  if 4 + length.toNat ≤ rest.length then
    value (length.toNat, some ((rest.drop 4).take length.toNat), rest.drop (4 + length.toNat))
  else value (length.toNat, none, rest)

/-- The dimensions of a group are the length of its block and the number of its entries. -/
def groupBytes (blockLength count : Nat) : List UInt8 :=
  FixedField.uint16.encode (UInt16.ofNat blockLength) ++ FixedField.uint16.encode (UInt16.ofNat count)

/-- A group is refused with more entries than its dimensions allow, or without room for them. -/
def putGroup (size blockLength count : Nat) (written : List UInt8) : Option (List UInt8) :=
  if count % 2 ^ 16 ≤ 65534 ∧ written.length + 4 ≤ size then some (written ++ groupBytes blockLength count) else none

/-- The dimensions of a group, which are undefined when the fragment does not hold them. -/
def group (rest : List UInt8) : Scan ε (Nat × Nat × List UInt8) := do
  let blockLength ← read FixedField.uint16 0 rest
  let count ← read FixedField.uint16 2 rest
  value (blockLength.toNat, count.toNat, rest.drop 4)

/-- The step to an entry leaves the bytes behind its block. -/
def nextEntry (blockLength : Nat) (rest : List UInt8) : Option (List UInt8) :=
  if blockLength ≤ rest.length then some (rest.drop blockLength) else none

/-- This is the loop over the entries of a group. -/
def entries (each : List UInt8 → Scan ε (α × List UInt8)) : Nat → List UInt8 → Scan ε (List α × List UInt8)
  | 0, rest => value ([], rest)
  | count + 1, rest => do
      let (item, rest) ← each rest
      let (items, rest) ← entries each count rest
      value (item :: items, rest)

theorem length_dataBytes (text : List UInt8) : (dataBytes text).length = 4 + text.length := by
  rw [dataBytes, List.length_append, FixedField.length_encode]
  rfl

theorem length_groupBytes (blockLength count : Nat) : (groupBytes blockLength count).length = 4 := by
  rw [groupBytes, List.length_append, FixedField.length_encode, FixedField.length_encode]
  rfl

/-- Data that fit are put as a whole. -/
theorem putData_fits {size : Nat} {text written : List UInt8} (fits : written.length + (4 + text.length) ≤ size) :
    putData size text written = written ++ dataBytes text := by
  have all : (written ++ FixedField.uint32.encode (UInt32.ofNat text.length)).length + text.length ≤ size := by
    rw [List.length_append, FixedField.length_encode]
    change written.length + 4 + text.length ≤ size
    omega
  rw [putData, if_pos (by omega)]
  dsimp only
  rw [if_pos all, dataBytes, List.append_assoc]

/-- What is written stays, and it stays inside of the buffer. -/
theorem putData_extends (size : Nat) (text : List UInt8) {written : List UInt8} (inside : written.length ≤ size) :
    ∃ more, putData size text written = written ++ more ∧ (putData size text written).length ≤ size := by
  unfold putData
  dsimp only
  split
  · split
    next fits =>
      rw [List.append_assoc]
      exact ⟨_, rfl, by rwa [← List.append_assoc, List.length_append]⟩
    next fits room =>
      refine ⟨_, rfl, ?_⟩
      rw [List.length_append, FixedField.length_encode]
      exact fits
  · exact ⟨[], (List.append_nil _).symm, inside⟩

/-- The length is written when it fits, also when the data does not. -/
theorem putData_length {size : Nat} (text : List UInt8) {written : List UInt8} (room : written.length + 4 ≤ size) :
    ∃ more, putData size text written =
        written ++ (FixedField.uint32.encode (UInt32.ofNat text.length) ++ more) ∧
      (more = [] ∨ more = text ∧ written.length + (4 + text.length) ≤ size) := by
  by_cases fits : written.length + (4 + text.length) ≤ size
  · exact ⟨text, putData_fits fits, .inr ⟨rfl, fits⟩⟩
  · refine ⟨[], ?_, .inl rfl⟩
    rw [putData, if_pos room, List.append_nil]
    dsimp only
    rw [if_neg]
    rw [List.length_append, FixedField.length_encode]
    change ¬ written.length + 4 + text.length ≤ size
    omega

/-- The bytes in front only take room. -/
theorem putData_append {size : Nat} (text front written : List UInt8) (inside : front.length ≤ size) :
    putData size text (front ++ written) = front ++ putData (size - front.length) text written := by
  unfold putData
  dsimp only
  simp only [List.length_append, List.append_assoc]
  by_cases room : written.length + 4 ≤ size - front.length
  · rw [if_pos room, if_pos (by omega)]
    by_cases fits : written.length + (FixedField.uint32.encode (UInt32.ofNat text.length)).length + text.length ≤
        size - front.length
    · rw [if_pos fits, if_pos (by omega)]
    · rw [if_neg fits, if_neg (by omega)]
  · rw [if_neg room, if_neg (by omega)]

/-- Data is read back with its length. -/
theorem data_dataBytes (text rest : List UInt8) (small : text.length < 2 ^ 32) :
    (data (dataBytes text ++ rest) : Scan ε _) = value (text.length, some text, rest) := by
  have length : (UInt32.ofNat text.length).toNat = text.length := UInt32.toNat_ofNat_of_lt small
  have behind (more : Nat) (bytes : List UInt8) :
      (FixedField.uint32.encode (UInt32.ofNat text.length) ++ bytes).drop (4 + more) = bytes.drop more := by
    rw [← List.drop_drop]
    exact congrArg (List.drop more) (List.drop_left' (FixedField.uint32.length_encode _))
  have room : 4 + text.length ≤ (dataBytes text ++ rest).length := by
    rw [List.length_append, length_dataBytes]
    omega
  have first : (read FixedField.uint32 0 (dataBytes text ++ rest) : Scan ε _) = value (UInt32.ofNat text.length) := by
    rw [dataBytes, List.append_assoc, read_here]
  rw [data, first, value_bind, length, if_pos room, dataBytes, List.append_assoc, behind, List.drop_left,
    ← Nat.add_zero 4, behind, List.drop_zero, List.take_left]

/-- The dimensions of a group are read back. -/
theorem group_groupBytes (blockLength count : Nat) (rest : List UInt8) (short : blockLength < 2 ^ 16)
    (few : count < 2 ^ 16) :
    (group (groupBytes blockLength count ++ rest) : Scan ε _) = value (blockLength, count, rest) := by
  have block : (UInt16.ofNat blockLength).toNat = blockLength := UInt16.toNat_ofNat_of_lt short
  have number : (UInt16.ofNat count).toNat = count := UInt16.toNat_ofNat_of_lt few
  have left : (groupBytes blockLength count ++ rest).drop 4 = rest := List.drop_left' (length_groupBytes ..)
  rw [group, left, groupBytes, List.append_assoc, read_here, value_bind,
    read_behind _ _ _ _ (by decide : FixedField.uint16.width ≤ 2)]
  change (do let count ← read FixedField.uint16 0 _; _) = _
  rw [read_here, value_bind, block, number]

/-- The dimensions of a group look like a length of its block and the number of its entries. -/
theorem read_groupBytes (blockLength count : Nat) (rest : List UInt8) (short : blockLength < 2 ^ 16)
    (few : count < 2 ^ 16) :
    (read FixedField.uint32 0 (groupBytes blockLength count ++ rest) : Scan ε _) =
      value (UInt32.ofNat (blockLength + 65536 * count)) := by
  have block : (UInt16.ofNat blockLength).toNat = blockLength := UInt16.toNat_ofNat_of_lt short
  have number : (UInt16.ofNat count).toNat = count := UInt16.toNat_ofNat_of_lt few
  rw [read, if_pos (by rw [List.length_append, length_groupBytes]; exact Nat.le_add_right ..), List.drop_zero]
  congr 1
  change UInt32.ofNat (FixedField.number 4 _) = _
  congr 1
  change FixedField.number 4 (FixedField.digits 2 (UInt16.ofNat blockLength).toNat ++
    FixedField.digits 2 (UInt16.ofNat count).toNat ++ rest) = _
  rw [block, number]
  simp only [FixedField.digits, FixedField.number, List.cons_append, List.nil_append, UInt8.toNat_ofNat']
  omega

/-- The head of a group is read from four bytes. -/
theorem group_eq_value {rest tail : List UInt8} {blockLength count : Nat} :
    (group rest : Scan ε _) = value (blockLength, count, tail) ↔
      4 ≤ rest.length ∧ blockLength = (FixedField.uint16.decode rest).toNat ∧
        count = (FixedField.uint16.decode (rest.drop 2)).toNat ∧ tail = rest.drop 4 := by
  unfold group
  simp only [bind_eq_value, read_eq_value, List.drop_zero, width_uint16, Scan.value.injEq, Prod.mk.injEq]
  constructor
  · intro found
    obtain ⟨_, ⟨-, rfl⟩, _, ⟨inside, rfl⟩, rfl, rfl, rfl⟩ := found
    exact ⟨inside, rfl, rfl, rfl⟩
  · intro found
    obtain ⟨inside, rfl, rfl, rfl⟩ := found
    exact ⟨_, ⟨by omega, rfl⟩, _, ⟨inside, rfl⟩, rfl, rfl, rfl⟩

/-- The step to an entry goes over its block. -/
theorem nextEntry_append {blockLength : Nat} {block : List UInt8} (rest : List UInt8)
    (length : block.length = blockLength) : nextEntry blockLength (block ++ rest) = some rest := by
  rw [nextEntry, if_pos (by rw [List.length_append]; omega), List.drop_left' length]

/-- When each entry is read back, the loop reads back the group. -/
theorem entries_flatMap {each : List UInt8 → Scan ε (β × List UInt8)} (encode : α → List UInt8) (shown : α → β)
    (items : List α) (back : ∀ item ∈ items, ∀ rest, each (encode item ++ rest) = value (shown item, rest))
    (rest : List UInt8) :
    entries each items.length (items.flatMap encode ++ rest) = value (items.map shown, rest) := by
  induction items with
  | nil => rfl
  | cons item items hypothesis =>
      have tail := hypothesis fun other member => back other (List.mem_cons_of_mem _ member)
      rw [List.length_cons, entries, List.flatMap_cons, List.append_assoc, back item (List.mem_cons_self ..),
        value_bind]
      dsimp only
      rw [tail, value_bind, List.map_cons]

/-- What is written of a text when so many bytes are left. -/
def piece (room : Nat) (text : List UInt8) : List UInt8 := putData room text []

/-- Data are put into the room that is left. -/
theorem putData_piece {size : Nat} (text : List UInt8) {written : List UInt8} (inside : written.length ≤ size) :
    putData size text written = written ++ piece (size - written.length) text := by
  rw [← List.append_nil written, putData_append _ _ _ inside, List.append_nil, piece]

/-- With room for all the piece is the whole data. -/
theorem piece_fits {room : Nat} {text : List UInt8} (fits : 4 + text.length ≤ room) :
    piece room text = dataBytes text := by
  rw [piece, putData_fits (by rwa [List.length_nil, Nat.zero_add]), List.nil_append]

/-- A piece stays in its room. -/
theorem length_piece (room : Nat) (text : List UInt8) : (piece room text).length ≤ room := by
  have start : ([] : List UInt8).length ≤ room := Nat.zero_le _
  obtain ⟨-, -, inside⟩ := putData_extends room text start
  exact inside

/-- Of a text that did not fit at most the length is there. -/
theorem length_piece_over {room : Nat} {text : List UInt8} (tooLong : room < 4 + text.length) :
    (piece room text).length ≤ 4 := by
  by_cases start : ([] : List UInt8).length + 4 ≤ room
  · obtain ⟨more, parts, none | ⟨-, fits⟩⟩ := putData_length text start
    · rw [piece, parts, none, List.append_nil, List.nil_append, FixedField.length_encode]
      exact Nat.le_refl _
    · rw [List.length_nil] at fits
      omega
  · have short := length_piece room text
    rw [List.length_nil] at start
    omega

/-- A text that did not fit has no bytes in the fragment. -/
theorem data_piece {room : Nat} {text tail : List UInt8} (small : text.length < 2 ^ 32)
    (tooLong : room < 4 + text.length) (inside : (piece room text ++ tail).length ≤ room) :
    (data (piece room text ++ tail) : Scan ε _) = fault ∨
      (data (piece room text ++ tail) : Scan ε _) = value (text.length, none, piece room text ++ tail) := by
  by_cases written : 4 ≤ room
  · right
    have shape : piece room text = FixedField.uint32.encode (UInt32.ofNat text.length) := by
      have start : ([] : List UInt8).length + 4 ≤ room := by
        rw [List.length_nil]
        omega
      obtain ⟨more, parts, all⟩ := putData_length text start
      rw [piece, parts, List.nil_append]
      obtain none | ⟨-, fits⟩ := all
      · rw [none, List.append_nil]
      · rw [List.length_nil] at fits
        omega
    have length : (UInt32.ofNat text.length).toNat = text.length := UInt32.toNat_ofNat_of_lt small
    rw [data, shape, read_here, value_bind, length, if_neg]
    rw [← shape]
    omega
  · left
    rw [data, read_eq_fault.mpr, fault_bind]
    change _ < 0 + 4
    omega

end Flyweight
