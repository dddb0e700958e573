/-
This file checks, completes and lays out the tensor header of a frame.
-/

import Mathlib.Algebra.Group.Nat.Defs
import Mathlib.Data.Fintype.Pi
import Mathlib.Logic.Function.Basic
import Mathlib.Tactic.IntervalCases
import TensorPool.Merge.Wire

namespace TensorPool.Client

open FixedField
open TensorPool.Merge (MessageHeader headerField)

structure TensorHeader where
  dtype : Int16
  majorOrder : Int16
  ndims : UInt8
  progressUnit : UInt8
  progressStrideBytes : UInt32
  dims : Fin 8 → Int32
  strides : Fin 8 → Int32
  deriving DecidableEq

def maxDims : Nat := 8

def majorOrderRow : Int16 := 1
def majorOrderColumn : Int16 := 2

def progressUnitNone : UInt8 := 0
def progressUnitRows : UInt8 := 1
def progressUnitColumns : UInt8 := 2

def dtypeSizeBytes (dtype : Int16) : Nat :=
  match dtype.toInt with
  | 1 | 2 | 11 | 13 | 14 => 1
  | 3 | 4 => 2
  | 5 | 6 | 9 => 4
  | 7 | 8 | 10 => 8
  | _ => 0

def extent (dims : Fin 8 → Int32) (index : Fin 8) : Int32 :=
  if dims index > 0 then dims index else 1

/-- Each pair names a stride and the neighbour that bounds it from below. -/
def fillFrom (dims : Fin 8 → Int32) : List (Fin 8 × Fin 8) → (Fin 8 → Int32) → Option (Fin 8 → Int32)
  | [], strides => some strides
  | (index, inner) :: rest, strides =>
      let expected := strides inner * extent dims inner
      if strides index == 0 then
        fillFrom dims rest (Function.update strides index expected)
      else if strides index < expected then
        none
      else
        fillFrom dims rest strides

/-- The row loop goes from the last stride but one down to the first. -/
def rowOrder (ndims : Nat) : List (Fin 8 × Fin 8) :=
  (List.range (ndims - 1)).reverse.map fun index => (Fin.ofNat 8 index, Fin.ofNat 8 (index + 1))

def columnOrder (ndims : Nat) : List (Fin 8 × Fin 8) :=
  (List.range (ndims - 1)).map fun index => (Fin.ofNat 8 (index + 1), Fin.ofNat 8 index)

/-- A stride of zero at the innermost dimension becomes the size of an element. -/
def fillInner (inner : Fin 8) (elemSize : Nat) (strides : Fin 8 → Int32) : Fin 8 → Int32 :=
  if strides inner == 0 then Function.update strides inner (Int32.ofNat elemSize) else strides

def tensorFillStrides (header : TensorHeader) (elemSize : Nat) : Option TensorHeader :=
  let ndims := header.ndims.toNat
  if header.majorOrder == majorOrderRow then
    if header.ndims == 0 then
      none
    else
      (fillFrom header.dims (rowOrder ndims)
        (fillInner (Fin.ofNat 8 (ndims - 1)) elemSize header.strides)).map
          fun strides => { header with strides := strides }
  else if header.majorOrder == majorOrderColumn then
    if header.ndims == 0 then
      none
    else
      (fillFrom header.dims (columnOrder ndims) (fillInner 0 elemSize header.strides)).map
        fun strides => { header with strides := strides }
  else
    none

def tensorValidateProgress (header : TensorHeader) : Bool :=
  if header.progressUnit == progressUnitNone then
    true
  else if header.progressStrideBytes == 0 then
    false
  else if header.progressUnit == progressUnitRows then
    header.ndims != 0 && (header.strides 0).toUInt32 == header.progressStrideBytes
  else if header.progressUnit == progressUnitColumns then
    !(header.ndims < 2) && (header.strides 1).toUInt32 == header.progressStrideBytes
  else
    false

/-- The first negative entry decides which text the refusal has. -/
def checkDims (header : TensorHeader) : List (Fin 8) → Except String Unit
  | [] => .ok ()
  | index :: rest =>
      if header.dims index < 0 then
        .error "tp_tensor_header_validate: invalid dims"
      else if header.strides index < 0 then
        .error "tp_tensor_header_validate: negative stride"
      else
        checkDims header rest

def tensorHeaderValidate (header : TensorHeader) : Except String TensorHeader :=
  if header.ndims == 0 || header.ndims.toNat > maxDims then
    .error "tp_tensor_header_validate: invalid ndims"
  else
    let elemSize := dtypeSizeBytes header.dtype
    if elemSize == 0 then
      .error "tp_tensor_header_validate: invalid dtype"
    else
      match checkDims header ((List.range header.ndims.toNat).map (Fin.ofNat 8)) with
      | .error text => .error text
      | .ok () =>
          match tensorFillStrides header elemSize with
          | none => .error "tp_tensor_header_validate: strides inconsistent with major order"
          | some filled =>
              if !tensorValidateProgress filled then
                .error "tp_tensor_header_validate: invalid progress stride"
              else
                .ok filled

/-- The entries of the dimensions that the tensor does not have become zero. -/
def prepareTensorHeader (tensor : TensorHeader) : Except String TensorHeader :=
  tensorHeaderValidate
    { tensor with
      dims := fun index => if index.val < tensor.ndims.toNat then tensor.dims index else 0
      strides := fun index => if index.val < tensor.ndims.toNat then tensor.strides index else 0 }

/-- The block has constant and reserved bytes that no reader looks at. -/
def tensorField : FixedField (Int16 × Int16 × UInt8 × UInt8 × UInt8 × UInt32 × (Fin 8 → Int32) × (Fin 8 →
    Int32) × Unit) :=
  int16.pair (int16.pair (uint8.pair (uint8.pair (uint8.pair (uint32.pair
    ((int32.array 8).pair ((int32.array 8).pair (zeros 109))))))))

def tensorSchemaId : UInt16 := 900
def tensorSchemaVersion : UInt16 := 1
def tensorTemplateId : UInt16 := 52
def tensorBlockLength : UInt16 := 184

/-- The message header and the block follow each other. -/
def headerBytesField := headerField.pair tensorField

/-- The encoder writes no padding alignment. -/
def tensorHeaderValue (tensor : TensorHeader) : MessageHeader × Int16 × Int16 × UInt8 × UInt8 × UInt8 × UInt32 ×
    (Fin 8 → Int32) × (Fin 8 → Int32) × Unit :=
  (⟨tensorBlockLength, tensorTemplateId, tensorSchemaId, tensorSchemaVersion⟩,
    tensor.dtype, tensor.majorOrder, tensor.ndims, 0, tensor.progressUnit, tensor.progressStrideBytes,
    tensor.dims, tensor.strides, ())

def encodeTensorHeader (tensor : TensorHeader) : List UInt8 :=
  headerBytesField.encode (tensorHeaderValue tensor)

/-- An enumeration getter accepts the values of the schema and the null value. -/
def knownDtype (dtype : Int16) : Bool :=
  (0 ≤ dtype && dtype ≤ 11) || dtype == 13 || dtype == 14 || dtype == Int16.minValue

def knownMajorOrder (order : Int16) : Bool :=
  (0 ≤ order && order ≤ 2) || order == Int16.minValue

def knownProgressUnit (unit : UInt8) : Bool :=
  unit ≤ 2 || unit == 255

section Filled

variable {dims strides filled : Fin 8 → Int32} {order : List (Fin 8 × Fin 8)}

theorem fillFrom_keeps (fills : fillFrom dims order strides = some filled) (index : Fin 8)
    (untouched : ∀ pair ∈ order, pair.1 ≠ index) : filled index = strides index := by
  induction order generalizing strides with
  | nil =>
      cases fills
      rfl
  | cons pair rest hypothesis =>
      have later : ∀ pair ∈ rest, pair.1 ≠ index :=
        fun pair present => untouched pair (List.mem_cons_of_mem _ present)
      have here : index ≠ pair.1 := (untouched pair List.mem_cons_self).symm
      simp only [fillFrom] at fills
      split at fills
      · rw [hypothesis fills later, Function.update_of_ne here]
      · split at fills
        · cases fills
        · exact hypothesis fills later

/-- No pair writes what an earlier pair has read or written. -/
def Apart (order : List (Fin 8 × Fin 8)) : Prop :=
  order.Pairwise (fun early late => late.1 ≠ early.1 ∧ late.1 ≠ early.2) ∧ ∀ pair ∈ order, pair.1 ≠ pair.2

instance (order : List (Fin 8 × Fin 8)) : Decidable (Apart order) := inferInstanceAs (Decidable (_ ∧ _))

/-- Filled strides are already filled. -/
theorem fillFrom_again (apart : Apart order) (fills : fillFrom dims order strides = some filled) :
    fillFrom dims order filled = some filled := by
  induction order generalizing strides with
  | nil => rfl
  | cons pair rest hypothesis =>
      obtain ⟨index, inner⟩ := pair
      obtain ⟨pairwise, different⟩ := apart
      obtain ⟨first, others⟩ := List.pairwise_cons.mp pairwise
      have own : index ≠ inner := different (index, inner) List.mem_cons_self
      have restApart : Apart rest := ⟨others, fun pair present => different pair (List.mem_cons_of_mem _ present)⟩
      have keepsIndex : ∀ pair ∈ rest, pair.1 ≠ index := fun pair present => (first pair present).1
      have keepsInner : ∀ pair ∈ rest, pair.1 ≠ inner := fun pair present => (first pair present).2
      simp only [fillFrom] at fills ⊢
      split at fills
      · have value := fillFrom_keeps fills index keepsIndex
        have bound := fillFrom_keeps fills inner keepsInner
        rw [Function.update_self] at value
        rw [Function.update_of_ne own.symm] at bound
        rw [bound, ← value, Function.update_eq_self, if_neg Int32.lt_irrefl, ite_self]
        exact hypothesis restApart fills
      next nonzero =>
        split at fills
        · cases fills
        next enough =>
          have value := fillFrom_keeps fills index keepsIndex
          have bound := fillFrom_keeps fills inner keepsInner
          rw [value, bound, if_neg nonzero, if_neg enough]
          exact hypothesis restApart fills

theorem rowOrder_apart (ndims : Nat) (within : ndims ≤ 8) :
    Apart (rowOrder ndims) ∧ ∀ pair ∈ rowOrder ndims, pair.1 ≠ Fin.ofNat 8 (ndims - 1) := by
  interval_cases ndims <;> decide

theorem columnOrder_apart (ndims : Nat) (within : ndims ≤ 8) :
    Apart (columnOrder ndims) ∧ ∀ pair ∈ columnOrder ndims, pair.1 ≠ 0 := by
  interval_cases ndims <;> decide

/-- The innermost stride is never zero after the fill. -/
theorem fillInner_again {inner : Fin 8} {elemSize : Nat} (positive : Int32.ofNat elemSize ≠ 0)
    (same : filled inner = fillInner inner elemSize strides inner) : fillInner inner elemSize filled = filled := by
  have nonzero : ¬ (filled inner == 0) = true := by
    rw [beq_iff_eq, same]
    unfold fillInner
    split
    · rw [Function.update_self]
      exact positive
    next other =>
      rw [beq_iff_eq] at other
      exact other
  rw [fillInner, if_neg nonzero]

end Filled

theorem dtypeSizeBytes_mem (dtype : Int16) : dtypeSizeBytes dtype ∈ [0, 1, 2, 4, 8] := by
  unfold dtypeSizeBytes
  split <;> decide

theorem dtypeSizeBytes_ofNat {dtype : Int16} (known : dtypeSizeBytes dtype ≠ 0) :
    Int32.ofNat (dtypeSizeBytes dtype) ≠ 0 := by
  have all : ∀ size ∈ [0, 1, 2, 4, 8], size ≠ 0 → Int32.ofNat size ≠ 0 := by decide
  exact all _ (dtypeSizeBytes_mem dtype) known

/-- A filled header is already filled. -/
theorem tensorFillStrides_again {header filled : TensorHeader} {elemSize : Nat}
    (positive : Int32.ofNat elemSize ≠ 0) (within : header.ndims.toNat ≤ 8)
    (fills : tensorFillStrides header elemSize = some filled) :
    filled.ndims = header.ndims ∧ filled.dtype = header.dtype ∧ tensorFillStrides filled elemSize = some filled := by
  simp only [tensorFillStrides] at fills ⊢
  split at fills
  next row =>
    split at fills
    · cases fills
    next some' =>
      obtain ⟨strides, made, rfl⟩ := Option.map_eq_some_iff.mp fills
      have ⟨apart, inner⟩ := rowOrder_apart header.ndims.toNat within
      have same := fillInner_again positive (fillFrom_keeps made _ inner)
      refine ⟨rfl, rfl, ?_⟩
      rw [if_pos row, if_neg some', same, fillFrom_again apart made]
      rfl
  next notRow =>
    split at fills
    next column =>
      split at fills
      · cases fills
      next some' =>
        obtain ⟨strides, made, rfl⟩ := Option.map_eq_some_iff.mp fills
        have ⟨apart, inner⟩ := columnOrder_apart header.ndims.toNat within
        have same := fillInner_again positive (fillFrom_keeps made _ inner)
        refine ⟨rfl, rfl, ?_⟩
        rw [if_neg notRow, if_pos column, if_neg some', same, fillFrom_again apart made]
        rfl
    · cases fills

/-- An accepted header has a known element type and completed strides. -/
theorem tensorHeaderValidate_ok {header filled : TensorHeader} (valid : tensorHeaderValidate header = .ok filled) :
    header.ndims.toNat ≤ 8 ∧ dtypeSizeBytes header.dtype ≠ 0 ∧
      tensorFillStrides header (dtypeSizeBytes header.dtype) = some filled ∧
        tensorValidateProgress filled = true := by
  unfold tensorHeaderValidate at valid
  split at valid
  · cases valid
  next bounds =>
    dsimp only at valid
    split at valid
    · cases valid
    next known =>
      split at valid
      · cases valid
      · split at valid
        · cases valid
        next filled' fills =>
          split at valid
          · cases valid
          next progress =>
            cases valid
            rw [Bool.or_eq_true, not_or, decide_eq_true_iff] at bounds
            rw [beq_iff_eq] at known
            rw [Bool.not_eq_true', Bool.not_eq_false] at progress
            exact ⟨Nat.le_of_not_lt bounds.2, known, fills, progress⟩

/-- A second validation changes nothing. -/
theorem tensorHeaderValidate_again {header filled again : TensorHeader}
    (first : tensorHeaderValidate header = .ok filled) (second : tensorHeaderValidate filled = .ok again) :
    again = filled := by
  obtain ⟨within, known, fills, -⟩ := tensorHeaderValidate_ok first
  obtain ⟨-, -, fills', -⟩ := tensorHeaderValidate_ok second
  obtain ⟨-, dtype, same⟩ := tensorFillStrides_again (dtypeSizeBytes_ofNat known) within fills
  rw [dtype, same] at fills'
  exact (Option.some.inj fills').symm

end TensorPool.Client
