/-
This file shows when the strides of an accepted tensor header describe elements that do not overlap.
-/

import TensorPool.Client.Tensor
import TensorPool.Library.Strides

namespace TensorPool.Client

open Strides (extentBytes Within offset)

theorem axes_neZero : NeZero 8 := ⟨by decide⟩

attribute [local instance] axes_neZero

/-- The dimensions from the innermost to the outermost one. -/
def innerFirst (header : TensorHeader) : List (Fin 8) :=
  if header.majorOrder == majorOrderRow then
    (List.range header.ndims.toNat).reverse.map (Fin.ofNat 8)
  else
    (List.range header.ndims.toNat).map (Fin.ofNat 8)

/-- The values of dimensions or strides in the integers. -/
def ints (values : Fin 8 → Int32) (index : Fin 8) : Int := (values index).toInt

/-- The bytes of one element. -/
def elementBytes (header : TensorHeader) : Int := dtypeSizeBytes header.dtype

/-- A stride holds the dimension inside of it, and exactly so where it was given as 0. -/
def Follows (dims given filled : Fin 8 → Int32) (inner outer : Fin 8) : Prop :=
  extentBytes (ints filled) (ints dims) inner ≤ ints filled outer ∧
    (ints given outer = 0 → ints filled outer = extentBytes (ints filled) (ints dims) inner)

/-- What a success of the validation promises of the header that it leaves. -/
structure SoundStrides (given filled : TensorHeader) : Prop where
  inner : ∀ index ∈ (innerFirst filled).head?, elementBytes filled ≤ ints filled.strides index ∧
    (ints given.strides index = 0 → ints filled.strides index = elementBytes filled)
  nested : (innerFirst filled).IsChain (Follows filled.dims given.strides filled.strides)
  disjoint : ∀ first second : Fin 8 → Int, Within (ints filled.dims) (innerFirst filled) first →
    Within (ints filled.dims) (innerFirst filled) second →
    (∃ index ∈ innerFirst filled, first index ≠ second index) →
      elementBytes filled ≤ |offset (ints filled.strides) (innerFirst filled) first -
        offset (ints filled.strides) (innerFirst filled) second|
  rows : filled.progressUnit = progressUnitRows → (filled.progressStrideBytes.toNat : Int) = ints filled.strides 0
  columns : filled.progressUnit = progressUnitColumns →
    (filled.progressStrideBytes.toNat : Int) = ints filled.strides 1
  again : tensorHeaderValidate filled = .ok filled

/-- The strides that must be inferred or compared, computed in the integers, stay within an `int32`. -/
def FitsFrom (dims given : Fin 8 → Int32) : Int → List (Fin 8) → Prop
  | _, [] => True
  | bound, index :: rest =>
      bound < 2 ^ 31 ∧
        FitsFrom dims given ((if ints given index = 0 then bound else ints given index) * max
          (ints dims index) 1) rest

/-- The innermost stride is 0 or holds an element, and no product of a stride and its dimension overflows. -/
structure FittingStrides (header : TensorHeader) : Prop where
  inner : ∀ index ∈ (innerFirst header).head?,
    ints header.strides index = 0 ∨ elementBytes header ≤ ints header.strides index
  products : FitsFrom header.dims header.strides (elementBytes header) (innerFirst header)

section Filling

variable {dims strides filled given : Fin 8 → Int32} {inner : Fin 8} {rest : List (Fin 8)}

/-- An extent is at least 1. -/
theorem extent_toInt (dims : Fin 8 → Int32) (index : Fin 8) :
    (extent dims index).toInt = max (ints dims index) 1 := by
  have zero : (0 : Int32).toInt = 0 := rfl
  rw [extent, ints]
  split
  next positive =>
    have above := Int32.lt_iff_toInt_lt.mp positive
    rw [zero] at above
    omega
  next low =>
    have below := Int32.le_iff_toInt_le.mp (Int32.not_lt.mp low)
    rw [zero] at below
    change (1 : Int) = _
    omega

/-- The product of the fill is the one in the integers up to the wrap of 32 bits. -/
theorem expected_toInt (dims strides : Fin 8 → Int32) (inner : Fin 8) :
    (strides inner * extent dims inner).toInt = (extentBytes (ints strides) (ints dims) inner).bmod (2 ^ 32) := by
  rw [Int32.toInt_mul, extent_toInt]
  rfl

/-- A small number does not wrap. -/
theorem bmod_fits {value : Int} (nonneg : 0 ≤ value) (fits : value < 2 ^ 31) : value.bmod (2 ^ 32) = value := by
  apply Int.bmod_eq_of_le <;> omega

theorem ints_eq_zero {values : Fin 8 → Int32} {index : Fin 8} : (values index == 0) = true ↔
    ints values index = 0 := by
  rw [beq_iff_eq, ints, ← Int32.toInt_inj]
  rfl

/-- A stride that is not negative spans bytes that are not negative. -/
theorem extentBytes_nonneg (nonneg : 0 ≤ ints filled inner) : 0 ≤ extentBytes (ints filled) (ints dims) inner := by
  apply Int.mul_nonneg nonneg
  omega

/-- The span depends on the stride of its axis only. -/
theorem extentBytes_congr (same : filled inner = strides inner) :
    extentBytes (ints filled) (ints dims) inner = extentBytes (ints strides) (ints dims) inner := by
  rw [extentBytes, extentBytes]
  congr 1
  exact congrArg Int32.toInt same

/-- A stride that was given as 0 becomes the wrapped product, and another one is kept and is not below it. -/
def Wraps (dims given filled : Fin 8 → Int32) (inner outer : Fin 8) : Prop :=
  if ints given outer = 0 then
    ints filled outer = (extentBytes (ints filled) (ints dims) inner).bmod (2 ^ 32)
  else
    ints filled outer = ints given outer ∧
      (extentBytes (ints filled) (ints dims) inner).bmod (2 ^ 32) ≤ ints filled outer

/-- The fill gives each stride from the one inside of it. -/
theorem fill_wraps (distinct : (inner :: rest).Nodup)
    (fills : fillFrom dims (rest.zip (inner :: rest)) strides = some filled)
    (unchanged : ∀ index ∈ rest, strides index = given index) :
    (inner :: rest).IsChain (Wraps dims given filled) := by
  induction rest generalizing inner strides with
  | nil => exact List.isChain_singleton _
  | cons outer rest hypothesis =>
      obtain ⟨fresh, distinctRest⟩ := List.nodup_cons.mp distinct
      have apart : inner ≠ outer := fun same => fresh (same ▸ List.mem_cons_self)
      have untouchedInner : ∀ pair ∈ rest.zip (outer :: rest), pair.1 ≠ inner := by
        intro pair member same
        exact fresh (List.mem_cons_of_mem _ (same ▸ (List.of_mem_zip member).1))
      have untouchedOuter : ∀ pair ∈ rest.zip (outer :: rest), pair.1 ≠ outer := by
        intro pair member same
        exact (List.nodup_cons.mp distinctRest).1 (same ▸ (List.of_mem_zip member).1)
      have original : strides outer = given outer := unchanged outer List.mem_cons_self
      rw [List.isChain_cons_cons, Wraps]
      simp only [List.zip_cons_cons, fillFrom] at fills
      split at fills
      next zero =>
        have keptInner : filled inner = strides inner := by
          rw [fillFrom_keeps fills inner untouchedInner, Function.update_of_ne apart]
        have inferred : ints given outer = 0 := by
          rw [ints, ← original]
          exact ints_eq_zero.mp zero
        constructor
        · rw [if_pos inferred, ints, fillFrom_keeps fills outer untouchedOuter, Function.update_self, expected_toInt,
            extentBytes_congr keptInner]
        · apply hypothesis distinctRest fills
          intro index member
          have other : index ≠ outer := ne_of_mem_of_not_mem member (List.nodup_cons.mp distinctRest).1
          rw [Function.update_of_ne other]
          exact unchanged index (List.mem_cons_of_mem _ member)
      next some =>
        split at fills
        · cases fills
        next enough =>
          have keptInner : filled inner = strides inner := fillFrom_keeps fills inner untouchedInner
          have keptOuter : ints filled outer = ints given outer := by
            rw [ints, ints, fillFrom_keeps fills outer untouchedOuter, original]
          have nonzero : ints given outer ≠ 0 := by
            rw [ints, ← original]
            exact fun zero => some (ints_eq_zero.mpr zero)
          have least := Int32.le_iff_toInt_le.mp (Int32.not_lt.mp enough)
          rw [expected_toInt, original] at least
          constructor
          · rw [if_neg nonzero, extentBytes_congr keptInner]
            apply And.intro keptOuter
            rw [keptOuter]
            exact least
          · apply hypothesis distinctRest fills
            intro index member
            exact unchanged index (List.mem_cons_of_mem _ member)

/-- Along a fill the strides nest exactly when no product overflows. -/
theorem wraps_follows (chain : (inner :: rest).IsChain (Wraps dims given filled)) (nonneg : 0 ≤ ints filled inner) :
    (inner :: rest).IsChain (Follows dims given filled) ↔
      FitsFrom dims given (extentBytes (ints filled) (ints dims) inner) rest := by
  induction rest generalizing inner with
  | nil => exact iff_of_true (List.isChain_singleton _) trivial
  | cons outer rest hypothesis =>
      obtain ⟨wraps, later⟩ := List.isChain_cons_cons.mp chain
      have bound : 0 ≤ extentBytes (ints filled) (ints dims) inner := extentBytes_nonneg nonneg
      rw [List.isChain_cons_cons, FitsFrom]
      -- A product that does not fit is above every stride.
      by_cases fits : extentBytes (ints filled) (ints dims) inner < 2 ^ 31
      · rw [Wraps, bmod_fits bound fits] at wraps
        have follows : Follows dims given filled inner outer := by
          split at wraps
          · exact ⟨le_of_eq wraps.symm, fun _ => wraps⟩
          next nonzero => exact ⟨wraps.2, fun zero => absurd zero nonzero⟩
        have value : ints filled outer = if ints given outer = 0 then extentBytes (ints filled) (ints dims) inner
            else ints given outer := by
          split
          next zero =>
            rw [if_pos zero] at wraps
            exact wraps
          next nonzero =>
            rw [if_neg nonzero] at wraps
            exact wraps.1
        rw [and_iff_right follows, and_iff_right fits, hypothesis later (le_trans bound follows.1),
          extentBytes, value]
      · constructor
        · intro both
          have below : ints filled outer < 2 ^ 31 := (filled outer).toInt_lt
          have above := both.1.1
          omega
        · intro both
          exact absurd both.1 fits

/-- Along a chain of strides none is negative when the first is not. -/
theorem follows_nonneg (chain : (inner :: rest).IsChain (Follows dims given filled))
    (nonneg : 0 ≤ ints filled inner) :
    ∀ index ∈ inner :: rest, 0 ≤ ints filled index := by
  induction rest generalizing inner with
  | nil =>
      intro index member
      rw [List.mem_singleton.mp member]
      exact nonneg
  | cons outer rest hypothesis =>
      obtain ⟨follows, later⟩ := List.isChain_cons_cons.mp chain
      intro index member
      rcases List.mem_cons.mp member with rfl | other
      · exact nonneg
      · exact hypothesis later (le_trans (extentBytes_nonneg nonneg) follows.1) index other

end Filling

section Accepted

variable {header filled : TensorHeader} {elemSize : Nat}

/-- The axes of the order are those below the number of dimensions. -/
theorem mem_innerFirst (within : header.ndims.toNat ≤ 8) (index : Fin 8) :
    index ∈ innerFirst header ↔ index.val < header.ndims.toNat := by
  have range : (∃ place, place < header.ndims.toNat ∧ Fin.ofNat 8 place = index) ↔
    index.val < header.ndims.toNat := by
    constructor
    · intro found
      obtain ⟨place, inside, same⟩ := found
      have value : place % 8 = index.val := congrArg Fin.val same
      rw [Nat.mod_eq_of_lt (by omega)] at value
      omega
    · intro inside
      refine ⟨index.val, inside, Fin.ext ?_⟩
      exact Nat.mod_eq_of_lt index.isLt
  rw [innerFirst]
  split <;> simpa only [List.mem_map, List.mem_reverse, List.mem_range] using range

/-- The loops of the fill visit the dimensions from the innermost to the outermost one. -/
theorem rowOrder_zip (ndims : Nat) (some : 1 ≤ ndims) (within : ndims ≤ 8) :
    ∃ rest, (List.range ndims).reverse.map (Fin.ofNat 8) = Fin.ofNat 8 (ndims - 1) :: rest ∧
      (Fin.ofNat 8 (ndims - 1) :: rest).Nodup ∧ rowOrder ndims = rest.zip (Fin.ofNat 8 (ndims - 1) :: rest) := by
  apply Exists.intro ((List.range (ndims - 1)).reverse.map (Fin.ofNat 8))
  interval_cases ndims <;> decide

/-- The column order pairs each axis with the one before it. -/
theorem columnOrder_zip (ndims : Nat) (some : 1 ≤ ndims) (within : ndims ≤ 8) :
    ∃ rest, (List.range ndims).map (Fin.ofNat 8) = 0 :: rest ∧ (0 :: rest).Nodup ∧
      columnOrder ndims = rest.zip (0 :: rest) := by
  apply Exists.intro ((List.range ndims).map (Fin.ofNat 8)).tail
  interval_cases ndims <;> decide

/-- Filled strides follow each other along the order of the layout. -/
theorem tensorFillStrides_along (within : header.ndims.toNat ≤ 8)
    (fills : tensorFillStrides header elemSize = some filled) :
    ∃ inner rest, innerFirst header = inner :: rest ∧ (inner :: rest).Nodup ∧
      filled = { header with strides := filled.strides } ∧
      fillFrom header.dims (rest.zip (inner :: rest)) (fillInner inner elemSize header.strides) =
        some filled.strides := by
  have present : ¬ (header.ndims == 0) = true → 1 ≤ header.ndims.toNat := by
    intro nonzero
    have other : header.ndims.toNat ≠ 0 := fun zero => nonzero (beq_iff_eq.mpr (UInt8.toNat_inj.mp zero))
    omega
  simp only [tensorFillStrides] at fills
  split at fills
  next row =>
    split at fills
    · cases fills
    next some =>
      obtain ⟨strides, made, rfl⟩ := Option.map_eq_some_iff.mp fills
      obtain ⟨rest, order, distinct, pairs⟩ := rowOrder_zip header.ndims.toNat (present some) within
      rw [pairs] at made
      rw [innerFirst, if_pos row]
      exact ⟨_, rest, order, distinct, rfl, made⟩
  next other =>
    split at fills
    next column =>
      split at fills
      · cases fills
      next some =>
        obtain ⟨strides, made, rfl⟩ := Option.map_eq_some_iff.mp fills
        obtain ⟨rest, order, distinct, pairs⟩ := columnOrder_zip header.ndims.toNat (present some) within
        rw [pairs] at made
        rw [innerFirst, if_neg other]
        exact ⟨0, rest, order, distinct, rfl, made⟩
    · cases fills

/-- The check passes when no extent and no stride is negative. -/
theorem checkDims_iff (indices : List (Fin 8)) :
    checkDims header indices = .ok () ↔ ∀ index ∈ indices, 0 ≤ ints header.dims index ∧
      0 ≤ ints header.strides index := by
  have sign : ∀ value : Int32, value < 0 ↔ ¬ 0 ≤ value.toInt := by
    intro value
    rw [Int32.lt_iff_toInt_lt, not_le]
    rfl
  induction indices with
  | nil => simp [checkDims]
  | cons index rest hypothesis =>
      rw [checkDims, List.forall_mem_cons]
      split
      next negative =>
        have below := (sign _).mp negative
        simp [ints, below]
      next dimension =>
        split
        next negative =>
          have below := (sign _).mp negative
          simp [ints, below]
        next stride =>
          rw [sign, not_not] at dimension stride
          simp [ints, dimension, stride] at hypothesis ⊢
          exact hypothesis

/-- A header is valid when its dimensions, its type, its extents, its strides and its progress are. -/
theorem tensorHeaderValidate_iff :
    tensorHeaderValidate header = .ok filled ↔
      (header.ndims ≠ 0 ∧ header.ndims.toNat ≤ 8) ∧ dtypeSizeBytes header.dtype ≠ 0 ∧
        checkDims header ((List.range header.ndims.toNat).map (Fin.ofNat 8)) = .ok () ∧
          tensorFillStrides header (dtypeSizeBytes header.dtype) = some filled ∧
            tensorValidateProgress filled = true := by
  have bounds : (header.ndims == 0 || header.ndims.toNat > maxDims) = true ↔
      ¬ (header.ndims ≠ 0 ∧ header.ndims.toNat ≤ 8) := by
    rw [Bool.or_eq_true, beq_iff_eq, decide_eq_true_iff, not_and_or, not_not, not_le]
    rfl
  unfold tensorHeaderValidate
  dsimp only
  split
  next outside => simp [bounds.mp outside]
  next inside =>
    rw [bounds, not_not] at inside
    rw [and_iff_right inside]
    split
    next unknown =>
      rw [beq_iff_eq] at unknown
      simp [unknown]
    next known =>
      rw [beq_iff_eq] at known
      rw [and_iff_right known]
      cases checkDims header ((List.range header.ndims.toNat).map (Fin.ofNat 8)) with
      | error text => simp
      | ok checked =>
          cases tensorFillStrides header (dtypeSizeBytes header.dtype) with
          | none => simp
          | some made =>
              cases progress : tensorValidateProgress made with
              | false =>
                  simp only [progress, Bool.not_false, if_true, reduceCtorEq, false_iff, Option.some_inj, true_and]
                  intro both
                  rw [← both.1, progress] at both
                  exact Bool.false_ne_true both.2
              | true =>
                  simp only [progress, Bool.not_true, Bool.false_eq_true, if_false, Except.ok.injEq, Option.some_inj,
                    true_and]
                  constructor
                  · intro same
                    exact ⟨same, same ▸ progress⟩
                  · exact And.left

/-- The first stride after the fill is the given one, or the size of an element. -/
theorem filled_inner {inner : Fin 8} {rest : List (Fin 8)} (distinct : (inner :: rest).Nodup)
    (fills : fillFrom header.dims (rest.zip (inner :: rest))
      (fillInner inner (dtypeSizeBytes header.dtype) header.strides) = some filled.strides) :
    ints filled.strides inner =
      if ints header.strides inner = 0 then elementBytes header else ints header.strides inner := by
  have kept : filled.strides inner = fillInner inner (dtypeSizeBytes header.dtype) header.strides inner := by
    apply fillFrom_keeps fills inner
    intro pair member same
    exact (List.nodup_cons.mp distinct).1 (same ▸ (List.of_mem_zip member).1)
  have size : (Int32.ofNat (dtypeSizeBytes header.dtype)).toInt = dtypeSizeBytes header.dtype := by
    have all : ∀ size ∈ [0, 1, 2, 4, 8], (Int32.ofNat size).toInt = size := by decide
    exact all _ (dtypeSizeBytes_mem header.dtype)
  rw [ints, kept, fillInner]
  split
  next zero =>
    rw [if_pos (ints_eq_zero.mp zero), Function.update_self, size]
    rfl
  next other =>
    rw [if_neg (fun zero => other (ints_eq_zero.mpr zero))]
    rfl

/-- The fill of a header follows its dimensions from the innermost one, which is given or takes one element. -/
theorem tensorFillStrides_wraps (within : header.ndims.toNat ≤ 8)
    (fills : tensorFillStrides header (dtypeSizeBytes header.dtype) = some filled) :
    ∃ inner rest, innerFirst header = inner :: rest ∧ filled = { header with strides := filled.strides } ∧
      (inner :: rest).IsChain (Wraps header.dims header.strides filled.strides) ∧
      ints filled.strides inner =
        if ints header.strides inner = 0 then elementBytes header else ints header.strides inner := by
  obtain ⟨inner, rest, order, distinct, shape, made⟩ := tensorFillStrides_along within fills
  have original : ∀ index ∈ rest,
      fillInner inner (dtypeSizeBytes header.dtype) header.strides index = header.strides index := by
    intro index member
    have other : index ≠ inner := ne_of_mem_of_not_mem member (List.nodup_cons.mp distinct).1
    rw [fillInner]
    split
    · exact Function.update_of_ne other _ _
    · rfl
  exact ⟨inner, rest, order, shape, fill_wraps distinct made original, filled_inner distinct made⟩

/-- A stride that equals the progress stride as a word equals it in the integers. -/
theorem progress_toNat {index : Fin 8} (nonneg : 0 ≤ ints filled.strides index)
    (same : ((filled.strides index).toUInt32 == filled.progressStrideBytes) = true) :
    (filled.progressStrideBytes.toNat : Int) = ints filled.strides index := by
  rw [← beq_iff_eq.mp same, Int32.toNat_toUInt32_of_le (Int32.le_iff_toInt_le.mpr nonneg)]
  exact Int.toNat_of_nonneg nonneg

/-- Progress in rows has the stride of a row. -/
theorem tensorValidateProgress_rows (valid : tensorValidateProgress filled = true)
    (unit : filled.progressUnit = progressUnitRows) :
    ((filled.strides 0).toUInt32 == filled.progressStrideBytes) = true := by
  rw [tensorValidateProgress, unit, if_neg (by decide)] at valid
  split at valid
  · cases valid
  · exact (Bool.and_eq_true_iff.mp valid).2

/-- Progress in columns has the stride of a column. -/
theorem tensorValidateProgress_columns (valid : tensorValidateProgress filled = true)
    (unit : filled.progressUnit = progressUnitColumns) :
    2 ≤ filled.ndims.toNat ∧ ((filled.strides 1).toUInt32 == filled.progressStrideBytes) = true := by
  rw [tensorValidateProgress, unit, if_neg (by decide)] at valid
  split at valid
  · cases valid
  · rw [if_neg (by decide), if_pos (by decide)] at valid
    obtain ⟨many, same⟩ := Bool.and_eq_true_iff.mp valid
    have low : ¬ filled.ndims < 2 := by simpa using many
    exact ⟨UInt8.le_iff_toNat_le.mp (UInt8.not_lt.mp low), same⟩

/-- The entries that the checks visit are not negative. -/
theorem checkDims_innerFirst :
    checkDims header ((List.range header.ndims.toNat).map (Fin.ofNat 8)) = .ok () ↔
      ∀ index ∈ innerFirst header, 0 ≤ ints header.dims index ∧ 0 ≤ ints header.strides index := by
  have members : ∀ index, index ∈ (List.range header.ndims.toNat).map (Fin.ofNat 8) ↔ index ∈ innerFirst header := by
    intro index
    rw [innerFirst]
    split
    · simp only [List.mem_map, List.mem_reverse]
    · rfl
  rw [checkDims_iff]
  simp only [members]

/-- A second validation succeeds when no stride became negative. -/
theorem validate_again (accepted : tensorHeaderValidate header = .ok filled) :
    tensorHeaderValidate filled = .ok filled ↔ ∀ index ∈ innerFirst header, 0 ≤ ints filled.strides index := by
  obtain ⟨bounds, known, checked, fills, progress⟩ := tensorHeaderValidate_iff.mp accepted
  obtain ⟨inner, rest, order, distinct, shape, made⟩ := tensorFillStrides_along bounds.2 fills
  obtain ⟨ndims, dtype, filledAgain⟩ := tensorFillStrides_again (dtypeSizeBytes_ofNat known) bounds.2 fills
  have sameOrder : innerFirst filled = innerFirst header := by rw [shape]; rfl
  have sameDims : filled.dims = header.dims := by rw [shape]
  have signs := checkDims_innerFirst.mp checked
  rw [tensorHeaderValidate_iff, checkDims_innerFirst, sameOrder, sameDims, dtype, ndims]
  constructor
  · intro valid index member
    exact (valid.2.2.1 index member).2
  · intro nonneg
    apply And.intro bounds
    apply And.intro known
    apply And.intro _ ⟨filledAgain, progress⟩
    intro index member
    exact ⟨(signs index member).1, nonneg index member⟩

end Accepted

/--
An accepted tensor header has strides that hold each other, elements that do not overlap, the progress stride of its
unit and an unchanged second validation if and only if its innermost stride was 0 or held an element and no product of
a stride and its dimension overflowed.
-/
theorem strides_sound_iff (header filled : TensorHeader) (accepted : tensorHeaderValidate header = .ok filled) :
    SoundStrides header filled ↔ FittingStrides header := by
  obtain ⟨bounds, known, checked, fills, progress⟩ := tensorHeaderValidate_iff.mp accepted
  obtain ⟨inner, rest, order, shape, wraps, first⟩ := tensorFillStrides_wraps bounds.2 fills
  have sameOrder : innerFirst filled = innerFirst header := by rw [shape]; rfl
  have sameDims : filled.dims = header.dims := by rw [shape]
  have sameBytes : elementBytes filled = elementBytes header := by rw [shape]; rfl
  have sameNdims : filled.ndims = header.ndims := by rw [shape]
  have members := mem_innerFirst bounds.2
  have signs := checkDims_innerFirst.mp checked
  have positive : 1 ≤ elementBytes header := by
    rw [elementBytes]
    omega
  have small : elementBytes header < 2 ^ 31 := by
    have all : ∀ size ∈ ([0, 1, 2, 4, 8] : List Nat), (size : Int) < 2 ^ 31 := by decide
    exact all _ (dtypeSizeBytes_mem header.dtype)
  have nonneg : 0 ≤ ints filled.strides inner := by
    rw [first]
    split
    · omega
    · exact (signs inner (order ▸ List.mem_cons_self)).2
  have chain := wraps_follows wraps nonneg
  constructor
  · intro sound
    have head := sound.inner inner (by rw [sameOrder, order]; rfl)
    rw [sameBytes] at head
    constructor
    · intro index same
      rw [order] at same
      obtain rfl : inner = index := Option.some_inj.mp same
      by_cases zero : ints header.strides inner = 0
      · exact Or.inl zero
      · rw [if_neg zero] at first
        exact Or.inr (first ▸ head.1)
    · have nested := sound.nested
      rw [sameOrder, sameDims, order] at nested
      rw [order, FitsFrom, ← first]
      exact ⟨small, chain.mp nested⟩
  · intro fitting
    have products := fitting.products
    rw [order, FitsFrom, ← first] at products
    have nested := chain.mpr products.2
    have least : elementBytes header ≤ ints filled.strides inner := by
      rw [first]
      split
      · exact le_refl _
      next zero => exact (fitting.inner inner (by rw [order]; rfl)).resolve_left zero
    have nonnegs : ∀ index ∈ innerFirst header, 0 ≤ ints filled.strides index := by
      rw [order]
      exact follows_nonneg nested nonneg
    constructor
    · intro index same
      rw [sameOrder, order] at same
      obtain rfl : inner = index := Option.some_inj.mp same
      rw [sameBytes]
      apply And.intro least
      intro zero
      rw [first, if_pos zero]
    · rw [sameOrder, sameDims, order]
      exact nested
    · intro one other oneWithin otherWithin differ
      rw [sameOrder, sameDims, order] at *
      have layout : Strides.Nested (ints filled.strides) (ints header.dims) (inner :: rest) :=
        nested.imp fun _ _ follows => follows.1
      rw [sameBytes]
      exact le_trans least (layout.apart oneWithin otherWithin differ inner rfl)
    · intro unit
      apply progress_toNat _ (tensorValidateProgress_rows progress unit)
      apply nonnegs 0
      apply (members 0).mpr
      exact Nat.pos_of_ne_zero fun zero => bounds.1 (UInt8.toNat_inj.mp zero)
    · intro unit
      obtain ⟨many, same⟩ := tensorValidateProgress_columns progress unit
      apply progress_toNat _ same
      apply nonnegs 1
      apply (members 1).mpr
      rw [sameNdims] at many
      exact many
    · exact (validate_again accepted).mpr nonnegs

/-- A row-major header of two rows of three `uint16` elements whose strides are to be inferred. -/
def twoRows : TensorHeader where
  dtype := 3
  majorOrder := majorOrderRow
  ndims := 2
  progressUnit := progressUnitRows
  progressStrideBytes := 6
  dims := fun index => if index = 0 then 2 else if index = 1 then 3 else 0
  strides := fun _ => 0

/-- The header with its strides inferred. -/
def twoRowsFilled : TensorHeader :=
  { twoRows with strides := Function.update (Function.update twoRows.strides 1 2) 0 6 }

theorem strides_sound_twoRows :
    tensorHeaderValidate twoRows = .ok twoRowsFilled ∧
      (SoundStrides twoRows twoRowsFilled ↔ FittingStrides twoRows) := by
  have accepted : tensorHeaderValidate twoRows = .ok twoRowsFilled := rfl
  exact ⟨accepted, strides_sound_iff twoRows twoRowsFilled accepted⟩

/-- The elements of eight bytes are given a stride of one byte, and the header is accepted. -/
def overlapping : TensorHeader :=
  { twoRows with
    dtype := 8
    ndims := 1
    progressUnit := progressUnitNone
    strides := fun index => if index = 0 then 1 else 0 }

theorem overlapping_accepted :
    tensorHeaderValidate overlapping = .ok overlapping ∧ ¬ SoundStrides overlapping overlapping := by
  have accepted : tensorHeaderValidate overlapping = .ok overlapping := rfl
  apply And.intro accepted
  intro sound
  have inner := sound.inner 0 (by decide)
  exact absurd inner.1 (by decide)

end TensorPool.Client
