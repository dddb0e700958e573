/-
This file gives layouts whose axes are ordered from the innermost to the outermost one.
-/

import Mathlib.Algebra.Order.Ring.Abs
import Mathlib.Algebra.Order.Ring.Int
import Mathlib.Tactic.Linarith
import Mathlib.Tactic.Ring

namespace Strides

variable {ι : Type} {stride dim : ι → Int}

/-- The bytes that one turn of an axis takes; an empty axis counts as one turn. -/
def extentBytes (stride dim : ι → Int) (axis : ι) : Int := stride axis * max (dim axis) 1

/-- Each axis steps beyond the whole of the axis inside of it. -/
def Nested (stride dim : ι → Int) (axes : List ι) : Prop :=
  axes.IsChain fun inner outer => extentBytes stride dim inner ≤ stride outer

/-- The place of an element. -/
def offset (stride : ι → Int) (axes : List ι) (index : ι → Int) : Int :=
  (axes.map fun axis => index axis * stride axis).sum

/-- An index is within the dimensions. -/
def Within (dim : ι → Int) (axes : List ι) (index : ι → Int) : Prop :=
  ∀ axis ∈ axes, 0 ≤ index axis ∧ index axis < dim axis

/-- Two different elements of a nested layout are at least the innermost stride apart. -/
theorem Nested.apart {axes : List ι} (nested : Nested stride dim axes) {first second : ι → Int}
    (firstWithin : Within dim axes first) (secondWithin : Within dim axes second)
    (differ : ∃ axis ∈ axes, first axis ≠ second axis) :
    ∀ inner ∈ axes.head?, stride inner ≤ |offset stride axes first - offset stride axes second| := by
  induction axes with
  | nil =>
      intro inner absent
      cases absent
  | cons inner rest hypothesis =>
      intro head same
      obtain rfl : inner = head := Option.some_inj.mp same
      have firstRest : Within dim rest first := fun axis member => firstWithin axis (List.mem_cons_of_mem _ member)
      have secondRest : Within dim rest second := fun axis member => secondWithin axis (List.mem_cons_of_mem _ member)
      obtain ⟨firstLow, firstHigh⟩ := firstWithin inner List.mem_cons_self
      obtain ⟨secondLow, secondHigh⟩ := secondWithin inner List.mem_cons_self
      have split : offset stride (inner :: rest) first - offset stride (inner :: rest) second =
          (first inner - second inner) * stride inner + (offset stride rest first - offset stride rest second) := by
        simp only [offset, List.map_cons, List.sum_cons]
        ring
      rw [split]
      by_cases positive : 0 ≤ stride inner
      · by_cases outer : ∃ axis ∈ rest, first axis ≠ second axis
        · cases rest with
          | nil =>
              obtain ⟨axis, absent, _⟩ := outer
              cases absent
          | cons next others =>
              have far := hypothesis (List.isChain_cons_cons.mp nested).2 firstRest secondRest outer next rfl
              have beyond : stride inner * max (dim inner) 1 ≤ stride next := (List.isChain_cons_cons.mp nested).1
              have wide : dim inner ≤ max (dim inner) 1 := le_max_left _ _
              have near : |(first inner - second inner) * stride inner| ≤ (dim inner - 1) * stride inner := by
                rw [abs_mul, abs_of_nonneg positive]
                apply mul_le_mul_of_nonneg_right _ positive
                rw [abs_le]
                constructor <;> linarith
              have steps : stride inner * dim inner ≤ stride inner * max (dim inner) 1 :=
                mul_le_mul_of_nonneg_left wide positive
              have reverse := abs_sub_abs_le_abs_sub (offset stride (next :: others) first -
                offset stride (next :: others) second) (-((first inner - second inner) * stride inner))
              rw [abs_neg, sub_neg_eq_add] at reverse
              rw [add_comm]
              linarith
        · have equal : offset stride rest first = offset stride rest second := by
            rw [offset, offset]
            congr 1
            apply List.map_congr_left
            intro axis member
            have same : first axis = second axis := by
              by_contra other
              exact outer ⟨axis, member, other⟩
            rw [same]
          have here : first inner ≠ second inner := by
            obtain ⟨axis, member, other⟩ := differ
            rcases List.mem_cons.mp member with rfl | later
            · exact other
            · exact absurd ⟨axis, later, other⟩ outer
          rw [equal, sub_self, add_zero, abs_mul, abs_of_nonneg positive]
          have one : 1 ≤ |first inner - second inner| := Int.one_le_abs (sub_ne_zero.mpr here)
          have product := mul_le_mul_of_nonneg_right one positive
          linarith
      · exact le_trans (le_of_lt (not_le.mp positive)) (abs_nonneg _)

end Strides
