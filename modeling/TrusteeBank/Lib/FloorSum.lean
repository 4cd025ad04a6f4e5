import Mathlib.Algebra.Order.BigOperators.Group.List
import Mathlib.Algebra.Order.Floor.Ring
import Mathlib.Tactic.Abel

/-!
# Floors of the parts and the floor of the sum

A list is summed twice: its floors, and the elements themselves with one floor at the end. The
two differ by the floor of the sum of the fractional parts.
-/

set_option autoImplicit false

namespace Lib

variable {α : Type*} [Ring α] [LinearOrder α] [FloorRing α]

theorem sum_eq_floors_add_fracts (xs : List α) :
    xs.sum = ((xs.map Int.floor).sum : α) + (xs.map Int.fract).sum := by
  induction xs with
  | nil => simp
  | cons x xs ih =>
    rw [List.sum_cons, List.map_cons, List.map_cons, List.sum_cons, List.sum_cons, ih,
      Int.cast_add]
    nth_rewrite 1 [← Int.floor_add_fract x]
    abel

variable [IsStrictOrderedRing α]

/-- What is lost by taking the floors first. -/
theorem floor_sum_eq (xs : List α) :
    ⌊xs.sum⌋ = (xs.map Int.floor).sum + ⌊(xs.map Int.fract).sum⌋ := by
  rw [sum_eq_floors_add_fracts xs, Int.floor_intCast_add]

theorem sum_fracts_nonneg (xs : List α) : 0 ≤ (xs.map Int.fract).sum := by
  apply List.sum_nonneg
  intro y hy
  obtain ⟨x, -, rfl⟩ := List.mem_map.mp hy
  exact Int.fract_nonneg x

/-- **The floors add up to the floor of the sum exactly when the fractional parts stay below
one.** -/
theorem sum_floors_eq_iff (xs : List α) :
    (xs.map Int.floor).sum = ⌊xs.sum⌋ ↔ (xs.map Int.fract).sum < 1 := by
  rw [floor_sum_eq]
  constructor
  · intro h
    have hzero : ⌊(xs.map Int.fract).sum⌋ = 0 := by omega
    exact (Int.floor_eq_zero_iff.mp hzero).2
  · intro h
    rw [Int.floor_eq_zero_iff.mpr ⟨sum_fracts_nonneg xs, h⟩, add_zero]

theorem sum_floors_le (xs : List α) : (xs.map Int.floor).sum ≤ ⌊xs.sum⌋ := by
  have h : 0 ≤ ⌊(xs.map Int.fract).sum⌋ := Int.floor_nonneg.mpr (sum_fracts_nonneg xs)
  rw [floor_sum_eq]
  omega

/-- Less than one is lost for each element. -/
theorem floor_sum_lt (xs : List α) (hne : xs ≠ []) :
    ⌊xs.sum⌋ < (xs.map Int.floor).sum + xs.length := by
  have hsum : (xs.map Int.fract).sum < xs.length := by
    have h := List.sum_lt_sum_of_ne_nil hne (f := Int.fract) (g := fun _ => (1 : α))
      (fun x _ => Int.fract_lt_one x)
    simpa using h
  have hfloor : ⌊(xs.map Int.fract).sum⌋ < (xs.length : Int) := by
    rw [Int.floor_lt]
    exact_mod_cast hsum
  rw [floor_sum_eq]
  omega

end Lib
