import Mathlib.Algebra.Ring.Nat
import Mathlib.Data.Nat.Log
import Mathlib.Tactic.SplitIfs

/-!
# Rounding to significant bits

The numbers with `p` significant bits are, between two powers of two, the multiples of a step. An
integer is rounded to the nearest of them, and to the even multiple when two are equally near.

* `nearest_of_lt`: an integer below `2 ^ p` is a number already;
* `nearest_mono`: rounding is monotone, across powers of two as well.
-/

set_option autoImplicit false

namespace Lib

/-- Rounding to a multiple of a step, ties to the even multiple. -/
def roundTo (step m : Nat) : Nat :=
  if step < 2 * (m % step) ∨ 2 * (m % step) = step ∧ m / step % 2 = 1 then
    (m / step + 1) * step
  else m / step * step

/-- The distance between the numbers of `p` significant bits around `m`. -/
def ulp (p m : Nat) : Nat := 2 ^ (m.log2 + 1 - p)

/-- The number of `p` significant bits nearest to `m`, the even one of two. -/
def nearest (p m : Nat) : Nat := roundTo (ulp p m) m

@[simp] theorem roundTo_one (m : Nat) : roundTo 1 m = m := by
  unfold roundTo
  rw [Nat.mod_one, if_neg (by omega), Nat.div_one, Nat.mul_one]

theorem le_roundTo {step m : Nat} : m / step * step ≤ roundTo step m := by
  unfold roundTo
  split
  · exact Nat.mul_le_mul_right step (Nat.le_succ _)
  · exact Nat.le_refl _

theorem roundTo_le {step m : Nat} : roundTo step m ≤ (m / step + 1) * step := by
  unfold roundTo
  split
  · exact Nat.le_refl _
  · exact Nat.mul_le_mul_right step (Nat.le_succ _)

/-- Rounding to multiples of one step is monotone. -/
theorem roundTo_mono {step m n : Nat} (hmn : m ≤ n) : roundTo step m ≤ roundTo step n := by
  rcases Nat.lt_or_eq_of_le (Nat.div_le_div_right (c := step) hmn) with hlt | heq
  · exact roundTo_le.trans ((Nat.mul_le_mul_right step hlt).trans le_roundTo)
  · have hmod : m % step ≤ n % step := by
      have hm := Nat.div_add_mod m step
      have hn := Nat.div_add_mod n step
      rw [heq] at hm
      omega
    unfold roundTo
    rw [heq]
    split_ifs with hup hup'
    · exact Nat.le_refl _
    · omega
    · exact Nat.mul_le_mul_right step (Nat.le_succ _)
    · exact Nat.le_refl _

theorem ulp_pos (p m : Nat) : 0 < ulp p m := Nat.pow_pos (by decide)

theorem ulp_eq_one {p m : Nat} (hp : 0 < p) (h : m < 2 ^ p) : ulp p m = 1 := by
  unfold ulp
  rcases Nat.eq_zero_or_pos m with rfl | hpos
  · rw [Nat.log2_zero, show 0 + 1 - p = 0 by omega, Nat.pow_zero]
  · have hlog : m.log2 < p := (Nat.log2_lt (Nat.pos_iff_ne_zero.mp hpos)).mpr h
    rw [show m.log2 + 1 - p = 0 by omega, Nat.pow_zero]

/-- A number with at most `p` bits is its own nearest. -/
theorem nearest_of_lt {p m : Nat} (hp : 0 < p) (h : m < 2 ^ p) : nearest p m = m := by
  rw [nearest, ulp_eq_one hp h, roundTo_one]

/-- What is rounded is at most the next power of two. -/
theorem nearest_le_pow {p m : Nat} (hp : 0 < p) : nearest p m ≤ 2 ^ (m.log2 + 1) := by
  by_cases hsmall : m < 2 ^ p
  · rw [nearest_of_lt hp hsmall]
    exact Nat.lt_log2_self.le
  · have hpos : m ≠ 0 := by
      rintro rfl
      exact hsmall (Nat.pow_pos (by decide))
    have hlog : p ≤ m.log2 := (Nat.le_log2 hpos).mpr (Nat.le_of_not_lt hsmall)
    have hpow : 2 ^ (m.log2 + 1) = 2 ^ p * ulp p m := by
      rw [ulp, ← Nat.pow_add]
      congr 1
      omega
    have hquot : m / ulp p m < 2 ^ p := by
      apply (Nat.div_lt_iff_lt_mul (ulp_pos p m)).mpr
      rw [← hpow]
      exact Nat.lt_log2_self
    calc nearest p m ≤ (m / ulp p m + 1) * ulp p m := roundTo_le
      _ ≤ 2 ^ p * ulp p m := Nat.mul_le_mul_right _ hquot
      _ = 2 ^ (m.log2 + 1) := hpow.symm

/-- What is rounded is at least its leading bit. -/
theorem pow_le_nearest {p m : Nat} (hp : 0 < p) (hm : p ≤ m.log2) : 2 ^ m.log2 ≤ nearest p m := by
  have hpos : m ≠ 0 := by
    rintro rfl
    rw [Nat.log2_zero] at hm
    omega
  have hpow : 2 ^ m.log2 = 2 ^ (p - 1) * ulp p m := by
    rw [ulp, ← Nat.pow_add]
    congr 1
    omega
  have hquot : 2 ^ (p - 1) ≤ m / ulp p m := by
    apply (Nat.le_div_iff_mul_le (ulp_pos p m)).mpr
    rw [← hpow]
    exact Nat.log2_self_le hpos
  calc 2 ^ m.log2 = 2 ^ (p - 1) * ulp p m := hpow
    _ ≤ m / ulp p m * ulp p m := Nat.mul_le_mul_right _ hquot
    _ ≤ nearest p m := le_roundTo

/-- **Rounding to the nearest number is monotone.** -/
theorem nearest_mono {p m n : Nat} (hp : 0 < p) (hmn : m ≤ n) : nearest p m ≤ nearest p n := by
  rcases Nat.eq_zero_or_pos m with rfl | hm
  · rw [nearest_of_lt hp (Nat.pow_pos (by decide))]
    exact Nat.zero_le _
  have hlogs : m.log2 ≤ n.log2 := by
    rw [Nat.le_log2 (by omega)]
    exact (Nat.log2_self_le (by omega)).trans hmn
  by_cases hsame : ulp p m = ulp p n
  · unfold nearest
    rw [hsame]
    exact roundTo_mono hmn
  · -- The larger number has more bits, and its leading bit alone is no less than the rounding.
    have hbits : m.log2 < n.log2 := by
      rcases Nat.lt_or_eq_of_le hlogs with h | h
      · exact h
      · exact absurd (by unfold ulp; rw [h]) hsame
    have hlarge : p ≤ n.log2 := by
      by_contra hsmall
      exact hsame (by unfold ulp; rw [show m.log2 + 1 - p = n.log2 + 1 - p by omega])
    calc nearest p m ≤ 2 ^ (m.log2 + 1) := nearest_le_pow hp
      _ ≤ 2 ^ n.log2 := Nat.pow_le_pow_right (by decide) hbits
      _ ≤ nearest p n := pow_le_nearest hp hlarge

end Lib
