import Mathlib.Data.List.Flatten

/-!
# Bits regrouped

A word that is shifted left and filled from the right keeps its last bits at its low end, whatever
has fallen off at the high end. So an accumulator that is never masked still holds the bits that
have not been written out, and a stream of bits that is cut into symbols of one width can be cut
into symbols of another.

* `low_shift_or`: what a shift puts behind the bits that are held;
* `low_add`: the bits that are cut off the front, and the bits that stay;
* `eq_of_flatMap`: symbols of one width are determined by their bits, up to an incomplete symbol.
-/

set_option autoImplicit false

namespace Lib.Bits

variable {w : Nat}

/-- The low `n` bits of a word, the highest of them first. -/
def low (v : BitVec w) : Nat → List Bool
  | 0 => []
  | n + 1 => v.getLsbD n :: low v n

@[simp] theorem low_zero (v : BitVec w) : low v 0 = [] := rfl

@[simp] theorem length_low (v : BitVec w) (n : Nat) : (low v n).length = n := by
  induction n with
  | zero => rfl
  | succ n ih => rw [low, List.length_cons, ih]

theorem low_congr {w' : Nat} {v : BitVec w} {u : BitVec w'} {n : Nat}
    (h : ∀ i < n, v.getLsbD i = u.getLsbD i) : low v n = low u n := by
  induction n with
  | zero => rfl
  | succ n ih =>
    rw [low, low, h n (Nat.lt_succ_self n), ih fun i hi => h i (Nat.lt_succ_of_lt hi)]

/-- Words with the same low bits. -/
theorem getLsbD_of_low {w' : Nat} {v : BitVec w} {u : BitVec w'} {n : Nat} (h : low v n = low u n) :
    ∀ i < n, v.getLsbD i = u.getLsbD i := by
  induction n with
  | zero =>
    intro i hi
    omega
  | succ n ih =>
    intro i hi
    obtain ⟨hhead, htail⟩ := List.cons.inj h
    by_cases hin : i = n
    · rw [hin, hhead]
    · exact ih htail i (by omega)

/-- **The bits that are cut off the front** are those of the word shifted right. -/
theorem low_add (v : BitVec w) (m n : Nat) : low v (m + n) = low (v >>> n) m ++ low v n := by
  induction m with
  | zero => rw [Nat.zero_add, low_zero, List.nil_append]
  | succ m ih =>
    rw [Nat.succ_add, low, low, ih, List.cons_append, BitVec.getLsbD_ushiftRight, Nat.add_comm n m]

/-- **What a shift puts behind the bits that are held.** -/
theorem low_shift_or {v u : BitVec w} {m n : Nat} (hfits : m + n ≤ w)
    (hu : ∀ i, n ≤ i → u.getLsbD i = false) :
    low (v <<< n ||| u) (m + n) = low v m ++ low u n := by
  have hfront : low ((v <<< n ||| u) >>> n) m = low v m := by
    apply low_congr
    intro i hi
    rw [BitVec.getLsbD_ushiftRight, BitVec.getLsbD_or, hu (n + i) (by omega), Bool.or_false,
      BitVec.getLsbD_shiftLeft]
    have hlt : n + i < w := by omega
    simp [hlt]
  have hback : low (v <<< n ||| u) n = low u n := by
    apply low_congr
    intro i hi
    rw [BitVec.getLsbD_or, BitVec.getLsbD_shiftLeft]
    simp [hi]
  rw [low_add, hfront, hback]

/-- **Symbols are determined by their bits**, up to an incomplete symbol at the end. -/
theorem eq_of_flatMap {α : Type} {bits : α → List Bool} {k : Nat}
    (hlength : ∀ a, (bits a).length = k) (hinjective : Function.Injective bits) {xs ys : List α}
    {rest rest' : List Bool} (hrest : rest.length < k) (hrest' : rest'.length < k)
    (h : xs.flatMap bits ++ rest = ys.flatMap bits ++ rest') : xs = ys := by
  induction xs generalizing ys with
  | nil =>
    cases ys with
    | nil => rfl
    | cons y ys =>
      have hlen := congrArg List.length h
      simp only [List.flatMap_nil, List.flatMap_cons, List.length_append, List.length_nil,
        hlength] at hlen
      omega
  | cons x xs ih =>
    cases ys with
    | nil =>
      have hlen := congrArg List.length h
      simp only [List.flatMap_nil, List.flatMap_cons, List.length_append, List.length_nil,
        hlength] at hlen
      omega
    | cons y ys =>
      rw [List.flatMap_cons, List.flatMap_cons, List.append_assoc, List.append_assoc] at h
      obtain ⟨hhead, htail⟩ := List.append_inj h ((hlength x).trans (hlength y).symm)
      rw [hinjective hhead, ih htail]

end Lib.Bits
