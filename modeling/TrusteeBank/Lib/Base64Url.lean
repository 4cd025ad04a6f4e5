import Mathlib.Tactic.SplitIfs
import TrusteeBank.Lib.Utf16

/-!
# Base64url

Three bytes are written as four digits of six bits, without padding at the end. The alphabet is
that of URLs.

* `decode_encode`: the bytes are read back.
-/

set_option autoImplicit false

namespace Lib.Base64Url

/-- The digit of a value below 64. -/
def digit (n : Nat) : CodeUnit :=
  Fin.ofNat 0x10000 (if n < 26 then n + 65 else if n < 52 then n + 71
    else if n < 62 then n - 4 else if n = 62 then 45 else 95)

/-- The value of a digit. -/
def value (u : CodeUnit) : Option Nat :=
  let n := u.val
  if 65 ≤ n ∧ n ≤ 90 then some (n - 65)
  else if 97 ≤ n ∧ n ≤ 122 then some (n - 71)
  else if 48 ≤ n ∧ n ≤ 57 then some (n + 4)
  else if n = 45 then some 62
  else if n = 95 then some 63
  else none

/-- A digit of the alphabet. -/
def IsDigit (u : CodeUnit) : Prop := (value u).isSome

instance (u : CodeUnit) : Decidable (IsDigit u) := inferInstanceAs (Decidable (_ = true))

/-- The values of the digits of some bytes. -/
def sextets : List UInt8 → List Nat
  | [] => []
  | [a] => [a.toNat / 4, a.toNat % 4 * 16]
  | [a, b] => [a.toNat / 4, a.toNat % 4 * 16 + b.toNat / 16, b.toNat % 16 * 4]
  | a :: b :: c :: bytes =>
    a.toNat / 4 :: (a.toNat % 4 * 16 + b.toNat / 16) :: (b.toNat % 16 * 4 + c.toNat / 64) ::
      (c.toNat % 64) :: sextets bytes

/-- The bytes of some digits, by their values. Bits that make no whole byte are dropped. -/
def octets : List Nat → List UInt8
  | a :: b :: c :: d :: rest =>
    .ofNat (a * 4 + b / 16) :: .ofNat (b % 16 * 16 + c / 4) :: .ofNat (c % 4 * 64 + d) ::
      octets rest
  | [a, b, c] => [.ofNat (a * 4 + b / 16), .ofNat (b % 16 * 16 + c / 4)]
  | [a, b] => [.ofNat (a * 4 + b / 16)]
  | _ => []

/-- The digits of some bytes. -/
def encode (bytes : List UInt8) : Utf16 := (sextets bytes).map digit

/-- The bytes of a text of digits. -/
def decode (s : Utf16) : Option (List UInt8) := (s.mapM value).map octets

/-! ### Reading back -/

theorem value_digit {n : Nat} (h : n < 64) : value (digit n) = some n := by
  have hval : (digit n).val = if n < 26 then n + 65 else if n < 52 then n + 71
      else if n < 62 then n - 4 else if n = 62 then 45 else 95 := by
    apply Nat.mod_eq_of_lt
    split_ifs <;> omega
  unfold value
  rw [hval]
  by_cases h1 : n < 26
  · simp only [h1, if_true]
    rw [if_pos (by omega), Nat.add_sub_cancel]
  · by_cases h2 : n < 52
    · simp only [h1, h2, if_true, if_false]
      rw [if_neg (by omega), if_pos (by omega), Nat.add_sub_cancel]
    · by_cases h3 : n < 62
      · simp only [h1, h2, h3, if_true, if_false]
        rw [if_neg (by omega), if_neg (by omega), if_pos (by omega)]
        congr 1
        omega
      · by_cases h4 : n = 62
        · subst h4
          rfl
        · obtain rfl : n = 63 := by omega
          rfl

theorem sextets_lt (bytes : List UInt8) : ∀ n ∈ sextets bytes, n < 64 := by
  induction bytes using sextets.induct with
  | case1 => simp [sextets]
  | case2 a =>
    have ha := a.toNat_lt
    simp only [sextets, List.forall_mem_cons]
    refine ⟨by omega, by omega, by simp⟩
  | case3 a b =>
    have ha := a.toNat_lt
    have hb := b.toNat_lt
    simp only [sextets, List.forall_mem_cons]
    refine ⟨by omega, by omega, by omega, by simp⟩
  | case4 a b c bytes ih =>
    have ha := a.toNat_lt
    have hb := b.toNat_lt
    have hc := c.toNat_lt
    simp only [sextets, List.forall_mem_cons]
    exact ⟨by omega, by omega, by omega, by omega, ih⟩

theorem ofNat_of_eq {b : UInt8} {n : Nat} (h : n = b.toNat) : UInt8.ofNat n = b := by
  rw [h, UInt8.ofNat_toNat]

theorem octets_sextets (bytes : List UInt8) : octets (sextets bytes) = bytes := by
  induction bytes using sextets.induct with
  | case1 => rfl
  | case2 a =>
    have ha := a.toNat_lt
    rw [sextets, octets, ofNat_of_eq (b := a) (by omega)]
  | case3 a b =>
    have ha := a.toNat_lt
    have hb := b.toNat_lt
    rw [sextets, octets, ofNat_of_eq (b := a) (by omega), ofNat_of_eq (b := b) (by omega)]
  | case4 a b c bytes ih =>
    have ha := a.toNat_lt
    have hb := b.toNat_lt
    have hc := c.toNat_lt
    rw [sextets, octets, ih, ofNat_of_eq (b := a) (by omega), ofNat_of_eq (b := b) (by omega),
      ofNat_of_eq (b := c) (by omega)]

theorem mapM_value_digit {ns : List Nat} (h : ∀ n ∈ ns, n < 64) :
    (ns.map digit).mapM value = some ns := by
  induction ns with
  | nil => rfl
  | cons n ns ih =>
    obtain ⟨hn, hns⟩ := List.forall_mem_cons.mp h
    simp only [List.map_cons, List.mapM_cons, value_digit hn, ih hns]
    rfl

/-- **The bytes are read back.** -/
theorem decode_encode (bytes : List UInt8) : decode (encode bytes) = some bytes := by
  unfold decode encode
  rw [mapM_value_digit (sextets_lt bytes), Option.map_some, octets_sextets]

theorem IsDigit.lt {u : CodeUnit} (hu : IsDigit u) : u.val < 0x80 ∧ u.val ≠ 0x2e := by
  unfold IsDigit value at hu
  simp only at hu
  split_ifs at hu <;> first | omega | cases hu

end Lib.Base64Url
