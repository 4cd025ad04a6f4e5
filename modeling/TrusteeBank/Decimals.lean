import Mathlib.Tactic.NormNum
import TrusteeBank.Js

/-!
# Decimal texts

The value of a text of decimal digits, and what `BigInt` makes of such a text. The text of an
integer is read back as that integer (`bigInt_toString`), so no two integers have the same text.
-/

set_option autoImplicit false

namespace TrusteeBank

/-- Every character is a decimal digit. -/
def AllDigits (cs : List Char) : Prop := ∀ c ∈ cs, c.isDigit

instance (cs : List Char) : Decidable (AllDigits cs) :=
  decidable_of_iff (cs.all Char.isDigit = true) List.all_eq_true

/-- The value of a text of decimal digits. -/
def decimalValue (cs : List Char) : Nat := Nat.ofDigitChars 10 cs 0

theorem digitValue_of_isDigit {c : Char} (hc : c.isDigit) :
    digitValue c = some (c.toNat - 48) := by
  have hrange : 48 ≤ c.toNat ∧ c.toNat ≤ 57 := Char.isDigit_iff_toNat.mp hc
  unfold digitValue
  rw [if_pos hrange]

/-- A fold that shifts in one digit after the other computes the value of the digits. -/
theorem foldl_digits {step : Option Nat → Char → Option Nat}
    (hstep : ∀ a c, c.isDigit → step (some a) c = some (10 * a + (c.toNat - 48))) {cs : List Char}
    (hcs : AllDigits cs) (acc : Nat) :
    cs.foldl step (some acc) = some (Nat.ofDigitChars 10 cs acc) := by
  induction cs generalizing acc with
  | nil => simp
  | cons c cs ih =>
    rw [List.foldl_cons, Nat.ofDigitChars_cons, hstep acc c (hcs c List.mem_cons_self)]
    exact ih (fun d hd => hcs d (List.mem_cons_of_mem _ hd)) _

theorem digitsValue_ten {cs : List Char} (hne : cs ≠ []) (hcs : AllDigits cs) :
    digitsValue 10 cs = some (decimalValue cs) := by
  unfold digitsValue
  rw [if_neg hne]
  refine foldl_digits (fun a c hc => ?_) hcs 0
  have hrange : 48 ≤ c.toNat ∧ c.toNat ≤ 57 := Char.isDigit_iff_toNat.mp hc
  have hdigit : c.toNat - 48 < 10 := by omega
  rw [digitValue_of_isDigit hc]
  simp only [hdigit, if_true, Nat.mul_comm 10 a]

theorem isJsSpace_of_isDigit {c : Char} (hc : c.isDigit) : isJsSpace c = false := by
  have hrange : 48 ≤ c.toNat ∧ c.toNat ≤ 57 := Char.isDigit_iff_toNat.mp hc
  simp [isJsSpace]
  omega

theorem stringToBigInt_of_allDigits {cs : List Char} (hne : cs ≠ []) (hcs : AllDigits cs) :
    stringToBigInt (String.ofList cs) = some (decimalValue cs : Int) := by
  have hsecond : ∀ (c d : Char) (ds : List Char), cs = c :: d :: ds → d.isDigit :=
    fun c d ds h => hcs d (by simp [h])
  have hfirst : ∀ (c : Char) (ds : List Char), cs = c :: ds → c.isDigit :=
    fun c ds h => hcs c (by simp [h])
  unfold stringToBigInt
  rw [String.toList_ofList, jsTrim_of_noSpace fun c hc => isJsSpace_of_isDigit (hcs c hc)]
  split
  all_goals first
    | exact absurd rfl hne
    | exact absurd (hsecond _ _ _ rfl) (by decide)
    | exact absurd (hfirst _ _ rfl) (by decide)
    | rw [digitsValue_ten hne hcs]; rfl

theorem decimalValue_cons (c : Char) (cs : List Char) :
    decimalValue (c :: cs) = 10 ^ cs.length * (c.toNat - 48) + decimalValue cs := by
  unfold decimalValue
  rw [Nat.ofDigitChars_cons, Nat.ofDigitChars_eq_ofDigitChars_zero]
  simp

theorem decimalValue_lt {cs : List Char} (hcs : AllDigits cs) :
    decimalValue cs < 10 ^ cs.length := by
  induction cs with
  | nil => simp [decimalValue]
  | cons c cs ih =>
    have hrange : 48 ≤ c.toNat ∧ c.toNat ≤ 57 :=
      Char.isDigit_iff_toNat.mp (hcs c List.mem_cons_self)
    have htail := ih fun d hd => hcs d (List.mem_cons_of_mem _ hd)
    have hhead : 10 ^ cs.length * (c.toNat - 48) ≤ 10 ^ cs.length * 9 :=
      Nat.mul_le_mul_left _ (by omega)
    rw [decimalValue_cons, List.length_cons, Nat.pow_succ]
    omega

/-- Of digits the first ones are kept, so the value is divided by a power of ten. -/
theorem decimalValue_take (n : Nat) (cs : List Char) (hcs : AllDigits cs) :
    decimalValue (cs.take n) = decimalValue cs / 10 ^ (cs.length - n) := by
  have hsplit : decimalValue cs =
      10 ^ (cs.length - n) * decimalValue (cs.take n) + decimalValue (cs.drop n) := by
    conv_lhs => rw [← List.take_append_drop n cs]
    unfold decimalValue
    rw [Nat.ofDigitChars_append, Nat.ofDigitChars_eq_ofDigitChars_zero, List.length_drop]
  have hlt : decimalValue (cs.drop n) < 10 ^ (cs.length - n) := by
    have hdigits : AllDigits (cs.drop n) := fun c hc => hcs c (List.mem_of_mem_drop hc)
    simpa using decimalValue_lt hdigits
  rw [hsplit, Nat.mul_add_div (by positivity), Nat.div_eq_of_lt hlt, Nat.add_zero]

theorem decimalValue_append_zeros (n : Nat) (cs : List Char) :
    decimalValue (cs ++ List.replicate n '0') = decimalValue cs * 10 ^ n := by
  unfold decimalValue
  rw [Nat.ofDigitChars_append, Nat.ofDigitChars_replicate_zero, Nat.mul_comm]

/-! ## The text of an integer -/

theorem allDigits_toDigits (k : Nat) : AllDigits (Nat.toDigits 10 k) :=
  fun _ hc => Nat.isDigit_of_mem_toDigits (by decide) (by decide) hc

theorem toString_ofNat (k : Nat) :
    toString (Int.ofNat k) = String.ofList (Nat.toDigits 10 k) := by
  rw [Int.toString_eq_repr, Int.repr_eq_if]
  simp [Nat.repr_eq_ofList_toDigits]

theorem toString_negSucc (k : Nat) :
    toString (Int.negSucc k) = String.ofList ('-' :: Nat.toDigits 10 (k + 1)) := by
  rw [Int.toString_eq_repr, Int.repr_eq_if]
  simp [Nat.repr_eq_ofList_toDigits]

/-- Of more than one digit the first is not zero. -/
theorem toDigits_head (k : Nat) : (Nat.toDigits 10 k).length = 1 ∨
    (Nat.toDigits 10 k).head? ≠ some '0' := by
  induction k using Nat.strongRecOn with
  | ind k ih =>
    rw [Nat.toDigits_eq_if (by decide)]
    split_ifs with hk
    · exact .inl rfl
    · right
      have hne : Nat.toDigits 10 (k / 10) ≠ [] := Nat.toDigits_ne_nil
      rw [List.head?_append_of_ne_nil _ hne]
      rcases ih (k / 10) (by omega) with hlength | hhead
      · have hsmall : k / 10 < 10 := by
          rw [Nat.toDigits_eq_if (by decide)] at hlength
          split_ifs at hlength with h
          · exact h
          · rw [List.length_append, List.length_singleton] at hlength
            have hpos : 0 < (Nat.toDigits 10 (k / 10 / 10)).length := Nat.length_toDigits_pos
            omega
        rw [Nat.toDigits_of_lt_base hsmall]
        have hdigit : ∀ d : Fin 10, d.val ≠ 0 → [Nat.digitChar d].head? ≠ some '0' := by decide
        exact hdigit ⟨k / 10, hsmall⟩ (by show k / 10 ≠ 0; omega)
      · exact hhead

/-- `BigInt` reads back the text of an integer. -/
theorem bigInt_toString (n : Int) : bigInt (toString n) = .ok n := by
  have hdigits := allDigits_toDigits
  have hne (k : Nat) : Nat.toDigits 10 k ≠ [] := Nat.toDigits_ne_nil
  have hvalue (k : Nat) : decimalValue (Nat.toDigits 10 k) = k := Nat.ofDigitChars_ten_toDigits
  cases n with
  | ofNat k =>
    unfold bigInt
    rw [toString_ofNat, stringToBigInt_of_allDigits (hne k) (hdigits k), hvalue]
    rfl
  | negSucc k =>
    have hspace : ∀ c ∈ '-' :: Nat.toDigits 10 (k + 1), isJsSpace c = false := by
      intro c hc
      rcases List.mem_cons.mp hc with rfl | hc
      · decide
      · exact isJsSpace_of_isDigit (hdigits _ c hc)
    unfold bigInt stringToBigInt
    rw [toString_negSucc, String.toList_ofList, jsTrim_of_noSpace hspace]
    change orThrow ((digitsValue 10 _).map fun n => -Int.ofNat n) _ = _
    rw [digitsValue_ten (hne _) (hdigits _), hvalue]
    rfl

theorem toString_injective : Function.Injective (toString : Int → String) := by
  intro m n h
  have hm := bigInt_toString m
  rw [h, bigInt_toString] at hm
  exact (Except.ok.inj hm).symm

end TrusteeBank
