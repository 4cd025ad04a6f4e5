import TrusteeBank.Paykh.ChainSupply

/-!
# Amounts for Stellar

`minorToStellarAmount` writes minor units as a decimal text: the digits are padded to one more than
the decimal places, and cut before the places. `stellarAmountToMinor` reads a text by its parts.

* `toList_padZeros`, `decimalValue_paddedDigits`: the padded digits have the value of the number;
* `minorToStellarAmount_eq`: the text, as a sign and an amount of digits;
* `stellarAmountToMinor_minus`: a minus sign in front negates what is read;
* `stellar_amount_round_trip`: every integer is read back from its text.
-/

set_option autoImplicit false

namespace TrusteeBank

/-! ## The digits -/

/-- The digits of a number, at least `width` of them. -/
def paddedDigits (width n : Nat) : List Char :=
  List.replicate (width - (Nat.toDigits 10 n).length) '0' ++ Nat.toDigits 10 n

theorem toList_padZeros (width n : Nat) : (padZeros width n).toList = paddedDigits width n := by
  unfold padZeros paddedDigits
  simp only [String.toList_append, String.toList_ofList]
  rw [show toString n = String.ofList (Nat.toDigits 10 n) from Nat.repr_eq_ofList_toDigits,
    String.toList_ofList, String.length_ofList]

theorem allDigits_paddedDigits (width n : Nat) : AllDigits (paddedDigits width n) := by
  intro c hc
  rcases List.mem_append.mp hc with hzero | hdigit
  · rw [List.eq_of_mem_replicate hzero]
    decide
  · exact allDigits_toDigits n c hdigit

theorem width_le_length (width n : Nat) : width ≤ (paddedDigits width n).length := by
  unfold paddedDigits
  rw [List.length_append, List.length_replicate]
  omega

/-- Leading zeros do not change the value. -/
theorem decimalValue_paddedDigits (width n : Nat) : decimalValue (paddedDigits width n) = n := by
  unfold decimalValue paddedDigits
  rw [Nat.ofDigitChars_append, Nat.ofDigitChars_replicate_zero, Nat.mul_zero]
  exact Nat.ofDigitChars_ten_toDigits

theorem decimalValue_append (cs ds : List Char) :
    decimalValue (cs ++ ds) = decimalValue cs * 10 ^ ds.length + decimalValue ds := by
  unfold decimalValue
  rw [Nat.ofDigitChars_append, Nat.ofDigitChars_eq_ofDigitChars_zero, Nat.mul_comm]

/-- More digits than asked for do not start with a zero. -/
theorem head?_paddedDigits {width n : Nat} (hwidth : 1 ≤ width) :
    (paddedDigits width n).length = width ∨ (paddedDigits width n).head? ≠ some '0' := by
  by_cases hlong : (Nat.toDigits 10 n).length ≤ width
  · left
    unfold paddedDigits
    rw [List.length_append, List.length_replicate]
    omega
  · right
    have hnone : width - (Nat.toDigits 10 n).length = 0 := by omega
    unfold paddedDigits
    rw [hnone, List.replicate_zero, List.nil_append]
    rcases toDigits_head n with hlength | hhead
    · omega
    · exact hhead

/-! ## The amount -/

/-- The amount of a number of minor units. -/
def amountOf (minor decimals : Nat) (hdecimals : decimals ≤ 7) : StellarAmount where
  whole := (paddedDigits (decimals + 1) minor).take
    ((paddedDigits (decimals + 1) minor).length - decimals)
  fraction := (paddedDigits (decimals + 1) minor).drop
    ((paddedDigits (decimals + 1) minor).length - decimals)
  whole_ne_nil := by
    intro hnil
    have hlength := congrArg List.length hnil
    have hwidth := width_le_length (decimals + 1) minor
    rw [List.length_take, List.length_nil] at hlength
    omega
  whole_digits := fun c hc => allDigits_paddedDigits _ _ c (List.mem_of_mem_take hc)
  fraction_digits := fun c hc => allDigits_paddedDigits _ _ c (List.mem_of_mem_drop hc)
  fraction_le := by
    rw [List.length_drop]
    omega

section

variable {minor decimals : Nat} {hdecimals : decimals ≤ 7}

theorem length_fraction : (amountOf minor decimals hdecimals).fraction.length = decimals := by
  have hwidth := width_le_length (decimals + 1) minor
  show (List.drop _ _).length = decimals
  rw [List.length_drop]
  omega

/-- The integer part is one digit, or does not start with a zero. -/
theorem whole_noLeadingZeros : (amountOf minor decimals hdecimals).whole.length = 1 ∨
    (amountOf minor decimals hdecimals).whole.head? ≠ some '0' := by
  have hwidth := width_le_length (decimals + 1) minor
  rcases head?_paddedDigits (n := minor) (Nat.le_add_left 1 decimals) with hlength | hhead
  · left
    show (List.take _ _).length = 1
    rw [List.length_take]
    omega
  · right
    show (List.take _ _).head? ≠ some '0'
    rw [List.head?_take]
    split_ifs
    · simp
    · exact hhead

/-- **The minor units of the amount are the number.** -/
theorem floor_minorUnits_amountOf :
    ⌊(amountOf minor decimals hdecimals).minorUnits decimals⌋ = (minor : Int) := by
  have hdigits : (amountOf minor decimals hdecimals).whole ++
      (amountOf minor decimals hdecimals).fraction = paddedDigits (decimals + 1) minor :=
    List.take_append_drop _ _
  have hvalue := decimalValue_append (amountOf minor decimals hdecimals).whole
    (amountOf minor decimals hdecimals).fraction
  rw [hdigits, decimalValue_paddedDigits, length_fraction] at hvalue
  rw [StellarAmount.floor_minorUnits, length_fraction,
    Nat.mul_div_cancel _ (Nat.pow_pos (by decide)), ← hvalue]

end

/-! ## The text -/

/-- A decimal text: an optional minus sign, an integer part without superfluous leading zeros, and
so many decimal places. -/
def IsDecimalText (decimals : Nat) (text : String) : Prop :=
  ∃ (sign : String) (a : StellarAmount), (sign = "" ∨ sign = "-") ∧ text = sign ++ a.text ∧
    a.fraction.length = decimals ∧ (a.whole.length = 1 ∨ a.whole.head? ≠ some '0')

/-- **The text of minor units** is the amount of their digits after the sign. -/
theorem minorToStellarAmount_eq (minor : Int) {decimals : Nat} (hdecimals : decimals ≤ 7) :
    minorToStellarAmount minor decimals =
      .ok ((if minor < 0 then "-" else "") ++
        (amountOf minor.natAbs decimals hdecimals).text) := by
  have hrange : ¬((decimals : Int) < 0 ∨ (decimals : Int) > 7) := by omega
  have habs : (if minor < 0 then -minor else minor).toNat = minor.natAbs := by
    split_ifs <;> omega
  have hpoint : (amountOf minor.natAbs decimals hdecimals).fraction = [] ↔
      ¬(decimals : Int) > 0 := by
    rw [← List.length_eq_zero_iff, length_fraction]
    omega
  unfold minorToStellarAmount StellarAmount.text StellarAmount.chars
  simp only [hrange, if_false, habs, Int.toNat_natCast, toList_padZeros]
  by_cases hzero : (decimals : Int) > 0
  · rw [if_pos hzero, if_neg (mt hpoint.mp (not_not.mpr hzero))]
    rfl
  · have hnone := hpoint.mpr hzero
    rw [if_neg hzero, if_pos hnone, List.append_nil]
    rfl

/-- **A minus sign in front** negates what is read. -/
theorem stellarAmountToMinor_minus (a : StellarAmount) (decimals : Nat) :
    stellarAmountToMinor ("-" ++ a.text) decimals = .ok (-⌊a.minorUnits decimals⌋) := by
  have hchars : ("-" ++ a.text).toList = '-' :: a.chars := by
    rw [String.toList_append, StellarAmount.text, String.toList_ofList, String.toList_ofList]
    rfl
  have hspace : ∀ c ∈ '-' :: a.chars, isJsSpace c = false := by
    intro c hc
    rcases List.mem_cons.mp hc with rfl | hc
    · decide
    · rcases StellarAmount.isDigit_or_eq_dot hc with hdigit | rfl
      · exact isJsSpace_of_isDigit hdigit
      · decide
  have hneg : (jsTrim ('-' :: a.chars)).head? = some '-' := by
    rw [jsTrim_of_noSpace hspace]
    rfl
  have hnat : ¬(decimals : Int) < 0 := by omega
  unfold stellarAmountToMinor
  simp only [hchars, List.erase_cons_head, a.splitOn_chars.1, a.splitOn_chars.2,
    Int.toNat_natCast, bigIntOrZero_of_allDigits a.whole_digits, a.bigIntOrZero_places, hneg, hnat,
    if_false]
  rw [a.floor_minorUnits]
  push_cast
  rfl

/-- **Amounts round-trip**: the text of minor units is a decimal text with the places asked for, and
is read back as the minor units. -/
theorem stellar_amount_round_trip (minor decimals : Int) (hdecimals : 0 ≤ decimals ∧ decimals ≤ 7) :
    ∃ text, minorToStellarAmount minor decimals = .ok text ∧
      IsDecimalText decimals.toNat text ∧ stellarAmountToMinor text decimals = .ok minor := by
  obtain ⟨places, rfl⟩ := Int.eq_ofNat_of_zero_le hdecimals.1
  have hplaces : places ≤ 7 := by omega
  refine ⟨_, minorToStellarAmount_eq minor hplaces, ?_, ?_⟩
  · refine ⟨_, amountOf minor.natAbs places hplaces, ?_, rfl, length_fraction, whole_noLeadingZeros⟩
    by_cases hneg : minor < 0
    · right
      exact if_pos hneg
    · left
      exact if_neg hneg
  · by_cases hneg : minor < 0
    · rw [if_pos hneg, stellarAmountToMinor_minus, floor_minorUnits_amountOf,
        Int.ofNat_natAbs_of_nonpos (by omega), neg_neg]
    · rw [if_neg hneg, String.empty_append, stellarAmountToMinor_text, floor_minorUnits_amountOf,
        Int.natAbs_of_nonneg (by omega)]

/-- Five minor units owed, with two places: `-0.05`. -/
theorem stellar_amount_round_trip_cents :
    ∃ text, minorToStellarAmount (-5) 2 = .ok text ∧ IsDecimalText (2 : Int).toNat text ∧
      stellarAmountToMinor text 2 = .ok (-5) :=
  stellar_amount_round_trip (-5) 2 (by decide)

example : minorToStellarAmount (-5) 2 = .ok "-0.05" := by decide

end TrusteeBank
