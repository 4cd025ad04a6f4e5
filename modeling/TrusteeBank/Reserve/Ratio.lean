import TrusteeBank.Services.Reserve

/-!
# The three coverage tests

Three code paths decide whether a reserve covers an obligation at a required ratio:
`isFullyReserved` and the surplus of the position compare the reserve with the obligation times
the ratio, rounded down to whole minor units; `reserveRatioBps` rounds the quotient of the two down
to whole basis points and then to the nearest number. They agree with the exact comparison except
for a reserve that is just the rounded-down requirement, and for ratios above `2 ^ 53`, which are
no longer all numbers.

* `assemble_surplus`: the surplus of a position is the eligible reserve less `requiredReserveOf`;
* `coverage_tests_agree_iff`: when the tests agree.
-/

set_option autoImplicit false

namespace TrusteeBank

section

variable [Runtime]

/-! ## The surplus of a position -/

/-- The reserve that `position` requires for an obligation. -/
def requiredReserveOf (obligation : Money) (requiredRatioBps : Int) (currency : String) : Money :=
  money ((obligation.minor * requiredRatioBps).tdiv 10000) currency

/-- **The surplus of a position.** -/
theorem assemble_surplus {program : Program} {cash unmatched pending redemption : Int}
    {latest : Option LiabilitySnapshot} {now : Int} {adjustments : String → Int}
    {pos : ReservePosition}
    (h : ReserveService.assemble program (money cash program.referenceCurrency)
      (money unmatched program.referenceCurrency) (money pending program.referenceCurrency)
      (money redemption program.referenceCurrency) latest now adjustments = .ok pos) :
    reserveSurplus pos.eligibleReserve
      (requiredReserveOf pos.reserveObligation program.requiredRatioBps
        program.referenceCurrency) = .ok pos.surplus := by
  obtain ⟨obligation, buffer, -, -, -, -, -, heligible, -, hobligation, hsurplus⟩ := assemble_ok h
  have hcurrency : pos.eligibleReserve.currency = Runtime.toUpperCase program.referenceCurrency := by
    rw [heligible, money_currency]
  rw [requiredReserveOf, hobligation, money_minor, reserveSurplus, Money.subtract_eq_ok (by
    rw [hcurrency, money_currency]), hcurrency, money_minor, hsurplus]
  rfl

/-! ## The tests -/

section

variable (c : String) (e o b : Int)

/-- `isFullyReserved` holds of `e`, `o` and `b`. -/
def SaysFullyReserved : Prop := isFullyReserved (money e c) (money o c) b = .ok true

/-- The ratio of `e` to `o` is at least `b`. -/
def RatioReached : Prop := ∃ r, reserveRatioBps (money e c) (money o c) = .ok (some r) ∧ b ≤ r

/-- The surplus of `e` over what is required for `o` at the ratio `b` is not negative. -/
def SurplusReached : Prop :=
  ∃ s, reserveSurplus (money e c) (requiredReserveOf (money o c) b c) = .ok s ∧ 0 ≤ s.minor

/-- Each of the tests holds exactly when `e * 10000 ≥ o * b`. -/
def CoverageTestsAgree : Prop :=
  (SaysFullyReserved c e o b ↔ o * b ≤ e * 10000) ∧ (RatioReached c e o b ↔ o * b ≤ e * 10000) ∧
    (SurplusReached c e o b ↔ o * b ≤ e * 10000)

omit [Runtime] in
/-- The reserve is the requirement rounded down, which is not the requirement. -/
def JustRoundedDown (e o b : Int) : Prop := e = o * b / 10000 ∧ ¬(10000 : Int) ∣ o * b

omit [Runtime] in
/-- The reserve is too small, but the number nearest to its ratio is the required one. -/
def RoundedUpTo (e o b : Int) : Prop :=
  e * 10000 < o * b ∧ b ≤ numberOfBigInt (e * 10000 / o)

instance (e o b : Int) : Decidable (JustRoundedDown e o b) := inferInstanceAs (Decidable (_ ∧ _))

instance (e o b : Int) : Decidable (RoundedUpTo e o b) := inferInstanceAs (Decidable (_ ∧ _))

end

section

variable {c : String} {e o b : Int}

theorem fullyReserved_iff (ho : 0 < o) (hb : 0 ≤ b) :
    SaysFullyReserved c e o b ↔ o * b / 10000 ≤ e := by
  have hrequired : (o * b).tdiv 10000 = o * b / 10000 :=
    Int.tdiv_eq_ediv_of_nonneg (Int.mul_nonneg ho.le hb)
  unfold SaysFullyReserved isFullyReserved
  have hgte : (money e c).gte ⟨((money o c).minor * b).tdiv 10000, (money o c).currency⟩ =
      .ok (decide (((money o c).minor * b).tdiv 10000 ≤ e)) := Money.gte_eq_ok rfl
  rw [if_neg (by simpa using ho.ne'), hgte]
  simp [hrequired]

theorem surplusReached_iff (ho : 0 < o) (hb : 0 ≤ b) :
    SurplusReached c e o b ↔ o * b / 10000 ≤ e := by
  have hrequired : (o * b).tdiv 10000 = o * b / 10000 :=
    Int.tdiv_eq_ediv_of_nonneg (Int.mul_nonneg ho.le hb)
  have hsurplus : reserveSurplus (money e c) (requiredReserveOf (money o c) b c) =
      .ok ⟨e - ((money o c).minor * b).tdiv 10000, Runtime.toUpperCase c⟩ :=
    Money.subtract_eq_ok rfl
  unfold SurplusReached
  rw [hsurplus]
  simp [hrequired]

theorem ratioReached_iff (he : 0 ≤ e) (ho : 0 < o) :
    RatioReached c e o b ↔ b ≤ numberOfBigInt (e * 10000 / o) := by
  have hratio : (e * 10000).tdiv o = e * 10000 / o :=
    Int.tdiv_eq_ediv_of_nonneg (Int.mul_nonneg he (by decide))
  unfold RatioReached reserveRatioBps
  rw [if_neg (by simp), if_neg (by simpa using ho.ne')]
  simp [hratio]

omit [Runtime] in
/-- Rounding the requirement down makes a difference for one reserve only. -/
theorem rounded_requirement_iff :
    (o * b / 10000 ≤ e ↔ o * b ≤ e * 10000) ↔ ¬JustRoundedDown e o b := by
  unfold JustRoundedDown
  omega

omit [Runtime] in
/-- A ratio that is a number is reached unless rounding reaches it. -/
theorem rounded_ratio_iff (ho : 0 < o) (hb : 0 ≤ b) (hnumber : numberOfBigInt b = b) :
    (b ≤ numberOfBigInt (e * 10000 / o) ↔ o * b ≤ e * 10000) ↔ ¬RoundedUpTo e o b := by
  have hquotient : b ≤ e * 10000 / o ↔ o * b ≤ e * 10000 := by
    rw [Int.le_ediv_iff_mul_le ho, Int.mul_comm]
  have hmono : o * b ≤ e * 10000 → b ≤ numberOfBigInt (e * 10000 / o) := fun h => by
    have hle := numberOfBigInt_mono hb (hquotient.mpr h)
    rwa [hnumber] at hle
  unfold RoundedUpTo
  constructor
  · rintro h ⟨hlt, hle⟩
    exact absurd (h.mp hle) (by omega)
  · intro h
    exact ⟨fun hle => by
      by_contra hlt
      exact h ⟨by omega, hle⟩, hmono⟩

/-- **When the coverage tests agree.** -/
theorem coverage_tests_agree_iff (c : String) {e o b : Int} (he : 0 ≤ e) (ho : 0 < o) (hb : 0 ≤ b)
    (hnumber : numberOfBigInt b = b) :
    CoverageTestsAgree c e o b ↔ ¬JustRoundedDown e o b ∧ ¬RoundedUpTo e o b := by
  unfold CoverageTestsAgree
  rw [fullyReserved_iff ho hb, ratioReached_iff he ho, surplusReached_iff ho hb,
    rounded_ratio_iff ho hb hnumber, rounded_requirement_iff]
  tauto

end

end

namespace Sample

attribute [local instance] Runtime.ascii

/-- An obligation of 3 at 150% is covered by 5. -/
theorem coverage_tests_agree_covered : CoverageTestsAgree "USD" 5 3 15000 :=
  (coverage_tests_agree_iff "USD" (by decide) (by decide) (by decide) (by decide)).mpr (by decide)

/-- **A reserve of 4 is fully reserved for an obligation of 3 at 150%**, at a ratio of 133.33%. -/
theorem coverage_tests_disagree : ¬∀ [Runtime] (c : String) (e o b : Int), 0 ≤ e → 0 < o → 0 ≤ b →
    CoverageTestsAgree c e o b := by
  intro h
  have hfull : SaysFullyReserved "USD" 4 3 15000 :=
    (fullyReserved_iff (by decide) (by decide)).mpr (by decide)
  have hexact := (h "USD" 4 3 15000 (by decide) (by decide) (by decide)).1.mp hfull
  exact absurd hexact (by decide)

end Sample

end TrusteeBank
