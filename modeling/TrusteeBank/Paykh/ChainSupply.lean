import Mathlib.Algebra.BigOperators.Ring.List
import Mathlib.Algebra.Order.Field.Rat
import Mathlib.Data.Rat.Floor
import TrusteeBank.Decimals
import TrusteeBank.Lib.FloorSum
import TrusteeBank.Services.StellarAdapter

/-!
# The supply read on chain

Horizon lists the supply of an asset in six amounts, and `getSupply` turns each of them into minor
units before it adds them up. An amount smaller than a minor unit is lost in each.

* `stellarAmountToMinor_text`: one amount is converted to the floor of its minor units;
* `getSupply_eq`, `circulatingMinor_bounds`: the supply read is the sum of six floors, at most five
  minor units below the floor of the exact supply;
* `getSupply_exact_iff`: it is that floor exactly when the fractions of a minor unit in the six
  amounts stay below one together;
* `reconciliationStatusOf_exact`: otherwise a ledger with the exact supply is reported in drift.
-/

set_option autoImplicit false

namespace TrusteeBank

/-- A non-negative amount as Horizon writes it: digits, and at most seven decimal places. -/
structure StellarAmount where
  whole : List Char
  fraction : List Char
  whole_ne_nil : whole ≠ []
  whole_digits : AllDigits whole
  fraction_digits : AllDigits fraction
  fraction_le : fraction.length ≤ 7

namespace StellarAmount

def chars (a : StellarAmount) : List Char :=
  if a.fraction = [] then a.whole else a.whole ++ '.' :: a.fraction

def text (a : StellarAmount) : String := String.ofList a.chars

/-- The amount, exactly. -/
def value (a : StellarAmount) : ℚ :=
  decimalValue a.whole + decimalValue a.fraction / 10 ^ a.fraction.length

theorem isDigit_or_eq_dot {a : StellarAmount} {c : Char} (hc : c ∈ a.chars) :
    c.isDigit ∨ c = '.' := by
  unfold chars at hc
  split at hc
  · exact .inl (a.whole_digits c hc)
  · rcases List.mem_append.mp hc with hwhole | htail
    · exact .inl (a.whole_digits c hwhole)
    · rcases List.mem_cons.mp htail with rfl | hfraction
      · exact .inr rfl
      · exact .inl (a.fraction_digits c hfraction)

theorem minus_notMem (a : StellarAmount) : '-' ∉ a.chars := by
  intro hmem
  rcases isDigit_or_eq_dot hmem with h | h
  · exact absurd h (by decide)
  · exact absurd h (by decide)

theorem dot_notMem {cs : List Char} (hcs : AllDigits cs) : '.' ∉ cs :=
  fun hmem => absurd (hcs '.' hmem) (by decide)

/-- The pieces between the points. -/
theorem splitOn_chars (a : StellarAmount) :
    (a.chars.splitOn '.').headD [] = a.whole ∧ (a.chars.splitOn '.').getD 1 [] = a.fraction := by
  unfold chars
  split
  · rename_i hfraction
    rw [List.splitOn_eq_singleton (dot_notMem a.whole_digits), hfraction]
    exact ⟨rfl, rfl⟩
  · rw [List.splitOn_append_cons_self, List.splitOn_eq_singleton (dot_notMem a.whole_digits),
      List.splitOn_eq_singleton (dot_notMem a.fraction_digits)]
    exact ⟨rfl, rfl⟩

/-- The amount an entry Horizon leaves out stands for. -/
def zero : StellarAmount := ⟨['0'], [], by decide, by decide, by decide, by decide⟩

/-- The minor units of an amount, a fraction of one included. -/
def minorUnits (a : StellarAmount) (decimals : Nat) : ℚ := a.value * 10 ^ decimals

theorem floor_minorUnits (a : StellarAmount) (decimals : Nat) :
    ⌊a.minorUnits decimals⌋ =
      ((decimalValue a.whole * 10 ^ decimals +
        decimalValue a.fraction * 10 ^ decimals / 10 ^ a.fraction.length : Nat) : Int) := by
  have hunits : a.minorUnits decimals = ((decimalValue a.whole * 10 ^ decimals : Nat) : ℚ) +
      ((decimalValue a.fraction * 10 ^ decimals : Nat) : ℚ) /
        ((10 ^ a.fraction.length : Nat) : ℚ) := by
    unfold minorUnits value
    push_cast
    ring
  rw [hunits, Int.floor_natCast_add, Rat.floor_natCast_div_natCast]
  push_cast
  rfl

end StellarAmount

theorem mem_of_mem_jsTrim {c : Char} {cs : List Char} (h : c ∈ jsTrim cs) : c ∈ cs := by
  unfold jsTrim at h
  have hback := (List.dropWhile_sublist _).subset (List.mem_reverse.mp h)
  exact (List.dropWhile_sublist _).subset (List.mem_reverse.mp hback)

theorem bigIntOrZero_of_allDigits {cs : List Char} (hcs : AllDigits cs) :
    bigIntOrZero cs = .ok (decimalValue cs : Int) := by
  unfold bigIntOrZero bigInt
  split
  · rename_i hnil
    rw [hnil]
    rfl
  · rename_i hne
    rw [stringToBigInt_of_allDigits hne hcs]
    rfl

/-- The decimal places that are read, as an integer. -/
theorem StellarAmount.bigIntOrZero_places (a : StellarAmount) (decimals : Nat) :
    bigIntOrZero ((a.fraction ++ List.replicate decimals '0').take decimals) =
      .ok ((decimalValue a.fraction * 10 ^ decimals / 10 ^ a.fraction.length : Nat) : Int) := by
  have hpadded : AllDigits (a.fraction ++ List.replicate decimals '0') := by
    intro c hc
    rcases List.mem_append.mp hc with hfraction | hzero
    · exact a.fraction_digits c hfraction
    · rw [List.eq_of_mem_replicate hzero]
      decide
  have hkept : AllDigits ((a.fraction ++ List.replicate decimals '0').take decimals) :=
    fun c hc => hpadded c (List.mem_of_mem_take hc)
  have hlength : (a.fraction ++ List.replicate decimals '0').length - decimals =
      a.fraction.length := by simp
  rw [bigIntOrZero_of_allDigits hkept, decimalValue_take _ _ hpadded, hlength,
    decimalValue_append_zeros]

/-- **One amount is converted to the floor of its minor units.** -/
theorem stellarAmountToMinor_text (a : StellarAmount) (decimals : Nat) :
    stellarAmountToMinor a.text decimals = .ok ⌊a.minorUnits decimals⌋ := by
  have hneg : (jsTrim a.chars).head? ≠ some '-' := by
    intro h
    exact a.minus_notMem (mem_of_mem_jsTrim (List.mem_of_head? h))
  have hnat : ¬(decimals : Int) < 0 := by omega
  unfold stellarAmountToMinor StellarAmount.text
  simp only [String.toList_ofList, List.erase_of_not_mem a.minus_notMem, a.splitOn_chars.1,
    a.splitOn_chars.2, Int.toNat_natCast, bigIntOrZero_of_allDigits a.whole_digits,
    a.bigIntOrZero_places, hneg, hnat, if_false]
  rw [a.floor_minorUnits]
  push_cast
  rfl

/-- The amounts Horizon lists of an asset. -/
structure Holdings where
  authorized : Option StellarAmount
  authorizedToMaintainLiabilities : Option StellarAmount
  unauthorized : Option StellarAmount
  claimableBalancesAmount : Option StellarAmount
  liquidityPoolsAmount : Option StellarAmount
  contractsAmount : Option StellarAmount

namespace Holdings

/-- The record Horizon answers with. -/
def record (held : Holdings) (pagingToken : String) : StellarAssetRecord where
  authorized := held.authorized.map StellarAmount.text
  authorizedToMaintainLiabilities := held.authorizedToMaintainLiabilities.map StellarAmount.text
  unauthorized := held.unauthorized.map StellarAmount.text
  claimableBalancesAmount := held.claimableBalancesAmount.map StellarAmount.text
  liquidityPoolsAmount := held.liquidityPoolsAmount.map StellarAmount.text
  contractsAmount := held.contractsAmount.map StellarAmount.text
  pagingToken

/-- The amounts listed. -/
def amounts (held : Holdings) : List (Option StellarAmount) :=
  [held.authorized, held.authorizedToMaintainLiabilities, held.unauthorized,
    held.claimableBalancesAmount, held.liquidityPoolsAmount, held.contractsAmount]

/-- The minor units of each amount, an amount left out being zero. -/
def minorUnits (held : Holdings) (decimals : Nat) : List ℚ :=
  held.amounts.map fun a => (a.map fun a => a.minorUnits decimals).getD 0

/-- The exact sum of the amounts. -/
def supply (held : Holdings) : ℚ :=
  (held.amounts.map fun a => (a.map StellarAmount.value).getD 0).sum

theorem sum_minorUnits (held : Holdings) (decimals : Nat) :
    (held.minorUnits decimals).sum = held.supply * 10 ^ decimals := by
  unfold minorUnits supply
  rw [← List.sum_map_mul_right]
  congr 1
  apply List.map_congr_left
  intro a _
  cases a with
  | none => simp
  | some a => rfl

end Holdings

namespace HorizonStellarAdapter

theorem stellarAmountToMinor_zero (decimals : Nat) : stellarAmountToMinor "0" decimals = .ok 0 := by
  have hzero : StellarAmount.zero.minorUnits decimals = 0 := by
    unfold StellarAmount.minorUnits StellarAmount.value
    simp [StellarAmount.zero, decimalValue, Nat.ofDigitChars_cons]
  have h := stellarAmountToMinor_text StellarAmount.zero decimals
  rw [hzero, Int.floor_zero] at h
  exact h

theorem stellarAmountToMinor_part (a : Option StellarAmount) (decimals : Nat) :
    stellarAmountToMinor ((a.map StellarAmount.text).getD "0") decimals =
      .ok ⌊(a.map fun a => a.minorUnits decimals).getD 0⌋ := by
  cases a with
  | none => simpa using stellarAmountToMinor_zero decimals
  | some a => exact stellarAmountToMinor_text a decimals

/-- **The supply is the sum of the floors.** -/
theorem totalMinor_eq (held : Holdings) (pagingToken : String) (decimals : Nat) :
    totalMinor (parts (held.record pagingToken)) decimals =
      .ok ((held.minorUnits decimals).map Int.floor).sum := by
  have hparts : parts (held.record pagingToken) =
      held.amounts.map (Option.map StellarAmount.text) := rfl
  have hfold (amounts : List (Option StellarAmount)) (acc : Int) :
      (amounts.map (Option.map StellarAmount.text)).foldlM
        (fun acc a => return acc + (← stellarAmountToMinor (a.getD "0") decimals)) acc =
      (.ok (acc + ((amounts.map fun a =>
        (a.map fun a => a.minorUnits decimals).getD 0).map Int.floor).sum) :
          Except ApiError Int) := by
    induction amounts generalizing acc with
    | nil => simp; rfl
    | cons a amounts ih =>
      rw [List.map_cons, List.foldlM_cons, stellarAmountToMinor_part, List.map_cons,
        List.map_cons, List.sum_cons, ← Int.add_assoc]
      exact ih _
  unfold totalMinor
  rw [hparts, hfold, Int.zero_add]
  rfl

/-- The supply read of an asset, by the amounts Horizon lists. -/
def circulatingMinor (held : Holdings) (decimals : Nat) : Int :=
  ((held.minorUnits decimals).map Int.floor).sum

/-- **`getSupply` answers with the sum of the floors.** -/
theorem getSupply_eq (held : Holdings) (pagingToken : String) (more : List StellarAssetRecord)
    (clock : Clock) (assetCode issuer : String) (decimals : Nat) :
    getSupply (fun _ => .ok (held.record pagingToken :: more)) clock
      ⟨assetCode, issuer, decimals⟩ = .ok {
        assetCode, issuer
        circulatingMinor := toString (circulatingMinor held decimals)
        decimals
        ledgerReference := pagingToken
        asOf := isoString (clock 0) } := by
  unfold getSupply
  dsimp only [bind, Except.bind, pure, Except.pure, List.head?_cons]
  rw [totalMinor_eq]
  rfl

/-- Of six amounts at most five minor units are lost. -/
theorem circulatingMinor_bounds (held : Holdings) (decimals : Nat) :
    circulatingMinor held decimals ≤ ⌊held.supply * 10 ^ decimals⌋ ∧
      ⌊held.supply * 10 ^ decimals⌋ ≤ circulatingMinor held decimals + 5 := by
  have hle := Lib.sum_floors_le (held.minorUnits decimals)
  have hlt := Lib.floor_sum_lt (held.minorUnits decimals) (List.cons_ne_nil _ _)
  have hsix : (held.minorUnits decimals).length = 6 := rfl
  rw [held.sum_minorUnits] at hle hlt
  rw [hsix] at hlt
  unfold circulatingMinor
  omega

/-- The supply read is the floor of the exact supply when nothing but fractions below a minor unit
is lost. -/
theorem circulatingMinor_eq_iff (held : Holdings) (decimals : Nat) :
    circulatingMinor held decimals = ⌊held.supply * 10 ^ decimals⌋ ↔
      ((held.minorUnits decimals).map Int.fract).sum < 1 := by
  rw [← held.sum_minorUnits, ← Lib.sum_floors_eq_iff]
  rfl

end HorizonStellarAdapter

open HorizonStellarAdapter in
/-- **The supply is read exactly precisely when the lost fractions stay below a minor unit.** -/
theorem getSupply_exact_iff (held : Holdings) (pagingToken : String)
    (more : List StellarAssetRecord) (clock : Clock) (assetCode issuer : String)
    (decimals : Nat) :
    (getSupply (fun _ => .ok (held.record pagingToken :: more)) clock
      ⟨assetCode, issuer, decimals⟩).map StellarSupply.circulatingMinor =
        .ok (toString ⌊held.supply * 10 ^ decimals⌋) ↔
      ((held.minorUnits decimals).map Int.fract).sum < 1 := by
  rw [getSupply_eq, ← circulatingMinor_eq_iff]
  constructor
  · intro h
    exact toString_injective (Except.ok.inj h)
  · intro h
    exact congrArg (fun n => Except.ok (toString n)) h

namespace Sample

/-- Half a cent on trustlines and half a cent in a liquidity pool. -/
def halfCents : Holdings :=
  let half : StellarAmount :=
    ⟨['0'], "0050000".toList, by decide, by decide, by decide, by decide⟩
  ⟨some half, none, none, none, some half, none⟩

theorem supply_halfCents : halfCents.supply = 1 / 100 := by
  simp [Holdings.supply, Holdings.amounts, halfCents, StellarAmount.value, decimalValue,
    Nat.ofDigitChars_cons]
  norm_num

end Sample

open HorizonStellarAdapter in
/-- Two half cents are a cent, and the supply read is zero. -/
theorem halfCents_lost :
    (getSupply (fun _ => .ok [Sample.halfCents.record "token"]) (fun _ => 0)
      ⟨"KHRT", "GISSUER", 2⟩).map StellarSupply.circulatingMinor ≠
        .ok (toString ⌊Sample.halfCents.supply * 10 ^ 2⌋) := by
  have hread : (getSupply (fun _ => .ok [Sample.halfCents.record "token"]) (fun _ => 0)
      ⟨"KHRT", "GISSUER", 2⟩).map StellarSupply.circulatingMinor = .ok "0" := by
    decide +kernel
  have hexact : Sample.halfCents.supply * 10 ^ 2 = 1 := by
    rw [Sample.supply_halfCents]
    norm_num
  rw [hread, hexact, Int.floor_one]
  decide

/-! ## The reconciliation -/

open HorizonStellarAdapter in
/-- Reconciling reads the sum of the floors. -/
theorem LoyaltyService.onChainSupply_of_holdings {gateway : IssuanceGateway} {held : Holdings}
    {pagingToken : String} {more : List StellarAssetRecord} {clock : Clock}
    (hgateway : gateway.horizon = some fun asset =>
      (getSupply (fun _ => .ok (held.record pagingToken :: more)) clock asset).map
        StellarSupply.circulatingMinor)
    {liability : PaykhLoyaltyLiability} {assetCode issuer : String}
    (hcode : given liability.stellarAssetCode = some assetCode)
    (hissuer : given liability.stellarIssuer = some issuer) {decimals : Nat}
    (hdecimals : liability.decimals = decimals) :
    LoyaltyService.onChainSupply gateway liability =
      .ok (some (circulatingMinor held decimals)) := by
  unfold LoyaltyService.onChainSupply IssuanceGatewayService.readOnChainSupply
  rw [hcode, hissuer, hgateway]
  dsimp only [bind, Except.bind]
  rw [hdecimals, getSupply_eq]
  change (do return some (← bigInt (toString (circulatingMinor held decimals)))) = _
  rw [bigInt_toString]
  rfl

open HorizonStellarAdapter in
/-- A ledger that has exactly the supply on chain is found in drift when a minor unit is lost. -/
theorem LoyaltyService.reconciliationStatusOf_exact (held : Holdings) (decimals : Nat) :
    LoyaltyService.reconciliationStatusOf (some (circulatingMinor held decimals))
        ⌊held.supply * 10 ^ decimals⌋ = "OK" ↔
      ((held.minorUnits decimals).map Int.fract).sum < 1 := by
  rw [← circulatingMinor_eq_iff]
  unfold LoyaltyService.reconciliationStatusOf
  by_cases h : circulatingMinor held decimals = ⌊held.supply * 10 ^ decimals⌋
  · simp [h]
  · simp [h]

end TrusteeBank
