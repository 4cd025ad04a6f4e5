import TrusteeBank.Services.BankReconciliation
import TrusteeBank.Services.Mint

/-!
# What the banks add up to

A reconciliation compares the ledger cash of a program, which is in its reference currency, with
one number: the sum of the balances of its accounts, each in the currency of the account or of the
bank's reply. The sum does not look at the currencies.

**Theorem (`reconciled_agrees_iff`).** `reconciled = true` says that the banks agree with the
ledger (`Agrees`: every account covered, no balance in another currency, and the balances in the
reference currency equal to the ledger cash), except when every account is covered, some balance
is in another currency, and the balances of all currencies add up to the ledger cash (`Offsets`).

* `run_clearedBalances`: the loop over the accounts, as a map of what each account reads
  (`readBalance`);
* `reconciled_iff`: what `reconciled = true` says;
* `riel_reconciles`: 100 in riel stand for a ledger cash of 100 in dollars.
-/

set_option autoImplicit false

namespace TrusteeBank

open Lib (Call)
open LedgerAccountCode

section

variable [Runtime]

namespace BankBalanceService

/-! ## The accounts of a program -/

/-- The balance of an account that is covered. -/
def coveredBalance (banks : BankRegistry) (account : AccountBalanceRef) :
    Option BankBalanceResult :=
  (readBalance banks account).toOption.join

/-- **The loop over the accounts** reads each of them, or fails with an account that fails. -/
theorem run_clearedBalances (banks : BankRegistry) (now : Int) (accounts : List AccountBalanceRef)
    (w : World) :
    (∃ e, ((clearedBalances banks now accounts).run w).1 = .error e ∧
      ∃ a ∈ accounts, coveredBalance banks a = none) ∨
    ((clearedBalances banks now accounts).run w).1 =
      .ok (accounts.map fun a => (a, coveredBalance banks a)) := by
  induction accounts generalizing w with
  | nil => exact .inr rfl
  | cons account accounts ih =>
    unfold clearedBalances
    rw [Call.run_bind, run_clearedBalanceForAccount]
    generalize afterRead banks now account w = w₁
    cases hbalance : readBalance banks account with
    | error e =>
      have hnone : coveredBalance banks account = none := by
        rw [coveredBalance, hbalance]
        rfl
      exact .inl ⟨e, rfl, account, List.mem_cons_self, hnone⟩
    | ok balance =>
      have hcovered : coveredBalance banks account = balance := by
        rw [coveredBalance, hbalance]
        rfl
      simp only
      rw [Call.run_bind]
      have hrest := ih w₁
      generalize (clearedBalances banks now accounts).run w₁ = out at hrest ⊢
      obtain ⟨result, w₂⟩ := out
      rcases hrest with ⟨e, herror, a, ha, hnone⟩ | hok
      · simp only at herror
        subst herror
        exact .inl ⟨e, rfl, a, List.mem_cons_of_mem account ha, hnone⟩
      · simp only at hok
        subst hok
        refine .inr ?_
        rw [List.map_cons, hcovered]
        rfl

/-! ## Totals -/

/-- The part of a balance that is in a currency. -/
def ownBalance (currency : String) (balance : Option BankBalanceResult) : Int :=
  (balance.map fun b => if b.currency = currency then b.minor else 0).getD 0

/-- The part of a balance that is in another currency. -/
def foreignBalance (currency : String) (balance : Option BankBalanceResult) : Int :=
  (balance.map fun b => if b.currency = currency then 0 else b.minor).getD 0

def ownTotal (banks : BankRegistry) (accounts : List AccountBalanceRef) (currency : String) : Int :=
  (accounts.map fun a => ownBalance currency (coveredBalance banks a)).sum

def foreignTotal (banks : BankRegistry) (accounts : List AccountBalanceRef) (currency : String) :
    Int :=
  (accounts.map fun a => foreignBalance currency (coveredBalance banks a)).sum

omit [Runtime] in
/-- **The total of the banks is the two totals together.** -/
theorem bankTotal_eq (banks : BankRegistry) (accounts : List AccountBalanceRef)
    (currency : String) :
    ReserveService.bankTotal (accounts.map fun a => (a, coveredBalance banks a)) =
      ownTotal banks accounts currency + foreignTotal banks accounts currency := by
  have hparts : ∀ balance : Option BankBalanceResult, (balance.map BankBalanceResult.minor).getD 0 =
      ownBalance currency balance + foreignBalance currency balance := by
    intro balance
    cases balance with
    | none => rfl
    | some b =>
      simp only [ownBalance, foreignBalance, Option.map_some, Option.getD_some]
      split_ifs
      · rw [add_zero]
      · rw [zero_add]
  unfold ReserveService.bankTotal ownTotal foreignTotal
  rw [← List.sum_map_add, List.map_map]
  apply congrArg List.sum
  apply List.map_congr_left
  intro a _
  exact hparts (coveredBalance banks a)

omit [Runtime] in
/-- Balances that are all in the currency or zero add nothing in other currencies. -/
theorem foreignTotal_eq_zero {banks : BankRegistry} {accounts : List AccountBalanceRef}
    {currency : String} (h : ∀ a ∈ accounts, ∀ b, coveredBalance banks a = some b →
      b.currency = currency ∨ b.minor = 0) : foreignTotal banks accounts currency = 0 := by
  apply List.sum_eq_zero
  intro n hn
  obtain ⟨a, ha, rfl⟩ := List.mem_map.mp hn
  cases hbalance : coveredBalance banks a with
  | none => rfl
  | some b =>
    simp only [foreignBalance, Option.map_some, Option.getD_some]
    split_ifs with hcurrency
    · rfl
    · exact (h a ha b hbalance).resolve_left hcurrency

end BankBalanceService

namespace ReserveService

open BankBalanceService ReserveLedgerService

/-! ## What the verdict says -/

/-- Every account of the program is covered. -/
def Covered (banks : BankRegistry) (programId : String) : Prop :=
  ∀ a ∈ banks.accounts programId, (coveredBalance banks a).isSome = true

/-- The banks agree with the ledger, in the reference currency of the program. -/
structure Agrees (banks : BankRegistry) (w : World) (programId referenceCurrency : String) :
    Prop where
  covered : Covered banks programId
  own_currency : ∀ a ∈ banks.accounts programId, ∀ b, coveredBalance banks a = some b →
    b.currency = referenceCurrency ∨ b.minor = 0
  cash : ownTotal banks (banks.accounts programId) referenceCurrency =
    ledgerNet w.ledger programId referenceCurrency assetTrusteeBankCash

/-- Some balance is in another currency, and the balances of all currencies add up to the ledger
cash. -/
structure Offsets (banks : BankRegistry) (w : World) (programId referenceCurrency : String) :
    Prop where
  covered : Covered banks programId
  foreign : ∃ a ∈ banks.accounts programId, ∃ b, coveredBalance banks a = some b ∧
    b.currency ≠ referenceCurrency ∧ b.minor ≠ 0
  cash : ownTotal banks (banks.accounts programId) referenceCurrency +
      foreignTotal banks (banks.accounts programId) referenceCurrency =
    ledgerNet w.ledger programId referenceCurrency assetTrusteeBankCash

omit [Runtime] in
/-- Reconciliation is asserted of accounts that are all covered. -/
theorem reconciledOf_eq_true {uncovered : Nat} {drift : Int} :
    reconciledOf uncovered drift = some true ↔ uncovered = 0 ∧ drift = 0 := by
  unfold reconciledOf
  split_ifs with h <;> simp [h]

omit [Runtime] in
theorem uncoveredAccounts_eq_zero {banks : BankRegistry} {programId : String} :
    uncoveredAccounts ((banks.accounts programId).map fun a => (a, coveredBalance banks a)) = 0 ↔
      Covered banks programId := by
  unfold uncoveredAccounts Covered
  rw [List.countP_eq_zero]
  simp [Option.isSome_iff_ne_none]

/-- A reconciliation fails with an account that is not covered, or returns its verdict. -/
theorem run_reconcileBank_cases (banks : BankRegistry) (clock : Clock) {w : World}
    {programId : String} {program : Program}
    (hprogram : w.programs.find? programId = some program) :
    (∃ e, ((reconcileBank banks clock programId).run w).1 = .error e ∧
      ∃ a ∈ banks.accounts programId, coveredBalance banks a = none) ∨
    ∃ r, ((reconcileBank banks clock programId).run w).1 = .ok r ∧
      r.reconciled = reconciledOf
        (uncoveredAccounts ((banks.accounts programId).map fun a => (a, coveredBalance banks a)))
        (bankTotal ((banks.accounts programId).map fun a => (a, coveredBalance banks a)) -
          ledgerNet w.ledger programId program.referenceCurrency assetTrusteeBankCash) := by
  have hcash : (accountBalance programId assetTrusteeBankCash program.referenceCurrency).run w =
      (.ok (money (ledgerNet w.ledger programId program.referenceCurrency assetTrusteeBankCash)
        program.referenceCurrency), w) := by
    rw [run_accountBalance type_assetTrusteeBankCash]
    simp [LedgerAccountType.debitPositive]
  unfold reconcileBank
  rw [Call.run_bind, Entity.run_findUnique]
  simp only [Prisma.program_get]
  rw [hprogram, Call.run_lift_bind]
  simp only [orThrow]
  rw [Call.run_bind, hcash]
  simp only [money_minor]
  rw [Call.run_bind]
  have hbalances := run_clearedBalances banks (clock 0) (banks.accounts programId) w
  generalize (clearedBalances banks (clock 0) (banks.accounts programId)).run w = out at hbalances ⊢
  obtain ⟨result, w₁⟩ := out
  rcases hbalances with ⟨e, herror, huncovered⟩ | hok
  · simp only at herror
    subst herror
    exact .inl ⟨e, rfl, huncovered⟩
  · simp only at hok
    subst hok
    -- The event is published or not; the verdict is the same.
    refine .inr ?_
    simp only
    generalize (banks.accounts programId).map (fun a => (a, coveredBalance banks a)) = balances
    generalize ledgerNet w.ledger programId program.referenceCurrency assetTrusteeBankCash = cash
    by_cases hpublished : reconciledOf (uncoveredAccounts balances)
        (bankTotal balances - cash) = some false
    · simp only [hpublished, ↓reduceIte]
      rw [Call.run_bind, run_publish]
      exact ⟨_, rfl, rfl⟩
    · simp only [hpublished, ↓reduceIte]
      exact ⟨_, rfl, rfl⟩

/-- **What `reconciled = true` says**: every account is covered, and the balances of all
currencies add up to the ledger cash. -/
theorem reconciled_iff (banks : BankRegistry) (clock : Clock) {w : World} {programId : String}
    {program : Program} (hprogram : w.programs.find? programId = some program) :
    (∃ r, ((reconcileBank banks clock programId).run w).1 = .ok r ∧ r.reconciled = some true) ↔
      Covered banks programId ∧
        ownTotal banks (banks.accounts programId) program.referenceCurrency +
            foreignTotal banks (banks.accounts programId) program.referenceCurrency =
          ledgerNet w.ledger programId program.referenceCurrency assetTrusteeBankCash := by
  rcases run_reconcileBank_cases banks clock hprogram with ⟨e, herror, a, ha, hnone⟩ |
    ⟨r, hok, hverdict⟩
  · constructor
    · rintro ⟨r, hr, -⟩
      exact absurd (herror.symm.trans hr) error_ne_ok
    · rintro ⟨hcovered, -⟩
      have hsome := hcovered a ha
      rw [hnone] at hsome
      cases hsome
  · rw [bankTotal_eq banks _ program.referenceCurrency] at hverdict
    constructor
    · rintro ⟨r', hr', htrue⟩
      obtain rfl : r = r' := Except.ok.inj (hok.symm.trans hr')
      obtain ⟨huncovered, hdrift⟩ := reconciledOf_eq_true.mp (hverdict.symm.trans htrue)
      exact ⟨uncoveredAccounts_eq_zero.mp huncovered, by omega⟩
    · rintro ⟨hcovered, hcash⟩
      refine ⟨r, hok, hverdict.trans (reconciledOf_eq_true.mpr ⟨?_, by omega⟩)⟩
      exact uncoveredAccounts_eq_zero.mpr hcovered

/-- **When `reconciled = true` says that the banks agree with the ledger**: except when balances
in other currencies make up the ledger cash. -/
theorem reconciled_agrees_iff (banks : BankRegistry) (clock : Clock) {w : World}
    {programId : String} {program : Program}
    (hprogram : w.programs.find? programId = some program) :
    ((∃ r, ((reconcileBank banks clock programId).run w).1 = .ok r ∧ r.reconciled = some true) ↔
      Agrees banks w programId program.referenceCurrency) ↔
      ¬Offsets banks w programId program.referenceCurrency := by
  rw [reconciled_iff banks clock hprogram]
  constructor
  · rintro h ⟨hcovered, ⟨a, ha, b, hb, hforeign, hnonzero⟩, hcash⟩
    rcases (h.mp ⟨hcovered, hcash⟩).own_currency a ha b hb with hcurrency | hzero
    · exact hforeign hcurrency
    · exact hnonzero hzero
  · intro h
    constructor
    · rintro ⟨hcovered, hcash⟩
      have hown : ∀ a ∈ banks.accounts programId, ∀ b, coveredBalance banks a = some b →
          b.currency = program.referenceCurrency ∨ b.minor = 0 := by
        intro a ha b hb
        by_contra hforeign
        rw [not_or] at hforeign
        exact h ⟨hcovered, ⟨a, ha, b, hb, hforeign⟩, hcash⟩
      rw [foreignTotal_eq_zero hown, add_zero] at hcash
      exact ⟨hcovered, hown, hcash⟩
    · intro hagrees
      refine ⟨hagrees.covered, ?_⟩
      rw [foreignTotal_eq_zero hagrees.own_currency, add_zero]
      exact hagrees.cash

end ReserveService

end

/-! ## Accounts in dollars and in riel -/

attribute [local instance] Runtime.ascii

open ReserveService BankBalanceService

namespace Sample

/-- One account in a currency, whose balance the operator set to 100. -/
def bankIn (currency : String) : BankRegistry where
  accounts := fun _ => [⟨"T1", none, none, currency, 100⟩]
  connections := []
  env := fun _ => none
  getAccountBalance := fun _ _ _ _ => .error (.thrown "Error" "unreachable")

theorem bankIn_covered (currency : String) :
    coveredBalance (bankIn currency) ⟨"T1", none, none, currency, 100⟩ =
      some ⟨100, currency, "mock", none⟩ := rfl

theorem world_program : world.programs.find? "P1" = some program := by rfl

/-- The riel reconcile with the dollars of the ledger. -/
theorem verdict_riel : (((reconcileBank (bankIn "KHR") clock "P1").run world).1.toOption.map
    BankReconciliation.reconciled) = some (some true) := by
  decide +kernel

end Sample

/-- The account in dollars agrees with the ledger. -/
theorem dollars_reconcile : ¬Offsets (Sample.bankIn "USD") Sample.world "P1" "USD" ∧
    ((∃ r, ((reconcileBank (Sample.bankIn "USD") Sample.clock "P1").run Sample.world).1 = .ok r ∧
      r.reconciled = some true) ↔ Agrees (Sample.bankIn "USD") Sample.world "P1" "USD") := by
  have hoffsets : ¬Offsets (Sample.bankIn "USD") Sample.world "P1" "USD" := by
    rintro ⟨-, ⟨a, ha, b, hb, hforeign, -⟩, -⟩
    rw [List.mem_singleton.mp ha, Sample.bankIn_covered] at hb
    cases hb
    exact hforeign rfl
  exact ⟨hoffsets, (reconciled_agrees_iff (Sample.bankIn "USD") Sample.clock
    Sample.world_program).mpr hoffsets⟩

/-- 100 in riel stand for 100 in dollars. -/
theorem riel_reconciles : ¬∀ [Runtime] (banks : BankRegistry) (clock : Clock) (w : World)
    (programId : String) (program : Program), w.programs.find? programId = some program →
      ((∃ r, ((reconcileBank banks clock programId).run w).1 = .ok r ∧ r.reconciled = some true) ↔
        Agrees banks w programId program.referenceCurrency) := by
  intro h
  obtain ⟨r, hr, htrue⟩ := toOption_map_eq_some.mp Sample.verdict_riel
  have hagrees := (h (Sample.bankIn "KHR") Sample.clock Sample.world "P1" Sample.program
    Sample.world_program).mp ⟨r, hr, htrue⟩
  have hown := hagrees.own_currency _ (List.mem_singleton_self _) _ (Sample.bankIn_covered "KHR")
  rcases hown with hcurrency | hzero
  · exact absurd hcurrency (by decide)
  · exact absurd hzero (by decide)

end TrusteeBank
