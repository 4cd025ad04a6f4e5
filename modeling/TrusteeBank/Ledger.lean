import TrusteeBank.Domain
import TrusteeBank.Lib.Journal

/-!
# The reserve subledger

The chart of accounts, the double-entry journal engine, the standard entries of the reserve
lifecycle, and the balance of an account.

A `JournalEntry` carries the proof that it balances and that each posting is one-sided and in the
entry's currency, so that no other entry can be posted. `buildJournalEntry` checks this as the
source does, and `checkJournal_eq_ok` says the check is exact.

An entry is a list of signed lines on accounts of the form (program, currency, account code);
`netPostings_postingsOf` reads every balance off the lines of the ledger.
-/

set_option autoImplicit false

namespace TrusteeBank

variable [Runtime]

/-! ## Chart of accounts -/

inductive LedgerAccountType
  | asset | liability | income | expense | suspense
deriving DecidableEq, Repr

namespace LedgerAccountCode

def assetTrusteeBankCash : String := "ASSET:TRUSTEE_BANK_CASH"
def liabilityPaychainReserveObligation : String := "LIABILITY:PAYCHAIN_RESERVE_OBLIGATION"
def liabilityPendingMint : String := "LIABILITY:PENDING_MINT"
def liabilityPendingRedemption : String := "LIABILITY:PENDING_REDEMPTION"
def liabilityUnmatchedDeposit : String := "LIABILITY:UNMATCHED_DEPOSIT"
def liabilityPaykhMerchantPayable : String := "LIABILITY:PAYKH_MERCHANT_PAYABLE"
def liabilityPaykhProgramFund : String := "LIABILITY:PAYKH_PROGRAM_FUND"
def liabilityPaykhLoyaltyStablecoin : String := "LIABILITY:PAYKH_LOYALTY_STABLECOIN"

end LedgerAccountCode

/-- The type of an account, by the part of its code before the first colon. -/
def ledgerAccountTypeOf (code : String) : Except ApiError LedgerAccountType :=
  match String.ofList (code.toList.takeWhile (· ≠ ':')) with
  | "ASSET" => .ok .asset
  | "LIABILITY" => .ok .liability
  | "INCOME" => .ok .income
  | "EXPENSE" => .ok .expense
  | "SUSPENSE" => .ok .suspense
  | _ => .error (.thrown "Error" ("Unknown ledger account prefix in code \"" ++ code ++ "\""))

section AccountTypes

open LedgerAccountCode

omit [Runtime]

theorem type_assetTrusteeBankCash : ledgerAccountTypeOf assetTrusteeBankCash = .ok .asset := rfl

theorem type_liabilityUnmatchedDeposit :
    ledgerAccountTypeOf liabilityUnmatchedDeposit = .ok .liability := rfl

theorem type_liabilityPaychainReserveObligation :
    ledgerAccountTypeOf liabilityPaychainReserveObligation = .ok .liability := rfl

theorem type_liabilityPendingMint : ledgerAccountTypeOf liabilityPendingMint = .ok .liability := rfl

theorem type_liabilityPendingRedemption :
    ledgerAccountTypeOf liabilityPendingRedemption = .ok .liability := rfl

end AccountTypes

/-- Assets and expenses grow on the debit side. -/
def LedgerAccountType.debitPositive : LedgerAccountType → Bool
  | .asset | .expense => true
  | .liability | .income | .suspense => false

/-! ## Journal entries -/

structure Posting where
  account : String
  debit : Money
  credit : Money
  memo : Option String
deriving DecidableEq, Repr

structure JournalReferences where
  source : String
  programId : String
  assetId : String
  actor : String
  approvalRef : Option String
  correlationId : Option String
deriving DecidableEq, Repr

structure JournalEntryInput where
  currency : String
  description : String
  postings : List Posting
  references : JournalReferences
deriving DecidableEq, Repr

def invalidPosting (message : String) : ApiError := .thrown "InvalidPostingError" message

def assertPostingWellFormed (p : Posting) (currency : String) : Except ApiError Unit :=
  if p.debit.currency ≠ currency ∨ p.credit.currency ≠ currency then
    .error (invalidPosting ("Posting on " ++ p.account ++
      " uses a currency other than journal currency " ++ currency))
  else if p.debit.minor < 0 ∨ p.credit.minor < 0 then
    .error (invalidPosting ("Posting on " ++ p.account ++
      " has a negative amount; use the opposite side instead"))
  else if p.debit.minor > 0 ∧ p.credit.minor > 0 then
    .error (invalidPosting ("Posting on " ++ p.account ++ " has both debit and credit amounts"))
  else if p.debit.minor = 0 ∧ p.credit.minor = 0 then
    .error (invalidPosting ("Posting on " ++ p.account ++ " is empty"))
  else (ledgerAccountTypeOf p.account).map fun _ => ()

/-- One turn of the loop over the postings: check a posting, add it to both totals. -/
def addPosting (currency : String) (totals : Money × Money) (p : Posting) :
    Except ApiError (Money × Money) := do
  assertPostingWellFormed p currency
  return (← totals.1.add p.debit, ← totals.2.add p.credit)

/-- The checks and totals of `buildJournalEntry`. -/
def checkJournal (input : JournalEntryInput) : Except ApiError (Money × Money) := do
  if input.postings.length < 2 then
    throw (invalidPosting "A journal entry requires at least two postings")
  let totals ← input.postings.foldlM (addPosting input.currency)
    (zero input.currency, zero input.currency)
  if !(← totals.1.subtract totals.2).isZero then
    throw (.thrown "UnbalancedJournalError" ("Journal does not balance: debits=" ++
      toString totals.1.minor ++ " credits=" ++ toString totals.2.minor ++ " " ++
      totals.1.currency))
  return totals

/-- One side carries a positive amount in the entry's currency, the other nothing. -/
structure PostingWellFormed (p : Posting) (currency : String) : Prop where
  debit_currency : p.debit.currency = currency
  credit_currency : p.credit.currency = currency
  one_sided : (0 < p.debit.minor ∧ p.credit.minor = 0) ∨ (p.debit.minor = 0 ∧ 0 < p.credit.minor)
  account : ∃ t, ledgerAccountTypeOf p.account = .ok t

/-- What `buildJournalEntry` accepts. -/
structure JournalEntryInput.Valid (input : JournalEntryInput) : Prop where
  two_postings : 2 ≤ input.postings.length
  upper_case : Runtime.toUpperCase input.currency = input.currency
  postings : ∀ p ∈ input.postings, PostingWellFormed p input.currency
  balanced : (input.postings.map fun p => p.debit.minor).sum =
    (input.postings.map fun p => p.credit.minor).sum

/-- The totals of the two sides. -/
def JournalEntryInput.totals (input : JournalEntryInput) : Money × Money :=
  (⟨(input.postings.map fun p => p.debit.minor).sum, input.currency⟩,
   ⟨(input.postings.map fun p => p.credit.minor).sum, input.currency⟩)

/-- A balanced entry. It is never edited once built. -/
structure JournalEntry extends JournalEntryInput where
  totalDebit : Money
  totalCredit : Money
  reversalOf : Option String
  valid : toJournalEntryInput.Valid
  totals : (totalDebit, totalCredit) = toJournalEntryInput.totals

omit [Runtime] in
theorem assertPostingWellFormed_eq_ok {p : Posting} {currency : String} {u : Unit} :
    assertPostingWellFormed p currency = .ok u ↔ PostingWellFormed p currency := by
  unfold assertPostingWellFormed
  constructor
  · intro h
    split_ifs at h with h₁ h₂ h₃ h₄
    obtain ⟨t, ht⟩ : ∃ t, ledgerAccountTypeOf p.account = .ok t := by
      cases ht : ledgerAccountTypeOf p.account with
      | ok t => exact ⟨t, rfl⟩
      | error e => rw [ht] at h; cases h
    rw [not_or, not_not, not_not] at h₁
    exact ⟨h₁.1, h₁.2, by omega, t, ht⟩
  · rintro ⟨hd, hc, hs, t, ht⟩
    rw [if_neg (by simp [hd, hc]), if_neg (by omega), if_neg (by omega), if_neg (by omega), ht]
    rfl

omit [Runtime] in
/-- The loop over the postings adds up both sides, if each posting is well formed. -/
theorem foldlM_addPosting {currency : String} {ps : List Posting} {d c : Int}
    {r : Money × Money} :
    ps.foldlM (addPosting currency) (⟨d, currency⟩, ⟨c, currency⟩) = .ok r ↔
      (∀ p ∈ ps, PostingWellFormed p currency) ∧
        r = (⟨d + (ps.map fun p => p.debit.minor).sum, currency⟩,
          ⟨c + (ps.map fun p => p.credit.minor).sum, currency⟩) := by
  induction ps generalizing d c with
  | nil => simp [pure, Except.pure, eq_comm]
  | cons p ps ih =>
    rw [List.foldlM_cons, List.forall_mem_cons, and_assoc]
    cases hp : assertPostingWellFormed p currency with
    | error e =>
      have hnot : ¬PostingWellFormed p currency := fun h => by
        cases hp.symm.trans ((assertPostingWellFormed_eq_ok (u := ())).mpr h)
      simp [addPosting, hp, bind, Except.bind, hnot]
    | ok u =>
      have hwf := assertPostingWellFormed_eq_ok.mp hp
      have hadd : addPosting currency (⟨d, currency⟩, ⟨c, currency⟩) p =
          .ok (⟨d + p.debit.minor, currency⟩, ⟨c + p.credit.minor, currency⟩) := by
        simp only [addPosting, hp, bind, Except.bind, pure, Except.pure,
          Money.add_eq_ok (a := ⟨d, currency⟩) hwf.debit_currency.symm,
          Money.add_eq_ok (a := ⟨c, currency⟩) hwf.credit_currency.symm]
      rw [hadd]
      simp only [bind, Except.bind]
      rw [ih]
      simp [hwf, add_assoc]

omit [Runtime] in
/-- The loop throws on its first posting when the running totals are in another currency. -/
theorem addPosting_ne_ok {currency : String} {totals : Money × Money} {p : Posting}
    (h : totals.1.currency ≠ currency) (r : Money × Money) :
    addPosting currency totals p ≠ .ok r := by
  unfold addPosting
  cases hp : assertPostingWellFormed p currency with
  | error e => simp [bind, Except.bind]
  | ok u =>
    have hne : totals.1.currency ≠ p.debit.currency :=
      (assertPostingWellFormed_eq_ok.mp hp).debit_currency ▸ h
    simp [Money.add, Money.assertSameCurrency, hne, bind, Except.bind]

/-- **`buildJournalEntry` accepts exactly the valid inputs.** -/
theorem checkJournal_eq_ok {input : JournalEntryInput} {r : Money × Money} :
    checkJournal input = .ok r ↔ input.Valid ∧ r = input.totals := by
  obtain ⟨currency, description, postings, references⟩ := input
  unfold checkJournal
  simp only
  by_cases hlen : postings.length < 2
  · have hnot : ¬JournalEntryInput.Valid ⟨currency, description, postings, references⟩ :=
      fun h => absurd h.two_postings (not_le.mpr hlen)
    simp [hlen, hnot, throw, throwThe, MonadExceptOf.throw, bind, Except.bind]
  rw [if_neg hlen]
  by_cases hupper : Runtime.toUpperCase currency = currency
  · have hzero : zero currency = ⟨0, currency⟩ := by rw [zero, hupper]
    rw [hzero]
    cases hloop : postings.foldlM (addPosting currency) (⟨0, currency⟩, ⟨0, currency⟩) with
    | error e =>
      have hnot : ¬∀ p ∈ postings, PostingWellFormed p currency := fun h => by
        cases hloop.symm.trans (foldlM_addPosting.mpr ⟨h, rfl⟩)
      have hinvalid : ¬JournalEntryInput.Valid ⟨currency, description, postings, references⟩ :=
        fun h => hnot h.postings
      simp [hinvalid, bind, Except.bind]
    | ok totals =>
      obtain ⟨hps, rfl⟩ := foldlM_addPosting.mp hloop
      simp only [zero_add]
      set d := (postings.map fun p => p.debit.minor).sum with hd
      set c := (postings.map fun p => p.credit.minor).sum with hc
      have hsub : Money.subtract ⟨d, currency⟩ ⟨c, currency⟩ = .ok ⟨d - c, currency⟩ :=
        Money.subtract_eq_ok rfl
      simp only [hsub, Money.isZero, pure, Except.pure, bind, Except.bind]
      by_cases hdc : d = c
      · have hvalid : JournalEntryInput.Valid ⟨currency, description, postings, references⟩ :=
          ⟨not_lt.mp hlen, hupper, hps, hdc⟩
        simp [hdc, hvalid, JournalEntryInput.totals, ← hd, ← hc, eq_comm]
      · have hinvalid : ¬JournalEntryInput.Valid ⟨currency, description, postings, references⟩ :=
          fun h => hdc h.balanced
        have hne : d - c ≠ 0 := fun h => hdc (by omega)
        simp [hne, hinvalid, throw, throwThe, MonadExceptOf.throw]
  · -- The running totals are in the upper-cased currency, so the first posting throws.
    have hinvalid : ¬JournalEntryInput.Valid ⟨currency, description, postings, references⟩ :=
      fun h => hupper h.upper_case
    obtain _ | ⟨p, ps⟩ := postings
    · simp at hlen
    cases hadd : addPosting currency (zero currency, zero currency) p with
    | error e => simp [hadd, hinvalid, bind, Except.bind]
    | ok totals => exact absurd hadd (addPosting_ne_ok hupper totals)

/-- Build a validated, balanced journal entry. -/
def buildJournalEntry (input : JournalEntryInput) : Except ApiError JournalEntry :=
  match h : checkJournal input with
  | .ok (totalDebit, totalCredit) =>
    .ok { input with
      totalDebit, totalCredit
      reversalOf := none
      valid := (checkJournal_eq_ok.mp h).1
      totals := (checkJournal_eq_ok.mp h).2 }
  | .error e => .error e

/-- The compensating entry: debits and credits swapped, under a new source and actor. -/
def reverse (entry : JournalEntry) (reversalRef actor reason : String) :
    Except ApiError JournalEntry := do
  let reversed ← buildJournalEntry
    { currency := entry.currency
      description := "REVERSAL: " ++ entry.description ++ " — " ++ reason
      postings := entry.postings.map fun p => { p with debit := p.credit, credit := p.debit }
      references := { entry.references with source := reversalRef, actor } }
  return { reversed with reversalOf := some entry.references.source }

theorem buildJournalEntry_ok {input : JournalEntryInput} {e : JournalEntry}
    (h : buildJournalEntry input = .ok e) :
    e.toJournalEntryInput = input ∧ e.reversalOf = none := by
  unfold buildJournalEntry at h
  split at h
  · cases h
    exact ⟨rfl, rfl⟩
  · cases h

theorem exists_buildJournalEntry {input : JournalEntryInput} (h : input.Valid) :
    ∃ e, buildJournalEntry input = .ok e := by
  unfold buildJournalEntry
  split
  · exact ⟨_, rfl⟩
  · next hcheck => cases hcheck.symm.trans (checkJournal_eq_ok.mpr ⟨h, rfl⟩)

/-! ## Lines and balances -/

/-- Debits minus credits of a posting, on its account in a program and currency. -/
def Posting.line (programId currency : String) (p : Posting) :
    Lib.Line (String × String × String) Int :=
  ⟨(programId, currency, p.account), p.debit.minor - p.credit.minor⟩

def JournalEntry.lines (e : JournalEntry) : List (Lib.Line (String × String × String) Int) :=
  e.postings.map (Posting.line e.references.programId e.currency)

/-- Debits minus credits on an account of a program, over the whole ledger. -/
def ledgerNet (ledger : List JournalEntry) (programId currency account : String) : Int :=
  Lib.net (ledger.flatMap JournalEntry.lines) (programId, currency, account)

/-- The postings `accountBalance` selects. -/
def postingsOf (ledger : List JournalEntry) (programId account currency : String) : List Posting :=
  (ledger.filter fun e => e.references.programId = programId ∧ e.currency = currency).flatMap
    fun e => e.postings.filter fun p => p.account = account

/-- The running sum `accountBalance` takes of them. -/
def netPostings (debitPositive : Bool) (rows : List Posting) : Int :=
  rows.foldl (fun net r => net +
    if debitPositive then r.debit.minor - r.credit.minor else r.credit.minor - r.debit.minor) 0

@[simp] theorem ledgerNet_nil (programId currency account : String) :
    ledgerNet [] programId currency account = 0 := rfl

theorem ledgerNet_append (ledger ledger' : List JournalEntry) (programId currency account : String) :
    ledgerNet (ledger ++ ledger') programId currency account =
      ledgerNet ledger programId currency account +
        ledgerNet ledger' programId currency account := by
  simp [ledgerNet, Lib.net_append]

theorem ledgerNet_singleton (e : JournalEntry) (programId currency account : String) :
    ledgerNet [e] programId currency account =
      Lib.net e.lines (programId, currency, account) := by
  simp [ledgerNet]

omit [Runtime] in
theorem netPostings_eq (debitPositive : Bool) (rows : List Posting) :
    netPostings debitPositive rows =
      (if debitPositive then 1 else -1) *
        (rows.map fun r => r.debit.minor - r.credit.minor).sum := by
  have hfold (init : Int) : rows.foldl (fun net r => net +
      if debitPositive then r.debit.minor - r.credit.minor else r.credit.minor - r.debit.minor)
      init = init + (if debitPositive then 1 else -1) *
        (rows.map fun r => r.debit.minor - r.credit.minor).sum := by
    induction rows generalizing init with
    | nil => simp
    | cons r rows ih =>
      rw [List.foldl_cons, ih, List.map_cons, List.sum_cons]
      cases debitPositive <;> simp only [if_true, if_false, Bool.false_eq_true] <;> ring
  rw [netPostings, hfold 0, zero_add]

theorem sum_postingsOf (ledger : List JournalEntry) (programId account currency : String) :
    ((postingsOf ledger programId account currency).map
      fun r => r.debit.minor - r.credit.minor).sum =
      ledgerNet ledger programId currency account := by
  induction ledger with
  | nil => rfl
  | cons e ledger ih =>
    rw [← List.singleton_append, ledgerNet_append, ledgerNet_singleton, ← ih]
    have hlines : Lib.net e.lines (programId, currency, account) =
        if e.references.programId = programId ∧ e.currency = currency then
          ((e.postings.filter fun p => p.account = account).map
            fun r => r.debit.minor - r.credit.minor).sum
        else 0 := by
      unfold Lib.net JournalEntry.lines
      rw [List.filter_map, List.map_map]
      by_cases hscope : e.references.programId = programId ∧ e.currency = currency
      · simp [hscope, Function.comp_def, Posting.line]
      · have hnil : e.postings.filter ((fun l : Lib.Line (String × String × String) Int =>
            decide (l.account = (programId, currency, account))) ∘
              Posting.line e.references.programId e.currency) = [] := by
          rw [List.filter_eq_nil_iff]
          intro p _
          simp only [Function.comp_apply, Posting.line, Prod.mk.injEq, decide_eq_true_eq]
          exact fun h => hscope ⟨h.1, h.2.1⟩
        simp [hscope, hnil]
    rw [hlines]
    by_cases hscope : e.references.programId = programId ∧ e.currency = currency <;>
      simp [postingsOf, hscope]

/-- **Every balance is read off the lines.** -/
theorem netPostings_postingsOf (debitPositive : Bool) (ledger : List JournalEntry)
    (programId account currency : String) :
    netPostings debitPositive (postingsOf ledger programId account currency) =
      (if debitPositive then 1 else -1) * ledgerNet ledger programId currency account := by
  rw [netPostings_eq, sum_postingsOf]

/-- Entries are in upper-case currencies, so an account in any other currency is empty. -/
theorem ledgerNet_of_not_upper {currency : String} (h : Runtime.toUpperCase currency ≠ currency)
    (ledger : List JournalEntry) (programId account : String) :
    ledgerNet ledger programId currency account = 0 := by
  refine Lib.net_eq_zero fun l hl hacc => ?_
  obtain ⟨e, -, hl⟩ := List.mem_flatMap.mp hl
  obtain ⟨p, -, rfl⟩ := List.mem_map.mp hl
  simp only [Posting.line, Prod.mk.injEq] at hacc
  exact h (hacc.2.1 ▸ e.valid.upper_case)

/-! ## Standard entries -/

/-- Debit one account and credit another with the same amount. -/
def movePostings (debitAccount creditAccount : String) (amount : Money) (zeroCurrency : String) :
    List Posting :=
  [⟨debitAccount, amount, zero zeroCurrency, none⟩, ⟨creditAccount, zero zeroCurrency, amount, none⟩]

/-- A reversal undoes what its entry did to every account, under its own source and actor. -/
theorem reverse_ok {entry reversed : JournalEntry} {reversalRef actor reason : String}
    (h : reverse entry reversalRef actor reason = .ok reversed) :
    reversed.references = { entry.references with source := reversalRef, actor } ∧
      ∀ programId c a, ledgerNet [reversed] programId c a = -ledgerNet [entry] programId c a := by
  unfold reverse at h
  obtain ⟨e, he, h⟩ := bind_eq_ok.mp h
  cases h
  obtain ⟨hinput, -⟩ := buildJournalEntry_ok he
  refine ⟨congrArg JournalEntryInput.references hinput, ?_⟩
  intro programId c a
  have hlines (p : Posting) : Posting.line entry.references.programId entry.currency
      { p with debit := p.credit, credit := p.debit } =
        ⟨(entry.references.programId, entry.currency, p.account),
          -(p.debit.minor - p.credit.minor)⟩ := by
    simp [Posting.line]
  rw [ledgerNet_singleton, ledgerNet_singleton]
  unfold JournalEntry.lines
  simp only [hinput, List.map_map, Function.comp_def, hlines]
  unfold Lib.net
  induction entry.postings with
  | nil => rfl
  | cons p postings ih =>
    rw [List.map_cons, List.map_cons, List.filter_cons, List.filter_cons]
    by_cases hacc : (entry.references.programId, entry.currency, p.account) = (programId, c, a)
    · simp only [Posting.line, hacc, decide_true, if_true, List.map_cons, List.sum_cons] at ih ⊢
      rw [ih]
      ring
    · simp only [Posting.line, hacc, decide_false, Bool.false_eq_true, if_false] at ih ⊢
      exact ih

/-- The shape of the standard entries: one amount from one account to another. -/
def transferEntry (description debitAccount creditAccount : String) (amount : Money)
    (references : JournalReferences) : Except ApiError JournalEntry :=
  buildJournalEntry
    { currency := amount.currency
      description
      postings := movePostings debitAccount creditAccount amount amount.currency
      references }

open LedgerAccountCode in
def clearedDepositEntry : Money → JournalReferences → Except ApiError JournalEntry :=
  transferEntry "Cleared reserve deposit allocated to PayChain obligation"
    assetTrusteeBankCash liabilityPaychainReserveObligation

open LedgerAccountCode in
/-- Earmark reserve for a pending mint. -/
def mintReservationEntry : Money → JournalReferences → Except ApiError JournalEntry :=
  transferEntry "Reserve earmarked for pending mint authorization"
    liabilityPaychainReserveObligation liabilityPendingMint

open LedgerAccountCode in
/-- Release an earmarked reservation. -/
def mintReleaseEntry : Money → JournalReferences → Except ApiError JournalEntry :=
  transferEntry "Pending mint reservation released to reserve obligation"
    liabilityPendingMint liabilityPaychainReserveObligation

open LedgerAccountCode in
/-- Redemption obligation recognised. -/
def redemptionObligationEntry : Money → JournalReferences → Except ApiError JournalEntry :=
  transferEntry "Reserve obligation moved to pending redemption"
    liabilityPaychainReserveObligation liabilityPendingRedemption

open LedgerAccountCode in
/-- Fiat payout confirmed for a redemption. -/
def payoutConfirmedEntry : Money → JournalReferences → Except ApiError JournalEntry :=
  transferEntry "Fiat payout confirmed; pending redemption discharged"
    liabilityPendingRedemption assetTrusteeBankCash

open LedgerAccountCode in
def paykhPaymentCollectionEntry : Money → JournalReferences → Except ApiError JournalEntry :=
  transferEntry "PayKH customer payment collected"
    assetTrusteeBankCash liabilityPaykhMerchantPayable

open LedgerAccountCode in
def paykhMerchantSettlementEntry : Money → JournalReferences → Except ApiError JournalEntry :=
  transferEntry "PayKH merchant settlement executed"
    liabilityPaykhMerchantPayable assetTrusteeBankCash

open LedgerAccountCode in
def paykhProgramFundingEntry : Money → JournalReferences → Except ApiError JournalEntry :=
  transferEntry "PayKH program fund safeguarded" assetTrusteeBankCash liabilityPaykhProgramFund

open LedgerAccountCode in
def paykhLoyaltyIssuanceEntry : Money → JournalReferences → Except ApiError JournalEntry :=
  transferEntry "PayKH backed loyalty stablecoin issued (program fund earmarked)"
    liabilityPaykhProgramFund liabilityPaykhLoyaltyStablecoin

open LedgerAccountCode in
def paykhLoyaltyRedemptionEntry : Money → JournalReferences → Except ApiError JournalEntry :=
  transferEntry "PayKH loyalty stablecoin redeemed to merchant payable"
    liabilityPaykhLoyaltyStablecoin liabilityPaykhMerchantPayable

/-- The entry moves an amount from one account of a program to another. -/
structure IsMove (currency debitAccount creditAccount : String) (amount : Int)
    (references : JournalReferences) (e : JournalEntry) : Prop where
  positive : 0 < amount
  upper_case : Runtime.toUpperCase currency = currency
  entry_currency : e.currency = currency
  entry_references : e.references = references
  totalDebit : e.totalDebit = ⟨amount, currency⟩
  lines : e.lines = Lib.move (references.programId, currency, debitAccount)
    (references.programId, currency, creditAccount) amount

/-- **What an entry between two accounts is.** -/
theorem buildJournalEntry_move {currency description debitAccount creditAccount : String}
    {amount : Money} {zeroCurrency : String} {references : JournalReferences} {e : JournalEntry}
    (h : buildJournalEntry ⟨currency, description,
      movePostings debitAccount creditAccount amount zeroCurrency, references⟩ = .ok e) :
    amount.currency = currency ∧
      IsMove currency debitAccount creditAccount amount.minor references e := by
  obtain ⟨hinput, -⟩ := buildJournalEntry_ok h
  have hvalid := e.valid
  have htotals := congrArg Prod.fst e.totals
  rw [hinput] at hvalid htotals
  have hdebit := hvalid.postings _ (List.mem_cons_self ..)
  have hpos : 0 < amount.minor := by
    have := hdebit.one_sided
    simp only [zero_minor] at this
    omega
  refine ⟨hdebit.debit_currency, hpos, hvalid.upper_case, by rw [hinput], by rw [hinput], ?_, ?_⟩
  · simpa [JournalEntryInput.totals, movePostings] using htotals
  · simp [JournalEntry.lines, hinput, movePostings, Posting.line, Lib.move]

/-- What an entry moves, on each account. -/
theorem IsMove.net {currency debitAccount creditAccount : String} {amount : Int}
    {references : JournalReferences} {e : JournalEntry}
    (h : IsMove currency debitAccount creditAccount amount references e) (programId c a : String) :
    ledgerNet [e] programId c a =
      if references.programId = programId ∧ currency = c then
        (if debitAccount = a then amount else 0) - (if creditAccount = a then amount else 0)
      else 0 := by
  rw [ledgerNet_singleton, h.lines, Lib.net_move]
  simp only [Prod.mk.injEq]
  by_cases hp : references.programId = programId <;> by_cases hc : currency = c <;>
    simp [hp, hc]

/-- What the entry adds to the net of the account it debits. -/
theorem IsMove.net_debit {currency debitAccount creditAccount : String} {amount : Int}
    {references : JournalReferences} {e : JournalEntry}
    (h : IsMove currency debitAccount creditAccount amount references e)
    (hne : debitAccount ≠ creditAccount) (programId c : String) :
    ledgerNet [e] programId c debitAccount =
      if references.programId = programId ∧ currency = c then amount else 0 := by
  rw [h.net, if_pos rfl, if_neg hne.symm, sub_zero]

/-- What the entry adds to the net of the account it credits. -/
theorem IsMove.net_credit {currency debitAccount creditAccount : String} {amount : Int}
    {references : JournalReferences} {e : JournalEntry}
    (h : IsMove currency debitAccount creditAccount amount references e)
    (hne : debitAccount ≠ creditAccount) (programId c : String) :
    ledgerNet [e] programId c creditAccount =
      if references.programId = programId ∧ currency = c then -amount else 0 := by
  rw [h.net, if_neg hne, if_pos rfl, zero_sub]

/-- The entry adds nothing to the net of another account. -/
theorem IsMove.net_of_ne {currency debitAccount creditAccount account : String} {amount : Int}
    {references : JournalReferences} {e : JournalEntry}
    (h : IsMove currency debitAccount creditAccount amount references e)
    (hdebit : debitAccount ≠ account) (hcredit : creditAccount ≠ account) (programId c : String) :
    ledgerNet [e] programId c account = 0 := by
  rw [h.net, if_neg hdebit, if_neg hcredit, sub_zero, ite_self]

theorem exists_buildJournalEntry_move {currency description debitAccount creditAccount : String}
    {amount : Money} {zeroCurrency : String} {references : JournalReferences}
    {t t' : LedgerAccountType} (hamount : 0 < amount.minor) (hcurrency : amount.currency = currency)
    (hupper : Runtime.toUpperCase currency = currency)
    (hzero : Runtime.toUpperCase zeroCurrency = currency)
    (hdebit : ledgerAccountTypeOf debitAccount = .ok t)
    (hcredit : ledgerAccountTypeOf creditAccount = .ok t') :
    ∃ e, buildJournalEntry ⟨currency, description,
      movePostings debitAccount creditAccount amount zeroCurrency, references⟩ = .ok e := by
  refine exists_buildJournalEntry ⟨by simp [movePostings], hupper, ?_, by simp [movePostings]⟩
  simp only [movePostings, List.forall_mem_cons, List.not_mem_nil, false_imp_iff, implies_true,
    and_true]
  exact ⟨⟨hcurrency, hzero, .inl ⟨hamount, rfl⟩, t, hdebit⟩,
    ⟨hzero, hcurrency, .inr ⟨rfl, hamount⟩, t', hcredit⟩⟩

/-- The standard entries can be built for every positive amount of money. -/
theorem exists_transferEntry {description debitAccount creditAccount : String} {m : Int}
    {c : String} {references : JournalReferences} {t t' : LedgerAccountType} (hm : 0 < m)
    (hdebit : ledgerAccountTypeOf debitAccount = .ok t)
    (hcredit : ledgerAccountTypeOf creditAccount = .ok t') :
    ∃ e, transferEntry description debitAccount creditAccount (money m c) references = .ok e :=
  exists_buildJournalEntry_move hm rfl (Runtime.toUpperCase_toUpperCase c)
    (Runtime.toUpperCase_toUpperCase c) hdebit hcredit

/-! ## Sources -/

/-- The source of an entry is of a kind: it starts with the kind's text. -/
def JournalEntry.OfKind (e : JournalEntry) (kind : String) : Prop :=
  kind.toList <+: e.references.source.toList

instance (e : JournalEntry) (kind : String) : Decidable (e.OfKind kind) :=
  inferInstanceAs (Decidable (_ <+: _))

theorem JournalEntry.ofKind_of_source {e : JournalEntry} {kind id : String}
    (h : e.references.source = kind ++ id) : e.OfKind kind := by
  unfold OfKind
  rw [h, String.toList_append]
  exact List.prefix_append ..

/-- Sources of two kinds, neither a beginning of the other, are different. -/
theorem JournalEntry.not_ofKind_of_source {e : JournalEntry} {kind kind' id : String}
    (h : e.references.source = kind' ++ id) (hne : ¬kind.toList <+: kind'.toList)
    (hne' : ¬kind'.toList <+: kind.toList) : ¬e.OfKind kind := by
  intro hkind
  unfold OfKind at hkind
  rw [h, String.toList_append] at hkind
  rcases List.prefix_or_prefix_of_prefix hkind (List.prefix_append ..) with hle | hle
  · exact hne hle
  · exact hne' hle

/-- The entries of a kind. -/
def entriesOfKind (ledger : List JournalEntry) (kind : String) : List JournalEntry :=
  ledger.filter fun e => e.OfKind kind

theorem entriesOfKind_append (ledger ledger' : List JournalEntry) (kind : String) :
    entriesOfKind (ledger ++ ledger') kind =
      entriesOfKind ledger kind ++ entriesOfKind ledger' kind :=
  List.filter_append ..

theorem entriesOfKind_singleton (e : JournalEntry) (kind : String) :
    entriesOfKind [e] kind = if e.OfKind kind then [e] else [] := by
  by_cases h : e.OfKind kind
  · simp [entriesOfKind, h]
  · simp [entriesOfKind, h]

/-- The entries with a source. -/
def entriesFrom (ledger : List JournalEntry) (source : String) : List JournalEntry :=
  ledger.filter fun e => e.references.source = source

theorem entriesFrom_append (ledger ledger' : List JournalEntry) (source : String) :
    entriesFrom (ledger ++ ledger') source =
      entriesFrom ledger source ++ entriesFrom ledger' source :=
  List.filter_append ..

theorem entriesFrom_singleton (e : JournalEntry) (source : String) :
    entriesFrom [e] source = if e.references.source = source then [e] else [] := by
  by_cases h : e.references.source = source
  · simp [entriesFrom, h]
  · simp [entriesFrom, h]

/-- An entry of a kind is selected by the source of its own subject only. -/
theorem entriesFrom_of_source {e : JournalEntry} {kind id : String}
    (h : e.references.source = kind ++ id) (id' : String) :
    entriesFrom [e] (kind ++ id') = if id = id' then [e] else [] := by
  rw [entriesFrom_singleton, h]
  by_cases hid : id = id'
  · rw [if_pos hid, if_pos (by rw [hid])]
  · rw [if_neg hid, if_neg]
    intro hsource
    apply hid
    have hlist := congrArg String.toList hsource
    rw [String.toList_append, String.toList_append] at hlist
    exact String.toList_inj.mp (List.append_cancel_left hlist)

/-- An entry of another kind is not selected. -/
theorem entriesFrom_of_other {e : JournalEntry} {kind kind' id : String}
    (h : e.references.source = kind' ++ id) (hne : ¬kind.toList <+: kind'.toList)
    (hne' : ¬kind'.toList <+: kind.toList) (id' : String) : entriesFrom [e] (kind ++ id') = [] := by
  rw [entriesFrom_singleton, if_neg]
  intro hsource
  exact JournalEntry.not_ofKind_of_source h hne hne' (JournalEntry.ofKind_of_source hsource)

/-- Without entries of a kind, none has a source of it. -/
theorem entriesFrom_of_not_ofKind {ledger : List JournalEntry} {kind : String}
    (h : ∀ e ∈ ledger, ¬e.OfKind kind) (id : String) : entriesFrom ledger (kind ++ id) = [] := by
  refine List.filter_eq_nil_iff.mpr fun e he => ?_
  simp only [decide_eq_true_eq]
  intro hsource
  exact h e he (JournalEntry.ofKind_of_source hsource)

end TrusteeBank
