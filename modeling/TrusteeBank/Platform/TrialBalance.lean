import Mathlib.Data.List.Dedup
import TrusteeBank.Decimals
import TrusteeBank.Lib.Run
import TrusteeBank.Reserve.AccountingEquation
import TrusteeBank.Reserve.Registration
import TrusteeBank.Services.Deposits
import TrusteeBank.Services.MintEffects
import TrusteeBank.Services.Redemption

/-!
# The trial balance

Two read models sum the postings of a program. `accountBalance` takes those of one account and one
currency; `trialBalance` groups all of them by account alone, so it adds up minor units of
different currencies.

**State** (`InOneCurrency`). What the books of a program are made from (its entries,
authorizations and redemptions) is in one currency.

* `run_trialBalance`: what the trial balance reports, in terms of the nets of the accounts;
* `trial_balance_agrees_iff`: in every state of a run the trial balance agrees with the account
  balances exactly while no deposit in another currency is booked;
* `mixed_currencies_disagree`: a deposit of dollars and one of euros are reported as one sum.
-/

set_option autoImplicit false

namespace TrusteeBank

open Lib (Call)
open LedgerAccountCode
open ReserveLedgerService (accountBalance)

section

variable [Runtime]

/-! ## The report -/

/-- A group of `groupBy` and its sums. -/
structure PostingGroup where
  account : String
  debitMinor : Int
  creditMinor : Int
deriving DecidableEq, Repr

structure TrialBalanceRow where
  account : String
  type : LedgerAccountType
  debitMinor : String
  creditMinor : String
  balanceMinor : String
deriving DecidableEq, Repr

structure TrialBalanceTotals where
  debitMinor : String
  creditMinor : String
  balanced : Bool
deriving DecidableEq, Repr

structure TrialBalance where
  programId : String
  accounts : List TrialBalanceRow
  totals : TrialBalanceTotals
deriving DecidableEq, Repr

/-- The postings of a program, in all its currencies. -/
def programPostings (ledger : List JournalEntry) (programId : String) : List Posting :=
  (ledger.filter fun e => e.references.programId = programId).flatMap fun e => e.postings

/-- `groupBy({ by: ['account'], where: { entry: { programId } }, _sum })`. -/
def postingGroups (ledger : List JournalEntry) (programId : String) : List PostingGroup :=
  let rows := programPostings ledger programId
  (rows.map Posting.account).dedup.map fun account =>
    let group := rows.filter fun p => p.account = account
    { account
      debitMinor := (group.map fun p => p.debit.minor).sum
      creditMinor := (group.map fun p => p.credit.minor).sum }

namespace OperationsService

/-- One row of the report. -/
def trialRow (r : PostingGroup) : Except ApiError TrialBalanceRow := do
  let debit := r.debitMinor
  let credit := r.creditMinor
  let type ← ledgerAccountTypeOf r.account
  let balance := if type.debitPositive then debit - credit else credit - debit
  return { account := r.account, type, debitMinor := toString debit,
           creditMinor := toString credit, balanceMinor := toString balance }

/-- The report of the groups. -/
def trialReport (programId : String) (rows : List PostingGroup) : Except ApiError TrialBalance := do
  let accounts ← rows.mapM trialRow
  let totalDebit := (rows.map PostingGroup.debitMinor).sum
  let totalCredit := (rows.map PostingGroup.creditMinor).sum
  return { programId, accounts,
           totals := { debitMinor := toString totalDebit, creditMinor := toString totalCredit,
                       balanced := totalDebit = totalCredit } }

/-- Trial balance: signed balance per ledger account for a program. -/
def trialBalance (programId : String) : Service TrialBalance := do
  let rows ← Call.read ⟨.ledgerPosting, .groupBy, programId⟩
    fun w => postingGroups w.ledger programId
  trialReport programId rows

end OperationsService

open OperationsService

/-! ## Nets over all currencies -/

/-- Debits minus credits on an account of a program, in whatever currency. -/
def programNet (ledger : List JournalEntry) (programId account : String) : Int :=
  (((programPostings ledger programId).filter fun p => p.account = account).map
    fun p => p.debit.minor - p.credit.minor).sum

theorem programNet_append (ledger ledger' : List JournalEntry) (programId account : String) :
    programNet (ledger ++ ledger') programId account =
      programNet ledger programId account + programNet ledger' programId account := by
  simp [programNet, programPostings]

/-- In one currency the net is the one `accountBalance` reads. -/
theorem programNet_eq {ledger : List JournalEntry} {programId currency : String}
    (h : ∀ e ∈ ledger, e.references.programId = programId → e.currency = currency)
    (account : String) :
    programNet ledger programId account = ledgerNet ledger programId currency account := by
  have hscope : (ledger.filter fun e => e.references.programId = programId) =
      ledger.filter fun e => e.references.programId = programId ∧ e.currency = currency := by
    refine List.filter_congr fun e he => ?_
    by_cases hprogram : e.references.programId = programId
    · simp [hprogram, h e he hprogram]
    · simp [hprogram]
  rw [← sum_postingsOf]
  unfold programNet programPostings postingsOf
  rw [hscope, List.filter_flatMap]

/-- What a move adds to the net. -/
theorem IsMove.programNet {currency debitAccount creditAccount : String} {amount : Int}
    {references : JournalReferences} {e : JournalEntry}
    (h : IsMove currency debitAccount creditAccount amount references e) (programId a : String) :
    programNet [e] programId a = if references.programId = programId then
      (if debitAccount = a then amount else 0) - (if creditAccount = a then amount else 0)
      else 0 := by
  have hcurrency : ∀ e' ∈ [e], e'.references.programId = programId → e'.currency = currency := by
    intro e' he' _
    rw [List.mem_singleton.mp he']
    exact h.entry_currency
  rw [programNet_eq hcurrency, h.net]
  simp

/-! ## What is reported -/

omit [Runtime] in
/-- A row of the report is read off its group. -/
theorem trialRow_ok {r : PostingGroup} {t : LedgerAccountType}
    (ht : ledgerAccountTypeOf r.account = .ok t) :
    ∃ row, trialRow r = .ok row ∧ row.account = r.account ∧ row.type = t ∧
      row.balanceMinor = toString ((if t.debitPositive then 1 else -1) *
        (r.debitMinor - r.creditMinor)) := by
  unfold trialRow
  rw [ht]
  refine ⟨_, rfl, rfl, rfl, ?_⟩
  cases hside : t.debitPositive with
  | true => simp
  | false => simp

/-- A group is of an account with postings, and its sums differ by the net of the account. -/
theorem mem_postingGroups {ledger : List JournalEntry} {programId : String} {r : PostingGroup}
    (h : r ∈ postingGroups ledger programId) :
    r.account ∈ (programPostings ledger programId).map Posting.account ∧
      r.debitMinor - r.creditMinor = programNet ledger programId r.account := by
  obtain ⟨account, haccount, rfl⟩ := List.mem_map.mp h
  refine ⟨List.mem_dedup.mp haccount, ?_⟩
  unfold programNet
  induction (programPostings ledger programId).filter fun p => p.account = account with
  | nil => rfl
  | cons p group ih =>
    simp only [List.map_cons, List.sum_cons] at ih ⊢
    omega

/-- Accounts with postings are of a known type. -/
theorem type_of_programPosting {ledger : List JournalEntry} {programId account : String}
    (h : account ∈ (programPostings ledger programId).map Posting.account) :
    ∃ t, ledgerAccountTypeOf account = .ok t := by
  obtain ⟨p, hp, rfl⟩ := List.mem_map.mp h
  obtain ⟨e, -, hpe⟩ := List.mem_flatMap.mp hp
  exact (e.valid.postings p hpe).account

/-- The row of a known account reports the net of the account on its normal side. -/
structure ReportsNet (w : World) (programId : String) (row : TrialBalanceRow) : Prop where
  type : ledgerAccountTypeOf row.account = .ok row.type
  balanceMinor : row.balanceMinor = toString ((if row.type.debitPositive then 1 else -1) *
    programNet w.ledger programId row.account)

theorem mapM_trialRow {w : World} {programId : String} {groups : List PostingGroup}
    (hgroups : ∀ r ∈ groups, r ∈ postingGroups w.ledger programId) :
    ∃ rows, groups.mapM trialRow = .ok rows ∧
      rows.map TrialBalanceRow.account = groups.map PostingGroup.account ∧
      ∀ row ∈ rows, ReportsNet w programId row := by
  induction groups with
  | nil => exact ⟨[], rfl, rfl, fun row hrow => absurd hrow List.not_mem_nil⟩
  | cons r groups ih =>
    obtain ⟨rows, hrows, haccounts, hnet⟩ :=
      ih fun r' hr' => hgroups r' (List.mem_cons_of_mem r hr')
    obtain ⟨haccount, hsums⟩ := mem_postingGroups (hgroups r List.mem_cons_self)
    obtain ⟨t, ht⟩ := type_of_programPosting haccount
    obtain ⟨row, hrow, hsame, htype, hbalance⟩ := trialRow_ok ht
    refine ⟨row :: rows, ?_, ?_, List.forall_mem_cons.mpr ⟨⟨?_, ?_⟩, hnet⟩⟩
    · rw [List.mapM_cons, hrow, hrows]
      rfl
    · rw [List.map_cons, haccounts, List.map_cons, hsame]
    · rw [hsame, htype]
      exact ht
    · rw [hbalance, hsums, hsame, htype]

/-- **What the trial balance reports**: the nets of the accounts with postings. -/
theorem run_trialBalance (programId : String) (w : World) :
    ∃ report, (trialBalance programId).run w = (.ok report, w) ∧
      (∀ row ∈ report.accounts, ReportsNet w programId row) ∧
      ∀ account, account ∈ report.accounts.map TrialBalanceRow.account ↔
        account ∈ (programPostings w.ledger programId).map Posting.account := by
  have hgroups : ∀ r ∈ postingGroups w.ledger programId, r ∈ postingGroups w.ledger programId := by
    intro r hr
    exact hr
  obtain ⟨rows, hrows, haccounts, hnet⟩ := mapM_trialRow hgroups
  have hreport : ∃ report, trialReport programId (postingGroups w.ledger programId) = .ok report ∧
      report.accounts = rows := by
    unfold trialReport
    rw [hrows]
    exact ⟨_, rfl, rfl⟩
  obtain ⟨report, hreport, rfl⟩ := hreport
  refine ⟨report, ?_, hnet, fun account => ?_⟩
  · unfold trialBalance
    rw [Call.run_read_bind, hreport]
    rfl
  · rw [haccounts]
    simp [postingGroups]

/-- The balances the trial balance reports are the account balances in a currency, and the accounts
it leaves out have none. -/
def TrialBalanceAgrees (w : World) (programId currency : String) : Prop :=
  ∃ report, ((trialBalance programId).run w).1 = .ok report ∧
    ∀ account balance, ((accountBalance programId account currency).run w).1 = .ok balance →
      (∀ row ∈ report.accounts, row.account = account →
        row.balanceMinor = toString balance.minor) ∧
      (account ∉ report.accounts.map TrialBalanceRow.account → balance.minor = 0)

/-- An account without postings has no net. -/
theorem programNet_of_not_mem {ledger : List JournalEntry} {programId account : String}
    (h : account ∉ (programPostings ledger programId).map Posting.account) :
    programNet ledger programId account = 0 := by
  have hnone : (programPostings ledger programId).filter (fun p => p.account = account) = [] := by
    refine List.filter_eq_nil_iff.mpr fun p hp hacc => h ?_
    rw [decide_eq_true_eq] at hacc
    exact hacc ▸ List.mem_map_of_mem hp
  unfold programNet
  rw [hnone]
  rfl

/-- **The reports agree** exactly when the nets in other currencies cancel on every account. -/
theorem trialBalanceAgrees_iff {w : World} {programId currency : String} :
    TrialBalanceAgrees w programId currency ↔ ∀ account t, ledgerAccountTypeOf account = .ok t →
      programNet w.ledger programId account = ledgerNet w.ledger programId currency account := by
  obtain ⟨report, hrun, hnet, hmem⟩ := run_trialBalance programId w
  have hsign (t : LedgerAccountType) : (if t.debitPositive then 1 else -1 : Int) ≠ 0 := by
    split_ifs <;> decide
  constructor
  · rintro ⟨report', hrun', hagrees⟩ account t ht
    rw [hrun] at hrun'
    cases hrun'
    obtain ⟨hreported, hmissing⟩ := hagrees account _
      (congrArg Prod.fst (run_accountBalance ht programId currency w))
    rw [money_minor] at hreported hmissing
    by_cases haccount : account ∈ report.accounts.map TrialBalanceRow.account
    · obtain ⟨row, hrow, rfl⟩ := List.mem_map.mp haccount
      obtain ⟨htype, hbalance⟩ := hnet row hrow
      cases ht.symm.trans htype
      have heq := toString_injective (hbalance.symm.trans (hreported row hrow rfl))
      exact Int.eq_of_mul_eq_mul_left (hsign _) heq
    · have hzero := hmissing haccount
      rw [programNet_of_not_mem fun h => haccount ((hmem account).mpr h)]
      exact ((Int.mul_eq_zero.mp hzero).resolve_left (hsign t)).symm
  · intro h
    refine ⟨report, by rw [hrun], fun account balance hbalance => ?_⟩
    cases ht : ledgerAccountTypeOf account with
    | error e =>
      unfold accountBalance at hbalance
      rw [Call.run_read_bind, Call.run_lift_bind, ht] at hbalance
      cases hbalance
    | ok t =>
      rw [run_accountBalance ht] at hbalance
      cases hbalance
      rw [money_minor, ← h account t ht]
      constructor
      · rintro row hrow rfl
        obtain ⟨htype, hreported⟩ := hnet row hrow
        cases ht.symm.trans htype
        exact hreported
      · intro hmissing
        rw [programNet_of_not_mem fun hposted => hmissing ((hmem account).mpr hposted), mul_zero]

/-! ## Runs -/

inductive BooksOp
  | deposit (op : DepositOp)
  | mint (op : MintOp)
  | redemption (op : RedemptionOp)

/-- Serve one operation alone, whether it succeeds or throws. -/
def BooksOp.step (w : World) : BooksOp → World
  | .deposit op => op.step w
  | .mint op => op.step w
  | .redemption op => op.step w

/-- What the books of a program are made from is in one currency. -/
structure InOneCurrency (w : World) (programId currency : String) : Prop where
  program : ∃ program, w.programs.find? programId = some program ∧
    program.referenceCurrency = currency
  ledger : ∀ e ∈ w.ledger, e.references.programId = programId → e.currency = currency
  authorizations : ∀ a ∈ w.mintAuthorizations.rows, a.programId = programId →
    a.currency = currency
  redemptions : ∀ r ∈ w.redemptions.rows, r.programId = programId → r.currency = currency

/-- A program without entries, authorizations and redemptions. -/
structure Unbooked (w : World) (programId : String) : Prop where
  ledger : ∀ e ∈ w.ledger, e.references.programId ≠ programId
  authorizations : ∀ a ∈ w.mintAuthorizations.rows, a.programId ≠ programId
  redemptions : ∀ r ∈ w.redemptions.rows, r.programId ≠ programId

theorem Unbooked.inOneCurrency {w : World} {programId : String} (h : Unbooked w programId)
    {program : Program} (hprogram : w.programs.find? programId = some program) :
    InOneCurrency w programId program.referenceCurrency where
  program := ⟨program, hprogram, rfl⟩
  ledger e he hid := absurd hid (h.ledger e he)
  authorizations a ha hid := absurd hid (h.authorizations a ha)
  redemptions r hr hid := absurd hid (h.redemptions r hr)

/-- A deposit of the program that a registration or a clearance books is in the currency. -/
def BooksOp.InCurrency (programId currency : String) (w : World) : BooksOp → Prop
  | .deposit (.register input id) => ∀ row, input.Storable w id row → input.Books row →
      row.programId = programId → row.currency = currency
  | .deposit (.clear _ depositId actor) => ∀ deposit, Clears w depositId actor deposit →
      deposit.programId = programId → deposit.currency = currency
  | _ => True

section

variable {w : World} {programId currency : String}

/-- In one currency the reports agree. -/
theorem InOneCurrency.agrees (h : InOneCurrency w programId currency) :
    TrialBalanceAgrees w programId currency :=
  trialBalanceAgrees_iff.mpr fun account _ _ => programNet_eq h.ledger account

theorem InOneCurrency.logged (h : InOneCurrency w programId currency) (rows : List AuditLog)
    (events : List OutboxEvent) : InOneCurrency (w.logged rows events) programId currency where
  program := h.program
  ledger := h.ledger
  authorizations := h.authorizations
  redemptions := h.redemptions

/-- An entry of the program in its currency. -/
theorem InOneCurrency.posted (h : InOneCurrency w programId currency) {e : JournalEntry}
    (he : e.references.programId = programId → e.currency = currency) :
    InOneCurrency (w.posted e) programId currency where
  program := h.program
  ledger e' he' := by
    rcases List.mem_append.mp he' with he' | he'
    · exact h.ledger e' he'
    · rw [List.mem_singleton.mp he']
      exact he
  authorizations := h.authorizations
  redemptions := h.redemptions

theorem InOneCurrency.withDeposits (h : InOneCurrency w programId currency)
    (t : Lib.Table Deposit.id) : InOneCurrency { w with deposits := t } programId currency where
  program := h.program
  ledger := h.ledger
  authorizations := h.authorizations
  redemptions := h.redemptions

/-- **A deposit in the currency keeps the books in the currency.** -/
theorem InOneCurrency.depositStep (h : InOneCurrency w programId currency) {op : DepositOp}
    (hop : BooksOp.InCurrency programId currency w (.deposit op)) :
    InOneCurrency (op.step w) programId currency := by
  cases op with
  | register input id =>
    have hend := run_register w input id
    simp only [DepositOp.step, DepositOp.call, Call.run_void_snd]
    generalize (DepositsService.register input id).run w = out at hend ⊢
    cases hend with
    | refused => exact h
    | stranded => exact h.withDeposits _
    | booked hrow ht hbooks he hprogram =>
      refine .logged (.posted (h.withDeposits _) ?_) _ _
      intro hid
      rw [he.entry_currency]
      exact hop _ hrow hbooks (hprogram.symm.trans hid)
  | «match» depositId fundingInstructionId actor =>
    obtain ⟨w₁, rows, events, heffect, hw⟩ :=
      (DepositOp.match depositId fundingInstructionId actor).effect w
    rw [hw]
    refine .logged ?_ rows events
    cases heffect with
    | unchanged => exact h
    | matched => exact h.withDeposits _
  | clear clock depositId actor =>
    simp only [DepositOp.step, DepositOp.call, Call.run_void_snd]
    rcases run_clear_cases w clock depositId actor with ⟨hsame, -⟩ |
      ⟨deposit, e, rows, events, hclears, he, hprogram, -, hrun⟩
    · rw [hsame]
      exact h
    · rw [hrun]
      refine .logged (.withDeposits (h.posted ?_) _) rows events
      intro hid
      rw [he.entry_currency]
      exact hop deposit hclears (hprogram.symm.trans hid)

/-- The mint workflow books in the currency of the program. -/
theorem InOneCurrency.mintEffect (h : InOneCurrency w programId currency)
    (hupper : Runtime.toUpperCase currency = currency) {op : MintOp} {w₁ : World}
    (heffect : MintEffect w op w₁) : InOneCurrency w₁ programId currency := by
  have hframe := heffect.frame
  obtain ⟨program, hprogram, hcurrency⟩ := h.program
  have hauths := heffect.forall_auth (P := fun a => a.programId = programId →
    a.currency = currency) (fun _ _ ha => ha) (fun _ _ _ _ ha => ha)
    (fun input id nonce program' minor hprogram' _ hid => by
      rw [show input.programId = programId from hid] at hprogram'
      cases hprogram.symm.trans hprogram'
      exact hcurrency) h.authorizations
  have hentry {auth : MintAuthorization} {authId p debit credit : String} {e : JournalEntry}
      (hauth : w.mintAuthorizations.find? authId = some auth)
      (he : IsMintEntry auth p debit credit e) :
      ∀ e' ∈ (w.posted e).ledger, e'.references.programId = programId → e'.currency = currency := by
    refine (h.posted fun hid => ?_).ledger
    rw [he.move.entry_currency, h.authorizations auth (Lib.Table.mem_of_find? hauth)
      (he.programId.symm.trans hid), hupper]
  refine ⟨?_, ?_, hauths, ?_⟩
  · rw [hframe.1]
    exact ⟨program, hprogram, hcurrency⟩
  · cases heffect with
    | unchanged => exact h.ledger
    | requested => exact h.ledger
    | reviewed => exact h.ledger
    | blocked => exact h.ledger
    | rejected => exact h.ledger
    | rejectedUndecided => exact h.ledger
    | issuedUndecided hissuable he => exact hentry hissuable.found he
    | issued hissuable he => exact hentry hissuable.found he
    | revoked hauth _ he => exact hentry hauth he
    | expired hauth _ he => exact hentry hauth he
    | expiredAtConfirm hauth _ _ he => exact hentry hauth he
    | confirmed hauth _ _ _ he => exact hentry hauth he
    | unstored hauth _ _ _ he => exact hentry hauth he
  · have hkept : w₁.redemptions = w.redemptions := by
      cases heffect <;> rfl
    rw [hkept]
    exact h.redemptions

theorem InOneCurrency.updateRedemption (h : InOneCurrency w programId currency)
    {redemptionId : String} {f : Redemption → Redemption} (hf : ∀ r, (f r).id = r.id)
    (hkept : ∀ r, (f r).programId = r.programId ∧ (f r).currency = r.currency) :
    InOneCurrency (w.updateRedemption redemptionId f hf) programId currency where
  program := h.program
  ledger := h.ledger
  authorizations := h.authorizations
  redemptions r hr := by
    have hr : r ∈ (w.redemptions.modify redemptionId f hf).rows := hr
    rcases Lib.Table.mem_modify.mp hr with ⟨hr, -⟩ | ⟨r', hr', rfl⟩
    · exact h.redemptions r hr
    · intro hid
      rw [(hkept r').2]
      exact h.redemptions r' (Lib.Table.mem_of_find? hr') ((hkept r').1.symm.trans hid)

/-- So do redemptions. -/
theorem InOneCurrency.redemptionEffect (h : InOneCurrency w programId currency)
    (hupper : Runtime.toUpperCase currency = currency) {op : RedemptionOp} {w₁ : World}
    (heffect : RedemptionEffect w op w₁) : InOneCurrency w₁ programId currency := by
  have hposted {redemptionId debit credit : String} {r : Redemption} {e : JournalEntry}
      (hr : w.redemptions.find? redemptionId = some r)
      (he : IsMove (Runtime.toUpperCase r.currency) debit credit r.amountMinor e.references e)
      (hprogram : e.references.programId = r.programId) :
      InOneCurrency (w.posted e) programId currency := by
    refine h.posted fun hid => ?_
    rw [he.entry_currency, h.redemptions r (Lib.Table.mem_of_find? hr) (hprogram.symm.trans hid),
      hupper]
  cases heffect with
  | requested hprogram' _ ht =>
    obtain ⟨program, hprogram, hcurrency⟩ := h.program
    refine ⟨⟨program, hprogram, hcurrency⟩, h.ledger, h.authorizations,
      Lib.Table.forall_insert? h.redemptions ht fun hid => ?_⟩
    obtain rfl : _ = programId := hid
    cases hprogram.symm.trans hprogram'
    exact hcurrency
  | approved hr _ he hprogram =>
    exact (hposted hr he hprogram).updateRedemption _ fun _ => ⟨rfl, rfl⟩
  | burnConfirmed => exact h.updateRedemption _ fun _ => ⟨rfl, rfl⟩
  | payoutSubmitted => exact h.updateRedemption _ fun _ => ⟨rfl, rfl⟩
  | completed hr _ he hprogram =>
    exact (hposted hr he hprogram).updateRedemption _ fun _ => ⟨rfl, rfl⟩

/-- **One operation keeps the books in the currency**, unless it books a deposit in another. -/
theorem InOneCurrency.step (h : InOneCurrency w programId currency)
    (hupper : Runtime.toUpperCase currency = currency) {op : BooksOp}
    (hop : op.InCurrency programId currency w) :
    InOneCurrency (op.step w) programId currency := by
  cases op with
  | deposit op => exact h.depositStep hop
  | mint op =>
    exact after_effect (op.effect w) (fun _ heffect => h.mintEffect hupper heffect)
      InOneCurrency.logged
  | redemption op =>
    exact (op.served w).after h (fun _ heffect => h.redemptionEffect hupper heffect)
      InOneCurrency.logged

/-- An entry in another currency sets the reports apart on the account it debits. -/
theorem InOneCurrency.disagrees (h : InOneCurrency w programId currency) {c debit credit : String}
    {amount : Int} {e : JournalEntry} (hother : credit ≠ debit)
    (he : IsMove c debit credit amount e.references e)
    (hprogram : e.references.programId = programId) (hne : c ≠ currency) :
    programNet (w.ledger ++ [e]) programId debit ≠
      ledgerNet (w.ledger ++ [e]) programId currency debit := by
  intro hnet
  rw [programNet_append, ledgerNet_append, programNet_eq h.ledger, he.programNet, he.net,
    if_pos rfl, if_neg hother, if_pos hprogram, if_neg fun hscope => hne hscope.2] at hnet
  have hpositive := he.positive
  omega

/-- **A deposit booked in another currency** sets the reports apart: the trial balance counts it
all the same. -/
theorem InOneCurrency.foreign (h : InOneCurrency w programId currency) {op : BooksOp}
    (hagrees : TrialBalanceAgrees (op.step w) programId currency) :
    op.InCurrency programId currency w := by
  rcases op with (⟨input, id⟩ | _ | ⟨clock, depositId, actor⟩) | _ | _
  · intro row hrow hbooks hid
    by_contra hne
    have hend := run_register w input id
    simp only [BooksOp.step, DepositOp.step, DepositOp.call, Call.run_void_snd] at hagrees
    generalize (DepositsService.register input id).run w = out at hend hagrees
    cases hend with
    | refused hrefused => exact hrefused row hrow
    | stranded hrow' _ hunbooked => exact hunbooked (hrow.unique hrow' ▸ hbooks)
    | @booked row' t e rows events hrow' ht _ he hprogram =>
      obtain rfl := hrow.unique hrow'
      exact h.disagrees (by decide) he (hprogram.trans hid) hne
        (trialBalanceAgrees_iff.mp hagrees assetTrusteeBankCash .asset type_assetTrusteeBankCash)
  · trivial
  · intro deposit hclears hid
    by_contra hne
    simp only [BooksOp.step, DepositOp.step, DepositOp.call, Call.run_void_snd] at hagrees
    rcases run_clear_cases w clock depositId actor with ⟨-, hnone⟩ |
      ⟨deposit', e, rows, events, hclears', he, hprogram, -, hrun⟩
    · exact hnone deposit hclears
    · obtain rfl : deposit' = deposit :=
        Option.some.inj (hclears'.found.symm.trans hclears.found)
      rw [hrun] at hagrees
      exact h.disagrees (by decide) he (hprogram.trans hid) hne
        (trialBalanceAgrees_iff.mp hagrees liabilityUnmatchedDeposit .liability
          type_liabilityUnmatchedDeposit)
  all_goals trivial

/-- **The trial balance agrees with the account balances** in every state of a run, exactly while
no deposit of the program is booked in another currency than its own. -/
theorem trial_balance_agrees_iff {program : Program}
    (hprogram : w.programs.find? programId = some program)
    (hupper : Runtime.toUpperCase program.referenceCurrency = program.referenceCurrency)
    (hw : Unbooked w programId) (ops : List BooksOp) :
    (∀ w' ∈ Lib.history BooksOp.step w ops,
      TrialBalanceAgrees w' programId program.referenceCurrency) ↔
      Lib.Meets BooksOp.step (BooksOp.InCurrency programId program.referenceCurrency) w ops := by
  have hstep : ∀ w (op : BooksOp), InOneCurrency w programId program.referenceCurrency →
      op.InCurrency programId program.referenceCurrency w →
        InOneCurrency (op.step w) programId program.referenceCurrency := by
    intro w op h hop
    exact h.step hupper hop
  refine Lib.history_iff hstep ?_ ?_ (hw.inOneCurrency hprogram)
  · intro w h
    exact h.agrees
  · intro w op h hagrees
    exact h.foreign hagrees

end

end

/-! ## Dollars and euros -/

attribute [local instance] Runtime.ascii

namespace Sample

theorem emptyReserve_unbooked : Unbooked emptyReserve "P1" where
  ledger _ he := absurd he List.not_mem_nil
  authorizations _ ha := absurd ha List.not_mem_nil
  redemptions _ hr := absurd hr List.not_mem_nil

/-- A deposit of 100 in a currency is registered. -/
def registered (currency : String) : BooksOp := .deposit (.register (depositIn currency) currency)

/-- Deposits of 100 dollars and of 100 euros, under two bank transactions. -/
def mixedDeposits : List BooksOp :=
  [registered "USD",
   .deposit (.register { depositIn "EUR" with bankTransactionId := "B2" } "EUR")]

end Sample

/-- After a deposit of 100 dollars both reports have 100 of cash. -/
theorem trial_balance_agrees_dollars :
    (∀ w' ∈ Lib.history BooksOp.step Sample.emptyReserve [Sample.registered "USD"],
      TrialBalanceAgrees w' "P1" Sample.program.referenceCurrency) ∧
    programNet (BooksOp.step Sample.emptyReserve (Sample.registered "USD")).ledger "P1"
      assetTrusteeBankCash = 100 := by
  have hprogram : Sample.emptyReserve.programs.find? "P1" = some Sample.program := by rfl
  refine ⟨(trial_balance_agrees_iff hprogram (by decide)
    Sample.emptyReserve_unbooked [Sample.registered "USD"]).mpr ⟨?_, trivial⟩, by decide +kernel⟩
  intro row hrow _ _
  obtain ⟨_, _, -, -, rfl⟩ := hrow.requested
  rfl

/-- The trial balance reports 200 of cash, the account has 100 dollars. -/
theorem mixed_currencies_disagree : ¬∀ [Runtime] (w : World) (programId : String)
    (program : Program), w.programs.find? programId = some program →
      Runtime.toUpperCase program.referenceCurrency = program.referenceCurrency →
      Unbooked w programId → ∀ ops : List BooksOp,
        ∀ w' ∈ Lib.history BooksOp.step w ops,
          TrialBalanceAgrees w' programId program.referenceCurrency := by
  intro h
  have hagrees := h Sample.emptyReserve "P1" Sample.program rfl (by decide)
    Sample.emptyReserve_unbooked Sample.mixedDeposits _ (Lib.last_mem_history _ _)
  have hcash := trialBalanceAgrees_iff.mp hagrees assetTrusteeBankCash .asset
    type_assetTrusteeBankCash
  have hreported : programNet (Sample.mixedDeposits.foldl BooksOp.step Sample.emptyReserve).ledger
      "P1" assetTrusteeBankCash = 200 := by
    decide +kernel
  have hbalance : ledgerNet (Sample.mixedDeposits.foldl BooksOp.step Sample.emptyReserve).ledger
      "P1" Sample.program.referenceCurrency assetTrusteeBankCash = 100 := by
    decide +kernel
  rw [hreported, hbalance] at hcash
  cases hcash

end TrusteeBank
