import TrusteeBank.Paykh.OrderBooks
import TrusteeBank.Platform.Operations
import TrusteeBank.Reserve.AccountingEquation

/-!
# Overdrafts

Three operations move value out: a confirmed payout takes cash, and a refund and a confirmed
settlement take cash and discharge a merchant payable. None of them reads the balance it takes
from. A payout is of the amount of its redemption, a refund of the amount of its order, and a
settlement of whatever amount it was created with.

**Theorem (`no_overdraft`).** In a run in which each of them finds at least its amount, no balance
of cash or of merchant payables is ever negative. A settlement of 100 for a merchant who was never
paid anything leaves both at -100 (`settlement_overdraws`).
-/

set_option autoImplicit false

namespace TrusteeBank

open LedgerAccountCode

section

variable [Runtime]

/-! ## Balances -/

omit [Runtime] in
theorem type_liabilityPaykhMerchantPayable :
    ledgerAccountTypeOf liabilityPaykhMerchantPayable = .ok .liability := rfl

/-- No cash and no payable of any scope is overdrawn. -/
structure Solvent (w : World) : Prop where
  cash : ∀ programId currency, 0 ≤ accountMinor w programId assetTrusteeBankCash currency
  payable : ∀ programId currency,
    0 ≤ accountMinor w programId liabilityPaykhMerchantPayable currency

theorem cash_eq (w : World) (programId currency : String) :
    accountMinor w programId assetTrusteeBankCash currency =
      ledgerNet w.ledger programId currency assetTrusteeBankCash := by
  rw [accountMinor_eq type_assetTrusteeBankCash]
  simp [LedgerAccountType.debitPositive]

theorem payable_eq (w : World) (programId currency : String) :
    accountMinor w programId liabilityPaykhMerchantPayable currency =
      -ledgerNet w.ledger programId currency liabilityPaykhMerchantPayable := by
  rw [accountMinor_eq type_liabilityPaykhMerchantPayable]
  simp [LedgerAccountType.debitPositive]

/-- A state with the same ledger is as solvent. -/
theorem Solvent.congr {w w' : World} (h : Solvent w) (hledger : w'.ledger = w.ledger) :
    Solvent w' where
  cash programId currency := by
    rw [cash_eq, hledger, ← cash_eq]
    exact h.cash programId currency
  payable programId currency := by
    rw [payable_eq, hledger, ← payable_eq]
    exact h.payable programId currency

/-- An empty ledger is solvent. -/
theorem Solvent.of_empty {w : World} (h : w.ledger = []) : Solvent w where
  cash _ _ := by rw [cash_eq, h, ledgerNet_nil]
  payable _ _ := by rw [payable_eq, h, ledgerNet_nil, neg_zero]

/-- The entry moves an amount between two accounts of a scope. -/
structure Moves (programId currency debitAccount creditAccount : String) (amount : Int)
    (e : JournalEntry) : Prop where
  positive : 0 < amount
  net : ∀ programId' c a, ledgerNet [e] programId' c a =
    if programId = programId' ∧ currency = c then
      (if debitAccount = a then amount else 0) - (if creditAccount = a then amount else 0)
    else 0

theorem IsMove.moves {currency debitAccount creditAccount : String} {amount : Int}
    {references : JournalReferences} {e : JournalEntry}
    (h : IsMove currency debitAccount creditAccount amount references e) {programId : String}
    (hprogram : references.programId = programId) :
    Moves programId currency debitAccount creditAccount amount e :=
  ⟨h.positive, hprogram ▸ h.net⟩

/-- A refund moves the amount of its order back. -/
theorem IsRefund.moves {o : PaykhPaymentOrder} {orderId : String} {e : JournalEntry}
    (h : IsRefund o orderId e) : Moves o.tenantId (Runtime.toUpperCase o.currency)
      liabilityPaykhMerchantPayable assetTrusteeBankCash o.amountMinor e := by
  obtain ⟨collection, hcollection, hnet⟩ := h.net
  refine ⟨hcollection.move.positive, ?_⟩
  intro programId' c a
  rw [hnet, hcollection.move.net, hcollection.program]
  by_cases hscope : o.tenantId = programId' ∧ Runtime.toUpperCase o.currency = c
  · rw [if_pos hscope, if_pos hscope]
    ring
  · rw [if_neg hscope, if_neg hscope, neg_zero]

/-- **A move keeps the books solvent** when what it takes is there. -/
theorem Solvent.moved {w w' : World} (h : Solvent w) {e : JournalEntry}
    (hledger : w'.ledger = w.ledger ++ [e]) {programId currency debitAccount creditAccount : String}
    {amount : Int} (he : Moves programId currency debitAccount creditAccount amount e)
    (hcash : creditAccount = assetTrusteeBankCash →
      amount ≤ accountMinor w programId assetTrusteeBankCash currency)
    (hpayable : debitAccount = liabilityPaykhMerchantPayable →
      amount ≤ accountMinor w programId liabilityPaykhMerchantPayable currency) : Solvent w' where
  cash programId' c := by
    have hbefore := h.cash programId' c
    have hpositive := he.positive
    rw [cash_eq] at hbefore hcash ⊢
    rw [hledger, ledgerNet_append, he.net]
    by_cases hscope : programId = programId' ∧ currency = c
    · obtain ⟨rfl, rfl⟩ := hscope
      by_cases hcredit : creditAccount = assetTrusteeBankCash
      · have hamount := hcash hcredit
        simp only [hcredit, and_self, if_true]
        split_ifs <;> omega
      · simp only [hcredit, and_self, if_true, if_false]
        split_ifs <;> omega
    · rw [if_neg hscope]
      omega
  payable programId' c := by
    have hbefore := h.payable programId' c
    have hpositive := he.positive
    rw [payable_eq] at hbefore hpayable ⊢
    rw [hledger, ledgerNet_append, he.net]
    by_cases hscope : programId = programId' ∧ currency = c
    · obtain ⟨rfl, rfl⟩ := hscope
      by_cases hdebit : debitAccount = liabilityPaykhMerchantPayable
      · have hamount := hpayable hdebit
        simp only [hdebit, and_self, if_true]
        split_ifs <;> omega
      · simp only [hdebit, and_self, if_true, if_false]
        split_ifs <;> omega
    · rw [if_neg hscope]
      omega

/-- A move between other accounts, or into the two, keeps the books solvent. -/
theorem Solvent.movedIn {w w' : World} (h : Solvent w) {e : JournalEntry}
    (hledger : w'.ledger = w.ledger ++ [e]) {programId currency debitAccount creditAccount : String}
    {amount : Int} (he : Moves programId currency debitAccount creditAccount amount e)
    (hcash : creditAccount ≠ assetTrusteeBankCash)
    (hpayable : debitAccount ≠ liabilityPaykhMerchantPayable) : Solvent w' :=
  h.moved hledger he (fun heq => absurd heq hcash) (fun heq => absurd heq hpayable)

/-! ## What takes value out -/

/-- The amount is there in cash, in a scope. -/
def CashCovers (w : World) (programId currency : String) (amount : Int) : Prop :=
  amount ≤ accountMinor w programId assetTrusteeBankCash (Runtime.toUpperCase currency)

/-- The amount is owed to the merchants of a tenant. -/
def PayableCovers (w : World) (tenantId currency : String) (amount : Int) : Prop :=
  amount ≤ accountMinor w tenantId liabilityPaykhMerchantPayable (Runtime.toUpperCase currency)

/-- What the operation would take out is there before it. -/
def OutflowCovered (w : World) : PlatformOp → Prop
  | .redemption (.confirmPayout _ redemptionId _) =>
    ∀ r ∈ w.redemptions.find? redemptionId, r.status = .payoutSubmitted →
      CashCovers w r.programId r.currency r.amountMinor
  | .order (.refund orderId _ _) =>
    ∀ o ∈ w.paykhPaymentOrders.find? orderId, o.status = .confirmed →
      CashCovers w o.tenantId o.currency o.amountMinor ∧
        PayableCovers w o.tenantId o.currency o.amountMinor
  | .settlement (.confirm _ settlementId _) =>
    ∀ s ∈ w.paykhSettlements.find? settlementId, s.status = .approved ∨ s.status = .submitted →
      CashCovers w s.tenantId s.currency s.amountMinor ∧
        PayableCovers w s.tenantId s.currency s.amountMinor
  | _ => True

instance CashCovers.decidable (w : World) (programId currency : String) (amount : Int) :
    Decidable (CashCovers w programId currency amount) :=
  inferInstanceAs (Decidable (_ ≤ _))

instance PayableCovers.decidable (w : World) (tenantId currency : String) (amount : Int) :
    Decidable (PayableCovers w tenantId currency amount) :=
  inferInstanceAs (Decidable (_ ≤ _))

instance OutflowCovered.decidable (w : World) (op : PlatformOp) : Decidable (OutflowCovered w op) := by
  unfold OutflowCovered
  split <;> infer_instance

/-! ## One operation -/

section

variable {w w₁ : World}

theorem DepositEffect.solvent {op : DepositOp} (h : DepositEffect w op w₁) (hw : Solvent w) :
    Solvent w₁ := by
  cases h with
  | unchanged => exact hw
  | unbooked => exact hw.congr rfl
  | matched => exact hw.congr rfl
  | registered _ _ he hprogram => exact hw.movedIn rfl (he.moves hprogram) (by decide) (by decide)
  | cleared _ _ he hprogram => exact hw.movedIn rfl (he.moves hprogram) (by decide) (by decide)

theorem MintEffect.solvent {op : MintOp} (h : MintEffect w op w₁) (hw : Solvent w) :
    Solvent w₁ := by
  have hreserve {a : MintAuthorization} {e : JournalEntry} (he : IsReservation a e)
      {w' : World} (hledger : w'.ledger = w.ledger ++ [e]) : Solvent w' :=
    hw.movedIn hledger (he.move.moves he.programId) (by decide) (by decide)
  have hrelease {a : MintAuthorization} {p : String} {e : JournalEntry} (he : IsRelease a p e)
      {w' : World} (hledger : w'.ledger = w.ledger ++ [e]) : Solvent w' :=
    hw.movedIn hledger (he.move.moves he.programId) (by decide) (by decide)
  cases h with
  | unchanged => exact hw
  | requested => exact hw.congr rfl
  | reviewed => exact hw.congr rfl
  | blocked => exact hw.congr rfl
  | rejected => exact hw.congr rfl
  | rejectedUndecided => exact hw.congr rfl
  | issuedUndecided _ he => exact hreserve he rfl
  | issued _ he => exact hreserve he rfl
  | revoked _ _ he => exact hrelease he rfl
  | expired _ _ he => exact hrelease he rfl
  | expiredAtConfirm _ _ _ he => exact hrelease he rfl
  | confirmed _ _ _ _ he => exact hrelease he rfl
  | unstored _ _ _ _ he => exact hrelease he rfl

theorem RedemptionEffect.solvent {op : RedemptionOp} (h : RedemptionEffect w op w₁)
    (hw : Solvent w) (hcovered : OutflowCovered w (.redemption op)) : Solvent w₁ := by
  cases h with
  | requested => exact hw.congr rfl
  | burnConfirmed => exact hw.congr rfl
  | payoutSubmitted => exact hw.congr rfl
  | approved _ _ he hprogram => exact hw.movedIn rfl (he.moves hprogram) (by decide) (by decide)
  | @completed clock redemptionId actor r e hr hstatus he hprogram =>
    exact hw.moved rfl (he.moves hprogram) (fun _ => hcovered r hr hstatus)
      (fun heq => absurd heq (by decide))

theorem PaymentEffect.solvent {op : PaymentOp} (h : PaymentEffect w op w₁) (hw : Solvent w)
    (hcovered : OutflowCovered w (.order op)) : Solvent w₁ := by
  cases h with
  | unchanged => exact hw
  | created => exact hw.congr rfl
  | expired => exact hw.congr rfl
  | cancelled => exact hw.congr rfl
  | booked _ _ _ _ _ he => exact hw.movedIn rfl (he.move.moves he.program) (by decide) (by decide)
  | confirmed _ _ _ _ he => exact hw.movedIn rfl (he.move.moves he.program) (by decide) (by decide)
  | @refunded orderId actor reason o e ho hstatus he =>
    obtain ⟨hcash, hpayable⟩ := hcovered o ho hstatus
    exact hw.moved rfl he.moves (fun _ => hcash) (fun _ => hpayable)

theorem FundEffect.solvent {op : FundOp} (h : FundEffect w op w₁) (hw : Solvent w) :
    Solvent w₁ := by
  have hentries {fund : PaykhProgramFund} {fundId : String} {amount : Int}
      {entries : List JournalEntry} (hsafe : Safeguards fund fundId amount entries) {w' : World}
      (hledger : w'.ledger = w.ledger ++ entries) : Solvent w' := by
    cases hsafe with
    | required _ he =>
      exact hw.movedIn hledger (he.move.moves he.program) (by decide) (by decide)
    | unbacked =>
      rw [List.append_nil] at hledger
      exact hw.congr hledger
  cases h with
  | unchanged => exact hw
  | created => exact hw.congr rfl
  | reserved => exact hw.congr rfl
  | released => exact hw.congr rfl
  | overflowed _ _ _ hsafe => exact hentries hsafe rfl
  | funded _ _ _ hsafe => exact hentries hsafe rfl

theorem LoyaltyEffect.solvent {op : LoyaltyOp} (h : LoyaltyEffect w op w₁) (hw : Solvent w) :
    Solvent w₁ := by
  cases h with
  | unchanged => exact hw
  | bound => exact hw.congr rfl
  | reconciled => exact hw.congr rfl
  | issueBooked _ he => exact hw.movedIn rfl (he.move.moves he.program) (by decide) (by decide)
  | issued _ he => exact hw.movedIn rfl (he.move.moves he.program) (by decide) (by decide)
  | redeemBooked _ he => exact hw.movedIn rfl (he.move.moves he.program) (by decide) (by decide)
  | redeemed _ he => exact hw.movedIn rfl (he.move.moves he.program) (by decide) (by decide)

theorem SettlementEffect.solvent {op : SettlementOp} (h : SettlementEffect w op w₁)
    (hw : Solvent w) (hcovered : OutflowCovered w (.settlement op)) : Solvent w₁ := by
  cases h with
  | created => exact hw.congr rfl
  | createdUnlogged => exact hw.congr rfl
  | approved => exact hw.congr rfl
  | cancelled => exact hw.congr rfl
  | @confirmed clock settlementId actor s e hs hstatus he =>
    obtain ⟨hcash, hpayable⟩ := hcovered s hs hstatus
    exact hw.moved rfl (he.move.moves he.program) (fun _ => hcash) (fun _ => hpayable)

end

/-- **An operation that takes out what is there keeps the books solvent.** -/
theorem Solvent.step (w : World) (op : PlatformOp) (hw : Solvent w)
    (hcovered : OutflowCovered w op) : Solvent (op.step w) := by
  obtain ⟨w₁, rows, events, heffect, hstate⟩ := op.effect w
  rw [hstate]
  refine Solvent.congr (w := w₁) ?_ rfl
  cases heffect with
  | unchanged => exact hw
  | deposit h => exact h.solvent hw
  | ingest h =>
    cases h with
    | unchanged => exact hw
    | ingested => exact hw.congr rfl
  | mint h => exact h.solvent hw
  | redemption h => exact h.solvent hw hcovered
  | order h => exact h.solvent hw hcovered
  | fund h => exact h.solvent hw
  | loyalty h => exact h.solvent hw
  | settlement h => exact h.solvent hw hcovered

/-- **No overdraft, in every state of a run whose outflows are covered.** -/
theorem no_overdraft {w : World} {ops : List PlatformOp} (hw : Solvent w)
    (hcovered : Lib.Meets PlatformOp.step OutflowCovered w ops) :
    ∀ w' ∈ Lib.history PlatformOp.step w ops, Solvent w' :=
  Lib.inv_history Solvent.step hw hcovered

end

/-! ## Two settlements -/

attribute [local instance] Runtime.ascii

namespace Sample

def openMerchant : PaykhMerchant := merchant

def openProfile : PaykhPaymentProfile := profile

theorem openMerchant_nodup : ([openMerchant].map PaykhMerchant.id).Nodup := List.nodup_singleton _

theorem openProfile_nodup : ([openProfile].map PaykhPaymentProfile.id).Nodup :=
  List.nodup_singleton _

/-- One active merchant and one payment profile, and no entry in the ledger. -/
def openBooks : World :=
  { World.empty with
    paykhMerchants := ⟨[openMerchant], openMerchant_nodup⟩
    paykhPaymentProfiles := ⟨[openProfile], openProfile_nodup⟩ }

/-- A settlement is created by alice, approved by bob and confirmed. -/
def settled (amountMinor : String) : List PlatformOp :=
  [.settlement (.create
      { tenantId := "tenant-1", merchantId := "M1", amountMinor, currency := "USD"
        actor := "alice" } "S1"),
   .settlement (.approve "S1" "bob"), .settlement (.confirm clock "S1" "alice")]

/-- A customer pays an order of 25, and 25 are settled. -/
def paidThenSettled : List PlatformOp := paidOrder.map .order ++ settled "25"

theorem paidThenSettled_covered :
    Lib.Meets PlatformOp.step OutflowCovered openBooks paidThenSettled := by
  decide +kernel

end Sample

/-- A settlement of what was paid overdraws nothing. -/
theorem no_overdraft_settled :
    Solvent (Sample.paidThenSettled.foldl PlatformOp.step Sample.openBooks) :=
  no_overdraft (.of_empty rfl) Sample.paidThenSettled_covered _ (Lib.last_mem_history _ _)

theorem settled_cash : accountMinor ((Sample.settled "100").foldl PlatformOp.step Sample.openBooks)
    "tenant-1" assetTrusteeBankCash "USD" = -100 := by
  decide +kernel

/-- A settlement of 100 for a merchant nobody paid overdraws the cash of the tenant. -/
theorem settlement_overdraws : ¬∀ [Runtime] (w : World) (ops : List PlatformOp), w.ledger = [] →
    ∀ w' ∈ Lib.history PlatformOp.step w ops, Solvent w' := by
  intro h
  have hsolvent := h Sample.openBooks (Sample.settled "100") rfl _ (Lib.last_mem_history _ _)
  have hcash := hsolvent.cash "tenant-1" "USD"
  rw [settled_cash] at hcash
  omega

end TrusteeBank
