import TrusteeBank.Lib.RelyGuarantee
import TrusteeBank.Platform.AuditTrail
import TrusteeBank.Services.Admin
import TrusteeBank.Services.Attestations
import TrusteeBank.Services.BankReconciliation
import TrusteeBank.Services.Funding
import TrusteeBank.Services.Merchants
import TrusteeBank.Services.PaymentProfiles
import TrusteeBank.Services.Programs
import TrusteeBank.Services.Reconciliation
import TrusteeBank.Services.Scheduler

/-!
# What stays, however the requests interleave

Requests race: two of them may read one row and both write. What one wrote may then be lost, and
several properties of single calls fail. This module is about what no race can touch.

**Terms** (`Deposit.asCreated`, …). The columns of a row that are written once, when it is created:
whose record it is, how much, in which currency. Blanking the others makes the rest comparable.

**Permanence** (`RecordsKept`). No row is removed and no row changes its terms; snapshots,
confirmations, issuances, runs, audit rows and events do not change at all.

**Bookings** (`Booked`). An entry of the ledger is the standard entry of some stored record, with
the amount, the currency and the program or tenant of the terms.

**Theorem (`books_follow_records`).** From any moment of any schedule of any requests, whatever
fails or stops on the way, the records stay and the ledger grows only by entries of stored records.

Between the step that reads a row and the step that posts its entry others may write, so the entry
is booked from an old row. It still agrees with the stored one because the terms are the same: that
some row has these terms is a `Lib.Fact`.
-/

set_option autoImplicit false

namespace TrusteeBank

open Lib (Call Fact Pool Table)
open Lib.Table (RowsKept)
open ReserveLedgerService (post)

/-! ## Terms -/

def Program.asCreated (p : Program) : Program := { p with status := .draft }

def FundingInstruction.asCreated (fi : FundingInstruction) : FundingInstruction :=
  { fi with status := .issued }

def Deposit.asCreated (d : Deposit) : Deposit :=
  { d with fundingInstructionId := none, status := .detected, clearedAt := none }

def ReserveAdjustment.asCreated (a : ReserveAdjustment) : ReserveAdjustment :=
  { a with active := true, liftedBy := none }

def MintAuthorization.asCreated (auth : MintAuthorization) : MintAuthorization :=
  { auth with
    status := .pendingMaker
    signingKeyId := none
    signatureValue := none
    issuedAt := none
    expiresAt := none }

def Redemption.asCreated (r : Redemption) : Redemption :=
  { r with
    status := .awaitingApproval
    burnTxHash := none
    burnConfirmedAt := none
    approvedById := none
    payoutReference := none
    payoutSubmittedAt := none
    payoutConfirmedAt := none
    completedAt := none }

/-- Who reviewed what kind of record. An approval can lose the authorization it was created for. -/
def Approval.asCreated (a : Approval) : Approval :=
  { a with
    mintAuthorizationId := none
    checkerId := none
    checkerActedAt := none
    decision := .pending
    reason := none }

def PaykhPaymentProfile.asCreated (p : PaykhPaymentProfile) : PaykhPaymentProfile :=
  { p with status := .submitted, verifiedAt := none }

def PaykhPaymentOrder.asCreated (o : PaykhPaymentOrder) : PaykhPaymentOrder :=
  { o with status := .awaitingPayment, matchedBankTransactionId := none, confirmedAt := none }

def PaykhProgramFund.asCreated (f : PaykhProgramFund) : PaykhProgramFund :=
  { f with fundedMinor := 0, reservedMinor := 0 }

def PaykhLoyaltyLiability.asCreated (l : PaykhLoyaltyLiability) : PaykhLoyaltyLiability :=
  { l with
    outstandingMinor := 0
    issuedTotalMinor := 0
    redeemedTotalMinor := 0
    onChainSupplyMinor := 0
    reconciliationStatus := "PENDING"
    lastReconciledAt := none }

def PaykhSettlement.asCreated (s : PaykhSettlement) : PaykhSettlement :=
  { s with status := .requested, approvedById := none, confirmedAt := none }

/-- A merchant keeps its tenant and its code; all else is what PayKH reports of it. -/
def PaykhMerchant.asCreated (m : PaykhMerchant) : PaykhMerchant :=
  { m with
    paykhMerchantRef := none
    legalName := ""
    country := none
    kycStatus := ""
    status := ""
    riskLevel := ""
    lastReportedAt := 0 }

def Attestation.asCreated (a : Attestation) : Attestation :=
  { a with status := "DRAFT", issueDate := none, approvedBy := none }

section

variable [Runtime]

/-! ## Permanence -/

/-- Rows stay with their terms; what is never updated stays as it is. -/
structure RecordsKept (w w' : World) : Prop where
  programs : RowsKept Program.asCreated w.programs w'.programs
  fundingInstructions :
    RowsKept FundingInstruction.asCreated w.fundingInstructions w'.fundingInstructions
  deposits : RowsKept Deposit.asCreated w.deposits w'.deposits
  liabilitySnapshots : RowsKept id w.liabilitySnapshots w'.liabilitySnapshots
  reserveAdjustments :
    RowsKept ReserveAdjustment.asCreated w.reserveAdjustments w'.reserveAdjustments
  reserveSnapshots : RowsKept id w.reserveSnapshots w'.reserveSnapshots
  reconciliationRuns : RowsKept id w.reconciliationRuns w'.reconciliationRuns
  mintAuthorizations :
    RowsKept MintAuthorization.asCreated w.mintAuthorizations w'.mintAuthorizations
  mintConfirmations : RowsKept id w.mintConfirmations w'.mintConfirmations
  redemptions : RowsKept Redemption.asCreated w.redemptions w'.redemptions
  approvals : RowsKept Approval.asCreated w.approvals w'.approvals
  paymentProfiles :
    RowsKept PaykhPaymentProfile.asCreated w.paykhPaymentProfiles w'.paykhPaymentProfiles
  paymentOrders : RowsKept PaykhPaymentOrder.asCreated w.paykhPaymentOrders w'.paykhPaymentOrders
  programFunds : RowsKept PaykhProgramFund.asCreated w.paykhProgramFunds w'.paykhProgramFunds
  loyaltyLiabilities :
    RowsKept PaykhLoyaltyLiability.asCreated w.paykhLoyaltyLiabilities w'.paykhLoyaltyLiabilities
  loyaltyIssuances : RowsKept id w.paykhLoyaltyIssuances w'.paykhLoyaltyIssuances
  loyaltyRedemptions : RowsKept id w.paykhLoyaltyRedemptions w'.paykhLoyaltyRedemptions
  settlements : RowsKept PaykhSettlement.asCreated w.paykhSettlements w'.paykhSettlements
  merchants : RowsKept PaykhMerchant.asCreated w.paykhMerchants w'.paykhMerchants
  attestations : RowsKept Attestation.asCreated w.attestations w'.attestations
  auditLog : w.auditLog <+: w'.auditLog
  outbox : w.outbox <+: w'.outbox

theorem RecordsKept.refl (w : World) : RecordsKept w w := by
  constructor <;> exact List.prefix_refl _

theorem RecordsKept.trans {w w' w'' : World} (h : RecordsKept w w') (h' : RecordsKept w' w'') :
    RecordsKept w w'' where
  programs := h.programs.trans h'.programs
  fundingInstructions := h.fundingInstructions.trans h'.fundingInstructions
  deposits := h.deposits.trans h'.deposits
  liabilitySnapshots := h.liabilitySnapshots.trans h'.liabilitySnapshots
  reserveAdjustments := h.reserveAdjustments.trans h'.reserveAdjustments
  reserveSnapshots := h.reserveSnapshots.trans h'.reserveSnapshots
  reconciliationRuns := h.reconciliationRuns.trans h'.reconciliationRuns
  mintAuthorizations := h.mintAuthorizations.trans h'.mintAuthorizations
  mintConfirmations := h.mintConfirmations.trans h'.mintConfirmations
  redemptions := h.redemptions.trans h'.redemptions
  approvals := h.approvals.trans h'.approvals
  paymentProfiles := h.paymentProfiles.trans h'.paymentProfiles
  paymentOrders := h.paymentOrders.trans h'.paymentOrders
  programFunds := h.programFunds.trans h'.programFunds
  loyaltyLiabilities := h.loyaltyLiabilities.trans h'.loyaltyLiabilities
  loyaltyIssuances := h.loyaltyIssuances.trans h'.loyaltyIssuances
  loyaltyRedemptions := h.loyaltyRedemptions.trans h'.loyaltyRedemptions
  settlements := h.settlements.trans h'.settlements
  merchants := h.merchants.trans h'.merchants
  attestations := h.attestations.trans h'.attestations
  auditLog := h.auditLog.trans h'.auditLog
  outbox := h.outbox.trans h'.outbox

/-! ## Bookings -/

/-- The entry a deposit is registered with. -/
def detectedEntry (d : Deposit) (assetId actor : String) : Except ApiError JournalEntry :=
  buildJournalEntry
    { currency := d.currency
      description := "Detected deposit booked as unmatched"
      postings := movePostings LedgerAccountCode.assetTrusteeBankCash
        LedgerAccountCode.liabilityUnmatchedDeposit (money d.amountMinor d.currency) d.currency
      references :=
        { source := "deposit:" ++ d.id
          programId := d.programId
          assetId
          actor
          approvalRef := none
          correlationId := none } }

/-- The entry is the standard entry of a stored record. Issuances, redemptions and funding of a
program are booked on their stablecoin or fund; their amount is positive and otherwise free. -/
inductive Booked (w : World) (e : JournalEntry) : Prop
  | detected (assetId actor : String)
      (h : ∃ d ∈ w.deposits.rows, detectedEntry d assetId actor = .ok e)
  | cleared (assetId actor : String)
      (h : ∃ d ∈ w.deposits.rows, DepositsService.clearanceEntry d assetId actor = .ok e)
  | earmarked (actor : String) (approvalRef : Option String)
      (h : ∃ auth ∈ w.mintAuthorizations.rows,
        mintReservationEntry (money auth.amountMinor auth.currency)
          (MintService.mintReferences auth "mint-auth:" actor approvalRef) = .ok e)
  | released (sourcePrefix actor : String)
      (hreason : sourcePrefix ∈ ["mint-revoke:", "mint-expire:", "mint-confirm:"])
      (h : ∃ auth ∈ w.mintAuthorizations.rows,
        mintReleaseEntry (money auth.amountMinor auth.currency)
          (MintService.mintReferences auth sourcePrefix actor none) = .ok e)
  | obliged (actor : String)
      (h : ∃ r ∈ w.redemptions.rows, RedemptionService.obligationEntry r r.id actor = .ok e)
  | paidOut (actor : String)
      (h : ∃ r ∈ w.redemptions.rows, RedemptionService.payoutEntry r r.id actor = .ok e)
  | collected (actor : String)
      (h : ∃ o ∈ w.paykhPaymentOrders.rows,
        PaymentOrdersService.collectionEntry o o.id actor = .ok e)
  | refunded (actor reason : String)
      (h : ∃ o ∈ w.paykhPaymentOrders.rows,
        PaymentOrdersService.refundEntry o o.id actor reason = .ok e)
  | settled (actor : String)
      (h : ∃ s ∈ w.paykhSettlements.rows, SettlementsService.settlementEntry s s.id actor = .ok e)
  | safeguarded (amountMinor : Int) (actor : String) (hpos : 0 < amountMinor)
      (h : ∃ f ∈ w.paykhProgramFunds.rows,
        ProgramFundsService.fundingEntry f f.id actor (money amountMinor f.currency) = .ok e)
  | issued (amountMinor : Int) (actor : String) (hpos : 0 < amountMinor)
      (h : ∃ l ∈ w.paykhLoyaltyLiabilities.rows,
        paykhLoyaltyIssuanceEntry (money amountMinor l.pegCurrency)
          (LoyaltyService.loyaltyReferences l "paykh-loyalty-issue:" actor) = .ok e)
  | redeemed (amountMinor : Int) (actor : String) (hpos : 0 < amountMinor)
      (h : ∃ l ∈ w.paykhLoyaltyLiabilities.rows,
        paykhLoyaltyRedemptionEntry (money amountMinor l.pegCurrency)
          (LoyaltyService.loyaltyReferences l "paykh-loyalty-redeem:" actor) = .ok e)

/-- An entry reads only the terms of its record, so it stays the entry of the record. -/
theorem Booked.kept {w w' : World} {e : JournalEntry} (h : Booked w e) (hkept : RecordsKept w w') :
    Booked w' e := by
  cases h with
  | detected assetId actor h =>
    exact .detected assetId actor
      (hkept.deposits.exists (P := fun d => detectedEntry d assetId actor = .ok e) h)
  | cleared assetId actor h =>
    exact .cleared assetId actor (hkept.deposits.exists
      (P := fun d => DepositsService.clearanceEntry d assetId actor = .ok e) h)
  | earmarked actor approvalRef h =>
    exact .earmarked actor approvalRef (hkept.mintAuthorizations.exists
      (P := fun auth => mintReservationEntry (money auth.amountMinor auth.currency)
        (MintService.mintReferences auth "mint-auth:" actor approvalRef) = .ok e) h)
  | released sourcePrefix actor hreason h =>
    exact .released sourcePrefix actor hreason (hkept.mintAuthorizations.exists
      (P := fun auth => mintReleaseEntry (money auth.amountMinor auth.currency)
        (MintService.mintReferences auth sourcePrefix actor none) = .ok e) h)
  | obliged actor h =>
    exact .obliged actor (hkept.redemptions.exists
      (P := fun r => RedemptionService.obligationEntry r r.id actor = .ok e) h)
  | paidOut actor h =>
    exact .paidOut actor (hkept.redemptions.exists
      (P := fun r => RedemptionService.payoutEntry r r.id actor = .ok e) h)
  | collected actor h =>
    exact .collected actor (hkept.paymentOrders.exists
      (P := fun o => PaymentOrdersService.collectionEntry o o.id actor = .ok e) h)
  | refunded actor reason h =>
    exact .refunded actor reason (hkept.paymentOrders.exists
      (P := fun o => PaymentOrdersService.refundEntry o o.id actor reason = .ok e) h)
  | settled actor h =>
    exact .settled actor (hkept.settlements.exists
      (P := fun s => SettlementsService.settlementEntry s s.id actor = .ok e) h)
  | safeguarded amountMinor actor hpos h =>
    exact .safeguarded amountMinor actor hpos (hkept.programFunds.exists
      (P := fun f => ProgramFundsService.fundingEntry f f.id actor
        (money amountMinor f.currency) = .ok e) h)
  | issued amountMinor actor hpos h =>
    exact .issued amountMinor actor hpos (hkept.loyaltyLiabilities.exists
      (P := fun l => paykhLoyaltyIssuanceEntry (money amountMinor l.pegCurrency)
        (LoyaltyService.loyaltyReferences l "paykh-loyalty-issue:" actor) = .ok e) h)
  | redeemed amountMinor actor hpos h =>
    exact .redeemed amountMinor actor hpos (hkept.loyaltyLiabilities.exists
      (P := fun l => paykhLoyaltyRedemptionEntry (money amountMinor l.pegCurrency)
        (LoyaltyService.loyaltyReferences l "paykh-loyalty-redeem:" actor) = .ok e) h)

/-- The records stay, and what the ledger gained is booked. -/
structure Permanent (w w' : World) : Prop where
  records : RecordsKept w w'
  ledger : ∃ entries, w'.ledger = w.ledger ++ entries ∧ ∀ e ∈ entries, Booked w' e

theorem Permanent.of_records {w w' : World} (h : RecordsKept w w')
    (hledger : w'.ledger = w.ledger) : Permanent w w' :=
  ⟨h, [], by rw [hledger, List.append_nil], by simp⟩

theorem Permanent.refl (w : World) : Permanent w w := .of_records (.refl w) rfl

theorem Permanent.trans (w w' w'' : World) (h : Permanent w w') (h' : Permanent w' w'') :
    Permanent w w'' := by
  obtain ⟨entries, hentries, hbooked⟩ := h.ledger
  obtain ⟨entries', hentries', hbooked'⟩ := h'.ledger
  refine ⟨h.records.trans h'.records, entries ++ entries', ?_, fun e he => ?_⟩
  · rw [hentries', hentries, List.append_assoc]
  · rcases List.mem_append.mp he with he | he
    · exact (hbooked e he).kept h'.records
    · exact hbooked' e he

/-! ## Entities and their rows -/

namespace Entity

/-- Which columns of an entity the records keep, and that its writes leave the ledger alone. -/
structure Recorded {ρ τ : Type} {key : ρ → String} (E : Entity key) (terms : ρ → τ) : Prop where
  write : ∀ w t, RowsKept terms (E.get w) t → RecordsKept w (E.set t w)
  kept : ∀ {w w' : World}, RecordsKept w w' → RowsKept terms (E.get w) (E.get w')
  ledger : ∀ t w, (E.set t w).ledger = w.ledger
  stored : ∀ t w, E.get (E.set t w) = t

variable {ρ τ : Type} {key : ρ → String} {E : Entity key} {terms : ρ → τ}

theorem Recorded.permanent (hE : E.Recorded terms) {w : World} {t : Table key}
    (ht : RowsKept terms (E.get w) t) : Permanent w (E.set t w) :=
  .of_records (hE.write w t ht) (hE.ledger t w)

/-- Some row has the terms of `r`. -/
def Recorded.known (hE : E.Recorded terms) (r : ρ) : Fact Permanent where
  holds w := ∃ a ∈ (E.get w).rows, terms a = terms r
  stable _ _ h hr := (hE.kept h.records).exists (P := fun c => c = terms r) hr

/-- What the terms of a known row satisfy, the terms of a stored row satisfy. -/
theorem Recorded.exists_known {hE : E.Recorded terms} {r : ρ} {w : World} {Q : τ → Prop}
    (hw : (hE.known r).holds w) (hr : Q (terms r)) : ∃ a ∈ (E.get w).rows, Q (terms a) := by
  obtain ⟨a, ha, heq⟩ := hw
  exact ⟨a, ha, heq ▸ hr⟩

theorem Recorded.createTx (hE : E.Recorded terms) {check : World → Except ApiError Unit} {row r : ρ}
    {w w' : World} (h : E.createTx check row w = .ok (r, w')) :
    Permanent w w' ∧ (hE.known r).holds w' := by
  obtain ⟨-, rfl, t, ht, rfl⟩ := E.createTx_ok h
  refine ⟨hE.permanent (Table.rowsKept_insert? ht), r, ?_, rfl⟩
  rw [hE.stored, (Table.insert?_eq_some ht).1]
  exact List.mem_append_right _ List.mem_cons_self

theorem Recorded.updateTx (hE : E.Recorded terms) {check : World → ρ → Except ApiError Unit}
    {id : String} {f : ρ → ρ} {hf : ∀ r, key (f r) = key r} (hterms : ∀ r, terms (f r) = terms r)
    {r : ρ} {w w' : World} (h : E.updateTx check id f hf w = .ok (r, w')) : Permanent w w' := by
  obtain ⟨-, -, -, -, rfl⟩ := E.updateTx_ok h
  exact hE.permanent (Table.rowsKept_modify _ _ hf hterms)

theorem Recorded.create (hE : E.Recorded terms) (check : World → Except ApiError Unit) (row : ρ) :
    (E.create check row).Within Permanent :=
  Call.within_query .refl fun _ _ _ h => (hE.createTx h).1

theorem Recorded.update (hE : E.Recorded terms) (check : World → ρ → Except ApiError Unit)
    (id : String) {f : ρ → ρ} (hf : ∀ r, key (f r) = key r) (hterms : ∀ r, terms (f r) = terms r) :
    (E.update check id f hf).Within Permanent :=
  Call.within_query .refl fun _ _ _ h => hE.updateTx hterms h

theorem Recorded.upsert (hE : E.Recorded terms) (check : World → Except ApiError Unit)
    (p : ρ → Bool) (row : ρ) {f : ρ → ρ} (hf : ∀ r, key (f r) = key r)
    (hterms : ∀ r, terms (f r) = terms r) : (E.upsert check p row f hf).Within Permanent := by
  refine Call.within_query .refl fun w r w' h => ?_
  obtain ⟨-, ⟨old, -, -, rfl⟩ | ⟨-, -, t, ht, rfl⟩⟩ := E.upsertTx_ok h
  · exact hE.permanent (Table.rowsKept_modify _ _ hf hterms)
  · exact hE.permanent (Table.rowsKept_insert? ht)

/-- What a creation returns is stored, and is the row. -/
theorem Recorded.relies_create (hE : E.Recorded terms) (check : World → Except ApiError Unit)
    (row : ρ) {P : Fact Permanent} :
    (E.create check row).Relies (fun r => (Fact.always _ (r = row)).and (hE.known r)) P :=
  Call.relies_query .refl fun _ _ _ _ h =>
    ⟨(hE.createTx h).1, (E.createTx_ok h).2.1, (hE.createTx h).2⟩

/-- What is found under a key is stored. -/
theorem Recorded.relies_require (hE : E.Recorded terms) (id : String) (e : ApiError)
    {P : Fact Permanent} : (E.findUnique id >>= fun found => (orThrow found e : Except _ _)).Relies
      (fun r => (Fact.always _ (key r = id)).and (hE.known r)) P := by
  refine Call.Relies.bind (Q := fun found => ⟨fun w => ∀ r, found = some r →
    key r = id ∧ (hE.known r).holds w, fun w w' h hw r hr =>
      ⟨(hw r hr).1, (hE.known r).stable w w' h (hw r hr).2⟩⟩)
    (Call.relies_read .refl _ fun w _ r hr =>
      ⟨Table.key_of_find? hr, r, Table.mem_of_find? hr, rfl⟩) fun found => ?_
  cases found with
  | none => trivial
  | some r => exact fun w hw => hw r rfl

end Entity

namespace Prisma

theorem program_recorded : program.Recorded Program.asCreated where
  write w _ h := { RecordsKept.refl w with programs := h }
  kept := RecordsKept.programs
  ledger _ _ := rfl
  stored _ _ := rfl

theorem fundingInstruction_recorded : fundingInstruction.Recorded FundingInstruction.asCreated where
  write w _ h := { RecordsKept.refl w with fundingInstructions := h }
  kept := RecordsKept.fundingInstructions
  ledger _ _ := rfl
  stored _ _ := rfl

theorem deposit_recorded : deposit.Recorded Deposit.asCreated where
  write w _ h := { RecordsKept.refl w with deposits := h }
  kept := RecordsKept.deposits
  ledger _ _ := rfl
  stored _ _ := rfl

theorem liabilitySnapshot_recorded : liabilitySnapshot.Recorded id where
  write w _ h := { RecordsKept.refl w with liabilitySnapshots := h }
  kept := RecordsKept.liabilitySnapshots
  ledger _ _ := rfl
  stored _ _ := rfl

theorem reserveAdjustment_recorded : reserveAdjustment.Recorded ReserveAdjustment.asCreated where
  write w _ h := { RecordsKept.refl w with reserveAdjustments := h }
  kept := RecordsKept.reserveAdjustments
  ledger _ _ := rfl
  stored _ _ := rfl

theorem reserveSnapshot_recorded : reserveSnapshot.Recorded id where
  write w _ h := { RecordsKept.refl w with reserveSnapshots := h }
  kept := RecordsKept.reserveSnapshots
  ledger _ _ := rfl
  stored _ _ := rfl

theorem reconciliationRun_recorded : reconciliationRun.Recorded id where
  write w _ h := { RecordsKept.refl w with reconciliationRuns := h }
  kept := RecordsKept.reconciliationRuns
  ledger _ _ := rfl
  stored _ _ := rfl

theorem mintAuthorization_recorded : mintAuthorization.Recorded MintAuthorization.asCreated where
  write w _ h := { RecordsKept.refl w with mintAuthorizations := h }
  kept := RecordsKept.mintAuthorizations
  ledger _ _ := rfl
  stored _ _ := rfl

theorem mintConfirmation_recorded : mintConfirmation.Recorded id where
  write w _ h := { RecordsKept.refl w with mintConfirmations := h }
  kept := RecordsKept.mintConfirmations
  ledger _ _ := rfl
  stored _ _ := rfl

theorem redemption_recorded : redemption.Recorded Redemption.asCreated where
  write w _ h := { RecordsKept.refl w with redemptions := h }
  kept := RecordsKept.redemptions
  ledger _ _ := rfl
  stored _ _ := rfl

theorem approval_recorded : approval.Recorded Approval.asCreated where
  write w _ h := { RecordsKept.refl w with approvals := h }
  kept := RecordsKept.approvals
  ledger _ _ := rfl
  stored _ _ := rfl

theorem paykhPaymentProfile_recorded :
    paykhPaymentProfile.Recorded PaykhPaymentProfile.asCreated where
  write w _ h := { RecordsKept.refl w with paymentProfiles := h }
  kept := RecordsKept.paymentProfiles
  ledger _ _ := rfl
  stored _ _ := rfl

theorem paykhPaymentOrder_recorded : paykhPaymentOrder.Recorded PaykhPaymentOrder.asCreated where
  write w _ h := { RecordsKept.refl w with paymentOrders := h }
  kept := RecordsKept.paymentOrders
  ledger _ _ := rfl
  stored _ _ := rfl

theorem paykhProgramFund_recorded : paykhProgramFund.Recorded PaykhProgramFund.asCreated where
  write w _ h := { RecordsKept.refl w with programFunds := h }
  kept := RecordsKept.programFunds
  ledger _ _ := rfl
  stored _ _ := rfl

theorem paykhLoyaltyLiability_recorded :
    paykhLoyaltyLiability.Recorded PaykhLoyaltyLiability.asCreated where
  write w _ h := { RecordsKept.refl w with loyaltyLiabilities := h }
  kept := RecordsKept.loyaltyLiabilities
  ledger _ _ := rfl
  stored _ _ := rfl

theorem paykhLoyaltyIssuance_recorded : paykhLoyaltyIssuance.Recorded id where
  write w _ h := { RecordsKept.refl w with loyaltyIssuances := h }
  kept := RecordsKept.loyaltyIssuances
  ledger _ _ := rfl
  stored _ _ := rfl

theorem paykhLoyaltyRedemption_recorded : paykhLoyaltyRedemption.Recorded id where
  write w _ h := { RecordsKept.refl w with loyaltyRedemptions := h }
  kept := RecordsKept.loyaltyRedemptions
  ledger _ _ := rfl
  stored _ _ := rfl

theorem paykhSettlement_recorded : paykhSettlement.Recorded PaykhSettlement.asCreated where
  write w _ h := { RecordsKept.refl w with settlements := h }
  kept := RecordsKept.settlements
  ledger _ _ := rfl
  stored _ _ := rfl

theorem paykhMerchant_recorded : paykhMerchant.Recorded PaykhMerchant.asCreated where
  write w _ h := { RecordsKept.refl w with merchants := h }
  kept := RecordsKept.merchants
  ledger _ _ := rfl
  stored _ _ := rfl

theorem attestation_recorded : attestation.Recorded Attestation.asCreated where
  write w _ h := { RecordsKept.refl w with attestations := h }
  kept := RecordsKept.attestations
  ledger _ _ := rfl
  stored _ _ := rfl

end Prisma

/-! ## Logs -/

theorem logged_permanent (w : World) (rows : List AuditLog) (events : List OutboxEvent) :
    Permanent w (w.logged rows events) :=
  .of_records
    { RecordsKept.refl w with
      auditLog := List.prefix_append _ _
      outbox := List.prefix_append _ _ } rfl

theorem auditCreate_permanent (row : AuditLog) : (auditCreate row).Within Permanent :=
  Call.within_query .refl fun w _ _ h => (auditCreate_ok h).2 ▸ logged_permanent w _ _

theorem record_permanent (entry : AuditRecord) : (AuditService.record entry).Within Permanent :=
  auditCreate_permanent entry.row

theorem event_permanent (event : OutboxEvent) : (outboxCreate event).Within Permanent :=
  Call.within_query .refl fun w _ _ h => by
    cases h
    exact logged_permanent w _ _

end

end TrusteeBank
