import TrusteeBank.Infra

/-!
# Deposits

`DepositsService`: a deposit the bank reports is registered and booked as unmatched cash, matched
to a funding instruction of the same currency and amount, and cleared into the reserve obligation.
Only a cleared deposit may back minting.

**Theorem (`run_register`).** A registration is refused and changes nothing, is booked, or leaves
its row without an entry.

**Theorem (`DepositOp.effect`).** An operation registers, matches or clears one deposit, or
changes nothing besides the audit trail and the events. A registration whose entry cannot be
booked (a currency in lower case, an amount that is not positive, an actor the database refuses)
leaves the row without an entry.
-/

set_option autoImplicit false

namespace TrusteeBank

open Lib (Call)
open LedgerAccountCode

section

variable [Runtime]

structure RegisterDeposit where
  programId : String
  trusteeAccountId : String
  bankTransactionId : String
  amountMinor : String
  currency : String
  payerName : Option String
  paymentReference : Option String
  transactionDate : String
  actor : String

/-- `{ id, status }`. -/
structure DepositResult where
  id : String
  status : DepositStatus
deriving DecidableEq, Repr

/-- `{ ...deposit, fundingInstructionId, status: MATCHED }`. -/
def Deposit.asMatched (fundingInstructionId : String) (deposit : Deposit) : Deposit :=
  { deposit with fundingInstructionId := some fundingInstructionId, status := .matched }

omit [Runtime] in
theorem Deposit.asMatched_id (fundingInstructionId : String) (deposit : Deposit) :
    (deposit.asMatched fundingInstructionId).id = deposit.id := rfl

/-- `{ ...deposit, status: CLEARED, clearedAt }`. -/
def Deposit.asCleared (clearedAt : Int) (deposit : Deposit) : Deposit :=
  { deposit with status := .cleared, clearedAt := some clearedAt }

omit [Runtime] in
theorem Deposit.asCleared_id (clearedAt : Int) (deposit : Deposit) :
    (deposit.asCleared clearedAt).id = deposit.id := rfl

namespace DepositsService

open ReserveLedgerService (post)

def requireDeposit (depositId : String) : Service Deposit := do
  let d ← Prisma.deposit.findUnique depositId
  orThrow d (.notFound ("Deposit " ++ depositId ++ " not found"))

/-! ## Register -/

/-- The row a registration stores. -/
def registeredRow (input : RegisterDeposit) (id : String) (amountMinor transactionDate : Int) :
    Deposit where
  id := id
  programId := input.programId
  fundingInstructionId := none
  trusteeAccountId := input.trusteeAccountId
  bankTransactionId := input.bankTransactionId
  payerName := input.payerName
  amountMinor := amountMinor
  currency := input.currency
  paymentReference := input.paymentReference
  transactionDate := transactionDate
  status := .detected
  clearedAt := none

def depositConstraints (row : Deposit) (w : World) : Except ApiError Unit := do
  checkInt8 [row.amountMinor]
  checkTexts (row.bankTransactionId :: row.currency :: row.payerName.toList ++
    row.paymentReference.toList)
  checkUnique (w.deposits.rows.any fun d => d.bankTransactionId = row.bankTransactionId)
  checkForeignKey (w.programs.find? row.programId).isSome
  checkForeignKey (w.trusteeAccounts.find? row.trusteeAccountId).isSome

/-- Cash arrived but is not yet matched: debit cash, credit the unmatched liability. -/
def registrationEntry (input : RegisterDeposit) (amount : Money) (id assetId : String) :
    Except ApiError JournalEntry :=
  buildJournalEntry
    { currency := input.currency
      description := "Detected deposit booked as unmatched"
      postings := movePostings assetTrusteeBankCash liabilityUnmatchedDeposit amount input.currency
      references :=
        { source := "deposit:" ++ id
          programId := input.programId
          assetId
          actor := input.actor
          approvalRef := none
          correlationId := none } }

/-- Register a bank-detected deposit and book it as unmatched cash. -/
def register (input : RegisterDeposit) (id : String) : Service DepositResult := do
  let found ← Prisma.trusteeAccount.findUnique input.trusteeAccountId
  let account ← orThrow found (.notFound "Trustee account not found")
  let minor ← bigInt input.amountMinor
  let amount := money minor input.currency
  let transactionDate ← checkDate (newDateOf input.transactionDate)
  let row := registeredRow input id amount.minor transactionDate
  let deposit ← Prisma.deposit.create (depositConstraints row) row
  let entry ← registrationEntry input amount deposit.id account.supportedAssetId
  post entry
  AuditService.record
    { actor := input.actor
      action := "deposit.detected"
      subjectType := "DEPOSIT"
      subjectId := some deposit.id
      afterState := some (.object [("status", .string (EnumName.name deposit.status)),
        ("amountMinor", .string input.amountMinor)]) }
  EventsService.publish PlatformEvent.depositDetected
    (.object [("depositId", .string deposit.id), ("programId", .string input.programId)]) "PAYCHAIN"
  return { id := deposit.id, status := deposit.status }

/-! ## Match and clear -/

/-- Match a detected deposit to a funding instruction. -/
def «match» (depositId fundingInstructionId actor : String) : Service DepositResult := do
  let deposit ← requireDeposit depositId
  Call.throwIf (deposit.status ≠ .detected ∧ deposit.status ≠ .unmatched)
    (.badRequest ("Deposit " ++ depositId ++ " cannot be matched from " ++
      EnumName.name deposit.status))
  let found ← Prisma.fundingInstruction.findUnique fundingInstructionId
  let fi ← orThrow found (.notFound "Funding instruction not found")
  Call.throwIf (fi.currency ≠ deposit.currency)
    (.badRequest "Currency mismatch between deposit and funding instruction")
  Call.throwIf (fi.amountMinor ≠ deposit.amountMinor)
    (.badRequest "Amount mismatch between deposit and funding instruction")
  let updated ← Prisma.deposit.update unconstrained depositId
    (Deposit.asMatched fundingInstructionId) (Deposit.asMatched_id fundingInstructionId)
  AuditService.record
    { actor
      action := "deposit.matched"
      subjectType := "DEPOSIT"
      subjectId := some depositId
      beforeState := some (.object [("status", .string (EnumName.name deposit.status))])
      afterState := some (.object [("status", .string (EnumName.name updated.status)),
        ("fundingInstructionId", .string fundingInstructionId)]) }
  EventsService.publish PlatformEvent.depositMatched
    (.object [("depositId", .string depositId),
      ("fundingInstructionId", .string fundingInstructionId)]) "PAYCHAIN"
  return { id := depositId, status := updated.status }

/-- The entry that reclassifies a matched deposit into the reserve obligation. -/
def clearanceEntry (deposit : Deposit) (assetId actor : String) : Except ApiError JournalEntry :=
  buildJournalEntry
    { currency := deposit.currency
      description := "Cleared deposit reclassified to reserve obligation"
      postings := movePostings liabilityUnmatchedDeposit liabilityPaychainReserveObligation
        (money deposit.amountMinor deposit.currency) deposit.currency
      references :=
        { source := "deposit-clear:" ++ deposit.id
          programId := deposit.programId
          assetId
          actor
          approvalRef := none
          correlationId := none } }

/-- Confirm cleared funds. -/
def clear (clock : Clock) (depositId actor : String) : Service DepositResult := do
  let deposit ← requireDeposit depositId
  Call.throwIf (deposit.status ≠ .matched)
    (.badRequest ("Deposit " ++ depositId ++ " must be MATCHED before clearance, is " ++
      EnumName.name deposit.status))
  let found ← Prisma.trusteeAccount.findUnique deposit.trusteeAccountId
  let account ← orThrow found (.notFound "Trustee account not found")
  let entry ← clearanceEntry deposit account.supportedAssetId actor
  post entry
  let updated ← Prisma.deposit.update unconstrained depositId (Deposit.asCleared (clock 0))
    (Deposit.asCleared_id (clock 0))
  AuditService.record
    { actor
      action := "deposit.cleared"
      subjectType := "DEPOSIT"
      subjectId := some depositId
      beforeState := some (.object [("status", .string (EnumName.name deposit.status))])
      afterState := some (.object [("status", .string (EnumName.name updated.status))]) }
  EventsService.publish PlatformEvent.depositCleared
    (.object [("depositId", .string depositId)]) "PAYCHAIN"
  return { id := depositId, status := updated.status }

end DepositsService

open DepositsService

/-! ## Operations -/

inductive DepositOp
  | register (input : RegisterDeposit) (id : String)
  | match (depositId fundingInstructionId actor : String)
  | clear (clock : Clock) (depositId actor : String)

def DepositOp.call : DepositOp → Service Unit
  | .register input id => (DepositsService.register input id).void
  | .match depositId fundingInstructionId actor =>
    (DepositsService.match depositId fundingInstructionId actor).void
  | .clear clock depositId actor => (DepositsService.clear clock depositId actor).void

/-- Serve one operation alone, whether it succeeds or throws. -/
def DepositOp.step (w : World) (op : DepositOp) : World := (op.call.run w).2

/-! ## Effects -/

/-- The state with one deposit rewritten. -/
def World.updateDeposit (w : World) (depositId : String) (f : Deposit → Deposit)
    (hf : ∀ d, (f d).id = d.id) : World :=
  { w with deposits := w.deposits.modify depositId f hf }

theorem World.mem_updateDeposit {w : World} {depositId : String} {f : Deposit → Deposit}
    {hf : ∀ d, (f d).id = d.id} {d : Deposit} :
    d ∈ (w.updateDeposit depositId f hf).deposits.rows ↔
      (d ∈ w.deposits.rows ∧ d.id ≠ depositId) ∨
        ∃ r, w.deposits.find? depositId = some r ∧ d = f r :=
  @Lib.Table.mem_modify _ _ _ _ w.deposits depositId f hf d

/-- The row a registration asks for, which the database can store. -/
structure RegisterDeposit.Storable (w : World) (input : RegisterDeposit) (id : String)
    (row : Deposit) : Prop where
  account : (w.trusteeAccounts.find? input.trusteeAccountId).isSome = true
  requested : ∃ amountMinor transactionDate, bigInt input.amountMinor = .ok amountMinor ∧
    checkDate (newDateOf input.transactionDate) = .ok transactionDate ∧
      row = registeredRow input id amountMinor transactionDate
  constraints : depositConstraints row w = .ok ()
  free : w.deposits.find? id = none

/-- What an operation did to the deposits and the ledger. -/
inductive DepositEffect (w : World) : DepositOp → World → Prop
  | unchanged {op : DepositOp} : DepositEffect w op w
  | unbooked {input : RegisterDeposit} {id : String} {row : Deposit} {t : Lib.Table Deposit.id}
      (hstatus : row.status = .detected) (ht : w.deposits.insert? row = some t)
      (hfree : ∀ d ∈ w.deposits.rows, d.bankTransactionId ≠ row.bankTransactionId)
      (hnone : row.fundingInstructionId = none) (hrow : input.Storable w id row) :
      DepositEffect w (.register input id) { w with deposits := t }
  | registered {input : RegisterDeposit} {id : String} {row : Deposit} {t : Lib.Table Deposit.id}
      {e : JournalEntry} (hstatus : row.status = .detected)
      (ht : w.deposits.insert? row = some t)
      (he : IsMove row.currency assetTrusteeBankCash liabilityUnmatchedDeposit row.amountMinor
        e.references e) (hprogram : e.references.programId = row.programId)
      (hsource : e.references.source = "deposit:" ++ row.id)
      (hfree : ∀ d ∈ w.deposits.rows, d.bankTransactionId ≠ row.bankTransactionId)
      (hnone : row.fundingInstructionId = none) (hrow : input.Storable w id row) :
      DepositEffect w (.register input id) ({ w with deposits := t }.posted e)
  | matched {depositId fundingInstructionId actor : String} {deposit : Deposit}
      {fi : FundingInstruction} (hdeposit : w.deposits.find? depositId = some deposit)
      (hstatus : deposit.status = .detected ∨ deposit.status = .unmatched)
      (hfi : w.fundingInstructions.find? fundingInstructionId = some fi)
      (hcurrency : fi.currency = deposit.currency)
      (hamount : fi.amountMinor = deposit.amountMinor) :
      DepositEffect w (.match depositId fundingInstructionId actor)
        (w.updateDeposit depositId (Deposit.asMatched fundingInstructionId)
          (Deposit.asMatched_id fundingInstructionId))
  | cleared {clock : Clock} {depositId actor : String} {deposit : Deposit} {e : JournalEntry}
      (hdeposit : w.deposits.find? depositId = some deposit) (hstatus : deposit.status = .matched)
      (he : IsMove deposit.currency liabilityUnmatchedDeposit liabilityPaychainReserveObligation
        deposit.amountMinor e.references e) (hprogram : e.references.programId = deposit.programId)
      (hsource : e.references.source = "deposit-clear:" ++ deposit.id) :
      DepositEffect w (.clear clock depositId actor)
        ((w.posted e).updateDeposit depositId (Deposit.asCleared (clock 0))
          (Deposit.asCleared_id (clock 0)))

/-- The operation had an effect of the list, and appended audit rows and events. -/
def HasDepositEffect (w : World) (op : DepositOp) (w' : World) : Prop :=
  ∃ w₁ rows events, DepositEffect w op w₁ ∧ w' = w₁.logged rows events

theorem HasDepositEffect.unchanged {w : World} {op : DepositOp} : HasDepositEffect w op w :=
  ⟨w, [], [], .unchanged, by simp⟩

theorem run_requireDeposit (depositId : String) (w : World) :
    (requireDeposit depositId).run w =
      (orThrow (w.deposits.find? depositId) (.notFound ("Deposit " ++ depositId ++ " not found")),
        w) := rfl

theorem run_updateDeposit {w : World} {depositId : String} {deposit : Deposit}
    (hdeposit : w.deposits.find? depositId = some deposit) {f : Deposit → Deposit}
    {hf : ∀ d, (f d).id = d.id} : (Prisma.deposit.update unconstrained depositId f hf).run w =
      (.ok (f deposit), w.updateDeposit depositId f hf) :=
  Entity.run_update_of Prisma.deposit hdeposit rfl

/-- A deposit that may be stored is of a new bank transaction. -/
theorem depositConstraints_free {row : Deposit} {w : World}
    (h : depositConstraints row w = .ok ()) :
    ∀ d ∈ w.deposits.rows, d.bankTransactionId ≠ row.bankTransactionId := by
  unfold depositConstraints at h
  obtain ⟨_, -, h⟩ := bind_eq_ok.mp h
  obtain ⟨_, -, h⟩ := bind_eq_ok.mp h
  obtain ⟨_, hunique, -⟩ := bind_eq_ok.mp h
  unfold checkUnique at hunique
  split_ifs at hunique with htaken
  intro d hd heq
  exact htaken (List.any_eq_true.mpr ⟨d, hd, by simpa using heq⟩)
/-- The entry of a deposit can be built. -/
structure Deposit.Bookable (row : Deposit) : Prop where
  positive : 0 < row.amountMinor
  upper_case : Runtime.toUpperCase row.currency = row.currency

/-- The entry of a registration can be booked: it can be built, and its actor can be stored. -/
structure RegisterDeposit.Books (input : RegisterDeposit) (row : Deposit) : Prop where
  bookable : row.Bookable
  actor : FitsText input.actor

/-- How a registration ends: refused, with the row stored and no entry, or booked. -/
inductive Registration (w : World) (input : RegisterDeposit) (id : String) :
    Except ApiError DepositResult × World → Prop
  | refused {e : ApiError} (hrefused : ∀ row, ¬input.Storable w id row) :
      Registration w input id (.error e, w)
  | stranded {row : Deposit} {t : Lib.Table Deposit.id} {e : ApiError}
      (hrow : input.Storable w id row) (ht : w.deposits.insert? row = some t)
      (hunbooked : ¬input.Books row) :
      Registration w input id (.error e, { w with deposits := t })
  | booked {row : Deposit} {t : Lib.Table Deposit.id} {e : JournalEntry}
      {rows : List AuditLog} {events : List OutboxEvent}
      (hrow : input.Storable w id row) (ht : w.deposits.insert? row = some t)
      (hbooks : input.Books row)
      (he : IsMove row.currency assetTrusteeBankCash liabilityUnmatchedDeposit row.amountMinor
        e.references e) (hprogram : e.references.programId = row.programId)
      (hsource : e.references.source = "deposit:" ++ row.id) :
      Registration w input id
        (.ok ⟨row.id, row.status⟩, ({ w with deposits := t }.posted e).logged rows events)

/-- What the row of a registration is. -/
theorem RegisterDeposit.Storable.row {w : World} {input : RegisterDeposit} {id : String}
    {row : Deposit} (h : input.Storable w id row) :
    row.id = id ∧ row.bankTransactionId = input.bankTransactionId ∧ row.status = .detected ∧
      row.fundingInstructionId = none := by
  obtain ⟨_, _, -, -, rfl⟩ := h.requested
  exact ⟨rfl, rfl, rfl, rfl⟩

/-- A registration asks for one row. -/
theorem RegisterDeposit.Storable.unique {w : World} {input : RegisterDeposit} {id : String}
    {row row' : Deposit} (h : input.Storable w id row) (h' : input.Storable w id row') :
    row = row' := by
  obtain ⟨minor, date, hminor, hdate, rfl⟩ := h.requested
  obtain ⟨minor', date', hminor', hdate', rfl⟩ := h'.requested
  obtain rfl : minor = minor' := Except.ok.inj (hminor.symm.trans hminor')
  obtain rfl : date = date' := Except.ok.inj (hdate.symm.trans hdate')
  rfl

/-- **An entry of the amount of a deposit** can be built exactly when the deposit is bookable, and
then it can be stored if the amount and the actor can. -/
theorem Deposit.entry_cases (row : Deposit) (description : String) {debitAccount creditAccount : String}
    {t t' : LedgerAccountType} (hdebit : ledgerAccountTypeOf debitAccount = .ok t)
    (hcredit : ledgerAccountTypeOf creditAccount = .ok t') (references : JournalReferences)
    {r : Except ApiError JournalEntry} (hr : r = buildJournalEntry ⟨row.currency, description,
      movePostings debitAccount creditAccount (money row.amountMinor row.currency) row.currency,
      references⟩) :
    (¬row.Bookable ∧ ∃ e, r = .error e) ∨ ∃ e, r = .ok e ∧ row.Bookable ∧
      (e.Fits ↔ FitsInt8 row.amountMinor ∧ FitsText references.actor) ∧
      IsMove row.currency debitAccount creditAccount row.amountMinor references e := by
  rw [hr]
  cases he : buildJournalEntry ⟨row.currency, description, movePostings debitAccount creditAccount
      (money row.amountMinor row.currency) row.currency, references⟩ with
  | error e =>
    refine .inl ⟨fun hbookable => ?_, e, rfl⟩
    have hpositive : 0 < (money row.amountMinor row.currency).minor := hbookable.positive
    obtain ⟨e', he'⟩ := exists_buildJournalEntry_move hpositive hbookable.upper_case
      hbookable.upper_case hbookable.upper_case hdebit hcredit
    exact error_ne_ok (he.symm.trans he')
  | ok e =>
    obtain ⟨-, hmove⟩ := buildJournalEntry_move he
    have hactor : e.references.actor = references.actor := by rw [hmove.entry_references]
    refine .inr ⟨e, rfl, ⟨hmove.positive, hmove.upper_case⟩, ⟨fun h => ⟨?_, hactor ▸ h.actor⟩,
      fun h => ⟨storedAmounts_move he h.1, hactor ▸ h.2⟩⟩, hmove⟩
    have hamount : row.amountMinor ∈ ReserveLedgerService.storedAmounts e := by
      simp [ReserveLedgerService.storedAmounts, hmove.totalDebit]
    exact h.amounts _ hamount

/-- **Every registration ends in one of the three ways.** -/
theorem run_register (w : World) (input : RegisterDeposit) (id : String) :
    Registration w input id ((register input id).run w) := by
  unfold register
  rw [Call.run_bind, Entity.run_findUnique]
  simp only [Prisma.trusteeAccount_get]
  rw [Call.run_lift_bind]
  cases haccount : w.trusteeAccounts.find? input.trusteeAccountId with
  | none => exact .refused fun row hrow => by simpa [haccount] using hrow.account
  | some account =>
    simp only [orThrow]
    rw [Call.run_lift_bind]
    cases hminor : bigInt input.amountMinor with
    | error e =>
      refine .refused fun row hrow => ?_
      obtain ⟨minor, _, hok, -⟩ := hrow.requested
      exact error_ne_ok (hminor.symm.trans hok)
    | ok minor =>
      simp only
      rw [Call.run_lift_bind]
      cases hdate : checkDate (newDateOf input.transactionDate) with
      | error e =>
        refine .refused fun row hrow => ?_
        obtain ⟨_, _, -, hok, -⟩ := hrow.requested
        exact error_ne_ok (hdate.symm.trans hok)
      | ok date =>
        simp only [money_minor]
        rw [Call.run_bind]
        rcases Entity.run_create_cases Prisma.deposit
          (depositConstraints (registeredRow input id minor date))
          (registeredRow input id minor date) w with ⟨e, h⟩ | ⟨t, hcheck, ht, h⟩
        · rw [h]
          refine .refused fun row hrow => ?_
          obtain ⟨minor', date', hminor', hdate', rfl⟩ := hrow.requested
          obtain rfl : minor = minor' := Except.ok.inj (hminor.symm.trans hminor')
          obtain rfl : date = date' := Except.ok.inj (hdate.symm.trans hdate')
          obtain ⟨t, -, hstored⟩ := Entity.run_create_of Prisma.deposit
            (registeredRow input id minor date) hrow.constraints hrow.free
          rw [h] at hstored
          cases hstored
        -- The row is stored; the entry may still fail.
        · have hrow : input.Storable w id (registeredRow input id minor date) :=
            ⟨by simp [haccount], ⟨minor, date, hminor, hdate, rfl⟩, hcheck,
              (Lib.Table.insert?_eq_some ht).2⟩
          rw [h]
          simp only
          rw [Call.run_lift_bind]
          have hfits : FitsInt8 minor := by
            obtain ⟨_, hamount, -⟩ := bind_eq_ok.mp hcheck
            exact checkInt8_eq_ok.mp hamount minor (List.mem_singleton_self _)
          rcases (registeredRow input id minor date).entry_cases
            "Detected deposit booked as unmatched" type_assetTrusteeBankCash
            type_liabilityUnmatchedDeposit _
            (r := registrationEntry input (money minor input.currency)
              (registeredRow input id minor date).id account.supportedAssetId) rfl
            with ⟨hunbookable, e, he⟩ | ⟨e, he, hbookable, hstored, hmove⟩
          · rw [he]
            exact .stranded hrow ht fun hbooks => hunbookable hbooks.bookable
          · rw [he]
            simp only
            rw [Call.run_bind]
            rcases run_post_cases e (Prisma.deposit.set t w) with ⟨hunfit, err, hrun⟩ | ⟨hpost, hrun⟩
            · rw [hrun]
              exact .stranded hrow ht fun hbooks => hunfit (hstored.mpr ⟨hfits, hbooks.actor⟩)
            · have hactor := (hstored.mp hpost).2
              have hrefs := hmove.entry_references
              rw [hrun]
              simp only
              rw [Call.run_bind, run_record_of (AuditRecord.fits_iff.mpr ⟨hactor, by simp⟩)]
              simp only [Call.run_bind, run_publish, Call.run_pure, World.logged_logged]
              exact .booked hrow ht ⟨hbookable, hactor⟩ (hrefs ▸ hmove) (by rw [hrefs]; rfl)
                (by rw [hrefs])

theorem register_effect (w : World) (input : RegisterDeposit) (id : String) :
    HasDepositEffect w (.register input id) ((register input id).run w).2 := by
  have h := run_register w input id
  generalize (register input id).run w = out at h ⊢
  cases h with
  | refused => exact .unchanged
  | stranded hrow ht =>
    exact ⟨_, [], [], .unbooked hrow.row.2.2.1 ht (depositConstraints_free hrow.constraints)
      hrow.row.2.2.2 hrow, (World.logged_nil _).symm⟩
  | booked hrow ht _ he hprogram hsource =>
    exact ⟨_, _, _, .registered hrow.row.2.2.1 ht he hprogram hsource
      (depositConstraints_free hrow.constraints) hrow.row.2.2.2 hrow, rfl⟩

theorem Served.requireDeposit_bind {β : Type} {effect : World → Prop} {w : World}
    {depositId : String} {f : Deposit → Service β}
    (h : ∀ deposit, w.deposits.find? depositId = some deposit →
      Served effect w ((f deposit).run w)) :
    Served effect w ((requireDeposit depositId >>= f).run w) :=
  .look_bind (run_requireDeposit depositId w) fun deposit hdeposit =>
    h deposit (orThrow_eq_ok.mp hdeposit)

theorem match_effect (w : World) (depositId fundingInstructionId actor : String) :
    HasDepositEffect w (.match depositId fundingInstructionId actor)
      ((DepositsService.match depositId fundingInstructionId actor).run w).2 := by
  refine Served.effect .unchanged ?_
  unfold DepositsService.match
  refine .requireDeposit_bind fun deposit hdeposit => ?_
  refine .throwIf_bind fun hstatus => ?_
  refine .find_bind Prisma.fundingInstruction fun fi hfi => ?_
  refine .throwIf_bind fun hcurrency => ?_
  refine .throwIf_bind fun hamount => ?_
  rw [Call.run_bind, run_updateDeposit hdeposit]
  exact .logs (.matched hdeposit (by tauto) hfi (not_ne_iff.mp hcurrency)
    (not_ne_iff.mp hamount)) (.record_bind (.event_bind (logs_pure _)))

/-- A deposit that a clearance books. -/
structure Clears (w : World) (depositId actor : String) (deposit : Deposit) : Prop where
  found : w.deposits.find? depositId = some deposit
  matched : deposit.status = .matched
  account : (w.trusteeAccounts.find? deposit.trusteeAccountId).isSome = true
  bookable : deposit.Bookable
  fits : FitsInt8 deposit.amountMinor
  actor : FitsText actor

/-- **A clearance** changes nothing, or books the entry of a matched deposit and clears it. -/
theorem run_clear_cases (w : World) (clock : Clock) (depositId actor : String) :
    ((clear clock depositId actor).run w).2 = w ∧ (∀ deposit, ¬Clears w depositId actor deposit) ∨
      ∃ deposit e rows events, Clears w depositId actor deposit ∧
        IsMove deposit.currency liabilityUnmatchedDeposit liabilityPaychainReserveObligation
          deposit.amountMinor e.references e ∧
        e.references.programId = deposit.programId ∧
        e.references.source = "deposit-clear:" ++ deposit.id ∧
        ((clear clock depositId actor).run w).2 = ((w.posted e).updateDeposit depositId
          (Deposit.asCleared (clock 0)) (Deposit.asCleared_id (clock 0))).logged rows events := by
  unfold clear
  rw [Call.run_bind, run_requireDeposit]
  cases hdeposit : w.deposits.find? depositId with
  | none => exact .inl ⟨rfl, fun deposit h => by cases hdeposit.symm.trans h.found⟩
  | some deposit =>
    have hsame {deposit' : Deposit} (h : Clears w depositId actor deposit') : deposit' = deposit :=
      Option.some.inj (h.found.symm.trans hdeposit)
    simp only [orThrow]
    rw [Call.run_throwIf_bind]
    split_ifs with hstatus
    · exact .inl ⟨rfl, fun _ h => hstatus (hsame h ▸ h.matched)⟩
    rw [Call.run_bind, Entity.run_findUnique]
    simp only [Prisma.trusteeAccount_get]
    rw [Call.run_lift_bind]
    cases haccount : w.trusteeAccounts.find? deposit.trusteeAccountId with
    | none => exact .inl ⟨rfl, fun _ h => by simpa [hsame h, haccount] using h.account⟩
    | some account =>
      simp only
      rw [Call.run_lift_bind]
      rcases deposit.entry_cases "Cleared deposit reclassified to reserve obligation"
        type_liabilityUnmatchedDeposit type_liabilityPaychainReserveObligation _
        (r := clearanceEntry deposit account.supportedAssetId actor) rfl
        with ⟨hunbookable, e, he⟩ | ⟨e, he, hbookable, hstored, hmove⟩
      · rw [he]
        exact .inl ⟨rfl, fun _ h => hunbookable (hsame h ▸ h.bookable)⟩
      rw [he]
      simp only
      rw [Call.run_bind]
      rcases run_post_cases e w with ⟨hunfit, err, hrun⟩ | ⟨hpost, hrun⟩
      · rw [hrun]
        exact .inl ⟨rfl, fun _ h => hunfit (hstored.mpr ⟨hsame h ▸ h.fits, h.actor⟩)⟩
      · obtain ⟨hfits, hactor⟩ := hstored.mp hpost
        have hrefs := hmove.entry_references
        rw [hrun]
        simp only
        rw [Call.run_bind, run_updateDeposit (w := w.posted e) hdeposit]
        obtain ⟨rows, events, hlogged⟩ := ((logs_record _).bind fun _ =>
          (logs_outboxCreate _).bind fun _ => logs_pure _) ((w.posted e).updateDeposit depositId
            (Deposit.asCleared (clock 0)) (Deposit.asCleared_id (clock 0)))
        exact .inr ⟨deposit, e, rows, events,
          ⟨hdeposit, not_not.mp hstatus, by simp [haccount], hbookable, hfits, hactor⟩,
          hrefs ▸ hmove, by rw [hrefs], by rw [hrefs], hlogged⟩

theorem clear_effect (w : World) (clock : Clock) (depositId actor : String) :
    HasDepositEffect w (.clear clock depositId actor) ((clear clock depositId actor).run w).2 := by
  rcases run_clear_cases w clock depositId actor with ⟨hsame, -⟩ |
    ⟨deposit, e, rows, events, hclears, he, hprogram, hsource, hrun⟩
  · rw [hsame]
    exact .unchanged
  · exact ⟨_, rows, events, .cleared hclears.found hclears.matched he hprogram hsource, hrun⟩

/-- **Every operation has an effect in the list.** -/
theorem DepositOp.effect (w : World) (op : DepositOp) : HasDepositEffect w op (op.step w) := by
  cases op with
  | register input id => simpa [step, call] using register_effect w input id
  | «match» depositId fundingInstructionId actor =>
    simpa [step, call] using match_effect w depositId fundingInstructionId actor
  | clear clock depositId actor => simpa [step, call] using clear_effect w clock depositId actor

theorem requireDeposit_keeps {τ : Type} {g : World → τ} (depositId : String) :
    (requireDeposit depositId).Keeps g :=
  (Call.keeps_read _ _ _).bind fun _ => Call.keeps_lift _ _

end

end TrusteeBank
