import TrusteeBank.Ledger
import TrusteeBank.Lib.Call
import TrusteeBank.Lib.Table

/-!
# The database

The rows of the schema, as far as the modelled services read or write them, the state `World`
they live in, and the queries of the Prisma client. A service is a `Call` whose atomic steps are
database calls, labelled with the model, the action and the key they are about, so that calls can
be interleaved at every database call.

Rows are kept in insertion order, which is the order of `createdAt`. A write that breaks a unique
index, a foreign key or the range of a `BigInt` column, or has U+0000 in a text, throws and changes
nothing.
-/

set_option autoImplicit false

namespace TrusteeBank

open Lib (Call Table)

/-! ## Rows -/

structure Program where
  id : String
  issuerId : String
  assetId : String
  referenceCurrency : String
  requiredRatioBps : Int
  safetyBufferBps : Int
  status : ProgramStatus

structure TrusteeAccount where
  id : String
  programId : String
  maskedAccountNumber : String
  accountName : String
  bankLegalEntity : String
  supportedAssetId : String
  status : AccountStatus

structure FundingInstruction where
  id : String
  programId : String
  paychainRequestId : String
  assetId : String
  depositor : String
  expectedPayer : Option String
  beneficiaryAccountId : String
  amountMinor : Int
  currency : String
  uniqueReference : String
  permittedMethod : String
  expiresAt : Int
  status : FundingInstructionStatus

structure Deposit where
  id : String
  programId : String
  fundingInstructionId : Option String
  trusteeAccountId : String
  bankTransactionId : String
  payerName : Option String
  amountMinor : Int
  currency : String
  paymentReference : Option String
  transactionDate : Int
  status : DepositStatus
  clearedAt : Option Int

structure LiabilitySnapshot where
  id : String
  programId : String
  assetId : String
  assetCode : String
  blockchainNetwork : String
  issuerAccount : String
  circulatingMinor : Int
  treasuryHeldMinor : Int
  lockedMinor : Int
  pendingMintMinor : Int
  pendingBurnMinor : Int
  pendingRedemptionMinor : Int
  confirmedBurnMinor : Int
  effectiveLiabilityMinor : Int
  currency : String
  ledgerReference : String
  sourceVersion : String
  sequence : Int
  snapshotTimestamp : Int
  signatureKeyId : String
  signatureValue : String
  signatureVerified : Bool

structure ReserveAdjustment where
  id : String
  programId : String
  currency : String
  kind : String
  amountMinor : Int
  active : Bool
  reason : Option String
  createdBy : String
  liftedBy : Option String

structure ReserveSnapshot where
  id : String
  programId : String
  assetId : String
  referenceCurrency : String
  eligibleReserveMinor : Int
  excludedAmountMinor : Int
  circulatingLiabilityMinor : Int
  pendingRedemptionMinor : Int
  requiredReserveMinor : Int
  reserveRatioBps : Option Int
  surplusMinor : Int
  reconciliationStatus : String
  dataSources : List String
  signatureKeyId : String
  signatureValue : String
  contentHash : String
  createdAt : Int

/-- A row of the exceptions of a reconciliation run. -/
structure ReconciliationException where
  type : String
  detail : JsValue

structure ReconciliationRun where
  id : String
  scope : String
  programId : Option String
  tenantId : Option String
  status : String
  summary : JsValue
  createdBy : Option String
  createdAt : Int
  exceptions : List ReconciliationException

structure MintAuthorization where
  id : String
  programId : String
  paychainRequestId : String
  assetId : String
  amountMinor : Int
  currency : String
  tenantId : Option String
  destination : Option String
  fundingDepositIds : List String
  status : MintAuthorizationStatus
  nonce : String
  signingKeyId : Option String
  signatureValue : Option String
  maxMintAmountMinor : Int
  singleUse : Bool
  issuedAt : Option Int
  expiresAt : Option Int
deriving DecidableEq

structure MintConfirmation where
  mintAuthorizationId : String
  paychainTransactionId : String
  blockchainTxHash : String
  amountMinor : Int
  currency : String
  destination : String
  ledgerHeight : Option Int
  confirmedAt : Int
  paychainSignature : String
  verified : Bool

structure Redemption where
  id : String
  programId : String
  paychainRedemptionId : String
  assetId : String
  amountMinor : Int
  currency : String
  beneficiaryName : String
  beneficiaryAccountMasked : String
  correlationId : Option String
  status : RedemptionStatus
  burnTxHash : Option String
  burnConfirmedAt : Option Int
  approvedById : Option String
  payoutReference : Option String
  payoutSubmittedAt : Option Int
  payoutConfirmedAt : Option Int
  completedAt : Option Int

structure Approval where
  id : String
  subjectType : String
  mintAuthorizationId : Option String
  makerId : String
  checkerId : Option String
  checkerActedAt : Option Int
  decision : ApprovalDecision
  reason : Option String
deriving DecidableEq

structure User where
  id : String
  email : String
  institution : String
  roles : List String
  passwordHash : Option String
  mfaSecret : Option String
  mfaEnabled : Bool
  disabled : Bool

structure Role where
  slug : String
  name : String
  description : Option String
  institution : String
  permissions : List String
  builtin : Bool

structure FeatureFlag where
  key : String
  enabled : Bool

structure PlatformControl where
  key : String
  value : Bool

structure AuditLog where
  actor : String
  actorRole : Option String
  action : String
  subjectType : String
  subjectId : Option String
  beforeState : Option JsValue
  afterState : Option JsValue
  reason : Option String
  approvalRef : Option String
  correlationId : Option String
  sourceSystem : Option String

structure OutboxEvent where
  eventType : String
  targetPlatform : String
  payload : JsValue
  artifact : Option String
  signatureKeyId : String
  signatureValue : String

structure PaykhPaymentProfile where
  id : String
  tenantId : String
  recipientName : String
  recipientAccountMasked : String
  bankName : String
  currency : String
  khqrPayload : String
  status : PaymentProfileStatus
  verifiedAt : Option Int

structure PaykhPaymentOrder where
  id : String
  tenantId : String
  profileId : String
  amountMinor : Int
  currency : String
  paymentReference : String
  khqrString : Option String
  status : PaymentOrderStatus
  matchedBankTransactionId : Option String
  confirmedAt : Option Int
  expiresAt : Int

structure PaykhProgramFund where
  id : String
  tenantId : String
  paykhProgramId : String
  classification : String
  currency : String
  reserveAccountId : String
  fundedMinor : Int
  reservedMinor : Int
  status : String

structure PaykhLoyaltyLiability where
  id : String
  tenantId : String
  paykhProgramId : String
  programFundId : String
  classification : String
  currency : String
  pegCurrency : String
  denominationMinor : Int
  decimals : Int
  stellarAssetCode : Option String
  stellarIssuer : Option String
  stellarDistributor : Option String
  outstandingMinor : Int
  issuedTotalMinor : Int
  redeemedTotalMinor : Int
  onChainSupplyMinor : Int
  reconciliationStatus : String
  lastReconciledAt : Option Int
  status : String

structure PaykhLoyaltyIssuance where
  id : String
  loyaltyLiabilityId : String
  customerRef : String
  units : Option Int
  amountMinor : Int
  currency : String
  status : String
  paychainReference : Option String
  onChainTxHash : Option String
  actor : String

structure PaykhLoyaltyRedemption where
  id : String
  loyaltyLiabilityId : String
  tenantId : String
  merchantId : String
  customerRef : String
  amountMinor : Int
  currency : String
  status : String
  paychainReference : Option String
  onChainTxHash : Option String
  actor : String
  confirmedAt : Option Int

structure PaykhSettlement where
  id : String
  tenantId : String
  merchantId : String
  amountMinor : Int
  currency : String
  status : SettlementStatus
  approvedById : Option String
  confirmedAt : Option Int

structure PaykhMerchant where
  id : String
  tenantId : String
  merchantCode : String
  paykhMerchantRef : Option String
  legalName : String
  country : Option String
  kycStatus : String
  status : String
  riskLevel : String
  source : String
  lastReportedAt : Int

structure Attestation where
  id : String
  programId : Option String
  period : String
  scope : String
  methodology : Option String
  reserveAmountMinor : Option Int
  liabilityAmountMinor : Option Int
  currency : Option String
  opinion : Option String
  auditor : String
  documentHash : Option String
  status : String
  issueDate : Option Int
  createdBy : Option String
  approvedBy : Option String

variable [Runtime]

/-! ## The state -/

/-- The database, and the one value a process keeps in memory: when it last read a bank. -/
structure World where
  programs : Table Program.id
  trusteeAccounts : Table TrusteeAccount.id
  fundingInstructions : Table FundingInstruction.id
  deposits : Table Deposit.id
  ledger : List JournalEntry
  liabilitySnapshots : Table LiabilitySnapshot.id
  reserveAdjustments : Table ReserveAdjustment.id
  reserveSnapshots : Table ReserveSnapshot.id
  reconciliationRuns : Table ReconciliationRun.id
  mintAuthorizations : Table MintAuthorization.id
  mintConfirmations : Table MintConfirmation.mintAuthorizationId
  redemptions : Table Redemption.id
  approvals : Table Approval.id
  users : Table User.id
  roles : Table Role.slug
  featureFlags : Table FeatureFlag.key
  platformControls : Table PlatformControl.key
  auditLog : List AuditLog
  outbox : List OutboxEvent
  paykhPaymentProfiles : Table PaykhPaymentProfile.id
  paykhPaymentOrders : Table PaykhPaymentOrder.id
  paykhProgramFunds : Table PaykhProgramFund.id
  paykhLoyaltyLiabilities : Table PaykhLoyaltyLiability.id
  paykhLoyaltyIssuances : Table PaykhLoyaltyIssuance.id
  paykhLoyaltyRedemptions : Table PaykhLoyaltyRedemption.id
  paykhSettlements : Table PaykhSettlement.id
  paykhMerchants : Table PaykhMerchant.id
  attestations : Table Attestation.id
  lastSuccessfulCheck : Option Int

/-- Nothing is stored. -/
def World.empty : World where
  programs := .empty _
  trusteeAccounts := .empty _
  fundingInstructions := .empty _
  deposits := .empty _
  ledger := []
  liabilitySnapshots := .empty _
  reserveAdjustments := .empty _
  reserveSnapshots := .empty _
  reconciliationRuns := .empty _
  mintAuthorizations := .empty _
  mintConfirmations := .empty _
  redemptions := .empty _
  approvals := .empty _
  users := .empty _
  roles := .empty _
  featureFlags := .empty _
  platformControls := .empty _
  auditLog := []
  outbox := []
  paykhPaymentProfiles := .empty _
  paykhPaymentOrders := .empty _
  paykhProgramFunds := .empty _
  paykhLoyaltyLiabilities := .empty _
  paykhLoyaltyIssuances := .empty _
  paykhLoyaltyRedemptions := .empty _
  paykhSettlements := .empty _
  paykhMerchants := .empty _
  attestations := .empty _
  lastSuccessfulCheck := none

/-! ## Queries -/

/-- The models of the schema, and the memory of the process. -/
inductive Model
  | program | trusteeAccount | fundingInstruction | deposit | ledgerEntry | ledgerPosting
  | liabilitySnapshot | reserveAdjustment | reserveSnapshot | reconciliationRun
  | mintAuthorization | mintConfirmation | redemption | approval | user | role | featureFlag
  | platformControl
  | auditLog | outboxEvent | paykhPaymentProfile | paykhPaymentOrder | paykhProgramFund
  | paykhLoyaltyLiability | paykhLoyaltyIssuance | paykhLoyaltyRedemption | paykhSettlement
  | paykhMerchant | attestation | processMemory
deriving DecidableEq, Repr

inductive Action
  | findUnique | findFirst | findMany | groupBy | create | update | upsert | delete | transaction
deriving DecidableEq, Repr

/-- The label of a database call: the model, the action, and the key or account it is about. -/
structure Query where
  model : Model
  action : Action
  key : String
deriving DecidableEq, Repr

/-- A service call. -/
abbrev Service := Call Query World ApiError

/-- A database transaction. -/
abbrev Tx := StateT World (Except ApiError)

/-- A model of the schema and its table. -/
structure Entity {ρ : Type} (key : ρ → String) where
  model : Model
  get : World → Table key
  set : Table key → World → World

namespace Prisma

@[simps] def program : Entity Program.id where
  model := .program
  get := World.programs
  set t w := { w with programs := t }

@[simps] def trusteeAccount : Entity TrusteeAccount.id where
  model := .trusteeAccount
  get := World.trusteeAccounts
  set t w := { w with trusteeAccounts := t }

@[simps] def fundingInstruction : Entity FundingInstruction.id where
  model := .fundingInstruction
  get := World.fundingInstructions
  set t w := { w with fundingInstructions := t }

@[simps] def deposit : Entity Deposit.id where
  model := .deposit
  get := World.deposits
  set t w := { w with deposits := t }

@[simps] def liabilitySnapshot : Entity LiabilitySnapshot.id where
  model := .liabilitySnapshot
  get := World.liabilitySnapshots
  set t w := { w with liabilitySnapshots := t }

@[simps] def reserveAdjustment : Entity ReserveAdjustment.id where
  model := .reserveAdjustment
  get := World.reserveAdjustments
  set t w := { w with reserveAdjustments := t }

@[simps] def reserveSnapshot : Entity ReserveSnapshot.id where
  model := .reserveSnapshot
  get := World.reserveSnapshots
  set t w := { w with reserveSnapshots := t }

@[simps] def reconciliationRun : Entity ReconciliationRun.id where
  model := .reconciliationRun
  get := World.reconciliationRuns
  set t w := { w with reconciliationRuns := t }

@[simps] def mintAuthorization : Entity MintAuthorization.id where
  model := .mintAuthorization
  get := World.mintAuthorizations
  set t w := { w with mintAuthorizations := t }

@[simps] def mintConfirmation : Entity MintConfirmation.mintAuthorizationId where
  model := .mintConfirmation
  get := World.mintConfirmations
  set t w := { w with mintConfirmations := t }

@[simps] def redemption : Entity Redemption.id where
  model := .redemption
  get := World.redemptions
  set t w := { w with redemptions := t }

@[simps] def approval : Entity Approval.id where
  model := .approval
  get := World.approvals
  set t w := { w with approvals := t }

@[simps] def user : Entity User.id where
  model := .user
  get := World.users
  set t w := { w with users := t }

@[simps] def role : Entity Role.slug where
  model := .role
  get := World.roles
  set t w := { w with roles := t }

@[simps] def featureFlag : Entity FeatureFlag.key where
  model := .featureFlag
  get := World.featureFlags
  set t w := { w with featureFlags := t }

@[simps] def platformControl : Entity PlatformControl.key where
  model := .platformControl
  get := World.platformControls
  set t w := { w with platformControls := t }

@[simps] def paykhPaymentProfile : Entity PaykhPaymentProfile.id where
  model := .paykhPaymentProfile
  get := World.paykhPaymentProfiles
  set t w := { w with paykhPaymentProfiles := t }

@[simps] def paykhPaymentOrder : Entity PaykhPaymentOrder.id where
  model := .paykhPaymentOrder
  get := World.paykhPaymentOrders
  set t w := { w with paykhPaymentOrders := t }

@[simps] def paykhProgramFund : Entity PaykhProgramFund.id where
  model := .paykhProgramFund
  get := World.paykhProgramFunds
  set t w := { w with paykhProgramFunds := t }

@[simps] def paykhLoyaltyLiability : Entity PaykhLoyaltyLiability.id where
  model := .paykhLoyaltyLiability
  get := World.paykhLoyaltyLiabilities
  set t w := { w with paykhLoyaltyLiabilities := t }

@[simps] def paykhLoyaltyIssuance : Entity PaykhLoyaltyIssuance.id where
  model := .paykhLoyaltyIssuance
  get := World.paykhLoyaltyIssuances
  set t w := { w with paykhLoyaltyIssuances := t }

@[simps] def paykhLoyaltyRedemption : Entity PaykhLoyaltyRedemption.id where
  model := .paykhLoyaltyRedemption
  get := World.paykhLoyaltyRedemptions
  set t w := { w with paykhLoyaltyRedemptions := t }

@[simps] def paykhSettlement : Entity PaykhSettlement.id where
  model := .paykhSettlement
  get := World.paykhSettlements
  set t w := { w with paykhSettlements := t }

@[simps] def paykhMerchant : Entity PaykhMerchant.id where
  model := .paykhMerchant
  get := World.paykhMerchants
  set t w := { w with paykhMerchants := t }

@[simps] def attestation : Entity Attestation.id where
  model := .attestation
  get := World.attestations
  set t w := { w with attestations := t }

end Prisma

/-- The row with the largest `order`, the oldest among equals. -/
def latestBy {ρ : Type} (order : ρ → Int) (rows : List ρ) : Option ρ :=
  rows.foldl (fun best r =>
    match best with
    | some b => if order b < order r then some r else some b
    | none => some r) none

/-! ### Constraints -/

/-- A `BigInt` column holds 64 bits. -/
def checkInt8 (values : List Int) : Except ApiError Unit :=
  if values.all fun n => FitsInt8 n then .ok ()
  else .error (.prisma "Unable to fit integer value into INT8")

/-- An `Int` column holds 32 bits. -/
def checkInt4 (n : Int) : Except ApiError Unit :=
  if FitsInt4 n then .ok () else .error (.prisma "Unable to fit integer value into INT4")

/-- PostgreSQL stores a text: it does not hold U+0000. -/
def FitsText (text : String) : Prop := '\x00' ∉ text.toList

instance (text : String) : Decidable (FitsText text) := inferInstanceAs (Decidable (_ ∉ _))

/-- The texts written are stored. -/
def checkTexts (texts : List String) : Except ApiError Unit :=
  if texts.all fun t => FitsText t then .ok ()
  else .error (.prisma "invalid byte sequence for encoding \"UTF8\": 0x00")

/-- A unique column or column group is free. -/
def checkUnique (taken : Bool) : Except ApiError Unit :=
  if taken then .error (.prisma "P2002") else .ok ()

/-- A foreign key points to a row. -/
def checkForeignKey (found : Bool) : Except ApiError Unit :=
  if found then .ok () else .error (.prisma "P2003")

/-- A `DateTime` argument is a valid date. -/
def checkDate (date : Option Int) : Except ApiError Int :=
  orThrow date (.prisma "Invalid value for argument: Provided Date object is invalid")

omit [Runtime] in
theorem checkInt8_eq_ok {values : List Int} {u : Unit} :
    checkInt8 values = .ok u ↔ ∀ n ∈ values, FitsInt8 n := by
  simp [checkInt8]

omit [Runtime] in
theorem checkInt4_eq_ok {n : Int} {u : Unit} : checkInt4 n = .ok u ↔ FitsInt4 n := by
  simp [checkInt4]

omit [Runtime] in
theorem checkTexts_eq_ok {texts : List String} {u : Unit} :
    checkTexts texts = .ok u ↔ ∀ t ∈ texts, FitsText t := by
  simp [checkTexts]

omit [Runtime] in
/-- A text that is not stored fails the write. -/
theorem checkTexts_bind_of_not {α : Type} {texts : List String} (h : ¬∀ t ∈ texts, FitsText t)
    (f : Unit → Except ApiError α) : (checkTexts texts >>= f) =
      .error (.prisma "invalid byte sequence for encoding \"UTF8\": 0x00") := by
  rw [checkTexts, if_neg (by simpa using h)]
  rfl

omit [Runtime] in
theorem FitsText.append {s t : String} (hs : FitsText s) (ht : FitsText t) : FitsText (s ++ t) := by
  unfold FitsText at *
  rw [String.toList_append, List.mem_append, not_or]
  exact ⟨hs, ht⟩

omit [Runtime] in
theorem FitsText.intercalate {separator : String} (hseparator : FitsText separator)
    {texts : List String} (h : ∀ t ∈ texts, FitsText t) :
    FitsText (separator.intercalate texts) := by
  induction texts with
  | nil =>
    rw [String.intercalate_nil]
    decide
  | cons text texts ih =>
    obtain ⟨htext, htexts⟩ := List.forall_mem_cons.mp h
    cases texts with
    | nil => rwa [String.intercalate_singleton]
    | cons next texts =>
      rw [String.intercalate_cons_cons]
      exact (htext.append hseparator).append (ih htexts)

namespace Entity

variable {ρ : Type} {key : ρ → String} (E : Entity key)

def findUnique (id : String) : Service (Option ρ) :=
  Call.read ⟨E.model, .findUnique, id⟩ fun w => (E.get w).find? id

/-- The first row that satisfies `p`, for a unique column or `findFirst`. -/
def findFirst (label : String) (p : ρ → Bool) : Service (Option ρ) :=
  Call.read ⟨E.model, .findFirst, label⟩ fun w => (E.get w).rows.find? p

/-- The row with the largest `order` among those that satisfy `p`. -/
def findLatest (label : String) (p : ρ → Bool) (order : ρ → Int) : Service (Option ρ) :=
  Call.read ⟨E.model, .findFirst, label⟩ fun w => latestBy order ((E.get w).rows.filter p)

def findMany (label : String) (p : ρ → Bool) : Service (List ρ) :=
  Call.read ⟨E.model, .findMany, label⟩ fun w => (E.get w).rows.filter p

/-- Insert a row that satisfies the constraints of the schema. -/
def createTx (check : World → Except ApiError Unit) (row : ρ) : Tx ρ := fun w => do
  check w
  let t ← orThrow ((E.get w).insert? row) (.prisma "P2002")
  return (row, E.set t w)

/-- Update a row; the values written must satisfy the constraints of the schema. -/
def updateTx (check : World → ρ → Except ApiError Unit) (id : String) (f : ρ → ρ)
    (hf : ∀ r, key (f r) = key r) : Tx ρ := fun w => do
  let row ← orThrow ((E.get w).find? id) (.prisma "P2025")
  check w row
  return (f row, E.set ((E.get w).modify id f hf) w)

/-- Update the row `p` finds, or insert one. The values written are checked either way. -/
def upsertTx (check : World → Except ApiError Unit) (p : ρ → Bool) (row : ρ) (f : ρ → ρ)
    (hf : ∀ r, key (f r) = key r) : Tx ρ := fun w =>
  match (E.get w).rows.find? p with
  | some old => do
    check w
    return (f old, E.set ((E.get w).modify (key old) f hf) w)
  | none => E.createTx check row w

/-- Delete a row. -/
def deleteTx (id : String) : Tx ρ := fun w => do
  let row ← orThrow ((E.get w).find? id) (.prisma "P2025")
  return (row, E.set ((E.get w).erase id) w)

def create (check : World → Except ApiError Unit) (row : ρ) : Service ρ :=
  Call.query ⟨E.model, .create, key row⟩ (E.createTx check row)

def update (check : World → ρ → Except ApiError Unit) (id : String) (f : ρ → ρ)
    (hf : ∀ r, key (f r) = key r) : Service ρ :=
  Call.query ⟨E.model, .update, id⟩ (E.updateTx check id f hf)

def upsert (check : World → Except ApiError Unit) (p : ρ → Bool) (row : ρ) (f : ρ → ρ)
    (hf : ∀ r, key (f r) = key r) : Service ρ :=
  Call.query ⟨E.model, .upsert, key row⟩ (E.upsertTx check p row f hf)

def delete (id : String) : Service ρ := Call.query ⟨E.model, .delete, id⟩ (E.deleteTx id)

@[simp] theorem run_findUnique (id : String) (w : World) :
    (E.findUnique id).run w = (.ok ((E.get w).find? id), w) := rfl

@[simp] theorem run_findFirst (label : String) (p : ρ → Bool) (w : World) :
    (E.findFirst label p).run w = (.ok ((E.get w).rows.find? p), w) := rfl

@[simp] theorem run_findLatest (label : String) (p : ρ → Bool) (order : ρ → Int) (w : World) :
    (E.findLatest label p order).run w = (.ok (latestBy order ((E.get w).rows.filter p)), w) := rfl

@[simp] theorem run_findMany (label : String) (p : ρ → Bool) (w : World) :
    (E.findMany label p).run w = (.ok ((E.get w).rows.filter p), w) := rfl

/-- An insertion that succeeds. -/
theorem createTx_ok {check : World → Except ApiError Unit} {row r : ρ} {w w' : World}
    (h : E.createTx check row w = .ok (r, w')) :
    check w = .ok () ∧ r = row ∧ ∃ t, (E.get w).insert? row = some t ∧ w' = E.set t w := by
  unfold createTx at h
  cases hcheck : check w with
  | error e => simp [hcheck, bind, Except.bind] at h
  | ok u =>
    cases hins : (E.get w).insert? row with
    | none => simp [hcheck, hins, orThrow, bind, Except.bind] at h
    | some t =>
      simp only [hcheck, hins, orThrow, bind, Except.bind, pure, Except.pure, Except.ok.injEq,
        Prod.mk.injEq] at h
      obtain ⟨rfl, rfl⟩ := h
      exact ⟨rfl, rfl, t, rfl, rfl⟩

/-- An update that succeeds. -/
theorem updateTx_ok {check : World → ρ → Except ApiError Unit} {id : String} {f : ρ → ρ}
    {hf : ∀ r, key (f r) = key r} {r : ρ} {w w' : World}
    (h : E.updateTx check id f hf w = .ok (r, w')) :
    ∃ row, (E.get w).find? id = some row ∧ check w row = .ok () ∧ r = f row ∧
      w' = E.set ((E.get w).modify id f hf) w := by
  unfold updateTx at h
  cases hrow : (E.get w).find? id with
  | none => simp [hrow, orThrow, bind, Except.bind] at h
  | some row =>
    cases hcheck : check w row with
    | error e => simp [hrow, hcheck, orThrow, bind, Except.bind] at h
    | ok u =>
      simp only [hrow, hcheck, orThrow, bind, Except.bind, pure, Except.pure, Except.ok.injEq,
        Prod.mk.injEq] at h
      obtain ⟨rfl, rfl⟩ := h
      exact ⟨row, rfl, hcheck, rfl, rfl⟩

/-- An upsert that succeeds. -/
theorem upsertTx_ok {check : World → Except ApiError Unit} {p : ρ → Bool} {row r : ρ} {f : ρ → ρ}
    {hf : ∀ r, key (f r) = key r} {w w' : World}
    (h : E.upsertTx check p row f hf w = .ok (r, w')) : check w = .ok () ∧
      ((∃ old, (E.get w).rows.find? p = some old ∧ r = f old ∧
          w' = E.set ((E.get w).modify (key old) f hf) w) ∨
        (E.get w).rows.find? p = none ∧ r = row ∧
          ∃ t, (E.get w).insert? row = some t ∧ w' = E.set t w) := by
  unfold upsertTx at h
  cases hold : (E.get w).rows.find? p with
  | none =>
    rw [hold] at h
    obtain ⟨hcheck, hr, hinsert⟩ := E.createTx_ok h
    exact ⟨hcheck, .inr ⟨rfl, hr, hinsert⟩⟩
  | some old =>
    rw [hold] at h
    obtain ⟨_, hcheck, h⟩ := bind_eq_ok.mp h
    cases h
    exact ⟨hcheck, .inl ⟨old, rfl, rfl, rfl⟩⟩

/-- An insertion whose constraints hold. -/
theorem createTx_of {check : World → Except ApiError Unit} {row : ρ} {w : World}
    {t : Lib.Table key} (hcheck : check w = .ok ()) (ht : (E.get w).insert? row = some t) :
    E.createTx check row w = .ok (row, E.set t w) := by
  simp [createTx, hcheck, ht, orThrow, bind, Except.bind, pure, Except.pure]

/-- An insertion whose constraints do not hold. -/
theorem createTx_of_refused {check : World → Except ApiError Unit} {row : ρ} {w : World}
    {e : ApiError} (hcheck : check w = .error e) : E.createTx check row w = .error e := by
  simp [createTx, hcheck, bind, Except.bind]

/-- An insertion under a key that is taken. -/
theorem createTx_of_taken {check : World → Except ApiError Unit} {row : ρ} {w : World}
    (hcheck : check w = .ok ()) (ht : (E.get w).insert? row = none) :
    E.createTx check row w = .error (.prisma "P2002") := by
  simp [createTx, hcheck, ht, orThrow, bind, Except.bind]

/-- An update of a row there is. -/
theorem updateTx_of {check : World → ρ → Except ApiError Unit} {id : String} {f : ρ → ρ}
    {hf : ∀ r, key (f r) = key r} {w : World} {row : ρ} (hrow : (E.get w).find? id = some row)
    (hcheck : check w row = .ok ()) :
    E.updateTx check id f hf w = .ok (f row, E.set ((E.get w).modify id f hf) w) := by
  simp [updateTx, hrow, hcheck, orThrow, bind, Except.bind, pure, Except.pure]

/-- An insertion alone: it stores the row, or fails and changes nothing. -/
theorem run_create_cases (check : World → Except ApiError Unit) (row : ρ) (w : World) :
    (∃ e, (E.create check row).run w = (.error e, w)) ∨
      ∃ t, check w = .ok () ∧ (E.get w).insert? row = some t ∧
        (E.create check row).run w = (.ok row, E.set t w) := by
  unfold create
  rw [Call.run_query]
  cases h : E.createTx check row w with
  | error e => exact .inl ⟨e, rfl⟩
  | ok r =>
    obtain ⟨hcheck, hr, t, ht, hw⟩ := E.createTx_ok h
    refine .inr ⟨t, hcheck, ht, ?_⟩
    simp only [hr, hw]

/-- An insertion alone, when the constraints hold and the key is free. -/
theorem run_create_of {check : World → Except ApiError Unit} (row : ρ) {w : World}
    (hcheck : check w = .ok ()) (hnone : (E.get w).find? (key row) = none) :
    ∃ t, (E.get w).insert? row = some t ∧ (E.create check row).run w = (.ok row, E.set t w) := by
  obtain ⟨t, ht⟩ := Lib.Table.exists_insert? hnone
  refine ⟨t, ht, ?_⟩
  unfold create
  rw [Call.run_query, E.createTx_of hcheck ht]

/-- Values that break a constraint are refused, and so is a key that is taken. -/
theorem run_create_refused {check : World → Except ApiError Unit} (row : ρ) {w : World}
    {e : ApiError} (hcheck : check w = .error e) :
    (E.create check row).run w = (.error e, w) := by
  unfold create createTx
  rw [Call.run_query, hcheck]
  rfl

theorem run_create_taken {check : World → Except ApiError Unit} (row : ρ) {w : World}
    (hcheck : check w = .ok ()) (htaken : ((E.get w).find? (key row)).isSome) :
    (E.create check row).run w = (.error (.prisma "P2002"), w) := by
  have hinsert : (E.get w).insert? row = none := by
    cases h : (E.get w).insert? row with
    | none => rfl
    | some t =>
      rw [(Lib.Table.insert?_eq_some h).2] at htaken
      cases htaken
  unfold create createTx
  rw [Call.run_query, hcheck, hinsert]
  rfl

/-- An update alone: it rewrites its row, or fails and changes nothing. -/
theorem run_update_cases (check : World → ρ → Except ApiError Unit) (id : String) (f : ρ → ρ)
    (hf : ∀ r, key (f r) = key r) (w : World) :
    (∃ e, (E.update check id f hf).run w = (.error e, w)) ∨
      ∃ row, (E.get w).find? id = some row ∧ check w row = .ok () ∧
        (E.update check id f hf).run w =
          (.ok (f row), E.set ((E.get w).modify id f hf) w) := by
  unfold update
  rw [Call.run_query]
  cases h : E.updateTx check id f hf w with
  | error e => exact .inl ⟨e, rfl⟩
  | ok r =>
    obtain ⟨row, hrow, hcheck, hr, hw⟩ := E.updateTx_ok h
    refine .inr ⟨row, hrow, hcheck, ?_⟩
    simp only [hr, hw]

/-- An update alone, when its row exists and the constraints hold. -/
theorem run_update_of {check : World → ρ → Except ApiError Unit} {id : String} {f : ρ → ρ}
    {hf : ∀ r, key (f r) = key r} {w : World} {row : ρ} (hrow : (E.get w).find? id = some row)
    (hcheck : check w row = .ok ()) :
    (E.update check id f hf).run w = (.ok (f row), E.set ((E.get w).modify id f hf) w) := by
  unfold update
  rw [Call.run_query, E.updateTx_of hrow hcheck]

/-- An upsert alone: it rewrites the row it finds, inserts one, or fails and changes nothing. -/
theorem run_upsert_cases (check : World → Except ApiError Unit) (p : ρ → Bool) (row : ρ) (f : ρ → ρ)
    (hf : ∀ r, key (f r) = key r) (w : World) :
    (∃ e, (E.upsert check p row f hf).run w = (.error e, w)) ∨
      check w = .ok () ∧
        ((∃ old, (E.get w).rows.find? p = some old ∧ (E.upsert check p row f hf).run w =
            (.ok (f old), E.set ((E.get w).modify (key old) f hf) w)) ∨
          ∃ t, (E.get w).rows.find? p = none ∧ (E.get w).insert? row = some t ∧
            (E.upsert check p row f hf).run w = (.ok row, E.set t w)) := by
  unfold upsert
  rw [Call.run_query]
  cases h : E.upsertTx check p row f hf w with
  | error e => exact .inl ⟨e, rfl⟩
  | ok r =>
    obtain ⟨hcheck, ⟨old, hold, hr, hw⟩ | ⟨hnone, hr, t, ht, hw⟩⟩ := E.upsertTx_ok h
    · exact .inr ⟨hcheck, .inl ⟨old, hold, by simp only [hr, hw]⟩⟩
    · exact .inr ⟨hcheck, .inr ⟨t, hnone, ht, by simp only [hr, hw]⟩⟩

/-- An upsert that finds its row, and whose values are stored. -/
theorem run_upsert_of {check : World → Except ApiError Unit} {p : ρ → Bool} {row old : ρ}
    {f : ρ → ρ} {hf : ∀ r, key (f r) = key r} {w : World} (hcheck : check w = .ok ())
    (hold : (E.get w).rows.find? p = some old) : (E.upsert check p row f hf).run w =
      (.ok (f old), E.set ((E.get w).modify (key old) f hf) w) := by
  unfold upsert
  rw [Call.run_query]
  unfold upsertTx
  rw [hold]
  simp only [hcheck, bind, Except.bind, pure, Except.pure]

/-- A deletion alone: it removes its row, or fails and changes nothing. -/
theorem run_delete_cases (id : String) (w : World) :
    (∃ e, (E.delete id).run w = (.error e, w)) ∨
      ∃ row, (E.get w).find? id = some row ∧
        (E.delete id).run w = (.ok row, E.set ((E.get w).erase id) w) := by
  unfold delete
  rw [Call.run_query]
  unfold deleteTx
  cases hrow : (E.get w).find? id with
  | none => exact .inl ⟨_, rfl⟩
  | some row => exact .inr ⟨row, rfl, rfl⟩

/-! A view that does not look at the table of an entity is kept by its writes. -/

theorem keeps_create {τ : Type} {g : World → τ} (hset : ∀ t w, g (E.set t w) = g w)
    (check : World → Except ApiError Unit) (row : ρ) : (E.create check row).Keeps g := by
  refine Call.keeps_query fun w r w' h => ?_
  obtain ⟨-, -, t, -, rfl⟩ := E.createTx_ok h
  exact hset t w

theorem keeps_update {τ : Type} {g : World → τ} (hset : ∀ t w, g (E.set t w) = g w)
    (check : World → ρ → Except ApiError Unit) (id : String) (f : ρ → ρ)
    (hf : ∀ r, key (f r) = key r) : (E.update check id f hf).Keeps g := by
  refine Call.keeps_query fun w r w' h => ?_
  obtain ⟨_, -, -, -, rfl⟩ := E.updateTx_ok h
  exact hset _ w

theorem keeps_upsert {τ : Type} {g : World → τ} (hset : ∀ t w, g (E.set t w) = g w)
    (check : World → Except ApiError Unit) (p : ρ → Bool) (row : ρ) (f : ρ → ρ)
    (hf : ∀ r, key (f r) = key r) : (E.upsert check p row f hf).Keeps g := by
  refine Call.keeps_query fun w r w' h => ?_
  obtain ⟨-, ⟨_, -, -, rfl⟩ | ⟨-, -, t, -, rfl⟩⟩ := E.upsertTx_ok h
  · exact hset _ w
  · exact hset t w

end Entity

/-- No constraint to check: the columns written are statuses, dates, or texts that were stored or
generated before. -/
def unconstrained {ρ : Type} : World → ρ → Except ApiError Unit := fun _ _ => .ok ()

/-- The texts written are stored. -/
def textColumns {ρ : Type} (texts : List String) : World → ρ → Except ApiError Unit :=
  fun _ _ => checkTexts texts

/-- The `BigInt` columns written must hold their values. -/
def int8Columns {ρ : Type} (values : List Int) : World → ρ → Except ApiError Unit :=
  fun _ _ => checkInt8 values

/-- An update of `BigInt` columns, as part of a transaction. -/
theorem Entity.updateTx_int8 {ρ : Type} {key : ρ → String} (E : Entity key) {values : List Int}
    {id : String} {f : ρ → ρ} {hf : ∀ r, key (f r) = key r} {w : World} {row : ρ}
    (hrow : (E.get w).find? id = some row) :
    E.updateTx (int8Columns values) id f hf w =
      if ∀ n ∈ values, FitsInt8 n then .ok (f row, E.set ((E.get w).modify id f hf) w)
      else .error (.prisma "Unable to fit integer value into INT8") := by
  split_ifs with h
  · exact E.updateTx_of hrow (checkInt8_eq_ok.mpr h)
  · have hcheck : (int8Columns values : World → ρ → Except ApiError Unit) w row =
        .error (.prisma "Unable to fit integer value into INT8") := by
      unfold int8Columns checkInt8
      rw [if_neg (by simpa using h)]
    simp [updateTx, hrow, hcheck, orThrow, bind, Except.bind]

end TrusteeBank
