import TrusteeBank.Services.Reserve

/-!
# The mint authorization workflow

`MintService`: PayChain requests an authorization, a trustee maker reviews it, a checker approves
it under the mint guard or rejects it, and an issued authorization is confirmed, revoked or
expires. Approval earmarks reserve in `LIABILITY:PENDING_MINT`; confirm, revoke and expire release
the earmark.

Identifiers and nonces that the database or the runtime generates are arguments of the operation,
as is the `Clock` it reads.
-/

set_option autoImplicit false

namespace TrusteeBank

open Lib (Call)

section

variable [Runtime]

structure RequestMintAuthorization where
  programId : String
  paychainRequestId : String
  amountMinor : String
  fundingDepositIds : List String
  tenantId : Option String
  destination : Option String

structure ConfirmMint where
  paychainTransactionId : String
  blockchainTxHash : String
  amountMinor : String
  destination : String
  ledgerHeight : Option String
  confirmedAt : String
  paychainSignature : String
  actor : String

/-- `{ id, status }`. -/
structure MintResult where
  id : String
  status : MintAuthorizationStatus
deriving DecidableEq, Repr

structure ApprovedMint extends MintResult where
  authorization : JsValue
  signature : Signature

/-- The approval record of an authorization. -/
def approvalOf (w : World) (authId : String) : Option Approval :=
  w.approvals.rows.find? fun a => a.mintAuthorizationId = some authId

/-- `{ ...auth, status }`. -/
def MintAuthorization.withStatus (status : MintAuthorizationStatus) (auth : MintAuthorization) :
    MintAuthorization :=
  { auth with status }

omit [Runtime] in
theorem MintAuthorization.withStatus_id (status : MintAuthorizationStatus)
    (auth : MintAuthorization) : (auth.withStatus status).id = auth.id := rfl

/-- What an issued authorization carries. -/
def MintAuthorization.asIssued (signature : Signature) (issuedAt expiresAt : Int)
    (auth : MintAuthorization) : MintAuthorization :=
  { auth with
    status := .issued
    signingKeyId := some signature.keyId
    signatureValue := some signature.value
    issuedAt := some issuedAt
    expiresAt := some expiresAt }

omit [Runtime] in
theorem MintAuthorization.asIssued_id (signature : Signature) (issuedAt expiresAt : Int)
    (auth : MintAuthorization) : (auth.asIssued signature issuedAt expiresAt).id = auth.id := rfl

/-- A checker's decision on an approval. -/
def Approval.decided (checkerId : String) (actedAt : Int) (decision : ApprovalDecision)
    (reason : String) (approval : Approval) : Approval :=
  { approval with
    checkerId := some checkerId
    checkerActedAt := some actedAt
    decision
    reason := some reason }

omit [Runtime] in
theorem Approval.decided_id (checkerId : String) (actedAt : Int) (decision : ApprovalDecision)
    (reason : String) (approval : Approval) :
    (approval.decided checkerId actedAt decision reason).id = approval.id := rfl

namespace MintService

open ReserveLedgerService (post)

def authNotFound (authId : String) : ApiError :=
  .notFound ("Mint authorization " ++ authId ++ " not found")

def requireAuth (authId : String) : Service MintAuthorization := do
  let auth ← Prisma.mintAuthorization.findUnique authId
  orThrow auth (authNotFound authId)

/-- `requireAuth(authId, { approval: true })`. -/
def requireAuthWithApproval (authId : String) : Service (MintAuthorization × Option Approval) := do
  let auth ← Call.read ⟨.mintAuthorization, .findUnique, authId⟩ fun w =>
    (w.mintAuthorizations.find? authId).map fun auth => (auth, approvalOf w authId)
  orThrow auth (authNotFound authId)

/-- Write the status of an authorization. -/
def setStatus (authId : String) (status : MintAuthorizationStatus) : Service MintAuthorization :=
  Prisma.mintAuthorization.update unconstrained authId (MintAuthorization.withStatus status)
    (MintAuthorization.withStatus_id status)

/-! ## Request and review -/

/-- The row a request stores. -/
def requestedRow (input : RequestMintAuthorization) (program : Program) (amount : Money)
    (id nonce : String) : MintAuthorization where
  id := id
  programId := input.programId
  paychainRequestId := input.paychainRequestId
  assetId := program.assetId
  amountMinor := amount.minor
  currency := program.referenceCurrency
  tenantId := input.tenantId
  destination := input.destination
  fundingDepositIds := input.fundingDepositIds
  status := .pendingMaker
  nonce := nonce
  signingKeyId := none
  signatureValue := none
  maxMintAmountMinor := amount.minor
  singleUse := true
  issuedAt := none
  expiresAt := none

def mintAuthorizationConstraints (auth : MintAuthorization) (w : World) : Except ApiError Unit := do
  checkInt8 [auth.amountMinor, auth.maxMintAmountMinor]
  checkTexts (auth.paychainRequestId :: auth.tenantId.toList ++ auth.destination.toList ++
    auth.fundingDepositIds)
  checkUnique (w.mintAuthorizations.rows.any fun a =>
    a.paychainRequestId = auth.paychainRequestId || a.nonce = auth.nonce)
  checkForeignKey (w.programs.find? auth.programId).isSome

/-- PayChain requests an authorization. -/
def request (input : RequestMintAuthorization) (id nonce : String) : Service MintResult := do
  let found ← Prisma.program.findUnique input.programId
  let program ← orThrow found (.notFound "Program not found")
  let minor ← bigInt input.amountMinor
  let amount := money minor program.referenceCurrency
  Call.throwIf (amount.minor ≤ 0) (.badRequest "Amount must be positive")
  let row := requestedRow input program amount id nonce
  let auth ← Prisma.mintAuthorization.create (mintAuthorizationConstraints row) row
  AuditService.record
    { actor := "paychain:" ++ input.paychainRequestId
      action := "mint_authorization.requested"
      subjectType := "MINT_AUTHORIZATION"
      subjectId := some auth.id
      afterState := some (.object [("amountMinor", .string input.amountMinor),
        ("status", .string (EnumName.name auth.status))]) }
  return { id := auth.id, status := auth.status }

/-- The approval record `review` creates. -/
def pendingApproval (authId makerId approvalId : String) : Approval where
  id := approvalId
  subjectType := "MINT_AUTHORIZATION"
  mintAuthorizationId := some authId
  makerId := makerId
  checkerId := none
  checkerActedAt := none
  decision := .pending
  reason := none

/-- The approvals once no approval is connected to the authorization. -/
def disconnected (w : World) (authId : String) : Lib.Table Approval.id :=
  match approvalOf w authId with
  | some old =>
    w.approvals.modify old.id (fun a => { a with mintAuthorizationId := none }) fun _ => rfl
  | none => w.approvals

/-- The nested write of `review`: move the authorization to checker review and create its
approval. An approval it already had is disconnected, as the client does for one-to-one
relations. -/
def reviewTx (authId makerId approvalId : String) : Tx MintAuthorization := fun w => do
  let (auth, w) ← Prisma.mintAuthorization.updateTx unconstrained authId
    (MintAuthorization.withStatus .pendingChecker)
    (MintAuthorization.withStatus_id .pendingChecker) w
  let (_, w) ← Prisma.approval.createTx (fun w => checkForeignKey (w.users.find? makerId).isSome)
    (pendingApproval authId makerId approvalId) { w with approvals := disconnected w authId }
  return (auth, w)

/-- A trustee-bank maker reviews the request. -/
def review (authId makerId approvalId : String) : Service MintResult := do
  let (auth, _) ← requireAuthWithApproval authId
  Call.throwIf (auth.status ≠ .pendingMaker)
    (.badRequest ("Authorization is " ++ EnumName.name auth.status ++ ", not awaiting maker review"))
  let maker ← Prisma.user.findUnique makerId
  Call.throwIf (¬∃ u ∈ maker, u.institution = "TRUSTEE_BANK")
    (.badRequest "Maker must be a trustee-bank user")
  let _ ← Call.query ⟨.mintAuthorization, .update, authId⟩ (reviewTx authId makerId approvalId)
  AuditService.record
    { actor := makerId
      actorRole := some "trustee_operations_maker"
      action := "mint_authorization.reviewed"
      subjectType := "MINT_AUTHORIZATION"
      subjectId := some authId
      afterState := some (.object [("status", .string "PENDING_CHECKER")]) }
  return { id := authId, status := .pendingChecker }

/-! ## The guard facts -/

/-- All named deposits exist, once each, and may back minting. -/
def depositsCleared (fundingDepositIds : List String) (deposits : List Deposit) : Bool :=
  fundingDepositIds.length > 0 && deposits.length = fundingDepositIds.length &&
    deposits.all fun d => mintEligibleDepositStatuses.contains d.status

/-- The facts of the guard, from what was read. -/
def guardFacts (clock : Clock) (auth : MintAuthorization) (program : Program)
    (pos : ReservePosition) (deposits : List Deposit) (latestLiability : Option LiabilitySnapshot)
    (mintFeatureEnabled : Bool) (holds : List PlatformControl)
    (latestSnapshot : Option ReserveSnapshot) (latestRecon : Option ReconciliationRun)
    (restrictedAccount : Option TrusteeAccount) (assetSuspend : Option PlatformControl)
    (lastCheckAgeSeconds : Option Int) (makerCheckerComplete : Bool) : MintGuardFacts where
  requested := money auth.amountMinor auth.currency
  capacityInput :=
    { currency := pos.currency
      eligibleReserve := pos.mintCapacity
      existingReserveObligation := money 0 pos.currency
      requiredSafetyBuffer := money 0 pos.currency
      pendingMintAuthorizations := money 0 pos.currency }
  reserveSnapshotAgeSeconds := 0
  maxReserveSnapshotAgeSeconds := Runtime.maxReserveSnapshotAgeS
  bankConnectivityAgeSeconds := lastCheckAgeSeconds.getD 0
  maxBankConnectivityAgeSeconds := Runtime.maxBankConnectivityAgeS
  liabilityFeedAgeSeconds :=
    match latestLiability with
    | some s => ageSeconds (clock 3) s.snapshotTimestamp
    | none => maxSafeInteger
  maxLiabilityFeedAgeSeconds := Runtime.maxLiabilityFeedAgeS
  proofOfReserveAgeSeconds := latestSnapshot.map fun s => ageSeconds (clock 1) s.createdAt
  maxProofOfReserveAgeSeconds := Runtime.maxProofOfReserveAgeS
  hasUnresolvedReconciliation := latestRecon.any fun r => r.status = "EXCEPTIONS"
  complianceHoldActive := !holds.isEmpty
  assetMintingSuspended := assetSuspend.isSome
  programSuspended := program.status = .suspended
  accountRestricted := restrictedAccount.isSome
  fundingDepositsCleared := depositsCleared auth.fundingDepositIds deposits
  makerCheckerComplete := makerCheckerComplete
  mintFeatureEnabled := mintFeatureEnabled

/-- The live facts the guard needs. -/
def gatherGuardFacts (clock : Clock) (authId : String) (makerCheckerComplete : Bool) :
    Service MintGuardFacts := do
  let auth ← requireAuth authId
  let found ← Prisma.program.findUnique auth.programId
  let program ← orThrow found (.notFound "Program not found")
  let pos ← ReserveService.position clock auth.programId
  let deposits ← if auth.fundingDepositIds.length > 0 then
      Prisma.deposit.findMany authId fun d => auth.fundingDepositIds.contains d.id
    else pure []
  let latestLiability ← ReserveService.latestLiability auth.programId
  let mintFeatureEnabled ← FeatureFlagsService.isEnabled "mint.authorization.enabled"
  let holds ← Prisma.platformControl.findMany authId fun c => c.value &&
    ["compliance.hold.program." ++ auth.programId, "compliance.hold.global"].contains c.key
  let latestSnapshot ← Prisma.reserveSnapshot.findLatest auth.programId
    (fun s => s.programId = auth.programId) ReserveSnapshot.createdAt
  let latestRecon ← Prisma.reconciliationRun.findLatest auth.programId
    (fun r => r.programId = some auth.programId) ReconciliationRun.createdAt
  let restrictedAccount ← Prisma.trusteeAccount.findFirst auth.programId fun a =>
    a.programId = auth.programId && [AccountStatus.restricted, .onHold].contains a.status
  let assetSuspend ← Prisma.platformControl.findFirst auth.assetId fun c => c.value &&
    ["asset.suspend." ++ auth.assetId, "mint.global-suspend"].contains c.key
  let lastCheckAgeSeconds ← BankBalanceService.lastCheckAgeSeconds (clock 2)
  return guardFacts clock auth program pos deposits latestLiability mintFeatureEnabled holds
    latestSnapshot latestRecon restrictedAccount assetSuspend lastCheckAgeSeconds
    makerCheckerComplete

/-! ## Approve and reject -/

def decisionConstraints (checkerId reason : String) (w : World) (_ : Approval) :
    Except ApiError Unit := do
  checkTexts [reason]
  checkForeignKey (w.users.find? checkerId).isSome

/-- Record a checker's decision on an approval. -/
def recordDecision (approvalId checkerId : String) (actedAt : Int) (decision : ApprovalDecision)
    (reason : String) : Service Approval :=
  Prisma.approval.update (decisionConstraints checkerId reason) approvalId
    (Approval.decided checkerId actedAt decision reason)
    (Approval.decided_id checkerId actedAt decision reason)

/-- The first step of `approve` and `reject`: the authorization, and the approval whose maker must
differ from the checker. -/
def makerDiffers (approval : Option Approval) (checkerId message : String) :
    Except ApiError Approval := do
  let approval ← orThrow approval (.badRequest "Missing approval record")
  if approval.makerId = checkerId then .error (.forbidden message) else .ok approval

/-- What is recorded of a refusal. -/
def guardBlocked (reasons : List String) : String := "Guard blocked: " ++ ", ".intercalate reasons

/-- The guard refused: reject and record every reason. -/
def block {α : Type} (clock : Clock) (authId checkerId : String) (approval : Approval)
    (decision : MintGuardDecision) : Service α := do
  let reasons := decision.reasons.map EnumName.name
  let _ ← setStatus authId .rejected
  let _ ← recordDecision approval.id checkerId (clock 4) .rejected (guardBlocked reasons)
  EventsService.publish PlatformEvent.mintAuthorizationRejected
    (.object [("authorizationId", .string authId), ("reasons", .strings reasons)]) "PAYCHAIN"
  throw (.badRequestBody "Mint blocked by reserve/compliance guard" "reasons" reasons)

/-- The payload an issued authorization is signed over. -/
def authorizationPayload (auth : MintAuthorization) (issuedAt expiresAt : String) : JsValue :=
  .object
    [("authorizationId", .string auth.id), ("programId", .string auth.programId),
     ("assetId", .string auth.assetId), ("amountMinor", .string (toString auth.amountMinor)),
     ("currency", .string auth.currency), ("nonce", .string auth.nonce),
     ("issuedAt", .string issuedAt), ("expiresAt", .string expiresAt),
     ("singleUse", .bool true)]

/-- The entries of the workflow: the references of an entry about an authorization. -/
def mintReferences (auth : MintAuthorization) (sourcePrefix actor : String)
    (approvalRef : Option String) : JournalReferences :=
  { source := sourcePrefix ++ auth.id
    programId := auth.programId
    assetId := auth.assetId
    actor
    approvalRef
    correlationId := none }

/-- Write what an issued authorization carries. -/
def setIssued (authId : String) (signature : Signature) (issuedAt expiresAt : Int) :
    Service MintAuthorization :=
  Prisma.mintAuthorization.update unconstrained authId
    (MintAuthorization.asIssued signature issuedAt expiresAt)
    (MintAuthorization.asIssued_id signature issuedAt expiresAt)

/-- The guard allowed: sign, earmark the reserve, issue. -/
def issue (clock : Clock) (auth : MintAuthorization) (approval : Approval)
    (checkerId reason : String) (capacity : Money) : Service ApprovedMint := do
  let issuedAt := clock 5
  let expiresDate := newDate (Runtime.mintAuthTtlS.map fun ttl => issuedAt + ttl * 1000)
  let expiresIso ← toISOString expiresDate
  let expiresAt ← checkDate expiresDate
  let payload := authorizationPayload auth (isoString issuedAt) expiresIso
  let signature := signPayload .mintAuthorization payload
  let entry ← mintReservationEntry (money auth.amountMinor auth.currency)
    (mintReferences auth "mint-auth:" checkerId (some approval.id))
  post entry
  let _ ← setIssued auth.id signature issuedAt expiresAt
  let _ ← recordDecision approval.id checkerId issuedAt .approved reason
  AuditService.record
    { actor := checkerId
      actorRole := some "trustee_operations_checker"
      action := "mint_authorization.approved"
      subjectType := "MINT_AUTHORIZATION"
      subjectId := some auth.id
      approvalRef := some approval.id
      afterState := some (.object [("status", .string "ISSUED"),
        ("capacityMinor", .bigint capacity.minor)]) }
  EventsService.publishWithArtifact PlatformEvent.mintAuthorizationApproved
    (.object [("authorizationId", .string auth.id), ("programId", .string auth.programId)])
    (.object [("authorizationId", .string auth.id), ("reference", .string auth.paychainRequestId),
      ("tenantId", .ofOption auth.tenantId), ("assetId", .string auth.assetId),
      ("amount", .string (toString auth.amountMinor)),
      ("destination", .ofOption auth.destination), ("expiresAt", .string expiresIso)])
    .mintAuthorization "PAYCHAIN"
  return { id := auth.id, status := .issued, authorization := payload, signature }

/-- A checker approves: segregation of duties, the guard on live facts, then issue. -/
def approve (clock : Clock) (authId checkerId reason : String) : Service ApprovedMint := do
  let (auth, approval) ← requireAuthWithApproval authId
  Call.throwIf (auth.status ≠ .pendingChecker)
    (.badRequest ("Authorization is " ++ EnumName.name auth.status ++ ", not awaiting approval"))
  let approval ← makerDiffers approval checkerId "A user cannot approve their own request (§9)"
  let checker ← Prisma.user.findUnique checkerId
  let _ ← orThrow checker (.notFound "Checker user not found")
  let facts ← gatherGuardFacts clock authId true
  let decision ← evaluateMintGuard facts
  if decision.allowed then issue clock auth approval checkerId reason decision.capacity
  else block clock authId checkerId approval decision

/-- A checker rejects outright. -/
def reject (clock : Clock) (authId checkerId reason : String) : Service MintResult := do
  let (_, approval) ← requireAuthWithApproval authId
  let approval ← makerDiffers approval checkerId "A user cannot action their own request (§9)"
  let _ ← setStatus authId .rejected
  let _ ← recordDecision approval.id checkerId (clock 0) .rejected reason
  EventsService.publish PlatformEvent.mintAuthorizationRejected
    (.object [("authorizationId", .string authId), ("reasons", .strings ["MANUAL_REJECTION"])])
    "PAYCHAIN"
  return { id := authId, status := .rejected }

/-! ## Revoke, expire and confirm -/

/-- Release the earmark of an authorization. -/
def release (auth : MintAuthorization) (sourcePrefix actor : String) : Service Unit := do
  let entry ← mintReleaseEntry (money auth.amountMinor auth.currency)
    (mintReferences auth sourcePrefix actor none)
  post entry

/-- Revoke an issued authorization before it is consumed. -/
def revoke (authId actor reason : String) : Service MintResult := do
  let auth ← requireAuth authId
  Call.throwIf (auth.status ≠ .issued)
    (.badRequest ("Only ISSUED authorizations can be revoked, is " ++ EnumName.name auth.status))
  release auth "mint-revoke:" actor
  let _ ← setStatus authId .revoked
  AuditService.record
    { actor
      action := "mint_authorization.revoked"
      subjectType := "MINT_AUTHORIZATION"
      subjectId := some authId
      reason := some reason }
  return { id := authId, status := .revoked }

def expire (authId actor : String) : Service MintResult := do
  let auth ← requireAuth authId
  if auth.status ≠ .issued then return { id := authId, status := auth.status }
  else
    release auth "mint-expire:" actor
    let _ ← setStatus authId .expired
    EventsService.publish PlatformEvent.mintAuthorizationExpired
      (.object [("authorizationId", .string authId)]) "PAYCHAIN"
    return { id := authId, status := .expired }

/-- `input.ledgerHeight ? BigInt(input.ledgerHeight) : null`. -/
def ledgerHeightOf (ledgerHeight : Option String) : Except ApiError (Option Int) :=
  match ledgerHeight with
  | none => .ok none
  | some text => if text = "" then .ok none else (bigInt text).map some

def mintConfirmationConstraints (row : MintConfirmation) (w : World) : Except ApiError Unit := do
  checkInt8 (row.amountMinor :: row.ledgerHeight.toList)
  checkTexts [row.paychainTransactionId, row.blockchainTxHash, row.destination,
    row.paychainSignature]
  checkForeignKey (w.mintAuthorizations.find? row.mintAuthorizationId).isSome

/-- The row a confirmation stores. -/
def confirmationRow (auth : MintAuthorization) (input : ConfirmMint) (amountMinor : Int)
    (ledgerHeight : Option Int) (confirmedAt : Int) : MintConfirmation where
  mintAuthorizationId := auth.id
  paychainTransactionId := input.paychainTransactionId
  blockchainTxHash := input.blockchainTxHash
  amountMinor := amountMinor
  currency := auth.currency
  destination := input.destination
  ledgerHeight := ledgerHeight
  confirmedAt := confirmedAt
  paychainSignature := input.paychainSignature
  verified := true

/-- Store the confirmation: the arguments of the row are evaluated first. -/
def createConfirmation (auth : MintAuthorization) (input : ConfirmMint) (amountMinor : Int) :
    Service MintConfirmation := do
  let ledgerHeight ← ledgerHeightOf input.ledgerHeight
  let confirmedAt ← checkDate (newDateOf input.confirmedAt)
  let row := confirmationRow auth input amountMinor ledgerHeight confirmedAt
  Prisma.mintConfirmation.create (mintConfirmationConstraints row) row

/-- Whether an authorization has expired at a reading of the clock. -/
def hasExpired (auth : MintAuthorization) (now : Int) : Bool :=
  match auth.expiresAt with
  | some expiresAt => expiresAt < now
  | none => false

/-- PayChain confirms the mint on chain. -/
def confirm (clock : Clock) (authId : String) (input : ConfirmMint) : Service MintResult := do
  let auth ← requireAuth authId
  Call.throwIf (auth.status ≠ .issued)
    (.badRequest ("Authorization must be ISSUED to confirm (single-use), is " ++
      EnumName.name auth.status))
  if hasExpired auth (clock 0) then
    let _ ← expire authId input.actor
    throw (.badRequest "Authorization expired before confirmation")
  else
    let amountMinor ← bigInt input.amountMinor
    Call.throwIf (amountMinor ≠ auth.amountMinor)
      (.badRequest "Confirmed amount does not match authorization (§19)")
    release auth "mint-confirm:" input.actor
    let _ ← createConfirmation auth input amountMinor
    let _ ← setStatus authId .consumed
    AuditService.record
      { actor := input.actor
        action := "mint.confirmed"
        subjectType := "MINT_AUTHORIZATION"
        subjectId := some authId
        afterState := some (.object [("blockchainTxHash", .string input.blockchainTxHash)]) }
    EventsService.publish PlatformEvent.mintConfirmed
      (.object [("authorizationId", .string authId),
        ("blockchainTxHash", .string input.blockchainTxHash)]) "PAYCHAIN"
    return { id := authId, status := .consumed }

end MintService

/-! ## Operations -/

/-- A call of the service, with its arguments. -/
inductive MintOp
  | request (input : RequestMintAuthorization) (id nonce : String)
  | review (authId makerId approvalId : String)
  | approve (clock : Clock) (authId checkerId reason : String)
  | reject (clock : Clock) (authId checkerId reason : String)
  | revoke (authId actor reason : String)
  | confirm (clock : Clock) (authId : String) (input : ConfirmMint)
  | expire (authId actor : String)

def MintOp.call : MintOp → Service Unit
  | .request input id nonce => (MintService.request input id nonce).void
  | .review authId makerId approvalId => (MintService.review authId makerId approvalId).void
  | .approve clock authId checkerId reason =>
    (MintService.approve clock authId checkerId reason).void
  | .reject clock authId checkerId reason => (MintService.reject clock authId checkerId reason).void
  | .revoke authId actor reason => (MintService.revoke authId actor reason).void
  | .confirm clock authId input => (MintService.confirm clock authId input).void
  | .expire authId actor => (MintService.expire authId actor).void

/-- Serve one operation alone, whether it succeeds or throws. -/
def MintOp.step (w : World) (op : MintOp) : World := (op.call.run w).2

end

/-! ## A small deployment -/

namespace Sample

attribute [local instance] Runtime.ascii

def program : Program where
  id := "P1"
  issuerId := "I1"
  assetId := "A1"
  referenceCurrency := "USD"
  requiredRatioBps := 10000
  safetyBufferBps := 0
  status := .active

def account : TrusteeAccount where
  id := "T1"
  programId := "P1"
  maskedAccountNumber := "***1"
  accountName := "Reserve"
  bankLegalEntity := "Bank"
  supportedAssetId := "A1"
  status := .active

/-- A cleared deposit of 100. -/
def deposit : Deposit where
  id := "D1"
  programId := "P1"
  fundingInstructionId := none
  trusteeAccountId := "T1"
  bankTransactionId := "B1"
  payerName := none
  amountMinor := 100
  currency := "USD"
  paymentReference := none
  transactionDate := 0
  status := .cleared
  clearedAt := some 0

/-- The feed reports that nothing circulates. -/
def snapshot : LiabilitySnapshot where
  id := "L1"
  programId := "P1"
  assetId := "A1"
  assetCode := "COIN"
  blockchainNetwork := "net"
  issuerAccount := "issuer"
  circulatingMinor := 0
  treasuryHeldMinor := 0
  lockedMinor := 0
  pendingMintMinor := 0
  pendingBurnMinor := 0
  pendingRedemptionMinor := 0
  confirmedBurnMinor := 0
  effectiveLiabilityMinor := 0
  currency := "USD"
  ledgerReference := "ref"
  sourceVersion := "1"
  sequence := 1
  snapshotTimestamp := 0
  signatureKeyId := "unsigned"
  signatureValue := ""
  signatureVerified := true

/-- The entry that books the deposit. -/
def depositEntry : Except ApiError JournalEntry :=
  clearedDepositEntry (money 100 "USD")
    { source := "opening", programId := "P1", assetId := "A1", actor := "bank"
      approvalRef := none, correlationId := none }

/-- An operator of the trustee bank. -/
def user (id : String) : User where
  id := id
  email := id ++ "@bank"
  institution := "TRUSTEE_BANK"
  roles := ["operator"]
  passwordHash := some "hash"
  mfaSecret := none
  mfaEnabled := false
  disabled := false

/-- A merchant PayKH reports as active and verified. -/
def merchant : PaykhMerchant where
  id := "M1"
  tenantId := "tenant-1"
  merchantCode := "m-1"
  paykhMerchantRef := none
  legalName := "Merchant"
  country := none
  kycStatus := "VERIFIED"
  status := "ACTIVE"
  riskLevel := "LOW"
  source := "PAYKH"
  lastReportedAt := 0

/-- A profile that accepts payments. -/
def profile : PaykhPaymentProfile where
  id := "PP1"
  tenantId := "tenant-1"
  recipientName := "Tenant"
  recipientAccountMasked := "***9"
  bankName := "Bank"
  currency := "USD"
  khqrPayload := "khqr"
  status := .active
  verifiedAt := some 0

/-- A program with a reserve of 100 and nothing minted. -/
def world : World :=
  { World.empty with
    programs := ⟨[program], by decide⟩
    trusteeAccounts := ⟨[account], by decide⟩
    deposits := ⟨[deposit], by decide⟩
    liabilitySnapshots := ⟨[snapshot], by decide⟩
    ledger := depositEntry.toOption.toList
    users := ⟨[user "alice", user "bob"], by decide⟩
    featureFlags := ⟨[⟨"mint.authorization.enabled", true⟩], by decide⟩ }

def clock : Clock := fun _ => 0

/-- A request for an amount, funded by the deposit. -/
def request (paychainRequestId amountMinor : String) : RequestMintAuthorization where
  programId := "P1"
  paychainRequestId := paychainRequestId
  amountMinor := amountMinor
  fundingDepositIds := ["D1"]
  tenantId := none
  destination := none

/-- A confirmation of an amount, with a ledger height. -/
def confirmation (amountMinor : String) (ledgerHeight : Option String) : ConfirmMint where
  paychainTransactionId := "tx"
  blockchainTxHash := "hash"
  amountMinor := amountMinor
  destination := "wallet"
  ledgerHeight := ledgerHeight
  confirmedAt := "2026-01-01T00:00:00Z"
  paychainSignature := "signature"
  actor := "paychain"

/-- Request, review by alice, approval by bob. -/
def mint (authId amountMinor : String) : List MintOp :=
  [.request (request ("R-" ++ authId) amountMinor) authId ("N-" ++ authId),
   .review authId "alice" ("AP-" ++ authId), .approve clock authId "bob" "ok"]

end Sample

end TrusteeBank
