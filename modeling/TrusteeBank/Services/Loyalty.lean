import TrusteeBank.Services.ProgramFunds
import TrusteeBank.Services.Settlements

/-!
# Loyalty stablecoins

`LoyaltyService`: a program fund is bound to a loyalty stablecoin. Issuance moves value in the
ledger from the program fund to the stablecoin and sets the backing aside in the fund; redemption
moves it on to the merchant payable. The mint and the burn on Stellar are PayChain's, reached
through `IssuanceGateway`; without a configured PayChain they are simulated.

**Theorem (`LoyaltyOp.effect`).** An operation binds a stablecoin, issues, redeems, reconciles, or
changes nothing besides the audit trail and the events. Issuance and redemption post their entry
first, so it stays when the request to PayChain fails or the counters cannot be stored.
-/

set_option autoImplicit false

namespace TrusteeBank

open Lib (Call)
open LedgerAccountCode

section

variable [Runtime]

/-! ## Inputs and results -/

structure BindLoyaltyInput where
  programFundId : String
  decimals : Option Int
  denominationMinor : Option String
  stellarAssetCode : Option String
  stellarIssuer : Option String
  stellarDistributor : Option String
  actor : String

structure IssueLoyaltyInput where
  liabilityId : String
  customerRef : String
  amountMinor : Option String
  units : Option String
  actor : String

structure RedeemLoyaltyInput where
  liabilityId : String
  merchantId : String
  customerRef : String
  amountMinor : Option String
  units : Option String
  actor : String

/-- What came of the request to PayChain. -/
structure ChainResult where
  status : String
  executedBy : String
  paychainReference : Option String
  onChainTxHash : Option String
deriving DecidableEq, Repr

/-- The texts of PayChain that are stored. -/
def ChainResult.texts (chain : ChainResult) : List String :=
  chain.paychainReference.toList ++ chain.onChainTxHash.toList

structure IssuedLoyalty where
  issuanceId : String
  liabilityId : String
  amountMinor : String
  units : Option String
  currency : String
  onChain : ChainResult
deriving DecidableEq, Repr

structure RedeemedLoyalty where
  redemptionId : String
  liabilityId : String
  merchantId : String
  amountMinor : String
  units : Option String
  settlementRequired : Bool
  onChain : ChainResult
deriving DecidableEq, Repr

structure ReconciledLoyalty where
  liabilityId : String
  currency : String
  ledgerOutstandingMinor : String
  counterOutstandingMinor : String
  onChainSupplyMinor : Option String
  onChainVerified : Bool
  safeguardedBackingMinor : Option String
  fullyBacked : Option Bool
  reconciliationStatus : String
  asOf : String
deriving DecidableEq, Repr

namespace PaykhLoyaltyLiability

/-- `{ ...liability, outstandingMinor, issuedTotalMinor }`. -/
def asIssued (outstandingMinor issuedTotalMinor : Int) (l : PaykhLoyaltyLiability) :
    PaykhLoyaltyLiability :=
  { l with outstandingMinor, issuedTotalMinor }

/-- `{ ...liability, outstandingMinor, redeemedTotalMinor }`. -/
def asRedeemed (outstandingMinor redeemedTotalMinor : Int) (l : PaykhLoyaltyLiability) :
    PaykhLoyaltyLiability :=
  { l with outstandingMinor, redeemedTotalMinor }

/-- `{ ...liability, onChainSupplyMinor, reconciliationStatus, lastReconciledAt }`. -/
def asReconciled (onChainSupplyMinor : Int) (reconciliationStatus : String)
    (lastReconciledAt : Int) (l : PaykhLoyaltyLiability) : PaykhLoyaltyLiability :=
  { l with
    onChainSupplyMinor, reconciliationStatus
    lastReconciledAt := some lastReconciledAt }

omit [Runtime]

theorem asIssued_id (outstandingMinor issuedTotalMinor : Int) (l : PaykhLoyaltyLiability) :
    (l.asIssued outstandingMinor issuedTotalMinor).id = l.id := rfl

theorem asRedeemed_id (outstandingMinor redeemedTotalMinor : Int) (l : PaykhLoyaltyLiability) :
    (l.asRedeemed outstandingMinor redeemedTotalMinor).id = l.id := rfl

theorem asReconciled_id (onChainSupplyMinor : Int) (reconciliationStatus : String)
    (lastReconciledAt : Int) (l : PaykhLoyaltyLiability) :
    (l.asReconciled onChainSupplyMinor reconciliationStatus lastReconciledAt).id = l.id := rfl

end PaykhLoyaltyLiability

/-! ## The gateway -/

inductive IssuanceOperation
  | issue | burn
deriving DecidableEq, Repr

namespace IssuanceOperation

omit [Runtime]

def name : IssuanceOperation → String
  | issue => "ISSUE"
  | burn => "BURN"

/-- `operation.toLowerCase()`. -/
def lowerName : IssuanceOperation → String
  | issue => "issue"
  | burn => "burn"

end IssuanceOperation

structure IssuanceExecutionRequest where
  authorizationId : String
  operation : IssuanceOperation
  assetCode : String
  destination : String
  amountMinor : String
  decimals : Int
  currency : String
  reference : String
  signature : Signature

structure IssuanceExecutionResult where
  accepted : Bool
  status : String
  paychainReference : Option String
  onChainTxHash : Option String

structure StellarAssetRef where
  assetCode : String
  issuer : String
  decimals : Int

/-- What the gateway reaches: PayChain and Horizon, where they are configured. The replies and
the hash come from outside the repository. -/
structure IssuanceGateway where
  sha256Hex : String → String
  paychain : Option (IssuanceExecutionRequest → Except ApiError IssuanceExecutionResult)
  /-- The circulating supply of an asset, in minor units. -/
  horizon : Option (StellarAssetRef → Except ApiError String)

namespace IssuanceGatewayService

/-- A deterministic reference, when no PayChain is configured. -/
def simulatedReference (gateway : IssuanceGateway) (req : IssuanceExecutionRequest) : String :=
  "sim:" ++ String.ofList ((gateway.sha256Hex
    (req.operation.name ++ ":" ++ req.reference ++ ":" ++ req.amountMinor)).toList.take 40)

/-- The result, and whether it is simulated. -/
def execute (gateway : IssuanceGateway) (req : IssuanceExecutionRequest) :
    Except ApiError (IssuanceExecutionResult × Bool) :=
  match gateway.paychain with
  | none => .ok (⟨true, "SIMULATED", some (simulatedReference gateway req), none⟩, true)
  | some send => (send req).map fun res => (res, false)

/-- Independently read the circulating supply on chain. -/
def readOnChainSupply (gateway : IssuanceGateway) (asset : StellarAssetRef) :
    Except ApiError (Option String) :=
  match gateway.horizon with
  | none => .ok none
  | some getSupply => (getSupply asset).map some

end IssuanceGatewayService

namespace LoyaltyService

open ReserveLedgerService (post accountBalance)

def requireLiability (liabilityId : String) : Service PaykhLoyaltyLiability := do
  let l ← Prisma.paykhLoyaltyLiability.findUnique liabilityId
  orThrow l (.notFound ("Loyalty liability " ++ liabilityId ++ " not found"))

/-- A text that is present and not empty. -/
def given (text : Option String) : Option String := text.filter fun s => s ≠ ""

/-- Resolve a requested amount from token units or from backing minor units. -/
def resolveAmount (liability : PaykhLoyaltyLiability) (amountMinor units : Option String) :
    Except ApiError (Money × Option Int) :=
  match given units with
  | some units => do
    let units ← bigInt units
    let peg ← makePeg liability.pegCurrency liability.denominationMinor
    let amount ← backingForUnits units peg
    return (amount, some units)
  | none =>
    match given amountMinor with
    | some amountMinor => do
      let minor ← bigInt amountMinor
      return (money minor liability.pegCurrency, none)
    | none => .error (.badRequest "Provide either units or amountMinor")

/-- The artifact the trustee signs. -/
def chainArtifact (operation : IssuanceOperation) (liability : PaykhLoyaltyLiability)
    (assetCode destination amountMinor reference : String) : JsValue :=
  .object
    [("operation", .string operation.name), ("assetCode", .string assetCode),
     ("destination", .string destination), ("amountMinor", .string amountMinor),
     ("currency", .string liability.pegCurrency), ("reference", .string reference)]

/-- Sign the authorization and delegate execution on chain to PayChain. -/
def authorizeOnChain (gateway : IssuanceGateway) (uuid : String) (operation : IssuanceOperation)
    (liability : PaykhLoyaltyLiability) (amountMinor : String) : Except ApiError ChainResult :=
  match given liability.stellarAssetCode, given liability.stellarDistributor with
  | some assetCode, some destination => do
    let reference := "paykh-loyalty-" ++ operation.lowerName ++ ":" ++ liability.id ++ ":" ++ uuid
    let signature := signPayload .mintAuthorization
      (chainArtifact operation liability assetCode destination amountMinor reference)
    let (res, simulated) ← IssuanceGatewayService.execute gateway
      { authorizationId := reference
        operation, assetCode, destination, amountMinor
        decimals := liability.decimals
        currency := liability.pegCurrency
        reference, signature }
    return {
      status :=
        if simulated then "ONCHAIN_SIMULATED"
        else if res.accepted then "ONCHAIN_CONFIRMED"
        else "ONCHAIN_FAILED"
      executedBy := if simulated then "simulated" else "paychain"
      paychainReference := res.paychainReference
      onChainTxHash := res.onChainTxHash }
  | _, _ => .ok ⟨"OFFCHAIN", "offchain", none, none⟩

/-! ## Bind -/

/-- The row a binding stores. -/
def boundLiability (fund : PaykhProgramFund) (input : BindLoyaltyInput) (id : String)
    (denominationMinor : Int) : PaykhLoyaltyLiability where
  id := id
  tenantId := fund.tenantId
  paykhProgramId := fund.paykhProgramId
  programFundId := fund.id
  classification := fund.classification
  currency := fund.currency
  pegCurrency := fund.currency
  denominationMinor := denominationMinor
  decimals := input.decimals.getD 2
  stellarAssetCode := input.stellarAssetCode
  stellarIssuer := input.stellarIssuer
  stellarDistributor := input.stellarDistributor
  outstandingMinor := 0
  issuedTotalMinor := 0
  redeemedTotalMinor := 0
  onChainSupplyMinor := 0
  reconciliationStatus := "PENDING"
  lastReconciledAt := none
  status := "ACTIVE"

def liabilityConstraints (row : PaykhLoyaltyLiability) (w : World) : Except ApiError Unit := do
  checkTexts ([row.stellarAssetCode, row.stellarIssuer, row.stellarDistributor].flatMap
    Option.toList)
  checkInt8 [row.denominationMinor]
  checkInt4 row.decimals
  checkForeignKey (w.paykhProgramFunds.find? row.programFundId).isSome
  checkUnique (w.paykhLoyaltyLiabilities.rows.any fun l => l.programFundId = row.programFundId)
  checkUnique (w.paykhLoyaltyLiabilities.rows.any fun l =>
    l.tenantId = row.tenantId && l.paykhProgramId = row.paykhProgramId)

/-- `input.denominationMinor ? BigInt(input.denominationMinor) : 1n`. -/
def denominationOf (input : BindLoyaltyInput) : Except ApiError Int :=
  match given input.denominationMinor with
  | some text => bigInt text
  | none => .ok 1

/-- Bind a program fund to a backed loyalty stablecoin. -/
def bind (input : BindLoyaltyInput) (id : String) : Service PaykhLoyaltyLiability := do
  let found ← Prisma.paykhProgramFund.findUnique input.programFundId
  let fund ← orThrow found (.notFound ("Program fund " ++ input.programFundId ++ " not found"))
  let required ← requiresFiatBacking fund.classification
  Call.throwIf (required = false)
    (.badRequest ("Classification " ++ fund.classification ++
      " is not fiat-backed; a loyalty stablecoin must be fully reserved (§23)"))
  let existing ← Prisma.paykhLoyaltyLiability.findFirst fund.id fun l => l.programFundId = fund.id
  Call.throwIf (existing.isSome = true)
    (.conflict ("Program fund " ++ fund.id ++ " already has a loyalty stablecoin"))
  let denominationMinor ← denominationOf input
  Call.throwIf (denominationMinor ≤ 0) (.badRequest "denominationMinor must be positive")
  let row := boundLiability fund input id denominationMinor
  let liability ← Prisma.paykhLoyaltyLiability.create (liabilityConstraints row) row
  AuditService.record
    { actor := input.actor
      action := "paykh.loyalty.bound"
      subjectType := "PAYKH_LOYALTY_LIABILITY"
      subjectId := some liability.id
      afterState := some (.object [("stellarAssetCode", .ofOption input.stellarAssetCode),
        ("denominationMinor", .string (toString denominationMinor))]) }
  return liability

/-! ## Issue -/

/-- The references of a loyalty entry. -/
def loyaltyReferences (liability : PaykhLoyaltyLiability) (source actor : String) :
    JournalReferences where
  source := source ++ liability.id
  programId := liability.tenantId
  assetId := liability.stellarAssetCode.getD liability.paykhProgramId
  actor := actor
  approvalRef := none
  correlationId := none

/-- The row an issuance stores. -/
def issuanceRow (input : IssueLoyaltyInput) (id : String) (liability : PaykhLoyaltyLiability)
    (amountMinor : Int) (units : Option Int) (chain : ChainResult) : PaykhLoyaltyIssuance where
  id := id
  loyaltyLiabilityId := liability.id
  customerRef := input.customerRef
  units := units
  amountMinor := amountMinor
  currency := liability.pegCurrency
  status := chain.status
  paychainReference := chain.paychainReference
  onChainTxHash := chain.onChainTxHash
  actor := input.actor

/-- The texts the entry of an issuance does not have. -/
def issuanceTexts (row : PaykhLoyaltyIssuance) : List String :=
  row.customerRef :: (row.paychainReference.toList ++ row.onChainTxHash.toList)

def issuanceConstraints (row : PaykhLoyaltyIssuance) (w : World) : Except ApiError Unit := do
  checkTexts (issuanceTexts row)
  checkInt8 (row.amountMinor :: row.units.toList)
  checkForeignKey (w.paykhLoyaltyLiabilities.find? row.loyaltyLiabilityId).isSome

/-- Set the backing aside, count the issuance and store it. -/
def issueTx (fund : PaykhProgramFund) (liability : PaykhLoyaltyLiability) (amountMinor : Int)
    (row : PaykhLoyaltyIssuance) : Tx PaykhLoyaltyIssuance := fun w => do
  let reservedMinor := fund.reservedMinor + amountMinor
  let (_, w) ← Prisma.paykhProgramFund.updateTx (int8Columns [reservedMinor]) fund.id
    (PaykhProgramFund.withReserved reservedMinor) (PaykhProgramFund.withReserved_id reservedMinor) w
  let outstandingMinor := liability.outstandingMinor + amountMinor
  let issuedTotalMinor := liability.issuedTotalMinor + amountMinor
  let (_, w) ← Prisma.paykhLoyaltyLiability.updateTx
    (int8Columns [outstandingMinor, issuedTotalMinor]) liability.id
    (PaykhLoyaltyLiability.asIssued outstandingMinor issuedTotalMinor)
    (PaykhLoyaltyLiability.asIssued_id outstandingMinor issuedTotalMinor) w
  Prisma.paykhLoyaltyIssuance.createTx (issuanceConstraints row) row w

/-- Issue backed loyalty stablecoin to a customer. -/
def issue (gateway : IssuanceGateway) (uuid id : String) (input : IssueLoyaltyInput) :
    Service IssuedLoyalty := do
  FeatureFlagsService.requireEnabled "paykh.loyalty.enabled"
  let liability ← requireLiability input.liabilityId
  let found ← Prisma.paykhProgramFund.findUnique liability.programFundId
  let fund ← orThrow found (.notFound ("Program fund " ++ liability.programFundId ++ " not found"))
  let (amount, units) ← resolveAmount liability input.amountMinor input.units
  Call.throwIf (amount.minor ≤ 0) (.badRequest "Issuance amount must be positive")
  let available := fund.fundedMinor - fund.reservedMinor
  Call.throwIf (amount.minor > available)
    (.badRequest ("Insufficient safeguarded backing: available " ++ toString available ++
      ", requested " ++ toString amount.minor ++ " (§23 full-reserve)"))
  let entry ← paykhLoyaltyIssuanceEntry amount
    (loyaltyReferences liability "paykh-loyalty-issue:" input.actor)
  post entry
  let chain ← authorizeOnChain gateway uuid .issue liability (toString amount.minor)
  let row := issuanceRow input id liability amount.minor units chain
  let issuance ← Call.query ⟨.paykhLoyaltyIssuance, .transaction, liability.id⟩
    (issueTx fund liability amount.minor row)
  AuditService.record
    { actor := input.actor
      action := "paykh.loyalty.issued"
      subjectType := "PAYKH_LOYALTY_ISSUANCE"
      subjectId := some issuance.id
      afterState := some (.object [("amountMinor", .string (toString amount.minor)),
        ("units", .ofOption (units.map toString)),
        ("paychainReference", .orUndefined chain.paychainReference)]) }
  EventsService.publishToPaykh PaykhEvent.loyaltyIssued
    (.object [("liabilityId", .string liability.id), ("issuanceId", .string issuance.id),
      ("amountMinor", .string (toString amount.minor)),
      ("units", .ofOption (units.map toString)),
      ("paychainReference", .orUndefined chain.paychainReference),
      ("onChainTxHash", .orUndefined chain.onChainTxHash),
      ("executedBy", .string chain.executedBy)])
  return {
    issuanceId := issuance.id
    liabilityId := liability.id
    amountMinor := toString amount.minor
    units := units.map toString
    currency := liability.pegCurrency
    onChain := chain }

/-! ## Redeem -/

/-- The row a redemption stores. -/
def loyaltyRedemptionRow (input : RedeemLoyaltyInput) (id : String)
    (liability : PaykhLoyaltyLiability) (amountMinor : Int) (chain : ChainResult)
    (confirmedAt : Int) : PaykhLoyaltyRedemption where
  id := id
  loyaltyLiabilityId := liability.id
  tenantId := liability.tenantId
  merchantId := input.merchantId
  customerRef := input.customerRef
  amountMinor := amountMinor
  currency := liability.pegCurrency
  status := "CONFIRMED"
  paychainReference := chain.paychainReference
  onChainTxHash := chain.onChainTxHash
  actor := input.actor
  confirmedAt := some confirmedAt

/-- The texts the entry of a redemption does not have; its merchant is one that is stored. -/
def loyaltyRedemptionTexts (row : PaykhLoyaltyRedemption) : List String :=
  row.customerRef :: (row.paychainReference.toList ++ row.onChainTxHash.toList)

def loyaltyRedemptionConstraints (row : PaykhLoyaltyRedemption) (w : World) :
    Except ApiError Unit := do
  checkTexts (loyaltyRedemptionTexts row)
  checkInt8 [row.amountMinor]
  checkForeignKey (w.paykhLoyaltyLiabilities.find? row.loyaltyLiabilityId).isSome

/-- Count the redemption and store it. -/
def redeemTx (liability : PaykhLoyaltyLiability) (amountMinor : Int)
    (row : PaykhLoyaltyRedemption) : Tx PaykhLoyaltyRedemption := fun w => do
  let outstandingMinor := liability.outstandingMinor - amountMinor
  let redeemedTotalMinor := liability.redeemedTotalMinor + amountMinor
  let (_, w) ← Prisma.paykhLoyaltyLiability.updateTx
    (int8Columns [outstandingMinor, redeemedTotalMinor]) liability.id
    (PaykhLoyaltyLiability.asRedeemed outstandingMinor redeemedTotalMinor)
    (PaykhLoyaltyLiability.asRedeemed_id outstandingMinor redeemedTotalMinor) w
  Prisma.paykhLoyaltyRedemption.createTx (loyaltyRedemptionConstraints row) row w

/-- Redeem loyalty stablecoin at a merchant. -/
def redeem (gateway : IssuanceGateway) (clock : Clock) (uuid id : String)
    (input : RedeemLoyaltyInput) : Service RedeemedLoyalty := do
  FeatureFlagsService.requireEnabled "paykh.loyalty.enabled"
  let _ ← MerchantsService.requireActive input.merchantId
  let liability ← requireLiability input.liabilityId
  let (amount, units) ← resolveAmount liability input.amountMinor input.units
  Call.throwIf (amount.minor ≤ 0) (.badRequest "Redemption amount must be positive")
  Call.throwIf (amount.minor > liability.outstandingMinor)
    (.badRequest ("Cannot redeem more than outstanding: outstanding " ++
      toString liability.outstandingMinor ++ ", requested " ++ toString amount.minor))
  let entry ← paykhLoyaltyRedemptionEntry amount
    (loyaltyReferences liability "paykh-loyalty-redeem:" input.actor)
  post entry
  let chain ← authorizeOnChain gateway uuid .burn liability (toString amount.minor)
  let row := loyaltyRedemptionRow input id liability amount.minor chain (clock 0)
  let redemption ← Call.query ⟨.paykhLoyaltyRedemption, .transaction, liability.id⟩
    (redeemTx liability amount.minor row)
  AuditService.record
    { actor := input.actor
      action := "paykh.loyalty.redeemed"
      subjectType := "PAYKH_LOYALTY_REDEMPTION"
      subjectId := some redemption.id
      afterState := some (.object [("amountMinor", .string (toString amount.minor)),
        ("merchantId", .string input.merchantId),
        ("paychainReference", .orUndefined chain.paychainReference)]) }
  EventsService.publishToPaykh PaykhEvent.loyaltyRedeemed
    (.object [("liabilityId", .string liability.id), ("redemptionId", .string redemption.id),
      ("merchantId", .string input.merchantId),
      ("amountMinor", .string (toString amount.minor)),
      ("paychainReference", .orUndefined chain.paychainReference),
      ("onChainTxHash", .orUndefined chain.onChainTxHash)])
  return {
    redemptionId := redemption.id
    liabilityId := liability.id
    merchantId := input.merchantId
    amountMinor := toString amount.minor
    units := units.map toString
    settlementRequired := true
    onChain := chain }

/-! ## Reconcile -/

/-- The supply on chain, when the stablecoin is bound to an asset and Horizon is configured. -/
def onChainSupply (gateway : IssuanceGateway) (liability : PaykhLoyaltyLiability) :
    Except ApiError (Option Int) :=
  match given liability.stellarAssetCode, given liability.stellarIssuer with
  | some assetCode, some issuer => do
    match ← IssuanceGatewayService.readOnChainSupply gateway
      ⟨assetCode, issuer, liability.decimals⟩ with
    | some circulatingMinor => return some (← bigInt circulatingMinor)
    | none => return none
  | _, _ => .ok none

def reconciliationStatusOf (supply : Option Int) (ledgerOutstanding : Int) : String :=
  if supply.any fun n => n ≠ ledgerOutstanding then "DRIFT" else "OK"

/-- Compare the ledger, the supply on chain and the backing. -/
def reconcile (gateway : IssuanceGateway) (clock : Clock) (liabilityId : String) :
    Service ReconciledLoyalty := do
  let liability ← requireLiability liabilityId
  let fund ← Prisma.paykhProgramFund.findUnique liability.programFundId
  let ledgerOutstanding ← accountBalance liability.tenantId liabilityPaykhLoyaltyStablecoin
    liability.pegCurrency
  let supply ← onChainSupply gateway liability
  let status := reconciliationStatusOf supply ledgerOutstanding.minor
  let updated ← Prisma.paykhLoyaltyLiability.update
    (int8Columns [supply.getD ledgerOutstanding.minor]) liability.id
    (PaykhLoyaltyLiability.asReconciled (supply.getD ledgerOutstanding.minor) status (clock 0))
    (PaykhLoyaltyLiability.asReconciled_id (supply.getD ledgerOutstanding.minor) status (clock 0))
  EventsService.publishToPaykh
    (if status = "DRIFT" then PaykhEvent.loyaltyReserveDrift else PaykhEvent.loyaltyReconciled)
    (.object [("liabilityId", .string liability.id),
      ("ledgerOutstandingMinor", .string (toString ledgerOutstanding.minor)),
      ("onChainSupplyMinor", .ofOption (supply.map toString)), ("status", .string status)])
  return {
    liabilityId := liability.id
    currency := liability.pegCurrency
    ledgerOutstandingMinor := toString ledgerOutstanding.minor
    counterOutstandingMinor := toString updated.outstandingMinor
    onChainSupplyMinor := supply.map toString
    onChainVerified := supply.isSome
    safeguardedBackingMinor := fund.map fun f => toString f.fundedMinor
    fullyBacked := fund.map fun f => f.fundedMinor ≥ updated.outstandingMinor
    reconciliationStatus := status
    asOf := isoString (clock 1) }

end LoyaltyService

open LoyaltyService

/-! ## Operations -/

inductive LoyaltyOp
  | bind (input : BindLoyaltyInput) (id : String)
  | issue (gateway : IssuanceGateway) (uuid id : String) (input : IssueLoyaltyInput)
  | redeem (gateway : IssuanceGateway) (clock : Clock) (uuid id : String)
    (input : RedeemLoyaltyInput)
  | reconcile (gateway : IssuanceGateway) (clock : Clock) (liabilityId : String)

def LoyaltyOp.call : LoyaltyOp → Service Unit
  | .bind input id => (LoyaltyService.bind input id).void
  | .issue gateway uuid id input => (LoyaltyService.issue gateway uuid id input).void
  | .redeem gateway clock uuid id input => (LoyaltyService.redeem gateway clock uuid id input).void
  | .reconcile gateway clock liabilityId =>
    (LoyaltyService.reconcile gateway clock liabilityId).void

/-- Serve one operation alone, whether it succeeds or throws. -/
def LoyaltyOp.step (w : World) (op : LoyaltyOp) : World := (op.call.run w).2

end

end TrusteeBank
