import TrusteeBank.Json
import TrusteeBank.Services.Loyalty
import TrusteeBank.Services.Reserve

/-!
# Adjustments and snapshots of the reserve

The operations of `ReserveService` that write. `addAdjustment` and `liftAdjustment` set a hold on a
part of the reserve and lift it. `createSnapshot` is the proof of reserve: it signs the figures of
the position under the `RESERVE_SNAPSHOT` key, stores them with the signature, and announces them.
`latestSnapshot` and `getSnapshot` serve a stored snapshot.

What is signed, what is stored and what is served are three records: `SnapshotContent`,
`ReserveSnapshot` and `ServedSnapshot`.
-/

set_option autoImplicit false

namespace TrusteeBank

open Lib (Call)

variable [Runtime]

structure AddAdjustment where
  programId : String
  kind : String
  amountMinor : String
  reason : Option String
  actor : String

/-- `{ id, kind, amountMinor, active }`. -/
structure AdjustmentResult where
  id : String
  kind : String
  amountMinor : String
  active : Bool
deriving DecidableEq, Repr

/-- `{ id, active }`. -/
structure LiftedAdjustment where
  id : String
  active : Bool
deriving DecidableEq, Repr

/-- `{ ...adjustment, active: false, liftedBy }`. -/
def ReserveAdjustment.asLifted (actor : String) (a : ReserveAdjustment) : ReserveAdjustment :=
  { a with active := false, liftedBy := some actor }

omit [Runtime] in
theorem ReserveAdjustment.asLifted_id (actor : String) (a : ReserveAdjustment) :
    (a.asLifted actor).id = a.id := rfl

/-- What is signed. -/
structure SnapshotContent where
  programId : String
  assetId : String
  referenceCurrency : String
  timestamp : String
  eligibleReserveMinor : String
  circulatingLiabilityMinor : String
  requiredReserveMinor : String
  surplusMinor : String
  reserveRatioBps : Option Int
  dataSources : List String
deriving DecidableEq, Repr

/-- `n ?? null`. -/
def JsValue.ofInt? : Option Int → JsValue
  | some n => .number n
  | none => .null

def SnapshotContent.json (content : SnapshotContent) : JsValue :=
  .object
    [("programId", .string content.programId), ("assetId", .string content.assetId),
     ("referenceCurrency", .string content.referenceCurrency),
     ("timestamp", .string content.timestamp),
     ("eligibleReserveMinor", .string content.eligibleReserveMinor),
     ("circulatingLiabilityMinor", .string content.circulatingLiabilityMinor),
     ("requiredReserveMinor", .string content.requiredReserveMinor),
     ("surplusMinor", .string content.surplusMinor),
     ("reserveRatioBps", .ofInt? content.reserveRatioBps),
     ("dataSources", .strings content.dataSources)]

/-- What `serializeSnapshot` answers. -/
structure ServedSnapshot where
  snapshotId : String
  programId : String
  assetId : String
  referenceCurrency : String
  eligibleReserveMinor : String
  circulatingLiabilityMinor : String
  requiredReserveMinor : String
  surplusMinor : String
  reserveRatioBps : Option Int
  reconciliationStatus : String
  signature : Signature
  contentHash : String
  createdAt : String
deriving DecidableEq, Repr

/-- `{ id, ratioBps }`. -/
structure SnapshotResult where
  id : String
  ratioBps : Option Int
deriving DecidableEq, Repr

namespace ReserveService

def program (programId : String) : Service Program := do
  let p ← Prisma.program.findUnique programId
  orThrow p (.notFound ("Program " ++ programId ++ " not found"))

/-! ## Adjustments -/

def adjustmentKinds : List String := ["RESTRICTED", "REGULATORY_HOLD", "OPERATIONAL", "BANK_CHARGE"]

/-- The row an adjustment stores. -/
def addedAdjustment (input : AddAdjustment) (id currency : String) (amountMinor : Int) :
    ReserveAdjustment where
  id := id
  programId := input.programId
  currency := currency
  kind := input.kind
  amountMinor := amountMinor
  active := true
  reason := input.reason
  createdBy := input.actor
  liftedBy := none

def adjustmentConstraints (row : ReserveAdjustment) : Except ApiError Unit := do
  checkInt8 [row.amountMinor]
  checkTexts (row.createdBy :: row.reason.toList)

def addAdjustment (input : AddAdjustment) (id : String) : Service AdjustmentResult := do
  let program ← program input.programId
  Call.throwIf (input.kind ∉ adjustmentKinds)
    (.notFound ("Unknown adjustment kind " ++ input.kind))
  let amountMinor ← bigInt input.amountMinor
  let row := addedAdjustment input id program.referenceCurrency amountMinor
  let a ← Prisma.reserveAdjustment.create (fun _ => adjustmentConstraints row) row
  return { id := a.id, kind := a.kind, amountMinor := toString a.amountMinor, active := a.active }

def liftAdjustment (id actor : String) : Service LiftedAdjustment := do
  let a ← Prisma.reserveAdjustment.update (textColumns [actor]) id
    (ReserveAdjustment.asLifted actor) (ReserveAdjustment.asLifted_id actor)
  return { id := a.id, active := a.active }

/-! ## Snapshots -/

/-- The content of a snapshot, from the position and the instant it is signed. -/
def snapshotContent (pos : ReservePosition) (programId assetId timestamp : String) :
    SnapshotContent where
  programId := programId
  assetId := assetId
  referenceCurrency := pos.currency
  timestamp := timestamp
  eligibleReserveMinor := toString pos.eligibleReserve.minor
  circulatingLiabilityMinor := toString pos.reserveObligation.minor
  requiredReserveMinor := toString pos.requiredReserve.minor
  surplusMinor := toString pos.surplus.minor
  reserveRatioBps := pos.reserveRatioBps
  dataSources := ["reserve-subledger", "paychain-liability-feed"]

/-- The row a snapshot stores. -/
def createdSnapshot (pos : ReservePosition) (content : SnapshotContent) (signature : Signature)
    (contentHash id : String) (createdAt : Int) : ReserveSnapshot where
  id := id
  programId := content.programId
  assetId := content.assetId
  referenceCurrency := pos.currency
  eligibleReserveMinor := pos.eligibleReserve.minor
  excludedAmountMinor := 0
  circulatingLiabilityMinor := pos.reserveObligation.minor
  pendingRedemptionMinor := 0
  requiredReserveMinor := pos.requiredReserve.minor
  reserveRatioBps := pos.reserveRatioBps
  surplusMinor := pos.surplus.minor
  reconciliationStatus := if 0 ≤ pos.surplus.minor then "OK" else "SHORTFALL"
  dataSources := content.dataSources
  signatureKeyId := signature.keyId
  signatureValue := signature.value
  contentHash := contentHash
  createdAt := createdAt

def snapshotConstraints (row : ReserveSnapshot) (w : World) : Except ApiError Unit := do
  checkInt8 [row.eligibleReserveMinor, row.excludedAmountMinor, row.circulatingLiabilityMinor,
    row.pendingRedemptionMinor, row.requiredReserveMinor, row.surplusMinor]
  row.reserveRatioBps.toList.forM checkInt4
  checkForeignKey (w.programs.find? row.programId).isSome

/-- `sha256Hex(JSON.stringify(content))`. -/
def contentHashOf (sha256Hex : String → String) (content : SnapshotContent) :
    Except ApiError String := do
  let written ← jsonStringify content.json
  let text ← orThrow written (.thrown "TypeError"
    "The \"data\" argument must be of type string or an instance of Buffer")
  return sha256Hex text

/-- Tell PayChain that the reserve does not cover what is required. -/
def announceShortfall (programId : String) (surplusMinor : Int) : Service Unit :=
  if surplusMinor < 0 then
    EventsService.publish PlatformEvent.reserveShortfallDetected
      (.object [("programId", .string programId), ("shortfallMinor", .string (toString surplusMinor))])
      "PAYCHAIN"
  else pure ()

/-- The position, and the content that is signed. -/
def observedContent (clock : Clock) (programId : String) :
    Service (ReservePosition × SnapshotContent) := do
  let pos ← position clock programId
  let found ← program programId
  return (pos, snapshotContent pos programId found.assetId (isoString (clock 1)))

/-- Create a signed reserve snapshot. The database fills in `id` and `createdAt`. -/
def createSnapshot (sha256Hex : String → String) (clock : Clock) (programId id : String)
    (createdAt : Int) : Service SnapshotResult := do
  let (pos, content) ← observedContent clock programId
  let contentHash ← contentHashOf sha256Hex content
  let signature := signPayload .reserveSnapshot content.json
  let row := createdSnapshot pos content signature contentHash id createdAt
  let snapshot ← Prisma.reserveSnapshot.create (snapshotConstraints row) row
  let issuing ← program programId
  EventsService.publishWithArtifact PlatformEvent.reserveSnapshotCreated
    (.object [("snapshotId", .string snapshot.id), ("programId", .string programId),
      ("reserveRatioBps", .ofInt? pos.reserveRatioBps)])
    (.object [("snapshotId", .string snapshot.id), ("tenantId", .string issuing.issuerId),
      ("assetId", .string content.assetId),
      ("reserveBalance", .string (toString pos.eligibleReserve.minor)),
      ("currency", .string pos.currency), ("asOf", .string content.timestamp)])
    .reserveSnapshot "PAYCHAIN"
  announceShortfall programId pos.surplus.minor
  return { id := snapshot.id, ratioBps := pos.reserveRatioBps }

omit [Runtime] in
def serializeSnapshot (s : ReserveSnapshot) : ServedSnapshot where
  snapshotId := s.id
  programId := s.programId
  assetId := s.assetId
  referenceCurrency := s.referenceCurrency
  eligibleReserveMinor := toString s.eligibleReserveMinor
  circulatingLiabilityMinor := toString s.circulatingLiabilityMinor
  requiredReserveMinor := toString s.requiredReserveMinor
  surplusMinor := toString s.surplusMinor
  reserveRatioBps := s.reserveRatioBps
  reconciliationStatus := s.reconciliationStatus
  signature := { keyId := s.signatureKeyId, algorithm := "ed25519", value := s.signatureValue }
  contentHash := s.contentHash
  createdAt := isoString s.createdAt

/-- Latest signed reserve snapshot of a program. -/
def latestSnapshot (programId : String) : Service ServedSnapshot := do
  let found ← Prisma.reserveSnapshot.findLatest programId (fun s => s.programId = programId)
    ReserveSnapshot.createdAt
  let s ← orThrow found (.notFound ("No reserve snapshot for program " ++ programId))
  return serializeSnapshot s

/-- A specific reserve snapshot. -/
def getSnapshot (snapshotId : String) : Service ServedSnapshot := do
  let found ← Prisma.reserveSnapshot.findUnique snapshotId
  let s ← orThrow found (.notFound ("Snapshot " ++ snapshotId ++ " not found"))
  return serializeSnapshot s

end ReserveService

end TrusteeBank
