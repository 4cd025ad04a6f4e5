import TrusteeBank.Infra

/-!
# The liability feed

`LiabilityService.ingest`: PayChain reports what circulates. A snapshot is taken only if its
sequence exceeds the latest one of its program and its signature verifies; without a registered
key or a signature it is taken on trust unless a flag forbids it.

**Theorem (`ingest_stored`).** An ingestion stores the row of a submission that is trusted, in
sequence and storable (`IngestOp.Stores`), or changes nothing.
-/

set_option autoImplicit false

namespace TrusteeBank

open Lib (Call)

section

variable [Runtime]

structure LiabilitySnapshotInput where
  programId : String
  assetId : String
  assetCode : String
  blockchainNetwork : String
  issuerAccount : String
  circulatingMinor : String
  treasuryHeldMinor : String
  lockedMinor : String
  pendingMintMinor : String
  pendingBurnMinor : String
  pendingRedemptionMinor : String
  confirmedBurnMinor : String
  effectiveLiabilityMinor : String
  currency : String
  ledgerReference : String
  sourceVersion : String
  sequence : String
  snapshotTimestamp : String
  signature : Option Signature

/-- `{ id, verified }`. -/
structure IngestResult where
  id : String
  verified : Bool
deriving DecidableEq, Repr

namespace LiabilityService

/-- `const { signature, ...signable } = input`. -/
def signable (input : LiabilitySnapshotInput) : JsValue :=
  .object
    [("programId", .string input.programId), ("assetId", .string input.assetId),
     ("assetCode", .string input.assetCode), ("blockchainNetwork", .string input.blockchainNetwork),
     ("issuerAccount", .string input.issuerAccount),
     ("circulatingMinor", .string input.circulatingMinor),
     ("treasuryHeldMinor", .string input.treasuryHeldMinor),
     ("lockedMinor", .string input.lockedMinor),
     ("pendingMintMinor", .string input.pendingMintMinor),
     ("pendingBurnMinor", .string input.pendingBurnMinor),
     ("pendingRedemptionMinor", .string input.pendingRedemptionMinor),
     ("confirmedBurnMinor", .string input.confirmedBurnMinor),
     ("effectiveLiabilityMinor", .string input.effectiveLiabilityMinor),
     ("currency", .string input.currency), ("ledgerReference", .string input.ledgerReference),
     ("sourceVersion", .string input.sourceVersion), ("sequence", .string input.sequence),
     ("snapshotTimestamp", .string input.snapshotTimestamp)]

/-- The row an ingestion stores: its arguments are evaluated in this order. -/
def snapshotRow (input : LiabilitySnapshotInput) (id : String) (sequence : Int) (verified : Bool) :
    Except ApiError LiabilitySnapshot := do
  let circulatingMinor ← bigInt input.circulatingMinor
  let treasuryHeldMinor ← bigInt input.treasuryHeldMinor
  let lockedMinor ← bigInt input.lockedMinor
  let pendingMintMinor ← bigInt input.pendingMintMinor
  let pendingBurnMinor ← bigInt input.pendingBurnMinor
  let pendingRedemptionMinor ← bigInt input.pendingRedemptionMinor
  let confirmedBurnMinor ← bigInt input.confirmedBurnMinor
  let effectiveLiabilityMinor ← bigInt input.effectiveLiabilityMinor
  let snapshotTimestamp ← checkDate (newDateOf input.snapshotTimestamp)
  return {
    id := id
    programId := input.programId
    assetId := input.assetId
    assetCode := input.assetCode
    blockchainNetwork := input.blockchainNetwork
    issuerAccount := input.issuerAccount
    circulatingMinor, treasuryHeldMinor, lockedMinor, pendingMintMinor, pendingBurnMinor
    pendingRedemptionMinor, confirmedBurnMinor, effectiveLiabilityMinor
    currency := input.currency
    ledgerReference := input.ledgerReference
    sourceVersion := input.sourceVersion
    sequence, snapshotTimestamp
    signatureKeyId := (input.signature.map Signature.keyId).getD "unsigned"
    signatureValue := (input.signature.map Signature.value).getD ""
    signatureVerified := verified }

/-- The texts of a snapshot, all of which come with it. -/
def snapshotTexts (row : LiabilitySnapshot) : List String :=
  [row.assetId, row.assetCode, row.blockchainNetwork, row.issuerAccount, row.currency,
    row.ledgerReference, row.sourceVersion, row.signatureKeyId, row.signatureValue]

def snapshotConstraints (row : LiabilitySnapshot) (w : World) : Except ApiError Unit := do
  checkTexts (snapshotTexts row)
  checkInt8 [row.circulatingMinor, row.treasuryHeldMinor, row.lockedMinor, row.pendingMintMinor,
    row.pendingBurnMinor, row.pendingRedemptionMinor, row.confirmedBurnMinor,
    row.effectiveLiabilityMinor, row.sequence]
  checkUnique (w.liabilitySnapshots.rows.any fun s =>
    s.programId = row.programId && s.sequence = row.sequence)
  checkForeignKey (w.programs.find? row.programId).isSome

/-- Verify the signature against the registered key, or fall back to trust. -/
def verify (input : LiabilitySnapshotInput) : Service Bool :=
  match Runtime.paychainLiabilityPublicKey.filter (· ≠ ""), input.signature with
  | some pubKey, some signature => do
    Call.throwIf (¬verifyPayload pubKey (signable input) signature)
      (.badRequest "Liability snapshot signature failed verification")
    return true
  | _, _ => do
    let required ← FeatureFlagsService.isEnabled "liability.signature.required"
    Call.throwIf required (.badRequest ("Liability snapshot must be signed and " ++
      "PAYCHAIN_LIABILITY_PUBLIC_KEY configured (liability.signature.required is enabled)."))
    return true

/-- The sequence must exceed the latest one. -/
def checkSequence (sequence : Int) (latest : Option LiabilitySnapshot) : Except ApiError Unit :=
  match latest with
  | some latest =>
    if sequence ≤ latest.sequence then
      .error (.conflict ("Liability snapshot sequence " ++ toString sequence ++
        " is not greater than latest " ++ toString latest.sequence ++
        " (duplicate or out-of-order)"))
    else .ok ()
  | none => .ok ()

/-- Ingest and independently verify a snapshot. -/
def ingest (input : LiabilitySnapshotInput) (id : String) : Service IngestResult := do
  let sequence ← bigInt input.sequence
  let latest ← Prisma.liabilitySnapshot.findLatest input.programId
    (fun s => s.programId = input.programId) LiabilitySnapshot.sequence
  checkSequence sequence latest
  let verified ← verify input
  let row ← snapshotRow input id sequence verified
  let created ← Prisma.liabilitySnapshot.create (snapshotConstraints row) row
  return { id := created.id, verified }

end LiabilityService

open LiabilityService

/-! ## The operation -/

/-- An ingestion, with the identifier the database gives it. -/
structure IngestOp where
  input : LiabilitySnapshotInput
  id : String

def IngestOp.call (op : IngestOp) : Service Unit := (LiabilityService.ingest op.input op.id).void

def IngestOp.step (w : World) (op : IngestOp) : World := (op.call.run w).2

/-- What `ingest` asks of a submission before it stores the snapshot as verified. -/
def Trusted (w : World) (input : LiabilitySnapshotInput) : Prop :=
  match Runtime.paychainLiabilityPublicKey.filter (· ≠ ""), input.signature with
  | some pubKey, some signature => verifyPayload pubKey (signable input) signature = true
  | _, _ => w.enabled "liability.signature.required" = false

theorem run_verify (input : LiabilitySnapshotInput) (w : World) :
    (∃ e, (verify input).run w = (.error e, w)) ∨
      Trusted w input ∧ (verify input).run w = (.ok true, w) := by
  unfold verify
  split
  · next pubKey signature hkey hsignature =>
    rw [Call.run_throwIf_bind]
    split_ifs with h
    · refine .inr ⟨?_, rfl⟩
      simp only [Trusted, hkey, hsignature, h]
    · exact .inl ⟨_, rfl⟩
  · next hunverified =>
    have htrusted : Trusted w input ↔ w.enabled "liability.signature.required" = false := by
      unfold Trusted
      split
      · next hkey hsignature => exact absurd hsignature (hunverified _ _ hkey)
      · rfl
    rw [Call.run_bind, run_isEnabled]
    simp only
    rw [Call.run_throwIf_bind]
    split_ifs with h
    · exact .inl ⟨_, rfl⟩
    · exact .inr ⟨htrusted.mpr (Bool.not_eq_true _ ▸ h), rfl⟩

theorem snapshotRow_ok {input : LiabilitySnapshotInput} {id : String} {sequence : Int}
    {verified : Bool} {row : LiabilitySnapshot}
    (h : snapshotRow input id sequence verified = .ok row) :
    row.programId = input.programId ∧ row.sequence = sequence ∧ row.signatureVerified = verified ∧
      bigInt input.circulatingMinor = .ok row.circulatingMinor := by
  unfold snapshotRow at h
  simp only [bind_eq_ok] at h
  obtain ⟨circulating, hcirculating, _, -, _, -, _, -, _, -, _, -, _, -, _, -, _, -, h⟩ := h
  cases h
  exact ⟨rfl, rfl, rfl, hcirculating⟩

/-- The row that an ingestion stores: it is made of a submission that is trusted, its sequence is
beyond the latest of the program, and the database takes it. -/
structure IngestOp.Stores (w : World) (op : IngestOp) (row : LiabilitySnapshot) : Prop where
  trusted : Trusted w op.input
  made : snapshotRow op.input op.id row.sequence true = .ok row
  sequence : checkSequence row.sequence (latestBy LiabilitySnapshot.sequence
    (w.liabilitySnapshots.rows.filter fun s => s.programId = op.input.programId)) = .ok ()
  constraints : snapshotConstraints row w = .ok ()
  unused : w.liabilitySnapshots.find? row.id = none

/-- **An ingestion stores nothing**, or the row of a trusted submission. -/
theorem ingest_stored (w : World) (op : IngestOp) :
    op.step w = w ∨ ∃ row t, op.Stores w row ∧ w.liabilitySnapshots.insert? row = some t ∧
      op.step w = { w with liabilitySnapshots := t } := by
  unfold IngestOp.step IngestOp.call
  rw [Call.run_void_snd]
  unfold LiabilityService.ingest
  rw [Call.run_lift_bind]
  cases hsequence : bigInt op.input.sequence with
  | error e => exact .inl rfl
  | ok sequence =>
    simp only
    rw [Call.run_bind, Entity.run_findLatest]
    simp only
    rw [Call.run_lift_bind]
    cases hlatest : checkSequence sequence (latestBy LiabilitySnapshot.sequence
        (List.filter (fun s => decide (s.programId = op.input.programId))
          (Prisma.liabilitySnapshot.get w).rows)) with
    | error e => exact .inl rfl
    | ok u =>
      simp only
      rw [Call.run_bind]
      rcases run_verify op.input w with ⟨e, h⟩ | ⟨htrusted, h⟩
      · rw [h]
        exact .inl rfl
      rw [h]
      simp only
      rw [Call.run_lift_bind]
      cases hrow : snapshotRow op.input op.id sequence true with
      | error e => exact .inl rfl
      | ok row =>
        obtain ⟨-, hseq, -, -⟩ := snapshotRow_ok hrow
        simp only
        rw [Call.run_bind]
        rcases Entity.run_create_cases Prisma.liabilitySnapshot (snapshotConstraints row) row w
          with ⟨e, h⟩ | ⟨t, hcheck, ht, h⟩
        · rw [h]
          exact .inl rfl
        · rw [h]
          exact .inr ⟨row, t, ⟨htrusted, hseq ▸ hrow, hseq ▸ hlatest, hcheck,
            (Lib.Table.insert?_eq_some ht).2⟩, ht, rfl⟩

/-- What an ingestion did: nothing, or one verified snapshot in front of all others. -/
inductive IngestEffect (w : World) (op : IngestOp) : World → Prop
  | unchanged : IngestEffect w op w
  | ingested {row : LiabilitySnapshot} {t : Lib.Table LiabilitySnapshot.id}
      (hprogram : row.programId = op.input.programId) (hverified : row.signatureVerified = true)
      (hcirculating : bigInt op.input.circulatingMinor = .ok row.circulatingMinor)
      (ht : w.liabilitySnapshots.insert? row = some t) :
      IngestEffect w op { w with liabilitySnapshots := t }

/-- **Every ingestion has an effect in the list.** -/
theorem IngestOp.effect (w : World) (op : IngestOp) : IngestEffect w op (op.step w) := by
  rcases ingest_stored w op with hsame | ⟨row, t, hstores, ht, hstate⟩
  · rw [hsame]
    exact .unchanged
  · obtain ⟨hprogram, -, hverified, hcirculating⟩ := snapshotRow_ok hstores.made
    rw [hstate]
    exact .ingested hprogram hverified hcirculating ht

theorem verify_keeps {τ : Type} {g : World → τ} (input : LiabilitySnapshotInput) :
    (verify input).Keeps g := by
  unfold verify
  split
  · exact (Call.keeps_throwIf _ _ _).bind fun _ => Call.keeps_pure _ _
  · refine (Call.keeps_read _ _ _).bind fun _ => (Call.keeps_throwIf _ _ _).bind fun _ => ?_
    exact Call.keeps_pure _ _

end

end TrusteeBank
