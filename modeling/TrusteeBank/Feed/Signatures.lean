import TrusteeBank.Lib.Run
import TrusteeBank.Services.Liability
import TrusteeBank.Services.Mint

/-!
# Signatures of the liability feed

With a registered key, a snapshot that carries a signature is verified against it. A snapshot
without one takes the branch meant for a deployment without a key: it is stored as verified unless
the flag `liability.signature.required` is on.

* `signed_step`, `feed_signed`: while unsigned snapshots arrive only with the flag on, every
  snapshot stored as verified carries a signature that verifies;
* `feed_unsigned`: a snapshot stripped of its signature is stored as verified.
-/

set_option autoImplicit false

namespace TrusteeBank

open Lib (Call)
open LiabilityService

section

variable [Runtime]

/-! ## Operations -/

/-- What happens to the feed: PayChain submits a snapshot, or an operator sets a flag. -/
inductive FeedOp
  | ingest (op : IngestOp)
  | setFlag (key : String) (enabled : Bool) (updatedBy : String)

/-- Serve one operation alone, whether it succeeds or throws. -/
def FeedOp.step (w : World) : FeedOp → World
  | .ingest op => op.step w
  | .setFlag key enabled updatedBy => ((FeatureFlagsService.set key enabled updatedBy).run w).2

/-! ## Accepted signatures -/

/-- The snapshot is the row of a submission whose signature verifies under the key. -/
def LiabilitySnapshot.SignedUnder (key : String) (row : LiabilitySnapshot) : Prop :=
  ∃ input signature, input.signature = some signature ∧
    snapshotRow input row.id row.sequence true = .ok row ∧
    verifyPayload key (signable input) signature = true

/-- The identifier and the signature of a row are those of its submission. -/
theorem snapshotRow_signed {input : LiabilitySnapshotInput} {id : String} {sequence : Int}
    {verified : Bool} {row : LiabilitySnapshot}
    (h : snapshotRow input id sequence verified = .ok row) :
    row.id = id ∧ row.signatureKeyId = (input.signature.map Signature.keyId).getD "unsigned" ∧
      row.signatureValue = (input.signature.map Signature.value).getD "" := by
  unfold snapshotRow at h
  simp only [bind_eq_ok] at h
  obtain ⟨_, -, _, -, _, -, _, -, _, -, _, -, _, -, _, -, _, -, h⟩ := h
  cases h
  exact ⟨rfl, rfl, rfl⟩

/-- A row signed under a key holds a value Ed25519 verifies. -/
theorem LiabilitySnapshot.SignedUnder.value {key : String} {row : LiabilitySnapshot}
    (h : row.SignedUnder key) :
    ∃ payload, Runtime.edVerify key (canonicalize payload) row.signatureValue = true := by
  obtain ⟨input, signature, hsignature, hrow, hverify⟩ := h
  obtain ⟨-, -, hvalue⟩ := snapshotRow_signed hrow
  rw [hsignature, Option.map_some, Option.getD_some] at hvalue
  rw [hvalue]
  unfold verifyPayload at hverify
  simp only [Bool.and_eq_true] at hverify
  exact ⟨signable input, hverify.2⟩

/-! ## Runs -/

/-- A snapshot is submitted with a signature, or the flag that requires one is on. -/
def RequiresSignature (w : World) : FeedOp → Prop
  | .ingest op => op.input.signature.isSome ∨ w.enabled "liability.signature.required" = true
  | .setFlag .. => True

instance RequiresSignature.decidable (w : World) : (op : FeedOp) →
    Decidable (RequiresSignature w op)
  | .ingest op => inferInstanceAs
      (Decidable (op.input.signature.isSome ∨ w.enabled "liability.signature.required" = true))
  | .setFlag .. => isTrue trivial

/-- Every snapshot stored as verified carries a signature the key accepts. -/
def FeedSigned (key : String) (w : World) : Prop :=
  ∀ row ∈ w.liabilitySnapshots.rows, row.signatureVerified = true → row.SignedUnder key

theorem set_keeps_snapshots (w : World) (key : String) (enabled : Bool) (updatedBy : String) :
    ((FeatureFlagsService.set key enabled updatedBy).run w).2.liabilitySnapshots =
      w.liabilitySnapshots := by
  unfold FeatureFlagsService.set
  rcases Entity.run_upsert_cases Prisma.featureFlag (fun _ => checkTexts [key, updatedBy])
    (fun flag => flag.key = key) ⟨key, enabled⟩ (fun flag => { flag with enabled }) (fun _ => rfl) w
    with ⟨e, h⟩ | ⟨-, ⟨old, -, h⟩ | ⟨t, -, -, h⟩⟩ <;> rw [h] <;> rfl

theorem signed_step {key : String} (hkey : Runtime.paychainLiabilityPublicKey = some key)
    (hne : key ≠ "") {w : World} {op : FeedOp} (hw : FeedSigned key w)
    (hop : RequiresSignature w op) : FeedSigned key (op.step w) := by
  cases op with
  | setFlag k enabled updatedBy =>
    intro row hrow
    refine hw row ?_
    rwa [FeedOp.step, set_keeps_snapshots] at hrow
  | ingest op =>
    rcases ingest_stored w op with h | ⟨row, t, hstores, ht, h⟩
    · rw [FeedOp.step, h]
      exact hw
    · rw [FeedOp.step, h]
      refine Lib.Table.forall_insert? hw ht fun _ => ?_
      have hfilter : (some key).filter (· ≠ "") = some key := by simp [hne]
      have htrusted := hstores.trusted
      unfold Trusted at htrusted
      rw [hkey, hfilter] at htrusted
      have hrow : snapshotRow op.input row.id row.sequence true = .ok row := by
        rw [(snapshotRow_signed hstores.made).1]
        exact hstores.made
      cases hsignature : op.input.signature with
      | none =>
        have hon : w.enabled "liability.signature.required" = true := by
          simpa [RequiresSignature, hsignature] using hop
        simp [hsignature, hon] at htrusted
      | some signature =>
        rw [hsignature] at htrusted
        exact ⟨op.input, signature, hsignature, hrow, htrusted⟩

/-- **Signatures cannot be stripped while they are required.** With a registered key, in every run
in which unsigned snapshots arrive only while the flag is on, every snapshot stored as verified
carries a signature that verifies over the submitted fields. -/
theorem feed_signed {key : String} (hkey : Runtime.paychainLiabilityPublicKey = some key)
    (hne : key ≠ "") {w : World} {ops : List FeedOp} (hw : FeedSigned key w)
    (hops : Lib.Meets FeedOp.step RequiresSignature w ops) :
    ∀ w' ∈ Lib.history FeedOp.step w ops, ∀ row ∈ w'.liabilitySnapshots.rows,
      row.signatureVerified = true → row.SignedUnder key :=
  Lib.inv_history (fun _ _ => signed_step hkey hne) hw hops

end

/-! ## A snapshot stripped of its signature -/

namespace Sample

/-- A platform with a registered key, under which one signature verifies. -/
@[reducible] def keyed : Runtime :=
  { Runtime.ascii with
    edVerify := fun _ _ value => value = "signed"
    paychainLiabilityPublicKey := some "pem" }

attribute [local instance] keyed

/-- A program and no snapshot. -/
def unfed : World := { World.empty with programs := ⟨[program], List.nodup_singleton _⟩ }

/-- A snapshot that reports a circulating supply of 500. -/
def supply (sequence : String) (signature : Option Signature) : LiabilitySnapshotInput where
  programId := "P1"
  assetId := "A1"
  assetCode := "COIN"
  blockchainNetwork := "net"
  issuerAccount := "issuer"
  circulatingMinor := "500"
  treasuryHeldMinor := "0"
  lockedMinor := "0"
  pendingMintMinor := "0"
  pendingBurnMinor := "0"
  pendingRedemptionMinor := "0"
  confirmedBurnMinor := "0"
  effectiveLiabilityMinor := "500"
  currency := "USD"
  ledgerReference := "ref"
  sourceVersion := "1"
  sequence := sequence
  snapshotTimestamp := "2026-01-01T00:00:00Z"
  signature := signature

def accepted : Signature := ⟨"paychain-1", "ed25519", "signed"⟩

/-- A signed snapshot; then the flag is set, and an unsigned one is refused. -/
def signedFeed : List FeedOp :=
  [.ingest ⟨supply "1" (some accepted), "L1"⟩,
   .setFlag "liability.signature.required" true "operator", .ingest ⟨supply "2" none, "L2"⟩]

def strippedFeed : List FeedOp := [.ingest ⟨supply "1" none, "L1"⟩]

end Sample

attribute [local instance] Sample.keyed

theorem feed_signed_example :
    Lib.Meets FeedOp.step RequiresSignature Sample.unfed Sample.signedFeed ∧
      (Sample.signedFeed.foldl FeedOp.step Sample.unfed).liabilitySnapshots.rows.length = 1 ∧
      ∀ w' ∈ Lib.history FeedOp.step Sample.unfed Sample.signedFeed,
        ∀ row ∈ w'.liabilitySnapshots.rows, row.signatureVerified = true → row.SignedUnder "pem" := by
  have hmeets : Lib.Meets FeedOp.step RequiresSignature Sample.unfed Sample.signedFeed := by
    decide +kernel
  have hunfed : FeedSigned "pem" Sample.unfed := fun row hrow => by cases hrow
  exact ⟨hmeets, by decide +kernel, feed_signed rfl (by decide) hunfed hmeets⟩

/-- With a registered key and the flag off, a snapshot stripped of its signature is stored as
verified. -/
theorem feed_unsigned : ¬∀ [Runtime] (key : String),
    Runtime.paychainLiabilityPublicKey = some key → key ≠ "" → ∀ (w : World) (ops : List FeedOp),
      FeedSigned key w → ∀ w' ∈ Lib.history FeedOp.step w ops, FeedSigned key w' := by
  intro h
  have hsigned := h "pem" rfl (by decide) Sample.unfed Sample.strippedFeed
    (fun row hrow => by cases hrow) _ (Lib.last_mem_history _ _)
  have hany : ((Sample.strippedFeed.foldl FeedOp.step Sample.unfed).liabilitySnapshots.rows.any
      fun row => row.signatureVerified && row.signatureValue = "") = true := by
    decide +kernel
  obtain ⟨row, hrow, hstored⟩ := List.any_eq_true.mp hany
  simp only [Bool.and_eq_true, decide_eq_true_eq] at hstored
  obtain ⟨payload, hverify⟩ := (hsigned row hrow hstored.1).value
  rw [hstored.2] at hverify
  have hrefused : decide ("" = "signed") = true := hverify
  exact absurd hrefused (by decide)

end TrusteeBank
