import TrusteeBank.Feed.Signatures
import TrusteeBank.Services.MintEffects

/-!
# Verified confirmations

`confirm` compares the amount with the authorization's, and stores `verified: true`. It reads
neither the signature nor the destination of what PayChain sent, where `LiabilityService.ingest`
verifies a snapshot under PayChain's registered key before it is trusted.

**The condition** (`ConfirmsSigned`). A confirmation that passes the checks of `confirm` is signed
by PayChain and names the destination of the authorization.

* `confirmations_verified`: in a run whose confirmations meet the condition, every row that says it
  is verified is signed and matches;
* `unsigned_confirmation_verified`: a confirmation with any signature, for another destination, is
  stored as verified.
-/

set_option autoImplicit false

namespace TrusteeBank

open MintService

section

variable [Runtime]

/-! ## What a verified row says -/

/-- What PayChain signs of a confirmation. -/
def confirmationPayload (paychainTransactionId blockchainTxHash : String) (amountMinor : Int)
    (destination : String) : JsValue :=
  .object
    [("paychainTransactionId", .string paychainTransactionId),
     ("blockchainTxHash", .string blockchainTxHash), ("amountMinor", .bigint amountMinor),
     ("destination", .string destination)]

/-- A signature verifies over a confirmation under PayChain's registered key. -/
def SignsConfirmation (paychainSignature paychainTransactionId blockchainTxHash : String)
    (amountMinor : Int) (destination : String) : Prop :=
  ∃ publicKey, Runtime.paychainLiabilityPublicKey = some publicKey ∧
    verifyPayload publicKey
      (confirmationPayload paychainTransactionId blockchainTxHash amountMinor destination)
      { keyId := "paychain", algorithm := "ed25519", value := paychainSignature } = true

/-- The signature of a row verifies over what the row says. -/
def MintConfirmation.Signed (c : MintConfirmation) : Prop :=
  SignsConfirmation c.paychainSignature c.paychainTransactionId c.blockchainTxHash c.amountMinor
    c.destination

/-- The destination of a row is the one its authorization sets. -/
def MintConfirmation.Matches (w : World) (c : MintConfirmation) : Prop :=
  ∃ auth, w.mintAuthorizations.find? c.mintAuthorizationId = some auth ∧
    ∀ destination, auth.destination = some destination → c.destination = destination

/-- Every row that says it is verified is signed and matches its authorization. -/
def ConfirmationsVerified (w : World) : Prop :=
  ∀ c ∈ w.mintConfirmations.rows, c.verified = true → c.Signed ∧ c.Matches w

/-- A confirmation that passes the checks is signed by PayChain, for the destination of the
authorization. -/
def ConfirmsSigned (w : World) : MintOp → Prop
  | .confirm clock authId input => ∀ auth, w.mintAuthorizations.find? authId = some auth →
    auth.status = .issued → hasExpired auth (clock 0) = false →
    bigInt input.amountMinor = .ok auth.amountMinor →
    SignsConfirmation input.paychainSignature input.paychainTransactionId input.blockchainTxHash
        auth.amountMinor input.destination ∧
      ∀ destination, auth.destination = some destination → input.destination = destination
  | _ => True

/-! ## Every operation -/

/-- No operation changes the destination of an authorization. -/
theorem MintEffect.destinationKept {w w₁ : World} {op : MintOp} (h : MintEffect w op w₁) :
    Lib.Table.StatusKept MintAuthorization.destination (fun _ => True) w.mintAuthorizations
      w₁.mintAuthorizations := by
  have hstatus (authId : String) (status : MintAuthorizationStatus) :
      Lib.Table.StatusKept MintAuthorization.destination (fun _ => True) w.mintAuthorizations
        (w.setAuthStatus authId status).mintAuthorizations :=
    Lib.Table.statusKept_modify (MintAuthorization.withStatus_id status) fun _ _ _ => rfl
  cases h with
  | unchanged => exact .refl _
  | unstored => exact .refl _
  | requested _ _ _ ht => exact Lib.Table.statusKept_insert? ht
  | issuedUndecided =>
    exact Lib.Table.statusKept_modify (MintAuthorization.asIssued_id _ _ _) fun _ _ _ => rfl
  | issued =>
    exact Lib.Table.statusKept_modify (MintAuthorization.asIssued_id _ _ _) fun _ _ _ => rfl
  | reviewed => exact hstatus _ _
  | blocked => exact hstatus _ _
  | rejected => exact hstatus _ _
  | rejectedUndecided => exact hstatus _ _
  | revoked => exact hstatus _ _
  | expired => exact hstatus _ _
  | expiredAtConfirm => exact hstatus _ _
  | confirmed => exact hstatus _ _

theorem MintConfirmation.Matches.kept {w w₁ : World} {c : MintConfirmation} (h : c.Matches w)
    (hkept : Lib.Table.StatusKept MintAuthorization.destination (fun _ => True)
      w.mintAuthorizations w₁.mintAuthorizations) : c.Matches w₁ := by
  obtain ⟨auth, hauth, hdestination⟩ := h
  obtain ⟨auth', hauth', hsame⟩ := hkept _ auth hauth trivial
  exact ⟨auth', hauth', fun destination hset => hdestination destination (hsame.symm.trans hset)⟩

/-- **What an operation does keeps the rows true**, where its confirmation is signed. -/
theorem ConfirmationsVerified.effect {w w₁ : World} {op : MintOp} (h : ConfirmationsVerified w)
    (hsigned : ConfirmsSigned w op) (heffect : MintEffect w op w₁) : ConfirmationsVerified w₁ := by
  have hkept := heffect.destinationKept
  have hold : ∀ c ∈ w.mintConfirmations.rows, c.verified = true → c.Signed ∧ c.Matches w₁ :=
    fun c hc hverified => (h c hc hverified).imp_right (·.kept hkept)
  -- Only `confirmed` writes to the confirmations.
  cases heffect with
  | @confirmed clock authId input auth e ledgerHeight confirmedAt t hauth hstatus hexpired hamount
      he ht =>
    obtain ⟨hsignature, hdestination⟩ := hsigned auth hauth hstatus hexpired hamount
    refine Lib.Table.forall_insert? hold ht fun _ => ⟨hsignature, ?_⟩
    obtain rfl := Lib.Table.key_of_find? hauth
    have hmatches :
        (confirmationRow auth input auth.amountMinor ledgerHeight confirmedAt).Matches w :=
      ⟨auth, hauth, hdestination⟩
    exact hmatches.kept hkept
  | _ => exact hold

theorem ConfirmationsVerified.logged {w : World} (h : ConfirmationsVerified w)
    (rows : List AuditLog) (events : List OutboxEvent) :
    ConfirmationsVerified (w.logged rows events) := h

theorem ConfirmationsVerified.step {w : World} {op : MintOp} (h : ConfirmationsVerified w)
    (hsigned : ConfirmsSigned w op) : ConfirmationsVerified (op.step w) :=
  after_effect (op.effect w) (fun _ heffect => h.effect hsigned heffect) .logged

/-- **Every verified confirmation is verified**, in every state of a run whose confirmations are
signed. -/
theorem confirmations_verified {w : World} (hw : ConfirmationsVerified w) (ops : List MintOp)
    (hsigned : Lib.Meets MintOp.step ConfirmsSigned w ops) :
    ∀ w' ∈ Lib.history MintOp.step w ops, ConfirmationsVerified w' :=
  Lib.inv_history (fun _ _ h hop => h.step hop) hw hsigned

end

/-! ## Two confirmations -/

namespace Sample

attribute [local instance] keyed

theorem users_nodup : ([user "alice", user "bob"].map User.id).Nodup := by decide

/-- A program with a reserve of 100 and nothing minted, on a platform with a registered key. -/
def keyedWorld : World :=
  { World.empty with
    programs := .singleton _ program
    trusteeAccounts := .singleton _ account
    deposits := .singleton _ deposit
    liabilitySnapshots := .singleton _ snapshot
    ledger := (clearedDepositEntry (money 100 "USD")
      { source := "opening", programId := "P1", assetId := "A1", actor := "bank"
        approvalRef := none, correlationId := none }).toOption.toList
    users := ⟨[user "alice", user "bob"], users_nodup⟩
    featureFlags := .singleton _ ⟨"mint.authorization.enabled", true⟩ }

/-- A mint for `wallet`, confirmed for a destination under a signature. -/
def confirmedFor (destination paychainSignature : String) : List MintOp :=
  [.request { request "R-M1" "100" with destination := some "wallet" } "M1" "N-M1",
   .review "M1" "alice" "AP-M1", .approve clock "M1" "bob" "ok",
   .confirm clock "M1" { confirmation "100" none with destination, paychainSignature }]

theorem noConfirmations : ConfirmationsVerified keyedWorld :=
  fun _ hc => absurd hc List.not_mem_nil

end Sample

attribute [local instance] Sample.keyed

/-- A confirmation that PayChain signed for the destination of the authorization. -/
theorem confirmations_verified_signed :
    (((Sample.confirmedFor "wallet" "signed").foldl MintOp.step
      Sample.keyedWorld).mintConfirmations.rows.length = 1) ∧
    ∀ w' ∈ Lib.history MintOp.step Sample.keyedWorld (Sample.confirmedFor "wallet" "signed"),
      ConfirmationsVerified w' := by
  have hset : ((((Sample.confirmedFor "wallet" "signed").take 3).foldl MintOp.step
      Sample.keyedWorld).mintAuthorizations.find? "M1").map (fun a => a.destination) =
        some (some "wallet") := by
    decide +kernel
  refine ⟨by decide +kernel, confirmations_verified Sample.noConfirmations
    (Sample.confirmedFor "wallet" "signed") ⟨trivial, trivial, trivial, ?_, trivial⟩⟩
  intro auth hauth _ _ _
  refine ⟨⟨"pem", rfl, rfl⟩, fun destination hdestination => ?_⟩
  obtain ⟨a, ha, hwallet⟩ := Option.map_eq_some_iff.mp hset
  cases hauth.symm.trans ha
  exact Option.some.inj (hwallet.symm.trans hdestination)

/-- A confirmation for another destination, under a signature that does not verify, is stored as
verified. -/
theorem unsigned_confirmation_verified : ¬∀ [Runtime] (w : World), ConfirmationsVerified w →
    ∀ ops : List MintOp, ConfirmationsVerified (ops.foldl MintOp.step w) := by
  intro h
  have hverified := h Sample.keyedWorld Sample.noConfirmations
    (Sample.confirmedFor "thief" "forged")
  have hany : (((Sample.confirmedFor "thief" "forged").foldl MintOp.step
      Sample.keyedWorld).mintConfirmations.rows.any fun c =>
        c.verified && c.paychainSignature = "forged") = true := by
    decide +kernel
  obtain ⟨c, hc, hstored⟩ := List.any_eq_true.mp hany
  simp only [Bool.and_eq_true, decide_eq_true_eq] at hstored
  obtain ⟨publicKey, -, hsignature⟩ := (hverified c hc hstored.1).1
  rw [hstored.2] at hsignature
  have hrefused : decide ("forged" = "signed") = true := hsignature
  exact absurd hrefused (by decide)

end TrusteeBank
