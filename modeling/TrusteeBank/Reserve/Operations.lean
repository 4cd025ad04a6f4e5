import TrusteeBank.Mint.Earmark
import TrusteeBank.Services.Deposits
import TrusteeBank.Services.Liability

/-!
# Deposits, the feed and the mint workflow together

A machine whose steps are the operations of the three services that decide what is minted against
what reserve. The frame lemmas say what the deposits and the feed leave to the mint workflow, and
`EarmarkInv.reserveStep` that the earmarks of `TrusteeBank.Mint.Earmark` stay right in the larger
machine.
-/

set_option autoImplicit false

namespace TrusteeBank

open LedgerAccountCode

section

variable [Runtime]

inductive ReserveOp
  | deposit (op : DepositOp)
  | ingest (op : IngestOp)
  | mint (op : MintOp)

def ReserveOp.step (w : World) : ReserveOp → World
  | .deposit op => op.step w
  | .ingest op => op.step w
  | .mint op => op.step w

/-! ## What deposits and the feed leave alone -/

/-- The mint workflow is where it was. -/
structure SameMinting (w w₁ : World) : Prop where
  programs : w₁.programs = w.programs
  authorizations : w₁.mintAuthorizations = w.mintAuthorizations
  files : fileOf w₁ = fileOf w
  pending : ∀ programId c, pendingMint w₁ programId c = pendingMint w programId c

/-- The tables no operation on deposits writes to. -/
theorem DepositEffect.frame {w w₁ : World} {op : DepositOp} (h : DepositEffect w op w₁) :
    w₁.programs = w.programs ∧ w₁.reserveAdjustments = w.reserveAdjustments ∧
      w₁.liabilitySnapshots = w.liabilitySnapshots ∧ w₁.mintAuthorizations = w.mintAuthorizations ∧
      w₁.mintConfirmations = w.mintConfirmations ∧ w₁.approvals = w.approvals := by
  cases h <;> exact ⟨rfl, rfl, rfl, rfl, rfl, rfl⟩

omit [Runtime] in
/-- The sources of deposits are not sources of the mint workflow. -/
theorem depositSource_ne {q : String} (hq : q = "deposit:" ∨ q = "deposit-clear:") {p : String}
    (hp : p ∈ mintPrefixes) (a b : String) : q ++ a ≠ p ++ b := by
  intro h
  have hl := congrArg String.toList h
  rw [String.toList_append, String.toList_append] at hl
  simp only [mintPrefixes, releasePrefixes, List.mem_cons, List.not_mem_nil, or_false] at hp
  rcases hq with rfl | rfl <;> rcases hp with rfl | rfl | rfl | rfl <;> simp at hl

/-- An entry with another source is on no trail. -/
theorem fileOf_posted_of_ne {w : World} {e : JournalEntry}
    (h : ∀ p ∈ mintPrefixes, ∀ id, e.references.source ≠ p ++ id) :
    fileOf (w.posted e) = fileOf w := by
  funext id
  have hnil : entriesOf mintPrefixes id [e] = [] := by
    refine List.eq_nil_iff_forall_not_mem.mpr fun a ha => ?_
    obtain ⟨hae, p, hp, hsource⟩ := mem_entriesOf.mp ha
    rw [List.mem_singleton.mp hae] at hsource
    exact h p hp id hsource
  simp only [fileOf, World.posted, entriesOf_append, hnil, List.append_nil]
  rfl

/-- The entry of a deposit is none of the mint workflow's. -/
theorem sameMinting_posted {w : World} {currency debit credit q id : String} {amount : Int}
    {e : JournalEntry} (he : IsMove currency debit credit amount e.references e)
    (hdebit : debit ≠ liabilityPendingMint) (hcredit : credit ≠ liabilityPendingMint)
    (hq : q = "deposit:" ∨ q = "deposit-clear:") (hsource : e.references.source = q ++ id) :
    SameMinting w (w.posted e) where
  programs := rfl
  authorizations := rfl
  files := fileOf_posted_of_ne fun p hp id' => hsource ▸ depositSource_ne hq hp id id'
  pending programId c := by
    unfold pendingMint
    rw [World.posted, ledgerNet_append, he.net, if_neg hdebit, if_neg hcredit]
    simp

theorem DepositEffect.sameMinting {w w₁ : World} {op : DepositOp} (h : DepositEffect w op w₁) :
    SameMinting w w₁ := by
  cases h with
  | unchanged => exact ⟨rfl, rfl, rfl, fun _ _ => rfl⟩
  | unbooked => exact ⟨rfl, rfl, rfl, fun _ _ => rfl⟩
  | matched => exact ⟨rfl, rfl, rfl, fun _ _ => rfl⟩
  | registered _ _ he _ hsource =>
    have h := sameMinting_posted (w := w) he (by decide) (by decide) (.inl rfl) hsource
    exact ⟨rfl, rfl, h.files, h.pending⟩
  | cleared _ _ he _ hsource =>
    have h := sameMinting_posted (w := w) he (by decide) (by decide) (.inr rfl) hsource
    exact ⟨rfl, rfl, h.files, h.pending⟩

theorem IngestEffect.sameMinting {w w₁ : World} {op : IngestOp} (h : IngestEffect w op w₁) :
    SameMinting w w₁ := by
  cases h <;> exact ⟨rfl, rfl, rfl, fun _ _ => rfl⟩

/-- The invariant of the mint workflow depends on nothing else. -/
theorem EarmarkInv.congr {w w₁ : World} (h : EarmarkInv w) (hsame : SameMinting w w₁) :
    EarmarkInv w₁ where
  live id := by
    rw [hsame.files]
    exact h.live id
  currency := by
    unfold InProgramCurrency
    rw [hsame.programs, hsame.authorizations]
    exact h.currency
  earmarked program hprogram := by
    rw [hsame.programs] at hprogram
    rw [hsame.pending, authSum, hsame.authorizations]
    exact h.earmarked program hprogram

/-- **The earmarks stay right in the larger machine.** -/
theorem EarmarkInv.reserveStep {w : World} (h : EarmarkInv w) (op : ReserveOp)
    (hop : ∀ mop, op = .mint mop → ConfirmStorable w mop ∧ RejectsUnissued w mop) :
    EarmarkInv (op.step w) := by
  cases op with
  | deposit op =>
    obtain ⟨w₁, rows, events, heffect, hw⟩ := op.effect w
    rw [ReserveOp.step, hw]
    exact (h.congr heffect.sameMinting).congr ⟨rfl, rfl, rfl, fun _ _ => rfl⟩
  | ingest op => exact h.congr (op.effect w).sameMinting
  | mint op => exact h.step w op (hop op rfl)

end

/-! ## A deposit and a feed -/

attribute [local instance] Runtime.ascii

namespace Sample

/-- An instruction to fund 100. -/
def instruction : FundingInstruction where
  id := "F1"
  programId := "P1"
  paychainRequestId := "R1"
  assetId := "A1"
  depositor := "depositor"
  expectedPayer := none
  beneficiaryAccountId := "T1"
  amountMinor := 100
  currency := "USD"
  uniqueReference := "PC-A1-1"
  permittedMethod := "WIRE"
  expiresAt := 3600000
  status := .issued

/-- The deployment before anything was deposited. -/
def emptyReserve : World :=
  { world with
    deposits := .empty _
    ledger := []
    liabilitySnapshots := .empty _
    fundingInstructions := ⟨[instruction], by decide⟩ }

/-- A deposit of 100 is registered, matched and cleared. -/
def depositOps : List ReserveOp :=
  [.deposit (.register
    { programId := "P1", trusteeAccountId := "T1", bankTransactionId := "B1"
      amountMinor := "100", currency := "USD", payerName := none, paymentReference := none
      transactionDate := "2026-01-01T00:00:00Z", actor := "bank" } "D1"),
   .deposit (.match "D1" "F1" "bank"), .deposit (.clear clock "D1" "bank")]

/-- A snapshot that reports a circulating supply. -/
def feedOp (id sequence circulatingMinor : String) : ReserveOp :=
  .ingest
    { id
      input :=
        { programId := "P1", assetId := "A1", assetCode := "COIN", blockchainNetwork := "net"
          issuerAccount := "issuer", circulatingMinor, treasuryHeldMinor := "0"
          lockedMinor := "0", pendingMintMinor := "0", pendingBurnMinor := "0"
          pendingRedemptionMinor := "0", confirmedBurnMinor := "0"
          effectiveLiabilityMinor := circulatingMinor, currency := "USD"
          ledgerReference := "ref", sourceVersion := "1", sequence
          snapshotTimestamp := "2026-01-01T00:00:00Z", signature := none } }

theorem emptyReserve_noMinting : NoMinting emptyReserve where
  authorizations := rfl
  confirmations := rfl
  sources e he := by cases he

theorem emptyReserve_nothingPending : NothingPending emptyReserve := fun _ _ => rfl

end Sample

end TrusteeBank
