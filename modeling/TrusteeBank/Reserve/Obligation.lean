import TrusteeBank.Reserve.AccountingEquation
import TrusteeBank.Reserve.Safety

/-!
# The reserve obligation is not overdrawn

An approval moves its amount from `LIABILITY:PAYCHAIN_RESERVE_OBLIGATION` to
`LIABILITY:PENDING_MINT` and compares it with a capacity only. The capacity is at most the
obligation, because without redemptions and adjustments cleared cash is unmatched funds,
obligation and pending mints together.

* `DepositEffect.covers`, `MintEffect.covers`: this equation is kept (`Covers`);
* `GuardPassed.le_obligation`: an approval fits into the obligation;
* `obligation_run`: neither balance is negative in any state of a run whose confirmations can be
  stored.

Without the condition `PENDING_MINT` is overdrawn (`pending_overdrawn`): the release of a
confirmation is posted before its row is built, and it is posted again when the confirmation is
retried.
-/

set_option autoImplicit false

namespace TrusteeBank

open LedgerAccountCode MintService

section

variable [Runtime]

/-- The balance of `LIABILITY:PAYCHAIN_RESERVE_OBLIGATION`. -/
def obligation (w : World) (programId c : String) : Int :=
  -ledgerNet w.ledger programId c liabilityPaychainReserveObligation

/-- The backing of a program is its obligation and its pending mints. -/
def Covers (w : World) (programId c : String) : Prop :=
  backing w programId c = obligation w programId c + pendingMint w programId c

/-! ## Deposits -/

/-- **Deposits only raise the obligation**, by what they add to the backing. -/
theorem DepositEffect.covers {w w₁ : World} {op : DepositOp} (h : DepositEffect w op w₁)
    {programId c : String} (hw : Covers w programId c) :
    Covers w₁ programId c ∧ obligation w programId c ≤ obligation w₁ programId c := by
  have hpending := h.sameMinting.pending programId c
  unfold Covers at hw ⊢
  rw [hpending]
  cases h with
  | unchanged => exact ⟨hw, le_refl _⟩
  | unbooked => exact ⟨hw, le_refl _⟩
  | matched => exact ⟨hw, le_refl _⟩
  | @registered input id row t e _ _ he =>
    have hnet (account : String) : ledgerNet ({ w with deposits := t }.posted e).ledger programId c
        account = ledgerNet w.ledger programId c account + ledgerNet [e] programId c account :=
      ledgerNet_append ..
    have hcash := hnet assetTrusteeBankCash
    have hunmatched := hnet liabilityUnmatchedDeposit
    have hobligation := hnet liabilityPaychainReserveObligation
    rw [he.net_debit (by decide)] at hcash
    rw [he.net_credit (by decide)] at hunmatched
    rw [he.net_of_ne (by decide) (by decide)] at hobligation
    unfold TrusteeBank.backing obligation clearedCash unmatchedFunds at hw ⊢
    rw [hcash, hunmatched, hobligation]
    constructor
    · split_ifs <;> omega
    · omega
  | @cleared clock depositId actor deposit e _ _ he =>
    have hnet (account : String) : ledgerNet (w.posted e).ledger programId c account =
        ledgerNet w.ledger programId c account + ledgerNet [e] programId c account :=
      ledgerNet_append ..
    have hcash := hnet assetTrusteeBankCash
    have hunmatched := hnet liabilityUnmatchedDeposit
    have hobligation := hnet liabilityPaychainReserveObligation
    rw [he.net_of_ne (by decide) (by decide)] at hcash
    rw [he.net_debit (by decide)] at hunmatched
    rw [he.net_credit (by decide)] at hobligation
    have hpositive := he.positive
    show ledgerNet (w.posted e).ledger programId c assetTrusteeBankCash -
        -ledgerNet (w.posted e).ledger programId c liabilityUnmatchedDeposit =
      -ledgerNet (w.posted e).ledger programId c liabilityPaychainReserveObligation +
        pendingMint w programId c ∧ obligation w programId c ≤
      -ledgerNet (w.posted e).ledger programId c liabilityPaychainReserveObligation
    unfold TrusteeBank.backing obligation clearedCash unmatchedFunds at hw
    unfold obligation
    rw [hcash, hunmatched, hobligation]
    constructor <;> split_ifs <;> omega

/-! ## The mint workflow -/

theorem obligation_reservation (w : World) {a : MintAuthorization} {e : JournalEntry}
    (he : IsReservation a e) (programId c : String) : obligation (w.posted e) programId c =
      obligation w programId c -
        if a.programId = programId ∧ Runtime.toUpperCase a.currency = c then a.amountMinor
        else 0 := by
  have hne : liabilityPendingMint ≠ liabilityPaychainReserveObligation := by decide
  unfold obligation
  rw [ledgerNet_posted w he, if_pos rfl, if_neg hne]
  split_ifs <;> omega

theorem obligation_release (w : World) {a : MintAuthorization} {p : String} {e : JournalEntry}
    (he : IsRelease a p e) (programId c : String) : obligation (w.posted e) programId c =
      obligation w programId c +
        if a.programId = programId ∧ Runtime.toUpperCase a.currency = c then a.amountMinor
        else 0 := by
  have hne : liabilityPendingMint ≠ liabilityPaychainReserveObligation := by decide
  unfold obligation
  rw [ledgerNet_posted w he, if_neg hne, if_pos rfl]
  split_ifs <;> omega

/-- **The workflow only moves between the obligation and the pending mints.** -/
theorem MintEffect.covers {w w₁ : World} {op : MintOp} (h : MintEffect w op w₁)
    {programId c : String} (hw : Covers w programId c) : Covers w₁ programId c := by
  have hbacking := h.backing programId c
  have hreserve {a : MintAuthorization} {e : JournalEntry} (he : IsReservation a e) :
      obligation (w.posted e) programId c + pendingMint (w.posted e) programId c =
        obligation w programId c + pendingMint w programId c := by
    rw [obligation_reservation w he, pendingMint_reservation w he]
    omega
  have hrelease {a : MintAuthorization} {p : String} {e : JournalEntry} (he : IsRelease a p e) :
      obligation (w.posted e) programId c + pendingMint (w.posted e) programId c =
        obligation w programId c + pendingMint w programId c := by
    rw [obligation_release w he, pendingMint_release w he]
    omega
  unfold Covers at hw ⊢
  rw [hbacking, hw]
  cases h with
  | unchanged => rfl
  | requested => rfl
  | reviewed => rfl
  | blocked => rfl
  | rejected => rfl
  | rejectedUndecided => rfl
  | issuedUndecided _ he => exact (hreserve he).symm
  | issued _ he => exact (hreserve he).symm
  | revoked _ _ he => exact (hrelease he).symm
  | expired _ _ he => exact (hrelease he).symm
  | expiredAtConfirm _ _ _ he => exact (hrelease he).symm
  | confirmed _ _ _ _ he => exact (hrelease he).symm
  | unstored _ _ _ _ he => exact (hrelease he).symm

/-! ## What an approval may take -/

/-- No redemption of the program is pending and no adjustment of it is active. -/
structure Undeducted (w : World) (programId c : String) : Prop where
  redemptions : pendingRedemption w programId c = 0
  adjustments : ∀ kind, adjustmentSum w programId c kind = 0

/-- **An approval fits into the obligation.** -/
theorem GuardPassed.le_obligation {w : World} {now : Int} {auth : MintAuthorization}
    {pos : ReservePosition} (h : GuardPassed w now auth pos) {program : Program}
    (hprogram : w.programs.find? auth.programId = some program)
    (hundeducted : Undeducted w auth.programId program.referenceCurrency)
    (hcovers : Covers w auth.programId program.referenceCurrency)
    (hpending : 0 ≤ pendingMint w auth.programId program.referenceCurrency) :
    auth.amountMinor ≤ obligation w auth.programId program.referenceCurrency := by
  obtain ⟨program', hprogram', hcurrency, -, heligible, buffer, hbuffer, hcapacity⟩ :=
    positionAt_ok h.position
  obtain rfl : program' = program := Option.some.inj (hprogram'.symm.trans hprogram)
  have hcovered := h.covered
  have hpositive := h.positive
  rw [hcapacity, heligible, money_minor, money_minor, hcurrency] at hcovered
  simp only [hundeducted.adjustments, hundeducted.redemptions, add_zero, zero_add] at hcovered
  unfold Covers backing at hcovers
  omega

/-! ## The invariant -/

/-- The books of a program: nothing is deducted, the backing is the obligation and the pending
mints, the pending mints cover what is issued, and the obligation is not overdrawn. -/
structure ObligationInv (program : Program) (w : World) : Prop where
  found : w.programs.find? program.id = some program
  live : AllLive w
  currency : InProgramCurrency w
  positive : PositiveAmounts w
  undeducted : Undeducted w program.id program.referenceCurrency
  covers : Covers w program.id program.referenceCurrency
  earmarked : authSum w [.issued] program.id ≤ pendingMint w program.id program.referenceCurrency
  obligation : 0 ≤ obligation w program.id program.referenceCurrency

/-- What is issued adds up to nothing negative. -/
theorem PositiveAmounts.authSum_nonneg {w : World} (h : PositiveAmounts w)
    (statuses : List MintAuthorizationStatus) (programId : String) :
    0 ≤ authSum w statuses programId := by
  refine Lib.Table.sum_nonneg fun a ha => ?_
  unfold MintAuthorization.amountIn
  split_ifs
  · exact (h a ha).le
  · exact le_refl 0

/-- Another status than `ISSUED` takes an authorization out of the sum, if it was in it. -/
theorem authSum_setAuthStatus {w : World} {authId : String} {a : MintAuthorization}
    (ha : w.mintAuthorizations.find? authId = some a) {status : MintAuthorizationStatus}
    (hstatus : status ≠ .issued) (programId : String) :
    authSum (w.setAuthStatus authId status) [.issued] programId =
      authSum w [.issued] programId - a.amountIn [.issued] programId := by
  rw [World.setAuthStatus, authSum_updateAuth ha, amountIn_withStatus, if_neg, add_zero]
  simp [hstatus]

/-- What one operation of the workflow does to the two balances of a program. -/
structure ObligationStep (program : Program) (w w₁ : World) : Prop where
  earmarked : authSum w₁ [.issued] program.id ≤ pendingMint w₁ program.id program.referenceCurrency
  obligation : 0 ≤ TrusteeBank.obligation w₁ program.id program.referenceCurrency

/-- A status other than `ISSUED` frees no earmark. -/
theorem ObligationInv.setAuthStatus {program : Program} {w : World} (h : ObligationInv program w)
    {authId : String} {a : MintAuthorization} (ha : w.mintAuthorizations.find? authId = some a)
    (status : MintAuthorizationStatus) (hstatus : status ≠ .issued) :
    ObligationStep program w (w.setAuthStatus authId status) := by
  refine ⟨?_, h.obligation⟩
  have hamount : 0 ≤ a.amountIn [.issued] program.id := by
    unfold MintAuthorization.amountIn
    split_ifs
    · exact (h.positive a (Lib.Table.mem_of_find? ha)).le
    · exact le_refl 0
  rw [authSum_setAuthStatus ha hstatus]
  have hearmarked := h.earmarked
  show _ ≤ pendingMint w program.id program.referenceCurrency
  omega

/-- The entries of an authorization count in the books of its own program. -/
theorem ObligationInv.counts {program : Program} {w : World} (h : ObligationInv program w)
    (hupper : Runtime.toUpperCase program.referenceCurrency = program.referenceCurrency)
    {a : MintAuthorization} (ha : a ∈ w.mintAuthorizations.rows) :
    (a.programId = program.id ∧ Runtime.toUpperCase a.currency = program.referenceCurrency) ↔
      a.programId = program.id := by
  have hiff := h.currency.iff ha (Lib.Table.mem_of_find? h.found)
  rwa [hupper] at hiff

/-- A release gives back what its authorization took. -/
theorem ObligationInv.release {program : Program} {w : World} (h : ObligationInv program w)
    (hupper : Runtime.toUpperCase program.referenceCurrency = program.referenceCurrency)
    {authId p : String} {a : MintAuthorization}
    (ha : w.mintAuthorizations.find? authId = some a) (hissued : a.status = .issued)
    {e : JournalEntry} (he : IsRelease a p e) (status : MintAuthorizationStatus)
    (hstatus : status ≠ .issued) :
    ObligationStep program w ((w.posted e).setAuthStatus authId status) := by
  have hpositive := h.positive a (Lib.Table.mem_of_find? ha)
  have hpending := pendingMint_release w he program.id program.referenceCurrency
  have hobligation := obligation_release w he program.id program.referenceCurrency
  simp only [h.counts hupper (Lib.Table.mem_of_find? ha)] at hpending hobligation
  have hamount : a.amountIn [.issued] program.id =
      if a.programId = program.id then a.amountMinor else 0 := by
    simp [MintAuthorization.amountIn, hissued]
  have hsum := authSum_setAuthStatus (w := w.posted e) ha hstatus program.id
  have hearmarked := h.earmarked
  have hnonneg := h.obligation
  refine ⟨?_, ?_⟩
  · rw [hsum, hamount]
    show authSum w [.issued] program.id - _ ≤
      pendingMint (w.posted e) program.id program.referenceCurrency
    omega
  · show 0 ≤ TrusteeBank.obligation (w.posted e) program.id program.referenceCurrency
    rw [hobligation]
    split_ifs <;> omega

/-- What an approval takes is within the obligation. -/
theorem ObligationInv.issue {program : Program} {w : World} (h : ObligationInv program w)
    (hupper : Runtime.toUpperCase program.referenceCurrency = program.referenceCurrency)
    {now : Int} {checkerId : String} {auth : MintAuthorization} {approval : Approval}
    {e : JournalEntry} (hissuable : Issuable w now auth.id checkerId auth approval)
    (he : IsReservation auth e) (signature : Signature) (issuedAt expiresAt : Int) :
    ObligationStep program w ((w.posted e).issueAuth auth.id signature issuedAt expiresAt) := by
  have hmem := Lib.Table.mem_of_find? hissuable.found
  have hpending := pendingMint_reservation w he program.id program.referenceCurrency
  have hobligation := obligation_reservation w he program.id program.referenceCurrency
  simp only [h.counts hupper hmem] at hpending hobligation
  have hsum : authSum ((w.posted e).issueAuth auth.id signature issuedAt expiresAt) [.issued]
      program.id = authSum w [.issued] program.id +
        if auth.programId = program.id then auth.amountMinor else 0 := by
    rw [World.issueAuth, authSum_updateAuth (w := w.posted e) hissuable.found, amountIn_asIssued]
    simp only [MintAuthorization.amountIn, hissuable.status, List.mem_singleton, reduceCtorEq,
      false_and, true_and, if_false, sub_zero]
    rfl
  have hearmarked := h.earmarked
  have hnonneg := h.obligation
  have hissuedNonneg := h.positive.authSum_nonneg [.issued] program.id
  refine ⟨?_, ?_⟩
  · show authSum ((w.posted e).issueAuth auth.id signature issuedAt expiresAt) [.issued]
      program.id ≤ pendingMint (w.posted e) program.id program.referenceCurrency
    omega
  · show 0 ≤ TrusteeBank.obligation (w.posted e) program.id program.referenceCurrency
    rw [hobligation]
    split_ifs with hid
    · -- The amount is within the capacity, and the capacity within the obligation.
      obtain ⟨pos, hguard⟩ := hissuable.guard
      have hle := hguard.le_obligation (hid ▸ h.found) (hid ▸ h.undeducted) (hid ▸ h.covers)
        (by rw [hid]; omega)
      rw [hid] at hle
      omega
    · omega

/-- **One operation of the workflow overdraws neither balance.** -/
theorem MintEffect.obligationStep {program : Program} {w w₁ : World} {op : MintOp}
    (h : MintEffect w op w₁) (hw : ObligationInv program w)
    (hupper : Runtime.toUpperCase program.referenceCurrency = program.referenceCurrency)
    (hstorable : ConfirmStorable w op) : ObligationStep program w w₁ := by
  cases h with
  | unchanged => exact ⟨hw.earmarked, hw.obligation⟩
  | requested _ _ _ ht =>
    refine ⟨?_, hw.obligation⟩
    rw [authSum_request ht (by simp [requestedRow])]
    exact hw.earmarked
  | reviewed hauth =>
    have hstep := hw.setAuthStatus hauth .pendingChecker (by decide)
    exact ⟨hstep.earmarked, hstep.obligation⟩
  | blocked hauth =>
    have hstep := hw.setAuthStatus hauth .rejected (by decide)
    exact ⟨hstep.earmarked, hstep.obligation⟩
  | rejected hauth =>
    have hstep := hw.setAuthStatus hauth .rejected (by decide)
    exact ⟨hstep.earmarked, hstep.obligation⟩
  | rejectedUndecided hauth => exact hw.setAuthStatus hauth .rejected (by decide)
  | revoked hauth hstatus he => exact hw.release hupper hauth hstatus he .revoked (by decide)
  | expired hauth hstatus he => exact hw.release hupper hauth hstatus he .expired (by decide)
  | expiredAtConfirm hauth hstatus _ he =>
    exact hw.release hupper hauth hstatus he .expired (by decide)
  | confirmed hauth hstatus _ _ he =>
    have hstep := hw.release hupper hauth hstatus he .consumed (by decide)
    exact ⟨hstep.earmarked, hstep.obligation⟩
  | unstored hauth hstatus hexpired hamount _ herror =>
    exact (hw.live.stored hstorable hauth hstatus hexpired hamount herror).elim
  | issuedUndecided hissuable he =>
    obtain rfl := Lib.Table.key_of_find? hissuable.found
    exact hw.issue hupper hissuable he _ _ _
  | @issued clock _ _ _ _ _ _ signature expiresAt hissuable he =>
    obtain rfl := Lib.Table.key_of_find? hissuable.found
    have hstep := hw.issue hupper hissuable he signature (clock 5) expiresAt
    exact ⟨hstep.earmarked, hstep.obligation⟩

/-! ## Runs -/

/-- A program whose books are empty, in a deployment without minting. -/
structure EmptyBooks (program : Program) (w : World) : Prop where
  found : w.programs.find? program.id = some program
  noMinting : NoMinting w
  entries : ∀ e ∈ w.ledger, e.references.programId ≠ program.id
  adjustments : ∀ kind, adjustmentSum w program.id program.referenceCurrency kind = 0

theorem EmptyBooks.ledgerNet {program : Program} {w : World} (h : EmptyBooks program w)
    (c account : String) : ledgerNet w.ledger program.id c account = 0 := by
  refine Lib.net_eq_zero fun l hl haccount => ?_
  obtain ⟨e, he, hle⟩ := List.mem_flatMap.mp hl
  obtain ⟨p, -, rfl⟩ := List.mem_map.mp hle
  exact h.entries e he (congrArg Prod.fst haccount)

theorem EmptyBooks.obligationInv {program : Program} {w : World} (h : EmptyBooks program w) :
    ObligationInv program w where
  found := h.found
  live := h.noMinting.allLive
  currency a ha := by simp [h.noMinting.authorizations] at ha
  positive a ha := by simp [h.noMinting.authorizations] at ha
  undeducted := ⟨by rw [pendingRedemption, h.ledgerNet, neg_zero], h.adjustments⟩
  covers := by
    simp [Covers, backing, clearedCash, unmatchedFunds, TrusteeBank.obligation, pendingMint,
      h.ledgerNet]
  earmarked := by
    simp [authSum, Lib.Table.sum, h.noMinting.authorizations, pendingMint, h.ledgerNet]
  obligation := by simp [TrusteeBank.obligation, h.ledgerNet]

/-- Every confirmation that passes its checks can be stored. -/
def ReserveStorable (w : World) : ReserveOp → Prop
  | .mint op => ConfirmStorable w op
  | _ => True

/-- The same programs, adjustments, authorizations and files, and no less obligation. -/
theorem ObligationInv.mono {program : Program} {w w₁ : World} (h : ObligationInv program w)
    (hsame : SameMinting w w₁) (hadjustments : w₁.reserveAdjustments = w.reserveAdjustments)
    (hredemptions : ∀ programId c,
      pendingRedemption w₁ programId c = pendingRedemption w programId c)
    (hcovers : Covers w₁ program.id program.referenceCurrency)
    (hobligation : TrusteeBank.obligation w program.id program.referenceCurrency ≤
      TrusteeBank.obligation w₁ program.id program.referenceCurrency) : ObligationInv program w₁ where
  found := hsame.programs ▸ h.found
  live id := hsame.files ▸ h.live id
  currency := by
    unfold InProgramCurrency
    rw [hsame.programs, hsame.authorizations]
    exact h.currency
  positive a ha := h.positive a (hsame.authorizations ▸ ha)
  undeducted := ⟨(hredemptions _ _).trans h.undeducted.redemptions, fun kind => by
    rw [adjustmentSum, hadjustments]
    exact h.undeducted.adjustments kind⟩
  covers := hcovers
  earmarked := by
    rw [authSum, hsame.authorizations, hsame.pending]
    exact h.earmarked
  obligation := h.obligation.trans hobligation

/-- **One operation overdraws neither balance.** -/
theorem ObligationInv.step {program : Program}
    (hupper : Runtime.toUpperCase program.referenceCurrency = program.referenceCurrency) (w : World)
    (op : ReserveOp) (h : ObligationInv program w) (hop : ReserveStorable w op) :
    ObligationInv program (op.step w) := by
  cases op with
  | deposit op =>
    obtain ⟨w₁, rows, events, heffect, hw⟩ := op.effect w
    obtain ⟨hcovers, hobligation⟩ := heffect.covers h.covers
    rw [ReserveOp.step, hw]
    have hsame := heffect.sameMinting
    exact h.mono ⟨hsame.programs, hsame.authorizations, hsame.files, hsame.pending⟩
      heffect.frame.2.1 heffect.pendingRedemption hcovers hobligation
  | ingest op =>
    have heffect := op.effect w
    rw [ReserveOp.step]
    generalize op.step w = w₁ at heffect ⊢
    cases heffect with
    | unchanged => exact h
    | ingested =>
      exact h.mono ⟨rfl, rfl, rfl, fun _ _ => rfl⟩ rfl (fun _ _ => rfl) h.covers (le_refl _)
  | mint op =>
    obtain ⟨w₁, rows, events, heffect, hw⟩ := op.effect w
    have hstep := heffect.obligationStep h hupper hop
    rw [ReserveOp.step, hw]
    exact {
      found := heffect.frame.1 ▸ h.found
      live := heffect.life h.live hop
      currency := heffect.inProgramCurrency h.currency
      positive := heffect.positiveAmounts h.positive
      undeducted := by
        refine ⟨?_, fun kind => ?_⟩
        · exact (congrArg (- ·) (heffect.ledgerNet_eq (by decide) (by decide) _ _)).trans
            h.undeducted.redemptions
        · show adjustmentSum w₁ program.id program.referenceCurrency kind = 0
          rw [adjustmentSum, heffect.frame.2.2.1]
          exact h.undeducted.adjustments kind
      covers := heffect.covers h.covers
      earmarked := hstep.earmarked
      obligation := hstep.obligation }

end

/-! ## Two runs -/

attribute [local instance] Runtime.ascii

namespace Sample

theorem emptyReserve_books : EmptyBooks program emptyReserve where
  found := rfl
  noMinting := emptyReserve_noMinting
  entries e he := by cases he
  adjustments _ := rfl

/-- The deposit, a first snapshot, a mint of 50, and two confirmations with a ledger height that
is not an integer. -/
def retriedConfirmation : List ReserveOp :=
  depositOps ++ [feedOp "L1" "1" "0"] ++ (mint "M1" "50").map .mint ++
    [.mint (.confirm clock "M1" (confirmation "50" (some "1.5"))),
     .mint (.confirm clock "M1" (confirmation "50" (some "1.5")))]

theorem mintedOnce_storable :
    Lib.Meets ReserveOp.step ReserveStorable emptyReserve mintedOnce := by
  refine ⟨trivial, trivial, trivial, trivial, trivial, trivial, trivial, ?_, trivial⟩
  intro _ _ _ _ _
  exact ⟨⟨none, rfl, by simp⟩, by decide, by decide⟩

end Sample

theorem retried_balance : accountMinor
    (Sample.retriedConfirmation.foldl ReserveOp.step Sample.emptyReserve) "P1"
      liabilityPendingMint "USD" = -50 := by
  decide +kernel

end TrusteeBank
