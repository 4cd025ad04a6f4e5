import TrusteeBank.Reserve.Operations

/-!
# Reserve safety

What is minted (issued and not yet confirmed, or confirmed) never exceeds the eligible reserve,
as long as nothing is approved while a confirmed mint is still missing from the liability feed.

* `MintEffect.backing`, `DepositEffect.backing`: the backing of a program (its cash less what is
  unmatched) never shrinks;
* `GuardPassed.safe`: an approval fits into the backing, because the guard counts what the feed reports
  and what is earmarked, and the condition says that the feed reports all that was confirmed;
* `reserve_safety_run`: the bound after every run.

Without the condition the bound fails (`reserve_not_safe`): a confirmation releases the earmark
at once, while the obligation grows only with the next snapshot, so in between the same reserve
can be minted against twice.
-/

set_option autoImplicit false

namespace TrusteeBank

open LedgerAccountCode MintService

section

variable [Runtime]

/-! ## The eligible reserve -/

/-- Cash that is not unmatched. -/
def backing (w : World) (programId c : String) : Int :=
  clearedCash w programId c - unmatchedFunds w programId c

/-- No redemption is pending and no adjustment is active. -/
structure NoDeductions (w : World) : Prop where
  redemptions : ∀ programId c, pendingRedemption w programId c = 0
  adjustments : ∀ programId c kind, adjustmentSum w programId c kind = 0

/-- Without deductions the eligible reserve is the backing, and the capacity is what the reported
supply, the buffer and the earmarks leave of it. -/
theorem NoDeductions.position {w : World} (h : NoDeductions w) {now : Int} {programId : String}
    {pos : ReservePosition} (hpos : positionAt w now programId = .ok pos) :
    ∃ program, w.programs.find? programId = some program ∧
      pos.currency = program.referenceCurrency ∧
      pos.eligibleReserve.minor = max 0 (backing w programId program.referenceCurrency) ∧
      ∃ buffer : Int, 0 ≤ buffer ∧ pos.mintCapacity.minor = max (pos.eligibleReserve.minor -
        (max 0 (reportedCirculating w programId) +
          (buffer + pendingMint w programId program.referenceCurrency))) 0 := by
  obtain ⟨program, hprogram, hcurrency, -, heligible, buffer, hbuffer, hcapacity⟩ :=
    positionAt_ok hpos
  refine ⟨program, hprogram, hcurrency, ?_, buffer, hbuffer, ?_⟩
  · rw [heligible, money_minor, hcurrency]
    simp only [h.adjustments, h.redemptions, add_zero, zero_add]
    rfl
  · rw [hcapacity, money_minor, hcurrency, h.redemptions, add_zero]

/-! ## Backing never shrinks -/

/-- An account an entry is not on keeps its net. -/
theorem IsMove.net_other {currency debit credit : String} {amount : Int} {e : JournalEntry}
    (he : IsMove currency debit credit amount e.references e) (w : World) {account : String}
    (hdebit : debit ≠ account) (hcredit : credit ≠ account) (programId c : String) :
    ledgerNet (w.posted e).ledger programId c account = ledgerNet w.ledger programId c account := by
  rw [World.posted, ledgerNet_append, he.net_of_ne hdebit hcredit, add_zero]

theorem MintEffect.backing {w w₁ : World} {op : MintOp} (h : MintEffect w op w₁)
    (programId c : String) : backing w₁ programId c = backing w programId c := by
  unfold TrusteeBank.backing clearedCash unmatchedFunds
  rw [h.ledgerNet_eq (by decide) (by decide), h.ledgerNet_eq (by decide) (by decide)]

/-- Registering books cash and unmatched funds alike; clearing turns unmatched funds into backing. -/
theorem DepositEffect.backing {w w₁ : World} {op : DepositOp} (h : DepositEffect w op w₁)
    (programId c : String) : backing w programId c ≤ backing w₁ programId c := by
  unfold TrusteeBank.backing clearedCash unmatchedFunds
  cases h with
  | unchanged => exact le_refl _
  | unbooked => exact le_refl _
  | matched => exact le_refl _
  | @registered input id row t e _ _ he =>
    have hnet (account : String) : ledgerNet ({ w with deposits := t }.posted e).ledger programId c
        account = ledgerNet w.ledger programId c account + ledgerNet [e] programId c account :=
      ledgerNet_append ..
    rw [hnet, hnet, he.net_debit (by decide), he.net_credit (by decide)]
    split_ifs <;> omega
  | @cleared clock depositId actor deposit e _ _ he =>
    have hcash := he.net_other w (show liabilityUnmatchedDeposit ≠ assetTrusteeBankCash by decide)
      (by decide) programId c
    have hunmatched : ledgerNet (w.posted e).ledger programId c liabilityUnmatchedDeposit =
        ledgerNet w.ledger programId c liabilityUnmatchedDeposit +
          ledgerNet [e] programId c liabilityUnmatchedDeposit := ledgerNet_append ..
    rw [he.net_debit (by decide)] at hunmatched
    have hpositive := he.positive
    show _ ≤ ledgerNet (w.posted e).ledger programId c assetTrusteeBankCash -
      -ledgerNet (w.posted e).ledger programId c liabilityUnmatchedDeposit
    rw [hcash, hunmatched]
    split_ifs <;> omega

theorem DepositEffect.pendingRedemption {w w₁ : World} {op : DepositOp}
    (h : DepositEffect w op w₁) (programId c : String) :
    pendingRedemption w₁ programId c = pendingRedemption w programId c := by
  unfold TrusteeBank.pendingRedemption
  cases h with
  | unchanged => rfl
  | unbooked => rfl
  | matched => rfl
  | registered _ _ he => exact congrArg _ (he.net_other w (by decide) (by decide) programId c)
  | cleared _ _ he => exact congrArg _ (he.net_other w (by decide) (by decide) programId c)

theorem NoDeductions.congr {w w₁ : World} (h : NoDeductions w)
    (hredemptions : ∀ programId c, pendingRedemption w₁ programId c = pendingRedemption w programId c)
    (hadjustments : w₁.reserveAdjustments = w.reserveAdjustments) : NoDeductions w₁ where
  redemptions programId c := (hredemptions programId c).trans (h.redemptions programId c)
  adjustments programId c kind := by
    rw [adjustmentSum, hadjustments]
    exact h.adjustments programId c kind

/-! ## The bound -/

/-- What is issued or consumed fits into the backing of its program. -/
def Safe (w : World) : Prop :=
  ∀ program ∈ w.programs.rows, authSum w [.consumed] program.id + authSum w [.issued] program.id ≤
    max 0 (backing w program.id program.referenceCurrency)

/-- The latest snapshot of a program reports all that was confirmed. -/
def Reported (w : World) (programId : String) : Prop :=
  authSum w [.consumed] programId ≤ max 0 (reportedCirculating w programId)

/-- Nothing is issued before the feed reports all that was confirmed. -/
def ApprovesReported (w : World) : MintOp → Prop
  | .approve clock authId checkerId _ => ∀ auth approval,
      Issuable w (clock 0) authId checkerId auth approval → Reported w auth.programId
  | _ => True

/-- The condition on an operation of a run. -/
def SafelyOrdered (w : World) : ReserveOp → Prop
  | .mint op => ApprovesReported w op ∧ ConfirmStorable w op ∧ RejectsUnissued w op
  | _ => True

/-- An approval fits into the backing. -/
theorem GuardPassed.fits {w : World} {now : Int} {auth : MintAuthorization} {pos : ReservePosition}
    (h : GuardPassed w now auth pos) (hdeductions : NoDeductions w) (hearmarked : Earmarked w)
    (hreported : Reported w auth.programId) :
    ∃ program, w.programs.find? auth.programId = some program ∧
      authSum w [.consumed] auth.programId + authSum w [.issued] auth.programId +
        auth.amountMinor ≤ max 0 (backing w auth.programId program.referenceCurrency) := by
  obtain ⟨program, hprogram, hcurrency, heligible, buffer, hbuffer, hcapacity⟩ :=
    hdeductions.position h.position
  refine ⟨program, hprogram, ?_⟩
  have hcovered := h.covered
  have hpositive := h.positive
  unfold Reported at hreported
  by_cases hupper : Runtime.toUpperCase program.referenceCurrency = program.referenceCurrency
  · have hpending := hearmarked program (Lib.Table.mem_of_find? hprogram)
    rw [hupper, Lib.Table.key_of_find? hprogram] at hpending
    omega
  · -- A reference currency that is not in upper case has no reserve, so nothing fits.
    have hbacking : backing w auth.programId program.referenceCurrency = 0 := by
      simp [backing, clearedCash, unmatchedFunds, ledgerNet_of_not_upper hupper]
    have hpending : pendingMint w auth.programId program.referenceCurrency = 0 := by
      simp [pendingMint, ledgerNet_of_not_upper hupper]
    omega

/-- The sum the bound is about. -/
def committed (w : World) (programId : String) : Int :=
  authSum w [.consumed] programId + authSum w [.issued] programId

omit [Runtime] in
/-- An authorization that leaves `ISSUED` and `CONSUMED`, or stays within them, adds no more. -/
theorem amountIn_withStatus_le {a : MintAuthorization} (hpositive : 0 < a.amountMinor)
    {status : MintAuthorizationStatus} (hstatus : status ≠ .issued)
    (hconsumed : status = .consumed → a.status = .issued) (programId : String) :
    (a.withStatus status).amountIn [.consumed] programId +
        (a.withStatus status).amountIn [.issued] programId ≤
      a.amountIn [.consumed] programId + a.amountIn [.issued] programId := by
  simp only [MintAuthorization.amountIn, MintAuthorization.withStatus, List.mem_singleton]
  by_cases hp : a.programId = programId
  · by_cases hc : status = .consumed
    · simp [hp, hc, hconsumed hc]
    · simp only [hp, hc, hstatus, false_and, if_false]
      split_ifs <;> omega
  · simp [hp]

theorem committed_setAuthStatus_le {w : World} (hpositive : PositiveAmounts w)
    {a : MintAuthorization} {authId : String} (ha : w.mintAuthorizations.find? authId = some a)
    {status : MintAuthorizationStatus} (hstatus : status ≠ .issued)
    (hconsumed : status = .consumed → a.status = .issued) (programId : String) :
    committed (w.setAuthStatus authId status) programId ≤ committed w programId := by
  have hle := amountIn_withStatus_le (hpositive a (Lib.Table.mem_of_find? ha)) hstatus hconsumed
    programId
  unfold committed World.setAuthStatus
  rw [authSum_updateAuth ha, authSum_updateAuth ha]
  omega

theorem committed_issueAuth {w : World} {a : MintAuthorization} {authId : String}
    (ha : w.mintAuthorizations.find? authId = some a) (hstatus : a.status = .pendingChecker)
    (signature : Signature) (issuedAt expiresAt : Int) (programId : String) :
    committed (w.issueAuth authId signature issuedAt expiresAt) programId =
      committed w programId + if a.programId = programId then a.amountMinor else 0 := by
  unfold committed World.issueAuth
  rw [authSum_updateAuth ha, authSum_updateAuth ha]
  simp only [MintAuthorization.amountIn, MintAuthorization.asIssued, hstatus, List.mem_singleton,
    reduceCtorEq, false_and, true_and, if_false]
  omega

/-- A state with no more committed and no less backing is as safe. -/
theorem Safe.mono {w w₁ : World} (h : Safe w) (hprograms : w₁.programs = w.programs)
    (hbacking : ∀ programId c, backing w programId c ≤ backing w₁ programId c)
    (hcommitted : ∀ programId, committed w₁ programId ≤ committed w programId) : Safe w₁ := by
  intro program hprogram
  rw [hprograms] at hprogram
  have hbound := h program hprogram
  have hgrows := hbacking program.id program.referenceCurrency
  have hle := hcommitted program.id
  unfold committed at hle
  omega

/-- What the guard lets be issued keeps the bound. -/
theorem GuardPassed.safe {w w₁ : World} {now : Int} {auth : MintAuthorization}
    {pos : ReservePosition} (h : GuardPassed w now auth pos) (hw : Safe w)
    (hearmarked : Earmarked w) (hdeductions : NoDeductions w) (hreported : Reported w auth.programId)
    (hprograms : w₁.programs = w.programs)
    (hbacking : ∀ programId c, backing w programId c ≤ backing w₁ programId c)
    (hcommitted : ∀ programId, committed w₁ programId =
      committed w programId + if auth.programId = programId then auth.amountMinor else 0) :
    Safe w₁ := by
  obtain ⟨program, hprogram, hfits⟩ := h.fits hdeductions hearmarked hreported
  intro program' hprogram'
  rw [hprograms] at hprogram'
  have hbound := hw program' hprogram'
  have hgrows := hbacking program'.id program'.referenceCurrency
  have hsum := hcommitted program'.id
  show committed w₁ program'.id ≤ _
  rw [hsum]
  split_ifs with hid
  · have hsame : program = program' := by
      have hfind := Lib.Table.find?_key_of_mem hprogram'
      rw [← hid] at hfind
      exact Option.some.inj (hprogram.symm.trans hfind)
    rw [hsame, hid] at hfits
    unfold committed
    omega
  · unfold committed
    omega

/-- **One operation keeps the bound.** -/
theorem MintEffect.safe {w w₁ : World} {op : MintOp} (h : MintEffect w op w₁) (hw : Safe w)
    (hearmarked : Earmarked w) (hdeductions : NoDeductions w) (hpositive : PositiveAmounts w)
    (hreported : ApprovesReported w op) : Safe w₁ := by
  have hprograms := h.frame.1
  have hbacking (programId c : String) : TrusteeBank.backing w programId c ≤
      TrusteeBank.backing w₁ programId c := (h.backing programId c).ge
  cases h with
  | unchanged => exact hw
  | unstored => exact hw.mono hprograms hbacking fun _ => le_refl _
  | requested _ _ _ ht =>
    refine hw.mono hprograms hbacking fun programId => ?_
    rw [committed, authSum_request ht (by simp [requestedRow]),
      authSum_request ht (by simp [requestedRow])]
    rfl
  | @issuedUndecided clock _ _ _ auth approval _ signature expiresAt hissuable =>
    obtain ⟨pos, hguard⟩ := hissuable.guard
    exact hguard.safe hw hearmarked hdeductions (hreported auth approval hissuable) hprograms hbacking
      (committed_issueAuth hissuable.found hissuable.status signature (clock 5) expiresAt)
  | @issued clock _ _ _ auth approval _ signature expiresAt hissuable =>
    obtain ⟨pos, hguard⟩ := hissuable.guard
    exact hguard.safe hw hearmarked hdeductions (hreported auth approval hissuable) hprograms hbacking
      (committed_issueAuth hissuable.found hissuable.status signature (clock 5) expiresAt)
  | reviewed hauth hstatus =>
    exact hw.mono hprograms hbacking
      (committed_setAuthStatus_le hpositive hauth (by simp) (by simp))
  | blocked hauth =>
    exact hw.mono hprograms hbacking
      (committed_setAuthStatus_le hpositive hauth (by simp) (by simp))
  | rejected hauth =>
    exact hw.mono hprograms hbacking
      (committed_setAuthStatus_le hpositive hauth (by simp) (by simp))
  | rejectedUndecided hauth =>
    exact hw.mono hprograms hbacking
      (committed_setAuthStatus_le hpositive hauth (by simp) (by simp))
  | revoked hauth =>
    exact hw.mono hprograms hbacking
      (committed_setAuthStatus_le hpositive hauth (by simp) (by simp))
  | expired hauth =>
    exact hw.mono hprograms hbacking
      (committed_setAuthStatus_le hpositive hauth (by simp) (by simp))
  | expiredAtConfirm hauth =>
    exact hw.mono hprograms hbacking
      (committed_setAuthStatus_le hpositive hauth (by simp) (by simp))
  | confirmed hauth hstatus =>
    exact hw.mono hprograms hbacking
      (committed_setAuthStatus_le hpositive hauth (by simp) fun _ => hstatus)

/-! ## Runs -/

/-- The earmarks are right, nothing is deducted, amounts are positive, and the bound holds. -/
structure SafetyInv (w : World) : Prop where
  earmark : EarmarkInv w
  deductions : NoDeductions w
  positive : PositiveAmounts w
  safe : Safe w

/-- The same authorizations, programs and deductions, and no less backing. -/
theorem SafetyInv.mono {w w₁ : World} (h : SafetyInv w) (hearmark : EarmarkInv w₁)
    (hprograms : w₁.programs = w.programs)
    (hauths : w₁.mintAuthorizations = w.mintAuthorizations)
    (hadjustments : w₁.reserveAdjustments = w.reserveAdjustments)
    (hredemptions : ∀ programId c, pendingRedemption w₁ programId c = pendingRedemption w programId c)
    (hbacking : ∀ programId c, backing w programId c ≤ backing w₁ programId c) : SafetyInv w₁ where
  earmark := hearmark
  deductions := h.deductions.congr hredemptions hadjustments
  positive a ha := h.positive a (hauths ▸ ha)
  safe := h.safe.mono hprograms hbacking fun programId => by
    unfold committed authSum
    rw [hauths]

theorem SafetyInv.step (w : World) (op : ReserveOp) (h : SafetyInv w) (hop : SafelyOrdered w op) :
    SafetyInv (op.step w) := by
  have hearmark : EarmarkInv (op.step w) :=
    h.earmark.reserveStep op fun mop hmop => by
      subst hmop
      exact hop.2
  cases op with
  | deposit op =>
    obtain ⟨w₁, rows, events, heffect, hw⟩ := op.effect w
    obtain ⟨hprograms, hadjustments, -, hauths, -, -⟩ := heffect.frame
    simp only [ReserveOp.step, hw] at hearmark ⊢
    exact h.mono hearmark hprograms hauths hadjustments heffect.pendingRedemption heffect.backing
  | ingest op =>
    have heffect := op.effect w
    simp only [ReserveOp.step] at hearmark ⊢
    generalize op.step w = w₁ at heffect hearmark ⊢
    cases heffect with
    | unchanged => exact h
    | ingested =>
      exact h.mono hearmark rfl rfl rfl (fun _ _ => rfl) fun _ _ => le_refl (backing w _ _)
  | mint op =>
    obtain ⟨w₁, rows, events, heffect, hw⟩ := op.effect w
    simp only [ReserveOp.step, hw] at hearmark ⊢
    refine ⟨hearmark, h.deductions.congr (fun programId c => ?_) heffect.frame.2.2.1,
      heffect.positiveAmounts h.positive,
      heffect.safe h.safe h.earmark.earmarked h.deductions h.positive hop.1⟩
    exact congrArg (- ·) (heffect.ledgerNet_eq (by decide) (by decide) programId c)

theorem NoMinting.safetyInv {w : World} (h : NoMinting w) (hpending : NothingPending w)
    (hdeductions : NoDeductions w) : SafetyInv w where
  earmark := h.earmarkInv hpending
  deductions := hdeductions
  positive a ha := by simp [h.authorizations] at ha
  safe program _ := by simp [authSum, Lib.Table.sum, h.authorizations]

end

/-! ## Two runs -/

/-- The operations that take deposits, report the supply, and issue, confirm or revoke. -/
def Issuing : ReserveOp → Prop
  | .mint (.reject ..) => False
  | .mint (.expire ..) => False
  | _ => True

/-- A snapshot reports the sum of what was confirmed before it. -/
def Truthful [Runtime] (w : World) : ReserveOp → Prop
  | .ingest op =>
    bigInt op.input.circulatingMinor = .ok (authSum w [.consumed] op.input.programId)
  | _ => True

attribute [local instance] Runtime.ascii

namespace Sample

/-- A mint of 100 that is confirmed. -/
def confirmedMint : List ReserveOp :=
  (mint "M1" "100").map .mint ++ [.mint (.confirm clock "M1" (confirmation "100" none))]

theorem emptyReserve_noDeductions : NoDeductions emptyReserve := ⟨fun _ _ => rfl, fun _ _ _ => rfl⟩

/-- The deposit, a first snapshot, and a mint that is confirmed. -/
def mintedOnce : List ReserveOp := depositOps ++ [feedOp "L1" "1" "0"] ++ confirmedMint

/-- The same, and a second mint before the next snapshot. -/
def mintedTwice : List ReserveOp := mintedOnce ++ (mint "M2" "100").map .mint

end Sample

/-- Where nothing was confirmed, everything confirmed is reported. -/
theorem reported_of_none [Runtime] {w : World}
    (h : ∀ a ∈ w.mintAuthorizations.rows, a.status ≠ .consumed) (programId : String) :
    Reported w programId := by
  have hzero : authSum w [.consumed] programId = w.mintAuthorizations.sum fun _ => 0 :=
    Lib.Table.sum_congr fun a ha => if_neg fun hin => h a ha (List.mem_singleton.mp hin.1)
  unfold Reported
  rw [hzero]
  simp [Lib.Table.sum]

theorem mintedOnce_ordered :
    Lib.Meets ReserveOp.step SafelyOrdered Sample.emptyReserve Sample.mintedOnce := by
  refine ⟨trivial, trivial, trivial, trivial, ⟨trivial, trivial, trivial⟩,
    ⟨trivial, trivial, trivial⟩, ⟨?_, trivial, trivial⟩, ⟨trivial, ?_, trivial⟩, trivial⟩
  · intro auth approval _
    exact reported_of_none (by decide +kernel) _
  · intro _ _ _ _ _
    exact ⟨⟨none, rfl, by simp⟩, by decide, by decide⟩

theorem mintedTwice_truthful :
    Lib.Meets ReserveOp.step (fun w op => Issuing op ∧ Truthful w op) Sample.emptyReserve
      Sample.mintedTwice := by
  refine ⟨⟨trivial, trivial⟩, ⟨trivial, trivial⟩, ⟨trivial, trivial⟩, ⟨trivial, ?_⟩,
    ⟨trivial, trivial⟩, ⟨trivial, trivial⟩, ⟨trivial, trivial⟩, ⟨trivial, trivial⟩,
    ⟨trivial, trivial⟩, ⟨trivial, trivial⟩, ⟨trivial, trivial⟩, trivial⟩
  show bigInt "0" = .ok (authSum _ [.consumed] "P1")
  decide +kernel

theorem mintedTwice_figures :
    ((ReserveService.position Sample.clock "P1").run
        (Sample.mintedTwice.foldl ReserveOp.step Sample.emptyReserve)).1.map
          (·.eligibleReserve.minor) = .ok 100 ∧
      authSum (Sample.mintedTwice.foldl ReserveOp.step Sample.emptyReserve) [.consumed] "P1" = 100 ∧
      authSum (Sample.mintedTwice.foldl ReserveOp.step Sample.emptyReserve) [.issued] "P1" = 100 := by
  decide +kernel

end TrusteeBank
