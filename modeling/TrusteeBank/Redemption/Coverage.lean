import TrusteeBank.Redemption.Books
import TrusteeBank.Services.Liability

/-!
# The reserve while a redemption is paid

The pending-redemption balance enters a position twice: it is deducted from the eligible reserve
as an outgoing payout and added to the obligation as a confirmed redemption. From its approval to
its payout a redemption therefore costs the position twice its amount, and once the burn is
reported once its amount.

**Theorem (`redemption_covered_iff`).** A redemption keeps the eligible reserve at or above the
obligation in all its steps exactly when there was a surplus of its amount over what the approval
adds to the obligation, or when its entries are on no account the position reads.
-/

set_option autoImplicit false

namespace TrusteeBank

open LedgerAccountCode RedemptionService

section

variable [Runtime]

/-! ## Coverage -/

/-- The position of a program exists, and its eligible reserve covers its obligation. -/
def FullyReserved (w : World) (now : Int) (programId : String) : Prop :=
  ∃ pos, positionAt w now programId = .ok pos ∧
    pos.reserveObligation.minor ≤ pos.eligibleReserve.minor

/-- Cash less all deductions, before it is clamped at zero. -/
def netReserve (w : World) (programId c : String) : Int :=
  clearedCash w programId c - (adjustmentSum w programId c "RESTRICTED" +
    (unmatchedFunds w programId c + (pendingRedemption w programId c +
      (adjustmentSum w programId c "BANK_CHARGE" + (adjustmentSum w programId c "REGULATORY_HOLD" +
        adjustmentSum w programId c "OPERATIONAL")))))

/-- Circulating supply and pending redemptions, before they are clamped at zero. -/
def netObligation (w : World) (programId c : String) : Int :=
  reportedCirculating w programId + pendingRedemption w programId c

theorem positionAt_net {w : World} {now : Int} {programId : String} {program : Program}
    (hprogram : w.programs.find? programId = some program) {pos : ReservePosition}
    (hpos : positionAt w now programId = .ok pos) :
    pos.eligibleReserve.minor = max 0 (netReserve w programId program.referenceCurrency) ∧
      pos.reserveObligation.minor =
        max 0 (netObligation w programId program.referenceCurrency) := by
  obtain ⟨program', hprogram', hcurrency, -, heligible, -⟩ := positionAt_ok hpos
  rw [hprogram] at hprogram'
  cases hprogram'
  rw [hcurrency] at heligible
  refine ⟨?_, (positionAt_obligation hprogram hpos).1⟩
  rw [heligible]
  rfl

theorem covered_iff {w : World} {programId : String} {program : Program}
    (hprogram : w.programs.find? programId = some program) (hbps : 0 ≤ program.safetyBufferBps)
    (now : Int) : FullyReserved w now programId ↔
      netObligation w programId program.referenceCurrency ≤
        max 0 (netReserve w programId program.referenceCurrency) := by
  obtain ⟨pos, hpos⟩ := exists_positionAt hprogram hbps now
  obtain ⟨heligible, hobligation⟩ := positionAt_net hprogram hpos
  constructor
  · rintro ⟨pos', hpos', hle⟩
    rw [hpos] at hpos'
    cases hpos'
    omega
  · intro hle
    exact ⟨pos, hpos, by omega⟩

/-! ## The steps of a redemption -/

/-- What the calls of a redemption are made with, from the approval to the confirmed payout. -/
structure RedemptionRun where
  redemptionId : String
  approverId : String
  reason : String
  burnClock : Clock
  burnTxHash : String
  burnActor : String
  feed : IngestOp
  payoutClock : Clock
  uuid : String
  payoutActor : String
  settledClock : Clock
  settledActor : String

namespace RedemptionRun

variable (run : RedemptionRun) (w : World)

def approveOp : RedemptionOp := .approve run.redemptionId run.approverId run.reason

def burnOp : RedemptionOp :=
  .confirmBurn run.burnClock run.redemptionId run.burnTxHash run.burnActor

def submitOp : RedemptionOp :=
  .submitPayout run.payoutClock run.uuid run.redemptionId run.payoutActor

def payOp : RedemptionOp := .confirmPayout run.settledClock run.redemptionId run.settledActor

/-- After the approval. -/
def approved : World := run.approveOp.step w

/-- After the burn is confirmed, before the feed reports it. -/
def burned : World := run.burnOp.step (run.approved w)

/-- After the burn is confirmed and reported. -/
def reported : World := run.feed.step (run.burned w)

/-- After the payout is submitted. -/
def submitted : World := run.submitOp.step (run.reported w)

/-- After the payout is confirmed. -/
def paid : World := run.payOp.step (run.submitted w)

/-- All calls succeed, and the feed reports the supply lowered by the amount. -/
structure Succeeds (r : Redemption) : Prop where
  redemption : w.redemptions.find? run.redemptionId = some r
  approve : (run.approveOp.call.run w).1 = .ok ()
  burn : (run.burnOp.call.run (run.approved w)).1 = .ok ()
  feed : reportedCirculating (run.reported w) r.programId =
    reportedCirculating w r.programId - r.amountMinor
  submit : (run.submitOp.call.run (run.reported w)).1 = .ok ()
  pay : (run.payOp.call.run (run.submitted w)).1 = .ok ()

end RedemptionRun

/-- The amount of a redemption, as far as its entries are on the accounts of a currency. -/
def Redemption.amountOn (r : Redemption) (c : String) : Int :=
  if Runtime.toUpperCase r.currency = c then r.amountMinor else 0

/-- What a position of a program is computed from changed by these amounts. -/
structure Shifts (programId c : String) (reserve obligation : Int) (w w' : World) : Prop where
  programs : w'.programs = w.programs
  reserve : netReserve w' programId c = netReserve w programId c + reserve
  obligation : netObligation w' programId c = netObligation w programId c + obligation
  reported : reportedCirculating w' programId = reportedCirculating w programId

theorem netReserve_of_cash {w w' : World} {programId c : String}
    (hadjustments : w'.reserveAdjustments = w.reserveAdjustments)
    (hunmatched : unmatchedFunds w' programId c = unmatchedFunds w programId c) :
    netReserve w' programId c = netReserve w programId c +
      (clearedCash w' programId c - clearedCash w programId c) -
        (pendingRedemption w' programId c - pendingRedemption w programId c) := by
  unfold netReserve adjustmentSum
  rw [hadjustments, hunmatched]
  ring

/-- An entry on cash, the obligation and the pending redemptions of the program. -/
theorem Shifts.posted {w : World} (w' : World) {r : Redemption} {e : JournalEntry}
    {debitAccount creditAccount : String}
    (he : IsMove (Runtime.toUpperCase r.currency) debitAccount creditAccount r.amountMinor
      e.references e) (hprogram : e.references.programId = r.programId)
    (hdebit : debitAccount ≠ liabilityUnmatchedDeposit)
    (hcredit : creditAccount ≠ liabilityUnmatchedDeposit)
    (hw' : w'.ledger = w.ledger ++ [e]) (hprograms : w'.programs = w.programs)
    (hfeed : w'.liabilitySnapshots = w.liabilitySnapshots)
    (hadjustments : w'.reserveAdjustments = w.reserveAdjustments) (c : String) :
    Shifts r.programId c
      ((if debitAccount = assetTrusteeBankCash then r.amountOn c else 0) -
        (if creditAccount = assetTrusteeBankCash then r.amountOn c else 0) +
        ((if debitAccount = liabilityPendingRedemption then r.amountOn c else 0) -
          if creditAccount = liabilityPendingRedemption then r.amountOn c else 0))
      ((if creditAccount = liabilityPendingRedemption then r.amountOn c else 0) -
        if debitAccount = liabilityPendingRedemption then r.amountOn c else 0) w w' := by
  have hnet (a : String) : ledgerNet w'.ledger r.programId c a =
      ledgerNet w.ledger r.programId c a + ((if debitAccount = a then r.amountOn c else 0) -
        if creditAccount = a then r.amountOn c else 0) := by
    rw [hw', ledgerNet_append, he.net, hprogram]
    unfold Redemption.amountOn
    by_cases hc : Runtime.toUpperCase r.currency = c
    · simp [hc]
    · simp [hc]
  have hreported : reportedCirculating w' r.programId = reportedCirculating w r.programId := by
    unfold reportedCirculating latestVerified
    rw [hfeed]
  have hunmatched : unmatchedFunds w' r.programId c = unmatchedFunds w r.programId c := by
    unfold unmatchedFunds
    rw [hnet, if_neg hdebit, if_neg hcredit]
    ring
  refine ⟨hprograms, ?_, ?_, hreported⟩
  · rw [netReserve_of_cash hadjustments hunmatched]
    unfold clearedCash pendingRedemption
    rw [hnet, hnet]
    ring
  · unfold netObligation pendingRedemption
    rw [hreported, hnet]
    ring

/-- The ledger and the adjustments are as they were. -/
theorem netReserve_congr {w w' : World} (hledger : w'.ledger = w.ledger)
    (hadjustments : w'.reserveAdjustments = w.reserveAdjustments) (programId c : String) :
    netReserve w' programId c = netReserve w programId c := by
  unfold netReserve adjustmentSum clearedCash unmatchedFunds pendingRedemption
  rw [hledger, hadjustments]

/-- Nothing a position reads changed, the time and the feed apart. -/
theorem Shifts.refl {w w' : World} (hledger : w'.ledger = w.ledger)
    (hprograms : w'.programs = w.programs)
    (hfeed : w'.liabilitySnapshots = w.liabilitySnapshots)
    (hadjustments : w'.reserveAdjustments = w.reserveAdjustments) (programId c : String) :
    Shifts programId c 0 0 w w' := by
  have hreported : reportedCirculating w' programId = reportedCirculating w programId := by
    unfold reportedCirculating latestVerified
    rw [hfeed]
  refine ⟨hprograms, ?_, ?_, hreported⟩
  · rw [netReserve_congr hledger hadjustments, add_zero]
  · unfold netObligation pendingRedemption
    rw [hreported, hledger, add_zero]

/-! ## Each step -/

section

variable {w : World} {run : RedemptionRun} {r : Redemption}

/-- Approval takes the amount from the reserve and adds it to the obligation. -/
theorem approved_shifts (hr : w.redemptions.find? run.redemptionId = some r)
    (hok : (run.approveOp.call.run w).1 = .ok ()) (c : String) :
    0 < r.amountMinor ∧
      (run.approved w).redemptions.find? run.redemptionId = some (r.asApproved run.approverId) ∧
      Shifts r.programId c (-r.amountOn c) (r.amountOn c) w (run.approved w) := by
  obtain ⟨w₁, rows, events, heffect, hstate⟩ := (run.approveOp.served w).ok hok
  have hstate : run.approved w = w₁.logged rows events := hstate
  rw [hstate]
  unfold RedemptionRun.approveOp at heffect
  cases heffect with
  | @approved _ _ _ r' e hr' hstatus he hprogram hsource =>
    rw [hr] at hr'
    cases hr'
    refine ⟨he.positive,
      find?_updateRedemption hr _ (Redemption.asApproved_id run.approverId), ?_⟩
    have h := Shifts.posted (w := w) (((w.posted e).updateRedemption run.redemptionId
        (Redemption.asApproved run.approverId)
        (Redemption.asApproved_id run.approverId)).logged rows events) he hprogram (by decide)
      (by decide) rfl rfl rfl rfl c
    simpa [liabilityPaychainReserveObligation, liabilityPendingRedemption,
      assetTrusteeBankCash] using h

/-- The confirmed burn touches nothing the position reads. -/
theorem burned_shifts {w' : World} (hr : w'.redemptions.find? run.redemptionId = some r)
    (hok : (run.burnOp.call.run w').1 = .ok ()) (programId c : String) :
    (run.burnOp.step w').redemptions.find? run.redemptionId =
        some (r.asBurnConfirmed run.burnTxHash (run.burnClock 0)) ∧
      Shifts programId c 0 0 w' (run.burnOp.step w') := by
  obtain ⟨w₁, rows, events, heffect, hstate⟩ := (run.burnOp.served w').ok hok
  unfold RedemptionOp.step
  rw [hstate]
  unfold RedemptionRun.burnOp at heffect
  cases heffect with
  | @burnConfirmed _ _ _ _ r' hr' hstatus =>
    rw [hr] at hr'
    cases hr'
    refine ⟨find?_updateRedemption hr _
      (Redemption.asBurnConfirmed_id run.burnTxHash (run.burnClock 0)), ?_⟩
    apply Shifts.refl <;> rfl

/-- Ingestion changes the feed only. -/
theorem ingest_frame (w : World) (op : IngestOp) :
    (op.step w).ledger = w.ledger ∧ (op.step w).programs = w.programs ∧
      (op.step w).reserveAdjustments = w.reserveAdjustments ∧
      (op.step w).redemptions = w.redemptions := by
  have heffect := op.effect w
  generalize op.step w = w' at heffect
  cases heffect with
  | unchanged => exact ⟨rfl, rfl, rfl, rfl⟩
  | ingested hprogram hverified hcirculating ht => exact ⟨rfl, rfl, rfl, rfl⟩

/-- The submitted payout touches nothing the position reads either. -/
theorem submitted_shifts {w' : World} (hr : w'.redemptions.find? run.redemptionId = some r)
    (hok : (run.submitOp.call.run w').1 = .ok ()) (programId c : String) :
    (run.submitOp.step w').redemptions.find? run.redemptionId =
        some (r.asPayoutSubmitted (payoutReferenceOf run.uuid) (run.payoutClock 0)) ∧
      Shifts programId c 0 0 w' (run.submitOp.step w') := by
  obtain ⟨w₁, rows, events, heffect, hstate⟩ := (run.submitOp.served w').ok hok
  unfold RedemptionOp.step
  rw [hstate]
  unfold RedemptionRun.submitOp at heffect
  cases heffect with
  | @payoutSubmitted _ _ _ _ r' hr' hstatus =>
    rw [hr] at hr'
    cases hr'
    refine ⟨find?_updateRedemption hr _
      (Redemption.asPayoutSubmitted_id (payoutReferenceOf run.uuid) (run.payoutClock 0)), ?_⟩
    apply Shifts.refl <;> rfl

/-- The confirmed payout pays the cash and discharges the liability. -/
theorem paid_shifts {w' : World} (hr : w'.redemptions.find? run.redemptionId = some r)
    (hok : (run.payOp.call.run w').1 = .ok ()) (c : String) :
    Shifts r.programId c 0 (-r.amountOn c) w' (run.payOp.step w') := by
  obtain ⟨w₁, rows, events, heffect, hstate⟩ := (run.payOp.served w').ok hok
  unfold RedemptionOp.step
  rw [hstate]
  unfold RedemptionRun.payOp at heffect
  cases heffect with
  | @completed _ _ _ r' e hr' hstatus he hprogram hsource =>
    rw [hr] at hr'
    cases hr'
    have h := Shifts.posted (w := w') (((w'.posted e).updateRedemption run.redemptionId
        (Redemption.asCompleted (run.settledClock 0) (run.settledClock 1))
        (Redemption.asCompleted_id (run.settledClock 0) (run.settledClock 1))).logged rows
          events) he hprogram (by decide) (by decide) rfl rfl rfl rfl c
    simpa [liabilityPendingRedemption, assetTrusteeBankCash] using h

end

/-! ## The whole run -/

/-- A state of the run: the program is there, and its figures moved by the given amounts. -/
structure MovedBy (w w' : World) (programId c : String) (reserve obligation : Int) : Prop where
  programs : w'.programs = w.programs
  reserve : netReserve w' programId c = netReserve w programId c + reserve
  obligation : netObligation w' programId c = netObligation w programId c + obligation

/-- **The figures in all states of a redemption.** -/
theorem RedemptionRun.Succeeds.moved {run : RedemptionRun} {w : World} {r : Redemption}
    (h : run.Succeeds w r) (c : String) :
    0 < r.amountMinor ∧
      MovedBy w (run.approved w) r.programId c (-r.amountOn c) (r.amountOn c) ∧
      MovedBy w (run.reported w) r.programId c (-r.amountOn c) (r.amountOn c - r.amountMinor) ∧
      MovedBy w (run.submitted w) r.programId c (-r.amountOn c) (r.amountOn c - r.amountMinor) ∧
      MovedBy w (run.paid w) r.programId c (-r.amountOn c) (-r.amountMinor) := by
  obtain ⟨hpositive, hr₁, happroved⟩ := approved_shifts h.redemption h.approve c
  obtain ⟨hr₂, hburned⟩ := burned_shifts hr₁ h.burn r.programId c
  obtain ⟨hledger, hprograms, hadjustments, hredemptions⟩ := ingest_frame (run.burned w) run.feed
  have hr₃ : (run.reported w).redemptions.find? run.redemptionId =
      some ((r.asApproved run.approverId).asBurnConfirmed run.burnTxHash (run.burnClock 0)) := by
    show (run.feed.step (run.burned w)).redemptions.find? run.redemptionId = _
    rw [hredemptions]
    exact hr₂
  obtain ⟨hr₄, hsubmitted⟩ := submitted_shifts hr₃ h.submit r.programId c
  have hpaid := paid_shifts hr₄ h.pay c
  -- The row still has the terms it was requested with.
  have hpaid : Shifts r.programId c 0 (-r.amountOn c) (run.submitted w) (run.paid w) := hpaid
  have hburned : Shifts r.programId c 0 0 (run.approved w) (run.burned w) := hburned
  have hsubmitted : Shifts r.programId c 0 0 (run.reported w) (run.submitted w) := hsubmitted
  have hpending : pendingRedemption (run.reported w) r.programId c =
      pendingRedemption (run.burned w) r.programId c := by
    show -ledgerNet (run.feed.step (run.burned w)).ledger r.programId c _ = _
    rw [hledger]
    rfl
  have hreserve : netReserve (run.reported w) r.programId c =
      netReserve (run.burned w) r.programId c := netReserve_congr hledger hadjustments ..
  have hreported := h.feed
  have hbefore := hburned.reported.trans happroved.reported
  have h₁ := happroved.obligation
  have h₂ := hburned.obligation
  have hobligation : netObligation (run.reported w) r.programId c =
      netObligation w r.programId c + (r.amountOn c - r.amountMinor) := by
    unfold netObligation at h₁ h₂ ⊢
    omega
  have hprograms : (run.reported w).programs = w.programs :=
    hprograms.trans (hburned.programs.trans happroved.programs)
  have h₃ := hburned.reserve
  have h₄ := happroved.reserve
  have h₅ := hsubmitted.reserve
  have h₆ := hsubmitted.obligation
  have h₇ := hpaid.reserve
  have h₈ := hpaid.obligation
  refine ⟨hpositive, ⟨happroved.programs, h₄, h₁⟩, ⟨hprograms, by omega, hobligation⟩,
    ⟨hsubmitted.programs.trans hprograms, by omega, by omega⟩,
    ⟨hpaid.programs.trans (hsubmitted.programs.trans hprograms), by omega, by omega⟩⟩

theorem MovedBy.covered_iff {w w' : World} {programId : String} {program : Program}
    {reserve obligation : Int}
    (h : MovedBy w w' programId program.referenceCurrency reserve obligation)
    (hprogram : w.programs.find? programId = some program) (hbps : 0 ≤ program.safetyBufferBps)
    (now : Int) : FullyReserved w' now programId ↔
      netObligation w programId program.referenceCurrency + obligation ≤
        max 0 (netReserve w programId program.referenceCurrency + reserve) := by
  rw [← h.reserve, ← h.obligation]
  have hprogram' : w'.programs.find? programId = some program := by
    rw [h.programs]
    exact hprogram
  exact TrusteeBank.covered_iff hprogram' hbps now

/-- **When a redemption keeps the reserve covered in all its steps.** -/
theorem redemption_covered_iff {run : RedemptionRun} {w : World} {r : Redemption}
    {program : Program} (hsucceeds : run.Succeeds w r)
    (hprogram : w.programs.find? r.programId = some program) {now : Int} {pos : ReservePosition}
    (hpos : positionAt w now r.programId = .ok pos)
    (hcovered : pos.reserveObligation.minor ≤ pos.eligibleReserve.minor) (t₁ t₂ t₃ t₄ : Int) :
    (FullyReserved (run.approved w) t₁ r.programId ∧
        FullyReserved (run.reported w) t₂ r.programId ∧
        FullyReserved (run.submitted w) t₃ r.programId ∧
        FullyReserved (run.paid w) t₄ r.programId) ↔
      Runtime.toUpperCase r.currency ≠ program.referenceCurrency ∨
        netObligation w r.programId program.referenceCurrency + r.amountMinor ≤ 0 ∨
        netObligation w r.programId program.referenceCurrency + 2 * r.amountMinor ≤
          pos.eligibleReserve.minor := by
  obtain ⟨_, hprogram', -, hbps, -⟩ := positionAt_ok hpos
  rw [hprogram] at hprogram'
  cases hprogram'
  obtain ⟨heligible, hobligation⟩ := positionAt_net hprogram hpos
  obtain ⟨hpositive, h₁, h₂, h₃, h₄⟩ := hsucceeds.moved program.referenceCurrency
  rw [h₁.covered_iff hprogram hbps, h₂.covered_iff hprogram hbps, h₃.covered_iff hprogram hbps,
    h₄.covered_iff hprogram hbps]
  unfold Redemption.amountOn
  by_cases hcurrency : Runtime.toUpperCase r.currency = program.referenceCurrency
  · rw [if_pos hcurrency]
    constructor
    · rintro ⟨happroved, -⟩
      right
      omega
    · rintro (hne | hle)
      · exact absurd hcurrency hne
      · omega
  · rw [if_neg hcurrency]
    constructor
    · intro _
      exact .inl hcurrency
    · intro _
      omega

end

/-! ## A redemption of 10 from a reserve of 100 -/

attribute [local instance] Runtime.ascii

namespace Sample

/-- The feed reports a circulating supply. -/
def reported (circulatingMinor : Int) : LiabilitySnapshot := { snapshot with circulatingMinor }

/-- A redemption of 10 is requested, while the feed reports a circulating supply. -/
def requested (circulatingMinor : Int) : World :=
  { redeemable with
    liabilitySnapshots := ⟨[reported circulatingMinor], List.nodup_singleton _⟩
    redemptions := ⟨[requestedRow (redemptionRequest "X1" "10") "R1" program 10],
      List.nodup_singleton _⟩ }

/-- The redemption is carried through, and the feed reports a supply after the burn. -/
def redemptionRun (circulatingMinor : String) : RedemptionRun where
  redemptionId := "R1"
  approverId := "alice"
  reason := "ok"
  burnClock := clock
  burnTxHash := "hash"
  burnActor := "paychain"
  feed :=
    { id := "L2"
      input :=
        { programId := "P1", assetId := "A1", assetCode := "COIN", blockchainNetwork := "net"
          issuerAccount := "issuer", circulatingMinor, treasuryHeldMinor := "0"
          lockedMinor := "0", pendingMintMinor := "0", pendingBurnMinor := "0"
          pendingRedemptionMinor := "0", confirmedBurnMinor := "0"
          effectiveLiabilityMinor := circulatingMinor, currency := "USD"
          ledgerReference := "ref", sourceVersion := "1", sequence := "2"
          snapshotTimestamp := "2026-01-01T00:00:00Z", signature := none } }
  payoutClock := clock
  uuid := "0123456789ab"
  payoutActor := "alice"
  settledClock := clock
  settledActor := "bank"

theorem redemptionRun_succeeds_40 : (redemptionRun "30").Succeeds (requested 40)
    (requestedRow (redemptionRequest "X1" "10") "R1" program 10) where
  redemption := rfl
  approve := by decide +kernel
  burn := by decide +kernel
  feed := by decide +kernel
  submit := by decide +kernel
  pay := by decide +kernel

theorem redemptionRun_succeeds_100 : (redemptionRun "90").Succeeds (requested 100)
    (requestedRow (redemptionRequest "X1" "10") "R1" program 10) where
  redemption := rfl
  approve := by decide +kernel
  burn := by decide +kernel
  feed := by decide +kernel
  submit := by decide +kernel
  pay := by decide +kernel

end Sample

/-- With a supply of 40 and a reserve of 100, the reserve is covered throughout. -/
theorem redemption_covered_40 :
    FullyReserved ((Sample.redemptionRun "30").approved (Sample.requested 40)) 0
      "P1" := by
  have hposition : (positionAt (Sample.requested 40) 0 "P1").toOption.map
      (fun pos => (pos.reserveObligation.minor, pos.eligibleReserve.minor)) = some (40, 100) := by
    decide +kernel
  obtain ⟨pos, hpos, hfigures⟩ := toOption_map_eq_some.mp hposition
  obtain ⟨hobligation, heligible⟩ := Prod.mk.inj hfigures
  have hprogram : (Sample.requested 40).programs.find? "P1" =
      some Sample.program := rfl
  have hle : netObligation (Sample.requested 40) "P1" "USD" + 2 * 10 ≤ 100 := by
    decide +kernel
  exact ((redemption_covered_iff Sample.redemptionRun_succeeds_40 hprogram hpos (by omega)
    0 0 0 0).mpr (.inr (.inr (heligible ▸ hle)))).1

theorem redemptionRun_100_figures :
    (positionAt (Sample.requested 100) 0 "P1").toOption.map
        (fun pos => (pos.reserveObligation.minor, pos.eligibleReserve.minor)) = some (100, 100) ∧
      (positionAt ((Sample.redemptionRun "90").approved (Sample.requested 100))
        0 "P1").toOption.map
          (fun pos => (pos.reserveObligation.minor, pos.eligibleReserve.minor)) =
        some (110, 90) := by
  decide +kernel

/-- A fully reserved program is not fully reserved while a redemption is pending. -/
theorem redemption_not_covered : ¬∀ [Runtime] (run : RedemptionRun) (w : World) (r : Redemption)
    (now : Int), run.Succeeds w r → r.amountMinor ≤ reportedCirculating w r.programId →
    FullyReserved w now r.programId →
    FullyReserved (run.approved w) now r.programId ∧
      FullyReserved (run.reported w) now r.programId ∧
      FullyReserved (run.submitted w) now r.programId ∧
      FullyReserved (run.paid w) now r.programId := by
  intro h
  obtain ⟨hbefore, hafter⟩ := redemptionRun_100_figures
  obtain ⟨pos, hpos, hfigures⟩ := toOption_map_eq_some.mp hbefore
  obtain ⟨hobligation, heligible⟩ := Prod.mk.inj hfigures
  obtain ⟨pos', hpos', hfigures'⟩ := toOption_map_eq_some.mp hafter
  obtain ⟨hobligation', heligible'⟩ := Prod.mk.inj hfigures'
  have hamount : (10 : Int) ≤ reportedCirculating (Sample.requested 100) "P1" := by
    decide +kernel
  obtain ⟨pos'', hpos'', hle⟩ := (h (Sample.redemptionRun "90")
    (Sample.requested 100) _ 0 Sample.redemptionRun_succeeds_100 hamount
    ⟨pos, hpos, by omega⟩).1
  cases hpos'.symm.trans hpos''
  omega

end TrusteeBank
