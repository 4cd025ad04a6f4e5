import TrusteeBank.Lib.Run
import TrusteeBank.Services.BankReconciliation
import TrusteeBank.Services.LoyaltyEffects
import TrusteeBank.Services.MintEffects

/-!
# Drift and issuance

A reconciliation finds drift in two places: `reconcileBank` returns `reconciled = false` for a
program, and `reconcile` writes `DRIFT` on a loyalty liability. The mint guard looks at the
latest `ReconciliationRun` instead, which `reconcileBank` does not write, and `issue` does not
look at the status of the liability.

**Theorem (`drift_blocks`).** Drift blocks issuance in every run in which an authorization of a
drifted program is approved only while its latest run has exceptions, and an issuance on a
drifted liability fails another check. Without the condition it does not (`drift_ignored`).
-/

set_option autoImplicit false

namespace TrusteeBank

open LoyaltyService (issue)

section

variable [Runtime]

inductive DriftOp
  | reconcileBank (banks : BankRegistry) (clock : Clock) (programId : String)
  | mint (op : MintOp)
  | loyalty (op : LoyaltyOp)

/-- The programs with drift, once a reconciliation has returned: `reconciled = false` adds the
program, `true` removes it. -/
def noteVerdict (drifted : List String) (programId : String)
    (result : Except ApiError BankReconciliation) : List String :=
  match result.toOption.bind BankReconciliation.reconciled with
  | some false => programId :: drifted
  | some true => drifted.filter fun id => id ≠ programId
  | none => drifted

/-- A state, and the programs whose latest verdict was drift. -/
structure Watched where
  world : World
  drifted : List String

/-- Serve one operation alone. -/
def Watched.step (s : Watched) : DriftOp → Watched
  | .reconcileBank banks clock programId =>
    let out := (ReserveService.reconcileBank banks clock programId).run s.world
    ⟨out.2, noteVerdict s.drifted programId out.1⟩
  | .mint op => ⟨op.step s.world, s.drifted⟩
  | .loyalty op => ⟨op.step s.world, s.drifted⟩

/-! ## What drift blocks -/

/-- Nothing that becomes `ISSUED` is of a program with drift. -/
def MintBlocked (s : Watched) (op : DriftOp) : Prop :=
  ∀ a ∈ (s.step op).world.mintAuthorizations.rows, a.status = .issued →
    NotIssued s.world a.id → a.programId ∉ s.drifted

/-- No issuance on a liability with drift succeeds. -/
def LoyaltyBlocked (s : Watched) : DriftOp → Prop
  | .loyalty (.issue gateway uuid id input) =>
    ∀ l ∈ s.world.paykhLoyaltyLiabilities.find? input.liabilityId,
      l.reconciliationStatus = "DRIFT" →
        ∃ e, ((issue gateway uuid id input).run s.world).1 = .error e
  | _ => True

def DriftBlocks (s : Watched) (op : DriftOp) : Prop := MintBlocked s op ∧ LoyaltyBlocked s op

/-- Something that is looked at blocks what drift should block. -/
def BlockedOtherwise (s : Watched) : DriftOp → Prop
  | .mint (.approve _ authId _ _) =>
    ∀ a ∈ s.world.mintAuthorizations.find? authId, a.status = .pendingChecker →
      a.programId ∈ s.drifted → unresolvedReconciliation s.world a.programId = true
  | .loyalty (.issue _ _ _ input) =>
    ∀ l ∈ s.world.paykhLoyaltyLiabilities.find? input.liabilityId,
      l.reconciliationStatus = "DRIFT" → ¬∃ fund amount, IssueChecks s.world input l fund amount
  | _ => True

/-! ## Issuance -/

/-- Where authorizations stay as they are, none becomes issued. -/
theorem mintBlocked_of_kept {s : Watched} {op : DriftOp}
    (h : (s.step op).world.mintAuthorizations = s.world.mintAuthorizations) : MintBlocked s op := by
  intro a ha hissued hbefore
  rw [h] at ha
  exact absurd hissued (hbefore a (Lib.Table.find?_key_of_mem ha))

/-- Loyalty operations keep the authorizations. -/
theorem LoyaltyOp.mintAuthorizations (w : World) (op : LoyaltyOp) :
    (op.step w).mintAuthorizations = w.mintAuthorizations := by
  obtain ⟨w₁, rows, events, h, hw⟩ := op.effect w
  have hkept : w₁.mintAuthorizations = w.mintAuthorizations := by
    cases h <;> rfl
  rw [hw]
  exact hkept

theorem reconcileBank_mintBlocked (s : Watched) (banks : BankRegistry) (clock : Clock)
    (programId : String) : MintBlocked s (.reconcileBank banks clock programId) := by
  have hkept := congrArg World.mintAuthorizations
    (ReserveService.run_reconcileBank banks clock programId s.world)
  exact mintBlocked_of_kept hkept

/-- **An approval issues only what has no unresolved run.** -/
theorem mint_blocked {s : Watched} {op : MintOp} (h : BlockedOtherwise s (.mint op)) :
    MintBlocked s (.mint op) := by
  intro a ha hissued hbefore hdrifted
  obtain ⟨clock, checkerId, reason, auth, approval, e, signature, expiresAt, rfl, hissuable, -,
    rfl, -⟩ := MintOp.newly_issued ha hissued hbefore
  have hunresolved := h auth hissuable.found hissuable.status hdrifted
  rw [hissuable.reconciled] at hunresolved
  cases hunresolved

/-- **An issuance that succeeds has passed the checks.** -/
theorem loyalty_blocked {s : Watched} {op : DriftOp} (h : BlockedOtherwise s op) :
    LoyaltyBlocked s op := by
  unfold LoyaltyBlocked
  split
  · next gateway uuid id input =>
    intro l hl hdrift
    rcases run_loyaltyIssue_cases s.world gateway uuid id input with
      ⟨err, herr⟩ | ⟨⟨liability, fund, amount, hchecks⟩, -⟩
    · exact ⟨err, by rw [herr]⟩
    · obtain rfl : liability = l := Option.some.inj (hchecks.found.symm.trans hl)
      exact absurd ⟨fund, amount, hchecks⟩ (h liability hl hdrift)
  · trivial

theorem BlockedOtherwise.blocks {s : Watched} {op : DriftOp} (h : BlockedOtherwise s op) :
    DriftBlocks s op := by
  refine ⟨?_, loyalty_blocked h⟩
  cases op with
  | reconcileBank banks clock programId => exact reconcileBank_mintBlocked s banks clock programId
  | mint op => exact mint_blocked h
  | loyalty op => exact mintBlocked_of_kept (op.mintAuthorizations s.world)

/-- **Drift blocks issuance in every run in which something else blocks it too.** -/
theorem drift_blocks {s : Watched} {ops : List DriftOp}
    (hops : Lib.Meets Watched.step BlockedOtherwise s ops) :
    Lib.Meets Watched.step DriftBlocks s ops :=
  hops.mono fun _ _ h => h.blocks

end

/-! ## Two runs -/

attribute [local instance] Runtime.ascii

namespace Sample

/-- A bank that is not connected: its balance is what the operator set. -/
def mockBank (mockClearedMinor : Int) : BankRegistry where
  accounts := fun _ => [⟨"T1", none, none, "USD", mockClearedMinor⟩]
  connections := []
  env := fun _ => none
  getAccountBalance := fun _ _ _ _ => .error (.thrown "Error" "unreachable")

/-- A reconciliation, then a mint. -/
def mintAfter (mockClearedMinor : Int) : List DriftOp :=
  .reconcileBank (mockBank mockClearedMinor) clock "P1" :: (mint "M1" "50").map .mint

/-- A reconciliation of the program's reserve that found a shortfall. -/
def shortfallRun : ReconciliationRun where
  id := "RR1"
  scope := "RESERVE"
  programId := some "P1"
  tenantId := none
  status := "EXCEPTIONS"
  summary := .object []
  createdBy := some "ops"
  createdAt := 0
  exceptions := [⟨"RESERVE_SHORTFALL", .object []⟩]

/-- A fund of 100 that is set aside for what was issued on it. -/
def spentFund : PaykhProgramFund where
  id := "F1"
  tenantId := "tenant-1"
  paykhProgramId := "PP1"
  classification := "BACKED_LOYALTY_STABLECOIN"
  currency := "USD"
  reserveAccountId := "T1"
  fundedMinor := 100
  reservedMinor := 100
  status := "ACTIVE"

/-- The liability on the fund, with more units on chain than were issued. -/
def driftedLiability : PaykhLoyaltyLiability :=
  { LoyaltyService.boundLiability spentFund
      { programFundId := "F1", decimals := none, denominationMinor := none
        stellarAssetCode := none, stellarIssuer := none, stellarDistributor := none
        actor := "tenant" } "L1" 1 with
    outstandingMinor := 100
    issuedTotalMinor := 100
    onChainSupplyMinor := 120
    reconciliationStatus := "DRIFT" }

/-- No program is known to drift, but the latest run of `P1` has exceptions and a liability has
drift. -/
def exceptionsOpen : Watched :=
  ⟨{ world with
      reconciliationRuns := ⟨[shortfallRun], List.nodup_singleton _⟩
      featureFlags := ⟨[⟨"mint.authorization.enabled", true⟩, ⟨"paykh.loyalty.enabled", true⟩],
        by decide⟩
      paykhProgramFunds := ⟨[spentFund], List.nodup_singleton _⟩
      paykhLoyaltyLiabilities := ⟨[driftedLiability], List.nodup_singleton _⟩ }, []⟩

/-- An issuance of 10 on the liability. -/
def issueDrifted : DriftOp :=
  .loyalty (.issue ⟨fun _ => "digest", none, none⟩ "uuid" "I1"
    { liabilityId := "L1", customerRef := "customer", amountMinor := some "10", units := none
      actor := "tenant" })

theorem exceptionsOpen_blocked : Lib.Meets Watched.step BlockedOtherwise exceptionsOpen
    (mintAfter 70 ++ [issueDrifted]) := by
  refine ⟨trivial, trivial, trivial, fun a ha _ _ => ?_, fun l _ _ => ?_, trivial⟩
  · have hunresolved : ∀ a ∈ (((mintAfter 70).take 3).foldl Watched.step
        exceptionsOpen).world.mintAuthorizations.find? "M1", unresolvedReconciliation
          (((mintAfter 70).take 3).foldl Watched.step exceptionsOpen).world a.programId = true := by
      decide +kernel
    exact hunresolved a ha
  -- Nothing of the fund is left.
  · have hspent : ∀ fund ∈ ((mintAfter 70).foldl Watched.step
        exceptionsOpen).world.paykhProgramFunds.rows, fund.fundedMinor - fund.reservedMinor = 0 := by
      decide +kernel
    rintro ⟨fund, amount, hchecks⟩
    have hzero := hspent fund (Lib.Table.mem_of_find? hchecks.backed)
    have hpositive := hchecks.positive
    have havailable := hchecks.available
    omega

end Sample

/-- A run with exceptions blocks the mint that drift should block, and a spent fund the issuance on
a liability with drift. -/
theorem drift_blocks_exceptions : Lib.Meets Watched.step DriftBlocks Sample.exceptionsOpen
    (Sample.mintAfter 70 ++ [Sample.issueDrifted]) :=
  drift_blocks Sample.exceptionsOpen_blocked

/-- The bank reports 70 of the 100 in the ledger, and 50 are issued. -/
theorem issued_under_drift :
    (((Sample.mintAfter 70).take 3).foldl Watched.step ⟨Sample.world, []⟩).drifted = ["P1"] ∧
    (∃ a ∈ ((Sample.mintAfter 70).foldl Watched.step
        ⟨Sample.world, []⟩).world.mintAuthorizations.rows,
      a.status = .issued ∧ a.programId = "P1" ∧ a.id = "M1") ∧
    ∀ a ∈ (((Sample.mintAfter 70).take 3).foldl Watched.step
        ⟨Sample.world, []⟩).world.mintAuthorizations.find? "M1", a.status ≠ .issued := by
  decide +kernel

/-- The verdict of the bank does not block the mint. -/
theorem drift_ignored : ¬∀ [Runtime] (s : Watched) (ops : List DriftOp), s.drifted = [] →
    Lib.Meets Watched.step DriftBlocks s ops := by
  intro h
  obtain ⟨hdrifted, ⟨a, ha, hissued, hprogram, hid⟩, hbefore⟩ := issued_under_drift
  have hblocked := (h ⟨Sample.world, []⟩ (Sample.mintAfter 70) rfl).2.2.2.1.1
  refine hblocked a ha hissued ?_ ?_
  · rw [hid]
    exact hbefore
  · rw [hprogram]
    show "P1" ∈ (((Sample.mintAfter 70).take 3).foldl Watched.step ⟨Sample.world, []⟩).drifted
    rw [hdrifted]
    exact List.mem_singleton_self _

end TrusteeBank
