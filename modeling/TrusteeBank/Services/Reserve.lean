import TrusteeBank.Infra
import TrusteeBank.Reserves

/-!
# The reserve position

`ReserveService.position` reads the program, four ledger balances, the latest verified liability
snapshot and the active adjustments, in that order, and computes the eligible reserve, the
obligation and the mint capacity from them.

* `run_position`: alone, the position is the value `positionAt` of the state;
* `assemble_ok`: what the figures of a position are;
* `positionAt_congr`: what the position depends on.
-/

set_option autoImplicit false

namespace TrusteeBank

open Lib (Call)
open LedgerAccountCode

variable [Runtime]

/-! ## What a position reads -/

def clearedCash (w : World) (programId currency : String) : Int :=
  ledgerNet w.ledger programId currency assetTrusteeBankCash

def unmatchedFunds (w : World) (programId currency : String) : Int :=
  -ledgerNet w.ledger programId currency liabilityUnmatchedDeposit

/-- The balance of `LIABILITY:PENDING_MINT`. -/
def pendingMint (w : World) (programId currency : String) : Int :=
  -ledgerNet w.ledger programId currency liabilityPendingMint

def pendingRedemption (w : World) (programId currency : String) : Int :=
  -ledgerNet w.ledger programId currency liabilityPendingRedemption

/-- The verified snapshot with the highest sequence. -/
def latestVerified (w : World) (programId : String) : Option LiabilitySnapshot :=
  latestBy LiabilitySnapshot.sequence
    (w.liabilitySnapshots.rows.filter fun s => s.programId = programId && s.signatureVerified)

omit [Runtime] in
theorem mem_of_latestBy {ρ : Type} {order : ρ → Int} {rows : List ρ} {r : ρ}
    (h : latestBy order rows = some r) : r ∈ rows := by
  unfold latestBy at h
  refine List.foldlRecOn rows _ (motive := fun best => ∀ b, best = some b → b ∈ rows)
    (fun b hb => absurd hb (by simp)) (fun best hbest a ha b hb => ?_) r h
  cases best with
  | none =>
    obtain rfl := Option.some.inj hb
    exact ha
  | some c =>
    simp only at hb
    split_ifs at hb
    · obtain rfl := Option.some.inj hb
      exact ha
    · exact hbest b hb

/-- The latest verified snapshot is one of the program's, and verified. -/
theorem mem_latestVerified {w : World} {programId : String} {s : LiabilitySnapshot}
    (h : latestVerified w programId = some s) :
    s ∈ w.liabilitySnapshots.rows ∧ s.programId = programId ∧ s.signatureVerified = true := by
  obtain ⟨hmem, hfilter⟩ := List.mem_filter.mp (mem_of_latestBy h)
  rw [Bool.and_eq_true, decide_eq_true_eq] at hfilter
  exact ⟨hmem, hfilter⟩

/-- `latestLiability ? latestLiability.circulatingMinor : 0n`. -/
def circulatingOf (latestLiability : Option LiabilitySnapshot) : Int :=
  match latestLiability with
  | some s => s.circulatingMinor
  | none => 0

/-- The circulating supply the latest verified snapshot reports. -/
def reportedCirculating (w : World) (programId : String) : Int :=
  circulatingOf (latestVerified w programId)

/-- The sum of the active adjustments of a kind. -/
def adjustmentSum (w : World) (programId currency kind : String) : Int :=
  ((w.reserveAdjustments.rows.filter fun a =>
    a.programId = programId && a.currency = currency && a.active && a.kind = kind).map
      ReserveAdjustment.amountMinor).sum

/-! ## The position -/

structure ReservePosition where
  programId : String
  currency : String
  eligibleReserve : Money
  reserveObligation : Money
  requiredReserve : Money
  mintCapacity : Money
  surplus : Money
  reserveRatioBps : Option Int
  liabilityAgeSeconds : Option Int

namespace ReserveService

open ReserveLedgerService (accountBalance)

/-- The figures of a position, from what was read. -/
def assemble (program : Program) (clearedBankBalance unmatched pendingMint pendingRedemption : Money)
    (latestLiability : Option LiabilitySnapshot) (now : Int) (adjustments : String → Int) :
    Except ApiError ReservePosition := do
  let currency := program.referenceCurrency
  let circulating := money (circulatingOf latestLiability) currency
  let liabilityAgeSeconds := latestLiability.map fun s => ageSeconds now s.snapshotTimestamp
  let adj (kind : String) : Money := money (adjustments kind) currency
  let eligible ← TrusteeBank.eligibleReserve
    { currency, clearedBankBalance
      restrictedFunds := adj "RESTRICTED"
      unmatchedFunds := unmatched
      pendingOutgoingPayouts := pendingRedemption
      bankChargesDue := adj "BANK_CHARGE"
      regulatoryHolds := adj "REGULATORY_HOLD"
      operationalFunds := adj "OPERATIONAL"
      otherIneligibleAmounts := zero currency }
  let obligation ← TrusteeBank.reserveObligation
    { currency
      circulatingSupply := circulating
      confirmedRedemptionObligations := pendingRedemption
      otherContractualLiabilities := zero currency
      legallyApprovedExclusions := zero currency }
  let buffer ← TrusteeBank.requiredSafetyBuffer obligation program.safetyBufferBps
  let requiredReserve := money ((obligation.minor * program.requiredRatioBps).tdiv 10000) currency
  let capacity ← TrusteeBank.mintCapacity
    { currency
      eligibleReserve := eligible
      existingReserveObligation := obligation
      requiredSafetyBuffer := buffer
      pendingMintAuthorizations := pendingMint }
  let surplus ← TrusteeBank.reserveSurplus eligible requiredReserve
  let reserveRatioBps ← TrusteeBank.reserveRatioBps eligible obligation
  return {
    programId := program.id
    currency
    eligibleReserve := eligible
    reserveObligation := obligation
    requiredReserve
    mintCapacity := capacity
    surplus, reserveRatioBps, liabilityAgeSeconds }

/-- The latest verified liability snapshot. -/
def latestLiability (programId : String) : Service (Option LiabilitySnapshot) :=
  Prisma.liabilitySnapshot.findLatest programId
    (fun s => s.programId = programId && s.signatureVerified) LiabilitySnapshot.sequence

/-- The sums of the active adjustments, by kind. -/
def adjustmentSums (programId currency : String) : Service (String → Int) :=
  Call.read ⟨.reserveAdjustment, .groupBy, programId⟩ fun w => adjustmentSum w programId currency

def position (clock : Clock) (programId : String) : Service ReservePosition := do
  let found ← Prisma.program.findUnique programId
  let program ← orThrow found (.notFound ("Program " ++ programId ++ " not found"))
  let currency := program.referenceCurrency
  let clearedBankBalance ← accountBalance programId assetTrusteeBankCash currency
  let unmatched ← accountBalance programId liabilityUnmatchedDeposit currency
  let pendingMint ← accountBalance programId liabilityPendingMint currency
  let pendingRedemption ← accountBalance programId liabilityPendingRedemption currency
  let latestLiability ← latestLiability programId
  let adjustments ← adjustmentSums programId currency
  assemble program clearedBankBalance unmatched pendingMint pendingRedemption latestLiability
    (clock 0) adjustments

end ReserveService

open ReserveService

/-! ## The position of a state -/

/-- The position computed from the state, except for a measured `LIABILITY:PENDING_MINT`. -/
def positionWith (w : World) (programId : String) (program : Program) (pending now : Int) :
    Except ApiError ReservePosition :=
  let c := program.referenceCurrency
  assemble program (money (clearedCash w programId c) c) (money (unmatchedFunds w programId c) c)
    (money pending c) (money (pendingRedemption w programId c) c) (latestVerified w programId) now
    (adjustmentSum w programId c)

/-- The position as a function of the state and the time. -/
def positionAt (w : World) (now : Int) (programId : String) : Except ApiError ReservePosition :=
  match w.programs.find? programId with
  | none => .error (.notFound ("Program " ++ programId ++ " not found"))
  | some program =>
    positionWith w programId program (pendingMint w programId program.referenceCurrency) now

/-- The accounts a position reads. -/
def positionAccounts : List String :=
  [assetTrusteeBankCash, liabilityUnmatchedDeposit, liabilityPendingMint,
   liabilityPendingRedemption]

/-- **What a position depends on.** -/
theorem positionAt_congr {w w' : World} {programId : String}
    (hprograms : w'.programs = w.programs)
    (hsnapshots : w'.liabilitySnapshots = w.liabilitySnapshots)
    (hadjustments : w'.reserveAdjustments = w.reserveAdjustments)
    (hbalances : ∀ program, w.programs.find? programId = some program → ∀ a ∈ positionAccounts,
      ledgerNet w'.ledger programId program.referenceCurrency a =
        ledgerNet w.ledger programId program.referenceCurrency a) (now : Int) :
    positionAt w' now programId = positionAt w now programId := by
  unfold positionAt
  rw [hprograms]
  cases hprogram : w.programs.find? programId with
  | none => rfl
  | some program =>
    have hsame := hbalances program hprogram
    simp only [positionWith, clearedCash, unmatchedFunds, pendingMint, pendingRedemption,
      latestVerified, hsnapshots, hsame assetTrusteeBankCash (by simp [positionAccounts]),
      hsame liabilityUnmatchedDeposit (by simp [positionAccounts]),
      hsame liabilityPendingMint (by simp [positionAccounts]),
      hsame liabilityPendingRedemption (by simp [positionAccounts])]
    have hsums : adjustmentSum w' programId program.referenceCurrency =
        adjustmentSum w programId program.referenceCurrency := by
      funext kind
      unfold adjustmentSum
      rw [hadjustments]
    rw [hsums]

theorem run_latestLiability (programId : String) (w : World) :
    (latestLiability programId).run w = (.ok (latestVerified w programId), w) := rfl

/-- **Alone, `position` computes `positionAt` and changes nothing.** -/
theorem run_position (clock : Clock) (programId : String) (w : World) :
    (position clock programId).run w = (positionAt w (clock 0) programId, w) := by
  unfold position positionAt
  rw [Call.run_bind, Entity.run_findUnique]
  simp only [Prisma.program_get, Call.run_lift_bind]
  cases w.programs.find? programId with
  | none => rfl
  | some program =>
    simp only [orThrow, Call.run_bind, run_accountBalance type_assetTrusteeBankCash,
      run_accountBalance type_liabilityUnmatchedDeposit,
      run_accountBalance type_liabilityPendingMint,
      run_accountBalance type_liabilityPendingRedemption, latestLiability, adjustmentSums,
      Entity.run_findLatest, Call.run_read, Call.run_lift, LedgerAccountType.debitPositive,
      if_true, Bool.false_eq_true, if_false, one_mul, neg_one_mul]
    rfl

/-- **The figures of a position.** -/
theorem assemble_ok {program : Program} {cash unmatched pending redemption : Int}
    {latest : Option LiabilitySnapshot} {now : Int} {adjustments : String → Int}
    {pos : ReservePosition}
    (h : assemble program (money cash program.referenceCurrency)
      (money unmatched program.referenceCurrency) (money pending program.referenceCurrency)
      (money redemption program.referenceCurrency) latest now adjustments = .ok pos) :
    ∃ obligation buffer : Int,
      obligation = max 0 (circulatingOf latest + redemption) ∧
      0 ≤ program.safetyBufferBps ∧
      requiredSafetyBuffer (money obligation program.referenceCurrency) program.safetyBufferBps =
        .ok (money buffer program.referenceCurrency) ∧
      0 ≤ buffer ∧
      pos.currency = program.referenceCurrency ∧
      pos.eligibleReserve = money (max 0 (cash - (adjustments "RESTRICTED" + (unmatched +
        (redemption + (adjustments "BANK_CHARGE" + (adjustments "REGULATORY_HOLD" +
          adjustments "OPERATIONAL"))))))) program.referenceCurrency ∧
      pos.mintCapacity =
        money (max (pos.eligibleReserve.minor - (obligation + (buffer + pending))) 0)
          program.referenceCurrency ∧
      pos.reserveObligation = money obligation program.referenceCurrency ∧
      pos.surplus = money (pos.eligibleReserve.minor -
        (obligation * program.requiredRatioBps).tdiv 10000) program.referenceCurrency := by
  set c := program.referenceCurrency with hc
  have hzero : zero c = money 0 c := rfl
  unfold assemble at h
  simp only [← hc, hzero, eligibleReserve_eq_ok, reserveObligation_eq_ok, bind, Except.bind,
    add_zero, sub_zero] at h
  set obligation := max 0 (circulatingOf latest + redemption) with hobligation
  set eligible := max 0 (cash - (adjustments "RESTRICTED" + (unmatched + (redemption +
    (adjustments "BANK_CHARGE" + (adjustments "REGULATORY_HOLD" + adjustments "OPERATIONAL"))))))
    with heligible
  cases hbuffer : requiredSafetyBuffer (money obligation c) program.safetyBufferBps with
  | error e => simp [hbuffer] at h
  | ok buffer =>
    obtain ⟨hbps, hnonneg, hcurrency⟩ := requiredSafetyBuffer_ok hbuffer (le_max_left _ _)
    have hcapacity := mintCapacity_eq_ok (c := c) (e := money eligible c)
      (o := money obligation c) (b := buffer) (p := money pending c) rfl rfl hcurrency rfl rfl
    have hsurplus (m : Int) : reserveSurplus (money eligible c) (money m c) =
        .ok ⟨eligible - m, Runtime.toUpperCase c⟩ := Money.subtract_eq_ok rfl
    simp only [hbuffer, hcapacity, hsurplus] at h
    cases hratio : reserveRatioBps (money eligible c) (money obligation c) with
    | error e => simp [hratio] at h
    | ok ratio =>
      simp only [hratio, pure, Except.pure, Except.ok.injEq] at h
      subst h
      have hmoney : buffer = money buffer.minor c := by
        rw [money, ← money_currency obligation c, ← hcurrency]
      exact ⟨obligation, buffer.minor, rfl, hbps, hbuffer.trans (congrArg _ hmoney), hnonneg, rfl,
        rfl, rfl, rfl, rfl⟩

/-- The figures can be computed whenever the program's buffer is not negative. -/
theorem exists_assemble {program : Program} (hbps : 0 ≤ program.safetyBufferBps)
    (cash unmatched pending redemption : Int) (latest : Option LiabilitySnapshot) (now : Int)
    (adjustments : String → Int) :
    ∃ pos, assemble program (money cash program.referenceCurrency)
      (money unmatched program.referenceCurrency) (money pending program.referenceCurrency)
      (money redemption program.referenceCurrency) latest now adjustments = .ok pos := by
  set c := program.referenceCurrency with hc
  have hzero : zero c = money 0 c := rfl
  have hbuffer (obligation : Int) : requiredSafetyBuffer (money obligation c)
      program.safetyBufferBps = .ok (money ((obligation * program.safetyBufferBps).tdiv 10000) c) := by
    unfold requiredSafetyBuffer
    rw [if_neg (by omega)]
    rfl
  have hratio (eligible obligation : Int) :
      ∃ ratio, reserveRatioBps (money eligible c) (money obligation c) = .ok ratio := by
    unfold reserveRatioBps
    rw [if_neg (by simp)]
    split_ifs
    · exact ⟨_, rfl⟩
    · exact ⟨_, rfl⟩
  have hsurplus (m n : Int) : reserveSurplus (money m c) (money n c) =
      .ok ⟨m - n, Runtime.toUpperCase c⟩ := Money.subtract_eq_ok rfl
  have hcapacity (e o b : Int) := mintCapacity_eq_ok (c := c) (e := money e c) (o := money o c)
    (b := money b c) (p := money pending c) rfl rfl rfl rfl rfl
  unfold assemble
  simp only [← hc, hzero, eligibleReserve_eq_ok, reserveObligation_eq_ok, bind, Except.bind,
    hbuffer, money_minor, hcapacity, hsurplus]
  obtain ⟨ratio, h⟩ := hratio (max 0 (cash - (adjustments "RESTRICTED" + (unmatched + (redemption +
    (adjustments "BANK_CHARGE" + (adjustments "REGULATORY_HOLD" +
      (adjustments "OPERATIONAL" + 0))))))))
    (max 0 (circulatingOf latest + (redemption + 0) - 0))
  rw [h]
  exact ⟨_, rfl⟩

/-- The capacity falls by what is pending, all else being equal: what is left of the eligible
reserve after the obligation and the buffer does not depend on it. -/
theorem assemble_headroom (program : Program) (cash unmatched redemption : Int)
    (latest : Option LiabilitySnapshot) (adjustments : String → Int) :
    ∃ headroom : Int, headroom ≤ max 0 (cash - (adjustments "RESTRICTED" + (unmatched +
        (redemption + (adjustments "BANK_CHARGE" + (adjustments "REGULATORY_HOLD" +
          adjustments "OPERATIONAL")))))) ∧
      ∀ (pending now : Int) (pos : ReservePosition),
        assemble program (money cash program.referenceCurrency)
          (money unmatched program.referenceCurrency) (money pending program.referenceCurrency)
          (money redemption program.referenceCurrency) latest now adjustments = .ok pos →
        pos.currency = program.referenceCurrency ∧
          pos.mintCapacity = money (max (headroom - pending) 0) program.referenceCurrency := by
  set c := program.referenceCurrency
  cases hbuffer : requiredSafetyBuffer (money (max 0 (circulatingOf latest + redemption)) c)
      program.safetyBufferBps with
  | error e =>
    refine ⟨0, le_max_left _ _, fun pending now pos h => ?_⟩
    obtain ⟨_, buffer, rfl, -, hbuffer', -⟩ := assemble_ok h
    cases hbuffer'.symm.trans hbuffer
  | ok b =>
    have hnonneg := (requiredSafetyBuffer_ok hbuffer (le_max_left _ _)).2.1
    set eligible := max 0 (cash - (adjustments "RESTRICTED" + (unmatched + (redemption +
      (adjustments "BANK_CHARGE" + (adjustments "REGULATORY_HOLD" +
        adjustments "OPERATIONAL"))))))
    refine ⟨eligible - (max 0 (circulatingOf latest + redemption) + b.minor), by omega, ?_⟩
    intro pending now pos h
    obtain ⟨_, buffer, rfl, -, hbuffer', -, hcurrency, heligible, hcapacity, -⟩ := assemble_ok h
    obtain rfl : b = money buffer c := Except.ok.inj (hbuffer.symm.trans hbuffer')
    refine ⟨hcurrency, ?_⟩
    rw [hcapacity, heligible, money_minor, money_minor]
    congr 2
    omega

/-- **The figures of the position of a state.** -/
theorem positionAt_ok {w : World} {now : Int} {programId : String} {pos : ReservePosition}
    (h : positionAt w now programId = .ok pos) :
    ∃ program, w.programs.find? programId = some program ∧
      pos.currency = program.referenceCurrency ∧ 0 ≤ program.safetyBufferBps ∧
      pos.eligibleReserve = money (max 0 (clearedCash w programId pos.currency -
        (adjustmentSum w programId pos.currency "RESTRICTED" +
          (unmatchedFunds w programId pos.currency + (pendingRedemption w programId pos.currency +
            (adjustmentSum w programId pos.currency "BANK_CHARGE" +
              (adjustmentSum w programId pos.currency "REGULATORY_HOLD" +
                adjustmentSum w programId pos.currency "OPERATIONAL"))))))) pos.currency ∧
      ∃ buffer : Int, 0 ≤ buffer ∧ pos.mintCapacity = money (max (pos.eligibleReserve.minor -
        (max 0 (reportedCirculating w programId + pendingRedemption w programId pos.currency) +
          (buffer + pendingMint w programId pos.currency))) 0) pos.currency := by
  unfold positionAt at h
  cases hprogram : w.programs.find? programId with
  | none => simp [hprogram] at h
  | some program =>
    simp only [hprogram, positionWith] at h
    obtain ⟨_, buffer, rfl, hbps, -, hbuffer, hcurrency, heligible, hcapacity, -⟩ := assemble_ok h
    rw [← hcurrency] at heligible hcapacity
    exact ⟨program, rfl, hcurrency, hbps, heligible, buffer, hbuffer, hcapacity⟩

/-- A state has a position when the program's buffer is not negative. -/
theorem exists_positionAt {w : World} {programId : String} {program : Program}
    (hprogram : w.programs.find? programId = some program) (hbps : 0 ≤ program.safetyBufferBps)
    (now : Int) : ∃ pos, positionAt w now programId = .ok pos := by
  unfold positionAt
  rw [hprogram]
  exact exists_assemble hbps ..

/-- What is left of the eligible reserve of a program after its obligation and buffer. -/
structure IsHeadroom (w : World) (programId : String) (program : Program) (headroom : Int) :
    Prop where
  le_eligible : headroom ≤ max 0 (clearedCash w programId program.referenceCurrency -
    (adjustmentSum w programId program.referenceCurrency "RESTRICTED" +
      (unmatchedFunds w programId program.referenceCurrency +
        (pendingRedemption w programId program.referenceCurrency +
          (adjustmentSum w programId program.referenceCurrency "BANK_CHARGE" +
            (adjustmentSum w programId program.referenceCurrency "REGULATORY_HOLD" +
              adjustmentSum w programId program.referenceCurrency "OPERATIONAL"))))))
  position : ∀ (pending now : Int) (pos : ReservePosition),
    positionWith w programId program pending now = .ok pos →
    pos.currency = program.referenceCurrency ∧
      pos.mintCapacity = money (max (headroom - pending) 0) program.referenceCurrency

theorem exists_headroom (w : World) (programId : String) (program : Program) :
    ∃ headroom, IsHeadroom w programId program headroom := by
  obtain ⟨headroom, hle, hposition⟩ := assemble_headroom program
    (clearedCash w programId program.referenceCurrency)
    (unmatchedFunds w programId program.referenceCurrency)
    (pendingRedemption w programId program.referenceCurrency) (latestVerified w programId)
    (adjustmentSum w programId program.referenceCurrency)
  exact ⟨headroom, hle, hposition⟩

/-- The obligation of a position, its buffer, and what is left of the eligible reserve at the
required ratio. -/
theorem positionAt_obligation {w : World} {now : Int} {programId : String} {program : Program}
    (hprogram : w.programs.find? programId = some program) {pos : ReservePosition}
    (h : positionAt w now programId = .ok pos) :
    pos.reserveObligation.minor = max 0 (reportedCirculating w programId +
        pendingRedemption w programId program.referenceCurrency) ∧
      pos.surplus.minor = pos.eligibleReserve.minor -
        (pos.reserveObligation.minor * program.requiredRatioBps).tdiv 10000 ∧
      ∃ buffer : Int, 0 ≤ buffer ∧ requiredSafetyBuffer pos.reserveObligation
          program.safetyBufferBps = .ok (money buffer program.referenceCurrency) ∧
        pos.mintCapacity.minor = max (pos.eligibleReserve.minor - (pos.reserveObligation.minor +
          (buffer + pendingMint w programId program.referenceCurrency))) 0 := by
  unfold positionAt at h
  simp only [hprogram, positionWith] at h
  obtain ⟨obligation, buffer, hobligation, -, hbuffer, hnonneg, -, -, hcapacity, hpos, hsurplus⟩ :=
    assemble_ok h
  rw [hpos, hsurplus, hcapacity]
  exact ⟨hobligation, rfl, buffer, hnonneg, hbuffer, rfl⟩

theorem positionAt_mintCapacity_currency {w : World} {now : Int} {programId : String}
    {pos : ReservePosition} (h : positionAt w now programId = .ok pos) :
    pos.mintCapacity.currency = Runtime.toUpperCase pos.currency := by
  obtain ⟨_, _, _, _, _, _, _, hcapacity⟩ := positionAt_ok h
  rw [hcapacity, money_currency]

/-- Reading a position changes nothing. -/
theorem position_keeps {τ : Type} (g : World → τ) (clock : Clock) (programId : String) :
    (position clock programId).Keeps g := by
  unfold position
  refine (Call.keeps_read _ _ _).bind fun found => ?_
  refine (Call.keeps_lift _ _).bind fun program => ?_
  refine (keeps_accountBalance _ _ _).bind fun _ => ?_
  refine (keeps_accountBalance _ _ _).bind fun _ => ?_
  refine (keeps_accountBalance _ _ _).bind fun _ => ?_
  refine (keeps_accountBalance _ _ _).bind fun _ => ?_
  exact (Call.keeps_read _ _ _).bind fun latest => (Call.keeps_read _ _ _).bind fun adjustments =>
    Call.keeps_lift _ _

end TrusteeBank
