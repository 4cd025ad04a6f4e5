import TrusteeBank.Lib.Crossing
import TrusteeBank.Redemption.Books
import TrusteeBank.Services.Deposits
import TrusteeBank.Services.Liability
import TrusteeBank.Services.MintEffects

/-!
# Torn positions

`ReserveService.position` reads the program, four balances, the liability feed and the
adjustments one after the other, and an operation may post its entry between two of these reads.

The operation changes what a position is computed from in one step, so the figures read are those
of the state before it up to some read and those of the state after it from there on (`torn`).
Only two entries touch two of the figures. A registration adds to the cash and to the unmatched
deposits, and the cash is read first, so a torn position misses the cash. A confirmed payout takes
from the cash and from the pending redemptions, and a torn position counts cash that is gone.

* `CrossingOp.move`: what an operation does to the figures;
* `FigureMove.torn_le_iff`: when torn figures give too large a capacity;
* `position_torn`: the same of every schedule.
-/

set_option autoImplicit false

namespace TrusteeBank

open Lib (Call Pool)
open LedgerAccountCode ReserveLedgerService ReserveService

/-! ## Figures -/

/-- What a capacity is computed from. -/
@[ext] structure ReserveFigures where
  cash : Int
  unmatched : Int
  pending : Int
  redemption : Int
  circulating : Int
  held : Int

namespace ReserveFigures

/-- The eligible reserve, before it is cut off at zero. -/
def eligible (f : ReserveFigures) : Int := f.cash - (f.held + (f.unmatched + f.redemption))

/-- The obligation, its buffer and the pending authorizations. -/
def committed (bps : Int) (f : ReserveFigures) : Int :=
  let obligation := max 0 (f.circulating + f.redemption)
  obligation + ((obligation * bps).tdiv 10000 + f.pending)

/-- The mint capacity. -/
def capacity (bps : Int) (f : ReserveFigures) : Int :=
  max (max 0 f.eligible - f.committed bps) 0

/-- The figures of a position that took its first `n` reads before the figures changed. -/
def torn (n : Nat) (f f' : ReserveFigures) : ReserveFigures where
  cash := if 1 < n then f.cash else f'.cash
  unmatched := if 2 < n then f.unmatched else f'.unmatched
  pending := if 3 < n then f.pending else f'.pending
  redemption := if 4 < n then f.redemption else f'.redemption
  circulating := if 5 < n then f.circulating else f'.circulating
  held := if 6 < n then f.held else f'.held

/-- The eligible reserve is positive and exceeds what is committed. -/
def Exceeds (bps : Int) (f : ReserveFigures) : Prop := 0 < f.eligible ∧ f.committed bps < f.eligible

instance (bps : Int) (f : ReserveFigures) : Decidable (f.Exceeds bps) :=
  inferInstanceAs (Decidable (_ ∧ _))

theorem committed_mono {bps : Int} (hbps : 0 ≤ bps) {f f' : ReserveFigures}
    (hcirculating : f.circulating = f'.circulating) (hpending : f.pending = f'.pending)
    (hredemption : f.redemption ≤ f'.redemption) : f.committed bps ≤ f'.committed bps := by
  have hobligation : max 0 (f.circulating + f.redemption) ≤
      max 0 (f'.circulating + f'.redemption) := by omega
  have hbuffer : (max 0 (f.circulating + f.redemption) * bps).tdiv 10000 ≤
      (max 0 (f'.circulating + f'.redemption) * bps).tdiv 10000 := by
    have hnonneg : 0 ≤ max 0 (f.circulating + f.redemption) * bps :=
      mul_nonneg (le_max_left _ _) hbps
    have hle := mul_le_mul_of_nonneg_right hobligation hbps
    rw [Int.tdiv_eq_ediv_of_nonneg hnonneg, Int.tdiv_eq_ediv_of_nonneg (hnonneg.trans hle)]
    exact Int.ediv_le_ediv (by decide) hle
  simp only [committed]
  omega

end ReserveFigures

/-- What an operation may do to the figures. -/
inductive FigureMove (f : ReserveFigures) : ReserveFigures → Prop
  | same : FigureMove f f
  | registered {m : Int} (hm : 0 < m) :
      FigureMove f { f with cash := f.cash + m, unmatched := f.unmatched + m }
  | unmatched (m : Int) : FigureMove f { f with unmatched := m }
  | pending (m : Int) : FigureMove f { f with pending := m }
  | approved {m : Int} (hm : 0 < m) : FigureMove f { f with redemption := f.redemption + m }
  | paid {m : Int} (hm : 0 < m) :
      FigureMove f { f with cash := f.cash - m, redemption := f.redemption - m }
  | circulating (m : Int) : FigureMove f { f with circulating := m }

/-- A payout that comes between the reads of the cash and of the pending redemptions. -/
theorem capacity_paid_between {bps : Int} (hbps : 0 ≤ bps) (f : ReserveFigures) {m : Int}
    (hm : 0 < m) :
    ({ f with redemption := f.redemption - m } : ReserveFigures).capacity bps ≤
        max (f.capacity bps) (({ f with cash := f.cash - m
                                        redemption := f.redemption - m } :
          ReserveFigures).capacity bps) ↔
      ¬({ f with redemption := f.redemption - m } : ReserveFigures).Exceeds bps := by
  set after : ReserveFigures := { f with cash := f.cash - m, redemption := f.redemption - m }
    with hafter
  set between : ReserveFigures := { f with redemption := f.redemption - m } with hbetween
  have hmono : after.committed bps ≤ f.committed bps :=
    ReserveFigures.committed_mono hbps rfl rfl (by simp [hafter]; omega)
  have hcommitted : between.committed bps = after.committed bps := rfl
  have heligible : after.eligible = f.eligible := by
    simp only [hafter, ReserveFigures.eligible]
    omega
  have hbetween_eligible : between.eligible = f.eligible + m := by
    simp only [hbetween, ReserveFigures.eligible]
    omega
  unfold ReserveFigures.Exceeds ReserveFigures.capacity
  rw [hcommitted, heligible, hbetween_eligible]
  omega

/-- **When torn figures give too large a capacity**: a payout came between the read of the cash
and the read of the pending redemptions, and its cash is not all committed. -/
theorem FigureMove.torn_le_iff {f f' : ReserveFigures} (h : FigureMove f f') {bps : Int}
    (hbps : 0 ≤ bps) (n : Nat) :
    (ReserveFigures.torn n f f').capacity bps ≤ max (f.capacity bps) (f'.capacity bps) ↔
      ¬((1 < n ∧ n ≤ 4 ∧ f'.redemption < f.redemption) ∧
        ({ f with redemption := f'.redemption } : ReserveFigures).Exceeds bps) := by
  -- Torn figures that are those of one of the two states.
  have hone (hnone : ¬(1 < n ∧ n ≤ 4 ∧ f'.redemption < f.redemption))
      (htorn : ReserveFigures.torn n f f' = f ∨ ReserveFigures.torn n f f' = f') :
      (ReserveFigures.torn n f f').capacity bps ≤ max (f.capacity bps) (f'.capacity bps) ↔
        ¬((1 < n ∧ n ≤ 4 ∧ f'.redemption < f.redemption) ∧
          ({ f with redemption := f'.redemption } : ReserveFigures).Exceeds bps) := by
    refine iff_of_true ?_ fun h => hnone h.1
    rcases htorn with htorn | htorn
    · rw [htorn]
      exact le_max_left _ _
    · rw [htorn]
      exact le_max_right _ _
  cases h with
  | same =>
    refine hone (fun h => lt_irrefl _ h.2.2) (.inl ?_)
    simp [ReserveFigures.torn]
  | registered hm =>
    rename_i m
    refine iff_of_true ?_ fun h => lt_irrefl _ h.1.2.2
    by_cases hcash : 1 < n
    · have hle : (ReserveFigures.torn n f { f with cash := f.cash + m
                                                   unmatched := f.unmatched + m }).capacity bps ≤
          f.capacity bps := by
        unfold ReserveFigures.torn ReserveFigures.capacity ReserveFigures.committed
          ReserveFigures.eligible
        simp only [hcash, if_true, ite_self]
        split_ifs <;> omega
      exact hle.trans (le_max_left _ _)
    · have htorn : ReserveFigures.torn n f { f with cash := f.cash + m
                                                    unmatched := f.unmatched + m } =
          { f with cash := f.cash + m, unmatched := f.unmatched + m } := by
        have hunmatched : ¬2 < n := by omega
        simp [ReserveFigures.torn, hcash, hunmatched]
      rw [htorn]
      exact le_max_right _ _
  | unmatched m =>
    refine hone (fun h => lt_irrefl _ h.2.2) ?_
    by_cases hread : 2 < n <;> simp [ReserveFigures.torn, hread]
  | pending m =>
    refine hone (fun h => lt_irrefl _ h.2.2) ?_
    by_cases hread : 3 < n <;> simp [ReserveFigures.torn, hread]
  | approved hm =>
    rename_i m
    refine hone (fun h => ?_) ?_
    · have := h.2.2
      simp only at this
      omega
    · by_cases hread : 4 < n <;> simp [ReserveFigures.torn, hread]
  | circulating m =>
    refine hone (fun h => lt_irrefl _ h.2.2) ?_
    by_cases hread : 5 < n <;> simp [ReserveFigures.torn, hread]
  | paid hm =>
    rename_i m
    have hlower : f.redemption - m < f.redemption := by omega
    by_cases hbetween : 1 < n ∧ n ≤ 4
    · have htorn : ReserveFigures.torn n f { f with cash := f.cash - m
                                                    redemption := f.redemption - m } =
          { f with redemption := f.redemption - m } := by
        have hredemption : ¬4 < n := by omega
        simp [ReserveFigures.torn, hbetween.1, hredemption]
      rw [htorn, capacity_paid_between hbps f hm]
      exact not_congr ⟨fun h => ⟨⟨hbetween.1, hbetween.2, hlower⟩, h⟩, fun h => h.2⟩
    · refine hone (fun h => hbetween ⟨h.1, h.2.1⟩) ?_
      by_cases hread : 4 < n
      · have hcash : 1 < n := by omega
        simp [ReserveFigures.torn, hread, hcash]
      · have hcash : ¬1 < n := by omega
        simp [ReserveFigures.torn, hread, hcash]

section

variable [Runtime]

/-! ## The reads of a position -/

/-- What a position is computed from. -/
def reserveView (w : World) : Lib.Table Program.id × List JournalEntry ×
    Lib.Table LiabilitySnapshot.id × Lib.Table ReserveAdjustment.id :=
  (w.programs, w.ledger, w.liabilitySnapshots, w.reserveAdjustments)

/-- The figures of a program in a state. -/
def figuresAt (w : World) (programId c : String) : ReserveFigures where
  cash := clearedCash w programId c
  unmatched := unmatchedFunds w programId c
  pending := pendingMint w programId c
  redemption := pendingRedemption w programId c
  circulating := reportedCirculating w programId
  held := adjustmentSum w programId c "RESTRICTED" + (adjustmentSum w programId c "BANK_CHARGE" +
    (adjustmentSum w programId c "REGULATORY_HOLD" + adjustmentSum w programId c "OPERATIONAL"))

theorem figuresAt_congr {w w' : World} (h : reserveView w' = reserveView w) (programId c : String) :
    figuresAt w' programId c = figuresAt w programId c := by
  simp only [reserveView, Prod.mk.injEq] at h
  obtain ⟨-, hledger, hsnapshots, hadjustments⟩ := h
  simp only [figuresAt, clearedCash, unmatchedFunds, pendingMint, pendingRedemption,
    reportedCirculating, latestVerified, adjustmentSum, hledger, hsnapshots, hadjustments]

theorem redemption_congr {w w' : World} (h : reserveView w' = reserveView w)
    {programId c : String} : pendingRedemption w' programId c = pendingRedemption w programId c :=
  congrArg ReserveFigures.redemption (figuresAt_congr h programId c)

/-- The capacity is computed from the figures. -/
theorem assemble_capacity {program : Program} {f : ReserveFigures}
    {latest : Option LiabilitySnapshot} {now : Int} {adjustments : String → Int}
    {pos : ReservePosition} (hcirculating : f.circulating = circulatingOf latest)
    (hheld : f.held = adjustments "RESTRICTED" + (adjustments "BANK_CHARGE" +
      (adjustments "REGULATORY_HOLD" + adjustments "OPERATIONAL")))
    (h : assemble program (money f.cash program.referenceCurrency)
      (money f.unmatched program.referenceCurrency) (money f.pending program.referenceCurrency)
      (money f.redemption program.referenceCurrency) latest now adjustments = .ok pos) :
    0 ≤ program.safetyBufferBps ∧ pos.mintCapacity.minor = f.capacity program.safetyBufferBps := by
  obtain ⟨obligation, buffer, hobligation, hbps, hbuffer, -, -, heligible, hcapacity, -⟩ :=
    assemble_ok h
  refine ⟨hbps, ?_⟩
  unfold requiredSafetyBuffer at hbuffer
  rw [if_neg (not_lt.mpr hbps)] at hbuffer
  have hminor : (obligation * program.safetyBufferBps).tdiv 10000 = buffer :=
    congrArg Money.minor (Except.ok.inj hbuffer)
  rw [hcapacity, heligible, money_minor, money_minor, ← hminor, hobligation]
  simp only [ReserveFigures.capacity, ReserveFigures.eligible, ReserveFigures.committed,
    hcirculating, hheld]
  congr 3
  omega

theorem positionAt_capacity {w : World} {now : Int} {programId : String} {program : Program}
    (hprogram : w.programs.find? programId = some program) {pos : ReservePosition}
    (h : positionAt w now programId = .ok pos) :
    0 ≤ program.safetyBufferBps ∧ pos.mintCapacity.minor =
      (figuresAt w programId program.referenceCurrency).capacity program.safetyBufferBps := by
  unfold positionAt at h
  simp only [hprogram] at h
  exact assemble_capacity rfl rfl h

/-- `position`, as one of two concurrent calls. -/
def observe (clock : Clock) (programId : String) : Service (Option ReservePosition) := do
  let pos ← position clock programId
  return some pos

/-- The reads of a position. -/
def cashRead : Query := ⟨.ledgerPosting, .findMany, assetTrusteeBankCash⟩

def redemptionRead : Query := ⟨.ledgerPosting, .findMany, liabilityPendingRedemption⟩

theorem accountBalance_reads (programId account c : String) :
    (accountBalance programId account c).Reads reserveView := by
  unfold accountBalance
  refine (Call.reads_read fun s s' h => ?_).bind fun rows => ?_
  · exact congrArg (fun v => postingsOf v.2.1 programId account c) h
  · exact (Call.reads_lift _ _).bind fun type => Call.reads_pure _ _

theorem position_reads (clock : Clock) (programId : String) :
    (position clock programId).Reads reserveView := by
  unfold position
  refine (Call.reads_read fun s s' h => ?_).bind fun found => ?_
  · exact congrArg (fun v => v.1.find? programId) h
  refine (Call.reads_lift _ _).bind fun program => ?_
  refine (accountBalance_reads _ _ _).bind fun cash => ?_
  refine (accountBalance_reads _ _ _).bind fun unmatched => ?_
  refine (accountBalance_reads _ _ _).bind fun pending => ?_
  refine (accountBalance_reads _ _ _).bind fun redemption => ?_
  refine (Call.reads_read fun s s' h => ?_).bind fun latest => ?_
  · exact congrArg (fun v => latestBy LiabilitySnapshot.sequence
      (v.2.2.1.rows.filter fun s => s.programId = programId && s.signatureVerified)) h
  refine (Call.reads_read fun s s' h => ?_).bind fun adjustments => Call.reads_lift _ _
  exact congrArg (fun v => fun kind => ((v.2.2.2.rows.filter fun a => a.programId = programId &&
    a.currency = program.referenceCurrency && a.active && a.kind = kind).map
      ReserveAdjustment.amountMinor).sum) h

theorem observe_reads (clock : Clock) (programId : String) :
    (observe clock programId).Reads reserveView :=
  (position_reads clock programId).bind fun _ => Call.reads_pure _ _

/-- A balance that is read among the first `n` reads, or later. -/
theorem run_rest_accountBalance_bind {α : Type} {account : String} {t : LedgerAccountType}
    (ht : ledgerAccountTypeOf account = .ok t) (programId c : String) (f : Money → Service α)
    (n : Nat) (w w' : World) :
    ((accountBalance programId account c >>= f).rest n w).run w' =
      ((f (money ((if t.debitPositive then 1 else -1) *
        ledgerNet (if 0 < n then w else w').ledger programId c account) c)).rest (n - 1) w).run
          w' := by
  unfold accountBalance
  rw [bind_assoc, Call.run_rest_read_bind, ht]
  simp only [Call.lift_ok_bind, pure_bind, netPostings_postingsOf]

theorem labels_accountBalance_bind {α : Type} {account : String} {t : LedgerAccountType}
    (ht : ledgerAccountTypeOf account = .ok t) (programId c : String) (f : Money → Service α)
    (n : Nat) (w : World) : (accountBalance programId account c >>= f).labels (n + 1) w =
      ⟨.ledgerPosting, .findMany, account⟩ :: (f (money ((if t.debitPositive then 1 else -1) *
        ledgerNet w.ledger programId c account) c)).labels n w := by
  unfold accountBalance
  rw [bind_assoc, Call.labels_read_bind, ht]
  simp only [Call.lift_ok_bind, pure_bind, netPostings_postingsOf]

/-- The cash is read second, the pending redemptions fifth. -/
theorem mem_labels_observe (clock : Clock) {programId : String} {program : Program} {w : World}
    (hprogram : w.programs.find? programId = some program) (n : Nat) :
    (cashRead ∈ (observe clock programId).labels n w ↔ 1 < n) ∧
      (redemptionRead ∈ (observe clock programId).labels n w ↔ 4 < n) := by
  unfold observe position Entity.findUnique
  rw [bind_assoc]
  rcases n with - | - | - | - | - | n <;>
    simp only [Call.labels_zero, zero_add, Call.labels_read_bind, Prisma.program_get, hprogram,
      orThrow, bind_assoc, Call.lift_ok_bind,
      labels_accountBalance_bind type_assetTrusteeBankCash,
      labels_accountBalance_bind type_liabilityUnmatchedDeposit,
      labels_accountBalance_bind type_liabilityPendingMint,
      labels_accountBalance_bind type_liabilityPendingRedemption] <;>
    simp [cashRead, redemptionRead, Prisma.program, assetTrusteeBankCash,
      liabilityUnmatchedDeposit, liabilityPendingMint, liabilityPendingRedemption]

/-- The end of a call takes no step. -/
theorem run_rest_return {α : Type} (r : Except ApiError α) {a : α} (n : Nat) (w w' : World)
    (h : ((Call.rest (do let a ← (liftM r : Service α); pure (some a)) n w).run w').1 =
      .ok (some a)) : r = .ok a := by
  cases r with
  | error e => cases n <;> cases h
  | ok a' => cases n <;> cases h <;> rfl

/-- **A torn position**: the first `n` reads see one state, the others see another one. -/
theorem run_rest_observe {clock : Clock} {programId : String} {w w' : World}
    (hprograms : w'.programs = w.programs) {n : Nat} {pos : ReservePosition}
    (h : (((observe clock programId).rest n w).run w').1 = .ok (some pos)) :
    ∃ program, w.programs.find? programId = some program ∧ 0 ≤ program.safetyBufferBps ∧
      pos.mintCapacity.minor =
        (ReserveFigures.torn n (figuresAt w programId program.referenceCurrency)
          (figuresAt w' programId program.referenceCurrency)).capacity
            program.safetyBufferBps := by
  unfold observe position Entity.findUnique latestLiability Entity.findLatest adjustmentSums at h
  rw [bind_assoc, Call.run_rest_read_bind] at h
  have hsame : (if 0 < n then w else w').programs.find? programId = w.programs.find? programId := by
    split_ifs
    · rfl
    · rw [hprograms]
  obtain ⟨program, hprogram⟩ : ∃ program, w.programs.find? programId = some program := by
    cases hprogram : w.programs.find? programId with
    | some program => exact ⟨program, rfl⟩
    | none =>
      simp only [Prisma.program_get, hsame, hprogram, orThrow] at h
      generalize n - 1 = m at h
      cases m <;> cases h
  have hfound := hsame.trans hprogram
  refine ⟨program, hprogram, ?_⟩
  simp only [Prisma.program_get, hfound, orThrow, bind_assoc, Call.lift_ok_bind,
    run_rest_accountBalance_bind type_assetTrusteeBankCash,
    run_rest_accountBalance_bind type_liabilityUnmatchedDeposit,
    run_rest_accountBalance_bind type_liabilityPendingMint,
    run_rest_accountBalance_bind type_liabilityPendingRedemption, Call.run_rest_read_bind,
    LedgerAccountType.debitPositive, if_true, Bool.false_eq_true, if_false, one_mul,
    neg_one_mul, Nat.sub_sub, Nat.lt_sub_iff_add_lt] at h
  replace h := run_rest_return _ _ _ _ h
  have hread (k : Nat) (f : World → Int) : f (if k < n then w else w') =
      if k < n then f w else f w' := by
    split_ifs <;> rfl
  set c := program.referenceCurrency
  have hcash := hread 1 fun w => clearedCash w programId c
  have hunmatched := hread 2 fun w => unmatchedFunds w programId c
  have hpending := hread 3 fun w => pendingMint w programId c
  have hredemption := hread 4 fun w => pendingRedemption w programId c
  have hcirculating := hread 5 fun w => reportedCirculating w programId
  have hheld := hread 6 fun w => (figuresAt w programId c).held
  refine assemble_capacity hcirculating.symm hheld.symm
    (?_ : assemble program _ _ _ _ _ (clock 0) _ = .ok pos)
  refine Eq.trans ?_ h
  simp only [ReserveFigures.torn, figuresAt, ← hcash, ← hunmatched, ← hpending, ← hredemption]
  rfl

/-! ## The other operation -/

/-- An operation that runs while a position is read. -/
inductive CrossingOp
  | register (input : RegisterDeposit) (id : String)
  | clear (clock : Clock) (depositId actor : String)
  | approveMint (clock : Clock) (authId checkerId reason : String)
  | confirmMint (clock : Clock) (authId : String) (input : ConfirmMint)
  | revokeMint (authId actor reason : String)
  | approveRedemption (redemptionId approverId reason : String)
  | confirmPayout (clock : Clock) (redemptionId actor : String)
  | ingest (input : LiabilitySnapshotInput) (id : String)

def CrossingOp.call : CrossingOp → Service Unit
  | .register input id => (DepositOp.register input id).call
  | .clear clock depositId actor => (DepositOp.clear clock depositId actor).call
  | .approveMint clock authId checkerId reason =>
    (MintOp.approve clock authId checkerId reason).call
  | .confirmMint clock authId input => (MintOp.confirm clock authId input).call
  | .revokeMint authId actor reason => (MintOp.revoke authId actor reason).call
  | .approveRedemption redemptionId approverId reason =>
    (RedemptionOp.approve redemptionId approverId reason).call
  | .confirmPayout clock redemptionId actor =>
    (RedemptionOp.confirmPayout clock redemptionId actor).call
  | .ingest input id => (IngestOp.mk input id).call

/-- Serve the operation alone, whether it succeeds or throws. -/
def CrossingOp.step (w : World) (op : CrossingOp) : World := (op.call.run w).2

theorem register_changesOnce (input : RegisterDeposit) (id : String) :
    (DepositsService.register input id).ChangesOnce reserveView := by
  unfold DepositsService.register
  refine (Call.keeps_read _ _ _).bind_changesOnce fun found => ?_
  refine (Call.keeps_lift _ _).bind_changesOnce fun account => ?_
  refine (Call.keeps_lift _ _).bind_changesOnce fun minor => ?_
  refine (Call.keeps_lift _ _).bind_changesOnce fun date => ?_
  refine (Prisma.deposit.keeps_create (fun _ _ => rfl) _ _).bind_changesOnce fun deposit => ?_
  refine (Call.keeps_lift _ _).bind_changesOnce fun entry => ?_
  refine (Call.changesOnce_query _ _ _).bind_keeps fun _ => ?_
  exact (keeps_record fun _ => rfl).bind fun _ => (keeps_outboxCreate fun _ => rfl).bind fun _ =>
    Call.keeps_pure _ _

theorem clear_changesOnce (clock : Clock) (depositId actor : String) :
    (DepositsService.clear clock depositId actor).ChangesOnce reserveView := by
  unfold DepositsService.clear
  refine (requireDeposit_keeps _).bind_changesOnce fun deposit => ?_
  refine (Call.keeps_throwIf _ _ _).bind_changesOnce fun _ => ?_
  refine (Call.keeps_read _ _ _).bind_changesOnce fun found => ?_
  refine (Call.keeps_lift _ _).bind_changesOnce fun account => ?_
  refine (Call.keeps_lift _ _).bind_changesOnce fun entry => ?_
  refine (Call.changesOnce_query _ _ _).bind_keeps fun _ => ?_
  refine (Prisma.deposit.keeps_update (fun _ _ => rfl) _ _ _ _).bind fun _ => ?_
  exact (keeps_record fun _ => rfl).bind fun _ => (keeps_outboxCreate fun _ => rfl).bind fun _ =>
    Call.keeps_pure _ _

theorem release_changesOnce (auth : MintAuthorization) (sourcePrefix actor : String) :
    (MintService.release auth sourcePrefix actor).ChangesOnce reserveView :=
  (Call.keeps_lift _ _).bind_changesOnce fun _ => Call.changesOnce_query _ _ _

theorem approveMint_changesOnce (clock : Clock) (authId checkerId reason : String) :
    (MintService.approve clock authId checkerId reason).ChangesOnce reserveView := by
  unfold MintService.approve
  refine (requireAuthWithApproval_keeps _).bind_changesOnce fun auth => ?_
  refine (Call.keeps_throwIf _ _ _).bind_changesOnce fun _ => ?_
  refine (Call.keeps_lift _ _).bind_changesOnce fun approval => ?_
  refine (Call.keeps_read _ _ _).bind_changesOnce fun checker => ?_
  refine (Call.keeps_lift _ _).bind_changesOnce fun _ => ?_
  refine (gatherGuardFacts_keeps reserveView _ _ _).bind_changesOnce fun facts => ?_
  refine (Call.keeps_lift _ _).bind_changesOnce fun decision => ?_
  split_ifs
  · unfold MintService.issue
    refine (Call.keeps_lift _ _).bind_changesOnce fun expiresIso => ?_
    refine (Call.keeps_lift _ _).bind_changesOnce fun expiresAt => ?_
    refine (Call.keeps_lift _ _).bind_changesOnce fun entry => ?_
    refine (Call.changesOnce_query _ _ _).bind_keeps fun _ => ?_
    refine (Prisma.mintAuthorization.keeps_update (fun _ _ => rfl) _ _ _ _).bind fun _ => ?_
    refine (recordDecision_keeps (fun _ _ => rfl) _ _ _ _ _).bind fun _ => ?_
    exact (keeps_record fun _ => rfl).bind fun _ => (keeps_outboxCreate fun _ => rfl).bind fun _ =>
      Call.keeps_pure _ _
  · unfold MintService.block
    refine Call.Keeps.changesOnce ?_
    refine (setStatus_keeps (fun _ _ => rfl) _ _).bind fun _ => ?_
    refine (recordDecision_keeps (fun _ _ => rfl) _ _ _ _ _).bind fun _ => ?_
    exact (keeps_outboxCreate fun _ => rfl).bind fun _ => Call.keeps_throw _ _

theorem revokeMint_changesOnce (authId actor reason : String) :
    (MintService.revoke authId actor reason).ChangesOnce reserveView := by
  unfold MintService.revoke
  refine (requireAuth_keeps _).bind_changesOnce fun auth => ?_
  refine (Call.keeps_throwIf _ _ _).bind_changesOnce fun _ => ?_
  refine (release_changesOnce _ _ _).bind_keeps fun _ => ?_
  refine (setStatus_keeps (fun _ _ => rfl) _ _).bind fun _ => ?_
  exact (keeps_record fun _ => rfl).bind fun _ => Call.keeps_pure _ _

theorem expire_changesOnce (authId actor : String) :
    (MintService.expire authId actor).ChangesOnce reserveView := by
  unfold MintService.expire
  refine (requireAuth_keeps _).bind_changesOnce fun auth => ?_
  split_ifs
  · exact (Call.keeps_pure _ _).changesOnce
  · refine (release_changesOnce _ _ _).bind_keeps fun _ => ?_
    refine (setStatus_keeps (fun _ _ => rfl) _ _).bind fun _ => ?_
    exact (keeps_outboxCreate fun _ => rfl).bind fun _ => Call.keeps_pure _ _

theorem confirmMint_changesOnce (clock : Clock) (authId : String) (input : ConfirmMint) :
    (MintService.confirm clock authId input).ChangesOnce reserveView := by
  unfold MintService.confirm
  refine (requireAuth_keeps _).bind_changesOnce fun auth => ?_
  refine (Call.keeps_throwIf _ _ _).bind_changesOnce fun _ => ?_
  split_ifs
  · exact (expire_changesOnce _ _).bind_keeps fun _ => Call.keeps_throw _ _
  · refine (Call.keeps_lift _ _).bind_changesOnce fun amountMinor => ?_
    refine (Call.keeps_throwIf _ _ _).bind_changesOnce fun _ => ?_
    refine (release_changesOnce _ _ _).bind_keeps fun _ => ?_
    refine (createConfirmation_keeps (fun _ _ => rfl) _ _ _).bind fun _ => ?_
    refine (setStatus_keeps (fun _ _ => rfl) _ _).bind fun _ => ?_
    exact (keeps_record fun _ => rfl).bind fun _ => (keeps_outboxCreate fun _ => rfl).bind fun _ =>
      Call.keeps_pure _ _

theorem approveRedemption_changesOnce (redemptionId approverId reason : String) :
    (RedemptionService.approve redemptionId approverId reason).ChangesOnce reserveView := by
  unfold RedemptionService.approve
  refine (requireRedemption_keeps _).bind_changesOnce fun r => ?_
  refine (Call.keeps_throwIf _ _ _).bind_changesOnce fun _ => ?_
  refine (Call.keeps_read _ _ _).bind_changesOnce fun approver => ?_
  refine (Call.keeps_throwIf _ _ _).bind_changesOnce fun _ => ?_
  refine (Call.keeps_lift _ _).bind_changesOnce fun entry => ?_
  refine (Call.changesOnce_query _ _ _).bind_keeps fun _ => ?_
  refine (Prisma.redemption.keeps_update (fun _ _ => rfl) _ _ _ _).bind fun _ => ?_
  exact (keeps_record fun _ => rfl).bind fun _ => (keeps_outboxCreate fun _ => rfl).bind fun _ =>
    Call.keeps_pure _ _

theorem confirmPayout_changesOnce (clock : Clock) (redemptionId actor : String) :
    (RedemptionService.confirmPayout clock redemptionId actor).ChangesOnce reserveView := by
  unfold RedemptionService.confirmPayout
  refine (requireRedemption_keeps _).bind_changesOnce fun r => ?_
  refine (Call.keeps_throwIf _ _ _).bind_changesOnce fun _ => ?_
  refine (Call.keeps_lift _ _).bind_changesOnce fun entry => ?_
  refine (Call.changesOnce_query _ _ _).bind_keeps fun _ => ?_
  refine (Prisma.redemption.keeps_update (fun _ _ => rfl) _ _ _ _).bind fun _ => ?_
  exact (keeps_record fun _ => rfl).bind fun _ => (keeps_outboxCreate fun _ => rfl).bind fun _ =>
    (keeps_outboxCreate fun _ => rfl).bind fun _ => Call.keeps_pure _ _

theorem ingest_changesOnce (input : LiabilitySnapshotInput) (id : String) :
    (LiabilityService.ingest input id).ChangesOnce reserveView := by
  unfold LiabilityService.ingest
  refine (Call.keeps_lift _ _).bind_changesOnce fun sequence => ?_
  refine (Call.keeps_read _ _ _).bind_changesOnce fun latest => ?_
  refine (Call.keeps_lift _ _).bind_changesOnce fun _ => ?_
  refine (verify_keeps _).bind_changesOnce fun verified => ?_
  refine (Call.keeps_lift _ _).bind_changesOnce fun row => ?_
  exact (Call.changesOnce_query _ _ _).bind_keeps fun _ => Call.keeps_pure _ _

/-- **Every operation changes what a position is computed from in at most one step.** -/
theorem CrossingOp.changesOnce (op : CrossingOp) : op.call.ChangesOnce reserveView := by
  cases op with
  | register input id => exact (register_changesOnce input id).bind_keeps fun _ => trivial
  | clear clock depositId actor =>
    exact (clear_changesOnce clock depositId actor).bind_keeps fun _ => trivial
  | approveMint clock authId checkerId reason =>
    exact (approveMint_changesOnce clock authId checkerId reason).bind_keeps fun _ => trivial
  | confirmMint clock authId input =>
    exact (confirmMint_changesOnce clock authId input).bind_keeps fun _ => trivial
  | revokeMint authId actor reason =>
    exact (revokeMint_changesOnce authId actor reason).bind_keeps fun _ => trivial
  | approveRedemption redemptionId approverId reason =>
    exact (approveRedemption_changesOnce redemptionId approverId reason).bind_keeps
      fun _ => trivial
  | confirmPayout clock redemptionId actor =>
    exact (confirmPayout_changesOnce clock redemptionId actor).bind_keeps fun _ => trivial
  | ingest input id => exact (ingest_changesOnce input id).bind_keeps fun _ => trivial

/-! ## What the operation does to the figures -/

theorem figuresAt_posted (w : World) (e : JournalEntry) (programId c : String) :
    figuresAt (w.posted e) programId c =
      { figuresAt w programId c with
        cash := clearedCash w programId c + ledgerNet [e] programId c assetTrusteeBankCash
        unmatched := unmatchedFunds w programId c -
          ledgerNet [e] programId c liabilityUnmatchedDeposit
        pending := pendingMint w programId c - ledgerNet [e] programId c liabilityPendingMint
        redemption := pendingRedemption w programId c -
          ledgerNet [e] programId c liabilityPendingRedemption } := by
  simp only [figuresAt, clearedCash, unmatchedFunds, pendingMint, pendingRedemption, World.posted,
    ledgerNet_append, ReserveFigures.mk.injEq, reportedCirculating, latestVerified, adjustmentSum,
    true_and]
  exact ⟨by omega, by omega, by omega, trivial⟩

/-- The figures after an entry between two accounts of the program. -/
def ReserveFigures.moved (debitAccount creditAccount : String) (amount : Int) (f : ReserveFigures) :
    ReserveFigures :=
  let net (account : String) : Int :=
    (if debitAccount = account then amount else 0) - (if creditAccount = account then amount else 0)
  { f with
    cash := f.cash + net assetTrusteeBankCash
    unmatched := f.unmatched - net liabilityUnmatchedDeposit
    pending := f.pending - net liabilityPendingMint
    redemption := f.redemption - net liabilityPendingRedemption }

/-- An entry moves the figures of its program and currency, and no others. -/
theorem FigureMove.posted {w : World} {e : JournalEntry}
    {currency debitAccount creditAccount : String} {amount : Int} {references : JournalReferences}
    (he : IsMove currency debitAccount creditAccount amount references e) {programId c : String}
    (h : FigureMove (figuresAt w programId c)
      ((figuresAt w programId c).moved debitAccount creditAccount amount)) :
    FigureMove (figuresAt w programId c) (figuresAt (w.posted e) programId c) := by
  rw [figuresAt_posted]
  by_cases hown : references.programId = programId ∧ currency = c
  · simp only [he.net, if_pos hown]
    exact h
  · simp only [he.net, if_neg hown, add_zero, sub_zero]
    exact .same

theorem DepositEffect.figureMove {w w₁ : World} {op : DepositOp} (h : DepositEffect w op w₁)
    (programId c : String) : FigureMove (figuresAt w programId c) (figuresAt w₁ programId c) := by
  cases h with
  | unchanged => exact .same
  | unbooked => exact .same
  | matched => exact .same
  | registered _ _ he =>
    refine FigureMove.posted he ?_
    simpa [ReserveFigures.moved, assetTrusteeBankCash, liabilityUnmatchedDeposit,
      liabilityPendingMint, liabilityPendingRedemption] using FigureMove.registered he.positive
  | cleared _ _ he =>
    refine FigureMove.posted he ?_
    simpa [ReserveFigures.moved, assetTrusteeBankCash, liabilityUnmatchedDeposit,
      liabilityPendingMint, liabilityPendingRedemption, liabilityPaychainReserveObligation]
      using FigureMove.unmatched _

theorem MintEffect.figureMove {w w₁ : World} {op : MintOp} (h : MintEffect w op w₁)
    (programId c : String) : FigureMove (figuresAt w programId c) (figuresAt w₁ programId c) := by
  obtain ⟨-, -, hadjustments, hsnapshots⟩ := h.frame
  have hnet {account : String} (hobligation : liabilityPaychainReserveObligation ≠ account)
      (hpending : liabilityPendingMint ≠ account) := h.ledgerNet_eq hobligation hpending programId c
  have hfigures : figuresAt w₁ programId c =
      { figuresAt w programId c with pending := pendingMint w₁ programId c } := by
    simp only [figuresAt, clearedCash, unmatchedFunds, pendingRedemption, reportedCirculating,
      latestVerified, adjustmentSum, hadjustments, hsnapshots,
      @hnet assetTrusteeBankCash (by decide) (by decide),
      @hnet liabilityUnmatchedDeposit (by decide) (by decide),
      @hnet liabilityPendingRedemption (by decide) (by decide)]
  rw [hfigures]
  exact .pending _

theorem RedemptionEffect.figureMove {w w₁ : World} {op : RedemptionOp}
    (h : RedemptionEffect w op w₁) (programId c : String) :
    FigureMove (figuresAt w programId c) (figuresAt w₁ programId c) := by
  cases h with
  | requested => exact .same
  | burnConfirmed => exact .same
  | payoutSubmitted => exact .same
  | approved _ _ he =>
    refine FigureMove.posted he ?_
    simpa [ReserveFigures.moved, assetTrusteeBankCash, liabilityUnmatchedDeposit,
      liabilityPendingMint, liabilityPendingRedemption, liabilityPaychainReserveObligation]
      using FigureMove.approved he.positive
  | completed _ _ he =>
    refine FigureMove.posted he ?_
    simpa [ReserveFigures.moved, assetTrusteeBankCash, liabilityUnmatchedDeposit,
      liabilityPendingMint, liabilityPendingRedemption, ← sub_eq_add_neg]
      using FigureMove.paid he.positive

theorem IngestEffect.figureMove {w w₁ : World} {op : IngestOp} (h : IngestEffect w op w₁)
    (programId c : String) : FigureMove (figuresAt w programId c) (figuresAt w₁ programId c) := by
  cases h with
  | unchanged => exact .same
  | ingested => exact .circulating _

/-- **What an operation does to the figures.** -/
theorem CrossingOp.move (w : World) (op : CrossingOp) (programId c : String) :
    (op.step w).programs = w.programs ∧
      FigureMove (figuresAt w programId c) (figuresAt (op.step w) programId c) := by
  have hdeposit (op : DepositOp) : (op.step w).programs = w.programs ∧
      FigureMove (figuresAt w programId c) (figuresAt (op.step w) programId c) := by
    obtain ⟨w₁, rows, events, h, hw⟩ := op.effect w
    rw [hw]
    exact ⟨by cases h <;> rfl, h.figureMove programId c⟩
  have hmint (op : MintOp) : (op.step w).programs = w.programs ∧
      FigureMove (figuresAt w programId c) (figuresAt (op.step w) programId c) := by
    obtain ⟨w₁, rows, events, h, hw⟩ := op.effect w
    rw [hw]
    exact ⟨h.frame.1, h.figureMove programId c⟩
  have hredemption (op : RedemptionOp) : (op.step w).programs = w.programs ∧
      FigureMove (figuresAt w programId c) (figuresAt (op.step w) programId c) := by
    rcases (op.served w).state with h | ⟨w₁, rows, events, h, hw⟩
    · rw [RedemptionOp.step, h]
      exact ⟨rfl, .same⟩
    · rw [RedemptionOp.step, hw]
      exact ⟨by cases h <;> rfl, h.figureMove programId c⟩
  cases op with
  | register input id => exact hdeposit (.register input id)
  | clear clock depositId actor => exact hdeposit (.clear clock depositId actor)
  | approveMint clock authId checkerId reason =>
    exact hmint (.approve clock authId checkerId reason)
  | confirmMint clock authId input => exact hmint (.confirm clock authId input)
  | revokeMint authId actor reason => exact hmint (.revoke authId actor reason)
  | approveRedemption redemptionId approverId reason =>
    exact hredemption (.approve redemptionId approverId reason)
  | confirmPayout clock redemptionId actor =>
    exact hredemption (.confirmPayout clock redemptionId actor)
  | ingest input id =>
    have h : IngestEffect w ⟨input, id⟩ (step w (.ingest input id)) := IngestOp.effect w ⟨input, id⟩
    refine ⟨?_, h.figureMove programId c⟩
    generalize step w (.ingest input id) = w' at h
    cases h <;> rfl

/-! ## Together -/

/-- The operation, as the other call. -/
def answerNone (op : CrossingOp) : Service (Option ReservePosition) := do
  op.call
  return none

theorem answerNone_changesOnce (op : CrossingOp) : (answerNone op).ChangesOnce reserveView :=
  op.changesOnce.bind_keeps fun _ => Call.keeps_pure _ _

theorem run_answerNone (op : CrossingOp) (w : World) : ((answerNone op).run w).2 = op.step w := by
  unfold answerNone CrossingOp.step
  rw [Call.run_bind]
  rcases op.call.run w with ⟨_ | _, _⟩ <;> rfl

/-- A position is read while an operation runs. -/
def crossing (w : World) (clock : Clock) (programId : String) (op : CrossingOp) :
    Pool Bool Query World ApiError (Option ReservePosition) :=
  Pool.start w (Lib.pair (observe clock programId) (answerNone op))

/-- A payout lowers the pending redemptions between the read of the cash and their read. -/
def PaidBetween (p : Pool Bool Query World ApiError (Option ReservePosition))
    (programId c : String) (schedule : List Bool) : Prop :=
  ∃ before after, schedule = before ++ true :: after ∧
    (false, cashRead) ∈ (p.exec before).history ∧
    (false, redemptionRead) ∉ (p.exec before).history ∧
    pendingRedemption ((p.exec before).step true).state programId c <
      pendingRedemption (p.exec before).state programId c

section

variable {w : World} {clock : Clock} {programId : String} {op : CrossingOp}

/-- A payout between the two reads is the one step that changes the figures. -/
theorem PaidBetween.committed {c : String} {program : Program}
    (hprogram : w.programs.find? programId = some program) {schedule : List Bool}
    (h : PaidBetween (crossing w clock programId op) programId c schedule) :
    ∃ n, (1 < n ∧ n ≤ 4 ∧ (figuresAt (op.step w) programId c).redemption <
        (figuresAt w programId c).redemption) ∧
      Lib.Committed reserveView (observe clock programId) (answerNone op) w
        ((crossing w clock programId op).exec schedule) n := by
  obtain ⟨before, after, rfl, hcash, hredemption, hlower⟩ := h
  have hchange : reserveView (((crossing w clock programId op).exec before).step true).state ≠
      reserveView ((crossing w clock programId op).exec before).state :=
    fun hview => hlower.ne (redemption_congr hview)
  have hx := observe_reads clock programId
  obtain ⟨n, hbefore, hcommitted⟩ := Pool.commit hx (answerNone_changesOnce op) w before hchange
  have hmem := mem_labels_observe clock hprogram n
  rw [← hbefore.labels, ← hbefore.labels] at hmem
  refine ⟨n, ⟨hmem.1.mp hcash, not_lt.mp fun h => hredemption (hmem.2.mpr h), ?_⟩, ?_⟩
  · have hafter := hcommitted.view
    rw [run_answerNone] at hafter
    show pendingRedemption _ programId c < pendingRedemption _ programId c
    rw [← redemption_congr hafter, ← redemption_congr hbefore.view]
    exact hlower
  · rw [Pool.exec_cut]
    exact hcommitted.exec hx after

/-- The commit between the two reads is a payout, if it lowers the pending redemptions. -/
theorem paidBetween_of_committed {c : String} {program : Program}
    (hprogram : w.programs.find? programId = some program) {before after : List Bool} {n : Nat}
    (hbefore : Lib.Uncommitted reserveView (observe clock programId) (answerNone op) w
      ((crossing w clock programId op).exec before) n)
    (hchange : reserveView (((crossing w clock programId op).exec before).step true).state ≠
      reserveView w)
    (hn : 1 < n ∧ n ≤ 4 ∧ (figuresAt (op.step w) programId c).redemption <
      (figuresAt w programId c).redemption) :
    PaidBetween (crossing w clock programId op) programId c (before ++ true :: after) := by
  have hx := observe_reads clock programId
  obtain ⟨_, -, hcommitted⟩ := Pool.commit hx (answerNone_changesOnce op) w before
    (fun hview => hchange (hview.trans hbefore.view))
  have hafter := hcommitted.view
  rw [run_answerNone] at hafter
  have hmem := mem_labels_observe clock hprogram n
  refine ⟨before, after, rfl, (hbefore.labels _).mpr (hmem.1.mpr hn.1), fun h => ?_, ?_⟩
  · exact absurd (hmem.2.mp ((hbefore.labels _).mp h)) (not_lt.mpr hn.2.1)
  · have hlower : pendingRedemption (op.step w) programId c < pendingRedemption w programId c :=
      hn.2.2
    rw [← redemption_congr hafter, ← redemption_congr hbefore.view] at hlower
    exact hlower

end

/-- **A position is torn upwards only by a payout.** In every state, however the reads of a
position and the steps of one operation alternate, the capacity it returns is at most the larger
of the capacities before and after the operation, unless a payout is booked between the read of
the cash and the read of the pending redemptions and, counting its cash, the eligible reserve
exceeds what is committed. -/
theorem position_torn {w : World} {clock : Clock} {programId : String} {op : CrossingOp}
    {schedule : List Bool} {pos : ReservePosition}
    (hreply : ((crossing w clock programId op).exec schedule).calls false =
      .done (.ok (some pos))) (clock₀ clock₁ : Clock) :
    ∃ program pos₀ pos₁, w.programs.find? programId = some program ∧
      ((position clock₀ programId).run w).1 = .ok pos₀ ∧
      ((position clock₁ programId).run (op.step w)).1 = .ok pos₁ ∧
      (pos.mintCapacity.minor ≤ max pos₀.mintCapacity.minor pos₁.mintCapacity.minor ↔
        ¬(PaidBetween (crossing w clock programId op) programId program.referenceCurrency
            schedule ∧
          ({ figuresAt w programId program.referenceCurrency with
            redemption := pendingRedemption (op.step w) programId program.referenceCurrency } :
            ReserveFigures).Exceeds program.safetyBufferBps)) := by
  have hx := observe_reads clock programId
  -- What is returned is the capacity of torn figures.
  obtain ⟨program, hprogram, hbps, hpos⟩ : ∃ program,
      w.programs.find? programId = some program ∧ 0 ≤ program.safetyBufferBps ∧
      (pos.mintCapacity.minor ≤
          max ((figuresAt w programId program.referenceCurrency).capacity program.safetyBufferBps)
            ((figuresAt (op.step w) programId program.referenceCurrency).capacity
              program.safetyBufferBps) ↔
        ¬(PaidBetween (crossing w clock programId op) programId program.referenceCurrency
            schedule ∧
          ({ figuresAt w programId program.referenceCurrency with
            redemption := pendingRedemption (op.step w) programId program.referenceCurrency } :
            ReserveFigures).Exceeds program.safetyBufferBps)) := by
    rcases Pool.crossing hx (answerNone_changesOnce op) w schedule with
      ⟨n, h⟩ | ⟨before, after, n, rfl, hbefore, hchange, h⟩
    -- The operation has not changed the figures.
    · have hrest : (((observe clock programId).rest 0 w).run w).1 = .ok (some pos) := by
        rw [Call.rest_zero]
        exact (h.reply hx hreply).symm
      obtain ⟨program, hprogram, hbps, hcapacity⟩ := run_rest_observe rfl hrest
      refine ⟨program, hprogram, hbps, iff_of_true ?_ fun hpaid => ?_⟩
      · rw [hcapacity]
        simp [ReserveFigures.torn]
      · obtain ⟨n', ⟨-, -, hlower⟩, hcommitted⟩ := hpaid.1.committed hprogram
        have hafter := hcommitted.view
        rw [run_answerNone] at hafter
        refine hlower.ne ?_
        show pendingRedemption _ programId _ = pendingRedemption _ programId _
        rw [← redemption_congr hafter, ← redemption_congr h.view]
        rfl
    -- Some reads saw the figures before, the others the figures after.
    · have htorn {n : Nat} (h : Lib.Committed reserveView (observe clock programId)
          (answerNone op) w ((crossing w clock programId op).exec (before ++ true :: after)) n) :=
        run_rest_observe (n := n) (op.move w programId "").1 (run_answerNone op w ▸
          (h.reply hx hreply).symm)
      obtain ⟨program, hprogram, hbps, hcapacity⟩ := htorn h
      refine ⟨program, hprogram, hbps, ?_⟩
      have hmove := (op.move w programId program.referenceCurrency).2
      by_cases hpaid : PaidBetween (crossing w clock programId op) programId
          program.referenceCurrency (before ++ true :: after)
      · obtain ⟨n', hn', h'⟩ := hpaid.committed hprogram
        obtain ⟨program', hprogram', -, hcapacity'⟩ := htorn h'
        obtain rfl : program' = program := Option.some.inj (hprogram'.symm.trans hprogram)
        rw [hcapacity', hmove.torn_le_iff hbps n']
        exact not_congr ⟨fun h => ⟨hpaid, h.2⟩, fun h => ⟨hn', h.2⟩⟩
      · rw [hcapacity, hmove.torn_le_iff hbps n]
        exact iff_of_true
          (fun h => hpaid (paidBetween_of_committed hprogram hbefore hchange h.1))
          fun h => hpaid h.1
  obtain ⟨hprograms, -⟩ := op.move w programId program.referenceCurrency
  obtain ⟨pos₀, hpos₀⟩ := exists_positionAt hprogram hbps (clock₀ 0)
  obtain ⟨pos₁, hpos₁⟩ := exists_positionAt (hprograms ▸ hprogram) hbps (clock₁ 0)
  refine ⟨program, pos₀, pos₁, hprogram, ?_, ?_, ?_⟩
  · rw [run_position]
    exact hpos₀
  · rw [run_position]
    exact hpos₁
  · rw [(positionAt_capacity hprogram hpos₀).2, (positionAt_capacity (hprograms ▸ hprogram) hpos₁).2]
    exact hpos

end

/-! ## A payout between two reads -/

attribute [local instance] Runtime.ascii

/-- The position a call has returned. -/
def replied (p : Pool Bool Query World ApiError (Option ReservePosition)) :
    Option ReservePosition :=
  match p.calls false with
  | .done (.ok pos) => pos
  | _ => none

theorem calls_of_replied {p : Pool Bool Query World ApiError (Option ReservePosition)}
    {pos : ReservePosition} (h : replied p = some pos) :
    p.calls false = .done (.ok (some pos)) := by
  unfold replied at h
  split at h
  · next heq => rw [heq, h]
  · cases h

namespace Sample

/-- A reserve of 100 and no circulating supply, with redemptions enabled. -/
def uncirculated : World := { redeemable with liabilitySnapshots := world.liabilitySnapshots }

/-- A redemption of 10 whose payout is submitted. -/
def payable : World := (redeem.take 4).foldl RedemptionOp.step uncirculated

def payout : CrossingOp := .confirmPayout clock "R1" "bank"

/-- The payout is booked after the cash is read. -/
def payoutAfterCash : List Bool :=
  [false, false, true, true, false, false, false, false, false]

end Sample

/-- The position counts the cash of the payout and not its redemption. -/
theorem payout_torn :
    (replied ((crossing Sample.payable Sample.clock "P1" Sample.payout).exec
      Sample.payoutAfterCash)).map (fun pos => pos.mintCapacity.minor) = some 100 ∧
      ((positionAt Sample.payable 0 "P1").toOption.map fun pos => pos.mintCapacity.minor) =
        some 80 ∧
      ((positionAt (Sample.payout.step Sample.payable) 0 "P1").toOption.map fun pos =>
        pos.mintCapacity.minor) = some 90 := by
  decide +kernel

/-- **A position may exceed the capacities before and after.** -/
theorem position_overstated : ¬∀ [Runtime] (w : World) (clock : Clock) (programId : String)
    (op : CrossingOp) (schedule : List Bool) (pos pos₀ pos₁ : ReservePosition),
    ((crossing w clock programId op).exec schedule).calls false = .done (.ok (some pos)) →
    ((position clock programId).run w).1 = .ok pos₀ →
    ((position clock programId).run (op.step w)).1 = .ok pos₁ →
    pos.mintCapacity.minor ≤ max pos₀.mintCapacity.minor pos₁.mintCapacity.minor := by
  intro h
  obtain ⟨htorn, hbefore, hafter⟩ := payout_torn
  obtain ⟨pos, hpos, hcapacity⟩ := Option.map_eq_some_iff.mp htorn
  obtain ⟨pos₀, hpos₀, hcapacity₀⟩ := toOption_map_eq_some.mp hbefore
  obtain ⟨pos₁, hpos₁, hcapacity₁⟩ := toOption_map_eq_some.mp hafter
  have hle := h Sample.payable Sample.clock "P1" Sample.payout Sample.payoutAfterCash pos pos₀ pos₁
    (calls_of_replied hpos) ((congrArg Prod.fst (run_position ..)).trans hpos₀)
    ((congrArg Prod.fst (run_position ..)).trans hpos₁)
  rw [hcapacity, hcapacity₀, hcapacity₁] at hle
  exact absurd hle (by decide)

/-- The payout is booked between the two reads. -/
theorem position_torn_payout :
    ∃ pos, ((crossing Sample.payable Sample.clock "P1" Sample.payout).exec
        Sample.payoutAfterCash).calls false = .done (.ok (some pos)) ∧
      pos.mintCapacity.minor = 100 ∧
      ∃ program pos₀ pos₁, Sample.payable.programs.find? "P1" = some program ∧
        ((position Sample.clock "P1").run Sample.payable).1 = .ok pos₀ ∧
        ((position Sample.clock "P1").run (Sample.payout.step Sample.payable)).1 = .ok pos₁ ∧
        (pos.mintCapacity.minor ≤ max pos₀.mintCapacity.minor pos₁.mintCapacity.minor ↔
          ¬(PaidBetween (crossing Sample.payable Sample.clock "P1" Sample.payout) "P1"
              program.referenceCurrency Sample.payoutAfterCash ∧
            ({ figuresAt Sample.payable "P1" program.referenceCurrency with
              redemption := pendingRedemption (Sample.payout.step Sample.payable) "P1"
                program.referenceCurrency } :
              ReserveFigures).Exceeds program.safetyBufferBps)) := by
  obtain ⟨pos, hpos, hcapacity⟩ := Option.map_eq_some_iff.mp payout_torn.1
  exact ⟨pos, calls_of_replied hpos, hcapacity,
    position_torn (calls_of_replied hpos) Sample.clock Sample.clock⟩

end TrusteeBank
