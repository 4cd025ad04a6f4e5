import TrusteeBank.Lib.Interleave
import TrusteeBank.Mint.Earmark

/-!
# Concurrent approvals

Any number of `approve` calls, one per authorization, are served at the same time: their database
calls alternate in any order. Each of them measures `LIABILITY:PENDING_MINT` and later posts its
earmark.

* `approve_approves`: what one call does, whatever the others do;
* `ApprovalInv.step`: the earmarks posted so far fit into the capacity at the start, as long as no
  other call posts between the measurement and the post of a call;
* `approvals_within_capacity`: the amounts that become `ISSUED` do.

Without the condition they do not (`approvals_exceed_capacity`): two calls that measure before
either posts both see the whole capacity.
-/

set_option autoImplicit false

namespace TrusteeBank

open Lib (Call Pool)
open LedgerAccountCode MintService ReserveService

section

variable [Runtime]

/-! ## What approvals leave as it is -/

/-- What an authorization is about. -/
def MintAuthorization.terms (a : MintAuthorization) : String × Int × String :=
  (a.programId, a.amountMinor, a.currency)

/-- The state differs from `w₀` at most by entries between the two accounts of the workflow, by
what became of authorizations, and in tables a position does not read. -/
structure Frozen (w₀ w : World) : Prop where
  programs : w.programs = w₀.programs
  liabilitySnapshots : w.liabilitySnapshots = w₀.liabilitySnapshots
  reserveAdjustments : w.reserveAdjustments = w₀.reserveAdjustments
  ledgerNet : ∀ programId c account, liabilityPaychainReserveObligation ≠ account →
    liabilityPendingMint ≠ account →
    ledgerNet w.ledger programId c account = TrusteeBank.ledgerNet w₀.ledger programId c account
  terms : ∀ id, (w.mintAuthorizations.find? id).map MintAuthorization.terms =
    (w₀.mintAuthorizations.find? id).map MintAuthorization.terms

/-- A step that touches none of this. -/
structure Unmoved (w w' : World) : Prop where
  programs : w'.programs = w.programs
  liabilitySnapshots : w'.liabilitySnapshots = w.liabilitySnapshots
  reserveAdjustments : w'.reserveAdjustments = w.reserveAdjustments
  ledger : w'.ledger = w.ledger
  mintAuthorizations : w'.mintAuthorizations = w.mintAuthorizations

theorem Unmoved.refl (w : World) : Unmoved w w := ⟨rfl, rfl, rfl, rfl, rfl⟩

theorem Frozen.refl (w : World) : Frozen w w :=
  ⟨rfl, rfl, rfl, fun _ _ _ _ _ => rfl, fun _ => rfl⟩

theorem Frozen.unmoved {w₀ w w' : World} (h : Frozen w₀ w) (hw : Unmoved w w') : Frozen w₀ w' where
  programs := hw.programs.trans h.programs
  liabilitySnapshots := hw.liabilitySnapshots.trans h.liabilitySnapshots
  reserveAdjustments := hw.reserveAdjustments.trans h.reserveAdjustments
  ledgerNet := by
    rw [hw.ledger]
    exact h.ledgerNet
  terms := by
    rw [hw.mintAuthorizations]
    exact h.terms

theorem Frozen.posted {w₀ w : World} (h : Frozen w₀ w) {a : MintAuthorization} {e : JournalEntry}
    (he : IsReservation a e) : Frozen w₀ (w.posted e) where
  programs := h.programs
  liabilitySnapshots := h.liabilitySnapshots
  reserveAdjustments := h.reserveAdjustments
  ledgerNet programId c account hobligation hpending := by
    rw [ledgerNet_posted w he, if_neg hobligation, if_neg hpending]
    simpa using h.ledgerNet programId c account hobligation hpending
  terms := h.terms

theorem Frozen.updateAuth {w₀ w : World} (h : Frozen w₀ w) (authId : String)
    {f : MintAuthorization → MintAuthorization} (hf : ∀ a, (f a).id = a.id)
    (hterms : ∀ a, (f a).terms = a.terms) : Frozen w₀ (w.updateAuth authId f hf) where
  programs := h.programs
  liabilitySnapshots := h.liabilitySnapshots
  reserveAdjustments := h.reserveAdjustments
  ledgerNet := h.ledgerNet
  terms id := by
    show ((w.mintAuthorizations.modify authId f hf).find? id).map MintAuthorization.terms = _
    rw [Lib.Table.find?_modify, ← h.terms id]
    split_ifs with hid
    · rw [hid, Option.map_map]
      exact Option.map_congr fun a _ => hterms a
    · rfl

/-- An authorization read now has the terms it had at the start. -/
theorem Frozen.find? {w₀ w : World} (h : Frozen w₀ w) {authId : String} {a : MintAuthorization}
    (ha : w.mintAuthorizations.find? authId = some a) :
    ∃ a₀, w₀.mintAuthorizations.find? authId = some a₀ ∧ a₀.terms = a.terms := by
  have hterms := h.terms authId
  rw [ha, Option.map_some, eq_comm, Option.map_eq_some_iff] at hterms
  exact hterms

/-! ## The position under concurrency -/

/-- What is deducted from the cash of a program besides unmatched funds and redemptions. -/
def adjustments (w : World) (programId c : String) : Int :=
  adjustmentSum w programId c "RESTRICTED" + adjustmentSum w programId c "BANK_CHARGE" +
    adjustmentSum w programId c "REGULATORY_HOLD" + adjustmentSum w programId c "OPERATIONAL"

/-- The earmarks of a program count against its capacity. They are posted in the upper-cased
reference currency, and measured in the reference currency as it is stored; where these differ, no
reserve is measured either, unless the adjustments add up to less than nothing. -/
def CountsEarmarks (w : World) (programId : String) : Prop :=
  ∀ program ∈ w.programs.find? programId,
    Runtime.toUpperCase program.referenceCurrency = program.referenceCurrency ∨
      0 ≤ adjustments w programId program.referenceCurrency

/-! ## One call among others -/

/-- The read of `LIABILITY:PENDING_MINT` in `position`. -/
def measureQuery : Query := ⟨.ledgerPosting, .findMany, liabilityPendingMint⟩

/-- The creation of a journal entry of a program. -/
def postQuery (programId : String) : Query := ⟨.ledgerEntry, .create, programId⟩

/-- How far a call is: whether it has measured, and whether it has posted its earmark. -/
inductive ApprovalPhase
  | unmeasured
  | measured (pending : Int)
  | earmarked
deriving DecidableEq

/-- What the guard has established from a measurement when it allows an authorization. -/
structure Covered (w₀ : World) (a : MintAuthorization) (program : Program) (pending : Int) :
    Prop where
  found : w₀.programs.find? a.programId = some program
  positive : 0 < a.amountMinor
  currency : Runtime.toUpperCase a.currency = Runtime.toUpperCase program.referenceCurrency
  capacity : ∃ now pos, positionWith w₀ a.programId program pending now = .ok pos ∧
    a.amountMinor ≤ pos.mintCapacity.minor

/-- The steps of a call on the authorization `authId`, from phase to phase. -/
inductive ApprovalMove (w₀ : World) (authId : String) :
    ApprovalPhase → Query → World → World → ApprovalPhase → Prop
  | other {φ : ApprovalPhase} {q : Query} {w w' : World} (hq : q ≠ measureQuery)
      (hw : Unmoved w w') : ApprovalMove w₀ authId φ q w w' φ
  | measured {w : World} {a : MintAuthorization} {program : Program}
      (ha : w₀.mintAuthorizations.find? authId = some a)
      (hprogram : w₀.programs.find? a.programId = some program) :
      ApprovalMove w₀ authId .unmeasured measureQuery w w
        (.measured (pendingMint w a.programId program.referenceCurrency))
  | posted {w : World} {a : MintAuthorization} {program : Program} {pending : Int}
      {e : JournalEntry} (ha : w₀.mintAuthorizations.find? authId = some a)
      (hcovered : Covered w₀ a program pending) (he : IsReservation a e) :
      ApprovalMove w₀ authId (.measured pending) (postQuery a.programId) w (w.posted e) .earmarked
  | written {φ : ApprovalPhase} {w : World} {f : MintAuthorization → MintAuthorization}
      {hf : ∀ a, (f a).id = a.id} (hterms : ∀ a, (f a).terms = a.terms)
      (hissued : ∀ a, (f a).status = .issued → φ = .earmarked) :
      ApprovalMove w₀ authId φ ⟨.mintAuthorization, .update, authId⟩ w (w.updateAuth authId f hf) φ

theorem ApprovalMove.frozen {w₀ w w' : World} {authId : String} {φ φ' : ApprovalPhase} {q : Query}
    (h : ApprovalMove w₀ authId φ q w w' φ') (hw : Frozen w₀ w) : Frozen w₀ w' := by
  cases h with
  | other _ hunmoved => exact hw.unmoved hunmoved
  | measured => exact hw
  | posted _ _ he => exact hw.posted he
  | written hterms => exact hw.updateAuth authId _ hterms

/-- A call that follows these steps. -/
abbrev Approves (w₀ : World) (authId : String) {α : Type}
    (Q : ApprovalPhase → Except ApiError α → Prop) (x : Service α) (φ : ApprovalPhase) : Prop :=
  x.Obeys (ApprovalMove w₀ authId) (Frozen w₀) Q φ

section

variable {w₀ : World} {authId : String} {α β : Type} {Q : ApprovalPhase → Except ApiError β → Prop}
  {φ : ApprovalPhase}

/-- A read other than the measurement. -/
theorem Approves.read_bind {q : Query} {g : World → α} {f : α → Service β} (hq : q ≠ measureQuery)
    (h : ∀ w, Frozen w₀ w → Approves w₀ authId Q (f (g w)) φ) :
    Approves w₀ authId Q (Call.read q g >>= f) φ :=
  Call.Obeys.read_bind fun w hw => ⟨φ, .other hq (.refl w), h w hw⟩

/-- A transaction on other tables. -/
theorem Approves.query_bind {q : Query} {g : Tx α} {f : α → Service β} (hq : q ≠ measureQuery)
    (hg : ∀ w a w', g w = .ok (a, w') → Unmoved w w') (herr : ∀ e, Q φ (.error e))
    (h : ∀ a, Approves w₀ authId Q (f a) φ) : Approves w₀ authId Q (Call.query q g >>= f) φ :=
  Call.Obeys.query_bind (fun w a w' _ hw' => ⟨φ, .other hq (hg w a w' hw'), h a⟩)
    fun w e _ _ => ⟨φ, .other hq (.refl w), herr e⟩

/-- A write to the authorization. -/
theorem Approves.update_bind {f : MintAuthorization → MintAuthorization}
    {hf : ∀ a, (f a).id = a.id} {k : MintAuthorization → Service β}
    (hterms : ∀ a, (f a).terms = a.terms) (hissued : ∀ a, (f a).status = .issued → φ = .earmarked)
    (herr : ∀ e, Q φ (.error e)) (h : ∀ a, Approves w₀ authId Q (k a) φ) :
    Approves w₀ authId Q (Prisma.mintAuthorization.update unconstrained authId f hf >>= k) φ := by
  have hq : (⟨.mintAuthorization, .update, authId⟩ : Query) ≠ measureQuery := by
    simp [measureQuery]
  refine Call.Obeys.query_bind (fun w a w' _ hw' => ?_) fun w e _ _ =>
    ⟨φ, .other hq (.refl w), herr e⟩
  obtain ⟨_, _, -, -, rfl⟩ := Entity.updateTx_ok _ hw'
  exact ⟨φ, .written hterms hissued, h a⟩

/-- A balance other than `LIABILITY:PENDING_MINT` is the one at the start. -/
theorem Approves.accountBalance_bind {programId account c : String} {t : LedgerAccountType}
    {f : Money → Service β} (ht : ledgerAccountTypeOf account = .ok t)
    (hobligation : liabilityPaychainReserveObligation ≠ account)
    (hpending : liabilityPendingMint ≠ account) {m : Int}
    (hm : (if t.debitPositive then 1 else -1) * ledgerNet w₀.ledger programId c account = m)
    (h : Approves w₀ authId Q (f (money m c)) φ) :
    Approves w₀ authId Q (ReserveLedgerService.accountBalance programId account c >>= f) φ := by
  unfold ReserveLedgerService.accountBalance
  rw [bind_assoc]
  refine Approves.read_bind (by simpa [measureQuery] using hpending.symm) fun w hw => ?_
  have hbalance := netPostings_postingsOf t.debitPositive w.ledger programId account c
  rw [hw.ledgerNet programId c account hobligation hpending, hm] at hbalance
  rw [← hbalance] at h
  rw [ht]
  exact h

/-- The measurement. -/
theorem Approves.measure_bind {a : MintAuthorization} {program : Program} {f : Money → Service β}
    (ha : w₀.mintAuthorizations.find? authId = some a)
    (hprogram : w₀.programs.find? a.programId = some program)
    (h : ∀ pending, Approves w₀ authId Q (f (money pending program.referenceCurrency))
      (.measured pending)) :
    Approves w₀ authId Q (ReserveLedgerService.accountBalance a.programId liabilityPendingMint
      program.referenceCurrency >>= f) .unmeasured := by
  unfold ReserveLedgerService.accountBalance
  rw [bind_assoc]
  refine Call.Obeys.read_bind fun w hw => ⟨_, .measured ha hprogram, ?_⟩
  have hbalance := netPostings_postingsOf false w.ledger a.programId liabilityPendingMint
    program.referenceCurrency
  have h := h (pendingMint w a.programId program.referenceCurrency)
  rw [pendingMint, ← neg_one_mul] at h ⊢
  rw [type_liabilityPendingMint]
  show Approves w₀ authId Q (f (money (netPostings false _) _)) _
  rw [hbalance]
  exact h

end

/-- What `position` returns to a call that has measured. -/
def Measured (w₀ : World) (programId : String) (now : Int) (φ : ApprovalPhase)
    (r : Except ApiError ReservePosition) : Prop :=
  ∀ pos, r = .ok pos → ∃ program pending, w₀.programs.find? programId = some program ∧
    φ = .measured pending ∧ positionWith w₀ programId program pending now = .ok pos

theorem position_approves {w₀ : World} {authId : String} {a : MintAuthorization}
    (ha : w₀.mintAuthorizations.find? authId = some a) (clock : Clock) :
    Approves w₀ authId (Measured w₀ a.programId (clock 0)) (position clock a.programId)
      .unmeasured := by
  unfold position
  refine Approves.read_bind (by simp [measureQuery]) fun w hw => ?_
  rw [Prisma.program_get, hw.programs]
  refine Call.Obeys.lift_bind (fun e _ pos h => by cases h) fun program hprogram => ?_
  rw [orThrow_eq_ok] at hprogram
  set c := program.referenceCurrency
  have hcash : (1 : Int) * ledgerNet w₀.ledger a.programId c assetTrusteeBankCash =
      clearedCash w₀ a.programId c := one_mul _
  have hunmatched : (-1 : Int) * ledgerNet w₀.ledger a.programId c liabilityUnmatchedDeposit =
      unmatchedFunds w₀ a.programId c := neg_one_mul _
  have hredemption : (-1 : Int) * ledgerNet w₀.ledger a.programId c liabilityPendingRedemption =
      pendingRedemption w₀ a.programId c := neg_one_mul _
  refine Approves.accountBalance_bind type_assetTrusteeBankCash (by decide) (by decide) hcash ?_
  refine Approves.accountBalance_bind type_liabilityUnmatchedDeposit (by decide) (by decide)
    hunmatched ?_
  refine Approves.measure_bind ha hprogram fun pending => ?_
  refine Approves.accountBalance_bind type_liabilityPendingRedemption (by decide) (by decide)
    hredemption ?_
  refine Approves.read_bind (by simp [measureQuery, Prisma.liabilitySnapshot]) fun w hw => ?_
  refine Approves.read_bind (by simp [measureQuery]) fun w' hw' => ?_
  intro pos hpos
  refine ⟨program, pending, hprogram, rfl, ?_⟩
  have hlatest : latestVerified w a.programId = latestVerified w₀ a.programId := by
    rw [latestVerified, hw.liabilitySnapshots, latestVerified]
  have hadjustments : adjustmentSum w' a.programId c = adjustmentSum w₀ a.programId c := by
    funext kind
    rw [adjustmentSum, hw'.reserveAdjustments, adjustmentSum]
  rw [positionWith, ← hlatest, ← hadjustments]
  exact hpos

/-- What `gatherGuardFacts` returns to a call: facts the guard only allows when its measurement
covers the authorization. -/
def Gathered (w₀ : World) (authId : String) (φ : ApprovalPhase)
    (r : Except ApiError MintGuardFacts) : Prop :=
  ∀ facts, r = .ok facts → ∃ a program pending, w₀.mintAuthorizations.find? authId = some a ∧
    φ = .measured pending ∧
    ∀ d, evaluateMintGuard facts = .ok d → d.allowed = true → Covered w₀ a program pending

theorem gatherGuardFacts_approves (w₀ : World) (clock : Clock) (authId : String)
    (complete : Bool) :
    Approves w₀ authId (Gathered w₀ authId) (gatherGuardFacts clock authId complete) .unmeasured := by
  unfold gatherGuardFacts requireAuth
  rw [bind_assoc]
  refine Approves.read_bind (by simp [measureQuery, Prisma.mintAuthorization]) fun w hw => ?_
  refine Call.Obeys.lift_bind (fun e _ facts h => by cases h) fun auth hauth => ?_
  obtain ⟨a, ha, hterms⟩ := hw.find? (orThrow_eq_ok.mp hauth)
  obtain ⟨hprogramId, hamount, hcurrency⟩ : a.programId = auth.programId ∧
      a.amountMinor = auth.amountMinor ∧ a.currency = auth.currency := by
    simpa [MintAuthorization.terms] using hterms
  refine Approves.read_bind (by simp [measureQuery, Prisma.program]) fun w hw => ?_
  refine Call.Obeys.lift_bind (fun e _ facts h => by cases h) fun program _ => ?_
  rw [← hprogramId]
  refine Call.Obeys.bind (position_approves ha clock) ?_ fun φ e _ facts h => by cases h
  intro φ pos hpos
  obtain ⟨program₀, pending, hprogram₀, rfl, hposition⟩ := hpos pos rfl
  have hdeposits (f : List Deposit → Service MintGuardFacts)
      (hf : ∀ deposits, Approves w₀ authId (Gathered w₀ authId) (f deposits) (.measured pending)) :
      Approves w₀ authId (Gathered w₀ authId)
        (if auth.fundingDepositIds.length > 0 then
          (Prisma.deposit.findMany authId fun d => auth.fundingDepositIds.contains d.id) >>= f
        else pure [] >>= f) (.measured pending) := by
    split_ifs
    · exact Approves.read_bind (by simp [measureQuery, Prisma.deposit]) fun w _ => hf _
    · exact hf []
  refine hdeposits _ fun deposits => ?_
  refine Approves.read_bind (by simp [measureQuery, Prisma.liabilitySnapshot]) fun w hw => ?_
  refine Approves.read_bind (by simp [measureQuery, Prisma.featureFlag]) fun w hw => ?_
  refine Approves.read_bind (by simp [measureQuery, Prisma.platformControl]) fun w hw => ?_
  refine Approves.read_bind (by simp [measureQuery, Prisma.reserveSnapshot]) fun w hw => ?_
  refine Approves.read_bind (by simp [measureQuery, Prisma.reconciliationRun]) fun w hw => ?_
  refine Approves.read_bind (by simp [measureQuery, Prisma.trusteeAccount]) fun w hw => ?_
  refine Approves.read_bind (by simp [measureQuery, Prisma.platformControl]) fun w hw => ?_
  refine Approves.read_bind (by simp [measureQuery]) fun w hw => ?_
  rintro facts hfacts
  cases hfacts
  refine ⟨a, program₀, pending, ha, rfl, fun d hd hallowed => ?_⟩
  obtain ⟨headroom, hheadroom⟩ := exists_headroom w₀ a.programId program₀
  obtain ⟨hposCurrency, hcapacity⟩ := hheadroom.position pending (clock 0) pos hposition
  have hmoney : pos.mintCapacity.currency = Runtime.toUpperCase pos.currency := by
    rw [hcapacity, hposCurrency, money_currency]
  obtain ⟨hpositive, hupper, hle⟩ := covered_of_allowed hmoney
    (@rfl _ (money auth.amountMinor auth.currency)) rfl hd hallowed
  rw [← hamount] at hpositive hle
  rw [← hcurrency, hposCurrency] at hupper
  exact ⟨hprogram₀, hpositive, hupper, clock 0, pos, hposition, hle⟩

/-- However the call ends. -/
abbrev anyEnd {α : Type} : ApprovalPhase → Except ApiError α → Prop := fun _ _ => True

section

variable {w₀ : World} {authId : String} {α β : Type} {φ : ApprovalPhase}

theorem Approves.record_bind (entry : AuditRecord) {f : Unit → Service β}
    (h : Approves w₀ authId anyEnd (f ()) φ) :
    Approves w₀ authId anyEnd (AuditService.record entry >>= f) φ := by
  unfold AuditService.record auditCreate
  refine Approves.query_bind (by simp [measureQuery]) ?_ (fun _ => trivial) fun _ => h
  intro w _ w' hw'
  rw [(auditCreate_ok hw').2]
  exact ⟨rfl, rfl, rfl, rfl, rfl⟩

theorem Approves.outbox_bind (event : OutboxEvent) {f : Unit → Service β}
    (h : Approves w₀ authId anyEnd (f ()) φ) :
    Approves w₀ authId anyEnd (outboxCreate event >>= f) φ := by
  refine Approves.query_bind (by simp [measureQuery]) ?_ (fun _ => trivial) fun _ => h
  rintro w _ w' hw'
  cases hw'
  exact ⟨rfl, rfl, rfl, rfl, rfl⟩

theorem Approves.recordDecision_bind (approvalId checkerId : String) (actedAt : Int)
    (decision : ApprovalDecision) (reason : String) {f : Approval → Service β}
    (h : ∀ approval, Approves w₀ authId anyEnd (f approval) φ) :
    Approves w₀ authId anyEnd
      (recordDecision approvalId checkerId actedAt decision reason >>= f) φ := by
  refine Approves.query_bind (by simp [measureQuery, Prisma.approval]) ?_ (fun _ => trivial) h
  intro w _ w' hw'
  obtain ⟨_, -, -, -, rfl⟩ := Entity.updateTx_ok _ hw'
  exact ⟨rfl, rfl, rfl, rfl, rfl⟩

theorem block_approves (α : Type) (clock : Clock) (checkerId : String) (approval : Approval)
    (decision : MintGuardDecision) : Approves w₀ authId anyEnd
      (block clock authId checkerId approval decision : Service α) φ := by
  unfold block
  refine Approves.update_bind (fun _ => rfl) (fun a h => ?_) (fun _ => trivial) fun _ => ?_
  · simp [MintAuthorization.withStatus] at h
  · refine Approves.recordDecision_bind _ _ _ _ _ fun _ => ?_
    refine Approves.outbox_bind _ ?_
    trivial

end

omit [Runtime] in
/-- An entry about an authorization is one about every authorization of the same terms. -/
theorem IsMintEntry.congr [Runtime] {a b : MintAuthorization} {sourcePrefix debit credit : String}
    {e : JournalEntry} (h : IsMintEntry a sourcePrefix debit credit e) (hid : b.id = a.id)
    (hterms : b.terms = a.terms) : IsMintEntry b sourcePrefix debit credit e := by
  obtain ⟨hprogramId, hamount, hcurrency⟩ : b.programId = a.programId ∧
      b.amountMinor = a.amountMinor ∧ b.currency = a.currency := by
    simpa [MintAuthorization.terms] using hterms
  refine ⟨?_, ?_, ?_⟩
  · rw [hamount, hcurrency]
    exact h.move
  · rw [hid]
    exact h.source
  · rw [hprogramId]
    exact h.programId

/-- Issuing posts the earmark from a measurement that covers it, and then writes the status. -/
theorem issue_approves {w₀ : World} {a auth : MintAuthorization} {program : Program} {pending : Int}
    (ha : w₀.mintAuthorizations.find? auth.id = some a) (hterms : a.terms = auth.terms)
    (hcovered : Covered w₀ a program pending) (clock : Clock) (approval : Approval)
    (checkerId reason : String) (capacity : Money) :
    Approves w₀ auth.id anyEnd (issue clock auth approval checkerId reason capacity)
      (.measured pending) := by
  unfold issue
  refine Call.Obeys.lift_bind (fun _ _ => trivial) fun expiresIso _ => ?_
  refine Call.Obeys.lift_bind (fun _ _ => trivial) fun expiresAt _ => ?_
  refine Call.Obeys.lift_bind (fun _ _ => trivial) fun entry hentry => ?_
  have he : IsReservation a entry :=
    (isMintEntry_of_build hentry).congr (Lib.Table.key_of_find? ha) hterms
  refine Call.Obeys.query_bind (fun w _ w' _ hw' => ?_) fun w _ _ _ => ?_
  · rw [(post_ok hw').2, he.programId]
    refine ⟨.earmarked, .posted ha hcovered he, ?_⟩
    refine Approves.update_bind (fun _ => rfl) (fun _ _ => rfl) (fun _ => trivial) fun _ => ?_
    refine Approves.recordDecision_bind _ _ _ _ _ fun _ => ?_
    refine Approves.record_bind _ ?_
    refine Approves.outbox_bind _ ?_
    trivial
  · exact ⟨_, .other (by simp [measureQuery]) (.refl w), trivial⟩

/-- **One call among others.** -/
theorem approve_approves (w₀ : World) (clock : Clock) (authId checkerId reason : String) :
    Approves w₀ authId anyEnd (approve clock authId checkerId reason) .unmeasured := by
  unfold approve requireAuthWithApproval
  rw [bind_assoc]
  refine Approves.read_bind (by simp [measureQuery]) fun w hw => ?_
  refine Call.Obeys.lift_bind (fun _ _ => trivial) fun r hr => ?_
  obtain ⟨auth, approval⟩ := r
  obtain ⟨auth', hauth, hpair⟩ := Option.map_eq_some_iff.mp (orThrow_eq_ok.mp hr)
  obtain ⟨rfl, -⟩ := Prod.mk.injEq .. ▸ hpair
  obtain ⟨a, ha, hterms⟩ := hw.find? hauth
  obtain rfl := Lib.Table.key_of_find? hauth
  refine Call.Obeys.throwIf_bind (fun _ => trivial) fun _ => ?_
  refine Call.Obeys.lift_bind (fun _ _ => trivial) fun approval _ => ?_
  refine Approves.read_bind (by simp [measureQuery, Prisma.user]) fun w _ => ?_
  refine Call.Obeys.lift_bind (fun _ _ => trivial) fun checker _ => ?_
  refine Call.Obeys.bind (gatherGuardFacts_approves w₀ clock auth'.id true) ?_ fun _ _ _ => trivial
  intro φ facts hfacts
  obtain ⟨a', program, pending, ha', rfl, hcovered⟩ := hfacts facts rfl
  obtain rfl : a' = a := Option.some.inj (ha'.symm.trans ha)
  refine Call.Obeys.lift_bind (fun _ _ => trivial) fun decision hdecision => ?_
  split_ifs with hallowed
  · exact issue_approves ha hterms (hcovered decision hdecision hallowed) clock approval checkerId
      reason decision.capacity
  · exact block_approves ApprovedMint clock checkerId approval decision

/-! ## All calls together -/

/-- The arguments of an approval. -/
structure ApprovalRequest where
  clock : Clock
  checkerId : String
  reason : String

/-- One call for each authorization. -/
def approvals (requests : String → ApprovalRequest) (authId : String) : Service ApprovedMint :=
  approve (requests authId).clock authId (requests authId).checkerId (requests authId).reason

abbrev ApprovalPool := Pool String Query World ApiError ApprovedMint

/-- No other call has posted an entry of the program since the call measured. -/
def MeasurementValid (programId : String) (p : ApprovalPool) (authId : String) : Prop :=
  ∀ e ∈ p.since (authId, measureQuery), e.2 = postQuery programId → e.1 = authId

instance (programId : String) (p : ApprovalPool) (authId : String) :
    Decidable (MeasurementValid programId p authId) :=
  inferInstanceAs (Decidable (∀ e ∈ p.since (authId, measureQuery), _))

/-- A call that is about to post an entry of the program does so from a valid measurement. -/
def PostsMeasured (programId : String) (p : ApprovalPool) (authId : String) : Prop :=
  (p.calls authId).next? = some (postQuery programId) → MeasurementValid programId p authId

instance (programId : String) (p : ApprovalPool) (authId : String) :
    Decidable (PostsMeasured programId p authId) :=
  inferInstanceAs (Decidable (_ → _))

/-- The sum of the amounts of a program that became `ISSUED`. -/
def becameIssued (w₀ w : World) (programId : String) : Int :=
  w₀.mintAuthorizations.sum fun a =>
    if a.programId = programId ∧ a.status ≠ .issued ∧
      (w.mintAuthorizations.find? a.id).any (·.status = .issued) then a.amountMinor else 0

/-- The sum of the amounts of a program whose calls have posted their earmark. -/
def earmarkedAmounts (w₀ : World) (programId : String) (ph : String → ApprovalPhase) : Int :=
  w₀.mintAuthorizations.sum fun a =>
    if a.programId = programId ∧ ph a.id = .earmarked then a.amountMinor else 0

/-- A step makes the measurements of the other calls invalid if it posts. -/
theorem MeasurementValid.of_step {programId : String} {p : ApprovalPool} {i j : String} {q : Query}
    {eff : World → World} {next : World → Service ApprovedMint} (hj : p.calls j = .step q eff next)
    (hne : (j, q) ≠ (i, measureQuery)) (h : MeasurementValid programId (p.step j) i) :
    MeasurementValid programId p i ∧ (q = postQuery programId → j = i) := by
  unfold MeasurementValid at h
  rw [Pool.step_of_step hj, Pool.since_cons, if_neg hne] at h
  rw [List.forall_mem_cons] at h
  exact ⟨h.2, h.1⟩

/-- What holds of the pool and the phases of its calls, for one program: its earmarks are those of
the calls that have posted, and together they fit into the headroom. -/
structure ApprovalInv (w₀ : World) (programId c : String) (headroom : Int) (p : ApprovalPool)
    (ph : String → ApprovalPhase) : Prop where
  frozen : Frozen w₀ p.state
  pending : pendingMint p.state programId c =
    pendingMint w₀ programId c + earmarkedAmounts w₀ programId ph
  measured : ∀ i m a, ph i = .measured m → w₀.mintAuthorizations.find? i = some a →
    a.programId = programId → MeasurementValid programId p i → m = pendingMint p.state programId c
  bounded : earmarkedAmounts w₀ programId ph ≤ max 0 (headroom - pendingMint w₀ programId c)
  positive : ∀ a ∈ w₀.mintAuthorizations.rows, ph a.id = .earmarked → 0 < a.amountMinor
  issued : ∀ a ∈ p.state.mintAuthorizations.rows, a.status = .issued →
    (∃ b, w₀.mintAuthorizations.find? a.id = some b ∧ b.status = .issued) ∨ ph a.id = .earmarked

section

variable {w₀ : World} {programId c : String} {headroom : Int} {p : ApprovalPool}
  {ph : String → ApprovalPhase} {i : String} {q : Query} {eff : World → World}
  {next : World → Service ApprovedMint}

/-- A step that leaves the ledger and the phase as they are, and issues only what is earmarked. -/
theorem ApprovalInv.keep (h : ApprovalInv w₀ programId c headroom p ph)
    (hi : p.calls i = .step q eff next) (hq : q ≠ measureQuery) (hfrozen : Frozen w₀ (eff p.state))
    (hledger : (eff p.state).ledger = p.state.ledger)
    (hissued : ∀ a ∈ (eff p.state).mintAuthorizations.rows, a.status = .issued →
      (∃ b ∈ p.state.mintAuthorizations.rows, b.id = a.id ∧ b.status = .issued) ∨
        ph a.id = .earmarked) :
    ApprovalInv w₀ programId c headroom (p.step i) ph := by
  have hstate : (p.step i).state = eff p.state := by rw [Pool.step_of_step hi]
  have hpending : pendingMint (eff p.state) programId c = pendingMint p.state programId c := by
    rw [pendingMint, hledger, pendingMint]
  refine ⟨hstate ▸ hfrozen, ?_, ?_, h.bounded, h.positive, ?_⟩
  · rw [hstate, hpending]
    exact h.pending
  · intro j m a hj ha hprogramId hvalid
    rw [hstate, hpending]
    exact h.measured j m a hj ha hprogramId (hvalid.of_step hi (by simp [hq])).1
  · rw [hstate]
    intro a ha hstatus
    rcases hissued a ha hstatus with ⟨b, hb, hid, hbstatus⟩ | hearmarked
    · rw [← hid]
      exact h.issued b hb hbstatus
    · exact .inr hearmarked

/-- A call measures. -/
theorem ApprovalInv.measure (h : ApprovalInv w₀ programId c headroom p ph)
    (hi : p.calls i = .step measureQuery eff next) (heff : eff p.state = p.state)
    (hphase : ph i = .unmeasured) {a : MintAuthorization}
    (ha : w₀.mintAuthorizations.find? i = some a) {pending : Int}
    (hpending : a.programId = programId → pending = pendingMint p.state programId c) :
    ApprovalInv w₀ programId c headroom (p.step i) (Function.update ph i (.measured pending)) := by
  have hstate : (p.step i).state = p.state := by rw [Pool.step_of_step hi, heff]
  have hearmarked (j : String) :
      Function.update ph i (.measured pending) j = .earmarked ↔ ph j = .earmarked := by
    by_cases hj : j = i
    · simp [hj, hphase]
    · rw [Function.update_of_ne hj]
  have hamounts : earmarkedAmounts w₀ programId (Function.update ph i (.measured pending)) =
      earmarkedAmounts w₀ programId ph := by
    simp only [earmarkedAmounts, hearmarked]
  refine ⟨hstate ▸ h.frozen, ?_, ?_, ?_, ?_, ?_⟩
  · rw [hstate, hamounts]
    exact h.pending
  · intro j m b hj hb hprogramId hvalid
    rw [hstate]
    by_cases hji : j = i
    · subst hji
      obtain rfl : b = a := Option.some.inj (hb.symm.trans ha)
      rw [Function.update_self] at hj
      cases hj
      exact hpending hprogramId
    · rw [Function.update_of_ne hji] at hj
      have hne : (i, measureQuery) ≠ (j, measureQuery) := by simp [Ne.symm hji]
      exact h.measured j m b hj hb hprogramId (hvalid.of_step hi hne).1
  · rw [hamounts]
    exact h.bounded
  · intro b hb hphase
    exact h.positive b hb ((hearmarked _).mp hphase)
  · rw [hstate]
    intro b hb hstatus
    rcases h.issued b hb hstatus with hbefore | hphase
    · exact .inl hbefore
    · exact .inr ((hearmarked _).mpr hphase)

/-- A call posts its earmark, from a measurement that covers it. -/
theorem ApprovalInv.post (h : ApprovalInv w₀ programId c headroom p ph) {a : MintAuthorization}
    (hi : p.calls i = .step (postQuery a.programId) eff next) {e : JournalEntry}
    (heff : eff p.state = p.state.posted e) {pending : Int} (hphase : ph i = .measured pending)
    (ha : w₀.mintAuthorizations.find? i = some a) (he : IsReservation a e)
    (hpositive : 0 < a.amountMinor)
    (hcurrency : a.programId = programId → Runtime.toUpperCase a.currency = c)
    (hfits : a.programId = programId →
      a.amountMinor ≤ headroom - pendingMint p.state programId c) :
    ApprovalInv w₀ programId c headroom (p.step i) (Function.update ph i .earmarked) := by
  have hstate : (p.step i).state = p.state.posted e := by rw [Pool.step_of_step hi, heff]
  have hpending : pendingMint (p.state.posted e) programId c = pendingMint p.state programId c +
      if a.programId = programId then a.amountMinor else 0 := by
    rw [pendingMint_reservation _ he]
    by_cases hprogramId : a.programId = programId
    · simp [hprogramId, hcurrency hprogramId]
    · simp [hprogramId]
  have hid : a.id = i := Lib.Table.key_of_find? ha
  have hamounts : earmarkedAmounts w₀ programId (Function.update ph i .earmarked) =
      earmarkedAmounts w₀ programId ph + if a.programId = programId then a.amountMinor else 0 := by
    unfold earmarkedAmounts
    rw [Lib.Table.sum_congr_off ha (g := fun b =>
      if b.programId = programId ∧ ph b.id = .earmarked then b.amountMinor else 0)]
    · simp [hid, hphase]
    · intro b _ hb
      rw [Function.update_of_ne hb]
  refine ⟨hstate ▸ h.frozen.posted he, ?_, ?_, ?_, ?_, ?_⟩
  · rw [hstate, hpending, hamounts, h.pending, add_assoc]
  · intro j m b hj hb hprogramId hvalid
    by_cases hji : j = i
    · simp [hji] at hj
    · rw [Function.update_of_ne hji] at hj
      have hne : (i, postQuery a.programId) ≠ (j, measureQuery) := by simp [Ne.symm hji]
      obtain ⟨hvalid, hpost⟩ := hvalid.of_step hi hne
      have hother : a.programId ≠ programId := fun hsame =>
        hji (hpost (by rw [hsame])).symm
      rw [hstate, hpending, if_neg hother, add_zero]
      exact h.measured j m b hj hb hprogramId hvalid
  · rw [hamounts]
    have hbounded := h.bounded
    have hbefore := h.pending
    split_ifs with hprogramId
    · have hfits := hfits hprogramId
      omega
    · omega
  · intro b hb hphase
    by_cases hbi : b.id = i
    · obtain rfl : b = a := by
        have hfind := Lib.Table.find?_key_of_mem hb
        rw [hbi] at hfind
        exact Option.some.inj (hfind.symm.trans ha)
      exact hpositive
    · rw [Function.update_of_ne hbi] at hphase
      exact h.positive b hb hphase
  · rw [hstate]
    intro b hb hstatus
    by_cases hbi : b.id = i
    · exact .inr (by rw [hbi, Function.update_self])
    · rw [Function.update_of_ne hbi]
      exact h.issued b hb hstatus

/-- A measurement that covers an authorization is in the currency the earmark is posted in. -/
theorem Covered.upper {a : MintAuthorization} {program : Program} {pending : Int}
    (hcovered : Covered w₀ a program pending) (hcounts : CountsEarmarks w₀ a.programId)
    (hheadroom : IsHeadroom w₀ a.programId program headroom)
    (hfits : a.amountMinor ≤ headroom - pending) {w : World}
    (hpending : pending = pendingMint w a.programId program.referenceCurrency) :
    Runtime.toUpperCase a.currency = program.referenceCurrency := by
  rw [hcovered.currency]
  rcases hcounts program hcovered.found with hupper | hadjustments
  · exact hupper
  · by_contra hupper
    -- Nothing is measured in a currency that is not in upper case, so there is no headroom.
    have hle := hheadroom.le_eligible
    have hpositive := hcovered.positive
    simp only [clearedCash, unmatchedFunds, pendingRedemption, pendingMint,
      ledgerNet_of_not_upper hupper] at hle hpending
    unfold adjustments at hadjustments
    omega

/-- **Every step keeps the invariant.** -/
theorem ApprovalInv.step {program : Program} (hprogram : w₀.programs.find? programId = some program)
    (hcounts : CountsEarmarks w₀ programId) (hheadroom : IsHeadroom w₀ programId program headroom)
    (h : ApprovalInv w₀ programId program.referenceCurrency headroom p ph)
    (hpost : PostsMeasured programId p i) (hi : p.calls i = .step q eff next) {φ : ApprovalPhase}
    (hmove : ApprovalMove w₀ i (ph i) q p.state (eff p.state) φ) :
    ApprovalInv w₀ programId program.referenceCurrency headroom (p.step i)
      (Function.update ph i φ) := by
  have hfrozen := hmove.frozen h.frozen
  generalize hphase : ph i = φ₀ at hmove
  generalize heff : eff p.state = w' at hmove hfrozen
  cases hmove with
  | other hq hw =>
    rw [← hphase, Function.update_eq_self]
    refine h.keep hi hq (heff ▸ hfrozen) (heff ▸ hw.ledger) ?_
    rw [heff, hw.mintAuthorizations]
    intro a ha hstatus
    exact .inl ⟨a, ha, rfl, hstatus⟩
  | @written _ _ f hf hterms hissued =>
    rw [← hphase, Function.update_eq_self]
    refine h.keep hi (by simp [measureQuery]) (heff ▸ hfrozen) (by rw [heff]; rfl) ?_
    rw [heff]
    intro a ha hstatus
    rcases World.mem_updateAuth.mp ha with ⟨ha, -⟩ | ⟨r, hr, rfl⟩
    · exact .inl ⟨a, ha, rfl, hstatus⟩
    · rw [hf, Lib.Table.key_of_find? hr, hphase]
      exact .inr (hissued r hstatus)
  | @measured _ a program' ha hprogram' =>
    refine h.measure hi heff hphase ha fun hsame => ?_
    subst hsame
    rw [Option.some.inj (hprogram'.symm.trans hprogram)]
  | @posted _ a program' pending e ha hcovered he =>
    have hfits (hsame : a.programId = programId) : program' = program ∧
        pending = pendingMint p.state programId program.referenceCurrency ∧
        a.amountMinor ≤ headroom - pending := by
      subst hsame
      obtain rfl := Option.some.inj (hcovered.found.symm.trans hprogram)
      have hvalid := hpost (by rw [hi]; rfl)
      have hpending := h.measured i pending a hphase ha rfl hvalid
      obtain ⟨now, pos, hpos, hle⟩ := hcovered.capacity
      rw [(hheadroom.position pending now pos hpos).2, money_minor] at hle
      have hpositive := hcovered.positive
      exact ⟨rfl, hpending, by omega⟩
    refine h.post hi heff hphase ha he hcovered.positive ?_ ?_
    · intro hsame
      obtain ⟨rfl, hpending, hle⟩ := hfits hsame
      subst hsame
      exact hcovered.upper hcounts hheadroom hle hpending
    · intro hsame
      obtain ⟨-, hpending, hle⟩ := hfits hsame
      rw [← hpending]
      exact hle

/-- What became issued is part of what is earmarked. -/
theorem ApprovalInv.becameIssued_le (h : ApprovalInv w₀ programId c headroom p ph) :
    becameIssued w₀ p.state programId ≤ earmarkedAmounts w₀ programId ph := by
  refine Lib.Table.sum_le_sum fun a ha => ?_
  have hpositive := h.positive a ha
  by_cases hnew : a.programId = programId ∧ a.status ≠ .issued ∧
      (p.state.mintAuthorizations.find? a.id).any (·.status = .issued)
  · obtain ⟨hprogramId, hbefore, hafter⟩ := hnew
    obtain ⟨b, hb, hstatus⟩ := (Option.any_eq_true _ _).mp hafter
    obtain ⟨hrow, hid⟩ := Lib.Table.find?_eq_some.mp hb
    have hearmarked : ph a.id = .earmarked := by
      rcases h.issued b hrow (by simpa using hstatus) with ⟨a', ha', hstatus'⟩ | hearmarked
      · rw [hid, Lib.Table.find?_key_of_mem ha, Option.some.injEq] at ha'
        exact absurd (ha' ▸ hstatus') hbefore
      · rw [← hid]
        exact hearmarked
    rw [if_pos ⟨hprogramId, hbefore, hafter⟩, if_pos ⟨hprogramId, hearmarked⟩]
  · rw [if_neg hnew]
    split_ifs with hearmarked
    · exact (hpositive hearmarked.2).le
    · exact le_refl _

end

/-- **Concurrent approvals stay within the capacity**, whatever the interleaving, if every call
that posts on the program does so from a valid measurement. -/
theorem approvals_within_capacity {w : World} {now : Int} {programId : String}
    {pos : ReservePosition} (hpos : positionAt w now programId = .ok pos)
    (hcounts : CountsEarmarks w programId) (requests : String → ApprovalRequest)
    {schedule : List String}
    (hschedule : Lib.Meets Pool.step (PostsMeasured programId) (Pool.start w (approvals requests))
      schedule) :
    becameIssued w ((Pool.start w (approvals requests)).exec schedule).state programId ≤
      pos.mintCapacity.minor := by
  unfold positionAt at hpos
  cases hprogram : w.programs.find? programId with
  | none => simp [hprogram] at hpos
  | some program =>
    simp only [hprogram] at hpos
    obtain ⟨headroom, hheadroom⟩ := exists_headroom w programId program
    have hcapacity := (hheadroom.position _ _ _ hpos).2
    have hstart : ApprovalInv w programId program.referenceCurrency headroom
        (Pool.start w (approvals requests)) fun _ => .unmeasured := by
      have hzero : (earmarkedAmounts w programId fun _ => .unmeasured) = 0 := by
        simp [earmarkedAmounts, Lib.Table.sum]
      refine ⟨.refl w, by rw [hzero, add_zero]; rfl, ?_, by rw [hzero]; omega, ?_, ?_⟩
      · intro i m a h
        cases h
      · intro a _ h
        cases h
      · intro a ha hstatus
        exact .inl ⟨a, Lib.Table.find?_key_of_mem ha, hstatus⟩
    have hobey : (Pool.start w (approvals requests)).Obey (ApprovalMove w) (Frozen w) anyEnd
        fun _ => .unmeasured := fun authId => approve_approves w _ authId _ _
    obtain ⟨ph, hinv, -⟩ : ∃ ph, ApprovalInv w programId program.referenceCurrency headroom
        ((Pool.start w (approvals requests)).exec schedule) ph ∧ _ :=
      Pool.inv_exec (fun p ph h => h.frozen)
        (fun p ph i q eff next φ h _ hpost hi hmove _ =>
          h.step hprogram hcounts hheadroom hpost hi hmove)
        hstart hobey hschedule
    have hissued := hinv.becameIssued_le
    have hbounded := hinv.bounded
    rw [hcapacity, money_minor]
    omega

end

/-! ## Two schedules -/

attribute [local instance] Runtime.ascii

namespace Sample

/-- Two authorizations of an amount, reviewed and not yet approved. -/
def reviewed (amountMinor : String) : World :=
  ((mint "M1" amountMinor).take 2 ++ (mint "M2" amountMinor).take 2).foldl MintOp.step world

/-- Every call is made by the checker. -/
def approvalRequests : String → ApprovalRequest := fun _ => ⟨clock, "bob", "ok"⟩

/-- One call is served after the other; each takes 25 database calls. -/
def oneByOne : List String := List.replicate 25 "M1" ++ List.replicate 25 "M2"

/-- Both calls read, and then both write. -/
def alternating : List String :=
  List.replicate 20 "M1" ++ List.replicate 20 "M2" ++ List.replicate 5 "M1" ++
    List.replicate 5 "M2"

end Sample

theorem oneByOne_capacity :
    (positionAt (Sample.reviewed "50") 0 "P1").toOption.map (·.mintCapacity.minor) = some 100 := by
  decide +kernel

theorem oneByOne_postsMeasured : Lib.Meets Pool.step (PostsMeasured "P1")
    (Pool.start (Sample.reviewed "50") (approvals Sample.approvalRequests)) Sample.oneByOne := by
  decide +kernel

/-- Two approvals of 50, one after the other, stay within the capacity of 100. -/
theorem approvals_within_capacity_oneByOne : becameIssued (Sample.reviewed "50")
    ((Pool.start (Sample.reviewed "50") (approvals Sample.approvalRequests)).exec
      Sample.oneByOne).state "P1" ≤ 100 := by
  obtain ⟨pos, hpos, hcapacity⟩ := toOption_map_eq_some.mp oneByOne_capacity
  rw [← hcapacity]
  refine approvals_within_capacity hpos ?_ Sample.approvalRequests oneByOne_postsMeasured
  intro program hprogram
  cases hprogram
  exact .inl rfl

theorem alternating_capacity :
    (positionAt (Sample.reviewed "100") 0 "P1").toOption.map (·.mintCapacity.minor) = some 100 := by
  decide +kernel

theorem alternating_becameIssued : becameIssued (Sample.reviewed "100")
    ((Pool.start (Sample.reviewed "100") (approvals Sample.approvalRequests)).exec
      Sample.alternating).state "P1" = 200 := by
  decide +kernel

/-- Two approvals that both measure before either posts spend the same capacity twice. -/
theorem approvals_exceed_capacity : ¬∀ [Runtime] (w : World) (now : Int) (programId : String)
    (pos : ReservePosition) (requests : String → ApprovalRequest) (schedule : List String),
    positionAt w now programId = .ok pos →
    becameIssued w ((Pool.start w (approvals requests)).exec schedule).state programId ≤
      pos.mintCapacity.minor := by
  intro h
  obtain ⟨pos, hpos, hcapacity⟩ := toOption_map_eq_some.mp alternating_capacity
  have hle := h (Sample.reviewed "100") 0 "P1" pos Sample.approvalRequests Sample.alternating hpos
  rw [alternating_becameIssued, hcapacity] at hle
  omega

end TrusteeBank
