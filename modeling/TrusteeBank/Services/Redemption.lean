import TrusteeBank.Infra

/-!
# Redemptions

`RedemptionService`: PayChain requests a redemption, a trustee-bank user approves it, PayChain
confirms the burn, the trustee submits the fiat payout and the bank confirms it. Approval moves
the amount from the reserve obligation to the pending-redemption liability, and the confirmed
payout discharges it against cash.

**Theorem (`RedemptionOp.served`).** An operation fails and changes nothing, or it creates one
redemption or takes one a step further, and is logged. Only approval and the payout confirmation
post, one entry each.
-/

set_option autoImplicit false

namespace TrusteeBank

open Lib (Call)
open LedgerAccountCode

section

variable [Runtime]

structure RequestRedemption where
  programId : String
  paychainRedemptionId : String
  amountMinor : String
  beneficiaryName : String
  beneficiaryAccountMasked : String
  correlationId : Option String

/-- `{ id, status }`. -/
structure RedemptionResult where
  id : String
  status : RedemptionStatus
deriving DecidableEq, Repr

/-- `{ id, status, payoutReference }`. -/
structure PayoutSubmission extends RedemptionResult where
  payoutReference : String
deriving DecidableEq, Repr

namespace Redemption

/-- `{ ...r, status: APPROVED, approvedById }`. -/
def asApproved (approverId : String) (r : Redemption) : Redemption :=
  { r with status := .approved, approvedById := some approverId }

/-- `{ ...r, status: BURN_CONFIRMED, burnTxHash, burnConfirmedAt }`. -/
def asBurnConfirmed (burnTxHash : String) (burnConfirmedAt : Int) (r : Redemption) : Redemption :=
  { r with
    status := .burnConfirmed
    burnTxHash := some burnTxHash
    burnConfirmedAt := some burnConfirmedAt }

/-- `{ ...r, status: PAYOUT_SUBMITTED, payoutReference, payoutSubmittedAt }`. -/
def asPayoutSubmitted (payoutReference : String) (payoutSubmittedAt : Int) (r : Redemption) :
    Redemption :=
  { r with
    status := .payoutSubmitted
    payoutReference := some payoutReference
    payoutSubmittedAt := some payoutSubmittedAt }

/-- `{ ...r, status: COMPLETED, payoutConfirmedAt, completedAt }`. -/
def asCompleted (payoutConfirmedAt completedAt : Int) (r : Redemption) : Redemption :=
  { r with
    status := .completed
    payoutConfirmedAt := some payoutConfirmedAt
    completedAt := some completedAt }

omit [Runtime]

theorem asApproved_id (approverId : String) (r : Redemption) :
    (r.asApproved approverId).id = r.id := rfl

theorem asBurnConfirmed_id (burnTxHash : String) (burnConfirmedAt : Int) (r : Redemption) :
    (r.asBurnConfirmed burnTxHash burnConfirmedAt).id = r.id := rfl

theorem asPayoutSubmitted_id (payoutReference : String) (payoutSubmittedAt : Int)
    (r : Redemption) : (r.asPayoutSubmitted payoutReference payoutSubmittedAt).id = r.id := rfl

theorem asCompleted_id (payoutConfirmedAt completedAt : Int) (r : Redemption) :
    (r.asCompleted payoutConfirmedAt completedAt).id = r.id := rfl

end Redemption

namespace RedemptionService

open ReserveLedgerService (post)

def requireRedemption (redemptionId : String) : Service Redemption := do
  let r ← Prisma.redemption.findUnique redemptionId
  orThrow r (.notFound ("Redemption " ++ redemptionId ++ " not found"))

/-! ## Request -/

/-- The row a request stores. -/
def requestedRow (input : RequestRedemption) (id : String) (program : Program) (amountMinor : Int) :
    Redemption where
  id := id
  programId := input.programId
  paychainRedemptionId := input.paychainRedemptionId
  assetId := program.assetId
  amountMinor := amountMinor
  currency := program.referenceCurrency
  beneficiaryName := input.beneficiaryName
  beneficiaryAccountMasked := input.beneficiaryAccountMasked
  correlationId := input.correlationId
  status := .awaitingApproval
  burnTxHash := none
  burnConfirmedAt := none
  approvedById := none
  payoutReference := none
  payoutSubmittedAt := none
  payoutConfirmedAt := none
  completedAt := none

def redemptionConstraints (row : Redemption) (w : World) : Except ApiError Unit := do
  checkTexts ([row.paychainRedemptionId, row.beneficiaryName, row.beneficiaryAccountMasked] ++
    row.correlationId.toList)
  checkInt8 [row.amountMinor]
  checkUnique (w.redemptions.rows.any fun r => r.paychainRedemptionId = row.paychainRedemptionId)

/-- PayChain submits a redemption request. -/
def request (input : RequestRedemption) (id : String) : Service RedemptionResult := do
  let found ← Prisma.program.findUnique input.programId
  let program ← orThrow found (.notFound "Program not found")
  let enabled ← FeatureFlagsService.isEnabled "paychain.redemption.enabled"
  Call.throwIf (enabled = false) (.badRequest "Redemption is disabled")
  let minor ← bigInt input.amountMinor
  let amount := money minor program.referenceCurrency
  Call.throwIf (amount.minor ≤ 0) (.badRequest "Amount must be positive")
  let row := requestedRow input id program amount.minor
  let r ← Prisma.redemption.create (redemptionConstraints row) row
  AuditService.record
    { actor := "paychain:" ++ input.paychainRedemptionId
      action := "redemption.requested"
      subjectType := "REDEMPTION"
      subjectId := some r.id
      correlationId := input.correlationId
      afterState := some (.object [("amountMinor", .string input.amountMinor)]) }
  return { id := r.id, status := r.status }

/-! ## Approval and burn -/

/-- Move the reserve obligation into the pending-redemption liability. -/
def obligationEntry (r : Redemption) (redemptionId approverId : String) :
    Except ApiError JournalEntry :=
  redemptionObligationEntry (money r.amountMinor r.currency)
    { source := "redemption:" ++ redemptionId
      programId := r.programId
      assetId := r.assetId
      actor := approverId
      approvalRef := none
      correlationId := none }

/-- Trustee approves the redemption; recognises the obligation. -/
def approve (redemptionId approverId reason : String) : Service RedemptionResult := do
  let r ← requireRedemption redemptionId
  Call.throwIf (r.status ≠ .awaitingApproval)
    (.badRequest ("Redemption is " ++ EnumName.name r.status ++ ", not awaiting approval"))
  let approver ← Prisma.user.findUnique approverId
  Call.throwIf (approver.all fun u => u.institution ≠ "TRUSTEE_BANK")
    (.badRequest "Approver must be a trustee-bank user")
  let entry ← obligationEntry r redemptionId approverId
  post entry
  let _ ← Prisma.redemption.update unconstrained redemptionId (Redemption.asApproved approverId)
    (Redemption.asApproved_id approverId)
  AuditService.record
    { actor := approverId
      action := "redemption.approved"
      subjectType := "REDEMPTION"
      subjectId := some redemptionId
      reason := some reason }
  EventsService.publish PlatformEvent.redemptionApproved
    (.object [("redemptionId", .string redemptionId), ("programId", .string r.programId)])
    "PAYCHAIN"
  return { id := redemptionId, status := .approved }

/-- PayChain confirms the asset lock or burn. Requires prior approval. -/
def confirmBurn (clock : Clock) (redemptionId burnTxHash actor : String) :
    Service RedemptionResult := do
  let r ← requireRedemption redemptionId
  Call.throwIf (r.status ≠ .approved ∧ r.status ≠ .assetLocked)
    (.badRequest ("Redemption must be APPROVED before burn, is " ++ EnumName.name r.status))
  let _ ← Prisma.redemption.update (textColumns [burnTxHash]) redemptionId
    (Redemption.asBurnConfirmed burnTxHash (clock 0))
    (Redemption.asBurnConfirmed_id burnTxHash (clock 0))
  AuditService.record
    { actor
      action := "redemption.burn.confirmed"
      subjectType := "REDEMPTION"
      subjectId := some redemptionId
      afterState := some (.object [("burnTxHash", .string burnTxHash)]) }
  EventsService.publish PlatformEvent.redemptionBurnConfirmed
    (.object [("redemptionId", .string redemptionId), ("burnTxHash", .string burnTxHash)])
    "PAYCHAIN"
  return { id := redemptionId, status := .burnConfirmed }

/-! ## Payout -/

/-- A new payout reference, from a random UUID. -/
def payoutReferenceOf (uuid : String) : String :=
  "PO-" ++ Runtime.toUpperCase (String.ofList (uuid.toList.take 10))

/-- Trustee submits the fiat payout, only after the burn is confirmed. -/
def submitPayout (clock : Clock) (uuid redemptionId actor : String) :
    Service PayoutSubmission := do
  let r ← requireRedemption redemptionId
  Call.throwIf (r.status ≠ .burnConfirmed)
    (.badRequest ("Cannot pay out before burn is confirmed (is " ++ EnumName.name r.status ++ ")"))
  let enabled ← FeatureFlagsService.isEnabled "bank.payout.enabled"
  Call.throwIf (enabled = false)
    (.badRequest "Payout execution is disabled (bank.payout.enabled)")
  let payoutReference := payoutReferenceOf uuid
  let _ ← Prisma.redemption.update unconstrained redemptionId
    (Redemption.asPayoutSubmitted payoutReference (clock 0))
    (Redemption.asPayoutSubmitted_id payoutReference (clock 0))
  AuditService.record
    { actor
      action := "redemption.payout.submitted"
      subjectType := "REDEMPTION"
      subjectId := some redemptionId
      afterState := some (.object [("payoutReference", .string payoutReference)]) }
  EventsService.publish PlatformEvent.redemptionPayoutSubmitted
    (.object [("redemptionId", .string redemptionId),
      ("payoutReference", .string payoutReference)]) "PAYCHAIN"
  return { id := redemptionId, status := .payoutSubmitted, payoutReference }

/-- Discharge the pending-redemption liability against bank cash. -/
def payoutEntry (r : Redemption) (redemptionId actor : String) : Except ApiError JournalEntry :=
  payoutConfirmedEntry (money r.amountMinor r.currency)
    { source := "redemption-payout:" ++ redemptionId
      programId := r.programId
      assetId := r.assetId
      actor
      approvalRef := none
      correlationId := none }

/-- Bank confirms settlement; discharge the liability and complete. -/
def confirmPayout (clock : Clock) (redemptionId actor : String) : Service RedemptionResult := do
  let r ← requireRedemption redemptionId
  Call.throwIf (r.status ≠ .payoutSubmitted)
    (.badRequest ("Redemption must be PAYOUT_SUBMITTED to confirm, is " ++ EnumName.name r.status))
  let entry ← payoutEntry r redemptionId actor
  post entry
  let _ ← Prisma.redemption.update unconstrained redemptionId
    (Redemption.asCompleted (clock 0) (clock 1)) (Redemption.asCompleted_id (clock 0) (clock 1))
  AuditService.record
    { actor
      action := "redemption.completed"
      subjectType := "REDEMPTION"
      subjectId := some redemptionId }
  EventsService.publish PlatformEvent.redemptionPayoutConfirmed
    (.object [("redemptionId", .string redemptionId)]) "PAYCHAIN"
  EventsService.publish PlatformEvent.redemptionCompleted
    (.object [("redemptionId", .string redemptionId)]) "PAYCHAIN"
  return { id := redemptionId, status := .completed }

end RedemptionService

open RedemptionService

/-! ## Operations -/

inductive RedemptionOp
  | request (input : RequestRedemption) (id : String)
  | approve (redemptionId approverId reason : String)
  | confirmBurn (clock : Clock) (redemptionId burnTxHash actor : String)
  | submitPayout (clock : Clock) (uuid redemptionId actor : String)
  | confirmPayout (clock : Clock) (redemptionId actor : String)

def RedemptionOp.call : RedemptionOp → Service Unit
  | .request input id => (RedemptionService.request input id).void
  | .approve redemptionId approverId reason =>
    (RedemptionService.approve redemptionId approverId reason).void
  | .confirmBurn clock redemptionId burnTxHash actor =>
    (RedemptionService.confirmBurn clock redemptionId burnTxHash actor).void
  | .submitPayout clock uuid redemptionId actor =>
    (RedemptionService.submitPayout clock uuid redemptionId actor).void
  | .confirmPayout clock redemptionId actor =>
    (RedemptionService.confirmPayout clock redemptionId actor).void

/-- Serve one operation alone, whether it succeeds or throws. -/
def RedemptionOp.step (w : World) (op : RedemptionOp) : World := (op.call.run w).2

/-! ## Effects -/

/-- The state with one redemption rewritten. -/
def World.updateRedemption (w : World) (redemptionId : String) (f : Redemption → Redemption)
    (hf : ∀ r, (f r).id = r.id) : World :=
  { w with redemptions := w.redemptions.modify redemptionId f hf }

theorem find?_updateRedemption {w : World} {redemptionId : String} {r : Redemption}
    (hr : w.redemptions.find? redemptionId = some r) (f : Redemption → Redemption)
    (hf : ∀ r, (f r).id = r.id) :
    (w.updateRedemption redemptionId f hf).redemptions.find? redemptionId = some (f r) := by
  show (w.redemptions.modify redemptionId f hf).find? redemptionId = some (f r)
  rw [Lib.Table.find?_modify, if_pos rfl, hr, Option.map_some]

/-- What an operation did to the redemptions and the ledger. -/
inductive RedemptionEffect (w : World) : RedemptionOp → World → Prop
  | requested {input : RequestRedemption} {id : String} {program : Program} {minor : Int}
      {t : Lib.Table Redemption.id}
      (hprogram : w.programs.find? input.programId = some program) (hpositive : 0 < minor)
      (ht : w.redemptions.insert? (requestedRow input id program minor) = some t) :
      RedemptionEffect w (.request input id) { w with redemptions := t }
  | approved {redemptionId approverId reason : String} {r : Redemption} {e : JournalEntry}
      (hr : w.redemptions.find? redemptionId = some r) (hstatus : r.status = .awaitingApproval)
      (he : IsMove (Runtime.toUpperCase r.currency) liabilityPaychainReserveObligation
        liabilityPendingRedemption r.amountMinor e.references e)
      (hprogram : e.references.programId = r.programId)
      (hsource : e.references.source = "redemption:" ++ redemptionId) :
      RedemptionEffect w (.approve redemptionId approverId reason)
        ((w.posted e).updateRedemption redemptionId (Redemption.asApproved approverId)
          (Redemption.asApproved_id approverId))
  | burnConfirmed {clock : Clock} {redemptionId burnTxHash actor : String} {r : Redemption}
      (hr : w.redemptions.find? redemptionId = some r)
      (hstatus : r.status = .approved ∨ r.status = .assetLocked) :
      RedemptionEffect w (.confirmBurn clock redemptionId burnTxHash actor)
        (w.updateRedemption redemptionId (Redemption.asBurnConfirmed burnTxHash (clock 0))
          (Redemption.asBurnConfirmed_id burnTxHash (clock 0)))
  | payoutSubmitted {clock : Clock} {uuid redemptionId actor : String} {r : Redemption}
      (hr : w.redemptions.find? redemptionId = some r) (hstatus : r.status = .burnConfirmed) :
      RedemptionEffect w (.submitPayout clock uuid redemptionId actor)
        (w.updateRedemption redemptionId
          (Redemption.asPayoutSubmitted (payoutReferenceOf uuid) (clock 0))
          (Redemption.asPayoutSubmitted_id (payoutReferenceOf uuid) (clock 0)))
  | completed {clock : Clock} {redemptionId actor : String} {r : Redemption} {e : JournalEntry}
      (hr : w.redemptions.find? redemptionId = some r) (hstatus : r.status = .payoutSubmitted)
      (he : IsMove (Runtime.toUpperCase r.currency) liabilityPendingRedemption
        assetTrusteeBankCash r.amountMinor e.references e)
      (hprogram : e.references.programId = r.programId)
      (hsource : e.references.source = "redemption-payout:" ++ redemptionId) :
      RedemptionEffect w (.confirmPayout clock redemptionId actor)
        ((w.posted e).updateRedemption redemptionId (Redemption.asCompleted (clock 0) (clock 1))
          (Redemption.asCompleted_id (clock 0) (clock 1)))

theorem run_requireRedemption (redemptionId : String) (w : World) :
    (requireRedemption redemptionId).run w =
      (orThrow (w.redemptions.find? redemptionId)
        (.notFound ("Redemption " ++ redemptionId ++ " not found")), w) := rfl

theorem run_updateRedemption {w : World} {redemptionId : String} {r : Redemption}
    (hr : w.redemptions.find? redemptionId = some r) {f : Redemption → Redemption}
    {hf : ∀ r, (f r).id = r.id} : (Prisma.redemption.update unconstrained redemptionId f hf).run w =
      (.ok (f r), w.updateRedemption redemptionId f hf) :=
  Entity.run_update_of Prisma.redemption hr rfl

theorem Served.requireRedemption_bind {β : Type} {effect : World → Prop} {w : World}
    {redemptionId : String} {f : Redemption → Service β}
    (h : ∀ r, w.redemptions.find? redemptionId = some r → Served effect w ((f r).run w)) :
    Served effect w ((requireRedemption redemptionId >>= f).run w) :=
  .look_bind (run_requireRedemption redemptionId w) fun r hr => h r (orThrow_eq_ok.mp hr)

theorem request_served (w : World) (input : RequestRedemption) (id : String) :
    Served (RedemptionEffect w (.request input id)) w ((request input id).run w) := by
  unfold request
  refine .find_bind Prisma.program fun program hprogram => ?_
  refine .look_bind (run_isEnabled _ w) fun paused _ => ?_
  refine .throwIf_bind fun _ => ?_
  refine .lift_bind fun minor _ => ?_
  refine .throwIf_bind fun hpositive => ?_
  refine .create_bind Prisma.redemption fun t ht => ?_
  exact .logs (.requested hprogram (not_le.mp hpositive) ht) (.record_bind (logs_pure _))

theorem approve_served (w : World) (redemptionId approverId reason : String) :
    Served (RedemptionEffect w (.approve redemptionId approverId reason)) w
      ((approve redemptionId approverId reason).run w) := by
  unfold approve
  refine .requireRedemption_bind fun r hr => ?_
  refine .throwIf_bind fun hstatus => ?_
  refine .look_bind (Entity.run_findUnique _ _ w) fun _ _ => ?_
  refine .throwIf_bind fun _ => ?_
  refine .lift_bind fun e he => ?_
  obtain ⟨-, hmove⟩ := buildJournalEntry_move he
  have hrefs := hmove.entry_references
  refine .post_bind e fun _ => ?_
  rw [Call.run_bind, run_updateRedemption (w := w.posted e) hr]
  exact .logs (.approved hr (not_not.mp hstatus) (hrefs ▸ hmove) (by rw [hrefs])
    (by rw [hrefs])) (.record_bind (.event_bind (logs_pure _)))

theorem confirmBurn_served (w : World) (clock : Clock) (redemptionId burnTxHash actor : String) :
    Served (RedemptionEffect w (.confirmBurn clock redemptionId burnTxHash actor)) w
      ((confirmBurn clock redemptionId burnTxHash actor).run w) := by
  unfold confirmBurn
  refine .requireRedemption_bind fun r hr => ?_
  refine .throwIf_bind fun hstatus => ?_
  refine .checked_update_bind Prisma.redemption hr fun _ => ?_
  exact .logs (.burnConfirmed hr (by tauto)) (.record_bind (.event_bind (logs_pure _)))

theorem submitPayout_served (w : World) (clock : Clock) (uuid redemptionId actor : String) :
    Served (RedemptionEffect w (.submitPayout clock uuid redemptionId actor)) w
      ((submitPayout clock uuid redemptionId actor).run w) := by
  unfold submitPayout
  refine .requireRedemption_bind fun r hr => ?_
  refine .throwIf_bind fun hstatus => ?_
  refine .look_bind (run_isEnabled _ w) fun paused _ => ?_
  refine .throwIf_bind fun _ => ?_
  rw [Call.run_bind, run_updateRedemption hr]
  exact .logs (.payoutSubmitted hr (not_not.mp hstatus))
    (.record_bind (.event_bind (logs_pure _)))

theorem confirmPayout_served (w : World) (clock : Clock) (redemptionId actor : String) :
    Served (RedemptionEffect w (.confirmPayout clock redemptionId actor)) w
      ((confirmPayout clock redemptionId actor).run w) := by
  unfold confirmPayout
  refine .requireRedemption_bind fun r hr => ?_
  refine .throwIf_bind fun hstatus => ?_
  refine .lift_bind fun e he => ?_
  obtain ⟨-, hmove⟩ := buildJournalEntry_move he
  have hrefs := hmove.entry_references
  refine .post_bind e fun _ => ?_
  rw [Call.run_bind, run_updateRedemption (w := w.posted e) hr]
  exact .logs (.completed hr (not_not.mp hstatus) (hrefs ▸ hmove) (by rw [hrefs])
    (by rw [hrefs])) (.record_bind (.event_bind (.event_bind (logs_pure _))))

/-- **Every operation fails, or has an effect in the list.** -/
theorem RedemptionOp.served (w : World) (op : RedemptionOp) :
    Served (RedemptionEffect w op) w (op.call.run w) := by
  cases op with
  | request input id => exact (request_served w input id).void
  | approve redemptionId approverId reason =>
    exact (approve_served w redemptionId approverId reason).void
  | confirmBurn clock redemptionId burnTxHash actor =>
    exact (confirmBurn_served w clock redemptionId burnTxHash actor).void
  | submitPayout clock uuid redemptionId actor =>
    exact (submitPayout_served w clock uuid redemptionId actor).void
  | confirmPayout clock redemptionId actor =>
    exact (confirmPayout_served w clock redemptionId actor).void

theorem requireRedemption_keeps {τ : Type} {g : World → τ} (redemptionId : String) :
    (requireRedemption redemptionId).Keeps g :=
  (Call.keeps_read _ _ _).bind fun _ => Call.keeps_lift _ _

end

end TrusteeBank
