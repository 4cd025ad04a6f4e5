import TrusteeBank.Platform.Operations
import TrusteeBank.Services.Attestations

/-!
# What a request leaves alone

The three workflows with a maker and a checker keep their records in the mint authorizations and
their approvals, in the settlements and in the attestations, and the audit trail has who submitted
an attestation. Here is, for every operation of the other services, that no step of it touches
these records, and for every operation of a workflow, that none touches the records of the others.

* `deposit_keeps`, `ingest_keeps`, `redemption_keeps`, `order_keeps`, `fund_keeps`,
  `loyalty_keeps`: the other services;
* `mint_keeps`, `settlement_keeps`: the workflows.
-/

set_option autoImplicit false

namespace TrusteeBank

open Lib (Call)
open ReserveLedgerService

/-! ## The records of the workflows -/

section

variable [Runtime]

/-- The action of the rows that name who submitted an attestation. -/
def submissionAction : String := "attestation.under_review"

def submissionRows (w : World) : List AuditLog :=
  w.auditLog.filter fun row => row.action = submissionAction

def mintView (w : World) : Lib.Table MintAuthorization.id × Lib.Table Approval.id :=
  (w.mintAuthorizations, w.approvals)

def attestationView (w : World) : Lib.Table Attestation.id × List AuditLog :=
  (w.attestations, submissionRows w)

/-- The records of settlements and attestations. -/
def recordView (w : World) : Lib.Table PaykhSettlement.id × Lib.Table Attestation.id ×
    List AuditLog :=
  (w.paykhSettlements, attestationView w)

/-- The records of all three workflows. -/
def workflowView (w : World) : (Lib.Table MintAuthorization.id × Lib.Table Approval.id) ×
    Lib.Table PaykhSettlement.id × Lib.Table Attestation.id × List AuditLog :=
  (mintView w, recordView w)

/-- All records but the settlements. -/
def unsettledView (w : World) : (Lib.Table MintAuthorization.id × Lib.Table Approval.id) ×
    Lib.Table Attestation.id × List AuditLog :=
  (mintView w, attestationView w)

theorem submissionRows_logged (w : World) (rows : List AuditLog) (events : List OutboxEvent) :
    submissionRows (w.logged rows events) =
      submissionRows w ++ rows.filter fun row => row.action = submissionAction := by
  simp [submissionRows, World.logged]

theorem workflowView_quiet {row : AuditLog} (h : row.action ≠ submissionAction) (w : World) :
    workflowView (w.logged [row] []) = workflowView w := by
  have hsubmissions := submissionRows_logged w [row] []
  rw [List.filter_singleton, decide_eq_false h, cond_false, List.append_nil] at hsubmissions
  simp only [workflowView, recordView, attestationView, hsubmissions]
  rfl

theorem workflowView_event (event : OutboxEvent) (w : World) :
    workflowView (w.logged [] [event]) = workflowView w := by
  simp only [workflowView, recordView, attestationView, submissionRows_logged, List.filter_nil,
    List.append_nil]
  rfl

/-- A record of another action changes no view of these records. -/
theorem quiet_record {τ : Type} (p : (Lib.Table MintAuthorization.id × Lib.Table Approval.id) ×
    Lib.Table PaykhSettlement.id × Lib.Table Attestation.id × List AuditLog → τ)
    {entry : AuditRecord} (h : entry.action ≠ submissionAction) :
    (AuditService.record entry).Keeps fun w => p (workflowView w) :=
  keeps_record fun w => congrArg p (workflowView_quiet h w)

theorem quiet_event {τ : Type} (p : (Lib.Table MintAuthorization.id × Lib.Table Approval.id) ×
    Lib.Table PaykhSettlement.id × Lib.Table Attestation.id × List AuditLog → τ)
    (event : OutboxEvent) : (outboxCreate event).Keeps fun w => p (workflowView w) :=
  keeps_outboxCreate fun w => congrArg p (workflowView_event event w)

theorem record_keeps {entry : AuditRecord} (h : entry.action ≠ submissionAction) :
    (AuditService.record entry).Keeps workflowView := quiet_record id h

theorem event_keeps (event : OutboxEvent) : (outboxCreate event).Keeps workflowView :=
  quiet_event id event

/-! ## The other services -/

theorem deposit_keeps (op : DepositOp) : op.call.Keeps workflowView := by
  cases op with
  | register input id =>
    refine Call.Keeps.bind ?_ fun _ => trivial
    unfold DepositsService.register
    refine (Call.keeps_read _ _ _).bind fun found => (Call.keeps_lift _ _).bind fun account => ?_
    refine (Call.keeps_lift _ _).bind fun minor => (Call.keeps_lift _ _).bind fun date => ?_
    refine (Prisma.deposit.keeps_create (fun _ _ => rfl) _ _).bind fun deposit => ?_
    refine (Call.keeps_lift _ _).bind fun entry => (keeps_post fun _ => rfl).bind fun _ => ?_
    refine Call.Keeps.bind (record_keeps (by simp [submissionAction])) fun _ => ?_
    exact (event_keeps _).bind fun _ => Call.keeps_pure _ _
  | «match» depositId fundingInstructionId actor =>
    refine Call.Keeps.bind ?_ fun _ => trivial
    unfold DepositsService.match
    refine (requireDeposit_keeps _).bind fun deposit => ?_
    refine (Call.keeps_throwIf _ _ _).bind fun _ => (Call.keeps_read _ _ _).bind fun found => ?_
    refine (Call.keeps_lift _ _).bind fun fi => (Call.keeps_throwIf _ _ _).bind fun _ => ?_
    refine (Call.keeps_throwIf _ _ _).bind fun _ => ?_
    refine (Prisma.deposit.keeps_update (fun _ _ => rfl) _ _ _ _).bind fun updated => ?_
    refine Call.Keeps.bind (record_keeps (by simp [submissionAction])) fun _ => ?_
    exact (event_keeps _).bind fun _ => Call.keeps_pure _ _
  | clear clock depositId actor =>
    refine Call.Keeps.bind ?_ fun _ => trivial
    unfold DepositsService.clear
    refine (requireDeposit_keeps _).bind fun deposit => ?_
    refine (Call.keeps_throwIf _ _ _).bind fun _ => (Call.keeps_read _ _ _).bind fun found => ?_
    refine (Call.keeps_lift _ _).bind fun account => (Call.keeps_lift _ _).bind fun entry => ?_
    refine (keeps_post fun _ => rfl).bind fun _ => ?_
    refine (Prisma.deposit.keeps_update (fun _ _ => rfl) _ _ _ _).bind fun updated => ?_
    refine Call.Keeps.bind (record_keeps (by simp [submissionAction])) fun _ => ?_
    exact (event_keeps _).bind fun _ => Call.keeps_pure _ _

theorem ingest_keeps (op : IngestOp) : op.call.Keeps workflowView := by
  refine Call.Keeps.bind ?_ fun _ => trivial
  unfold LiabilityService.ingest
  refine (Call.keeps_lift _ _).bind fun sequence => (Call.keeps_read _ _ _).bind fun latest => ?_
  refine (Call.keeps_lift _ _).bind fun _ => (verify_keeps _).bind fun verified => ?_
  refine (Call.keeps_lift _ _).bind fun row => ?_
  exact (Prisma.liabilitySnapshot.keeps_create (fun _ _ => rfl) _ _).bind fun _ =>
    Call.keeps_pure _ _

theorem redemption_keeps (op : RedemptionOp) : op.call.Keeps workflowView := by
  have hupdate (check : World → Redemption → Except ApiError Unit) (id : String)
      (f : Redemption → Redemption) (hf : ∀ r, (f r).id = r.id) :
      (Prisma.redemption.update check id f hf).Keeps workflowView :=
    Prisma.redemption.keeps_update (fun _ _ => rfl) _ _ _ _
  cases op with
  | request input id =>
    refine Call.Keeps.bind ?_ fun _ => trivial
    unfold RedemptionService.request
    refine (Call.keeps_read _ _ _).bind fun found => (Call.keeps_lift _ _).bind fun program => ?_
    refine (Call.keeps_read _ _ _).bind fun enabled => (Call.keeps_throwIf _ _ _).bind fun _ => ?_
    refine (Call.keeps_lift _ _).bind fun minor => (Call.keeps_throwIf _ _ _).bind fun _ => ?_
    refine (Prisma.redemption.keeps_create (fun _ _ => rfl) _ _).bind fun r => ?_
    exact Call.Keeps.bind (record_keeps (by simp [submissionAction])) fun _ => Call.keeps_pure _ _
  | approve redemptionId approverId reason =>
    refine Call.Keeps.bind ?_ fun _ => trivial
    unfold RedemptionService.approve
    refine (requireRedemption_keeps _).bind fun r => ?_
    refine (Call.keeps_throwIf _ _ _).bind fun _ => (Call.keeps_read _ _ _).bind fun approver => ?_
    refine (Call.keeps_throwIf _ _ _).bind fun _ => (Call.keeps_lift _ _).bind fun entry => ?_
    refine (keeps_post fun _ => rfl).bind fun _ => (hupdate _ _ _ _).bind fun _ => ?_
    refine Call.Keeps.bind (record_keeps (by simp [submissionAction])) fun _ => ?_
    exact (event_keeps _).bind fun _ => Call.keeps_pure _ _
  | confirmBurn clock redemptionId burnTxHash actor =>
    refine Call.Keeps.bind ?_ fun _ => trivial
    unfold RedemptionService.confirmBurn
    refine (requireRedemption_keeps _).bind fun r => ?_
    refine (Call.keeps_throwIf _ _ _).bind fun _ => (hupdate _ _ _ _).bind fun _ => ?_
    refine Call.Keeps.bind (record_keeps (by simp [submissionAction])) fun _ => ?_
    exact (event_keeps _).bind fun _ => Call.keeps_pure _ _
  | submitPayout clock uuid redemptionId actor =>
    refine Call.Keeps.bind ?_ fun _ => trivial
    unfold RedemptionService.submitPayout
    refine (requireRedemption_keeps _).bind fun r => ?_
    refine (Call.keeps_throwIf _ _ _).bind fun _ => (Call.keeps_read _ _ _).bind fun enabled => ?_
    refine (Call.keeps_throwIf _ _ _).bind fun _ => (hupdate _ _ _ _).bind fun _ => ?_
    refine Call.Keeps.bind (record_keeps (by simp [submissionAction])) fun _ => ?_
    exact (event_keeps _).bind fun _ => Call.keeps_pure _ _
  | confirmPayout clock redemptionId actor =>
    refine Call.Keeps.bind ?_ fun _ => trivial
    unfold RedemptionService.confirmPayout
    refine (requireRedemption_keeps _).bind fun r => ?_
    refine (Call.keeps_throwIf _ _ _).bind fun _ => (Call.keeps_lift _ _).bind fun entry => ?_
    refine (keeps_post fun _ => rfl).bind fun _ => (hupdate _ _ _ _).bind fun _ => ?_
    refine Call.Keeps.bind (record_keeps (by simp [submissionAction])) fun _ => ?_
    exact (event_keeps _).bind fun _ => (event_keeps _).bind fun _ => Call.keeps_pure _ _

theorem order_keeps (op : PaymentOp) : op.call.Keeps workflowView := by
  have hupdate (check : World → PaykhPaymentOrder → Except ApiError Unit) (id : String)
      (f : PaykhPaymentOrder → PaykhPaymentOrder) (hf : ∀ o, (f o).id = o.id) :
      (Prisma.paykhPaymentOrder.update check id f hf).Keeps workflowView :=
    Prisma.paykhPaymentOrder.keeps_update (fun _ _ => rfl) _ _ _ _
  cases op with
  | create clock input id uuid =>
    refine Call.Keeps.bind ?_ fun _ => trivial
    unfold PaymentOrdersService.create
    refine (Call.keeps_read _ _ _).bind fun found => (Call.keeps_lift _ _).bind fun profile => ?_
    refine (Call.keeps_throwIf _ _ _).bind fun _ => (Call.keeps_throwIf _ _ _).bind fun _ => ?_
    refine (Call.keeps_lift _ _).bind fun amountMinor => ?_
    refine (Call.keeps_lift _ _).bind fun expires => ?_
    refine (Prisma.paykhPaymentOrder.keeps_create (fun _ _ => rfl) _ _).bind fun order => ?_
    exact Call.Keeps.bind (record_keeps (by simp [submissionAction])) fun _ => Call.keeps_pure _ _
  | checkPayment clock orderId input =>
    refine Call.Keeps.bind ?_ fun _ => trivial
    unfold PaymentOrdersService.checkPayment
    refine (requireOrder_keeps _).bind fun order => ?_
    split_ifs
    · exact (Call.keeps_throwIf _ _ _).bind fun _ => Call.keeps_pure _ _
    refine (Call.keeps_throwIf _ _ _).bind fun _ => ?_
    unfold PaymentOrdersService.applyPayment
    refine (refuseExpired_keeps (fun _ _ => rfl) _ _).bind fun _ => ?_
    refine (Call.keeps_lift _ _).bind fun _ => (Call.keeps_read _ _ _).bind fun priorUse => ?_
    refine (refuseDuplicate_keeps event_keeps _ _ _).bind fun _ => ?_
    refine (Call.keeps_lift _ _).bind fun amountMinor => ?_
    refine (Call.keeps_read _ _ _).bind fun profile => ?_
    refine (refuseMismatches_keeps event_keeps _ _).bind fun _ => ?_
    refine (Call.keeps_lift _ _).bind fun entry => (keeps_post fun _ => rfl).bind fun _ => ?_
    refine (hupdate _ _ _ _).bind fun updated => ?_
    refine Call.Keeps.bind (record_keeps (by simp [submissionAction])) fun _ => ?_
    exact (event_keeps _).bind fun _ => Call.keeps_pure _ _
  | refund orderId actor reason =>
    refine Call.Keeps.bind ?_ fun _ => trivial
    unfold PaymentOrdersService.refund
    refine (requireOrder_keeps _).bind fun order => ?_
    refine (Call.keeps_throwIf _ _ _).bind fun _ => (Call.keeps_lift _ _).bind fun entry => ?_
    refine (keeps_post fun _ => rfl).bind fun _ => (hupdate _ _ _ _).bind fun updated => ?_
    refine Call.Keeps.bind (record_keeps (by simp [submissionAction])) fun _ => ?_
    exact (event_keeps _).bind fun _ => Call.keeps_pure _ _
  | cancel orderId actor =>
    refine Call.Keeps.bind ?_ fun _ => trivial
    unfold PaymentOrdersService.cancel
    refine (requireOrder_keeps _).bind fun order => ?_
    refine (Call.keeps_throwIf _ _ _).bind fun _ => (hupdate _ _ _ _).bind fun updated => ?_
    exact Call.Keeps.bind (record_keeps (by simp [submissionAction])) fun _ => Call.keeps_pure _ _

theorem fund_keeps (op : FundOp) : op.call.Keeps workflowView := by
  have hupdate (check : World → PaykhProgramFund → Except ApiError Unit) (id : String)
      (f : PaykhProgramFund → PaykhProgramFund) (hf : ∀ r, (f r).id = r.id) :
      (Prisma.paykhProgramFund.update check id f hf).Keeps workflowView :=
    Prisma.paykhProgramFund.keeps_update (fun _ _ => rfl) _ _ _ _
  cases op with
  | create input id =>
    refine Call.Keeps.bind ?_ fun _ => trivial
    unfold ProgramFundsService.create
    refine (Prisma.paykhProgramFund.keeps_create (fun _ _ => rfl) _ _).bind fun fund => ?_
    exact Call.Keeps.bind (record_keeps (by simp [submissionAction])) fun _ => Call.keeps_pure _ _
  | fund fundId amountMinor actor =>
    refine Call.Keeps.bind ?_ fun _ => trivial
    unfold ProgramFundsService.fund
    refine (requireFund_keeps _).bind fun fund => ?_
    refine (Call.keeps_lift _ _).bind fun minor => (Call.keeps_throwIf _ _ _).bind fun _ => ?_
    refine (Call.keeps_lift _ _).bind fun required => ?_
    refine (safeguard_keeps (fun _ => keeps_post fun _ => rfl) _ _).bind fun _ => ?_
    refine (hupdate _ _ _ _).bind fun updated => ?_
    exact (event_keeps _).bind fun _ => Call.keeps_pure _ _
  | reserve fundId amountMinor actor =>
    refine Call.Keeps.bind ?_ fun _ => trivial
    unfold ProgramFundsService.reserve
    refine (requireFund_keeps _).bind fun fund => ?_
    refine (Call.keeps_lift _ _).bind fun amount => (Call.keeps_throwIf _ _ _).bind fun _ => ?_
    refine (hupdate _ _ _ _).bind fun updated => ?_
    refine Call.Keeps.bind (record_keeps (by simp [submissionAction])) fun _ => ?_
    exact (announceExhausted_keeps event_keeps _ _).bind fun _ => Call.keeps_pure _ _
  | release fundId amountMinor actor =>
    refine Call.Keeps.bind ?_ fun _ => trivial
    unfold ProgramFundsService.release
    refine (requireFund_keeps _).bind fun fund => ?_
    refine (Call.keeps_lift _ _).bind fun amount => (Call.keeps_throwIf _ _ _).bind fun _ => ?_
    refine (hupdate _ _ _ _).bind fun updated => ?_
    exact Call.Keeps.bind (record_keeps (by simp [submissionAction])) fun _ => Call.keeps_pure _ _

theorem loyalty_keeps (op : LoyaltyOp) : op.call.Keeps workflowView := by
  cases op with
  | bind input id =>
    refine Call.Keeps.bind ?_ fun _ => trivial
    unfold LoyaltyService.bind
    refine (Call.keeps_read _ _ _).bind fun found => (Call.keeps_lift _ _).bind fun fund => ?_
    refine (Call.keeps_lift _ _).bind fun required => (Call.keeps_throwIf _ _ _).bind fun _ => ?_
    refine (Call.keeps_read _ _ _).bind fun existing => (Call.keeps_throwIf _ _ _).bind fun _ => ?_
    refine (Call.keeps_lift _ _).bind fun denominationMinor => ?_
    refine (Call.keeps_throwIf _ _ _).bind fun _ => ?_
    refine (Prisma.paykhLoyaltyLiability.keeps_create (fun _ _ => rfl) _ _).bind fun liability => ?_
    exact Call.Keeps.bind (record_keeps (by simp [submissionAction])) fun _ => Call.keeps_pure _ _
  | issue gateway uuid id input =>
    refine Call.Keeps.bind ?_ fun _ => trivial
    unfold LoyaltyService.issue
    refine (keeps_requireEnabled _).bind fun _ => ?_
    refine (requireLiability_keeps _).bind fun liability => ?_
    refine (Call.keeps_read _ _ _).bind fun found => (Call.keeps_lift _ _).bind fun fund => ?_
    refine (Call.keeps_lift _ _).bind fun amount => (Call.keeps_throwIf _ _ _).bind fun _ => ?_
    refine (Call.keeps_throwIf _ _ _).bind fun _ => (Call.keeps_lift _ _).bind fun entry => ?_
    refine (keeps_post fun _ => rfl).bind fun _ => (Call.keeps_lift _ _).bind fun chain => ?_
    refine Call.Keeps.bind (Call.keeps_query fun w row w' h => ?_) fun issuance => ?_
    · obtain ⟨-, t, rfl⟩ := issueTx_ok h
      rfl
    refine Call.Keeps.bind (record_keeps (by simp [submissionAction])) fun _ => ?_
    exact (event_keeps _).bind fun _ => Call.keeps_pure _ _
  | redeem gateway clock uuid id input =>
    refine Call.Keeps.bind ?_ fun _ => trivial
    unfold LoyaltyService.redeem
    refine (keeps_requireEnabled _).bind fun _ => (requireActive_keeps _).bind fun _ => ?_
    refine (requireLiability_keeps _).bind fun liability => ?_
    refine (Call.keeps_lift _ _).bind fun amount => (Call.keeps_throwIf _ _ _).bind fun _ => ?_
    refine (Call.keeps_throwIf _ _ _).bind fun _ => (Call.keeps_lift _ _).bind fun entry => ?_
    refine (keeps_post fun _ => rfl).bind fun _ => (Call.keeps_lift _ _).bind fun chain => ?_
    refine Call.Keeps.bind (Call.keeps_query fun w row w' h => ?_) fun redemption => ?_
    · obtain ⟨-, t, rfl⟩ := redeemTx_ok h
      rfl
    refine Call.Keeps.bind (record_keeps (by simp [submissionAction])) fun _ => ?_
    exact (event_keeps _).bind fun _ => Call.keeps_pure _ _
  | reconcile gateway clock liabilityId =>
    refine Call.Keeps.bind ?_ fun _ => trivial
    unfold LoyaltyService.reconcile
    refine (requireLiability_keeps _).bind fun liability => ?_
    refine (Call.keeps_read _ _ _).bind fun fund => ?_
    refine (keeps_accountBalance _ _ _).bind fun outstanding => ?_
    refine (Call.keeps_lift _ _).bind fun supply => ?_
    refine (Prisma.paykhLoyaltyLiability.keeps_update (fun _ _ => rfl) _ _ _ _).bind fun _ => ?_
    exact (event_keeps _).bind fun _ => Call.keeps_pure _ _

/-! ## The workflows -/

/-- No step of the mint workflow touches the records of settlements and attestations. -/
theorem mint_keeps (op : MintOp) : op.call.Keeps recordView := by
  have hrecord {entry : AuditRecord} (h : entry.action ≠ submissionAction) :
      (AuditService.record entry).Keeps recordView := quiet_record Prod.snd h
  have hevent (event : OutboxEvent) : (outboxCreate event).Keeps recordView :=
    quiet_event Prod.snd event
  have hpost (entry : JournalEntry) : (post entry).Keeps recordView := keeps_post fun _ => rfl
  have hstatus (authId : String) (status : MintAuthorizationStatus) :
      (MintService.setStatus authId status).Keeps recordView := setStatus_keeps (fun _ _ => rfl) _ _
  have hdecision (approvalId checkerId : String) (actedAt : Int) (decision : ApprovalDecision)
      (reason : String) :
      (MintService.recordDecision approvalId checkerId actedAt decision reason).Keeps recordView :=
    recordDecision_keeps (fun _ _ => rfl) _ _ _ _ _
  have hexpire (authId actor : String) : (MintService.expire authId actor).Keeps recordView :=
    expire_keeps (fun _ _ => rfl) hpost hevent _ _
  cases op with
  | request input id nonce =>
    refine Call.Keeps.bind ?_ fun _ => trivial
    unfold MintService.request
    refine (Call.keeps_read _ _ _).bind fun found => (Call.keeps_lift _ _).bind fun program => ?_
    refine (Call.keeps_lift _ _).bind fun minor => (Call.keeps_throwIf _ _ _).bind fun _ => ?_
    refine (Prisma.mintAuthorization.keeps_create (fun _ _ => rfl) _ _).bind fun auth => ?_
    exact Call.Keeps.bind (hrecord (by simp [submissionAction])) fun _ => Call.keeps_pure _ _
  | review authId makerId approvalId =>
    refine Call.Keeps.bind ?_ fun _ => trivial
    unfold MintService.review
    refine (requireAuthWithApproval_keeps _).bind fun auth => ?_
    refine (Call.keeps_throwIf _ _ _).bind fun _ => ?_
    refine (Call.keeps_read _ _ _).bind fun maker => (Call.keeps_throwIf _ _ _).bind fun _ => ?_
    refine Call.Keeps.bind (Call.keeps_query fun w a w' h => ?_) fun _ => ?_
    · obtain ⟨t, -, rfl⟩ := reviewTx_ok h
      rfl
    · exact Call.Keeps.bind (hrecord (by simp [submissionAction])) fun _ => Call.keeps_pure _ _
  | approve clock authId checkerId reason =>
    refine Call.Keeps.bind ?_ fun _ => trivial
    unfold MintService.approve
    refine (requireAuthWithApproval_keeps _).bind fun auth => ?_
    refine (Call.keeps_throwIf _ _ _).bind fun _ => ?_
    refine (Call.keeps_lift _ _).bind fun approval => (Call.keeps_read _ _ _).bind fun checker => ?_
    refine (Call.keeps_lift _ _).bind fun _ => (gatherGuardFacts_keeps _ _ _ _).bind fun facts => ?_
    refine (Call.keeps_lift _ _).bind fun decision => ?_
    split_ifs
    · unfold MintService.issue
      refine (Call.keeps_lift _ _).bind fun expiresIso => ?_
      refine (Call.keeps_lift _ _).bind fun expiresAt => (Call.keeps_lift _ _).bind fun entry => ?_
      refine (keeps_post fun _ => rfl).bind fun _ => ?_
      refine (Prisma.mintAuthorization.keeps_update (fun _ _ => rfl) _ _ _ _).bind fun _ => ?_
      refine (hdecision _ _ _ _ _).bind fun _ => ?_
      refine Call.Keeps.bind (hrecord (by simp [submissionAction])) fun _ => ?_
      exact (hevent _).bind fun _ => Call.keeps_pure _ _
    · unfold MintService.block
      refine (hstatus _ _).bind fun _ => (hdecision _ _ _ _ _).bind fun _ => ?_
      exact (hevent _).bind fun _ => Call.keeps_throw _ _
  | reject clock authId checkerId reason =>
    refine Call.Keeps.bind ?_ fun _ => trivial
    unfold MintService.reject
    refine (requireAuthWithApproval_keeps _).bind fun auth => ?_
    refine (Call.keeps_lift _ _).bind fun approval => ?_
    refine (hstatus _ _).bind fun _ => (hdecision _ _ _ _ _).bind fun _ => ?_
    exact (hevent _).bind fun _ => Call.keeps_pure _ _
  | revoke authId actor reason =>
    refine Call.Keeps.bind ?_ fun _ => trivial
    unfold MintService.revoke
    refine (requireAuth_keeps _).bind fun auth => (Call.keeps_throwIf _ _ _).bind fun _ => ?_
    refine (release_keeps hpost _ _ _).bind fun _ => (hstatus _ _).bind fun _ => ?_
    exact Call.Keeps.bind (hrecord (by simp [submissionAction])) fun _ => Call.keeps_pure _ _
  | confirm clock authId input =>
    refine Call.Keeps.bind ?_ fun _ => trivial
    unfold MintService.confirm
    refine (requireAuth_keeps _).bind fun auth => (Call.keeps_throwIf _ _ _).bind fun _ => ?_
    split_ifs
    · exact (hexpire _ _).bind fun _ => Call.keeps_throw _ _
    · refine (Call.keeps_lift _ _).bind fun amount => (Call.keeps_throwIf _ _ _).bind fun _ => ?_
      refine (release_keeps hpost _ _ _).bind fun _ => ?_
      refine (createConfirmation_keeps (fun _ _ => rfl) _ _ _).bind fun _ => ?_
      refine (hstatus _ _).bind fun _ => ?_
      refine Call.Keeps.bind (hrecord (by simp [submissionAction])) fun _ => ?_
      exact (hevent _).bind fun _ => Call.keeps_pure _ _
  | expire authId actor => exact (hexpire authId actor).bind fun _ => trivial

/-- No step of a settlement touches the records of the other two workflows. -/
theorem settlement_keeps (op : SettlementOp) : op.call.Keeps unsettledView := by
  have hrecord {entry : AuditRecord} (h : entry.action ≠ submissionAction) :
      (AuditService.record entry).Keeps unsettledView :=
    quiet_record (fun v => (v.1, v.2.2)) h
  have hmaker (actor settlementId : String) :
      (auditCreate (SettlementsService.makerRow actor settlementId)).Keeps unsettledView :=
    keeps_auditCreate fun w => congrArg (fun v => (v.1, v.2.2))
      (workflowView_quiet (by simp [SettlementsService.makerRow, submissionAction]) w)
  have hevent (event : OutboxEvent) : (outboxCreate event).Keeps unsettledView :=
    quiet_event (fun v => (v.1, v.2.2)) event
  have hupdate (check : World → PaykhSettlement → Except ApiError Unit) (id : String)
      (f : PaykhSettlement → PaykhSettlement) (hf : ∀ s, (f s).id = s.id) :
      (Prisma.paykhSettlement.update check id f hf).Keeps unsettledView :=
    Prisma.paykhSettlement.keeps_update (fun _ _ => rfl) _ _ _ _
  cases op with
  | create input id =>
    refine Call.Keeps.bind ?_ fun _ => trivial
    unfold SettlementsService.create
    refine (requireActive_keeps _).bind fun _ => (Call.keeps_lift _ _).bind fun amountMinor => ?_
    refine (Prisma.paykhSettlement.keeps_create (fun _ _ => rfl) _ _).bind fun settlement => ?_
    refine Call.Keeps.bind (hrecord (by simp [submissionAction])) fun _ => ?_
    exact (hmaker _ _).bind fun _ => Call.keeps_pure _ _
  | approve settlementId checkerId =>
    refine Call.Keeps.bind ?_ fun _ => trivial
    unfold SettlementsService.approve
    refine (requireSettlement_keeps _).bind fun s => (Call.keeps_throwIf _ _ _).bind fun _ => ?_
    refine (Call.keeps_read _ _ _).bind fun maker => (Call.keeps_throwIf _ _ _).bind fun _ => ?_
    refine (hupdate _ _ _ _).bind fun updated => ?_
    refine Call.Keeps.bind (hrecord (by simp [submissionAction])) fun _ => ?_
    exact (hevent _).bind fun _ => Call.keeps_pure _ _
  | confirm clock settlementId actor =>
    refine Call.Keeps.bind ?_ fun _ => trivial
    unfold SettlementsService.confirm
    refine (requireSettlement_keeps _).bind fun s => (Call.keeps_throwIf _ _ _).bind fun _ => ?_
    refine (Call.keeps_lift _ _).bind fun entry => (keeps_post fun _ => rfl).bind fun _ => ?_
    exact (hupdate _ _ _ _).bind fun updated => (hevent _).bind fun _ => Call.keeps_pure _ _
  | cancel settlementId actor =>
    refine Call.Keeps.bind ?_ fun _ => trivial
    unfold SettlementsService.cancel
    refine (requireSettlement_keeps _).bind fun s => (Call.keeps_throwIf _ _ _).bind fun _ => ?_
    refine (hupdate _ _ _ _).bind fun updated => ?_
    exact Call.Keeps.bind (hrecord (by simp [submissionAction])) fun _ => Call.keeps_pure _ _

end

end TrusteeBank
