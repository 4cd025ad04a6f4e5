import TrusteeBank.Lib.Run
import TrusteeBank.Lib.Trail
import TrusteeBank.Platform.Operations
import TrusteeBank.Services.ReserveRecords

/-!
# What the audit trail misses

Each operation writes its own audit row. Most of them do so on every way to success: the row names
the actor of the call and the record it was about. Eight kinds of operations write none: rejecting
a mint authorization and letting one expire, confirming a settlement, funding a program, reconciling
a stablecoin, ingesting a liability snapshot, and setting and lifting an adjustment.

* `mint_recorded`, `deposit_recorded`, …: the operations that record, service by service;
* `auditLog_grows`: no operation changes or removes a row, in any run;
* `unlogged_silent`: the operations that write no row;
* `audit_complete`: in a run of the others every success that changed something is accounted for;
* `settlement_confirmed_unseen`: a settlement is paid out, and the trail does not show it.
-/

set_option autoImplicit false

namespace TrusteeBank

open Lib (Call)
open ReserveLedgerService (post)

section

variable [Runtime]

/-! ## The operations -/

def PlatformOp.call : PlatformOp → Service Unit
  | .deposit op => op.call
  | .ingest op => op.call
  | .mint op => op.call
  | .redemption op => op.call
  | .order op => op.call
  | .fund op => op.call
  | .loyalty op => op.call
  | .settlement op => op.call

/-- The operations of the platform, and the adjustments of the reserve. -/
inductive AuditOp
  | platform (op : PlatformOp)
  | addAdjustment (input : AddAdjustment) (id : String)
  | liftAdjustment (id actor : String)

def AuditOp.call : AuditOp → Service Unit
  | .platform op => op.call
  | .addAdjustment input id => (ReserveService.addAdjustment input id).void
  | .liftAdjustment id actor => (ReserveService.liftAdjustment id actor).void

/-- Serve one operation alone, whether it succeeds or throws. -/
def AuditOp.step (w : World) (op : AuditOp) : World := (op.call.run w).2

/-! Who acts. A call of PayChain is named after its request, and two operations name nobody. -/

def MintOp.actor : MintOp → String
  | .request input _ _ => "paychain:" ++ input.paychainRequestId
  | .review _ makerId _ => makerId
  | .approve _ _ checkerId _ | .reject _ _ checkerId _ => checkerId
  | .revoke _ actor _ | .expire _ actor => actor
  | .confirm _ _ input => input.actor

def DepositOp.actor : DepositOp → String
  | .register input _ => input.actor
  | .match _ _ actor | .clear _ _ actor => actor

def RedemptionOp.actor : RedemptionOp → String
  | .request input _ => "paychain:" ++ input.paychainRedemptionId
  | .approve _ approverId _ => approverId
  | .confirmBurn _ _ _ actor | .submitPayout _ _ _ actor | .confirmPayout _ _ actor => actor

def PaymentOp.actor : PaymentOp → String
  | .create _ input _ _ => input.actor
  | .checkPayment _ _ input => input.actor
  | .refund _ actor _ | .cancel _ actor => actor

def SettlementOp.actor : SettlementOp → String
  | .create input _ => input.actor
  | .approve _ checkerId => checkerId
  | .confirm _ _ actor | .cancel _ actor => actor

def LoyaltyOp.actor : LoyaltyOp → Option String
  | .bind input _ => some input.actor
  | .issue _ _ _ input => some input.actor
  | .redeem _ _ _ _ input => some input.actor
  | .reconcile .. => none

def AuditOp.actor : AuditOp → Option String
  | .platform (.mint op) => some op.actor
  | .platform (.deposit op) => some op.actor
  | .platform (.redemption op) => some op.actor
  | .platform (.order op) => some op.actor
  | .platform (.settlement op) => some op.actor
  | .platform (.fund op) => some op.actor
  | .platform (.loyalty op) => op.actor
  | .platform (.ingest _) => none
  | .addAdjustment input _ => some input.actor
  | .liftAdjustment _ actor => some actor

/-! The record a call creates or moves on. -/

def MintOp.subject : MintOp → String
  | .request _ id _ => id
  | .review authId _ _ | .approve _ authId _ _ | .reject _ authId _ _ | .revoke authId _ _
  | .confirm _ authId _ | .expire authId _ => authId

def DepositOp.subject : DepositOp → String
  | .register _ id => id
  | .match depositId _ _ | .clear _ depositId _ => depositId

def RedemptionOp.subject : RedemptionOp → String
  | .request _ id => id
  | .approve redemptionId _ _ | .confirmBurn _ redemptionId _ _ | .submitPayout _ _ redemptionId _
  | .confirmPayout _ redemptionId _ => redemptionId

def PaymentOp.subject : PaymentOp → String
  | .create _ _ id _ => id
  | .checkPayment _ orderId _ | .refund orderId _ _ | .cancel orderId _ => orderId

def SettlementOp.subject : SettlementOp → String
  | .create _ id => id
  | .approve settlementId _ | .confirm _ settlementId _ | .cancel settlementId _ => settlementId

def FundOp.subject : FundOp → String
  | .create _ id => id
  | .fund fundId _ _ | .reserve fundId _ _ | .release fundId _ _ => fundId

def LoyaltyOp.subject : LoyaltyOp → String
  | .bind _ id | .issue _ _ id _ | .redeem _ _ _ id _ => id
  | .reconcile _ _ liabilityId => liabilityId

def AuditOp.subject : AuditOp → String
  | .platform (.mint op) => op.subject
  | .platform (.deposit op) => op.subject
  | .platform (.redemption op) => op.subject
  | .platform (.order op) => op.subject
  | .platform (.settlement op) => op.subject
  | .platform (.fund op) => op.subject
  | .platform (.loyalty op) => op.subject
  | .platform (.ingest op) => op.id
  | .addAdjustment _ id => id
  | .liftAdjustment id _ => id

/-! ## Rows -/

/-- The row names who acted and on which record. -/
def Names (actor subject : String) (row : AuditLog) : Prop :=
  row.actor = actor ∧ row.subjectId = some subject

theorem auditCreate_grows (row : AuditLog) : (auditCreate row).Grows World.auditLog :=
  Call.grows_query fun w _ w' hw' => ⟨[row], by rw [(auditCreate_ok hw').2]; rfl⟩

theorem records_record {entry : AuditRecord} {actor subject : String} (hactor : entry.actor = actor)
    (hsubject : entry.subjectId = some subject) :
    (AuditService.record entry).Records World.auditLog (Names actor subject) :=
  Call.records_query fun w _ w' hw' =>
    ⟨entry.row, ⟨hactor, hsubject⟩, by rw [(auditCreate_ok hw').2]; rfl⟩

theorem event_silent (event : OutboxEvent) : (outboxCreate event).Keeps World.auditLog :=
  keeps_outboxCreate fun w => List.append_nil w.auditLog

theorem post_silent (entry : JournalEntry) : (post entry).Keeps World.auditLog :=
  keeps_post fun _ => rfl

/-- What is announced after a record. -/
theorem announced_grows {α : Type} (event : OutboxEvent) (a : α) :
    (outboxCreate event >>= fun _ => (pure a : Service α)).Grows World.auditLog :=
  ((event_silent event).bind fun _ => Call.keeps_pure _ a).grows

theorem yields_create {ρ : Type} {key : ρ → String} (E : Entity key)
    (check : World → Except ApiError Unit) (row : ρ) :
    (E.create check row).Yields fun r => r = row :=
  Call.yields_query fun _ _ _ h => (E.createTx_ok h).2.1

/-! ## Service by service -/

/-- Rejecting and letting expire leave no row. -/
def MintOp.recorded : MintOp → Bool
  | .reject .. | .expire .. => false
  | _ => true

theorem requireAuthWithApproval_yields (authId : String) :
    (MintService.requireAuthWithApproval authId).Yields fun found => found.1.id = authId := by
  intro w
  show Call.Yields _ (MonadLiftT.monadLift (orThrow ((w.mintAuthorizations.find? authId).map
    fun auth => (auth, approvalOf w authId)) (MintService.authNotFound authId)) : Service _)
  cases h : w.mintAuthorizations.find? authId with
  | none => exact trivial
  | some auth => exact Lib.Table.key_of_find? h

theorem expire_silent (authId actor : String) :
    (MintService.expire authId actor).Keeps World.auditLog :=
  expire_keeps (fun _ _ => rfl) post_silent event_silent _ _

theorem reject_silent (clock : Clock) (authId checkerId reason : String) :
    (MintService.reject clock authId checkerId reason).Keeps World.auditLog := by
  unfold MintService.reject
  refine (requireAuthWithApproval_keeps _).bind fun auth => (Call.keeps_lift _ _).bind fun a => ?_
  refine (setStatus_keeps (fun _ _ => rfl) _ _).bind fun _ => ?_
  refine (recordDecision_keeps (fun _ _ => rfl) _ _ _ _ _).bind fun _ => ?_
  exact (event_silent _).bind fun _ => Call.keeps_pure _ _

theorem mint_recorded {op : MintOp} (h : op.recorded) :
    op.call.Records World.auditLog (Names op.actor op.subject) := by
  cases op with
  | request input id nonce =>
    refine Call.Records.void ?_
    unfold MintService.request
    refine .after (Call.keeps_read _ _ _) fun found => ?_
    refine .after (Call.keeps_lift _ _) fun program => ?_
    refine .after (Call.keeps_lift _ _) fun minor => .after (Call.keeps_throwIf _ _ _) fun _ => ?_
    refine .second (Prisma.mintAuthorization.keeps_create (fun _ _ => rfl) _ _).grows
      (yields_create _ _ _) fun auth hauth => ?_
    exact .first (records_record rfl (congrArg some (hauth ▸ rfl))) fun _ => trivial
  | review authId makerId approvalId =>
    refine Call.Records.void ?_
    unfold MintService.review
    refine .after (requireAuthWithApproval_keeps _) fun auth => ?_
    refine .after (Call.keeps_throwIf _ _ _) fun _ => .after (Call.keeps_read _ _ _) fun maker => ?_
    refine .after (Call.keeps_throwIf _ _ _) fun _ => ?_
    refine .after (Call.keeps_query fun w a w' h => ?_) fun _ => ?_
    · obtain ⟨t, -, rfl⟩ := reviewTx_ok h
      rfl
    · exact .first (records_record rfl rfl) fun _ => trivial
  | approve clock authId checkerId reason =>
    refine Call.Records.void ?_
    unfold MintService.approve
    refine .second (requireAuthWithApproval_keeps _).grows (requireAuthWithApproval_yields _)
      fun found hfound => ?_
    refine .after (Call.keeps_throwIf _ _ _) fun _ => ?_
    refine .after (Call.keeps_lift _ _) fun approval => ?_
    refine .after (Call.keeps_read _ _ _) fun checker => .after (Call.keeps_lift _ _) fun _ => ?_
    refine .after (gatherGuardFacts_keeps _ _ _ _) fun facts => ?_
    refine .after (Call.keeps_lift _ _) fun decision => ?_
    split_ifs
    · unfold MintService.issue
      refine .after (Call.keeps_lift _ _) fun expiresIso => ?_
      refine .after (Call.keeps_lift _ _) fun expiresAt => ?_
      refine .after (Call.keeps_lift _ _) fun entry => ?_
      refine .after (post_silent _) fun _ => ?_
      refine .after (Prisma.mintAuthorization.keeps_update (fun _ _ => rfl) _ _ _ _) fun _ => ?_
      refine .after (recordDecision_keeps (fun _ _ => rfl) _ _ _ _ _) fun _ => ?_
      exact .first (records_record rfl (congrArg some hfound)) fun _ => announced_grows _ _
    · unfold MintService.block
      -- The refusal is written to the records, but the call throws.
      refine .after (setStatus_keeps (fun _ _ => rfl) _ _) fun _ => ?_
      refine .after (recordDecision_keeps (fun _ _ => rfl) _ _ _ _ _) fun _ => ?_
      exact .after (event_silent _) fun _ => trivial
  | reject clock authId checkerId reason => exact absurd h (by simp [MintOp.recorded])
  | revoke authId actor reason =>
    refine Call.Records.void ?_
    unfold MintService.revoke
    refine .after (requireAuth_keeps _) fun auth => .after (Call.keeps_throwIf _ _ _) fun _ => ?_
    refine .after (release_keeps post_silent _ _ _) fun _ => ?_
    refine .after (setStatus_keeps (fun _ _ => rfl) _ _) fun _ => ?_
    exact .first (records_record rfl rfl) fun _ => trivial
  | confirm clock authId input =>
    refine Call.Records.void ?_
    unfold MintService.confirm
    refine .after (requireAuth_keeps _) fun auth => .after (Call.keeps_throwIf _ _ _) fun _ => ?_
    split_ifs
    · exact .after (expire_silent _ _) fun _ => trivial
    · refine .after (Call.keeps_lift _ _) fun amount => ?_
      refine .after (Call.keeps_throwIf _ _ _) fun _ => ?_
      refine .after (release_keeps post_silent _ _ _) fun _ => ?_
      refine .after (createConfirmation_keeps (fun _ _ => rfl) _ _ _) fun _ => ?_
      refine .after (setStatus_keeps (fun _ _ => rfl) _ _) fun _ => ?_
      exact .first (records_record rfl rfl) fun _ => announced_grows _ _
  | expire authId actor => exact absurd h (by simp [MintOp.recorded])

theorem deposit_recorded (op : DepositOp) :
    op.call.Records World.auditLog (Names op.actor op.subject) := by
  cases op with
  | register input id =>
    refine Call.Records.void ?_
    unfold DepositsService.register
    refine .after (Call.keeps_read _ _ _) fun found => ?_
    refine .after (Call.keeps_lift _ _) fun account => ?_
    refine .after (Call.keeps_lift _ _) fun minor => .after (Call.keeps_lift _ _) fun date => ?_
    refine .second (Prisma.deposit.keeps_create (fun _ _ => rfl) _ _).grows
      (yields_create _ _ _) fun deposit hdeposit => ?_
    refine .after (Call.keeps_lift _ _) fun entry => .after (post_silent _) fun _ => ?_
    exact .first (records_record rfl (congrArg some (hdeposit ▸ rfl))) fun _ => announced_grows _ _
  | «match» depositId fundingInstructionId actor =>
    refine Call.Records.void ?_
    unfold DepositsService.match
    refine .after (requireDeposit_keeps _) fun deposit => ?_
    refine .after (Call.keeps_throwIf _ _ _) fun _ => ?_
    refine .after (Call.keeps_read _ _ _) fun found => .after (Call.keeps_lift _ _) fun fi => ?_
    refine .after (Call.keeps_throwIf _ _ _) fun _ => .after (Call.keeps_throwIf _ _ _) fun _ => ?_
    refine .after (Prisma.deposit.keeps_update (fun _ _ => rfl) _ _ _ _) fun updated => ?_
    exact .first (records_record rfl rfl) fun _ => announced_grows _ _
  | clear clock depositId actor =>
    refine Call.Records.void ?_
    unfold DepositsService.clear
    refine .after (requireDeposit_keeps _) fun deposit => ?_
    refine .after (Call.keeps_throwIf _ _ _) fun _ => ?_
    refine .after (Call.keeps_read _ _ _) fun found => ?_
    refine .after (Call.keeps_lift _ _) fun account => ?_
    refine .after (Call.keeps_lift _ _) fun entry => .after (post_silent _) fun _ => ?_
    refine .after (Prisma.deposit.keeps_update (fun _ _ => rfl) _ _ _ _) fun updated => ?_
    exact .first (records_record rfl rfl) fun _ => announced_grows _ _

theorem redemption_recorded (op : RedemptionOp) :
    op.call.Records World.auditLog (Names op.actor op.subject) := by
  have hupdate (check : World → Redemption → Except ApiError Unit) (id : String)
      (f : Redemption → Redemption) (hf : ∀ r, (f r).id = r.id) :
      (Prisma.redemption.update check id f hf).Keeps World.auditLog :=
    Prisma.redemption.keeps_update (fun _ _ => rfl) _ _ _ _
  cases op with
  | request input id =>
    refine Call.Records.void ?_
    unfold RedemptionService.request
    refine .after (Call.keeps_read _ _ _) fun found => ?_
    refine .after (Call.keeps_lift _ _) fun program => ?_
    refine .after (Call.keeps_read _ _ _) fun flag => ?_
    refine .after (Call.keeps_throwIf _ _ _) fun _ => .after (Call.keeps_lift _ _) fun minor => ?_
    refine .after (Call.keeps_throwIf _ _ _) fun _ => ?_
    refine .second (Prisma.redemption.keeps_create (fun _ _ => rfl) _ _).grows
      (yields_create _ _ _) fun r hr => ?_
    exact .first (records_record rfl (congrArg some (hr ▸ rfl))) fun _ => trivial
  | approve redemptionId approverId reason =>
    refine Call.Records.void ?_
    unfold RedemptionService.approve
    refine .after (requireRedemption_keeps _) fun r => .after (Call.keeps_throwIf _ _ _) fun _ => ?_
    refine .after (Call.keeps_read _ _ _) fun approver => ?_
    refine .after (Call.keeps_throwIf _ _ _) fun _ => .after (Call.keeps_lift _ _) fun entry => ?_
    refine .after (post_silent _) fun _ => .after (hupdate _ _ _ _) fun _ => ?_
    exact .first (records_record rfl rfl) fun _ => announced_grows _ _
  | confirmBurn clock redemptionId burnTxHash actor =>
    refine Call.Records.void ?_
    unfold RedemptionService.confirmBurn
    refine .after (requireRedemption_keeps _) fun r => .after (Call.keeps_throwIf _ _ _) fun _ => ?_
    refine .after (hupdate _ _ _ _) fun _ => ?_
    exact .first (records_record rfl rfl) fun _ => announced_grows _ _
  | submitPayout clock uuid redemptionId actor =>
    refine Call.Records.void ?_
    unfold RedemptionService.submitPayout
    refine .after (requireRedemption_keeps _) fun r => .after (Call.keeps_throwIf _ _ _) fun _ => ?_
    refine .after (Call.keeps_read _ _ _) fun flag => ?_
    refine .after (Call.keeps_throwIf _ _ _) fun _ => .after (hupdate _ _ _ _) fun _ => ?_
    exact .first (records_record rfl rfl) fun _ => announced_grows _ _
  | confirmPayout clock redemptionId actor =>
    refine Call.Records.void ?_
    unfold RedemptionService.confirmPayout
    refine .after (requireRedemption_keeps _) fun r => .after (Call.keeps_throwIf _ _ _) fun _ => ?_
    refine .after (Call.keeps_lift _ _) fun entry => .after (post_silent _) fun _ => ?_
    refine .after (hupdate _ _ _ _) fun _ => .first (records_record rfl rfl) fun _ => ?_
    exact (event_silent _).grows.bind fun _ => announced_grows _ _

/-! An order: `checkPayment` of a confirmed one succeeds and changes nothing. -/

theorem updateOrder_silent (check : World → PaykhPaymentOrder → Except ApiError Unit) (id : String)
    (f : PaykhPaymentOrder → PaykhPaymentOrder) (hf : ∀ o, (f o).id = o.id) :
    (Prisma.paykhPaymentOrder.update check id f hf).Keeps World.auditLog :=
  Prisma.paykhPaymentOrder.keeps_update (fun _ _ => rfl) _ _ _ _

theorem applyPayment_recorded (clock : Clock) (orderId : String) (input : CheckPaymentInput)
    (order : PaykhPaymentOrder) :
    (PaymentOrdersService.applyPayment clock orderId input order).Records World.auditLog
      (Names input.actor orderId) := by
  unfold PaymentOrdersService.applyPayment
  refine .after (refuseExpired_keeps (fun _ _ => rfl) _ _) fun _ => ?_
  refine .after (Call.keeps_lift _ _) fun _ => .after (Call.keeps_read _ _ _) fun priorUse => ?_
  refine .after (refuseDuplicate_keeps event_silent _ _ _) fun _ => ?_
  refine .after (Call.keeps_lift _ _) fun amountMinor => .after (Call.keeps_read _ _ _) fun p => ?_
  refine .after (refuseMismatches_keeps event_silent _ _) fun _ => ?_
  refine .after (Call.keeps_lift _ _) fun entry => .after (post_silent _) fun _ => ?_
  refine .after (updateOrder_silent _ _ _ _) fun updated => ?_
  exact .first (records_record rfl rfl) fun _ => announced_grows _ _

/-- Every operation but `checkPayment`. -/
def PaymentOp.recorded : PaymentOp → Bool
  | .checkPayment .. => false
  | _ => true

theorem order_recorded {op : PaymentOp} (h : op.recorded) :
    op.call.Records World.auditLog (Names op.actor op.subject) := by
  cases op with
  | create clock input id uuid =>
    refine Call.Records.void ?_
    unfold PaymentOrdersService.create
    refine .after (Call.keeps_read _ _ _) fun found => ?_
    refine .after (Call.keeps_lift _ _) fun profile => ?_
    refine .after (Call.keeps_throwIf _ _ _) fun _ => .after (Call.keeps_throwIf _ _ _) fun _ => ?_
    refine .after (Call.keeps_lift _ _) fun amount => .after (Call.keeps_lift _ _) fun expires => ?_
    refine .second (Prisma.paykhPaymentOrder.keeps_create (fun _ _ => rfl) _ _).grows
      (yields_create _ _ _) fun order horder => ?_
    exact .first (records_record rfl (congrArg some (horder ▸ rfl))) fun _ => trivial
  | checkPayment clock orderId input => exact absurd h (by simp [PaymentOp.recorded])
  | refund orderId actor reason =>
    refine Call.Records.void ?_
    unfold PaymentOrdersService.refund
    refine .after (requireOrder_keeps _) fun order => .after (Call.keeps_throwIf _ _ _) fun _ => ?_
    refine .after (Call.keeps_lift _ _) fun entry => .after (post_silent _) fun _ => ?_
    refine .after (updateOrder_silent _ _ _ _) fun updated => ?_
    exact .first (records_record rfl rfl) fun _ => announced_grows _ _
  | cancel orderId actor =>
    refine Call.Records.void ?_
    unfold PaymentOrdersService.cancel
    refine .after (requireOrder_keeps _) fun order => .after (Call.keeps_throwIf _ _ _) fun _ => ?_
    refine .after (updateOrder_silent _ _ _ _) fun updated => ?_
    exact .first (records_record rfl rfl) fun _ => trivial

/-! Settlements, funds and stablecoins. -/

def SettlementOp.recorded : SettlementOp → Bool
  | .confirm .. => false
  | _ => true

theorem confirm_silent (clock : Clock) (settlementId actor : String) :
    (SettlementsService.confirm clock settlementId actor).Keeps World.auditLog := by
  unfold SettlementsService.confirm
  refine (requireSettlement_keeps _).bind fun s => (Call.keeps_throwIf _ _ _).bind fun _ => ?_
  refine (Call.keeps_lift _ _).bind fun entry => (post_silent _).bind fun _ => ?_
  refine (Prisma.paykhSettlement.keeps_update (fun _ _ => rfl) _ _ _ _).bind fun updated => ?_
  exact (event_silent _).bind fun _ => Call.keeps_pure _ _

theorem settlement_recorded {op : SettlementOp} (h : op.recorded) :
    op.call.Records World.auditLog (Names op.actor op.subject) := by
  cases op with
  | create input id =>
    refine Call.Records.void ?_
    unfold SettlementsService.create
    refine .after (requireActive_keeps _) fun _ => .after (Call.keeps_lift _ _) fun amount => ?_
    refine .second (Prisma.paykhSettlement.keeps_create (fun _ _ => rfl) _ _).grows
      (yields_create _ _ _) fun s hs => ?_
    refine .first (records_record rfl (congrArg some (hs ▸ rfl))) fun _ => ?_
    exact (auditCreate_grows _).bind fun _ => trivial
  | approve settlementId checkerId =>
    refine Call.Records.void ?_
    unfold SettlementsService.approve
    refine .after (requireSettlement_keeps _) fun s => .after (Call.keeps_throwIf _ _ _) fun _ => ?_
    refine .after (Call.keeps_read _ _ _) fun maker => .after (Call.keeps_throwIf _ _ _) fun _ => ?_
    refine .after (Prisma.paykhSettlement.keeps_update (fun _ _ => rfl) _ _ _ _) fun updated => ?_
    exact .first (records_record rfl rfl) fun _ => announced_grows _ _
  | confirm clock settlementId actor => exact absurd h (by simp [SettlementOp.recorded])
  | cancel settlementId actor =>
    refine Call.Records.void ?_
    unfold SettlementsService.cancel
    refine .after (requireSettlement_keeps _) fun s => .after (Call.keeps_throwIf _ _ _) fun _ => ?_
    refine .after (Prisma.paykhSettlement.keeps_update (fun _ _ => rfl) _ _ _ _) fun updated => ?_
    exact .first (records_record rfl rfl) fun _ => trivial

def FundOp.recorded : FundOp → Bool
  | .fund .. => false
  | _ => true

theorem updateFund_silent (check : World → PaykhProgramFund → Except ApiError Unit) (id : String)
    (f : PaykhProgramFund → PaykhProgramFund) (hf : ∀ r, (f r).id = r.id) :
    (Prisma.paykhProgramFund.update check id f hf).Keeps World.auditLog :=
  Prisma.paykhProgramFund.keeps_update (fun _ _ => rfl) _ _ _ _

theorem fund_silent (fundId amountMinor actor : String) :
    (ProgramFundsService.fund fundId amountMinor actor).Keeps World.auditLog := by
  unfold ProgramFundsService.fund
  refine (requireFund_keeps _).bind fun fund => (Call.keeps_lift _ _).bind fun minor => ?_
  refine (Call.keeps_throwIf _ _ _).bind fun _ => (Call.keeps_lift _ _).bind fun required => ?_
  refine (safeguard_keeps post_silent _ _).bind fun _ => ?_
  refine (updateFund_silent _ _ _ _).bind fun updated => ?_
  exact (event_silent _).bind fun _ => Call.keeps_pure _ _

theorem fund_recorded {op : FundOp} (h : op.recorded) :
    op.call.Records World.auditLog (Names op.actor op.subject) := by
  cases op with
  | create input id =>
    refine Call.Records.void ?_
    unfold ProgramFundsService.create
    refine .second (Prisma.paykhProgramFund.keeps_create (fun _ _ => rfl) _ _).grows
      (yields_create _ _ _) fun fund hfund => ?_
    exact .first (records_record rfl (congrArg some (hfund ▸ rfl))) fun _ => trivial
  | fund fundId amountMinor actor => exact absurd h (by simp [FundOp.recorded])
  | reserve fundId amountMinor actor =>
    refine Call.Records.void ?_
    unfold ProgramFundsService.reserve
    refine .after (requireFund_keeps _) fun fund => .after (Call.keeps_lift _ _) fun amount => ?_
    refine .after (Call.keeps_throwIf _ _ _) fun _ => .after (updateFund_silent _ _ _ _) fun _ => ?_
    refine .first (records_record rfl rfl) fun _ => ?_
    exact (announceExhausted_keeps event_silent _ _).grows.bind fun _ => trivial
  | release fundId amountMinor actor =>
    refine Call.Records.void ?_
    unfold ProgramFundsService.release
    refine .after (requireFund_keeps _) fun fund => .after (Call.keeps_lift _ _) fun amount => ?_
    refine .after (Call.keeps_throwIf _ _ _) fun _ => .after (updateFund_silent _ _ _ _) fun _ => ?_
    exact .first (records_record rfl rfl) fun _ => trivial

def LoyaltyOp.recorded : LoyaltyOp → Bool
  | .reconcile .. => false
  | _ => true

theorem reconcile_silent (gateway : IssuanceGateway) (clock : Clock) (liabilityId : String) :
    (LoyaltyService.reconcile gateway clock liabilityId).Keeps World.auditLog := by
  unfold LoyaltyService.reconcile
  refine (requireLiability_keeps _).bind fun liability => (Call.keeps_read _ _ _).bind fun f => ?_
  refine (keeps_accountBalance _ _ _).bind fun outstanding => ?_
  refine (Call.keeps_lift _ _).bind fun supply => ?_
  refine (Prisma.paykhLoyaltyLiability.keeps_update (fun _ _ => rfl) _ _ _ _).bind fun _ => ?_
  exact (event_silent _).bind fun _ => Call.keeps_pure _ _

theorem loyalty_recorded {op : LoyaltyOp} (h : op.recorded) {actor : String}
    (hactor : op.actor = some actor) :
    op.call.Records World.auditLog (Names actor op.subject) := by
  cases op with
  | bind input id =>
    obtain rfl := Option.some.inj hactor
    refine Call.Records.void ?_
    unfold LoyaltyService.bind
    refine .after (Call.keeps_read _ _ _) fun found => .after (Call.keeps_lift _ _) fun fund => ?_
    refine .after (Call.keeps_lift _ _) fun required => ?_
    refine .after (Call.keeps_throwIf _ _ _) fun _ => ?_
    refine .after (Call.keeps_read _ _ _) fun prior => .after (Call.keeps_throwIf _ _ _) fun _ => ?_
    refine .after (Call.keeps_lift _ _) fun denomination => ?_
    refine .after (Call.keeps_throwIf _ _ _) fun _ => ?_
    refine .second (Prisma.paykhLoyaltyLiability.keeps_create (fun _ _ => rfl) _ _).grows
      (yields_create _ _ _) fun liability hliability => ?_
    exact .first (records_record rfl (congrArg some (hliability ▸ rfl))) fun _ => trivial
  | issue gateway uuid id input =>
    obtain rfl := Option.some.inj hactor
    refine Call.Records.void ?_
    unfold LoyaltyService.issue
    refine .after (keeps_requireEnabled _) fun _ => ?_
    refine .after (requireLiability_keeps _) fun liability => ?_
    refine .after (Call.keeps_read _ _ _) fun found => .after (Call.keeps_lift _ _) fun fund => ?_
    refine .after (Call.keeps_lift _ _) fun amount => .after (Call.keeps_throwIf _ _ _) fun _ => ?_
    refine .after (Call.keeps_throwIf _ _ _) fun _ => .after (Call.keeps_lift _ _) fun entry => ?_
    refine .after (post_silent _) fun _ => .after (Call.keeps_lift _ _) fun chain => ?_
    have hstored (w : World) (row : PaykhLoyaltyIssuance) (w' : World)
        (h : LoyaltyService.issueTx fund liability amount.1.minor
          (LoyaltyService.issuanceRow input id liability amount.1.minor amount.2 chain) w =
            .ok (row, w')) : w'.auditLog = w.auditLog ∧ row.id = id := by
      obtain ⟨rfl, t, rfl⟩ := issueTx_ok h
      exact ⟨rfl, rfl⟩
    refine .second (Call.keeps_query fun w row w' h => (hstored w row w' h).1).grows
      (Call.yields_query fun w row w' h => (hstored w row w' h).2) fun issuance hissuance => ?_
    exact .first (records_record rfl (congrArg some hissuance)) fun _ => announced_grows _ _
  | redeem gateway clock uuid id input =>
    obtain rfl := Option.some.inj hactor
    refine Call.Records.void ?_
    unfold LoyaltyService.redeem
    refine .after (keeps_requireEnabled _) fun _ => .after (requireActive_keeps _) fun _ => ?_
    refine .after (requireLiability_keeps _) fun liability => ?_
    refine .after (Call.keeps_lift _ _) fun amount => .after (Call.keeps_throwIf _ _ _) fun _ => ?_
    refine .after (Call.keeps_throwIf _ _ _) fun _ => .after (Call.keeps_lift _ _) fun entry => ?_
    refine .after (post_silent _) fun _ => .after (Call.keeps_lift _ _) fun chain => ?_
    have hstored (w : World) (row : PaykhLoyaltyRedemption) (w' : World)
        (h : LoyaltyService.redeemTx liability amount.1.minor (LoyaltyService.loyaltyRedemptionRow
          input id liability amount.1.minor chain (clock 0)) w = .ok (row, w')) :
        w'.auditLog = w.auditLog ∧ row.id = id := by
      obtain ⟨rfl, t, rfl⟩ := redeemTx_ok h
      exact ⟨rfl, rfl⟩
    refine .second (Call.keeps_query fun w row w' h => (hstored w row w' h).1).grows
      (Call.yields_query fun w row w' h => (hstored w row w' h).2) fun redemption hredemption => ?_
    exact .first (records_record rfl (congrArg some hredemption)) fun _ => announced_grows _ _
  | reconcile gateway clock liabilityId => exact absurd h (by simp [LoyaltyOp.recorded])

/-! ## The operations that write no row -/

theorem ingest_silent (input : LiabilitySnapshotInput) (id : String) :
    (LiabilityService.ingest input id).Keeps World.auditLog := by
  unfold LiabilityService.ingest
  refine (Call.keeps_lift _ _).bind fun sequence => (Call.keeps_read _ _ _).bind fun latest => ?_
  refine (Call.keeps_lift _ _).bind fun _ => (verify_keeps _).bind fun verified => ?_
  refine (Call.keeps_lift _ _).bind fun row => ?_
  exact (Prisma.liabilitySnapshot.keeps_create (fun _ _ => rfl) _ _).bind fun _ =>
    Call.keeps_pure _ _

theorem addAdjustment_silent (input : AddAdjustment) (id : String) :
    (ReserveService.addAdjustment input id).Keeps World.auditLog := by
  have hprogram : (ReserveService.program input.programId).Keeps World.auditLog :=
    (Call.keeps_read _ _ _).bind fun _ => Call.keeps_lift _ _
  unfold ReserveService.addAdjustment
  refine hprogram.bind fun program => (Call.keeps_throwIf _ _ _).bind fun _ => ?_
  refine (Call.keeps_lift _ _).bind fun amount => ?_
  exact (Prisma.reserveAdjustment.keeps_create (fun _ _ => rfl) _ _).bind fun _ =>
    Call.keeps_pure _ _

theorem liftAdjustment_silent (id actor : String) :
    (ReserveService.liftAdjustment id actor).Keeps World.auditLog :=
  (Prisma.reserveAdjustment.keeps_update (fun _ _ => rfl) _ _ _ _).bind fun _ =>
    Call.keeps_pure _ _

/-- The calls that can succeed, change the state and leave no row: those of these kinds, letting
expire only what is issued. -/
def AuditOp.Unlogged (w : World) : AuditOp → Prop
  | .platform (.mint (.reject ..)) => True
  | .platform (.mint (.expire authId _)) =>
    ∃ auth, w.mintAuthorizations.find? authId = some auth ∧ auth.status = .issued
  | .platform (.settlement (.confirm ..)) => True
  | .platform (.fund (.fund ..)) => True
  | .platform (.loyalty (.reconcile ..)) => True
  | .platform (.ingest _) => True
  | .addAdjustment .. => True
  | .liftAdjustment .. => True
  | _ => False

/-- **They never write one.** -/
theorem unlogged_silent {w : World} {op : AuditOp} (h : op.Unlogged w) :
    (op.step w).auditLog = w.auditLog := by
  have hvoid {α : Type} {x : Service α} (hx : x.Keeps World.auditLog) :
      (x.void.run w).2.auditLog = w.auditLog :=
    (hx.bind fun _ => Call.keeps_pure _ _).run w
  match op with
  | .platform (.mint (.reject clock authId checkerId reason)) =>
    exact hvoid (reject_silent clock authId checkerId reason)
  | .platform (.mint (.expire authId actor)) => exact hvoid (expire_silent authId actor)
  | .platform (.settlement (.confirm clock settlementId actor)) =>
    exact hvoid (confirm_silent clock settlementId actor)
  | .platform (.fund (.fund fundId amountMinor actor)) =>
    exact hvoid (fund_silent fundId amountMinor actor)
  | .platform (.loyalty (.reconcile gateway clock liabilityId)) =>
    exact hvoid (reconcile_silent gateway clock liabilityId)
  | .platform (.ingest op) => exact hvoid (ingest_silent op.input op.id)
  | .addAdjustment input id => exact hvoid (addAdjustment_silent input id)
  | .liftAdjustment id actor => exact hvoid (liftAdjustment_silent id actor)

/-! ## The trail of a run -/

/-- The row is about the call: it names its actor, if it has one, and its record. -/
def AuditOp.NamedBy (op : AuditOp) (row : AuditLog) : Prop :=
  (∀ actor, op.actor = some actor → row.actor = actor) ∧ row.subjectId = some op.subject

/-- The trail is extended only, and a success that changed something has left a row. -/
structure Accounted (w : World) (op : AuditOp) : Prop where
  kept : w.auditLog <+: (op.step w).auditLog
  recorded : (op.call.run w).1 = .ok () → op.step w ≠ w →
    ∃ rows, (op.step w).auditLog = w.auditLog ++ rows ∧ ∃ row ∈ rows, op.NamedBy row

theorem accounted_of_records {w : World} {op : AuditOp} {actor : String}
    (hactor : op.actor = some actor)
    (h : op.call.Records World.auditLog (Names actor op.subject)) : Accounted w op where
  kept := h.grows.run w
  recorded hok _ := by
    obtain ⟨rows, ⟨row, hmem, hnames⟩, hrows⟩ := h.run (Prod.ext hok rfl)
    refine ⟨rows, hrows, row, hmem, fun a ha => ?_, hnames.2⟩
    rw [hnames.1]
    exact Option.some.inj (hactor.symm.trans ha)

theorem accounted_of_idle {w : World} {op : AuditOp} (h : op.step w = w) : Accounted w op where
  kept := by rw [h]
  recorded _ hne := absurd h hne

/-- Checking the payment of an order: the state is as before, or the payment was applied. -/
theorem run_checkPayment (clock : Clock) (orderId : String) (input : CheckPaymentInput)
    (w : World) :
    ((PaymentOrdersService.checkPayment clock orderId input).run w).2 = w ∨
      ∃ order, (PaymentOrdersService.checkPayment clock orderId input).run w =
        (PaymentOrdersService.applyPayment clock orderId input order).run w := by
  unfold PaymentOrdersService.checkPayment
  rw [Call.run_bind, run_requireOrder]
  cases w.paykhPaymentOrders.find? orderId with
  | none => exact .inl rfl
  | some order =>
    simp only [orThrow]
    by_cases hconfirmed : order.status = .confirmed
    · rw [if_pos hconfirmed, Call.run_throwIf_bind]
      split_ifs
      · exact .inl rfl
      · exact .inl rfl
    · rw [if_neg hconfirmed, Call.run_throwIf_bind]
      split_ifs
      · exact .inl rfl
      · exact .inr ⟨order, rfl⟩

theorem accounted_checkPayment (clock : Clock) (orderId : String) (input : CheckPaymentInput)
    (w : World) : Accounted w (.platform (.order (.checkPayment clock orderId input))) := by
  have hstep : AuditOp.step w (.platform (.order (.checkPayment clock orderId input))) =
      ((PaymentOrdersService.checkPayment clock orderId input).run w).2 := Call.run_void_snd _ w
  rcases run_checkPayment clock orderId input w with hsame | ⟨order, happlied⟩
  · exact accounted_of_idle (hstep.trans hsame)
  · have hrecords := applyPayment_recorded clock orderId input order
    rw [happlied] at hstep
    refine ⟨hstep ▸ hrecords.grows.run w, fun hok _ => ?_⟩
    obtain ⟨result, hresult⟩ := Call.void_ok hok
    rw [happlied] at hresult
    obtain ⟨rows, ⟨row, hmem, hnames⟩, hrows⟩ := hrecords.run (Prod.ext hresult rfl)
    refine ⟨rows, hstep ▸ hrows, row, hmem, fun a ha => ?_, hnames.2⟩
    rw [hnames.1]
    exact Option.some.inj ha

/-- Letting expire what is not issued changes nothing. -/
theorem expire_idle {w : World} {authId : String}
    (h : ¬∃ auth, w.mintAuthorizations.find? authId = some auth ∧ auth.status = .issued)
    (actor : String) : ((MintService.expire authId actor).run w).2 = w := by
  unfold MintService.expire MintService.requireAuth
  rw [bind_assoc, Call.run_bind, Entity.run_findUnique]
  simp only [Prisma.mintAuthorization_get]
  rw [Call.run_lift_bind]
  cases hauth : w.mintAuthorizations.find? authId with
  | none => rfl
  | some auth =>
    have hstatus : auth.status ≠ .issued := fun hissued => h ⟨auth, hauth, hissued⟩
    simp only [orThrow]
    rw [if_pos hstatus]
    rfl

/-- **Every other operation accounts for what it did.** -/
theorem AuditOp.accounted {w : World} {op : AuditOp} (h : ¬op.Unlogged w) : Accounted w op := by
  match op with
  | .platform (.mint op) =>
    by_cases hrecorded : op.recorded
    · exact accounted_of_records rfl (mint_recorded hrecorded)
    · cases op with
      | reject => exact absurd trivial h
      | expire authId actor =>
        exact accounted_of_idle ((Call.run_void_snd _ w).trans (expire_idle h actor))
      | _ => exact absurd rfl hrecorded
  | .platform (.order op) =>
    by_cases hrecorded : op.recorded
    · exact accounted_of_records rfl (order_recorded hrecorded)
    · cases op with
      | checkPayment clock orderId input => exact accounted_checkPayment clock orderId input w
      | _ => exact absurd rfl hrecorded
  | .platform (.settlement op) =>
    by_cases hrecorded : op.recorded
    · exact accounted_of_records rfl (settlement_recorded hrecorded)
    · cases op with
      | confirm => exact absurd trivial h
      | _ => exact absurd rfl hrecorded
  | .platform (.fund op) =>
    by_cases hrecorded : op.recorded
    · exact accounted_of_records rfl (fund_recorded hrecorded)
    · cases op with
      | fund => exact absurd trivial h
      | _ => exact absurd rfl hrecorded
  | .platform (.loyalty op) =>
    by_cases hrecorded : op.recorded
    · obtain ⟨actor, hactor⟩ : ∃ actor, op.actor = some actor := by
        cases op with
        | reconcile => exact absurd hrecorded (by simp [LoyaltyOp.recorded])
        | _ => exact ⟨_, rfl⟩
      exact accounted_of_records hactor (loyalty_recorded hrecorded hactor)
    · cases op with
      | reconcile => exact absurd trivial h
      | _ => exact absurd rfl hrecorded
  | .platform (.deposit op) => exact accounted_of_records rfl (deposit_recorded op)
  | .platform (.redemption op) => exact accounted_of_records rfl (redemption_recorded op)
  | .platform (.ingest _) | .addAdjustment .. | .liftAdjustment .. => exact absurd trivial h

/-- **No run changes or removes a row.** -/
theorem auditLog_grows (w : World) (ops : List AuditOp) :
    w.auditLog <+: (ops.foldl AuditOp.step w).auditLog := by
  have hstep (w : World) (op : AuditOp) : w.auditLog <+: (op.step w).auditLog := by
    by_cases h : op.Unlogged w
    · rw [unlogged_silent h]
    · exact (AuditOp.accounted h).kept
  exact Lib.rel_run (R := fun w w' => w.auditLog <+: w'.auditLog) (fun w => List.prefix_refl _)
    (fun _ _ _ => List.IsPrefix.trans) (fun w op _ => hstep w op)
    (Lib.Meets.of_forall (C := fun _ _ => True) (fun _ _ => trivial) w ops)

/-- **Audit completeness.** In a run of calls that record, every call that succeeds and changes
something has left a row with its actor and its record, and no row is ever changed or removed. -/
theorem audit_complete {w : World} {ops : List AuditOp}
    (h : Lib.Meets AuditOp.step (fun w op => ¬op.Unlogged w) w ops) :
    Lib.Meets AuditOp.step Accounted w ops ∧ w.auditLog <+: (ops.foldl AuditOp.step w).auditLog :=
  ⟨h.mono fun _ _ => AuditOp.accounted, auditLog_grows w ops⟩

end

/-! ## A settlement that is paid out -/

namespace Sample

attribute [local instance] Runtime.ascii

/-- A settlement of 100, approved. -/
def settlement : PaykhSettlement where
  id := "S1"
  tenantId := "tenant-1"
  merchantId := "M1"
  amountMinor := 100
  currency := "USD"
  status := .approved
  approvedById := some "checker"
  confirmedAt := none

def settlementWorld : World :=
  { World.empty with paykhSettlements := ⟨[settlement], List.nodup_singleton _⟩ }

def payOut : AuditOp := .platform (.settlement (.confirm (fun _ => 0) "S1" "teller"))

def callOff : AuditOp := .platform (.settlement (.cancel "S1" "teller"))

end Sample

open Sample

section

attribute [local instance] Runtime.ascii

/-- Calling the settlement off leaves a row. -/
theorem audit_complete_cancelled :
    Accounted settlementWorld callOff ∧
      (callOff.step settlementWorld).auditLog.map AuditLog.actor = ["teller"] :=
  ⟨(@audit_complete _ settlementWorld [callOff] ⟨id, trivial⟩).1.1, by decide +kernel⟩

/-- Paying it out succeeds and changes it, and leaves none. -/
theorem settlement_confirmed_unseen :
    (payOut.call.run settlementWorld).1 = .ok () ∧
      (settlementWorld.paykhSettlements.find? "S1").map PaykhSettlement.status = some .approved ∧
      ((payOut.step settlementWorld).paykhSettlements.find? "S1").map PaykhSettlement.status =
        some .confirmed ∧
      ¬Accounted settlementWorld payOut := by
  have hok : (payOut.call.run settlementWorld).1 = .ok () := by decide +kernel
  have hbefore : (settlementWorld.paykhSettlements.find? "S1").map PaykhSettlement.status =
      some .approved := by decide +kernel
  have hafter : ((payOut.step settlementWorld).paykhSettlements.find? "S1").map
      PaykhSettlement.status = some .confirmed := by decide +kernel
  refine ⟨hok, hbefore, hafter, fun h => ?_⟩
  have hchanged : payOut.step settlementWorld ≠ settlementWorld := by
    intro hsame
    rw [hsame, hbefore] at hafter
    exact absurd hafter (by decide)
  obtain ⟨rows, hrows, row, hrow, -⟩ := h.recorded hok hchanged
  rw [@unlogged_silent _ settlementWorld payOut trivial] at hrows
  rw [List.self_eq_append_right.mp hrows] at hrow
  exact absurd hrow List.not_mem_nil

end

end TrusteeBank
