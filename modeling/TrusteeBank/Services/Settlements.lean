import TrusteeBank.Infra

/-!
# Merchants and settlements

PayKH registers merchants; `MerchantsService.requireActive` is what settlements and redemptions
ask of one. `SettlementsService` pays a merchant: a maker requests a settlement, another user
approves it, and its confirmation discharges the merchant payable against cash. The maker is
remembered in the audit trail.

**Theorem (`SettlementOp.served`).** An operation fails and changes nothing, or it creates one
settlement or changes the status of one. Only the confirmation posts. A settlement whose maker's
name cannot be stored is there without the row that remembers the maker.
-/

set_option autoImplicit false

namespace TrusteeBank

open Lib (Call)
open LedgerAccountCode

section

variable [Runtime]

/-! ## Merchants -/

namespace MerchantsService

/-- A merchant is usable for settlement and redemption: registered, active and verified. -/
def requireActive (merchantId : String) : Service PaykhMerchant := do
  let found ← Prisma.paykhMerchant.findUnique merchantId
  let m ← orThrow found
    (.notFound ("Merchant " ++ merchantId ++ " is not registered by PayKH (§25)"))
  Call.throwIf (m.status ≠ "ACTIVE")
    (.badRequest ("Merchant " ++ merchantId ++ " is " ++ m.status ++ ", not ACTIVE (per PayKH)"))
  Call.throwIf (m.kycStatus ≠ "VERIFIED")
    (.badRequest ("Merchant " ++ merchantId ++ " KYC is " ++ m.kycStatus ++
      ", not VERIFIED (per PayKH)"))
  return m

end MerchantsService

/-- The merchant is registered, active and verified. -/
def World.ActiveMerchant (w : World) (merchantId : String) : Prop :=
  ∃ m, w.paykhMerchants.find? merchantId = some m ∧ m.status = "ACTIVE" ∧ m.kycStatus = "VERIFIED"

/-- Asking for an active merchant changes nothing. -/
theorem run_requireActive (merchantId : String) (w : World) :
    (∃ e, (MerchantsService.requireActive merchantId).run w = (.error e, w)) ∨
      ∃ m, w.ActiveMerchant merchantId ∧
        (MerchantsService.requireActive merchantId).run w = (.ok m, w) := by
  unfold MerchantsService.requireActive
  rw [Call.run_bind, Entity.run_findUnique]
  simp only [Prisma.paykhMerchant_get]
  rw [Call.run_lift_bind]
  cases hm : w.paykhMerchants.find? merchantId with
  | none => exact .inl ⟨_, rfl⟩
  | some m =>
    simp only [orThrow]
    rw [Call.run_throwIf_bind]
    split_ifs with hstatus
    · exact .inl ⟨_, rfl⟩
    rw [Call.run_throwIf_bind]
    split_ifs with hkyc
    · exact .inl ⟨_, rfl⟩
    · exact .inr ⟨m, ⟨m, hm, not_not.mp hstatus, not_not.mp hkyc⟩, rfl⟩

/-! ## Settlements -/

structure CreateSettlement where
  tenantId : String
  merchantId : String
  amountMinor : String
  currency : String
  actor : String

/-- `{ id, status }`. -/
structure SettlementResult where
  id : String
  status : SettlementStatus
deriving DecidableEq, Repr

namespace PaykhSettlement

/-- `{ ...settlement, status: APPROVED, approvedById }`. -/
def asApproved (checkerId : String) (s : PaykhSettlement) : PaykhSettlement :=
  { s with status := .approved, approvedById := some checkerId }

/-- `{ ...settlement, status: CONFIRMED, confirmedAt }`. -/
def asConfirmed (confirmedAt : Int) (s : PaykhSettlement) : PaykhSettlement :=
  { s with status := .confirmed, confirmedAt := some confirmedAt }

/-- `{ ...settlement, status: CANCELLED }`. -/
def asCancelled (s : PaykhSettlement) : PaykhSettlement := { s with status := .cancelled }

omit [Runtime]

theorem asApproved_id (checkerId : String) (s : PaykhSettlement) :
    (s.asApproved checkerId).id = s.id := rfl

theorem asConfirmed_id (confirmedAt : Int) (s : PaykhSettlement) :
    (s.asConfirmed confirmedAt).id = s.id := rfl

theorem asCancelled_id (s : PaykhSettlement) : s.asCancelled.id = s.id := rfl

end PaykhSettlement

namespace SettlementsService

open ReserveLedgerService (post)

def requireSettlement (settlementId : String) : Service PaykhSettlement := do
  let s ← Prisma.paykhSettlement.findUnique settlementId
  orThrow s (.notFound ("Settlement " ++ settlementId ++ " not found"))

/-- The row a creation stores. -/
def createdSettlement (input : CreateSettlement) (id : String) (amountMinor : Int) :
    PaykhSettlement where
  id := id
  tenantId := input.tenantId
  merchantId := input.merchantId
  amountMinor := amountMinor
  currency := input.currency
  status := .requested
  approvedById := none
  confirmedAt := none

/-- The audit row that remembers the maker. It is written past the audit service. -/
def makerRow (actor settlementId : String) : AuditLog where
  actor := actor
  actorRole := none
  action := "paykh.settlement.maker"
  subjectType := "PAYKH_SETTLEMENT"
  subjectId := some settlementId
  beforeState := none
  afterState := none
  reason := none
  approvalRef := none
  correlationId := none
  sourceSystem := none

def settlementConstraints (row : PaykhSettlement) (_ : World) : Except ApiError Unit := do
  checkInt8 [row.amountMinor]
  checkTexts [row.tenantId, row.currency]

def create (input : CreateSettlement) (id : String) : Service SettlementResult := do
  let _ ← MerchantsService.requireActive input.merchantId
  let amountMinor ← bigInt input.amountMinor
  let row := createdSettlement input id amountMinor
  let settlement ← Prisma.paykhSettlement.create (settlementConstraints row) row
  AuditService.record
    { actor := input.actor
      action := "paykh.settlement.requested"
      subjectType := "PAYKH_SETTLEMENT"
      subjectId := some settlement.id }
  auditCreate (makerRow input.actor settlement.id)
  return { id := settlement.id, status := settlement.status }

/-- The row names the maker of a settlement. -/
def isMakerRow (settlementId : String) (row : AuditLog) : Bool :=
  row.subjectId = some settlementId ∧ row.action = "paykh.settlement.maker"

/-- The oldest such row. -/
def makerLog (settlementId : String) : Service (Option AuditLog) :=
  Call.read ⟨.auditLog, .findFirst, settlementId⟩ fun w => w.auditLog.find? (isMakerRow settlementId)

def approve (settlementId checkerId : String) : Service SettlementResult := do
  let settlement ← requireSettlement settlementId
  Call.throwIf (settlement.status ≠ .requested)
    (.badRequest ("Settlement cannot be approved from " ++ EnumName.name settlement.status))
  let maker ← makerLog settlementId
  Call.throwIf (maker.any fun row => row.actor = checkerId)
    (.forbidden "A user cannot approve their own settlement (§9)")
  let updated ← Prisma.paykhSettlement.update (textColumns [checkerId]) settlementId
    (PaykhSettlement.asApproved checkerId) (PaykhSettlement.asApproved_id checkerId)
  AuditService.record
    { actor := checkerId
      action := "paykh.settlement.approved"
      subjectType := "PAYKH_SETTLEMENT"
      subjectId := some settlementId }
  EventsService.publishToPaykh PaykhEvent.settlementApproved
    (.object [("settlementId", .string settlementId)])
  return { id := settlementId, status := updated.status }

/-- The entry that discharges the merchant payable. -/
def settlementEntry (s : PaykhSettlement) (settlementId actor : String) :
    Except ApiError JournalEntry :=
  paykhMerchantSettlementEntry (money s.amountMinor s.currency)
    { source := "paykh-settlement:" ++ settlementId
      programId := s.tenantId
      assetId := "FIAT"
      actor
      approvalRef := none
      correlationId := none }

/-- Confirm bank-side settlement and discharge the merchant payable. -/
def confirm (clock : Clock) (settlementId actor : String) : Service SettlementResult := do
  let settlement ← requireSettlement settlementId
  Call.throwIf (settlement.status ≠ .approved ∧ settlement.status ≠ .submitted)
    (.badRequest ("Settlement must be APPROVED/SUBMITTED to confirm, is " ++
      EnumName.name settlement.status))
  let entry ← settlementEntry settlement settlementId actor
  post entry
  let updated ← Prisma.paykhSettlement.update unconstrained settlementId
    (PaykhSettlement.asConfirmed (clock 0)) (PaykhSettlement.asConfirmed_id (clock 0))
  EventsService.publishToPaykh PaykhEvent.settlementConfirmed
    (.object [("settlementId", .string settlementId)])
  return { id := settlementId, status := updated.status }

/-- Cancel a settlement before confirmation. -/
def cancel (settlementId actor : String) : Service SettlementResult := do
  let s ← requireSettlement settlementId
  Call.throwIf (s.status = .confirmed) (.badRequest "A confirmed settlement cannot be cancelled")
  let updated ← Prisma.paykhSettlement.update unconstrained settlementId
    PaykhSettlement.asCancelled PaykhSettlement.asCancelled_id
  AuditService.record
    { actor
      action := "paykh.settlement.cancelled"
      subjectType := "PAYKH_SETTLEMENT"
      subjectId := some settlementId }
  return { id := settlementId, status := updated.status }

end SettlementsService

open SettlementsService

/-! ## Operations -/

inductive SettlementOp
  | create (input : CreateSettlement) (id : String)
  | approve (settlementId checkerId : String)
  | confirm (clock : Clock) (settlementId actor : String)
  | cancel (settlementId actor : String)

def SettlementOp.call : SettlementOp → Service Unit
  | .create input id => (SettlementsService.create input id).void
  | .approve settlementId checkerId => (SettlementsService.approve settlementId checkerId).void
  | .confirm clock settlementId actor =>
    (SettlementsService.confirm clock settlementId actor).void
  | .cancel settlementId actor => (SettlementsService.cancel settlementId actor).void

/-- Serve one operation alone, whether it succeeds or throws. -/
def SettlementOp.step (w : World) (op : SettlementOp) : World := (op.call.run w).2

/-! ## Effects -/

/-- The state with one settlement rewritten. -/
def World.updateSettlement (w : World) (settlementId : String)
    (f : PaykhSettlement → PaykhSettlement) (hf : ∀ s, (f s).id = s.id) : World :=
  { w with paykhSettlements := w.paykhSettlements.modify settlementId f hf }

/-- Someone else than the checker made the settlement, as far as the audit trail says. -/
def MadeByAnother (w : World) (settlementId checkerId : String) : Prop :=
  ∀ row, w.auditLog.find? (isMakerRow settlementId) = some row → row.actor ≠ checkerId

/-- The entry discharges the payable of a settlement. -/
structure IsSettlement (s : PaykhSettlement) (settlementId : String) (e : JournalEntry) : Prop where
  move : IsMove (Runtime.toUpperCase s.currency) liabilityPaykhMerchantPayable
    assetTrusteeBankCash s.amountMinor e.references e
  program : e.references.programId = s.tenantId
  source : e.references.source = "paykh-settlement:" ++ settlementId

/-- The settlement that a creation stores passes every check: its merchant is active, and the
database takes its row. -/
structure Requests (w : World) (input : CreateSettlement) (id : String) (amountMinor : Int) :
    Prop where
  merchant : w.ActiveMerchant input.merchantId
  amount : bigInt input.amountMinor = .ok amountMinor
  constraints : settlementConstraints (createdSettlement input id amountMinor) w = .ok ()
  unused : w.paykhSettlements.find? id = none

/-- What an operation did to the settlements and the ledger. -/
inductive SettlementEffect (w : World) : SettlementOp → World → Prop
  | created {input : CreateSettlement} {id : String} {amountMinor : Int}
      {t : Lib.Table PaykhSettlement.id}
      (ht : w.paykhSettlements.insert? (createdSettlement input id amountMinor) = some t)
      (hrequests : Requests w input id amountMinor) (hactor : FitsText input.actor) :
      SettlementEffect w (.create input id)
        (World.logged { w with paykhSettlements := t }
          [AuditRecord.row
            { actor := input.actor
              action := "paykh.settlement.requested"
              subjectType := "PAYKH_SETTLEMENT"
              subjectId := some id },
            makerRow input.actor id] [])
  | createdUnlogged {input : CreateSettlement} {id : String} {amountMinor : Int}
      {t : Lib.Table PaykhSettlement.id}
      (ht : w.paykhSettlements.insert? (createdSettlement input id amountMinor) = some t)
      (hrequests : Requests w input id amountMinor) (hactor : ¬FitsText input.actor) :
      SettlementEffect w (.create input id) { w with paykhSettlements := t }
  | approved {settlementId checkerId : String} {s : PaykhSettlement}
      (hs : w.paykhSettlements.find? settlementId = some s) (hstatus : s.status = .requested)
      (hmaker : MadeByAnother w settlementId checkerId) (hchecker : FitsText checkerId) :
      SettlementEffect w (.approve settlementId checkerId)
        (w.updateSettlement settlementId (PaykhSettlement.asApproved checkerId)
          (PaykhSettlement.asApproved_id checkerId))
  | confirmed {clock : Clock} {settlementId actor : String} {s : PaykhSettlement}
      {e : JournalEntry} (hs : w.paykhSettlements.find? settlementId = some s)
      (hstatus : s.status = .approved ∨ s.status = .submitted)
      (he : IsSettlement s settlementId e) (hactor : FitsText actor) :
      SettlementEffect w (.confirm clock settlementId actor)
        ((w.posted e).updateSettlement settlementId (PaykhSettlement.asConfirmed (clock 0))
          (PaykhSettlement.asConfirmed_id (clock 0)))
  | cancelled {settlementId actor : String} {s : PaykhSettlement}
      (hs : w.paykhSettlements.find? settlementId = some s) (hstatus : s.status ≠ .confirmed) :
      SettlementEffect w (.cancel settlementId actor)
        (w.updateSettlement settlementId PaykhSettlement.asCancelled PaykhSettlement.asCancelled_id)

theorem run_requireSettlement (settlementId : String) (w : World) :
    (requireSettlement settlementId).run w =
      (orThrow (w.paykhSettlements.find? settlementId)
        (.notFound ("Settlement " ++ settlementId ++ " not found")), w) := rfl

theorem run_updateSettlement {w : World} {settlementId : String} {s : PaykhSettlement}
    (hs : w.paykhSettlements.find? settlementId = some s) {f : PaykhSettlement → PaykhSettlement}
    {hf : ∀ s, (f s).id = s.id} :
    (Prisma.paykhSettlement.update unconstrained settlementId f hf).run w =
      (.ok (f s), w.updateSettlement settlementId f hf) :=
  Entity.run_update_of Prisma.paykhSettlement hs rfl

/-- A creation fails and changes nothing, or stores the settlement and, if the maker's name can be
stored, the row of its maker. -/
theorem run_create_settlement (w : World) (input : CreateSettlement) (id : String) :
    (∃ e, (SettlementsService.create input id).run w = (.error e, w)) ∨
      ∃ amountMinor t,
        w.paykhSettlements.insert? (createdSettlement input id amountMinor) = some t ∧
          Requests w input id amountMinor ∧
          (FitsText input.actor ∧ (SettlementsService.create input id).run w =
              (.ok ⟨id, .requested⟩, World.logged { w with paykhSettlements := t }
                [AuditRecord.row
                  { actor := input.actor
                    action := "paykh.settlement.requested"
                    subjectType := "PAYKH_SETTLEMENT"
                    subjectId := some id },
                  makerRow input.actor id] []) ∨
            ¬FitsText input.actor ∧ ∃ e, (SettlementsService.create input id).run w =
              (.error e, { w with paykhSettlements := t })) := by
  unfold SettlementsService.create
  rw [Call.run_bind]
  rcases run_requireActive input.merchantId w with ⟨e, h⟩ | ⟨m, hmerchant, h⟩
  · rw [h]
    exact .inl ⟨_, rfl⟩
  · rw [h]
    simp only
    rw [Call.run_lift_bind]
    cases hamount : bigInt input.amountMinor with
    | error e => exact .inl ⟨_, rfl⟩
    | ok amountMinor =>
      simp only
      rw [Call.run_bind]
      rcases Entity.run_create_cases Prisma.paykhSettlement
        (settlementConstraints (createdSettlement input id amountMinor))
        (createdSettlement input id amountMinor) w with ⟨e, h⟩ | ⟨t, hconstraints, ht, h⟩
      · rw [h]
        exact .inl ⟨_, rfl⟩
      · rw [h]
        refine .inr ⟨amountMinor, t, ht, ⟨hmerchant, hamount, hconstraints,
          (Lib.Table.insert?_eq_some ht).2⟩, ?_⟩
        simp only
        rw [Call.run_bind]
        by_cases hactor : FitsText input.actor
        · have hmaker : (makerRow input.actor (createdSettlement input id amountMinor).id).Fits :=
            AuditLog.fits_iff.mpr ⟨hactor, by simp [makerRow]⟩
          rw [run_record_of (AuditRecord.fits_iff.mpr ⟨hactor, by simp⟩)]
          simp only
          rw [Call.run_bind, run_auditCreate, if_pos hmaker]
          exact .inl ⟨hactor, by rw [World.logged_logged]; rfl⟩
        · refine .inr ⟨hactor, ?_⟩
          rw [run_record, if_neg fun hfits => hactor (AuditRecord.fits_iff.mp hfits).1]
          exact ⟨_, rfl⟩

theorem create_settlement_served (w : World) (input : CreateSettlement) (id : String) :
    Served (SettlementEffect w (.create input id)) w
      ((SettlementsService.create input id).run w) := by
  rcases run_create_settlement w input id with
    ⟨e, h⟩ | ⟨amountMinor, t, ht, hrequests, ⟨hactor, h⟩ | ⟨hactor, e, h⟩⟩
  · rw [h]
    exact .failed _
  · rw [h, ← World.logged_nil (World.logged _ _ _)]
    exact .done (.created ht hrequests hactor) [] []
  · rw [h, ← World.logged_nil { w with paykhSettlements := t }]
    exact .done (.createdUnlogged ht hrequests hactor) [] []

theorem Served.requireSettlement_bind {β : Type} {effect : World → Prop} {w : World}
    {settlementId : String} {f : PaykhSettlement → Service β}
    (h : ∀ s, w.paykhSettlements.find? settlementId = some s → Served effect w ((f s).run w)) :
    Served effect w ((requireSettlement settlementId >>= f).run w) :=
  .look_bind (run_requireSettlement settlementId w) fun s hs => h s (orThrow_eq_ok.mp hs)

theorem approve_settlement_served (w : World) (settlementId checkerId : String) :
    Served (SettlementEffect w (.approve settlementId checkerId)) w
      ((SettlementsService.approve settlementId checkerId).run w) := by
  unfold SettlementsService.approve makerLog
  refine .requireSettlement_bind fun s hs => ?_
  refine .throwIf_bind fun hstatus => ?_
  rw [Call.run_read_bind]
  refine .throwIf_bind fun hmaker => ?_
  refine .checked_update_bind Prisma.paykhSettlement hs fun hchecker => ?_
  refine .logs (.approved hs (not_not.mp hstatus) ?_ ?_) (.record_bind (.event_bind (logs_pure _)))
  · intro row hrow hactor
    exact hmaker (by simp [hrow, hactor])
  · exact checkTexts_eq_ok.mp hchecker checkerId List.mem_cons_self

theorem confirm_settlement_served (w : World) (clock : Clock) (settlementId actor : String) :
    Served (SettlementEffect w (.confirm clock settlementId actor)) w
      ((SettlementsService.confirm clock settlementId actor).run w) := by
  unfold SettlementsService.confirm
  refine .requireSettlement_bind fun s hs => ?_
  refine .throwIf_bind fun hstatus => ?_
  refine .lift_bind fun e he => ?_
  obtain ⟨-, hmove⟩ := buildJournalEntry_move he
  have hrefs := hmove.entry_references
  refine .post_bind e fun hstored => ?_
  rw [Call.run_bind, run_updateSettlement (w := w.posted e) hs]
  simp only [Call.run_bind, run_publishToPaykh, Call.run_pure]
  exact .done (.confirmed hs (by tauto)
    ⟨hrefs ▸ hmove, by rw [hrefs], by rw [hrefs]⟩ (actor_of_transferEntry he hstored)) [] _

theorem cancel_settlement_served (w : World) (settlementId actor : String) :
    Served (SettlementEffect w (.cancel settlementId actor)) w
      ((SettlementsService.cancel settlementId actor).run w) := by
  unfold SettlementsService.cancel
  refine .requireSettlement_bind fun s hs => ?_
  refine .throwIf_bind fun hstatus => ?_
  rw [Call.run_bind, run_updateSettlement hs]
  exact .logs (.cancelled hs hstatus) (.record_bind (logs_pure _))

/-- **Every operation fails, or has an effect in the list.** -/
theorem SettlementOp.served (w : World) (op : SettlementOp) :
    Served (SettlementEffect w op) w (op.call.run w) := by
  cases op with
  | create input id => exact (create_settlement_served w input id).void
  | approve settlementId checkerId =>
    exact (approve_settlement_served w settlementId checkerId).void
  | confirm clock settlementId actor =>
    exact (confirm_settlement_served w clock settlementId actor).void
  | cancel settlementId actor => exact (cancel_settlement_served w settlementId actor).void

/-! ## Views -/

section

variable {τ : Type} {g : World → τ}

theorem requireActive_keeps (merchantId : String) :
    (MerchantsService.requireActive merchantId).Keeps g := by
  unfold MerchantsService.requireActive
  refine (Call.keeps_read _ _ _).bind fun found => (Call.keeps_lift _ _).bind fun m => ?_
  refine (Call.keeps_throwIf _ _ _).bind fun _ => (Call.keeps_throwIf _ _ _).bind fun _ => ?_
  exact Call.keeps_pure _ _

theorem requireSettlement_keeps (settlementId : String) :
    (requireSettlement settlementId).Keeps g :=
  (Call.keeps_read _ _ _).bind fun _ => Call.keeps_lift _ _

end

end

end TrusteeBank
