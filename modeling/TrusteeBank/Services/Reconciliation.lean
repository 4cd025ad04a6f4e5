import TrusteeBank.Infra

/-!
# Reconciliations of PayKH records

`ReconciliationService` compares the trustee's own records and stores a run with the exceptions it
found. It rewrites none of the records it compares.

**Theorem (`PaykhReconciliationOp.served`).** A reconciliation fails and changes nothing, or it
stores one run.
-/

set_option autoImplicit false

namespace TrusteeBank

open Lib (Call)

section

variable [Runtime]

namespace ReconciliationService

/-! ## Exceptions -/

omit [Runtime] in
/-- A text that is present and not empty. -/
def present (text : Option String) : Bool := text.any fun s => s ≠ ""

omit [Runtime] in
def confirmedWithoutBankTxn (orders : List PaykhPaymentOrder) : List ReconciliationException :=
  (orders.filter fun o => o.status = .confirmed && !present o.matchedBankTransactionId).map fun o =>
    ⟨"CONFIRMED_WITHOUT_BANK_TXN", .object [("orderId", .string o.id)]⟩

omit [Runtime] in
/-- `byTxn.set(txn, [...(byTxn.get(txn) ?? []), id])`, in the order of the first uses. -/
def addUse (byTxn : List (String × List String)) (txn id : String) : List (String × List String) :=
  if byTxn.any fun use => use.1 = txn then
    byTxn.map fun use => if use.1 = txn then (txn, use.2 ++ [id]) else use
  else byTxn ++ [(txn, [id])]

omit [Runtime] in
/-- The orders of each bank transaction. -/
def usesByTxn (orders : List PaykhPaymentOrder) : List (String × List String) :=
  orders.foldl (fun byTxn o =>
    match o.matchedBankTransactionId.filter fun s => s ≠ "" with
    | some txn => addUse byTxn txn o.id
    | none => byTxn) []

omit [Runtime] in
def duplicateBankTxns (orders : List PaykhPaymentOrder) : List ReconciliationException :=
  ((usesByTxn orders).filter fun use => 1 < use.2.length).map fun use =>
    ⟨"DUPLICATE_BANK_TXN",
      .object [("bankTransactionId", .string use.1), ("orderIds", .strings use.2)]⟩

omit [Runtime] in
def confirmedWithoutTimestamp (settlements : List PaykhSettlement) :
    List ReconciliationException :=
  (settlements.filter fun s => s.status = .confirmed && s.confirmedAt.isNone).map fun s =>
    ⟨"CONFIRMED_WITHOUT_TIMESTAMP", .object [("settlementId", .string s.id)]⟩

/-! ## Runs -/

/-- The row of a run over the records of a tenant. -/
def tenantRun (id : String) (createdAt : Int) (scope tenantId : String) (summary : JsValue)
    (exceptions : List ReconciliationException) (actor : String) : ReconciliationRun where
  id := id
  scope := scope
  programId := none
  tenantId := some tenantId
  status := if exceptions.length ≠ 0 then "EXCEPTIONS" else "OK"
  summary := summary
  createdBy := some actor
  createdAt := createdAt
  exceptions := exceptions

def runConstraints (row : ReconciliationRun) : Except ApiError Unit :=
  checkTexts (row.tenantId.toList ++ row.createdBy.toList)

/-- Store the run; the identifier and the time are the database's. -/
def record (row : ReconciliationRun) : Service ReconciliationRun :=
  Prisma.reconciliationRun.create (fun _ => runConstraints row) row

/-- Detect orders in an anomalous state. -/
def reconcilePaymentOrders (id : String) (createdAt : Int) (tenantId actor : String) :
    Service ReconciliationRun := do
  let orders ← Prisma.paykhPaymentOrder.findMany tenantId fun o => o.tenantId = tenantId
  record (tenantRun id createdAt "PAYMENT_ORDERS" tenantId
    (.object [("orderCount", .number orders.length)])
    (confirmedWithoutBankTxn orders ++ duplicateBankTxns orders) actor)

def reconcileSettlements (id : String) (createdAt : Int) (tenantId actor : String) :
    Service ReconciliationRun := do
  let settlements ← Prisma.paykhSettlement.findMany tenantId fun s => s.tenantId = tenantId
  record (tenantRun id createdAt "MERCHANT_SETTLEMENTS" tenantId
    (.object [("settlementCount", .number settlements.length)])
    (confirmedWithoutTimestamp settlements) actor)

end ReconciliationService

open ReconciliationService

/-! ## Operations -/

inductive PaykhReconciliationOp
  | paymentOrders (id : String) (createdAt : Int) (tenantId actor : String)
  | settlements (id : String) (createdAt : Int) (tenantId actor : String)

def PaykhReconciliationOp.call : PaykhReconciliationOp → Service Unit
  | .paymentOrders id createdAt tenantId actor =>
    (reconcilePaymentOrders id createdAt tenantId actor).void
  | .settlements id createdAt tenantId actor =>
    (reconcileSettlements id createdAt tenantId actor).void

/-- Serve one operation alone, whether it succeeds or throws. -/
def PaykhReconciliationOp.step (w : World) (op : PaykhReconciliationOp) : World := (op.call.run w).2

/-! ## Effects -/

/-- A run is stored. -/
inductive ReconciliationEffect (w : World) : World → Prop
  | recorded {row : ReconciliationRun} {t : Lib.Table ReconciliationRun.id}
      (ht : w.reconciliationRuns.insert? row = some t) :
      ReconciliationEffect w { w with reconciliationRuns := t }

theorem record_served (w : World) (row : ReconciliationRun) :
    Served (ReconciliationEffect w) w ((record row).run w) := by
  unfold ReconciliationService.record
  rcases Entity.run_create_cases Prisma.reconciliationRun (fun _ => runConstraints row) row w with
    ⟨e, h⟩ | ⟨t, -, ht, h⟩
  · rw [h]
    exact .failed _
  · rw [h]
    have hdone := Served.done (w := w) (r := .ok row) (.recorded ht : ReconciliationEffect w _)
      [] []
    rw [World.logged_nil] at hdone
    exact hdone

/-- **A reconciliation fails or stores one run.** -/
theorem PaykhReconciliationOp.served (w : World) (op : PaykhReconciliationOp) :
    Served (ReconciliationEffect w) w (op.call.run w) := by
  cases op with
  | paymentOrders id createdAt tenantId actor =>
    refine Served.void ?_
    unfold reconcilePaymentOrders
    rw [Call.run_bind, Entity.run_findMany]
    exact record_served w _
  | settlements id createdAt tenantId actor =>
    refine Served.void ?_
    unfold reconcileSettlements
    rw [Call.run_bind, Entity.run_findMany]
    exact record_served w _

end

end TrusteeBank
