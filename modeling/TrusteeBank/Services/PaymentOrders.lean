import TrusteeBank.Infra

/-!
# Payment orders

`PaymentOrdersService`: an order of a tenant is paid by one bank transaction. `checkPayment`
compares a bank transaction with the order and its profile, books the collected payment and
confirms the order; `refund` reverses the booking; an unpaid order can be cancelled, and an order
checked after its deadline expires.

**Theorem (`PaymentOp.effect`).** An operation creates, expires, confirms, refunds or cancels one
order, or changes nothing besides the audit trail and the events. If a bank transaction were on
two orders, a payment could be booked on an order that is then not confirmed.
-/

set_option autoImplicit false

namespace TrusteeBank

open Lib (Call)
open LedgerAccountCode

section

variable [Runtime]

structure CreatePaymentOrder where
  tenantId : String
  profileId : String
  amountMinor : String
  currency : String
  ttlSeconds : Option Int
  actor : String

structure CheckPaymentInput where
  bankTransactionId : String
  amountMinor : String
  currency : String
  paymentReference : String
  recipientAccountMasked : String
  reserveAccountId : String
  actor : String

/-- `{ id, status, paymentReference, khqrString, expiresAt }`. -/
structure CreatedPaymentOrder where
  id : String
  status : PaymentOrderStatus
  paymentReference : String
  khqrString : Option String
  expiresAt : String
deriving DecidableEq, Repr

/-- `{ id, status, alreadyConfirmed? }`. -/
structure PaymentOrderResult where
  id : String
  status : PaymentOrderStatus
  alreadyConfirmed : Option Bool
deriving DecidableEq, Repr

namespace PaykhPaymentOrder

/-- `{ ...order, status: EXPIRED }`. -/
def asExpired (order : PaykhPaymentOrder) : PaykhPaymentOrder := { order with status := .expired }

/-- `{ ...order, status: CONFIRMED, matchedBankTransactionId, confirmedAt }`. -/
def asConfirmed (bankTransactionId : String) (confirmedAt : Int) (order : PaykhPaymentOrder) :
    PaykhPaymentOrder :=
  { order with
    status := .confirmed
    matchedBankTransactionId := some bankTransactionId
    confirmedAt := some confirmedAt }

/-- `{ ...order, status: REFUNDED }`. -/
def asRefunded (order : PaykhPaymentOrder) : PaykhPaymentOrder :=
  { order with status := .refunded }

/-- `{ ...order, status: CANCELLED }`. -/
def asCancelled (order : PaykhPaymentOrder) : PaykhPaymentOrder :=
  { order with status := .cancelled }

omit [Runtime]

theorem asExpired_id (order : PaykhPaymentOrder) : order.asExpired.id = order.id := rfl

theorem asConfirmed_id (bankTransactionId : String) (confirmedAt : Int)
    (order : PaykhPaymentOrder) :
    (order.asConfirmed bankTransactionId confirmedAt).id = order.id := rfl

theorem asRefunded_id (order : PaykhPaymentOrder) : order.asRefunded.id = order.id := rfl

theorem asCancelled_id (order : PaykhPaymentOrder) : order.asCancelled.id = order.id := rfl

end PaykhPaymentOrder

namespace PaymentOrdersService

open ReserveLedgerService (post)

def requireOrder (orderId : String) : Service PaykhPaymentOrder := do
  let o ← Prisma.paykhPaymentOrder.findUnique orderId
  orThrow o (.notFound ("Payment order " ++ orderId ++ " not found"))

/-! ## Create -/

def buildKhqr (basePayload amountMinor reference : String) : String :=
  basePayload ++ "|amt=" ++ amountMinor ++ "|ref=" ++ reference

/-- A new payment reference, from a random UUID. -/
def paymentReferenceOf (uuid : String) : String :=
  "KHQR-" ++ Runtime.toUpperCase (String.ofList (uuid.toList.take 12))

/-- The row a creation stores. -/
def createdRow (input : CreatePaymentOrder) (id paymentReference khqrPayload : String)
    (amountMinor expiresAt : Int) : PaykhPaymentOrder where
  id := id
  tenantId := input.tenantId
  profileId := input.profileId
  amountMinor := amountMinor
  currency := input.currency
  paymentReference := paymentReference
  khqrString := some (buildKhqr khqrPayload input.amountMinor paymentReference)
  status := .awaitingPayment
  matchedBankTransactionId := none
  confirmedAt := none
  expiresAt := expiresAt

def orderConstraints (row : PaykhPaymentOrder) (w : World) : Except ApiError Unit := do
  checkTexts [row.tenantId]
  checkInt8 [row.amountMinor]
  checkUnique (w.paykhPaymentOrders.rows.any fun o => o.paymentReference = row.paymentReference)
  checkForeignKey (w.paykhPaymentProfiles.find? row.profileId).isSome

def create (clock : Clock) (input : CreatePaymentOrder) (id uuid : String) :
    Service CreatedPaymentOrder := do
  let found ← Prisma.paykhPaymentProfile.findUnique input.profileId
  let profile ← orThrow found (.notFound "Payment profile not found")
  Call.throwIf (profile.status ≠ .active)
    (.badRequest "Payment profile must be ACTIVE to accept orders")
  Call.throwIf (profile.currency ≠ input.currency)
    (.badRequest "Order currency does not match profile currency")
  let paymentReference := paymentReferenceOf uuid
  let ttl := input.ttlSeconds.getD 900
  let expiresAt := newDate (some (clock 0 + ttl * 1000))
  let amountMinor ← bigInt input.amountMinor
  let expires ← checkDate expiresAt
  let row := createdRow input id paymentReference profile.khqrPayload amountMinor expires
  let order ← Prisma.paykhPaymentOrder.create (orderConstraints row) row
  AuditService.record
    { actor := input.actor
      action := "paykh.payment_order.created"
      subjectType := "PAYKH_PAYMENT_ORDER"
      subjectId := some order.id
      afterState := some (.object [("paymentReference", .string paymentReference),
        ("amountMinor", .string input.amountMinor)]) }
  return {
    id := order.id
    status := order.status
    paymentReference
    khqrString := order.khqrString
    expiresAt := isoString order.expiresAt }

/-! ## Check a payment -/

/-- What does not match between a bank transaction, the order and its profile. -/
def mismatches (input : CheckPaymentInput) (order : PaykhPaymentOrder)
    (profile : Option PaykhPaymentProfile) (amountMinor : Int) : List String :=
  (if amountMinor ≠ order.amountMinor then ["amount"] else []) ++
    (if input.currency ≠ order.currency then ["currency"] else []) ++
    (if input.paymentReference ≠ order.paymentReference then ["reference"] else []) ++
    if profile.any fun p => input.recipientAccountMasked ≠ p.recipientAccountMasked then
      ["recipient"] else []

/-- The entry that books a collected payment; the tenant acts as the program dimension. -/
def collectionEntry (order : PaykhPaymentOrder) (orderId actor : String) :
    Except ApiError JournalEntry :=
  paykhPaymentCollectionEntry (money order.amountMinor order.currency)
    { source := "paykh-order:" ++ orderId
      programId := order.tenantId
      assetId := "FIAT"
      actor
      approvalRef := none
      correlationId := none }

/-- `matchedBankTransactionId` is unique. -/
def matchConstraints (orderId bankTransactionId : String) (w : World)
    (_ : PaykhPaymentOrder) : Except ApiError Unit :=
  checkUnique (w.paykhPaymentOrders.rows.any fun o =>
    o.id ≠ orderId && o.matchedBankTransactionId = some bankTransactionId)

/-- Refuse a bank transaction that is on another order. -/
def refuseDuplicate (orderId bankTransactionId : String) (priorUse : Option PaykhPaymentOrder) :
    Service Unit :=
  match priorUse.filter fun o => o.id ≠ orderId with
  | some priorUse => do
    EventsService.publishToPaykh PaykhEvent.paymentDuplicate
      (.object [("orderId", .string orderId), ("bankTransactionId", .string bankTransactionId),
        ("conflictingOrderId", .string priorUse.id)])
    throw (.conflict "Bank transaction already applied to another payment order (duplicate)")
  | none => pure ()

/-- Refuse a payment that does not match. -/
def refuseMismatches (orderId : String) (mismatches : List String) : Service Unit :=
  if 0 < mismatches.length then do
    EventsService.publishToPaykh PaykhEvent.paymentRejected
      (.object [("orderId", .string orderId), ("mismatches", .strings mismatches)])
    throw (.badRequestBody "Payment does not match order" "mismatches" mismatches)
  else pure ()

/-- An order past its deadline expires, and the request fails. -/
def refuseExpired (orderId : String) (expired : Prop) [Decidable expired] : Service Unit :=
  if expired then do
    let _ ← Prisma.paykhPaymentOrder.update unconstrained orderId PaykhPaymentOrder.asExpired
      PaykhPaymentOrder.asExpired_id
    throw (.badRequest "Payment order expired")
  else pure ()

/-- Confirm a matching bank transaction against an order that awaits payment. -/
def applyPayment (clock : Clock) (orderId : String) (input : CheckPaymentInput)
    (order : PaykhPaymentOrder) : Service PaymentOrderResult := do
  refuseExpired orderId (order.expiresAt < clock 0)
  -- A text the database cannot hold fails the search already.
  checkTexts [input.bankTransactionId]
  let priorUse ← Prisma.paykhPaymentOrder.findFirst input.bankTransactionId
    fun o => o.matchedBankTransactionId = some input.bankTransactionId
  refuseDuplicate orderId input.bankTransactionId priorUse
  let amountMinor ← bigInt input.amountMinor
  let profile ← Prisma.paykhPaymentProfile.findUnique order.profileId
  refuseMismatches orderId (mismatches input order profile amountMinor)
  let entry ← collectionEntry order orderId input.actor
  post entry
  let updated ← Prisma.paykhPaymentOrder.update (matchConstraints orderId input.bankTransactionId)
    orderId (PaykhPaymentOrder.asConfirmed input.bankTransactionId (clock 1))
    (PaykhPaymentOrder.asConfirmed_id input.bankTransactionId (clock 1))
  AuditService.record
    { actor := input.actor
      action := "paykh.payment.confirmed"
      subjectType := "PAYKH_PAYMENT_ORDER"
      subjectId := some orderId
      afterState := some (.object [("status", .string (EnumName.name updated.status)),
        ("bankTransactionId", .string input.bankTransactionId)]) }
  EventsService.publishToPaykh PaykhEvent.paymentConfirmed
    (.object [("orderId", .string orderId), ("tenantId", .string order.tenantId),
      ("amountMinor", .string (toString order.amountMinor)), ("currency", .string order.currency),
      ("bankTransactionId", .string input.bankTransactionId)])
  return { id := orderId, status := updated.status, alreadyConfirmed := none }

/-- Confirm a bank transaction against an order. -/
def checkPayment (clock : Clock) (orderId : String) (input : CheckPaymentInput) :
    Service PaymentOrderResult := do
  let order ← requireOrder orderId
  if order.status = .confirmed then
    -- Idempotent success only if it is the same bank transaction.
    Call.throwIf (order.matchedBankTransactionId ≠ some input.bankTransactionId)
      (.conflict "Order already confirmed by a different bank transaction")
    return { id := orderId, status := order.status, alreadyConfirmed := some true }
  else
    Call.throwIf (order.status ≠ .awaitingPayment ∧ order.status ≠ .paymentDetected)
      (.badRequest ("Order cannot be confirmed from " ++ EnumName.name order.status))
    applyPayment clock orderId input order

/-! ## Refund and cancel -/

/-- The entry that reverses the collection of an order. -/
def refundEntry (order : PaykhPaymentOrder) (orderId actor reason : String) :
    Except ApiError JournalEntry := do
  let collection ← collectionEntry order orderId actor
  reverse collection ("paykh-refund:" ++ orderId) actor reason

/-- Refund a confirmed payment. -/
def refund (orderId actor reason : String) : Service PaymentOrderResult := do
  let order ← requireOrder orderId
  Call.throwIf (order.status ≠ .confirmed)
    (.badRequest ("Only CONFIRMED orders can be refunded, is " ++ EnumName.name order.status))
  let entry ← refundEntry order orderId actor reason
  post entry
  let updated ← Prisma.paykhPaymentOrder.update unconstrained orderId PaykhPaymentOrder.asRefunded
    PaykhPaymentOrder.asRefunded_id
  AuditService.record
    { actor
      action := "paykh.payment.refunded"
      subjectType := "PAYKH_PAYMENT_ORDER"
      subjectId := some orderId
      reason := some reason }
  EventsService.publishToPaykh PaykhEvent.paymentRefunded
    (.object [("orderId", .string orderId), ("tenantId", .string order.tenantId),
      ("amountMinor", .string (toString order.amountMinor))])
  return { id := orderId, status := updated.status, alreadyConfirmed := none }

/-- Cancel an unpaid order. -/
def cancel (orderId actor : String) : Service PaymentOrderResult := do
  let o ← requireOrder orderId
  Call.throwIf (o.status = .confirmed)
    (.badRequest "A confirmed order cannot be cancelled (use refund)")
  let updated ← Prisma.paykhPaymentOrder.update unconstrained orderId
    PaykhPaymentOrder.asCancelled PaykhPaymentOrder.asCancelled_id
  AuditService.record
    { actor
      action := "paykh.payment_order.cancelled"
      subjectType := "PAYKH_PAYMENT_ORDER"
      subjectId := some orderId }
  return { id := orderId, status := updated.status, alreadyConfirmed := none }

end PaymentOrdersService

open PaymentOrdersService

/-! ## Operations -/

inductive PaymentOp
  | create (clock : Clock) (input : CreatePaymentOrder) (id uuid : String)
  | checkPayment (clock : Clock) (orderId : String) (input : CheckPaymentInput)
  | refund (orderId actor reason : String)
  | cancel (orderId actor : String)

def PaymentOp.call : PaymentOp → Service Unit
  | .create clock input id uuid => (PaymentOrdersService.create clock input id uuid).void
  | .checkPayment clock orderId input =>
    (PaymentOrdersService.checkPayment clock orderId input).void
  | .refund orderId actor reason => (PaymentOrdersService.refund orderId actor reason).void
  | .cancel orderId actor => (PaymentOrdersService.cancel orderId actor).void

/-- Serve one operation alone, whether it succeeds or throws. -/
def PaymentOp.step (w : World) (op : PaymentOp) : World := (op.call.run w).2

/-! ## Effects -/

/-- The state with one order rewritten. -/
def World.updateOrder (w : World) (orderId : String) (f : PaykhPaymentOrder → PaykhPaymentOrder)
    (hf : ∀ o, (f o).id = o.id) : World :=
  { w with paykhPaymentOrders := w.paykhPaymentOrders.modify orderId f hf }

theorem find?_updateOrder {w : World} {orderId : String} {o : PaykhPaymentOrder}
    (ho : w.paykhPaymentOrders.find? orderId = some o) (f : PaykhPaymentOrder → PaykhPaymentOrder)
    (hf : ∀ o, (f o).id = o.id) :
    (w.updateOrder orderId f hf).paykhPaymentOrders.find? orderId = some (f o) := by
  show (w.paykhPaymentOrders.modify orderId f hf).find? orderId = some (f o)
  rw [Lib.Table.find?_modify, if_pos rfl, ho, Option.map_some]

/-- The order awaits its payment. -/
def PaykhPaymentOrder.Awaits (o : PaykhPaymentOrder) : Prop :=
  o.status = .awaitingPayment ∨ o.status = .paymentDetected

/-- A bank transaction presented at a time pays an order: nothing is late and nothing differs. -/
structure Pays (w : World) (clock : Clock) (input : CheckPaymentInput) (o : PaykhPaymentOrder) :
    Prop where
  in_time : clock 0 ≤ o.expiresAt
  amount : bigInt input.amountMinor = .ok o.amountMinor
  currency : input.currency = o.currency
  reference : input.paymentReference = o.paymentReference
  recipient : ∀ profile, w.paykhPaymentProfiles.find? o.profileId = some profile →
    input.recipientAccountMasked = profile.recipientAccountMasked

/-- The texts of a payment can be stored. -/
structure CheckPaymentInput.Fits (input : CheckPaymentInput) : Prop where
  transaction : FitsText input.bankTransactionId
  actor : FitsText input.actor

/-- The bank transaction is on no other order. -/
def Unmatched (w : World) (orderId bankTransactionId : String) : Prop :=
  ∀ o ∈ w.paykhPaymentOrders.rows, o.matchedBankTransactionId = some bankTransactionId →
    o.id = orderId

/-- The entry books the collected payment of an order. -/
structure IsCollection (o : PaykhPaymentOrder) (orderId : String) (e : JournalEntry) : Prop where
  move : IsMove (Runtime.toUpperCase o.currency) assetTrusteeBankCash liabilityPaykhMerchantPayable
    o.amountMinor e.references e
  program : e.references.programId = o.tenantId
  source : e.references.source = "paykh-order:" ++ orderId

/-- The entry reverses the collected payment of an order. -/
structure IsRefund (o : PaykhPaymentOrder) (orderId : String) (e : JournalEntry) : Prop where
  net : ∃ collection, IsCollection o orderId collection ∧ ∀ programId c a,
    ledgerNet [e] programId c a = -ledgerNet [collection] programId c a
  program : e.references.programId = o.tenantId
  source : e.references.source = "paykh-refund:" ++ orderId

/-- The order that a creation stores passes every check: its profile is active and in its currency,
and the database takes its row. -/
structure Places (w : World) (clock : Clock) (input : CreatePaymentOrder) (id uuid : String)
    (profile : PaykhPaymentProfile) (amountMinor expiresAt : Int) : Prop where
  found : w.paykhPaymentProfiles.find? input.profileId = some profile
  active : profile.status = .active
  currency : profile.currency = input.currency
  amount : bigInt input.amountMinor = .ok amountMinor
  expires : checkDate (newDate (some (clock 0 + input.ttlSeconds.getD 900 * 1000))) = .ok expiresAt
  constraints : orderConstraints (createdRow input id (paymentReferenceOf uuid) profile.khqrPayload
    amountMinor expiresAt) w = .ok ()
  unused : w.paykhPaymentOrders.find? id = none

/-- What an operation did to the orders and the ledger. -/
inductive PaymentEffect (w : World) : PaymentOp → World → Prop
  | unchanged {op : PaymentOp} : PaymentEffect w op w
  | created {clock : Clock} {input : CreatePaymentOrder} {id uuid : String}
      {profile : PaykhPaymentProfile} {amountMinor expiresAt : Int}
      {t : Lib.Table PaykhPaymentOrder.id}
      (hplaces : Places w clock input id uuid profile amountMinor expiresAt)
      (ht : w.paykhPaymentOrders.insert? (createdRow input id (paymentReferenceOf uuid)
        profile.khqrPayload amountMinor expiresAt) = some t) :
      PaymentEffect w (.create clock input id uuid) { w with paykhPaymentOrders := t }
  | expired {clock : Clock} {orderId : String} {input : CheckPaymentInput} {o : PaykhPaymentOrder}
      (ho : w.paykhPaymentOrders.find? orderId = some o) (hawaits : o.Awaits) :
      PaymentEffect w (.checkPayment clock orderId input)
        (w.updateOrder orderId PaykhPaymentOrder.asExpired PaykhPaymentOrder.asExpired_id)
  | booked {clock : Clock} {orderId : String} {input : CheckPaymentInput} {o : PaykhPaymentOrder}
      {e : JournalEntry} (ho : w.paykhPaymentOrders.find? orderId = some o) (hawaits : o.Awaits)
      (hpays : Pays w clock input o)
      (hprior : ∃ o ∈ w.paykhPaymentOrders.rows, o.id = orderId ∧
        o.matchedBankTransactionId = some input.bankTransactionId)
      (htaken : ¬Unmatched w orderId input.bankTransactionId) (he : IsCollection o orderId e)
      (htexts : input.Fits) :
      PaymentEffect w (.checkPayment clock orderId input) (w.posted e)
  | confirmed {clock : Clock} {orderId : String} {input : CheckPaymentInput}
      {o : PaykhPaymentOrder} {e : JournalEntry}
      (ho : w.paykhPaymentOrders.find? orderId = some o) (hawaits : o.Awaits)
      (hpays : Pays w clock input o) (hfree : Unmatched w orderId input.bankTransactionId)
      (he : IsCollection o orderId e) (htexts : input.Fits) :
      PaymentEffect w (.checkPayment clock orderId input)
        ((w.posted e).updateOrder orderId
          (PaykhPaymentOrder.asConfirmed input.bankTransactionId (clock 1))
          (PaykhPaymentOrder.asConfirmed_id input.bankTransactionId (clock 1)))
  | refunded {orderId actor reason : String} {o : PaykhPaymentOrder} {e : JournalEntry}
      (ho : w.paykhPaymentOrders.find? orderId = some o) (hstatus : o.status = .confirmed)
      (he : IsRefund o orderId e) :
      PaymentEffect w (.refund orderId actor reason)
        ((w.posted e).updateOrder orderId PaykhPaymentOrder.asRefunded
          PaykhPaymentOrder.asRefunded_id)
  | cancelled {orderId actor : String} {o : PaykhPaymentOrder}
      (ho : w.paykhPaymentOrders.find? orderId = some o) (hstatus : o.status ≠ .confirmed) :
      PaymentEffect w (.cancel orderId actor)
        (w.updateOrder orderId PaykhPaymentOrder.asCancelled PaykhPaymentOrder.asCancelled_id)

/-- The operation had an effect of the list, and appended audit rows and events. -/
def HasPaymentEffect (w : World) (op : PaymentOp) (w' : World) : Prop :=
  ∃ w₁ rows events, PaymentEffect w op w₁ ∧ w' = w₁.logged rows events

theorem HasPaymentEffect.unchanged {w : World} {op : PaymentOp} : HasPaymentEffect w op w :=
  ⟨w, [], [], .unchanged, by simp⟩

theorem HasPaymentEffect.logged {w : World} {op : PaymentOp} (rows : List AuditLog)
    (events : List OutboxEvent) : HasPaymentEffect w op (w.logged rows events) :=
  ⟨w, rows, events, .unchanged, rfl⟩

theorem run_requireOrder (orderId : String) (w : World) :
    (requireOrder orderId).run w = (orThrow (w.paykhPaymentOrders.find? orderId)
      (.notFound ("Payment order " ++ orderId ++ " not found")), w) := rfl

theorem run_updateOrder {w : World} {orderId : String} {o : PaykhPaymentOrder}
    (ho : w.paykhPaymentOrders.find? orderId = some o)
    {check : World → PaykhPaymentOrder → Except ApiError Unit} (hcheck : check w o = .ok ())
    {f : PaykhPaymentOrder → PaykhPaymentOrder} {hf : ∀ o, (f o).id = o.id} :
    (Prisma.paykhPaymentOrder.update check orderId f hf).run w =
      (.ok (f o), w.updateOrder orderId f hf) :=
  Entity.run_update_of Prisma.paykhPaymentOrder ho hcheck

theorem create_payment_effect (w : World) (clock : Clock) (input : CreatePaymentOrder)
    (id uuid : String) : HasPaymentEffect w (.create clock input id uuid)
      ((PaymentOrdersService.create clock input id uuid).run w).2 := by
  refine Served.effect .unchanged ?_
  unfold PaymentOrdersService.create
  refine .find_bind Prisma.paykhPaymentProfile fun profile hprofile => ?_
  refine .throwIf_bind fun hactive => ?_
  refine .throwIf_bind fun hcurrency => ?_
  refine .lift_bind fun minor hminor => ?_
  refine .lift_bind fun expires hexpires => ?_
  refine .checked_create_bind Prisma.paykhPaymentOrder fun hconstraints t ht => ?_
  exact .logs (.created ⟨hprofile, not_ne_iff.mp hactive, not_ne_iff.mp hcurrency, hminor, hexpires,
    hconstraints, (Lib.Table.insert?_eq_some ht).2⟩ ht) (.record_bind (logs_pure _))

omit [Runtime] in
/-- The mismatches are empty exactly when everything that can be compared is equal. -/
theorem mismatches_eq_nil {input : CheckPaymentInput} {o : PaykhPaymentOrder}
    {profile : Option PaykhPaymentProfile} {amountMinor : Int} :
    mismatches input o profile amountMinor = [] ↔ amountMinor = o.amountMinor ∧
      input.currency = o.currency ∧ input.paymentReference = o.paymentReference ∧
        ∀ p, profile = some p → input.recipientAccountMasked = p.recipientAccountMasked := by
  unfold mismatches
  cases profile <;> simp

theorem run_refuseExpired {w : World} {orderId : String} {o : PaykhPaymentOrder}
    (ho : w.paykhPaymentOrders.find? orderId = some o) (late : Prop) [Decidable late] :
    (refuseExpired orderId late).run w =
      if late then (.error (.badRequest "Payment order expired"),
        w.updateOrder orderId PaykhPaymentOrder.asExpired PaykhPaymentOrder.asExpired_id)
      else (.ok (), w) := by
  unfold refuseExpired
  split_ifs
  · rw [Call.run_bind, run_updateOrder ho rfl]
    rfl
  · rfl

/-- A bank transaction on no other order is let through, any other is reported. -/
theorem run_refuseDuplicate (w : World) (orderId bankTransactionId : String)
    (priorUse : Option PaykhPaymentOrder) :
    (∃ e events, (refuseDuplicate orderId bankTransactionId priorUse).run w =
        (.error e, w.logged [] events)) ∨
      (∀ o, priorUse = some o → o.id = orderId) ∧
        (refuseDuplicate orderId bankTransactionId priorUse).run w = (.ok (), w) := by
  unfold refuseDuplicate
  cases priorUse with
  | none => exact .inr ⟨nofun, rfl⟩
  | some o =>
    by_cases hid : o.id = orderId
    · right
      refine ⟨fun o' ho' => ?_, ?_⟩
      · cases ho'
        exact hid
      · simp only [Option.filter, hid, ne_eq, not_true_eq_false, decide_false, Bool.false_eq_true,
          if_false]
        rfl
    · left
      simp only [Option.filter, hid, ne_eq, not_false_eq_true, decide_true, if_true]
      exact ⟨_, _, rfl⟩

theorem run_refuseMismatches (w : World) (orderId : String) (items : List String) :
    (∃ e events, (refuseMismatches orderId items).run w = (.error e, w.logged [] events)) ∨
      items = [] ∧ (refuseMismatches orderId items).run w = (.ok (), w) := by
  unfold refuseMismatches
  split_ifs with h
  · exact .inl ⟨_, _, rfl⟩
  · exact .inr ⟨List.length_eq_zero_iff.mp (by omega), rfl⟩

/-- The order the first search for a bank transaction finds, if it is the one being paid. -/
theorem unmatched_or_taken {w : World} {orderId bankTransactionId : String}
    (hprior : ∀ o, w.paykhPaymentOrders.rows.find?
      (fun o => decide (o.matchedBankTransactionId = some bankTransactionId)) = some o →
        o.id = orderId) :
    Unmatched w orderId bankTransactionId ∨
      (∃ o ∈ w.paykhPaymentOrders.rows, o.id = orderId ∧
        o.matchedBankTransactionId = some bankTransactionId) ∧
      ¬Unmatched w orderId bankTransactionId := by
  by_cases hfree : Unmatched w orderId bankTransactionId
  · exact .inl hfree
  · right
    refine ⟨?_, hfree⟩
    cases hfind : w.paykhPaymentOrders.rows.find?
        (fun o => decide (o.matchedBankTransactionId = some bankTransactionId)) with
    | none =>
      exfalso
      apply hfree
      intro o ho hmatched
      have hnone := List.find?_eq_none.mp hfind o ho
      simp [hmatched] at hnone
    | some o =>
      exact ⟨o, List.mem_of_find?_eq_some hfind, hprior o hfind,
        by simpa using List.find?_some hfind⟩

/-- The unique index admits the update exactly when the bank transaction is on no other order. -/
theorem matchConstraints_eq_ok {w : World} {orderId bankTransactionId : String}
    {o : PaykhPaymentOrder} : matchConstraints orderId bankTransactionId w o = .ok () ↔
      Unmatched w orderId bankTransactionId := by
  unfold matchConstraints checkUnique Unmatched
  split_ifs with h
  · simp only [false_iff]
    intro hfree
    obtain ⟨o', ho', hne⟩ := List.any_eq_true.mp h
    simp only [ne_eq, decide_not, Bool.and_eq_true, Bool.not_eq_true', decide_eq_false_iff_not,
      decide_eq_true_eq] at hne
    exact hne.1 (hfree o' ho' hne.2)
  · simp only [true_iff]
    intro o' ho' hmatched
    by_contra hne
    apply h
    exact List.any_eq_true.mpr ⟨o', ho', by simp [hne, hmatched]⟩

theorem isCollection_of_entry {o : PaykhPaymentOrder} {orderId actor : String} {e : JournalEntry}
    (he : collectionEntry o orderId actor = .ok e) : IsCollection o orderId e := by
  obtain ⟨-, hmove⟩ := buildJournalEntry_move he
  have hrefs := hmove.entry_references
  exact ⟨hrefs ▸ hmove, by rw [hrefs], by rw [hrefs]⟩

theorem applyPayment_effect (w : World) (clock : Clock) {orderId : String}
    (input : CheckPaymentInput) {o : PaykhPaymentOrder}
    (ho : w.paykhPaymentOrders.find? orderId = some o) (hawaits : o.Awaits) :
    HasPaymentEffect w (.checkPayment clock orderId input)
      ((applyPayment clock orderId input o).run w).2 := by
  unfold applyPayment
  rw [Call.run_bind, run_refuseExpired ho]
  split_ifs with hlate
  · exact ⟨_, [], [], .expired ho hawaits, (World.logged_nil _).symm⟩
  simp only
  rw [Call.run_lift_bind]
  rcases htransaction : checkTexts [input.bankTransactionId] with e | u
  · exact .unchanged
  simp only
  rw [Call.run_bind, Entity.run_findFirst]
  simp only [Prisma.paykhPaymentOrder_get]
  rw [Call.run_bind]
  rcases run_refuseDuplicate w orderId input.bankTransactionId
    (w.paykhPaymentOrders.rows.find?
      fun o => decide (o.matchedBankTransactionId = some input.bankTransactionId))
    with ⟨e, events, h⟩ | ⟨hprior, h⟩
  · rw [h]
    exact .logged _ _
  rw [h]
  simp only
  rw [Call.run_lift_bind]
  cases hminor : bigInt input.amountMinor with
  | error e => exact .unchanged
  | ok minor =>
    simp only
    rw [Call.run_bind, Entity.run_findUnique]
    simp only [Prisma.paykhPaymentProfile_get]
    rw [Call.run_bind]
    rcases run_refuseMismatches w orderId
      (mismatches input o (w.paykhPaymentProfiles.find? o.profileId) minor)
      with ⟨e, events, h⟩ | ⟨hnil, h⟩
    · rw [h]
      exact .logged _ _
    rw [h]
    obtain ⟨hamount, hcurrency, hreference, hrecipient⟩ := mismatches_eq_nil.mp hnil
    have hpays : Pays w clock input o :=
      ⟨not_lt.mp hlate, hamount ▸ hminor, hcurrency, hreference, hrecipient⟩
    simp only
    rw [Call.run_lift_bind]
    cases he : collectionEntry o orderId input.actor with
    | error e => exact .unchanged
    | ok e =>
      have hcollection := isCollection_of_entry he
      simp only
      rw [Call.run_bind]
      rcases run_post_cases e w with ⟨-, err, hpost⟩ | ⟨hstored, hpost⟩
      · rw [hpost]
        exact .unchanged
      have htexts : input.Fits :=
        ⟨checkTexts_eq_ok.mp htransaction _ List.mem_cons_self, actor_of_transferEntry he hstored⟩
      rw [hpost]
      simp only
      rw [Call.run_bind]
      rcases unmatched_or_taken hprior with hfree | ⟨hprior, htaken⟩
      · rw [run_updateOrder (w := w.posted e) ho (matchConstraints_eq_ok.mpr hfree)]
        exact Served.effect .unchanged (.logs (.confirmed ho hawaits hpays hfree hcollection htexts)
          (.record_bind (.event_bind (logs_pure _))))
      -- The index refuses the update, after the entry is posted.
      · rcases Entity.run_update_cases Prisma.paykhPaymentOrder
          (matchConstraints orderId input.bankTransactionId) orderId
          (PaykhPaymentOrder.asConfirmed input.bankTransactionId (clock 1))
          (PaykhPaymentOrder.asConfirmed_id input.bankTransactionId (clock 1)) (w.posted e)
          with ⟨err, h⟩ | ⟨row, -, hcheck, -⟩
        · rw [h]
          exact ⟨_, [], [], .booked ho hawaits hpays hprior htaken hcollection htexts,
            (World.logged_nil _).symm⟩
        · exact absurd (matchConstraints_eq_ok.mp hcheck) htaken

theorem checkPayment_effect (w : World) (clock : Clock) (orderId : String)
    (input : CheckPaymentInput) : HasPaymentEffect w (.checkPayment clock orderId input)
      ((checkPayment clock orderId input).run w).2 := by
  unfold checkPayment
  rw [Call.run_bind, run_requireOrder]
  cases ho : w.paykhPaymentOrders.find? orderId with
  | none => exact .unchanged
  | some o =>
    simp only [orThrow]
    split_ifs with hconfirmed
    · rw [Call.run_throwIf_bind]
      split_ifs
      · exact .unchanged
      · exact .unchanged
    · rw [Call.run_throwIf_bind]
      split_ifs with hstatus
      · exact .unchanged
      · have hawaits : o.Awaits := by
          unfold PaykhPaymentOrder.Awaits
          tauto
        exact applyPayment_effect w clock input ho hawaits

theorem Served.requireOrder_bind {β : Type} {effect : World → Prop} {w : World} {orderId : String}
    {f : PaykhPaymentOrder → Service β}
    (h : ∀ o, w.paykhPaymentOrders.find? orderId = some o → Served effect w ((f o).run w)) :
    Served effect w ((requireOrder orderId >>= f).run w) :=
  .look_bind (run_requireOrder orderId w) fun o ho => h o (orThrow_eq_ok.mp ho)

theorem refund_effect (w : World) (orderId actor reason : String) :
    HasPaymentEffect w (.refund orderId actor reason) ((refund orderId actor reason).run w).2 := by
  refine Served.effect .unchanged ?_
  unfold refund
  refine .requireOrder_bind fun o ho => ?_
  refine .throwIf_bind fun hstatus => ?_
  refine .lift_bind fun e he => ?_
  obtain ⟨collection, hcollection, hreverse⟩ := bind_eq_ok.mp he
  obtain ⟨hrefs, hnet⟩ := reverse_ok hreverse
  have hc := isCollection_of_entry hcollection
  refine .post_bind e fun _ => ?_
  rw [Call.run_bind, run_updateOrder (w := w.posted e) ho rfl]
  refine .logs (.refunded ho (not_not.mp hstatus) ⟨⟨collection, hc, hnet⟩, ?_, ?_⟩)
    (.record_bind (.event_bind (logs_pure _)))
  · rw [hrefs]
    exact hc.program
  · rw [hrefs]

theorem cancel_order_effect (w : World) (orderId actor : String) :
    HasPaymentEffect w (.cancel orderId actor)
      ((PaymentOrdersService.cancel orderId actor).run w).2 := by
  refine Served.effect .unchanged ?_
  unfold PaymentOrdersService.cancel
  refine .requireOrder_bind fun o ho => ?_
  refine .throwIf_bind fun hstatus => ?_
  rw [Call.run_bind, run_updateOrder ho rfl]
  exact .logs (.cancelled ho hstatus) (.record_bind (logs_pure _))

/-- **Every operation has an effect in the list.** -/
theorem PaymentOp.effect (w : World) (op : PaymentOp) : HasPaymentEffect w op (op.step w) := by
  cases op with
  | create clock input id uuid =>
    simpa [step, call] using create_payment_effect w clock input id uuid
  | checkPayment clock orderId input =>
    simpa [step, call] using checkPayment_effect w clock orderId input
  | refund orderId actor reason => simpa [step, call] using refund_effect w orderId actor reason
  | cancel orderId actor => simpa [step, call] using cancel_order_effect w orderId actor

/-! ## Views -/

section

variable {τ : Type} {g : World → τ}

theorem requireOrder_keeps (orderId : String) : (requireOrder orderId).Keeps g :=
  (Call.keeps_read _ _ _).bind fun _ => Call.keeps_lift _ _

theorem refuseExpired_keeps (hset : ∀ t (w : World), g { w with paykhPaymentOrders := t } = g w)
    (orderId : String) (expired : Prop) [Decidable expired] :
    (refuseExpired orderId expired).Keeps g := by
  unfold refuseExpired
  split_ifs
  · exact (Prisma.paykhPaymentOrder.keeps_update hset _ _ _ _).bind fun _ => Call.keeps_throw _ _
  · exact Call.keeps_pure _ _

theorem refuseDuplicate_keeps (hevent : ∀ event, (outboxCreate event).Keeps g)
    (orderId bankTransactionId : String) (priorUse : Option PaykhPaymentOrder) :
    (refuseDuplicate orderId bankTransactionId priorUse).Keeps g := by
  unfold refuseDuplicate
  split
  · exact (hevent _).bind fun _ => Call.keeps_throw _ _
  · exact Call.keeps_pure _ _

theorem refuseMismatches_keeps (hevent : ∀ event, (outboxCreate event).Keeps g) (orderId : String)
    (mismatches : List String) : (refuseMismatches orderId mismatches).Keeps g := by
  unfold refuseMismatches
  split_ifs
  · exact (hevent _).bind fun _ => Call.keeps_throw _ _
  · exact Call.keeps_pure _ _

end

end

end TrusteeBank
