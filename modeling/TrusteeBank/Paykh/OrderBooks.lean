import TrusteeBank.Lib.Run
import TrusteeBank.Services.Mint
import TrusteeBank.Services.PaymentOrders

/-!
# The books of payment orders

A confirmed order has its payment in the books, and no other order has. A collection is posted
only when an order is confirmed and reversed only when it is refunded, and no order goes through
either twice: once confirmed it never awaits a payment again.

**Theorem (`order_books`).** After every run of order operations from a state without orders, the
cash collected and not refunded for a tenant in a currency is the sum of its confirmed orders,
every order has at most one collection and one refund, and whatever operation comes next confirms
an order only with a payment that is in time and matches the order and its profile.
-/

set_option autoImplicit false

namespace TrusteeBank

open LedgerAccountCode PaymentOrdersService

section

variable [Runtime]

/-! ## Sums and entries -/

/-- The order is of a tenant, and its entries are in a currency. -/
def PaykhPaymentOrder.InBooks (o : PaykhPaymentOrder) (tenantId c : String) : Prop :=
  o.tenantId = tenantId ∧ Runtime.toUpperCase o.currency = c

instance PaykhPaymentOrder.decidableInBooks (o : PaykhPaymentOrder) (tenantId c : String) :
    Decidable (o.InBooks tenantId c) :=
  inferInstanceAs (Decidable (_ ∧ _))

/-- The amount of a confirmed order. -/
def PaykhPaymentOrder.confirmedAmount (o : PaykhPaymentOrder) : Int :=
  if o.status = .confirmed then o.amountMinor else 0

/-- The sum of the confirmed orders of a tenant in a currency. -/
def confirmedSum (w : World) (tenantId c : String) : Int :=
  w.paykhPaymentOrders.sum fun o => if o.InBooks tenantId c then o.confirmedAmount else 0

/-- The entries of collections and refunds. -/
def orderEntries (ledger : List JournalEntry) : List JournalEntry :=
  ledger.filter fun e => e.OfKind "paykh-order:" ∨ e.OfKind "paykh-refund:"

/-- The net debit to cash from the entries of orders. -/
def orderCash (w : World) (tenantId c : String) : Int :=
  ledgerNet (orderEntries w.ledger) tenantId c assetTrusteeBankCash

/-- No order is stored or booked. -/
structure NoOrders (w : World) : Prop where
  orders : w.paykhPaymentOrders.rows = []
  collections : ∀ e ∈ w.ledger, ¬e.OfKind "paykh-order:"
  refunds : ∀ e ∈ w.ledger, ¬e.OfKind "paykh-refund:"

/-- The statuses of an order whose payment was booked. -/
def collectedStatuses : List PaymentOrderStatus := [.confirmed, .refunded, .cancelled]

/-- The statuses of an order whose payment was reversed. -/
def refundedStatuses : List PaymentOrderStatus := [.refunded, .cancelled]

/-- Each order has at most one entry of a kind, and has it only in some statuses. -/
def BookedIn (w : World) (kind : String) (statuses : List PaymentOrderStatus) : Prop :=
  ∀ id, (entriesFrom w.ledger (kind ++ id)).length ≤ 1 ∧
    (entriesFrom w.ledger (kind ++ id) ≠ [] →
      ∃ o, w.paykhPaymentOrders.find? id = some o ∧ o.status ∈ statuses)

/-! ## The invariant -/

/-- The books of a state agree with its orders. -/
structure OrderBooks (w : World) : Prop where
  profiles : ∀ o ∈ w.paykhPaymentOrders.rows,
    ∃ p, w.paykhPaymentProfiles.find? o.profileId = some p
  matched : ∀ o ∈ w.paykhPaymentOrders.rows, ∀ o' ∈ w.paykhPaymentOrders.rows, ∀ t,
    o.matchedBankTransactionId = some t → o'.matchedBankTransactionId = some t → o.id = o'.id
  cash : ∀ tenantId c, orderCash w tenantId c = confirmedSum w tenantId c
  collected : BookedIn w "paykh-order:" collectedStatuses
  refunded : BookedIn w "paykh-refund:" refundedStatuses

theorem orderEntries_append (ledger ledger' : List JournalEntry) :
    orderEntries (ledger ++ ledger') = orderEntries ledger ++ orderEntries ledger' :=
  List.filter_append ..

theorem orderCash_posted {w w' : World} {e : JournalEntry} (hledger : w'.ledger = w.ledger ++ [e])
    (he : e.OfKind "paykh-order:" ∨ e.OfKind "paykh-refund:") (tenantId c : String) :
    orderCash w' tenantId c =
      orderCash w tenantId c + ledgerNet [e] tenantId c assetTrusteeBankCash := by
  have hself : orderEntries [e] = [e] := by
    unfold orderEntries
    rw [List.filter_singleton, decide_eq_true he]
    rfl
  unfold orderCash
  rw [hledger, orderEntries_append, hself, ledgerNet_append]

/-- A collection debits the cash of the order's tenant. -/
theorem IsCollection.net_cash {o : PaykhPaymentOrder} {orderId : String} {e : JournalEntry}
    (h : IsCollection o orderId e) (tenantId c : String) :
    ledgerNet [e] tenantId c assetTrusteeBankCash =
      if o.InBooks tenantId c then o.amountMinor else 0 := by
  rw [h.move.net, h.program]
  unfold PaykhPaymentOrder.InBooks
  congr 1
  simp [assetTrusteeBankCash, liabilityPaykhMerchantPayable]

theorem IsRefund.net_cash {o : PaykhPaymentOrder} {orderId : String} {e : JournalEntry}
    (h : IsRefund o orderId e) (tenantId c : String) :
    ledgerNet [e] tenantId c assetTrusteeBankCash =
      -(if o.InBooks tenantId c then o.amountMinor else 0) := by
  obtain ⟨collection, hcollection, hnet⟩ := h.net
  rw [hnet, hcollection.net_cash]

theorem NoOrders.books {w : World} (hw : NoOrders w) : OrderBooks w where
  profiles o ho := by simp [hw.orders] at ho
  matched o ho := by simp [hw.orders] at ho
  cash tenantId c := by
    have hnil : orderEntries w.ledger = [] := by
      refine List.filter_eq_nil_iff.mpr fun e he => ?_
      simp [hw.collections e he, hw.refunds e he]
    simp [orderCash, hnil, confirmedSum, Lib.Table.sum, hw.orders]
  collected id := by simp [entriesFrom_of_not_ofKind hw.collections]
  refunded id := by simp [entriesFrom_of_not_ofKind hw.refunds]

/-! ## What a step does -/

/-- The rewrite of an order keeps what its entries are made from, and its profile. -/
structure KeepsOrder (f : PaykhPaymentOrder → PaykhPaymentOrder) : Prop where
  tenantId : ∀ o, (f o).tenantId = o.tenantId
  currency : ∀ o, (f o).currency = o.currency
  amountMinor : ∀ o, (f o).amountMinor = o.amountMinor
  profileId : ∀ o, (f o).profileId = o.profileId

section

variable {w w' : World} {orderId : String} {o : PaykhPaymentOrder}
  {f : PaykhPaymentOrder → PaykhPaymentOrder} {hf : ∀ o, (f o).id = o.id}

theorem confirmedSum_update (ho : w.paykhPaymentOrders.find? orderId = some o)
    (hkeeps : KeepsOrder f) (tenantId c : String) :
    confirmedSum (w.updateOrder orderId f hf) tenantId c = confirmedSum w tenantId c +
      if o.InBooks tenantId c then (f o).confirmedAmount - o.confirmedAmount else 0 := by
  have hbooks : (f o).InBooks tenantId c ↔ o.InBooks tenantId c := by
    unfold PaykhPaymentOrder.InBooks
    rw [hkeeps.tenantId, hkeeps.currency]
  unfold confirmedSum
  rw [show (w.updateOrder orderId f hf).paykhPaymentOrders =
    w.paykhPaymentOrders.modify orderId f hf from rfl, Lib.Table.sum_modify ho]
  by_cases h : o.InBooks tenantId c
  · rw [if_pos h, if_pos (hbooks.mpr h), if_pos h]
    ring
  · rw [if_neg h, if_neg (fun h' => h (hbooks.mp h')), if_neg h]
    ring

/-- The orders after one of them is rewritten. -/
theorem mem_orders_update (ho : w.paykhPaymentOrders.find? orderId = some o)
    (horders : w'.paykhPaymentOrders = (w.updateOrder orderId f hf).paykhPaymentOrders)
    {a : PaykhPaymentOrder} (ha : a ∈ w'.paykhPaymentOrders.rows) :
    (a ∈ w.paykhPaymentOrders.rows ∧ a.id ≠ orderId) ∨ a = f o := by
  rw [horders] at ha
  rcases (@Lib.Table.mem_modify _ _ _ _ w.paykhPaymentOrders orderId f hf a).mp ha with
    ha | ⟨b, hb, rfl⟩
  · exact .inl ha
  · rw [ho] at hb
    cases hb
    exact .inr rfl

theorem find?_orders_update (ho : w.paykhPaymentOrders.find? orderId = some o)
    (horders : w'.paykhPaymentOrders = (w.updateOrder orderId f hf).paykhPaymentOrders)
    (id : String) : w'.paykhPaymentOrders.find? id =
      if id = orderId then some (f o) else w.paykhPaymentOrders.find? id := by
  rw [horders]
  show (w.paykhPaymentOrders.modify orderId f hf).find? id = _
  rw [Lib.Table.find?_modify, ho, Option.map_some]

/-- No entry of the kind is posted, and the order stays in the statuses. -/
theorem BookedIn.keep {kind : String} {statuses : List PaymentOrderStatus}
    (h : BookedIn w kind statuses) (ho : w.paykhPaymentOrders.find? orderId = some o)
    (horders : w'.paykhPaymentOrders = (w.updateOrder orderId f hf).paykhPaymentOrders)
    (hledger : ∀ id, entriesFrom w'.ledger (kind ++ id) = entriesFrom w.ledger (kind ++ id))
    (hstatus : o.status ∈ statuses → (f o).status ∈ statuses) : BookedIn w' kind statuses := by
  intro id
  rw [hledger]
  refine ⟨(h id).1, fun hne => ?_⟩
  obtain ⟨a, ha, hin⟩ := (h id).2 hne
  rw [find?_orders_update ho horders]
  by_cases hid : id = orderId
  · subst hid
    rw [ho] at ha
    cases ha
    exact ⟨f o, if_pos rfl, hstatus hin⟩
  · exact ⟨a, (if_neg hid).trans ha, hin⟩

/-- The order enters the statuses with its entry. -/
theorem BookedIn.book {kind : String} {statuses : List PaymentOrderStatus}
    (h : BookedIn w kind statuses) (ho : w.paykhPaymentOrders.find? orderId = some o)
    (horders : w'.paykhPaymentOrders = (w.updateOrder orderId f hf).paykhPaymentOrders)
    {e : JournalEntry} (hledger : w'.ledger = w.ledger ++ [e])
    (hsource : e.references.source = kind ++ orderId) (hbefore : o.status ∉ statuses)
    (hafter : (f o).status ∈ statuses) : BookedIn w' kind statuses := by
  intro id
  rw [hledger, entriesFrom_append, entriesFrom_of_source hsource, find?_orders_update ho horders]
  by_cases hid : orderId = id
  · subst hid
    -- The order had no entry before, for it was in none of the statuses.
    have hnone : entriesFrom w.ledger (kind ++ orderId) = [] := by
      by_contra hne
      obtain ⟨a, ha, hin⟩ := (h orderId).2 hne
      rw [ho] at ha
      cases ha
      exact hbefore hin
    rw [hnone, if_pos rfl, if_pos rfl]
    exact ⟨le_rfl, fun _ => ⟨f o, rfl, hafter⟩⟩
  · rw [if_neg hid, if_neg (Ne.symm hid), List.append_nil]
    exact h id

/-- An order is rewritten: what remains to show is what the ledger gained. -/
theorem OrderBooks.update (h : OrderBooks w) (ho : w.paykhPaymentOrders.find? orderId = some o)
    (hkeeps : KeepsOrder f)
    (horders : w'.paykhPaymentOrders = (w.updateOrder orderId f hf).paykhPaymentOrders)
    (hprofiles : w'.paykhPaymentProfiles = w.paykhPaymentProfiles)
    (hmatched : ∀ t, (f o).matchedBankTransactionId = some t →
      o.matchedBankTransactionId = some t ∨ Unmatched w orderId t)
    (hcash : ∀ tenantId c, orderCash w' tenantId c = orderCash w tenantId c +
      if o.InBooks tenantId c then (f o).confirmedAmount - o.confirmedAmount else 0)
    (hcollected : BookedIn w' "paykh-order:" collectedStatuses)
    (hrefunded : BookedIn w' "paykh-refund:" refundedStatuses) : OrderBooks w' := by
  have hid : o.id = orderId := Lib.Table.key_of_find? ho
  have hmem := Lib.Table.mem_of_find? ho
  -- A bank transaction on the rewritten order is on no other.
  have hother (t : String) (ht : (f o).matchedBankTransactionId = some t) (a : PaykhPaymentOrder)
      (ha : a ∈ w.paykhPaymentOrders.rows) (hat : a.matchedBankTransactionId = some t) :
      a.id = orderId := by
    rcases hmatched t ht with hot | hfree
    · exact (h.matched a ha o hmem t hat hot).trans hid
    · exact hfree a ha hat
  refine ⟨?_, ?_, ?_, hcollected, hrefunded⟩
  · intro a ha
    rw [hprofiles]
    rcases mem_orders_update ho horders ha with ⟨ha, -⟩ | rfl
    · exact h.profiles a ha
    · rw [hkeeps.profileId]
      exact h.profiles o hmem
  · intro a ha b hb t hat hbt
    rcases mem_orders_update ho horders ha with ⟨ha, -⟩ | rfl <;>
      rcases mem_orders_update ho horders hb with ⟨hb, -⟩ | rfl
    · exact h.matched a ha b hb t hat hbt
    · rw [hf, hid]
      exact hother t hbt a ha hat
    · rw [hf, hid]
      exact (hother t hat b hb hbt).symm
    · rfl
  · intro tenantId c
    rw [hcash, h.cash, ← confirmedSum_update ho hkeeps]
    unfold confirmedSum
    rw [horders]

end

/-! ## Every operation -/

/-- A new order awaits its payment and is in no books. -/
theorem OrderBooks.created {w : World} (h : OrderBooks w) {input : CreatePaymentOrder}
    {id reference payload : String} {amountMinor expiresAt : Int}
    {profile : PaykhPaymentProfile} {t : Lib.Table PaykhPaymentOrder.id}
    (hprofile : w.paykhPaymentProfiles.find? input.profileId = some profile)
    (ht : w.paykhPaymentOrders.insert?
      (createdRow input id reference payload amountMinor expiresAt) = some t) :
    OrderBooks { w with paykhPaymentOrders := t } := by
  obtain ⟨hrows, hfresh⟩ := Lib.Table.insert?_eq_some ht
  have hbooked {kind : String} {statuses : List PaymentOrderStatus}
      (h : BookedIn w kind statuses) : BookedIn { w with paykhPaymentOrders := t } kind statuses := by
    intro id'
    refine ⟨(h id').1, fun hne => ?_⟩
    obtain ⟨o, ho, hin⟩ := (h id').2 hne
    refine ⟨o, ?_, hin⟩
    show t.find? id' = some o
    rw [Lib.Table.find?_insert? ht, if_neg]
    · exact ho
    · rintro rfl
      rw [hfresh] at ho
      cases ho
  refine ⟨?_, ?_, ?_, hbooked h.collected, hbooked h.refunded⟩
  · intro o ho
    rcases List.mem_append.mp (hrows ▸ ho) with ho | ho
    · exact h.profiles o ho
    · rw [List.mem_singleton.mp ho]
      exact ⟨profile, hprofile⟩
  · intro a ha b hb t' hat hbt
    rcases List.mem_append.mp (hrows ▸ ha) with ha | ha
    · rcases List.mem_append.mp (hrows ▸ hb) with hb | hb
      · exact h.matched a ha b hb t' hat hbt
      · rw [List.mem_singleton.mp hb] at hbt
        cases hbt
    · rw [List.mem_singleton.mp ha] at hat
      cases hat
  · intro tenantId c
    show orderCash w tenantId c = t.sum _
    rw [Lib.Table.sum_insert? ht, h.cash]
    simp [confirmedSum, PaykhPaymentOrder.confirmedAmount, createdRow]

omit [Runtime] in
theorem PaykhPaymentOrder.Awaits.not_collected {o : PaykhPaymentOrder} (h : o.Awaits) :
    o.status ∉ collectedStatuses := by
  rcases h with h | h <;> rw [h] <;> decide

omit [Runtime] in
theorem PaykhPaymentOrder.Awaits.not_refunded {o : PaykhPaymentOrder} (h : o.Awaits) :
    o.status ∉ refundedStatuses := by
  rcases h with h | h <;> rw [h] <;> decide

omit [Runtime] in
theorem PaykhPaymentOrder.confirmedAmount_of_ne {o : PaykhPaymentOrder}
    (h : o.status ≠ .confirmed) : o.confirmedAmount = 0 := if_neg h

omit [Runtime] in
theorem PaykhPaymentOrder.Awaits.confirmedAmount {o : PaykhPaymentOrder} (h : o.Awaits) :
    o.confirmedAmount = 0 := by
  apply PaykhPaymentOrder.confirmedAmount_of_ne
  rcases h with h | h <;> rw [h] <;> decide

/-- **Every effect keeps the books.** -/
theorem OrderBooks.effect {w w₁ : World} {op : PaymentOp} (h : OrderBooks w)
    (heffect : PaymentEffect w op w₁) : OrderBooks w₁ := by
  cases heffect with
  | unchanged => exact h
  | created hplaces ht => exact h.created hplaces.found ht
  | @expired clock orderId input o ho hawaits =>
    refine h.update (f := PaykhPaymentOrder.asExpired) ho
      ⟨fun _ => rfl, fun _ => rfl, fun _ => rfl, fun _ => rfl⟩ rfl rfl (fun t ht => .inl ht)
      ?_ ?_ ?_
    · intro tenantId c
      show orderCash w tenantId c = _
      rw [hawaits.confirmedAmount, PaykhPaymentOrder.confirmedAmount_of_ne (o := o.asExpired) nofun]
      simp
    · exact h.collected.keep ho rfl (fun _ => rfl) fun hin => absurd hin hawaits.not_collected
    · exact h.refunded.keep ho rfl (fun _ => rfl) fun hin => absurd hin hawaits.not_refunded
  | @booked clock orderId input o e ho hawaits hpays hprior htaken he =>
    -- Two orders with one bank transaction: not in a state with books.
    exfalso
    apply htaken
    obtain ⟨a, ha, hid, hat⟩ := hprior
    intro b hb hbt
    rw [h.matched b hb a ha _ hbt hat, hid]
  | @confirmed clock orderId input o e ho hawaits hpays hfree he =>
    refine h.update (f := PaykhPaymentOrder.asConfirmed input.bankTransactionId (clock 1)) ho
      ⟨fun _ => rfl, fun _ => rfl, fun _ => rfl, fun _ => rfl⟩ rfl rfl ?_ ?_ ?_ ?_
    · intro t ht
      cases ht
      exact .inr hfree
    · intro tenantId c
      show orderCash (w.posted e) tenantId c = _
      rw [orderCash_posted rfl (.inl (JournalEntry.ofKind_of_source he.source)), he.net_cash,
        hawaits.confirmedAmount]
      simp [PaykhPaymentOrder.confirmedAmount, PaykhPaymentOrder.asConfirmed]
    · exact h.collected.book ho rfl rfl he.source hawaits.not_collected (by
        simp [PaykhPaymentOrder.asConfirmed, collectedStatuses])
    · refine h.refunded.keep ho rfl (fun id => ?_) fun hin => absurd hin hawaits.not_refunded
      show entriesFrom (w.ledger ++ [e]) _ = _
      rw [entriesFrom_append, entriesFrom_of_other he.source (by decide) (by decide),
        List.append_nil]
  | @refunded orderId actor reason o e ho hstatus he =>
    refine h.update (f := PaykhPaymentOrder.asRefunded) ho
      ⟨fun _ => rfl, fun _ => rfl, fun _ => rfl, fun _ => rfl⟩ rfl rfl (fun t ht => .inl ht)
      ?_ ?_ ?_
    · intro tenantId c
      show orderCash (w.posted e) tenantId c = _
      rw [orderCash_posted rfl (.inr (JournalEntry.ofKind_of_source he.source)), he.net_cash,
        PaykhPaymentOrder.confirmedAmount_of_ne (o := o.asRefunded) nofun]
      by_cases hbooks : o.InBooks tenantId c
      · simp [hbooks, PaykhPaymentOrder.confirmedAmount, hstatus]
      · simp [hbooks]
    · refine h.collected.keep ho rfl (fun id => ?_) fun _ => ?_
      · show entriesFrom (w.ledger ++ [e]) _ = _
        rw [entriesFrom_append, entriesFrom_of_other he.source (by decide) (by decide),
          List.append_nil]
      · simp [PaykhPaymentOrder.asRefunded, collectedStatuses]
    · refine h.refunded.book ho rfl rfl he.source ?_ ?_
      · rw [hstatus]
        decide
      · simp [PaykhPaymentOrder.asRefunded, refundedStatuses]
  | @cancelled orderId actor o ho hstatus =>
    refine h.update (f := PaykhPaymentOrder.asCancelled) ho
      ⟨fun _ => rfl, fun _ => rfl, fun _ => rfl, fun _ => rfl⟩ rfl rfl (fun t ht => .inl ht)
      ?_ ?_ ?_
    · intro tenantId c
      show orderCash w tenantId c = _
      rw [PaykhPaymentOrder.confirmedAmount_of_ne hstatus,
        PaykhPaymentOrder.confirmedAmount_of_ne (o := o.asCancelled) nofun]
      simp
    · exact h.collected.keep ho rfl (fun _ => rfl) fun _ => by
        simp [PaykhPaymentOrder.asCancelled, collectedStatuses]
    · exact h.refunded.keep ho rfl (fun _ => rfl) fun _ => by
        simp [PaykhPaymentOrder.asCancelled, refundedStatuses]

theorem OrderBooks.logged {w : World} (h : OrderBooks w) (rows : List AuditLog)
    (events : List OutboxEvent) : OrderBooks (w.logged rows events) :=
  ⟨h.profiles, h.matched, h.cash, h.collected, h.refunded⟩

/-- One operation keeps the books, whether it succeeds or throws. -/
theorem OrderBooks.step {w : World} (h : OrderBooks w) (op : PaymentOp) :
    OrderBooks (op.step w) :=
  after_effect (op.effect w) (fun _ heffect => h.effect heffect) .logged

/-! ## Confirmation -/

/-- The operation makes an order confirmed that was not. -/
def BecomesConfirmed (w : World) (op : PaymentOp) (orderId : String) : Prop :=
  (∀ o, w.paykhPaymentOrders.find? orderId = some o → o.status ≠ .confirmed) ∧
    ∃ o, (op.step w).paykhPaymentOrders.find? orderId = some o ∧ o.status = .confirmed

/-- The operation is a check of a payment that is in time and matches the order and its profile. -/
def PaidInTime (w : World) (op : PaymentOp) (orderId : String) : Prop :=
  ∃ clock input o profile, op = .checkPayment clock orderId input ∧
    w.paykhPaymentOrders.find? orderId = some o ∧
    w.paykhPaymentProfiles.find? o.profileId = some profile ∧ clock 0 ≤ o.expiresAt ∧
    bigInt input.amountMinor = .ok o.amountMinor ∧ input.currency = o.currency ∧
    input.paymentReference = o.paymentReference ∧
    input.recipientAccountMasked = profile.recipientAccountMasked

/-- An operation that rewrites one order, not to be confirmed, confirms none. -/
theorem not_becomesConfirmed {w w' : World} {orderId : String} {o : PaykhPaymentOrder}
    {f : PaykhPaymentOrder → PaykhPaymentOrder} {hf : ∀ o, (f o).id = o.id}
    (ho : w.paykhPaymentOrders.find? orderId = some o)
    (horders : w'.paykhPaymentOrders = (w.updateOrder orderId f hf).paykhPaymentOrders)
    (hstatus : (f o).status ≠ .confirmed) {id : String} {a : PaykhPaymentOrder}
    (ha : w'.paykhPaymentOrders.find? id = some a) (hconfirmed : a.status = .confirmed) :
    ∃ b, w.paykhPaymentOrders.find? id = some b ∧ b.status = .confirmed := by
  rw [find?_orders_update ho horders] at ha
  by_cases hid : id = orderId
  · rw [if_pos hid] at ha
    cases ha
    exact absurd hconfirmed hstatus
  · rw [if_neg hid] at ha
    exact ⟨a, ha, hconfirmed⟩

theorem OrderBooks.paidInTime {w : World} (h : OrderBooks w) {op : PaymentOp} {orderId : String}
    (hbecomes : BecomesConfirmed w op orderId) : PaidInTime w op orderId := by
  obtain ⟨hbefore, a, ha, hconfirmed⟩ := hbecomes
  obtain ⟨w₁, rows, events, heffect, hstate⟩ := op.effect w
  rw [hstate] at ha
  have ha : w₁.paykhPaymentOrders.find? orderId = some a := ha
  -- Only a confirmation can change the status to confirmed.
  have hnot : ¬∃ b, w.paykhPaymentOrders.find? orderId = some b ∧ b.status = .confirmed := by
    rintro ⟨b, hb, hstatus⟩
    exact hbefore b hb hstatus
  cases heffect with
  | unchanged => exact absurd ⟨a, ha, hconfirmed⟩ hnot
  | created _ ht =>
    have ha := (Lib.Table.find?_insert? ht orderId).symm.trans ha
    split_ifs at ha with hid
    · cases ha
      cases hconfirmed
    · exact absurd ⟨a, ha, hconfirmed⟩ hnot
  | expired ho hawaits =>
    exact absurd (not_becomesConfirmed (f := PaykhPaymentOrder.asExpired) ho rfl (by
      simp [PaykhPaymentOrder.asExpired]) ha hconfirmed) hnot
  | booked ho hawaits hpays hprior htaken he => exact absurd ⟨a, ha, hconfirmed⟩ hnot
  | @confirmed clock id input o e ho hawaits hpays hfree he =>
    have ha := (Lib.Table.find?_modify w.paykhPaymentOrders id
      (PaykhPaymentOrder.asConfirmed input.bankTransactionId (clock 1))
      (PaykhPaymentOrder.asConfirmed_id input.bankTransactionId (clock 1)) orderId).symm.trans ha
    by_cases hid : orderId = id
    · subst hid
      obtain ⟨profile, hprofile⟩ := h.profiles o (Lib.Table.mem_of_find? ho)
      exact ⟨clock, input, o, profile, rfl, ho, hprofile, hpays.in_time, hpays.amount,
        hpays.currency, hpays.reference, hpays.recipient profile hprofile⟩
    · rw [if_neg hid] at ha
      exact absurd ⟨a, ha, hconfirmed⟩ hnot
  | refunded ho hstatus he =>
    exact absurd (not_becomesConfirmed (f := PaykhPaymentOrder.asRefunded) ho rfl (by
      simp [PaykhPaymentOrder.asRefunded]) ha hconfirmed) hnot
  | cancelled ho hstatus =>
    exact absurd (not_becomesConfirmed (f := PaykhPaymentOrder.asCancelled) ho rfl (by
      simp [PaykhPaymentOrder.asCancelled]) ha hconfirmed) hnot

/-- **The books of payment orders, after every run.** -/
theorem order_books {w : World} (hw : NoOrders w) (ops : List PaymentOp) :
    (∀ tenantId c, orderCash (ops.foldl PaymentOp.step w) tenantId c =
        confirmedSum (ops.foldl PaymentOp.step w) tenantId c) ∧
      (∀ o ∈ (ops.foldl PaymentOp.step w).paykhPaymentOrders.rows,
        (entriesFrom (ops.foldl PaymentOp.step w).ledger ("paykh-order:" ++ o.id)).length ≤ 1 ∧
          (entriesFrom (ops.foldl PaymentOp.step w).ledger
            ("paykh-refund:" ++ o.id)).length ≤ 1) ∧
      ∀ op orderId, BecomesConfirmed (ops.foldl PaymentOp.step w) op orderId →
        PaidInTime (ops.foldl PaymentOp.step w) op orderId := by
  have h : OrderBooks (ops.foldl PaymentOp.step w) :=
    Lib.inv_run (C := fun _ _ => True) (fun _ op h _ => h.step op) hw.books
      (Lib.Meets.of_forall (fun _ _ => trivial) w ops)
  refine ⟨h.cash, ?_, ?_⟩
  · intro o _
    exact ⟨(h.collected o.id).1, (h.refunded o.id).1⟩
  · intro op orderId hbecomes
    exact h.paidInTime hbecomes

end

/-! ## An order that is paid -/

attribute [local instance] Runtime.ascii

namespace Sample

/-- Two tenants accept payments on one profile. -/
def accepting : World :=
  { world with
    paykhPaymentProfiles := ⟨[profile], List.nodup_singleton _⟩ }

def orderInput (tenantId amountMinor : String) : CreatePaymentOrder where
  tenantId := tenantId
  profileId := "PP1"
  amountMinor := amountMinor
  currency := "USD"
  ttlSeconds := none
  actor := "tenant"

/-- The bank transaction that pays an order. -/
def payment (bankTransactionId amountMinor paymentReference : String) : CheckPaymentInput where
  bankTransactionId := bankTransactionId
  amountMinor := amountMinor
  currency := "USD"
  paymentReference := paymentReference
  recipientAccountMasked := "***9"
  reserveAccountId := "T1"
  actor := "bank"

/-- An order of 25 is created and paid. -/
def paidOrder : List PaymentOp :=
  [.create clock (orderInput "tenant-1" "25") "O1" "aaaaaaaaaaaa",
   .checkPayment clock "O1" (payment "B1" "25" "KHQR-AAAAAAAAAAAA")]

theorem noOrders : NoOrders accepting where
  orders := rfl
  collections := by decide +kernel
  refunds := by decide +kernel

end Sample

/-- The payment of 25 is in the books once. -/
theorem order_books_paid :
    orderCash (Sample.paidOrder.foldl PaymentOp.step Sample.accepting) "tenant-1" "USD" = 25 ∧
      (entriesFrom (Sample.paidOrder.foldl PaymentOp.step Sample.accepting).ledger
        ("paykh-order:" ++ "O1")).length ≤ 1 := by
  obtain ⟨hcash, honce, -⟩ := order_books Sample.noOrders Sample.paidOrder
  have hsum : confirmedSum (Sample.paidOrder.foldl PaymentOp.step Sample.accepting)
      "tenant-1" "USD" = 25 := by decide +kernel
  have horder : ∃ o ∈ (Sample.paidOrder.foldl PaymentOp.step
      Sample.accepting).paykhPaymentOrders.rows, o.id = "O1" := by decide +kernel
  obtain ⟨o, ho, hid⟩ := horder
  refine ⟨(hcash "tenant-1" "USD").trans hsum, ?_⟩
  rw [← hid]
  exact (honce o ho).1

end TrusteeBank
