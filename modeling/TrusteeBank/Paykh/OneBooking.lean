import TrusteeBank.Lib.Interleave
import TrusteeBank.Paykh.OrderBooks

/-!
# Concurrent payment checks

Any number of `checkPayment` requests present one bank transaction, for one order or for several.
Each of them reads its order, looks for another order with the transaction, posts the collection,
and writes its order under the unique index, in steps of their own.

* `checkPayment_checks`: what one request does, whatever the others do;
* `CheckInv.step`: at most one request gets past its reads, if whoever posts has read after the
  requests that posted before wrote their orders;
* `one_booking`: then at most one collection is posted, and its order ends confirmed.

Without the condition the payment is booked twice (`booked_by_both`): the index refuses the second
order only after its collection is posted, and does not see a second payment of the same order.
-/

set_option autoImplicit false

namespace TrusteeBank

open Lib (Call Pool)
open LedgerAccountCode PaymentOrdersService

section

variable [Runtime]

/-- The arguments of a payment check. -/
structure CheckRequest where
  clock : Clock
  orderId : String
  input : CheckPaymentInput

def CheckRequest.call (r : CheckRequest) : Service PaymentOrderResult :=
  checkPayment r.clock r.orderId r.input

/-! ## What checks leave as it is -/

/-- What an order is about. -/
def PaykhPaymentOrder.terms (o : PaykhPaymentOrder) : String × Int × String :=
  (o.tenantId, o.amountMinor, o.currency)

/-- `matchedBankTransactionId` is unique. -/
def UniquelyMatched (w : World) (t : String) : Prop :=
  ∀ o ∈ w.paykhPaymentOrders.rows, ∀ o' ∈ w.paykhPaymentOrders.rows,
    o.matchedBankTransactionId = some t → o'.matchedBankTransactionId = some t → o.id = o'.id

/-- The orders are those of `w₀`, and the unique index holds. -/
structure SameOrders (w₀ : World) (t : String) (w : World) : Prop where
  terms : ∀ id, (w.paykhPaymentOrders.find? id).map PaykhPaymentOrder.terms =
    (w₀.paykhPaymentOrders.find? id).map PaykhPaymentOrder.terms
  unique : UniquelyMatched w t

section

variable {w₀ w w' : World} {t : String}

theorem SameOrders.congr (h : SameOrders w₀ t w)
    (horders : w'.paykhPaymentOrders = w.paykhPaymentOrders) : SameOrders w₀ t w' where
  terms := by
    rw [horders]
    exact h.terms
  unique := by
    unfold UniquelyMatched
    rw [horders]
    exact h.unique

/-- An order read now is an order of the start. -/
theorem SameOrders.find? (h : SameOrders w₀ t w) {orderId : String} {o : PaykhPaymentOrder}
    (ho : w.paykhPaymentOrders.find? orderId = some o) :
    ∃ o₀, w₀.paykhPaymentOrders.find? orderId = some o₀ ∧ o₀.terms = o.terms := by
  have hterms := h.terms orderId
  rw [ho, Option.map_some, eq_comm, Option.map_eq_some_iff] at hterms
  exact hterms

/-- An order of the start is still there. -/
theorem SameOrders.exists (h : SameOrders w₀ t w) {orderId : String} {o₀ : PaykhPaymentOrder}
    (ho : w₀.paykhPaymentOrders.find? orderId = some o₀) :
    ∃ o, w.paykhPaymentOrders.find? orderId = some o := by
  have hterms := h.terms orderId
  rw [ho, Option.map_some, Option.map_eq_some_iff] at hterms
  obtain ⟨o, ho', -⟩ := hterms
  exact ⟨o, ho'⟩

theorem SameOrders.update (h : SameOrders w₀ t w) {orderId : String}
    {f : PaykhPaymentOrder → PaykhPaymentOrder} (hf : ∀ o, (f o).id = o.id)
    (hterms : ∀ o, (f o).terms = o.terms) (hunique : UniquelyMatched (w.updateOrder orderId f hf) t) :
    SameOrders w₀ t (w.updateOrder orderId f hf) where
  terms id := by
    show ((w.paykhPaymentOrders.modify orderId f hf).find? id).map PaykhPaymentOrder.terms = _
    rw [Lib.Table.find?_modify, ← h.terms id]
    split_ifs with hid
    · rw [hid, Option.map_map]
      exact Option.map_congr fun o _ => hterms o
    · rfl
  unique := hunique

omit [Runtime] in
/-- The entry of an order is that of every order with its terms. -/
theorem IsCollection.congr [Runtime] {o o' : PaykhPaymentOrder} {orderId : String} {e : JournalEntry}
    (h : IsCollection o orderId e) (hterms : o'.terms = o.terms) : IsCollection o' orderId e := by
  obtain ⟨htenant, hamount, hcurrency⟩ : o'.tenantId = o.tenantId ∧
      o'.amountMinor = o.amountMinor ∧ o'.currency = o.currency := by
    simpa [PaykhPaymentOrder.terms] using hterms
  refine ⟨?_, ?_, h.source⟩
  · rw [hamount, hcurrency]
    exact h.move
  · rw [htenant]
    exact h.program

end

/-! ## One request -/

/-- The read of an order. -/
def orderRead (orderId : String) : Query := ⟨.paykhPaymentOrder, .findUnique, orderId⟩

/-- The search for an order with the bank transaction. -/
def orderSearch (t : String) : Query := ⟨.paykhPaymentOrder, .findFirst, t⟩

/-- The write of an order. -/
def orderWrite (orderId : String) : Query := ⟨.paykhPaymentOrder, .update, orderId⟩

/-- How far a request has come. -/
inductive CheckPhase
  | outside
  /-- Its order awaits payment. -/
  | awaiting
  /-- No other order has the bank transaction. -/
  | searched
  | posted
  | booked
  | left
deriving DecidableEq

/-- The steps of a request on the order `orderId`, from phase to phase. -/
inductive CheckMove (w₀ : World) (t orderId : String) :
    CheckPhase → Query → World → World → CheckPhase → Prop
  | other {φ : CheckPhase} {q : Query} {w w' : World} (hq : q.model ≠ .paykhPaymentOrder)
      (hledger : w'.ledger = w.ledger) (horders : w'.paykhPaymentOrders = w.paykhPaymentOrders) :
      CheckMove w₀ t orderId φ q w w' φ
  | await {w : World} {o : PaykhPaymentOrder} (ho : w.paykhPaymentOrders.find? orderId = some o)
      (hawaits : o.Awaits) : CheckMove w₀ t orderId .outside (orderRead orderId) w w .awaiting
  | turnAway {w : World} : CheckMove w₀ t orderId .outside (orderRead orderId) w w .left
  | search {w : World} (hfree : Unmatched w orderId t) :
      CheckMove w₀ t orderId .awaiting (orderSearch t) w w .searched
  | refuse {w : World} : CheckMove w₀ t orderId .awaiting (orderSearch t) w w .left
  | expire {w : World} : CheckMove w₀ t orderId .awaiting (orderWrite orderId) w
      (w.updateOrder orderId PaykhPaymentOrder.asExpired PaykhPaymentOrder.asExpired_id) .left
  | post {q : Query} {w : World} {o : PaykhPaymentOrder} {e : JournalEntry}
      (hq : q.model = .ledgerEntry) (ho : w₀.paykhPaymentOrders.find? orderId = some o)
      (he : IsCollection o orderId e) : CheckMove w₀ t orderId .searched q w (w.posted e) .posted
  | book {w : World} {confirmedAt : Int} (hfree : Unmatched w orderId t) :
      CheckMove w₀ t orderId .posted (orderWrite orderId) w
        (w.updateOrder orderId (PaykhPaymentOrder.asConfirmed t confirmedAt)
          (PaykhPaymentOrder.asConfirmed_id t confirmedAt)) .booked
  | collide {w : World} (htaken : ¬Unmatched w orderId t) :
      CheckMove w₀ t orderId .posted (orderWrite orderId) w w .left

/-- A request does not end between its entry and its order. -/
def ChecksEnd {α : Type} (φ : CheckPhase) (_ : Except ApiError α) : Prop := φ ≠ .posted

/-- A request that follows these steps. -/
abbrev Checks (w₀ : World) (t orderId : String) {α : Type}
    (Q : CheckPhase → Except ApiError α → Prop) (x : Service α) (φ : CheckPhase) : Prop :=
  x.Obeys (CheckMove w₀ t orderId) (SameOrders w₀ t) Q φ

section

variable {w₀ : World} {t orderId : String} {α β : Type} {φ : CheckPhase}
  {Q : CheckPhase → Except ApiError β → Prop}

theorem Checks.outbox_bind (event : OutboxEvent) {f : Unit → Service β}
    (h : Checks w₀ t orderId Q (f ()) φ) : Checks w₀ t orderId Q (outboxCreate event >>= f) φ := by
  unfold outboxCreate
  refine Call.Obeys.query_bind (fun w a w' _ hw' => ?_) fun w e _ he => ?_
  · cases hw'
    exact ⟨φ, .other (by simp) rfl rfl, h⟩
  · cases he

/-- A record that may fail, and what follows it. -/
theorem Checks.record_bind (entry : AuditRecord) {f : Unit → Service β}
    (h : Checks w₀ t orderId Q (f ()) φ) (hfailed : ∀ e, Q φ (.error e)) :
    Checks w₀ t orderId Q (AuditService.record entry >>= f) φ := by
  unfold AuditService.record auditCreate
  refine Call.Obeys.query_bind (fun w a w' _ hw' => ?_) fun w e _ _ =>
    ⟨φ, .other (by simp) rfl rfl, hfailed e⟩
  rw [(auditCreate_ok hw').2]
  exact ⟨φ, .other (by simp) rfl rfl, h⟩

/-- What a refusal leaves: an error, or the phase it was in. -/
def PassedOr (φ : CheckPhase) (φ' : CheckPhase) (r : Except ApiError Unit) : Prop :=
  (∃ e, r = .error e ∧ φ' ≠ .posted) ∨ r = .ok () ∧ φ' = φ

/-- A refusal, and what follows if it does not refuse. -/
theorem Checks.passed_bind {x : Service Unit} {f : Unit → Service α} {φ' : CheckPhase}
    (hx : Checks w₀ t orderId (PassedOr φ) x φ') (h : Checks w₀ t orderId ChecksEnd (f ()) φ) :
    Checks w₀ t orderId ChecksEnd (x >>= f) φ' := by
  refine Call.Obeys.bind hx ?_ ?_
  · rintro φ'' ⟨⟩ (⟨e, he, -⟩ | ⟨-, rfl⟩)
    · cases he
    · exact h
  · rintro φ'' e (⟨e', -, hne⟩ | ⟨hok, -⟩)
    · exact hne
    · cases hok

/-- An order past its deadline expires. -/
theorem refuseExpired_checks (horder : ∃ o, w₀.paykhPaymentOrders.find? orderId = some o)
    (expired : Prop) [Decidable expired] :
    Checks w₀ t orderId (PassedOr .awaiting) (refuseExpired orderId expired) .awaiting := by
  unfold refuseExpired
  split_ifs
  · refine Call.Obeys.query_bind (fun w a w' _ hw' => ?_) fun w e hw he => ?_
    · obtain ⟨row, hrow, -, -, rfl⟩ := Entity.updateTx_ok _ hw'
      exact ⟨.left, .expire, .inl ⟨_, rfl, by decide⟩⟩
    · obtain ⟨o, ho⟩ := horder
      obtain ⟨row, hrow⟩ := hw.exists ho
      rw [Entity.updateTx_of Prisma.paykhPaymentOrder hrow rfl] at he
      cases he
  · exact .inr ⟨rfl, rfl⟩

theorem refuseMismatches_checks (hφ : φ ≠ .posted) (mismatches : List String) :
    Checks w₀ t orderId (PassedOr φ) (refuseMismatches orderId mismatches) φ := by
  unfold refuseMismatches
  split_ifs
  · refine Checks.outbox_bind _ ?_
    exact .inl ⟨_, rfl, hφ⟩
  · exact .inr ⟨rfl, rfl⟩

/-- Without a prior use on another order, the bank transaction is on no other order. -/
theorem unmatched_of_prior {w : World} (hunique : UniquelyMatched w t)
    (hprior : ((w.paykhPaymentOrders.rows.find? fun o => decide (o.matchedBankTransactionId =
      some t)).filter fun o => o.id ≠ orderId) = none) : Unmatched w orderId t := by
  intro o ho hmatched
  cases hfind : w.paykhPaymentOrders.rows.find?
      (fun o => decide (o.matchedBankTransactionId = some t)) with
  | none =>
    have hnone := List.find?_eq_none.mp hfind o ho
    simp [hmatched] at hnone
  | some o' =>
    rw [hfind, Option.filter_eq_none_iff] at hprior
    have hid : o'.id = orderId := by
      by_contra hne
      exact hprior o' rfl (decide_eq_true hne)
    have hmatched' : o'.matchedBankTransactionId = some t := by
      simpa using List.find?_some hfind
    rw [← hid]
    exact hunique o ho o' (List.mem_of_find?_eq_some hfind) hmatched hmatched'

/-- The search for a prior use, and the refusal of one on another order. -/
theorem Checks.search_bind {f : Unit → Service α}
    (h : Checks w₀ t orderId ChecksEnd (f ()) .searched) :
    Checks w₀ t orderId ChecksEnd (Prisma.paykhPaymentOrder.findFirst t
      (fun o => decide (o.matchedBankTransactionId = some t)) >>= fun priorUse =>
        refuseDuplicate orderId t priorUse >>= f) .awaiting := by
  refine Call.Obeys.read_bind fun w hw => ?_
  simp only [Prisma.paykhPaymentOrder_get]
  unfold refuseDuplicate
  cases hprior : (w.paykhPaymentOrders.rows.find? fun o => decide (o.matchedBankTransactionId =
      some t)).filter fun o => decide (o.id ≠ orderId) with
  | none => exact ⟨.searched, .search (unmatched_of_prior hw.unique hprior), h⟩
  | some priorUse =>
    refine ⟨.left, .refuse, ?_⟩
    rw [bind_assoc]
    refine Checks.outbox_bind _ ?_
    show ChecksEnd _ _
    intro hleft
    cases hleft

/-- The collection is posted. -/
theorem Checks.post_bind {o : PaykhPaymentOrder} {e : JournalEntry} {f : Unit → Service α}
    (ho : w₀.paykhPaymentOrders.find? orderId = some o) (he : IsCollection o orderId e)
    (h : Checks w₀ t orderId ChecksEnd (f ()) .posted) :
    Checks w₀ t orderId ChecksEnd (ReserveLedgerService.post e >>= f) .searched := by
  refine Call.Obeys.query_bind (fun w a w' _ hw' => ?_) fun w err _ _ => ?_
  · obtain ⟨_, -, hpost⟩ := bind_eq_ok.mp hw'
    cases hpost
    exact ⟨.posted, .post rfl ho he, h⟩
  · refine ⟨.searched, .other (by simp) rfl rfl, ?_⟩
    intro hsearched
    cases hsearched

/-- The order is confirmed, unless the unique index refuses it. -/
theorem Checks.confirm_bind {confirmedAt : Int} {f : PaykhPaymentOrder → Service α}
    (horder : ∃ o, w₀.paykhPaymentOrders.find? orderId = some o)
    (h : ∀ o, Checks w₀ t orderId ChecksEnd (f o) .booked) :
    Checks w₀ t orderId ChecksEnd (Prisma.paykhPaymentOrder.update (matchConstraints orderId t)
      orderId (PaykhPaymentOrder.asConfirmed t confirmedAt)
      (PaykhPaymentOrder.asConfirmed_id t confirmedAt) >>= f) .posted := by
  refine Call.Obeys.query_bind (fun w a w' _ hw' => ?_) fun w e hw he => ?_
  · obtain ⟨row, hrow, hcheck, -, rfl⟩ := Entity.updateTx_ok _ hw'
    exact ⟨.booked, .book (matchConstraints_eq_ok.mp hcheck), h a⟩
  · obtain ⟨o, ho⟩ := horder
    obtain ⟨row, hrow⟩ := hw.exists ho
    refine ⟨.left, .collide ?_, ?_⟩
    · intro hfree
      rw [Entity.updateTx_of Prisma.paykhPaymentOrder hrow (matchConstraints_eq_ok.mpr hfree)] at he
      cases he
    · intro hleft
      cases hleft

/-- A request whose order awaits payment. -/
theorem applyPayment_checks (clock : Clock) {input : CheckPaymentInput} {o o₀ : PaykhPaymentOrder}
    (hinput : input.bankTransactionId = t) (ho₀ : w₀.paykhPaymentOrders.find? orderId = some o₀)
    (hterms : o₀.terms = o.terms) :
    Checks w₀ t orderId ChecksEnd (applyPayment clock orderId input o) .awaiting := by
  subst hinput
  have hsearched {r : Except ApiError PaymentOrderResult} : ChecksEnd .searched r := by
    intro h
    cases h
  unfold applyPayment
  refine Checks.passed_bind (refuseExpired_checks ⟨o₀, ho₀⟩ _) ?_
  refine Call.Obeys.lift_bind (fun _ _ h => by cases h) fun _ _ => ?_
  refine Checks.search_bind ?_
  refine Call.Obeys.lift_bind (fun _ _ => hsearched) fun amountMinor _ => ?_
  refine Call.Obeys.read_bind fun w _ => ⟨.searched, .other (by simp [Prisma.paykhPaymentProfile])
    rfl rfl, ?_⟩
  refine Checks.passed_bind (refuseMismatches_checks (by decide) _) ?_
  refine Call.Obeys.lift_bind (fun _ _ => hsearched) fun e he => ?_
  refine Checks.post_bind ho₀ ((isCollection_of_entry he).congr hterms) ?_
  refine Checks.confirm_bind ⟨o₀, ho₀⟩ fun updated => ?_
  have hbooked {r : Except ApiError PaymentOrderResult} : ChecksEnd .booked r := by
    intro h
    cases h
  exact Checks.record_bind _ (Checks.outbox_bind _ hbooked) fun _ => hbooked

/-- **One request among others.** -/
theorem checkPayment_checks (w₀ : World) (clock : Clock) (orderId : String)
    {input : CheckPaymentInput} (hinput : input.bankTransactionId = t) :
    Checks w₀ t orderId ChecksEnd (checkPayment clock orderId input) .outside := by
  have hleft {r : Except ApiError PaymentOrderResult} : ChecksEnd .left r := by
    intro h
    cases h
  unfold checkPayment requireOrder
  rw [bind_assoc]
  refine Call.Obeys.read_bind fun w hw => ?_
  simp only [Prisma.paykhPaymentOrder_get]
  cases ho : w.paykhPaymentOrders.find? orderId with
  | none => exact ⟨.left, .turnAway, hleft⟩
  | some o =>
    by_cases hconfirmed : o.status = .confirmed
    · refine ⟨.left, .turnAway, ?_⟩
      rw [orThrow, Call.lift_ok_bind, if_pos hconfirmed]
      refine Call.Obeys.throwIf_bind (fun _ => hleft) fun _ => ?_
      exact hleft
    · by_cases hawaits : o.status ≠ .awaitingPayment ∧ o.status ≠ .paymentDetected
      · refine ⟨.left, .turnAway, ?_⟩
        rw [orThrow, Call.lift_ok_bind, if_neg hconfirmed]
        exact Call.Obeys.throwIf_bind (fun _ => hleft) fun hnot => absurd hawaits hnot
      · obtain ⟨o₀, ho₀, hterms⟩ := hw.find? ho
        refine ⟨.awaiting, .await ho (by unfold PaykhPaymentOrder.Awaits; tauto), ?_⟩
        rw [orThrow, Call.lift_ok_bind, if_neg hconfirmed]
        refine Call.Obeys.throwIf_bind (fun h => absurd h hawaits) fun _ => ?_
        exact applyPayment_checks clock hinput ho₀ hterms

end

/-! ## All requests together -/

omit [Runtime] in
/-- The request has posted, and wrote its order or is about to. -/
def CheckPhase.Poster (φ : CheckPhase) : Prop := φ = .posted ∨ φ = .booked

section

variable {ι : Type} [DecidableEq ι]

/-- A request that is about to post has read after every other request that has come to post wrote
its order: its own order, or the search for the bank transaction. -/
def PostsFreshPayment (order : ι → String) (t : String)
    (p : Pool ι Query World ApiError PaymentOrderResult) (i : ι) : Prop :=
  (p.calls i).next?.any (·.model = .ledgerEntry) → ∀ e ∈ p.history, e.1 ≠ i →
    e.2.model = .ledgerEntry → (e.1, orderWrite (order e.1)) ∈
      p.upTo (i, if order e.1 = order i then orderRead (order i) else orderSearch t)

/-- A request that is about to write its order has read it after every request that posted and
wrote it. -/
def WritesFreshOrder (order : ι → String) (p : Pool ι Query World ApiError PaymentOrderResult)
    (i : ι) : Prop :=
  (p.calls i).next? = some (orderWrite (order i)) → ∀ e ∈ p.since (i, orderRead (order i)),
    e.2 = orderWrite (order i) → ∀ e' ∈ p.history, e'.1 = e.1 → e'.2.model ≠ .ledgerEntry

/-- The step of a request acts on what is still so. -/
def ChecksFresh (order : ι → String) (t : String)
    (p : Pool ι Query World ApiError PaymentOrderResult) (i : ι) : Prop :=
  PostsFreshPayment order t p i ∧ WritesFreshOrder order p i

instance (order : ι → String) (t : String) (p : Pool ι Query World ApiError PaymentOrderResult)
    (i : ι) : Decidable (PostsFreshPayment order t p i) :=
  inferInstanceAs (Decidable (_ → _))

instance (order : ι → String) (p : Pool ι Query World ApiError PaymentOrderResult) (i : ι) :
    Decidable (WritesFreshOrder order p i) :=
  inferInstanceAs (Decidable (_ → _))

instance (order : ι → String) (t : String) (p : Pool ι Query World ApiError PaymentOrderResult)
    (i : ι) : Decidable (ChecksFresh order t p i) :=
  inferInstanceAs (Decidable (_ ∧ _))

/-- What holds of the pool and the phases: one request at most has posted, and what the others have
read is older than what it wrote. -/
structure CheckInv (w₀ : World) (t : String) (order : ι → String)
    (p : Pool ι Query World ApiError PaymentOrderResult) (ph : ι → CheckPhase) : Prop where
  orders : SameOrders w₀ t p.state
  entries : (p.state.ledger = w₀.ledger ∧ ∀ j, ¬(ph j).Poster) ∨
    ∃ j o e, p.state.ledger = w₀.ledger ++ [e] ∧ (ph j).Poster ∧
      w₀.paykhPaymentOrders.find? (order j) = some o ∧ IsCollection o (order j) e ∧
      ∀ k, (ph k).Poster → k = j
  came : ∀ j, (ph j).Poster → ∃ q, (j, q) ∈ p.history ∧ q.model = .ledgerEntry
  wrote : ∀ j, ph j = .booked → (j, orderWrite (order j)) ∈ p.history
  unwritten : ∀ j, ph j ≠ .booked → ph j ≠ .left → (j, orderWrite (order j)) ∉ p.history
  free : ∀ i, ph i = .searched ∨ ph i = .posted →
    Unmatched p.state (order i) t ∨ ∃ j, j ≠ i ∧ (ph j).Poster
  confirmed : ∀ j, ph j = .booked → ∃ o, p.state.paykhPaymentOrders.find? (order j) = some o ∧
    o.status = .confirmed ∧ o.matchedBankTransactionId = some t
  readFresh : ∀ i j, ph i = .awaiting ∨ ph i = .searched → (ph j).Poster → order j = order i →
    (j, orderWrite (order j)) ∉ p.upTo (i, orderRead (order i))
  searchFresh : ∀ i j, ph i = .searched → (ph j).Poster → order j ≠ order i →
    (j, orderWrite (order j)) ∉ p.upTo (i, orderSearch t)

namespace CheckInv

variable {w₀ : World} {t : String} {order : ι → String}
  {p : Pool ι Query World ApiError PaymentOrderResult} {ph : ι → CheckPhase} {i : ι} {q : Query}
  {eff : World → World} {next : World → Service PaymentOrderResult} {φ' : CheckPhase}

/-- One request at most has posted. -/
theorem unique (h : CheckInv w₀ t order p ph) {j k : ι} (hj : (ph j).Poster) (hk : (ph k).Poster) :
    j = k := by
  rcases h.entries with ⟨-, hnone⟩ | ⟨l, o, e, -, -, -, -, hone⟩
  · exact absurd hj (hnone j)
  · exact (hone j hj).trans (hone k hk).symm

omit [Runtime] in
theorem poster_update (hposter : φ'.Poster ↔ (ph i).Poster) (j : ι) :
    (Function.update ph i φ' j).Poster ↔ (ph j).Poster := by
  by_cases hji : j = i
  · subst hji
    rw [Function.update_self]
    exact hposter
  · rw [Function.update_of_ne hji]

/-- The entries, after a step that posts nothing. -/
theorem entries_step (h : CheckInv w₀ t order p ph) {w : World} (hledger : w.ledger = p.state.ledger)
    (hposter : φ'.Poster ↔ (ph i).Poster) :
    (w.ledger = w₀.ledger ∧ ∀ j, ¬(Function.update ph i φ' j).Poster) ∨
      ∃ j o e, w.ledger = w₀.ledger ++ [e] ∧ (Function.update ph i φ' j).Poster ∧
        w₀.paykhPaymentOrders.find? (order j) = some o ∧ IsCollection o (order j) e ∧
        ∀ k, (Function.update ph i φ' k).Poster → k = j := by
  simp only [poster_update hposter]
  rw [hledger]
  exact h.entries

/-- Who has posted has come to post, after a step that posts nothing. -/
theorem came_step (h : CheckInv w₀ t order p ph) (hi : p.calls i = .step q eff next)
    (hposter : φ'.Poster ↔ (ph i).Poster) (j : ι) (hj : (Function.update ph i φ' j).Poster) :
    ∃ q, (j, q) ∈ (p.step i).history ∧ q.model = .ledgerEntry := by
  obtain ⟨r, hr, hmodel⟩ := h.came j ((poster_update hposter j).mp hj)
  refine ⟨r, ?_, hmodel⟩
  rw [Pool.history_step hi]
  exact List.mem_cons_of_mem _ hr

/-- What another request has read is as fresh as it was. -/
theorem upTo_other (hi : p.calls i = .step q eff next) {k : ι} (hk : k ≠ i) (r : Query) :
    (p.step i).upTo (k, r) = p.upTo (k, r) := by
  refine Pool.upTo_step_of_ne hi ?_
  intro heq
  exact hk (congrArg Prod.fst heq).symm

/-- **A step that writes neither the ledger nor an order.** -/
theorem quiet (h : CheckInv w₀ t order p ph) (hi : p.calls i = .step q eff next)
    (hledger : (eff p.state).ledger = p.state.ledger)
    (horders : (eff p.state).paykhPaymentOrders = p.state.paykhPaymentOrders)
    (hq : q ≠ orderWrite (order i)) (hposter : φ'.Poster ↔ (ph i).Poster)
    (hbooked : φ' = .booked ↔ ph i = .booked) (hleft : φ' ≠ .left → ph i ≠ .left)
    (hfree : φ' = .searched → ph i = .searched ∨ Unmatched p.state (order i) t)
    (hread : φ' = .awaiting ∨ φ' = .searched → ∀ j, (ph j).Poster → order j = order i →
      (j, orderWrite (order j)) ∉ (p.step i).upTo (i, orderRead (order i)))
    (hsearch : φ' = .searched → ∀ j, (ph j).Poster → order j ≠ order i →
      (j, orderWrite (order j)) ∉ (p.step i).upTo (i, orderSearch t)) :
    CheckInv w₀ t order (p.step i) (Function.update ph i φ') := by
  have hstate : (p.step i).state = eff p.state := Pool.state_step hi
  have hunmatched (a : String) : Unmatched (eff p.state) a t ↔ Unmatched p.state a t := by
    unfold Unmatched
    rw [horders]
  refine ⟨?_, ?_, h.came_step hi hposter, ?_, ?_, ?_, ?_, ?_, ?_⟩
  · rw [hstate]
    exact h.orders.congr horders
  · rw [hstate]
    exact h.entries_step hledger hposter
  · intro j hj
    rw [Pool.history_step hi]
    refine List.mem_cons_of_mem _ (h.wrote j ?_)
    by_cases hji : j = i
    · subst hji
      rw [Function.update_self] at hj
      exact hbooked.mp hj
    · rwa [Function.update_of_ne hji] at hj
  · intro j hj hj' hmem
    rw [Pool.history_step hi, List.mem_cons] at hmem
    by_cases hji : j = i
    · subst hji
      rw [Function.update_self] at hj hj'
      rcases hmem with hmem | hmem
      · exact hq (congrArg Prod.snd hmem).symm
      · exact h.unwritten j (fun hb => hj (hbooked.mpr hb)) (hleft hj') hmem
    · rw [Function.update_of_ne hji] at hj hj'
      rcases hmem with hmem | hmem
      · exact hji (congrArg Prod.fst hmem)
      · exact h.unwritten j hj hj' hmem
  · intro j hj
    rw [hstate, hunmatched]
    simp only [poster_update hposter]
    by_cases hji : j = i
    · subst hji
      rw [Function.update_self] at hj
      rcases hj with hj | hj
      · rcases hfree hj with hsame | hnow
        · exact h.free j (.inl hsame)
        · exact .inl hnow
      · rcases hposter.mp (.inl hj) with hp | hb
        · exact h.free j (.inr hp)
        · rw [hbooked.mpr hb] at hj
          cases hj
    · rw [Function.update_of_ne hji] at hj
      exact h.free j hj
  · intro j hj
    rw [hstate, horders]
    refine h.confirmed j ?_
    by_cases hji : j = i
    · subst hji
      rw [Function.update_self] at hj
      exact hbooked.mp hj
    · rwa [Function.update_of_ne hji] at hj
  · intro k j hk hj horder
    have hj' := (poster_update hposter j).mp hj
    by_cases hki : k = i
    · subst hki
      rw [Function.update_self] at hk
      exact hread hk j hj' horder
    · rw [Function.update_of_ne hki] at hk
      rw [upTo_other hi hki]
      exact h.readFresh k j hk hj' horder
  · intro k j hk hj horder
    have hj' := (poster_update hposter j).mp hj
    by_cases hki : k = i
    · subst hki
      rw [Function.update_self] at hk
      exact hsearch hk j hj' horder
    · rw [Function.update_of_ne hki] at hk
      rw [upTo_other hi hki]
      exact h.searchFresh k j hk hj' horder

omit [Runtime] in
theorem not_poster {φ : CheckPhase} (hposted : φ ≠ .posted) (hbooked : φ ≠ .booked) :
    ¬φ.Poster := by
  rintro (h | h)
  · exact hposted h
  · exact hbooked h

/-- A request that has posted and whose write is in the history has booked. -/
theorem booked_of_written (h : CheckInv w₀ t order p ph) {j : ι} (hj : (ph j).Poster)
    (hwritten : (j, orderWrite (order j)) ∈ p.history) : ph j = .booked := by
  rcases hj with hj | hj
  · refine absurd hwritten (h.unwritten j ?_ ?_) <;> rw [hj] <;> decide
  · exact hj

/-- The order of a request that is read awaiting its payment is not booked. -/
theorem await (h : CheckInv w₀ t order p ph) (hi : p.calls i = .step (orderRead (order i)) eff next)
    (heff : eff p.state = p.state) (hphase : ph i = .outside) {o : PaykhPaymentOrder}
    (ho : p.state.paykhPaymentOrders.find? (order i) = some o) (hawaits : o.Awaits) :
    CheckInv w₀ t order (p.step i) (Function.update ph i .awaiting) := by
  refine h.quiet hi (by rw [heff]) (by rw [heff]) (by simp [orderRead, orderWrite]) ?_ ?_ ?_ ?_ ?_ ?_
  · rw [hphase]
    exact iff_of_false (not_poster (by decide) (by decide)) (not_poster (by decide) (by decide))
  · rw [hphase]
    exact iff_of_false (by decide) (by decide)
  · rw [hphase]
    exact fun _ => by decide
  · exact fun h => by cases h
  · intro _ j hj horder hmem
    rw [Pool.upTo_step_self hi, List.mem_cons] at hmem
    rcases hmem with hmem | hmem
    · simp [orderRead, orderWrite] at hmem
    · obtain ⟨o', ho', hconfirmed, -⟩ := h.confirmed j (h.booked_of_written hj hmem)
      rw [horder, ho, Option.some.injEq] at ho'
      rw [← ho'] at hconfirmed
      rcases hawaits with ha | ha <;> rw [hconfirmed] at ha <;> cases ha
  · exact fun h => by cases h

/-- A request that leaves without posting. -/
theorem leave (h : CheckInv w₀ t order p ph) (hi : p.calls i = .step q eff next)
    (heff : eff p.state = p.state) (hq : q ≠ orderWrite (order i))
    (hphase : ph i = .outside ∨ ph i = .awaiting) :
    CheckInv w₀ t order (p.step i) (Function.update ph i .left) := by
  have hnot : ¬(ph i).Poster := by
    rcases hphase with hphase | hphase <;> rw [hphase] <;>
      exact not_poster (by decide) (by decide)
  refine h.quiet hi (by rw [heff]) (by rw [heff]) hq ?_ ?_ ?_ ?_ ?_ ?_
  · exact iff_of_false (not_poster (by decide) (by decide)) hnot
  · exact iff_of_false (by decide) fun hbooked => hnot (.inr hbooked)
  · exact fun h => absurd rfl h
  · exact fun h => by cases h
  · exact fun h => by rcases h with h | h <;> cases h
  · exact fun h => by cases h

/-- The search finds no order that another request booked. -/
theorem search (h : CheckInv w₀ t order p ph) (hi : p.calls i = .step (orderSearch t) eff next)
    (heff : eff p.state = p.state) (hphase : ph i = .awaiting)
    (hfree : Unmatched p.state (order i) t) :
    CheckInv w₀ t order (p.step i) (Function.update ph i .searched) := by
  refine h.quiet hi (by rw [heff]) (by rw [heff]) (by simp [orderSearch, orderWrite]) ?_ ?_ ?_ ?_ ?_ ?_
  · rw [hphase]
    exact iff_of_false (not_poster (by decide) (by decide)) (not_poster (by decide) (by decide))
  · rw [hphase]
    exact iff_of_false (by decide) (by decide)
  · rw [hphase]
    exact fun _ => by decide
  · exact fun _ => .inr hfree
  · intro _ j hj horder
    rw [Pool.upTo_step_of_ne hi (by simp [orderSearch, orderRead])]
    exact h.readFresh i j (.inl hphase) hj horder
  · intro _ j hj horder hmem
    rw [Pool.upTo_step_self hi, List.mem_cons] at hmem
    rcases hmem with hmem | hmem
    · simp [orderSearch, orderWrite] at hmem
    · obtain ⟨o, ho, -, hmatched⟩ := h.confirmed j (h.booked_of_written hj hmem)
      refine horder ?_
      rw [← hfree o (Lib.Table.mem_of_find? ho) hmatched]
      exact (Lib.Table.key_of_find? ho).symm

/-- Another step of a request. -/
theorem other (h : CheckInv w₀ t order p ph) (hi : p.calls i = .step q eff next)
    (hq : q.model ≠ .paykhPaymentOrder) (hledger : (eff p.state).ledger = p.state.ledger)
    (horders : (eff p.state).paykhPaymentOrders = p.state.paykhPaymentOrders) :
    CheckInv w₀ t order (p.step i) (Function.update ph i (ph i)) := by
  have hne (q' : Query) (hq' : q'.model = .paykhPaymentOrder) : q ≠ q' := by
    rintro rfl
    exact hq hq'
  refine h.quiet hi hledger horders (hne _ rfl) Iff.rfl Iff.rfl (fun h => h) .inl ?_ ?_
  · intro hphase j hj horder
    rw [Pool.upTo_step_of_ne hi (by simpa using hne _ rfl)]
    exact h.readFresh i j hphase hj horder
  · intro hphase j hj horder
    rw [Pool.upTo_step_of_ne hi (by simpa using hne _ rfl)]
    exact h.searchFresh i j hphase hj horder

/-- What an update of an order does to the matches. -/
theorem mem_updateOrder {w : World} {a : String} {f : PaykhPaymentOrder → PaykhPaymentOrder}
    {hf : ∀ o, (f o).id = o.id} {o : PaykhPaymentOrder}
    (ho : o ∈ (w.updateOrder a f hf).paykhPaymentOrders.rows) :
    (o ∈ w.paykhPaymentOrders.rows ∧ o.id ≠ a) ∨
      ∃ r, w.paykhPaymentOrders.find? a = some r ∧ o = f r :=
  (@Lib.Table.mem_modify _ _ _ _ w.paykhPaymentOrders a f hf o).mp ho

/-- An expiry keeps the matches. -/
theorem matches_expired {w : World} {a : String} {o : PaykhPaymentOrder}
    (ho : o ∈ (w.updateOrder a PaykhPaymentOrder.asExpired
      PaykhPaymentOrder.asExpired_id).paykhPaymentOrders.rows) :
    ∃ r ∈ w.paykhPaymentOrders.rows, r.id = o.id ∧
      r.matchedBankTransactionId = o.matchedBankTransactionId := by
  rcases mem_updateOrder ho with ⟨hmem, -⟩ | ⟨r, hr, rfl⟩
  · exact ⟨o, hmem, rfl, rfl⟩
  · exact ⟨r, Lib.Table.mem_of_find? hr, rfl, rfl⟩

/-- A request that expires an order finds it unbooked. -/
theorem expire (h : CheckInv w₀ t order p ph) (hfresh : WritesFreshOrder order p i)
    (hi : p.calls i = .step (orderWrite (order i)) eff next)
    (heff : eff p.state = p.state.updateOrder (order i) PaykhPaymentOrder.asExpired
      PaykhPaymentOrder.asExpired_id) (hphase : ph i = .awaiting) :
    CheckInv w₀ t order (p.step i) (Function.update ph i .left) := by
  have hstate : (p.step i).state = p.state.updateOrder (order i) PaykhPaymentOrder.asExpired
      PaykhPaymentOrder.asExpired_id := (Pool.state_step hi).trans heff
  have hposter : CheckPhase.left.Poster ↔ (ph i).Poster := by
    rw [hphase]
    exact iff_of_false (not_poster (by decide) (by decide)) (not_poster (by decide) (by decide))
  have hnext : (p.calls i).next? = some (orderWrite (order i)) := by
    rw [hi]
    rfl
  -- The write of a booked order would lie before the read, or after it.
  have hunbooked (j : ι) (hj : ph j = .booked) : order j ≠ order i := by
    intro horder
    have hwrote := h.wrote j hj
    rw [← p.since_append_upTo (i, orderRead (order i)), List.mem_append] at hwrote
    rcases hwrote with hsince | hupTo
    · obtain ⟨r, hr, hmodel⟩ := h.came j (.inr hj)
      exact hfresh hnext _ hsince (by rw [horder]) _ hr rfl hmodel
    · exact h.readFresh i j (.inl hphase) (.inr hj) horder hupTo
  refine ⟨?_, ?_, h.came_step hi hposter, ?_, ?_, ?_, ?_, ?_, ?_⟩
  · rw [hstate]
    refine h.orders.update _ (fun _ => rfl) ?_
    intro o ho o' ho' hmatched hmatched'
    obtain ⟨r, hr, hid, hsame⟩ := matches_expired ho
    obtain ⟨r', hr', hid', hsame'⟩ := matches_expired ho'
    rw [← hid, ← hid']
    exact h.orders.unique r hr r' hr' (hsame.trans hmatched) (hsame'.trans hmatched')
  · rw [hstate]
    exact h.entries_step rfl hposter
  · intro j hj
    rw [Pool.history_step hi]
    refine List.mem_cons_of_mem _ (h.wrote j ?_)
    by_cases hji : j = i
    · subst hji
      rw [Function.update_self] at hj
      cases hj
    · rwa [Function.update_of_ne hji] at hj
  · intro j hj hj' hmem
    rw [Pool.history_step hi, List.mem_cons] at hmem
    by_cases hji : j = i
    · subst hji
      rw [Function.update_self] at hj'
      exact hj' rfl
    · rw [Function.update_of_ne hji] at hj hj'
      rcases hmem with hmem | hmem
      · exact hji (congrArg Prod.fst hmem)
      · exact h.unwritten j hj hj' hmem
  · intro j hj
    simp only [poster_update hposter]
    have hj' : ph j = .searched ∨ ph j = .posted := by
      by_cases hji : j = i
      · subst hji
        rw [Function.update_self] at hj
        rcases hj with hj | hj <;> cases hj
      · rwa [Function.update_of_ne hji] at hj
    refine (h.free j hj').imp_left fun hfree => ?_
    rw [hstate]
    intro o ho hmatched
    obtain ⟨r, hr, hid, hsame⟩ := matches_expired ho
    rw [← hid]
    exact hfree r hr (hsame.trans hmatched)
  · intro j hj
    have hj' : ph j = .booked := by
      by_cases hji : j = i
      · subst hji
        rw [Function.update_self] at hj
        cases hj
      · rwa [Function.update_of_ne hji] at hj
    obtain ⟨o, ho, hconfirmed⟩ := h.confirmed j hj'
    refine ⟨o, ?_, hconfirmed⟩
    rw [hstate]
    show (p.state.paykhPaymentOrders.modify _ PaykhPaymentOrder.asExpired
      PaykhPaymentOrder.asExpired_id).find? _ = _
    rw [Lib.Table.find?_modify, if_neg (hunbooked j hj')]
    exact ho
  · intro k j hk hj horder
    by_cases hki : k = i
    · subst hki
      rw [Function.update_self] at hk
      rcases hk with hk | hk <;> cases hk
    · rw [Function.update_of_ne hki] at hk
      rw [upTo_other hi hki]
      exact h.readFresh k j hk ((poster_update hposter j).mp hj) horder
  · intro k j hk hj horder
    by_cases hki : k = i
    · subst hki
      rw [Function.update_self] at hk
      cases hk
    · rw [Function.update_of_ne hki] at hk
      rw [upTo_other hi hki]
      exact h.searchFresh k j hk ((poster_update hposter j).mp hj) horder

/-- Whoever posts is the first. -/
theorem unposted (h : CheckInv w₀ t order p ph) (hfresh : PostsFreshPayment order t p i)
    (hi : p.calls i = .step q eff next) (hq : q.model = .ledgerEntry) (hphase : ph i = .searched)
    (j : ι) : ¬(ph j).Poster := by
  intro hj
  have hji : j ≠ i := by
    rintro rfl
    rw [hphase] at hj
    rcases hj with hj | hj <;> cases hj
  have hnext : (p.calls i).next?.any (·.model = .ledgerEntry) = true := by
    rw [hi]
    exact decide_eq_true hq
  obtain ⟨r, hr, hmodel⟩ := h.came j hj
  have hwrote := hfresh hnext _ hr hji hmodel
  by_cases horder : order j = order i
  · rw [if_pos horder] at hwrote
    exact h.readFresh i j (.inr hphase) hj horder hwrote
  · rw [if_neg horder] at hwrote
    exact h.searchFresh i j hphase hj horder hwrote

/-- The first request that posts. -/
theorem post (h : CheckInv w₀ t order p ph) (hfresh : PostsFreshPayment order t p i)
    (hi : p.calls i = .step q eff next) {o : PaykhPaymentOrder} {e : JournalEntry}
    (heff : eff p.state = p.state.posted e) (hq : q.model = .ledgerEntry) (hphase : ph i = .searched)
    (ho : w₀.paykhPaymentOrders.find? (order i) = some o) (he : IsCollection o (order i) e) :
    CheckInv w₀ t order (p.step i) (Function.update ph i .posted) := by
  have hstate : (p.step i).state = p.state.posted e := (Pool.state_step hi).trans heff
  have hnone := h.unposted hfresh hi hq hphase
  have hone (k : ι) (hk : (Function.update ph i .posted k).Poster) : k = i := by
    by_contra hki
    rw [Function.update_of_ne hki] at hk
    exact hnone k hk
  have hledger : p.state.ledger = w₀.ledger := by
    rcases h.entries with ⟨hledger, -⟩ | ⟨j, -, -, -, hj, -⟩
    · exact hledger
    · exact absurd hj (hnone j)
  have hbooked (j : ι) (hj : Function.update ph i .posted j = .booked) : False := by
    obtain rfl := hone j (.inr hj)
    rw [Function.update_self] at hj
    cases hj
  have hunwritten (j : ι) (hj : (Function.update ph i .posted j).Poster) :
      (j, orderWrite (order j)) ∉ p.history := by
    obtain rfl := hone j hj
    refine h.unwritten j ?_ ?_ <;> rw [hphase] <;> decide
  refine ⟨?_, ?_, ?_, fun j hj => (hbooked j hj).elim, ?_, ?_, fun j hj => (hbooked j hj).elim,
    ?_, ?_⟩
  · rw [hstate]
    exact h.orders.congr rfl
  · right
    refine ⟨i, o, e, ?_, ?_, ho, he, hone⟩
    · rw [hstate, ← hledger]
      rfl
    · rw [Function.update_self]
      exact .inl rfl
  · intro j hj
    obtain rfl := hone j hj
    refine ⟨q, ?_, hq⟩
    rw [Pool.history_step hi]
    exact List.mem_cons_self
  · intro j hj hj' hmem
    rw [Pool.history_step hi, List.mem_cons] at hmem
    rcases hmem with hmem | hmem
    · have hlabel : orderWrite (order j) = q := congrArg Prod.snd hmem
      rw [← hlabel] at hq
      cases hq
    · by_cases hji : j = i
      · subst hji
        refine h.unwritten j ?_ ?_ hmem <;> rw [hphase] <;> decide
      · rw [Function.update_of_ne hji] at hj hj'
        exact h.unwritten j hj hj' hmem
  · intro j hj
    by_cases hji : j = i
    · subst hji
      rcases h.free j (.inl hphase) with hfree | ⟨k, -, hk⟩
      · left
        rw [hstate]
        exact hfree
      · exact absurd hk (hnone k)
    · right
      refine ⟨i, Ne.symm hji, ?_⟩
      rw [Function.update_self]
      exact .inl rfl
  · intro k j hk hj _ hmem
    have hki : k ≠ i := by
      rintro rfl
      rw [Function.update_self] at hk
      rcases hk with hk | hk <;> cases hk
    rw [upTo_other hi hki] at hmem
    exact hunwritten j hj (Pool.mem_history_of_upTo hmem)
  · intro k j hk hj _ hmem
    have hki : k ≠ i := by
      rintro rfl
      rw [Function.update_self] at hk
      cases hk
    rw [upTo_other hi hki] at hmem
    exact hunwritten j hj (Pool.mem_history_of_upTo hmem)

/-- Whoever has posted finds the bank transaction free. -/
theorem free_of_posted (h : CheckInv w₀ t order p ph) (hphase : ph i = .posted) :
    Unmatched p.state (order i) t := by
  rcases h.free i (.inr hphase) with hfree | ⟨j, hji, hj⟩
  · exact hfree
  · exact absurd (h.unique hj (.inl hphase)) hji

/-- The order of the request that posted is booked. -/
theorem book (h : CheckInv w₀ t order p ph)
    (hi : p.calls i = .step (orderWrite (order i)) eff next) {confirmedAt : Int}
    (heff : eff p.state = p.state.updateOrder (order i) (PaykhPaymentOrder.asConfirmed t confirmedAt)
      (PaykhPaymentOrder.asConfirmed_id t confirmedAt)) (hphase : ph i = .posted) :
    CheckInv w₀ t order (p.step i) (Function.update ph i .booked) := by
  have hstate : (p.step i).state = p.state.updateOrder (order i)
      (PaykhPaymentOrder.asConfirmed t confirmedAt)
      (PaykhPaymentOrder.asConfirmed_id t confirmedAt) := (Pool.state_step hi).trans heff
  have hposter : CheckPhase.booked.Poster ↔ (ph i).Poster := by
    rw [hphase]
    exact iff_of_true (.inr rfl) (.inl rfl)
  have hfree := h.free_of_posted hphase
  have hone (k : ι) (hk : (Function.update ph i .booked k).Poster) : k = i :=
    h.unique ((poster_update hposter k).mp hk) (.inl hphase)
  -- What is matched now is the order booked.
  have hmatch : Unmatched (p.step i).state (order i) t := by
    rw [hstate]
    intro o ho hmatched
    rcases mem_updateOrder ho with ⟨hmem, -⟩ | ⟨r, hr, rfl⟩
    · exact hfree o hmem hmatched
    · show r.id = order i
      exact Lib.Table.key_of_find? hr
  refine ⟨?_, ?_, h.came_step hi hposter, ?_, ?_, ?_, ?_, ?_, ?_⟩
  · have hunique : UniquelyMatched (p.step i).state t := fun o ho o' ho' hmatched hmatched' =>
      (hmatch o ho hmatched).trans (hmatch o' ho' hmatched').symm
    rw [hstate] at hunique ⊢
    exact h.orders.update _ (fun _ => rfl) hunique
  · rw [hstate]
    exact h.entries_step rfl hposter
  · intro j hj
    obtain rfl := hone j (.inr hj)
    rw [Pool.history_step hi]
    exact List.mem_cons_self
  · intro j hj hj' hmem
    have hji : j ≠ i := by
      rintro rfl
      rw [Function.update_self] at hj
      exact hj rfl
    rw [Function.update_of_ne hji] at hj hj'
    rw [Pool.history_step hi, List.mem_cons] at hmem
    rcases hmem with hmem | hmem
    · exact hji (congrArg Prod.fst hmem)
    · exact h.unwritten j hj hj' hmem
  · intro j hj
    right
    refine ⟨i, ?_, (poster_update hposter i).mpr (.inl hphase)⟩
    rintro rfl
    rw [Function.update_self] at hj
    rcases hj with hj | hj <;> cases hj
  · intro j hj
    obtain rfl := hone j (.inr hj)
    obtain ⟨row, hrow⟩ : ∃ row, p.state.paykhPaymentOrders.find? (order j) = some row := by
      rcases h.entries with ⟨-, hnone⟩ | ⟨k, o, e, -, hk, ho, -⟩
      · exact absurd (.inl hphase) (hnone j)
      · obtain rfl := h.unique hk (.inl hphase)
        exact h.orders.exists ho
    refine ⟨row.asConfirmed t confirmedAt, ?_, rfl, rfl⟩
    rw [hstate]
    exact find?_updateOrder hrow _ _
  · intro k j hk hj horder
    obtain rfl := hone j hj
    have hkj : k ≠ j := by
      rintro rfl
      rw [Function.update_self] at hk
      rcases hk with hk | hk <;> cases hk
    rw [Function.update_of_ne hkj] at hk
    rw [upTo_other hi hkj]
    exact h.readFresh k j hk (.inl hphase) horder
  · intro k j hk hj horder
    obtain rfl := hone j hj
    have hkj : k ≠ j := by
      rintro rfl
      rw [Function.update_self] at hk
      cases hk
    rw [Function.update_of_ne hkj] at hk
    rw [upTo_other hi hkj]
    exact h.searchFresh k j hk (.inl hphase) horder

/-- **Every step keeps the invariant.** -/
theorem step (h : CheckInv w₀ t order p ph) (hfresh : ChecksFresh order t p i)
    (hi : p.calls i = .step q eff next)
    (hmove : CheckMove w₀ t (order i) (ph i) q p.state (eff p.state) φ') :
    CheckInv w₀ t order (p.step i) (Function.update ph i φ') := by
  generalize hphase : ph i = φ at hmove
  generalize heff : eff p.state = w' at hmove
  cases hmove with
  | other hq hledger horders =>
    rw [← hphase]
    exact h.other hi hq (heff ▸ hledger) (heff ▸ horders)
  | await ho hawaits => exact h.await hi heff hphase ho hawaits
  | turnAway => exact h.leave hi heff (by simp [orderRead, orderWrite]) (.inl hphase)
  | search hfree => exact h.search hi heff hphase hfree
  | refuse => exact h.leave hi heff (by simp [orderSearch, orderWrite]) (.inr hphase)
  | expire => exact h.expire hfresh.2 hi heff hphase
  | post hq ho he => exact h.post hfresh.1 hi heff hq hphase ho he
  | book hfree => exact h.book hi heff hphase
  | collide htaken => exact absurd (h.free_of_posted hphase) htaken

end CheckInv

/-- The requests, served at the same time. -/
def checkPool (w : World) (requests : ι → CheckRequest) :
    Pool ι Query World ApiError PaymentOrderResult :=
  Pool.start w fun i => (requests i).call

/-- **One bank payment is booked once**, whatever the interleaving of the requests that present it,
if every step acts on what is still so; and when the requests have ended, its order is
confirmed. -/
theorem one_booking {w : World} {t : String} (hunique : UniquelyMatched w t)
    (requests : ι → CheckRequest) (hsame : ∀ i, (requests i).input.bankTransactionId = t)
    {schedule : List ι}
    (hfresh : Lib.Meets Pool.step (ChecksFresh (fun i => (requests i).orderId) t)
      (checkPool w requests) schedule) :
    ∃ entries, ((checkPool w requests).exec schedule).state.ledger = w.ledger ++ entries ∧
      entries.length ≤ 1 ∧
      ∀ e ∈ entries, ∃ o ∈ w.paykhPaymentOrders.rows, IsCollection o o.id e ∧
        ((∀ i, (((checkPool w requests).exec schedule).calls i).next? = none) →
          ∃ o', ((checkPool w requests).exec schedule).state.paykhPaymentOrders.find? o.id =
            some o' ∧ o'.status = .confirmed ∧ o'.matchedBankTransactionId = some t) := by
  have hstart : CheckInv w t (fun i => (requests i).orderId) (checkPool w requests)
      fun _ => .outside := by
    have hnot (j : ι) : ¬CheckPhase.Poster .outside :=
      CheckInv.not_poster (by decide) (by decide)
    refine ⟨⟨fun _ => rfl, hunique⟩, .inl ⟨rfl, hnot⟩, fun j hj => absurd hj (hnot j), ?_, ?_, ?_,
      ?_, ?_, ?_⟩
    · exact fun j hj => by cases hj
    · exact fun j _ _ hmem => by cases hmem
    · exact fun j hj => by rcases hj with hj | hj <;> cases hj
    · exact fun j hj => by cases hj
    · exact fun i j _ hj => absurd hj (hnot j)
    · exact fun i j _ hj => absurd hj (hnot j)
  have hobey : (checkPool w requests).Obey (fun i => CheckMove w t (requests i).orderId)
      (SameOrders w t) ChecksEnd fun _ => .outside :=
    fun i => checkPayment_checks w _ _ (hsame i)
  obtain ⟨ph, hinv, hobey'⟩ := Pool.inv_exec
    (fun p ph (h : CheckInv w t (fun i => (requests i).orderId) p ph) => h.orders)
    (fun p ph i q eff next φ' h _ hC hi hmove _ => h.step hC hi hmove) hstart hobey hfresh
  rcases hinv.entries with ⟨hledger, -⟩ | ⟨j, o, e, hledger, hj, ho, he, -⟩
  · exact ⟨[], by rw [hledger, List.append_nil], Nat.zero_le 1, by simp⟩
  · have hid : o.id = (requests j).orderId := Lib.Table.key_of_find? ho
    refine ⟨[e], hledger, le_refl 1, ?_⟩
    rintro e' he'
    obtain rfl := List.mem_singleton.mp he'
    refine ⟨o, Lib.Table.mem_of_find? ho, hid ▸ he, ?_⟩
    intro hdone
    have hbooked : ph j = .booked := by
      refine hj.resolve_left fun hposted => ?_
      have hend := hobey' j
      have hnext := hdone j
      cases hcall : ((checkPool w requests).exec schedule).calls j with
      | done r =>
        rw [hcall] at hend
        exact hend hposted
      | step q eff next =>
        rw [hcall] at hnext
        cases hnext
    rw [hid]
    exact hinv.confirmed j hbooked

end

end

/-! ## Two checks of one payment -/

attribute [local instance] Runtime.ascii

namespace Sample

/-- An order of 25 awaits its payment. -/
def awaited : World := (paidOrder.take 1).foldl PaymentOp.step accepting

/-- Its payment is checked twice. -/
def paymentChecks : Bool → CheckRequest :=
  fun _ => ⟨clock, "O1", payment "B1" "25" "KHQR-AAAAAAAAAAAA"⟩

/-- One check is served, and the other finds the order confirmed. -/
def checkThenOther : List Bool := List.replicate 7 false ++ [true]

/-- Both read the order and search for the bank transaction, and then both go on. -/
def bothAwaiting : List Bool :=
  [false, true, false, true] ++ List.replicate 5 false ++ List.replicate 5 true

theorem awaited_unique : UniquelyMatched awaited "B1" := by
  unfold UniquelyMatched
  decide +kernel

end Sample

theorem checkThenOther_fresh : Lib.Meets Pool.step (ChecksFresh (fun _ => "O1") "B1")
    (checkPool Sample.awaited Sample.paymentChecks) Sample.checkThenOther := by
  decide +kernel

/-- Two checks one after the other book the payment once. -/
theorem one_booking_paid : ∃ entries,
    ((checkPool Sample.awaited Sample.paymentChecks).exec Sample.checkThenOther).state.ledger =
      Sample.awaited.ledger ++ entries ∧ entries.length ≤ 1 := by
  obtain ⟨entries, hledger, hone, -⟩ :=
    one_booking Sample.awaited_unique Sample.paymentChecks (fun _ => rfl) checkThenOther_fresh
  exact ⟨entries, hledger, hone⟩

theorem bothAwaiting_length :
    ((checkPool Sample.awaited Sample.paymentChecks).exec Sample.bothAwaiting).state.ledger.length =
      Sample.awaited.ledger.length + 2 := by
  decide +kernel

/-- Two checks that both find the order awaiting its payment both book it. -/
theorem booked_by_both : ¬∀ [Runtime] (w : World) (t : String) (requests : Bool → CheckRequest)
    (schedule : List Bool), UniquelyMatched w t →
    (∀ i, (requests i).input.bankTransactionId = t) →
    ∃ entries, ((checkPool w requests).exec schedule).state.ledger = w.ledger ++ entries ∧
      entries.length ≤ 1 ∧
      ∀ e ∈ entries, ∃ o ∈ w.paykhPaymentOrders.rows, IsCollection o o.id e ∧
        ((∀ i, (((checkPool w requests).exec schedule).calls i).next? = none) →
          ∃ o', ((checkPool w requests).exec schedule).state.paykhPaymentOrders.find? o.id =
            some o' ∧ o'.status = .confirmed ∧ o'.matchedBankTransactionId = some t) := by
  intro h
  obtain ⟨entries, hledger, hone, -⟩ := h Sample.awaited "B1" Sample.paymentChecks
    Sample.bothAwaiting Sample.awaited_unique fun _ => rfl
  have htwo := bothAwaiting_length
  rw [hledger, List.length_append] at htwo
  omega

end TrusteeBank
