import TrusteeBank.Paykh.OrderBooks
import TrusteeBank.Services.Deposits

/-!
# One bank transaction, one entry per book

A deposit and an order each carry the bank transaction they were booked for, and each table keeps
it unique. Both tables book cash, and neither looks at the other.

* `bank_transaction_booked`: after every run of deposit and order operations, a bank transaction
  has at most one entry that debits cash from deposits, and at most one from orders;
* `bank_transaction_booked_twice`: it can have one from each.
-/

set_option autoImplicit false

namespace TrusteeBank

open LedgerAccountCode

section

variable [Runtime]

/-! ## Operations -/

inductive BookingOp
  | deposit (op : DepositOp)
  | payment (op : PaymentOp)

def BookingOp.step (w : World) : BookingOp → World
  | .deposit op => op.step w
  | .payment op => op.step w

/-! ## Entries of a bank transaction -/

/-- An entry debits the cash of the trustee bank. -/
def JournalEntry.DebitsCash (e : JournalEntry) : Prop :=
  ∃ p ∈ e.postings, p.account = assetTrusteeBankCash ∧ 0 < p.debit.minor

instance (e : JournalEntry) : Decidable e.DebitsCash := inferInstanceAs (Decidable (∃ p ∈ _, _))

/-- The entry is from a deposit of the bank transaction. -/
def FromDeposit (w : World) (bankTransactionId : String) (e : JournalEntry) : Prop :=
  ∃ d ∈ w.deposits.rows, d.bankTransactionId = bankTransactionId ∧
    e.references.source = "deposit:" ++ d.id

/-- The entry is from an order matched with the bank transaction. -/
def FromOrder (w : World) (bankTransactionId : String) (e : JournalEntry) : Prop :=
  ∃ o ∈ w.paykhPaymentOrders.rows, o.matchedBankTransactionId = some bankTransactionId ∧
    e.references.source = "paykh-order:" ++ o.id

instance (w : World) (t : String) (e : JournalEntry) : Decidable (FromDeposit w t e) :=
  inferInstanceAs (Decidable (∃ d ∈ _, _))

instance (w : World) (t : String) (e : JournalEntry) : Decidable (FromOrder w t e) :=
  inferInstanceAs (Decidable (∃ o ∈ _, _))

/-- How many entries that debit cash come from deposits of the bank transaction. -/
def depositBookings (w : World) (bankTransactionId : String) : Nat :=
  w.ledger.countP fun e => e.DebitsCash ∧ FromDeposit w bankTransactionId e

/-- How many entries that debit cash come from orders of the bank transaction. -/
def orderBookings (w : World) (bankTransactionId : String) : Nat :=
  w.ledger.countP fun e => e.DebitsCash ∧ FromOrder w bankTransactionId e

/-- No deposit and no order is stored or booked. -/
structure NoBookings (w : World) : Prop extends NoOrders w where
  deposits : w.deposits.rows = []
  registrations : ∀ e ∈ w.ledger, ¬e.OfKind "deposit:"

/-! ## The invariant -/

/-- The books of deposits: each bank transaction has one deposit, each deposit one registration. -/
structure DepositBooks (w : World) : Prop where
  matched : ∀ d ∈ w.deposits.rows, ∀ d' ∈ w.deposits.rows,
    d.bankTransactionId = d'.bankTransactionId → d.id = d'.id
  registered : ∀ id, (entriesFrom w.ledger ("deposit:" ++ id)).length ≤ 1 ∧
    (entriesFrom w.ledger ("deposit:" ++ id) ≠ [] → ∃ d, w.deposits.find? id = some d)

theorem NoBookings.depositBooks {w : World} (hw : NoBookings w) : DepositBooks w where
  matched d hd := by simp [hw.deposits] at hd
  registered id := by simp [entriesFrom_of_not_ofKind hw.registrations]

/-- A new deposit keeps the bank transactions apart. -/
theorem DepositBooks.insert {w w' : World} (h : DepositBooks w) {row : Deposit}
    {t : Lib.Table Deposit.id} (ht : w.deposits.insert? row = some t) (hw' : w'.deposits = t)
    (hfree : ∀ d ∈ w.deposits.rows, d.bankTransactionId ≠ row.bankTransactionId)
    (hledger : w'.ledger = w.ledger ∨ ∃ e, w'.ledger = w.ledger ++ [e] ∧
      e.references.source = "deposit:" ++ row.id) : DepositBooks w' := by
  obtain ⟨hrows, hfresh⟩ := Lib.Table.insert?_eq_some ht
  have hfind (id : String) : w'.deposits.find? id =
      if row.id = id then some row else w.deposits.find? id := by
    rw [hw']
    exact Lib.Table.find?_insert? ht id
  have hkept (id : String) (hsome : ∃ d, w.deposits.find? id = some d) :
      ∃ d, w'.deposits.find? id = some d := by
    rw [hfind]
    split_ifs
    · exact ⟨row, rfl⟩
    · exact hsome
  refine ⟨?_, ?_⟩
  · intro a ha b hb heq
    rw [hw', hrows] at ha hb
    rcases List.mem_append.mp ha with ha | ha <;> rcases List.mem_append.mp hb with hb | hb
    · exact h.matched a ha b hb heq
    · rw [List.mem_singleton.mp hb] at heq
      exact absurd heq (hfree a ha)
    · rw [List.mem_singleton.mp ha] at heq
      exact absurd heq.symm (hfree b hb)
    · rw [List.mem_singleton.mp ha, List.mem_singleton.mp hb]
  · intro id
    rcases hledger with hledger | ⟨e, hledger, hsource⟩
    · rw [hledger]
      exact ⟨(h.registered id).1, fun hne => hkept id ((h.registered id).2 hne)⟩
    · rw [hledger, entriesFrom_append, entriesFrom_of_source hsource]
      by_cases hid : row.id = id
      · subst hid
        -- The deposit is new, so it has no entry yet.
        have hnone : entriesFrom w.ledger ("deposit:" ++ row.id) = [] := by
          by_contra hne
          obtain ⟨d, hd⟩ := (h.registered row.id).2 hne
          rw [hfresh] at hd
          cases hd
        rw [hnone, if_pos rfl]
        exact ⟨le_rfl, fun _ => ⟨row, (hfind row.id).trans (if_pos rfl)⟩⟩
      · rw [if_neg hid, List.append_nil]
        exact ⟨(h.registered id).1, fun hne => hkept id ((h.registered id).2 hne)⟩

/-- A rewritten deposit keeps its bank transaction, and other entries are no registrations. -/
theorem DepositBooks.update {w w' : World} (h : DepositBooks w) {depositId : String}
    {f : Deposit → Deposit} {hf : ∀ d, (f d).id = d.id}
    (hbank : ∀ d, (f d).bankTransactionId = d.bankTransactionId)
    (hw' : w'.deposits = (w.updateDeposit depositId f hf).deposits)
    (hledger : ∀ id, entriesFrom w'.ledger ("deposit:" ++ id) =
      entriesFrom w.ledger ("deposit:" ++ id)) : DepositBooks w' := by
  have hold (a : Deposit) (ha : a ∈ w'.deposits.rows) :
      ∃ d ∈ w.deposits.rows, d.id = a.id ∧ d.bankTransactionId = a.bankTransactionId := by
    rw [hw'] at ha
    rcases World.mem_updateDeposit.mp ha with ⟨ha, -⟩ | ⟨d, hd, rfl⟩
    · exact ⟨a, ha, rfl, rfl⟩
    · exact ⟨d, Lib.Table.mem_of_find? hd, (hf d).symm, (hbank d).symm⟩
  refine ⟨?_, ?_⟩
  · intro a ha b hb heq
    obtain ⟨d, hd, hid, ht⟩ := hold a ha
    obtain ⟨d', hd', hid', ht'⟩ := hold b hb
    rw [← hid, ← hid']
    exact h.matched d hd d' hd' (ht.trans (heq.trans ht'.symm))
  · intro id
    rw [hledger]
    refine ⟨(h.registered id).1, fun hne => ?_⟩
    obtain ⟨d, hd⟩ := (h.registered id).2 hne
    rw [hw']
    show ∃ d, (w.deposits.modify depositId f hf).find? id = some d
    rw [Lib.Table.find?_modify]
    split_ifs with hid
    · subst hid
      rw [hd]
      exact ⟨f d, rfl⟩
    · exact ⟨d, hd⟩

/-- Neither the deposits nor their registrations changed. -/
theorem DepositBooks.congr {w w' : World} (h : DepositBooks w) (hw' : w'.deposits = w.deposits)
    (hledger : ∀ id, entriesFrom w'.ledger ("deposit:" ++ id) =
      entriesFrom w.ledger ("deposit:" ++ id)) : DepositBooks w' where
  matched := by
    rw [hw']
    exact h.matched
  registered := by
    intro id
    rw [hledger, hw']
    exact h.registered id

/-- The orders and their entries did not change. -/
theorem OrderBooks.congr {w w' : World} (h : OrderBooks w)
    (horders : w'.paykhPaymentOrders = w.paykhPaymentOrders)
    (hprofiles : w'.paykhPaymentProfiles = w.paykhPaymentProfiles)
    (hledger : w'.ledger = w.ledger ∨ ∃ e, w'.ledger = w.ledger ++ [e] ∧
      ¬e.OfKind "paykh-order:" ∧ ¬e.OfKind "paykh-refund:") : OrderBooks w' := by
  have hentries : orderEntries w'.ledger = orderEntries w.ledger := by
    rcases hledger with hledger | ⟨e, hledger, horder, hrefund⟩
    · rw [hledger]
    · rw [hledger, orderEntries_append]
      simp [orderEntries, horder, hrefund]
  have hfrom (kind : String) (hkind : kind = "paykh-order:" ∨ kind = "paykh-refund:")
      (id : String) : entriesFrom w'.ledger (kind ++ id) = entriesFrom w.ledger (kind ++ id) := by
    rcases hledger with hledger | ⟨e, hledger, horder, hrefund⟩
    · rw [hledger]
    · have hnone : ∀ a ∈ [e], ¬a.OfKind kind := by
        intro a ha
        rw [List.mem_singleton.mp ha]
        rcases hkind with rfl | rfl
        · exact horder
        · exact hrefund
      rw [hledger, entriesFrom_append, entriesFrom_of_not_ofKind hnone, List.append_nil]
  refine ⟨?_, ?_, ?_, ?_, ?_⟩
  · rw [horders, hprofiles]
    exact h.profiles
  · rw [horders]
    exact h.matched
  · intro tenantId c
    unfold orderCash confirmedSum
    rw [hentries, horders]
    exact h.cash tenantId c
  · intro id
    rw [hfrom _ (.inl rfl), horders]
    exact h.collected id
  · intro id
    rw [hfrom _ (.inr rfl), horders]
    exact h.refunded id

/-! ## Every operation -/

theorem DepositBooks.depositEffect {w w₁ : World} {op : DepositOp} (h : DepositBooks w)
    (heffect : DepositEffect w op w₁) : DepositBooks w₁ := by
  cases heffect with
  | unchanged => exact h
  | unbooked hstatus ht hfree => exact h.insert ht rfl hfree (.inl rfl)
  | registered hstatus ht he hprogram hsource hfree =>
    exact h.insert ht rfl hfree (.inr ⟨_, rfl, hsource⟩)
  | @matched depositId fundingInstructionId actor deposit fi hdeposit hstatus =>
    exact h.update (f := Deposit.asMatched fundingInstructionId) (fun _ => rfl) rfl fun _ => rfl
  | @cleared clock depositId actor deposit e hdeposit hstatus he hprogram hsource =>
    refine h.update (f := Deposit.asCleared (clock 0)) (fun _ => rfl) rfl fun id => ?_
    show entriesFrom (w.ledger ++ [e]) _ = _
    rw [entriesFrom_append, entriesFrom_of_other hsource (by decide) (by decide), List.append_nil]

/-- An entry of a deposit is none of an order. -/
theorem not_ofKind_order {e : JournalEntry} {kind id : String}
    (hkind : kind = "deposit:" ∨ kind = "deposit-clear:")
    (hsource : e.references.source = kind ++ id) :
    ¬e.OfKind "paykh-order:" ∧ ¬e.OfKind "paykh-refund:" := by
  rcases hkind with rfl | rfl
  · exact ⟨JournalEntry.not_ofKind_of_source hsource (by decide) (by decide),
      JournalEntry.not_ofKind_of_source hsource (by decide) (by decide)⟩
  · exact ⟨JournalEntry.not_ofKind_of_source hsource (by decide) (by decide),
      JournalEntry.not_ofKind_of_source hsource (by decide) (by decide)⟩

theorem OrderBooks.depositEffect {w w₁ : World} {op : DepositOp} (h : OrderBooks w)
    (heffect : DepositEffect w op w₁) : OrderBooks w₁ := by
  cases heffect with
  | unchanged => exact h
  | unbooked => exact h.congr rfl rfl (.inl rfl)
  | registered hstatus ht he hprogram hsource hfree =>
    exact h.congr rfl rfl (.inr ⟨_, rfl, not_ofKind_order (.inl rfl) hsource⟩)
  | matched => exact h.congr rfl rfl (.inl rfl)
  | cleared hdeposit hstatus he hprogram hsource =>
    exact h.congr rfl rfl (.inr ⟨_, rfl, not_ofKind_order (.inr rfl) hsource⟩)

theorem DepositBooks.paymentEffect {w w₁ : World} {op : PaymentOp} (h : DepositBooks w)
    (heffect : PaymentEffect w op w₁) : DepositBooks w₁ := by
  have hother {e : JournalEntry} {kind id : String} (hsource : e.references.source = kind ++ id)
      (hkind : kind = "paykh-order:" ∨ kind = "paykh-refund:") (id' : String) :
      entriesFrom (w.ledger ++ [e]) ("deposit:" ++ id') =
        entriesFrom w.ledger ("deposit:" ++ id') := by
    rw [entriesFrom_append]
    rcases hkind with rfl | rfl
    · rw [entriesFrom_of_other hsource (by decide) (by decide), List.append_nil]
    · rw [entriesFrom_of_other hsource (by decide) (by decide), List.append_nil]
  cases heffect with
  | unchanged => exact h
  | created => exact h.congr rfl fun _ => rfl
  | expired => exact h.congr rfl fun _ => rfl
  | booked ho hawaits hpays hprior htaken he => exact h.congr rfl (hother he.source (.inl rfl))
  | confirmed ho hawaits hpays hfree he => exact h.congr rfl (hother he.source (.inl rfl))
  | refunded ho hstatus he => exact h.congr rfl (hother he.source (.inr rfl))
  | cancelled => exact h.congr rfl fun _ => rfl

/-- One operation keeps both books. -/
theorem bookings_step {w : World} (h : DepositBooks w ∧ OrderBooks w) (op : BookingOp) :
    DepositBooks (op.step w) ∧ OrderBooks (op.step w) := by
  cases op with
  | deposit op =>
    obtain ⟨w₁, rows, events, heffect, hstate⟩ := op.effect w
    show DepositBooks (op.step w) ∧ OrderBooks (op.step w)
    rw [hstate]
    exact ⟨(h.1.depositEffect heffect).congr rfl fun _ => rfl,
      (h.2.depositEffect heffect).logged rows events⟩
  | payment op =>
    refine ⟨?_, h.2.step op⟩
    obtain ⟨w₁, rows, events, heffect, hstate⟩ := op.effect w
    show DepositBooks (op.step w)
    rw [hstate]
    exact (h.1.paymentEffect heffect).congr rfl fun _ => rfl

/-! ## Counting -/

/-- Entries that all have one source are not more than the entries with that source. -/
theorem countP_le_entriesFrom {ledger : List JournalEntry} {p : JournalEntry → Bool}
    {source : String} (h : ∀ e ∈ ledger, p e = true → e.references.source = source) :
    ledger.countP p ≤ (entriesFrom ledger source).length := by
  unfold entriesFrom
  rw [← List.countP_eq_length_filter]
  exact List.countP_mono_left fun e he hp => by simpa using h e he hp

theorem DepositBooks.booked_once {w : World} (h : DepositBooks w) (t : String) :
    depositBookings w t ≤ 1 := by
  by_cases hd : ∃ d ∈ w.deposits.rows, d.bankTransactionId = t
  · obtain ⟨d, hd, hdt⟩ := hd
    refine (countP_le_entriesFrom fun e _ he => ?_).trans (h.registered d.id).1
    obtain ⟨-, d', hd', hdt', hsource⟩ := of_decide_eq_true he
    rw [hsource, h.matched d' hd' d hd (hdt'.trans hdt.symm)]
  · have hzero : depositBookings w t = 0 := by
      refine List.countP_eq_zero.mpr fun e _ he => ?_
      obtain ⟨-, d, hd', hdt, -⟩ := of_decide_eq_true he
      exact hd ⟨d, hd', hdt⟩
    omega

theorem OrderBooks.booked_once {w : World} (h : OrderBooks w) (t : String) :
    orderBookings w t ≤ 1 := by
  by_cases ho : ∃ o ∈ w.paykhPaymentOrders.rows, o.matchedBankTransactionId = some t
  · obtain ⟨o, ho, hot⟩ := ho
    refine (countP_le_entriesFrom fun e _ he => ?_).trans (h.collected o.id).1
    obtain ⟨-, o', ho', hot', hsource⟩ := of_decide_eq_true he
    rw [hsource, h.matched o' ho' o ho t hot' hot]
  · have hzero : orderBookings w t = 0 := by
      refine List.countP_eq_zero.mpr fun e _ he => ?_
      obtain ⟨-, o, ho', hot, -⟩ := of_decide_eq_true he
      exact ho ⟨o, ho', hot⟩
    omega

/-- **A bank transaction is booked at most once in each book.** -/
theorem bank_transaction_booked {w : World} (hw : NoBookings w) (ops : List BookingOp)
    (bankTransactionId : String) :
    depositBookings (ops.foldl BookingOp.step w) bankTransactionId ≤ 1 ∧
      orderBookings (ops.foldl BookingOp.step w) bankTransactionId ≤ 1 := by
  have h : DepositBooks (ops.foldl BookingOp.step w) ∧ OrderBooks (ops.foldl BookingOp.step w) :=
    @Lib.inv_run _ _ _ (fun w => DepositBooks w ∧ OrderBooks w) (fun _ _ => True)
      (fun _ op h _ => bookings_step h op) w ops ⟨hw.depositBooks, hw.toNoOrders.books⟩
      (Lib.Meets.of_forall (fun _ _ => trivial) w ops)
  exact ⟨h.1.booked_once bankTransactionId, h.2.booked_once bankTransactionId⟩

end

/-! ## One transaction in both books -/

attribute [local instance] Runtime.ascii

namespace Sample

/-- The bank transaction B2 of 25 is registered as a deposit and pays an order. -/
def bookedTwice : List BookingOp :=
  [.deposit (.register
    { programId := "P1", trusteeAccountId := "T1", bankTransactionId := "B2"
      amountMinor := "25", currency := "USD", payerName := none, paymentReference := none
      transactionDate := "2026-01-01T00:00:00Z", actor := "bank" } "D2"),
   .payment (.create clock (orderInput "tenant-1" "25") "O1" "aaaaaaaaaaaa"),
   .payment (.checkPayment clock "O1" (payment "B2" "25" "KHQR-AAAAAAAAAAAA"))]

/-- Nothing is booked besides the opening entry. -/
def unbooked : World := { accepting with deposits := .empty _ }

theorem noBookings : NoBookings unbooked where
  orders := rfl
  collections := by decide +kernel
  refunds := by decide +kernel
  deposits := rfl
  registrations := by decide +kernel

end Sample

theorem bookedTwice_bookings :
    depositBookings (Sample.bookedTwice.foldl BookingOp.step Sample.unbooked) "B2" = 1 ∧
      orderBookings (Sample.bookedTwice.foldl BookingOp.step Sample.unbooked) "B2" = 1 := by
  decide +kernel

/-- The bank transaction is in each book once. -/
theorem bank_transaction_booked_each :
    depositBookings (Sample.bookedTwice.foldl BookingOp.step Sample.unbooked) "B2" ≤ 1 ∧
      orderBookings (Sample.bookedTwice.foldl BookingOp.step Sample.unbooked) "B2" ≤ 1 :=
  bank_transaction_booked Sample.noBookings Sample.bookedTwice "B2"

/-- A bank transaction can be in both books. -/
theorem bank_transaction_booked_twice : ¬∀ [Runtime] (w : World) (ops : List BookingOp)
    (bankTransactionId : String), NoBookings w →
    depositBookings (ops.foldl BookingOp.step w) bankTransactionId +
      orderBookings (ops.foldl BookingOp.step w) bankTransactionId ≤ 1 := by
  intro h
  obtain ⟨hdeposit, horder⟩ := bookedTwice_bookings
  have hle := h Sample.unbooked Sample.bookedTwice "B2" Sample.noBookings
  rw [hdeposit, horder] at hle
  omega

end TrusteeBank
