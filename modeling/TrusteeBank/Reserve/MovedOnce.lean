import TrusteeBank.Reserve.Operations
import TrusteeBank.Reserve.ValueMoves

/-!
# Value moves once

What the books of deposits, redemptions and settlements say about the entries that move value, in
every state reached by serving operations one at a time, and what is left of it when the requests
that move value are served at the same time.

* `value_books_run`: one at a time, no source has two entries, and an entry stands with a status
  that says so;
* `value_moves_once`: under every interleaving whose steps act on fresh statuses, no source has two
  entries, and when all requests have ended no settlement with an entry is cancelled;
* `cleared_twice`: two clearances of one deposit that both read it first both post.
-/

set_option autoImplicit false

namespace TrusteeBank

open Lib (Call Pool Station Visit)

section

variable [Runtime]

/-! ## The books -/

omit [Runtime] in
/-- The statuses with which an entry stands. -/
def ValueFlow.stands : ValueFlow → List RecordStatus
  | .clearance => [.deposit .cleared]
  | .obligation => [.redemption .approved, .redemption .burnConfirmed,
      .redemption .payoutSubmitted, .redemption .completed]
  | .payout => [.redemption .completed]
  | .settlement => [.settlement .confirmed]

/-- No source has two entries, and an entry stands with a status that says so. -/
structure ValueBooks (w : World) : Prop where
  once : ∀ flow id, (ValueFlow.entries flow id w).length ≤ 1
  stands : ∀ flow id, ValueFlow.entries flow id w ≠ [] →
    ∃ s ∈ flow.stands, flow.status id w = some s

namespace ValueBooks

variable {w w' : World}

/-- A record that may still move has no entry. -/
theorem entries_eq_nil (h : ValueBooks w) {flow : ValueFlow} {id : String} {s : RecordStatus}
    (hs : flow.status id w = some s) (hstands : s ∉ flow.stands) : flow.entries id w = [] := by
  by_contra hne
  obtain ⟨s', hs', hstatus⟩ := h.stands flow id hne
  rw [hs] at hstatus
  exact hstands (Option.some.inj hstatus ▸ hs')

/-- Without entries there is nothing to say. -/
theorem of_no_entries (h : ∀ flow id, ValueFlow.entries flow id w = []) : ValueBooks w where
  once flow id := by simp [h flow id]
  stands flow id hne := absurd (h flow id) hne

/-- Entries of other kinds, and records that are new. -/
theorem extended (h : ValueBooks w)
    (hentries : ∀ flow id, ValueFlow.entries flow id w' = flow.entries id w)
    (hstatus : ∀ flow id s, ValueFlow.status flow id w = some s → flow.status id w' = some s) :
    ValueBooks w' where
  once flow id := by
    rw [hentries]
    exact h.once flow id
  stands flow id hne := by
    rw [hentries] at hne
    obtain ⟨s, hs, hold⟩ := h.stands flow id hne
    exact ⟨s, hs, hstatus flow id s hold⟩

section

variable {flow₀ : ValueFlow} {id₀ : String} {old new : RecordStatus}

/-- The status of a record is written without an entry. -/
theorem written (h : ValueBooks w) (hold : flow₀.status id₀ w = some old)
    (hledger : w'.ledger = w.ledger)
    (hstatus : ∀ flow id, ValueFlow.status flow id w' =
      if flow₀.model = flow.model ∧ id₀ = id then some new else flow.status id w)
    (hstands : ∀ flow, flow₀.model = ValueFlow.model flow → old ∈ flow.stands →
      new ∈ flow.stands) : ValueBooks w' where
  once flow id := by
    rw [ValueFlow.entries, hledger]
    exact h.once flow id
  stands flow id hne := by
    rw [ValueFlow.entries, hledger] at hne
    obtain ⟨s, hs, hs'⟩ := h.stands flow id hne
    rw [hstatus]
    split_ifs with hon
    · obtain ⟨hmodel, rfl⟩ := hon
      rw [← ValueFlow.status_congr hmodel, hold] at hs'
      exact ⟨new, hstands flow hmodel (Option.some.inj hs' ▸ hs), rfl⟩
    · exact ⟨s, hs, hs'⟩

/-- An entry is posted, and the status written says so. -/
theorem moved (h : ValueBooks w) (hold : flow₀.status id₀ w = some old) {e : JournalEntry}
    (hsource : e.references.source = flow₀.kind ++ id₀) (hledger : w'.ledger = w.ledger ++ [e])
    (hstatus : ∀ flow id, ValueFlow.status flow id w' =
      if flow₀.model = flow.model ∧ id₀ = id then some new else flow.status id w)
    (hstands : ∀ flow, flow₀.model = ValueFlow.model flow → old ∈ flow.stands →
      new ∈ flow.stands)
    (hbefore : old ∉ flow₀.stands) (hafter : new ∈ flow₀.stands) : ValueBooks w' := by
  have hlength (flow : ValueFlow) (id : String) : (flow.entries id w').length =
      (flow.entries id w).length + if flow₀ = flow ∧ id₀ = id then 1 else 0 := by
    have hposted := ValueFlow.entries_posted (w := w) hsource flow id
    rw [← hposted, ValueFlow.entries, hledger]
    rfl
  refine ⟨?_, ?_⟩
  · intro flow id
    rw [hlength]
    split_ifs with hon
    · obtain ⟨rfl, rfl⟩ := hon
      rw [h.entries_eq_nil hold hbefore]
      exact le_refl 1
    · exact h.once flow id
  · intro flow id hne
    rw [hstatus]
    by_cases hon : flow₀.model = flow.model ∧ id₀ = id
    · rw [if_pos hon]
      refine ⟨new, ?_, rfl⟩
      by_cases hflow : flow₀ = flow
      · exact hflow ▸ hafter
      · have hsame := hlength flow id
        rw [if_neg fun h => hflow h.1, Nat.add_zero] at hsame
        have hne' : flow.entries id w ≠ [] := by
          rw [← List.length_pos_iff] at hne ⊢
          omega
        obtain ⟨s, hs, hs'⟩ := h.stands flow id hne'
        rw [← hon.2, ← ValueFlow.status_congr hon.1, hold] at hs'
        exact hstands flow hon.1 (Option.some.inj hs' ▸ hs)
    · have hsame := hlength flow id
      rw [if_neg, Nat.add_zero] at hsame
      · rw [if_neg hon]
        refine h.stands flow id ?_
        rw [← List.length_pos_iff] at hne ⊢
        omega
      · rintro ⟨rfl, hid⟩
        exact hon ⟨rfl, hid⟩

end

theorem logged (h : ValueBooks w) (rows : List AuditLog) (events : List OutboxEvent) :
    ValueBooks (w.logged rows events) :=
  h.extended (fun _ _ => rfl) fun flow id _ hs =>
    ((SameValue.logged w rows events).status flow id).trans hs

end ValueBooks

/-! ## One at a time -/

section

variable {w w₁ : World}

/-- The status of a record is kept when another one is created. -/
theorem status_insert_deposit {row : Deposit} {t : Lib.Table Deposit.id}
    (ht : w.deposits.insert? row = some t) {flow : ValueFlow} {id : String} {s : RecordStatus}
    (hs : flow.status id w = some s) : flow.status id { w with deposits := t } = some s := by
  cases flow with
  | clearance =>
    obtain ⟨d, hd, hstatus⟩ := Option.map_eq_some_iff.mp hs
    exact Option.map_eq_some_iff.mpr ⟨d, Lib.Table.find?_insert?_of_some ht hd, hstatus⟩
  | _ => exact hs

theorem status_insert_redemption {row : Redemption} {t : Lib.Table Redemption.id}
    (ht : w.redemptions.insert? row = some t) {flow : ValueFlow} {id : String} {s : RecordStatus}
    (hs : flow.status id w = some s) : flow.status id { w with redemptions := t } = some s := by
  cases flow with
  | obligation =>
    obtain ⟨r, hr, hstatus⟩ := Option.map_eq_some_iff.mp hs
    exact Option.map_eq_some_iff.mpr ⟨r, Lib.Table.find?_insert?_of_some ht hr, hstatus⟩
  | payout =>
    obtain ⟨r, hr, hstatus⟩ := Option.map_eq_some_iff.mp hs
    exact Option.map_eq_some_iff.mpr ⟨r, Lib.Table.find?_insert?_of_some ht hr, hstatus⟩
  | _ => exact hs

theorem status_insert_settlement {row : PaykhSettlement} {t : Lib.Table PaykhSettlement.id}
    (ht : w.paykhSettlements.insert? row = some t) {flow : ValueFlow} {id : String}
    {s : RecordStatus} (hs : flow.status id w = some s) :
    flow.status id { w with paykhSettlements := t } = some s := by
  cases flow with
  | settlement =>
    obtain ⟨r, hr, hstatus⟩ := Option.map_eq_some_iff.mp hs
    exact Option.map_eq_some_iff.mpr ⟨r, Lib.Table.find?_insert?_of_some ht hr, hstatus⟩
  | _ => exact hs

theorem ValueFlow.status_deposit {id : String} {d : Deposit} (hd : w.deposits.find? id = some d) :
    ValueFlow.clearance.status id w = some (.deposit d.status) :=
  Option.map_eq_some_iff.mpr ⟨d, hd, rfl⟩

theorem ValueFlow.status_obligation {id : String} {r : Redemption}
    (hr : w.redemptions.find? id = some r) :
    ValueFlow.obligation.status id w = some (.redemption r.status) :=
  Option.map_eq_some_iff.mpr ⟨r, hr, rfl⟩

theorem ValueFlow.status_settlement {id : String} {s : PaykhSettlement}
    (hs : w.paykhSettlements.find? id = some s) :
    ValueFlow.settlement.status id w = some (.settlement s.status) :=
  Option.map_eq_some_iff.mpr ⟨s, hs, rfl⟩

/-- The registration of a deposit is booked under another kind of source. -/
theorem ValueFlow.entries_registered {e : JournalEntry} {id' : String}
    (hsource : e.references.source = "deposit:" ++ id') (flow : ValueFlow) (id : String) :
    flow.entries id (w.posted e) = flow.entries id w := by
  unfold ValueFlow.entries World.posted
  rw [entriesFrom_append, entriesFrom_of_other hsource (by cases flow <;> decide)
    (by cases flow <;> decide), List.append_nil]

theorem DepositEffect.valueBooks {op : DepositOp} (h : DepositEffect w op w₁) (hw : ValueBooks w) :
    ValueBooks w₁ := by
  cases h with
  | unchanged => exact hw
  | unbooked hstatus ht hfree =>
    exact hw.extended (fun _ _ => rfl) fun _ _ _ hs => status_insert_deposit ht hs
  | registered hstatus ht he hprogram hsource hfree =>
    refine hw.extended (fun flow id => flow.entries_registered hsource id) ?_
    intro flow id s hs
    rw [flow.status_posted]
    exact status_insert_deposit ht hs
  | @matched depositId fundingInstructionId actor deposit fi hdeposit hstatus =>
    refine hw.written (ValueFlow.status_deposit hdeposit) rfl
      (fun flow id => status_modify_deposit flow id (Deposit.asMatched_id fundingInstructionId)
        hdeposit rfl) ?_
    intro flow hmodel hold
    cases flow with
    | clearance => rcases hstatus with h | h <;> rw [h] at hold <;> simp [ValueFlow.stands] at hold
    | _ => cases hmodel
  | @cleared clock depositId actor deposit e hdeposit hstatus he hprogram hsource =>
    obtain rfl := Lib.Table.key_of_find? hdeposit
    have hold := ValueFlow.status_deposit hdeposit
    rw [hstatus] at hold
    have hnew : (deposit.asCleared (clock 0)).status = .cleared := rfl
    refine hw.moved hold hsource rfl
      (fun flow id => status_modify_deposit flow id (Deposit.asCleared_id (clock 0))
        (w := w.posted e) hdeposit hnew) ?_ (by decide) (by decide)
    intro flow hmodel hmem
    cases flow with
    | clearance => simp [ValueFlow.stands] at hmem
    | _ => cases hmodel

omit [Runtime] in
/-- What stands on a redemption stands on it later. -/
theorem stands_redemption {flow : ValueFlow} {old new : RedemptionStatus}
    (hmodel : ValueFlow.obligation.model = flow.model)
    (hlater : RecordStatus.redemption old ∈ ValueFlow.obligation.stands →
      RecordStatus.redemption new ∈ ValueFlow.obligation.stands)
    (hopen : old ≠ .completed) (hold : RecordStatus.redemption old ∈ flow.stands) :
    RecordStatus.redemption new ∈ flow.stands := by
  cases flow with
  | obligation => exact hlater hold
  | payout =>
    simp only [ValueFlow.stands, List.mem_singleton, RecordStatus.redemption.injEq] at hold
    exact absurd hold hopen
  | _ => cases hmodel

theorem RedemptionEffect.valueBooks {op : RedemptionOp} (h : RedemptionEffect w op w₁)
    (hw : ValueBooks w) : ValueBooks w₁ := by
  cases h with
  | requested hprogram hpositive ht =>
    exact hw.extended (fun _ _ => rfl) fun _ _ _ hs => status_insert_redemption ht hs
  | @approved redemptionId approverId reason r e hr hstatus he hprogram hsource =>
    have hold := ValueFlow.status_obligation hr
    rw [hstatus] at hold
    have hnew : (r.asApproved approverId).status = .approved := rfl
    exact hw.moved hold hsource rfl
      (fun flow id => status_modify_redemption flow id (Redemption.asApproved_id approverId)
        (w := w.posted e) hr hnew)
      (fun flow hmodel => stands_redemption hmodel (by decide) (by decide)) (by decide) (by decide)
  | @burnConfirmed clock redemptionId burnTxHash actor r hr hstatus =>
    have hnew : (r.asBurnConfirmed burnTxHash (clock 0)).status = .burnConfirmed := rfl
    refine hw.written (ValueFlow.status_obligation hr) rfl
      (fun flow id => status_modify_redemption flow id
        (Redemption.asBurnConfirmed_id burnTxHash (clock 0)) hr hnew) ?_
    intro flow hmodel
    refine stands_redemption hmodel (fun _ => by decide) ?_
    rcases hstatus with h | h <;> rw [h] <;> decide
  | @payoutSubmitted clock uuid redemptionId actor r hr hstatus =>
    have hnew : (r.asPayoutSubmitted (RedemptionService.payoutReferenceOf uuid) (clock 0)).status =
      .payoutSubmitted := rfl
    refine hw.written (ValueFlow.status_obligation hr) rfl
      (fun flow id => status_modify_redemption flow id
        (Redemption.asPayoutSubmitted_id (RedemptionService.payoutReferenceOf uuid) (clock 0)) hr
          hnew) ?_
    intro flow hmodel
    refine stands_redemption hmodel (fun _ => by decide) ?_
    rw [hstatus]
    decide
  | @completed clock redemptionId actor r e hr hstatus he hprogram hsource =>
    have hold : ValueFlow.payout.status redemptionId w = _ := ValueFlow.status_obligation hr
    rw [hstatus] at hold
    have hnew : (r.asCompleted (clock 0) (clock 1)).status = .completed := rfl
    exact hw.moved hold hsource rfl
      (fun flow id => status_modify_redemption flow id
        (Redemption.asCompleted_id (clock 0) (clock 1)) (w := w.posted e) hr hnew)
      (fun flow hmodel => stands_redemption hmodel (by decide) (by decide)) (by decide) (by decide)

omit [Runtime] in
/-- What stands on a settlement that is not confirmed is nothing. -/
theorem stands_settlement {flow : ValueFlow} {old new : SettlementStatus}
    (hmodel : ValueFlow.settlement.model = flow.model) (hopen : old ≠ .confirmed)
    (hold : RecordStatus.settlement old ∈ flow.stands) :
    RecordStatus.settlement new ∈ flow.stands := by
  obtain rfl := ValueFlow.eq_settlement hmodel
  simp only [ValueFlow.stands, List.mem_singleton, RecordStatus.settlement.injEq] at hold
  exact absurd hold hopen

theorem SettlementEffect.valueBooks {op : SettlementOp} (h : SettlementEffect w op w₁)
    (hw : ValueBooks w) : ValueBooks w₁ := by
  cases h with
  | createdUnlogged ht =>
    exact hw.extended (fun _ _ => rfl) fun _ _ _ hs => status_insert_settlement ht hs
  | created ht =>
    apply ValueBooks.logged
    exact hw.extended (fun _ _ => rfl) fun _ _ _ hs => status_insert_settlement ht hs
  | @approved settlementId checkerId s hs hstatus hmaker =>
    refine hw.written (ValueFlow.status_settlement hs) rfl
      (fun flow id => status_modify_settlement flow id (PaykhSettlement.asApproved_id checkerId) hs
        rfl) ?_
    intro flow hmodel
    refine stands_settlement hmodel ?_
    rw [hstatus]
    decide
  | @confirmed clock settlementId actor s e hs hstatus he =>
    have hopen : s.status ≠ .confirmed := by
      rcases hstatus with h | h <;> rw [h] <;> decide
    have hnew : (s.asConfirmed (clock 0)).status = .confirmed := rfl
    refine hw.moved (ValueFlow.status_settlement hs) he.source rfl
      (fun flow id => status_modify_settlement flow id
        (PaykhSettlement.asConfirmed_id (clock 0)) (w := w.posted e) hs hnew)
      (fun flow hmodel => stands_settlement hmodel hopen) ?_ (by decide)
    simpa [ValueFlow.stands] using hopen
  | cancelled hs hstatus =>
    exact hw.written (ValueFlow.status_settlement hs) rfl
      (fun flow id => status_modify_settlement flow id PaykhSettlement.asCancelled_id hs rfl)
      fun flow hmodel => stands_settlement hmodel hstatus

end

/-- The operations of the three services. -/
inductive ValueOp
  | deposit (op : DepositOp)
  | redemption (op : RedemptionOp)
  | settlement (op : SettlementOp)

/-- Serve one operation alone, whether it succeeds or throws. -/
def ValueOp.step (w : World) : ValueOp → World
  | .deposit op => op.step w
  | .redemption op => op.step w
  | .settlement op => op.step w

theorem ValueOp.books (w : World) (op : ValueOp) (hw : ValueBooks w) :
    ValueBooks (ValueOp.step w op) := by
  cases op with
  | deposit op => exact after_effect (op.effect w) (fun _ heffect => heffect.valueBooks hw) .logged
  | redemption op => exact (op.served w).after hw (fun _ heffect => heffect.valueBooks hw) .logged
  | settlement op => exact (op.served w).after hw (fun _ heffect => heffect.valueBooks hw) .logged

/-- **One at a time, value moves once.** -/
theorem value_books_run {w : World} (hw : ValueBooks w) (ops : List ValueOp) :
    ValueBooks (ops.foldl ValueOp.step w) :=
  Lib.inv_run (C := fun _ _ => True) (fun w op h _ => ValueOp.books w op h) hw
    (.of_forall (fun _ _ => trivial) w ops)

/-! ## At the same time -/

section

variable {ι : Type} [DecidableEq ι]

/-- The requests, served at the same time. -/
def valuePool (w : World) (requests : ι → ValueRequest) : Pool ι Query World ApiError Unit :=
  Pool.start w fun i => (requests i).call

/-- A request that is about to post has read the status after every other request that has come to
post the same entry wrote it. -/
def PostsFreshValue (requests : ι → ValueRequest) (p : Pool ι Query World ApiError Unit) (i : ι) :
    Prop :=
  (p.calls i).next?.any (·.model = .ledgerEntry) → ∀ e ∈ p.history, e.1 ≠ i →
    (requests e.1).flow = (requests i).flow ∧ (requests e.1).id = (requests i).id →
    e.2.model = .ledgerEntry → (e.1, (requests i).write) ∈ p.upTo (i, (requests i).read)

/-- A request that is about to write the status of a settlement has read it after every
confirmation that wrote it. -/
def WritesFreshSettlement (requests : ι → ValueRequest) (p : Pool ι Query World ApiError Unit)
    (i : ι) : Prop :=
  ∀ e ∈ p.history, e.2.model = .paykhSettlement → (p.calls i).next? = some e.2 →
    (requests e.1).posts = true → e ∉ p.since (i, ⟨.paykhSettlement, .findUnique, e.2.key⟩)

/-- The step of a request acts on a fresh status. -/
def ActsFresh (requests : ι → ValueRequest) (p : Pool ι Query World ApiError Unit) (i : ι) : Prop :=
  PostsFreshValue requests p i ∧ WritesFreshSettlement requests p i

instance (requests : ι → ValueRequest) (p : Pool ι Query World ApiError Unit) (i : ι) :
    Decidable (PostsFreshValue requests p i) :=
  inferInstanceAs (Decidable (_ → _))

instance (requests : ι → ValueRequest) (p : Pool ι Query World ApiError Unit) (i : ι) :
    Decidable (WritesFreshSettlement requests p i) :=
  inferInstanceAs (Decidable (∀ e ∈ p.history, _))

instance (requests : ι → ValueRequest) (p : Pool ι Query World ApiError Unit) (i : ι) :
    Decidable (ActsFresh requests p i) :=
  inferInstanceAs (Decidable (_ ∧ _))

variable {requests : ι → ValueRequest} {p : Pool ι Query World ApiError Unit} {i : ι}

theorem PostsFreshValue.postsFresh (h : PostsFreshValue requests p i) (flow : ValueFlow)
    (id : String) : (valueStation requests flow id).PostsFresh p i := by
  rintro ⟨-, rfl, rfl⟩ ⟨q, hq, hpost⟩ e he hei ⟨-, hflow, hid⟩ hepost
  refine h ?_ e he hei ⟨hflow, hid⟩ hepost
  rw [hq]
  exact decide_eq_true hpost

theorem WritesFreshSettlement.writesFresh (h : WritesFreshSettlement requests p i) (id : String) :
    (valueStation requests .settlement id).WritesFresh p i := by
  rintro - hnext e he ⟨hposts, -, -⟩ hwrite
  have hhistory : e ∈ p.history := by
    rw [← p.since_append_upTo (i, (valueStation requests .settlement id).read)]
    exact List.mem_append_left _ he
  refine h e hhistory ?_ (hwrite ▸ hnext) hposts ?_
  · rw [hwrite]
    rfl
  · rw [hwrite]
    exact he

/-- No record has two entries of one flow. -/
structure MovedOnce (w w' : World) : Prop where
  deposits : ∀ d ∈ w.deposits.rows, (entriesFrom w'.ledger ("deposit-clear:" ++ d.id)).length ≤ 1
  redemptions : ∀ r ∈ w.redemptions.rows,
    (entriesFrom w'.ledger ("redemption:" ++ r.id)).length ≤ 1 ∧
      (entriesFrom w'.ledger ("redemption-payout:" ++ r.id)).length ≤ 1
  settlements : ∀ s ∈ w.paykhSettlements.rows,
    (entriesFrom w'.ledger ("paykh-settlement:" ++ s.id)).length ≤ 1

/-- No settlement with an entry is cancelled. -/
def SettledStays (w w' : World) : Prop :=
  ∀ s ∈ w.paykhSettlements.rows, entriesFrom w'.ledger ("paykh-settlement:" ++ s.id) ≠ [] →
    ∃ s', w'.paykhSettlements.find? s.id = some s' ∧ s'.status ≠ .cancelled

omit [Runtime] in
theorem ValueFlow.notMem_stands (flow : ValueFlow) : ∀ s ∈ flow.pending, s ∉ flow.stands := by
  cases flow <;> decide

/-- A record that exists has one entry of a flow at most. -/
theorem entries_le_one {w : World} (hw : ValueBooks w) (requests : ι → ValueRequest)
    {schedule : List ι}
    (hfresh : Lib.Meets Pool.step (ActsFresh requests) (valuePool w requests) schedule)
    {flow : ValueFlow} {id : String} {s : RecordStatus} (hs : flow.status id w = some s) :
    (flow.entries id ((valuePool w requests).exec schedule).state).length ≤ 1 := by
  refine (Station.posted_once (X := valueStation requests flow id)
    (fun i => ValueRequest.visits requests flow id i) (Option.isSome_of_eq_some hs)
    (hw.once flow id) ?_ (hfresh.mono fun p i h => h.1.postsFresh flow id)).1
  rintro ⟨s', hpending, hs'⟩
  show (flow.entries id w).length = 0
  rw [hw.entries_eq_nil hs' (flow.notMem_stands s' hpending)]
  rfl

/-- **Value moves once**, whatever the interleaving of any number of requests on any records, if
every step acts on a fresh status; and when the requests have ended, what is settled stays so. -/
theorem value_moves_once {w : World} (hw : ValueBooks w) (requests : ι → ValueRequest)
    {schedule : List ι}
    (hfresh : Lib.Meets Pool.step (ActsFresh requests) (valuePool w requests) schedule) :
    MovedOnce w ((valuePool w requests).exec schedule).state ∧
      ((∀ i, (((valuePool w requests).exec schedule).calls i).next? = none) →
        SettledStays w ((valuePool w requests).exec schedule).state) := by
  refine ⟨⟨?_, ?_, ?_⟩, ?_⟩
  · intro d hd
    exact entries_le_one hw requests hfresh
      (ValueFlow.status_deposit (Lib.Table.find?_key_of_mem hd))
  · intro r hr
    have hs := ValueFlow.status_obligation (Lib.Table.find?_key_of_mem hr)
    have hpayout : ValueFlow.payout.status r.id w = some (.redemption r.status) := hs
    exact ⟨entries_le_one hw requests hfresh hs, entries_le_one hw requests hfresh hpayout⟩
  · intro s hs
    exact entries_le_one hw requests hfresh
      (ValueFlow.status_settlement (Lib.Table.find?_key_of_mem hs))
  · intro hdone s hs hne
    have hstatus := ValueFlow.status_settlement (Lib.Table.find?_key_of_mem hs)
    have hstart : (valueStation requests .settlement s.id).posted w ≠ 0 →
        (valueStation requests .settlement s.id).final w := by
      intro hposted
      obtain ⟨s', hstands, hs'⟩ := hw.stands .settlement s.id
        (List.length_pos_iff.mp (Nat.pos_of_ne_zero hposted))
      rw [List.mem_singleton.mp hstands] at hs'
      exact hs'
    have hfinal := Station.posted_final (X := valueStation requests .settlement s.id)
      (fun i => ValueRequest.visits requests .settlement s.id i) (Option.isSome_of_eq_some hstatus)
      hstart (hfresh.mono fun p i h => h.2.writesFresh s.id) hdone
      (Nat.pos_iff_ne_zero.mp (List.length_pos_iff.mpr hne))
    obtain ⟨s', hs', hconfirmed⟩ := Option.map_eq_some_iff.mp hfinal
    refine ⟨s', hs', ?_⟩
    rw [RecordStatus.settlement.inj hconfirmed]
    decide

end

end

/-! ## Two schedules -/

attribute [local instance] Runtime.ascii

namespace Sample

/-- A deposit of 100, registered and matched. -/
def matched : World :=
  [ValueOp.deposit (.register
    { programId := "P1", trusteeAccountId := "T1", bankTransactionId := "B1"
      amountMinor := "100", currency := "USD", payerName := none, paymentReference := none
      transactionDate := "2026-01-01T00:00:00Z", actor := "bank" } "D1"),
   .deposit (.match "D1" "F1" "bank")].foldl ValueOp.step emptyReserve

theorem matched_books : ValueBooks matched :=
  value_books_run (.of_no_entries fun _ _ => rfl) _

/-- It is cleared twice. -/
def clearances : Bool → ValueRequest := fun _ => .clear clock "D1" "bank"

/-- One clearance is served, and the other finds the deposit cleared. -/
def oneThenOther : List Bool := List.replicate 6 false ++ List.replicate 6 true

/-- Both read the deposit, and then both go on. -/
def bothMatched : List Bool := [false, true] ++ List.replicate 5 false ++ List.replicate 5 true

end Sample

theorem oneThenOther_fresh : Lib.Meets Pool.step (ActsFresh Sample.clearances)
    (valuePool Sample.matched Sample.clearances) Sample.oneThenOther := by
  decide +kernel

/-- Two clearances one after the other move the value once. -/
theorem value_moves_once_cleared : MovedOnce Sample.matched
    ((valuePool Sample.matched Sample.clearances).exec Sample.oneThenOther).state :=
  (value_moves_once Sample.matched_books Sample.clearances oneThenOther_fresh).1

theorem bothMatched_length : (entriesFrom ((valuePool Sample.matched Sample.clearances).exec
    Sample.bothMatched).state.ledger "deposit-clear:D1").length = 2 := by
  decide +kernel

theorem Sample.matched_deposit : ∃ d ∈ Sample.matched.deposits.rows, d.id = "D1" := by
  decide +kernel

/-- Two clearances of a deposit that both read it first clear it twice. -/
theorem cleared_twice : ¬∀ [Runtime] (w : World) (requests : Bool → ValueRequest)
    (schedule : List Bool), ValueBooks w →
    MovedOnce w ((valuePool w requests).exec schedule).state ∧
      ((∀ i, (((valuePool w requests).exec schedule).calls i).next? = none) →
        SettledStays w ((valuePool w requests).exec schedule).state) := by
  intro h
  obtain ⟨d, hd, hid⟩ := Sample.matched_deposit
  obtain ⟨hmoved, -⟩ := h Sample.matched Sample.clearances Sample.bothMatched Sample.matched_books
  have hone := hmoved.deposits d hd
  have htwo := bothMatched_length
  rw [hid] at hone
  have hsource : "deposit-clear:" ++ "D1" = "deposit-clear:D1" := by decide
  rw [hsource, htwo] at hone
  omega

end TrusteeBank
