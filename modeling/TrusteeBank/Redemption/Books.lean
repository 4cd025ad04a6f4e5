import TrusteeBank.Lib.Run
import TrusteeBank.Services.Mint
import TrusteeBank.Services.Redemption
import TrusteeBank.Services.Reserve

/-!
# The books of redemptions

What the ledger holds for redemptions is what their statuses say. Approval raises the
pending-redemption liability by the amount, the confirmed payout lowers it and pays the cash, and
nothing else posts.

**Theorem (`redemption_books`).** After every run of redemption operations from a state without
redemptions, the pending-redemption liability of a program in a currency is the sum of the
redemptions approved and not yet completed, the cash paid out is the sum of the completed ones,
and every completed redemption was approved, burned and submitted, in that order.
-/

set_option autoImplicit false

namespace TrusteeBank

open Lib (history)
open LedgerAccountCode RedemptionService

section

variable [Runtime]

/-! ## Statuses and sums -/

/-- What a redemption in a status has gone through since its request, that status included. -/
def RedemptionStatus.path : RedemptionStatus → List RedemptionStatus
  | .approved => [.approved]
  | .burnConfirmed => [.approved, .burnConfirmed]
  | .payoutSubmitted => [.approved, .burnConfirmed, .payoutSubmitted]
  | .completed => [.approved, .burnConfirmed, .payoutSubmitted, .completed]
  | _ => []

/-- The statuses the service gives. -/
def servedStatuses : List RedemptionStatus :=
  [.awaitingApproval, .approved, .burnConfirmed, .payoutSubmitted, .completed]

/-- Approved, and the payout is not confirmed. -/
def outstandingStatuses : List RedemptionStatus := [.approved, .burnConfirmed, .payoutSubmitted]

/-- The redemption is of a program, and its entries are in a currency. -/
def Redemption.InBooks (r : Redemption) (programId c : String) : Prop :=
  r.programId = programId ∧ Runtime.toUpperCase r.currency = c

instance Redemption.decidableInBooks (r : Redemption) (programId c : String) :
    Decidable (r.InBooks programId c) :=
  inferInstanceAs (Decidable (_ ∧ _))

/-- The amount of a redemption, if it is in one of the statuses. -/
def Redemption.amountIn (statuses : List RedemptionStatus) (r : Redemption) : Int :=
  if r.status ∈ statuses then r.amountMinor else 0

/-- The sum of the redemptions of a program and currency that are in one of the statuses. -/
def redemptionSum (w : World) (statuses : List RedemptionStatus) (programId c : String) : Int :=
  w.redemptions.sum fun r => if r.InBooks programId c then r.amountIn statuses else 0

/-- The cash credited by payout entries. -/
def payoutCash (w : World) (programId c : String) : Int :=
  -ledgerNet (entriesOfKind w.ledger "redemption-payout:") programId c assetTrusteeBankCash

/-- The statuses a redemption has in the states of a history. -/
def statusesOf (past : List World) (redemptionId : String) : List RedemptionStatus :=
  past.filterMap fun w => (w.redemptions.find? redemptionId).map Redemption.status

/-- No redemption is stored or booked. -/
structure NoRedemptions (w : World) : Prop where
  redemptions : w.redemptions.rows = []
  pending : ∀ programId c, pendingRedemption w programId c = 0
  payouts : ∀ programId c, payoutCash w programId c = 0

/-! ## The invariant -/

/-- The books of a state agree with its redemptions, and these with the history. -/
structure RedemptionBooks (past : List World) (w : World) : Prop where
  served : ∀ r ∈ w.redemptions.rows, r.status ∈ servedStatuses
  pending : ∀ programId c,
    pendingRedemption w programId c = redemptionSum w outstandingStatuses programId c
  paid : ∀ programId c, payoutCash w programId c = redemptionSum w [.completed] programId c
  passed : ∀ r ∈ w.redemptions.rows, r.status.path.Sublist (statusesOf past r.id)

theorem statusesOf_concat {past : List World} {w : World} {redemptionId : String} :
    statusesOf (past ++ [w]) redemptionId = statusesOf past redemptionId ++
      ((w.redemptions.find? redemptionId).map Redemption.status).toList := by
  unfold statusesOf
  rw [List.filterMap_append]
  cases h : w.redemptions.find? redemptionId <;> simp [h]

theorem NoRedemptions.books {w : World} (hw : NoRedemptions w) : RedemptionBooks [w] w where
  served r hr := by simp [hw.redemptions] at hr
  pending programId c := by simp [hw.pending, redemptionSum, Lib.Table.sum, hw.redemptions]
  paid programId c := by simp [hw.payouts, redemptionSum, Lib.Table.sum, hw.redemptions]
  passed r hr := by simp [hw.redemptions] at hr

/-- The books of a state with the same redemptions and ledger. -/
theorem RedemptionBooks.congr {past : List World} {w w' : World} (h : RedemptionBooks past w)
    (hredemptions : w'.redemptions = w.redemptions) (hledger : w'.ledger = w.ledger) :
    RedemptionBooks (past ++ [w']) w' where
  served := by
    rw [hredemptions]
    exact h.served
  pending programId c := by
    unfold pendingRedemption redemptionSum
    rw [hredemptions, hledger]
    exact h.pending programId c
  paid programId c := by
    unfold payoutCash redemptionSum
    rw [hredemptions, hledger]
    exact h.paid programId c
  passed := by
    intro r hr
    rw [hredemptions] at hr
    rw [statusesOf_concat]
    exact (h.passed r hr).trans (List.sublist_append_left ..)

/-! ## What a step does to the sums -/

theorem redemptionSum_insert {w : World} {t : Lib.Table Redemption.id} {r : Redemption}
    (ht : w.redemptions.insert? r = some t) (hr : r.status = .awaitingApproval)
    {statuses : List RedemptionStatus} (hnot : .awaitingApproval ∉ statuses)
    (programId c : String) :
    redemptionSum { w with redemptions := t } statuses programId c =
      redemptionSum w statuses programId c := by
  unfold redemptionSum
  rw [Lib.Table.sum_insert? ht, Redemption.amountIn, hr, if_neg hnot, ite_self, add_zero]

/-- The rewrite of a redemption keeps what its entries are made from. -/
structure KeepsTerms (f : Redemption → Redemption) : Prop where
  programId : ∀ r, (f r).programId = r.programId
  currency : ∀ r, (f r).currency = r.currency
  amountMinor : ∀ r, (f r).amountMinor = r.amountMinor

theorem redemptionSum_update {w : World} {redemptionId : String} {r : Redemption}
    (hr : w.redemptions.find? redemptionId = some r) {f : Redemption → Redemption}
    {hf : ∀ r, (f r).id = r.id} (hkeeps : KeepsTerms f) (statuses : List RedemptionStatus)
    (programId c : String) :
    redemptionSum (w.updateRedemption redemptionId f hf) statuses programId c =
      redemptionSum w statuses programId c +
        if r.InBooks programId c then (f r).amountIn statuses - r.amountIn statuses else 0 := by
  have hbooks : (f r).InBooks programId c ↔ r.InBooks programId c := by
    unfold Redemption.InBooks
    rw [hkeeps.programId, hkeeps.currency]
  unfold redemptionSum
  rw [show (w.updateRedemption redemptionId f hf).redemptions =
    w.redemptions.modify redemptionId f hf from rfl, Lib.Table.sum_modify hr]
  by_cases h : r.InBooks programId c
  · rw [if_pos h, if_pos (hbooks.mpr h), if_pos h]
    ring
  · rw [if_neg h, if_neg (fun h' => h (hbooks.mp h')), if_neg h]
    ring

/-- An entry of the service is in the books of its redemption. -/
theorem IsMove.net_redemption {r : Redemption} {debitAccount creditAccount : String}
    {e : JournalEntry} (he : IsMove (Runtime.toUpperCase r.currency) debitAccount creditAccount
      r.amountMinor e.references e) (hprogram : e.references.programId = r.programId)
    (programId c a : String) :
    ledgerNet [e] programId c a = if r.InBooks programId c then
      (if debitAccount = a then r.amountMinor else 0) -
        (if creditAccount = a then r.amountMinor else 0) else 0 := by
  rw [he.net, hprogram]
  rfl

theorem pendingRedemption_posted (w : World) (e : JournalEntry) (programId c : String) :
    pendingRedemption (w.posted e) programId c = pendingRedemption w programId c -
      ledgerNet [e] programId c liabilityPendingRedemption := by
  show -ledgerNet (w.ledger ++ [e]) programId c liabilityPendingRedemption = _
  rw [ledgerNet_append]
  unfold pendingRedemption
  ring

theorem payoutCash_posted (w : World) (e : JournalEntry) (programId c : String) :
    payoutCash (w.posted e) programId c = payoutCash w programId c -
      if e.OfKind "redemption-payout:" then ledgerNet [e] programId c assetTrusteeBankCash
      else 0 := by
  show -ledgerNet (entriesOfKind (w.ledger ++ [e]) "redemption-payout:") programId c
    assetTrusteeBankCash = _
  rw [entriesOfKind_append, entriesOfKind_singleton, ledgerNet_append]
  unfold payoutCash
  by_cases h : e.OfKind "redemption-payout:"
  · rw [if_pos h, if_pos h]
    ring
  · rw [if_neg h, if_neg h, ledgerNet_nil]
    ring

/-- A redemption goes a step further: what remains to show is what the ledger gained. -/
theorem RedemptionBooks.update {past : List World} {w w' : World} (h : RedemptionBooks past w)
    {redemptionId : String} {r : Redemption} (hr : w.redemptions.find? redemptionId = some r)
    {f : Redemption → Redemption} (hf : ∀ r, (f r).id = r.id) (hkeeps : KeepsTerms f)
    (hredemptions : w'.redemptions = (w.updateRedemption redemptionId f hf).redemptions)
    {s : RedemptionStatus} (hs : (f r).status = s) (hserved : s ∈ servedStatuses)
    (hpath : s.path = r.status.path ++ [s])
    (hpending : ∀ programId c, pendingRedemption w' programId c =
      pendingRedemption w programId c + if r.InBooks programId c then
        (f r).amountIn outstandingStatuses - r.amountIn outstandingStatuses else 0)
    (hpaid : ∀ programId c, payoutCash w' programId c = payoutCash w programId c +
      if r.InBooks programId c then
        (f r).amountIn [.completed] - r.amountIn [.completed] else 0) :
    RedemptionBooks (past ++ [w']) w' := by
  have hsum (statuses : List RedemptionStatus) (programId c : String) :
      redemptionSum w' statuses programId c = redemptionSum w statuses programId c +
        if r.InBooks programId c then (f r).amountIn statuses - r.amountIn statuses else 0 := by
    rw [← redemptionSum_update hr hkeeps]
    unfold redemptionSum
    rw [hredemptions]
  have hfind : w'.redemptions.find? redemptionId = some (f r) := by
    rw [hredemptions]
    exact find?_updateRedemption hr f hf
  have hmem : ∀ a ∈ w'.redemptions.rows,
      (a ∈ w.redemptions.rows ∧ a.id ≠ redemptionId) ∨ a = f r := by
    intro a ha
    rw [hredemptions] at ha
    rcases (@Lib.Table.mem_modify _ _ _ _ w.redemptions redemptionId f hf a).mp ha with
      ha | ⟨b, hb, rfl⟩
    · exact .inl ha
    · rw [hr] at hb
      cases hb
      exact .inr rfl
  refine ⟨?_, ?_, ?_, ?_⟩
  · intro a ha
    rcases hmem a ha with ⟨ha, -⟩ | rfl
    · exact h.served a ha
    · rw [hs]
      exact hserved
  · intro programId c
    rw [hpending, hsum, h.pending]
  · intro programId c
    rw [hpaid, hsum, h.paid]
  · intro a ha
    rw [statusesOf_concat]
    rcases hmem a ha with ⟨ha, -⟩ | rfl
    · exact (h.passed a ha).trans (List.sublist_append_left ..)
    · have hid : (f r).id = redemptionId := (hf r).trans (Lib.Table.key_of_find? hr)
      rw [hid, hfind, hs, hpath, Option.map_some, hs, Option.toList_some]
      have hpassed := h.passed r (Lib.Table.mem_of_find? hr)
      rw [Lib.Table.key_of_find? hr] at hpassed
      exact hpassed.append (List.Sublist.refl _)

/-! ## Every operation -/

omit [Runtime] in
theorem requestedRow_status (input : RequestRedemption) (id : String) (program : Program)
    (minor : Int) : (requestedRow input id program minor).status = .awaitingApproval := rfl

/-- **Every effect keeps the books.** -/
theorem RedemptionBooks.effect {past : List World} {w w₁ : World} {op : RedemptionOp}
    (h : RedemptionBooks past w) (heffect : RedemptionEffect w op w₁) (rows : List AuditLog)
    (events : List OutboxEvent) :
    RedemptionBooks (past ++ [w₁.logged rows events]) (w₁.logged rows events) := by
  cases heffect with
  | @requested input id program minor t hprogram hpositive ht =>
    obtain ⟨hrows, -⟩ := Lib.Table.insert?_eq_some ht
    refine ⟨?_, ?_, ?_, ?_⟩
    · intro r hr
      rcases List.mem_append.mp (hrows ▸ hr) with hr | hr
      · exact h.served r hr
      · rw [List.mem_singleton.mp hr, requestedRow_status]
        decide
    · intro programId c
      exact (h.pending programId c).trans (redemptionSum_insert ht rfl (by decide) programId c).symm
    · intro programId c
      exact (h.paid programId c).trans (redemptionSum_insert ht rfl (by decide) programId c).symm
    · intro r hr
      rw [statusesOf_concat]
      rcases List.mem_append.mp (hrows ▸ hr) with hr | hr
      · exact (h.passed r hr).trans (List.sublist_append_left ..)
      · rw [List.mem_singleton.mp hr]
        exact List.nil_sublist _
  | @approved redemptionId approverId reason r e hr hstatus he hprogram hsource =>
    have hkind : ¬e.OfKind "redemption-payout:" :=
      JournalEntry.not_ofKind_of_source hsource (by decide) (by decide)
    refine h.update (f := Redemption.asApproved approverId) (s := .approved)
      hr (fun _ => rfl) ⟨fun _ => rfl, fun _ => rfl, fun _ => rfl⟩ rfl rfl (by decide) ?_ ?_ ?_
    · rw [hstatus]
      rfl
    · intro programId c
      show pendingRedemption (w.posted e) programId c = _
      rw [pendingRedemption_posted, he.net_redemption hprogram]
      by_cases hbooks : r.InBooks programId c
      · simp [hbooks, Redemption.amountIn, hstatus, outstandingStatuses, Redemption.asApproved,
          liabilityPaychainReserveObligation, liabilityPendingRedemption]
      · simp [hbooks]
    · intro programId c
      show payoutCash (w.posted e) programId c = _
      rw [payoutCash_posted, if_neg hkind]
      simp [Redemption.amountIn, hstatus, Redemption.asApproved]
  | @burnConfirmed clock redemptionId burnTxHash actor r hr hstatus =>
    -- The service never gives the status ASSET_LOCKED.
    have hstatus : r.status = .approved := by
      rcases hstatus with hstatus | hstatus
      · exact hstatus
      · have hserved := h.served r (Lib.Table.mem_of_find? hr)
        rw [hstatus] at hserved
        exact absurd hserved (by decide)
    refine h.update (f := Redemption.asBurnConfirmed burnTxHash (clock 0)) (s := .burnConfirmed)
      hr (fun _ => rfl) ⟨fun _ => rfl, fun _ => rfl, fun _ => rfl⟩ rfl rfl (by decide) ?_ ?_ ?_
    · rw [hstatus]
      rfl
    · intro programId c
      show pendingRedemption w programId c = _
      simp [Redemption.amountIn, hstatus, outstandingStatuses, Redemption.asBurnConfirmed]
    · intro programId c
      show payoutCash w programId c = _
      simp [Redemption.amountIn, hstatus, Redemption.asBurnConfirmed]
  | @payoutSubmitted clock uuid redemptionId actor r hr hstatus =>
    refine h.update (f := Redemption.asPayoutSubmitted (payoutReferenceOf uuid) (clock 0))
      (s := .payoutSubmitted) hr (fun _ => rfl) ⟨fun _ => rfl, fun _ => rfl, fun _ => rfl⟩ rfl rfl
      (by decide) ?_ ?_ ?_
    · rw [hstatus]
      rfl
    · intro programId c
      show pendingRedemption w programId c = _
      simp [Redemption.amountIn, hstatus, outstandingStatuses, Redemption.asPayoutSubmitted]
    · intro programId c
      show payoutCash w programId c = _
      simp [Redemption.amountIn, hstatus, Redemption.asPayoutSubmitted]
  | @completed clock redemptionId actor r e hr hstatus he hprogram hsource =>
    have hkind : e.OfKind "redemption-payout:" := JournalEntry.ofKind_of_source hsource
    refine h.update (f := Redemption.asCompleted (clock 0) (clock 1)) (s := .completed)
      hr (fun _ => rfl) ⟨fun _ => rfl, fun _ => rfl, fun _ => rfl⟩ rfl rfl (by decide) ?_ ?_ ?_
    · rw [hstatus]
      rfl
    · intro programId c
      show pendingRedemption (w.posted e) programId c = _
      rw [pendingRedemption_posted, he.net_redemption hprogram]
      by_cases hbooks : r.InBooks programId c
      · simp [hbooks, Redemption.amountIn, hstatus, outstandingStatuses, Redemption.asCompleted,
          liabilityPendingRedemption, assetTrusteeBankCash, sub_eq_add_neg]
      · simp [hbooks]
    · intro programId c
      show payoutCash (w.posted e) programId c = _
      rw [payoutCash_posted, if_pos hkind, he.net_redemption hprogram]
      by_cases hbooks : r.InBooks programId c
      · simp [hbooks, Redemption.amountIn, hstatus, Redemption.asCompleted,
          liabilityPendingRedemption, assetTrusteeBankCash]
      · simp [hbooks]

/-- One operation keeps the books, whether it succeeds or throws. -/
theorem RedemptionBooks.step {past : List World} {w : World} (h : RedemptionBooks past w)
    (op : RedemptionOp) : RedemptionBooks (past ++ [op.step w]) (op.step w) := by
  unfold RedemptionOp.step
  rcases (op.served w).state with hstate | ⟨w₁, rows, events, heffect, hstate⟩
  · rw [hstate]
    exact h.congr rfl rfl
  · rw [hstate]
    exact h.effect heffect rows events

/-- **The books of redemptions, after every run.** -/
theorem redemption_books {w : World} (hw : NoRedemptions w) (ops : List RedemptionOp) :
    (∀ programId c,
      pendingRedemption (ops.foldl RedemptionOp.step w) programId c =
          redemptionSum (ops.foldl RedemptionOp.step w) outstandingStatuses programId c ∧
        payoutCash (ops.foldl RedemptionOp.step w) programId c =
          redemptionSum (ops.foldl RedemptionOp.step w) [.completed] programId c) ∧
      ∀ r ∈ (ops.foldl RedemptionOp.step w).redemptions.rows, r.status = .completed →
        [RedemptionStatus.approved, .burnConfirmed, .payoutSubmitted].Sublist
          (statusesOf (history RedemptionOp.step w ops) r.id) := by
  have h : RedemptionBooks (history RedemptionOp.step w ops) (ops.foldl RedemptionOp.step w) :=
    Lib.history_run (C := fun _ _ => True) (fun _ _ op h _ => h.step op) hw.books
      (Lib.Meets.of_forall (fun _ _ => trivial) w ops)
  refine ⟨?_, ?_⟩
  · intro programId c
    exact ⟨h.pending programId c, h.paid programId c⟩
  · intro r hr hstatus
    have hpassed := h.passed r hr
    rw [hstatus] at hpassed
    exact (List.sublist_append_left _ [RedemptionStatus.completed]).trans hpassed

end

/-! ## A redemption that is completed -/

attribute [local instance] Runtime.ascii

namespace Sample

/-- A reserve of 100 and a circulating supply of 100, with redemptions enabled. -/
def redeemable : World :=
  { world with
    liabilitySnapshots := ⟨[{ snapshot with circulatingMinor := 100 }], List.nodup_singleton _⟩
    featureFlags := ⟨[⟨"paychain.redemption.enabled", true⟩, ⟨"bank.payout.enabled", true⟩],
      by decide⟩ }

def redemptionRequest (paychainRedemptionId amountMinor : String) : RequestRedemption where
  programId := "P1"
  paychainRedemptionId := paychainRedemptionId
  amountMinor := amountMinor
  beneficiaryName := "carol"
  beneficiaryAccountMasked := "***1"
  correlationId := none

/-- A redemption of 10, up to the confirmed payout. -/
def redeem : List RedemptionOp :=
  [.request (redemptionRequest "X1" "10") "R1", .approve "R1" "alice" "ok",
   .confirmBurn clock "R1" "hash" "paychain", .submitPayout clock "0123456789ab" "R1" "alice",
   .confirmPayout clock "R1" "bank"]

theorem noRedemptions : NoRedemptions redeemable where
  redemptions := rfl
  pending := by
    intro programId c
    have hledger : ∀ e ∈ redeemable.ledger, ∀ l ∈ e.lines,
        l.account.2.2 ≠ liabilityPendingRedemption := by decide +kernel
    unfold pendingRedemption ledgerNet
    rw [Lib.net_eq_zero, neg_zero]
    intro l hl haccount
    obtain ⟨e, he, hle⟩ := List.mem_flatMap.mp hl
    exact hledger e he l hle (by rw [haccount])
  payouts := by
    intro programId c
    have hledger : ∀ e ∈ redeemable.ledger, ¬e.OfKind "redemption-payout:" := by decide +kernel
    have hnone : entriesOfKind redeemable.ledger "redemption-payout:" = [] :=
      List.filter_eq_nil_iff.mpr fun e he => by simpa using hledger e he
    rw [payoutCash, hnone, ledgerNet_nil, neg_zero]

end Sample

/-- The redemption is paid out, and its history is complete. -/
theorem redemption_books_completed :
    payoutCash (Sample.redeem.foldl RedemptionOp.step Sample.redeemable) "P1" "USD" = 10 ∧
      [RedemptionStatus.approved, .burnConfirmed, .payoutSubmitted].Sublist
        (statusesOf (history RedemptionOp.step Sample.redeemable Sample.redeem) "R1") := by
  obtain ⟨hsums, hpassed⟩ := redemption_books Sample.noRedemptions Sample.redeem
  have hsum : redemptionSum (Sample.redeem.foldl RedemptionOp.step Sample.redeemable)
      [.completed] "P1" "USD" = 10 := by decide +kernel
  have hcompleted : ∃ r ∈ (Sample.redeem.foldl RedemptionOp.step
      Sample.redeemable).redemptions.rows, r.status = .completed ∧ r.id = "R1" := by
    decide +kernel
  obtain ⟨r, hr, hstatus, hid⟩ := hcompleted
  refine ⟨(hsums "P1" "USD").2.trans hsum, ?_⟩
  rw [← hid]
  exact hpassed r hr hstatus

end TrusteeBank
