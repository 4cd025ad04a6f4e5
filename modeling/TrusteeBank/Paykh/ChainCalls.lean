import TrusteeBank.Lib.Tally
import TrusteeBank.Paykh.ChainFailure
import TrusteeBank.Paykh.Reconcile
import TrusteeBank.Paykh.StellarAmounts

/-!
# Calls that book a stablecoin

An issuance or a redemption that passes its checks posts an entry, and asks PayChain when the
stablecoin is bound to an asset and PayChain is configured. What it posts and asks is a function of
the state and the operation (`booking`).

**Theorem (`SafeguardOp.books`).** An operation moves the stablecoin account by its booking alone,
and when it succeeds it moves the counters of the booking's liability, and no others, by the same
amount.

**Runs.** The account of a run is the tally of all its bookings (`loyaltyStablecoin_run`), what is
outstanding the tally of those whose operations succeeded (`outstandingMinor_run`). So what
reconciling reports is off by the operations that failed after their entry was posted
(`reconcile_reports`). The supply is compared with the account: a PayChain that does what it is
asked is not in drift (`reconcile_asked`), even where the counters are off.
-/

set_option autoImplicit false

namespace TrusteeBank

open Lib (Call)
open LedgerAccountCode
open LoyaltyService hiding bind

section

variable [Runtime]

/-! ## Bookings -/

/-- What an issuance is for, when it passes its checks. -/
def issueBooks (w : World) (input : IssueLoyaltyInput) : Option (PaykhLoyaltyLiability × Int) := do
  let liability ← w.paykhLoyaltyLiabilities.find? input.liabilityId
  let fund ← w.paykhProgramFunds.find? liability.programFundId
  let (amount, _) ← (resolveAmount liability input.amountMinor input.units).toOption
  if w.enabled "paykh.loyalty.enabled" = true ∧ 0 < amount.minor ∧
      amount.minor ≤ fund.fundedMinor - fund.reservedMinor ∧ FitsInt8 amount.minor ∧
      FitsText input.actor then
    some (liability, amount.minor)
  else none

/-- What a redemption is for, when it passes its checks. -/
def redeemBooks (w : World) (input : RedeemLoyaltyInput) :
    Option (PaykhLoyaltyLiability × Int) := do
  let merchant ← w.paykhMerchants.find? input.merchantId
  let liability ← w.paykhLoyaltyLiabilities.find? input.liabilityId
  let (amount, _) ← (resolveAmount liability input.amountMinor input.units).toOption
  if w.enabled "paykh.loyalty.enabled" = true ∧
      (merchant.status = "ACTIVE" ∧ merchant.kycStatus = "VERIFIED") ∧ 0 < amount.minor ∧
      amount.minor ≤ liability.outstandingMinor ∧ FitsInt8 amount.minor ∧
      FitsText input.actor then
    some (liability, amount.minor)
  else none

theorem issueBooks_eq_some {w : World} {input : IssueLoyaltyInput}
    {liability : PaykhLoyaltyLiability} {n : Int} :
    issueBooks w input = some (liability, n) ↔
      ∃ fund amount, IssueChecks w input liability fund amount ∧ amount.minor = n := by
  unfold issueBooks
  simp only [Option.bind_eq_bind, Option.bind_eq_some_iff, Option.ite_none_right_eq_some,
    Option.some.injEq, Prod.mk.injEq]
  constructor
  · rintro ⟨l, hl, fund, hfund, ⟨amount, units⟩, hamount, ⟨henabled, hpos, havail, hfits, hactor⟩,
      rfl, rfl⟩
    exact ⟨fund, amount, ⟨henabled, hl, hfund, ⟨units, toOption_eq_some.mp hamount⟩, hpos, havail,
      hfits, hactor⟩, rfl⟩
  · rintro ⟨fund, amount, h, rfl⟩
    obtain ⟨units, hresolved⟩ := h.resolved
    exact ⟨liability, h.found, fund, h.backed, (amount, units), by rw [hresolved]; rfl,
      ⟨h.enabled, h.positive, h.available, h.fits, h.actor⟩, rfl, rfl⟩

theorem redeemBooks_eq_some {w : World} {input : RedeemLoyaltyInput}
    {liability : PaykhLoyaltyLiability} {n : Int} :
    redeemBooks w input = some (liability, n) ↔
      ∃ amount, RedeemChecks w input liability amount ∧ amount.minor = n := by
  unfold redeemBooks
  simp only [Option.bind_eq_bind, Option.bind_eq_some_iff, Option.ite_none_right_eq_some,
    Option.some.injEq, Prod.mk.injEq]
  constructor
  · rintro ⟨m, hm, l, hl, ⟨amount, units⟩, hamount,
      ⟨henabled, hactive, hpos, hle, hfits, hactor⟩, rfl, rfl⟩
    exact ⟨amount, ⟨henabled, ⟨m, hm, hactive⟩, hl, ⟨units, toOption_eq_some.mp hamount⟩, hpos, hle,
      hfits, hactor⟩, rfl⟩
  · rintro ⟨amount, h, rfl⟩
    obtain ⟨units, hresolved⟩ := h.resolved
    obtain ⟨m, hm, hactive⟩ := h.merchant
    exact ⟨m, hm, liability, h.found, (amount, units), by rw [hresolved]; rfl,
      ⟨h.enabled, hactive, h.positive, h.outstanding, h.fits, h.actor⟩, rfl, rfl⟩

/-- An entry that is posted, and what PayChain is asked then. -/
structure Booking where
  liability : PaykhLoyaltyLiability
  operation : IssuanceOperation
  amount : Int
  request : Option IssuanceExecutionRequest

/-- PayChain is asked when the liability is bound to an asset and PayChain is configured. -/
def asked (gateway : IssuanceGateway) (uuid : String) (operation : IssuanceOperation)
    (liability : PaykhLoyaltyLiability) (n : Int) : Option IssuanceExecutionRequest := do
  let assetCode ← given liability.stellarAssetCode
  let destination ← given liability.stellarDistributor
  let _ ← gateway.paychain
  return executionRequest uuid operation liability assetCode destination (toString n)

/-- What an operation books. -/
def booking (w : World) : SafeguardOp → Option Booking
  | .loyalty (.issue gateway uuid _ input) => (issueBooks w input).map fun (liability, n) =>
    ⟨liability, .issue, n, asked gateway uuid .issue liability n⟩
  | .loyalty (.redeem gateway _ uuid _ input) => (redeemBooks w input).map fun (liability, n) =>
    ⟨liability, .burn, n, asked gateway uuid .burn liability n⟩
  | _ => none

theorem asked_eq_some {gateway : IssuanceGateway} {uuid : String} {operation : IssuanceOperation}
    {liability : PaykhLoyaltyLiability} {n : Int} {req : IssuanceExecutionRequest} :
    asked gateway uuid operation liability n = some req ↔
      ∃ assetCode destination send, given liability.stellarAssetCode = some assetCode ∧
        given liability.stellarDistributor = some destination ∧ gateway.paychain = some send ∧
        executionRequest uuid operation liability assetCode destination (toString n) = req := by
  unfold asked
  simp only [Option.bind_eq_bind, Option.bind_eq_some_iff, Option.pure_def, Option.some.injEq]
  constructor
  · rintro ⟨assetCode, hcode, destination, hdestination, send, hsend, hreq⟩
    exact ⟨assetCode, destination, send, hcode, hdestination, hsend, hreq⟩
  · rintro ⟨assetCode, destination, send, hcode, hdestination, hsend, hreq⟩
    exact ⟨assetCode, hcode, destination, hdestination, send, hsend, hreq⟩

/-! ## What an operation does to the books -/

namespace Booking

/-- What a booking adds to the stablecoin account. -/
def value (b : Booking) : Int :=
  match b.operation with
  | .issue => b.amount
  | .burn => -b.amount

/-- What a booking adds to the amount issued. -/
def issued (b : Booking) : Int :=
  match b.operation with
  | .issue => b.amount
  | .burn => 0

/-- What it adds to the stablecoin account of a tenant in a currency. -/
def valueIn (b : Booking) (tenantId c : String) : Int :=
  if b.liability.InBooks tenantId c then b.value else 0

end Booking

/-- What a column counts of a booking, when the operation succeeds. -/
def countedOn (w : World) (op : SafeguardOp) (f : Booking → Int) (liabilityId : String) : Int :=
  ((booking w op).filter fun b => b.liability.id = liabilityId ∧ Succeeds w op).elim 0 f

theorem countedOn_of_none {w : World} {op : SafeguardOp} (h : booking w op = none)
    (f : Booking → Int) (liabilityId : String) : countedOn w op f liabilityId = 0 := by
  unfold countedOn
  rw [h]
  rfl

/-- The columns of a liability that no operation rewrites. -/
def PaykhLoyaltyLiability.binding (l : PaykhLoyaltyLiability) :
    String × (String × String × String) × Int × Option String × Option String :=
  (l.id, (l.tenantId, l.pegCurrency, l.programFundId), l.decimals, l.stellarAssetCode,
    l.stellarDistributor)

/-- What an operation leaves of the stablecoin account and the liabilities. -/
structure Books (w : World) (op : SafeguardOp) (w' : World) : Prop where
  ledger : ∀ tenantId c, loyaltyStablecoin w' tenantId c =
    loyaltyStablecoin w tenantId c + (booking w op).elim 0 fun b => b.valueIn tenantId c
  kept : Lib.Table.RowsKept PaykhLoyaltyLiability.binding w.paykhLoyaltyLiabilities
    w'.paykhLoyaltyLiabilities
  counters : ∀ l' ∈ w'.paykhLoyaltyLiabilities.rows,
    (w.paykhLoyaltyLiabilities.find? l'.id = none ∧ l'.outstandingMinor = 0 ∧
      l'.issuedTotalMinor = 0) ∨
    ∃ l ∈ w.paykhLoyaltyLiabilities.rows, l'.binding = l.binding ∧
      l'.outstandingMinor = l.outstandingMinor + countedOn w op Booking.value l.id ∧
      l'.issuedTotalMinor = l.issuedTotalMinor + countedOn w op Booking.issued l.id

theorem Books.logged {w w' : World} {op : SafeguardOp} (h : Books w op w') (rows : List AuditLog)
    (events : List OutboxEvent) : Books w op (w'.logged rows events) :=
  ⟨h.ledger, h.kept, h.counters⟩

/-- An operation without a booking rewrites no column that is counted. -/
theorem Books.of_none {w w' : World} {op : SafeguardOp} (hnone : booking w op = none)
    (hledger : ∀ tenantId c, loyaltyStablecoin w' tenantId c = loyaltyStablecoin w tenantId c)
    (hkept : Lib.Table.RowsKept PaykhLoyaltyLiability.binding w.paykhLoyaltyLiabilities
      w'.paykhLoyaltyLiabilities)
    (hcounters : ∀ l' ∈ w'.paykhLoyaltyLiabilities.rows,
      (w.paykhLoyaltyLiabilities.find? l'.id = none ∧ l'.outstandingMinor = 0 ∧
        l'.issuedTotalMinor = 0) ∨
      ∃ l ∈ w.paykhLoyaltyLiabilities.rows, l'.binding = l.binding ∧
        l'.outstandingMinor = l.outstandingMinor ∧ l'.issuedTotalMinor = l.issuedTotalMinor) :
    Books w op w' := by
  refine ⟨fun tenantId c => ?_, hkept, fun l' hl' => ?_⟩
  · rw [hnone, Option.elim_none, add_zero]
    exact hledger tenantId c
  · simpa only [countedOn_of_none hnone, add_zero] using hcounters l' hl'

/-- Funding, reserving and releasing leave the stablecoins alone. -/
theorem fund_books (w : World) (op : FundOp) : Books w (.fund op) (op.step w) := by
  refine after_effect (op.effect w) (fun w₁ heffect => ?_) .logged
  have hsame (hledger : ∀ tenantId c, loyaltyStablecoin w₁ tenantId c =
      loyaltyStablecoin w tenantId c)
      (hrows : w₁.paykhLoyaltyLiabilities = w.paykhLoyaltyLiabilities) : Books w (.fund op) w₁ := by
    refine .of_none rfl hledger (hrows ▸ .refl _) fun l' hl' => ?_
    rw [hrows] at hl'
    exact .inr ⟨l', hl', rfl, rfl, rfl⟩
  cases heffect with
  | unchanged | created _ | reserved _ _ _ _ | released _ _ _ _ => exact hsame (fun _ _ => rfl) rfl
  | overflowed _ _ _ hentries _ | funded _ _ _ hentries _ =>
    refine hsame (fun tenantId c => ?_) rfl
    refine (loyaltyStablecoin_postedAll w _ tenantId c).trans ?_
    rw [(hentries.net tenantId c).2, sub_zero]

theorem bind_books (w : World) (input : BindLoyaltyInput) (id : String) :
    Books w (.loyalty (.bind input id)) (LoyaltyOp.step w (.bind input id)) := by
  refine after_effect (LoyaltyOp.effect w (.bind input id)) (fun w₁ heffect => ?_) .logged
  cases heffect with
  | unchanged =>
    exact .of_none rfl (fun _ _ => rfl) (.refl _) fun l' hl' => .inr ⟨l', hl', rfl, rfl, rfl⟩
  | @bound _ _ fund denominationMinor t hfund hrequired hfree ht =>
    refine .of_none rfl (fun _ _ => rfl) (Lib.Table.rowsKept_insert? ht) fun l' hl' => ?_
    obtain ⟨hrows, hfresh⟩ := Lib.Table.insert?_eq_some ht
    have hl' : l' ∈ t.rows := hl'
    rw [hrows] at hl'
    rcases List.mem_append.mp hl' with hold | hnew
    · exact .inr ⟨l', hold, rfl, rfl, rfl⟩
    · obtain rfl := List.mem_singleton.mp hnew
      exact .inl ⟨hfresh, rfl, rfl⟩

theorem mem_updateLiability {w : World} {liabilityId : String}
    {f : PaykhLoyaltyLiability → PaykhLoyaltyLiability} {hf : ∀ l, (f l).id = l.id}
    {l' : PaykhLoyaltyLiability}
    (h : l' ∈ (w.updateLiability liabilityId f hf).paykhLoyaltyLiabilities.rows) :
    (l' ∈ w.paykhLoyaltyLiabilities.rows ∧ l'.id ≠ liabilityId) ∨
      ∃ l, w.paykhLoyaltyLiabilities.find? liabilityId = some l ∧ l' = f l := by
  have h : l' ∈ (w.paykhLoyaltyLiabilities.modify liabilityId f hf).rows := h
  exact Lib.Table.mem_modify.mp h

theorem reconcile_books (w : World) (gateway : IssuanceGateway) (clock : Clock)
    (liabilityId : String) : Books w (.loyalty (.reconcile gateway clock liabilityId))
      (LoyaltyOp.step w (.reconcile gateway clock liabilityId)) := by
  refine after_effect (LoyaltyOp.effect w (.reconcile gateway clock liabilityId))
    (fun w₁ heffect => ?_) .logged
  cases heffect with
  | unchanged =>
    exact .of_none rfl (fun _ _ => rfl) (.refl _) fun l' hl' => .inr ⟨l', hl', rfl, rfl, rfl⟩
  | @reconciled _ _ _ liability supply status hliability =>
    refine .of_none rfl (fun _ _ => rfl) (Lib.Table.rowsKept_modify _ _
      (PaykhLoyaltyLiability.asReconciled_id supply status (clock 0)) fun _ => rfl) fun l' hl' => ?_
    rcases mem_updateLiability hl' with ⟨hold, -⟩ | ⟨l, hl, rfl⟩
    · exact .inr ⟨l', hold, rfl, rfl, rfl⟩
    · exact .inr ⟨l, Lib.Table.mem_of_find? hl, rfl, rfl, rfl⟩

section

variable {w w' : World} {op : SafeguardOp} {b : Booking} {e : JournalEntry}

theorem countedOn_of (hb : booking w op = some b) (f : Booking → Int) (liabilityId : String) :
    countedOn w op f liabilityId =
      if b.liability.id = liabilityId ∧ Succeeds w op then f b else 0 := by
  unfold countedOn
  rw [hb]
  by_cases h : b.liability.id = liabilityId ∧ Succeeds w op <;> simp [Option.filter, h]

/-- The entry of a booking is posted. -/
theorem posted_ledger (hb : booking w op = some b) (hledger : w'.ledger = w.ledger ++ [e])
    (hnet : ∀ tenantId c, ledgerNet [e] tenantId c liabilityPaykhLoyaltyStablecoin =
      -b.valueIn tenantId c) (tenantId c : String) : loyaltyStablecoin w' tenantId c =
    loyaltyStablecoin w tenantId c + (booking w op).elim 0 fun b => b.valueIn tenantId c := by
  unfold loyaltyStablecoin
  rw [hledger, ledgerNet_append, hnet, hb, Option.elim_some]
  ring

/-- An operation that fails after its entry is posted counts nothing. -/
theorem Books.failed (hb : booking w op = some b) (hfailed : ¬Succeeds w op)
    (hnet : ∀ tenantId c, ledgerNet [e] tenantId c liabilityPaykhLoyaltyStablecoin =
      -b.valueIn tenantId c) : Books w op (w.posted e) := by
  refine ⟨posted_ledger hb rfl hnet, .refl _, fun l' hl' => .inr ⟨l', hl', rfl, ?_, ?_⟩⟩
  · rw [countedOn_of hb, if_neg fun h => hfailed h.2, add_zero]
  · rw [countedOn_of hb, if_neg fun h => hfailed h.2, add_zero]

/-- An operation that succeeds counts its booking on the liability. -/
theorem Books.counted (hb : booking w op = some b) (hsucceeds : Succeeds w op)
    (hnet : ∀ tenantId c, ledgerNet [e] tenantId c liabilityPaykhLoyaltyStablecoin =
      -b.valueIn tenantId c) (hledger : w'.ledger = w.ledger ++ [e])
    (hfound : w.paykhLoyaltyLiabilities.find? b.liability.id = some b.liability)
    {f : PaykhLoyaltyLiability → PaykhLoyaltyLiability} (hf : ∀ l, (f l).id = l.id)
    (hrows : w'.paykhLoyaltyLiabilities = w.paykhLoyaltyLiabilities.modify b.liability.id f hf)
    (hbinding : ∀ l, (f l).binding = l.binding)
    (hvalue : (f b.liability).outstandingMinor = b.liability.outstandingMinor + b.value)
    (hissued : (f b.liability).issuedTotalMinor = b.liability.issuedTotalMinor + b.issued) :
    Books w op w' := by
  refine ⟨posted_ledger hb hledger hnet, hrows ▸ Lib.Table.rowsKept_modify _ _ hf hbinding,
    fun l' hl' => .inr ?_⟩
  rw [hrows] at hl'
  rcases Lib.Table.mem_modify.mp hl' with ⟨hold, hother⟩ | ⟨l, hl, rfl⟩
  · refine ⟨l', hold, rfl, ?_, ?_⟩
    · rw [countedOn_of hb, if_neg fun h => hother h.1.symm, add_zero]
    · rw [countedOn_of hb, if_neg fun h => hother h.1.symm, add_zero]
  · obtain rfl := Option.some.inj (hfound.symm.trans hl)
    refine ⟨b.liability, Lib.Table.mem_of_find? hfound, hbinding _, ?_, ?_⟩
    · rw [countedOn_of hb, if_pos ⟨rfl, hsucceeds⟩, hvalue]
    · rw [countedOn_of hb, if_pos ⟨rfl, hsucceeds⟩, hissued]

end

theorem issue_books (w : World) (gateway : IssuanceGateway) (uuid id : String)
    (input : IssueLoyaltyInput) : Books w (.loyalty (.issue gateway uuid id input))
      (LoyaltyOp.step w (.issue gateway uuid id input)) := by
  have hstate : LoyaltyOp.step w (.issue gateway uuid id input) =
      ((LoyaltyService.issue gateway uuid id input).run w).2 := Call.run_void_snd _ _
  rw [hstate]
  cases hbooks : issueBooks w input with
  | none =>
    have hnone : booking w (.loyalty (.issue gateway uuid id input)) = none := by
      simp [booking, hbooks]
    rcases run_issue_checked w gateway uuid id input with ⟨err, hrun⟩ | ⟨l, fund, amount, h⟩
    · rw [hrun]
      exact .of_none hnone (fun _ _ => rfl) (.refl _) fun l' hl' => .inr ⟨l', hl', rfl, rfl, rfl⟩
    · rw [issueBooks_eq_some.mpr ⟨fund, amount, h, rfl⟩] at hbooks
      cases hbooks
  | some pair =>
    obtain ⟨l, n⟩ := pair
    obtain ⟨fund, amount, h, rfl⟩ := issueBooks_eq_some.mp hbooks
    have hb : booking w (.loyalty (.issue gateway uuid id input)) =
        some ⟨l, .issue, amount.minor, asked gateway uuid .issue l amount.minor⟩ := by
      simp [booking, hbooks]
    obtain ⟨e, he, houtcome⟩ := run_issue_of h gateway uuid id
    have hnet (tenantId c : String) := (he.net tenantId c).2
    have hsucceeds : Succeeds w (.loyalty (.issue gateway uuid id input)) ↔
        ∃ r, ((LoyaltyService.issue gateway uuid id input).run w).1 = .ok r := Call.void_ok_iff
    generalize (LoyaltyService.issue gateway uuid id input).run w = result at houtcome hsucceeds ⊢
    cases houtcome with
    | failed hfails =>
      refine .failed hb (fun hs => ?_) hnet
      obtain ⟨r, hr⟩ := hsucceeds.mp hs
      cases hr
    | @counted issued chain row t rows events hchain hfits hrow ht _ =>
      refine Books.logged (.counted hb (hsucceeds.mpr ⟨issued, rfl⟩) hnet rfl
        (Lib.Table.find?_key_of_mem (Lib.Table.mem_of_find? h.found))
        (PaykhLoyaltyLiability.asIssued_id (l.outstandingMinor + amount.minor)
          (l.issuedTotalMinor + amount.minor)) rfl (fun _ => rfl) rfl rfl) rows events

theorem redeem_books (w : World) (gateway : IssuanceGateway) (clock : Clock) (uuid id : String)
    (input : RedeemLoyaltyInput) : Books w (.loyalty (.redeem gateway clock uuid id input))
      (LoyaltyOp.step w (.redeem gateway clock uuid id input)) := by
  have hstate : LoyaltyOp.step w (.redeem gateway clock uuid id input) =
      ((LoyaltyService.redeem gateway clock uuid id input).run w).2 := Call.run_void_snd _ _
  rw [hstate]
  cases hbooks : redeemBooks w input with
  | none =>
    have hnone : booking w (.loyalty (.redeem gateway clock uuid id input)) = none := by
      simp [booking, hbooks]
    rcases run_redeem_checked w gateway clock uuid id input with ⟨err, hrun⟩ | ⟨l, amount, h⟩
    · rw [hrun]
      exact .of_none hnone (fun _ _ => rfl) (.refl _) fun l' hl' => .inr ⟨l', hl', rfl, rfl, rfl⟩
    · rw [redeemBooks_eq_some.mpr ⟨amount, h, rfl⟩] at hbooks
      cases hbooks
  | some pair =>
    obtain ⟨l, n⟩ := pair
    obtain ⟨amount, h, rfl⟩ := redeemBooks_eq_some.mp hbooks
    have hb : booking w (.loyalty (.redeem gateway clock uuid id input)) =
        some ⟨l, .burn, amount.minor, asked gateway uuid .burn l amount.minor⟩ := by
      simp [booking, hbooks]
    obtain ⟨e, he, houtcome⟩ := run_redeem_of h gateway clock uuid id
    have hnet (tenantId c : String) : ledgerNet [e] tenantId c liabilityPaykhLoyaltyStablecoin =
        -(⟨l, .burn, amount.minor, asked gateway uuid .burn l amount.minor⟩ : Booking).valueIn
          tenantId c := by
      rw [(he.net tenantId c).2]
      unfold Booking.valueIn Booking.value
      split_ifs <;> simp
    have hsucceeds : Succeeds w (.loyalty (.redeem gateway clock uuid id input)) ↔
        ∃ r, ((LoyaltyService.redeem gateway clock uuid id input).run w).1 = .ok r :=
      Call.void_ok_iff
    generalize (LoyaltyService.redeem gateway clock uuid id input).run w = result
      at houtcome hsucceeds ⊢
    cases houtcome with
    | failed hfails =>
      refine .failed hb (fun hs => ?_) hnet
      obtain ⟨r, hr⟩ := hsucceeds.mp hs
      cases hr
    | @counted redeemed chain row t rows events hchain hfits hrow hnames ht _ =>
      refine Books.logged (.counted hb (hsucceeds.mpr ⟨redeemed, rfl⟩) hnet rfl
        (Lib.Table.find?_key_of_mem (Lib.Table.mem_of_find? h.found))
        (PaykhLoyaltyLiability.asRedeemed_id (l.outstandingMinor - amount.minor)
          (l.redeemedTotalMinor + amount.minor)) rfl (fun _ => rfl) rfl (add_zero _).symm) rows
        events

/-- **Every operation** moves the books by its booking alone. -/
theorem SafeguardOp.books (w : World) (op : SafeguardOp) : Books w op (op.step w) := by
  cases op with
  | fund op => exact fund_books w op
  | loyalty op =>
    cases op with
    | bind input id => exact bind_books w input id
    | issue gateway uuid id input => exact issue_books w gateway uuid id input
    | redeem gateway clock uuid id input => exact redeem_books w gateway clock uuid id input
    | reconcile gateway clock liabilityId => exact reconcile_books w gateway clock liabilityId

/-- A booking is of a stored liability, and of a positive amount. -/
theorem booking_found {w : World} {op : SafeguardOp} {b : Booking} (h : booking w op = some b) :
    b.liability ∈ w.paykhLoyaltyLiabilities.rows ∧ 0 < b.amount := by
  match op with
  | .fund _ | .loyalty (.bind ..) | .loyalty (.reconcile ..) => cases h
  | .loyalty (.issue gateway uuid id input) =>
    obtain ⟨⟨l, n⟩, hbooks, rfl⟩ := Option.map_eq_some_iff.mp h
    obtain ⟨fund, amount, hchecks, rfl⟩ := issueBooks_eq_some.mp hbooks
    exact ⟨Lib.Table.mem_of_find? hchecks.found, hchecks.positive⟩
  | .loyalty (.redeem gateway clock uuid id input) =>
    obtain ⟨⟨l, n⟩, hbooks, rfl⟩ := Option.map_eq_some_iff.mp h
    obtain ⟨amount, hchecks, rfl⟩ := redeemBooks_eq_some.mp hbooks
    exact ⟨Lib.Table.mem_of_find? hchecks.found, hchecks.positive⟩

/-- A request is for the amount booked, and names the asset of the liability. -/
theorem booking_request {w : World} {op : SafeguardOp} {b : Booking} (h : booking w op = some b)
    {req : IssuanceExecutionRequest} (hreq : b.request = some req) :
    given b.liability.stellarAssetCode = some req.assetCode ∧ req.operation = b.operation ∧
      req.amountMinor = toString b.amount ∧ req.decimals = b.liability.decimals := by
  match op with
  | .fund _ | .loyalty (.bind ..) | .loyalty (.reconcile ..) => cases h
  | .loyalty (.issue gateway uuid id input) =>
    obtain ⟨⟨l, n⟩, hbooks, rfl⟩ := Option.map_eq_some_iff.mp h
    obtain ⟨assetCode, destination, send, hcode, -, -, rfl⟩ := asked_eq_some.mp hreq
    exact ⟨hcode, rfl, rfl, rfl⟩
  | .loyalty (.redeem gateway clock uuid id input) =>
    obtain ⟨⟨l, n⟩, hbooks, rfl⟩ := Option.map_eq_some_iff.mp h
    obtain ⟨assetCode, destination, send, hcode, -, -, rfl⟩ := asked_eq_some.mp hreq
    exact ⟨hcode, rfl, rfl, rfl⟩

/-! ## Runs -/

/-- The booking of an operation, and whether the operation succeeds. -/
def recorded (w : World) (op : SafeguardOp) : List (Booking × Bool) :=
  ((booking w op).map fun b => (b, decide (Succeeds w op))).toList

/-- The bookings of a run. -/
def bookings (w : World) (ops : List SafeguardOp) : List (Booking × Bool) :=
  Lib.logged SafeguardOp.step recorded w ops

theorem tally_recorded (w : World) (op : SafeguardOp) (f : Booking → Int)
    (p : Booking × Bool → Bool) : Lib.tally (fun r => f r.1) p (recorded w op) =
      (booking w op).elim 0 fun b => if p (b, decide (Succeeds w op)) then f b else 0 := by
  unfold recorded
  cases booking w op with
  | none => rfl
  | some b =>
    rw [Option.map_some, Option.toList_some, Lib.tally_cons, Lib.tally_nil, add_zero]
    rfl

/-- **The stablecoin account of a run** moves by the bookings of the tenant in the currency, whether
or not their operations succeed. -/
theorem loyaltyStablecoin_run (tenantId c : String) (w : World) (ops : List SafeguardOp) :
    loyaltyStablecoin (ops.foldl SafeguardOp.step w) tenantId c = loyaltyStablecoin w tenantId c +
      Lib.tally (fun r => r.1.value) (fun r => decide (r.1.liability.InBooks tenantId c))
        (bookings w ops) := by
  refine Lib.tally_run (fun w => loyaltyStablecoin w tenantId c) (fun w op => ?_) w ops
  rw [tally_recorded, (op.books w).ledger]
  cases booking w op with
  | none => rfl
  | some b => simp [Booking.valueIn]

/-- What a column of a liability counts, and nothing as long as the liability is not stored. -/
def counterOf (w : World) (counter : PaykhLoyaltyLiability → Int) (liabilityId : String) : Int :=
  (w.paykhLoyaltyLiabilities.find? liabilityId).elim 0 counter

theorem countedOn_eq_tally (w : World) (op : SafeguardOp) (f : Booking → Int)
    (liabilityId : String) : countedOn w op f liabilityId =
      Lib.tally (fun r => f r.1) (fun r => decide (r.1.liability.id = liabilityId) && r.2)
        (recorded w op) := by
  rw [tally_recorded]
  cases hb : booking w op with
  | none => exact countedOn_of_none hb f liabilityId
  | some b => simp [countedOn_of hb]

/-- Nothing is counted on a liability that is not stored. -/
theorem countedOn_of_unbound {w : World} {liabilityId : String}
    (h : w.paykhLoyaltyLiabilities.find? liabilityId = none) (op : SafeguardOp)
    (f : Booking → Int) : countedOn w op f liabilityId = 0 := by
  cases hb : booking w op with
  | none => exact countedOn_of_none hb f liabilityId
  | some b =>
    have hother := Lib.Table.find?_eq_none.mp h b.liability (booking_found hb).1
    rw [countedOn_of hb, if_neg fun hcounted => hother hcounted.1]

/-- An operation moves a column by what the column counts of its booking. -/
theorem counterOf_step {w w' : World} {op : SafeguardOp} {counter : PaykhLoyaltyLiability → Int}
    {f : Booking → Int} (hkept : Lib.Table.RowsKept PaykhLoyaltyLiability.binding
      w.paykhLoyaltyLiabilities w'.paykhLoyaltyLiabilities)
    (hcounters : ∀ l' ∈ w'.paykhLoyaltyLiabilities.rows,
      (w.paykhLoyaltyLiabilities.find? l'.id = none ∧ counter l' = 0) ∨
      ∃ l ∈ w.paykhLoyaltyLiabilities.rows, l'.binding = l.binding ∧
        counter l' = counter l + countedOn w op f l.id) (liabilityId : String) :
    counterOf w' counter liabilityId =
      counterOf w counter liabilityId + countedOn w op f liabilityId := by
  unfold counterOf
  cases hfound' : w'.paykhLoyaltyLiabilities.find? liabilityId with
  | some l' =>
    obtain rfl := Lib.Table.key_of_find? hfound'
    rcases hcounters l' (Lib.Table.mem_of_find? hfound') with
      ⟨hnone, hzero⟩ | ⟨l, hl, hbinding, hcounter⟩
    · rw [hnone, countedOn_of_unbound hnone]
      exact hzero
    · have hid : l'.id = l.id := congrArg Prod.fst hbinding
      rw [hid, Lib.Table.find?_key_of_mem hl]
      exact hcounter
  | none =>
    -- The liability was not stored before either.
    have hnone : w.paykhLoyaltyLiabilities.find? liabilityId = none := by
      refine Lib.Table.find?_eq_none.mpr fun l hl hid => ?_
      obtain ⟨a, ha, hid'⟩ :=
        hkept.exists (P := fun columns => columns.1 = liabilityId) ⟨l, hl, hid⟩
      exact Lib.Table.find?_eq_none.mp hfound' a ha hid'
    rw [hnone, countedOn_of_unbound hnone]
    rfl

/-- **What is outstanding after a run** has moved by the bookings whose operations succeed. -/
theorem outstandingMinor_run (liabilityId : String) (w : World) (ops : List SafeguardOp) :
    counterOf (ops.foldl SafeguardOp.step w) (·.outstandingMinor) liabilityId =
      counterOf w (·.outstandingMinor) liabilityId + Lib.tally (fun r => r.1.value)
        (fun r => decide (r.1.liability.id = liabilityId) && r.2) (bookings w ops) := by
  refine Lib.tally_run (fun w => counterOf w (·.outstandingMinor) liabilityId)
    (fun w op => ?_) w ops
  rw [← countedOn_eq_tally w op Booking.value]
  refine counterOf_step (op.books w).kept (fun l' hl' => ?_) liabilityId
  rcases (op.books w).counters l' hl' with ⟨hnone, hzero, -⟩ | ⟨l, hl, hbinding, hcounter, -⟩
  · exact .inl ⟨hnone, hzero⟩
  · exact .inr ⟨l, hl, hbinding, hcounter⟩

/-! ## What reconciling reports -/

theorem mem_recorded {w : World} {op : SafeguardOp} {r : Booking × Bool} (h : r ∈ recorded w op) :
    booking w op = some r.1 := by
  obtain ⟨b, hb, rfl⟩ := Option.map_eq_some_iff.mp (Option.mem_toList.mp h)
  exact hb

/-- What an operation makes true of its booking, and every later operation keeps, is true of the
bookings in the end. -/
theorem forall_bookings {P : World → Booking → Prop} {C : SafeguardOp → Prop}
    (hbooking : ∀ w op b, C op → booking w op = some b → P (op.step w) b)
    (hkept : ∀ w op b, P w b → P (SafeguardOp.step w op) b) {ops : List SafeguardOp}
    (hops : ∀ op ∈ ops, C op) (w : World) :
    ∀ r ∈ bookings w ops, P (ops.foldl SafeguardOp.step w) r.1 := by
  have hrecord (w : World) (op : SafeguardOp) (hop : C op) :
      ∀ r ∈ recorded w op, P (op.step w) r.1 :=
    fun r hr => hbooking w op r.1 hop (mem_recorded hr)
  have hkeep (w : World) (op : SafeguardOp) (r : Booking × Bool) (h : P w r.1) :
      P (op.step w) r.1 :=
    hkept w op r.1 h
  exact Lib.forall_logged hrecord hkeep (.of_mem hops w)

/-- The liability of a booking stays stored as it is bound. -/
theorem bookings_kept (w : World) (ops : List SafeguardOp) : ∀ r ∈ bookings w ops,
    ∃ l ∈ (ops.foldl SafeguardOp.step w).paykhLoyaltyLiabilities.rows,
      l.binding = r.1.liability.binding := by
  have hstays (w : World) (op : SafeguardOp) (b : Booking)
      (h : ∃ l ∈ w.paykhLoyaltyLiabilities.rows, l.binding = b.liability.binding) :
      ∃ l ∈ (op.step w).paykhLoyaltyLiabilities.rows, l.binding = b.liability.binding :=
    (op.books w).kept.exists (P := fun columns => columns = b.liability.binding) h
  exact forall_bookings (C := fun _ => True)
    (fun w op b _ hb => hstays w op b ⟨b.liability, (booking_found hb).1, rfl⟩) hstays
    (fun _ _ => trivial) w

/-- The stablecoin account is kept for the liability alone. -/
def OwnAccount (w : World) (l : PaykhLoyaltyLiability) : Prop :=
  ∀ l' ∈ w.paykhLoyaltyLiabilities.rows, l'.InBooks l.tenantId l.pegCurrency ↔ l'.id = l.id

section

variable {w : World} {ops : List SafeguardOp} {l : PaykhLoyaltyLiability}

/-- On an account of its own, the liability is the one that is booked. -/
theorem OwnAccount.booked (h : OwnAccount (ops.foldl SafeguardOp.step w) l) {r : Booking × Bool}
    (hr : r ∈ bookings w ops) :
    r.1.liability.InBooks l.tenantId l.pegCurrency ↔ r.1.liability.id = l.id := by
  obtain ⟨a, ha, hbinding⟩ := bookings_kept w ops r hr
  simp only [PaykhLoyaltyLiability.binding, Prod.mk.injEq] at hbinding
  obtain ⟨hid, ⟨htenant, hpeg, -⟩, -⟩ := hbinding
  have halone := h a ha
  unfold PaykhLoyaltyLiability.InBooks at halone ⊢
  rwa [hid, htenant, hpeg] at halone

/-- The account of a run from its start is the tally of the liability's bookings. -/
theorem OwnAccount.loyaltyStablecoin (h : OwnAccount (ops.foldl SafeguardOp.step w) l)
    (hw : NoFunds w) :
    loyaltyStablecoin (ops.foldl SafeguardOp.step w) l.tenantId l.pegCurrency =
      Lib.tally (fun r => r.1.value) (fun r => decide (r.1.liability.id = l.id))
        (bookings w ops) := by
  rw [loyaltyStablecoin_run, hw.loyalty, zero_add]
  exact Lib.tally_congr fun _ hr => decide_eq_decide.mpr (h.booked hr)

/-- **What reconciling reports** is what is outstanding, and the bookings whose operations failed
after the entry was posted. -/
theorem reconcile_reports {gateway : IssuanceGateway} {clock : Clock} {r : ReconciledLoyalty}
    (hw : NoFunds w) (hl : l ∈ (ops.foldl SafeguardOp.step w).paykhLoyaltyLiabilities.rows)
    (hown : OwnAccount (ops.foldl SafeguardOp.step w) l)
    (h : ((reconcile gateway clock l.id).run (ops.foldl SafeguardOp.step w)).1 = .ok r) :
    r.ledgerOutstandingMinor = toString (l.outstandingMinor +
      Lib.tally (fun r => r.1.value) (fun r => decide (r.1.liability.id = l.id) && !r.2)
        (bookings w ops)) := by
  have hfound := Lib.Table.find?_key_of_mem hl
  obtain ⟨supply, -, hreported, -⟩ := reconcile_reads hfound h
  have hunbound : w.paykhLoyaltyLiabilities.find? l.id = none := by
    refine Lib.Table.find?_eq_none.mpr fun a ha => ?_
    rw [hw.liabilities] at ha
    cases ha
  have houtstanding : l.outstandingMinor = Lib.tally (fun r => r.1.value)
      (fun r => decide (r.1.liability.id = l.id) && r.2) (bookings w ops) := by
    have hrun := outstandingMinor_run l.id w ops
    unfold counterOf at hrun
    rwa [hfound, hunbound, Option.elim_some, Option.elim_none, zero_add] at hrun
  rw [hreported, hown.loyaltyStablecoin hw, Lib.tally_split fun r => r.2, ← houtstanding]

/-! ## What PayChain is asked for -/

/-- A request of the operation reaches PayChain. -/
def Configured : SafeguardOp → Prop
  | .loyalty (.issue gateway _ _ _) | .loyalty (.redeem gateway _ _ _ _) =>
    gateway.paychain.isSome = true
  | _ => True

/-- The booking is asked for, when its liability is bound to an asset: the request is for the amount
that is booked. -/
def Booking.AskedFor (b : Booking) : Prop :=
  ∀ assetCode destination, given b.liability.stellarAssetCode = some assetCode →
    given b.liability.stellarDistributor = some destination →
      ∃ req, b.request = some req ∧ req.assetCode = assetCode ∧ req.operation = b.operation ∧
        req.amountMinor = toString b.amount ∧ req.decimals = b.liability.decimals

theorem booking_askedFor {op : SafeguardOp} {b : Booking} (h : booking w op = some b)
    (hop : Configured op) : b.AskedFor := by
  intro assetCode destination hcode hdestination
  have hasked : ∃ req, b.request = some req := by
    match op with
    | .fund _ | .loyalty (.bind ..) | .loyalty (.reconcile ..) => cases h
    | .loyalty (.issue gateway uuid id input) =>
      obtain ⟨⟨l, n⟩, hbooks, rfl⟩ := Option.map_eq_some_iff.mp h
      obtain ⟨send, hsend⟩ := Option.isSome_iff_exists.mp hop
      exact ⟨_, asked_eq_some.mpr ⟨assetCode, destination, send, hcode, hdestination, hsend, rfl⟩⟩
    | .loyalty (.redeem gateway clock uuid id input) =>
      obtain ⟨⟨l, n⟩, hbooks, rfl⟩ := Option.map_eq_some_iff.mp h
      obtain ⟨send, hsend⟩ := Option.isSome_iff_exists.mp hop
      exact ⟨_, asked_eq_some.mpr ⟨assetCode, destination, send, hcode, hdestination, hsend, rfl⟩⟩
  obtain ⟨req, hreq⟩ := hasked
  obtain ⟨hasset, hrest⟩ := booking_request h hreq
  exact ⟨req, hreq, Option.some.inj (hasset.symm.trans hcode), hrest⟩

/-- **Every booking is asked for** while PayChain is configured, when the liability is bound to an
asset in the end. -/
theorem bookings_asked (hops : ∀ op ∈ ops, Configured op)
    (hl : l ∈ (ops.foldl SafeguardOp.step w).paykhLoyaltyLiabilities.rows)
    {assetCode destination : String} (hcode : given l.stellarAssetCode = some assetCode)
    (hdestination : given l.stellarDistributor = some destination) :
    ∀ r ∈ bookings w ops, r.1.liability.id = l.id → ∃ req, r.1.request = some req ∧
      req.assetCode = assetCode ∧ req.operation = r.1.operation ∧
        req.amountMinor = toString r.1.amount ∧ req.decimals = l.decimals := by
  intro r hr hid
  -- The liability was bound when it was booked as it is in the end.
  have hbinding : r.1.liability.binding = l.binding := by
    obtain ⟨a, ha, hbinding⟩ := bookings_kept w ops r hr
    have haid : a.id = l.id := (congrArg Prod.fst hbinding).trans hid
    have hfound := Lib.Table.find?_key_of_mem ha
    rw [haid, Lib.Table.find?_key_of_mem hl] at hfound
    rw [Option.some.inj hfound, hbinding]
  simp only [PaykhLoyaltyLiability.binding, Prod.mk.injEq] at hbinding
  obtain ⟨-, -, hdecimals, hasset, hdistributor⟩ := hbinding
  have hasked := forall_bookings (P := fun _ b => b.AskedFor)
    (fun _ _ _ hop hb => booking_askedFor hb hop) (fun _ _ _ h => h) hops w
  rw [← hdecimals]
  exact hasked r hr assetCode destination (hasset ▸ hcode) (hdistributor ▸ hdestination)

/-- **A PayChain that does what it is asked is not in drift**, whatever became of the operations
that asked. -/
theorem reconcile_asked {gateway : IssuanceGateway} {clock : Clock} {r : ReconciledLoyalty}
    (hw : NoFunds w) (hops : ∀ op ∈ ops, Configured op)
    (hl : l ∈ (ops.foldl SafeguardOp.step w).paykhLoyaltyLiabilities.rows)
    (hown : OwnAccount (ops.foldl SafeguardOp.step w) l) {assetCode destination : String}
    (hcode : given l.stellarAssetCode = some assetCode)
    (hdestination : given l.stellarDistributor = some destination)
    (hsupply : onChainSupply gateway l = .ok (some (Lib.tally (fun r => r.1.value)
      (fun r => decide (r.1.liability.id = l.id) && r.1.request.isSome) (bookings w ops))))
    (h : ((reconcile gateway clock l.id).run (ops.foldl SafeguardOp.step w)).1 = .ok r) :
    r.reconciliationStatus = "OK" := by
  obtain ⟨supply, hread, -, hstatus⟩ := reconcile_reads (Lib.Table.find?_key_of_mem hl) h
  obtain rfl := Except.ok.inj (hsupply.symm.trans hread)
  have hasked : ∀ r ∈ bookings w ops,
      (decide (r.1.liability.id = l.id) && r.1.request.isSome) =
        decide (r.1.liability.id = l.id) := by
    intro r hr
    by_cases hid : r.1.liability.id = l.id
    · obtain ⟨req, hreq, -⟩ := bookings_asked hops hl hcode hdestination r hr hid
      rw [hreq, Option.isSome_some, Bool.and_true]
    · rw [decide_eq_false hid, Bool.false_and]
  rw [hstatus, hown.loyaltyStablecoin hw, Lib.tally_congr hasked]
  unfold reconciliationStatusOf
  rw [Option.any_some, decide_eq_false (fun hne => hne rfl), if_neg Bool.false_ne_true]

end

end

end TrusteeBank
