import TrusteeBank.Paykh.LoyaltyBooks

/-!
# What reconciling a stablecoin compares

The ledger balance that `reconcile` reads is kept by tenant, account and currency, while a
liability belongs to a fund. The entries are in the upper-case currency, the balance is read in the
currency as it was given. So the balance of a liability is the sum of what is outstanding on the
tenant's liabilities whose upper-case currency is the liability's.

* `reconcile_reads`: the balance `reconcile` compares with the supply on chain;
* `compares_like_iff`: it is the liability's own amount, for every liability, exactly when what is
  outstanding is outstanding alone;
* `reconcile_compares_like`: which holds in every run that keeps it so;
* `reconcile_mixes`: a tenant with two funds in one currency is in drift without cause.
-/

set_option autoImplicit false

namespace TrusteeBank

open Lib (Call)
open LedgerAccountCode
open LoyaltyService hiding bind
open ReserveLedgerService (accountBalance)

section

variable [Runtime]

/-! ## What reconcile reads -/

/-- **The balance that is compared, and the verdict.** -/
theorem reconcile_reads {w : World} {gateway : IssuanceGateway} {clock : Clock}
    {liabilityId : String} {l : PaykhLoyaltyLiability} {r : ReconciledLoyalty}
    (hl : w.paykhLoyaltyLiabilities.find? liabilityId = some l)
    (h : ((reconcile gateway clock liabilityId).run w).1 = .ok r) :
    ∃ supply, onChainSupply gateway l = .ok supply ∧
      r.ledgerOutstandingMinor = toString (loyaltyStablecoin w l.tenantId l.pegCurrency) ∧
      r.reconciliationStatus =
        reconciliationStatusOf supply (loyaltyStablecoin w l.tenantId l.pegCurrency) := by
  have hbalance : (accountBalance l.tenantId liabilityPaykhLoyaltyStablecoin l.pegCurrency).run w =
      (.ok (money (loyaltyStablecoin w l.tenantId l.pegCurrency) l.pegCurrency), w) := by
    rw [run_accountBalance (t := .liability) rfl]
    simp [LedgerAccountType.debitPositive, loyaltyStablecoin]
  unfold reconcile at h
  rw [Call.run_bind, run_requireLiability, hl] at h
  simp only [orThrow] at h
  rw [Call.run_bind, Entity.run_findUnique] at h
  simp only at h
  rw [Call.run_bind, hbalance] at h
  simp only at h
  rw [Call.run_lift_bind] at h
  cases hsupply : onChainSupply gateway l with
  | error e =>
    rw [hsupply] at h
    cases h
  | ok supply =>
    rw [hsupply] at h
    simp only at h
    rw [Call.run_bind] at h
    set outstanding := (money (loyaltyStablecoin w l.tenantId l.pegCurrency) l.pegCurrency).minor
    rcases Entity.run_update_cases Prisma.paykhLoyaltyLiability
      (int8Columns [supply.getD outstanding]) l.id
      (PaykhLoyaltyLiability.asReconciled (supply.getD outstanding)
        (reconciliationStatusOf supply outstanding) (clock 0))
      (PaykhLoyaltyLiability.asReconciled_id (supply.getD outstanding)
        (reconciliationStatusOf supply outstanding) (clock 0)) w with
      ⟨e, hupdate⟩ | ⟨row, -, -, hupdate⟩
    · rw [hupdate] at h
      cases h
    · rw [hupdate] at h
      cases h
      exact ⟨supply, rfl, rfl, rfl⟩

/-! ## Liabilities that are read alone -/

/-- What is outstanding on a liability is read by its own reconciliation, and by no other. -/
def ReadAlone (w : World) (l : PaykhLoyaltyLiability) : Prop :=
  Runtime.toUpperCase l.pegCurrency = l.pegCurrency ∧
    ∀ l' ∈ w.paykhLoyaltyLiabilities.rows, l'.tenantId = l.tenantId →
      l'.pegCurrency = l.pegCurrency → l'.id = l.id

/-- Whatever is outstanding is read alone. -/
def Apart (w : World) : Prop :=
  ∀ l ∈ w.paykhLoyaltyLiabilities.rows, l.outstandingMinor ≠ 0 → ReadAlone w l

theorem NoFunds.apart {w : World} (hw : NoFunds w) : Apart w := by
  intro l hl
  rw [hw.liabilities] at hl
  cases hl

/-- The sum of what a reconciliation reads is what is outstanding on the liability. -/
theorem Apart.liabilitySum {w : World} (h : Apart w) {l : PaykhLoyaltyLiability}
    (hl : l ∈ w.paykhLoyaltyLiabilities.rows) :
    liabilitySum w (·.outstandingMinor) l.tenantId l.pegCurrency = l.outstandingMinor := by
  have hothers : ∀ a ∈ w.paykhLoyaltyLiabilities.rows, a.id ≠ l.id →
      (if a.InBooks l.tenantId l.pegCurrency then a.outstandingMinor else 0) = 0 := by
    intro a ha hne
    split_ifs with hbooks
    · by_contra houtstanding
      obtain ⟨hupper, halone⟩ := h a ha houtstanding
      exact hne (halone l hl hbooks.1.symm (hbooks.2.symm.trans hupper)).symm
    · rfl
  have hown : (if l.InBooks l.tenantId l.pegCurrency then l.outstandingMinor else 0) =
      l.outstandingMinor := by
    split_ifs with hbooks
    · rfl
    · by_contra houtstanding
      exact hbooks ⟨rfl, (h l hl (Ne.symm houtstanding)).1⟩
  have hsum := Lib.Table.sum_congr_off (Lib.Table.find?_key_of_mem hl) (g := fun _ => (0 : Int))
    hothers
  unfold TrusteeBank.liabilitySum
  rw [hsum, hown]
  simp [Lib.Table.sum]

/-- **The balances compared are the liabilities' own exactly when they are read alone.** -/
theorem compares_like_iff {w : World} (hbooks : LoyaltyBooks w) :
    (∀ l ∈ w.paykhLoyaltyLiabilities.rows,
      loyaltyStablecoin w l.tenantId l.pegCurrency = l.outstandingMinor) ↔ Apart w := by
  constructor
  · intro h l hl houtstanding
    have hupper : Runtime.toUpperCase l.pegCurrency = l.pegCurrency := by
      by_contra hlower
      have hread := h l hl
      unfold loyaltyStablecoin at hread
      rw [ledgerNet_of_not_upper hlower, neg_zero] at hread
      exact houtstanding hread.symm
    refine ⟨hupper, fun l' hl' htenant hpeg => ?_⟩
    by_contra hne
    -- Both are in the balance that is read for either.
    let booked : PaykhLoyaltyLiability → Int :=
      fun a => if a.InBooks l.tenantId l.pegCurrency then a.outstandingMinor else 0
    let own : PaykhLoyaltyLiability → Int := fun a => if a.id = l.id then booked a else 0
    have hbooked : booked l = l.outstandingMinor := if_pos ⟨rfl, hupper⟩
    have hbooked' : booked l' = l'.outstandingMinor :=
      if_pos ⟨htenant, (congrArg Runtime.toUpperCase hpeg).trans hupper⟩
    have hread : w.paykhLoyaltyLiabilities.sum booked = l.outstandingMinor :=
      (hbooks.loyalty l.tenantId l.pegCurrency).symm.trans (h l hl)
    have hread' : w.paykhLoyaltyLiabilities.sum booked = l'.outstandingMinor := by
      rw [← h l' hl', htenant, hpeg]
      exact (hbooks.loyalty l.tenantId l.pegCurrency).symm
    have hown : w.paykhLoyaltyLiabilities.sum own = l.outstandingMinor := by
      rw [Lib.Table.sum_congr_off (Lib.Table.find?_key_of_mem hl) (g := fun _ => (0 : Int))
        fun a _ ha => if_neg ha]
      simp [Lib.Table.sum, hbooked]
    have hle : ∀ a ∈ w.paykhLoyaltyLiabilities.rows, own a ≤ booked a := by
      intro a ha
      have hnonneg : 0 ≤ booked a := by
        by_cases hscope : a.InBooks l.tenantId l.pegCurrency
        · exact (hbooks.liabilities a ha).nonneg.trans_eq (if_pos hscope).symm
        · exact (if_neg hscope).ge
      by_cases hid : a.id = l.id
      · exact (if_pos hid).le
      · exact (if_neg hid).trans_le hnonneg
    have hpart := Lib.Table.sum_sub_le_sum_sub hl' hle
    rw [hread, hown, hbooked', show own l' = 0 from if_neg hne] at hpart
    have hnonneg := (hbooks.liabilities l hl).nonneg
    omega
  · intro h l hl
    rw [hbooks.loyalty]
    exact h.liabilitySum hl

/-! ## Operations that keep what is outstanding apart -/

/-- A new liability reads nothing of another, and an issuance is on a liability that is read
alone. -/
def KeepsApart (w : World) : SafeguardOp → Prop
  | .loyalty (.bind input _) => ∀ fund, w.paykhProgramFunds.find? input.programFundId = some fund →
    ∀ l ∈ w.paykhLoyaltyLiabilities.rows, l.tenantId = fund.tenantId →
      Runtime.toUpperCase l.pegCurrency = fund.currency → l.outstandingMinor = 0
  | .loyalty (.issue _ _ _ input) => ∀ l,
    w.paykhLoyaltyLiabilities.find? input.liabilityId = some l → ReadAlone w l
  | _ => True

/-- The row's columns that say what reads it. -/
def PaykhLoyaltyLiability.scope (l : PaykhLoyaltyLiability) : String × String × String :=
  (l.id, l.tenantId, l.pegCurrency)

/-- Being read alone is a matter of identifiers, tenants and currencies. -/
theorem ReadAlone.congr {w w' : World} {l l' : PaykhLoyaltyLiability} (h : ReadAlone w l)
    (hscope : l'.scope = l.scope)
    (hrows : Lib.Table.ColumnsFrom PaykhLoyaltyLiability.scope w.paykhLoyaltyLiabilities
      w'.paykhLoyaltyLiabilities) : ReadAlone w' l' := by
  simp only [PaykhLoyaltyLiability.scope, Prod.mk.injEq] at hscope
  obtain ⟨hid, htenant, hpeg⟩ := hscope
  refine ⟨by rw [hpeg]; exact h.1, fun r hr hrtenant hrpeg => ?_⟩
  obtain ⟨a, ha, hcolumns⟩ := hrows r hr
  simp only [PaykhLoyaltyLiability.scope, Prod.mk.injEq] at hcolumns
  obtain ⟨haid, hatenant, hapeg⟩ := hcolumns
  rw [← haid, hid]
  exact h.2 a ha (by rw [hatenant, hrtenant, htenant]) (by rw [hapeg, hrpeg, hpeg])

/-- A liability is rewritten: what is outstanding on it afterwards is read alone. -/
theorem Apart.update {w : World} (h : Apart w) {liability : PaykhLoyaltyLiability}
    (hliability : w.paykhLoyaltyLiabilities.find? liability.id = some liability)
    {f : PaykhLoyaltyLiability → PaykhLoyaltyLiability} (hf : ∀ l, (f l).id = l.id)
    (hscope : ∀ l, (f l).scope = l.scope)
    (halone : (f liability).outstandingMinor ≠ 0 → ReadAlone w liability) :
    Apart (w.updateLiability liability.id f hf) := by
  have hrows : Lib.Table.ColumnsFrom PaykhLoyaltyLiability.scope w.paykhLoyaltyLiabilities
      (w.updateLiability liability.id f hf).paykhLoyaltyLiabilities :=
    Lib.Table.columnsFrom_modify hf hscope
  refine Lib.Table.forall_modify hf ?_ hliability ?_
  · intro l hl houtstanding
    exact (h l hl houtstanding).congr rfl hrows
  · intro houtstanding
    exact (halone houtstanding).congr (hscope liability) hrows

theorem Apart.loyalty {w w₁ : World} {op : LoyaltyOp} (h : Apart w)
    (hkeeps : KeepsApart w (.loyalty op)) (heffect : LoyaltyEffect w op w₁) : Apart w₁ := by
  cases heffect with
  | unchanged => exact h
  | @bound input id fund denominationMinor t hfund hrequired hfree ht =>
    have hrows := (Lib.Table.insert?_eq_some ht).1
    refine Lib.Table.forall_insert? ?_ ht fun houtstanding => absurd rfl houtstanding
    intro l hl houtstanding
    obtain ⟨hupper, halone⟩ := h l hl houtstanding
    refine ⟨hupper, fun l' hl' htenant hpeg => ?_⟩
    rcases List.mem_append.mp (hrows ▸ hl') with hold | hnew
    · exact halone l' hold htenant hpeg
    · -- The new liability would read what is outstanding on `l`.
      obtain rfl := List.mem_singleton.mp hnew
      exact absurd (hkeeps fund hfund l hl htenant.symm (hupper.trans hpeg.symm)) houtstanding
  | issueBooked hchecks he hfails => exact h
  | @issued gateway uuid id input liability fund amount e row t hchecks he hfits hrow ht =>
    exact h.update (Lib.Table.find?_key_of_mem (Lib.Table.mem_of_find? hchecks.found))
      (PaykhLoyaltyLiability.asIssued_id (liability.outstandingMinor + amount.minor)
        (liability.issuedTotalMinor + amount.minor)) (fun _ => rfl)
      fun _ => hkeeps liability hchecks.found
  | redeemBooked hchecks he hfails => exact h
  | @redeemed gateway clock uuid id input liability amount e row t hchecks he hfits hrow ht _ =>
    have hpositive := hchecks.positive
    have hle := hchecks.outstanding
    exact h.update (Lib.Table.find?_key_of_mem (Lib.Table.mem_of_find? hchecks.found))
      (PaykhLoyaltyLiability.asRedeemed_id (liability.outstandingMinor - amount.minor)
        (liability.redeemedTotalMinor + amount.minor)) (fun _ => rfl)
      fun _ => h liability (Lib.Table.mem_of_find? hchecks.found) (by omega)
  | @reconciled gateway clock liabilityId liability supply status hliability =>
    exact h.update (Lib.Table.find?_key_of_mem (Lib.Table.mem_of_find? hliability))
      (PaykhLoyaltyLiability.asReconciled_id supply status (clock 0)) (fun _ => rfl)
      fun houtstanding => h liability (Lib.Table.mem_of_find? hliability) houtstanding

theorem Apart.logged {w : World} (h : Apart w) (rows : List AuditLog)
    (events : List OutboxEvent) : Apart (w.logged rows events) := h

theorem Apart.step {w : World} (h : Apart w) {op : SafeguardOp} (hkeeps : KeepsApart w op) :
    Apart (SafeguardOp.step w op) := by
  cases op with
  | fund op =>
    refine after_effect (op.effect w) (fun _ heffect => ?_) .logged
    cases heffect <;> exact h
  | loyalty op =>
    exact after_effect (op.effect w) (fun _ heffect => h.loyalty hkeeps heffect) .logged

/-! ## Successful operations -/

/-- The operation succeeds. -/
def Succeeds (w : World) : SafeguardOp → Prop
  | .fund op => (op.call.run w).1 = .ok ()
  | .loyalty op => (op.call.run w).1 = .ok ()

instance Succeeds.decidable (w : World) : (op : SafeguardOp) → Decidable (Succeeds w op)
  | .fund _ => inferInstanceAs (Decidable (_ = _))
  | .loyalty _ => inferInstanceAs (Decidable (_ = _))

/-- The checks determine what is issued. -/
theorem IssueChecks.unique {w : World} {input : IssueLoyaltyInput}
    {l l' : PaykhLoyaltyLiability} {f f' : PaykhProgramFund} {amount amount' : Money}
    (h : IssueChecks w input l f amount) (h' : IssueChecks w input l' f' amount') :
    l' = l ∧ f' = f ∧ amount' = amount := by
  obtain rfl : l' = l := Option.some.inj (h'.found.symm.trans h.found)
  obtain ⟨units, hresolved⟩ := h.resolved
  obtain ⟨units', hresolved'⟩ := h'.resolved
  have hsame := Except.ok.inj (hresolved'.symm.trans hresolved)
  exact ⟨rfl, Option.some.inj (h'.backed.symm.trans h.backed), congrArg Prod.fst hsame⟩

/-- The checks determine what is redeemed. -/
theorem RedeemChecks.unique {w : World} {input : RedeemLoyaltyInput}
    {l l' : PaykhLoyaltyLiability} {amount amount' : Money} (h : RedeemChecks w input l amount)
    (h' : RedeemChecks w input l' amount') : l' = l ∧ amount' = amount := by
  obtain rfl : l' = l := Option.some.inj (h'.found.symm.trans h.found)
  obtain ⟨units, hresolved⟩ := h.resolved
  obtain ⟨units', hresolved'⟩ := h'.resolved
  have hsame := Except.ok.inj (hresolved'.symm.trans hresolved)
  exact ⟨rfl, congrArg Prod.fst hsame⟩

/-- A fund that is funded counts it. -/
theorem fund_fits {w : World} {fundId amountMinor actor : String}
    (h : ∃ r, ((ProgramFundsService.fund fundId amountMinor actor).run w).1 = .ok r)
    {fund : PaykhProgramFund} {amount : Int} (hfund : w.paykhProgramFunds.find? fundId = some fund)
    (hamount : bigInt amountMinor = .ok amount) : FitsInt8 (fund.fundedMinor + amount) := by
  obtain ⟨r, h⟩ := h
  unfold ProgramFundsService.fund at h
  rw [Call.run_bind, run_requireFund, hfund] at h
  simp only [orThrow] at h
  rw [Call.run_lift_bind, hamount] at h
  simp only at h
  rw [Call.run_throwIf_bind] at h
  split_ifs at h with hpositive
  simp only [money_minor] at h
  rw [Call.run_lift_bind] at h
  cases hrequired : requiresFiatBacking fund.classification with
  | error e =>
    rw [hrequired] at h
    cases h
  | ok required =>
    rw [hrequired] at h
    simp only at h
    rw [Call.run_bind] at h
    rcases run_safeguard w hrequired fundId actor amount with
      ⟨e, hsafe⟩ | ⟨entries, -, -, hsafe⟩
    · rw [hsafe] at h
      cases h
    · rw [hsafe] at h
      simp only at h
      rw [Call.run_bind] at h
      rcases run_updateFund (w := w.postedAll entries) hfund
        (fund.fundedMinor + amount) (PaykhProgramFund.withFunded (fund.fundedMinor + amount))
        (PaykhProgramFund.withFunded_id (fund.fundedMinor + amount)) with
        ⟨hoverflow, e, hupdate⟩ | ⟨hfits, -⟩
      · rw [hupdate] at h
        cases h
      · exact hfits

/-- An operation that succeeds was answered, and its counters and identifiers were accepted. -/
theorem Succeeds.accepted {w : World} {op : SafeguardOp} (h : Succeeds w op) :
    (ChainAnswers w op ∧ FreshIds w op) ∧ CountersFit w op := by
  match op with
  | .fund (.fund fundId amountMinor actor) =>
    refine ⟨⟨trivial, trivial⟩, fun fund amount hfund _ hamount _ _ => ?_⟩
    exact fund_fits (Call.void_ok h) hfund hamount
  | .fund (.create ..) | .fund (.reserve ..) | .fund (.release ..) | .loyalty (.bind ..)
  | .loyalty (.reconcile ..) => exact ⟨⟨trivial, trivial⟩, trivial⟩
  | .loyalty (.issue gateway uuid id input) =>
    obtain ⟨issued, hissued⟩ := Call.void_ok h
    rcases run_issue_checked w gateway uuid id input with ⟨err, herr⟩ | ⟨l, f, amount, hchecks⟩
    · rw [herr] at hissued
      cases hissued
    · obtain ⟨e, he, houtcome⟩ := run_issue_of hchecks gateway uuid id
      generalize (LoyaltyService.issue gateway uuid id input).run w = result at houtcome hissued
      cases houtcome with
      | failed hfails => cases hissued
      | @counted _ _ row t _ _ hchain hfits hrow ht htexts =>
        refine ⟨⟨fun l' f' amount' h' => ?_, ?_⟩, fun l' f' amount' h' => ?_⟩
        · obtain ⟨rfl, rfl, rfl⟩ := hchecks.unique h'
          rintro ⟨err, herr⟩
          cases hchain.symm.trans herr
        · intro r hr
          rw [← hrow.1]
          exact Lib.Table.find?_eq_none.mp (Lib.Table.insert?_eq_some ht).2 r hr
        · obtain ⟨rfl, rfl, rfl⟩ := hchecks.unique h'
          exact ⟨hfits.2.2, not_textRefused_of hchain htexts⟩
  | .loyalty (.redeem gateway clock uuid id input) =>
    obtain ⟨redeemed, hredeemed⟩ := Call.void_ok h
    rcases run_redeem_checked w gateway clock uuid id input with
      ⟨err, herr⟩ | ⟨l, amount, hchecks⟩
    · rw [herr] at hredeemed
      cases hredeemed
    · obtain ⟨e, he, houtcome⟩ := run_redeem_of hchecks gateway clock uuid id
      generalize (LoyaltyService.redeem gateway clock uuid id input).run w = result
        at houtcome hredeemed
      cases houtcome with
      | failed hfails => cases hredeemed
      | @counted _ _ row t _ _ hchain hfits hrow hnames ht htexts =>
        refine ⟨⟨fun l' amount' h' => ?_, ?_⟩, fun l' amount' h' => ?_⟩
        · obtain ⟨rfl, rfl⟩ := hchecks.unique h'
          rintro ⟨err, herr⟩
          cases hchain.symm.trans herr
        · intro r hr
          rw [← hrow]
          exact Lib.Table.find?_eq_none.mp (Lib.Table.insert?_eq_some ht).2 r hr
        · obtain ⟨rfl, rfl⟩ := hchecks.unique h'
          exact not_textRefused_of hchain htexts

/-! ## Every run -/

/-- Reconciling a liability compares the supply on chain with what is outstanding on it. -/
def ComparesLike (w : World) (l : PaykhLoyaltyLiability) : Prop :=
  ∀ gateway clock r, ((reconcile gateway clock l.id).run w).1 = .ok r →
    r.ledgerOutstandingMinor = toString l.outstandingMinor ∧
      ∀ n, onChainSupply gateway l = .ok (some n) →
        (r.reconciliationStatus = "OK" ↔ n = l.outstandingMinor)

theorem comparesLike_of_read {w : World} {l : PaykhLoyaltyLiability}
    (hl : l ∈ w.paykhLoyaltyLiabilities.rows)
    (hread : loyaltyStablecoin w l.tenantId l.pegCurrency = l.outstandingMinor) :
    ComparesLike w l := by
  intro gateway clock r hr
  obtain ⟨supply, hsupply, hledger, hstatus⟩ :=
    reconcile_reads (Lib.Table.find?_key_of_mem hl) hr
  rw [hread] at hledger hstatus
  refine ⟨hledger, fun n hn => ?_⟩
  obtain rfl := Except.ok.inj (hsupply.symm.trans hn)
  rw [hstatus]
  unfold reconciliationStatusOf
  by_cases hsame : n = l.outstandingMinor
  · simp [hsame]
  · simp [hsame]

/-- Every liability is compared with its own supply. -/
def AllCompareLike (w : World) : Prop :=
  ∀ l ∈ w.paykhLoyaltyLiabilities.rows, ComparesLike w l

/-- **Every liability is compared with its own supply, in every state reached.** -/
theorem reconcile_compares_like {w : World} (hw : NoFunds w) (ops : List SafeguardOp)
    (hsucceed : Lib.Meets SafeguardOp.step Succeeds w ops)
    (hapart : Lib.Meets SafeguardOp.step KeepsApart w ops) :
    AllCompareLike (ops.foldl SafeguardOp.step w) := by
  have hbooks : LoyaltyBooks (ops.foldl SafeguardOp.step w) :=
    Lib.inv_run (fun _ _ h hop => h.step hop) hw.books
      (hsucceed.mono fun _ _ h => h.accepted)
  have hfinal : Apart (ops.foldl SafeguardOp.step w) :=
    Lib.inv_run (fun _ _ h hop => h.step hop) hw.apart hapart
  intro l hl
  exact comparesLike_of_read hl ((compares_like_iff hbooks).mpr hfinal l hl)

end

/-! ## One fund, and two funds in one currency -/

attribute [local instance] Runtime.ascii

namespace Sample

/-- A second fund of the tenant. -/
def createOtherFund : SafeguardOp :=
  .fund (.create
    { tenantId := "tenant-1", paykhProgramId := "PP2", classification := "BACKED_LOYALTY_STABLECOIN"
      currency := "USD", reserveAccountId := "T1", actor := "tenant" } "F2")

def bindOtherFund : SafeguardOp :=
  .loyalty (.bind
    { programFundId := "F2", decimals := none, denominationMinor := none
      stellarAssetCode := none, stellarIssuer := none, stellarDistributor := none
      actor := "tenant" } "L2")

/-- 60 are issued on one of the two stablecoins. -/
def issuedBeside : List SafeguardOp :=
  [createFund, createOtherFund, fundWith "100", bindFund, bindOtherFund, issueLoyalty "I1" "60"]

theorem issued60_apart : Lib.Meets SafeguardOp.step KeepsApart loyaltyWorld issued60 := by
  have hnone : ([createFund, fundWith "100"].foldl SafeguardOp.step
      loyaltyWorld).paykhLoyaltyLiabilities.rows.length = 0 := by
    decide +kernel
  have hone : ([createFund, fundWith "100", bindFund].foldl SafeguardOp.step
      loyaltyWorld).paykhLoyaltyLiabilities.rows.map PaykhLoyaltyLiability.scope =
        [("L1", "tenant-1", "USD")] := by
    decide +kernel
  refine ⟨trivial, trivial, ?_, ?_, trivial⟩
  · intro fund hfund l hl
    exact absurd (List.length_pos_of_mem hl) (Nat.not_lt.mpr hnone.le)
  · intro l hl
    have hscope (a : PaykhLoyaltyLiability) (ha : a ∈ ([createFund, fundWith "100",
        bindFund].foldl SafeguardOp.step loyaltyWorld).paykhLoyaltyLiabilities.rows) :
        a.scope = ("L1", "tenant-1", "USD") := by
      have hmem := List.mem_map_of_mem (f := PaykhLoyaltyLiability.scope) ha
      rw [hone] at hmem
      exact List.mem_singleton.mp hmem
    have hl := hscope l (Lib.Table.mem_of_find? hl)
    simp only [PaykhLoyaltyLiability.scope, Prod.mk.injEq] at hl hscope
    refine ⟨by rw [hl.2.2]; decide, fun a ha _ _ => ?_⟩
    rw [(hscope a ha).1, hl.1]

end Sample

/-- The 60 issued are what reconciling compares. -/
theorem reconcile_compares_like_issued :
    AllCompareLike (Sample.issued60.foldl SafeguardOp.step Sample.loyaltyWorld) :=
  reconcile_compares_like Sample.noFunds Sample.issued60 (by decide +kernel) Sample.issued60_apart

/-- The stablecoin on which nothing is issued is compared with 60. -/
theorem reconcile_mixes : ¬∀ [Runtime] (w : World), NoFunds w → ∀ ops : List SafeguardOp,
    Lib.Meets SafeguardOp.step Succeeds w ops →
    AllCompareLike (ops.foldl SafeguardOp.step w) := by
  intro h
  have hlike := h Sample.loyaltyWorld Sample.noFunds Sample.issuedBeside (by decide +kernel)
  have hread : ((reconcile Sample.unconfigured Sample.clock "L2").run (Sample.issuedBeside.foldl
      SafeguardOp.step Sample.loyaltyWorld)).1.toOption.map
        ReconciledLoyalty.ledgerOutstandingMinor = some "60" := by
    decide +kernel
  have hnothing : ((Sample.issuedBeside.foldl SafeguardOp.step
      Sample.loyaltyWorld).paykhLoyaltyLiabilities.find? "L2").map
        PaykhLoyaltyLiability.outstandingMinor = some 0 := by
    decide +kernel
  obtain ⟨r, hr, h60⟩ := toOption_map_eq_some.mp hread
  obtain ⟨l, hl, h0⟩ := Option.map_eq_some_iff.mp hnothing
  have hid : l.id = "L2" := Lib.Table.key_of_find? hl
  obtain ⟨hledger, -⟩ := hlike l (Lib.Table.mem_of_find? hl) Sample.unconfigured Sample.clock r
    (hid ▸ hr)
  rw [h60, h0] at hledger
  exact absurd hledger (by decide)

end TrusteeBank
