import TrusteeBank.Lib.Run
import TrusteeBank.Services.LoyaltyEffects
import TrusteeBank.Services.Mint

/-!
# The books of program funds and loyalty stablecoins

The counters of the funds and the liabilities say what the ledger holds for them: the stablecoin
account is the sum outstanding, and the program-fund account is what was funded with fiat and not
issued. An operation posts first and counts afterwards, so this needs that the counters can be
stored, and the texts that are stored with them.

**Theorem (`loyalty_books`).** In every run of fund and loyalty operations in which no request to
PayChain fails, row identifiers are fresh, no counter leaves the range of its column and no text
stored with them holds U+0000, the counters agree with the ledger in every state reached.
-/

set_option autoImplicit false

namespace TrusteeBank

open LedgerAccountCode LoyaltyService ProgramFundsService

section

variable [Runtime]

/-! ## Operations -/

/-- The operations on program funds and their stablecoins. -/
inductive SafeguardOp
  | fund (op : FundOp)
  | loyalty (op : LoyaltyOp)

/-- Serve one operation alone, whether it succeeds or throws. -/
def SafeguardOp.step (w : World) : SafeguardOp → World
  | .fund op => op.step w
  | .loyalty op => op.step w

/-- No request the operation makes to PayChain fails. -/
def ChainAnswers (w : World) : SafeguardOp → Prop
  | .loyalty (.issue gateway uuid _ input) => ∀ liability fund amount,
    IssueChecks w input liability fund amount →
      ¬ChainFails gateway uuid .issue liability amount.minor
  | .loyalty (.redeem gateway _ uuid _ input) => ∀ liability amount,
    RedeemChecks w input liability amount →
      ¬ChainFails gateway uuid .burn liability amount.minor
  | _ => True

/-- Without a configured PayChain every request is accepted. -/
theorem authorizeOnChain_unconfigured {gateway : IssuanceGateway} (h : gateway.paychain = none)
    (uuid : String) (operation : IssuanceOperation) (liability : PaykhLoyaltyLiability)
    (amountMinor : String) :
    ∃ chain, authorizeOnChain gateway uuid operation liability amountMinor = .ok chain ∧
      chain.status ≠ "ONCHAIN_FAILED" := by
  have hsimulated : "ONCHAIN_SIMULATED" ≠ "ONCHAIN_FAILED" := by decide
  have hoffchain : "OFFCHAIN" ≠ "ONCHAIN_FAILED" := by decide
  unfold authorizeOnChain IssuanceGatewayService.execute
  rw [h]
  split
  · exact ⟨_, rfl, hsimulated⟩
  · exact ⟨_, rfl, hoffchain⟩

theorem not_chainFails {gateway : IssuanceGateway} (h : gateway.paychain = none) (uuid : String)
    (operation : IssuanceOperation) (liability : PaykhLoyaltyLiability) (amount : Int) :
    ¬ChainFails gateway uuid operation liability amount := by
  rintro ⟨e, he⟩
  obtain ⟨chain, hchain, -⟩ := authorizeOnChain_unconfigured h uuid operation liability
    (toString amount)
  cases he.symm.trans hchain

/-- PayChain answered, and every text can be stored. -/
theorem not_textRefused_of {gateway : IssuanceGateway} {uuid : String}
    {operation : IssuanceOperation} {liability : PaykhLoyaltyLiability} {amount : Int}
    {customerRef : String} {chain : ChainResult}
    (hchain : authorizeOnChain gateway uuid operation liability (toString amount) = .ok chain)
    (htexts : ∀ t ∈ customerRef :: chain.texts, FitsText t) :
    ¬TextRefused gateway uuid operation liability amount customerRef := by
  rintro ⟨chain', hchain', t, ht, hunfit⟩
  cases hchain.symm.trans hchain'
  exact hunfit (htexts t ht)

/-- A liability without an asset stays off chain: only the customer's text can be refused. -/
theorem not_textRefused {liability : PaykhLoyaltyLiability} (h : liability.stellarAssetCode = none)
    (gateway : IssuanceGateway) (uuid : String) (operation : IssuanceOperation) (amount : Int)
    {customerRef : String} (hcustomer : FitsText customerRef) :
    ¬TextRefused gateway uuid operation liability amount customerRef := by
  have hoffchain : authorizeOnChain gateway uuid operation liability (toString amount) =
      .ok ⟨"OFFCHAIN", "offchain", none, none⟩ := by
    unfold authorizeOnChain
    rw [h]
    rfl
  exact not_textRefused_of hoffchain fun t ht => List.mem_singleton.mp ht ▸ hcustomer

/-- The identifier generated for an issuance or a redemption is not in use. -/
def FreshIds (w : World) : SafeguardOp → Prop
  | .loyalty (.issue _ _ id _) => ∀ r ∈ w.paykhLoyaltyIssuances.rows, r.id ≠ id
  | .loyalty (.redeem _ _ _ id _) => ∀ r ∈ w.paykhLoyaltyRedemptions.rows, r.id ≠ id
  | _ => True

/-- A fiat-backed fund can count what it is funded with, and a liability what it issues; and the
texts of an issuance or a redemption, the customer's and those of PayChain, can be stored. -/
def CountersFit (w : World) : SafeguardOp → Prop
  | .fund (.fund fundId amountMinor _) => ∀ fund amount,
    w.paykhProgramFunds.find? fundId = some fund →
    requiresFiatBacking fund.classification = .ok true → bigInt amountMinor = .ok amount →
    0 < amount → FitsInt8 amount → FitsInt8 (fund.fundedMinor + amount)
  | .loyalty (.issue gateway uuid _ input) => ∀ liability fund amount,
    IssueChecks w input liability fund amount →
      FitsInt8 (liability.issuedTotalMinor + amount.minor) ∧
        ¬TextRefused gateway uuid .issue liability amount.minor input.customerRef
  | .loyalty (.redeem gateway _ uuid _ input) => ∀ liability amount,
    RedeemChecks w input liability amount →
      ¬TextRefused gateway uuid .burn liability amount.minor input.customerRef
  | _ => True

/-! ## Sums and accounts -/

/-- The liability is of a tenant, and its entries are in a currency. -/
def PaykhLoyaltyLiability.InBooks (l : PaykhLoyaltyLiability) (tenantId c : String) : Prop :=
  l.tenantId = tenantId ∧ Runtime.toUpperCase l.pegCurrency = c

instance PaykhLoyaltyLiability.decidableInBooks (l : PaykhLoyaltyLiability)
    (tenantId c : String) : Decidable (l.InBooks tenantId c) :=
  inferInstanceAs (Decidable (_ ∧ _))

/-- The fund is of a tenant and fiat-backed, and its entries are in a currency. -/
def PaykhProgramFund.InBooks (f : PaykhProgramFund) (tenantId c : String) : Prop :=
  (f.tenantId = tenantId ∧ Runtime.toUpperCase f.currency = c) ∧
    requiresFiatBacking f.classification = .ok true

instance PaykhProgramFund.decidableInBooks (f : PaykhProgramFund) (tenantId c : String) :
    Decidable (f.InBooks tenantId c) :=
  inferInstanceAs (Decidable (_ ∧ _))

/-- The sum of a counter over the liabilities of a tenant in a currency. -/
def liabilitySum (w : World) (counter : PaykhLoyaltyLiability → Int) (tenantId c : String) : Int :=
  w.paykhLoyaltyLiabilities.sum fun l => if l.InBooks tenantId c then counter l else 0

/-- The sum of what the fiat-backed funds of a tenant in a currency were funded with. -/
def fundedSum (w : World) (tenantId c : String) : Int :=
  w.paykhProgramFunds.sum fun f => if f.InBooks tenantId c then f.fundedMinor else 0

/-- The balance of the loyalty stablecoin account. -/
def loyaltyStablecoin (w : World) (tenantId c : String) : Int :=
  -ledgerNet w.ledger tenantId c liabilityPaykhLoyaltyStablecoin

/-- The balance of the program fund account. -/
def programFundLiability (w : World) (tenantId c : String) : Int :=
  -ledgerNet w.ledger tenantId c liabilityPaykhProgramFund

/-- The counters of a state agree with its ledger and with each other. -/
structure CountersAgree (w : World) : Prop where
  loyalty : ∀ tenantId c,
    loyaltyStablecoin w tenantId c = liabilitySum w (·.outstandingMinor) tenantId c
  programFund : ∀ tenantId c, programFundLiability w tenantId c =
    fundedSum w tenantId c - liabilitySum w (·.issuedTotalMinor) tenantId c
  outstanding : ∀ l ∈ w.paykhLoyaltyLiabilities.rows,
    l.outstandingMinor = l.issuedTotalMinor - l.redeemedTotalMinor ∧ 0 ≤ l.outstandingMinor

/-- No fund and no liability is stored or booked. -/
structure NoFunds (w : World) : Prop where
  funds : w.paykhProgramFunds.rows = []
  liabilities : w.paykhLoyaltyLiabilities.rows = []
  loyalty : ∀ tenantId c, loyaltyStablecoin w tenantId c = 0
  programFund : ∀ tenantId c, programFundLiability w tenantId c = 0

/-! ## The invariant -/

/-- The counters of a liability agree with each other, and the column holds what was issued. -/
structure PaykhLoyaltyLiability.Counted (l : PaykhLoyaltyLiability) : Prop where
  outstanding : l.outstandingMinor = l.issuedTotalMinor - l.redeemedTotalMinor
  nonneg : 0 ≤ l.outstandingMinor
  redeemed_nonneg : 0 ≤ l.redeemedTotalMinor
  issued_fits : FitsInt8 l.issuedTotalMinor

/-- The counters of a fund are in their columns. -/
def PaykhProgramFund.Counted (f : PaykhProgramFund) : Prop :=
  FitsInt8 f.fundedMinor ∧ FitsInt8 f.reservedMinor

/-- The books of a state agree with its counters. -/
structure LoyaltyBooks (w : World) : Prop where
  loyalty : ∀ tenantId c,
    loyaltyStablecoin w tenantId c = liabilitySum w (·.outstandingMinor) tenantId c
  programFund : ∀ tenantId c, programFundLiability w tenantId c =
    fundedSum w tenantId c - liabilitySum w (·.issuedTotalMinor) tenantId c
  liabilities : ∀ l ∈ w.paykhLoyaltyLiabilities.rows, l.Counted
  funds : ∀ f ∈ w.paykhProgramFunds.rows, f.Counted

theorem NoFunds.books {w : World} (hw : NoFunds w) : LoyaltyBooks w where
  loyalty tenantId c := by
    simp [hw.loyalty, liabilitySum, Lib.Table.sum, hw.liabilities]
  programFund tenantId c := by
    simp [hw.programFund, liabilitySum, fundedSum, Lib.Table.sum, hw.liabilities, hw.funds]
  liabilities l hl := by simp [hw.liabilities] at hl
  funds f hf := by simp [hw.funds] at hf

theorem loyaltyStablecoin_postedAll (w : World) (entries : List JournalEntry)
    (tenantId c : String) : loyaltyStablecoin (w.postedAll entries) tenantId c =
      loyaltyStablecoin w tenantId c -
        ledgerNet entries tenantId c liabilityPaykhLoyaltyStablecoin := by
  unfold loyaltyStablecoin World.postedAll
  rw [ledgerNet_append]
  ring

theorem programFundLiability_postedAll (w : World) (entries : List JournalEntry)
    (tenantId c : String) : programFundLiability (w.postedAll entries) tenantId c =
      programFundLiability w tenantId c -
        ledgerNet entries tenantId c liabilityPaykhProgramFund := by
  unfold programFundLiability World.postedAll
  rw [ledgerNet_append]
  ring

/-! ## What entries do -/

/-- Funding credits the program fund account of a fiat-backed fund, and no stablecoin. -/
theorem Safeguards.net {fund : PaykhProgramFund} {fundId : String} {amount : Int}
    {entries : List JournalEntry} (h : Safeguards fund fundId amount entries)
    (tenantId c : String) :
    ledgerNet entries tenantId c liabilityPaykhProgramFund =
        -(if fund.InBooks tenantId c then amount else 0) ∧
      ledgerNet entries tenantId c liabilityPaykhLoyaltyStablecoin = 0 := by
  cases h with
  | required hrequired he =>
    rw [he.move.net, he.move.net, he.program]
    unfold PaykhProgramFund.InBooks
    by_cases hscope : fund.tenantId = tenantId ∧ Runtime.toUpperCase fund.currency = c
    · simp [hscope, hrequired, assetTrusteeBankCash, liabilityPaykhProgramFund,
        liabilityPaykhLoyaltyStablecoin]
    · simp [hscope]
  | unbacked hrequired =>
    have hnot : ¬fund.InBooks tenantId c := by
      rintro ⟨-, hbacked⟩
      rw [hrequired] at hbacked
      cases hbacked
    simp [hnot]

/-- Issuance moves value from the program fund account to the stablecoin account. -/
theorem IsIssuance.net {l : PaykhLoyaltyLiability} {amount : Int} {e : JournalEntry}
    (h : IsIssuance l amount e) (tenantId c : String) :
    ledgerNet [e] tenantId c liabilityPaykhProgramFund =
        (if l.InBooks tenantId c then amount else 0) ∧
      ledgerNet [e] tenantId c liabilityPaykhLoyaltyStablecoin =
        -(if l.InBooks tenantId c then amount else 0) := by
  rw [h.move.net, h.move.net, h.program]
  unfold PaykhLoyaltyLiability.InBooks
  by_cases hscope : l.tenantId = tenantId ∧ Runtime.toUpperCase l.pegCurrency = c
  · simp [hscope, liabilityPaykhProgramFund, liabilityPaykhLoyaltyStablecoin]
  · simp [hscope]

/-- Redemption takes value out of the stablecoin account. -/
theorem IsLoyaltyRedemption.net {l : PaykhLoyaltyLiability} {amount : Int} {e : JournalEntry}
    (h : IsLoyaltyRedemption l amount e) (tenantId c : String) :
    ledgerNet [e] tenantId c liabilityPaykhProgramFund = 0 ∧
      ledgerNet [e] tenantId c liabilityPaykhLoyaltyStablecoin =
        (if l.InBooks tenantId c then amount else 0) := by
  rw [h.move.net, h.move.net, h.program]
  unfold PaykhLoyaltyLiability.InBooks
  by_cases hscope : l.tenantId = tenantId ∧ Runtime.toUpperCase l.pegCurrency = c
  · simp [hscope, liabilityPaykhProgramFund, liabilityPaykhLoyaltyStablecoin,
      liabilityPaykhMerchantPayable]
  · simp [hscope]

/-! ## What rewriting a row does -/

section

variable {w : World} {liability : PaykhLoyaltyLiability}
  {f : PaykhLoyaltyLiability → PaykhLoyaltyLiability} {hf : ∀ l, (f l).id = l.id}

/-- The rewrite of a liability keeps its tenant and its currency. -/
def KeepsScope (f : PaykhLoyaltyLiability → PaykhLoyaltyLiability) : Prop :=
  ∀ l, (f l).tenantId = l.tenantId ∧ (f l).pegCurrency = l.pegCurrency

theorem liabilitySum_update
    (hliability : w.paykhLoyaltyLiabilities.find? liability.id = some liability)
    (hkeeps : KeepsScope f) (counter : PaykhLoyaltyLiability → Int) (tenantId c : String) :
    liabilitySum (w.updateLiability liability.id f hf) counter tenantId c =
      liabilitySum w counter tenantId c +
        if liability.InBooks tenantId c then counter (f liability) - counter liability else 0 := by
  have hbooks : (f liability).InBooks tenantId c ↔ liability.InBooks tenantId c := by
    unfold PaykhLoyaltyLiability.InBooks
    rw [(hkeeps liability).1, (hkeeps liability).2]
  unfold liabilitySum
  rw [show (w.updateLiability liability.id f hf).paykhLoyaltyLiabilities =
    w.paykhLoyaltyLiabilities.modify liability.id f hf from rfl, Lib.Table.sum_modify hliability]
  by_cases h : liability.InBooks tenantId c
  · rw [if_pos h, if_pos (hbooks.mpr h), if_pos h]
    ring
  · rw [if_neg h, if_neg (fun h' => h (hbooks.mp h')), if_neg h]
    ring

end

/-- Setting backing aside leaves the funding as it is. -/
theorem fundedSum_reserved (w : World) (fundId : String) (reservedMinor : Int)
    (tenantId c : String) :
    fundedSum (w.withReserved fundId reservedMinor) tenantId c = fundedSum w tenantId c := by
  unfold fundedSum
  exact Lib.Table.sum_modify_of_eq w.paykhProgramFunds fundId
    (PaykhProgramFund.withReserved reservedMinor) (PaykhProgramFund.withReserved_id reservedMinor)
    fun r => rfl

theorem fundedSum_funded {w : World} {fundId : String} {fund : PaykhProgramFund}
    (hfund : w.paykhProgramFunds.find? fundId = some fund) (amount : Int) (tenantId c : String) :
    fundedSum (w.withFunded fundId (fund.fundedMinor + amount)) tenantId c =
      fundedSum w tenantId c + if fund.InBooks tenantId c then amount else 0 := by
  unfold fundedSum
  rw [show (w.withFunded fundId (fund.fundedMinor + amount)).paykhProgramFunds =
    w.paykhProgramFunds.modify fundId (PaykhProgramFund.withFunded (fund.fundedMinor + amount))
      (PaykhProgramFund.withFunded_id (fund.fundedMinor + amount)) from rfl,
    Lib.Table.sum_modify hfund]
  have hbooks : (fund.withFunded (fund.fundedMinor + amount)).InBooks tenantId c ↔
      fund.InBooks tenantId c := Iff.rfl
  by_cases h : fund.InBooks tenantId c
  · rw [if_pos h, if_pos (hbooks.mpr h), if_pos h]
    simp only [PaykhProgramFund.withFunded]
    ring
  · rw [if_neg h, if_neg (fun h' => h (hbooks.mp h')), if_neg h]
    ring

/-! ## Every operation -/

theorem LoyaltyBooks.logged {w : World} (h : LoyaltyBooks w) (rows : List AuditLog)
    (events : List OutboxEvent) : LoyaltyBooks (w.logged rows events) :=
  ⟨h.loyalty, h.programFund, h.liabilities, h.funds⟩

/-- A rewrite of a fund that leaves its funding as it is. -/
theorem LoyaltyBooks.reserved {w : World} (h : LoyaltyBooks w) {fundId : String}
    {fund : PaykhProgramFund} (hfund : w.paykhProgramFunds.find? fundId = some fund)
    {reservedMinor : Int} (hfits : FitsInt8 reservedMinor) :
    LoyaltyBooks (w.withReserved fundId reservedMinor) where
  loyalty := h.loyalty
  programFund tenantId c := by
    rw [fundedSum_reserved]
    exact h.programFund tenantId c
  liabilities := h.liabilities
  funds := Lib.Table.forall_modify (PaykhProgramFund.withReserved_id reservedMinor) h.funds hfund
    ⟨(h.funds fund (Lib.Table.mem_of_find? hfund)).1, hfits⟩

theorem LoyaltyBooks.fund {w w₁ : World} {op : FundOp} (h : LoyaltyBooks w)
    (hfits : CountersFit w (.fund op)) (heffect : FundEffect w op w₁) : LoyaltyBooks w₁ := by
  cases heffect with
  | unchanged => exact h
  | @created input id t ht =>
    refine ⟨h.loyalty, ?_, h.liabilities, ?_⟩
    · intro tenantId c
      show programFundLiability w tenantId c = t.sum _ - liabilitySum w _ tenantId c
      have hzero : (createdFund input id).fundedMinor = 0 := rfl
      rw [Lib.Table.sum_insert? ht, hzero, ite_self, add_zero]
      exact h.programFund tenantId c
    · have hzero : FitsInt8 0 := by decide
      exact Lib.Table.forall_insert? h.funds ht ⟨hzero, hzero⟩
  | overflowed hfund hamount hpositive hentries hoverflow =>
    cases hentries with
    | required hrequired he =>
      exact absurd (hfits _ _ hfund hrequired hamount hpositive he.fits) hoverflow
    | unbacked hrequired =>
      unfold World.postedAll
      rwa [List.append_nil]
  | @funded fundId amountMinor actor fund amount entries hfund hamount hpositive hentries hcolumn =>
    have hnet := hentries.net
    refine ⟨?_, ?_, h.liabilities, ?_⟩
    · intro tenantId c
      show loyaltyStablecoin (w.postedAll entries) tenantId c = liabilitySum w _ tenantId c
      rw [loyaltyStablecoin_postedAll, (hnet tenantId c).2, sub_zero]
      exact h.loyalty tenantId c
    · intro tenantId c
      show programFundLiability (w.postedAll entries) tenantId c =
        fundedSum ((w.postedAll entries).withFunded fundId _) tenantId c -
          liabilitySum w _ tenantId c
      rw [programFundLiability_postedAll, (hnet tenantId c).1, h.programFund,
        fundedSum_funded (w := w.postedAll entries) hfund]
      show _ = fundedSum w tenantId c + _ - _
      ring
    · exact Lib.Table.forall_modify
        (PaykhProgramFund.withFunded_id (fund.fundedMinor + amount)) h.funds hfund
        ⟨hcolumn, (h.funds fund (Lib.Table.mem_of_find? hfund)).2⟩
  | reserved hfund hamount havailable hcolumn => exact h.reserved hfund hcolumn
  | released hfund hamount hreserved hcolumn => exact h.reserved hfund hcolumn

/-- An issuance that passes its checks can be counted. -/
theorem LoyaltyBooks.issueFits {w : World} {input : IssueLoyaltyInput}
    {liability : PaykhLoyaltyLiability} {fund : PaykhProgramFund} {amount : Money}
    (h : LoyaltyBooks w) (hchecks : IssueChecks w input liability fund amount)
    (hissued : FitsInt8 (liability.issuedTotalMinor + amount.minor)) :
    IssueFits fund liability amount.minor := by
  obtain ⟨hfunded, hreserved⟩ := h.funds fund (Lib.Table.mem_of_find? hchecks.backed)
  have hcounted := h.liabilities liability (Lib.Table.mem_of_find? hchecks.found)
  have hpositive := hchecks.positive
  have havailable := hchecks.available
  have houtstanding := hcounted.outstanding
  have hnonneg := hcounted.nonneg
  have hredeemed := hcounted.redeemed_nonneg
  unfold FitsInt8 at *
  refine ⟨?_, ?_, hissued⟩ <;> unfold FitsInt8 <;> omega

/-- A redemption that passes its checks can be counted. -/
theorem LoyaltyBooks.redeemFits {w : World} {input : RedeemLoyaltyInput}
    {liability : PaykhLoyaltyLiability} {amount : Money} (h : LoyaltyBooks w)
    (hchecks : RedeemChecks w input liability amount) : RedeemFits liability amount.minor := by
  have hcounted := h.liabilities liability (Lib.Table.mem_of_find? hchecks.found)
  have hpositive := hchecks.positive
  have hle := hchecks.outstanding
  have houtstanding := hcounted.outstanding
  have hredeemed := hcounted.redeemed_nonneg
  have hissued := hcounted.issued_fits
  unfold FitsInt8 at hissued
  refine ⟨?_, ?_⟩ <;> unfold FitsInt8 <;> omega

/-- A liability is rewritten: what remains to show is what the ledger gained. -/
theorem LoyaltyBooks.update {w w' : World} (h : LoyaltyBooks w) {liability : PaykhLoyaltyLiability}
    {f : PaykhLoyaltyLiability → PaykhLoyaltyLiability} (hf : ∀ l, (f l).id = l.id)
    (hliability : w.paykhLoyaltyLiabilities.find? liability.id = some liability)
    (hkeeps : KeepsScope f)
    (hliabilities : w'.paykhLoyaltyLiabilities =
      (w.updateLiability liability.id f hf).paykhLoyaltyLiabilities)
    (hfunded : ∀ tenantId c, fundedSum w' tenantId c = fundedSum w tenantId c)
    (hfunds : ∀ r ∈ w'.paykhProgramFunds.rows, r.Counted) (hcounted : (f liability).Counted)
    (hloyalty : ∀ tenantId c, loyaltyStablecoin w' tenantId c = loyaltyStablecoin w tenantId c +
      if liability.InBooks tenantId c then
        (f liability).outstandingMinor - liability.outstandingMinor else 0)
    (hprogram : ∀ tenantId c, programFundLiability w' tenantId c =
      programFundLiability w tenantId c -
        if liability.InBooks tenantId c then
          (f liability).issuedTotalMinor - liability.issuedTotalMinor else 0) :
    LoyaltyBooks w' := by
  have hsum (counter : PaykhLoyaltyLiability → Int) (tenantId c : String) :
      liabilitySum w' counter tenantId c =
        liabilitySum (w.updateLiability liability.id f hf) counter tenantId c := by
    unfold liabilitySum
    rw [hliabilities]
  refine ⟨?_, ?_, ?_, hfunds⟩
  · intro tenantId c
    rw [hloyalty, h.loyalty, hsum, liabilitySum_update hliability hkeeps]
  · intro tenantId c
    rw [hprogram, h.programFund, hfunded, hsum, liabilitySum_update hliability hkeeps]
    ring
  · rw [hliabilities]
    exact Lib.Table.forall_modify hf h.liabilities hliability hcounted

theorem LoyaltyBooks.loyaltyOp {w w₁ : World} {op : LoyaltyOp} (h : LoyaltyBooks w)
    (hchain : ChainAnswers w (.loyalty op)) (hfresh : FreshIds w (.loyalty op))
    (hfits : CountersFit w (.loyalty op)) (heffect : LoyaltyEffect w op w₁) :
    LoyaltyBooks w₁ := by
  cases heffect with
  | unchanged => exact h
  | @bound input id fund denominationMinor t hfund hrequired hfree ht =>
    have hsum (counter : PaykhLoyaltyLiability → Int)
        (hzero : counter (boundLiability fund input id denominationMinor) = 0)
        (tenantId c : String) :
        liabilitySum { w with paykhLoyaltyLiabilities := t } counter tenantId c =
          liabilitySum w counter tenantId c := by
      show t.sum _ = _
      rw [Lib.Table.sum_insert? ht, hzero]
      simp [liabilitySum]
    refine ⟨?_, ?_, ?_, h.funds⟩
    · intro tenantId c
      rw [hsum _ rfl]
      exact h.loyalty tenantId c
    · intro tenantId c
      rw [hsum _ rfl]
      exact h.programFund tenantId c
    · have hzero : FitsInt8 0 := by decide
      exact Lib.Table.forall_insert? h.liabilities ht ⟨rfl, le_rfl, le_rfl, hzero⟩
  | @issueBooked gateway uuid id input liability fund amount e hchecks he hfails =>
    obtain ⟨hissued, htexts⟩ := hfits liability fund amount hchecks
    rcases hfails with hfails | hrefused | hfails | ⟨r, hr, hid⟩
    · exact absurd hfails (hchain liability fund amount hchecks)
    · exact absurd hrefused htexts
    · exact absurd (h.issueFits hchecks hissued) hfails
    · exact absurd hid (hfresh r hr)
  | @issued gateway uuid id input liability fund amount e row t hchecks he hcolumns hrow ht =>
    have hcounted := h.liabilities liability (Lib.Table.mem_of_find? hchecks.found)
    have hliability := Lib.Table.find?_key_of_mem (Lib.Table.mem_of_find? hchecks.found)
    have hfund := Lib.Table.find?_key_of_mem (Lib.Table.mem_of_find? hchecks.backed)
    have hpositive := hchecks.positive
    refine h.update (PaykhLoyaltyLiability.asIssued_id
      (liability.outstandingMinor + amount.minor) (liability.issuedTotalMinor + amount.minor))
      hliability (fun _ => ⟨rfl, rfl⟩) rfl ?_ ?_ ?_ ?_ ?_
    · intro tenantId c
      exact fundedSum_reserved w fund.id _ tenantId c
    · exact Lib.Table.forall_modify
        (PaykhProgramFund.withReserved_id (fund.reservedMinor + amount.minor)) h.funds hfund
        ⟨(h.funds fund (Lib.Table.mem_of_find? hfund)).1, hcolumns.1⟩
    · have houtstanding := hcounted.outstanding
      have hnonneg := hcounted.nonneg
      refine ⟨?_, ?_, hcounted.redeemed_nonneg, hcolumns.2.2⟩ <;>
        simp only [PaykhLoyaltyLiability.asIssued] <;> omega
    · intro tenantId c
      show loyaltyStablecoin (w.postedAll [e]) tenantId c = _
      rw [loyaltyStablecoin_postedAll, (he.net tenantId c).2]
      simp only [PaykhLoyaltyLiability.asIssued, add_sub_cancel_left, sub_neg_eq_add]
    · intro tenantId c
      show programFundLiability (w.postedAll [e]) tenantId c = _
      rw [programFundLiability_postedAll, (he.net tenantId c).1]
      simp only [PaykhLoyaltyLiability.asIssued, add_sub_cancel_left]
  | @redeemBooked gateway clock uuid id input liability amount e hchecks he hfails =>
    rcases hfails with hfails | hrefused | hfails | ⟨r, hr, hid⟩
    · exact absurd hfails (hchain liability amount hchecks)
    · exact absurd hrefused (hfits liability amount hchecks)
    · exact absurd (h.redeemFits hchecks) hfails
    · exact absurd hid (hfresh r hr)
  | @redeemed gateway clock uuid id input liability amount e row t hchecks he hcolumns hrow ht _ =>
    have hcounted := h.liabilities liability (Lib.Table.mem_of_find? hchecks.found)
    have hliability := Lib.Table.find?_key_of_mem (Lib.Table.mem_of_find? hchecks.found)
    have hpositive := hchecks.positive
    refine h.update (PaykhLoyaltyLiability.asRedeemed_id
      (liability.outstandingMinor - amount.minor) (liability.redeemedTotalMinor + amount.minor))
      hliability (fun _ => ⟨rfl, rfl⟩) rfl (fun _ _ => rfl) h.funds ?_ ?_ ?_
    · have houtstanding := hcounted.outstanding
      have hredeemed := hcounted.redeemed_nonneg
      have hle := hchecks.outstanding
      refine ⟨?_, ?_, ?_, hcounted.issued_fits⟩ <;>
        simp only [PaykhLoyaltyLiability.asRedeemed] <;> omega
    · intro tenantId c
      show loyaltyStablecoin (w.postedAll [e]) tenantId c = _
      rw [loyaltyStablecoin_postedAll, (he.net tenantId c).2]
      by_cases hbooks : liability.InBooks tenantId c
      · simp only [PaykhLoyaltyLiability.asRedeemed, if_pos hbooks]
        ring
      · simp [hbooks]
    · intro tenantId c
      show programFundLiability (w.postedAll [e]) tenantId c = _
      rw [programFundLiability_postedAll, (he.net tenantId c).1]
      simp [PaykhLoyaltyLiability.asRedeemed]
  | @reconciled gateway clock liabilityId liability supply status hliability =>
    have hkey := Lib.Table.find?_key_of_mem (Lib.Table.mem_of_find? hliability)
    have hcounted := h.liabilities liability (Lib.Table.mem_of_find? hliability)
    refine h.update (PaykhLoyaltyLiability.asReconciled_id supply status (clock 0)) hkey
      (fun _ => ⟨rfl, rfl⟩) rfl (fun _ _ => rfl) h.funds ?_ ?_ ?_
    · exact ⟨hcounted.outstanding, hcounted.nonneg, hcounted.redeemed_nonneg, hcounted.issued_fits⟩
    · intro tenantId c
      show loyaltyStablecoin w tenantId c = _
      simp [PaykhLoyaltyLiability.asReconciled]
    · intro tenantId c
      show programFundLiability w tenantId c = _
      simp [PaykhLoyaltyLiability.asReconciled]

/-- One operation keeps the books, whether it succeeds or throws. -/
theorem LoyaltyBooks.step {w : World} (h : LoyaltyBooks w) {op : SafeguardOp}
    (hop : (ChainAnswers w op ∧ FreshIds w op) ∧ CountersFit w op) :
    LoyaltyBooks (SafeguardOp.step w op) := by
  obtain ⟨⟨hchain, hfresh⟩, hfits⟩ := hop
  cases op with
  | fund op => exact after_effect (op.effect w) (fun _ heffect => h.fund hfits heffect) .logged
  | loyalty op =>
    exact after_effect (op.effect w) (fun _ heffect => h.loyaltyOp hchain hfresh hfits heffect)
      .logged

end

/-! ## A fund with a stablecoin, and a fund that is funded beyond its column -/

attribute [local instance] Runtime.ascii

namespace Sample

/-- Loyalty is enabled, and one merchant is active. -/
def loyaltyWorld : World :=
  { world with
    featureFlags := ⟨[⟨"paykh.loyalty.enabled", true⟩], List.nodup_singleton _⟩
    paykhMerchants := ⟨[merchant], List.nodup_singleton _⟩ }

/-- No PayChain and no Horizon are configured. -/
def unconfigured : IssuanceGateway where
  sha256Hex text := text
  paychain := none
  horizon := none

def createFund : SafeguardOp :=
  .fund (.create
    { tenantId := "tenant-1", paykhProgramId := "PP1", classification := "BACKED_LOYALTY_STABLECOIN"
      currency := "USD", reserveAccountId := "T1", actor := "tenant" } "F1")

def fundWith (amountMinor : String) : SafeguardOp := .fund (.fund "F1" amountMinor "tenant")

def bindFund : SafeguardOp :=
  .loyalty (.bind
    { programFundId := "F1", decimals := none, denominationMinor := none
      stellarAssetCode := none, stellarIssuer := none, stellarDistributor := none
      actor := "tenant" } "L1")

def issueLoyalty (id amountMinor : String) : SafeguardOp :=
  .loyalty (.issue unconfigured "uuid" id
    { liabilityId := "L1", customerRef := "customer", amountMinor := some amountMinor
      units := none, actor := "tenant" })

def redeemLoyalty (id amountMinor : String) : SafeguardOp :=
  .loyalty (.redeem unconfigured clock "uuid" id
    { liabilityId := "L1", merchantId := "M1", customerRef := "customer"
      amountMinor := some amountMinor, units := none, actor := "tenant" })

/-- A fund of 100, of which 60 are issued. -/
def issued60 : List SafeguardOp := [createFund, fundWith "100", bindFund, issueLoyalty "I1" "60"]

/-- Twice 2⁶². -/
def overfunded : List SafeguardOp :=
  [createFund, fundWith "4611686018427387904", fundWith "4611686018427387904"]

theorem noFunds : NoFunds loyaltyWorld := by
  have hledger : ∀ e ∈ loyaltyWorld.ledger, ∀ l ∈ e.lines,
      l.account.2.2 ≠ liabilityPaykhLoyaltyStablecoin ∧
        l.account.2.2 ≠ liabilityPaykhProgramFund := by
    decide +kernel
  refine ⟨rfl, rfl, ?_, ?_⟩
  · intro tenantId c
    unfold loyaltyStablecoin ledgerNet
    rw [Lib.net_eq_zero, neg_zero]
    intro l hl haccount
    obtain ⟨e, he, hle⟩ := List.mem_flatMap.mp hl
    exact (hledger e he l hle).1 (by rw [haccount])
  · intro tenantId c
    unfold programFundLiability ledgerNet
    rw [Lib.net_eq_zero, neg_zero]
    intro l hl haccount
    obtain ⟨e, he, hle⟩ := List.mem_flatMap.mp hl
    exact (hledger e he l hle).2 (by rw [haccount])

theorem issued60_answered : Lib.Meets SafeguardOp.step
    (fun w op => ChainAnswers w op ∧ FreshIds w op) loyaltyWorld issued60 := by
  have hfresh : ∀ r ∈ ([createFund, fundWith "100", bindFund].foldl SafeguardOp.step
      loyaltyWorld).paykhLoyaltyIssuances.rows, r.id ≠ "I1" := by
    decide +kernel
  refine ⟨⟨trivial, trivial⟩, ⟨trivial, trivial⟩, ⟨trivial, trivial⟩, ⟨?_, hfresh⟩, trivial⟩
  intro liability fund amount _
  exact not_chainFails rfl _ _ _ _

theorem issued60_fits : Lib.Meets SafeguardOp.step CountersFit loyaltyWorld issued60 := by
  have hfunded : ((([createFund].foldl SafeguardOp.step
      loyaltyWorld).paykhProgramFunds.find? "F1").map fun f => f.fundedMinor) = some 0 := by
    decide +kernel
  have hissued : ((([createFund, fundWith "100", bindFund].foldl SafeguardOp.step
      loyaltyWorld).paykhLoyaltyLiabilities.find? "L1").map fun l =>
        (l.issuedTotalMinor, l.stellarAssetCode)) = some (0, none) := by
    decide +kernel
  refine ⟨trivial, ?_, trivial, ?_, trivial⟩
  · intro fund amount hfund _ hamount _ hfits
    obtain ⟨f, hf, hzero⟩ := Option.map_eq_some_iff.mp hfunded
    cases hfund.symm.trans hf
    simpa [hzero] using hfits
  · intro liability fund amount hchecks
    obtain ⟨l, hl, hbound⟩ := Option.map_eq_some_iff.mp hissued
    cases hchecks.found.symm.trans hl
    obtain ⟨hzero, hoffchain⟩ := Prod.mk.inj hbound
    have hcustomer : FitsText "customer" := by decide
    exact ⟨by simpa [hzero] using hchecks.fits, not_textRefused hoffchain _ _ _ _ hcustomer⟩

end Sample

end TrusteeBank
