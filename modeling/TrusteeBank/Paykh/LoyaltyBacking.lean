import TrusteeBank.Paykh.LoyaltyBooks

/-!
# The backing of loyalty stablecoins

What is issued is set aside in the fund, under the counter that `reserve` and `release` move as
well. Nothing tells the two apart, so a release can free the backing of an issuance, which can
then be issued again.

* `loyalty_backed`: while releases leave what was issued set aside, every liability stays backed;
* `loyalty_not_backed`: without this, a fund of 100 backs issuances of 200.
-/

set_option autoImplicit false

namespace TrusteeBank

open LoyaltyService ProgramFundsService

section

variable [Runtime]

/-! ## Conditions on operations -/

/-- The amounts that `fund`, `reserve` and `release` are asked for are positive. Issuance and
redemption check it. -/
def PositiveFundAmounts : SafeguardOp → Prop
  | .fund (.fund _ amountMinor _) | .fund (.reserve _ amountMinor _)
  | .fund (.release _ amountMinor _) => ∀ amount, bigInt amountMinor = .ok amount → 0 < amount
  | _ => True

/-- Every request the operation makes to PayChain is accepted. -/
def ChainAccepts (w : World) : SafeguardOp → Prop
  | .loyalty (.issue gateway uuid _ input) => ∀ liability fund amount,
    IssueChecks w input liability fund amount → ∃ chain,
      authorizeOnChain gateway uuid .issue liability (toString amount.minor) = .ok chain ∧
        chain.status ≠ "ONCHAIN_FAILED"
  | .loyalty (.redeem gateway _ uuid _ input) => ∀ liability amount,
    RedeemChecks w input liability amount → ∃ chain,
      authorizeOnChain gateway uuid .burn liability (toString amount.minor) = .ok chain ∧
        chain.status ≠ "ONCHAIN_FAILED"
  | _ => True

/-- A release leaves what was issued on the fund set aside. -/
def ReleasesUnissued (w : World) : SafeguardOp → Prop
  | .fund (.release fundId amountMinor _) => ∀ fund amount,
    w.paykhProgramFunds.find? fundId = some fund → bigInt amountMinor = .ok amount →
    amount ≤ fund.reservedMinor → ∀ l ∈ w.paykhLoyaltyLiabilities.rows,
      l.programFundId = fundId → amount ≤ fund.reservedMinor - l.issuedTotalMinor
  | _ => True

/-- Every liability is backed by its fund. -/
def Backed (w : World) : Prop :=
  ∀ l ∈ w.paykhLoyaltyLiabilities.rows, ∀ f,
    w.paykhProgramFunds.find? l.programFundId = some f →
      (l.outstandingMinor ≤ f.reservedMinor ∧ f.reservedMinor ≤ f.fundedMinor) ∧
        l.issuedTotalMinor ≤ f.fundedMinor

/-! ## The invariant -/

/-- Part of the funding is set aside. -/
def PaykhProgramFund.InBounds (f : PaykhProgramFund) : Prop :=
  0 ≤ f.reservedMinor ∧ f.reservedMinor ≤ f.fundedMinor

/-- What was issued is set aside in the liability's fund. -/
def PaykhLoyaltyLiability.SetAside (w : World) (l : PaykhLoyaltyLiability) : Prop :=
  l.outstandingMinor ≤ l.issuedTotalMinor ∧
    ∃ f, w.paykhProgramFunds.find? l.programFundId = some f ∧ l.issuedTotalMinor ≤ f.reservedMinor

structure Backing (w : World) : Prop where
  funds : ∀ f ∈ w.paykhProgramFunds.rows, f.InBounds
  liabilities : ∀ l ∈ w.paykhLoyaltyLiabilities.rows, l.SetAside w

theorem NoFunds.backing {w : World} (hw : NoFunds w) : Backing w where
  funds f hf := by simp [hw.funds] at hf
  liabilities l hl := by simp [hw.liabilities] at hl

theorem Backing.backed {w : World} (h : Backing w) : Backed w := by
  intro l hl f hf
  obtain ⟨houtstanding, f', hf', hissued⟩ := h.liabilities l hl
  cases hf.symm.trans hf'
  obtain ⟨-, hreserved⟩ := h.funds f (Lib.Table.mem_of_find? hf)
  exact ⟨⟨by omega, hreserved⟩, by omega⟩

theorem Backing.logged {w : World} (h : Backing w) (rows : List AuditLog)
    (events : List OutboxEvent) : Backing (w.logged rows events) :=
  ⟨h.funds, h.liabilities⟩

section

variable {w : World} {fundId : String} {fund : PaykhProgramFund}

/-- A fund is rewritten: it stays in bounds, and holds what was issued on it. -/
theorem Backing.updateFund (h : Backing w) (hfund : w.paykhProgramFunds.find? fundId = some fund)
    {f : PaykhProgramFund → PaykhProgramFund} (hf : ∀ r, (f r).id = r.id)
    (hbounds : (f fund).InBounds)
    (hissued : ∀ l ∈ w.paykhLoyaltyLiabilities.rows, l.programFundId = fundId →
      l.issuedTotalMinor ≤ fund.reservedMinor → l.issuedTotalMinor ≤ (f fund).reservedMinor) :
    Backing (w.updateFund fundId f hf) := by
  refine ⟨Lib.Table.forall_modify hf h.funds hfund hbounds, ?_⟩
  intro l hl
  obtain ⟨houtstanding, r, hr, hle⟩ := h.liabilities l hl
  refine ⟨houtstanding, ?_⟩
  have hfind := Lib.Table.find?_modify w.paykhProgramFunds fundId f hf l.programFundId
  by_cases hkey : l.programFundId = fundId
  · rw [hkey, hfund] at hr
    cases hr
    rw [if_pos hkey, hfund] at hfind
    exact ⟨f fund, hfind, hissued l hl hkey hle⟩
  · rw [if_neg hkey] at hfind
    exact ⟨r, hfind.trans hr, hle⟩

/-- A liability is rewritten: it keeps its fund, which still holds what was issued on it. -/
theorem Backing.updateLiability (h : Backing w) {liability : PaykhLoyaltyLiability}
    (hliability : w.paykhLoyaltyLiabilities.find? liability.id = some liability)
    {f : PaykhLoyaltyLiability → PaykhLoyaltyLiability} (hf : ∀ l, (f l).id = l.id)
    (haside : (f liability).SetAside w) : Backing (w.updateLiability liability.id f hf) :=
  ⟨h.funds, Lib.Table.forall_modify hf h.liabilities hliability haside⟩

end

/-! ## Every operation -/

theorem Backing.fund {w w₁ : World} {op : FundOp} (h : Backing w)
    (hpositive : PositiveFundAmounts (.fund op)) (hreleases : ReleasesUnissued w (.fund op))
    (heffect : FundEffect w op w₁) : Backing w₁ := by
  cases heffect with
  | unchanged => exact h
  | @created input id t ht =>
    refine ⟨Lib.Table.forall_insert? h.funds ht ⟨le_rfl, le_rfl⟩, ?_⟩
    intro l hl
    obtain ⟨houtstanding, f, hf, hissued⟩ := h.liabilities l hl
    refine ⟨houtstanding, f, ?_, hissued⟩
    show t.find? l.programFundId = some f
    rw [Lib.Table.find?_insert? ht, if_neg]
    · exact hf
    · -- The new fund has an identifier that no liability refers to.
      intro hid
      rw [← hid] at hf
      cases hf.symm.trans (Lib.Table.insert?_eq_some ht).2
  | overflowed hfund hamount hpos hentries hoverflow => exact ⟨h.funds, h.liabilities⟩
  | @funded fundId amountMinor actor fund amount entries hfund hamount hpos hentries hfits =>
    have hposted : Backing (w.postedAll entries) := ⟨h.funds, h.liabilities⟩
    have hbounds := h.funds fund (Lib.Table.mem_of_find? hfund)
    refine hposted.updateFund (w := w.postedAll entries) hfund
      (PaykhProgramFund.withFunded_id (fund.fundedMinor + amount)) ?_ fun _ _ _ hle => hle
    exact ⟨hbounds.1, hbounds.2.trans (by simp only [PaykhProgramFund.withFunded]; omega)⟩
  | @reserved fundId amountMinor actor fund amount hfund hamount havailable hfits =>
    have hbounds := h.funds fund (Lib.Table.mem_of_find? hfund)
    have hpos := hpositive amount hamount
    obtain ⟨hnonneg, hle⟩ := hbounds
    refine h.updateFund hfund (PaykhProgramFund.withReserved_id (fund.reservedMinor + amount))
      ?_ ?_
    · constructor <;> simp only [PaykhProgramFund.withReserved] <;> omega
    · intro l _ _ hissued
      simp only [PaykhProgramFund.withReserved]
      omega
  | @released fundId amountMinor actor fund amount hfund hamount hreserved hfits =>
    have hbounds := h.funds fund (Lib.Table.mem_of_find? hfund)
    have hpos := hpositive amount hamount
    obtain ⟨hnonneg, hle⟩ := hbounds
    refine h.updateFund hfund (PaykhProgramFund.withReserved_id (fund.reservedMinor - amount))
      ?_ ?_
    · constructor <;> simp only [PaykhProgramFund.withReserved] <;> omega
    · intro l hl hkey _
      have hunissued := hreleases fund amount hfund hamount hreserved l hl hkey
      simp only [PaykhProgramFund.withReserved]
      omega

theorem Backing.loyalty {w w₁ : World} {op : LoyaltyOp} (h : Backing w)
    (heffect : LoyaltyEffect w op w₁) : Backing w₁ := by
  cases heffect with
  | unchanged => exact h
  | @bound input id fund denominationMinor t hfund hrequired hfree ht =>
    have hbounds := h.funds fund (Lib.Table.mem_of_find? hfund)
    have hkey := Lib.Table.find?_key_of_mem (Lib.Table.mem_of_find? hfund)
    exact ⟨h.funds, Lib.Table.forall_insert? h.liabilities ht ⟨le_rfl, fund, hkey, hbounds.1⟩⟩
  | issueBooked hchecks he hfails => exact ⟨h.funds, h.liabilities⟩
  | @issued gateway uuid id input liability fund amount e row t hchecks he hfits hrow ht =>
    have hpos := hchecks.positive
    have havailable := hchecks.available
    obtain ⟨hnonneg, hle⟩ := h.funds fund (Lib.Table.mem_of_find? hchecks.backed)
    have hfund := Lib.Table.find?_key_of_mem (Lib.Table.mem_of_find? hchecks.backed)
    have hid : fund.id = liability.programFundId := Lib.Table.key_of_find? hchecks.backed
    have hliability := Lib.Table.find?_key_of_mem (Lib.Table.mem_of_find? hchecks.found)
    obtain ⟨houtstanding, f, hf, hissued⟩ :=
      h.liabilities liability (Lib.Table.mem_of_find? hchecks.found)
    cases hchecks.backed.symm.trans hf
    have hset : Backing (w.withReserved fund.id (fund.reservedMinor + amount.minor)) := by
      refine h.updateFund hfund
        (PaykhProgramFund.withReserved_id (fund.reservedMinor + amount.minor)) ?_ ?_
      · constructor <;> simp only [PaykhProgramFund.withReserved] <;> omega
      · intro l _ _ hissued
        simp only [PaykhProgramFund.withReserved]
        omega
    have hboth := hset.updateLiability hliability
      (PaykhLoyaltyLiability.asIssued_id (liability.outstandingMinor + amount.minor)
        (liability.issuedTotalMinor + amount.minor)) ?_
    · exact ⟨hboth.funds, hboth.liabilities⟩
    · refine ⟨by simp only [PaykhLoyaltyLiability.asIssued]; omega,
        fund.withReserved (fund.reservedMinor + amount.minor), ?_, ?_⟩
      · refine (Lib.Table.find?_modify w.paykhProgramFunds fund.id
          (PaykhProgramFund.withReserved (fund.reservedMinor + amount.minor))
          (PaykhProgramFund.withReserved_id (fund.reservedMinor + amount.minor))
          liability.programFundId).trans ?_
        rw [if_pos hid.symm, hfund, Option.map_some]
      · simp only [PaykhLoyaltyLiability.asIssued, PaykhProgramFund.withReserved]
        omega
  | redeemBooked hchecks he hfails => exact ⟨h.funds, h.liabilities⟩
  | @redeemed gateway clock uuid id input liability amount e row t hchecks he hfits hrow ht _ =>
    have hpos := hchecks.positive
    have hliability := Lib.Table.find?_key_of_mem (Lib.Table.mem_of_find? hchecks.found)
    obtain ⟨houtstanding, f, hf, hissued⟩ :=
      h.liabilities liability (Lib.Table.mem_of_find? hchecks.found)
    have hupdated := h.updateLiability hliability
      (PaykhLoyaltyLiability.asRedeemed_id (liability.outstandingMinor - amount.minor)
        (liability.redeemedTotalMinor + amount.minor))
      ⟨by simp only [PaykhLoyaltyLiability.asRedeemed]; omega, f, hf, hissued⟩
    exact ⟨hupdated.funds, hupdated.liabilities⟩
  | @reconciled gateway clock liabilityId liability supply status hliability =>
    exact h.updateLiability (Lib.Table.find?_key_of_mem (Lib.Table.mem_of_find? hliability))
      (PaykhLoyaltyLiability.asReconciled_id supply status (clock 0))
      (h.liabilities liability (Lib.Table.mem_of_find? hliability))

/-- One operation keeps the backing, whether it succeeds or throws. -/
theorem Backing.step {w : World} (h : Backing w) {op : SafeguardOp}
    (hop : PositiveFundAmounts op ∧ ReleasesUnissued w op) : Backing (SafeguardOp.step w op) := by
  obtain ⟨hpositive, hreleases⟩ := hop
  cases op with
  | fund op =>
    exact after_effect (op.effect w) (fun _ heffect => h.fund hpositive hreleases heffect) .logged
  | loyalty op => exact after_effect (op.effect w) (fun _ heffect => h.loyalty heffect) .logged

/-- **Every liability is backed, in every state reached**, whatever PayChain replies. -/
theorem loyalty_backed {w : World} (hw : NoFunds w) (ops : List SafeguardOp)
    (hpositive : Lib.Meets SafeguardOp.step (fun _ op => PositiveFundAmounts op) w ops)
    (hreleases : Lib.Meets SafeguardOp.step ReleasesUnissued w ops) :
    Backed (ops.foldl SafeguardOp.step w) :=
  (Lib.inv_run (fun _ _ h hop => h.step hop) hw.backing (hpositive.and hreleases)).backed

end

/-! ## A fund that is issued on twice -/

attribute [local instance] Runtime.ascii

namespace Sample

def reserveFund (amountMinor : String) : SafeguardOp := .fund (.reserve "F1" amountMinor "tenant")

def releaseFund (amountMinor : String) : SafeguardOp := .fund (.release "F1" amountMinor "tenant")

/-- A fund of 100, of which 60 are issued, and 10 reserved and released. -/
def issuedAndReserved : List SafeguardOp :=
  [createFund, fundWith "100", bindFund, issueLoyalty "I1" "60", reserveFund "10", releaseFund "10"]

/-- A fund of 100 is issued, released, and issued again. -/
def issuedTwice : List SafeguardOp :=
  [createFund, fundWith "100", bindFund, issueLoyalty "I1" "100", releaseFund "100",
   issueLoyalty "I2" "100"]

theorem issuedAndReserved_positive : Lib.Meets SafeguardOp.step (fun _ op => PositiveFundAmounts op)
    loyaltyWorld issuedAndReserved := by
  have hpositive (text : String) (n : Int) (hn : 0 < n) (htext : bigInt text = .ok n) :
      ∀ amount, bigInt text = .ok amount → 0 < amount := by
    intro amount hamount
    cases htext.symm.trans hamount
    exact hn
  exact ⟨trivial, hpositive "100" 100 (by decide) rfl, trivial, trivial,
    hpositive "10" 10 (by decide) rfl, hpositive "10" 10 (by decide) rfl, trivial⟩

theorem issuedAndReserved_releases : Lib.Meets SafeguardOp.step ReleasesUnissued loyaltyWorld
    issuedAndReserved := by
  refine ⟨trivial, trivial, trivial, trivial, trivial, ?_, trivial⟩
  have hreserved : ((([createFund, fundWith "100", bindFund, issueLoyalty "I1" "60",
      reserveFund "10"].foldl SafeguardOp.step loyaltyWorld).paykhProgramFunds.find? "F1").map
        fun f => f.reservedMinor) = some 70 := by
    decide +kernel
  have hissued : ∀ l ∈ ([createFund, fundWith "100", bindFund, issueLoyalty "I1" "60",
      reserveFund "10"].foldl SafeguardOp.step loyaltyWorld).paykhLoyaltyLiabilities.rows,
        l.issuedTotalMinor = 60 := by
    decide +kernel
  intro fund amount hfund hamount _ l hl _
  obtain ⟨f, hf, h70⟩ := Option.map_eq_some_iff.mp hreserved
  cases hfund.symm.trans hf
  obtain rfl : 10 = amount := Except.ok.inj hamount
  have h60 := hissued l hl
  omega

end Sample

/-- The 60 that are issued are set aside, and 100 were funded. -/
theorem loyalty_backed_issued :
    Backed (Sample.issuedAndReserved.foldl SafeguardOp.step Sample.loyaltyWorld) :=
  loyalty_backed Sample.noFunds Sample.issuedAndReserved Sample.issuedAndReserved_positive
    Sample.issuedAndReserved_releases

/-- A fund of 100 backs issuances of 200. -/
theorem loyalty_not_backed : ¬∀ [Runtime] (w : World), NoFunds w → ∀ ops : List SafeguardOp,
    Lib.Meets SafeguardOp.step (fun w op => PositiveFundAmounts op ∧ ChainAccepts w op) w ops →
    Backed (ops.foldl SafeguardOp.step w) := by
  intro h
  have hpositive (amount : Int) (hamount : bigInt "100" = .ok amount) : 0 < amount := by
    obtain rfl : 100 = amount := Except.ok.inj hamount
    decide
  have haccepts (w : World) (id : String) : ChainAccepts w (Sample.issueLoyalty id "100") :=
    fun liability _ _ _ => authorizeOnChain_unconfigured rfl _ _ liability _
  have hbacked := h Sample.loyaltyWorld Sample.noFunds Sample.issuedTwice
    ⟨⟨trivial, trivial⟩, ⟨hpositive, trivial⟩, ⟨trivial, trivial⟩, ⟨trivial, haccepts _ "I1"⟩,
      ⟨hpositive, trivial⟩, ⟨trivial, haccepts _ "I2"⟩, trivial⟩
  have hissued : ∃ l ∈ (Sample.issuedTwice.foldl SafeguardOp.step
      Sample.loyaltyWorld).paykhLoyaltyLiabilities.rows,
      l.programFundId = "F1" ∧ l.issuedTotalMinor = 200 := by
    decide +kernel
  have hfunded : (((Sample.issuedTwice.foldl SafeguardOp.step
      Sample.loyaltyWorld).paykhProgramFunds.find? "F1").map fun f => f.fundedMinor) =
        some 100 := by
    decide +kernel
  obtain ⟨l, hl, hfund, h200⟩ := hissued
  obtain ⟨f, hf, h100⟩ := Option.map_eq_some_iff.mp hfunded
  have hle := (hbacked l hl f (hfund ▸ hf)).2
  omega

end TrusteeBank
