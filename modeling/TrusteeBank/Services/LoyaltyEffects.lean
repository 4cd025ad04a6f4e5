import TrusteeBank.Services.Loyalty

/-!
# What a loyalty operation does

One inversion lemma for all that an operation on loyalty stablecoins can do to the state. The
amount of an issuance or a redemption is resolved in the peg currency, positive, and covered by
what is left in the fund or outstanding.

**Theorem (`LoyaltyOp.effect`).** An operation has an effect in the list `LoyaltyEffect`, and
appends audit rows and events.
-/

set_option autoImplicit false

namespace TrusteeBank

open Lib (Call)
open LedgerAccountCode
open LoyaltyService hiding bind

section

variable [Runtime]

/-! ## The effects -/

/-- The state with one liability rewritten. -/
def World.updateLiability (w : World) (liabilityId : String)
    (f : PaykhLoyaltyLiability → PaykhLoyaltyLiability) (hf : ∀ l, (f l).id = l.id) : World :=
  { w with paykhLoyaltyLiabilities := w.paykhLoyaltyLiabilities.modify liabilityId f hf }

/-- The state with a liability's counters of issuance rewritten. -/
def World.withIssued (w : World) (liabilityId : String) (outstandingMinor issuedTotalMinor : Int) :
    World :=
  w.updateLiability liabilityId (PaykhLoyaltyLiability.asIssued outstandingMinor issuedTotalMinor)
    (PaykhLoyaltyLiability.asIssued_id outstandingMinor issuedTotalMinor)

/-- The state with a liability's counters of redemption rewritten. -/
def World.withRedeemed (w : World) (liabilityId : String)
    (outstandingMinor redeemedTotalMinor : Int) : World :=
  w.updateLiability liabilityId
    (PaykhLoyaltyLiability.asRedeemed outstandingMinor redeemedTotalMinor)
    (PaykhLoyaltyLiability.asRedeemed_id outstandingMinor redeemedTotalMinor)

/-- The state with the counters of an issuance. -/
def World.issuedOn (w : World) (fund : PaykhProgramFund) (liability : PaykhLoyaltyLiability)
    (amount : Int) : World :=
  (w.withReserved fund.id (fund.reservedMinor + amount)).withIssued liability.id
    (liability.outstandingMinor + amount) (liability.issuedTotalMinor + amount)

/-- The state with the counters of a redemption. -/
def World.redeemedOn (w : World) (liability : PaykhLoyaltyLiability) (amount : Int) : World :=
  w.withRedeemed liability.id (liability.outstandingMinor - amount)
    (liability.redeemedTotalMinor + amount)

/-- The columns hold the counters of an issuance. -/
def IssueFits (fund : PaykhProgramFund) (liability : PaykhLoyaltyLiability) (amount : Int) : Prop :=
  FitsInt8 (fund.reservedMinor + amount) ∧ FitsInt8 (liability.outstandingMinor + amount) ∧
    FitsInt8 (liability.issuedTotalMinor + amount)

/-- The columns hold the counters of a redemption. -/
def RedeemFits (liability : PaykhLoyaltyLiability) (amount : Int) : Prop :=
  FitsInt8 (liability.outstandingMinor - amount) ∧ FitsInt8 (liability.redeemedTotalMinor + amount)

/-- The entry moves an amount of a liability's currency between two accounts of its tenant. -/
structure IsLoyaltyMove (liability : PaykhLoyaltyLiability)
    (kind debitAccount creditAccount : String) (amount : Int) (e : JournalEntry) : Prop where
  move : IsMove (Runtime.toUpperCase liability.pegCurrency) debitAccount creditAccount amount
    e.references e
  program : e.references.programId = liability.tenantId
  source : e.references.source = kind ++ liability.id

/-- An issuance passes the checks, and its entry can be stored. -/
structure IssueChecks (w : World) (input : IssueLoyaltyInput) (liability : PaykhLoyaltyLiability)
    (fund : PaykhProgramFund) (amount : Money) : Prop where
  enabled : w.enabled "paykh.loyalty.enabled" = true
  found : w.paykhLoyaltyLiabilities.find? input.liabilityId = some liability
  backed : w.paykhProgramFunds.find? liability.programFundId = some fund
  resolved : ∃ units, resolveAmount liability input.amountMinor input.units = .ok (amount, units)
  positive : 0 < amount.minor
  available : amount.minor ≤ fund.fundedMinor - fund.reservedMinor
  fits : FitsInt8 amount.minor
  actor : FitsText input.actor

/-- A redemption passes the checks, and its entry can be stored. -/
structure RedeemChecks (w : World) (input : RedeemLoyaltyInput)
    (liability : PaykhLoyaltyLiability) (amount : Money) : Prop where
  enabled : w.enabled "paykh.loyalty.enabled" = true
  merchant : w.ActiveMerchant input.merchantId
  found : w.paykhLoyaltyLiabilities.find? input.liabilityId = some liability
  resolved : ∃ units, resolveAmount liability input.amountMinor input.units = .ok (amount, units)
  positive : 0 < amount.minor
  outstanding : amount.minor ≤ liability.outstandingMinor
  fits : FitsInt8 amount.minor
  actor : FitsText input.actor

/-- The entry of an issuance. -/
def IsIssuance (liability : PaykhLoyaltyLiability) (amount : Int) (e : JournalEntry) : Prop :=
  IsLoyaltyMove liability "paykh-loyalty-issue:" liabilityPaykhProgramFund
    liabilityPaykhLoyaltyStablecoin amount e

/-- The entry of a redemption. -/
def IsLoyaltyRedemption (liability : PaykhLoyaltyLiability) (amount : Int) (e : JournalEntry) :
    Prop :=
  IsLoyaltyMove liability "paykh-loyalty-redeem:" liabilityPaykhLoyaltyStablecoin
    liabilityPaykhMerchantPayable amount e

/-- The request to PayChain failed. -/
def ChainFails (gateway : IssuanceGateway) (uuid : String) (operation : IssuanceOperation)
    (liability : PaykhLoyaltyLiability) (amount : Int) : Prop :=
  ∃ e, authorizeOnChain gateway uuid operation liability (toString amount) = .error e

/-- A text that is stored once the entry is posted is refused: the customer's, or one PayChain
answered. -/
def TextRefused (gateway : IssuanceGateway) (uuid : String) (operation : IssuanceOperation)
    (liability : PaykhLoyaltyLiability) (amount : Int) (customerRef : String) : Prop :=
  ∃ chain, authorizeOnChain gateway uuid operation liability (toString amount) = .ok chain ∧
    ∃ t ∈ customerRef :: chain.texts, ¬FitsText t

/-- What an operation did to the funds, the liabilities and the ledger. -/
inductive LoyaltyEffect (w : World) : LoyaltyOp → World → Prop
  | unchanged {op : LoyaltyOp} : LoyaltyEffect w op w
  | bound {input : BindLoyaltyInput} {id : String} {fund : PaykhProgramFund}
      {denominationMinor : Int} {t : Lib.Table PaykhLoyaltyLiability.id}
      (hfund : w.paykhProgramFunds.find? input.programFundId = some fund)
      (hrequired : requiresFiatBacking fund.classification = .ok true)
      (hfree : ∀ l ∈ w.paykhLoyaltyLiabilities.rows, l.programFundId ≠ fund.id)
      (ht : w.paykhLoyaltyLiabilities.insert? (boundLiability fund input id denominationMinor) =
        some t) :
      LoyaltyEffect w (.bind input id) { w with paykhLoyaltyLiabilities := t }
  | issueBooked {gateway : IssuanceGateway} {uuid id : String} {input : IssueLoyaltyInput}
      {liability : PaykhLoyaltyLiability} {fund : PaykhProgramFund} {amount : Money}
      {e : JournalEntry} (h : IssueChecks w input liability fund amount)
      (he : IsIssuance liability amount.minor e)
      (hfails : ChainFails gateway uuid .issue liability amount.minor ∨
        TextRefused gateway uuid .issue liability amount.minor input.customerRef ∨
        ¬IssueFits fund liability amount.minor ∨
        ∃ r ∈ w.paykhLoyaltyIssuances.rows, r.id = id) :
      LoyaltyEffect w (.issue gateway uuid id input) (w.posted e)
  | issued {gateway : IssuanceGateway} {uuid id : String} {input : IssueLoyaltyInput}
      {liability : PaykhLoyaltyLiability} {fund : PaykhProgramFund} {amount : Money}
      {e : JournalEntry} {row : PaykhLoyaltyIssuance} {t : Lib.Table PaykhLoyaltyIssuance.id}
      (h : IssueChecks w input liability fund amount) (he : IsIssuance liability amount.minor e)
      (hfits : IssueFits fund liability amount.minor) (hrow : row.id = id)
      (ht : w.paykhLoyaltyIssuances.insert? row = some t) :
      LoyaltyEffect w (.issue gateway uuid id input)
        { (w.posted e).issuedOn fund liability amount.minor with paykhLoyaltyIssuances := t }
  | redeemBooked {gateway : IssuanceGateway} {clock : Clock} {uuid id : String}
      {input : RedeemLoyaltyInput} {liability : PaykhLoyaltyLiability} {amount : Money}
      {e : JournalEntry} (h : RedeemChecks w input liability amount)
      (he : IsLoyaltyRedemption liability amount.minor e)
      (hfails : ChainFails gateway uuid .burn liability amount.minor ∨
        TextRefused gateway uuid .burn liability amount.minor input.customerRef ∨
        ¬RedeemFits liability amount.minor ∨ ∃ r ∈ w.paykhLoyaltyRedemptions.rows, r.id = id) :
      LoyaltyEffect w (.redeem gateway clock uuid id input) (w.posted e)
  | redeemed {gateway : IssuanceGateway} {clock : Clock} {uuid id : String}
      {input : RedeemLoyaltyInput} {liability : PaykhLoyaltyLiability} {amount : Money}
      {e : JournalEntry} {row : PaykhLoyaltyRedemption}
      {t : Lib.Table PaykhLoyaltyRedemption.id} (h : RedeemChecks w input liability amount)
      (he : IsLoyaltyRedemption liability amount.minor e)
      (hfits : RedeemFits liability amount.minor) (hrow : row.id = id)
      (ht : w.paykhLoyaltyRedemptions.insert? row = some t)
      (hnames : row.loyaltyLiabilityId = liability.id ∧ row.merchantId = input.merchantId)
      {chain : ChainResult}
      (hchain : authorizeOnChain gateway uuid .burn liability (toString amount.minor) = .ok chain)
      (htexts : ∀ t ∈ input.customerRef :: chain.texts, FitsText t) :
      LoyaltyEffect w (.redeem gateway clock uuid id input)
        { (w.posted e).redeemedOn liability amount.minor with paykhLoyaltyRedemptions := t }
  | reconciled {gateway : IssuanceGateway} {clock : Clock} {liabilityId : String}
      {liability : PaykhLoyaltyLiability} (supply : Int) (status : String)
      (hliability : w.paykhLoyaltyLiabilities.find? liabilityId = some liability) :
      LoyaltyEffect w (.reconcile gateway clock liabilityId)
        (w.updateLiability liability.id
          (PaykhLoyaltyLiability.asReconciled supply status (clock 0))
          (PaykhLoyaltyLiability.asReconciled_id supply status (clock 0)))

/-- The operation had an effect of the list, and appended audit rows and events. -/
def HasLoyaltyEffect (w : World) (op : LoyaltyOp) (w' : World) : Prop :=
  ∃ w₁ rows events, LoyaltyEffect w op w₁ ∧ w' = w₁.logged rows events

theorem HasLoyaltyEffect.unchanged {w : World} {op : LoyaltyOp} : HasLoyaltyEffect w op w :=
  ⟨w, [], [], .unchanged, by simp⟩

theorem LoyaltyEffect.done {w w₁ : World} {op : LoyaltyOp} (h : LoyaltyEffect w op w₁) :
    HasLoyaltyEffect w op w₁ :=
  ⟨w₁, [], [], h, by simp⟩

/-! ## Outcomes -/

/-- What comes of an issuance that passes the checks: its entry is posted, and it is counted unless
something fails afterwards. -/
inductive IssueOutcome (w : World) (gateway : IssuanceGateway) (uuid id customerRef : String)
    (liability : PaykhLoyaltyLiability) (fund : PaykhProgramFund) (amount : Int)
    (e : JournalEntry) : Except ApiError IssuedLoyalty × World → Prop
  | failed {err : ApiError}
      (hfails : ChainFails gateway uuid .issue liability amount ∨
        TextRefused gateway uuid .issue liability amount customerRef ∨
        ¬IssueFits fund liability amount ∨ ∃ r ∈ w.paykhLoyaltyIssuances.rows, r.id = id) :
      IssueOutcome w gateway uuid id customerRef liability fund amount e (.error err, w.posted e)
  | counted {issued : IssuedLoyalty} {chain : ChainResult} {row : PaykhLoyaltyIssuance}
      {t : Lib.Table PaykhLoyaltyIssuance.id} {rows : List AuditLog} {events : List OutboxEvent}
      (hchain : authorizeOnChain gateway uuid .issue liability (toString amount) = .ok chain)
      (hfits : IssueFits fund liability amount) (hrow : row.id = id ∧ row.status = chain.status)
      (ht : w.paykhLoyaltyIssuances.insert? row = some t)
      (htexts : ∀ t ∈ customerRef :: chain.texts, FitsText t) :
      IssueOutcome w gateway uuid id customerRef liability fund amount e (.ok issued,
        World.logged { (w.posted e).issuedOn fund liability amount with paykhLoyaltyIssuances := t }
          rows events)

/-- What comes of a redemption that passes the checks. -/
inductive RedeemOutcome (w : World) (gateway : IssuanceGateway)
    (uuid id merchantId customerRef : String) (liability : PaykhLoyaltyLiability) (amount : Int)
    (e : JournalEntry) :
    Except ApiError RedeemedLoyalty × World → Prop
  | failed {err : ApiError}
      (hfails : ChainFails gateway uuid .burn liability amount ∨
        TextRefused gateway uuid .burn liability amount customerRef ∨
        ¬RedeemFits liability amount ∨ ∃ r ∈ w.paykhLoyaltyRedemptions.rows, r.id = id) :
      RedeemOutcome w gateway uuid id merchantId customerRef liability amount e
        (.error err, w.posted e)
  | counted {redeemed : RedeemedLoyalty} {chain : ChainResult} {row : PaykhLoyaltyRedemption}
      {t : Lib.Table PaykhLoyaltyRedemption.id} {rows : List AuditLog} {events : List OutboxEvent}
      (hchain : authorizeOnChain gateway uuid .burn liability (toString amount) = .ok chain)
      (hfits : RedeemFits liability amount) (hrow : row.id = id)
      (hnames : row.loyaltyLiabilityId = liability.id ∧ row.merchantId = merchantId)
      (ht : w.paykhLoyaltyRedemptions.insert? row = some t)
      (htexts : ∀ t ∈ customerRef :: chain.texts, FitsText t) :
      RedeemOutcome w gateway uuid id merchantId customerRef liability amount e (.ok redeemed,
        World.logged { (w.posted e).redeemedOn liability amount with paykhLoyaltyRedemptions := t }
          rows events)

/-! ## What the parts do -/

theorem run_requireLiability (liabilityId : String) (w : World) :
    (requireLiability liabilityId).run w = (orThrow (w.paykhLoyaltyLiabilities.find? liabilityId)
      (.notFound ("Loyalty liability " ++ liabilityId ++ " not found")), w) := rfl

/-- The amount is in the peg currency, and token units never exceed it. -/
theorem resolveAmount_ok {liability : PaykhLoyaltyLiability} {amountMinor unitsText : Option String}
    {amount : Money} {units : Option Int}
    (h : resolveAmount liability amountMinor unitsText = .ok (amount, units)) :
    amount.currency = Runtime.toUpperCase liability.pegCurrency ∧
      ∀ n ∈ units, 0 ≤ n ∧ n ≤ amount.minor := by
  unfold resolveAmount at h
  cases hunits : given unitsText with
  | some text =>
    rw [hunits] at h
    obtain ⟨n, -, h⟩ := bind_eq_ok.mp h
    obtain ⟨peg, hpeg, h⟩ := bind_eq_ok.mp h
    obtain ⟨backing, hbacking, h⟩ := bind_eq_ok.mp h
    cases h
    unfold makePeg at hpeg
    split_ifs at hpeg with hpositive
    cases hpeg
    unfold backingForUnits at hbacking
    split_ifs at hbacking with hneg
    cases hbacking
    refine ⟨Runtime.toUpperCase_toUpperCase _, ?_⟩
    intro m hm
    cases hm
    rw [money_minor]
    have hone : 1 ≤ liability.denominationMinor := by omega
    exact ⟨by omega, le_mul_of_one_le_right (by omega) hone⟩
  | none =>
    rw [hunits] at h
    cases hminor : given amountMinor with
    | none =>
      rw [hminor] at h
      cases h
    | some text =>
      rw [hminor] at h
      obtain ⟨n, -, h⟩ := bind_eq_ok.mp h
      cases h
      exact ⟨rfl, nofun⟩

omit [Runtime] in
theorem fitsInt8_of_le {n m : Int} (hn : 0 ≤ n) (hnm : n ≤ m) (hm : FitsInt8 m) : FitsInt8 n := by
  unfold FitsInt8 at hm ⊢
  omega

/-- What a loyalty entry is, when it is built and posted. -/
theorem isLoyaltyMove {liability : PaykhLoyaltyLiability}
    {description debitAccount creditAccount kind actor : String} {amount : Money}
    {e : JournalEntry}
    (h : transferEntry description debitAccount creditAccount amount
      (loyaltyReferences liability kind actor) = .ok e)
    (hcurrency : amount.currency = Runtime.toUpperCase liability.pegCurrency)
    (hstored : e.Fits) : FitsInt8 amount.minor ∧ FitsText actor ∧
      IsLoyaltyMove liability kind debitAccount creditAccount amount.minor e := by
  obtain ⟨-, hmove⟩ := buildJournalEntry_move h
  have hrefs := hmove.entry_references
  refine ⟨?_, ?_, ?_, by rw [hrefs]; rfl, by rw [hrefs]; rfl⟩
  · have htotal := hstored.amounts e.totalDebit.minor List.mem_cons_self
    rwa [hmove.totalDebit] at htotal
  · exact actor_of_transferEntry h hstored
  · rw [← hcurrency, hrefs]
    exact hmove

/-- A merchant that is active is found so. -/
theorem run_requireActive_of {w : World} {merchantId : String} (h : w.ActiveMerchant merchantId) :
    ∃ m, (MerchantsService.requireActive merchantId).run w = (.ok m, w) := by
  obtain ⟨m, hm, hstatus, hkyc⟩ := h
  refine ⟨m, ?_⟩
  unfold MerchantsService.requireActive
  rw [Call.run_bind, Entity.run_findUnique]
  simp only [Prisma.paykhMerchant_get]
  rw [hm, Call.run_lift_bind]
  simp only [orThrow]
  rw [Call.run_throwIf_bind, if_neg (not_not.mpr hstatus), Call.run_throwIf_bind,
    if_neg (not_not.mpr hkyc), Call.run_pure]

/-- An amount of a liability can be booked: its entry is built and stored, and moves it. -/
theorem exists_loyaltyMove {liability : PaykhLoyaltyLiability} {amount : Money}
    {t t' : LedgerAccountType} (description debitAccount creditAccount kind actor : String)
    (hdebit : ledgerAccountTypeOf debitAccount = .ok t)
    (hcredit : ledgerAccountTypeOf creditAccount = .ok t')
    (hcurrency : amount.currency = Runtime.toUpperCase liability.pegCurrency)
    (hpositive : 0 < amount.minor) (hfits : FitsInt8 amount.minor) (hactor : FitsText actor) :
    ∃ e, transferEntry description debitAccount creditAccount amount
        (loyaltyReferences liability kind actor) = .ok e ∧ e.Fits ∧
      IsLoyaltyMove liability kind debitAccount creditAccount amount.minor e := by
  have hmoney : amount = money amount.minor liability.pegCurrency := by
    unfold money
    rw [← hcurrency]
  have hbuilt := @exists_transferEntry _ description debitAccount creditAccount amount.minor
    liability.pegCurrency (loyaltyReferences liability kind actor) t t' hpositive hdebit hcredit
  rw [← hmoney] at hbuilt
  obtain ⟨e, he⟩ := hbuilt
  have hrefs := (buildJournalEntry_move he).2.entry_references
  have hstored : e.Fits := ⟨storedAmounts_move he hfits, by rw [hrefs]; exact hactor⟩
  exact ⟨e, he, hstored, (isLoyaltyMove he hcurrency hstored).2.2⟩

/-! ## Transactions -/

omit [Runtime] in
theorem checkForeignKey_of_some {α : Type} {x : Option α} {a : α} (h : x = some a) :
    checkForeignKey x.isSome = .ok () := by
  rw [h]
  rfl

/-- The liability is still there after it is rewritten. -/
theorem find?_updateLiability {w : World} {liabilityId : String} {l : PaykhLoyaltyLiability}
    (hl : w.paykhLoyaltyLiabilities.find? liabilityId = some l)
    (f : PaykhLoyaltyLiability → PaykhLoyaltyLiability) (hf : ∀ l, (f l).id = l.id) :
    (w.updateLiability liabilityId f hf).paykhLoyaltyLiabilities.find? liabilityId =
      some (f l) := by
  show (w.paykhLoyaltyLiabilities.modify liabilityId f hf).find? liabilityId = some (f l)
  rw [Lib.Table.find?_modify, if_pos rfl, hl, Option.map_some]

/-- What an issuance stores when its transaction succeeds. -/
theorem issueTx_ok {w w' : World} {fund : PaykhProgramFund} {liability : PaykhLoyaltyLiability}
    {amount : Int} {row stored : PaykhLoyaltyIssuance}
    (h : issueTx fund liability amount row w = .ok (stored, w')) :
    stored = row ∧
      ∃ t, w' = { w.issuedOn fund liability amount with paykhLoyaltyIssuances := t } := by
  unfold issueTx at h
  obtain ⟨⟨r, w₁⟩, hfund, h⟩ := bind_eq_ok.mp h
  obtain ⟨⟨r', w₂⟩, hliability, h⟩ := bind_eq_ok.mp h
  obtain ⟨-, -, -, -, rfl⟩ := Entity.updateTx_ok _ hfund
  obtain ⟨-, -, -, -, rfl⟩ := Entity.updateTx_ok _ hliability
  obtain ⟨-, rfl, t, -, rfl⟩ := Entity.createTx_ok _ h
  exact ⟨rfl, t, rfl⟩

/-- What a redemption stores when its transaction succeeds. -/
theorem redeemTx_ok {w w' : World} {liability : PaykhLoyaltyLiability} {amount : Int}
    {row stored : PaykhLoyaltyRedemption}
    (h : redeemTx liability amount row w = .ok (stored, w')) :
    stored = row ∧
      ∃ t, w' = { w.redeemedOn liability amount with paykhLoyaltyRedemptions := t } := by
  unfold redeemTx at h
  obtain ⟨⟨r, w₁⟩, hliability, h⟩ := bind_eq_ok.mp h
  obtain ⟨-, -, -, -, rfl⟩ := Entity.updateTx_ok _ hliability
  obtain ⟨-, rfl, t, -, rfl⟩ := Entity.createTx_ok _ h
  exact ⟨rfl, t, rfl⟩

/-- The transaction of an issuance stores its counters and its row, or fails. -/
theorem issueTx_cases {w : World} {fund : PaykhProgramFund} {liability : PaykhLoyaltyLiability}
    {amount : Int} (row : PaykhLoyaltyIssuance)
    (hfund : w.paykhProgramFunds.find? fund.id = some fund)
    (hliability : w.paykhLoyaltyLiabilities.find? liability.id = some liability)
    (hkey : row.loyaltyLiabilityId = liability.id)
    (hrow : ∀ n ∈ row.amountMinor :: row.units.toList, FitsInt8 n) :
    (∃ e, issueTx fund liability amount row w = .error e ∧
      ((∃ t ∈ issuanceTexts row, ¬FitsText t) ∨ ¬IssueFits fund liability amount ∨
        ∃ r ∈ w.paykhLoyaltyIssuances.rows, r.id = row.id)) ∨
    IssueFits fund liability amount ∧ (∀ t ∈ issuanceTexts row, FitsText t) ∧
      ∃ t, w.paykhLoyaltyIssuances.insert? row = some t ∧
      issueTx fund liability amount row w =
        .ok (row, { w.issuedOn fund liability amount with paykhLoyaltyIssuances := t }) := by
  have hupdateFund : Prisma.paykhProgramFund.updateTx
      (int8Columns [fund.reservedMinor + amount]) fund.id
      (PaykhProgramFund.withReserved (fund.reservedMinor + amount))
      (PaykhProgramFund.withReserved_id (fund.reservedMinor + amount)) w = _ :=
    Prisma.paykhProgramFund.updateTx_int8 hfund
  unfold issueTx
  dsimp only
  rw [hupdateFund]
  split_ifs with hreserved
  swap
  · exact .inl ⟨_, rfl, .inr (.inl fun h => hreserved (by simpa using h.1))⟩
  -- The fund is rewritten; the liability is still the one that was read.
  set w₁ := w.withReserved fund.id (fund.reservedMinor + amount)
  have hliability₁ : w₁.paykhLoyaltyLiabilities.find? liability.id = some liability := hliability
  have hupdateLiability : Prisma.paykhLoyaltyLiability.updateTx
      (int8Columns [liability.outstandingMinor + amount, liability.issuedTotalMinor + amount])
      liability.id (PaykhLoyaltyLiability.asIssued (liability.outstandingMinor + amount)
        (liability.issuedTotalMinor + amount))
      (PaykhLoyaltyLiability.asIssued_id (liability.outstandingMinor + amount)
        (liability.issuedTotalMinor + amount)) w₁ = _ :=
    Prisma.paykhLoyaltyLiability.updateTx_int8 hliability₁
  show (∃ e, (Prisma.paykhLoyaltyLiability.updateTx _ _ _ _ w₁ >>= _) = _ ∧ _) ∨
    _ ∧ _ ∧ ∃ t, _ ∧ (Prisma.paykhLoyaltyLiability.updateTx _ _ _ _ w₁ >>= _) = _
  rw [hupdateLiability]
  split_ifs with hissued
  swap
  · exact .inl ⟨_, rfl, .inr (.inl fun h => hissued (by simpa using h.2))⟩
  have hfits : IssueFits fund liability amount := by
    simpa [IssueFits, and_assoc] using And.intro hreserved hissued
  by_cases htexts : ∀ t ∈ issuanceTexts row, FitsText t
  swap
  · obtain ⟨t, ht, hunfit⟩ := not_forall₂.mp htexts
    have hrefused : issuanceConstraints row (w.issuedOn fund liability amount) = _ :=
      checkTexts_bind_of_not htexts _
    exact .inl ⟨_, Prisma.paykhLoyaltyIssuance.createTx_of_refused hrefused, .inl ⟨t, ht, hunfit⟩⟩
  have hcheck : issuanceConstraints row (w.issuedOn fund liability amount) = .ok () := by
    unfold issuanceConstraints
    rw [(checkTexts_eq_ok (u := ())).mpr htexts, (checkInt8_eq_ok (u := ())).mpr hrow, hkey]
    exact checkForeignKey_of_some (find?_updateLiability hliability₁
      (PaykhLoyaltyLiability.asIssued (liability.outstandingMinor + amount)
        (liability.issuedTotalMinor + amount))
      (PaykhLoyaltyLiability.asIssued_id (liability.outstandingMinor + amount)
        (liability.issuedTotalMinor + amount)))
  cases hinsert : w.paykhLoyaltyIssuances.insert? row with
  | none =>
    left
    exact ⟨_, Prisma.paykhLoyaltyIssuance.createTx_of_taken hcheck hinsert,
      .inr (.inr (Lib.Table.insert?_eq_none hinsert))⟩
  | some t =>
    right
    exact ⟨hfits, htexts, t, rfl, Prisma.paykhLoyaltyIssuance.createTx_of hcheck hinsert⟩

/-- The transaction of a redemption stores its counters and its row, or fails. -/
theorem redeemTx_cases {w : World} {liability : PaykhLoyaltyLiability} {amount : Int}
    (row : PaykhLoyaltyRedemption)
    (hliability : w.paykhLoyaltyLiabilities.find? liability.id = some liability)
    (hkey : row.loyaltyLiabilityId = liability.id) (hrow : FitsInt8 row.amountMinor) :
    (∃ e, redeemTx liability amount row w = .error e ∧
      ((∃ t ∈ loyaltyRedemptionTexts row, ¬FitsText t) ∨ ¬RedeemFits liability amount ∨
        ∃ r ∈ w.paykhLoyaltyRedemptions.rows, r.id = row.id)) ∨
    RedeemFits liability amount ∧ (∀ t ∈ loyaltyRedemptionTexts row, FitsText t) ∧
      ∃ t, w.paykhLoyaltyRedemptions.insert? row = some t ∧
      redeemTx liability amount row w =
        .ok (row, { w.redeemedOn liability amount with paykhLoyaltyRedemptions := t }) := by
  have hupdate : Prisma.paykhLoyaltyLiability.updateTx
      (int8Columns [liability.outstandingMinor - amount, liability.redeemedTotalMinor + amount])
      liability.id (PaykhLoyaltyLiability.asRedeemed (liability.outstandingMinor - amount)
        (liability.redeemedTotalMinor + amount))
      (PaykhLoyaltyLiability.asRedeemed_id (liability.outstandingMinor - amount)
        (liability.redeemedTotalMinor + amount)) w = _ :=
    Prisma.paykhLoyaltyLiability.updateTx_int8 hliability
  unfold redeemTx
  dsimp only
  rw [hupdate]
  split_ifs with hredeemed
  swap
  · exact .inl ⟨_, rfl, .inr (.inl fun h => hredeemed (by simpa [RedeemFits] using h))⟩
  have hfits : RedeemFits liability amount := by
    simpa [RedeemFits] using hredeemed
  by_cases htexts : ∀ t ∈ loyaltyRedemptionTexts row, FitsText t
  swap
  · obtain ⟨t, ht, hunfit⟩ := not_forall₂.mp htexts
    have hrefused : loyaltyRedemptionConstraints row (w.redeemedOn liability amount) = _ :=
      checkTexts_bind_of_not htexts _
    exact .inl ⟨_, Prisma.paykhLoyaltyRedemption.createTx_of_refused hrefused,
      .inl ⟨t, ht, hunfit⟩⟩
  have hcheck : loyaltyRedemptionConstraints row (w.redeemedOn liability amount) = .ok () := by
    unfold loyaltyRedemptionConstraints
    rw [(checkTexts_eq_ok (u := ())).mpr htexts, (checkInt8_eq_ok (u := ())).mpr fun n hn =>
      List.mem_singleton.mp hn ▸ hrow, hkey]
    exact checkForeignKey_of_some (find?_updateLiability hliability
      (PaykhLoyaltyLiability.asRedeemed (liability.outstandingMinor - amount)
        (liability.redeemedTotalMinor + amount))
      (PaykhLoyaltyLiability.asRedeemed_id (liability.outstandingMinor - amount)
        (liability.redeemedTotalMinor + amount)))
  cases hinsert : w.paykhLoyaltyRedemptions.insert? row with
  | none =>
    left
    exact ⟨_, Prisma.paykhLoyaltyRedemption.createTx_of_taken hcheck hinsert,
      .inr (.inr (Lib.Table.insert?_eq_none hinsert))⟩
  | some t =>
    right
    exact ⟨hfits, htexts, t, rfl, Prisma.paykhLoyaltyRedemption.createTx_of hcheck hinsert⟩

/-! ## Calls that pass the checks -/

/-- **An issuance that passes the checks.** -/
theorem run_issue_of {w : World} {input : IssueLoyaltyInput} {liability : PaykhLoyaltyLiability}
    {fund : PaykhProgramFund} {amount : Money} (h : IssueChecks w input liability fund amount)
    (gateway : IssuanceGateway) (uuid id : String) :
    ∃ e, IsIssuance liability amount.minor e ∧
      IssueOutcome w gateway uuid id input.customerRef liability fund amount.minor e
        ((LoyaltyService.issue gateway uuid id input).run w) := by
  obtain ⟨units, hresolved⟩ := h.resolved
  obtain ⟨hcurrency, hunits⟩ := resolveAmount_ok hresolved
  obtain ⟨e, he, hstored, hentry⟩ := exists_loyaltyMove
    "PayKH backed loyalty stablecoin issued (program fund earmarked)" liabilityPaykhProgramFund
    liabilityPaykhLoyaltyStablecoin "paykh-loyalty-issue:" input.actor rfl rfl hcurrency
    h.positive h.fits h.actor
  have hbuilt : paykhLoyaltyIssuanceEntry amount
      (loyaltyReferences liability "paykh-loyalty-issue:" input.actor) = .ok e := he
  refine ⟨e, hentry, ?_⟩
  unfold LoyaltyService.issue
  rw [Call.run_bind, run_requireEnabled, if_pos h.enabled]
  simp only
  rw [Call.run_bind, run_requireLiability, h.found]
  simp only [orThrow]
  rw [Call.run_bind, Entity.run_findUnique]
  simp only [Prisma.paykhProgramFund_get]
  rw [Call.run_lift_bind, h.backed]
  simp only
  rw [Call.run_lift_bind, hresolved]
  simp only
  rw [Call.run_throwIf_bind, if_neg (not_le.mpr h.positive), Call.run_throwIf_bind,
    if_neg (not_lt.mpr h.available), Call.run_lift_bind, hbuilt]
  simp only
  rw [Call.run_bind, run_post_of hstored]
  simp only
  rw [Call.run_lift_bind]
  -- The entry is posted; from here on a failure leaves it behind.
  cases hchain : authorizeOnChain gateway uuid .issue liability (toString amount.minor) with
  | error err => exact .failed (.inl ⟨err, hchain⟩)
  | ok chain =>
    simp only
    rw [Call.run_bind, Call.run_query]
    have hrow : ∀ n ∈ amount.minor :: units.toList, FitsInt8 n := by
      refine List.forall_mem_cons.mpr ⟨h.fits, fun n hn => ?_⟩
      obtain ⟨hnonneg, hle⟩ := hunits n (Option.mem_toList.mp hn)
      exact fitsInt8_of_le hnonneg hle h.fits
    rcases issueTx_cases (w := w.posted e)
      (issuanceRow input id liability amount.minor units chain)
      (Lib.Table.find?_key_of_mem (Lib.Table.mem_of_find? h.backed))
      (Lib.Table.find?_key_of_mem (Lib.Table.mem_of_find? h.found)) rfl hrow with
      ⟨err, htx, hrefused | hfails⟩ | ⟨hcounters, htexts, t, ht, htx⟩
    · rw [htx]
      exact .failed (.inr (.inl ⟨chain, hchain, hrefused⟩))
    · rw [htx]
      exact .failed (.inr (.inr hfails))
    · rw [htx]
      simp only
      rw [Call.run_bind, run_record_of (AuditRecord.fits_iff.mpr ⟨h.actor, by simp⟩)]
      simp only [Call.run_bind, run_publishToPaykh, Call.run_pure, World.logged_logged]
      exact .counted hchain hcounters ⟨rfl, rfl⟩ ht htexts

/-- **A redemption that passes the checks.** -/
theorem run_redeem_of {w : World} {input : RedeemLoyaltyInput} {liability : PaykhLoyaltyLiability}
    {amount : Money} (h : RedeemChecks w input liability amount) (gateway : IssuanceGateway)
    (clock : Clock) (uuid id : String) :
    ∃ e, IsLoyaltyRedemption liability amount.minor e ∧
      RedeemOutcome w gateway uuid id input.merchantId input.customerRef liability amount.minor e
        ((LoyaltyService.redeem gateway clock uuid id input).run w) := by
  obtain ⟨units, hresolved⟩ := h.resolved
  obtain ⟨m, hactive⟩ := run_requireActive_of h.merchant
  obtain ⟨e, he, hstored, hentry⟩ := exists_loyaltyMove
    "PayKH loyalty stablecoin redeemed to merchant payable" liabilityPaykhLoyaltyStablecoin
    liabilityPaykhMerchantPayable "paykh-loyalty-redeem:" input.actor rfl rfl
    (resolveAmount_ok hresolved).1 h.positive h.fits h.actor
  have hbuilt : paykhLoyaltyRedemptionEntry amount
      (loyaltyReferences liability "paykh-loyalty-redeem:" input.actor) = .ok e := he
  refine ⟨e, hentry, ?_⟩
  unfold LoyaltyService.redeem
  rw [Call.run_bind, run_requireEnabled, if_pos h.enabled]
  simp only
  rw [Call.run_bind, hactive]
  simp only
  rw [Call.run_bind, run_requireLiability, h.found]
  simp only [orThrow]
  rw [Call.run_lift_bind, hresolved]
  simp only
  rw [Call.run_throwIf_bind, if_neg (not_le.mpr h.positive), Call.run_throwIf_bind,
    if_neg (not_lt.mpr h.outstanding), Call.run_lift_bind, hbuilt]
  simp only
  rw [Call.run_bind, run_post_of hstored]
  simp only
  rw [Call.run_lift_bind]
  cases hchain : authorizeOnChain gateway uuid .burn liability (toString amount.minor) with
  | error err => exact .failed (.inl ⟨err, hchain⟩)
  | ok chain =>
    simp only
    rw [Call.run_bind, Call.run_query]
    rcases redeemTx_cases (w := w.posted e)
      (loyaltyRedemptionRow input id liability amount.minor chain (clock 0))
      (Lib.Table.find?_key_of_mem (Lib.Table.mem_of_find? h.found)) rfl h.fits with
      ⟨err, htx, hrefused | hfails⟩ | ⟨hcounters, htexts, t, ht, htx⟩
    · rw [htx]
      exact .failed (.inr (.inl ⟨chain, hchain, hrefused⟩))
    · rw [htx]
      exact .failed (.inr (.inr hfails))
    · rw [htx]
      simp only
      rw [Call.run_bind, run_record_of (AuditRecord.fits_iff.mpr ⟨h.actor, by simp⟩)]
      simp only [Call.run_bind, run_publishToPaykh, Call.run_pure, World.logged_logged]
      exact .counted hchain hcounters rfl ⟨rfl, rfl⟩ ht htexts

/-! ## Every operation -/

theorem bind_effect (w : World) (input : BindLoyaltyInput) (id : String) :
    HasLoyaltyEffect w (.bind input id) ((LoyaltyService.bind input id).run w).2 := by
  refine Served.effect .unchanged ?_
  unfold LoyaltyService.bind
  refine .find_bind Prisma.paykhProgramFund fun fund hfund => ?_
  refine .lift_bind fun required hrequired => ?_
  refine .throwIf_bind fun hbacked => ?_
  rw [Call.run_bind, Entity.run_findFirst]
  simp only [Prisma.paykhLoyaltyLiability_get]
  refine .throwIf_bind fun hexisting => ?_
  have hfree : ∀ l ∈ w.paykhLoyaltyLiabilities.rows, l.programFundId ≠ fund.id := by
    simpa using hexisting
  refine .lift_bind fun denominationMinor _ => ?_
  refine .throwIf_bind fun hpositive => ?_
  refine .create_bind Prisma.paykhLoyaltyLiability fun t ht => ?_
  rw [Bool.not_eq_false] at hbacked
  rw [hbacked] at hrequired
  exact .logs (.bound hfund hrequired hfree ht) (.record_bind (logs_pure _))

/-- An issuance fails and changes nothing, or it passes the checks. -/
theorem run_issue_checked (w : World) (gateway : IssuanceGateway) (uuid id : String)
    (input : IssueLoyaltyInput) :
    (∃ err, (LoyaltyService.issue gateway uuid id input).run w = (.error err, w)) ∨
      ∃ liability fund amount, IssueChecks w input liability fund amount := by
  unfold LoyaltyService.issue
  rw [Call.run_bind, run_requireEnabled]
  split_ifs with henabled
  swap
  · exact .inl ⟨_, rfl⟩
  simp only
  rw [Call.run_bind, run_requireLiability]
  cases hliability : w.paykhLoyaltyLiabilities.find? input.liabilityId with
  | none => exact .inl ⟨_, rfl⟩
  | some liability =>
    simp only [orThrow]
    rw [Call.run_bind, Entity.run_findUnique]
    simp only [Prisma.paykhProgramFund_get]
    rw [Call.run_lift_bind]
    cases hfund : w.paykhProgramFunds.find? liability.programFundId with
    | none => exact .inl ⟨_, rfl⟩
    | some fund =>
      simp only
      rw [Call.run_lift_bind]
      cases hamount : resolveAmount liability input.amountMinor input.units with
      | error e => exact .inl ⟨_, rfl⟩
      | ok resolved =>
        obtain ⟨amount, units⟩ := resolved
        simp only
        rw [Call.run_throwIf_bind]
        split_ifs with hpositive
        · exact .inl ⟨_, rfl⟩
        rw [Call.run_throwIf_bind]
        split_ifs with havailable
        · exact .inl ⟨_, rfl⟩
        rw [Call.run_lift_bind]
        cases he : paykhLoyaltyIssuanceEntry amount
          (loyaltyReferences liability "paykh-loyalty-issue:" input.actor) with
        | error e => exact .inl ⟨_, rfl⟩
        | ok e =>
          simp only
          rw [Call.run_bind]
          rcases run_post_cases e w with ⟨-, err, hpost⟩ | ⟨hstored, hpost⟩
          · rw [hpost]
            exact .inl ⟨_, rfl⟩
          obtain ⟨hfits, hactor, -⟩ := isLoyaltyMove he (resolveAmount_ok hamount).1 hstored
          exact .inr ⟨liability, fund, amount, henabled, hliability, hfund, ⟨units, hamount⟩,
            not_le.mp hpositive, not_lt.mp havailable, hfits, hactor⟩

/-- An issuance alone: it fails and changes nothing, or it passes the checks. -/
theorem run_loyaltyIssue_cases (w : World) (gateway : IssuanceGateway) (uuid id : String)
    (input : IssueLoyaltyInput) :
    (∃ err, (LoyaltyService.issue gateway uuid id input).run w = (.error err, w)) ∨
      (∃ liability fund amount, IssueChecks w input liability fund amount) ∧
        HasLoyaltyEffect w (.issue gateway uuid id input)
          ((LoyaltyService.issue gateway uuid id input).run w).2 := by
  rcases run_issue_checked w gateway uuid id input with hfailed | ⟨liability, fund, amount, h⟩
  · exact .inl hfailed
  · obtain ⟨e, he, houtcome⟩ := run_issue_of h gateway uuid id
    refine .inr ⟨⟨liability, fund, amount, h⟩, ?_⟩
    generalize (LoyaltyService.issue gateway uuid id input).run w = result at houtcome ⊢
    cases houtcome with
    | failed hfails => exact LoyaltyEffect.done (.issueBooked h he hfails)
    | counted hchain hfits hrow ht htexts => exact ⟨_, _, _, .issued h he hfits hrow.1 ht, rfl⟩

theorem issue_effect (w : World) (gateway : IssuanceGateway) (uuid id : String)
    (input : IssueLoyaltyInput) :
    HasLoyaltyEffect w (.issue gateway uuid id input)
      ((LoyaltyService.issue gateway uuid id input).run w).2 := by
  rcases run_loyaltyIssue_cases w gateway uuid id input with ⟨err, h⟩ | ⟨-, h⟩
  · rw [h]
    exact .unchanged
  · exact h

/-- A redemption fails and changes nothing, or it passes the checks. -/
theorem run_redeem_checked (w : World) (gateway : IssuanceGateway) (clock : Clock)
    (uuid id : String) (input : RedeemLoyaltyInput) :
    (∃ err, (LoyaltyService.redeem gateway clock uuid id input).run w = (.error err, w)) ∨
      ∃ liability amount, RedeemChecks w input liability amount := by
  unfold LoyaltyService.redeem
  rw [Call.run_bind, run_requireEnabled]
  split_ifs with henabled
  swap
  · exact .inl ⟨_, rfl⟩
  simp only
  rw [Call.run_bind]
  rcases run_requireActive input.merchantId w with ⟨e, h⟩ | ⟨m, hmerchant, h⟩
  · rw [h]
    exact .inl ⟨_, rfl⟩
  rw [h]
  simp only
  rw [Call.run_bind, run_requireLiability]
  cases hliability : w.paykhLoyaltyLiabilities.find? input.liabilityId with
  | none => exact .inl ⟨_, rfl⟩
  | some liability =>
    simp only [orThrow]
    rw [Call.run_lift_bind]
    cases hamount : resolveAmount liability input.amountMinor input.units with
    | error e => exact .inl ⟨_, rfl⟩
    | ok resolved =>
      obtain ⟨amount, units⟩ := resolved
      simp only
      rw [Call.run_throwIf_bind]
      split_ifs with hpositive
      · exact .inl ⟨_, rfl⟩
      rw [Call.run_throwIf_bind]
      split_ifs with houtstanding
      · exact .inl ⟨_, rfl⟩
      rw [Call.run_lift_bind]
      cases he : paykhLoyaltyRedemptionEntry amount
        (loyaltyReferences liability "paykh-loyalty-redeem:" input.actor) with
      | error e => exact .inl ⟨_, rfl⟩
      | ok e =>
        simp only
        rw [Call.run_bind]
        rcases run_post_cases e w with ⟨-, err, hpost⟩ | ⟨hstored, hpost⟩
        · rw [hpost]
          exact .inl ⟨_, rfl⟩
        obtain ⟨hfits, hactor, -⟩ := isLoyaltyMove he (resolveAmount_ok hamount).1 hstored
        exact .inr ⟨liability, amount, henabled, hmerchant, hliability, ⟨units, hamount⟩,
          not_le.mp hpositive, not_lt.mp houtstanding, hfits, hactor⟩

theorem redeem_effect (w : World) (gateway : IssuanceGateway) (clock : Clock) (uuid id : String)
    (input : RedeemLoyaltyInput) :
    HasLoyaltyEffect w (.redeem gateway clock uuid id input)
      ((LoyaltyService.redeem gateway clock uuid id input).run w).2 := by
  rcases run_redeem_checked w gateway clock uuid id input with
    ⟨err, hfailed⟩ | ⟨liability, amount, h⟩
  · rw [hfailed]
    exact .unchanged
  · obtain ⟨e, he, houtcome⟩ := run_redeem_of h gateway clock uuid id
    generalize (LoyaltyService.redeem gateway clock uuid id input).run w = result at houtcome ⊢
    cases houtcome with
    | failed hfails => exact LoyaltyEffect.done (.redeemBooked h he hfails)
    | counted hchain hfits hrow hnames ht htexts =>
      exact ⟨_, _, _, .redeemed h he hfits hrow ht hnames hchain htexts, rfl⟩

theorem reconcile_effect (w : World) (gateway : IssuanceGateway) (clock : Clock)
    (liabilityId : String) :
    HasLoyaltyEffect w (.reconcile gateway clock liabilityId)
      ((LoyaltyService.reconcile gateway clock liabilityId).run w).2 := by
  refine Served.effect .unchanged ?_
  unfold LoyaltyService.reconcile
  refine .look_bind (run_requireLiability liabilityId w) fun liability hliability => ?_
  rw [Call.run_bind, Entity.run_findUnique]
  simp only
  rw [Call.run_bind, run_accountBalance (t := .liability) rfl]
  simp only
  refine .lift_bind fun supply _ => ?_
  refine .update_bind Prisma.paykhLoyaltyLiability fun l _ => ?_
  exact .done (.reconciled _ _ (orThrow_eq_ok.mp hliability)) _ _

/-- **Every operation has an effect in the list.** -/
theorem LoyaltyOp.effect (w : World) (op : LoyaltyOp) : HasLoyaltyEffect w op (op.step w) := by
  cases op with
  | bind input id => simpa [step, call] using bind_effect w input id
  | issue gateway uuid id input => simpa [step, call] using issue_effect w gateway uuid id input
  | redeem gateway clock uuid id input =>
    simpa [step, call] using redeem_effect w gateway clock uuid id input
  | reconcile gateway clock liabilityId =>
    simpa [step, call] using reconcile_effect w gateway clock liabilityId

theorem requireLiability_keeps {τ : Type} {g : World → τ} (liabilityId : String) :
    (requireLiability liabilityId).Keeps g :=
  (Call.keeps_read _ _ _).bind fun _ => Call.keeps_lift _ _

end

end TrusteeBank
