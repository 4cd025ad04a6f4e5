import TrusteeBank.Paykh.LoyaltyBooks

/-!
# Requests that fail on chain

An issuance or a redemption posts its entry, asks PayChain, and counts the amount. PayChain can
throw, or answer that it does not accept. What was posted before is not taken back in either case,
and an answer is counted whatever it says.

* `issue_thrown`, `redeem_thrown`: after an exception the entry is posted and nothing is counted;
* `issue_refused`, `redeem_refused`: a refusal is counted as an acceptance is;
* `failed_request_traced`: so no call that PayChain fails leaves the state as it was.
-/

set_option autoImplicit false

namespace TrusteeBank

open LedgerAccountCode LoyaltyService

section

variable [Runtime]

/-! ## Requests -/

/-- What PayChain is asked. -/
def executionRequest (uuid : String) (operation : IssuanceOperation)
    (liability : PaykhLoyaltyLiability) (assetCode destination amountMinor : String) :
    IssuanceExecutionRequest :=
  let reference := "paykh-loyalty-" ++ operation.lowerName ++ ":" ++ liability.id ++ ":" ++ uuid
  { authorizationId := reference
    operation, assetCode, destination, amountMinor
    decimals := liability.decimals
    currency := liability.pegCurrency
    reference
    signature := signPayload .mintAuthorization
      (chainArtifact operation liability assetCode destination amountMinor reference) }

/-- PayChain is asked for an amount, and this is what it replies. -/
structure Asked (gateway : IssuanceGateway) (uuid : String) (operation : IssuanceOperation)
    (liability : PaykhLoyaltyLiability) (amount : Int)
    (reply : Except ApiError IssuanceExecutionResult) : Prop where
  asked : ∃ assetCode destination send, given liability.stellarAssetCode = some assetCode ∧
    given liability.stellarDistributor = some destination ∧ gateway.paychain = some send ∧
    send (executionRequest uuid operation liability assetCode destination (toString amount)) = reply

/-- A reply other than an acceptance. -/
def IsFailure (reply : Except ApiError IssuanceExecutionResult) : Prop :=
  ∀ res, reply = .ok res → res.accepted = false

/-- The request is the one the service sends. -/
theorem Asked.authorizeOnChain {gateway : IssuanceGateway} {uuid : String}
    {operation : IssuanceOperation} {liability : PaykhLoyaltyLiability} {amount : Int}
    {reply : Except ApiError IssuanceExecutionResult}
    (h : Asked gateway uuid operation liability amount reply) :
    authorizeOnChain gateway uuid operation liability (toString amount) =
      reply.map fun res =>
        { status := if res.accepted then "ONCHAIN_CONFIRMED" else "ONCHAIN_FAILED"
          executedBy := "paychain"
          paychainReference := res.paychainReference
          onChainTxHash := res.onChainTxHash } := by
  obtain ⟨assetCode, destination, send, hcode, hdestination, hpaychain, hreply⟩ := h.asked
  unfold LoyaltyService.authorizeOnChain IssuanceGatewayService.execute
  dsimp only [executionRequest] at hreply
  rw [hcode, hdestination, hpaychain]
  dsimp only
  rw [hreply]
  cases reply <;> rfl

/-- The call reaches PayChain, which throws or does not accept. -/
def FailsOnChain (w : World) : LoyaltyOp → Prop
  | .issue gateway uuid _ input => ∃ liability fund amount reply,
    IssueChecks w input liability fund amount ∧
      Asked gateway uuid .issue liability amount.minor reply ∧ IsFailure reply
  | .redeem gateway _ uuid _ input => ∃ liability amount reply,
    RedeemChecks w input liability amount ∧
      Asked gateway uuid .burn liability amount.minor reply ∧ IsFailure reply
  | _ => False

/-! ## What a call leaves -/

/-- The balances, the backing set aside and the counters are what they were. -/
structure NoTrace (w w' : World) : Prop where
  ledger : ∀ programId c account,
    ledgerNet w'.ledger programId c account = ledgerNet w.ledger programId c account
  reserved : ∀ fundId, (w'.paykhProgramFunds.find? fundId).map PaykhProgramFund.reservedMinor =
    (w.paykhProgramFunds.find? fundId).map PaykhProgramFund.reservedMinor
  counters : ∀ liabilityId, (w'.paykhLoyaltyLiabilities.find? liabilityId).map
      (fun l => (l.outstandingMinor, l.issuedTotalMinor, l.redeemedTotalMinor)) =
    (w.paykhLoyaltyLiabilities.find? liabilityId).map
      fun l => (l.outstandingMinor, l.issuedTotalMinor, l.redeemedTotalMinor)

/-- An entry on the loyalty account is a trace. -/
theorem not_noTrace_of_posted {w w' : World} {e : JournalEntry}
    (hledger : w'.ledger = w.ledger ++ [e]) {programId c : String}
    (hmoved : ledgerNet [e] programId c liabilityPaykhLoyaltyStablecoin ≠ 0) : ¬NoTrace w w' := by
  intro h
  have hsame := h.ledger programId c liabilityPaykhLoyaltyStablecoin
  rw [hledger, ledgerNet_append] at hsame
  omega

theorem IsIssuance.moves {liability : PaykhLoyaltyLiability} {amount : Int} {e : JournalEntry}
    (he : IsIssuance liability amount e) :
    ledgerNet [e] liability.tenantId (Runtime.toUpperCase liability.pegCurrency)
      liabilityPaykhLoyaltyStablecoin ≠ 0 := by
  have hpositive := he.move.positive
  rw [(he.net _ _).2, if_pos ⟨rfl, rfl⟩]
  omega

theorem IsLoyaltyRedemption.moves {liability : PaykhLoyaltyLiability} {amount : Int}
    {e : JournalEntry} (he : IsLoyaltyRedemption liability amount e) :
    ledgerNet [e] liability.tenantId (Runtime.toUpperCase liability.pegCurrency)
      liabilityPaykhLoyaltyStablecoin ≠ 0 := by
  have hpositive := he.move.positive
  rw [(he.net _ _).2, if_pos ⟨rfl, rfl⟩]
  omega

section

variable {w : World} {liability : PaykhLoyaltyLiability} {amount : Money}

/-- An exception leaves the entry of the issuance behind. -/
theorem issue_thrown {input : IssueLoyaltyInput} {fund : PaykhProgramFund}
    (h : IssueChecks w input liability fund amount) {gateway : IssuanceGateway} {uuid : String}
    {error : ApiError} (hasked : Asked gateway uuid .issue liability amount.minor (.error error))
    (id : String) :
    ∃ e err, IsIssuance liability amount.minor e ∧
      (issue gateway uuid id input).run w = (.error err, w.posted e) := by
  obtain ⟨e, he, houtcome⟩ := run_issue_of h gateway uuid id
  generalize (issue gateway uuid id input).run w = result at houtcome ⊢
  cases houtcome with
  | failed hfails => exact ⟨e, _, he, rfl⟩
  | counted hchain hfits hrow ht htexts =>
    rw [hasked.authorizeOnChain] at hchain
    cases hchain

/-- An exception leaves the entry of the redemption behind. -/
theorem redeem_thrown {input : RedeemLoyaltyInput} (h : RedeemChecks w input liability amount)
    {gateway : IssuanceGateway} {uuid : String} {error : ApiError}
    (hasked : Asked gateway uuid .burn liability amount.minor (.error error)) (clock : Clock)
    (id : String) :
    ∃ e err, IsLoyaltyRedemption liability amount.minor e ∧
      (redeem gateway clock uuid id input).run w = (.error err, w.posted e) := by
  obtain ⟨e, he, houtcome⟩ := run_redeem_of h gateway clock uuid id
  generalize (redeem gateway clock uuid id input).run w = result at houtcome ⊢
  cases houtcome with
  | failed hfails => exact ⟨e, _, he, rfl⟩
  | counted hchain hfits hrow hnames ht htexts =>
    rw [hasked.authorizeOnChain] at hchain
    cases hchain

/-- An issuance that is refused is counted, and stored as failed, where it can be stored. -/
theorem issue_refused {input : IssueLoyaltyInput} {fund : PaykhProgramFund}
    (h : IssueChecks w input liability fund amount) {gateway : IssuanceGateway} {uuid id : String}
    {res : IssuanceExecutionResult}
    (hasked : Asked gateway uuid .issue liability amount.minor (.ok res))
    (hrefused : res.accepted = false) (hfits : IssueFits fund liability amount.minor)
    (htexts : ¬TextRefused gateway uuid .issue liability amount.minor input.customerRef)
    (hfresh : ∀ r ∈ w.paykhLoyaltyIssuances.rows, r.id ≠ id) :
    ∃ e issued row t rows events, IsIssuance liability amount.minor e ∧
      row.status = "ONCHAIN_FAILED" ∧ w.paykhLoyaltyIssuances.insert? row = some t ∧
      (issue gateway uuid id input).run w = (.ok issued,
        World.logged { (w.posted e).issuedOn fund liability amount.minor with
          paykhLoyaltyIssuances := t } rows events) := by
  obtain ⟨e, he, houtcome⟩ := run_issue_of h gateway uuid id
  generalize (issue gateway uuid id input).run w = result at houtcome ⊢
  cases houtcome with
  | failed hfails =>
    rcases hfails with ⟨err, herr⟩ | hrefusedText | hunfit | ⟨r, hr, hid⟩
    · rw [hasked.authorizeOnChain] at herr
      cases herr
    · exact absurd hrefusedText htexts
    · exact absurd hfits hunfit
    · exact absurd hid (hfresh r hr)
  | @counted issued chain row t rows events hchain hfits hrow ht _ =>
    refine ⟨e, issued, row, t, rows, events, he, ?_, ht, rfl⟩
    rw [hasked.authorizeOnChain] at hchain
    rw [hrow.2, ← Except.ok.inj hchain]
    simp [hrefused]

/-- A redemption that is refused is counted, where it can be stored. -/
theorem redeem_refused {input : RedeemLoyaltyInput} (h : RedeemChecks w input liability amount)
    {gateway : IssuanceGateway} {uuid id : String} {res : IssuanceExecutionResult}
    (hasked : Asked gateway uuid .burn liability amount.minor (.ok res)) (clock : Clock)
    (hfits : RedeemFits liability amount.minor)
    (htexts : ¬TextRefused gateway uuid .burn liability amount.minor input.customerRef)
    (hfresh : ∀ r ∈ w.paykhLoyaltyRedemptions.rows, r.id ≠ id) :
    ∃ e redeemed row t rows events, IsLoyaltyRedemption liability amount.minor e ∧
      w.paykhLoyaltyRedemptions.insert? row = some t ∧
      (redeem gateway clock uuid id input).run w = (.ok redeemed,
        World.logged { (w.posted e).redeemedOn liability amount.minor with
          paykhLoyaltyRedemptions := t } rows events) := by
  obtain ⟨e, he, houtcome⟩ := run_redeem_of h gateway clock uuid id
  generalize (redeem gateway clock uuid id input).run w = result at houtcome ⊢
  cases houtcome with
  | failed hfails =>
    rcases hfails with ⟨err, herr⟩ | hrefusedText | hunfit | ⟨r, hr, hid⟩
    · rw [hasked.authorizeOnChain] at herr
      cases herr
    · exact absurd hrefusedText htexts
    · exact absurd hfits hunfit
    · exact absurd hid (hfresh r hr)
  | @counted redeemed chain row t rows events hchain hfits hrow hnames ht _ =>
    exact ⟨e, redeemed, row, t, rows, events, he, ht, rfl⟩

end

/-- The entry stays, whatever happened after it was posted. -/
theorem issue_traced {w : World} {input : IssueLoyaltyInput} {liability : PaykhLoyaltyLiability}
    {fund : PaykhProgramFund} {amount : Money} (h : IssueChecks w input liability fund amount)
    (gateway : IssuanceGateway) (uuid id : String) :
    ¬NoTrace w (LoyaltyOp.step w (.issue gateway uuid id input)) := by
  obtain ⟨e, he, houtcome⟩ := run_issue_of h gateway uuid id
  have hledger : ((issue gateway uuid id input).run w).2.ledger = w.ledger ++ [e] := by
    generalize (issue gateway uuid id input).run w = result at houtcome ⊢
    cases houtcome <;> rfl
  refine not_noTrace_of_posted (e := e) ?_ he.moves
  simpa [LoyaltyOp.step, LoyaltyOp.call] using hledger

theorem redeem_traced {w : World} {input : RedeemLoyaltyInput} {liability : PaykhLoyaltyLiability}
    {amount : Money} (h : RedeemChecks w input liability amount) (gateway : IssuanceGateway)
    (clock : Clock) (uuid id : String) :
    ¬NoTrace w (LoyaltyOp.step w (.redeem gateway clock uuid id input)) := by
  obtain ⟨e, he, houtcome⟩ := run_redeem_of h gateway clock uuid id
  have hledger : ((redeem gateway clock uuid id input).run w).2.ledger = w.ledger ++ [e] := by
    generalize (redeem gateway clock uuid id input).run w = result at houtcome ⊢
    cases houtcome <;> rfl
  refine not_noTrace_of_posted (e := e) ?_ he.moves
  simpa [LoyaltyOp.step, LoyaltyOp.call] using hledger

/-- **A request that fails on chain leaves a trace.** -/
theorem failed_request_traced (w : World) (op : LoyaltyOp) (h : FailsOnChain w op) :
    ¬NoTrace w (op.step w) := by
  cases op with
  | bind input id => exact h.elim
  | issue gateway uuid id input =>
    obtain ⟨liability, fund, amount, reply, hchecks, -⟩ := h
    exact issue_traced hchecks gateway uuid id
  | redeem gateway clock uuid id input =>
    obtain ⟨liability, amount, reply, hchecks, -⟩ := h
    exact redeem_traced hchecks gateway clock uuid id
  | reconcile gateway clock liabilityId => exact h.elim

end

/-! ## An issuance that PayChain refuses -/

attribute [local instance] Runtime.ascii

namespace Sample

/-- A fund of 100. -/
def chainFund : PaykhProgramFund where
  id := "F1"
  tenantId := "tenant-1"
  paykhProgramId := "PP1"
  classification := "BACKED_LOYALTY_STABLECOIN"
  currency := "USD"
  reserveAccountId := "T1"
  fundedMinor := 100
  reservedMinor := 0
  status := "ACTIVE"

/-- A stablecoin on Stellar. -/
def chainLiability : PaykhLoyaltyLiability :=
  boundLiability chainFund
    { programFundId := "F1", decimals := none, denominationMinor := none
      stellarAssetCode := some "KHRT", stellarIssuer := some "GISSUER"
      stellarDistributor := some "GDISTRIBUTOR", actor := "tenant" } "L1" 1

def chainWorld : World :=
  { loyaltyWorld with
    paykhProgramFunds := ⟨[chainFund], List.nodup_singleton _⟩
    paykhLoyaltyLiabilities := ⟨[chainLiability], List.nodup_singleton _⟩ }

/-- PayChain refuses every request. -/
def refusing : IssuanceGateway where
  sha256Hex text := text
  paychain := some fun _ => .ok ⟨false, "REJECTED", none, none⟩
  horizon := none

/-- An issuance of 60. -/
def issueOnChain : IssueLoyaltyInput where
  liabilityId := "L1"
  customerRef := "customer"
  amountMinor := some "60"
  units := none
  actor := "tenant"

theorem issueOnChain_checks : IssueChecks chainWorld issueOnChain chainLiability chainFund
    (money 60 "USD") :=
  ⟨by decide, rfl, rfl, ⟨none, by decide +kernel⟩, by decide, by decide, by decide, by decide⟩

theorem issueOnChain_fails :
    FailsOnChain chainWorld (.issue refusing "uuid" "I1" issueOnChain) := by
  refine ⟨chainLiability, chainFund, money 60 "USD", .ok ⟨false, "REJECTED", none, none⟩,
    issueOnChain_checks, ⟨"KHRT", "GDISTRIBUTOR", _, rfl, rfl, rfl, rfl⟩, ?_⟩
  intro res hres
  cases hres
  rfl

end Sample

theorem failed_request_traced_issue : ¬NoTrace Sample.chainWorld
    (LoyaltyOp.step Sample.chainWorld (.issue Sample.refusing "uuid" "I1" Sample.issueOnChain)) :=
  failed_request_traced _ _ Sample.issueOnChain_fails

/-- The refused issuance is on the ledger. -/
theorem failed_request_booked : ¬∀ [Runtime] (w : World) (op : LoyaltyOp), FailsOnChain w op →
    NoTrace w (op.step w) := by
  intro h
  exact issue_traced Sample.issueOnChain_checks Sample.refusing "uuid" "I1"
    (h _ _ Sample.issueOnChain_fails)

end TrusteeBank
