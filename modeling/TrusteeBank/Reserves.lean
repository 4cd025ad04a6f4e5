import TrusteeBank.Domain

/-!
# Reserve calculation and the mint guard

The pure arithmetic of the reserve position and the decision whether a mint may proceed. Every
amount is `Money`, so each function may throw on mixed currencies; the `_eq_ok` lemmas give the
value when all inputs are in one currency.

**Theorem (`evaluateMintGuard_allowed`).** A mint the guard allows is positive, in the currency of
the capacity, within the capacity, and backed by eligible deposits; and nothing else blocks it
(`evaluateMintGuard_unblocked`).
-/

set_option autoImplicit false

namespace TrusteeBank

variable [Runtime]

/-! ## Reserve calculation -/

structure EligibleReserveInput where
  currency : String
  clearedBankBalance : Money
  restrictedFunds : Money
  unmatchedFunds : Money
  pendingOutgoingPayouts : Money
  bankChargesDue : Money
  regulatoryHolds : Money
  operationalFunds : Money
  otherIneligibleAmounts : Money

/-- Cleared bank balance less every deduction, never negative. -/
def eligibleReserve (input : EligibleReserveInput) : Except ApiError Money := do
  let deductions ← Money.sum
    [input.restrictedFunds, input.unmatchedFunds, input.pendingOutgoingPayouts,
     input.bankChargesDue, input.regulatoryHolds, input.operationalFunds,
     input.otherIneligibleAmounts]
  let result ← input.clearedBankBalance.subtract deductions
  return if result.isNegative then zero input.currency else result

structure ReserveObligationInput where
  currency : String
  circulatingSupply : Money
  confirmedRedemptionObligations : Money
  otherContractualLiabilities : Money
  legallyApprovedExclusions : Money

/-- Circulating supply and other liabilities less exclusions, never negative. -/
def reserveObligation (input : ReserveObligationInput) : Except ApiError Money := do
  let gross ← Money.sum
    [input.circulatingSupply, input.confirmedRedemptionObligations,
     input.otherContractualLiabilities]
  let result ← gross.subtract input.legallyApprovedExclusions
  return if result.isNegative then zero input.currency else result

/-- Eligible reserve over obligation in basis points, `none` when there is no obligation. -/
def reserveRatioBps (eligible obligation : Money) : Except ApiError (Option Int) :=
  if obligation.currency ≠ eligible.currency then
    .error (.thrown "Error" "Reserve ratio requires a single reference currency")
  else if obligation.minor = 0 then .ok none
  else .ok (some (numberOfBigInt ((eligible.minor * 10000).tdiv obligation.minor)))

structure MintCapacityInput where
  currency : String
  eligibleReserve : Money
  existingReserveObligation : Money
  requiredSafetyBuffer : Money
  pendingMintAuthorizations : Money

/-- Eligible reserve less obligation, buffer and pending mints, never negative. -/
def mintCapacity (input : MintCapacityInput) : Except ApiError Money := do
  let consumed ← Money.sum
    [input.existingReserveObligation, input.requiredSafetyBuffer,
     input.pendingMintAuthorizations]
  let result ← input.eligibleReserve.subtract consumed
  result.max (zero input.currency)

/-- The part of the obligation held back, by a policy in basis points. -/
def requiredSafetyBuffer (obligation : Money) (bufferBps : Int) : Except ApiError Money :=
  if bufferBps < 0 then .error (.thrown "Error" "Buffer basis points cannot be negative")
  else .ok ⟨(obligation.minor * bufferBps).tdiv 10000, obligation.currency⟩

/-- Whether the eligible reserve covers the obligation at the required ratio. -/
def isFullyReserved (eligible obligation : Money) (requiredRatioBps : Int) :
    Except ApiError Bool :=
  if obligation.minor = 0 then .ok true
  else eligible.gte ⟨(obligation.minor * requiredRatioBps).tdiv 10000, obligation.currency⟩

def reserveSurplus (eligible obligation : Money) : Except ApiError Money :=
  eligible.subtract obligation

omit [Runtime] in
theorem Money.sum_eq_ok {c : String} {first : Money} {rest : List Money}
    (h : ∀ m ∈ first :: rest, m.currency = c) :
    Money.sum (first :: rest) = .ok ⟨first.minor + (rest.map Money.minor).sum, c⟩ := by
  simp only [Money.sum]
  induction rest generalizing first with
  | nil =>
    obtain ⟨m, d⟩ := first
    obtain rfl : d = c := h _ List.mem_cons_self
    simp [pure, Except.pure]
  | cons m rest ih =>
    have hfirst : first.currency = c := h _ List.mem_cons_self
    have hm : m.currency = c := h _ (by simp)
    rw [List.foldlM_cons, Money.add_eq_ok (hfirst.trans hm.symm)]
    simp only [bind, Except.bind]
    rw [ih]
    · simp [add_assoc]
    · intro a ha
      rcases List.mem_cons.mp ha with rfl | ha
      · exact hfirst
      · exact h a (by simp [ha])

theorem eligibleReserve_eq_ok {c : String} {b r u p k h o i : Int} :
    eligibleReserve ⟨c, money b c, money r c, money u c, money p c, money k c, money h c, money o c,
      money i c⟩ = .ok (money (max 0 (b - (r + (u + (p + (k + (h + (o + i)))))))) c) := by
  unfold eligibleReserve
  rw [Money.sum_eq_ok (c := Runtime.toUpperCase c) (by simp)]
  simp only [bind, Except.bind]
  rw [Money.subtract_eq_ok (by simp)]
  simp only [money_minor, List.map_cons, List.map_nil, List.sum_cons, List.sum_nil, add_zero,
    Money.isNegative, pure, Except.pure, decide_eq_true_eq]
  split_ifs with hneg
  · rw [max_eq_left (by omega)]
    rfl
  · rw [max_eq_right (by omega)]
    rfl

theorem reserveObligation_eq_ok {c : String} {s r o x : Int} :
    reserveObligation ⟨c, money s c, money r c, money o c, money x c⟩ =
      .ok (money (max 0 (s + (r + o) - x)) c) := by
  unfold reserveObligation
  rw [Money.sum_eq_ok (c := Runtime.toUpperCase c) (by simp)]
  simp only [bind, Except.bind]
  rw [Money.subtract_eq_ok (by simp)]
  simp only [money_minor, List.map_cons, List.map_nil, List.sum_cons, List.sum_nil, add_zero,
    Money.isNegative, pure, Except.pure, decide_eq_true_eq]
  split_ifs with hneg
  · rw [max_eq_left (by omega)]
    rfl
  · rw [max_eq_right (by omega)]
    rfl

theorem mintCapacity_eq_ok {c d : String} {e o b p : Money}
    (he : e.currency = d) (ho : o.currency = d) (hb : b.currency = d) (hp : p.currency = d)
    (hc : Runtime.toUpperCase c = d) :
    mintCapacity ⟨c, e, o, b, p⟩ =
      .ok ⟨max (e.minor - (o.minor + (b.minor + p.minor))) 0, d⟩ := by
  unfold mintCapacity
  rw [Money.sum_eq_ok (c := d) (by simp [ho, hb, hp])]
  simp only [bind, Except.bind]
  rw [Money.subtract_eq_ok (by simpa using he)]
  simp only [List.map_cons, List.map_nil, List.sum_cons, List.sum_nil, add_zero]
  rw [Money.max_eq_ok (by simpa [hc] using he), he]
  rfl

omit [Runtime] in
theorem requiredSafetyBuffer_ok {obligation buffer : Money} {bufferBps : Int}
    (h : requiredSafetyBuffer obligation bufferBps = .ok buffer) (ho : 0 ≤ obligation.minor) :
    0 ≤ bufferBps ∧ 0 ≤ buffer.minor ∧ buffer.currency = obligation.currency := by
  unfold requiredSafetyBuffer at h
  split_ifs at h with hneg
  cases h
  refine ⟨by omega, ?_, rfl⟩
  exact Int.tdiv_nonneg (Int.mul_nonneg ho (by omega)) (by omega)

/-! ## The mint guard -/

inductive MintBlockReason
  | insufficientCapacity | reserveDataStale | bankConnectivityUnavailable
  | reconciliationUnresolved | complianceHold | assetMintingSuspended | programSuspended
  | accountRestricted | depositNotCleared | approvalIncomplete | liabilityFeedStale
  | proofOfReserveExpired | mintFeatureDisabled | nonPositiveAmount | currencyMismatch
deriving DecidableEq, Repr

instance : EnumName MintBlockReason where
  name
    | .insufficientCapacity => "INSUFFICIENT_CAPACITY"
    | .reserveDataStale => "RESERVE_DATA_STALE"
    | .bankConnectivityUnavailable => "BANK_CONNECTIVITY_UNAVAILABLE"
    | .reconciliationUnresolved => "RECONCILIATION_UNRESOLVED"
    | .complianceHold => "COMPLIANCE_HOLD"
    | .assetMintingSuspended => "ASSET_MINTING_SUSPENDED"
    | .programSuspended => "PROGRAM_SUSPENDED"
    | .accountRestricted => "ACCOUNT_RESTRICTED"
    | .depositNotCleared => "DEPOSIT_NOT_CLEARED"
    | .approvalIncomplete => "APPROVAL_INCOMPLETE"
    | .liabilityFeedStale => "LIABILITY_FEED_STALE"
    | .proofOfReserveExpired => "PROOF_OF_RESERVE_EXPIRED"
    | .mintFeatureDisabled => "MINT_FEATURE_DISABLED"
    | .nonPositiveAmount => "NON_POSITIVE_AMOUNT"
    | .currencyMismatch => "CURRENCY_MISMATCH"

structure MintGuardFacts where
  requested : Money
  capacityInput : MintCapacityInput
  reserveSnapshotAgeSeconds : Int
  maxReserveSnapshotAgeSeconds : JsNumber
  bankConnectivityAgeSeconds : Int
  maxBankConnectivityAgeSeconds : JsNumber
  liabilityFeedAgeSeconds : Int
  maxLiabilityFeedAgeSeconds : JsNumber
  proofOfReserveAgeSeconds : Option Int
  maxProofOfReserveAgeSeconds : Option JsNumber
  hasUnresolvedReconciliation : Bool
  complianceHoldActive : Bool
  assetMintingSuspended : Bool
  programSuspended : Bool
  accountRestricted : Bool
  fundingDepositsCleared : Bool
  makerCheckerComplete : Bool
  mintFeatureEnabled : Bool

structure MintGuardDecision where
  allowed : Bool
  reasons : List MintBlockReason
  capacity : Money

/-- The reason the requested amount blocks the mint, if it does. -/
def amountBlock (requested capacity : Money) : Except ApiError (List MintBlockReason) :=
  if !requested.isPositive then .ok [.nonPositiveAmount]
  else if requested.currency ≠ capacity.currency then .ok [.currencyMismatch]
  else do return if ← capacity.gte requested then [] else [.insufficientCapacity]

/-- Whether the proof of reserve is missing or too old, when a maximum age is set. -/
def proofOfReserveExpired (facts : MintGuardFacts) : Bool :=
  match facts.maxProofOfReserveAgeSeconds with
  | none => false
  | some bound =>
    match facts.proofOfReserveAgeSeconds with
    | none => true
    | some age => exceeds age bound

/-- Whether a mint may proceed and, if not, every blocking reason. -/
def evaluateMintGuard (facts : MintGuardFacts) : Except ApiError MintGuardDecision := do
  let capacity ← mintCapacity facts.capacityInput
  let amountReasons ← amountBlock facts.requested capacity
  let reason (blocked : Bool) (r : MintBlockReason) : List MintBlockReason :=
    if blocked then [r] else []
  let reasons :=
    reason (!facts.mintFeatureEnabled) .mintFeatureDisabled ++
    amountReasons ++
    reason (exceeds facts.reserveSnapshotAgeSeconds facts.maxReserveSnapshotAgeSeconds)
      .reserveDataStale ++
    reason (exceeds facts.bankConnectivityAgeSeconds facts.maxBankConnectivityAgeSeconds)
      .bankConnectivityUnavailable ++
    reason (exceeds facts.liabilityFeedAgeSeconds facts.maxLiabilityFeedAgeSeconds)
      .liabilityFeedStale ++
    reason (proofOfReserveExpired facts) .proofOfReserveExpired ++
    reason facts.hasUnresolvedReconciliation .reconciliationUnresolved ++
    reason facts.complianceHoldActive .complianceHold ++
    reason facts.assetMintingSuspended .assetMintingSuspended ++
    reason facts.programSuspended .programSuspended ++
    reason facts.accountRestricted .accountRestricted ++
    reason (!facts.fundingDepositsCleared) .depositNotCleared ++
    reason (!facts.makerCheckerComplete) .approvalIncomplete
  return { allowed := reasons.isEmpty, reasons, capacity }

omit [Runtime] in
theorem amountBlock_eq_nil {requested capacity : Money}
    (h : amountBlock requested capacity = .ok []) :
    0 < requested.minor ∧ requested.currency = capacity.currency ∧
      requested.minor ≤ capacity.minor := by
  unfold amountBlock at h
  split_ifs at h with hpos hcur
  · simp at h
  · simp at h
  · rw [not_not] at hcur
    rw [Money.gte_eq_ok hcur.symm] at h
    simp only [bind, Except.bind, pure, Except.pure, decide_eq_true_eq, Except.ok.injEq] at h
    split_ifs at h with hle
    refine ⟨?_, hcur, hle⟩
    simpa [Money.isPositive] using hpos

/-- **A mint the guard allows is covered.** -/
theorem evaluateMintGuard_allowed {facts : MintGuardFacts} {d : MintGuardDecision}
    (h : evaluateMintGuard facts = .ok d) (hd : d.allowed = true) :
    mintCapacity facts.capacityInput = .ok d.capacity ∧ 0 < facts.requested.minor ∧
      facts.requested.currency = d.capacity.currency ∧
      facts.requested.minor ≤ d.capacity.minor ∧ facts.fundingDepositsCleared = true := by
  unfold evaluateMintGuard at h
  cases hcap : mintCapacity facts.capacityInput with
  | error e => simp [hcap, bind, Except.bind] at h
  | ok capacity =>
    cases hblock : amountBlock facts.requested capacity with
    | error e => simp [hcap, hblock, bind, Except.bind] at h
    | ok amountReasons =>
      simp only [hcap, hblock, bind, Except.bind, pure, Except.pure, Except.ok.injEq] at h
      subst h
      simp only [List.isEmpty_iff, List.append_eq_nil_iff] at hd
      obtain rfl : amountReasons = [] := by tauto
      obtain ⟨hpos, hcur, hle⟩ := amountBlock_eq_nil hblock
      refine ⟨rfl, hpos, hcur, hle, ?_⟩
      have hcleared := hd.1.2
      simpa using hcleared

/-- **A mint the guard allows meets none of the blocks**. -/
theorem evaluateMintGuard_unblocked {facts : MintGuardFacts} {d : MintGuardDecision}
    (h : evaluateMintGuard facts = .ok d) (hd : d.allowed = true) :
    facts.hasUnresolvedReconciliation = false ∧ facts.complianceHoldActive = false ∧
      facts.assetMintingSuspended = false ∧ facts.programSuspended = false ∧
      facts.accountRestricted = false := by
  unfold evaluateMintGuard at h
  cases hcap : mintCapacity facts.capacityInput with
  | error e => simp [hcap, bind, Except.bind] at h
  | ok capacity =>
    cases hblock : amountBlock facts.requested capacity with
    | error e => simp [hcap, hblock, bind, Except.bind] at h
    | ok amountReasons =>
      simp only [hcap, hblock, bind, Except.bind, pure, Except.pure, Except.ok.injEq] at h
      subst h
      have hif (blocked : Bool) (r : MintBlockReason) :
          (if blocked then [r] else []) = [] ↔ blocked = false := by
        cases blocked <;> simp
      simp only [List.isEmpty_iff, List.append_eq_nil_iff, hif] at hd
      tauto

end TrusteeBank
