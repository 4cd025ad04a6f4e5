import TrusteeBank.Reserves

/-!
# The mint guard is sound and monotone

A decision about a mint compares twenty facts. This module says what they are together: the guard
allows a mint exactly when nothing blocks it and the amount, the obligation, the buffer and the
pending authorizations fit in the eligible reserve (`allowed_iff`), on the integers before the
capacity is clamped at zero.

**The order of facts** (`AtLeastAsFavourable`). One mint is at least as favourable as another when
it asks for less, has more reserve and fewer deductions, younger data and larger maxima, and no
block the other does not have. No maximum age of the proof of reserve is better than any, and no
proof at all is worse than the oldest.

**Modeling choice.** Ages and maxima are whole numbers of seconds or `NaN` (`JsNumber`). The code
rounds the ages down, so a maximum with a fraction compares as the whole number below it does; an
infinite maximum is not modeled.

* `allowed_iff`: when the guard allows a mint;
* `mint_guard_sound_monotone`: what is allowed is covered, and stays allowed under more favourable
  facts.
-/

set_option autoImplicit false

namespace TrusteeBank

/-! ## Orders -/

/-- Amounts are compared in one currency. -/
def Money.Le (a b : Money) : Prop := a.currency = b.currency ∧ a.minor ≤ b.minor

/-- A maximum that is at least as large; `NaN` is no larger or smaller than another number. -/
def JsNumber.Ge (m n : JsNumber) : Prop := m = n ∨ ∃ a b : Int, m = some a ∧ n = some b ∧ b ≤ a

/-- A smaller number exceeds a larger bound only if the larger exceeds the smaller. -/
theorem exceeds_mono {x y : Int} {m n : JsNumber} (hxy : x ≤ y) (hmn : JsNumber.Ge m n)
    (h : exceeds y n = false) : exceeds x m = false := by
  rcases hmn with rfl | ⟨a, b, rfl, rfl, hab⟩
  · cases m with
    | none => rfl
    | some a =>
      have hle : ¬y > a := of_decide_eq_false h
      exact decide_eq_false (by omega)
  · have hle : ¬y > b := of_decide_eq_false h
    exact decide_eq_false (by omega)

namespace MintCapacityInput

/-- The amounts of the input are in one currency. -/
structure AmountsIn (input : MintCapacityInput) (currency : String) : Prop where
  eligible : input.eligibleReserve.currency = currency
  obligation : input.existingReserveObligation.currency = currency
  buffer : input.requiredSafetyBuffer.currency = currency
  pending : input.pendingMintAuthorizations.currency = currency

/-- What the capacity is before it is clamped. -/
def headroom (input : MintCapacityInput) : Int :=
  input.eligibleReserve.minor - (input.existingReserveObligation.minor +
    input.requiredSafetyBuffer.minor + input.pendingMintAuthorizations.minor)

end MintCapacityInput

section

variable [Runtime]

namespace MintCapacityInput

/-- The amounts share the currency of the input, as it is written or as `money` normalises it. -/
def SharesCurrency (input : MintCapacityInput) : Prop :=
  input.AmountsIn input.currency ∨ input.AmountsIn (Runtime.toUpperCase input.currency)

end MintCapacityInput

namespace MintGuardFacts

/-- The guard allows the mint. -/
def Allowed (facts : MintGuardFacts) : Prop :=
  ∃ d, evaluateMintGuard facts = .ok d ∧ d.allowed = true

omit [Runtime] in
/-- Nothing but the amount can block the mint. -/
structure Unblocked (facts : MintGuardFacts) : Prop where
  feature : facts.mintFeatureEnabled = true
  snapshot : exceeds facts.reserveSnapshotAgeSeconds facts.maxReserveSnapshotAgeSeconds = false
  bank : exceeds facts.bankConnectivityAgeSeconds facts.maxBankConnectivityAgeSeconds = false
  feed : exceeds facts.liabilityFeedAgeSeconds facts.maxLiabilityFeedAgeSeconds = false
  proof : proofOfReserveExpired facts = false
  reconciliation : facts.hasUnresolvedReconciliation = false
  compliance : facts.complianceHoldActive = false
  asset : facts.assetMintingSuspended = false
  program : facts.programSuspended = false
  account : facts.accountRestricted = false
  deposits : facts.fundingDepositsCleared = true
  approval : facts.makerCheckerComplete = true

omit [Runtime] in
/-- `g` is at least as favourable as `f`, field by field. -/
structure AtLeastAsFavourable (g f : MintGuardFacts) : Prop where
  positive : 0 < g.requested.minor
  requested : g.requested.Le f.requested
  eligible : f.capacityInput.eligibleReserve.Le g.capacityInput.eligibleReserve
  obligation :
    g.capacityInput.existingReserveObligation.Le f.capacityInput.existingReserveObligation
  buffer : g.capacityInput.requiredSafetyBuffer.Le f.capacityInput.requiredSafetyBuffer
  pending :
    g.capacityInput.pendingMintAuthorizations.Le f.capacityInput.pendingMintAuthorizations
  snapshotAge : g.reserveSnapshotAgeSeconds ≤ f.reserveSnapshotAgeSeconds
  maxSnapshotAge : JsNumber.Ge g.maxReserveSnapshotAgeSeconds f.maxReserveSnapshotAgeSeconds
  bankAge : g.bankConnectivityAgeSeconds ≤ f.bankConnectivityAgeSeconds
  maxBankAge : JsNumber.Ge g.maxBankConnectivityAgeSeconds f.maxBankConnectivityAgeSeconds
  feedAge : g.liabilityFeedAgeSeconds ≤ f.liabilityFeedAgeSeconds
  maxFeedAge : JsNumber.Ge g.maxLiabilityFeedAgeSeconds f.maxLiabilityFeedAgeSeconds
  proofAge : f.proofOfReserveAgeSeconds = none ∨ ∃ a b : Int,
    g.proofOfReserveAgeSeconds = some a ∧ f.proofOfReserveAgeSeconds = some b ∧ a ≤ b
  maxProofAge : g.maxProofOfReserveAgeSeconds = none ∨ ∃ m n : JsNumber,
    g.maxProofOfReserveAgeSeconds = some m ∧ f.maxProofOfReserveAgeSeconds = some n ∧
      JsNumber.Ge m n
  reconciliation : g.hasUnresolvedReconciliation = true → f.hasUnresolvedReconciliation = true
  compliance : g.complianceHoldActive = true → f.complianceHoldActive = true
  asset : g.assetMintingSuspended = true → f.assetMintingSuspended = true
  program : g.programSuspended = true → f.programSuspended = true
  account : g.accountRestricted = true → f.accountRestricted = true
  deposits : f.fundingDepositsCleared = true → g.fundingDepositsCleared = true
  approval : f.makerCheckerComplete = true → g.makerCheckerComplete = true
  feature : f.mintFeatureEnabled = true → g.mintFeatureEnabled = true

omit [Runtime] in
theorem proofOfReserveExpired_mono {g f : MintGuardFacts} (h : g.AtLeastAsFavourable f)
    (hf : proofOfReserveExpired f = false) : proofOfReserveExpired g = false := by
  unfold proofOfReserveExpired at hf ⊢
  rcases h.maxProofAge with hnone | ⟨m, n, hm, hn, hmn⟩
  · rw [hnone]
  · rw [hn] at hf
    rw [hm]
    rcases h.proofAge with hnone | ⟨a, b, ha, hb, hab⟩
    · rw [hnone] at hf
      cases hf
    · rw [hb] at hf
      rw [ha]
      exact exceeds_mono hab hmn hf

omit [Runtime] in
/-- **More favourable facts are blocked by nothing more.** -/
theorem Unblocked.mono {g f : MintGuardFacts} (h : g.AtLeastAsFavourable f) (hf : f.Unblocked) :
    g.Unblocked where
  feature := h.feature hf.feature
  snapshot := exceeds_mono h.snapshotAge h.maxSnapshotAge hf.snapshot
  bank := exceeds_mono h.bankAge h.maxBankAge hf.bank
  feed := exceeds_mono h.feedAge h.maxFeedAge hf.feed
  proof := proofOfReserveExpired_mono h hf.proof
  reconciliation := Bool.eq_false_of_not_eq_true fun hg =>
    absurd (hf.reconciliation.symm.trans (h.reconciliation hg)) (by decide)
  compliance := Bool.eq_false_of_not_eq_true fun hg =>
    absurd (hf.compliance.symm.trans (h.compliance hg)) (by decide)
  asset := Bool.eq_false_of_not_eq_true fun hg =>
    absurd (hf.asset.symm.trans (h.asset hg)) (by decide)
  program := Bool.eq_false_of_not_eq_true fun hg =>
    absurd (hf.program.symm.trans (h.program hg)) (by decide)
  account := Bool.eq_false_of_not_eq_true fun hg =>
    absurd (hf.account.symm.trans (h.account hg)) (by decide)
  deposits := h.deposits hf.deposits
  approval := h.approval hf.approval

end MintGuardFacts

/-! ## What the guard computes -/

omit [Runtime] in
/-- The requested amount blocks the mint unless it is positive, in the currency of the capacity,
and within it. -/
theorem amountBlock_ok (requested capacity : Money) :
    ∃ reasons, amountBlock requested capacity = .ok reasons ∧
      (reasons = [] ↔ 0 < requested.minor ∧ requested.currency = capacity.currency ∧
        requested.minor ≤ capacity.minor) := by
  unfold amountBlock
  by_cases hpos : 0 < requested.minor
  · have hpositive : requested.isPositive = true := decide_eq_true hpos
    by_cases hcurrency : requested.currency = capacity.currency
    · rw [if_neg (by simp [hpositive]), if_neg (by simpa using hcurrency),
        Money.gte_eq_ok hcurrency.symm]
      refine ⟨_, rfl, ?_⟩
      by_cases hle : requested.minor ≤ capacity.minor
      · simp [hle, hpos, hcurrency]
      · simp [hle]
    · rw [if_neg (by simp [hpositive]), if_pos hcurrency]
      exact ⟨_, rfl, by simp [hcurrency]⟩
  · have hpositive : requested.isPositive = false := decide_eq_false hpos
    rw [if_pos (by simp [hpositive])]
    exact ⟨_, rfl, by simp [hpos]⟩

/-- The capacity in one currency. -/
theorem mintCapacity_amounts {input : MintCapacityInput} {c : String} (h : input.AmountsIn c)
    (hc : Runtime.toUpperCase input.currency = c) :
    mintCapacity input = .ok ⟨max input.headroom 0, c⟩ := by
  unfold mintCapacity MintCapacityInput.headroom
  rw [Money.sum_eq_ok (c := c) (by simp [h.obligation, h.buffer, h.pending])]
  simp only [bind, Except.bind]
  rw [Money.subtract_eq_ok h.eligible]
  simp only
  rw [Money.max_eq_ok (by simp [h.eligible, hc])]
  simp [h.eligible, add_assoc]

/-- Amounts that are not in the normalised currency of the input cannot be compared with zero. -/
theorem mintCapacity_mismatch {input : MintCapacityInput} {c : String} (h : input.AmountsIn c)
    (hc : Runtime.toUpperCase input.currency ≠ c) : ∃ e, mintCapacity input = .error e := by
  unfold mintCapacity
  rw [Money.sum_eq_ok (c := c) (by simp [h.obligation, h.buffer, h.pending])]
  simp only [bind, Except.bind]
  rw [Money.subtract_eq_ok h.eligible]
  simp only [Money.max, Money.gte, Money.compare, Money.assertSameCurrency, h.eligible,
    zero_currency, bind, Except.bind]
  rw [if_pos (Ne.symm hc)]
  exact ⟨_, rfl⟩

namespace MintGuardFacts

/-- The capacity of a mint the guard allows can be computed, so its amounts are in the normalised
currency. -/
theorem Allowed.currency {facts : MintGuardFacts} (hallowed : facts.Allowed) {c : String}
    (h : facts.capacityInput.AmountsIn c) :
    Runtime.toUpperCase facts.capacityInput.currency = c := by
  obtain ⟨d, hd, -⟩ := hallowed
  by_contra hc
  obtain ⟨e, he⟩ := mintCapacity_mismatch h hc
  unfold evaluateMintGuard at hd
  rw [he] at hd
  cases hd

/-- **When the guard allows a mint.** -/
theorem allowed_iff {facts : MintGuardFacts} {c : String} (h : facts.capacityInput.AmountsIn c)
    (hc : Runtime.toUpperCase facts.capacityInput.currency = c) :
    facts.Allowed ↔ facts.Unblocked ∧ 0 < facts.requested.minor ∧ facts.requested.currency = c ∧
      facts.requested.minor ≤ facts.capacityInput.headroom := by
  obtain ⟨reasons, hreasons, hnil⟩ :=
    amountBlock_ok facts.requested ⟨max facts.capacityInput.headroom 0, c⟩
  have hif (blocked : Bool) (r : MintBlockReason) :
      (if blocked then [r] else []) = [] ↔ blocked = false := by
    cases blocked <;> simp
  have hguard : facts.Allowed ↔ facts.Unblocked ∧ reasons = [] := by
    unfold Allowed evaluateMintGuard
    simp only [mintCapacity_amounts h hc, hreasons, bind, Except.bind, pure, Except.pure,
      Except.ok.injEq, exists_eq_left', List.isEmpty_iff, List.append_eq_nil_iff, hif,
      Bool.not_eq_false']
    constructor
    · rintro ⟨⟨⟨⟨⟨⟨⟨⟨⟨⟨⟨⟨hf, hr⟩, hs⟩, hb⟩, hl⟩, hp⟩, hu⟩, hco⟩, ha⟩, hpr⟩, hac⟩, hd⟩, hm⟩
      exact ⟨⟨hf, hs, hb, hl, hp, hu, hco, ha, hpr, hac, hd, hm⟩, hr⟩
    · rintro ⟨⟨hf, hs, hb, hl, hp, hu, hco, ha, hpr, hac, hd, hm⟩, hr⟩
      exact ⟨⟨⟨⟨⟨⟨⟨⟨⟨⟨⟨⟨hf, hr⟩, hs⟩, hb⟩, hl⟩, hp⟩, hu⟩, hco⟩, ha⟩, hpr⟩, hac⟩, hd⟩, hm⟩
  rw [hguard, hnil]
  have hclamp : 0 < facts.requested.minor →
      (facts.requested.minor ≤ max facts.capacityInput.headroom 0 ↔
        facts.requested.minor ≤ facts.capacityInput.headroom) := fun hpos => by omega
  constructor
  · rintro ⟨hunblocked, hpos, hcurrency, hle⟩
    exact ⟨hunblocked, hpos, hcurrency, (hclamp hpos).mp hle⟩
  · rintro ⟨hunblocked, hpos, hcurrency, hle⟩
    exact ⟨hunblocked, hpos, hcurrency, (hclamp hpos).mpr hle⟩

omit [Runtime] in
theorem AtLeastAsFavourable.headroom {g f : MintGuardFacts} (h : g.AtLeastAsFavourable f) :
    f.capacityInput.headroom ≤ g.capacityInput.headroom := by
  have heligible := h.eligible.2
  have hobligation := h.obligation.2
  have hbuffer := h.buffer.2
  have hpending := h.pending.2
  unfold MintCapacityInput.headroom
  omega

/-- **What the guard allows is covered, on the unclamped integers.** -/
theorem Allowed.covered {facts : MintGuardFacts} (hshares : facts.capacityInput.SharesCurrency)
    (hallowed : facts.Allowed) :
    0 < facts.requested.minor ∧
      facts.requested.currency = facts.capacityInput.eligibleReserve.currency ∧
      facts.capacityInput.existingReserveObligation.minor +
          facts.capacityInput.requiredSafetyBuffer.minor +
          facts.capacityInput.pendingMintAuthorizations.minor + facts.requested.minor ≤
        facts.capacityInput.eligibleReserve.minor := by
  have hcovered {c : String} (h : facts.capacityInput.AmountsIn c) :
      0 < facts.requested.minor ∧ facts.requested.currency = c ∧
        facts.requested.minor ≤ facts.capacityInput.headroom :=
    ((allowed_iff h (hallowed.currency h)).mp hallowed).2
  unfold MintCapacityInput.headroom at hcovered
  rcases hshares with h | h
  · obtain ⟨hpos, hcurrency, hle⟩ := hcovered h
    exact ⟨hpos, hcurrency.trans h.eligible.symm, by omega⟩
  · obtain ⟨hpos, hcurrency, hle⟩ := hcovered h
    exact ⟨hpos, hcurrency.trans h.eligible.symm, by omega⟩

/-- **More favourable facts are allowed as well.** -/
theorem Allowed.mono {g f : MintGuardFacts} (hf : f.capacityInput.SharesCurrency)
    (hg : g.capacityInput.SharesCurrency) (h : g.AtLeastAsFavourable f) (hallowed : f.Allowed) :
    g.Allowed := by
  obtain ⟨c, hfc⟩ : ∃ c, f.capacityInput.AmountsIn c := hf.elim (⟨_, ·⟩) (⟨_, ·⟩)
  have hupper := hallowed.currency hfc
  obtain ⟨hunblocked, -, hcurrency, hle⟩ := (allowed_iff hfc hupper).mp hallowed
  have hgc : g.capacityInput.eligibleReserve.currency = c :=
    h.eligible.1.symm.trans hfc.eligible
  -- The amounts of `g` are in the same currency, which is normalised already.
  have hamounts : g.capacityInput.AmountsIn c ∧
      Runtime.toUpperCase g.capacityInput.currency = c := by
    rcases hg with hg | hg
    · have hsame : g.capacityInput.currency = c := hg.eligible.symm.trans hgc
      refine ⟨hsame ▸ hg, ?_⟩
      rw [hsame, ← hupper, Runtime.toUpperCase_toUpperCase]
    · have hsame : Runtime.toUpperCase g.capacityInput.currency = c := hg.eligible.symm.trans hgc
      exact ⟨hsame ▸ hg, hsame⟩
  refine (allowed_iff hamounts.1 hamounts.2).mpr ⟨hunblocked.mono h, h.positive,
    h.requested.1.trans hcurrency, ?_⟩
  have hheadroom := h.headroom
  have hrequested := h.requested.2
  omega

end MintGuardFacts

/-- **The mint guard is sound and monotone.** -/
theorem mint_guard_sound_monotone :
    (∀ f : MintGuardFacts, f.capacityInput.SharesCurrency → f.Allowed →
      0 < f.requested.minor ∧
        f.requested.currency = f.capacityInput.eligibleReserve.currency ∧
        f.capacityInput.existingReserveObligation.minor +
            f.capacityInput.requiredSafetyBuffer.minor +
            f.capacityInput.pendingMintAuthorizations.minor + f.requested.minor ≤
          f.capacityInput.eligibleReserve.minor) ∧
      ∀ f g : MintGuardFacts, f.capacityInput.SharesCurrency → g.capacityInput.SharesCurrency →
        g.AtLeastAsFavourable f → f.Allowed → g.Allowed :=
  ⟨fun _ hshares hallowed => hallowed.covered hshares,
    fun _ _ hf hg h hallowed => hallowed.mono hf hg h⟩

end

/-! ## Two mints -/

namespace Sample

attribute [local instance] Runtime.ascii

/-- A mint of an obligation of 50 with a buffer of 5 and 5 pending. -/
def coveredFacts (requested eligible age : Int) : MintGuardFacts where
  requested := ⟨requested, "USD"⟩
  capacityInput :=
    { currency := "usd"
      eligibleReserve := ⟨eligible, "USD"⟩
      existingReserveObligation := ⟨50, "USD"⟩
      requiredSafetyBuffer := ⟨5, "USD"⟩
      pendingMintAuthorizations := ⟨5, "USD"⟩ }
  reserveSnapshotAgeSeconds := age
  maxReserveSnapshotAgeSeconds := some 900
  bankConnectivityAgeSeconds := age
  maxBankConnectivityAgeSeconds := some 300
  liabilityFeedAgeSeconds := age
  maxLiabilityFeedAgeSeconds := some 900
  proofOfReserveAgeSeconds := some age
  maxProofOfReserveAgeSeconds := some (some 3600)
  hasUnresolvedReconciliation := false
  complianceHoldActive := false
  assetMintingSuspended := false
  programSuspended := false
  accountRestricted := false
  fundingDepositsCleared := true
  makerCheckerComplete := true
  mintFeatureEnabled := true

theorem coveredFacts_currency (requested eligible age : Int) :
    (coveredFacts requested eligible age).capacityInput.SharesCurrency := by
  have hupper : Runtime.toUpperCase "usd" = "USD" := by decide
  right
  show (coveredFacts requested eligible age).capacityInput.AmountsIn (Runtime.toUpperCase "usd")
  rw [hupper]
  exact ⟨rfl, rfl, rfl, rfl⟩

theorem coveredFacts_allowed : (coveredFacts 40 100 60).Allowed := by
  have hupper : Runtime.toUpperCase "usd" = "USD" := by decide
  have hclear : (coveredFacts 40 100 60).Unblocked := by constructor <;> decide
  exact (MintGuardFacts.allowed_iff ⟨rfl, rfl, rfl, rfl⟩ hupper).mpr
    ⟨hclear, by decide, rfl, by decide⟩

/-- A smaller mint against a larger reserve and younger data. -/
theorem coveredFacts_favourable :
    (coveredFacts 30 120 20).AtLeastAsFavourable (coveredFacts 40 100 60) := by
  have hle {a b : Int} (h : a ≤ b) : Money.Le ⟨a, "USD"⟩ ⟨b, "USD"⟩ := ⟨rfl, h⟩
  exact
    { positive := by decide
      requested := hle (by decide)
      eligible := hle (by decide)
      obligation := hle (by decide)
      buffer := hle (by decide)
      pending := hle (by decide)
      snapshotAge := by decide
      maxSnapshotAge := .inl rfl
      bankAge := by decide
      maxBankAge := .inl rfl
      feedAge := by decide
      maxFeedAge := .inl rfl
      proofAge := .inr ⟨20, 60, rfl, rfl, by decide⟩
      maxProofAge := .inr ⟨_, _, rfl, rfl, .inl rfl⟩
      reconciliation := id
      compliance := id
      asset := id
      program := id
      account := id
      deposits := id
      approval := id
      feature := id }

theorem mint_guard_sound_monotone_covered :
    0 < (coveredFacts 40 100 60).requested.minor ∧ (coveredFacts 30 120 20).Allowed :=
  ⟨(mint_guard_sound_monotone.1 _ (coveredFacts_currency 40 100 60) coveredFacts_allowed).1,
    mint_guard_sound_monotone.2 _ _ (coveredFacts_currency 40 100 60)
      (coveredFacts_currency 30 120 20) coveredFacts_favourable coveredFacts_allowed⟩

end Sample

end TrusteeBank
