import TrusteeBank.Services.MintEffects

/-!
# Minting and the reserve policy

The guard lets a mint through when it fits into the mint capacity: eligible reserve less the
obligation, the buffer on that obligation and the pending mints, all as they are before the mint.
The required ratio of the program does not enter the capacity.

* `mint_keeps_reserve`: after the mint the eligible reserve still covers the obligation, the
  buffer held before and the pending mints, so the reserve is kept at the default ratio of 100%;
* `mint_exceeds_ratio`: a program that requires more than 100% can be minted below its ratio.
-/

set_option autoImplicit false

namespace TrusteeBank

section

variable [Runtime]

/-- The guard allows a mint of an amount on a position, whatever the other facts are. -/
def GuardAllows (pos : ReservePosition) (amount : Int) (currency : String) : Prop :=
  ∃ facts d, facts.requested = money amount currency ∧
    facts.capacityInput = ⟨pos.currency, pos.mintCapacity, money 0 pos.currency,
      money 0 pos.currency, money 0 pos.currency⟩ ∧
    evaluateMintGuard facts = .ok d ∧ d.allowed = true

/-- The state with other snapshots of the liability feed. -/
def World.withFeed (w : World) (t : Lib.Table LiabilitySnapshot.id) : World :=
  { w with liabilitySnapshots := t }

/-- The eligible reserve does not depend on the liability feed. -/
theorem positionAt_eligibleReserve_feed {w : World} {t : Lib.Table LiabilitySnapshot.id}
    {now now' : Int} {programId : String} {pos pos' : ReservePosition}
    (hpos : positionAt w now programId = .ok pos)
    (hpos' : positionAt (w.withFeed t) now' programId = .ok pos') :
    pos'.eligibleReserve = pos.eligibleReserve := by
  obtain ⟨program, hprogram, hcurrency, -, heligible, -⟩ := positionAt_ok hpos
  obtain ⟨program', hprogram', hcurrency', -, heligible', -⟩ := positionAt_ok hpos'
  obtain rfl : program' = program := Option.some.inj (hprogram'.symm.trans hprogram)
  rw [heligible, heligible', hcurrency, hcurrency']
  rfl

/-- **A mint the guard allows keeps the reserve.** -/
theorem mint_keeps_reserve {w : World} {t : Lib.Table LiabilitySnapshot.id} {now now' : Int}
    {programId currency : String} {program : Program} {pos pos' : ReservePosition} {amount : Int}
    (hprogram : w.programs.find? programId = some program)
    (hpos : positionAt w now programId = .ok pos) (hallows : GuardAllows pos amount currency)
    (hgrows : reportedCirculating (w.withFeed t) programId =
      reportedCirculating w programId + amount)
    (hpos' : positionAt (w.withFeed t) now' programId = .ok pos') :
    pos'.eligibleReserve = pos.eligibleReserve ∧
      (∃ buffer, requiredSafetyBuffer pos.reserveObligation program.safetyBufferBps = .ok buffer ∧
        pos'.reserveObligation.minor + buffer.minor +
          pendingMint w programId program.referenceCurrency ≤ pos'.eligibleReserve.minor) ∧
      (program.requiredRatioBps = 10000 →
        0 ≤ pendingMint w programId program.referenceCurrency → 0 ≤ pos'.surplus.minor) := by
  obtain ⟨facts, d, hrequested, hinput, hd, hallowed⟩ := hallows
  obtain ⟨hpositive, -, hcovered⟩ := covered_of_allowed
    (positionAt_mintCapacity_currency hpos) hrequested hinput hd hallowed
  obtain ⟨hobligation, -, buffer, hbuffer, hrequired, hcapacity⟩ :=
    positionAt_obligation hprogram hpos
  have hprogram' : (w.withFeed t).programs.find? programId = some program := hprogram
  obtain ⟨hobligation', hsurplus', -⟩ := positionAt_obligation hprogram' hpos'
  have hredemption : pendingRedemption (w.withFeed t) programId program.referenceCurrency =
      pendingRedemption w programId program.referenceCurrency := rfl
  have heligible := positionAt_eligibleReserve_feed hpos hpos'
  rw [hgrows, hredemption] at hobligation'
  -- The obligation grows by at most the amount, and the amount fits into the capacity.
  have hcovers : pos'.reserveObligation.minor + buffer +
      pendingMint w programId program.referenceCurrency ≤ pos'.eligibleReserve.minor := by
    rw [heligible]
    omega
  refine ⟨heligible, ⟨_, hrequired, hcovers⟩, fun hratio hpending => ?_⟩
  rw [hsurplus', hratio, Int.mul_tdiv_cancel _ (by decide)]
  omega

end

/-! ## A required ratio of 150% -/

attribute [local instance] Runtime.ascii

namespace Sample

/-- Every check but the capacity passes. -/
def mintFacts (pos : ReservePosition) (amount : Int) (currency : String) : MintGuardFacts where
  requested := money amount currency
  capacityInput := ⟨pos.currency, pos.mintCapacity, money 0 pos.currency, money 0 pos.currency,
    money 0 pos.currency⟩
  reserveSnapshotAgeSeconds := 0
  maxReserveSnapshotAgeSeconds := some 900
  bankConnectivityAgeSeconds := 0
  maxBankConnectivityAgeSeconds := some 300
  liabilityFeedAgeSeconds := 0
  maxLiabilityFeedAgeSeconds := some 900
  proofOfReserveAgeSeconds := none
  maxProofOfReserveAgeSeconds := none
  hasUnresolvedReconciliation := false
  complianceHoldActive := false
  assetMintingSuspended := false
  programSuspended := false
  accountRestricted := false
  fundingDepositsCleared := true
  makerCheckerComplete := true
  mintFeatureEnabled := true

/-- The deployment, with a required ratio. -/
def ratioWorld (requiredRatioBps : Int) : World :=
  { world with programs := ⟨[{ program with requiredRatioBps }], List.nodup_singleton _⟩ }

/-- The feed once it reports a circulating supply. -/
def reporting (circulatingMinor : Int) : Lib.Table LiabilitySnapshot.id :=
  ⟨[{ snapshot with circulatingMinor }], List.nodup_singleton _⟩

end Sample

theorem ratioWorld_allows : (positionAt (Sample.ratioWorld 10000) 0 "P1").toOption.map
    (fun pos => (evaluateMintGuard (Sample.mintFacts pos 100 "USD")).toOption.map (·.allowed)) =
      some (some true) := by
  decide +kernel

theorem ratioWorld_surplus : (positionAt ((Sample.ratioWorld 10000).withFeed
    (Sample.reporting 100)) 0 "P1").toOption.map (·.surplus.minor) = some 0 := by
  decide +kernel

/-- A mint of 100 against a reserve of 100, at a required ratio of 100%. -/
theorem mint_keeps_reserve_default : ∃ pos', positionAt ((Sample.ratioWorld 10000).withFeed
    (Sample.reporting 100)) 0 "P1" = .ok pos' ∧ 0 ≤ pos'.surplus.minor := by
  obtain ⟨pos, hpos, hallows⟩ := toOption_map_eq_some.mp ratioWorld_allows
  obtain ⟨d, hd, hallowed⟩ := toOption_map_eq_some.mp hallows
  obtain ⟨pos', hpos', -⟩ := toOption_map_eq_some.mp ratioWorld_surplus
  refine ⟨pos', hpos', ?_⟩
  have hprogram : (Sample.ratioWorld 10000).programs.find? "P1" =
      some { Sample.program with requiredRatioBps := 10000 } := rfl
  have h := mint_keeps_reserve hprogram hpos ⟨_, d, rfl, rfl, hd, hallowed⟩ rfl hpos'
  exact h.2.2 rfl (by decide +kernel)

theorem ratioWorld_allows_150 : (positionAt (Sample.ratioWorld 15000) 0 "P1").toOption.map
    (fun pos => (evaluateMintGuard (Sample.mintFacts pos 100 "USD")).toOption.map (·.allowed)) =
      some (some true) := by
  decide +kernel

theorem ratioWorld_surplus_150 : (positionAt ((Sample.ratioWorld 15000).withFeed
    (Sample.reporting 100)) 0 "P1").toOption.map (·.surplus.minor) = some (-50) := by
  decide +kernel

/-- At a required ratio of 150%, the guard allows a mint that leaves a deficit of a third of it. -/
theorem mint_exceeds_ratio : ¬∀ [Runtime] (w : World) (t : Lib.Table LiabilitySnapshot.id)
    (now now' : Int) (programId currency : String) (program : Program)
    (pos pos' : ReservePosition) (amount : Int),
    w.programs.find? programId = some program → 10000 ≤ program.requiredRatioBps →
    0 ≤ program.safetyBufferBps → positionAt w now programId = .ok pos →
    GuardAllows pos amount currency →
    reportedCirculating (w.withFeed t) programId = reportedCirculating w programId + amount →
    positionAt (w.withFeed t) now' programId = .ok pos' →
    pos'.eligibleReserve = pos.eligibleReserve →
    0 ≤ pos'.surplus.minor ∧
      ∃ buffer, requiredSafetyBuffer pos'.reserveObligation program.safetyBufferBps = .ok buffer ∧
        pos'.reserveObligation.minor + buffer.minor ≤ pos'.eligibleReserve.minor := by
  intro h
  obtain ⟨pos, hpos, hallows⟩ := toOption_map_eq_some.mp ratioWorld_allows_150
  obtain ⟨d, hd, hallowed⟩ := toOption_map_eq_some.mp hallows
  obtain ⟨pos', hpos', hsurplus⟩ := toOption_map_eq_some.mp ratioWorld_surplus_150
  have hle := (h (Sample.ratioWorld 15000) (Sample.reporting 100) 0 0 "P1" "USD"
    { Sample.program with requiredRatioBps := 15000 } pos pos' 100 rfl (by decide) (by decide) hpos
    ⟨_, d, rfl, rfl, hd, hallowed⟩ rfl hpos' (positionAt_eligibleReserve_feed hpos hpos')).1
  omega

end TrusteeBank
