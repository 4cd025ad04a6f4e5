import TrusteeBank.Reserve.Guard
import TrusteeBank.Services.MintEffects

/-!
# What the guard saw

An authorization becomes `ISSUED` only by an approval whose guard allowed it. This module ties the
two: the facts of the state in which it becomes `ISSUED` block nothing
(`MintOp.newly_issued_unblocked`), so each of them can be read off that state.

The ages among the facts are whole seconds, rounded down. `Resolves` says when the rounding does
not matter; then an age that is within a maximum is of an instant within the maximum
(`Resolves.since_le`).
-/

set_option autoImplicit false

namespace TrusteeBank

open MintService

section

variable [Runtime]

/-- An authorization of a program, which the guard allows on the facts of a state. -/
structure IssuedUnder (w : World) (clock : Clock) (auth : MintAuthorization) (program : Program)
    (pos : ReservePosition) : Prop where
  enrolled : w.programs.find? auth.programId = some program
  position : positionAt w (clock 0) auth.programId = .ok pos
  unblocked : (factsAt w clock auth program pos true).Unblocked

/-- What the guard allows on the facts of a state, it allows because nothing blocks it. -/
theorem unblocked_of_allowed {w : World} {clock : Clock} {auth : MintAuthorization}
    {program : Program} {pos : ReservePosition} {complete : Bool} {d : MintGuardDecision}
    (hpos : positionAt w (clock 0) auth.programId = .ok pos)
    (hd : evaluateMintGuard (factsAt w clock auth program pos complete) = .ok d)
    (hallowed : d.allowed = true) : (factsAt w clock auth program pos complete).Unblocked := by
  have hamounts : (factsAt w clock auth program pos complete).capacityInput.AmountsIn
      (Runtime.toUpperCase pos.currency) :=
    ⟨positionAt_mintCapacity_currency hpos, rfl, rfl, rfl⟩
  exact ((MintGuardFacts.allowed_iff hamounts rfl).mp ⟨d, hd, hallowed⟩).1

/-- **What becomes issued was allowed on the facts of the state.** -/
theorem MintOp.newly_issued_unblocked {w : World} {op : MintOp} {a : MintAuthorization}
    (ha : a ∈ (op.step w).mintAuthorizations.rows) (hissued : a.status = .issued)
    (hbefore : NotIssued w a.id) : ∃ clock checkerId reason auth approval program pos,
      op = .approve clock a.id checkerId reason ∧ a.programId = auth.programId ∧
        Issuable w (clock 0) a.id checkerId auth approval ∧
          IssuedUnder w clock auth program pos := by
  obtain ⟨clock, checkerId, reason, auth, approval, e, signature, expiresAt, rfl, hissuable,
    -, haeq, -⟩ := MintOp.newly_issued ha hissued hbefore
  simp only [MintOp.step, MintOp.call, Lib.Call.run_void_snd] at ha
  rcases run_approve_guard w clock a.id checkerId reason with hsame |
    ⟨auth', approval', checker, facts, d, h, hrun⟩
  · rw [hsame] at ha
    exact absurd hissued (hbefore a (Lib.Table.find?_key_of_mem ha))
  obtain rfl : auth = auth' := Option.some.inj (hissuable.found.symm.trans h.found)
  rw [hrun] at ha
  split_ifs at ha with hallowed
  · rcases run_gatherGuardFacts_cases clock a.id true w with ⟨e, he⟩ |
      ⟨auth', program, pos, hauth', hprogram, hpos, hfacts⟩
    · rw [h.gathered] at he
      cases he
    · obtain rfl : auth = auth' := Option.some.inj (hissuable.found.symm.trans hauth')
      rw [h.gathered] at hfacts
      cases hfacts
      exact ⟨clock, checkerId, reason, auth, approval, program, pos, rfl, by rw [haeq]; rfl,
        hissuable, hprogram, hpos, unblocked_of_allowed hpos h.decided hallowed⟩
  -- A refused approval leaves the authorization `REJECTED`.
  · obtain ⟨blockReason, reasons, hblock⟩ := run_block ApprovedMint clock
      h.found (find?_of_approvalOf h.reviewed) h.checker d
    rw [hblock] at ha
    exact absurd ha (hbefore.setAuthStatus hissued (by decide))

namespace IssuedUnder

variable {w : World} {clock : Clock} {auth : MintAuthorization} {program : Program}
  {pos : ReservePosition}

/-- What the guard has seen of the bank: nothing remembered counts as no age at all. -/
theorem bank (h : IssuedUnder w clock auth program pos) :
    exceeds ((w.lastSuccessfulCheck.map (ageSeconds (clock 2))).getD 0)
      Runtime.maxBankConnectivityAgeS = false :=
  h.unblocked.bank

/-- What the guard has seen of the feed. -/
theorem feed (h : IssuedUnder w clock auth program pos) {s : LiabilitySnapshot}
    (hs : latestVerified w auth.programId = some s) :
    exceeds (ageSeconds (clock 3) s.snapshotTimestamp) Runtime.maxLiabilityFeedAgeS = false := by
  have hfeed := h.unblocked.feed
  simp only [factsAt, guardFacts, hs] at hfeed
  exact hfeed

/-- What the guard has seen where no snapshot is verified. -/
theorem unfed (h : IssuedUnder w clock auth program pos)
    (hs : latestVerified w auth.programId = none) :
    exceeds maxSafeInteger Runtime.maxLiabilityFeedAgeS = false := by
  have hfeed := h.unblocked.feed
  simp only [factsAt, guardFacts, hs] at hfeed
  exact hfeed

/-- What the guard has seen of the lifecycle of the program. -/
theorem not_suspended (h : IssuedUnder w clock auth program pos) :
    program.status ≠ .suspended :=
  of_decide_eq_false h.unblocked.program

end IssuedUnder

end

/-! ## Ages -/

/-- The age of an instant is not within the second that rounding down takes off a maximum. -/
def Resolves (now since max : Int) : Prop :=
  now - since ≤ max * 1000 ∨ (max + 1) * 1000 ≤ now - since

instance (now since max : Int) : Decidable (Resolves now since max) :=
  inferInstanceAs (Decidable (_ ∨ _))

/-- An age within a maximum is of an instant within the maximum. -/
theorem Resolves.since_le {now since max : Int} (h : Resolves now since max)
    (hage : exceeds (ageSeconds now since) (some max) = false) : now - max * 1000 ≤ since := by
  have hle : ¬ageSeconds now since > max := of_decide_eq_false hage
  unfold ageSeconds at hle
  rcases h with h | h
  · omega
  · omega

end TrusteeBank
