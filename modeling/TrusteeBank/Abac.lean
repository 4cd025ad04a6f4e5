import Mathlib.Data.List.Sort

/-!
# The approval matrix

`evaluateAbac` of the domain package: the configured policies decide how many approvals a
transaction needs, from which roles, or that it is denied. The highest-priority policy that
matches wins; a denial always blocks.
-/

set_option autoImplicit false

namespace TrusteeBank

/-- The attributes of a transaction. -/
structure AbacTransaction where
  transactionType : String
  amountMinor : Option Int := none
  currency : Option String := none
  riskLevel : Option String := none
  programId : Option String := none
  assetId : Option String := none
  jurisdiction : Option String := none

structure AbacPolicyRule where
  id : String
  transactionType : String
  minAmountMinor : Option Int
  maxAmountMinor : Option Int
  currency : Option String
  riskLevel : Option String
  programId : Option String
  assetId : Option String
  jurisdiction : Option String
  requiredApprovals : Int
  requiredRoles : List String
  effect : String
  priority : Int
  enabled : Bool

structure AbacDecision where
  denied : Bool
  requiredApprovals : Int
  requiredRoles : List String
  matchedPolicyId : Option String
deriving DecidableEq, Repr

/-- A policy restricts an attribute to one value, or not at all (`null` or the empty text). -/
def attributeMatches (wanted actual : Option String) : Bool :=
  match wanted with
  | none => true
  | some value => value = "" || actual = some value

/-- An amount that is not given is outside every band. -/
def amountWithin (minAmountMinor maxAmountMinor amountMinor : Option Int) : Bool :=
  (minAmountMinor.all fun bound => amountMinor.any fun amt => bound ≤ amt) &&
    maxAmountMinor.all fun bound => amountMinor.any fun amt => amt ≤ bound

def AbacPolicyRule.matches (policy : AbacPolicyRule) (tx : AbacTransaction) : Bool :=
  policy.enabled && policy.transactionType = tx.transactionType &&
    attributeMatches policy.currency tx.currency &&
    attributeMatches policy.riskLevel tx.riskLevel &&
    attributeMatches policy.programId tx.programId &&
    attributeMatches policy.assetId tx.assetId &&
    attributeMatches policy.jurisdiction tx.jurisdiction &&
    amountWithin policy.minAmountMinor policy.maxAmountMinor tx.amountMinor

/-- The policies that match, highest priority first; equal priorities keep their order. -/
def matchedPolicies (policies : List AbacPolicyRule) (tx : AbacTransaction) :
    List AbacPolicyRule :=
  (policies.filter fun p => p.matches tx).insertionSort fun a b => b.priority ≤ a.priority

/-- Evaluate policies for a transaction. When nothing matches: two approvals, maker and checker. -/
def evaluateAbac (policies : List AbacPolicyRule) (tx : AbacTransaction) : AbacDecision :=
  match (matchedPolicies policies tx).find? fun p => p.effect = "DENY" with
  | some deny =>
    { denied := true, requiredApprovals := 0, requiredRoles := [], matchedPolicyId := some deny.id }
  | none =>
    match (matchedPolicies policies tx).find? fun p => p.effect = "REQUIRE" with
    | some required =>
      { denied := false, requiredApprovals := required.requiredApprovals
        requiredRoles := required.requiredRoles, matchedPolicyId := some required.id }
    | none =>
      { denied := false, requiredApprovals := 2, requiredRoles := [], matchedPolicyId := none }

/-! ## What decides -/

theorem mem_matchedPolicies {policies : List AbacPolicyRule} {tx : AbacTransaction}
    {p : AbacPolicyRule} :
    p ∈ matchedPolicies policies tx ↔ p ∈ policies ∧ p.matches tx = true := by
  rw [matchedPolicies, List.mem_insertionSort, List.mem_filter]

/-- Every policy after another has at most its priority. -/
theorem matchedPolicies_pairwise (policies : List AbacPolicyRule) (tx : AbacTransaction) :
    (matchedPolicies policies tx).Pairwise fun a b => b.priority ≤ a.priority := by
  have htotal : Std.Total fun a b : AbacPolicyRule => b.priority ≤ a.priority :=
    ⟨fun a b => le_total b.priority a.priority⟩
  have htrans : IsTrans AbacPolicyRule fun a b => b.priority ≤ a.priority :=
    ⟨fun a b c hab hbc => hbc.trans hab⟩
  exact List.pairwise_insertionSort _ _

/-- The first policy of its kind has the highest priority of them. -/
theorem priority_le_of_find? {policies : List AbacPolicyRule} {tx : AbacTransaction}
    {effect : String} {p q : AbacPolicyRule}
    (hp : ((matchedPolicies policies tx).find? fun p => p.effect = effect) = some p)
    (hq : q ∈ policies) (hmatches : q.matches tx = true) (heffect : q.effect = effect) :
    q.priority ≤ p.priority := by
  obtain ⟨-, before, after, hsplit, hbefore⟩ := List.find?_eq_some_iff_append.mp hp
  have hsorted := matchedPolicies_pairwise policies tx
  have hmem : q ∈ matchedPolicies policies tx := mem_matchedPolicies.mpr ⟨hq, hmatches⟩
  rw [hsplit] at hsorted hmem
  rcases List.mem_append.mp hmem with hmem | hmem
  · simpa [heffect] using hbefore q hmem
  · rcases List.mem_cons.mp hmem with rfl | hmem
    · exact le_refl _
    · exact List.rel_of_pairwise_cons (List.pairwise_append.mp hsorted).2.1 hmem

/-- **A transaction is denied exactly when a policy that matches denies it**, whatever the
priorities are. -/
theorem evaluateAbac_denied {policies : List AbacPolicyRule} {tx : AbacTransaction} :
    (evaluateAbac policies tx).denied = true ↔
      ∃ p ∈ policies, p.matches tx = true ∧ p.effect = "DENY" := by
  unfold evaluateAbac
  cases hdeny : (matchedPolicies policies tx).find? fun p => p.effect = "DENY" with
  | some deny =>
    have hmem := mem_matchedPolicies.mp (List.mem_of_find?_eq_some hdeny)
    exact ⟨fun _ => ⟨deny, hmem.1, hmem.2, by simpa using List.find?_some hdeny⟩, fun _ => rfl⟩
  | none =>
    constructor
    · intro h
      cases hrequire : (matchedPolicies policies tx).find? fun p => p.effect = "REQUIRE" <;>
        rw [hrequire] at h <;> cases h
    · rintro ⟨p, hp, hmatches, heffect⟩
      have hnot := List.find?_eq_none.mp hdeny p (mem_matchedPolicies.mpr ⟨hp, hmatches⟩)
      simp [heffect] at hnot

end TrusteeBank
