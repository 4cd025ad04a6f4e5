import TrusteeBank.Abac

/-!
# What the approval matrix decides

`evaluateAbac` keeps the policies that match, sorts them by priority and searches the result
twice. This module says what comes out of it without the sort: `AbacPolicyRule.Covers` spells out,
attribute by attribute, when a policy is about a transaction.

**Theorem (`evaluateAbac_meets`).** A transaction is denied if and only if a policy about it
denies it. Otherwise it needs what a policy about it of the highest priority requires, and two
approvals if no policy is about it.

**Theorem (`order_irrelevant_iff`).** The order of the policies does not matter if and only if a
policy denies the transaction or all the policies of the highest priority require the same
(`OneDemand`). Priorities need not differ, and `AdminService.evaluate` reads the policies without
an order, so this is also when it gives one answer.

The sort is stable: a policy of the highest priority that comes first in the list is found first
(`find?_orderedInsert`). So every policy that ties for the highest priority decides under some
order, and one answer for all orders forces the ties to agree.
-/

set_option autoImplicit false

namespace TrusteeBank

/-! ## When a policy is about a transaction -/

/-- A policy leaves an attribute open (`null` or the empty text) or asks for this value. -/
def AsksFor (wanted actual : Option String) : Prop :=
  ∀ value, wanted = some value → value ≠ "" → actual = some value

/-- Every attribute of the transaction is what the policy asks for. -/
structure AbacPolicyRule.Covers (policy : AbacPolicyRule) (tx : AbacTransaction) : Prop where
  transactionType : policy.transactionType = tx.transactionType
  currency : AsksFor policy.currency tx.currency
  riskLevel : AsksFor policy.riskLevel tx.riskLevel
  programId : AsksFor policy.programId tx.programId
  assetId : AsksFor policy.assetId tx.assetId
  jurisdiction : AsksFor policy.jurisdiction tx.jurisdiction
  /-- The bound is inclusive, and there is an amount to compare with it. -/
  minAmountMinor : ∀ bound, policy.minAmountMinor = some bound →
    ∃ amt, tx.amountMinor = some amt ∧ bound ≤ amt
  maxAmountMinor : ∀ bound, policy.maxAmountMinor = some bound →
    ∃ amt, tx.amountMinor = some amt ∧ amt ≤ bound

/-- An enabled policy with an effect, about a transaction. -/
structure Applies (policies : List AbacPolicyRule) (tx : AbacTransaction) (effect : String)
    (p : AbacPolicyRule) : Prop where
  mem : p ∈ policies
  enabled : p.enabled = true
  effect : p.effect = effect
  covers : p.Covers tx

/-- A policy that requires approvals and has the highest priority of those that do. -/
structure Decides (policies : List AbacPolicyRule) (tx : AbacTransaction) (p : AbacPolicyRule) :
    Prop where
  applies : Applies policies tx "REQUIRE" p
  highest : ∀ q, Applies policies tx "REQUIRE" q → q.priority ≤ p.priority

theorem attributeMatches_iff {wanted actual : Option String} :
    attributeMatches wanted actual = true ↔ AsksFor wanted actual := by
  cases wanted with
  | none => simp [attributeMatches, AsksFor]
  | some value =>
    simp only [attributeMatches, AsksFor, Bool.or_eq_true, decide_eq_true_eq, Option.some.injEq,
      forall_eq', ne_eq]
    exact or_iff_not_imp_left

theorem amountWithin_iff {minAmountMinor maxAmountMinor amountMinor : Option Int} :
    amountWithin minAmountMinor maxAmountMinor amountMinor = true ↔
      (∀ bound, minAmountMinor = some bound → ∃ amt, amountMinor = some amt ∧ bound ≤ amt) ∧
        ∀ bound, maxAmountMinor = some bound → ∃ amt, amountMinor = some amt ∧ amt ≤ bound := by
  simp only [amountWithin, Bool.and_eq_true, Option.all_eq_true, Option.any_eq_true,
    decide_eq_true_eq]

/-- `matches`, spelt out. -/
theorem AbacPolicyRule.matches_iff {policy : AbacPolicyRule} {tx : AbacTransaction} :
    policy.matches tx = true ↔ policy.enabled = true ∧ policy.Covers tx := by
  simp only [AbacPolicyRule.matches, Bool.and_eq_true, decide_eq_true_eq, attributeMatches_iff,
    amountWithin_iff]
  constructor
  · rintro ⟨⟨⟨⟨⟨⟨⟨henabled, htype⟩, hcurrency⟩, hrisk⟩, hprogram⟩, hasset⟩, hjurisdiction⟩,
      hmin, hmax⟩
    exact ⟨henabled, htype, hcurrency, hrisk, hprogram, hasset, hjurisdiction, hmin, hmax⟩
  · rintro ⟨henabled, hcovers⟩
    exact ⟨⟨⟨⟨⟨⟨⟨henabled, hcovers.transactionType⟩, hcovers.currency⟩, hcovers.riskLevel⟩,
      hcovers.programId⟩, hcovers.assetId⟩, hcovers.jurisdiction⟩, hcovers.minAmountMinor,
      hcovers.maxAmountMinor⟩

theorem applies_iff {policies : List AbacPolicyRule} {tx : AbacTransaction} {effect : String}
    {p : AbacPolicyRule} :
    Applies policies tx effect p ↔ p ∈ policies ∧ p.matches tx = true ∧ p.effect = effect := by
  rw [AbacPolicyRule.matches_iff]
  exact ⟨fun h => ⟨h.mem, ⟨h.enabled, h.covers⟩, h.effect⟩,
    fun h => ⟨h.1, h.2.1.1, h.2.2, h.2.1.2⟩⟩

/-! ## The decision -/

/-- What the search for an effect finds. -/
theorem find?_matchedPolicies {policies : List AbacPolicyRule} {tx : AbacTransaction}
    {effect : String} {p : AbacPolicyRule}
    (h : ((matchedPolicies policies tx).find? fun p => p.effect = effect) = some p) :
    Applies policies tx effect p := by
  have hmem := mem_matchedPolicies.mp (List.mem_of_find?_eq_some h)
  exact applies_iff.mpr ⟨hmem.1, hmem.2, by simpa using List.find?_some h⟩

theorem find?_matchedPolicies_eq_none {policies : List AbacPolicyRule} {tx : AbacTransaction}
    {effect : String} :
    ((matchedPolicies policies tx).find? fun p => p.effect = effect) = none ↔
      ∀ p, ¬Applies policies tx effect p := by
  rw [List.find?_eq_none]
  simp only [mem_matchedPolicies, applies_iff, decide_eq_true_eq, not_and, and_imp]

/-- A denial asks for nothing. -/
theorem evaluateAbac_of_denies {policies : List AbacPolicyRule} {tx : AbacTransaction}
    (h : ∃ p, Applies policies tx "DENY" p) :
    ∃ p, Applies policies tx "DENY" p ∧ evaluateAbac policies tx = ⟨true, 0, [], some p.id⟩ := by
  unfold evaluateAbac
  cases hdeny : (matchedPolicies policies tx).find? fun p => p.effect = "DENY" with
  | some p => exact ⟨p, find?_matchedPolicies hdeny, rfl⟩
  | none =>
    obtain ⟨p, hp⟩ := h
    exact absurd hp (find?_matchedPolicies_eq_none.mp hdeny p)

/-- A policy of the highest priority decides when none denies. -/
theorem evaluateAbac_of_requires {policies : List AbacPolicyRule} {tx : AbacTransaction}
    (hnone : ∀ p, ¬Applies policies tx "DENY" p) (h : ∃ p, Applies policies tx "REQUIRE" p) :
    ∃ p, Decides policies tx p ∧
      evaluateAbac policies tx = ⟨false, p.requiredApprovals, p.requiredRoles, some p.id⟩ := by
  unfold evaluateAbac
  rw [find?_matchedPolicies_eq_none.mpr hnone]
  cases hrequire : (matchedPolicies policies tx).find? fun p => p.effect = "REQUIRE" with
  | some p =>
    refine ⟨p, ⟨find?_matchedPolicies hrequire, fun q hq => ?_⟩, rfl⟩
    obtain ⟨hmem, hmatches, heffect⟩ := applies_iff.mp hq
    exact priority_le_of_find? hrequire hmem hmatches heffect
  | none =>
    obtain ⟨p, hp⟩ := h
    exact absurd hp (find?_matchedPolicies_eq_none.mp hrequire p)

theorem evaluateAbac_of_none {policies : List AbacPolicyRule} {tx : AbacTransaction}
    (hdeny : ∀ p, ¬Applies policies tx "DENY" p) (hnone : ∀ p, ¬Applies policies tx "REQUIRE" p) :
    evaluateAbac policies tx = ⟨false, 2, [], none⟩ := by
  unfold evaluateAbac
  rw [find?_matchedPolicies_eq_none.mpr hdeny, find?_matchedPolicies_eq_none.mpr hnone]

/-- **The decision of the matrix**, and what a bound on the amount needs. -/
theorem evaluateAbac_meets (policies : List AbacPolicyRule) (tx : AbacTransaction) :
    ((evaluateAbac policies tx).denied = true ↔ ∃ p, Applies policies tx "DENY" p) ∧
    ((∀ p, ¬Applies policies tx "DENY" p) →
      ((∃ p, Applies policies tx "REQUIRE" p) →
        ∃ p, Decides policies tx p ∧ evaluateAbac policies tx =
          ⟨false, p.requiredApprovals, p.requiredRoles, some p.id⟩) ∧
      ((∀ p, ¬Applies policies tx "REQUIRE" p) →
        evaluateAbac policies tx = ⟨false, 2, [], none⟩)) ∧
    ∀ p : AbacPolicyRule, p.minAmountMinor ≠ none ∨ p.maxAmountMinor ≠ none →
      tx.amountMinor = none → p.matches tx = false := by
  refine ⟨?_, fun hdeny => ⟨evaluateAbac_of_requires hdeny, evaluateAbac_of_none hdeny⟩, ?_⟩
  · rw [evaluateAbac_denied]
    exact exists_congr fun p => applies_iff.symm
  · intro p hbound hamount
    rw [Bool.eq_false_iff, ne_eq, AbacPolicyRule.matches_iff]
    rintro ⟨-, hcovers⟩
    rcases hbound with hmin | hmax
    · obtain ⟨bound, hbound⟩ := Option.ne_none_iff_exists'.mp hmin
      obtain ⟨amt, hamt, -⟩ := hcovers.minAmountMinor bound hbound
      rw [hamount] at hamt
      cases hamt
    · obtain ⟨bound, hbound⟩ := Option.ne_none_iff_exists'.mp hmax
      obtain ⟨amt, hamt, -⟩ := hcovers.maxAmountMinor bound hbound
      rw [hamount] at hamt
      cases hamt

/-! ## The order of the policies -/

/-- What a decision asks for, without the policy it names. -/
def AbacDecision.demand (d : AbacDecision) : Bool × Int × List String :=
  (d.denied, d.requiredApprovals, d.requiredRoles)

/-- A policy denies the transaction, or those of the highest priority require the same. -/
def OneDemand (policies : List AbacPolicyRule) (tx : AbacTransaction) : Prop :=
  (∃ p, Applies policies tx "DENY" p) ∨
    ∀ p q, Decides policies tx p → Decides policies tx q →
      p.requiredApprovals = q.requiredApprovals ∧ p.requiredRoles = q.requiredRoles

namespace AdminService

/-- The rows `findMany` returns: the enabled policies of the transaction's type, in any order. -/
def PolicyRows (table : List AbacPolicyRule) (tx : AbacTransaction)
    (rows : List AbacPolicyRule) : Prop :=
  rows.Perm (table.filter fun r => r.transactionType = tx.transactionType && r.enabled)

/-- The approval requirement of a hypothetical transaction, from the rows that were read. -/
def evaluate (rows : List AbacPolicyRule) (tx : AbacTransaction) : AbacDecision :=
  evaluateAbac rows tx

end AdminService

/-- Two lists with the same policies about a transaction leave it the same demands. -/
theorem oneDemand_congr {policies rows : List AbacPolicyRule} {tx : AbacTransaction}
    (h : ∀ effect p, Applies rows tx effect p ↔ Applies policies tx effect p) :
    OneDemand rows tx ↔ OneDemand policies tx := by
  have hdecides (p : AbacPolicyRule) : Decides rows tx p ↔ Decides policies tx p :=
    ⟨fun hp => ⟨(h _ _).mp hp.applies, fun q hq => hp.highest q ((h _ _).mpr hq)⟩,
      fun hp => ⟨(h _ _).mpr hp.applies, fun q hq => hp.highest q ((h _ _).mp hq)⟩⟩
  simp only [OneDemand, h, hdecides]

theorem applies_perm {policies rows : List AbacPolicyRule} (h : rows.Perm policies)
    (tx : AbacTransaction) (effect : String) (p : AbacPolicyRule) :
    Applies rows tx effect p ↔ Applies policies tx effect p := by
  rw [applies_iff, applies_iff, h.mem_iff]

/-- One demand is the demand of every order. -/
theorem OneDemand.demand_eq {policies rows : List AbacPolicyRule} {tx : AbacTransaction}
    (h : OneDemand policies tx) (hrows : rows.Perm policies) :
    (evaluateAbac rows tx).demand = (evaluateAbac policies tx).demand := by
  have happlies := applies_perm hrows tx
  by_cases hdeny : ∃ p, Applies policies tx "DENY" p
  · obtain ⟨p, -, hp⟩ := evaluateAbac_of_denies hdeny
    obtain ⟨q, -, hq⟩ := evaluateAbac_of_denies (hdeny.imp fun p => (happlies "DENY" p).mpr)
    rw [hp, hq]
    rfl
  · have hsame := h.resolve_left hdeny
    rw [not_exists] at hdeny
    have hdeny' (p : AbacPolicyRule) : ¬Applies rows tx "DENY" p :=
      fun hp => hdeny p ((happlies "DENY" p).mp hp)
    by_cases hrequire : ∃ p, Applies policies tx "REQUIRE" p
    · obtain ⟨p, hp, heq⟩ := evaluateAbac_of_requires hdeny hrequire
      obtain ⟨q, hq, heq'⟩ := evaluateAbac_of_requires hdeny'
        (hrequire.imp fun p => (happlies "REQUIRE" p).mpr)
      have hq' : Decides policies tx q :=
        ⟨(happlies _ _).mp hq.applies, fun r hr => hq.highest r ((happlies _ _).mpr hr)⟩
      obtain ⟨happrovals, hroles⟩ := hsame q p hq' hp
      rw [heq, heq', AbacDecision.demand, AbacDecision.demand, happrovals, hroles]
    · rw [not_exists] at hrequire
      rw [evaluateAbac_of_none hdeny hrequire, evaluateAbac_of_none hdeny' fun p hp =>
        hrequire p ((happlies "REQUIRE" p).mp hp)]

/-- What is inserted is found, when it is of the kind that is sought and comes before whatever
else is. -/
theorem find?_orderedInsert {α : Type} {r : α → α → Prop} [DecidableRel r] {sought : α → Bool}
    {a : α} {l : List α} (ha : sought a = true) (h : ∀ x ∈ l, sought x = true → r a x) :
    (l.orderedInsert r a).find? sought = some a := by
  induction l with
  | nil => simp [ha]
  | cons b l ih =>
    rw [List.orderedInsert_cons]
    split_ifs with hab
    · exact List.find?_cons_of_pos ha
    · have hb : ¬sought b = true := fun hb => hab (h b List.mem_cons_self hb)
      rw [List.find?_cons_of_neg hb]
      exact ih fun x hx => h x (List.mem_cons_of_mem b hx)

/-- A policy of the highest priority decides where it comes first. -/
theorem Decides.first {policies rest : List AbacPolicyRule} {tx : AbacTransaction}
    {p : AbacPolicyRule} (hp : Decides policies tx p)
    (hnone : ∀ q, ¬Applies policies tx "DENY" q) (hperm : (p :: rest).Perm policies) :
    (evaluateAbac (p :: rest) tx).demand = (false, p.requiredApprovals, p.requiredRoles) := by
  have happlies := applies_perm hperm tx
  obtain ⟨-, hmatches, heffect⟩ := applies_iff.mp hp.applies
  have hfind : ((matchedPolicies (p :: rest) tx).find? fun q => q.effect = "REQUIRE") = some p := by
    have hfilter : ((p :: rest).filter fun q => q.matches tx) =
        p :: rest.filter fun q => q.matches tx := List.filter_cons_of_pos hmatches
    rw [matchedPolicies, hfilter, List.insertionSort_cons]
    refine find?_orderedInsert (by simpa using heffect) fun q hq hrequire => ?_
    obtain ⟨hmem, hq⟩ := List.mem_filter.mp (List.mem_insertionSort _ |>.mp hq)
    exact hp.highest q ((happlies "REQUIRE" q).mp
      (applies_iff.mpr ⟨List.mem_cons_of_mem p hmem, hq, by simpa using hrequire⟩))
  have hdeny : ((matchedPolicies (p :: rest) tx).find? fun q => q.effect = "DENY") = none :=
    find?_matchedPolicies_eq_none.mpr fun q hq => hnone q ((happlies "DENY" q).mp hq)
  unfold evaluateAbac
  rw [hdeny, hfind]
  rfl

/-- A member of a list can come first. -/
theorem exists_perm_cons {α : Type} {a : α} {l : List α} (h : a ∈ l) :
    ∃ rest, (a :: rest).Perm l := by
  obtain ⟨before, after, rfl⟩ := List.append_of_mem h
  exact ⟨before ++ after, List.perm_middle.symm⟩

/-- The order of a list of policies does not matter exactly when there is one demand. -/
theorem demand_perm_iff (policies : List AbacPolicyRule) (tx : AbacTransaction) :
    (∀ rows, rows.Perm policies →
      (evaluateAbac rows tx).demand = (evaluateAbac policies tx).demand) ↔
        OneDemand policies tx := by
  refine ⟨fun h => ?_, fun h rows hrows => h.demand_eq hrows⟩
  refine or_iff_not_imp_left.mpr fun hdeny p q hp hq => ?_
  rw [not_exists] at hdeny
  -- Each of the two decides under the order in which it comes first.
  obtain ⟨rest, hrest⟩ := exists_perm_cons hp.applies.mem
  obtain ⟨rest', hrest'⟩ := exists_perm_cons hq.applies.mem
  have hdemand : (false, p.requiredApprovals, p.requiredRoles) =
      (false, q.requiredApprovals, q.requiredRoles) := by
    rw [← hp.first hdeny hrest, ← hq.first hdeny hrest', h _ hrest, h _ hrest']
  simpa using hdemand

/-- The rows of the transaction's type are the policies that can be about it. -/
theorem applies_policyRows (table : List AbacPolicyRule) (tx : AbacTransaction) (effect : String)
    (p : AbacPolicyRule) :
    Applies (table.filter fun r => r.transactionType = tx.transactionType && r.enabled) tx
      effect p ↔ Applies table tx effect p := by
  constructor
  · exact fun h => ⟨(List.mem_filter.mp h.mem).1, h.enabled, h.effect, h.covers⟩
  · refine fun h => ⟨List.mem_filter.mpr ⟨h.mem, ?_⟩, h.enabled, h.effect, h.covers⟩
    simp [h.covers.transactionType, h.enabled]

/-- **The approval decision depends on the order of the policies exactly when those of the highest
priority disagree**, and then `AdminService.evaluate` has more than one answer. -/
theorem order_irrelevant_iff (policies : List AbacPolicyRule) (tx : AbacTransaction) :
    ((∀ rows, rows.Perm policies →
      (evaluateAbac rows tx).demand = (evaluateAbac policies tx).demand) ↔
        OneDemand policies tx) ∧
    ((∀ rows rows', AdminService.PolicyRows policies tx rows →
      AdminService.PolicyRows policies tx rows' →
        (AdminService.evaluate rows tx).demand = (AdminService.evaluate rows' tx).demand) ↔
          OneDemand policies tx) := by
  refine ⟨demand_perm_iff policies tx, ?_⟩
  rw [← oneDemand_congr (applies_policyRows policies tx), ← demand_perm_iff]
  constructor
  · exact fun h rows hrows => h rows _ hrows (List.Perm.refl _)
  · exact fun h rows rows' hrows hrows' => (h rows hrows).trans (h rows' hrows').symm

/-! ## Two policies of one priority -/

namespace Sample

/-- A policy for every mint, of the priority a policy has by default. -/
def mintPolicy (id : String) (requiredApprovals : Int) : AbacPolicyRule where
  id := id
  transactionType := "MINT_AUTHORIZATION"
  minAmountMinor := none
  maxAmountMinor := none
  currency := none
  riskLevel := none
  programId := none
  assetId := none
  jurisdiction := none
  requiredApprovals := requiredApprovals
  requiredRoles := []
  effect := "REQUIRE"
  priority := 100
  enabled := true

end Sample

/-- Of two policies that ask for two and for three approvals, whichever is read first decides. -/
theorem order_matters : ¬∀ (policies rows : List AbacPolicyRule) (tx : AbacTransaction),
    rows.Perm policies → (evaluateAbac rows tx).demand = (evaluateAbac policies tx).demand := by
  intro h
  have hswap := h [Sample.mintPolicy "two" 2, Sample.mintPolicy "three" 3]
    [Sample.mintPolicy "three" 3, Sample.mintPolicy "two" 2]
    { transactionType := "MINT_AUTHORIZATION" } (List.Perm.swap _ _ [])
  revert hswap
  decide

end TrusteeBank
