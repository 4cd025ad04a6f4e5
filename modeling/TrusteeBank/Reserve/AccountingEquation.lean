import Mathlib.Algebra.BigOperators.Finprod
import TrusteeBank.Infra

/-!
# The accounting equation

The subledger is written by `ReserveLedgerService.post` only, with entries that
`buildJournalEntry` built, directly or through `reverse`. Every entry balances, so whatever was
posted, the balances of a program add up: in each currency its assets and expenses equal its
liabilities, income and suspense accounts.

* `sum_ledgerNet`: the nets of all accounts of a program and currency add up to nothing;
* `accounting_equation`: the equation after every run of posts, and what `subledgerBalances`
  reports.
-/

set_option autoImplicit false

namespace TrusteeBank

open Lib (Call)
open ReserveLedgerService

variable [Runtime]

/-! ## Posting -/

/-- What is posted: an entry built from its input, or the reversal of an entry. -/
inductive PostOp
  | entry (input : JournalEntryInput)
  | reversal (e : JournalEntry) (reversalRef actor reason : String)

def PostOp.build : PostOp → Except ApiError JournalEntry
  | .entry input => buildJournalEntry input
  | .reversal e reversalRef actor reason => reverse e reversalRef actor reason

def PostOp.call (op : PostOp) : Service Unit := do
  let e ← op.build
  post e

/-- Build and post one entry, whether it succeeds or throws. -/
def PostOp.step (w : World) (op : PostOp) : World := (op.call.run w).2

/-! ## What the service reports -/

/-- `{ balanced, net }`. -/
structure SubledgerBalance where
  balanced : Bool
  net : Int
deriving DecidableEq, Repr

/-- Verify the whole subledger of a program balances to zero. -/
def subledgerBalances (programId : String) : Service SubledgerBalance := do
  let rows ← Call.read ⟨.ledgerPosting, .findMany, programId⟩ fun w =>
    (w.ledger.filter fun e => e.references.programId = programId).flatMap fun e => e.postings
  let net := netPostings true rows
  return { balanced := net = 0, net }

/-- The minor units `accountBalance` returns, nothing for an account of no known type. -/
def accountMinor (w : World) (programId account currency : String) : Int :=
  match ((accountBalance programId account currency).run w).1 with
  | .ok balance => balance.minor
  | .error _ => 0

/-- The accounts of some types. -/
def accountsOfType (types : List LedgerAccountType) : Set String :=
  {a | ∃ t ∈ types, ledgerAccountTypeOf a = .ok t}

/-! ## The equation -/

/-- The accounts a ledger has postings on. -/
def postedAccounts (ledger : List JournalEntry) : Finset String :=
  (ledger.flatMap fun e => e.postings.map Posting.account).toFinset

/-- Debits minus credits of an entry add up to nothing. -/
theorem JournalEntry.sum_postings (e : JournalEntry) :
    (e.postings.map fun p => p.debit.minor - p.credit.minor).sum = 0 := by
  have hbalanced := e.valid.balanced
  have hdebit : (e.postings.map fun p => p.debit.minor).sum =
      (e.postings.map fun p => p.debit.minor - p.credit.minor).sum +
        (e.postings.map fun p => p.credit.minor).sum := by
    rw [← List.sum_map_add]
    simp
  omega

theorem JournalEntry.sum_lines (e : JournalEntry) : (e.lines.map Lib.Line.amount).sum = 0 := by
  rw [JournalEntry.lines, List.map_map]
  exact e.sum_postings

/-- **The nets of all accounts of a program and currency add up to nothing.** -/
theorem sum_ledgerNet (ledger : List JournalEntry) (programId currency : String)
    {accounts : Finset String} (haccounts : postedAccounts ledger ⊆ accounts) :
    ∑ a ∈ accounts, ledgerNet ledger programId currency a = 0 := by
  induction ledger with
  | nil => simp
  | cons e ledger ih =>
    have hposted : postedAccounts ledger ⊆ accounts ∧ ∀ p ∈ e.postings, p.account ∈ accounts := by
      simp only [postedAccounts, List.flatMap_cons, List.toFinset_append] at haccounts ⊢
      refine ⟨Finset.union_subset_right haccounts, fun p hp => ?_⟩
      exact haccounts (Finset.mem_union_left _ (List.mem_toFinset.mpr (List.mem_map_of_mem hp)))
    have hcons (a : String) : ledgerNet (e :: ledger) programId currency a =
        Lib.net e.lines (programId, currency, a) + ledgerNet ledger programId currency a := by
      rw [← List.singleton_append, ledgerNet_append, ledgerNet_singleton]
    simp only [hcons, Finset.sum_add_distrib, ih hposted.1, add_zero]
    -- The entry is in scope with all its lines or with none.
    have hinj : Function.Injective fun a : String => (programId, currency, a) := by
      intro a b h
      simpa using h
    have himage := Lib.sum_net e.lines (accounts.map ⟨_, hinj⟩)
    rw [Finset.sum_map] at himage
    refine himage.trans ?_
    by_cases hscope : e.references.programId = programId ∧ e.currency = currency
    · have hall : e.lines.filter (fun l => l.account ∈ accounts.map ⟨_, hinj⟩) = e.lines := by
        rw [List.filter_eq_self]
        intro l hl
        obtain ⟨p, hp, rfl⟩ := List.mem_map.mp hl
        simp [Posting.line, hscope, hposted.2 p hp]
      rw [hall, e.sum_lines]
    · have hnone : e.lines.filter (fun l => l.account ∈ accounts.map ⟨_, hinj⟩) = [] := by
        rw [List.filter_eq_nil_iff]
        intro l hl
        obtain ⟨p, hp, rfl⟩ := List.mem_map.mp hl
        simp only [Posting.line, Finset.mem_map, Function.Embedding.coeFn_mk, Prod.mk.injEq,
          decide_eq_true_eq, not_exists, not_and]
        intro a _ hprogramId hcurrency
        exact absurd ⟨hprogramId.symm, hcurrency.symm⟩ hscope
      rw [hnone, List.map_nil, List.sum_nil]

/-! ## What is reported -/

theorem accountMinor_eq {account : String} {t : LedgerAccountType}
    (ht : ledgerAccountTypeOf account = .ok t) (w : World) (programId currency : String) :
    accountMinor w programId account currency =
      (if t.debitPositive then 1 else -1) * ledgerNet w.ledger programId currency account := by
  rw [accountMinor, run_accountBalance ht]
  rfl

/-- An account without postings has no balance. -/
theorem ledgerNet_of_not_posted {ledger : List JournalEntry} {account : String}
    (h : account ∉ postedAccounts ledger) (programId currency : String) :
    ledgerNet ledger programId currency account = 0 := by
  refine Lib.net_eq_zero fun l hl hacc => ?_
  obtain ⟨e, he, hl⟩ := List.mem_flatMap.mp hl
  obtain ⟨p, hp, rfl⟩ := List.mem_map.mp hl
  simp only [Posting.line, Prod.mk.injEq] at hacc
  refine h (List.mem_toFinset.mpr (List.mem_flatMap.mpr ⟨e, he, ?_⟩))
  exact hacc.2.2 ▸ List.mem_map_of_mem hp

/-- Every account with postings is of a known type. -/
theorem type_of_mem_postedAccounts {ledger : List JournalEntry} {account : String}
    (h : account ∈ postedAccounts ledger) : ∃ t, ledgerAccountTypeOf account = .ok t := by
  obtain ⟨e, -, haccount⟩ := List.mem_flatMap.mp (List.mem_toFinset.mp h)
  obtain ⟨p, hp, rfl⟩ := List.mem_map.mp haccount
  exact (e.valid.postings p hp).account

/-- The balances of the accounts of some types are those of the accounts with postings. -/
theorem finsum_accountMinor (w : World) (programId currency : String)
    (types : List LedgerAccountType) :
    ∑ᶠ a ∈ accountsOfType types, accountMinor w programId a currency =
      ∑ a ∈ postedAccounts w.ledger,
        (accountsOfType types).indicator (fun a => accountMinor w programId a currency) a := by
  rw [finsum_mem_def]
  refine finsum_eq_sum_of_support_subset _ fun a ha => ?_
  by_contra hposted
  rw [Finset.mem_coe] at hposted
  obtain ⟨⟨t, -, ht⟩, hne⟩ := Set.indicator_apply_ne_zero.mp ha
  refine hne ?_
  show accountMinor w programId a currency = 0
  rw [accountMinor_eq ht, ledgerNet_of_not_posted hposted, mul_zero]

/-- What the sum of all debits minus credits of a program is. -/
theorem run_subledgerBalances (programId : String) (w : World) :
    (subledgerBalances programId).run w = (.ok ⟨true, 0⟩, w) := by
  have hnet : netPostings true ((w.ledger.filter fun e =>
      e.references.programId = programId).flatMap fun e => e.postings) = 0 := by
    rw [netPostings_eq, if_pos rfl, one_mul]
    induction w.ledger.filter fun e => e.references.programId = programId with
    | nil => rfl
    | cons e es ih => rw [List.flatMap_cons, List.map_append, List.sum_append, e.sum_postings, ih,
        add_zero]
  unfold subledgerBalances
  rw [Call.run_read_bind, hnet]
  rfl

/-- **Assets and expenses equal liabilities, income and suspense.** -/
theorem accounting_equation (w : World) (ops : List PostOp) (programId currency : String) :
    ∑ᶠ a ∈ accountsOfType [.asset, .expense],
        accountMinor (ops.foldl PostOp.step w) programId a currency =
      ∑ᶠ a ∈ accountsOfType [.liability, .income, .suspense],
        accountMinor (ops.foldl PostOp.step w) programId a currency ∧
    (subledgerBalances programId).run (ops.foldl PostOp.step w) =
      (.ok ⟨true, 0⟩, ops.foldl PostOp.step w) := by
  refine ⟨?_, run_subledgerBalances programId _⟩
  generalize ops.foldl PostOp.step w = w'
  rw [finsum_accountMinor, finsum_accountMinor, ← sub_eq_zero, ← Finset.sum_sub_distrib]
  refine Eq.trans ?_ (sum_ledgerNet w'.ledger programId currency (Finset.Subset.refl _))
  refine Finset.sum_congr rfl fun a ha => ?_
  obtain ⟨t, ht⟩ := type_of_mem_postedAccounts ha
  have hmem (types : List LedgerAccountType) : a ∈ accountsOfType types ↔ t ∈ types := by
    simp [accountsOfType, ht]
  simp only [Set.indicator, hmem, accountMinor_eq ht]
  cases t <;> simp [LedgerAccountType.debitPositive]

end TrusteeBank
