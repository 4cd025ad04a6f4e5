import TrusteeBank.Ledger

/-!
# The journal engine

`buildJournalEntry` accepts the balanced entries and no others, and `reverse` exchanges their
sides. What makes an entry valid says the same of both sides, so the reversal of a valid entry is
valid, and each account moves back by what it has moved.

* `ledgerAccountTypeOf_eq_ok_iff`: the accounts that are recognised;
* `buildJournalEntry_accepts`: what is accepted, and what is returned;
* `accountEffect_eq`: the effect of an entry on an account, by its normal side;
* `reverse_inverse`: a reversal succeeds, undoes the effects, and is undone by its own reversal.
-/

set_option autoImplicit false

namespace TrusteeBank

/-! ## Recognised accounts -/

/-- The part of a code before the first colon. -/
def accountPrefix (code : String) : String := String.ofList (code.toList.takeWhile (· ≠ ':'))

/-- The prefixes of the chart of accounts. -/
def accountPrefixes : List String := ["ASSET", "LIABILITY", "INCOME", "EXPENSE", "SUSPENSE"]

/-- An account has a type exactly when its prefix is one of the five. -/
theorem ledgerAccountTypeOf_eq_ok_iff {code : String} :
    (∃ t, ledgerAccountTypeOf code = .ok t) ↔ accountPrefix code ∈ accountPrefixes := by
  unfold ledgerAccountTypeOf accountPrefix
  generalize String.ofList (code.toList.takeWhile fun c => c ≠ ':') = start
  simp only [accountPrefixes, List.mem_cons, List.not_mem_nil, or_false]
  split <;> simp_all

section

variable [Runtime]

/-! ## What is accepted -/

/-- An input balances: the conditions `buildJournalEntry` checks one after the other. -/
structure JournalEntryInput.Balances (input : JournalEntryInput) : Prop where
  two_postings : 2 ≤ input.postings.length
  currencies : ∀ p ∈ input.postings,
    p.debit.currency = input.currency ∧ p.credit.currency = input.currency
  upper_case : Runtime.toUpperCase input.currency = input.currency
  one_sided : ∀ p ∈ input.postings,
    (0 < p.debit.minor ∧ p.credit.minor = 0) ∨ (p.debit.minor = 0 ∧ 0 < p.credit.minor)
  accounts : ∀ p ∈ input.postings, accountPrefix p.account ∈ accountPrefixes
  balanced : (input.postings.map fun p => p.debit.minor).sum =
    (input.postings.map fun p => p.credit.minor).sum

theorem JournalEntryInput.valid_iff_balances {input : JournalEntryInput} :
    input.Valid ↔ input.Balances := by
  constructor
  · intro h
    exact ⟨h.two_postings, fun p hp => ⟨(h.postings p hp).debit_currency,
      (h.postings p hp).credit_currency⟩, h.upper_case, fun p hp => (h.postings p hp).one_sided,
      fun p hp => ledgerAccountTypeOf_eq_ok_iff.mp (h.postings p hp).account, h.balanced⟩
  · intro h
    refine ⟨h.two_postings, h.upper_case, fun p hp => ?_, h.balanced⟩
    obtain ⟨hdebit, hcredit⟩ := h.currencies p hp
    exact ⟨hdebit, hcredit, h.one_sided p hp, ledgerAccountTypeOf_eq_ok_iff.mpr (h.accounts p hp)⟩

/-- **`buildJournalEntry` accepts exactly the balanced entries**, and returns the postings it was
given, in their order, with the totals of both sides. -/
theorem buildJournalEntry_accepts (input : JournalEntryInput) :
    ((∃ e, buildJournalEntry input = .ok e) ↔ input.Balances) ∧
      ∀ e, buildJournalEntry input = .ok e →
        e.totalDebit = ⟨(input.postings.map fun p => p.debit.minor).sum, input.currency⟩ ∧
        e.totalCredit = ⟨(input.postings.map fun p => p.credit.minor).sum, input.currency⟩ ∧
        e.toJournalEntryInput = input := by
  rw [← JournalEntryInput.valid_iff_balances]
  refine ⟨⟨?_, exists_buildJournalEntry⟩, fun e he => ?_⟩
  · rintro ⟨e, he⟩
    rw [← (buildJournalEntry_ok he).1]
    exact e.valid
  · obtain ⟨hinput, -⟩ := buildJournalEntry_ok he
    have htotals := e.totals
    rw [hinput] at htotals
    exact ⟨congrArg Prod.fst htotals, congrArg Prod.snd htotals, hinput⟩

/-! ## Effects -/

/-- One turn of the loop over the postings of an entry. -/
def addEffect (debitPositive : Bool) (account : String) (net : Money) (p : Posting) :
    Except ApiError Money :=
  if p.account ≠ account then .ok net
  else do
    let delta ← if debitPositive then p.debit.subtract p.credit else p.credit.subtract p.debit
    net.add delta

/-- The signed effect of an entry on an account: positive is an increase of the account's natural
balance. -/
def accountEffect (entry : JournalEntry) (account : String) : Except ApiError Money := do
  let type ← ledgerAccountTypeOf account
  entry.postings.foldlM (addEffect type.debitPositive account) (zero entry.currency)

/-- What the postings on an account debit minus what they credit. -/
def netOn (account : String) (ps : List Posting) : Int :=
  ((ps.filter fun p => p.account = account).map fun p => p.debit.minor - p.credit.minor).sum

/-- Assets and expenses count what is debited, the others what is credited. -/
def LedgerAccountType.sign (t : LedgerAccountType) : Int := if t.debitPositive then 1 else -1

omit [Runtime] in
theorem netOn_cons (account : String) (p : Posting) (ps : List Posting) :
    netOn account (p :: ps) =
      (if p.account = account then p.debit.minor - p.credit.minor else 0) + netOn account ps := by
  unfold netOn
  by_cases haccount : p.account = account
  · simp [haccount]
  · simp [haccount]

omit [Runtime] in
/-- A turn adds what the posting moves on the account. -/
theorem addEffect_eq_ok {p : Posting} {currency : String} (hp : PostingWellFormed p currency)
    (t : LedgerAccountType) (account : String) (n : Int) :
    addEffect t.debitPositive account ⟨n, currency⟩ p =
      .ok ⟨n + t.sign * (if p.account = account then p.debit.minor - p.credit.minor else 0),
        currency⟩ := by
  obtain ⟨hdebit, hcredit, -, -⟩ := hp
  unfold addEffect LedgerAccountType.sign
  by_cases haccount : p.account = account
  · rw [if_neg (not_not.mpr haccount), if_pos haccount]
    by_cases hside : t.debitPositive = true
    · rw [if_pos hside, if_pos hside, Money.subtract_eq_ok (hdebit.trans hcredit.symm)]
      simp only [bind, Except.bind]
      rw [Money.add_eq_ok hdebit.symm, one_mul]
    · rw [if_neg hside, if_neg hside, Money.subtract_eq_ok (hcredit.trans hdebit.symm)]
      simp only [bind, Except.bind]
      rw [Money.add_eq_ok hcredit.symm, neg_one_mul, neg_sub]
  · rw [if_pos haccount, if_neg haccount, mul_zero, add_zero]

omit [Runtime] in
theorem foldlM_addEffect {currency : String} {ps : List Posting}
    (hps : ∀ p ∈ ps, PostingWellFormed p currency) (t : LedgerAccountType) (account : String)
    (n : Int) :
    ps.foldlM (addEffect t.debitPositive account) ⟨n, currency⟩ =
      .ok ⟨n + t.sign * netOn account ps, currency⟩ := by
  induction ps generalizing n with
  | nil => simp [netOn, pure, Except.pure]
  | cons p ps ih =>
    obtain ⟨hp, hps⟩ := List.forall_mem_cons.mp hps
    rw [List.foldlM_cons, addEffect_eq_ok hp, netOn_cons]
    simp only [bind, Except.bind]
    rw [ih hps, mul_add, add_assoc]

/-- **The effect of an entry** on an account that is recognised. -/
theorem accountEffect_eq (entry : JournalEntry) {account : String} {t : LedgerAccountType}
    (ht : ledgerAccountTypeOf account = .ok t) :
    accountEffect entry account =
      .ok ⟨t.sign * netOn account entry.postings, entry.currency⟩ := by
  have hzero : zero entry.currency = ⟨0, entry.currency⟩ := by
    rw [zero, entry.valid.upper_case]
  unfold accountEffect
  rw [ht, hzero]
  simp only [bind, Except.bind]
  rw [foldlM_addEffect entry.valid.postings, zero_add]

/-! ## Reversals -/

/-- The posting with its sides exchanged. -/
def Posting.swapped (p : Posting) : Posting := { p with debit := p.credit, credit := p.debit }

omit [Runtime] in
theorem PostingWellFormed.swapped {p : Posting} {currency : String}
    (h : PostingWellFormed p currency) : PostingWellFormed p.swapped currency :=
  ⟨h.credit_currency, h.debit_currency, h.one_sided.symm.imp And.symm And.symm, h.account⟩

omit [Runtime] in
theorem netOn_map_swapped (account : String) (ps : List Posting) :
    netOn account (ps.map Posting.swapped) = -netOn account ps := by
  induction ps with
  | nil => rfl
  | cons p ps ih =>
    rw [List.map_cons, netOn_cons, netOn_cons, ih, neg_add]
    by_cases haccount : p.account = account
    · have haccount' : p.swapped.account = account := haccount
      rw [if_pos haccount, if_pos haccount', neg_sub]
      rfl
    · have haccount' : p.swapped.account ≠ account := haccount
      rw [if_neg haccount, if_neg haccount', neg_zero]

omit [Runtime] in
theorem map_swapped_swapped (ps : List Posting) :
    (ps.map Posting.swapped).map Posting.swapped = ps := by
  rw [List.map_map]
  exact List.map_id ps

/-- What the reversal of an entry is built from. -/
def reversalInput (entry : JournalEntry) (reversalRef actor reason : String) :
    JournalEntryInput where
  currency := entry.currency
  description := "REVERSAL: " ++ entry.description ++ " — " ++ reason
  postings := entry.postings.map Posting.swapped
  references := { entry.references with source := reversalRef, actor }

/-- The two sides of a valid entry can be exchanged. -/
theorem reversalInput_valid (entry : JournalEntry) (reversalRef actor reason : String) :
    (reversalInput entry reversalRef actor reason).Valid where
  two_postings := by
    show 2 ≤ (entry.postings.map Posting.swapped).length
    rw [List.length_map]
    exact entry.valid.two_postings
  upper_case := entry.valid.upper_case
  postings := by
    intro p hp
    obtain ⟨q, hq, rfl⟩ := List.mem_map.mp hp
    exact (entry.valid.postings q hq).swapped
  balanced := by
    show ((entry.postings.map Posting.swapped).map fun p => p.debit.minor).sum =
      ((entry.postings.map Posting.swapped).map fun p => p.credit.minor).sum
    rw [List.map_map, List.map_map]
    exact entry.valid.balanced.symm

/-- **A reversal succeeds**, and is built from the exchanged sides. -/
theorem exists_reverse (entry : JournalEntry) (reversalRef actor reason : String) :
    ∃ reversed, reverse entry reversalRef actor reason = .ok reversed ∧
      reversed.toJournalEntryInput = reversalInput entry reversalRef actor reason := by
  obtain ⟨e, he⟩ := exists_buildJournalEntry (reversalInput_valid entry reversalRef actor reason)
  refine ⟨{ e with reversalOf := some entry.references.source }, ?_, (buildJournalEntry_ok he).1⟩
  show (buildJournalEntry (reversalInput entry reversalRef actor reason) >>= fun reversed =>
    .ok { reversed with reversalOf := some entry.references.source }) = _
  rw [he]
  rfl

/-- The totals of a reversal are those of its entry, which balances. -/
theorem totals_of_reversal {entry reversed : JournalEntry} {reversalRef actor reason : String}
    (h : reversed.toJournalEntryInput = reversalInput entry reversalRef actor reason) :
    reversed.totalDebit = entry.totalDebit ∧ reversed.totalCredit = entry.totalCredit := by
  have hbalanced := entry.valid.balanced
  have htotals : (reversed.totalDebit, reversed.totalCredit) =
      (entry.totalDebit, entry.totalCredit) := by
    rw [reversed.totals, entry.totals, h]
    unfold JournalEntryInput.totals reversalInput
    simp only [List.map_map, Function.comp_def, Posting.swapped, hbalanced]
  exact Prod.mk.inj htotals

/-- **`reverse` is a total inverse**: it does not throw; entry and reversal cancel on every account
that is recognised; the totals stay; and the reversal of the reversal has the original postings. -/
theorem reverse_inverse (entry : JournalEntry) (reversalRef actor reason : String) :
    ∃ reversed, reverse entry reversalRef actor reason = .ok reversed ∧
      (∀ account, accountPrefix account ∈ accountPrefixes → ∃ effect effect',
        accountEffect entry account = .ok effect ∧ accountEffect reversed account = .ok effect' ∧
          effect.add effect' = .ok (zero entry.currency)) ∧
      reversed.totalDebit = entry.totalDebit ∧ reversed.totalCredit = entry.totalCredit ∧
      ∀ reversalRef' actor' reason', ∃ restored,
        reverse reversed reversalRef' actor' reason' = .ok restored ∧
          restored.postings = entry.postings := by
  obtain ⟨reversed, hreversed, hinput⟩ := exists_reverse entry reversalRef actor reason
  obtain ⟨hdebit, hcredit⟩ := totals_of_reversal hinput
  have hcurrency : reversed.currency = entry.currency := by rw [hinput]; rfl
  have hpostings : reversed.postings = entry.postings.map Posting.swapped := by rw [hinput]; rfl
  refine ⟨reversed, hreversed, fun account haccount => ?_, hdebit, hcredit, ?_⟩
  · obtain ⟨t, ht⟩ := ledgerAccountTypeOf_eq_ok_iff.mpr haccount
    refine ⟨_, _, accountEffect_eq entry ht, accountEffect_eq reversed ht, ?_⟩
    rw [hcurrency, hpostings, netOn_map_swapped, mul_neg]
    have hsame : (⟨t.sign * netOn account entry.postings, entry.currency⟩ : Money).currency =
        (⟨-(t.sign * netOn account entry.postings), entry.currency⟩ : Money).currency := rfl
    rw [Money.add_eq_ok hsame, zero, entry.valid.upper_case, add_neg_cancel]
  · intro reversalRef' actor' reason'
    obtain ⟨restored, hrestored, hinput'⟩ :=
      exists_reverse reversed reversalRef' actor' reason'
    refine ⟨restored, hrestored, ?_⟩
    have hrestoredPostings : restored.postings = reversed.postings.map Posting.swapped := by
      rw [hinput']
      rfl
    rw [hrestoredPostings, hpostings, map_swapped_swapped]

end

end TrusteeBank
