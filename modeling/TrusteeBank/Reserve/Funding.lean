import TrusteeBank.Reserve.Operations

/-!
# Funding

An issued or consumed authorization is backed by deposits of its own: they belong to its program
and currency, they add up to its amount, and no other issued or consumed authorization names them.

The guard looks at the statuses of the named deposits and at how many there are
(`depositsCleared`), and at nothing else. So an approval establishes funding exactly when the
deposits it finds have it already (`FundsOwn`), and the rest of the system preserves it:

* `DepositEffect.fundingOf`: no operation on deposits changes what funds an authorization;
* `MintEffect.committed_origin`: only an approval adds an issued or consumed authorization;
* `funding_run`: funding is conserved in every run whose approvals meet the condition.
-/

set_option autoImplicit false

namespace TrusteeBank

open MintService

section

variable [Runtime]

/-! ## The deposits of an authorization -/

/-- Issued or consumed. -/
def MintAuthorization.Committed (a : MintAuthorization) : Prop :=
  a.status = .issued ∨ a.status = .consumed

instance (a : MintAuthorization) : Decidable a.Committed := inferInstanceAs (Decidable (_ ∨ _))

/-- The deposits some identifiers name. -/
def fundingOf (w : World) (ids : List String) : List Deposit :=
  w.deposits.rows.filter fun d => ids.contains d.id

/-- What funding is about: the identifier, program, currency and amount of a deposit. -/
def Deposit.terms (d : Deposit) : String × String × String × Int :=
  (d.id, d.programId, d.currency, d.amountMinor)

/-- The deposits named by an authorization are of its program and currency, and cover it. -/
structure Funded (w : World) (a : MintAuthorization) : Prop where
  named : ∀ id ∈ a.fundingDepositIds, ∃ d ∈ fundingOf w a.fundingDepositIds, d.id = id
  own : ∀ d ∈ fundingOf w a.fundingDepositIds, d.programId = a.programId ∧ d.currency = a.currency
  covers : a.amountMinor ≤ ((fundingOf w a.fundingDepositIds).map Deposit.amountMinor).sum

/-- Every issued or consumed authorization is funded by deposits no other one names. -/
structure FundingConserved (w : World) : Prop where
  funded : ∀ a ∈ w.mintAuthorizations.rows, a.Committed → Funded w a
  exclusive : ∀ a ∈ w.mintAuthorizations.rows, ∀ b ∈ w.mintAuthorizations.rows, a.Committed →
    b.Committed → a.id ≠ b.id → ∀ id ∈ a.fundingDepositIds, id ∉ b.fundingDepositIds

/-- The deposits an authorization names are of its program and currency, cover it, and are not
used by an issued or consumed authorization. -/
def OwnDeposits (w : World) (auth : MintAuthorization) : Prop :=
  (∀ d ∈ fundingOf w auth.fundingDepositIds,
    d.programId = auth.programId ∧ d.currency = auth.currency) ∧
  auth.amountMinor ≤ ((fundingOf w auth.fundingDepositIds).map Deposit.amountMinor).sum ∧
  ∀ b ∈ w.mintAuthorizations.rows, b.Committed →
    ∀ id ∈ auth.fundingDepositIds, id ∉ b.fundingDepositIds

instance (w : World) (auth : MintAuthorization) : Decidable (OwnDeposits w auth) :=
  inferInstanceAs (Decidable (_ ∧ _ ∧ _))

/-- An authorization that an approval may issue has deposits of its own. -/
def FundsOwn (w : World) : ReserveOp → Prop
  | .mint (.approve clock authId checkerId _) => ∀ auth approval,
      Issuable w (clock 0) authId checkerId auth approval → OwnDeposits w auth
  | _ => True

/-- Funding depends on the terms of the deposits only. -/
theorem Funded.congr {w w₁ : World} {a a₁ : MintAuthorization} (h : Funded w a)
    (hids : a₁.fundingDepositIds = a.fundingDepositIds) (hprogram : a₁.programId = a.programId)
    (hcurrency : a₁.currency = a.currency) (hamount : a₁.amountMinor = a.amountMinor)
    (hterms : (fundingOf w₁ a.fundingDepositIds).map Deposit.terms =
      (fundingOf w a.fundingDepositIds).map Deposit.terms) : Funded w₁ a₁ := by
  -- A deposit of one state has a counterpart with the same terms in the other.
  have hmem (d : Deposit) (hd : d ∈ fundingOf w₁ a.fundingDepositIds) :
      ∃ d' ∈ fundingOf w a.fundingDepositIds, d'.terms = d.terms :=
    List.mem_map.mp (hterms ▸ List.mem_map_of_mem hd)
  have hmem' (d : Deposit) (hd : d ∈ fundingOf w a.fundingDepositIds) :
      ∃ d' ∈ fundingOf w₁ a.fundingDepositIds, d'.terms = d.terms :=
    List.mem_map.mp (hterms ▸ List.mem_map_of_mem hd)
  refine ⟨?_, ?_, ?_⟩
  · intro id hid
    rw [hids] at hid ⊢
    obtain ⟨d, hd, rfl⟩ := h.named id hid
    obtain ⟨d', hd', hsame⟩ := hmem' d hd
    exact ⟨d', hd', congrArg (·.1) hsame⟩
  · intro d hd
    rw [hids] at hd
    obtain ⟨d', hd', hsame⟩ := hmem d hd
    obtain ⟨hp, hc⟩ := h.own d' hd'
    rw [hprogram, hcurrency]
    exact ⟨(congrArg (·.2.1) hsame).symm.trans hp, (congrArg (·.2.2.1) hsame).symm.trans hc⟩
  · have hsum := congrArg (fun ts => (ts.map fun t => t.2.2.2).sum) hterms
    simp only [List.map_map, Function.comp_def, Deposit.terms] at hsum
    rw [hids, hamount]
    exact h.covers.trans_eq hsum.symm

/-! ## Operations on deposits -/

/-- Rewriting a deposit within its terms changes nothing about funding. -/
theorem fundingOf_updateDeposit (w : World) (depositId : String) {f : Deposit → Deposit}
    (hf : ∀ d, (f d).id = d.id) (hterms : ∀ d, (f d).terms = d.terms) (ids : List String) :
    (fundingOf (w.updateDeposit depositId f hf) ids).map Deposit.terms =
      (fundingOf w ids).map Deposit.terms := by
  unfold fundingOf World.updateDeposit Lib.Table.modify
  simp only
  induction w.deposits.rows with
  | nil => rfl
  | cons d rows ih =>
    have hid : (if d.id = depositId then f d else d).id = d.id := by
      split_ifs
      · exact hf d
      · rfl
    have hd : (if d.id = depositId then f d else d).terms = d.terms := by
      split_ifs
      · exact hterms d
      · rfl
    rw [List.map_cons, List.filter_cons, List.filter_cons, hid]
    generalize (if d.id = depositId then f d else d) = d' at hid hd ⊢
    by_cases hmem : ids.contains d.id
    · rw [if_pos hmem, if_pos hmem, List.map_cons, List.map_cons, hd, ih]
    · rw [if_neg hmem, if_neg hmem, ih]

/-- A new deposit funds nothing that named existing ones. -/
theorem fundingOf_insert {w : World} {row : Deposit} {t : Lib.Table Deposit.id}
    (ht : w.deposits.insert? row = some t) {ids : List String}
    (hids : ∀ id ∈ ids, ∃ d ∈ fundingOf w ids, d.id = id) :
    fundingOf { w with deposits := t } ids = fundingOf w ids := by
  obtain ⟨hrows, hfresh⟩ := Lib.Table.insert?_eq_some ht
  have hnot : row.id ∉ ids := by
    intro hmem
    obtain ⟨d, hd, hid⟩ := hids row.id hmem
    exact Lib.Table.find?_eq_none.mp hfresh d (List.mem_filter.mp hd).1 hid
  unfold fundingOf
  rw [hrows, List.filter_append, List.filter_singleton]
  simp [hnot]

/-- **No operation on deposits changes what funds an authorization.** -/
theorem DepositEffect.fundingOf {w w₁ : World} {op : DepositOp} (h : DepositEffect w op w₁)
    {ids : List String} (hids : ∀ id ∈ ids, ∃ d ∈ fundingOf w ids, d.id = id) :
    (fundingOf w₁ ids).map Deposit.terms = (fundingOf w ids).map Deposit.terms := by
  cases h with
  | unchanged => rfl
  | unbooked _ ht => exact congrArg _ (fundingOf_insert ht hids)
  | registered _ ht => exact congrArg _ (fundingOf_insert ht hids)
  | matched => exact fundingOf_updateDeposit w _ (Deposit.asMatched_id _) (fun _ => rfl) ids
  | cleared => exact fundingOf_updateDeposit w _ (Deposit.asCleared_id _) (fun _ => rfl) ids

/-! ## The mint workflow -/

/-- Two rows of one authorization, at different times. -/
structure SameTerms (r a : MintAuthorization) : Prop where
  id : a.id = r.id
  ids : a.fundingDepositIds = r.fundingDepositIds
  programId : a.programId = r.programId
  currency : a.currency = r.currency
  amountMinor : a.amountMinor = r.amountMinor

omit [Runtime] in
theorem SameTerms.refl (r : MintAuthorization) : SameTerms r r := ⟨rfl, rfl, rfl, rfl, rfl⟩

/-- The authorization is being approved, and may be issued. -/
def BeingApproved (w : World) (op : MintOp) (r : MintAuthorization) : Prop :=
  ∃ clock checkerId reason approval, op = .approve clock r.id checkerId reason ∧
    Issuable w (clock 0) r.id checkerId r approval

theorem committed_setAuthStatus {w : World} {authId : String} {auth : MintAuthorization}
    (hauth : w.mintAuthorizations.find? authId = some auth) {status : MintAuthorizationStatus}
    (hissued : status ≠ .issued) (hconsumed : status = .consumed → auth.status = .issued)
    {a : MintAuthorization} (ha : a ∈ (w.setAuthStatus authId status).mintAuthorizations.rows)
    (hcommitted : a.Committed) :
    ∃ r ∈ w.mintAuthorizations.rows, SameTerms r a ∧ r.Committed := by
  rcases World.mem_updateAuth.mp ha with ⟨ha, -⟩ | ⟨r, hr, rfl⟩
  · exact ⟨a, ha, .refl a, hcommitted⟩
  · obtain rfl : r = auth := Option.some.inj (hr.symm.trans hauth)
    refine ⟨r, Lib.Table.mem_of_find? hr, ⟨rfl, rfl, rfl, rfl, rfl⟩, ?_⟩
    rcases hcommitted with h | h
    · exact absurd h hissued
    · exact .inl (hconsumed h)

/-- **Where an issued or consumed authorization comes from**: it was one before, or it is being
approved. -/
theorem MintEffect.committed_origin {w w₁ : World} {op : MintOp} (h : MintEffect w op w₁)
    {a : MintAuthorization} (ha : a ∈ w₁.mintAuthorizations.rows) (hcommitted : a.Committed) :
    ∃ r ∈ w.mintAuthorizations.rows, SameTerms r a ∧ (r.Committed ∨ BeingApproved w op r) := by
  have hset {authId : String} {auth : MintAuthorization} {status : MintAuthorizationStatus}
      (hauth : w.mintAuthorizations.find? authId = some auth) (hissued : status ≠ .issued)
      (hconsumed : status = .consumed → auth.status = .issued)
      (ha : a ∈ (w.setAuthStatus authId status).mintAuthorizations.rows) :
      ∃ r ∈ w.mintAuthorizations.rows, SameTerms r a ∧ (r.Committed ∨ BeingApproved w op r) := by
    obtain ⟨r, hr, hsame, hold⟩ := committed_setAuthStatus hauth hissued hconsumed ha hcommitted
    exact ⟨r, hr, hsame, .inl hold⟩
  have hissue {clock : Clock} {authId checkerId reason : String} {auth : MintAuthorization}
      {approval : Approval} {signature : Signature} {expiresAt : Int}
      (hop : op = .approve clock authId checkerId reason)
      (hissuable : Issuable w (clock 0) authId checkerId auth approval)
      (ha : a ∈ (w.issueAuth authId signature (clock 5) expiresAt).mintAuthorizations.rows) :
      ∃ r ∈ w.mintAuthorizations.rows, SameTerms r a ∧ (r.Committed ∨ BeingApproved w op r) := by
    obtain rfl := Lib.Table.key_of_find? hissuable.found
    rcases World.mem_updateAuth.mp ha with ⟨ha, -⟩ | ⟨r, hr, rfl⟩
    · exact ⟨a, ha, .refl a, .inl hcommitted⟩
    · obtain rfl : r = auth := Option.some.inj (hr.symm.trans hissuable.found)
      exact ⟨r, Lib.Table.mem_of_find? hr, ⟨rfl, rfl, rfl, rfl, rfl⟩,
        .inr ⟨clock, checkerId, reason, approval, hop, hissuable⟩⟩
  cases h with
  | unchanged => exact ⟨a, ha, .refl a, .inl hcommitted⟩
  | unstored => exact ⟨a, ha, .refl a, .inl hcommitted⟩
  | requested _ _ _ ht =>
    rw [(Lib.Table.insert?_eq_some ht).1] at ha
    rcases List.mem_append.mp ha with ha | ha
    · exact ⟨a, ha, .refl a, .inl hcommitted⟩
    · obtain rfl := List.mem_singleton.mp ha
      simp [MintAuthorization.Committed, requestedRow] at hcommitted
  | issuedUndecided hissuable => exact hissue rfl hissuable ha
  | issued hissuable => exact hissue rfl hissuable ha
  | reviewed hauth => exact hset hauth (by simp) (by simp) ha
  | blocked hauth => exact hset hauth (by simp) (by simp) ha
  | rejected hauth => exact hset hauth (by simp) (by simp) ha
  | rejectedUndecided hauth => exact hset hauth (by simp) (by simp) ha
  | revoked hauth => exact hset hauth (by simp) (by simp) ha
  | expired hauth => exact hset hauth (by simp) (by simp) ha
  | expiredAtConfirm hauth => exact hset hauth (by simp) (by simp) ha
  | confirmed hauth hstatus => exact hset hauth (by simp) (fun _ => hstatus) ha

/-- As many deposits as identifiers: every identifier names one. -/
theorem named_of_depositsCleared {w : World} {ids : List String}
    (h : depositsCleared ids (fundingOf w ids) = true) :
    ∀ id ∈ ids, ∃ d ∈ fundingOf w ids, d.id = id := by
  have hlength : (fundingOf w ids).length = ids.length := by
    simp only [depositsCleared, Bool.and_eq_true, decide_eq_true_eq] at h
    exact h.1.2
  have hsub : (fundingOf w ids).map Deposit.id ⊆ ids := by
    intro id hid
    obtain ⟨d, hd, rfl⟩ := List.mem_map.mp hid
    simpa using (List.mem_filter.mp hd).2
  have hnodup : ((fundingOf w ids).map Deposit.id).Nodup :=
    w.deposits.nodup.sublist (List.filter_sublist.map _)
  have hperm : ((fundingOf w ids).map Deposit.id).Perm ids :=
    (List.subperm_of_subset hnodup hsub).perm_of_length_le (by simp [hlength])
  intro id hid
  exact List.mem_map.mp (hperm.mem_iff.mpr hid)

/-- **One operation of the workflow conserves funding.** -/
theorem MintEffect.fundingConserved {w w₁ : World} {op : MintOp} (h : MintEffect w op w₁)
    (hw : FundingConserved w) (hop : FundsOwn w (.mint op)) : FundingConserved w₁ := by
  have hdeposits (ids : List String) : fundingOf w₁ ids = fundingOf w ids := by
    unfold fundingOf
    rw [h.frame.2.1]
  refine ⟨?_, ?_⟩
  · intro a ha hcommitted
    obtain ⟨r, hr, hsame, horigin⟩ := h.committed_origin ha hcommitted
    have hr' : Funded w r := by
      rcases horigin with hold | ⟨clock, checkerId, reason, approval, rfl, hissuable⟩
      · exact hw.funded r hr hold
      · obtain ⟨hown, hcovers, -⟩ : OwnDeposits w r := hop r approval hissuable
        obtain ⟨pos, hguard⟩ := hissuable.guard
        exact ⟨named_of_depositsCleared hguard.deposits, hown, hcovers⟩
    exact hr'.congr hsame.ids hsame.programId hsame.currency hsame.amountMinor
      (by rw [hdeposits])
  · intro a ha b hb hac hbc hne id hida hidb
    obtain ⟨r, hr, hra, horigin⟩ := h.committed_origin ha hac
    obtain ⟨s, hs, hsb, horigin'⟩ := h.committed_origin hb hbc
    rw [hra.ids] at hida
    rw [hsb.ids] at hidb
    have hrs : r.id ≠ s.id := by
      rw [← hra.id, ← hsb.id]
      exact hne
    rcases horigin with hold | ⟨clock, checkerId, reason, approval, rfl, hissuable⟩
    · rcases horigin' with hold' | ⟨clock, checkerId, reason, approval, rfl, hissuable⟩
      · exact hw.exclusive r hr s hs hold hold' hrs id hida hidb
      · exact (hop s approval hissuable).2.2 r hr hold id hidb hida
    · rcases horigin' with hold' | ⟨_, _, _, _, heq, -⟩
      · exact (hop r approval hissuable).2.2 s hs hold' id hida hidb
      · -- Both are being approved by the same call.
        injection heq with _ hid
        exact hrs hid

/-- Funding depends on the authorizations and on the terms of the named deposits. -/
theorem FundingConserved.congr {w w₁ : World} (h : FundingConserved w)
    (hauths : w₁.mintAuthorizations = w.mintAuthorizations)
    (hterms : ∀ ids, (∀ id ∈ ids, ∃ d ∈ fundingOf w ids, d.id = id) →
      (fundingOf w₁ ids).map Deposit.terms = (fundingOf w ids).map Deposit.terms) :
    FundingConserved w₁ := by
  refine ⟨?_, ?_⟩
  · intro a ha hcommitted
    have hfunded := h.funded a (hauths ▸ ha) hcommitted
    exact hfunded.congr rfl rfl rfl rfl (hterms _ hfunded.named)
  · rw [hauths]
    exact h.exclusive

/-! ## Runs -/

theorem FundingConserved.step (w : World) (op : ReserveOp) (h : FundingConserved w)
    (hop : FundsOwn w op) : FundingConserved (op.step w) := by
  cases op with
  | deposit op =>
    obtain ⟨w₁, rows, events, heffect, hw⟩ := op.effect w
    obtain ⟨-, -, -, hauths, -, -⟩ := heffect.frame
    rw [ReserveOp.step, hw]
    exact h.congr hauths fun _ hids => heffect.fundingOf hids
  | ingest op =>
    have heffect := op.effect w
    rw [ReserveOp.step]
    generalize op.step w = w₁ at heffect ⊢
    cases heffect with
    | unchanged => exact h
    | ingested => exact h.congr rfl fun _ _ => rfl
  | mint op =>
    exact after_effect (op.effect w) (fun _ heffect => heffect.fundingConserved h hop)
      fun h _ _ => h.congr rfl fun _ _ => rfl

/-- **Funding is conserved in every run whose approvals find deposits of their own.** -/
theorem funding_run {w : World} {ops : List ReserveOp} (hw : w.mintAuthorizations.rows = [])
    (hops : Lib.Meets ReserveOp.step FundsOwn w ops) :
    FundingConserved (ops.foldl ReserveOp.step w) := by
  refine Lib.inv_run FundingConserved.step ⟨?_, ?_⟩ hops
  · intro a ha
    simp [hw] at ha
  · intro a ha
    simp [hw] at ha

end

/-! ## Two runs -/

attribute [local instance] Runtime.ascii

namespace Sample

/-- Nothing is deposited yet, and the feed reports that nothing circulates. -/
def readyReserve : World := { emptyReserve with liabilitySnapshots := world.liabilitySnapshots }

/-- The deposit of 100 and one mint of 100. -/
def fundedOnce : List ReserveOp := depositOps ++ (mint "M1" "100").map .mint

/-- The deposit of 100 and two mints of 50 that both name it. -/
def fundedTwice : List ReserveOp :=
  depositOps ++ (mint "M1" "50").map .mint ++ (mint "M2" "50").map .mint

end Sample

theorem fundedOnce_ownDeposits :
    ∀ a ∈ ((Sample.fundedOnce.take 5).foldl ReserveOp.step
        Sample.readyReserve).mintAuthorizations.rows,
      OwnDeposits ((Sample.fundedOnce.take 5).foldl ReserveOp.step Sample.readyReserve) a := by
  decide +kernel

/-- One mint, funded by the deposit it names. -/
theorem funding_run_once :
    FundingConserved (Sample.fundedOnce.foldl ReserveOp.step Sample.readyReserve) := by
  refine funding_run rfl ⟨trivial, trivial, trivial, trivial, trivial, ?_, trivial⟩
  intro auth approval hissuable
  exact fundedOnce_ownDeposits auth (Lib.Table.mem_of_find? hissuable.found)

theorem fundedTwice_shared :
    ∃ a ∈ (Sample.fundedTwice.foldl ReserveOp.step Sample.readyReserve).mintAuthorizations.rows,
      ∃ b ∈ (Sample.fundedTwice.foldl ReserveOp.step Sample.readyReserve).mintAuthorizations.rows,
        a.Committed ∧ b.Committed ∧ a.id ≠ b.id ∧
          ∃ id ∈ a.fundingDepositIds, id ∈ b.fundingDepositIds := by
  decide +kernel

/-- The guard lets one deposit fund two authorizations. -/
theorem funding_not_conserved : ¬∀ [Runtime] (w : World) (ops : List ReserveOp),
    w.mintAuthorizations.rows = [] → FundingConserved (ops.foldl ReserveOp.step w) := by
  intro h
  obtain ⟨a, ha, b, hb, hac, hbc, hne, id, hida, hidb⟩ := fundedTwice_shared
  exact (h Sample.readyReserve Sample.fundedTwice rfl).exclusive a ha b hb hac hbc hne id hida hidb

end TrusteeBank
