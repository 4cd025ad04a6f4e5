import TrusteeBank.Services.Mint

/-!
# What a mint operation does

One operation of `MintService`, run alone, does nothing or one of a few things to the tables of
the workflow and to the ledger, whatever its arguments are; besides that it only appends audit
rows and events. `MintEffect` lists these effects with everything that was checked on the way, and
every invariant of the workflow is a case analysis over it.

**Theorem (`MintOp.effect`).** Every operation has an effect in the list.
-/

set_option autoImplicit false

namespace TrusteeBank

open Lib (Call)
open LedgerAccountCode MintService

variable [Runtime]

/-! ## Effects -/

/-- An entry of the workflow: the amount of an authorization moves between two accounts. -/
structure IsMintEntry (auth : MintAuthorization) (sourcePrefix debit credit : String)
    (e : JournalEntry) : Prop where
  move : IsMove (Runtime.toUpperCase auth.currency) debit credit auth.amountMinor e.references e
  source : e.references.source = sourcePrefix ++ auth.id
  programId : e.references.programId = auth.programId

/-- The entry that earmarks reserve for an authorization. -/
abbrev IsReservation (auth : MintAuthorization) : JournalEntry → Prop :=
  IsMintEntry auth "mint-auth:" liabilityPaychainReserveObligation liabilityPendingMint

/-- An entry that releases the earmark of an authorization. -/
abbrev IsRelease (auth : MintAuthorization) (sourcePrefix : String) : JournalEntry → Prop :=
  IsMintEntry auth sourcePrefix liabilityPendingMint liabilityPaychainReserveObligation

/-- What the guard has established of a state when it allows an authorization. -/
structure GuardPassed (w : World) (now : Int) (auth : MintAuthorization) (pos : ReservePosition) :
    Prop where
  position : positionAt w now auth.programId = .ok pos
  positive : 0 < auth.amountMinor
  currency : Runtime.toUpperCase auth.currency = Runtime.toUpperCase pos.currency
  covered : auth.amountMinor ≤ pos.mintCapacity.minor
  deposits : depositsCleared auth.fundingDepositIds
    (w.deposits.rows.filter fun d => auth.fundingDepositIds.contains d.id) = true

instance GuardPassed.decidableExists (w : World) (now : Int) (auth : MintAuthorization) :
    Decidable (∃ pos, GuardPassed w now auth pos) :=
  match h : positionAt w now auth.programId with
  | .error _ => isFalse fun ⟨_, hpassed⟩ => error_ne_ok (h.symm.trans hpassed.position)
  | .ok pos => decidable_of_iff (0 < auth.amountMinor ∧
      Runtime.toUpperCase auth.currency = Runtime.toUpperCase pos.currency ∧
      auth.amountMinor ≤ pos.mintCapacity.minor ∧ depositsCleared auth.fundingDepositIds
        (w.deposits.rows.filter fun d => auth.fundingDepositIds.contains d.id) = true)
      ⟨fun ⟨hpositive, hcurrency, hcovered, hdeposits⟩ =>
        ⟨pos, h, hpositive, hcurrency, hcovered, hdeposits⟩,
      fun ⟨_, hpassed⟩ => by
        obtain rfl := Except.ok.inj (h.symm.trans hpassed.position)
        exact ⟨hpassed.positive, hpassed.currency, hpassed.covered, hpassed.deposits⟩⟩

/-- The latest reconciliation run of a program left exceptions. -/
def unresolvedReconciliation (w : World) (programId : String) : Bool :=
  (latestBy ReconciliationRun.createdAt
    (w.reconciliationRuns.rows.filter fun r => r.programId = some programId)).any
      fun r => r.status = "EXCEPTIONS"

/-- A control suspends the minting of an asset. -/
def mintingSuspended (w : World) (assetId : String) : Bool :=
  (w.platformControls.rows.find? fun c => c.value &&
    ["asset.suspend." ++ assetId, "mint.global-suspend"].contains c.key).isSome

/-- What an approval has established of a state when it issues an authorization. -/
structure Issuable (w : World) (now : Int) (authId checkerId : String) (auth : MintAuthorization)
    (approval : Approval) : Prop where
  found : w.mintAuthorizations.find? authId = some auth
  status : auth.status = .pendingChecker
  reviewed : approvalOf w authId = some approval
  maker : approval.makerId ≠ checkerId
  guard : ∃ pos, GuardPassed w now auth pos
  reconciled : unresolvedReconciliation w auth.programId = false
  unsuspended : mintingSuspended w auth.assetId = false

instance Issuable.decidable (w : World) (now : Int) (authId checkerId : String)
    (auth : MintAuthorization) (approval : Approval) :
    Decidable (Issuable w now authId checkerId auth approval) :=
  decidable_of_iff (w.mintAuthorizations.find? authId = some auth ∧
      auth.status = .pendingChecker ∧ approvalOf w authId = some approval ∧
      approval.makerId ≠ checkerId ∧ (∃ pos, GuardPassed w now auth pos) ∧
      unresolvedReconciliation w auth.programId = false ∧
      mintingSuspended w auth.assetId = false)
    ⟨fun ⟨hfound, hstatus, hreviewed, hmaker, hguard, hreconciled, hunsuspended⟩ =>
      ⟨hfound, hstatus, hreviewed, hmaker, hguard, hreconciled, hunsuspended⟩,
    fun h => ⟨h.found, h.status, h.reviewed, h.maker, h.guard, h.reconciled, h.unsuspended⟩⟩

/-- The state with one authorization rewritten. -/
def World.updateAuth (w : World) (authId : String) (f : MintAuthorization → MintAuthorization)
    (hf : ∀ a, (f a).id = a.id) : World :=
  { w with mintAuthorizations := w.mintAuthorizations.modify authId f hf }

/-- The state with one approval rewritten. -/
def World.updateApproval (w : World) (approvalId : String) (f : Approval → Approval)
    (hf : ∀ a, (f a).id = a.id) : World :=
  { w with approvals := w.approvals.modify approvalId f hf }

def World.setAuthStatus (w : World) (authId : String) (status : MintAuthorizationStatus) : World :=
  w.updateAuth authId (MintAuthorization.withStatus status)
    (MintAuthorization.withStatus_id status)

def World.issueAuth (w : World) (authId : String) (signature : Signature)
    (issuedAt expiresAt : Int) : World :=
  w.updateAuth authId (MintAuthorization.asIssued signature issuedAt expiresAt)
    (MintAuthorization.asIssued_id signature issuedAt expiresAt)

def World.decideApproval (w : World) (approvalId checkerId : String) (actedAt : Int)
    (decision : ApprovalDecision) (reason : String) : World :=
  w.updateApproval approvalId (Approval.decided checkerId actedAt decision reason)
    (Approval.decided_id checkerId actedAt decision reason)

theorem World.mem_updateAuth {w : World} {authId : String}
    {f : MintAuthorization → MintAuthorization} {hf : ∀ a, (f a).id = a.id}
    {a : MintAuthorization} : a ∈ (w.updateAuth authId f hf).mintAuthorizations.rows ↔
      (a ∈ w.mintAuthorizations.rows ∧ a.id ≠ authId) ∨
        ∃ r, w.mintAuthorizations.find? authId = some r ∧ a = f r :=
  @Lib.Table.mem_modify _ _ _ _ w.mintAuthorizations authId f hf a

theorem find?_updateAuth {w : World} {authId : String} {auth : MintAuthorization}
    (hauth : w.mintAuthorizations.find? authId = some auth)
    (f : MintAuthorization → MintAuthorization) (hf : ∀ a, (f a).id = a.id) :
    (w.updateAuth authId f hf).mintAuthorizations.find? authId = some (f auth) := by
  show (w.mintAuthorizations.modify authId f hf).find? authId = some (f auth)
  rw [Lib.Table.find?_modify, if_pos rfl, hauth, Option.map_some]

/-- What an operation did to the tables of the workflow and to the ledger. -/
inductive MintEffect (w : World) : MintOp → World → Prop
  | unchanged {op : MintOp} : MintEffect w op w
  | requested {input : RequestMintAuthorization} {id nonce : String} {program : Program}
      {minor : Int} {t : Lib.Table MintAuthorization.id}
      (hprogram : w.programs.find? input.programId = some program) (hpos : 0 < minor)
      (hfits : FitsInt8 minor)
      (ht : w.mintAuthorizations.insert?
        (requestedRow input program (money minor program.referenceCurrency) id nonce) = some t) :
      MintEffect w (.request input id nonce) { w with mintAuthorizations := t }
  | reviewed {authId makerId approvalId : String} {auth : MintAuthorization}
      {t : Lib.Table Approval.id} (hauth : w.mintAuthorizations.find? authId = some auth)
      (hstatus : auth.status = .pendingMaker)
      (ht : (disconnected (w.setAuthStatus authId .pendingChecker) authId).insert?
        (pendingApproval authId makerId approvalId) = some t) :
      MintEffect w (.review authId makerId approvalId)
        { w.setAuthStatus authId .pendingChecker with approvals := t }
  | blocked {clock : Clock} {authId checkerId reason blockReason : String}
      {auth : MintAuthorization} {approval : Approval}
      (hauth : w.mintAuthorizations.find? authId = some auth)
      (hstatus : auth.status = .pendingChecker) (happroval : approvalOf w authId = some approval)
      (hmaker : approval.makerId ≠ checkerId) :
      MintEffect w (.approve clock authId checkerId reason)
        ((w.setAuthStatus authId .rejected).decideApproval approval.id checkerId (clock 4) .rejected
          blockReason)
  | issuedUndecided {clock : Clock} {authId checkerId reason : String} {auth : MintAuthorization}
      {approval : Approval} {e : JournalEntry} {signature : Signature} {expiresAt : Int}
      (hissuable : Issuable w (clock 0) authId checkerId auth approval) (he : IsReservation auth e)
      (hreason : ¬FitsText reason) :
      MintEffect w (.approve clock authId checkerId reason)
        ((w.posted e).issueAuth authId signature (clock 5) expiresAt)
  | issued {clock : Clock} {authId checkerId reason : String} {auth : MintAuthorization}
      {approval : Approval} {e : JournalEntry} {signature : Signature} {expiresAt : Int}
      (hissuable : Issuable w (clock 0) authId checkerId auth approval) (he : IsReservation auth e) :
      MintEffect w (.approve clock authId checkerId reason)
        (((w.posted e).issueAuth authId signature (clock 5) expiresAt).decideApproval approval.id
          checkerId (clock 5) .approved reason)
  | rejected {clock : Clock} {authId checkerId reason : String} {auth : MintAuthorization}
      {approval : Approval} (hauth : w.mintAuthorizations.find? authId = some auth)
      (happroval : approvalOf w authId = some approval) (hmaker : approval.makerId ≠ checkerId) :
      MintEffect w (.reject clock authId checkerId reason)
        ((w.setAuthStatus authId .rejected).decideApproval approval.id checkerId (clock 0) .rejected
          reason)
  | rejectedUndecided {clock : Clock} {authId checkerId reason : String} {auth : MintAuthorization}
      {approval : Approval} (hauth : w.mintAuthorizations.find? authId = some auth)
      (happroval : approvalOf w authId = some approval) (hmaker : approval.makerId ≠ checkerId) :
      MintEffect w (.reject clock authId checkerId reason) (w.setAuthStatus authId .rejected)
  | revoked {authId actor reason : String} {auth : MintAuthorization} {e : JournalEntry}
      (hauth : w.mintAuthorizations.find? authId = some auth) (hstatus : auth.status = .issued)
      (he : IsRelease auth "mint-revoke:" e) :
      MintEffect w (.revoke authId actor reason) ((w.posted e).setAuthStatus authId .revoked)
  | expired {authId actor : String} {auth : MintAuthorization} {e : JournalEntry}
      (hauth : w.mintAuthorizations.find? authId = some auth) (hstatus : auth.status = .issued)
      (he : IsRelease auth "mint-expire:" e) :
      MintEffect w (.expire authId actor) ((w.posted e).setAuthStatus authId .expired)
  | expiredAtConfirm {clock : Clock} {authId : String} {input : ConfirmMint}
      {auth : MintAuthorization} {e : JournalEntry}
      (hauth : w.mintAuthorizations.find? authId = some auth) (hstatus : auth.status = .issued)
      (hexpired : hasExpired auth (clock 0) = true) (he : IsRelease auth "mint-expire:" e) :
      MintEffect w (.confirm clock authId input) ((w.posted e).setAuthStatus authId .expired)
  | confirmed {clock : Clock} {authId : String} {input : ConfirmMint} {auth : MintAuthorization}
      {e : JournalEntry} {ledgerHeight : Option Int} {confirmedAt : Int}
      {t : Lib.Table MintConfirmation.mintAuthorizationId}
      (hauth : w.mintAuthorizations.find? authId = some auth) (hstatus : auth.status = .issued)
      (hexpired : hasExpired auth (clock 0) = false)
      (hamount : bigInt input.amountMinor = .ok auth.amountMinor)
      (he : IsRelease auth "mint-confirm:" e)
      (ht : w.mintConfirmations.insert?
        (confirmationRow auth input auth.amountMinor ledgerHeight confirmedAt) = some t) :
      MintEffect w (.confirm clock authId input)
        ({ w.posted e with mintConfirmations := t }.setAuthStatus authId .consumed)
  | unstored {clock : Clock} {authId : String} {input : ConfirmMint} {auth : MintAuthorization}
      {e : JournalEntry} (hauth : w.mintAuthorizations.find? authId = some auth)
      (hstatus : auth.status = .issued) (hexpired : hasExpired auth (clock 0) = false)
      (hamount : bigInt input.amountMinor = .ok auth.amountMinor)
      (he : IsRelease auth "mint-confirm:" e)
      (herror : ∃ err,
        (createConfirmation auth input auth.amountMinor).run (w.posted e) =
          (.error err, w.posted e)) :
      MintEffect w (.confirm clock authId input) (w.posted e)

/-- **What holds of every authorization**: a property of requested rows that writing a status and
issuing keep. -/
theorem MintEffect.forall_auth {w w₁ : World} {op : MintOp} (h : MintEffect w op w₁)
    {P : MintAuthorization → Prop} (hstatus : ∀ a status, P a → P (a.withStatus status))
    (hissue : ∀ a signature issuedAt expiresAt, P a → P (a.asIssued signature issuedAt expiresAt))
    (hrequest : ∀ input id nonce program minor, w.programs.find? input.programId = some program →
      0 < minor → P (requestedRow input program (money minor program.referenceCurrency) id nonce))
    (hw : ∀ a ∈ w.mintAuthorizations.rows, P a) : ∀ a ∈ w₁.mintAuthorizations.rows, P a := by
  have hupdate (authId : String) (f : MintAuthorization → MintAuthorization)
      (hf : ∀ a, (f a).id = a.id) (hP : ∀ a, P a → P (f a)) :
      ∀ a ∈ (w.updateAuth authId f hf).mintAuthorizations.rows, P a := by
    intro a ha
    rcases World.mem_updateAuth.mp ha with ⟨ha, -⟩ | ⟨r, hr, rfl⟩
    · exact hw a ha
    · exact hP r (hw r (Lib.Table.mem_of_find? hr))
  have hset (authId : String) (status : MintAuthorizationStatus) :
      ∀ a ∈ (w.setAuthStatus authId status).mintAuthorizations.rows, P a :=
    hupdate authId _ _ fun a => hstatus a status
  cases h with
  | unchanged => exact hw
  | requested hprogram hpos _ ht =>
    intro a ha
    rw [(Lib.Table.insert?_eq_some ht).1] at ha
    rcases List.mem_append.mp ha with ha | ha
    · exact hw a ha
    · obtain rfl := List.mem_singleton.mp ha
      exact hrequest _ _ _ _ _ hprogram hpos
  | issued =>
    exact hupdate _ _ (MintAuthorization.asIssued_id _ _ _) fun a => hissue a _ _ _
  | issuedUndecided =>
    exact hupdate _ _ (MintAuthorization.asIssued_id _ _ _) fun a => hissue a _ _ _
  | unstored => exact hw
  | reviewed => exact hset _ _
  | blocked => exact hset _ _
  | rejected => exact hset _ _
  | rejectedUndecided => exact hset _ _
  | revoked => exact hset _ _
  | expired => exact hset _ _
  | expiredAtConfirm => exact hset _ _
  | confirmed => exact hset _ _

/-- The tables no operation of the workflow writes to. -/
theorem MintEffect.frame {w w₁ : World} {op : MintOp} (h : MintEffect w op w₁) :
    w₁.programs = w.programs ∧ w₁.deposits = w.deposits ∧
      w₁.reserveAdjustments = w.reserveAdjustments ∧
      w₁.liabilitySnapshots = w.liabilitySnapshots := by
  cases h <;> exact ⟨rfl, rfl, rfl, rfl⟩

/-- What an entry of the workflow adds to the net of an account. -/
theorem ledgerNet_posted (w : World) {a : MintAuthorization} {p debit credit : String}
    {e : JournalEntry} (he : IsMintEntry a p debit credit e) (programId c account : String) :
    ledgerNet (w.posted e).ledger programId c account = ledgerNet w.ledger programId c account +
      if a.programId = programId ∧ Runtime.toUpperCase a.currency = c then
        (if debit = account then a.amountMinor else 0) -
          (if credit = account then a.amountMinor else 0)
      else 0 := by
  rw [World.posted, ledgerNet_append, he.move.net, he.programId]

/-- The workflow only moves between two accounts. -/
theorem MintEffect.ledgerNet_eq {w w₁ : World} {op : MintOp} (h : MintEffect w op w₁)
    {account : String} (hobligation : liabilityPaychainReserveObligation ≠ account)
    (hpending : liabilityPendingMint ≠ account) (programId c : String) :
    ledgerNet w₁.ledger programId c account = ledgerNet w.ledger programId c account := by
  have hreserve {a : MintAuthorization} {e : JournalEntry} (he : IsReservation a e) :
      ledgerNet (w.posted e).ledger programId c account =
        ledgerNet w.ledger programId c account := by
    rw [ledgerNet_posted w he, if_neg hobligation, if_neg hpending]
    simp
  have hrelease {a : MintAuthorization} {p : String} {e : JournalEntry} (he : IsRelease a p e) :
      ledgerNet (w.posted e).ledger programId c account =
        ledgerNet w.ledger programId c account := by
    rw [ledgerNet_posted w he, if_neg hpending, if_neg hobligation]
    simp
  cases h with
  | unchanged => rfl
  | requested => rfl
  | reviewed => rfl
  | blocked => rfl
  | rejected => rfl
  | rejectedUndecided => rfl
  | issued _ he => exact hreserve he
  | issuedUndecided _ he => exact hreserve he
  | revoked _ _ he => exact hrelease he
  | expired _ _ he => exact hrelease he
  | expiredAtConfirm _ _ _ he => exact hrelease he
  | confirmed _ _ _ _ he => exact hrelease he
  | unstored _ _ _ _ he => exact hrelease he

/-- The operation had an effect of the list, and appended audit rows and events. -/
def HasEffect (w : World) (op : MintOp) (w' : World) : Prop :=
  ∃ w₁ rows events, MintEffect w op w₁ ∧ w' = w₁.logged rows events

theorem HasEffect.unchanged {w : World} {op : MintOp} : HasEffect w op w :=
  ⟨w, [], [], .unchanged, by simp⟩

/-- The operation had an effect of the list, appended audit rows and published these events. -/
def Published (w : World) (op : MintOp) (events : List OutboxEvent) (w' : World) : Prop :=
  ∃ w₁ rows, MintEffect w op w₁ ∧ w' = w₁.logged rows events

theorem Published.unchanged {w : World} {op : MintOp} : Published w op [] w :=
  ⟨w, [], .unchanged, by simp⟩

theorem Published.hasEffect {w w' : World} {op : MintOp} {events : List OutboxEvent}
    (h : Published w op events w') : HasEffect w op w' := by
  obtain ⟨w₁, rows, heffect, hw⟩ := h
  exact ⟨w₁, rows, events, heffect, hw⟩

/-! ## The parts of an operation -/

theorem run_requireAuth (authId : String) (w : World) :
    (requireAuth authId).run w =
      (orThrow (w.mintAuthorizations.find? authId) (authNotFound authId), w) := rfl

theorem run_requireAuthWithApproval (authId : String) (w : World) :
    (requireAuthWithApproval authId).run w =
      (orThrow ((w.mintAuthorizations.find? authId).map fun auth => (auth, approvalOf w authId))
        (authNotFound authId), w) := rfl

omit [Runtime] in
theorem makerDiffers_ok {approval : Option Approval} {checkerId message : String} {a : Approval}
    (h : makerDiffers approval checkerId message = .ok a) :
    approval = some a ∧ a.makerId ≠ checkerId := by
  unfold makerDiffers at h
  cases approval with
  | none => simp [orThrow, bind, Except.bind] at h
  | some b =>
    simp only [orThrow, bind, Except.bind] at h
    split_ifs at h with hmaker
    cases h
    exact ⟨rfl, hmaker⟩

theorem run_setStatus {authId : String} {w : World} {auth : MintAuthorization}
    (hauth : w.mintAuthorizations.find? authId = some auth) (status : MintAuthorizationStatus) :
    (setStatus authId status).run w =
      (.ok (auth.withStatus status), w.setAuthStatus authId status) :=
  Entity.run_update_of Prisma.mintAuthorization hauth rfl

theorem run_setIssued {authId : String} {w : World} {auth : MintAuthorization}
    (hauth : w.mintAuthorizations.find? authId = some auth) (signature : Signature)
    (issuedAt expiresAt : Int) :
    (setIssued authId signature issuedAt expiresAt).run w =
      (.ok (auth.asIssued signature issuedAt expiresAt),
        w.issueAuth authId signature issuedAt expiresAt) :=
  Entity.run_update_of Prisma.mintAuthorization hauth rfl

theorem run_recordDecision_cases (approvalId checkerId : String) (actedAt : Int)
    (decision : ApprovalDecision) (reason : String) (w : World) :
    (∃ e, (recordDecision approvalId checkerId actedAt decision reason).run w = (.error e, w)) ∨
      ∃ a, (recordDecision approvalId checkerId actedAt decision reason).run w =
        (.ok a, w.decideApproval approvalId checkerId actedAt decision reason) := by
  rcases Entity.run_update_cases Prisma.approval (decisionConstraints checkerId reason) approvalId
    (·.decided checkerId actedAt decision reason) (fun _ => rfl) w with ⟨e, h⟩ | ⟨a, -, -, h⟩
  · exact .inl ⟨e, h⟩
  · exact .inr ⟨_, h⟩

theorem run_recordDecision {approvalId checkerId reason : String} {w : World} {a : Approval}
    {u : User} (ha : w.approvals.find? approvalId = some a)
    (hu : w.users.find? checkerId = some u) (hreason : FitsText reason) (actedAt : Int)
    (decision : ApprovalDecision) :
    (recordDecision approvalId checkerId actedAt decision reason).run w =
      (.ok (a.decided checkerId actedAt decision reason),
        w.decideApproval approvalId checkerId actedAt decision reason) := by
  refine Entity.run_update_of Prisma.approval ha ?_
  have htexts : checkTexts [reason] = .ok () :=
    checkTexts_eq_ok.mpr (List.forall_mem_singleton.mpr hreason)
  unfold decisionConstraints
  rw [htexts, hu]
  rfl

/-- A decision whose reason cannot be stored is not recorded. -/
theorem run_recordDecision_unfit {reason : String} (hreason : ¬FitsText reason)
    (approvalId checkerId : String) (actedAt : Int) (decision : ApprovalDecision) (w : World) :
    ∃ e, (recordDecision approvalId checkerId actedAt decision reason).run w = (.error e, w) := by
  rcases Entity.run_update_cases Prisma.approval (decisionConstraints checkerId reason) approvalId
    (Approval.decided checkerId actedAt decision reason)
    (Approval.decided_id checkerId actedAt decision reason) w with hfail | ⟨a, -, hcheck, -⟩
  · exact hfail
  · unfold decisionConstraints at hcheck
    cases htexts : checkTexts [reason] with
    | ok u => exact absurd (checkTexts_eq_ok.mp htexts reason List.mem_cons_self) hreason
    | error e =>
      rw [htexts] at hcheck
      cases hcheck

omit [Runtime] in
/-- The reasons of the guard can be stored. -/
theorem fitsText_guardBlocked (reasons : List MintBlockReason) :
    FitsText (guardBlocked (reasons.map EnumName.name)) := by
  have hprefix : FitsText "Guard blocked: " := by decide
  have hseparator : FitsText ", " := by decide
  refine hprefix.append (hseparator.intercalate fun t ht => ?_)
  obtain ⟨r, -, rfl⟩ := List.mem_map.mp ht
  cases r <;> decide

/-- The entry of a workflow step, when it can be built. -/
theorem isMintEntry_of_build {auth : MintAuthorization} {description sourcePrefix debit credit
    actor : String} {approvalRef : Option String} {e : JournalEntry}
    (h : transferEntry description debit credit (money auth.amountMinor auth.currency)
      (mintReferences auth sourcePrefix actor approvalRef) = .ok e) :
    IsMintEntry auth sourcePrefix debit credit e := by
  obtain ⟨-, hmove⟩ := buildJournalEntry_move h
  have hrefs := hmove.entry_references
  exact ⟨hrefs ▸ hmove, by rw [hrefs]; rfl, by rw [hrefs]; rfl⟩

/-- A release alone: it posts one entry, or throws and changes nothing. -/
theorem run_release_cases (auth : MintAuthorization) (sourcePrefix actor : String) (w : World) :
    (∃ err, (release auth sourcePrefix actor).run w = (.error err, w)) ∨
      ∃ e, IsRelease auth sourcePrefix e ∧ FitsText actor ∧
        (release auth sourcePrefix actor).run w = (.ok (), w.posted e) := by
  unfold release
  rw [Call.run_lift_bind]
  cases he : mintReleaseEntry (money auth.amountMinor auth.currency)
      (mintReferences auth sourcePrefix actor none) with
  | error err => exact .inl ⟨err, rfl⟩
  | ok e =>
    simp only
    rcases run_post_cases e w with ⟨-, err, hrun⟩ | ⟨hfits, hrun⟩
    · exact .inl ⟨err, hrun⟩
    · have hactor : FitsText actor := by
        have hrefs := (buildJournalEntry_move he).2.entry_references
        simpa only [hrefs, mintReferences] using hfits.actor
      exact .inr ⟨e, isMintEntry_of_build he, hactor, hrun⟩

/-! ## The guard facts -/

/-- The facts of a state about an authorization. -/
def factsAt (w : World) (clock : Clock) (auth : MintAuthorization) (program : Program)
    (pos : ReservePosition) (complete : Bool) : MintGuardFacts :=
  guardFacts clock auth program pos
    (if auth.fundingDepositIds.length > 0 then
      w.deposits.rows.filter fun d => auth.fundingDepositIds.contains d.id else [])
    (latestVerified w auth.programId) (w.enabled "mint.authorization.enabled")
    (w.platformControls.rows.filter fun c => c.value &&
      ["compliance.hold.program." ++ auth.programId, "compliance.hold.global"].contains c.key)
    (latestBy ReserveSnapshot.createdAt
      (w.reserveSnapshots.rows.filter fun s => s.programId = auth.programId))
    (latestBy ReconciliationRun.createdAt
      (w.reconciliationRuns.rows.filter fun r => r.programId = some auth.programId))
    (w.trusteeAccounts.rows.find? fun a => a.programId = auth.programId &&
      [AccountStatus.restricted, .onHold].contains a.status)
    (w.platformControls.rows.find? fun c => c.value &&
      ["asset.suspend." ++ auth.assetId, "mint.global-suspend"].contains c.key)
    (w.lastSuccessfulCheck.map (ageSeconds (clock 2))) complete

/-- Gathering the facts, alone: it throws, or the facts are those of the state. -/
theorem run_gatherGuardFacts_cases (clock : Clock) (authId : String) (complete : Bool)
    (w : World) :
    (∃ e, (gatherGuardFacts clock authId complete).run w = (.error e, w)) ∨
    ∃ auth program pos, w.mintAuthorizations.find? authId = some auth ∧
      w.programs.find? auth.programId = some program ∧
      positionAt w (clock 0) auth.programId = .ok pos ∧
      (gatherGuardFacts clock authId complete).run w =
        (.ok (factsAt w clock auth program pos complete), w) := by
  unfold gatherGuardFacts
  rw [Call.run_bind, run_requireAuth]
  cases hauth : w.mintAuthorizations.find? authId with
  | none => exact .inl ⟨_, rfl⟩
  | some auth =>
    simp only [orThrow]
    rw [Call.run_bind, Entity.run_findUnique]
    simp only [Prisma.program_get]
    cases hprogram : w.programs.find? auth.programId with
    | none => exact .inl ⟨_, rfl⟩
    | some program =>
      simp only [Call.run_lift_bind]
      rw [Call.run_bind, run_position]
      cases hpos : positionAt w (clock 0) auth.programId with
      | error e => exact .inl ⟨_, rfl⟩
      | ok pos =>
        refine .inr ⟨auth, program, pos, rfl, hprogram, hpos, ?_⟩
        simp only [factsAt]
        split_ifs with hids
        · simp only [Call.run_bind, Entity.run_findMany, run_latestLiability, run_isEnabled,
            Entity.run_findLatest, Entity.run_findFirst, run_lastCheckAgeSeconds, Call.run_pure]
          rfl
        · simp only [Call.run_bind, Entity.run_findMany, run_latestLiability, run_isEnabled,
            Entity.run_findLatest, Entity.run_findFirst, run_lastCheckAgeSeconds, Call.run_pure]
          rfl

/-- **Gathering the facts only reads**, and the facts are those of the state. -/
theorem run_gatherGuardFacts {clock : Clock} {authId : String} {complete : Bool} {w w' : World}
    {r : Except ApiError MintGuardFacts}
    (h : (gatherGuardFacts clock authId complete).run w = (r, w')) :
    w' = w ∧ ∀ facts, r = .ok facts → ∃ auth pos,
      w.mintAuthorizations.find? authId = some auth ∧
      positionAt w (clock 0) auth.programId = .ok pos ∧
      facts.requested = money auth.amountMinor auth.currency ∧
      facts.capacityInput = ⟨pos.currency, pos.mintCapacity, money 0 pos.currency,
        money 0 pos.currency, money 0 pos.currency⟩ ∧
      (facts.fundingDepositsCleared = true → depositsCleared auth.fundingDepositIds
        (w.deposits.rows.filter fun d => auth.fundingDepositIds.contains d.id) = true) ∧
      facts.hasUnresolvedReconciliation = unresolvedReconciliation w auth.programId ∧
      facts.assetMintingSuspended = mintingSuspended w auth.assetId := by
  rcases run_gatherGuardFacts_cases clock authId complete w with ⟨e, he⟩ |
    ⟨auth, program, pos, hauth, -, hpos, hfacts⟩
  · rw [he] at h
    cases h
    exact ⟨rfl, by simp⟩
  · rw [hfacts] at h
    cases h
    refine ⟨rfl, fun facts hok => ?_⟩
    cases hok
    refine ⟨auth, pos, hauth, hpos, rfl, rfl, fun hcleared => ?_, rfl, rfl⟩
    by_cases hids : auth.fundingDepositIds.length > 0
    · simpa only [factsAt, guardFacts, if_pos hids] using hcleared
    · simp [factsAt, guardFacts, depositsCleared, hids] at hcleared

/-- Gathering the facts changes nothing. -/
theorem gatherGuardFacts_keeps {τ : Type} (g : World → τ) (clock : Clock) (authId : String)
    (complete : Bool) : (gatherGuardFacts clock authId complete).Keeps g := by
  unfold gatherGuardFacts requireAuth
  rw [bind_assoc]
  refine (Call.keeps_read _ _ _).bind fun found => ?_
  refine (Call.keeps_lift _ _).bind fun auth => ?_
  refine (Call.keeps_read _ _ _).bind fun found => ?_
  refine (Call.keeps_lift _ _).bind fun program => ?_
  refine (position_keeps g _ _).bind fun pos => ?_
  have hdeposits (f : List Deposit → Service MintGuardFacts) (hf : ∀ l, (f l).Keeps g) :
      (if auth.fundingDepositIds.length > 0 then
        (Prisma.deposit.findMany authId fun d => auth.fundingDepositIds.contains d.id) >>= f
        else pure [] >>= f).Keeps g := by
    split_ifs
    · exact (Call.keeps_read _ _ _).bind hf
    · exact hf []
  refine hdeposits _ fun deposits => ?_
  refine (Call.keeps_read _ _ _).bind fun liability => ?_
  refine (Call.keeps_read _ _ _).bind fun flag => ?_
  refine (Call.keeps_read _ _ _).bind fun holds => ?_
  refine (Call.keeps_read _ _ _).bind fun snapshot => ?_
  refine (Call.keeps_read _ _ _).bind fun run => ?_
  refine (Call.keeps_read _ _ _).bind fun account => ?_
  refine (Call.keeps_read _ _ _).bind fun suspend => ?_
  exact (Call.keeps_read _ _ _).bind fun age => Call.keeps_pure _ _

section

variable {τ : Type} {g : World → τ}

theorem requireAuth_keeps (authId : String) : (requireAuth authId).Keeps g :=
  (Call.keeps_read _ _ _).bind fun _ => Call.keeps_lift _ _

theorem requireAuthWithApproval_keeps (authId : String) :
    (requireAuthWithApproval authId).Keeps g :=
  (Call.keeps_read _ _ _).bind fun _ => Call.keeps_lift _ _

theorem setStatus_keeps (hset : ∀ t (w : World), g { w with mintAuthorizations := t } = g w)
    (authId : String) (status : MintAuthorizationStatus) : (setStatus authId status).Keeps g :=
  Prisma.mintAuthorization.keeps_update hset _ _ _ _

theorem recordDecision_keeps (hset : ∀ t (w : World), g { w with approvals := t } = g w)
    (approvalId checkerId : String) (actedAt : Int) (decision : ApprovalDecision)
    (reason : String) : (recordDecision approvalId checkerId actedAt decision reason).Keeps g :=
  Prisma.approval.keeps_update hset _ _ _ _

theorem release_keeps (hpost : ∀ entry, (ReserveLedgerService.post entry).Keeps g)
    (auth : MintAuthorization) (sourcePrefix actor : String) :
    (release auth sourcePrefix actor).Keeps g :=
  (Call.keeps_lift _ _).bind fun entry => hpost entry

theorem createConfirmation_keeps
    (hset : ∀ t (w : World), g { w with mintConfirmations := t } = g w) (auth : MintAuthorization)
    (input : ConfirmMint) (amountMinor : Int) :
    (createConfirmation auth input amountMinor).Keeps g := by
  unfold createConfirmation
  refine (Call.keeps_lift _ _).bind fun ledgerHeight => ?_
  refine (Call.keeps_lift _ _).bind fun confirmedAt => ?_
  exact Prisma.mintConfirmation.keeps_create hset _ _

theorem expire_keeps (hset : ∀ t (w : World), g { w with mintAuthorizations := t } = g w)
    (hpost : ∀ entry, (ReserveLedgerService.post entry).Keeps g)
    (hevent : ∀ event, (outboxCreate event).Keeps g) (authId actor : String) :
    (expire authId actor).Keeps g := by
  unfold expire
  refine (requireAuth_keeps _).bind fun auth => ?_
  split_ifs
  · exact Call.keeps_pure _ _
  · refine (release_keeps hpost _ _ _).bind fun _ => (setStatus_keeps hset _ _).bind fun _ => ?_
    exact (hevent _).bind fun _ => Call.keeps_pure _ _

end

/-- A guard that allows a request against the capacity of a position finds it covered. -/
theorem covered_of_allowed {facts : MintGuardFacts} {d : MintGuardDecision} {amount : Int}
    {currency : String} {pos : ReservePosition}
    (hpos : pos.mintCapacity.currency = Runtime.toUpperCase pos.currency)
    (hrequested : facts.requested = money amount currency)
    (hinput : facts.capacityInput = ⟨pos.currency, pos.mintCapacity, money 0 pos.currency,
      money 0 pos.currency, money 0 pos.currency⟩)
    (hd : evaluateMintGuard facts = .ok d) (hallowed : d.allowed = true) :
    0 < amount ∧ Runtime.toUpperCase currency = Runtime.toUpperCase pos.currency ∧
      amount ≤ pos.mintCapacity.minor := by
  obtain ⟨hcapacity, hpositive, hcurrency, hle, -⟩ := evaluateMintGuard_allowed hd hallowed
  rw [hinput, mintCapacity_eq_ok hpos rfl rfl rfl rfl] at hcapacity
  simp only [money_minor, Int.add_zero, Int.sub_zero, Except.ok.injEq] at hcapacity
  rw [hrequested, money_minor] at hpositive hle
  rw [hrequested, money_currency, ← hcapacity] at hcurrency
  rw [← hcapacity] at hle
  exact ⟨hpositive, hcurrency, by simp only at hle; omega⟩

/-- A guard that allows an authorization has established `GuardPassed`. -/
theorem guardPassed_of_allowed {clock : Clock} {authId : String} {complete : Bool} {w w' : World}
    {facts : MintGuardFacts} {d : MintGuardDecision} {auth : MintAuthorization}
    (hauth : w.mintAuthorizations.find? authId = some auth)
    (h : (gatherGuardFacts clock authId complete).run w = (.ok facts, w'))
    (hd : evaluateMintGuard facts = .ok d) (hallowed : d.allowed = true) :
    (∃ pos, GuardPassed w (clock 0) auth pos) ∧
      unresolvedReconciliation w auth.programId = false ∧
      mintingSuspended w auth.assetId = false := by
  obtain ⟨auth', pos, hauth', hpos, hrequested, hinput, hcleared, hreconciliation, hsuspended⟩ :=
    (run_gatherGuardFacts h).2 facts rfl
  obtain rfl : auth' = auth := Option.some.inj (hauth'.symm.trans hauth)
  obtain ⟨hpositive, hcurrency, hle⟩ := covered_of_allowed
    (positionAt_mintCapacity_currency hpos) hrequested hinput hd hallowed
  have hdeposits := (evaluateMintGuard_allowed hd hallowed).2.2.2.2
  have hunblocked := evaluateMintGuard_unblocked hd hallowed
  refine ⟨⟨pos, hpos, hpositive, hcurrency, hle, hcleared hdeposits⟩, ?_, ?_⟩
  · rw [← hreconciliation]
    exact hunblocked.1
  · rw [← hsuspended]
    exact hunblocked.2.2.1

/-! ## One theorem per operation -/

theorem fitsInt8_of_constraints {auth : MintAuthorization} {w : World}
    (h : mintAuthorizationConstraints auth w = .ok ()) : FitsInt8 auth.amountMinor := by
  unfold mintAuthorizationConstraints at h
  cases hint : checkInt8 [auth.amountMinor, auth.maxMintAmountMinor] with
  | error e => simp [hint, bind, Except.bind] at h
  | ok u => exact checkInt8_eq_ok.mp hint _ List.mem_cons_self

theorem request_effect (w : World) (input : RequestMintAuthorization) (id nonce : String) :
    Published w (.request input id nonce) [] ((request input id nonce).run w).2 := by
  unfold request
  rw [Call.run_bind, Entity.run_findUnique]
  simp only [Prisma.program_get]
  rw [Call.run_lift_bind]
  cases hprogram : w.programs.find? input.programId with
  | none => exact .unchanged
  | some program =>
    simp only [orThrow]
    rw [Call.run_lift_bind]
    cases hminor : bigInt input.amountMinor with
    | error e => exact .unchanged
    | ok minor =>
      simp only
      rw [Call.run_throwIf_bind]
      split_ifs with hpos
      · exact .unchanged
      rw [Call.run_bind]
      rcases Entity.run_create_cases Prisma.mintAuthorization (mintAuthorizationConstraints
        (requestedRow input program (money minor program.referenceCurrency) id nonce))
        (requestedRow input program (money minor program.referenceCurrency) id nonce) w with
        ⟨e, h⟩ | ⟨t, hcheck, ht, h⟩
      · rw [h]
        exact .unchanged
      · rw [h]
        have hfits : FitsInt8 minor := fitsInt8_of_constraints hcheck
        exact ⟨_, _, .requested hprogram (by simpa using hpos) hfits ht, run_record_pure _ _ _⟩

/-- The nested write of a review. -/
theorem reviewTx_ok {authId makerId approvalId : String} {w w' : World} {a : MintAuthorization}
    (h : reviewTx authId makerId approvalId w = .ok (a, w')) :
    ∃ t, (disconnected (w.setAuthStatus authId .pendingChecker) authId).insert?
        (pendingApproval authId makerId approvalId) = some t ∧
      w' = { w.setAuthStatus authId .pendingChecker with approvals := t } := by
  unfold reviewTx at h
  cases hupdate : Prisma.mintAuthorization.updateTx unconstrained authId
      (·.withStatus .pendingChecker) (fun _ => rfl) w with
  | error e => simp [hupdate, bind, Except.bind] at h
  | ok r =>
    obtain ⟨auth, w₁⟩ := r
    obtain ⟨_, -, -, -, hw₁⟩ := Entity.updateTx_ok _ hupdate
    cases hcreate : Prisma.approval.createTx
        (fun w => checkForeignKey (w.users.find? makerId).isSome)
        (pendingApproval authId makerId approvalId)
        { w₁ with approvals := disconnected w₁ authId } with
    | error e => simp [hupdate, hcreate, bind, Except.bind] at h
    | ok r =>
      obtain ⟨approval, w₂⟩ := r
      obtain ⟨-, -, t, ht, hw₂⟩ := Entity.createTx_ok _ hcreate
      simp only [hupdate, hcreate, bind, Except.bind, pure, Except.pure, Except.ok.injEq,
        Prod.mk.injEq] at h
      obtain ⟨-, rfl⟩ := h
      subst hw₁
      exact ⟨t, ht, hw₂⟩

theorem review_effect (w : World) (authId makerId approvalId : String) :
    Published w (.review authId makerId approvalId) []
      ((review authId makerId approvalId).run w).2 := by
  unfold review
  rw [Call.run_bind, run_requireAuthWithApproval]
  cases hauth : w.mintAuthorizations.find? authId with
  | none => exact .unchanged
  | some auth =>
    simp only [Option.map_some, orThrow]
    rw [Call.run_throwIf_bind]
    split_ifs with hstatus
    · exact .unchanged
    rw [not_not] at hstatus
    rw [Call.run_bind, Entity.run_findUnique]
    simp only
    rw [Call.run_throwIf_bind]
    split_ifs with hmaker
    swap
    · exact .unchanged
    rw [Call.run_bind, Call.run_query]
    cases htx : reviewTx authId makerId approvalId w with
    | error e => exact .unchanged
    | ok r =>
      obtain ⟨t, ht, hw⟩ := reviewTx_ok htx
      simp only [hw]
      exact ⟨_, _, .reviewed hauth hstatus ht, run_record_pure _ _ _⟩

theorem find?_of_approvalOf {w : World} {authId : String} {approval : Approval}
    (h : approvalOf w authId = some approval) : w.approvals.find? approval.id = some approval :=
  Lib.Table.find?_key_of_mem (List.mem_of_find?_eq_some h)

/-- The event of a rejection. -/
def rejectedEvent (authId : String) (reasons : List String) : OutboxEvent :=
  EventsService.signedEvent PlatformEvent.mintAuthorizationRejected
    (.object [("authorizationId", .string authId), ("reasons", .strings reasons)]) "PAYCHAIN"

/-- The event of an issued authorization, with its artifact. -/
def approvedEvent (auth : MintAuthorization) (expiresIso : String) : OutboxEvent :=
  EventsService.artifactEvent PlatformEvent.mintAuthorizationApproved
    (.object [("authorizationId", .string auth.id), ("programId", .string auth.programId)])
    (.object [("authorizationId", .string auth.id), ("reference", .string auth.paychainRequestId),
      ("tenantId", .ofOption auth.tenantId), ("assetId", .string auth.assetId),
      ("amount", .string (toString auth.amountMinor)),
      ("destination", .ofOption auth.destination), ("expiresAt", .string expiresIso)])
    .mintAuthorization "PAYCHAIN"

/-- The event of an expiry. -/
def expiredEvent (authId : String) : OutboxEvent :=
  EventsService.signedEvent PlatformEvent.mintAuthorizationExpired
    (.object [("authorizationId", .string authId)]) "PAYCHAIN"

/-- The event of a confirmation. -/
def confirmedEvent (authId blockchainTxHash : String) : OutboxEvent :=
  EventsService.signedEvent PlatformEvent.mintConfirmed
    (.object [("authorizationId", .string authId),
      ("blockchainTxHash", .string blockchainTxHash)]) "PAYCHAIN"

/-- A refused approval, alone. -/
theorem run_block (α : Type) {w : World} (clock : Clock) {authId checkerId : String}
    {auth : MintAuthorization} {approval : Approval} {checker : User}
    (hauth : w.mintAuthorizations.find? authId = some auth)
    (happroval : w.approvals.find? approval.id = some approval)
    (hchecker : w.users.find? checkerId = some checker) (d : MintGuardDecision) :
    ∃ blockReason reasons, ((block clock authId checkerId approval d : Service α).run w).2 =
      ((w.setAuthStatus authId .rejected).decideApproval approval.id checkerId (clock 4) .rejected
        blockReason).logged [] [rejectedEvent authId reasons] := by
  unfold block
  rw [Call.run_bind, run_setStatus hauth]
  simp only
  rw [Call.run_bind, run_recordDecision (w := w.setAuthStatus authId .rejected) happroval hchecker
    (fitsText_guardBlocked d.reasons)]
  simp only [Call.run_bind, run_publish, Call.run_throw]
  exact ⟨_, _, rfl⟩

/-- Issuing, alone: it throws before anything is posted, stops at a reason that cannot be stored, or
does everything. -/
theorem run_issue_cases {w : World} (clock : Clock) {checkerId : String} (reason : String)
    {auth : MintAuthorization} {approval : Approval} {checker : User}
    (hauth : w.mintAuthorizations.find? auth.id = some auth)
    (happroval : w.approvals.find? approval.id = some approval)
    (hchecker : w.users.find? checkerId = some checker) (capacity : Money) :
    ((issue clock auth approval checkerId reason capacity).run w).2 = w ∨
      ∃ e signature expiresAt, IsReservation auth e ∧
        (¬FitsText reason ∧ ((issue clock auth approval checkerId reason capacity).run w).2 =
            (w.posted e).issueAuth auth.id signature (clock 5) expiresAt ∨
          FitsText reason ∧ ∃ rows, ((issue clock auth approval checkerId reason capacity).run w).2 =
            (((w.posted e).issueAuth auth.id signature (clock 5) expiresAt).decideApproval
              approval.id checkerId (clock 5) .approved reason).logged rows
                [approvedEvent auth (isoString expiresAt)]) := by
  unfold issue
  simp only
  rw [Call.run_lift_bind]
  cases newDate (Runtime.mintAuthTtlS.map fun ttl => clock 5 + ttl * 1000) with
  | none => exact .inl rfl
  | some expiresAt =>
    have hiso : toISOString (some expiresAt) = .ok (isoString expiresAt) := rfl
    have hdate : checkDate (some expiresAt) = .ok expiresAt := rfl
    rw [hiso]
    simp only
    rw [Call.run_lift_bind, hdate]
    simp only
    rw [Call.run_lift_bind]
    cases he : mintReservationEntry (money auth.amountMinor auth.currency)
        (mintReferences auth "mint-auth:" checkerId (some approval.id)) with
    | error e => exact .inl rfl
    | ok e =>
      simp only
      rw [Call.run_bind]
      rcases run_post_cases e w with ⟨-, err, hpost⟩ | ⟨hfits, hpost⟩
      · rw [hpost]
        exact .inl rfl
      rw [hpost]
      simp only
      generalize hsignature : signPayload .mintAuthorization
        (authorizationPayload auth (isoString (clock 5)) (isoString expiresAt)) = signature
      rw [Call.run_bind, run_setIssued (w := w.posted e) hauth]
      simp only
      refine .inr ⟨e, signature, expiresAt, isMintEntry_of_build he, ?_⟩
      by_cases hreason : FitsText reason
      · -- The checker is the actor of the entry, so that the record can be stored as well.
        have hactor : FitsText checkerId := by
          have hrefs := (buildJournalEntry_move he).2.entry_references
          simpa only [hrefs, mintReferences] using hfits.actor
        refine .inr ⟨hreason, ?_⟩
        rw [Call.run_bind, run_recordDecision
          (w := (w.posted e).issueAuth auth.id signature (clock 5) expiresAt) happroval hchecker
          hreason]
        simp only
        rw [Call.run_bind, run_record_of (AuditRecord.fits_iff.mpr ⟨hactor, by simp⟩)]
        simp only [Call.run_bind, run_publishWithArtifact, Call.run_pure, World.logged_logged]
        exact ⟨_, rfl⟩
      · obtain ⟨err, hrun⟩ := run_recordDecision_unfit hreason approval.id checkerId (clock 5)
          .approved ((w.posted e).issueAuth auth.id signature (clock 5) expiresAt)
        refine .inl ⟨hreason, ?_⟩
        rw [Call.run_bind, hrun]

/-- An approval that has come to the guard: what it found, and the decision. -/
structure Consulted (w : World) (clock : Clock) (authId checkerId : String)
    (auth : MintAuthorization) (approval : Approval) (checker : User) (facts : MintGuardFacts)
    (d : MintGuardDecision) : Prop where
  found : w.mintAuthorizations.find? authId = some auth
  status : auth.status = .pendingChecker
  reviewed : approvalOf w authId = some approval
  maker : approval.makerId ≠ checkerId
  checker : w.users.find? checkerId = some checker
  gathered : (gatherGuardFacts clock authId true).run w = (.ok facts, w)
  decided : evaluateMintGuard facts = .ok d

/-- **An approval throws, or does what the guard decides.** -/
theorem run_approve_guard (w : World) (clock : Clock) (authId checkerId reason : String) :
    ((approve clock authId checkerId reason).run w).2 = w ∨
    ∃ auth approval checker facts d,
      Consulted w clock authId checkerId auth approval checker facts d ∧
      (approve clock authId checkerId reason).run w =
        (if d.allowed then issue clock auth approval checkerId reason d.capacity
          else block clock authId checkerId approval d).run w := by
  unfold approve
  rw [Call.run_bind, run_requireAuthWithApproval]
  cases hauth : w.mintAuthorizations.find? authId with
  | none => exact .inl rfl
  | some auth =>
    simp only [Option.map_some, orThrow]
    rw [Call.run_throwIf_bind]
    split_ifs with hstatus
    · exact .inl rfl
    rw [not_not] at hstatus
    rw [Call.run_lift_bind]
    cases happroval : makerDiffers (approvalOf w authId) checkerId
        "A user cannot approve their own request (§9)" with
    | error e => exact .inl rfl
    | ok approval =>
      obtain ⟨hfound, hmaker⟩ := makerDiffers_ok happroval
      simp only
      rw [Call.run_bind, Entity.run_findUnique]
      simp only [Prisma.user_get]
      rw [Call.run_lift_bind]
      cases hchecker : w.users.find? checkerId with
      | none => exact .inl rfl
      | some checker =>
        simp only
        rw [Call.run_bind]
        rcases hgather : (gatherGuardFacts clock authId true).run w with ⟨r, w'⟩
        obtain rfl := (run_gatherGuardFacts hgather).1
        cases r with
        | error e => exact .inl rfl
        | ok facts =>
          simp only
          rw [Call.run_lift_bind]
          cases hdecision : evaluateMintGuard facts with
          | error e => exact .inl rfl
          | ok d => exact .inr ⟨auth, approval, checker, facts, d,
              ⟨hauth, hstatus, hfound, hmaker, hchecker, hgather, hdecision⟩, rfl⟩

/-- **An approval alone**: nothing, a rejection by the guard, or an issue, whose decision is recorded
if its reason can be stored. -/
theorem run_approve_cases (w : World) (clock : Clock) (authId checkerId reason : String) :
    ((approve clock authId checkerId reason).run w).2 = w ∨
    (∃ auth approval blockReason reasons, w.mintAuthorizations.find? authId = some auth ∧
      auth.status = .pendingChecker ∧ approvalOf w authId = some approval ∧
      approval.makerId ≠ checkerId ∧ ((approve clock authId checkerId reason).run w).2 =
        ((w.setAuthStatus authId .rejected).decideApproval approval.id checkerId (clock 4) .rejected
          blockReason).logged [] [rejectedEvent authId reasons]) ∨
    ∃ auth approval e signature expiresAt,
      Issuable w (clock 0) authId checkerId auth approval ∧ IsReservation auth e ∧
        (¬FitsText reason ∧ ((approve clock authId checkerId reason).run w).2 =
            (w.posted e).issueAuth authId signature (clock 5) expiresAt ∨
          FitsText reason ∧ ∃ rows, ((approve clock authId checkerId reason).run w).2 =
            (((w.posted e).issueAuth authId signature (clock 5) expiresAt).decideApproval
              approval.id checkerId (clock 5) .approved reason).logged rows
                [approvedEvent auth (isoString expiresAt)]) := by
  rcases run_approve_guard w clock authId checkerId reason with hsame |
    ⟨auth, approval, checker, facts, d, h, hrun⟩
  · exact .inl hsame
  rw [hrun]
  split_ifs with hallowed
  · obtain ⟨hguard, hreconciled, hunsuspended⟩ :=
      guardPassed_of_allowed h.found h.gathered h.decided hallowed
    obtain rfl := Lib.Table.key_of_find? h.found
    rcases run_issue_cases clock reason h.found
      (find?_of_approvalOf h.reviewed) h.checker d.capacity with
      hissue | ⟨e, signature, expiresAt, he, hissue⟩
    · exact .inl hissue
    · exact .inr (.inr ⟨auth, approval, e, signature, expiresAt,
        ⟨h.found, h.status, h.reviewed, h.maker, hguard, hreconciled, hunsuspended⟩, he, hissue⟩)
  · obtain ⟨blockReason, reasons, hblock⟩ := run_block ApprovedMint clock
      h.found (find?_of_approvalOf h.reviewed) h.checker d
    exact .inr (.inl
      ⟨auth, approval, blockReason, reasons, h.found, h.status, h.reviewed, h.maker, hblock⟩)

theorem approve_effect (w : World) (clock : Clock) (authId checkerId reason : String) :
    HasEffect w (.approve clock authId checkerId reason)
      ((approve clock authId checkerId reason).run w).2 := by
  rcases run_approve_cases w clock authId checkerId reason with h |
    ⟨auth, approval, blockReason, reasons, hauth, hstatus, hfound, hmaker, h⟩ |
    ⟨auth, approval, e, signature, expiresAt, hissuable, he,
      ⟨hreason, h⟩ | ⟨hreason, rows, h⟩⟩
  · rw [h]
    exact .unchanged
  · rw [h]
    exact ⟨_, _, _, .blocked hauth hstatus hfound hmaker, rfl⟩
  · rw [h]
    exact ⟨_, [], [], .issuedUndecided hissuable he hreason, (World.logged_nil _).symm⟩
  · rw [h]
    exact ⟨_, _, _, .issued hissuable he, rfl⟩

/-- A rejection that is let through: its decision is recorded and announced, or its reason is
refused after the status is written. -/
theorem run_reject_of {w : World} {authId checkerId : String} {auth : MintAuthorization}
    {approval : Approval} (hauth : w.mintAuthorizations.find? authId = some auth)
    (happroval : approvalOf w authId = some approval) (hmaker : approval.makerId ≠ checkerId)
    (clock : Clock) (reason : String) :
    ((reject clock authId checkerId reason).run w).2 = w.setAuthStatus authId .rejected ∨
      ((reject clock authId checkerId reason).run w).2 =
        ((w.setAuthStatus authId .rejected).decideApproval approval.id checkerId (clock 0) .rejected
          reason).logged [] [rejectedEvent authId ["MANUAL_REJECTION"]] := by
  have hdiffers : makerDiffers (approvalOf w authId) checkerId
      "A user cannot action their own request (§9)" = .ok approval := by
    simp [makerDiffers, happroval, orThrow, bind, Except.bind, hmaker]
  unfold reject
  rw [Call.run_bind, run_requireAuthWithApproval, hauth, Option.map_some, orThrow]
  simp only
  rw [Call.run_lift_bind, hdiffers]
  simp only
  rw [Call.run_bind, run_setStatus hauth]
  simp only
  rw [Call.run_bind]
  rcases run_recordDecision_cases approval.id checkerId (clock 0) .rejected reason
    (w.setAuthStatus authId .rejected) with ⟨e, h⟩ | ⟨a, h⟩
  · rw [h]
    exact .inl rfl
  · rw [h]
    simp only [Call.run_bind, run_publish, Call.run_pure]
    exact .inr rfl

/-- A rejection fails and changes nothing, or it is let through. -/
theorem run_reject_checked (w : World) (clock : Clock) (authId checkerId reason : String) :
    ((reject clock authId checkerId reason).run w).2 = w ∨
      ∃ auth approval, w.mintAuthorizations.find? authId = some auth ∧
        approvalOf w authId = some approval ∧ approval.makerId ≠ checkerId := by
  unfold reject
  rw [Call.run_bind, run_requireAuthWithApproval]
  cases hauth : w.mintAuthorizations.find? authId with
  | none => exact .inl rfl
  | some auth =>
    simp only [Option.map_some, orThrow]
    rw [Call.run_lift_bind]
    cases happroval : makerDiffers (approvalOf w authId) checkerId
        "A user cannot action their own request (§9)" with
    | error e => exact .inl rfl
    | ok approval => exact .inr ⟨auth, approval, rfl, makerDiffers_ok happroval⟩

theorem reject_effect (w : World) (clock : Clock) (authId checkerId reason : String) :
    Published w (.reject clock authId checkerId reason) []
        ((reject clock authId checkerId reason).run w).2 ∨
      Published w (.reject clock authId checkerId reason)
        [rejectedEvent authId ["MANUAL_REJECTION"]]
        ((reject clock authId checkerId reason).run w).2 := by
  rcases run_reject_checked w clock authId checkerId reason with
    hsame | ⟨auth, approval, hauth, hfound, hmaker⟩
  · rw [hsame]
    exact .inl .unchanged
  · rcases run_reject_of hauth hfound hmaker clock reason with hrun | hrun
    · rw [hrun]
      exact .inl ⟨_, [], .rejectedUndecided hauth hfound hmaker, (World.logged_nil _).symm⟩
    · rw [hrun]
      exact .inr ⟨_, _, .rejected hauth hfound hmaker, rfl⟩

theorem revoke_effect (w : World) (authId actor reason : String) :
    Published w (.revoke authId actor reason) [] ((revoke authId actor reason).run w).2 := by
  unfold revoke
  rw [Call.run_bind, run_requireAuth]
  cases hauth : w.mintAuthorizations.find? authId with
  | none => exact .unchanged
  | some auth =>
    simp only [orThrow]
    rw [Call.run_throwIf_bind]
    split_ifs with hstatus
    · exact .unchanged
    rw [not_not] at hstatus
    rw [Call.run_bind]
    rcases run_release_cases auth "mint-revoke:" actor w with ⟨err, h⟩ | ⟨e, he, -, h⟩
    · rw [h]
      exact .unchanged
    · rw [h]
      simp only
      rw [Call.run_bind, run_setStatus (w := w.posted e) hauth]
      simp only
      exact ⟨_, _, .revoked hauth hstatus he, run_record_pure _ _ _⟩

/-- An expiry alone: nothing, or one release and the new status. -/
theorem run_expire_cases (w : World) (authId actor : String) :
    ((expire authId actor).run w).2 = w ∨
      ∃ auth e, w.mintAuthorizations.find? authId = some auth ∧ auth.status = .issued ∧
        IsRelease auth "mint-expire:" e ∧ ((expire authId actor).run w).2 =
          ((w.posted e).setAuthStatus authId .expired).logged [] [expiredEvent authId] := by
  unfold expire
  rw [Call.run_bind, run_requireAuth]
  cases hauth : w.mintAuthorizations.find? authId with
  | none => exact .inl rfl
  | some auth =>
    simp only [orThrow]
    split_ifs with hstatus
    · exact .inl rfl
    rw [not_not] at hstatus
    rw [Call.run_bind]
    rcases run_release_cases auth "mint-expire:" actor w with ⟨err, h⟩ | ⟨e, he, -, h⟩
    · rw [h]
      exact .inl rfl
    · rw [h]
      simp only
      rw [Call.run_bind, run_setStatus (w := w.posted e) hauth]
      simp only [Call.run_bind, run_publish, Call.run_pure]
      exact .inr ⟨auth, e, rfl, hstatus, he, rfl⟩

theorem expire_effect (w : World) (authId actor : String) :
    HasEffect w (.expire authId actor) ((expire authId actor).run w).2 := by
  rcases run_expire_cases w authId actor with h | ⟨auth, e, hauth, hstatus, he, h⟩
  · rw [h]
    exact .unchanged
  · rw [h]
    exact ⟨_, _, _, .expired hauth hstatus he, rfl⟩

/-- Storing a confirmation alone: one row, or an error and no change. -/
theorem run_createConfirmation_cases (auth : MintAuthorization) (input : ConfirmMint)
    (amountMinor : Int) (w : World) :
    (∃ err, (createConfirmation auth input amountMinor).run w = (.error err, w)) ∨
      ∃ ledgerHeight confirmedAt t, w.mintConfirmations.insert?
          (confirmationRow auth input amountMinor ledgerHeight confirmedAt) = some t ∧
        (createConfirmation auth input amountMinor).run w =
          (.ok (confirmationRow auth input amountMinor ledgerHeight confirmedAt),
            { w with mintConfirmations := t }) := by
  unfold createConfirmation
  rw [Call.run_lift_bind]
  cases ledgerHeightOf input.ledgerHeight with
  | error err => exact .inl ⟨err, rfl⟩
  | ok ledgerHeight =>
    simp only
    rw [Call.run_lift_bind]
    cases checkDate (newDateOf input.confirmedAt) with
    | error err => exact .inl ⟨err, rfl⟩
    | ok confirmedAt =>
      rcases Entity.run_create_cases Prisma.mintConfirmation
        (mintConfirmationConstraints
          (confirmationRow auth input amountMinor ledgerHeight confirmedAt))
        (confirmationRow auth input amountMinor ledgerHeight confirmedAt) w with
        ⟨err, h⟩ | ⟨t, -, ht, h⟩
      · exact .inl ⟨err, h⟩
      · exact .inr ⟨ledgerHeight, confirmedAt, t, ht, h⟩

/-- **A confirmation alone**: nothing, the expiry of an expired authorization, a release whose row
cannot be stored, or a release with its row. -/
theorem run_confirm_cases (w : World) (clock : Clock) (authId : String) (input : ConfirmMint) :
    ((confirm clock authId input).run w).2 = w ∨
    (∃ auth, w.mintAuthorizations.find? authId = some auth ∧ auth.status = .issued ∧
      hasExpired auth (clock 0) = true ∧
        ((confirm clock authId input).run w).2 = ((expire authId input.actor).run w).2) ∨
    ∃ auth e, w.mintAuthorizations.find? authId = some auth ∧ auth.status = .issued ∧
      hasExpired auth (clock 0) = false ∧ bigInt input.amountMinor = .ok auth.amountMinor ∧
      IsRelease auth "mint-confirm:" e ∧
      ((∃ err, (createConfirmation auth input auth.amountMinor).run (w.posted e) =
          (.error err, w.posted e) ∧ ((confirm clock authId input).run w).2 = w.posted e) ∨
        ∃ ledgerHeight confirmedAt t rows, w.mintConfirmations.insert?
            (confirmationRow auth input auth.amountMinor ledgerHeight confirmedAt) = some t ∧
          ((confirm clock authId input).run w).2 =
            (World.setAuthStatus { w.posted e with mintConfirmations := t } authId
              .consumed).logged rows [confirmedEvent authId input.blockchainTxHash]) := by
  unfold confirm
  rw [Call.run_bind, run_requireAuth]
  cases hauth : w.mintAuthorizations.find? authId with
  | none => exact .inl rfl
  | some auth =>
    simp only [orThrow]
    rw [Call.run_throwIf_bind]
    split_ifs with hstatus hexpired
    · exact .inl rfl
    · -- The authorization has expired: `confirm` diverts into `expire` and then throws.
      rw [not_not] at hstatus
      refine .inr (.inl ⟨auth, rfl, hstatus, hexpired, ?_⟩)
      rw [Call.run_bind]
      rcases (expire authId input.actor).run w with ⟨_ | _, _⟩ <;> rfl
    · rw [not_not] at hstatus
      rw [Call.run_lift_bind]
      cases hminor : bigInt input.amountMinor with
      | error err => exact .inl rfl
      | ok amountMinor =>
        simp only
        rw [Call.run_throwIf_bind]
        split_ifs with hamount
        · exact .inl rfl
        rw [not_not] at hamount
        subst hamount
        rw [Call.run_bind]
        rcases run_release_cases auth "mint-confirm:" input.actor w with
          ⟨err, h⟩ | ⟨e, he, hactor, h⟩
        · rw [h]
          exact .inl rfl
        rw [h]
        simp only
        rw [Call.run_bind]
        refine .inr (.inr ⟨auth, e, rfl, hstatus, by simpa using hexpired, rfl, he, ?_⟩)
        rcases run_createConfirmation_cases auth input auth.amountMinor (w.posted e) with
          ⟨err, hcreate⟩ | ⟨ledgerHeight, confirmedAt, t, ht, hcreate⟩
        · rw [hcreate]
          exact .inl ⟨err, rfl, rfl⟩
        · rw [hcreate]
          simp only
          rw [Call.run_bind,
            run_setStatus (w := { w.posted e with mintConfirmations := t }) hauth]
          simp only
          -- The actor of the record is the actor of the entry.
          rw [Call.run_bind, run_record_of (AuditRecord.fits_iff.mpr ⟨hactor, by simp⟩)]
          simp only [Call.run_bind, run_publish, Call.run_pure, World.logged_logged]
          exact .inr ⟨ledgerHeight, confirmedAt, t, _, ht, rfl⟩

theorem confirm_effect (w : World) (clock : Clock) (authId : String) (input : ConfirmMint) :
    HasEffect w (.confirm clock authId input) ((confirm clock authId input).run w).2 := by
  rcases run_confirm_cases w clock authId input with h | ⟨auth, hauth, hstatus, hexpired, h⟩ |
    ⟨auth, e, hauth, hstatus, hexpired, hamount, he,
      ⟨err, hcreate, h⟩ | ⟨ledgerHeight, confirmedAt, t, rows, ht, h⟩⟩
  · rw [h]
    exact .unchanged
  · rcases run_expire_cases w authId input.actor with hsame | ⟨auth', e, hauth', -, he, hexpire⟩
    · rw [h, hsame]
      exact .unchanged
    · obtain rfl : auth' = auth := Option.some.inj (hauth'.symm.trans hauth)
      rw [h, hexpire]
      exact ⟨_, _, _, .expiredAtConfirm hauth hstatus hexpired he, rfl⟩
  · rw [h]
    exact ⟨_, [], [], .unstored hauth hstatus hexpired hamount he ⟨err, hcreate⟩, by simp⟩
  · rw [h]
    exact ⟨_, _, _, .confirmed hauth hstatus hexpired hamount he ht, rfl⟩

/-- **Every operation has an effect in the list.** -/
theorem MintOp.effect (w : World) (op : MintOp) : HasEffect w op (op.step w) := by
  cases op with
  | request input id nonce =>
    simpa [step, call] using (request_effect w input id nonce).hasEffect
  | review authId makerId approvalId =>
    simpa [step, call] using (review_effect w authId makerId approvalId).hasEffect
  | approve clock authId checkerId reason =>
    simpa [step, call] using approve_effect w clock authId checkerId reason
  | reject clock authId checkerId reason =>
    rcases reject_effect w clock authId checkerId reason with h | h
    · simpa [step, call] using h.hasEffect
    · simpa [step, call] using h.hasEffect
  | revoke authId actor reason =>
    simpa [step, call] using (revoke_effect w authId actor reason).hasEffect
  | confirm clock authId input => simpa [step, call] using confirm_effect w clock authId input
  | expire authId actor => simpa [step, call] using expire_effect w authId actor

/-! ## What becomes issued -/

/-- An authorization that was not `ISSUED` in a state. -/
def NotIssued (w : World) (authId : String) : Prop :=
  ∀ a ∈ w.mintAuthorizations.find? authId, a.status ≠ .issued

/-- Writing another status issues nothing. -/
theorem NotIssued.setAuthStatus {w : World} {a : MintAuthorization} (h : NotIssued w a.id)
    (hissued : a.status = .issued) {authId : String} {status : MintAuthorizationStatus}
    (hstatus : status ≠ .issued) : a ∉ (w.setAuthStatus authId status).mintAuthorizations.rows := by
  intro ha
  rcases World.mem_updateAuth.mp ha with ⟨hmem, -⟩ | ⟨r, -, rfl⟩
  · exact h a (Lib.Table.find?_key_of_mem hmem) hissued
  · exact hstatus hissued

/-- **Only an approval issues.** -/
theorem MintEffect.issues {w w₁ : World} {op : MintOp} (h : MintEffect w op w₁)
    {a : MintAuthorization} (ha : a ∈ w₁.mintAuthorizations.rows) (hissued : a.status = .issued)
    (hbefore : NotIssued w a.id) : ∃ clock checkerId reason,
      op = .approve clock a.id checkerId reason := by
  have hkept : a ∉ w.mintAuthorizations.rows := fun hmem =>
    hbefore a (Lib.Table.find?_key_of_mem hmem) hissued
  have hissue {authId : String} {signature : Signature} {issuedAt expiresAt : Int}
      (ha : a ∈ (w.issueAuth authId signature issuedAt expiresAt).mintAuthorizations.rows) :
      a.id = authId := by
    rcases World.mem_updateAuth.mp ha with ⟨hmem, -⟩ | ⟨r, hr, rfl⟩
    · exact absurd hmem hkept
    · exact (Lib.Table.key_of_find? hr : r.id = authId)
  cases h with
  | unchanged => exact absurd ha hkept
  | unstored => exact absurd ha hkept
  | requested _ _ _ ht =>
    rw [(Lib.Table.insert?_eq_some ht).1] at ha
    rcases List.mem_append.mp ha with ha | ha
    · exact absurd ha hkept
    · obtain rfl := List.mem_singleton.mp ha
      cases hissued
  | reviewed => exact absurd ha (hbefore.setAuthStatus hissued (by decide))
  | blocked => exact absurd ha (hbefore.setAuthStatus hissued (by decide))
  | rejected => exact absurd ha (hbefore.setAuthStatus hissued (by decide))
  | rejectedUndecided => exact absurd ha (hbefore.setAuthStatus hissued (by decide))
  | revoked => exact absurd ha (hbefore.setAuthStatus hissued (by decide))
  | expired => exact absurd ha (hbefore.setAuthStatus hissued (by decide))
  | expiredAtConfirm => exact absurd ha (hbefore.setAuthStatus hissued (by decide))
  | confirmed => exact absurd ha (hbefore.setAuthStatus hissued (by decide))
  | @issued clock _ checkerId reason =>
    obtain rfl := hissue ha
    exact ⟨clock, checkerId, reason, rfl⟩
  | @issuedUndecided clock _ checkerId reason =>
    obtain rfl := hissue ha
    exact ⟨clock, checkerId, reason, rfl⟩

/-- **What becomes issued had everything an approval establishes.** -/
theorem MintOp.newly_issued {w : World} {op : MintOp} {a : MintAuthorization}
    (ha : a ∈ (op.step w).mintAuthorizations.rows) (hissued : a.status = .issued)
    (hbefore : NotIssued w a.id) :
    ∃ clock checkerId reason auth approval e signature expiresAt,
      op = .approve clock a.id checkerId reason ∧
      Issuable w (clock 0) a.id checkerId auth approval ∧ IsReservation auth e ∧
      a = auth.asIssued signature (clock 5) expiresAt ∧
      (¬FitsText reason ∧
          op.step w = (w.posted e).issueAuth a.id signature (clock 5) expiresAt ∨
        FitsText reason ∧ ∃ rows,
          op.step w = (((w.posted e).issueAuth a.id signature (clock 5) expiresAt).decideApproval
            approval.id checkerId (clock 5) .approved reason).logged rows
              [approvedEvent auth (isoString expiresAt)]) := by
  obtain ⟨w₁, rows, events, heffect, hw⟩ := op.effect w
  rw [hw] at ha
  obtain ⟨clock, checkerId, reason, rfl⟩ := heffect.issues ha hissued hbefore
  change a ∈ (w₁.logged rows events).mintAuthorizations.rows at ha
  rw [← hw] at ha
  simp only [step, call, Call.run_void_snd] at ha ⊢
  rcases run_approve_cases w clock a.id checkerId reason with h |
    ⟨auth, approval, blockReason, reasons, -, -, -, -, h⟩ |
    ⟨auth, approval, e, signature, expiresAt, hissuable, he, h⟩
  · rw [h] at ha
    exact absurd hissued (hbefore a (Lib.Table.find?_key_of_mem ha))
  · rw [h] at ha
    exact absurd ha (hbefore.setAuthStatus hissued (by decide))
  · have hissue : a ∈ (w.issueAuth a.id signature (clock 5) expiresAt).mintAuthorizations.rows := by
      rcases h with ⟨-, h⟩ | ⟨-, rows, h⟩
      · rw [h] at ha
        exact ha
      · rw [h] at ha
        exact ha
    rcases World.mem_updateAuth.mp hissue with ⟨-, hne⟩ | ⟨r, hr, haeq⟩
    · exact absurd rfl hne
    · obtain rfl : r = auth := Option.some.inj (hr.symm.trans hissuable.found)
      exact ⟨clock, checkerId, reason, r, approval, e, signature, expiresAt, rfl,
        hissuable, he, haeq, h⟩

end TrusteeBank
