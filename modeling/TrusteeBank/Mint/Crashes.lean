import TrusteeBank.Mint.Approvals
import TrusteeBank.Mint.Artifacts

/-!
# Approvals that stop

Any number of `approve` calls on one authorization: each of them may stop for good after any of
its database steps, and the next call is a retry. `approve` makes five separate writes: the
reservation, the status, the decision, the audit row and the event.

**The phases of a call.** It has read nothing, it has read `PENDING_CHECKER`, it has posted, it has
written `ISSUED`, or it is settled. Between two calls the status, the ledger and the outbox agree,
unless a call stopped after its post and before its event.

* `attempt_moves`: the steps of one call, from phase to phase;
* `PhaseState.step`: what the database says about the authorization in every phase;
* `approval_atomic`: one reservation at most, and agreement whenever no call is interrupted.

A call that stops between its post and its status leaves `PENDING_CHECKER` behind, and the retry
posts a second reservation (`reserved_twice`).
-/

set_option autoImplicit false

namespace TrusteeBank

open Lib (Call Pool)
open LedgerAccountCode MintService ReserveService ReserveLedgerService

section

variable [Runtime]

/-! ## What the database says -/

/-- The reservation entries of an authorization. -/
def reservations (w : World) (authId : String) : List JournalEntry :=
  w.ledger.filter fun e => e.references.source = "mint-auth:" ++ authId

/-- The artifacts that announce an authorization. -/
def announcements (w : World) (authId : String) : List OutboxEvent :=
  (artifacts w).filter fun e => e.authorizationId = some authId

def IsIssued (w : World) (authId : String) : Prop :=
  ∃ a ∈ w.mintAuthorizations.find? authId, a.status = .issued

/-- The status, the ledger and the outbox agree on whether the authorization was issued. -/
def ApprovalAgreed (w : World) (authId : String) : Prop :=
  (IsIssued w authId ↔ reservations w authId ≠ []) ∧
    (IsIssued w authId ↔ announcements w authId ≠ [])

/-- Nothing was issued. -/
structure Unissued (w : World) (authId : String) : Prop where
  reservations : reservations w authId = []
  announcements : announcements w authId = []
  status : ¬IsIssued w authId

/-- It was issued once. -/
structure IssuedOnce (w : World) (authId : String) : Prop where
  reservations : (reservations w authId).length = 1
  announcements : announcements w authId ≠ []
  status : IsIssued w authId

theorem Unissued.agreed {w : World} {authId : String} (h : Unissued w authId) :
    ApprovalAgreed w authId := by
  simp [ApprovalAgreed, h.reservations, h.announcements, h.status]

theorem IssuedOnce.agreed {w : World} {authId : String} (h : IssuedOnce w authId) :
    ApprovalAgreed w authId := by
  have hne : TrusteeBank.reservations w authId ≠ [] := by
    intro hnil
    have hlength := h.reservations
    rw [hnil] at hlength
    cases hlength
  exact ⟨iff_of_true h.status hne, iff_of_true h.status h.announcements⟩

/-! ## One call -/

/-- The write of the event. -/
def publishQuery : Query := ⟨.outboxEvent, .create, PlatformEvent.mintAuthorizationApproved⟩

/-- How far a call is. -/
inductive IssuePhase
  | started | checked | posted | issued | settled
deriving DecidableEq

/-- The steps of a call on the authorization `authId`, from phase to phase. -/
inductive ApproveMove (authId : String) : IssuePhase → Query → World → World → IssuePhase → Prop
  | other {φ : IssuePhase} {q : Query} {w w' : World} (hq : q ≠ publishQuery)
      (hledger : w'.ledger = w.ledger) (hauth : w'.mintAuthorizations = w.mintAuthorizations)
      (hartifacts : artifacts w' = artifacts w) : ApproveMove authId φ q w w' φ
  | checked {q : Query} {w : World} {a : MintAuthorization} (hq : q ≠ publishQuery)
      (ha : w.mintAuthorizations.find? authId = some a) (hstatus : a.status = .pendingChecker) :
      ApproveMove authId .started q w w .checked
  | posted {q : Query} {w : World} {e : JournalEntry} (hq : q.model = .ledgerEntry)
      (he : e.references.source = "mint-auth:" ++ authId) :
      ApproveMove authId .checked q w (w.posted e) .posted
  | issued {q : Query} {w : World} {a : MintAuthorization} {signature : Signature}
      {issuedAt expiresAt : Int} (hq : q ≠ publishQuery)
      (ha : w.mintAuthorizations.find? authId = some a) :
      ApproveMove authId .posted q w (w.issueAuth authId signature issuedAt expiresAt) .issued
  | published {w : World} {auth : MintAuthorization} {expiresIso : String}
      (hauth : auth.id = authId) :
      ApproveMove authId .issued publishQuery w (w.logged [] [approvedEvent auth expiresIso])
        .settled
  | blocked {q : Query} {w : World} (hq : q ≠ publishQuery) :
      ApproveMove authId .checked q w (w.setAuthStatus authId .rejected) .settled

/-- A call that follows these steps. -/
abbrev Approving (authId : String) {α : Type} (x : Service α) (φ : IssuePhase) : Prop :=
  x.Obeys (ApproveMove authId) (fun _ => True) (fun _ _ => True) φ

/-- A part of a call that only reads. -/
abbrev Consulting (authId : String) {α : Type} (x : Service α) (φ : IssuePhase) : Prop :=
  x.Obeys (ApproveMove authId) (fun _ => True) (fun p _ => p = φ) φ

section

variable {authId : String} {α β : Type} {φ : IssuePhase} {Q : IssuePhase → Except ApiError β → Prop}

theorem ApproveMove.read (authId : String) (φ : IssuePhase) {q : Query} (hq : q ≠ publishQuery)
    (w : World) : ApproveMove authId φ q w w φ :=
  .other hq rfl rfl rfl

theorem consulting_read {q : Query} (hq : q ≠ publishQuery) {g : World → α} {f : α → Service β}
    (h : ∀ a, (f a).Obeys (ApproveMove authId) (fun _ => True) Q φ) :
    (Call.read q g >>= f).Obeys (ApproveMove authId) (fun _ => True) Q φ :=
  Call.Obeys.read_bind fun w _ => ⟨φ, .read authId φ hq w, h (g w)⟩

/-- A transaction that leaves the ledger, the authorizations and the artifacts as they are. -/
theorem Approving.query_bind {q : Query} (hq : q ≠ publishQuery) {g : Tx α} {f : α → Service β}
    (hg : ∀ w a w', g w = .ok (a, w') → w'.ledger = w.ledger ∧
      w'.mintAuthorizations = w.mintAuthorizations ∧ artifacts w' = artifacts w)
    (h : ∀ a, Approving authId (f a) φ) : Approving authId (Call.query q g >>= f) φ := by
  refine Call.Obeys.query_bind (fun w a w' _ hw' => ?_) fun w e _ _ =>
    ⟨φ, .read authId φ hq w, trivial⟩
  obtain ⟨hledger, hauth, hartifacts⟩ := hg w a w' hw'
  exact ⟨φ, .other hq hledger hauth hartifacts, h a⟩

end

theorem accountBalance_consults (authId programId account c : String) (φ : IssuePhase) :
    Consulting authId (accountBalance programId account c) φ := by
  unfold accountBalance
  refine consulting_read (by simp [publishQuery]) fun rows => ?_
  exact Call.Obeys.lift_bind (fun _ _ => rfl) fun type _ => rfl

theorem position_consults (authId : String) (clock : Clock) (programId : String) (φ : IssuePhase) :
    Consulting authId (position clock programId) φ := by
  have hbalance {β : Type} (account c : String) {f : Money → Service β}
      (h : ∀ m, Consulting authId (f m) φ) :
      Consulting authId (accountBalance programId account c >>= f) φ :=
    (accountBalance_consults authId programId account c φ).bind
      (fun p m hp => by cases hp; exact h m) fun p e hp => hp
  unfold position
  refine consulting_read (by simp [publishQuery, Prisma.program]) fun found => ?_
  refine Call.Obeys.lift_bind (fun _ _ => rfl) fun program _ => ?_
  refine hbalance _ _ fun cash => hbalance _ _ fun unmatched => hbalance _ _ fun pending =>
    hbalance _ _ fun redemption => ?_
  refine consulting_read (by simp [publishQuery, Prisma.liabilitySnapshot]) fun latest => ?_
  exact consulting_read (by simp [publishQuery]) fun sums => rfl

theorem gatherGuardFacts_consults (authId : String) (clock : Clock) (id : String) (complete : Bool)
    (φ : IssuePhase) : Consulting authId (gatherGuardFacts clock id complete) φ := by
  unfold gatherGuardFacts requireAuth
  rw [bind_assoc]
  refine consulting_read (by simp [publishQuery, Prisma.mintAuthorization]) fun found => ?_
  refine Call.Obeys.lift_bind (fun _ _ => rfl) fun auth _ => ?_
  refine consulting_read (by simp [publishQuery, Prisma.program]) fun found => ?_
  refine Call.Obeys.lift_bind (fun _ _ => rfl) fun program _ => ?_
  refine (position_consults authId clock auth.programId φ).bind ?_ fun p e hp => hp
  rintro p pos rfl
  have hdeposits (f : List Deposit → Service MintGuardFacts)
      (hf : ∀ deposits, Consulting authId (f deposits) p) : Consulting authId
        (if auth.fundingDepositIds.length > 0 then
          (Prisma.deposit.findMany id fun d => auth.fundingDepositIds.contains d.id) >>= f
        else pure [] >>= f) p := by
    split_ifs
    · exact consulting_read (by simp [publishQuery, Prisma.deposit]) hf
    · exact hf []
  refine hdeposits _ fun deposits => ?_
  refine consulting_read (by simp [publishQuery, Prisma.liabilitySnapshot]) fun liability => ?_
  refine consulting_read (by simp [publishQuery, Prisma.featureFlag]) fun flag => ?_
  refine consulting_read (by simp [publishQuery, Prisma.platformControl]) fun holds => ?_
  refine consulting_read (by simp [publishQuery, Prisma.reserveSnapshot]) fun snapshot => ?_
  refine consulting_read (by simp [publishQuery, Prisma.reconciliationRun]) fun run => ?_
  refine consulting_read (by simp [publishQuery, Prisma.trusteeAccount]) fun account => ?_
  refine consulting_read (by simp [publishQuery, Prisma.platformControl]) fun suspend => ?_
  exact consulting_read (by simp [publishQuery]) fun age => rfl

theorem Approving.recordDecision_bind {authId : String} {β : Type} {φ : IssuePhase}
    (approvalId checkerId : String) (actedAt : Int) (decision : ApprovalDecision) (reason : String)
    {f : Approval → Service β} (h : ∀ approval, Approving authId (f approval) φ) :
    Approving authId (recordDecision approvalId checkerId actedAt decision reason >>= f) φ := by
  refine Approving.query_bind (by simp [publishQuery, Prisma.approval]) ?_ h
  intro w _ w' hw'
  obtain ⟨_, -, -, -, rfl⟩ := Entity.updateTx_ok _ hw'
  exact ⟨rfl, rfl, rfl⟩

theorem Approving.record_bind {authId : String} {β : Type} {φ : IssuePhase} (entry : AuditRecord)
    {f : Unit → Service β} (h : Approving authId (f ()) φ) :
    Approving authId (AuditService.record entry >>= f) φ := by
  refine Approving.query_bind (by simp [publishQuery]) ?_ fun _ => h
  intro w _ w' hw'
  rw [(auditCreate_ok hw').2]
  exact ⟨rfl, rfl, artifacts_logged w _ _ ▸ List.append_nil _⟩

/-- An event that is no artifact. -/
theorem Approving.event_bind {authId : String} {β : Type} {φ : IssuePhase} {event : OutboxEvent}
    (hevent : event.eventType ≠ PlatformEvent.mintAuthorizationApproved)
    {f : Unit → Service β} (h : Approving authId (f ()) φ) :
    Approving authId (outboxCreate event >>= f) φ := by
  refine Approving.query_bind (by simpa [publishQuery] using hevent) ?_ fun _ => h
  intro w _ w' hw'
  cases hw'
  refine ⟨rfl, rfl, ?_⟩
  rw [artifacts_logged, List.filter_singleton, decide_eq_false hevent]
  exact List.append_nil _

theorem block_moves {authId : String} (α : Type) (clock : Clock) (checkerId : String)
    (approval : Approval) (decision : MintGuardDecision) : Approving authId
      (block clock authId checkerId approval decision : Service α) .checked := by
  have hstatus : (⟨.mintAuthorization, .update, authId⟩ : Query) ≠ publishQuery := by
    simp [publishQuery]
  unfold block
  refine Call.Obeys.query_bind (fun w a w' _ hw' => ?_) fun w e _ _ =>
    ⟨_, .read authId _ hstatus w, trivial⟩
  obtain ⟨_, -, -, -, rfl⟩ := Entity.updateTx_ok _ hw'
  refine ⟨.settled, .blocked hstatus, ?_⟩
  refine Approving.recordDecision_bind _ _ _ _ _ fun _ => ?_
  exact Approving.event_bind
    (show PlatformEvent.mintAuthorizationRejected ≠ PlatformEvent.mintAuthorizationApproved by decide)
    trivial

theorem issue_moves (clock : Clock) (auth : MintAuthorization) (approval : Approval)
    (checkerId reason : String) (capacity : Money) :
    Approving auth.id (issue clock auth approval checkerId reason capacity) .checked := by
  have hpost : (⟨.ledgerEntry, .create, auth.programId⟩ : Query) ≠ publishQuery := by
    simp [publishQuery]
  have hstatus : (⟨.mintAuthorization, .update, auth.id⟩ : Query) ≠ publishQuery := by
    simp [publishQuery]
  unfold issue
  refine Call.Obeys.lift_bind (fun _ _ => trivial) fun expiresIso _ => ?_
  refine Call.Obeys.lift_bind (fun _ _ => trivial) fun expiresAt _ => ?_
  refine Call.Obeys.lift_bind (fun _ _ => trivial) fun entry hentry => ?_
  have he : IsReservation auth entry := isMintEntry_of_build hentry
  refine Call.Obeys.query_bind (fun w a w' _ hw' => ?_) fun w e _ _ =>
    ⟨_, .read _ _ (by rw [he.programId]; exact hpost) w, trivial⟩
  obtain ⟨-, rfl⟩ := post_ok hw'
  refine ⟨.posted, .posted rfl he.source, ?_⟩
  refine Call.Obeys.query_bind (fun w a w' _ hw' => ?_) fun w e _ _ =>
    ⟨_, .read _ _ hstatus w, trivial⟩
  obtain ⟨_, ha, -, -, rfl⟩ := Entity.updateTx_ok _ hw'
  refine ⟨.issued, .issued hstatus ha, ?_⟩
  refine Approving.recordDecision_bind _ _ _ _ _ fun _ => ?_
  refine Approving.record_bind _ ?_
  unfold EventsService.publishWithArtifact outboxCreate
  refine Call.Obeys.query_bind (fun w a w' _ hw' => ?_) fun w e _ hw' => ?_
  · cases hw'
    exact ⟨.settled, .published rfl, trivial⟩
  · cases hw'

/-- **The steps of one call.** -/
theorem attempt_moves (clock : Clock) (authId checkerId reason : String) :
    Approving authId (approve clock authId checkerId reason) .started := by
  have hread : (⟨.mintAuthorization, .findUnique, authId⟩ : Query) ≠ publishQuery := by
    simp [publishQuery]
  unfold approve requireAuthWithApproval
  rw [bind_assoc]
  refine Call.Obeys.read_bind fun w _ => ?_
  cases hauth : w.mintAuthorizations.find? authId with
  | none => exact ⟨_, .read _ _ hread w, trivial⟩
  | some auth =>
    obtain rfl := Lib.Table.key_of_find? hauth
    simp only [Option.map_some, orThrow]
    by_cases hstatus : auth.status = .pendingChecker
    swap
    · refine ⟨_, .read _ _ hread w, ?_⟩
      exact Call.Obeys.throwIf_bind (fun _ => trivial) fun h => (h hstatus).elim
    refine ⟨.checked, .checked hread hauth hstatus, ?_⟩
    refine Call.Obeys.throwIf_bind (fun _ => trivial) fun _ => ?_
    refine Call.Obeys.lift_bind (fun _ _ => trivial) fun approval _ => ?_
    refine consulting_read (by simp [publishQuery, Prisma.user]) fun checker => ?_
    refine Call.Obeys.lift_bind (fun _ _ => trivial) fun _ _ => ?_
    refine (gatherGuardFacts_consults auth.id clock auth.id true .checked).bind ?_ fun _ _ _ => trivial
    rintro φ facts rfl
    refine Call.Obeys.lift_bind (fun _ _ => trivial) fun decision _ => ?_
    split_ifs
    · exact issue_moves clock auth approval checkerId reason decision.capacity
    · exact block_moves ApprovedMint clock checkerId approval decision

/-! ## What holds in every phase -/

/-- What the database says about the authorization while a call is in a phase. -/
def PhaseState (authId : String) : IssuePhase → World → Prop
  | .started, w | .settled, w => Unissued w authId ∨ IssuedOnce w authId
  | .checked, w => Unissued w authId
  | .posted, w => (reservations w authId).length = 1 ∧ announcements w authId = []
  | .issued, w => (reservations w authId).length = 1 ∧ announcements w authId = [] ∧
      IsIssued w authId

/-- The call has posted, and has not published. -/
def IssuePhase.interrupted : IssuePhase → Bool
  | .posted | .issued => true
  | _ => false

/-- **One step keeps what holds in its phase.** -/
theorem PhaseState.step {authId : String} {φ φ' : IssuePhase} {q : Query} {w w' : World}
    (h : ApproveMove authId φ q w w' φ') (hw : PhaseState authId φ w) : PhaseState authId φ' w' := by
  cases h with
  | other _ hledger hauth hartifacts =>
    have hreservations : reservations w' authId = reservations w authId := by
      rw [reservations, hledger, reservations]
    have hannouncements : announcements w' authId = announcements w authId := by
      rw [announcements, hartifacts, announcements]
    have hissued : IsIssued w' authId ↔ IsIssued w authId := by
      rw [IsIssued, hauth, IsIssued]
    have hunissued (hu : Unissued w authId) : Unissued w' authId :=
      ⟨hreservations ▸ hu.reservations, hannouncements ▸ hu.announcements,
        fun h => hu.status (hissued.mp h)⟩
    have honce (ho : IssuedOnce w authId) : IssuedOnce w' authId :=
      ⟨hreservations ▸ ho.reservations, hannouncements ▸ ho.announcements, hissued.mpr ho.status⟩
    cases φ with
    | started => exact hw.imp hunissued honce
    | settled => exact hw.imp hunissued honce
    | checked => exact hunissued hw
    | posted => exact ⟨hreservations ▸ hw.1, hannouncements ▸ hw.2⟩
    | issued => exact ⟨hreservations ▸ hw.1, hannouncements ▸ hw.2.1, hissued.mpr hw.2.2⟩
  | checked _ ha hstatus =>
    refine hw.resolve_right fun honce => ?_
    obtain ⟨a, hfound, hissued⟩ := honce.status
    rw [Option.mem_def, ha] at hfound
    cases hfound
    rw [hstatus] at hissued
    cases hissued
  | @posted _ _ e _ he =>
    refine ⟨?_, hw.announcements⟩
    show (List.filter _ (w.ledger ++ [e])).length = 1
    have hnone := hw.reservations
    unfold reservations at hnone
    rw [List.filter_append, hnone, List.nil_append]
    simp [he]
  | @issued _ _ a signature issuedAt expiresAt _ ha =>
    refine ⟨hw.1, hw.2, a.asIssued signature issuedAt expiresAt, ?_, rfl⟩
    simp [World.issueAuth, World.updateAuth, Lib.Table.find?_modify, ha]
  | @published _ auth expiresIso hauth =>
    refine .inr ⟨hw.1, ?_, hw.2.2⟩
    unfold announcements
    rw [artifacts_logged, List.filter_append]
    refine List.append_ne_nil_of_right_ne_nil _ ?_
    simp [approvedEvent_authorizationId, hauth]
    rfl
  | blocked =>
    refine .inl ⟨hw.reservations, hw.announcements, ?_⟩
    rintro ⟨a, ha, hissued⟩
    rw [Option.mem_def] at ha
    simp only [World.setAuthStatus, World.updateAuth, Lib.Table.find?_modify, if_true] at ha
    obtain ⟨b, -, rfl⟩ := Option.map_eq_some_iff.mp ha
    cases hissued

theorem PhaseState.length_le {authId : String} {φ : IssuePhase} {w : World}
    (h : PhaseState authId φ w) : (reservations w authId).length ≤ 1 := by
  have hagreed (h : Unissued w authId ∨ IssuedOnce w authId) :
      (reservations w authId).length ≤ 1 := by
    rcases h with hu | ho
    · simp [hu.reservations]
    · exact ho.reservations.le
  cases φ with
  | started => exact hagreed h
  | settled => exact hagreed h
  | checked => exact hagreed (.inl h)
  | posted => exact h.1.le
  | issued => exact h.1.le

theorem PhaseState.agreed {authId : String} {φ : IssuePhase} {w : World}
    (h : PhaseState authId φ w) (hφ : φ.interrupted = false) :
    Unissued w authId ∨ IssuedOnce w authId := by
  cases φ with
  | started => exact h
  | settled => exact h
  | checked => exact .inl h
  | posted => cases hφ
  | issued => cases hφ

/-! ## Attempts -/

section

variable {ι : Type} [DecidableEq ι]

/-- Any number of calls on one authorization. -/
def attempts (requests : ι → ApprovalRequest) (authId : String) (i : ι) : Service ApprovedMint :=
  approve (requests i).clock authId (requests i).checkerId (requests i).reason

abbrev AttemptPool (ι : Type) := Pool ι Query World ApiError ApprovedMint

/-- The call has taken a step. -/
def Begun (p : AttemptPool ι) (i : ι) : Prop := ∃ e ∈ p.history, e.1 = i

/-- The call has posted an entry and has not written its event. -/
def Interrupted (p : AttemptPool ι) (i : ι) : Prop :=
  (∃ e ∈ p.history, e.1 = i ∧ e.2.model = .ledgerEntry) ∧ (i, publishQuery) ∉ p.history

def NoneInterrupted (p : AttemptPool ι) : Prop := ∀ e ∈ p.history, ¬Interrupted p e.1

/-- The calls follow one another: once a later call has begun, a call has stopped for good. -/
def OneAfterAnother (p : AttemptPool ι) (i : ι) : Prop :=
  (∃ e ∈ p.history.head?, e.1 = i) ∨ ¬Begun p i

/-- The calls follow one another, and none begins after one that was interrupted. -/
def RetriesSettled (p : AttemptPool ι) (i : ι) : Prop :=
  (∃ e ∈ p.history.head?, e.1 = i) ∨ ¬Begun p i ∧ NoneInterrupted p

instance Begun.decidable (p : AttemptPool ι) (i : ι) : Decidable (Begun p i) :=
  inferInstanceAs (Decidable (∃ e ∈ p.history, e.1 = i))

instance Interrupted.decidable (p : AttemptPool ι) (i : ι) : Decidable (Interrupted p i) :=
  inferInstanceAs (Decidable (_ ∧ _))

instance NoneInterrupted.decidable (p : AttemptPool ι) : Decidable (NoneInterrupted p) :=
  inferInstanceAs (Decidable (∀ e ∈ p.history, ¬Interrupted p e.1))

instance OneAfterAnother.decidable (p : AttemptPool ι) (i : ι) : Decidable (OneAfterAnother p i) :=
  inferInstanceAs (Decidable (_ ∨ _))

instance RetriesSettled.decidable (p : AttemptPool ι) (i : ι) : Decidable (RetriesSettled p i) :=
  inferInstanceAs (Decidable (_ ∨ _))

/-- The database is in the phase of the last call, and the phases are those of the history. -/
structure AttemptInv (authId : String) (p : AttemptPool ι) (ph : ι → IssuePhase) : Prop where
  fresh : p.history = [] → Unissued p.state authId ∨ IssuedOnce p.state authId
  current : ∀ e ∈ p.history.head?, PhaseState authId (ph e.1) p.state
  started : ∀ i, ¬Begun p i → ph i = .started
  interrupted : ∀ i, (ph i).interrupted = true → Interrupted p i
  published : ∀ i, (i, publishQuery) ∈ p.history → ph i = .settled

omit [DecidableEq ι] in
/-- Between two calls, none of them interrupted, the database agrees. -/
theorem AttemptInv.agreed {authId : String} {p : AttemptPool ι} {ph : ι → IssuePhase}
    (h : AttemptInv authId p ph) (hnone : NoneInterrupted p) :
    Unissued p.state authId ∨ IssuedOnce p.state authId := by
  cases hhistory : p.history with
  | nil => exact h.fresh hhistory
  | cons e rest =>
    have hhead : e ∈ p.history.head? := by simp [hhistory]
    refine (h.current e hhead).agreed (Bool.eq_false_iff.mpr fun hinterrupted => ?_)
    exact hnone e (List.mem_of_mem_head? hhead) (h.interrupted e.1 hinterrupted)

/-- **One step of one call.** -/
theorem AttemptInv.step {authId : String} {p : AttemptPool ι} {ph : ι → IssuePhase}
    (h : AttemptInv authId p ph) {i : ι} (hi : RetriesSettled p i) {q : Query}
    {eff : World → World} {next : World → Service ApprovedMint}
    (hcall : p.calls i = .step q eff next) {φ' : IssuePhase}
    (hmove : ApproveMove authId (ph i) q p.state (eff p.state) φ') :
    AttemptInv authId (p.step i) (Function.update ph i φ') := by
  have hhistory := Pool.history_step hcall
  have hstate := Pool.state_step hcall
  -- The call goes on, or it begins where the database agrees.
  have hphase : PhaseState authId (ph i) p.state := by
    rcases hi with ⟨e, he, rfl⟩ | ⟨hnew, hnone⟩
    · exact h.current e he
    · rw [h.started i hnew]
      exact h.agreed hnone
  refine ⟨?_, ?_, ?_, ?_, ?_⟩
  · intro hnil
    rw [hhistory] at hnil
    cases hnil
  · intro e he
    rw [hhistory, List.head?_cons, Option.mem_some] at he
    subst he
    rw [hstate, Function.update_self]
    exact hphase.step hmove
  · intro j hj
    have hne : j ≠ i := by
      rintro rfl
      exact hj ⟨(j, q), by simp [hhistory], rfl⟩
    rw [Function.update_of_ne hne]
    refine h.started j fun ⟨e, he, hej⟩ => hj ⟨e, ?_, hej⟩
    rw [hhistory]
    exact List.mem_cons_of_mem _ he
  · intro j hj
    have hkept (hq : j = i → q ≠ publishQuery) (hbefore : Interrupted p j) :
        Interrupted (p.step i) j := by
      obtain ⟨⟨e, he, hej, hmodel⟩, hpublish⟩ := hbefore
      rw [Interrupted, hhistory]
      refine ⟨⟨e, List.mem_cons_of_mem _ he, hej, hmodel⟩, ?_⟩
      rintro (_ | ⟨_, hmem⟩)
      · exact hq rfl rfl
      · exact hpublish hmem
    by_cases hne : j = i
    swap
    · rw [Function.update_of_ne hne] at hj
      exact hkept (fun h => absurd h hne) (h.interrupted j hj)
    subst hne
    rw [Function.update_self] at hj
    generalize hφ : ph j = φ at hmove
    generalize p.state = w at hmove
    generalize eff w = w' at hmove
    cases hmove with
    | other hq => exact hkept (fun _ => hq) (h.interrupted j (hφ ▸ hj))
    | checked => cases hj
    | posted hq =>
      rw [Interrupted, hhistory]
      refine ⟨⟨(j, q), List.mem_cons_self, rfl, hq⟩, ?_⟩
      rintro (_ | ⟨_, hmem⟩)
      · cases hq
      · rw [h.published j hmem] at hφ
        cases hφ
    | issued hq => exact hkept (fun _ => hq) (h.interrupted j (hφ ▸ rfl))
    | published => cases hj
    | blocked => cases hj
  · intro j hj
    rw [hhistory] at hj
    by_cases hne : j = i
    swap
    · rw [Function.update_of_ne hne]
      refine h.published j ((List.mem_cons.mp hj).resolve_left fun heq => ?_)
      exact hne (congrArg Prod.fst heq)
    subst hne
    rw [Function.update_self]
    generalize hφ : ph j = φ at hmove
    generalize p.state = w at hmove
    generalize eff w = w' at hmove
    have hsettled (hq : q ≠ publishQuery) : φ = .settled := by
      refine hφ ▸ h.published j ((List.mem_cons.mp hj).resolve_left fun heq => ?_)
      exact hq (congrArg Prod.snd heq).symm
    cases hmove with
    | other hq => exact hsettled hq
    | checked hq => cases hsettled hq
    | posted hq => cases hsettled (by rintro rfl; cases hq)
    | issued hq => cases hsettled hq
    | published => rfl
    | blocked => rfl

omit [DecidableEq ι] in
theorem Unissued.attemptInv {requests : ι → ApprovalRequest} {w : World} {authId : String}
    (h : Unissued w authId) :
    AttemptInv authId (Pool.start w (attempts requests authId)) fun _ => .started where
  fresh _ := .inl h
  current e he := by cases he
  started _ _ := rfl
  interrupted _ hi := by cases hi
  published _ hi := by cases hi

/-- **Approval is atomic as long as no call stops between its post and its event.** -/
theorem approval_atomic {requests : ι → ApprovalRequest} {w : World} {authId : String}
    (hw : Unissued w authId) {schedule : List ι}
    (hschedule : Lib.Meets Pool.step RetriesSettled (Pool.start w (attempts requests authId))
      schedule) :
    let p := (Pool.start w (attempts requests authId)).exec schedule
    (reservations p.state authId).length ≤ 1 ∧
      (NoneInterrupted p → ApprovalAgreed p.state authId) := by
  have hobey : (Pool.start w (attempts requests authId)).Obey (fun _ => ApproveMove authId)
      (fun _ => True) (fun _ _ => True) fun _ => .started :=
    fun i => attempt_moves _ authId _ _
  obtain ⟨ph, hinv, -⟩ := Pool.inv_exec (fun _ _ _ => trivial)
    (fun p ph i q eff next φ' h _ hi hcall hmove _ => AttemptInv.step h hi hcall hmove)
    hw.attemptInv hobey hschedule
  refine ⟨?_, fun hnone => ?_⟩
  · cases hhistory : ((Pool.start w (attempts requests authId)).exec schedule).history with
    | nil =>
      have hstarted : PhaseState authId .started
        ((Pool.start w (attempts requests authId)).exec schedule).state := hinv.fresh hhistory
      exact hstarted.length_le
    | cons e rest => exact (hinv.current e (by simp [hhistory])).length_le
  · rcases hinv.agreed hnone with hu | ho
    · exact hu.agreed
    · exact ho.agreed

end

end

/-! ## Two schedules -/

attribute [local instance] Runtime.ascii

namespace Sample

/-- Bob approves, and approves again. -/
def retries : Bool → ApprovalRequest := fun _ => ⟨clock, "bob", "ok"⟩

/-- The first call runs to its end, and the second one too. -/
def retriedAfter : List Bool := List.replicate 25 false ++ List.replicate 25 true

/-- The first call stops after its post. -/
def retriedWithin : List Bool := List.replicate 21 false ++ List.replicate 25 true

theorem reviewed_pending : ∃ a ∈ (reviewed "50").mintAuthorizations.find? "M1",
    a.status = .pendingChecker := by
  decide +kernel

theorem reviewed_unissued : Unissued (reviewed "50") "M1" where
  reservations := by decide +kernel
  announcements := by decide +kernel
  status := by
    rintro ⟨a, ha, hissued⟩
    obtain ⟨b, hb, hpending⟩ := reviewed_pending
    cases Option.mem_unique ha hb
    rw [hpending] at hissued
    cases hissued

theorem retriedAfter_settled : Lib.Meets Pool.step RetriesSettled
    (Pool.start (reviewed "50") (attempts retries "M1")) retriedAfter := by
  decide +kernel

theorem retriedAfter_none : NoneInterrupted
    ((Pool.start (reviewed "50") (attempts retries "M1")).exec retriedAfter) := by
  decide +kernel

theorem retriedWithin_follow : Lib.Meets Pool.step OneAfterAnother
    (Pool.start (reviewed "50") (attempts retries "M1")) retriedWithin := by
  decide +kernel

theorem retriedWithin_twice : (reservations ((Pool.start (reviewed "50")
    (attempts retries "M1")).exec retriedWithin).state "M1").length = 2 := by
  decide +kernel

end Sample

/-- A retry after a call that ran to its end. -/
theorem approval_atomic_retried :
    (reservations ((Pool.start (Sample.reviewed "50") (attempts Sample.retries "M1")).exec
        Sample.retriedAfter).state "M1").length ≤ 1 ∧
      ApprovalAgreed ((Pool.start (Sample.reviewed "50") (attempts Sample.retries "M1")).exec
        Sample.retriedAfter).state "M1" :=
  have h := approval_atomic Sample.reviewed_unissued Sample.retriedAfter_settled
  ⟨h.1, h.2 Sample.retriedAfter_none⟩

/-- A call that stops after its post leaves `PENDING_CHECKER`, and the retry posts again. -/
theorem reserved_twice : ¬∀ [Runtime] (requests : Bool → ApprovalRequest) (w : World)
    (authId : String), (∃ a ∈ w.mintAuthorizations.find? authId, a.status = .pendingChecker) →
    Unissued w authId → ∀ schedule : List Bool,
    Lib.Meets Pool.step OneAfterAnother (Pool.start w (attempts requests authId)) schedule →
    (reservations ((Pool.start w (attempts requests authId)).exec schedule).state authId).length ≤ 1 ∧
      ApprovalAgreed ((Pool.start w (attempts requests authId)).exec schedule).state authId := by
  intro h
  have hbound := (h Sample.retries (Sample.reviewed "50") "M1" Sample.reviewed_pending
    Sample.reviewed_unissued Sample.retriedWithin Sample.retriedWithin_follow).1
  rw [Sample.retriedWithin_twice] at hbound
  omega

end TrusteeBank
