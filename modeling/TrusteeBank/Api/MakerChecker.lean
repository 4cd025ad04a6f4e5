import TrusteeBank.Api.ClientSeparation
import TrusteeBank.Api.Frames
import TrusteeBank.Lib.Run

/-!
# Who is the maker, and who the checker

A mint authorization, a settlement and an attestation are taken through by two people: a maker
moves it on, a checker approves it. The services compare the maker they remember with the checker
they are given, and the controllers take both out of the request body. Nothing compares either with
the principal that sent the request, and nothing compares the one who approves an attestation with
the one who submitted it.

**Theorem (`maker_is_not_checker`).** In a run in which one principal sends all requests of the
three workflows that come from the trustee's side, nothing is taken through where each request
binds: a review or an approval of a mint, a submission or an approval of an attestation names its
sender, an attestation is approved by nobody who submitted it, and no settlement that was created
in the run is approved under another name than its maker's.

A settlement is created by PayKH, from its own namespace, and the trustee approves it. The name of
its maker is a text of PayKH's request, so no name that the trustee's principal gives tells it apart.

The invariant says what one principal can have done (`Held`): it has made every approval record and
has submitted every attestation that is under review.

* `Orderly.step`: an authorization awaits its maker without an approval;
* `MintHeld.mint`, `SettlementHeld.effect`, `AttestationHeld.effect`: the workflows one by one;
* `Held.step`: a request keeps all three;
* `one_person_suffices`: one operator reviews a mint, and approves it under another name.
-/

set_option autoImplicit false

namespace TrusteeBank

open Lib (Call)
open AttestationService (allowed createdRecord transitionRecord)
open ClientSeparationGuard (checkClient checkUser)
open MintService (disconnected pendingApproval)

section

variable [Runtime]

/-! ## Requests -/

/-- Who a principal authenticated as. -/
def Principal.identity : Principal → String
  | .user u => u.userId
  | .client c => c.oauthClientId

/-- What a request asks for: an operation of the platform, one on an attestation, or one of a
service none of whose steps touches the records of the workflows. -/
inductive ApiOp
  | platform (op : PlatformOp)
  | attestation (op : AttestationOp)
  | other (call : Service Unit) (keeps : call.Keeps workflowView)

def ApiOp.step (w : World) : ApiOp → World
  | .platform op => op.step w
  | .attestation op => op.step w
  | .other call _ => (call.run w).2

/-- The namespaces with a route to the operation. An expiry and a withdrawal have none. -/
def ApiOp.mounts : ApiOp → List Mount
  | .platform (.mint (.request ..)) | .platform (.mint (.confirm ..)) => [.paychain]
  | .platform (.mint (.expire ..)) => []
  | .platform (.mint _) => [.bank]
  | .platform (.redemption (.request ..)) | .platform (.redemption (.confirmBurn ..)) => [.paychain]
  | .platform (.redemption _) => [.bank]
  | .platform (.deposit _) => [.bank]
  | .platform (.ingest _) => [.paychain]
  | .platform (.settlement (.approve ..)) | .platform (.settlement (.confirm ..)) => [.paykh, .admin]
  | .platform (.settlement _) => [.paykh]
  | .platform (.loyalty (.reconcile ..)) => [.paykh, .bank]
  | .platform (.order _) | .platform (.fund _) | .platform (.loyalty _) => [.paykh]
  | .attestation (.transition _ _ .withdrawn _) => []
  | .attestation _ => [.bank]
  | .other .. => [.paychain, .paykh, .bank, .trustee, .admin]

/-- A request below a mount, and the principal it authenticated as. -/
structure ApiRequest where
  principal : Principal
  mount : Mount
  op : ApiOp

/-- What the guard asks of the principal for the namespace. -/
def ApiRequest.admitted (r : ApiRequest) : Except ApiError Unit :=
  match r.principal with
  | .user user => checkUser r.mount.platform user
  | .client client => checkClient r.mount.platform client

/-- The guard admits the request, and the router has a handler for it. -/
def ApiRequest.reaches (r : ApiRequest) : Bool :=
  r.admitted.isOk && decide (r.mount ∈ r.op.mounts)

def ApiRequest.step (w : World) (r : ApiRequest) : World := if r.reaches then r.op.step w else w

/-- The steps of the workflows that a maker or a checker takes. -/
def ApiOp.OfWorkflow : ApiOp → Prop
  | .platform (.mint (.review ..)) | .platform (.mint (.approve ..)) => True
  | .platform (.settlement (.create ..)) | .platform (.settlement (.approve ..)) => True
  | .attestation (.transition ..) => True
  | _ => False

/-- Who submitted an attestation does not approve it, as far as the audit trail says. -/
def NotSubmittedBy (w : World) (id actor : String) : Prop :=
  ∀ row ∈ submissionRows w, row.subjectId = some id → row.actor ≠ actor

/-- The request names this person as the maker or the checker. -/
def ApiOp.Names (w : World) (me : String) : ApiOp → Prop
  | .platform (.mint (.review _ makerId _)) => makerId = me
  | .platform (.mint (.approve _ _ checkerId _)) => checkerId = me
  | .attestation (.transition _ _ .underReview actor) => actor = me
  | .attestation (.transition _ id .approved actor) => actor = me ∧ NotSubmittedBy w id actor
  | _ => True

/-- The request approves a settlement that the first state has not, and passes the checks of the
service. -/
def ApiOp.ApprovesCreated (w₀ w : World) : ApiOp → Prop
  | .platform (.settlement (.approve settlementId checkerId)) =>
    (∀ s ∈ w₀.paykhSettlements.rows, s.id ≠ settlementId) ∧
      ∃ s, w.paykhSettlements.find? settlementId = some s ∧ s.status = .requested ∧
        MadeByAnother w settlementId checkerId ∧ FitsText checkerId
  | _ => False

/-- If the request reaches its handler, it names its sender, and approves no settlement of the run
under another name than its maker's. -/
def Binds (w₀ w : World) (r : ApiRequest) : Prop :=
  r.reaches = true → r.op.Names w r.principal.identity ∧ ¬r.op.ApprovesCreated w₀ w

/-! ## What one principal can have done -/

/-- The authorization is not issued, and this person made all its approvals. -/
structure MintHeld (me : String) (w : World) (id : String) : Prop where
  status : ∀ auth ∈ w.mintAuthorizations.rows, auth.id = id → auth.status ≠ .issued
  maker : ∀ a ∈ w.approvals.rows, a.mintAuthorizationId = some id → a.makerId = me

/-- The settlement is not approved. -/
def SettlementHeld (w : World) (id : String) : Prop :=
  ∀ s ∈ w.paykhSettlements.rows, s.id = id → s.status ≠ .approved

/-- The attestation is a draft, or withdrawn, or submitted by this person. A name the audit trail
cannot store is not in it, and no attestation is approved under it. -/
def AttestationHeld (me : String) (w : World) (id : String) : Prop :=
  ∀ a ∈ w.attestations.rows, a.id = id → a.status = "DRAFT" ∨ a.status = "WITHDRAWN" ∨
    a.status = "UNDER_REVIEW" ∧
      (FitsText me → ∃ row ∈ submissionRows w, row.subjectId = some id ∧ row.actor = me)

theorem MintHeld.congr {me id : String} {w w' : World} (h : MintHeld me w id)
    (hview : mintView w' = mintView w) : MintHeld me w' id := by
  simp only [mintView, Prod.mk.injEq] at hview
  exact ⟨hview.1 ▸ h.status, hview.2 ▸ h.maker⟩

theorem AttestationHeld.congr {me id : String} {w w' : World} (h : AttestationHeld me w id)
    (hview : attestationView w' = attestationView w) : AttestationHeld me w' id := by
  simp only [attestationView, Prod.mk.injEq] at hview
  unfold AttestationHeld
  rw [hview.1, hview.2]
  exact h

/-! ### The mint workflow -/

/-- Writing a status other than `ISSUED`. -/
theorem MintHeld.setStatus {me id : String} {w : World} (h : MintHeld me w id) {authId : String}
    {auth : MintAuthorization} (hauth : w.mintAuthorizations.find? authId = some auth)
    {status : MintAuthorizationStatus} (hstatus : status ≠ .issued) :
    MintHeld me (w.setAuthStatus authId status) id :=
  ⟨Lib.Table.forall_modify (MintAuthorization.withStatus_id status) h.status hauth
    fun _ => hstatus, h.maker⟩

/-- A decision does not change who made an approval. -/
theorem MintHeld.decide {me id : String} {w : World} (h : MintHeld me w id) {authId : String}
    {approval : Approval} (happroval : approvalOf w authId = some approval) (checkerId : String)
    (actedAt : Int) (decision : ApprovalDecision) (reason : String) :
    MintHeld me (w.decideApproval approval.id checkerId actedAt decision reason) id :=
  ⟨h.status, Lib.Table.forall_modify (Approval.decided_id checkerId actedAt decision reason) h.maker
    (find?_of_approvalOf happroval) (h.maker approval (List.mem_of_find?_eq_some happroval))⟩

/-- An approval that is found is one of the authorization's. -/
theorem mine_of_approvalOf {w : World} {authId : String} {approval : Approval}
    (h : approvalOf w authId = some approval) :
    approval ∈ w.approvals.rows ∧ approval.mintAuthorizationId = some authId :=
  ⟨List.mem_of_find?_eq_some h, by simpa using List.find?_some h⟩

/-- An approval that a review leaves with an authorization was there before. -/
theorem mem_disconnected {w : World} {authId id : String} {a : Approval}
    (ha : a ∈ (disconnected w authId).rows) (hid : a.mintAuthorizationId = some id) :
    a ∈ w.approvals.rows := by
  unfold disconnected at ha
  cases hold : approvalOf w authId with
  | none =>
    rw [hold] at ha
    exact ha
  | some old =>
    rw [hold] at ha
    rcases Lib.Table.mem_modify.mp ha with ⟨ha, -⟩ | ⟨b, -, rfl⟩
    · exact ha
    · cases hid

/-- A review adds an approval of its maker. -/
theorem MintHeld.review {me id : String} {w : World} (h : MintHeld me w id)
    {authId makerId approvalId : String} {auth : MintAuthorization} {t : Lib.Table Approval.id}
    (hauth : w.mintAuthorizations.find? authId = some auth) (hmaker : makerId = me)
    (ht : (disconnected (w.setAuthStatus authId .pendingChecker) authId).insert?
      (pendingApproval authId makerId approvalId) = some t) :
    MintHeld me { w.setAuthStatus authId .pendingChecker with approvals := t } id :=
  ⟨(h.setStatus hauth (by decide)).status,
    Lib.Table.forall_insert? (fun a ha hid => h.maker a (mem_disconnected ha hid) hid) ht
      fun _ => hmaker⟩

/-- An authorization is issued on an approval that another person made. -/
theorem MintHeld.issue {me id : String} {w : World} (h : MintHeld me w id) {authId : String}
    {auth : MintAuthorization} {approval : Approval} {e : JournalEntry} {signature : Signature}
    {issuedAt expiresAt : Int} (hauth : w.mintAuthorizations.find? authId = some auth)
    (happroval : approvalOf w authId = some approval) (hmaker : approval.makerId ≠ me) :
    MintHeld me ((w.posted e).issueAuth authId signature issuedAt expiresAt) id := by
  obtain ⟨hmem, hmine⟩ := mine_of_approvalOf happroval
  refine ⟨Lib.Table.forall_modify (MintAuthorization.asIssued_id signature issuedAt expiresAt)
    h.status hauth fun hid => ?_, h.maker⟩
  have hauthId : auth.id = authId := Lib.Table.key_of_find? hauth
  exact absurd (h.maker approval hmem (hmine.trans (congrArg some (hauthId.symm.trans hid)))) hmaker

theorem MintHeld.effect {me id : String} {w w₁ : World} (h : MintHeld me w id) {op : MintOp}
    (hnames : ApiOp.Names w me (.platform (.mint op))) (heffect : MintEffect w op w₁) :
    MintHeld me w₁ id := by
  cases heffect with
  | unchanged => exact h
  | requested hprogram hpos hfits ht =>
    exact ⟨Lib.Table.forall_insert? h.status ht fun _ => by simp [MintService.requestedRow], h.maker⟩
  | reviewed hauth hstatus ht => exact h.review hauth hnames ht
  | blocked hauth hstatus happroval hmaker =>
    exact (h.setStatus hauth (by decide)).decide happroval _ _ _ _
  | issuedUndecided hissuable =>
    exact h.issue hissuable.found hissuable.reviewed (hnames ▸ hissuable.maker)
  | issued hissuable =>
    exact (h.issue hissuable.found hissuable.reviewed (hnames ▸ hissuable.maker)).decide
      hissuable.reviewed _ _ _ _
  | rejected hauth happroval hmaker =>
    exact (h.setStatus hauth (by decide)).decide happroval _ _ _ _
  | rejectedUndecided hauth happroval hmaker => exact h.setStatus hauth (by decide)
  | @revoked authId actor reason auth e hauth hstatus he =>
    exact MintHeld.setStatus (w := w.posted e) ⟨h.status, h.maker⟩ hauth (by decide)
  | @expired authId actor auth e hauth hstatus he =>
    exact MintHeld.setStatus (w := w.posted e) ⟨h.status, h.maker⟩ hauth (by decide)
  | @expiredAtConfirm clock authId input auth e hauth hstatus hexpired he =>
    exact MintHeld.setStatus (w := w.posted e) ⟨h.status, h.maker⟩ hauth (by decide)
  | @confirmed clock authId input auth e ledgerHeight confirmedAt t hauth hstatus hexpired hamount
      he ht =>
    exact MintHeld.setStatus (w := { w.posted e with mintConfirmations := t })
      ⟨h.status, h.maker⟩ hauth (by decide)
  | unstored hauth hstatus hexpired hamount he herror => exact ⟨h.status, h.maker⟩

theorem MintHeld.mint {me id : String} {w : World} (h : MintHeld me w id) {op : MintOp}
    (hnames : ApiOp.Names w me (.platform (.mint op))) : MintHeld me (op.step w) id := by
  obtain ⟨w₁, rows, events, heffect, hstate⟩ := op.effect w
  rw [hstate]
  have hheld := h.effect hnames heffect
  exact ⟨hheld.status, hheld.maker⟩

/-! ### Settlements -/

/-- Writing a status other than `APPROVED`. -/
theorem SettlementHeld.update {w : World} {id : String} (h : SettlementHeld w id)
    {settlementId : String} {s : PaykhSettlement}
    (hs : w.paykhSettlements.find? settlementId = some s) {f : PaykhSettlement → PaykhSettlement}
    (hf : ∀ s, (f s).id = s.id) (hstatus : s.id = id → (f s).status ≠ .approved) :
    SettlementHeld (w.updateSettlement settlementId f hf) id :=
  Lib.Table.forall_modify hf h hs fun hid => hstatus ((hf s).symm.trans hid)

theorem SettlementHeld.effect {w₀ w w₁ : World} {id : String} (h : SettlementHeld w id)
    (hnone : ∀ s ∈ w₀.paykhSettlements.rows, s.id ≠ id) {op : SettlementOp}
    (hop : ¬ApiOp.ApprovesCreated w₀ w (.platform (.settlement op)))
    (heffect : SettlementEffect w op w₁) : SettlementHeld w₁ id := by
  cases heffect with
  | created ht =>
    exact Lib.Table.forall_insert? h ht fun _ => by simp [SettlementsService.createdSettlement]
  | createdUnlogged ht =>
    exact Lib.Table.forall_insert? h ht fun _ => by simp [SettlementsService.createdSettlement]
  | @approved settlementId checkerId s hs hstatus hmaker hchecker =>
    refine h.update hs (PaykhSettlement.asApproved_id checkerId) fun hid => ?_
    have hkey : s.id = settlementId := Lib.Table.key_of_find? hs
    exact absurd ⟨hid.symm.trans hkey ▸ hnone, s, hs, hstatus, hmaker, hchecker⟩ hop
  | @confirmed clock settlementId actor s e hs =>
    exact SettlementHeld.update (w := w.posted e) h hs (PaykhSettlement.asConfirmed_id (clock 0))
      fun _ => by simp [PaykhSettlement.asConfirmed]
  | cancelled hs =>
    exact h.update hs PaykhSettlement.asCancelled_id fun _ => by simp [PaykhSettlement.asCancelled]

theorem SettlementHeld.settlement {w₀ w : World} {id : String} (h : SettlementHeld w id)
    (hnone : ∀ s ∈ w₀.paykhSettlements.rows, s.id ≠ id) {op : SettlementOp}
    (hop : ¬ApiOp.ApprovesCreated w₀ w (.platform (.settlement op))) :
    SettlementHeld (op.step w) id := by
  unfold SettlementOp.step
  rcases (op.served w).state with hstate | ⟨w₁, rows, events, heffect, hstate⟩
  · rw [hstate]
    exact h
  · rw [hstate]
    have hheld := h.effect hnone hop heffect
    exact fun s hs => hheld s hs

/-! ### Attestations -/

/-- Rows that are appended only add to who submitted what. -/
theorem AttestationHeld.logged {me id : String} {w : World} (h : AttestationHeld me w id)
    (rows : List AuditLog) (events : List OutboxEvent) :
    AttestationHeld me (w.logged rows events) id := by
  intro a ha hid
  rcases h a ha hid with hdraft | hwithdrawn | ⟨hstatus, hsubmitted⟩
  · exact .inl hdraft
  · exact .inr (.inl hwithdrawn)
  · refine .inr (.inr ⟨hstatus, fun hfits => ?_⟩)
    obtain ⟨row, hrow, hsubmission⟩ := hsubmitted hfits
    rw [submissionRows_logged]
    exact ⟨row, List.mem_append_left _ hrow, hsubmission⟩

omit [Runtime] in
theorem status_of_approved {status : String} (h : AttestationTarget.approved ∈ allowed status) :
    status = "UNDER_REVIEW" := by
  unfold allowed at h
  split_ifs at h <;> simp_all

omit [Runtime] in
theorem status_of_published {status : String} (h : AttestationTarget.published ∈ allowed status) :
    status = "APPROVED" := by
  unfold allowed at h
  split_ifs at h <;> simp_all

/-- The row of a submission names who submitted. -/
theorem submission_logged {attestationId actor : String} (hactor : FitsText actor) (w : World) :
    ∃ row ∈ submissionRows
        (w.logged (transitionRecord attestationId .underReview actor).rows []),
      row.subjectId = some attestationId ∧ row.actor = actor := by
  have hfits : (transitionRecord attestationId .underReview actor).Fits :=
    AuditRecord.fits_iff.mpr ⟨hactor, by simp [transitionRecord]⟩
  refine ⟨(transitionRecord attestationId .underReview actor).row, ?_, rfl, rfl⟩
  rw [submissionRows_logged, AuditRecord.rows_of_fits hfits]
  exact List.mem_append_right _ (by simp [transitionRecord, AuditRecord.row, submissionAction,
    AttestationTarget.lowerName])

theorem AttestationHeld.effect {me id : String} {w w' : World} (h : AttestationHeld me w id)
    {op : AttestationOp} (hnames : ApiOp.Names w me (.attestation op))
    (heffect : AttestationEffect w op w') : AttestationHeld me w' id := by
  cases heffect with
  | unchanged => exact h
  | created ht =>
    refine AttestationHeld.logged (w := { w with attestations := _ }) ?_ _ _
    exact Lib.Table.forall_insert? h ht fun _ => .inl rfl
  | @transitioned clock attestationId target actor a ha hallowed hactor =>
    have hkey : a.id = attestationId := Lib.Table.key_of_find? ha
    have hheld (hid : a.id = id) := h a (Lib.Table.mem_of_find? ha) hid
    cases target with
    | withdrawn =>
      refine AttestationHeld.logged ?_ _ _
      exact Lib.Table.forall_modify (a.asTransitioned_id .withdrawn actor (clock 0)) h ha
        fun _ => .inr (.inl rfl)
    | underReview =>
      have hlogged := h.logged (transitionRecord attestationId .underReview actor).rows []
      refine Lib.Table.forall_modify (a.asTransitioned_id .underReview actor (clock 0)) hlogged ha
        fun hid => .inr (.inr ⟨rfl, fun hfits => ?_⟩)
      have hname : actor = me := hnames
      have hattestation : attestationId = id := hkey.symm.trans hid
      rw [← hname] at hfits ⊢
      rw [← hattestation]
      exact submission_logged hfits w
    | approved =>
      refine AttestationHeld.logged ?_ _ _
      refine Lib.Table.forall_modify (a.asTransitioned_id .approved actor (clock 0)) h ha
        fun hid => ?_
      obtain ⟨hname, hsubmitted⟩ := hnames
      have hstatus := status_of_approved hallowed
      rcases hheld hid with hdraft | hwithdrawn | ⟨-, hsubmission⟩
      · rw [hstatus] at hdraft
        simp at hdraft
      · rw [hstatus] at hwithdrawn
        simp at hwithdrawn
      · obtain ⟨row, hrow, hsubject, hown⟩ := hsubmission (hname ▸ hactor rfl)
        exact absurd (hown.trans hname.symm)
          (hsubmitted row hrow (hsubject.trans (congrArg some (hid.symm.trans hkey))))
    | published =>
      refine AttestationHeld.logged ?_ _ _
      refine Lib.Table.forall_modify (a.asTransitioned_id .published actor (clock 0)) h ha
        fun hid => ?_
      have hstatus := status_of_published hallowed
      rw [hstatus] at hheld
      simp at hheld
      exact absurd hid hheld

/-! ## Frames -/

/-- An operation outside the mint and settlement workflows touches no workflow's records. -/
theorem platform_keeps {w : World} {op : PlatformOp} (hmint : ∀ m, op ≠ .mint m)
    (hsettlement : ∀ s, op ≠ .settlement s) : workflowView (op.step w) = workflowView w := by
  cases op with
  | deposit op => exact (deposit_keeps op).run w
  | ingest op => exact (ingest_keeps op).run w
  | mint op => exact absurd rfl (hmint op)
  | redemption op => exact (redemption_keeps op).run w
  | order op => exact (order_keeps op).run w
  | fund op => exact (fund_keeps op).run w
  | loyalty op => exact (loyalty_keeps op).run w
  | settlement op => exact absurd rfl (hsettlement op)

/-- A step of an attestation touches no other workflow's records. -/
theorem attestation_frame (w : World) (op : AttestationOp) :
    mintView (op.step w) = mintView w ∧ (op.step w).paykhSettlements = w.paykhSettlements := by
  have heffect := op.effect w
  generalize op.step w = w' at heffect
  cases heffect with
  | unchanged => exact ⟨rfl, rfl⟩
  | created ht => exact ⟨rfl, rfl⟩
  | transitioned ha hallowed => exact ⟨rfl, rfl⟩

theorem mintView_step {w : World} {op : ApiOp} (h : ∀ m, op ≠ .platform (.mint m)) :
    mintView (op.step w) = mintView w := by
  cases op with
  | attestation op => exact (attestation_frame w op).1
  | other call keeps => exact congrArg Prod.fst (keeps.run w)
  | platform op =>
    by_cases hsettlement : ∃ s, op = .settlement s
    · obtain ⟨s, rfl⟩ := hsettlement
      exact congrArg Prod.fst ((settlement_keeps s).run w)
    · exact congrArg Prod.fst (platform_keeps (fun m hm => h m (congrArg _ hm))
        fun s hs => hsettlement ⟨s, hs⟩)

theorem settlements_step {w : World} {op : ApiOp} (h : ∀ s, op ≠ .platform (.settlement s)) :
    (op.step w).paykhSettlements = w.paykhSettlements := by
  cases op with
  | attestation op => exact (attestation_frame w op).2
  | other call keeps => exact congrArg (fun v => v.2.1) (keeps.run w)
  | platform op =>
    by_cases hmint : ∃ m, op = .mint m
    · obtain ⟨m, rfl⟩ := hmint
      exact congrArg Prod.fst ((mint_keeps m).run w)
    · exact congrArg (fun v => v.2.1) (platform_keeps (fun m hm => hmint ⟨m, hm⟩)
        fun s hs => h s (congrArg _ hs))

theorem attestationView_step {w : World} {op : ApiOp} (h : ∀ a, op ≠ .attestation a) :
    attestationView (op.step w) = attestationView w := by
  cases op with
  | attestation op => exact absurd rfl (h op)
  | other call keeps => exact congrArg (fun v => v.2.2) (keeps.run w)
  | platform op =>
    by_cases hmint : ∃ m, op = .mint m
    · obtain ⟨m, rfl⟩ := hmint
      exact congrArg Prod.snd ((mint_keeps m).run w)
    by_cases hsettlement : ∃ s, op = .settlement s
    · obtain ⟨s, rfl⟩ := hsettlement
      exact congrArg Prod.snd ((settlement_keeps s).run w)
    · exact congrArg (fun v => v.2.2) (platform_keeps (fun m hm => hmint ⟨m, hm⟩)
        fun s hs => hsettlement ⟨s, hs⟩)

/-! ## What has not begun -/

/-- The authorization is past its maker. -/
def Reviewed (w : World) (id : String) : Prop :=
  ∃ auth, w.mintAuthorizations.find? id = some auth ∧ auth.status ≠ .pendingMaker

/-- Approvals are of authorizations that are past their maker. -/
def Orderly (w : World) : Prop :=
  ∀ a ∈ w.approvals.rows, ∀ id, a.mintAuthorizationId = some id → Reviewed w id

theorem Reviewed.update {w : World} {id authId : String} {auth : MintAuthorization}
    (h : Reviewed w id) (hauth : w.mintAuthorizations.find? authId = some auth)
    {f : MintAuthorization → MintAuthorization} (hf : ∀ a, (f a).id = a.id)
    (hstatus : (f auth).status ≠ .pendingMaker) : Reviewed (w.updateAuth authId f hf) id := by
  by_cases hid : id = authId
  · subst hid
    exact ⟨f auth, find?_updateAuth hauth f hf, hstatus⟩
  · obtain ⟨old, hold, hreviewed⟩ := h
    have hfind := Lib.Table.find?_modify w.mintAuthorizations authId f hf id
    rw [if_neg hid, hold] at hfind
    exact ⟨old, hfind, hreviewed⟩

/-- Nothing takes an authorization back to its maker. -/
theorem MintEffect.stillReviewed {w w₁ : World} {op : MintOp} (heffect : MintEffect w op w₁)
    {id : String} (h : Reviewed w id) : Reviewed w₁ id := by
  have hset {authId : String} {auth : MintAuthorization}
      (hauth : w.mintAuthorizations.find? authId = some auth) {status : MintAuthorizationStatus}
      (hstatus : status ≠ .pendingMaker) : Reviewed (w.setAuthStatus authId status) id :=
    h.update hauth _ hstatus
  cases heffect with
  | unchanged => exact h
  | requested _ _ _ ht =>
    obtain ⟨auth, hauth, hreviewed⟩ := h
    exact ⟨auth, Lib.Table.find?_insert?_of_some ht hauth, hreviewed⟩
  | reviewed hauth => exact hset hauth (by decide)
  | blocked hauth => exact hset hauth (by decide)
  | @issuedUndecided clock _ _ _ _ _ _ signature expiresAt hissuable =>
    exact h.update hissuable.found (MintAuthorization.asIssued_id signature (clock 5) expiresAt)
      (by simp [MintAuthorization.asIssued])
  | @issued clock _ _ _ _ _ _ signature expiresAt hissuable =>
    exact h.update hissuable.found (MintAuthorization.asIssued_id signature (clock 5) expiresAt)
      (by simp [MintAuthorization.asIssued])
  | rejected hauth => exact hset hauth (by decide)
  | rejectedUndecided hauth => exact hset hauth (by decide)
  | revoked hauth => exact hset hauth (by decide)
  | expired hauth => exact hset hauth (by decide)
  | expiredAtConfirm hauth => exact hset hauth (by decide)
  | confirmed hauth => exact hset hauth (by decide)
  | unstored => exact h

theorem Orderly.effect {w w₁ : World} (h : Orderly w) {op : MintOp} (heffect : MintEffect w op w₁) :
    Orderly w₁ := by
  have hold : ∀ a ∈ w.approvals.rows, ∀ id, a.mintAuthorizationId = some id → Reviewed w₁ id :=
    fun a ha id hid => heffect.stillReviewed (h a ha id hid)
  have hdecided {authId : String} {approval : Approval}
      (happroval : approvalOf w authId = some approval) (checkerId : String) (actedAt : Int)
      (decision : ApprovalDecision) (reason : String) :
      ∀ a ∈ (w.decideApproval approval.id checkerId actedAt decision reason).approvals.rows,
        ∀ id, a.mintAuthorizationId = some id → Reviewed w₁ id :=
    Lib.Table.forall_modify (Approval.decided_id checkerId actedAt decision reason) hold
      (find?_of_approvalOf happroval) (hold approval (List.mem_of_find?_eq_some happroval))
  cases heffect with
  | reviewed hauth hstatus ht =>
    refine Lib.Table.forall_insert? (fun a ha id hid => hold a (mem_disconnected ha hid) id hid) ht ?_
    intro id hid
    cases hid
    exact ⟨_, find?_updateAuth hauth _ (MintAuthorization.withStatus_id .pendingChecker),
      by simp [MintAuthorization.withStatus]⟩
  | blocked _ _ happroval => exact hdecided happroval _ _ _ _
  | issued hissuable => exact hdecided hissuable.reviewed _ _ _ _
  | rejected _ happroval => exact hdecided happroval _ _ _ _
  | _ => exact hold

/-- **Every request keeps the records in order.** -/
theorem Orderly.step {w : World} (h : Orderly w) (op : ApiOp) : Orderly (op.step w) := by
  by_cases hmint : ∃ m, op = .platform (.mint m)
  · obtain ⟨m, rfl⟩ := hmint
    obtain ⟨w₁, rows, events, heffect, hstate⟩ := m.effect w
    show Orderly (m.step w)
    rw [hstate]
    have horderly := h.effect heffect
    exact fun a ha => horderly a ha
  · have hview := mintView_step (w := w) fun m hm => hmint ⟨m, hm⟩
    simp only [mintView, Prod.mk.injEq] at hview
    unfold Orderly Reviewed
    rw [hview.1, hview.2]
    exact h

theorem orderly_empty : Orderly World.empty := fun _ ha => absurd ha List.not_mem_nil

/-- What operations make of the empty platform is in order. -/
theorem orderly_run (ops : List ApiOp) : Orderly (ops.foldl ApiOp.step World.empty) :=
  Lib.inv_run (fun _ op h _ => h.step op) orderly_empty (Lib.Meets.of_forall (fun _ _ => trivial) _ _)

/-! ## Runs -/

/-- Between the two states nothing has gone through a workflow from its beginning. -/
structure NothingTakenThrough (w w' : World) : Prop where
  mint : ∀ id, (∀ auth ∈ w.mintAuthorizations.rows, auth.id = id → auth.status = .pendingMaker) →
    ∀ auth ∈ w'.mintAuthorizations.rows, auth.id = id → auth.status ≠ .issued
  settlement : ∀ id, (∀ s ∈ w.paykhSettlements.rows, s.id ≠ id) →
    ∀ s ∈ w'.paykhSettlements.rows, s.id = id → s.status ≠ .approved
  attestation : ∀ id, (∀ a ∈ w.attestations.rows, a.id = id → a.status = "DRAFT") →
    ∀ a ∈ w'.attestations.rows, a.id = id → a.status ≠ "APPROVED"

/-- What had not begun in the first state is held by this person. -/
structure Held (me : String) (w₀ w : World) : Prop where
  mint : ∀ id, (∀ auth ∈ w₀.mintAuthorizations.rows, auth.id = id → auth.status = .pendingMaker) →
    MintHeld me w id
  settlement : ∀ id, (∀ s ∈ w₀.paykhSettlements.rows, s.id ≠ id) → SettlementHeld w id
  attestation : ∀ id, (∀ a ∈ w₀.attestations.rows, a.id = id → a.status = "DRAFT") →
    AttestationHeld me w id

theorem Held.start {w : World} (hw : Orderly w) (me : String) : Held me w w where
  mint id hid := by
    refine ⟨fun auth hauth hkey => by simp [hid auth hauth hkey], fun a ha hmine => ?_⟩
    obtain ⟨auth, hauth, hreviewed⟩ := hw a ha id hmine
    exact absurd (hid auth (Lib.Table.mem_of_find? hauth) (Lib.Table.key_of_find? hauth)) hreviewed
  settlement id hid := fun s hs hkey => absurd hkey (hid s hs)
  attestation id hid := fun a ha hkey => .inl (hid a ha hkey)

theorem Held.nothing {me : String} {w₀ w : World} (h : Held me w₀ w) : NothingTakenThrough w₀ w where
  mint id hid := (h.mint id hid).status
  settlement id hid := h.settlement id hid
  attestation id hid := by
    intro a ha hkey
    rcases h.attestation id hid a ha hkey with hstatus | hstatus | ⟨hstatus, -⟩ <;> simp [hstatus]

/-- A request outside the workflows names nobody. -/
theorem ApiOp.names_of_not {op : ApiOp} (h : ¬op.OfWorkflow) (w : World) (me : String) :
    op.Names w me := by
  unfold ApiOp.OfWorkflow at h
  unfold ApiOp.Names
  split at h <;> first | exact absurd trivial h | skip
  next hreview happrove hcreate hsettle htransition =>
    split
    · exact absurd rfl (hreview _ _ _)
    · exact absurd rfl (happrove _ _ _ _)
    · exact absurd rfl (htransition _ _ _ _)
    · exact absurd rfl (htransition _ _ _ _)
    · trivial

/-- A request that names somebody is one of the trustee's, if it has a handler. -/
theorem ApiOp.names_of_client {op : ApiOp} {m : Mount} (hm : m ∈ op.mounts)
    (hplatform : m.platform ≠ "TRUSTEE_BANK") (w : World) (me : String) : op.Names w me := by
  have hbank : m ≠ .bank := fun h => hplatform (by rw [h]; rfl)
  unfold ApiOp.Names
  split
  · exact absurd (List.mem_singleton.mp hm) hbank
  · exact absurd (List.mem_singleton.mp hm) hbank
  · exact absurd (List.mem_singleton.mp hm) hbank
  · exact absurd (List.mem_singleton.mp hm) hbank
  · trivial

/-- **A request that names this person as maker or checker takes nothing through.** -/
theorem Held.step {me : String} {w₀ w : World} (h : Held me w₀ w) {op : ApiOp}
    (hnames : op.Names w me) (hcreated : ¬op.ApprovesCreated w₀ w) : Held me w₀ (op.step w) where
  mint id hid := by
    by_cases hmint : ∃ m, op = .platform (.mint m)
    · obtain ⟨m, rfl⟩ := hmint
      exact (h.mint id hid).mint hnames
    · exact (h.mint id hid).congr (mintView_step fun m hm => hmint ⟨m, hm⟩)
  settlement id hid := by
    by_cases hsettlement : ∃ s, op = .platform (.settlement s)
    · obtain ⟨s, rfl⟩ := hsettlement
      exact (h.settlement id hid).settlement hid hcreated
    · unfold SettlementHeld
      rw [settlements_step fun s hs => hsettlement ⟨s, hs⟩]
      exact h.settlement id hid
  attestation id hid := by
    by_cases hattestation : ∃ a, op = .attestation a
    · obtain ⟨a, rfl⟩ := hattestation
      exact (h.attestation id hid).effect hnames (a.effect w)
    · exact (h.attestation id hid).congr (attestationView_step fun a ha => hattestation ⟨a, ha⟩)

/-- A request of a run in which one principal sends the trustee's requests of the workflows. -/
theorem Held.request {p : Principal} {w₀ w : World} (h : Held p.identity w₀ w) {r : ApiRequest}
    (hone : r.mount.platform = "TRUSTEE_BANK" → r.op.OfWorkflow → r.principal = p)
    (hbinds : Binds w₀ w r) : Held p.identity w₀ (r.step w) := by
  unfold ApiRequest.step
  split_ifs with hreaches
  · obtain ⟨hsender, hcreated⟩ := hbinds hreaches
    refine h.step ?_ hcreated
    obtain ⟨-, hmount⟩ := Bool.and_eq_true_iff.mp hreaches
    by_cases hworkflow : r.op.OfWorkflow
    · by_cases hside : r.mount.platform = "TRUSTEE_BANK"
      · rw [← hone hside hworkflow]
        exact hsender
      · exact ApiOp.names_of_client (of_decide_eq_true hmount) hside w p.identity
    · exact ApiOp.names_of_not hworkflow w p.identity
  · exact h

/-- **No one person is maker and checker.** Where one principal sends all requests of the workflows
from the trustee's side and each request binds, nothing is taken through. -/
theorem maker_is_not_checker {w : World} (hw : Orderly w) {rs : List ApiRequest} {p : Principal}
    (hone : ∀ r ∈ rs, r.mount.platform = "TRUSTEE_BANK" → r.op.OfWorkflow → r.principal = p)
    (hbinds : Lib.Meets ApiRequest.step (Binds w) w rs) :
    ∀ w' ∈ Lib.history ApiRequest.step w rs, NothingTakenThrough w w' := by
  have hstep : ∀ w₁ r, Held p.identity w w₁ →
      (r.mount.platform = "TRUSTEE_BANK" → r.op.OfWorkflow → r.principal = p) ∧ Binds w w₁ r →
        Held p.identity w (r.step w₁) := fun w₁ r h hr => h.request hr.1 hr.2
  intro w' hw'
  exact (Lib.inv_history hstep (.start hw p.identity)
    ((Lib.Meets.of_mem hone w).and hbinds) w' hw').nothing

end

/-! ## One operator -/

namespace Sample

attribute [local instance] Runtime.ascii

def soleOperator : Principal :=
  .user ⟨"alice", "alice@bank", "TRUSTEE_BANK", ["operator"], false⟩

def paychainClient : Principal := .client ⟨"PAYCHAIN", "paychain-client", "PayChain"⟩

/-- PayChain asks for a mint of the whole reserve, and one operator reviews it and approves it under
these names. -/
def mintAs (maker checker : String) : List ApiRequest :=
  [⟨paychainClient, .paychain, .platform (.mint (.request (request "R-M1" "100") "M1" "N-M1"))⟩,
    ⟨soleOperator, .bank, .platform (.mint (.review "M1" maker "AP-M1"))⟩,
    ⟨soleOperator, .bank, .platform (.mint (.approve clock "M1" checker "ok"))⟩]

/-- All its requests on the trustee's side are the operator's. -/
theorem sole_mintAs (maker checker : String) : ∀ r ∈ mintAs maker checker,
    r.mount.platform = "TRUSTEE_BANK" → r.principal = soleOperator := by
  simp [mintAs, Mount.platform]

theorem orderly_world : Orderly world := fun _ ha => absurd ha List.not_mem_nil

end Sample

open Sample

section

attribute [local instance] Runtime.ascii

/-- Under her own name the operator gets no further than the review. -/
theorem maker_is_not_checker_mint :
    (∀ w' ∈ Lib.history ApiRequest.step Sample.world (mintAs "alice" "alice"),
      NothingTakenThrough Sample.world w') ∧
      (((mintAs "alice" "alice").foldl ApiRequest.step Sample.world).mintAuthorizations.find? "M1").map
        MintAuthorization.status = some .pendingChecker :=
  ⟨maker_is_not_checker orderly_world (fun r hr hside _ => sole_mintAs _ _ r hr hside)
    ⟨fun _ => ⟨trivial, id⟩, fun _ => ⟨rfl, id⟩, fun _ => ⟨rfl, id⟩, trivial⟩, by decide +kernel⟩

/-- Under another name as well she mints alone. -/
theorem one_person_suffices :
    ¬∀ [Runtime] (w : World) (rs : List ApiRequest) (p : Principal), Orderly w →
      (∀ r ∈ rs, r.mount.platform = "TRUSTEE_BANK" → r.principal = p) →
      ∀ w' ∈ Lib.history ApiRequest.step w rs, NothingTakenThrough w w' := by
  intro h
  have hthrough := h Sample.world (mintAs "alice" "bob") soleOperator orderly_world
    (sole_mintAs _ _) _ (Lib.last_mem_history _ _)
  have hall := hthrough.mint "M1" (by decide +kernel)
  exact absurd hall (by decide +kernel)

end

end TrusteeBank
