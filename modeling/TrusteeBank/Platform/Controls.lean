import TrusteeBank.Lib.Run
import TrusteeBank.Platform.Operations
import TrusteeBank.Redemption.Books

/-!
# Emergency controls

`AdminService.setControl` sets a control; the controls are rows that an operation would have to
consult. The mint guard consults `mint.global-suspend`. No other operation consults one.

**Theorem (`controls_effective`).** In every run in which no approval of a redemption and no
submission of a payout passes its own checks under its suspension, and no operation that writes a
row while the platform is read-only (`PlatformOp.Acts`), the controls are effective; against
`mint.global-suspend` no condition is needed. Without the condition they are not
(`approved_while_suspended`).
-/

set_option autoImplicit false

namespace TrusteeBank

open Lib (Call)
open MintService (hasExpired)
open ProgramFundsService (createdFund)

section

variable [Runtime]

/-! ## Setting a control -/

namespace AdminService

/-- Set an emergency control; the reason, the incident and who set it are kept in columns nothing
reads. The notification of the stakeholders touches no table. -/
def setControl (key : String) (value : Bool) (reason : String) (incidentRef : Option String)
    (actor : String) : Service PlatformControl := do
  let control ← Prisma.platformControl.upsert
    (fun _ => checkTexts (key :: reason :: actor :: incidentRef.toList)) (fun c => c.key = key)
    ⟨key, value⟩ (fun c => { c with value }) fun _ => rfl
  AuditService.record
    { actor
      action := "admin.control.set"
      subjectType := "PLATFORM_CONTROL"
      subjectId := some key
      reason := some reason
      afterState := some (.object [("value", .bool value)]) }
  return control

end AdminService

inductive ControlledOp
  | setControl (key : String) (value : Bool) (reason : String) (incidentRef : Option String)
    (actor : String)
  | platform (op : PlatformOp)

/-- Serve one operation alone, whether it succeeds or throws. -/
def ControlledOp.step (w : World) : ControlledOp → World
  | .setControl key value reason incidentRef actor =>
    ((AdminService.setControl key value reason incidentRef actor).run w).2
  | .platform op => op.step w

/-! ## What the controls promise -/

/-- A control is set. -/
def controlOn (w : World) (key : String) : Bool :=
  (w.platformControls.find? key).any PlatformControl.value

/-- The rows that a read-only platform keeps. -/
structure SameRows (w w' : World) : Prop where
  deposits : w'.deposits = w.deposits
  mintAuthorizations : w'.mintAuthorizations = w.mintAuthorizations
  mintConfirmations : w'.mintConfirmations = w.mintConfirmations
  redemptions : w'.redemptions = w.redemptions
  paykhPaymentOrders : w'.paykhPaymentOrders = w.paykhPaymentOrders
  paykhProgramFunds : w'.paykhProgramFunds = w.paykhProgramFunds
  paykhSettlements : w'.paykhSettlements = w.paykhSettlements

theorem SameRows.refl (w : World) : SameRows w w := ⟨rfl, rfl, rfl, rfl, rfl, rfl, rfl⟩

/-- No redemption has a status that it did not have before. -/
def NoneBecomes (status : RedemptionStatus) (w w' : World) : Prop :=
  ∀ r ∈ w'.redemptions.rows, r.status = status →
    ∃ before ∈ w.redemptions.find? r.id, before.status = status

/-- What an operation does is what the controls allow. -/
structure ControlsEffective (w : World) (op : ControlledOp) : Prop where
  mint : controlOn w "mint.global-suspend" = true →
    ∀ a ∈ (op.step w).mintAuthorizations.rows, a.status = .issued → ¬NotIssued w a.id
  redemption : controlOn w "redemption.global-suspend" = true →
    NoneBecomes .approved w (op.step w)
  payout : controlOn w "payout.global-suspend" = true →
    NoneBecomes .payoutSubmitted w (op.step w)
  readOnly : controlOn w "platform.read-only" = true → SameRows w (op.step w)

/-! ## The condition -/

/-- The operation passes the checks it makes on the rows it finds, and so may write one of these. -/
def PlatformOp.Acts (w : World) : PlatformOp → Prop
  | .deposit (.register input id) => ∃ row, input.Storable w id row
  | .deposit (.match depositId fundingInstructionId _) => ∃ d fi,
      w.deposits.find? depositId = some d ∧ (d.status = .detected ∨ d.status = .unmatched) ∧
        w.fundingInstructions.find? fundingInstructionId = some fi ∧ fi.currency = d.currency ∧
          fi.amountMinor = d.amountMinor
  | .deposit (.clear _ depositId _) => ∃ d, w.deposits.find? depositId = some d ∧
      d.status = .matched ∧ d.Bookable
  | .ingest _ => False
  | .mint (.request input _ _) => ∃ program, w.programs.find? input.programId = some program
  | .mint (.review authId _ _) => ∃ a, w.mintAuthorizations.find? authId = some a ∧
      a.status = .pendingMaker
  | .mint (.approve _ authId checkerId _) => ∃ a approval,
      w.mintAuthorizations.find? authId = some a ∧ a.status = .pendingChecker ∧
        approvalOf w authId = some approval ∧ approval.makerId ≠ checkerId
  | .mint (.reject _ authId checkerId _) => ∃ a approval,
      w.mintAuthorizations.find? authId = some a ∧ approvalOf w authId = some approval ∧
        approval.makerId ≠ checkerId
  | .mint (.revoke authId _ _) => ∃ a, w.mintAuthorizations.find? authId = some a ∧
      a.status = .issued
  | .mint (.confirm clock authId input) => ∃ a, w.mintAuthorizations.find? authId = some a ∧
      a.status = .issued ∧
        (hasExpired a (clock 0) = true ∨ bigInt input.amountMinor = .ok a.amountMinor)
  | .mint (.expire authId _) => ∃ a, w.mintAuthorizations.find? authId = some a ∧
      a.status = .issued
  | .redemption (.request input _) => ∃ program, w.programs.find? input.programId = some program
  | .redemption (.approve redemptionId _ _) => ∃ r, w.redemptions.find? redemptionId = some r ∧
      r.status = .awaitingApproval
  | .redemption (.confirmBurn _ redemptionId _ _) => ∃ r,
      w.redemptions.find? redemptionId = some r ∧ (r.status = .approved ∨ r.status = .assetLocked)
  | .redemption (.submitPayout _ _ redemptionId _) => ∃ r,
      w.redemptions.find? redemptionId = some r ∧ r.status = .burnConfirmed
  | .redemption (.confirmPayout _ redemptionId _) => ∃ r,
      w.redemptions.find? redemptionId = some r ∧ r.status = .payoutSubmitted
  | .order (.create clock input id uuid) => ∃ profile amountMinor expiresAt,
      Places w clock input id uuid profile amountMinor expiresAt
  | .order (.checkPayment _ orderId _) => ∃ o, w.paykhPaymentOrders.find? orderId = some o ∧ o.Awaits
  | .order (.refund orderId _ _) => ∃ o, w.paykhPaymentOrders.find? orderId = some o ∧
      o.status = .confirmed
  | .order (.cancel orderId _) => ∃ o, w.paykhPaymentOrders.find? orderId = some o ∧
      o.status ≠ .confirmed
  | .fund (.create input id) => ∃ t, w.paykhProgramFunds.insert? (createdFund input id) = some t
  | .fund (.fund fundId amountMinor _) => ∃ fund amount,
      w.paykhProgramFunds.find? fundId = some fund ∧ bigInt amountMinor = .ok amount ∧ 0 < amount ∧
        FitsInt8 (fund.fundedMinor + amount)
  | .fund (.reserve fundId amountMinor _) => ∃ fund amount,
      w.paykhProgramFunds.find? fundId = some fund ∧ bigInt amountMinor = .ok amount ∧
        amount ≤ fund.fundedMinor - fund.reservedMinor
  | .fund (.release fundId amountMinor _) => ∃ fund amount,
      w.paykhProgramFunds.find? fundId = some fund ∧ bigInt amountMinor = .ok amount ∧
        amount ≤ fund.reservedMinor
  | .loyalty (.issue _ _ _ input) => ∃ liability fund amount,
      IssueChecks w input liability fund amount ∧ IssueFits fund liability amount.minor
  | .loyalty _ => False
  | .settlement (.create input id) => ∃ amountMinor, Requests w input id amountMinor
  | .settlement (.approve settlementId checkerId) => ∃ s,
      w.paykhSettlements.find? settlementId = some s ∧ s.status = .requested ∧
        MadeByAnother w settlementId checkerId
  | .settlement (.confirm _ settlementId _) => ∃ s,
      w.paykhSettlements.find? settlementId = some s ∧
        (s.status = .approved ∨ s.status = .submitted)
  | .settlement (.cancel settlementId _) => ∃ s,
      w.paykhSettlements.find? settlementId = some s ∧ s.status ≠ .confirmed

/-- The controls that no code consults for an operation. -/
def PlatformOp.stops : PlatformOp → List String
  | .redemption (.approve ..) => ["platform.read-only", "redemption.global-suspend"]
  | .redemption (.submitPayout ..) => ["platform.read-only", "payout.global-suspend"]
  | _ => ["platform.read-only"]

/-- An operation that a control should stop fails a check of its own. -/
def ControlsHeeded (w : World) : ControlledOp → Prop
  | .setControl .. => True
  | .platform op => ∀ key ∈ op.stops, controlOn w key = true → ¬op.Acts w

/-! ## What writes -/

/-- An operation that writes one of the rows passed its checks. -/
def WritesOrKeeps (w : World) (op : PlatformOp) (w₁ : World) : Prop := op.Acts w ∨ SameRows w w₁

theorem MintEffect.writes {w w₁ : World} {op : MintOp} (h : MintEffect w op w₁) :
    WritesOrKeeps w (.mint op) w₁ := by
  cases h with
  | unchanged => exact .inr (.refl w)
  | requested hprogram => exact .inl ⟨_, hprogram⟩
  | reviewed hauth hstatus => exact .inl ⟨_, hauth, hstatus⟩
  | blocked hauth hstatus happroval hmaker =>
    exact .inl ⟨_, _, hauth, hstatus, happroval, hmaker⟩
  | issuedUndecided hissuable =>
    exact .inl ⟨_, _, hissuable.found, hissuable.status, hissuable.reviewed, hissuable.maker⟩
  | issued hissuable =>
    exact .inl ⟨_, _, hissuable.found, hissuable.status, hissuable.reviewed, hissuable.maker⟩
  | rejected hauth happroval hmaker => exact .inl ⟨_, _, hauth, happroval, hmaker⟩
  | rejectedUndecided hauth happroval hmaker => exact .inl ⟨_, _, hauth, happroval, hmaker⟩
  | revoked hauth hstatus => exact .inl ⟨_, hauth, hstatus⟩
  | expired hauth hstatus => exact .inl ⟨_, hauth, hstatus⟩
  | expiredAtConfirm hauth hstatus hexpired => exact .inl ⟨_, hauth, hstatus, .inl hexpired⟩
  | confirmed hauth hstatus _ hamount => exact .inl ⟨_, hauth, hstatus, .inr hamount⟩
  | unstored => exact .inr ⟨rfl, rfl, rfl, rfl, rfl, rfl, rfl⟩

theorem DepositEffect.writes {w w₁ : World} {op : DepositOp} (h : DepositEffect w op w₁) :
    WritesOrKeeps w (.deposit op) w₁ := by
  cases h with
  | unchanged => exact .inr (.refl w)
  | unbooked _ _ _ _ hrow => exact .inl ⟨_, hrow⟩
  | registered _ _ _ _ _ _ _ hrow => exact .inl ⟨_, hrow⟩
  | matched hdeposit hstatus hfi hcurrency hamount =>
    exact .inl ⟨_, _, hdeposit, hstatus, hfi, hcurrency, hamount⟩
  | cleared hdeposit hstatus he =>
    exact .inl ⟨_, hdeposit, hstatus, he.positive, he.upper_case⟩

theorem RedemptionEffect.writes {w w₁ : World} {op : RedemptionOp} (h : RedemptionEffect w op w₁) :
    WritesOrKeeps w (.redemption op) w₁ := by
  cases h with
  | requested hprogram => exact .inl ⟨_, hprogram⟩
  | approved hr hstatus => exact .inl ⟨_, hr, hstatus⟩
  | burnConfirmed hr hstatus => exact .inl ⟨_, hr, hstatus⟩
  | payoutSubmitted hr hstatus => exact .inl ⟨_, hr, hstatus⟩
  | completed hr hstatus => exact .inl ⟨_, hr, hstatus⟩

theorem PaymentEffect.writes {w w₁ : World} {op : PaymentOp} (h : PaymentEffect w op w₁) :
    WritesOrKeeps w (.order op) w₁ := by
  cases h with
  | unchanged => exact .inr (.refl w)
  | created hplaces => exact .inl ⟨_, _, _, hplaces⟩
  | expired ho hawaits => exact .inl ⟨_, ho, hawaits⟩
  | booked => exact .inr ⟨rfl, rfl, rfl, rfl, rfl, rfl, rfl⟩
  | confirmed ho hawaits => exact .inl ⟨_, ho, hawaits⟩
  | refunded ho hstatus => exact .inl ⟨_, ho, hstatus⟩
  | cancelled ho hstatus => exact .inl ⟨_, ho, hstatus⟩

theorem FundEffect.writes {w w₁ : World} {op : FundOp} (h : FundEffect w op w₁) :
    WritesOrKeeps w (.fund op) w₁ := by
  cases h with
  | unchanged => exact .inr (.refl w)
  | created ht => exact .inl ⟨_, ht⟩
  | overflowed => exact .inr ⟨rfl, rfl, rfl, rfl, rfl, rfl, rfl⟩
  | funded hfund hamount hpositive _ hfits =>
    exact .inl ⟨_, _, hfund, hamount, hpositive, hfits⟩
  | reserved hfund hamount havailable => exact .inl ⟨_, _, hfund, hamount, havailable⟩
  | released hfund hamount hreserved => exact .inl ⟨_, _, hfund, hamount, hreserved⟩

theorem LoyaltyEffect.writes {w w₁ : World} {op : LoyaltyOp} (h : LoyaltyEffect w op w₁) :
    WritesOrKeeps w (.loyalty op) w₁ := by
  cases h with
  | unchanged => exact .inr (.refl w)
  | issued hchecks _ hfits => exact .inl ⟨_, _, _, hchecks, hfits⟩
  | bound => exact .inr ⟨rfl, rfl, rfl, rfl, rfl, rfl, rfl⟩
  | issueBooked => exact .inr ⟨rfl, rfl, rfl, rfl, rfl, rfl, rfl⟩
  | redeemBooked => exact .inr ⟨rfl, rfl, rfl, rfl, rfl, rfl, rfl⟩
  | redeemed => exact .inr ⟨rfl, rfl, rfl, rfl, rfl, rfl, rfl⟩
  | reconciled => exact .inr ⟨rfl, rfl, rfl, rfl, rfl, rfl, rfl⟩

theorem SettlementEffect.writes {w w₁ : World} {op : SettlementOp} (h : SettlementEffect w op w₁) :
    WritesOrKeeps w (.settlement op) w₁ := by
  cases h with
  | created _ hrequests => exact .inl ⟨_, hrequests⟩
  | createdUnlogged _ hrequests => exact .inl ⟨_, hrequests⟩
  | approved hs hstatus hmaker => exact .inl ⟨_, hs, hstatus, hmaker⟩
  | confirmed hs hstatus => exact .inl ⟨_, hs, hstatus⟩
  | cancelled hs hstatus => exact .inl ⟨_, hs, hstatus⟩

/-- **What writes a row passed its checks.** -/
theorem PlatformEffect.writes {w w₁ : World} {op : PlatformOp} (h : PlatformEffect w op w₁) :
    WritesOrKeeps w op w₁ := by
  cases h with
  | unchanged => exact .inr (.refl w)
  | deposit h => exact h.writes
  | mint h => exact h.writes
  | redemption h => exact h.writes
  | order h => exact h.writes
  | fund h => exact h.writes
  | loyalty h => exact h.writes
  | settlement h => exact h.writes
  | ingest h =>
    cases h with
    | unchanged => exact .inr (.refl w)
    | ingested => exact .inr ⟨rfl, rfl, rfl, rfl, rfl, rfl, rfl⟩

/-! ## What becomes approved or submitted -/

/-- The status an operation writes. -/
def RedemptionOp.written : RedemptionOp → RedemptionStatus
  | .request .. => .awaitingApproval
  | .approve .. => .approved
  | .confirmBurn .. => .burnConfirmed
  | .submitPayout .. => .payoutSubmitted
  | .confirmPayout .. => .completed

theorem NoneBecomes.of_kept {status : RedemptionStatus} {w w₁ : World}
    (h : w₁.redemptions = w.redemptions) : NoneBecomes status w w₁ := by
  intro r hr hstatus
  rw [h] at hr
  exact ⟨r, Lib.Table.find?_key_of_mem hr, hstatus⟩

/-- Writing another status makes nothing take this one. -/
theorem NoneBecomes.updateRedemption {status : RedemptionStatus} (w : World) (redemptionId : String)
    {f : Redemption → Redemption} {hf : ∀ r, (f r).id = r.id} (h : ∀ r, (f r).status ≠ status) :
    NoneBecomes status w (w.updateRedemption redemptionId f hf) := by
  intro r hr hstatus
  change r ∈ (w.redemptions.modify redemptionId f hf).rows at hr
  rcases Lib.Table.mem_modify.mp hr with ⟨hr, -⟩ | ⟨a, -, rfl⟩
  · exact ⟨r, Lib.Table.find?_key_of_mem hr, hstatus⟩
  · exact absurd hstatus (h a)

/-- **A redemption takes a status by the operation that writes it.** -/
theorem RedemptionEffect.noneBecomes {w w₁ : World} {op : RedemptionOp}
    (h : RedemptionEffect w op w₁) {status : RedemptionStatus} (hstatus : op.written ≠ status) :
    NoneBecomes status w w₁ := by
  cases h with
  | requested _ _ ht =>
    intro r hr hrstatus
    rw [(Lib.Table.insert?_eq_some ht).1] at hr
    rcases List.mem_append.mp hr with hr | hr
    · exact ⟨r, Lib.Table.find?_key_of_mem hr, hrstatus⟩
    · obtain rfl := List.mem_singleton.mp hr
      exact absurd hrstatus hstatus
  | approved => exact .updateRedemption _ _ fun _ => hstatus
  | burnConfirmed => exact .updateRedemption _ _ fun _ => hstatus
  | payoutSubmitted => exact .updateRedemption _ _ fun _ => hstatus
  | completed => exact .updateRedemption _ _ fun _ => hstatus

/-- Under its control, no redemption takes a status. -/
theorem PlatformEffect.noneBecomes {w w₁ : World} {op : PlatformOp} (h : PlatformEffect w op w₁)
    {status : RedemptionStatus} {key : String}
    (hstops : ∀ op' : RedemptionOp, op'.written = status → key ∈ (PlatformOp.redemption op').stops)
    (hheeded : key ∈ op.stops → ¬op.Acts w) : NoneBecomes status w w₁ := by
  rcases h.writes with hwrites | hsame
  swap
  · exact .of_kept hsame.redemptions
  cases h with
  | redemption h =>
    exact h.noneBecomes fun hwritten => hheeded (hstops _ hwritten) hwrites
  | unchanged => exact .of_kept rfl
  | ingest h => cases h <;> exact .of_kept rfl
  | deposit h => cases h <;> exact .of_kept rfl
  | mint h => cases h <;> exact .of_kept rfl
  | order h => cases h <;> exact .of_kept rfl
  | fund h => cases h <;> exact .of_kept rfl
  | loyalty h => cases h <;> exact .of_kept rfl
  | settlement h => cases h <;> exact .of_kept rfl

theorem controlOn_eq_true {w : World} {key : String} :
    controlOn w key = true ↔ ∃ c, w.platformControls.find? key = some c ∧ c.value = true := by
  unfold controlOn
  cases w.platformControls.find? key <;> simp

/-- The guard sees `mint.global-suspend`, whatever the asset is. -/
theorem mintingSuspended_of_control {w : World}
    (hcontrol : controlOn w "mint.global-suspend" = true) (assetId : String) :
    mintingSuspended w assetId = true := by
  obtain ⟨c, hc, hvalue⟩ := controlOn_eq_true.mp hcontrol
  unfold mintingSuspended
  rw [List.find?_isSome]
  refine ⟨c, Lib.Table.mem_of_find? hc, ?_⟩
  rw [Lib.Table.key_of_find? hc, hvalue]
  simp

/-- **No mint is issued under `mint.global-suspend`.** -/
theorem MintOp.suspended {w : World} (hcontrol : controlOn w "mint.global-suspend" = true)
    (op : MintOp) : ∀ a ∈ (op.step w).mintAuthorizations.rows, a.status = .issued →
      ¬NotIssued w a.id := by
  intro a ha hissued hbefore
  obtain ⟨clock, checkerId, reason, auth, approval, e, signature, expiresAt, -, hissuable, -⟩ :=
    MintOp.newly_issued ha hissued hbefore
  have hunsuspended := hissuable.unsuspended
  rw [mintingSuspended_of_control hcontrol] at hunsuspended
  cases hunsuspended

theorem PlatformOp.suspended {w : World} (hcontrol : controlOn w "mint.global-suspend" = true)
    (op : PlatformOp) : ∀ a ∈ (op.step w).mintAuthorizations.rows, a.status = .issued →
      ¬NotIssued w a.id := by
  have hkept {w₁ : World} (h : w₁.mintAuthorizations = w.mintAuthorizations) :
      ∀ a ∈ w₁.mintAuthorizations.rows, a.status = .issued → ¬NotIssued w a.id := by
    intro a ha hissued hbefore
    rw [h] at ha
    exact hbefore a (Lib.Table.find?_key_of_mem ha) hissued
  obtain ⟨w₁, rows, events, h, hw⟩ := op.effect w
  cases h with
  | mint h => exact MintOp.suspended hcontrol _
  | unchanged => exact hw ▸ hkept rfl
  | ingest h => exact hw ▸ hkept (by cases h <;> rfl)
  | deposit h => exact hw ▸ hkept (by cases h <;> rfl)
  | redemption h => exact hw ▸ hkept (by cases h <;> rfl)
  | order h => exact hw ▸ hkept (by cases h <;> rfl)
  | fund h => exact hw ▸ hkept (by cases h <;> rfl)
  | loyalty h => exact hw ▸ hkept (by cases h <;> rfl)
  | settlement h => exact hw ▸ hkept (by cases h <;> rfl)

/-! ## Runs -/

/-- A view that looks at neither the controls nor the audit trail is kept when one is set. -/
theorem setControl_keeps {τ : Type} {g : World → τ}
    (hcontrols : ∀ t w, g (Prisma.platformControl.set t w) = g w)
    (hlogged : ∀ (w : World) (row : AuditLog), g (w.logged [row] []) = g w) (key : String)
    (value : Bool) (reason : String) (incidentRef : Option String) (actor : String) :
    (AdminService.setControl key value reason incidentRef actor).Keeps g :=
  (Entity.keeps_upsert _ hcontrols _ _ _ _ _).bind fun _ =>
    (keeps_record fun w => hlogged w _).bind fun _ => Call.keeps_pure _ _

/-- Setting a control touches no row. -/
theorem setControl_effective (w : World) (key : String) (value : Bool) (reason : String)
    (incidentRef : Option String) (actor : String) :
    ControlsEffective w (.setControl key value reason incidentRef actor) := by
  have hkept {τ : Type} (g : World → τ)
      (hcontrols : ∀ t w, g (Prisma.platformControl.set t w) = g w)
      (hlogged : ∀ (w : World) (row : AuditLog), g (w.logged [row] []) = g w) :
      g (ControlledOp.step w (.setControl key value reason incidentRef actor)) = g w :=
    (setControl_keeps hcontrols hlogged key value reason incidentRef actor).run w
  have hauths := hkept World.mintAuthorizations (fun _ _ => rfl) fun _ _ => rfl
  have hredemptions := hkept World.redemptions (fun _ _ => rfl) fun _ _ => rfl
  refine ⟨fun _ a ha hissued hbefore => ?_, fun _ => .of_kept hredemptions,
    fun _ => .of_kept hredemptions, fun _ => ?_⟩
  · rw [hauths] at ha
    exact hbefore a (Lib.Table.find?_key_of_mem ha) hissued
  · exact ⟨hkept _ (fun _ _ => rfl) fun _ _ => rfl, hauths, hkept _ (fun _ _ => rfl) fun _ _ => rfl,
      hredemptions, hkept _ (fun _ _ => rfl) fun _ _ => rfl,
      hkept _ (fun _ _ => rfl) fun _ _ => rfl, hkept _ (fun _ _ => rfl) fun _ _ => rfl⟩

/-- **One operation that heeds the controls.** -/
theorem ControlsHeeded.effective {w : World} {op : ControlledOp} (h : ControlsHeeded w op) :
    ControlsEffective w op := by
  cases op with
  | setControl key value reason incidentRef actor =>
    exact setControl_effective w key value reason incidentRef actor
  | platform op =>
    obtain ⟨w₁, rows, events, heffect, hw⟩ := op.effect w
    have hstep : ControlledOp.step w (.platform op) = w₁.logged rows events := hw
    refine ⟨fun hcontrol => PlatformOp.suspended hcontrol op, ?_, ?_, ?_⟩
    · intro hcontrol
      rw [hstep]
      refine heffect.noneBecomes ?_ fun hkey => h _ hkey hcontrol
      intro op' hwritten
      cases op' <;> cases hwritten
      exact List.mem_cons_of_mem _ (List.mem_singleton_self _)
    · intro hcontrol
      rw [hstep]
      refine heffect.noneBecomes ?_ fun hkey => h _ hkey hcontrol
      intro op' hwritten
      cases op' <;> cases hwritten
      exact List.mem_cons_of_mem _ (List.mem_singleton_self _)
    · intro hcontrol
      have hreadOnly : "platform.read-only" ∈ op.stops := by
        unfold PlatformOp.stops
        split <;> exact List.mem_cons_self
      rcases heffect.writes with hwrites | hsame
      · exact absurd hwrites (h _ hreadOnly hcontrol)
      · rw [hstep]
        exact ⟨hsame.deposits, hsame.mintAuthorizations, hsame.mintConfirmations, hsame.redemptions,
          hsame.paykhPaymentOrders, hsame.paykhProgramFunds, hsame.paykhSettlements⟩

/-- **The controls are effective in every run that heeds them where the code does not.** -/
theorem controls_effective {w : World} {ops : List ControlledOp}
    (hops : Lib.Meets ControlledOp.step ControlsHeeded w ops) :
    Lib.Meets ControlledOp.step ControlsEffective w ops :=
  hops.mono fun _ _ h => h.effective

end

/-! ## Two suspensions -/

attribute [local instance] Runtime.ascii

namespace Sample

/-- A control is set, and then something is attempted. -/
def under (key : String) (attempt : List PlatformOp) : List ControlledOp :=
  .setControl key true "incident" none "admin" :: attempt.map .platform

/-- A redemption of 10 is requested and approved. -/
def approvedRedemption : List PlatformOp :=
  (redeem.take 2).map .redemption

theorem suspendedMint_heeded : Lib.Meets ControlledOp.step ControlsHeeded world
    (under "mint.global-suspend" ((mint "M1" "50").map .mint)) := by
  -- No control but that of a read-only platform asks the mint workflow to stop here.
  have hheeded (w : World) (op : MintOp) (hopen : controlOn w "platform.read-only" = false) :
      ControlsHeeded w (.platform (.mint op)) := by
    intro key hkey hon
    obtain rfl := List.mem_singleton.mp hkey
    rw [hopen] at hon
    cases hon
  exact ⟨trivial, hheeded _ _ (by decide +kernel), hheeded _ _ (by decide +kernel),
    hheeded _ _ (by decide +kernel), trivial⟩

end Sample

/-- A mint is attempted while minting is suspended. -/
theorem controls_effective_mint : Lib.Meets ControlledOp.step ControlsEffective Sample.world
    (Sample.under "mint.global-suspend" ((Sample.mint "M1" "50").map .mint)) :=
  controls_effective Sample.suspendedMint_heeded

theorem approved_under_control :
    let before := ((Sample.under "redemption.global-suspend" Sample.approvedRedemption).take 2).foldl
      ControlledOp.step Sample.redeemable
    controlOn before "redemption.global-suspend" = true ∧
    (∃ r ∈ (ControlledOp.step before (.platform
        (.redemption (.approve "R1" "alice" "ok")))).redemptions.rows,
      r.id = "R1" ∧ r.status = .approved) ∧
    ∀ r ∈ before.redemptions.find? "R1", r.status ≠ .approved := by
  decide +kernel

/-- A redemption is approved while redemptions are suspended. -/
theorem approved_while_suspended : ¬∀ [Runtime] (w : World) (ops : List ControlledOp),
    Lib.Meets ControlledOp.step ControlsEffective w ops := by
  intro h
  obtain ⟨hcontrol, ⟨r, hr, hid, hstatus⟩, hbefore⟩ := approved_under_control
  have heffective := (h Sample.redeemable
    (Sample.under "redemption.global-suspend" Sample.approvedRedemption)).2.2.1
  obtain ⟨before, hfound, happroved⟩ := heffective.redemption hcontrol r hr hstatus
  rw [hid] at hfound
  exact hbefore before hfound happroved

end TrusteeBank
