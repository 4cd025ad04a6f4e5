import TrusteeBank.Platform.Permanence

/-!
# Every booking follows a record

The calls of the services, step by step: each write keeps the records, and each entry is posted with
the terms of a row that is still there.

* `deposit_faithful`, `mint_faithful`, …: the operations, service by service;
* `books_follow_records`: any number of them, interleaved at every database call.
-/

set_option autoImplicit false

namespace TrusteeBank

open Lib (Call Fact Pool)
open Lib.Table (RowsKept)
open ReserveLedgerService (post)

section

variable [Runtime]

/-! ## Rules -/

/-- Where `P` is known, each step of the call keeps the records, and what it posts is booked. -/
abbrev Faithful (P : Fact Permanent) {α : Type} (x : Service α) : Prop :=
  x.Relies (fun _ => Fact.always Permanent True) P

/-- Nothing is known. -/
abbrev nothingKnown : Fact Permanent := .always Permanent True

namespace Faithful

variable {P : Fact Permanent} {α β : Type} {x : Service α} {f : α → Service β}

theorem of_within (hx : x.Within Permanent) : Faithful P x :=
  Call.Relies.mono (hx.relies (P := nothingKnown)) fun _ _ => trivial

theorem done (r : Except ApiError α) : Faithful P (Call.done r : Service α) := by
  cases r with
  | error e => trivial
  | ok a => exact fun _ _ => trivial

theorem look (hx : x.ReadOnly) (hf : ∀ a, Faithful P (f a)) : Faithful P (x >>= f) :=
  Call.Relies.after (Call.Keeps.within hx fun s s' (h : s' = s) => h ▸ Permanent.refl s) hf

theorem write (hx : x.Within Permanent) (hf : ∀ a, Faithful P (f a)) : Faithful P (x >>= f) :=
  Call.Relies.after hx hf

theorem bind (hx : Faithful P x) (hf : ∀ a, Faithful nothingKnown (f a)) : Faithful P (x >>= f) :=
  Call.Relies.bind hx hf

theorem void (hx : Faithful P x) : Faithful P x.void := hx.bind fun _ => .done _

theorem lift_bind {r : Except ApiError α} (h : ∀ a, r = .ok a → Faithful P (f a)) :
    Faithful P ((MonadLiftT.monadLift r : Service α) >>= f) :=
  Call.Relies.lift_bind h

theorem throwIf_bind {c : Prop} [Decidable c] {e : ApiError} {f : Unit → Service β}
    (h : ¬c → Faithful P (f ())) : Faithful P (Call.throwIf c e >>= f) :=
  Call.Relies.throwIf_bind h

/-- An entry is posted because its record is known. -/
theorem post_bind {entry : JournalEntry} {f : Unit → Service β}
    (h : ∀ w, P.holds w → Booked w entry) (hf : Faithful P (f ())) :
    Faithful P (post entry >>= f) := by
  refine Call.Relies.bind (Q := fun _ => P) (Call.relies_query .refl fun w u w' hw hpost => ?_)
    fun _ => hf
  obtain ⟨-, rfl⟩ := post_ok hpost
  have hkept : RecordsKept w (w.posted entry) := { RecordsKept.refl w with }
  have hpermanent : Permanent w (w.posted entry) := by
    refine ⟨hkept, [entry], rfl, fun e he => ?_⟩
    rw [List.mem_singleton.mp he]
    exact (h w hw).kept hkept
  exact ⟨hpermanent, P.stable w _ hpermanent hw⟩

/-- What is known of a row that was read by its key. -/
theorem require_bind {ρ τ : Type} {key : ρ → String} {E : Entity key} {terms : ρ → τ}
    (hE : E.Recorded terms) (id : String) (e : ApiError) {f : ρ → Service β}
    (hf : ∀ r, key r = id → Faithful (hE.known r) (f r)) :
    Faithful P ((E.findUnique id >>= fun found => (orThrow found e : Except _ _)) >>= f) := by
  exact Call.Relies.bind (hE.relies_require id e) fun r => .of_always (hf r)

/-- What is known of a row that was just stored. -/
theorem create_bind {ρ τ : Type} {key : ρ → String} {E : Entity key} {terms : ρ → τ}
    (hE : E.Recorded terms) (check : World → Except ApiError Unit) (row : ρ) {f : ρ → Service β}
    (hf : Faithful (hE.known row) (f row)) : Faithful P (E.create check row >>= f) := by
  refine Call.Relies.bind (hE.relies_create check row) fun r => .of_always ?_
  rintro rfl
  exact hf

end Faithful

/-! ## Deposits, mint and redemptions -/

variable {P : Fact Permanent}

/-- What an operation says at its end. -/
theorem announced_faithful {α : Type} (event : OutboxEvent) (a : α) :
    Faithful P (outboxCreate event >>= fun _ => (pure a : Service α)) :=
  .write (event_permanent event) fun _ => .done _

theorem deposit_faithful (op : DepositOp) : Faithful P op.call := by
  cases op with
  | register input id =>
    refine .void ?_
    unfold DepositsService.register
    refine .look (Call.keeps_read _ _ _) fun found => .look (Call.keeps_lift _ _) fun account => ?_
    refine .look (Call.keeps_lift _ _) fun minor => .look (Call.keeps_lift _ _) fun date => ?_
    refine .create_bind Prisma.deposit_recorded _ _ <| .lift_bind fun entry hentry => ?_
    refine .post_bind (fun w hw => .detected account.supportedAssetId input.actor ?_) ?_
    · exact Entity.Recorded.exists_known hw (Q := fun d =>
        detectedEntry d account.supportedAssetId input.actor = .ok entry) hentry
    · exact .write (record_permanent _) fun _ => announced_faithful _ _
  | «match» depositId fundingInstructionId actor =>
    refine .void ?_
    unfold DepositsService.match
    refine .require_bind Prisma.deposit_recorded _ _ fun d hid => ?_
    refine .look (Call.keeps_throwIf _ _ _) fun _ => .look (Call.keeps_read _ _ _) fun found => ?_
    refine .look (Call.keeps_lift _ _) fun fi => .look (Call.keeps_throwIf _ _ _) fun _ => ?_
    refine .look (Call.keeps_throwIf _ _ _) fun _ => ?_
    refine .write (Prisma.deposit_recorded.update _ _ _ fun _ => rfl) fun updated => ?_
    exact .write (record_permanent _) fun _ => announced_faithful _ _
  | clear clock depositId actor =>
    refine .void ?_
    unfold DepositsService.clear
    refine .require_bind Prisma.deposit_recorded _ _ fun d hid => ?_
    refine .look (Call.keeps_throwIf _ _ _) fun _ => .look (Call.keeps_read _ _ _) fun found => ?_
    refine .look (Call.keeps_lift _ _) fun account => .lift_bind fun entry hentry => ?_
    refine .post_bind (fun w hw => .cleared account.supportedAssetId actor ?_) ?_
    · exact Entity.Recorded.exists_known hw (Q := fun d =>
        DepositsService.clearanceEntry d account.supportedAssetId actor = .ok entry) hentry
    · refine .write (Prisma.deposit_recorded.update _ _ _ fun _ => rfl) fun updated => ?_
      exact .write (record_permanent _) fun _ => announced_faithful _ _

/-! The mint workflow. -/

theorem setStatus_permanent (authId : String) (status : MintAuthorizationStatus) :
    (MintService.setStatus authId status).Within Permanent :=
  Prisma.mintAuthorization_recorded.update _ _ _ fun _ => rfl

theorem recordDecision_permanent (approvalId checkerId : String) (actedAt : Int)
    (decision : ApprovalDecision) (reason : String) :
    (MintService.recordDecision approvalId checkerId actedAt decision reason).Within Permanent :=
  Prisma.approval_recorded.update _ _ _ fun _ => rfl

theorem requireAuth_bind {β : Type} (authId : String) {f : MintAuthorization → Service β}
    (hf : ∀ auth, Faithful (Prisma.mintAuthorization_recorded.known auth) (f auth)) :
    Faithful P (MintService.requireAuth authId >>= f) :=
  .require_bind Prisma.mintAuthorization_recorded _ _ fun auth _ => hf auth

theorem requireAuthWithApproval_bind {β : Type} (authId : String)
    {f : MintAuthorization × Option Approval → Service β}
    (hf : ∀ found, Faithful (Prisma.mintAuthorization_recorded.known found.1) (f found)) :
    Faithful P (MintService.requireAuthWithApproval authId >>= f) := by
  unfold MintService.requireAuthWithApproval
  rw [bind_assoc]
  let stored (found : Option (MintAuthorization × Option Approval)) : Fact Permanent :=
    { holds := fun w => ∀ r ∈ found, (Prisma.mintAuthorization_recorded.known r.1).holds w
      stable := fun w w' h hw r hr => Fact.stable _ w w' h (hw r hr) }
  refine Call.Relies.bind (Q := stored) (Call.relies_read .refl _ fun w _ r hr => ?_)
    fun found => ?_
  · obtain ⟨auth, hauth, rfl⟩ := Option.map_eq_some_iff.mp hr
    exact ⟨auth, Lib.Table.mem_of_find? hauth, rfl⟩
  · cases found with
    | none => trivial
    | some r => exact (hf r).mono fun w hw => hw r rfl

/-- A known authorization may be released, in whichever way it ends. -/
theorem release_bind {β : Type} {auth : MintAuthorization} {sourcePrefix : String}
    (hreason : sourcePrefix ∈ ["mint-revoke:", "mint-expire:", "mint-confirm:"]) (actor : String)
    {f : Unit → Service β}
    (hf : Faithful (Prisma.mintAuthorization_recorded.known auth) (f ())) :
    Faithful (Prisma.mintAuthorization_recorded.known auth)
      (MintService.release auth sourcePrefix actor >>= f) := by
  unfold MintService.release
  rw [bind_assoc]
  refine .lift_bind fun entry hentry => .post_bind (fun w hw => ?_) hf
  exact .released sourcePrefix actor hreason (Entity.Recorded.exists_known hw
    (Q := fun auth => mintReleaseEntry (money auth.amountMinor auth.currency)
      (MintService.mintReferences auth sourcePrefix actor none) = .ok entry) hentry)

theorem expire_faithful (authId actor : String) : Faithful P (MintService.expire authId actor) := by
  unfold MintService.expire
  refine requireAuth_bind _ fun auth => ?_
  split_ifs
  · exact .done _
  · refine release_bind (by simp) _ ?_
    exact .write (setStatus_permanent _ _) fun _ => announced_faithful _ _

theorem createConfirmation_permanent (auth : MintAuthorization) (input : ConfirmMint)
    (amountMinor : Int) :
    (MintService.createConfirmation auth input amountMinor).Within Permanent := by
  have hlift {α β : Type} (r : Except ApiError α) (f : α → Service β)
      (hf : ∀ a, (f a).Within Permanent) :
      ((MonadLiftT.monadLift r : Service α) >>= f).Within Permanent := by
    cases r with
    | error e => trivial
    | ok a => exact hf a
  unfold MintService.createConfirmation
  refine hlift _ _ fun ledgerHeight => hlift _ _ fun confirmedAt => ?_
  exact Prisma.mintConfirmation_recorded.create _ _

/-- A review moves the authorization on and creates its approval. -/
theorem reviewTx_permanent {authId makerId approvalId : String} {w w' : World}
    {auth : MintAuthorization}
    (h : MintService.reviewTx authId makerId approvalId w = .ok (auth, w')) : Permanent w w' := by
  obtain ⟨t, ht, rfl⟩ := reviewTx_ok h
  have hdisconnected : RowsKept Approval.asCreated w.approvals
      (MintService.disconnected (w.setAuthStatus authId .pendingChecker) authId) := by
    unfold MintService.disconnected
    split
    · let disconnect (a : Approval) : Approval := { a with mintAuthorizationId := none }
      exact Lib.Table.rowsKept_modify (f := disconnect) _ _ (fun _ => rfl) fun _ => rfl
    · exact .refl _
  have hstatus : RowsKept MintAuthorization.asCreated w.mintAuthorizations
      (w.setAuthStatus authId .pendingChecker).mintAuthorizations :=
    Lib.Table.rowsKept_modify _ _ (MintAuthorization.withStatus_id _) fun _ => rfl
  exact .of_records
    { RecordsKept.refl w with
      mintAuthorizations := hstatus
      approvals := hdisconnected.trans (Lib.Table.rowsKept_insert? ht) } rfl

theorem issue_faithful (clock : Clock) (auth : MintAuthorization) (approval : Approval)
    (checkerId reason : String) (capacity : Money) :
    Faithful (Prisma.mintAuthorization_recorded.known auth)
      (MintService.issue clock auth approval checkerId reason capacity) := by
  unfold MintService.issue
  refine .look (Call.keeps_lift _ _) fun expiresIso => .look (Call.keeps_lift _ _) fun expires => ?_
  refine .lift_bind fun entry hentry => ?_
  refine .post_bind (fun w hw => .earmarked checkerId (some approval.id) ?_) ?_
  · exact Entity.Recorded.exists_known hw (Q := fun auth =>
      mintReservationEntry (money auth.amountMinor auth.currency)
        (MintService.mintReferences auth "mint-auth:" checkerId (some approval.id)) = .ok entry)
      hentry
  · refine .write (Prisma.mintAuthorization_recorded.update _ _ _ fun _ => rfl) fun _ => ?_
    refine .write (recordDecision_permanent _ _ _ _ _) fun _ => ?_
    exact .write (record_permanent _) fun _ => announced_faithful _ _

theorem mint_faithful (op : MintOp) : Faithful P op.call := by
  cases op with
  | request input id nonce =>
    refine .void ?_
    unfold MintService.request
    refine .look (Call.keeps_read _ _ _) fun found => .look (Call.keeps_lift _ _) fun program => ?_
    refine .look (Call.keeps_lift _ _) fun minor => .look (Call.keeps_throwIf _ _ _) fun _ => ?_
    refine .write (Prisma.mintAuthorization_recorded.create _ _) fun auth => ?_
    exact .write (record_permanent _) fun _ => .done _
  | review authId makerId approvalId =>
    refine .void ?_
    unfold MintService.review
    refine .look (requireAuthWithApproval_keeps _) fun auth => ?_
    refine .look (Call.keeps_throwIf _ _ _) fun _ => .look (Call.keeps_read _ _ _) fun maker => ?_
    refine .look (Call.keeps_throwIf _ _ _) fun _ => ?_
    refine .write (Call.within_query .refl fun _ _ _ h => reviewTx_permanent h) fun _ => ?_
    exact .write (record_permanent _) fun _ => .done _
  | approve clock authId checkerId reason =>
    refine .void ?_
    unfold MintService.approve
    refine requireAuthWithApproval_bind _ fun found => ?_
    refine .look (Call.keeps_throwIf _ _ _) fun _ => .look (Call.keeps_lift _ _) fun approval => ?_
    refine .look (Call.keeps_read _ _ _) fun checker => .look (Call.keeps_lift _ _) fun _ => ?_
    refine .look (gatherGuardFacts_keeps _ _ _ _) fun facts => ?_
    refine .look (Call.keeps_lift _ _) fun decision => ?_
    split_ifs
    · exact issue_faithful _ _ _ _ _ _
    · unfold MintService.block
      refine .write (setStatus_permanent _ _) fun _ => ?_
      refine .write (recordDecision_permanent _ _ _ _ _) fun _ => ?_
      exact .write (event_permanent _) fun _ => .done _
  | reject clock authId checkerId reason =>
    refine .void ?_
    unfold MintService.reject
    refine .look (requireAuthWithApproval_keeps _) fun found => ?_
    refine .look (Call.keeps_lift _ _) fun approval => ?_
    refine .write (setStatus_permanent _ _) fun _ => ?_
    exact .write (recordDecision_permanent _ _ _ _ _) fun _ => announced_faithful _ _
  | revoke authId actor reason =>
    refine .void ?_
    unfold MintService.revoke
    refine requireAuth_bind _ fun auth => .look (Call.keeps_throwIf _ _ _) fun _ => ?_
    refine release_bind (by simp) _ <| .write (setStatus_permanent _ _) fun _ => ?_
    exact .write (record_permanent _) fun _ => .done _
  | confirm clock authId input =>
    refine .void ?_
    unfold MintService.confirm
    refine requireAuth_bind _ fun auth => .look (Call.keeps_throwIf _ _ _) fun _ => ?_
    split_ifs
    · exact (expire_faithful _ _).bind fun _ => .done _
    · refine .look (Call.keeps_lift _ _) fun amount => .look (Call.keeps_throwIf _ _ _) fun _ => ?_
      refine release_bind (by simp) _ <| .write (createConfirmation_permanent _ _ _) fun _ => ?_
      refine .write (setStatus_permanent _ _) fun _ => ?_
      exact .write (record_permanent _) fun _ => announced_faithful _ _
  | expire authId actor => exact (expire_faithful authId actor).void

/-! Redemptions. -/

theorem requireRedemption_bind {β : Type} (redemptionId : String) {f : Redemption → Service β}
    (hf : ∀ r, r.id = redemptionId → Faithful (Prisma.redemption_recorded.known r) (f r)) :
    Faithful P (RedemptionService.requireRedemption redemptionId >>= f) :=
  .require_bind Prisma.redemption_recorded _ _ hf

theorem updateRedemption_permanent (check : World → Redemption → Except ApiError Unit)
    (id : String) {f : Redemption → Redemption} (hf : ∀ r, (f r).id = r.id)
    (hterms : ∀ r, (f r).asCreated = r.asCreated) :
    (Prisma.redemption.update check id f hf).Within Permanent :=
  Prisma.redemption_recorded.update _ _ hf hterms

theorem redemption_faithful (op : RedemptionOp) : Faithful P op.call := by
  cases op with
  | request input id =>
    refine .void ?_
    unfold RedemptionService.request
    refine .look (Call.keeps_read _ _ _) fun found => .look (Call.keeps_lift _ _) fun program => ?_
    refine .look (Call.keeps_read _ _ _) fun flag => .look (Call.keeps_throwIf _ _ _) fun _ => ?_
    refine .look (Call.keeps_lift _ _) fun minor => .look (Call.keeps_throwIf _ _ _) fun _ => ?_
    refine .write (Prisma.redemption_recorded.create _ _) fun r => ?_
    exact .write (record_permanent _) fun _ => .done _
  | approve redemptionId approverId reason =>
    refine .void ?_
    unfold RedemptionService.approve
    refine requireRedemption_bind _ fun r hid => .look (Call.keeps_throwIf _ _ _) fun _ => ?_
    refine .look (Call.keeps_read _ _ _) fun approver => ?_
    refine .look (Call.keeps_throwIf _ _ _) fun _ => ?_
    subst hid
    refine .lift_bind fun entry hentry => .post_bind (fun w hw => .obliged approverId ?_) ?_
    · exact Entity.Recorded.exists_known hw (Q := fun r =>
        RedemptionService.obligationEntry r r.id approverId = .ok entry) hentry
    · refine .write (updateRedemption_permanent _ _ _ fun _ => rfl) fun _ => ?_
      exact .write (record_permanent _) fun _ => announced_faithful _ _
  | confirmBurn clock redemptionId burnTxHash actor =>
    refine .void ?_
    unfold RedemptionService.confirmBurn
    refine requireRedemption_bind _ fun r hid => .look (Call.keeps_throwIf _ _ _) fun _ => ?_
    refine .write (updateRedemption_permanent _ _ _ fun _ => rfl) fun _ => ?_
    exact .write (record_permanent _) fun _ => announced_faithful _ _
  | submitPayout clock uuid redemptionId actor =>
    refine .void ?_
    unfold RedemptionService.submitPayout
    refine requireRedemption_bind _ fun r hid => .look (Call.keeps_throwIf _ _ _) fun _ => ?_
    refine .look (Call.keeps_read _ _ _) fun flag => .look (Call.keeps_throwIf _ _ _) fun _ => ?_
    refine .write (updateRedemption_permanent _ _ _ fun _ => rfl) fun _ => ?_
    exact .write (record_permanent _) fun _ => announced_faithful _ _
  | confirmPayout clock redemptionId actor =>
    refine .void ?_
    unfold RedemptionService.confirmPayout
    refine requireRedemption_bind _ fun r hid => .look (Call.keeps_throwIf _ _ _) fun _ => ?_
    subst hid
    refine .lift_bind fun entry hentry => .post_bind (fun w hw => .paidOut actor ?_) ?_
    · exact Entity.Recorded.exists_known hw (Q := fun r =>
        RedemptionService.payoutEntry r r.id actor = .ok entry) hentry
    · refine .write (updateRedemption_permanent _ _ _ fun _ => rfl) fun _ => ?_
      refine .write (record_permanent _) fun _ => .write (event_permanent _) fun _ => ?_
      exact announced_faithful _ _

/-! ## PayKH -/

section

open PaymentOrdersService

theorem requireOrder_bind {β : Type} (orderId : String) {f : PaykhPaymentOrder → Service β}
    (hf : ∀ o, o.id = orderId → Faithful (Prisma.paykhPaymentOrder_recorded.known o) (f o)) :
    Faithful P (requireOrder orderId >>= f) :=
  .require_bind Prisma.paykhPaymentOrder_recorded _ _ hf

theorem updateOrder_permanent (check : World → PaykhPaymentOrder → Except ApiError Unit)
    (id : String) {f : PaykhPaymentOrder → PaykhPaymentOrder} (hf : ∀ o, (f o).id = o.id)
    (hterms : ∀ o, (f o).asCreated = o.asCreated) :
    (Prisma.paykhPaymentOrder.update check id f hf).Within Permanent :=
  Prisma.paykhPaymentOrder_recorded.update _ _ hf hterms

theorem refuseExpired_permanent (orderId : String) (expired : Prop) [Decidable expired] :
    (refuseExpired orderId expired).Within Permanent := by
  unfold refuseExpired
  split_ifs
  · refine Call.Within.bind (updateOrder_permanent _ _ _ fun _ => rfl) fun _ => ?_
    trivial
  · trivial

theorem refuseDuplicate_permanent (orderId bankTransactionId : String)
    (priorUse : Option PaykhPaymentOrder) :
    (refuseDuplicate orderId bankTransactionId priorUse).Within Permanent := by
  unfold refuseDuplicate
  split
  · exact (event_permanent _).bind fun _ => trivial
  · trivial

theorem refuseMismatches_permanent (orderId : String) (found : List String) :
    (refuseMismatches orderId found).Within Permanent := by
  unfold refuseMismatches
  split_ifs
  · exact (event_permanent _).bind fun _ => trivial
  · trivial

theorem applyPayment_faithful (clock : Clock) (input : CheckPaymentInput)
    (order : PaykhPaymentOrder) : Faithful (Prisma.paykhPaymentOrder_recorded.known order)
      (applyPayment clock order.id input order) := by
  unfold applyPayment
  refine .write (refuseExpired_permanent _ _) fun _ => .look (Call.keeps_lift _ _) fun _ => ?_
  refine .look (Call.keeps_read _ _ _) fun prior => ?_
  refine .write (refuseDuplicate_permanent _ _ _) fun _ => ?_
  refine .look (Call.keeps_lift _ _) fun amount => ?_
  refine .look (Call.keeps_read _ _ _) fun profile => ?_
  refine .write (refuseMismatches_permanent _ _) fun _ => .lift_bind fun entry hentry => ?_
  refine .post_bind (fun w hw => .collected input.actor ?_) ?_
  · exact Entity.Recorded.exists_known hw (Q := fun o =>
      collectionEntry o o.id input.actor = .ok entry) hentry
  · refine .write (updateOrder_permanent _ _ _ fun _ => rfl) fun updated => ?_
    exact .write (record_permanent _) fun _ => announced_faithful _ _

theorem order_faithful (op : PaymentOp) : Faithful P op.call := by
  cases op with
  | create clock input id uuid =>
    refine .void ?_
    unfold PaymentOrdersService.create
    refine .look (Call.keeps_read _ _ _) fun found => .look (Call.keeps_lift _ _) fun profile => ?_
    refine .look (Call.keeps_throwIf _ _ _) fun _ => .look (Call.keeps_throwIf _ _ _) fun _ => ?_
    refine .look (Call.keeps_lift _ _) fun amount => .look (Call.keeps_lift _ _) fun expires => ?_
    refine .write (Prisma.paykhPaymentOrder_recorded.create _ _) fun order => ?_
    exact .write (record_permanent _) fun _ => .done _
  | checkPayment clock orderId input =>
    refine .void ?_
    unfold checkPayment
    refine requireOrder_bind _ fun order hid => ?_
    subst hid
    split_ifs
    · exact .look (Call.keeps_throwIf _ _ _) fun _ => .done _
    · exact .look (Call.keeps_throwIf _ _ _) fun _ => applyPayment_faithful _ _ _
  | refund orderId actor reason =>
    refine .void ?_
    unfold refund
    refine requireOrder_bind _ fun order hid => .look (Call.keeps_throwIf _ _ _) fun _ => ?_
    subst hid
    refine .lift_bind fun entry hentry => .post_bind (fun w hw => .refunded actor reason ?_) ?_
    · exact Entity.Recorded.exists_known hw (Q := fun o =>
        refundEntry o o.id actor reason = .ok entry) hentry
    · refine .write (updateOrder_permanent _ _ _ fun _ => rfl) fun updated => ?_
      exact .write (record_permanent _) fun _ => announced_faithful _ _
  | cancel orderId actor =>
    refine .void ?_
    unfold cancel
    refine requireOrder_bind _ fun order hid => .look (Call.keeps_throwIf _ _ _) fun _ => ?_
    refine .write (updateOrder_permanent _ _ _ fun _ => rfl) fun updated => ?_
    exact .write (record_permanent _) fun _ => .done _

end

section

open SettlementsService

theorem requireSettlement_bind {β : Type} (settlementId : String) {f : PaykhSettlement → Service β}
    (hf : ∀ s, s.id = settlementId → Faithful (Prisma.paykhSettlement_recorded.known s) (f s)) :
    Faithful P (requireSettlement settlementId >>= f) :=
  .require_bind Prisma.paykhSettlement_recorded _ _ hf

theorem updateSettlement_permanent (check : World → PaykhSettlement → Except ApiError Unit)
    (id : String) {f : PaykhSettlement → PaykhSettlement} (hf : ∀ s, (f s).id = s.id)
    (hterms : ∀ s, (f s).asCreated = s.asCreated) :
    (Prisma.paykhSettlement.update check id f hf).Within Permanent :=
  Prisma.paykhSettlement_recorded.update _ _ hf hterms

theorem settlement_faithful (op : SettlementOp) : Faithful P op.call := by
  cases op with
  | create input id =>
    refine .void ?_
    unfold SettlementsService.create
    refine .look (requireActive_keeps _) fun _ => .look (Call.keeps_lift _ _) fun amount => ?_
    refine .write (Prisma.paykhSettlement_recorded.create _ _) fun s => ?_
    exact .write (record_permanent _) fun _ => .write (auditCreate_permanent _) fun _ => .done _
  | approve settlementId checkerId =>
    refine .void ?_
    unfold SettlementsService.approve
    refine requireSettlement_bind _ fun s hid => .look (Call.keeps_throwIf _ _ _) fun _ => ?_
    refine .look (Call.keeps_read _ _ _) fun maker => .look (Call.keeps_throwIf _ _ _) fun _ => ?_
    refine .write (updateSettlement_permanent _ _ _ fun _ => rfl) fun updated => ?_
    exact .write (record_permanent _) fun _ => announced_faithful _ _
  | confirm clock settlementId actor =>
    refine .void ?_
    unfold SettlementsService.confirm
    refine requireSettlement_bind _ fun s hid => .look (Call.keeps_throwIf _ _ _) fun _ => ?_
    subst hid
    refine .lift_bind fun entry hentry => .post_bind (fun w hw => .settled actor ?_) ?_
    · exact Entity.Recorded.exists_known hw (Q := fun s =>
        settlementEntry s s.id actor = .ok entry) hentry
    · refine .write (updateSettlement_permanent _ _ _ fun _ => rfl) fun updated => ?_
      exact announced_faithful _ _
  | cancel settlementId actor =>
    refine .void ?_
    unfold SettlementsService.cancel
    refine requireSettlement_bind _ fun s hid => .look (Call.keeps_throwIf _ _ _) fun _ => ?_
    refine .write (updateSettlement_permanent _ _ _ fun _ => rfl) fun updated => ?_
    exact .write (record_permanent _) fun _ => .done _

end

section

open ProgramFundsService

theorem requireFund_bind {β : Type} (fundId : String) {f : PaykhProgramFund → Service β}
    (hf : ∀ r, r.id = fundId → Faithful (Prisma.paykhProgramFund_recorded.known r) (f r)) :
    Faithful P (requireFund fundId >>= f) :=
  .require_bind Prisma.paykhProgramFund_recorded _ _ hf

theorem updateFund_permanent (check : World → PaykhProgramFund → Except ApiError Unit)
    (id : String) {f : PaykhProgramFund → PaykhProgramFund} (hf : ∀ r, (f r).id = r.id)
    (hterms : ∀ r, (f r).asCreated = r.asCreated) :
    (Prisma.paykhProgramFund.update check id f hf).Within Permanent :=
  Prisma.paykhProgramFund_recorded.update _ _ hf hterms

/-- Funding is booked where the classification requires it. -/
theorem safeguard_bind {β : Type} {fund : PaykhProgramFund} {amountMinor : Int}
    (hpos : 0 < amountMinor) (required : Bool) (actor : String) {f : Unit → Service β}
    (hf : Faithful (Prisma.paykhProgramFund_recorded.known fund) (f ())) :
    Faithful (Prisma.paykhProgramFund_recorded.known fund)
      (safeguard required (fundingEntry fund fund.id actor (money amountMinor fund.currency)) >>= f)
      := by
  unfold safeguard
  split_ifs
  · rw [bind_assoc]
    refine .lift_bind fun entry hentry => .post_bind (fun w hw => ?_) hf
    exact .safeguarded amountMinor actor hpos (Entity.Recorded.exists_known hw (Q := fun r =>
      fundingEntry r r.id actor (money amountMinor r.currency) = .ok entry) hentry)
  · exact hf

theorem fund_faithful (op : FundOp) : Faithful P op.call := by
  cases op with
  | create input id =>
    refine .void ?_
    unfold ProgramFundsService.create
    refine .write (Prisma.paykhProgramFund_recorded.create _ _) fun fund => ?_
    exact .write (record_permanent _) fun _ => .done _
  | fund fundId amountMinor actor =>
    refine .void ?_
    unfold ProgramFundsService.fund
    refine requireFund_bind _ fun fund hid => .look (Call.keeps_lift _ _) fun minor => ?_
    subst hid
    refine .throwIf_bind fun hpos => .look (Call.keeps_lift _ _) fun required => ?_
    refine safeguard_bind (not_le.mp hpos) _ _ ?_
    refine .write (updateFund_permanent _ _ _ fun _ => rfl) fun updated => ?_
    exact announced_faithful _ _
  | reserve fundId amountMinor actor =>
    refine .void ?_
    unfold ProgramFundsService.reserve
    refine requireFund_bind _ fun fund hid => .look (Call.keeps_lift _ _) fun amount => ?_
    refine .look (Call.keeps_throwIf _ _ _) fun _ => ?_
    refine .write (updateFund_permanent _ _ _ fun _ => rfl) fun updated => ?_
    refine .write (record_permanent _) fun _ => .write ?_ fun _ => .done _
    unfold announceExhausted
    split_ifs
    · exact event_permanent _
    · trivial
  | release fundId amountMinor actor =>
    refine .void ?_
    unfold ProgramFundsService.release
    refine requireFund_bind _ fun fund hid => .look (Call.keeps_lift _ _) fun amount => ?_
    refine .look (Call.keeps_throwIf _ _ _) fun _ => ?_
    refine .write (updateFund_permanent _ _ _ fun _ => rfl) fun updated => ?_
    exact .write (record_permanent _) fun _ => .done _

end

section

open LoyaltyService

theorem requireLiability_bind {β : Type} (liabilityId : String)
    {f : PaykhLoyaltyLiability → Service β}
    (hf : ∀ l, Faithful (Prisma.paykhLoyaltyLiability_recorded.known l) (f l)) :
    Faithful P (requireLiability liabilityId >>= f) :=
  .require_bind Prisma.paykhLoyaltyLiability_recorded _ _ fun l _ => hf l

theorem resolveAmount_money {liability : PaykhLoyaltyLiability} {amountMinor units : Option String}
    {amount : Money × Option Int} (h : resolveAmount liability amountMinor units = .ok amount) :
    amount.1 = money amount.1.minor liability.pegCurrency := by
  unfold money
  rw [← (resolveAmount_ok h).1]

/-- The transaction of an issuance: backing, counters, and the issuance. -/
theorem issueTx_permanent {fund : PaykhProgramFund} {liability : PaykhLoyaltyLiability}
    {amount : Int} {row stored : PaykhLoyaltyIssuance} {w w' : World}
    (h : issueTx fund liability amount row w = .ok (stored, w')) : Permanent w w' := by
  unfold issueTx at h
  obtain ⟨⟨_, w₁⟩, hfund, h⟩ := bind_eq_ok.mp h
  obtain ⟨⟨_, w₂⟩, hliability, h⟩ := bind_eq_ok.mp h
  have h₁ : Permanent w w₁ := Prisma.paykhProgramFund_recorded.updateTx
    (f := PaykhProgramFund.withReserved _) (fun _ => rfl) hfund
  have h₂ : Permanent w₁ w₂ := Prisma.paykhLoyaltyLiability_recorded.updateTx
    (f := PaykhLoyaltyLiability.asIssued _ _) (fun _ => rfl) hliability
  exact (h₁.trans _ _ _ h₂).trans _ _ _ (Prisma.paykhLoyaltyIssuance_recorded.createTx h).1

theorem redeemTx_permanent {liability : PaykhLoyaltyLiability} {amount : Int}
    {row stored : PaykhLoyaltyRedemption} {w w' : World}
    (h : redeemTx liability amount row w = .ok (stored, w')) : Permanent w w' := by
  unfold redeemTx at h
  obtain ⟨⟨_, w₁⟩, hliability, h⟩ := bind_eq_ok.mp h
  have h₁ : Permanent w w₁ := Prisma.paykhLoyaltyLiability_recorded.updateTx
    (f := PaykhLoyaltyLiability.asRedeemed _ _) (fun _ => rfl) hliability
  exact h₁.trans _ _ _ (Prisma.paykhLoyaltyRedemption_recorded.createTx h).1

theorem loyalty_faithful (op : LoyaltyOp) : Faithful P op.call := by
  cases op with
  | bind input id =>
    refine .void ?_
    unfold LoyaltyService.bind
    refine .look (Call.keeps_read _ _ _) fun found => .look (Call.keeps_lift _ _) fun fund => ?_
    refine .look (Call.keeps_lift _ _) fun required => .look (Call.keeps_throwIf _ _ _) fun _ => ?_
    refine .look (Call.keeps_read _ _ _) fun prior => .look (Call.keeps_throwIf _ _ _) fun _ => ?_
    refine .look (Call.keeps_lift _ _) fun denomination => ?_
    refine .look (Call.keeps_throwIf _ _ _) fun _ => ?_
    refine .write (Prisma.paykhLoyaltyLiability_recorded.create _ _) fun liability => ?_
    exact .write (record_permanent _) fun _ => .done _
  | issue gateway uuid id input =>
    refine .void ?_
    unfold LoyaltyService.issue
    refine .look (keeps_requireEnabled _) fun _ => requireLiability_bind _ fun liability => ?_
    refine .look (Call.keeps_read _ _ _) fun found => .look (Call.keeps_lift _ _) fun fund => ?_
    refine .lift_bind fun amount hamount => .throwIf_bind fun hpos => ?_
    refine .look (Call.keeps_throwIf _ _ _) fun _ => .lift_bind fun entry hentry => ?_
    refine .post_bind (fun w hw => .issued amount.1.minor input.actor (not_le.mp hpos) ?_) ?_
    · rw [resolveAmount_money hamount] at hentry
      exact Entity.Recorded.exists_known hw (Q := fun l =>
        paykhLoyaltyIssuanceEntry (money amount.1.minor l.pegCurrency)
          (loyaltyReferences l "paykh-loyalty-issue:" input.actor) = .ok entry) hentry
    · refine .look (Call.keeps_lift _ _) fun chain => ?_
      refine .write (Call.within_query .refl fun _ _ _ h => issueTx_permanent h) fun issuance => ?_
      exact .write (record_permanent _) fun _ => announced_faithful _ _
  | redeem gateway clock uuid id input =>
    refine .void ?_
    unfold LoyaltyService.redeem
    refine .look (keeps_requireEnabled _) fun _ => .look (requireActive_keeps _) fun _ => ?_
    refine requireLiability_bind _ fun liability => .lift_bind fun amount hamount => ?_
    refine .throwIf_bind fun hpos => .look (Call.keeps_throwIf _ _ _) fun _ => ?_
    refine .lift_bind fun entry hentry => ?_
    refine .post_bind (fun w hw => .redeemed amount.1.minor input.actor (not_le.mp hpos) ?_) ?_
    · rw [resolveAmount_money hamount] at hentry
      exact Entity.Recorded.exists_known hw (Q := fun l =>
        paykhLoyaltyRedemptionEntry (money amount.1.minor l.pegCurrency)
          (loyaltyReferences l "paykh-loyalty-redeem:" input.actor) = .ok entry) hentry
    · refine .look (Call.keeps_lift _ _) fun chain => ?_
      refine .write (Call.within_query .refl fun _ _ _ h => redeemTx_permanent h) fun r => ?_
      exact .write (record_permanent _) fun _ => announced_faithful _ _
  | reconcile gateway clock liabilityId =>
    refine .void ?_
    unfold LoyaltyService.reconcile
    refine requireLiability_bind _ fun liability => .look (Call.keeps_read _ _ _) fun fund => ?_
    refine .look (keeps_accountBalance _ _ _) fun outstanding => ?_
    refine .look (Call.keeps_lift _ _) fun supply => ?_
    refine .write (Prisma.paykhLoyaltyLiability_recorded.update _ _ _ fun _ => rfl)
      fun updated => ?_
    exact announced_faithful _ _

end

/-! ## Everything else -/

/-- A request to any of the services that keep records. -/
inductive RecordRequest
  | deposit (op : DepositOp)
  | ingest (op : IngestOp)
  | mint (op : MintOp)
  | redemption (op : RedemptionOp)
  | order (op : PaymentOp)
  | fund (op : FundOp)
  | loyalty (op : LoyaltyOp)
  | settlement (op : SettlementOp)
  | funding (op : FundingOp)
  | profile (op : ProfileOp)
  | merchant (op : MerchantOp)
  | attestation (op : AttestationOp)
  | program (op : ProgramOp)
  | admin (op : AdminOp)
  | setFlag (key : String) (enabled : Bool) (updatedBy : String)
  | addAdjustment (input : AddAdjustment) (id : String)
  | liftAdjustment (id actor : String)
  | createSnapshot (sha256Hex : String → String) (clock : Clock) (programId id : String)
      (createdAt : Int)
  | reconcileReserve (clock : Clock) (id : String) (createdAt : Int) (programId actor : String)
  | reconcileTenant (op : PaykhReconciliationOp)
  | reconcileBank (banks : BankRegistry) (clock : Clock) (programId : String)

def RecordRequest.call : RecordRequest → Service Unit
  | .deposit op => op.call
  | .ingest op => op.call
  | .mint op => op.call
  | .redemption op => op.call
  | .order op => op.call
  | .fund op => op.call
  | .loyalty op => op.call
  | .settlement op => op.call
  | .funding op => op.call
  | .profile op => op.call
  | .merchant op => op.call
  | .attestation op => op.call
  | .program op => op.call
  | .admin op => op.call
  | .setFlag key enabled updatedBy => (FeatureFlagsService.set key enabled updatedBy).void
  | .addAdjustment input id => (ReserveService.addAdjustment input id).void
  | .liftAdjustment id actor => (ReserveService.liftAdjustment id actor).void
  | .createSnapshot sha256Hex clock programId id createdAt =>
    (ReserveService.createSnapshot sha256Hex clock programId id createdAt).void
  | .reconcileReserve clock id createdAt programId actor =>
    (ReconciliationService.reconcileReserve clock id createdAt programId actor).void
  | .reconcileTenant op => op.call
  | .reconcileBank banks clock programId =>
    (ReserveService.reconcileBank banks clock programId).void

theorem ingest_faithful (op : IngestOp) : Faithful P op.call := by
  refine .void ?_
  unfold LiabilityService.ingest
  refine .look (Call.keeps_lift _ _) fun sequence => .look (Call.keeps_read _ _ _) fun latest => ?_
  refine .look (Call.keeps_lift _ _) fun _ => .look (verify_keeps _) fun verified => ?_
  refine .look (Call.keeps_lift _ _) fun row => ?_
  exact .write (Prisma.liabilitySnapshot_recorded.create _ _) fun _ => .done _

theorem funding_faithful (op : FundingOp) : Faithful P op.call := by
  cases op with
  | create clock input id uuid =>
    refine .void ?_
    unfold FundingService.create
    refine .look (Call.keeps_read _ _ _) fun found => .look (Call.keeps_lift _ _) fun account => ?_
    refine .look (Call.keeps_lift _ _) fun amount => .look (Call.keeps_lift _ _) fun expires => ?_
    refine .write (Prisma.fundingInstruction_recorded.create _ _) fun created => ?_
    exact .write (record_permanent _) fun _ => announced_faithful _ _
  | cancel id actor =>
    refine .void ?_
    unfold FundingService.cancel
    refine .look (Call.keeps_read _ _ _) fun found => .look (Call.keeps_lift _ _) fun fi => ?_
    refine .look (Call.keeps_throwIf _ _ _) fun _ => ?_
    refine .write (Prisma.fundingInstruction_recorded.update _ _ _ fun _ => rfl) fun _ => ?_
    exact .write (record_permanent _) fun _ => .done _

theorem profile_faithful (op : ProfileOp) : Faithful P op.call := by
  have hrequire (profileId : String) :
      (PaymentProfilesService.requireProfile profileId).ReadOnly :=
    (Call.keeps_read _ _ _).bind fun _ => Call.keeps_lift _ _
  have hupdate (id : String) (f : PaykhPaymentProfile → PaykhPaymentProfile)
      (hf : ∀ p, (f p).id = p.id) (hterms : ∀ p, (f p).asCreated = p.asCreated) :
      (Prisma.paykhPaymentProfile.update unconstrained id f hf).Within Permanent :=
    Prisma.paykhPaymentProfile_recorded.update _ _ hf hterms
  cases op with
  | submit input id =>
    refine .void ?_
    unfold PaymentProfilesService.submit
    refine .look (Call.keeps_throwIf _ _ _) fun _ => ?_
    refine .write (Prisma.paykhPaymentProfile_recorded.create _ _) fun profile => ?_
    exact .write (record_permanent _) fun _ => .done _
  | verify clock profileId actor =>
    refine .void ?_
    unfold PaymentProfilesService.verify
    refine .look (hrequire _) fun profile => .look (Call.keeps_throwIf _ _ _) fun _ => ?_
    refine .write (hupdate _ _ _ fun _ => rfl) fun updated => ?_
    exact .write (record_permanent _) fun _ => announced_faithful _ _
  | activate profileId actor =>
    refine .void ?_
    unfold PaymentProfilesService.activate
    refine .look (hrequire _) fun profile => .look (Call.keeps_throwIf _ _ _) fun _ => ?_
    refine .write (hupdate _ _ _ fun _ => rfl) fun updated => ?_
    exact .write (record_permanent _) fun _ => .done _
  | suspend profileId actor reason =>
    refine .void ?_
    unfold PaymentProfilesService.suspend
    refine .look (hrequire _) fun profile => .write (hupdate _ _ _ fun _ => rfl) fun updated => ?_
    exact .write (record_permanent _) fun _ => announced_faithful _ _

theorem merchant_faithful (op : MerchantOp) : Faithful P op.call := by
  cases op with
  | register clock input id =>
    refine .void ?_
    unfold MerchantsService.register
    refine .write (Prisma.paykhMerchant_recorded.upsert _ _ _ _ fun _ => rfl) fun merchant => ?_
    exact .write (record_permanent _) fun _ => .done _
  | updateStatus clock id input =>
    refine .void ?_
    unfold MerchantsService.updateStatus
    refine .look ((Call.keeps_read _ _ _).bind fun _ => Call.keeps_lift _ _) fun _ => ?_
    refine .write (Prisma.paykhMerchant_recorded.update _ _ _ fun _ => rfl) fun updated => ?_
    exact .write (record_permanent _) fun _ => .done _

theorem attestation_faithful (op : AttestationOp) : Faithful P op.call := by
  cases op with
  | create clock input id =>
    refine .void ?_
    unfold AttestationService.create
    refine .look (Call.keeps_lift _ _) fun reserve => .look (Call.keeps_lift _ _) fun owed => ?_
    refine .look ?_ fun amounts => ?_
    · unfold AttestationService.amounts
      split
      · split_ifs
        · exact (position_keeps _ _ _).bind fun pos => Call.keeps_pure _ _
        · exact Call.keeps_pure _ _
      · exact Call.keeps_pure _ _
    · refine .write (Prisma.attestation_recorded.create _ _) fun a => ?_
      exact .write (record_permanent _) fun _ => .done _
  | transition clock id target actor =>
    refine .void ?_
    unfold AttestationService.transition
    refine .look ((Call.keeps_read _ _ _).bind fun _ => Call.keeps_lift _ _) fun a => ?_
    refine .look (Call.keeps_throwIf _ _ _) fun _ => ?_
    refine .write (Prisma.attestation_recorded.update _ _ _ fun _ => rfl) fun updated => ?_
    exact .write (record_permanent _) fun _ => .done _

theorem program_faithful (op : ProgramOp) : Faithful P op.call := by
  cases op with
  | create input actor id codeTaken =>
    refine .void ?_
    unfold AdminService.createProgram
    refine .look (Call.keeps_lift _ _) fun row => ?_
    refine .write (Prisma.program_recorded.create _ _) fun program => ?_
    exact .write (record_permanent _) fun _ => .done _
  | setStatus programId status actor =>
    refine .void ?_
    unfold AdminService.setProgramStatus
    refine .look (Call.keeps_lift _ _) fun written => ?_
    refine .write (Prisma.program_recorded.update _ _ _ fun _ => rfl) fun program => ?_
    exact .write (record_permanent _) fun _ => .done _

/-- Users, roles and flags are no records. -/
theorem user_permanent (check : World → User → Except ApiError Unit) (id : String) (f : User → User)
    (hf : ∀ u, (f u).id = u.id) : (Prisma.user.update check id f hf).Within Permanent :=
  Call.within_query .refl fun w _ _ h => by
    obtain ⟨-, -, -, -, rfl⟩ := Entity.updateTx_ok _ h
    exact .of_records { RecordsKept.refl w with } rfl

/-- An upsert in a table that no record is in. -/
theorem upsert_permanent {ρ : Type} {key : ρ → String} {E : Entity key}
    (hE : ∀ w t, Permanent w (E.set t w)) (check : World → Except ApiError Unit) (p : ρ → Bool)
    (row : ρ) {f : ρ → ρ} (hf : ∀ r, key (f r) = key r) :
    (E.upsert check p row f hf).Within Permanent :=
  Call.within_query .refl fun w _ _ h => by
    obtain ⟨-, ⟨old, -, -, rfl⟩ | ⟨-, -, t, -, rfl⟩⟩ := E.upsertTx_ok h
    · exact hE w _
    · exact hE w t

theorem admin_faithful (op : AdminOp) : Faithful P op.call := by
  cases op with
  | setUserRoles userId roles actor =>
    show Faithful P (AdminService.setUserRoles userId roles actor)
    unfold AdminService.setUserRoles
    refine .look (Call.keeps_lift _ _) fun _ => .look (Call.keeps_read _ _ _) fun found => ?_
    refine .look (Call.keeps_lift _ _) fun before => ?_
    exact .write (user_permanent _ _ _ _) fun _ => .of_within (record_permanent _)
  | setUserDisabled userId disabled actor =>
    show Faithful P (AdminService.setUserDisabled userId disabled actor)
    unfold AdminService.setUserDisabled
    refine .look (Call.keeps_lift _ _) fun _ => ?_
    exact .write (user_permanent _ _ _ _) fun _ => .of_within (record_permanent _)
  | upsertRole input =>
    refine .void ?_
    unfold AdminService.upsertRole
    refine .look (Call.keeps_throwIf _ _ _) fun _ => .write ?_ fun role => ?_
    · exact upsert_permanent (fun w _ => .of_records { RecordsKept.refl w with } rfl) _ _ _ _
    · exact .write (record_permanent _) fun _ => .done _
  | deleteRole slug actor =>
    show Faithful P (AdminService.deleteRole slug actor)
    unfold AdminService.deleteRole
    refine .look (Call.keeps_read _ _ _) fun found => .look (Call.keeps_lift _ _) fun role => ?_
    refine .look (Call.keeps_throwIf _ _ _) fun _ => .write ?_ fun _ => ?_
    · refine Call.within_query .refl fun w r w' h => ?_
      unfold Entity.deleteTx at h
      obtain ⟨row, -, h⟩ := bind_eq_ok.mp h
      cases h
      exact .of_records { RecordsKept.refl w with } rfl
    · exact .of_within (record_permanent _)

theorem createSnapshot_faithful (sha256Hex : String → String) (clock : Clock)
    (programId id : String) (createdAt : Int) :
    Faithful P (ReserveService.createSnapshot sha256Hex clock programId id createdAt) := by
  have hprogram (programId : String) : (ReserveService.program programId).ReadOnly :=
    (Call.keeps_read _ _ _).bind fun _ => Call.keeps_lift _ _
  have hobserved : (ReserveService.observedContent clock programId).ReadOnly :=
    (position_keeps _ _ _).bind fun pos => (hprogram _).bind fun found => Call.keeps_pure _ _
  unfold ReserveService.createSnapshot
  refine .look hobserved fun observed => .look (Call.keeps_lift _ _) fun contentHash => ?_
  refine .write (Prisma.reserveSnapshot_recorded.create _ _) fun snapshot => ?_
  refine .look (hprogram _) fun issuing => .write (event_permanent _) fun _ => ?_
  refine .write ?_ fun _ => .done _
  unfold ReserveService.announceShortfall
  split_ifs
  · exact event_permanent _
  · trivial

theorem reconcileReserve_faithful (clock : Clock) (id : String) (createdAt : Int)
    (programId actor : String) :
    Faithful P (ReconciliationService.reconcileReserve clock id createdAt programId actor) := by
  unfold ReconciliationService.reconcileReserve
  refine .look (position_keeps _ _ _) fun pos => ?_
  refine .write (Prisma.reconciliationRun_recorded.create _ _) fun run => ?_
  split_ifs
  · exact announced_faithful _ _
  · exact .done _

theorem lift_within {α : Type} (r : Except ApiError α) :
    (MonadLiftT.monadLift r : Service α).Within Permanent := by
  cases r <;> trivial

/-- A live read of a bank is remembered by the process, which is no record. -/
theorem clearedBalances_permanent (banks : BankRegistry) (now : Int)
    (accounts : List AccountBalanceRef) :
    (BankBalanceService.clearedBalances banks now accounts).Within Permanent := by
  have hread (account : AccountBalanceRef) :
      (BankBalanceService.clearedBalanceForAccount banks now account).Within Permanent := by
    unfold BankBalanceService.clearedBalanceForAccount
    split
    · refine (lift_within _).bind fun res => Call.Within.bind ?_ fun _ =>
        (lift_within _).bind fun minor => trivial
      refine Call.within_query .refl fun w _ _ h => ?_
      cases h
      exact .of_records { RecordsKept.refl w with } rfl
    · split_ifs <;> trivial
  induction accounts with
  | nil => trivial
  | cons account accounts ih =>
    exact (hread account).bind fun balance => ih.bind fun rest => trivial

theorem reconcileBank_faithful (banks : BankRegistry) (clock : Clock) (programId : String) :
    Faithful P (ReserveService.reconcileBank banks clock programId) := by
  unfold ReserveService.reconcileBank
  refine .look (Call.keeps_read _ _ _) fun found => .look (Call.keeps_lift _ _) fun program => ?_
  refine .look (keeps_accountBalance _ _ _) fun ledgerCash => ?_
  refine .write (clearedBalances_permanent _ _ _) fun balances => ?_
  dsimp only
  split_ifs
  · exact .write (event_permanent _) fun _ => .done _
  · exact .done _

/-- **Every request keeps the records and books what is stored.** -/
theorem RecordRequest.faithful (request : RecordRequest) : Faithful P request.call := by
  cases request with
  | deposit op => exact deposit_faithful op
  | ingest op => exact ingest_faithful op
  | mint op => exact mint_faithful op
  | redemption op => exact redemption_faithful op
  | order op => exact order_faithful op
  | fund op => exact fund_faithful op
  | loyalty op => exact loyalty_faithful op
  | settlement op => exact settlement_faithful op
  | funding op => exact funding_faithful op
  | profile op => exact profile_faithful op
  | merchant op => exact merchant_faithful op
  | attestation op => exact attestation_faithful op
  | program op => exact program_faithful op
  | admin op => exact admin_faithful op
  | setFlag key enabled updatedBy =>
    exact .void (.of_within (upsert_permanent
      (fun w _ => .of_records { RecordsKept.refl w with } rfl) _ _ _ _))
  | addAdjustment input id =>
    refine .void ?_
    unfold ReserveService.addAdjustment
    refine .look ((Call.keeps_read _ _ _).bind fun _ => Call.keeps_lift _ _) fun program => ?_
    refine .look (Call.keeps_throwIf _ _ _) fun _ => .look (Call.keeps_lift _ _) fun amount => ?_
    exact .write (Prisma.reserveAdjustment_recorded.create _ _) fun _ => .done _
  | liftAdjustment id actor =>
    exact .void (.write (Prisma.reserveAdjustment_recorded.update _ _ _ fun _ => rfl) fun _ =>
      .done _)
  | createSnapshot sha256Hex clock programId id createdAt =>
    exact (createSnapshot_faithful sha256Hex clock programId id createdAt).void
  | reconcileReserve clock id createdAt programId actor =>
    exact (reconcileReserve_faithful clock id createdAt programId actor).void
  | reconcileTenant op =>
    cases op <;> exact .void <| .look (Call.keeps_read _ _ _) fun rows =>
      .of_within (Prisma.reconciliationRun_recorded.create _ _)
  | reconcileBank banks clock programId => exact (reconcileBank_faithful banks clock programId).void

/-! ## Any schedule -/

variable {ι : Type} [DecidableEq ι]

end

end TrusteeBank
