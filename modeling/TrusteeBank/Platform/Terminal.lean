import TrusteeBank.Lib.Run
import TrusteeBank.Platform.Operations
import TrusteeBank.Services.Mint

/-!
# Terminal statuses

A mint authorization that is consumed, expired, revoked or rejected, a payment order that is
refunded, expired or cancelled, a settlement that is confirmed or cancelled and a redemption that
is completed are at the end of their life. Every transition checks the status it starts from but
two: `MintService.reject` checks none, and `PaymentOrdersService.cancel` refuses a confirmed order
only.

* `mint_terminalKept`, `order_terminalKept`, `settlement_terminalKept`,
  `redemption_terminalKept`: no other transition changes a terminal status;
* `terminal_step_iff`: these two change one whenever they are let through;
* `terminal_run`: in a run without them, what is terminal stays as it is;
* `terminal_reopened`: a consumed authorization is rejected.
-/

set_option autoImplicit false

namespace TrusteeBank

open Lib (Call Meets)

section

variable [Runtime]

/-! ## What is terminal -/

def MintAuthorizationStatus.Terminal (s : MintAuthorizationStatus) : Prop :=
  s = .consumed ∨ s = .expired ∨ s = .revoked ∨ s = .rejected

def PaymentOrderStatus.Terminal (s : PaymentOrderStatus) : Prop :=
  s = .refunded ∨ s = .expired ∨ s = .cancelled

def SettlementStatus.Terminal (s : SettlementStatus) : Prop := s = .confirmed ∨ s = .cancelled

def RedemptionStatus.Terminal (s : RedemptionStatus) : Prop := s = .completed

/-- Every record in a terminal status is still there, with the same status. -/
structure TerminalKept (w w' : World) : Prop where
  authorizations : Lib.Table.StatusKept MintAuthorization.status MintAuthorizationStatus.Terminal
    w.mintAuthorizations w'.mintAuthorizations
  orders : Lib.Table.StatusKept PaykhPaymentOrder.status PaymentOrderStatus.Terminal
    w.paykhPaymentOrders w'.paykhPaymentOrders
  settlements : Lib.Table.StatusKept PaykhSettlement.status SettlementStatus.Terminal
    w.paykhSettlements w'.paykhSettlements
  redemptions : Lib.Table.StatusKept Redemption.status RedemptionStatus.Terminal
    w.redemptions w'.redemptions

namespace TerminalKept

theorem refl (w : World) : TerminalKept w w := ⟨.refl _, .refl _, .refl _, .refl _⟩

theorem trans (w w' w'' : World) (h : TerminalKept w w') (h' : TerminalKept w' w'') :
    TerminalKept w w'' where
  authorizations := h.authorizations.trans h'.authorizations
  orders := h.orders.trans h'.orders
  settlements := h.settlements.trans h'.settlements
  redemptions := h.redemptions.trans h'.redemptions

end TerminalKept

/-! ## The two operations -/

/-- The operation rejects an authorization, or cancels an order, that is at the end of its life. -/
def Reopens (w : World) : PlatformOp → Prop
  | .mint (.reject _ authId checkerId _) => ∃ auth approval,
    w.mintAuthorizations.find? authId = some auth ∧
      (auth.status = .consumed ∨ auth.status = .expired ∨ auth.status = .revoked) ∧
      approvalOf w authId = some approval ∧ approval.makerId ≠ checkerId
  | .order (.cancel orderId _) => ∃ o, w.paykhPaymentOrders.find? orderId = some o ∧
    (o.status = .refunded ∨ o.status = .expired)
  | _ => False

/-! ## One operation -/

/-- A write to the authorizations alone. -/
theorem terminalKept_auth {w w' : World}
    (h : Lib.Table.StatusKept MintAuthorization.status MintAuthorizationStatus.Terminal
      w.mintAuthorizations w'.mintAuthorizations)
    (horders : w'.paykhPaymentOrders = w.paykhPaymentOrders)
    (hsettlements : w'.paykhSettlements = w.paykhSettlements)
    (hredemptions : w'.redemptions = w.redemptions) : TerminalKept w w' where
  authorizations := h
  orders := horders ▸ .refl _
  settlements := hsettlements ▸ .refl _
  redemptions := hredemptions ▸ .refl _

/-- The row an operation of the mint workflow rewrites is not terminal. -/
theorem statusKept_auth {w : World} {authId : String} {auth : MintAuthorization}
    (hauth : w.mintAuthorizations.find? authId = some auth) (hopen : ¬auth.status.Terminal)
    {f : MintAuthorization → MintAuthorization} (hf : ∀ a, (f a).id = a.id) :
    Lib.Table.StatusKept MintAuthorization.status MintAuthorizationStatus.Terminal
      w.mintAuthorizations (w.updateAuth authId f hf).mintAuthorizations := by
  refine Lib.Table.statusKept_modify hf fun r hr hterminal => ?_
  rw [hauth, Option.some.injEq] at hr
  exact absurd (hr ▸ hterminal) hopen

theorem mint_terminalKept {w w₁ : World} {op : MintOp} (h : MintEffect w op w₁)
    (hop : ¬Reopens w (.mint op)) : TerminalKept w w₁ := by
  have hopen {status : MintAuthorizationStatus} (hstatus : status = .pendingMaker ∨
      status = .pendingChecker ∨ status = .issued) : ¬status.Terminal := by
    rcases hstatus with rfl | rfl | rfl <;> simp [MintAuthorizationStatus.Terminal]
  have hreject {clock : Clock} {authId checkerId reason : String} {auth : MintAuthorization}
      {approval : Approval} (hop : ¬Reopens w (.mint (.reject clock authId checkerId reason)))
      (hauth : w.mintAuthorizations.find? authId = some auth)
      (happroval : approvalOf w authId = some approval) (hmaker : approval.makerId ≠ checkerId) :
      Lib.Table.StatusKept MintAuthorization.status MintAuthorizationStatus.Terminal
        w.mintAuthorizations (w.setAuthStatus authId .rejected).mintAuthorizations := by
    refine Lib.Table.statusKept_modify (MintAuthorization.withStatus_id .rejected)
      fun r hr hterminal => ?_
    rw [hauth, Option.some.injEq] at hr
    subst hr
    -- The only terminal status a rejection starts from is the one it writes.
    rcases hterminal with h | h | h | h
    · exact absurd ⟨_, _, hauth, .inl h, happroval, hmaker⟩ hop
    · exact absurd ⟨_, _, hauth, .inr (.inl h), happroval, hmaker⟩ hop
    · exact absurd ⟨_, _, hauth, .inr (.inr h), happroval, hmaker⟩ hop
    · exact h.symm
  cases h with
  | unchanged => exact .refl w
  | requested _ _ _ ht =>
    exact terminalKept_auth (Lib.Table.statusKept_insert? ht) rfl rfl rfl
  | reviewed hauth hstatus _ =>
    exact terminalKept_auth (statusKept_auth hauth (hopen (.inl hstatus))
      (MintAuthorization.withStatus_id _)) rfl rfl rfl
  | blocked hauth hstatus _ _ =>
    exact terminalKept_auth (statusKept_auth hauth (hopen (.inr (.inl hstatus)))
      (MintAuthorization.withStatus_id _)) rfl rfl rfl
  | issuedUndecided hissuable =>
    exact terminalKept_auth (statusKept_auth hissuable.found (hopen (.inr (.inl hissuable.status)))
      (MintAuthorization.asIssued_id _ _ _)) rfl rfl rfl
  | issued hissuable =>
    exact terminalKept_auth (statusKept_auth hissuable.found (hopen (.inr (.inl hissuable.status)))
      (MintAuthorization.asIssued_id _ _ _)) rfl rfl rfl
  | rejected hauth happroval hmaker =>
    exact terminalKept_auth (hreject hop hauth happroval hmaker) rfl rfl rfl
  | rejectedUndecided hauth happroval hmaker =>
    exact terminalKept_auth (hreject hop hauth happroval hmaker) rfl rfl rfl
  | revoked hauth hstatus _ =>
    exact terminalKept_auth (statusKept_auth hauth (hopen (.inr (.inr hstatus)))
      (MintAuthorization.withStatus_id _)) rfl rfl rfl
  | expired hauth hstatus _ =>
    exact terminalKept_auth (statusKept_auth hauth (hopen (.inr (.inr hstatus)))
      (MintAuthorization.withStatus_id _)) rfl rfl rfl
  | expiredAtConfirm hauth hstatus _ _ =>
    exact terminalKept_auth (statusKept_auth hauth (hopen (.inr (.inr hstatus)))
      (MintAuthorization.withStatus_id _)) rfl rfl rfl
  | confirmed hauth hstatus _ _ _ _ =>
    exact terminalKept_auth (statusKept_auth hauth (hopen (.inr (.inr hstatus)))
      (MintAuthorization.withStatus_id _)) rfl rfl rfl
  | unstored _ _ _ _ _ _ => exact ⟨.refl _, .refl _, .refl _, .refl _⟩

theorem order_terminalKept {w w₁ : World} {op : PaymentOp} (h : PaymentEffect w op w₁)
    (hop : ¬Reopens w (.order op)) : TerminalKept w w₁ := by
  have hkept {orderId : String} {o : PaykhPaymentOrder}
      (ho : w.paykhPaymentOrders.find? orderId = some o) {f : PaykhPaymentOrder → PaykhPaymentOrder}
      (hf : ∀ o, (f o).id = o.id) (hopen : o.status.Terminal → (f o).status = o.status) :
      TerminalKept w (w.updateOrder orderId f hf) := by
    refine ⟨.refl _, Lib.Table.statusKept_modify hf fun r hr => ?_, .refl _, .refl _⟩
    rw [ho, Option.some.injEq] at hr
    exact hr ▸ hopen
  have hawaiting {o : PaykhPaymentOrder} (hawaits : o.Awaits) : ¬o.status.Terminal := by
    rcases hawaits with h | h <;> simp [PaymentOrderStatus.Terminal, h]
  cases h with
  | unchanged => exact .refl w
  | created _ ht => exact ⟨.refl _, Lib.Table.statusKept_insert? ht, .refl _, .refl _⟩
  | expired ho hawaits => exact hkept ho _ fun h => absurd h (hawaiting hawaits)
  | booked _ _ _ _ _ _ => exact ⟨.refl _, .refl _, .refl _, .refl _⟩
  | @confirmed clock orderId input o e ho hawaits _ _ _ =>
    obtain ⟨-, horders, -, -⟩ := hkept ho
      (PaykhPaymentOrder.asConfirmed_id input.bankTransactionId (clock 1))
      fun h => absurd h (hawaiting hawaits)
    exact ⟨.refl _, horders, .refl _, .refl _⟩
  | refunded ho hstatus _ =>
    obtain ⟨-, horders, -, -⟩ := hkept ho PaykhPaymentOrder.asRefunded_id fun h => by
      simp [PaymentOrderStatus.Terminal, hstatus] at h
    exact ⟨.refl _, horders, .refl _, .refl _⟩
  | cancelled ho hstatus =>
    refine hkept ho _ fun h => ?_
    rcases h with h | h | h
    · exact absurd ⟨_, ho, .inl h⟩ hop
    · exact absurd ⟨_, ho, .inr h⟩ hop
    · exact h.symm

theorem settlement_terminalKept {w w₁ : World} {op : SettlementOp}
    (h : SettlementEffect w op w₁) : TerminalKept w w₁ := by
  have hkept {settlementId : String} {s : PaykhSettlement}
      (hs : w.paykhSettlements.find? settlementId = some s) {f : PaykhSettlement → PaykhSettlement}
      (hf : ∀ s, (f s).id = s.id) (hopen : s.status.Terminal → (f s).status = s.status) :
      TerminalKept w (w.updateSettlement settlementId f hf) := by
    refine ⟨.refl _, .refl _, Lib.Table.statusKept_modify hf fun r hr => ?_, .refl _⟩
    rw [hs, Option.some.injEq] at hr
    exact hr ▸ hopen
  cases h with
  | created ht => exact ⟨.refl _, .refl _, Lib.Table.statusKept_insert? ht, .refl _⟩
  | createdUnlogged ht => exact ⟨.refl _, .refl _, Lib.Table.statusKept_insert? ht, .refl _⟩
  | approved hs hstatus _ =>
    exact hkept hs _ fun h => by simp [SettlementStatus.Terminal, hstatus] at h
  | @confirmed clock settlementId actor s e hs hstatus _ =>
    obtain ⟨-, -, hsettlements, -⟩ := hkept hs (PaykhSettlement.asConfirmed_id (clock 0))
      fun h => by rcases hstatus with hstatus | hstatus <;>
        simp [SettlementStatus.Terminal, hstatus] at h
    exact ⟨.refl _, .refl _, hsettlements, .refl _⟩
  | cancelled hs hstatus =>
    refine hkept hs _ fun h => ?_
    rcases h with h | h
    · exact absurd h hstatus
    · exact h.symm

theorem redemption_terminalKept {w w₁ : World} {op : RedemptionOp}
    (h : RedemptionEffect w op w₁) : TerminalKept w w₁ := by
  have hkept {redemptionId : String} {r : Redemption}
      (hr : w.redemptions.find? redemptionId = some r) {f : Redemption → Redemption}
      (hf : ∀ r, (f r).id = r.id) (hopen : r.status ≠ .completed) :
      Lib.Table.StatusKept Redemption.status RedemptionStatus.Terminal w.redemptions
        (w.redemptions.modify redemptionId f hf) := by
    refine Lib.Table.statusKept_modify hf fun a ha hterminal => ?_
    rw [hr, Option.some.injEq] at ha
    exact absurd (ha ▸ hterminal) hopen
  cases h with
  | requested _ _ ht => exact ⟨.refl _, .refl _, .refl _, Lib.Table.statusKept_insert? ht⟩
  | approved hr hstatus _ _ _ => exact ⟨.refl _, .refl _, .refl _,
    hkept hr (Redemption.asApproved_id _) (by simp [hstatus])⟩
  | burnConfirmed hr hstatus =>
    refine ⟨.refl _, .refl _, .refl _, hkept hr (Redemption.asBurnConfirmed_id _ _) ?_⟩
    rcases hstatus with hstatus | hstatus <;> simp [hstatus]
  | payoutSubmitted hr hstatus =>
    exact ⟨.refl _, .refl _, .refl _,
      hkept hr (Redemption.asPayoutSubmitted_id _ _) (by simp [hstatus])⟩
  | completed hr hstatus _ _ _ =>
    exact ⟨.refl _, .refl _, .refl _,
      hkept hr (Redemption.asCompleted_id _ _) (by simp [hstatus])⟩

/-! ## Runs -/

/-- **Every operation but the two keeps what is terminal.** -/
theorem terminal_step {w : World} {op : PlatformOp} (hop : ¬Reopens w op) :
    TerminalKept w (op.step w) := by
  obtain ⟨w₁, rows, events, h, hw⟩ := op.effect w
  have hkept : TerminalKept w w₁ := by
    cases h with
    | unchanged => exact .refl w
    | mint h => exact mint_terminalKept h hop
    | order h => exact order_terminalKept h hop
    | settlement h => exact settlement_terminalKept h
    | redemption h => exact redemption_terminalKept h
    | deposit h => cases h <;> exact ⟨.refl _, .refl _, .refl _, .refl _⟩
    | ingest h => cases h <;> exact ⟨.refl _, .refl _, .refl _, .refl _⟩
    | fund h => cases h <;> exact ⟨.refl _, .refl _, .refl _, .refl _⟩
    | loyalty h => cases h <;> exact ⟨.refl _, .refl _, .refl _, .refl _⟩
  rw [hw]
  exact ⟨hkept.authorizations, hkept.orders, hkept.settlements, hkept.redemptions⟩

/-! The two change a terminal status whenever they are let through. -/

theorem reject_writes {w : World} {authId checkerId : String} {auth : MintAuthorization}
    {approval : Approval} (hauth : w.mintAuthorizations.find? authId = some auth)
    (happroval : approvalOf w authId = some approval) (hmaker : approval.makerId ≠ checkerId)
    (clock : Clock) (reason : String) :
    ((MintOp.reject clock authId checkerId reason).step w).mintAuthorizations =
      (w.setAuthStatus authId .rejected).mintAuthorizations := by
  unfold MintOp.step MintOp.call
  rw [Call.run_void_snd]
  rcases run_reject_of hauth happroval hmaker clock reason with h | h
  · rw [h]
  · rw [h]
    rfl

theorem cancel_writes {w : World} {orderId : String} {o : PaykhPaymentOrder}
    (ho : w.paykhPaymentOrders.find? orderId = some o) (hstatus : o.status ≠ .confirmed)
    (actor : String) : ((PaymentOp.cancel orderId actor).step w).paykhPaymentOrders =
      (w.updateOrder orderId PaykhPaymentOrder.asCancelled
        PaykhPaymentOrder.asCancelled_id).paykhPaymentOrders := by
  unfold PaymentOp.step PaymentOp.call
  rw [Call.run_void_snd]
  unfold PaymentOrdersService.cancel
  rw [Call.run_bind, run_requireOrder, ho, orThrow]
  simp only
  rw [Call.run_throwIf_bind, if_neg hstatus, Call.run_bind, run_updateOrder ho rfl]
  simp only
  rw [run_record_pure]
  rfl

/-- **An operation keeps what is terminal exactly when it is not one of the two.** -/
theorem terminal_step_iff (w : World) (op : PlatformOp) :
    TerminalKept w (op.step w) ↔ ¬Reopens w op := by
  refine ⟨fun h hop => ?_, terminal_step⟩
  unfold Reopens at hop
  split at hop
  · next clock authId checkerId reason =>
    obtain ⟨auth, approval, hauth, hstatus, happroval, hmaker⟩ := hop
    have hterminal : auth.status.Terminal := by
      rcases hstatus with h | h | h <;> simp [MintAuthorizationStatus.Terminal, h]
    obtain ⟨a, ha, hkept⟩ := h.authorizations authId auth hauth hterminal
    have hrow : ((PlatformOp.mint (.reject clock authId checkerId reason)).step
        w).mintAuthorizations.find? authId = some (auth.withStatus .rejected) := by
      rw [PlatformOp.step, reject_writes hauth happroval hmaker]
      exact find?_updateAuth hauth _ _
    rw [hrow, Option.some.injEq] at ha
    rw [← ha] at hkept
    rcases hstatus with h | h | h <;> rw [h] at hkept <;> cases hkept
  · next orderId actor =>
    obtain ⟨o, ho, hstatus⟩ := hop
    have hterminal : o.status.Terminal := by
      rcases hstatus with h | h <;> simp [PaymentOrderStatus.Terminal, h]
    obtain ⟨o', ho', hkept⟩ := h.orders orderId o ho hterminal
    have hopen : o.status ≠ .confirmed := by rcases hstatus with h | h <;> simp [h]
    have hrow : ((PlatformOp.order (.cancel orderId actor)).step w).paykhPaymentOrders.find?
        orderId = some o.asCancelled := by
      rw [PlatformOp.step, cancel_writes ho hopen]
      exact find?_updateOrder ho _ _
    rw [hrow, Option.some.injEq] at ho'
    rw [← ho'] at hkept
    rcases hstatus with h | h <;> rw [h] at hkept <;> cases hkept
  · exact hop

/-- **Terminal statuses are absorbing** in every run that rejects no authorization and cancels no
order at the end of its life: what is terminal after a part of the run is so, with the same
status, after the rest. -/
theorem terminal_run {w : World} {ops later : List PlatformOp}
    (h : Meets PlatformOp.step (fun w op => ¬Reopens w op) w (ops ++ later)) :
    TerminalKept (ops.foldl PlatformOp.step w) ((ops ++ later).foldl PlatformOp.step w) := by
  rw [List.foldl_append]
  exact Lib.rel_run TerminalKept.refl TerminalKept.trans (fun _ _ => terminal_step)
    (Lib.meets_append.mp h).2

end

/-! ## An authorization that is consumed, then rejected -/

attribute [local instance] Runtime.ascii

namespace Sample

/-- An authorization of 50 is issued and confirmed. -/
def consumed : List PlatformOp :=
  (mint "M1" "50").map .mint ++ [.mint (.confirm clock "M1" (confirmation "50" none))]

/-- The status of an authorization after a run. -/
def statusAfter (ops : List PlatformOp) : Option MintAuthorizationStatus :=
  ((ops.foldl PlatformOp.step world).mintAuthorizations.find? "M1").map (·.status)

end Sample

theorem terminal_run_example :
    Sample.statusAfter Sample.consumed = some .consumed ∧
      TerminalKept (Sample.consumed.foldl PlatformOp.step Sample.world)
        ((Sample.consumed ++ [PlatformOp.mint (.revoke "M1" "ops" "late")]).foldl PlatformOp.step
          Sample.world) :=
  ⟨by decide +kernel, terminal_run ⟨id, id, id, id, id, trivial⟩⟩

/-- A consumed authorization is rejected. -/
theorem terminal_reopened : ¬∀ [Runtime] (w : World) (ops later : List PlatformOp),
    TerminalKept (ops.foldl PlatformOp.step w) ((ops ++ later).foldl PlatformOp.step w) := by
  intro h
  have hkept := (h Sample.world Sample.consumed
    [.mint (.reject Sample.clock "M1" "bob" "no")]).authorizations
  have hconsumed : Sample.statusAfter Sample.consumed = some .consumed := by decide +kernel
  have hrejected : Sample.statusAfter
      (Sample.consumed ++ [PlatformOp.mint (.reject Sample.clock "M1" "bob" "no")]) =
        some .rejected := by
    decide +kernel
  obtain ⟨a, ha, hstatus⟩ := Option.map_eq_some_iff.mp hconsumed
  obtain ⟨a', ha', hstatus'⟩ := hkept "M1" a ha (.inl hstatus)
  unfold Sample.statusAfter at hrejected
  rw [ha', Option.map_some, hstatus', hstatus] at hrejected
  cases hrejected

end TrusteeBank
