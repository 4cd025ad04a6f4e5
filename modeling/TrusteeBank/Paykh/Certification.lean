import TrusteeBank.Api.ClientSeparation
import TrusteeBank.Paykh.Tenants
import TrusteeBank.Platform.Overdraft

/-!
# What PayKH certifies by itself

A payment profile is activated once the trustee bank has verified who owns the account, a
settlement is approved and confirmed by the trustee, and cash is booked when the bank holds it.
The routes that do so are `PaykhController`'s, so they are reached with the credentials of PayKH,
and `OperationsController` serves the trustee's operators the same two on settlements. The guard
keeps a PayKH client out of the other namespaces where the path spells them in lower case; on any
other spelling it asks for nothing, and the client reaches the bank's own routes.

* `certification_step`: a PayKH request that certifies nothing leaves no profile activated, no
  settlement approved or confirmed, and no balance of cash raised;
* `platform_uncertified`: nor does any other operation, registrations of deposits apart;
* `paykh_run`: nor does a run of requests with PayKH credentials, on any paths the router serves;
* `paykh_activates`: a PayKH client submits, verifies and activates a profile.
-/

set_option autoImplicit false

namespace TrusteeBank

open Lib (Call Meets)
open LedgerAccountCode

section

variable [Runtime]

/-! ## Requests with client credentials -/

/-- What a request asks for, by the namespace it is served in. -/
inductive ApiRoute
  | paykh (op : PaykhRequest)
  | paychain (op : PlatformOp)
  | bank (op : PlatformOp)
  | admin (op : PlatformOp)

namespace ApiRoute

omit [Runtime] in
def mount : ApiRoute → Mount
  | paykh _ => .paykh
  | paychain _ => .paychain
  | bank _ => .bank
  | admin _ => .admin

def step (w : World) : ApiRoute → World
  | paykh op => op.step w
  | paychain op => op.step w
  | bank op => op.step w
  | admin op => op.step w

end ApiRoute

/-- A request on a path that the router takes to its namespace, and the client whose credentials
it presents. -/
structure ClientCall where
  client : AuthenticatedClient
  path : String
  route : ApiRoute
  served : route.mount.path.toList <+: lowerAscii path

/-- What the guard asks of the platform of a client, after it verified the secret. It looks at no
credentials on a path that it requires none for. -/
def ClientCall.admitted (c : ClientCall) : Except ApiError Unit :=
  match ClientSeparationGuard.requiredPlatform c.path with
  | none => .ok ()
  | some required => ClientSeparationGuard.checkClient required c.client

def ClientCall.step (w : World) (c : ClientCall) : World :=
  match c.admitted with
  | .ok _ => c.route.step w
  | .error _ => w

/-! ## What is certified -/

/-- No profile became active, no settlement approved or confirmed, and no cash was booked. -/
structure NothingCertified (w w' : World) : Prop where
  profiles : Lib.Table.NoneBecomes PaykhPaymentProfile.status (fun s => s = .active)
    w.paykhPaymentProfiles w'.paykhPaymentProfiles
  settlements : Lib.Table.NoneBecomes PaykhSettlement.status
    (fun s => s = .approved ∨ s = .confirmed) w.paykhSettlements w'.paykhSettlements
  cash : ∀ scope currency, accountMinor w' scope assetTrusteeBankCash currency ≤
    accountMinor w scope assetTrusteeBankCash currency

/-- The request passes the checks of the code and activates a profile, approves or confirms a
settlement, or books cash. -/
def Certifies (w : World) : PaykhRequest → Prop
  | .profile (.activate profileId _) =>
    ∃ p, w.paykhPaymentProfiles.find? profileId = some p ∧ p.status = .approved
  | .books (.settlement (.approve settlementId checkerId)) =>
    ∃ s, w.paykhSettlements.find? settlementId = some s ∧ s.status = .requested ∧
      MadeByAnother w settlementId checkerId ∧ FitsText checkerId
  | .books (.settlement (.confirm _ settlementId actor)) =>
    ∃ s, w.paykhSettlements.find? settlementId = some s ∧
      (s.status = .approved ∨ s.status = .submitted) ∧ 0 < s.amountMinor ∧ FitsText actor
  | .books (.order (.checkPayment clock orderId input)) =>
    ∃ o, w.paykhPaymentOrders.find? orderId = some o ∧ o.Awaits ∧ Pays w clock input o ∧
      0 < o.amountMinor ∧ input.Fits ∧ (Unmatched w orderId input.bankTransactionId ∨
        ∃ o ∈ w.paykhPaymentOrders.rows, o.id = orderId ∧
          o.matchedBankTransactionId = some input.bankTransactionId)
  | .books (.fund (.fund fundId amountMinor actor)) =>
    ∃ f amount, w.paykhProgramFunds.find? fundId = some f ∧ bigInt amountMinor = .ok amount ∧
      0 < amount ∧ FitsInt8 amount ∧ requiresFiatBacking f.classification = .ok true ∧
      FitsText actor
  | _ => False

/-- The same of an operation of the platform, some of which PayKH requests too. A registration
books cash when its row and its entry can be stored. -/
def PlatformOp.Certifies (w : World) : PlatformOp → Prop
  | .deposit (.register input id) => ∃ row, input.Storable w id row ∧ input.Books row
  | .order op => TrusteeBank.Certifies w (.books (.order op))
  | .fund op => TrusteeBank.Certifies w (.books (.fund op))
  | .settlement op => TrusteeBank.Certifies w (.books (.settlement op))
  | _ => False

namespace NothingCertified

variable {w w' w'' : World}

theorem refl (w : World) : NothingCertified w w := ⟨.refl _, .refl _, fun _ _ => le_rfl⟩

theorem trans (w w' w'' : World) (h : NothingCertified w w') (h' : NothingCertified w' w'') :
    NothingCertified w w'' where
  profiles := h.profiles.trans h'.profiles
  settlements := h.settlements.trans h'.settlements
  cash scope currency := (h'.cash scope currency).trans (h.cash scope currency)

theorem logged (h : NothingCertified w w') (rows : List AuditLog) (events : List OutboxEvent) :
    NothingCertified w (w'.logged rows events) :=
  ⟨h.profiles, h.settlements, h.cash⟩

/-- Nothing is posted. -/
theorem unposted (hledger : w'.ledger = w.ledger)
    (hprofiles : Lib.Table.NoneBecomes PaykhPaymentProfile.status (fun s => s = .active)
      w.paykhPaymentProfiles w'.paykhPaymentProfiles)
    (hsettlements : Lib.Table.NoneBecomes PaykhSettlement.status
      (fun s => s = .approved ∨ s = .confirmed) w.paykhSettlements w'.paykhSettlements) :
    NothingCertified w w' := by
  refine ⟨hprofiles, hsettlements, fun scope currency => ?_⟩
  rw [cash_eq, cash_eq, hledger]

/-- An entry is posted that moves an amount into another account than cash. -/
theorem moved {e : JournalEntry} (hledger : w'.ledger = w.ledger ++ [e])
    (hprofiles : w'.paykhPaymentProfiles = w.paykhPaymentProfiles)
    (hsettlements : w'.paykhSettlements = w.paykhSettlements)
    {programId currency debitAccount creditAccount : String} {amount : Int}
    (he : Moves programId currency debitAccount creditAccount amount e)
    (hcash : debitAccount ≠ assetTrusteeBankCash) : NothingCertified w w' := by
  refine ⟨hprofiles ▸ .refl _, hsettlements ▸ .refl _, fun scope currency' => ?_⟩
  have hpositive := he.positive
  rw [cash_eq, cash_eq, hledger, ledgerNet_append, he.net, if_neg hcash]
  split_ifs <;> omega

end NothingCertified

/-! ## One request -/

section

variable {w w₁ : World}

theorem profile_uncertified {op : ProfileOp} (he : ProfileEffect w op w₁)
    (hop : ¬Certifies w (.profile op)) : NothingCertified w w₁ := by
  cases he with
  | submitted ht =>
    refine .unposted rfl (Lib.Table.noneBecomes_insert? ht ?_) (.refl _)
    exact PaymentProfileStatus.noConfusion
  | @verified clock profileId actor p hp hstatus =>
    refine .unposted rfl ?_ (.refl _)
    exact Lib.Table.noneBecomes_modify (PaykhPaymentProfile.asApproved_id (clock 0))
      fun _ _ h => PaymentProfileStatus.noConfusion h
  | activated hp hstatus => exact absurd ⟨_, hp, hstatus⟩ hop
  | suspended hp =>
    refine .unposted rfl ?_ (.refl _)
    exact Lib.Table.noneBecomes_modify (PaykhPaymentProfile.withStatus_id .suspended)
      fun _ _ h => PaymentProfileStatus.noConfusion h

theorem settlement_uncertified {op : SettlementOp} (he : SettlementEffect w op w₁)
    (hop : ¬Certifies w (.books (.settlement op))) : NothingCertified w w₁ := by
  cases he with
  | created ht _ =>
    refine .unposted rfl (.refl _) (Lib.Table.noneBecomes_insert? ht ?_)
    rintro (h | h) <;> exact SettlementStatus.noConfusion h
  | createdUnlogged ht _ =>
    refine .unposted rfl (.refl _) (Lib.Table.noneBecomes_insert? ht ?_)
    rintro (h | h) <;> exact SettlementStatus.noConfusion h
  | approved hs hstatus hmaker hchecker => exact absurd ⟨_, hs, hstatus, hmaker, hchecker⟩ hop
  | confirmed hs hstatus he hactor =>
    exact absurd ⟨_, hs, hstatus, he.move.positive, hactor⟩ hop
  | cancelled hs hstatus =>
    refine .unposted rfl (.refl _) (Lib.Table.noneBecomes_modify PaykhSettlement.asCancelled_id ?_)
    rintro r - (h | h) <;> exact SettlementStatus.noConfusion h

theorem order_uncertified {op : PaymentOp} (he : PaymentEffect w op w₁)
    (hop : ¬Certifies w (.books (.order op))) : NothingCertified w w₁ := by
  cases he with
  | unchanged => exact .refl w
  | created => exact .unposted rfl (.refl _) (.refl _)
  | expired _ _ => exact .unposted rfl (.refl _) (.refl _)
  | booked ho hawaits hpays hprior _ he htexts =>
    exact absurd ⟨_, ho, hawaits, hpays, he.move.positive, htexts, .inr hprior⟩ hop
  | confirmed ho hawaits hpays hfree he htexts =>
    exact absurd ⟨_, ho, hawaits, hpays, he.move.positive, htexts, .inl hfree⟩ hop
  | refunded ho hstatus he => exact .moved rfl rfl rfl he.moves (by decide)
  | cancelled ho hstatus => exact .unposted rfl (.refl _) (.refl _)

theorem fund_uncertified {op : FundOp} (he : FundEffect w op w₁)
    (hop : ¬Certifies w (.books (.fund op))) : NothingCertified w w₁ := by
  cases he with
  | unchanged => exact .refl w
  | created ht => exact .unposted rfl (.refl _) (.refl _)
  | overflowed hfund hamount hpositive hentries hoverflow hactor =>
    cases hentries with
    | required hrequired he =>
      have hactor := hactor (List.cons_ne_nil _ _)
      exact absurd ⟨_, _, hfund, hamount, hpositive, he.fits, hrequired, hactor⟩ hop
    | unbacked _ => exact .unposted (List.append_nil _) (.refl _) (.refl _)
  | funded hfund hamount hpositive hentries hfits hactor =>
    cases hentries with
    | required hrequired he =>
      have hactor := hactor (List.cons_ne_nil _ _)
      exact absurd ⟨_, _, hfund, hamount, hpositive, he.fits, hrequired, hactor⟩ hop
    | unbacked _ => exact .unposted (List.append_nil _) (.refl _) (.refl _)
  | reserved _ _ _ _ => exact .unposted rfl (.refl _) (.refl _)
  | released _ _ _ _ => exact .unposted rfl (.refl _) (.refl _)

theorem loyalty_uncertified {op : LoyaltyOp} (he : LoyaltyEffect w op w₁) :
    NothingCertified w w₁ := by
  cases he with
  | unchanged => exact .refl w
  | bound _ _ _ _ => exact .unposted rfl (.refl _) (.refl _)
  | issueBooked _ he => exact .moved rfl rfl rfl (he.move.moves he.program) (by decide)
  | issued _ he => exact .moved rfl rfl rfl (he.move.moves he.program) (by decide)
  | redeemBooked _ he => exact .moved rfl rfl rfl (he.move.moves he.program) (by decide)
  | redeemed _ he => exact .moved rfl rfl rfl (he.move.moves he.program) (by decide)
  | reconciled _ _ _ => exact .unposted rfl (.refl _) (.refl _)

theorem mint_uncertified {op : MintOp} (he : MintEffect w op w₁) : NothingCertified w w₁ := by
  have hreserve {a : MintAuthorization} {e : JournalEntry} (he : IsReservation a e)
      {w' : World} (hledger : w'.ledger = w.ledger ++ [e])
      (hprofiles : w'.paykhPaymentProfiles = w.paykhPaymentProfiles)
      (hsettlements : w'.paykhSettlements = w.paykhSettlements) : NothingCertified w w' :=
    .moved hledger hprofiles hsettlements (he.move.moves he.programId) (by decide)
  have hrelease {a : MintAuthorization} {p : String} {e : JournalEntry} (he : IsRelease a p e)
      {w' : World} (hledger : w'.ledger = w.ledger ++ [e])
      (hprofiles : w'.paykhPaymentProfiles = w.paykhPaymentProfiles)
      (hsettlements : w'.paykhSettlements = w.paykhSettlements) : NothingCertified w w' :=
    .moved hledger hprofiles hsettlements (he.move.moves he.programId) (by decide)
  cases he with
  | unchanged => exact .refl w
  | requested => exact .unposted rfl (.refl _) (.refl _)
  | reviewed => exact .unposted rfl (.refl _) (.refl _)
  | blocked => exact .unposted rfl (.refl _) (.refl _)
  | rejected => exact .unposted rfl (.refl _) (.refl _)
  | rejectedUndecided => exact .unposted rfl (.refl _) (.refl _)
  | issuedUndecided _ he => exact hreserve he rfl rfl rfl
  | issued _ he => exact hreserve he rfl rfl rfl
  | revoked _ _ he => exact hrelease he rfl rfl rfl
  | expired _ _ he => exact hrelease he rfl rfl rfl
  | expiredAtConfirm _ _ _ he => exact hrelease he rfl rfl rfl
  | confirmed _ _ _ _ he => exact hrelease he rfl rfl rfl
  | unstored _ _ _ _ he => exact hrelease he rfl rfl rfl

theorem redemption_uncertified {op : RedemptionOp} (he : RedemptionEffect w op w₁) :
    NothingCertified w w₁ := by
  cases he with
  | requested => exact .unposted rfl (.refl _) (.refl _)
  | burnConfirmed => exact .unposted rfl (.refl _) (.refl _)
  | payoutSubmitted => exact .unposted rfl (.refl _) (.refl _)
  | approved _ _ he hprogram => exact .moved rfl rfl rfl (he.moves hprogram) (by decide)
  | completed _ _ he hprogram => exact .moved rfl rfl rfl (he.moves hprogram) (by decide)

end

/-- A registration that is refused, or that stores its row alone, books nothing. -/
theorem register_uncertified {w : World} {input : RegisterDeposit} {id : String}
    (hop : ¬(PlatformOp.deposit (.register input id)).Certifies w) :
    NothingCertified w ((DepositsService.register input id).run w).2 := by
  have h := run_register w input id
  generalize (DepositsService.register input id).run w = out at h ⊢
  cases h with
  | refused _ => exact .refl w
  | stranded _ _ _ => exact .unposted rfl (.refl _) (.refl _)
  | booked hrow _ hbooks _ _ _ => exact absurd ⟨_, hrow, hbooks⟩ hop

theorem deposit_uncertified {w : World} {op : DepositOp}
    (hop : ¬(PlatformOp.deposit op).Certifies w) : NothingCertified w (op.step w) := by
  cases op with
  | register input id =>
    unfold DepositOp.step DepositOp.call
    rw [Call.run_void_snd]
    exact register_uncertified hop
  | «match» depositId fundingInstructionId actor =>
    refine after_effect (DepositOp.effect w (.match depositId fundingInstructionId actor))
      (fun w₁ he => ?_) .logged
    cases he with
    | unchanged => exact .refl w
    | matched => exact .unposted rfl (.refl _) (.refl _)
  | clear clock depositId actor =>
    refine after_effect (DepositOp.effect w (.clear clock depositId actor))
      (fun w₁ he => ?_) .logged
    cases he with
    | unchanged => exact .refl w
    | cleared _ _ he hprogram => exact .moved rfl rfl rfl (he.moves hprogram) (by decide)

/-- **A request that certifies nothing.** -/
theorem certification_step {w : World} {op : PaykhRequest} (hop : ¬Certifies w op) :
    NothingCertified w (op.step w) := by
  cases op with
  | profile op =>
    exact (op.served w).after (.refl w) (fun _ he => profile_uncertified he hop) .logged
  | merchant op =>
    refine (op.served w).after (.refl w) (fun _ he => ?_) .logged
    cases he <;> exact .unposted rfl (.refl _) (.refl _)
  | reconciliation op =>
    refine (op.served w).after (.refl w) (fun _ he => ?_) .logged
    cases he
    exact .unposted rfl (.refl _) (.refl _)
  | books op =>
    cases op with
    | order op => exact after_effect (op.effect w) (fun _ he => order_uncertified he hop) .logged
    | fund op => exact after_effect (op.effect w) (fun _ he => fund_uncertified he hop) .logged
    | loyalty op => exact after_effect (op.effect w) (fun _ he => loyalty_uncertified he) .logged
    | settlement op =>
      exact (op.served w).after (.refl w) (fun _ he => settlement_uncertified he hop) .logged

/-- **Any other operation.** -/
theorem platform_uncertified {w : World} {op : PlatformOp} (hop : ¬op.Certifies w) :
    NothingCertified w (op.step w) := by
  cases op with
  | deposit op => exact deposit_uncertified hop
  | ingest op =>
    have heffect := op.effect w
    change NothingCertified w (op.step w)
    generalize op.step w = w' at heffect ⊢
    cases heffect with
    | unchanged => exact .refl w
    | ingested => exact .unposted rfl (.refl _) (.refl _)
  | mint op => exact after_effect (op.effect w) (fun _ he => mint_uncertified he) .logged
  | redemption op =>
    exact (op.served w).after (.refl w) (fun _ he => redemption_uncertified he) .logged
  | order op => exact after_effect (op.effect w) (fun _ he => order_uncertified he hop) .logged
  | fund op => exact after_effect (op.effect w) (fun _ he => fund_uncertified he hop) .logged
  | loyalty op => exact after_effect (op.effect w) (fun _ he => loyalty_uncertified he) .logged
  | settlement op =>
    exact (op.served w).after (.refl w) (fun _ he => settlement_uncertified he hop) .logged

/-! ## Runs -/

/-- What a request would certify, where its handler is reached with PayKH's credentials: in its own
namespace, and in the others on a path that does not spell them in lower case. -/
def ClientCall.Certifies (w : World) (c : ClientCall) : Prop :=
  match c.route with
  | .paykh op => TrusteeBank.Certifies w op
  | .paychain op | .bank op | .admin op =>
    startsWith c.path c.route.mount.path = false ∧ op.Certifies w

theorem ClientCall.step_cases (c : ClientCall) (w : World) :
    c.step w = w ∨ c.step w = c.route.step w := by
  unfold ClientCall.step
  split
  · exact .inr rfl
  · exact .inl rfl

/-- A client of another platform is refused where the path spells the mount. -/
theorem ClientCall.step_refused {c : ClientCall} (h : c.client.platform ≠ c.route.mount.platform)
    (hpath : startsWith c.path c.route.mount.path = true) (w : World) : c.step w = w := by
  unfold ClientCall.step ClientCall.admitted
  rw [requiredPlatform_of_mounted c.served, if_pos hpath]
  simp only [ClientSeparationGuard.checkClient, throwWhen, if_pos h]

/-- An operation outside PayKH's namespace is refused, or certifies nothing. -/
theorem foreign_call_step {w : World} {c : ClientCall} {op : PlatformOp}
    (hroute : ∀ w, c.route.step w = op.step w) (hclient : c.client.platform ≠ c.route.mount.platform)
    (hcall : ¬(startsWith c.path c.route.mount.path = false ∧ op.Certifies w)) :
    NothingCertified w (c.step w) := by
  cases hpath : startsWith c.path c.route.mount.path with
  | true =>
    rw [ClientCall.step_refused hclient hpath]
    exact .refl w
  | false =>
    have hop : ¬op.Certifies w := fun h => hcall ⟨hpath, h⟩
    rcases c.step_cases w with hstep | hstep
    · rw [hstep]
      exact .refl w
    · rw [hstep, hroute]
      exact platform_uncertified hop

/-- **A request with PayKH's credentials.** -/
theorem paykh_call_step {w : World} {c : ClientCall} (hclient : c.client.platform = "PAYKH")
    (hcall : ¬c.Certifies w) : NothingCertified w (c.step w) := by
  obtain ⟨client, path, route, served⟩ := c
  change client.platform = "PAYKH" at hclient
  cases route with
  | paykh op =>
    rcases ClientCall.step_cases ⟨client, path, .paykh op, served⟩ w with hstep | hstep
    · rw [hstep]
      exact .refl w
    · rw [hstep]
      exact certification_step hcall
  | paychain op =>
    exact foreign_call_step (fun _ => rfl)
      (hclient.trans_ne (show "PAYKH" ≠ "PAYCHAIN" by decide)) hcall
  | bank op =>
    exact foreign_call_step (fun _ => rfl)
      (hclient.trans_ne (show "PAYKH" ≠ "TRUSTEE_BANK" by decide)) hcall
  | admin op =>
    exact foreign_call_step (fun _ => rfl)
      (hclient.trans_ne (show "PAYKH" ≠ "TRUSTEE_BANK" by decide)) hcall

/-- **PayKH certifies nothing by itself** in every run of its requests none of which passes the
checks of a certification. -/
theorem paykh_run {w : World} {calls : List ClientCall}
    (hclients : ∀ c ∈ calls, c.client.platform = "PAYKH")
    (hcalls : Meets ClientCall.step (fun w c => ¬c.Certifies w) w calls) :
    NothingCertified w (calls.foldl ClientCall.step w) := by
  induction calls generalizing w with
  | nil => exact .refl w
  | cons c calls ih =>
    have hstep := paykh_call_step (hclients c List.mem_cons_self) hcalls.1
    have hrest := ih (fun c hc => hclients c (List.mem_cons_of_mem _ hc)) hcalls.2
    exact hstep.trans w _ _ hrest

end

/-! ## PayKH activates a profile -/

attribute [local instance] Runtime.ascii

namespace Sample

def paykhClient : AuthenticatedClient where
  platform := "PAYKH"
  oauthClientId := "paykh-client"
  displayName := "PayKH"

/-- PayKH submits a profile. -/
def submitProfile : ClientCall where
  client := paykhClient
  path := "/api/v1/paykh/tenants/tenant-1/payment-profiles"
  route := .paykh (.profile (.submit
    { tenantId := "tenant-1", recipientName := "Tenant", recipientAccountMasked := "***9"
      bankName := "Bank", currency := "USD", khqrPayload := "khqr", actor := "paykh" } "PP1"))
  served := by decide

def verifyProfile : ClientCall where
  client := paykhClient
  path := "/api/v1/paykh/payment-profiles/PP1/verify"
  route := .paykh (.profile (.verify clock "PP1" "trustee"))
  served := by decide

def activateProfile : ClientCall where
  client := paykhClient
  path := "/api/v1/paykh/payment-profiles/PP1/activate"
  route := .paykh (.profile (.activate "PP1" "trustee"))
  served := by decide

/-- PayKH verifies and activates it. -/
def certifyProfile : List ClientCall := [verifyProfile, activateProfile]

def profileStatus (calls : List ClientCall) : Option PaymentProfileStatus :=
  ((calls.foldl ClientCall.step world).paykhPaymentProfiles.find? "PP1").map (·.status)

end Sample

theorem paykh_run_example : Sample.profileStatus [Sample.submitProfile] = some .submitted ∧
    NothingCertified Sample.world ([Sample.submitProfile].foldl ClientCall.step Sample.world) :=
  ⟨by decide +kernel, paykh_run (List.forall_mem_singleton.mpr rfl) ⟨id, trivial⟩⟩

/-- A profile that PayKH submits becomes active with nobody else's consent. -/
theorem paykh_activates : ¬∀ [Runtime] (w : World) (calls : List ClientCall),
    (∀ c ∈ calls, c.client.platform = "PAYKH") →
      NothingCertified w (calls.foldl ClientCall.step w) := by
  intro h
  have hprofiles := (h Sample.world (Sample.submitProfile :: Sample.certifyProfile)
    (by decide)).profiles
  have hactive : Sample.profileStatus (Sample.submitProfile :: Sample.certifyProfile) =
      some .active := by
    decide +kernel
  obtain ⟨p, hp, hstatus⟩ := Option.map_eq_some_iff.mp hactive
  obtain ⟨old, hold, -⟩ := hprofiles "PP1" p hp hstatus
  cases hold

end TrusteeBank
