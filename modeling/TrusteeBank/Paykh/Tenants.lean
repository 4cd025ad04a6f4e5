import TrusteeBank.Paykh.Isolation
import TrusteeBank.Services.Merchants
import TrusteeBank.Services.PaymentProfiles
import TrusteeBank.Services.Reconciliation

/-!
# Tenants of PayKH records

A payment order names a profile, a settlement and a loyalty redemption name a merchant, and each
of these records carries the tenant it belongs to.

**The invariant** (`TenantsAgree`). Every order is of the tenant of its profile, every settlement
of the tenant of its merchant, and every redemption is at a merchant of its liability's tenant.

**Where it fails** (`CrossesTenants`). An order is compared with its profile in status and
currency, and a settlement or a redemption asks of its merchant that it is active and verified;
none compares the tenants.

* `tenants_run`: a run without such an operation keeps the invariant;
* `order_crosses_tenants`: a tenant places an order on the profile of another.
-/

set_option autoImplicit false

namespace TrusteeBank

open Lib (Meets)

section

variable [Runtime]

/-! ## Operations -/

/-- The operations of PayKH on its records. -/
inductive PaykhRequest
  | profile (op : ProfileOp)
  | merchant (op : MerchantOp)
  | reconciliation (op : PaykhReconciliationOp)
  | books (op : PaykhOp)

/-- Serve one operation alone, whether it succeeds or throws. -/
def PaykhRequest.step (w : World) : PaykhRequest → World
  | .profile op => op.step w
  | .merchant op => op.step w
  | .reconciliation op => op.step w
  | .books op => op.step w

/-! ## The invariant -/

def OwnsProfile (w : World) (profileId tenantId : String) : Prop :=
  ∃ p, w.paykhPaymentProfiles.find? profileId = some p ∧ p.tenantId = tenantId

def OwnsMerchant (w : World) (merchantId tenantId : String) : Prop :=
  ∃ m, w.paykhMerchants.find? merchantId = some m ∧ m.tenantId = tenantId

def OwnsLiability (w : World) (liabilityId tenantId : String) : Prop :=
  ∃ l, w.paykhLoyaltyLiabilities.find? liabilityId = some l ∧ l.tenantId = tenantId

structure TenantsAgree (w : World) : Prop where
  orders : ∀ o ∈ w.paykhPaymentOrders.rows, OwnsProfile w o.profileId o.tenantId
  settlements : ∀ s ∈ w.paykhSettlements.rows, OwnsMerchant w s.merchantId s.tenantId
  redemptions : ∀ r ∈ w.paykhLoyaltyRedemptions.rows, ∃ tenantId,
    OwnsLiability w r.loyaltyLiabilityId tenantId ∧ OwnsMerchant w r.merchantId tenantId

/-- The operation passes the checks of the code and names a record of another tenant. -/
def CrossesTenants (w : World) : PaykhRequest → Prop
  | .books (.order (.create clock input id uuid)) => ∃ p amountMinor expiresAt,
    Places w clock input id uuid p amountMinor expiresAt ∧ p.tenantId ≠ input.tenantId
  | .books (.settlement (.create input id)) => ∃ amountMinor m,
    Requests w input id amountMinor ∧ w.paykhMerchants.find? input.merchantId = some m ∧
      m.tenantId ≠ input.tenantId
  | .books (.loyalty (.redeem gateway _ uuid _ input)) => ∃ liability amount chain m,
    (RedeemChecks w input liability amount ∧ RedeemFits liability amount.minor ∧
      LoyaltyService.authorizeOnChain gateway uuid .burn liability (toString amount.minor) =
        .ok chain ∧ ∀ t ∈ input.customerRef :: chain.texts, FitsText t) ∧
      w.paykhMerchants.find? input.merchantId = some m ∧ m.tenantId ≠ liability.tenantId
  | _ => False

/-! ## Owners -/

/-- Every profile, merchant and liability is still there, of the same tenant. -/
structure OwnersKept (w w' : World) : Prop where
  profiles : Lib.Table.StatusKept PaykhPaymentProfile.tenantId (fun _ => True)
    w.paykhPaymentProfiles w'.paykhPaymentProfiles
  merchants : Lib.Table.StatusKept PaykhMerchant.tenantId (fun _ => True)
    w.paykhMerchants w'.paykhMerchants
  liabilities : Lib.Table.StatusKept PaykhLoyaltyLiability.tenantId (fun _ => True)
    w.paykhLoyaltyLiabilities w'.paykhLoyaltyLiabilities

namespace OwnersKept

variable {w w' : World}

theorem profile (h : OwnersKept w w') {profileId tenantId : String}
    (howns : OwnsProfile w profileId tenantId) : OwnsProfile w' profileId tenantId := by
  obtain ⟨p, hp, htenant⟩ := howns
  obtain ⟨p', hp', hsame⟩ := h.profiles profileId p hp trivial
  exact ⟨p', hp', hsame.trans htenant⟩

theorem merchant (h : OwnersKept w w') {merchantId tenantId : String}
    (howns : OwnsMerchant w merchantId tenantId) : OwnsMerchant w' merchantId tenantId := by
  obtain ⟨m, hm, htenant⟩ := howns
  obtain ⟨m', hm', hsame⟩ := h.merchants merchantId m hm trivial
  exact ⟨m', hm', hsame.trans htenant⟩

theorem liability (h : OwnersKept w w') {liabilityId tenantId : String}
    (howns : OwnsLiability w liabilityId tenantId) : OwnsLiability w' liabilityId tenantId := by
  obtain ⟨l, hl, htenant⟩ := howns
  obtain ⟨l', hl', hsame⟩ := h.liabilities liabilityId l hl trivial
  exact ⟨l', hl', hsame.trans htenant⟩

end OwnersKept

/-! ## Records -/

def PaykhPaymentOrder.refers (o : PaykhPaymentOrder) : String × String := (o.profileId, o.tenantId)

def PaykhSettlement.refers (s : PaykhSettlement) : String × String := (s.merchantId, s.tenantId)

def PaykhLoyaltyRedemption.refers (r : PaykhLoyaltyRedemption) : String × String :=
  (r.loyaltyLiabilityId, r.merchantId)

/-- Every record refers to what an earlier one referred to. -/
structure NothingReferred (w w' : World) : Prop where
  orders : Lib.Table.ColumnsFrom PaykhPaymentOrder.refers w.paykhPaymentOrders
    w'.paykhPaymentOrders
  settlements : Lib.Table.ColumnsFrom PaykhSettlement.refers w.paykhSettlements
    w'.paykhSettlements
  redemptions : Lib.Table.ColumnsFrom PaykhLoyaltyRedemption.refers w.paykhLoyaltyRedemptions
    w'.paykhLoyaltyRedemptions

namespace TenantsAgree

variable {w w' : World}

/-- The owners keep their records, and no record is new. -/
theorem kept (h : TenantsAgree w) (howners : OwnersKept w w') (hnothing : NothingReferred w w') :
    TenantsAgree w' where
  orders o ho := by
    obtain ⟨a, ha, hrefers⟩ := hnothing.orders o ho
    have howns := howners.profile (h.orders a ha)
    obtain ⟨hprofile, htenant⟩ := Prod.mk.inj hrefers
    rwa [hprofile, htenant] at howns
  settlements s hs := by
    obtain ⟨a, ha, hrefers⟩ := hnothing.settlements s hs
    have howns := howners.merchant (h.settlements a ha)
    obtain ⟨hmerchant, htenant⟩ := Prod.mk.inj hrefers
    rwa [hmerchant, htenant] at howns
  redemptions r hr := by
    obtain ⟨a, ha, hrefers⟩ := hnothing.redemptions r hr
    obtain ⟨tenantId, hliability, hmerchant⟩ := h.redemptions a ha
    obtain ⟨hl, hm⟩ := Prod.mk.inj hrefers
    rw [hl] at hliability
    rw [hm] at hmerchant
    exact ⟨tenantId, howners.liability hliability, howners.merchant hmerchant⟩

/-- Nothing but the owners' tables is written. -/
theorem owners (h : TenantsAgree w) (howners : OwnersKept w w')
    (horders : w'.paykhPaymentOrders = w.paykhPaymentOrders)
    (hsettlements : w'.paykhSettlements = w.paykhSettlements)
    (hredemptions : w'.paykhLoyaltyRedemptions = w.paykhLoyaltyRedemptions) : TenantsAgree w' := by
  refine h.kept howners ⟨?_, ?_, ?_⟩
  · exact horders ▸ .refl _
  · exact hsettlements ▸ .refl _
  · exact hredemptions ▸ .refl _

end TenantsAgree

/-! ## One operation -/

section

variable {w w₁ : World}

theorem profile_tenants {op : ProfileOp} (he : ProfileEffect w op w₁) (h : TenantsAgree w) :
    TenantsAgree w₁ := by
  cases he with
  | submitted ht =>
    exact h.owners ⟨Lib.Table.statusKept_insert? ht, .refl _, .refl _⟩ rfl rfl rfl
  | @verified clock profileId actor p hp hstatus =>
    refine h.owners ⟨?_, .refl _, .refl _⟩ rfl rfl rfl
    exact Lib.Table.statusKept_modify (PaykhPaymentProfile.asApproved_id (clock 0))
      fun _ _ _ => rfl
  | activated hp hstatus =>
    refine h.owners ⟨?_, .refl _, .refl _⟩ rfl rfl rfl
    exact Lib.Table.statusKept_modify (PaykhPaymentProfile.withStatus_id .active) fun _ _ _ => rfl
  | suspended hp =>
    refine h.owners ⟨?_, .refl _, .refl _⟩ rfl rfl rfl
    exact Lib.Table.statusKept_modify (PaykhPaymentProfile.withStatus_id .suspended)
      fun _ _ _ => rfl

theorem merchant_tenants {op : MerchantOp} (he : MerchantEffect w op w₁) (h : TenantsAgree w) :
    TenantsAgree w₁ := by
  cases he with
  | registered ht =>
    exact h.owners ⟨.refl _, Lib.Table.statusKept_insert? ht, .refl _⟩ rfl rfl rfl
  | @reported clock input id m hm hkey =>
    refine h.owners ⟨.refl _, ?_, .refl _⟩ rfl rfl rfl
    exact Lib.Table.statusKept_modify (PaykhMerchant.asReported_id input (clock 0))
      fun _ _ _ => rfl
  | @updated clock id input m hm =>
    refine h.owners ⟨.refl _, ?_, .refl _⟩ rfl rfl rfl
    exact Lib.Table.statusKept_modify (PaykhMerchant.asUpdated_id input (clock 0)) fun _ _ _ => rfl

theorem order_tenants {op : PaymentOp} (he : PaymentEffect w op w₁) (h : TenantsAgree w)
    (hop : ¬CrossesTenants w (.books (.order op))) : TenantsAgree w₁ := by
  cases he with
  | unchanged => exact h
  | @created clock input id uuid profile amountMinor expiresAt t hplaces ht =>
    refine ⟨Lib.Table.forall_insert? h.orders ht ⟨profile, hplaces.found, ?_⟩, h.settlements,
      h.redemptions⟩
    exact not_ne_iff.mp fun hne => hop ⟨profile, amountMinor, expiresAt, hplaces, hne⟩
  | expired ho hawaits =>
    refine h.kept ⟨.refl _, .refl _, .refl _⟩ ⟨?_, .refl _, .refl _⟩
    exact Lib.Table.columnsFrom_modify PaykhPaymentOrder.asExpired_id fun _ => rfl
  | booked _ _ _ _ _ _ => exact ⟨h.orders, h.settlements, h.redemptions⟩
  | @confirmed clock orderId input o e ho hawaits _ _ _ =>
    have hposted : TenantsAgree (w.posted e) := ⟨h.orders, h.settlements, h.redemptions⟩
    refine hposted.kept ⟨.refl _, .refl _, .refl _⟩ ⟨?_, .refl _, .refl _⟩
    exact Lib.Table.columnsFrom_modify
      (PaykhPaymentOrder.asConfirmed_id input.bankTransactionId (clock 1)) fun _ => rfl
  | @refunded orderId actor reason o e ho hstatus he =>
    have hposted : TenantsAgree (w.posted e) := ⟨h.orders, h.settlements, h.redemptions⟩
    refine hposted.kept ⟨.refl _, .refl _, .refl _⟩ ⟨?_, .refl _, .refl _⟩
    exact Lib.Table.columnsFrom_modify PaykhPaymentOrder.asRefunded_id fun _ => rfl
  | cancelled ho hstatus =>
    refine h.kept ⟨.refl _, .refl _, .refl _⟩ ⟨?_, .refl _, .refl _⟩
    exact Lib.Table.columnsFrom_modify PaykhPaymentOrder.asCancelled_id fun _ => rfl

theorem settlement_tenants {op : SettlementOp} (he : SettlementEffect w op w₁)
    (h : TenantsAgree w) (hop : ¬CrossesTenants w (.books (.settlement op))) :
    TenantsAgree w₁ := by
  cases he with
  | created ht hrequests | createdUnlogged ht hrequests =>
    obtain ⟨m, hm, -⟩ := hrequests.merchant
    refine ⟨h.orders, Lib.Table.forall_insert? h.settlements ht ⟨m, hm, ?_⟩, h.redemptions⟩
    exact not_ne_iff.mp fun hne => hop ⟨_, m, hrequests, hm, hne⟩
  | @approved settlementId checkerId s hs hstatus hmaker =>
    refine h.kept ⟨.refl _, .refl _, .refl _⟩ ⟨.refl _, ?_, .refl _⟩
    exact Lib.Table.columnsFrom_modify (PaykhSettlement.asApproved_id checkerId) fun _ => rfl
  | @confirmed clock settlementId actor s e hs hstatus he =>
    have hposted : TenantsAgree (w.posted e) := ⟨h.orders, h.settlements, h.redemptions⟩
    refine hposted.kept ⟨.refl _, .refl _, .refl _⟩ ⟨.refl _, ?_, .refl _⟩
    exact Lib.Table.columnsFrom_modify (PaykhSettlement.asConfirmed_id (clock 0)) fun _ => rfl
  | cancelled hs hstatus =>
    refine h.kept ⟨.refl _, .refl _, .refl _⟩ ⟨.refl _, ?_, .refl _⟩
    exact Lib.Table.columnsFrom_modify PaykhSettlement.asCancelled_id fun _ => rfl

theorem loyalty_tenants {op : LoyaltyOp} (he : LoyaltyEffect w op w₁) (h : TenantsAgree w)
    (hop : ¬CrossesTenants w (.books (.loyalty op))) : TenantsAgree w₁ := by
  cases he with
  | unchanged => exact h
  | bound _ _ _ ht =>
    exact h.owners ⟨.refl _, .refl _, Lib.Table.statusKept_insert? ht⟩ rfl rfl rfl
  | issueBooked _ _ _ => exact ⟨h.orders, h.settlements, h.redemptions⟩
  | @issued gateway uuid id input liability fund amount e row t _ _ _ _ _ =>
    refine h.owners ⟨.refl _, .refl _, ?_⟩ rfl rfl rfl
    exact Lib.Table.statusKept_modify (PaykhLoyaltyLiability.asIssued_id
      (liability.outstandingMinor + amount.minor) (liability.issuedTotalMinor + amount.minor))
      fun _ _ _ => rfl
  | redeemBooked _ _ _ => exact ⟨h.orders, h.settlements, h.redemptions⟩
  | @redeemed gateway clock uuid id input liability amount e row t hchecks _ hfits _ ht hnames
      chain hchain htexts =>
    have hkept : OwnersKept w ((w.posted e).redeemedOn liability amount.minor) :=
      ⟨.refl _, .refl _, Lib.Table.statusKept_modify (PaykhLoyaltyLiability.asRedeemed_id
        (liability.outstandingMinor - amount.minor) (liability.redeemedTotalMinor + amount.minor))
        fun _ _ _ => rfl⟩
    have hcounted : TenantsAgree ((w.posted e).redeemedOn liability amount.minor) :=
      h.owners hkept rfl rfl rfl
    refine ⟨hcounted.orders, hcounted.settlements,
      Lib.Table.forall_insert? hcounted.redemptions ht ⟨liability.tenantId, ?_, ?_⟩⟩
    · rw [hnames.1]
      exact hkept.liability ⟨liability, Lib.Table.find?_key_of_mem
        (Lib.Table.mem_of_find? hchecks.found), rfl⟩
    · rw [hnames.2]
      obtain ⟨m, hm, -, -⟩ := hchecks.merchant
      exact ⟨m, hm, not_ne_iff.mp fun hne =>
        hop ⟨liability, amount, chain, m, ⟨hchecks, hfits, hchain, htexts⟩, hm, hne⟩⟩
  | @reconciled gateway clock liabilityId liability supply status _ =>
    refine h.owners ⟨.refl _, .refl _, ?_⟩ rfl rfl rfl
    exact Lib.Table.statusKept_modify
      (PaykhLoyaltyLiability.asReconciled_id supply status (clock 0)) fun _ _ _ => rfl

end

theorem fund_tenants {w w₁ : World} {op : FundOp} (he : FundEffect w op w₁) (h : TenantsAgree w) :
    TenantsAgree w₁ := by
  cases he <;> exact ⟨h.orders, h.settlements, h.redemptions⟩

theorem TenantsAgree.logged {w : World} (h : TenantsAgree w) (rows : List AuditLog)
    (events : List OutboxEvent) : TenantsAgree (w.logged rows events) :=
  ⟨h.orders, h.settlements, h.redemptions⟩

/-- **An operation that crosses no tenants keeps the invariant.** -/
theorem tenants_step {w : World} {op : PaykhRequest} (h : TenantsAgree w)
    (hop : ¬CrossesTenants w op) : TenantsAgree (op.step w) := by
  cases op with
  | profile op => exact (op.served w).after h (fun _ he => profile_tenants he h) .logged
  | merchant op => exact (op.served w).after h (fun _ he => merchant_tenants he h) .logged
  | reconciliation op =>
    refine (op.served w).after h (fun _ he => ?_) .logged
    cases he
    exact ⟨h.orders, h.settlements, h.redemptions⟩
  | books op =>
    cases op with
    | order op => exact after_effect (op.effect w) (fun _ he => order_tenants he h hop) .logged
    | fund op => exact after_effect (op.effect w) (fun _ he => fund_tenants he h) .logged
    | loyalty op => exact after_effect (op.effect w) (fun _ he => loyalty_tenants he h hop) .logged
    | settlement op =>
      exact (op.served w).after h (fun _ he => settlement_tenants he h hop) .logged

/-- **Records stay within their tenant** in every run without an operation that crosses. -/
theorem tenants_run {w : World} {ops : List PaykhRequest} (hw : TenantsAgree w)
    (hops : Meets PaykhRequest.step (fun w op => ¬CrossesTenants w op) w ops) :
    TenantsAgree (ops.foldl PaykhRequest.step w) :=
  Lib.inv_run (fun _ _ h hop => tenants_step h hop) hw hops

end

/-! ## An order on the profile of another tenant -/

attribute [local instance] Runtime.ascii

namespace Sample

theorem tenantProfile_nodup : ([profile].map PaykhPaymentProfile.id).Nodup :=
  List.nodup_singleton _

/-- The deployment with a profile of the first tenant. -/
def tenantWorld : World :=
  { loyaltyWorld with paykhPaymentProfiles := ⟨[profile], tenantProfile_nodup⟩ }

/-- A tenant places an order on that profile. -/
def orderBy (tenantId : String) : PaykhRequest :=
  .books (.order (.create clock
    { tenantId, profileId := "PP1", amountMinor := "20", currency := "USD"
      ttlSeconds := none, actor := "tenant" } "O1" "uuid"))

/-- What the orders refer to after a run. -/
def ordersAfter (ops : List PaykhRequest) : List (String × String) :=
  (ops.foldl PaykhRequest.step tenantWorld).paykhPaymentOrders.rows.map (·.refers)

theorem tenantWorld_agrees : TenantsAgree tenantWorld where
  orders _ ho := by cases ho
  settlements _ hs := by cases hs
  redemptions _ hr := by cases hr

end Sample

theorem tenants_run_example :
    Sample.ordersAfter [Sample.orderBy "tenant-1"] = [("PP1", "tenant-1")] ∧
      TenantsAgree ([Sample.orderBy "tenant-1"].foldl PaykhRequest.step Sample.tenantWorld) := by
  refine ⟨by decide +kernel, tenants_run Sample.tenantWorld_agrees ⟨?_, trivial⟩⟩
  rintro ⟨p, amountMinor, expiresAt, hplaces, hne⟩
  rw [List.mem_singleton.mp (Lib.Table.mem_of_find? hplaces.found)] at hne
  exact hne rfl

/-- A tenant places an order on the profile of another. -/
theorem order_crosses_tenants : ¬∀ [Runtime] (w : World) (ops : List PaykhRequest),
    TenantsAgree w → TenantsAgree (ops.foldl PaykhRequest.step w) := by
  intro h
  have hagree := h Sample.tenantWorld [Sample.orderBy "tenant-2"] Sample.tenantWorld_agrees
  have horders : Sample.ordersAfter [Sample.orderBy "tenant-2"] = [("PP1", "tenant-2")] := by
    decide +kernel
  have howner : (([Sample.orderBy "tenant-2"].foldl PaykhRequest.step
      Sample.tenantWorld).paykhPaymentProfiles.find? "PP1").map (·.tenantId) = some "tenant-1" := by
    decide +kernel
  obtain ⟨o, ho, hrefers⟩ := List.mem_map.mp (horders ▸ List.mem_singleton_self _)
  obtain ⟨p, hp, htenant⟩ := hagree.orders o ho
  obtain ⟨hprofile, horder⟩ := Prod.mk.inj hrefers
  rw [hprofile] at hp
  rw [hp, Option.map_some, htenant, horder] at howner
  exact absurd howner (by decide)

end TrusteeBank
