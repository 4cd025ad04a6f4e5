import TrusteeBank.Paykh.LoyaltyBooks
import TrusteeBank.Paykh.OrderBooks
import TrusteeBank.Services.Reserve

/-!
# PayKH and the reserves

Both platforms post to one ledger, whose program column holds a program of PayChain or a tenant of
PayKH. The tenant is a text the client chooses, and nothing keeps it apart from the programs.

* `paykh_position`: while PayKH books no cash under the program's own identifier and currency, no
  run of its operations moves the position of the program's reserve;
* `paykh_moves_position`: a tenant named like the program raises its reserve.
-/

set_option autoImplicit false

namespace TrusteeBank

open LedgerAccountCode LoyaltyService ProgramFundsService

section

variable [Runtime]

/-! ## Operations -/

/-- The operations of PayKH that reach the ledger, and those around them. -/
inductive PaykhOp
  | order (op : PaymentOp)
  | fund (op : FundOp)
  | loyalty (op : LoyaltyOp)
  | settlement (op : SettlementOp)

/-- Serve one operation alone, whether it succeeds or throws. -/
def PaykhOp.step (w : World) : PaykhOp → World
  | .order op => op.step w
  | .fund op => op.step w
  | .loyalty op => op.step w
  | .settlement op => op.step w

/-- The settlement is of a tenant, and its entry is in a currency. -/
def PaykhSettlement.InBooks (s : PaykhSettlement) (tenantId c : String) : Prop :=
  s.tenantId = tenantId ∧ Runtime.toUpperCase s.currency = c

/-- The operation passes its checks and books cash of a tenant in a currency. -/
def BooksCash (w : World) (tenantId c : String) : PaykhOp → Prop
  | .order (.checkPayment clock orderId input) => ∃ o,
    w.paykhPaymentOrders.find? orderId = some o ∧ o.Awaits ∧ Pays w clock input o ∧
      0 < o.amountMinor ∧ o.InBooks tenantId c
  | .order (.refund orderId _ _) => ∃ o, w.paykhPaymentOrders.find? orderId = some o ∧
    o.status = .confirmed ∧ 0 < o.amountMinor ∧ o.InBooks tenantId c
  | .fund (.fund fundId amountMinor _) => ∃ f amount,
    w.paykhProgramFunds.find? fundId = some f ∧ bigInt amountMinor = .ok amount ∧ 0 < amount ∧
      FitsInt8 amount ∧ f.InBooks tenantId c
  | .settlement (.confirm _ settlementId _) => ∃ s,
    w.paykhSettlements.find? settlementId = some s ∧
      (s.status = .approved ∨ s.status = .submitted) ∧ 0 < s.amountMinor ∧ s.InBooks tenantId c
  | _ => False

/-- The operation books no cash under a program's own identifier and reference currency. -/
def SparesReserve (programId : String) (w : World) (op : PaykhOp) : Prop :=
  ∀ program, w.programs.find? programId = some program →
    ¬BooksCash w programId program.referenceCurrency op

/-! ## The frame -/

/-- Everything the position of a program depends on is the same. -/
structure SameReserve (programId : String) (w w' : World) : Prop where
  programs : w'.programs = w.programs
  snapshots : w'.liabilitySnapshots = w.liabilitySnapshots
  adjustments : w'.reserveAdjustments = w.reserveAdjustments
  balances : ∀ program, w.programs.find? programId = some program → ∀ a ∈ positionAccounts,
    ledgerNet w'.ledger programId program.referenceCurrency a =
      ledgerNet w.ledger programId program.referenceCurrency a

namespace SameReserve

variable {programId : String} {w w' w'' : World}

theorem refl (w : World) : SameReserve programId w w := ⟨rfl, rfl, rfl, fun _ _ _ _ => rfl⟩

theorem trans (h : SameReserve programId w w') (h' : SameReserve programId w' w'') :
    SameReserve programId w w'' where
  programs := h'.programs.trans h.programs
  snapshots := h'.snapshots.trans h.snapshots
  adjustments := h'.adjustments.trans h.adjustments
  balances program hprogram a ha := by
    have hprogram' : w'.programs.find? programId = some program := by
      rw [h.programs]
      exact hprogram
    exact (h'.balances program hprogram' a ha).trans (h.balances program hprogram a ha)

theorem position (h : SameReserve programId w w') (now : Int) :
    positionAt w' now programId = positionAt w now programId :=
  positionAt_congr h.programs h.snapshots h.adjustments h.balances now

/-- Entries that net to nothing on the program's accounts leave its reserve as it is. -/
theorem posted (hprograms : w'.programs = w.programs)
    (hsnapshots : w'.liabilitySnapshots = w.liabilitySnapshots)
    (hadjustments : w'.reserveAdjustments = w.reserveAdjustments) {entries : List JournalEntry}
    (hledger : w'.ledger = w.ledger ++ entries)
    (hnet : ∀ program, w.programs.find? programId = some program → ∀ a ∈ positionAccounts,
      ledgerNet entries programId program.referenceCurrency a = 0) :
    SameReserve programId w w' := by
  refine ⟨hprograms, hsnapshots, hadjustments, ?_⟩
  intro program hprogram a ha
  rw [hledger, ledgerNet_append, hnet program hprogram a ha, add_zero]

/-- Nothing is posted. -/
theorem unposted (hprograms : w'.programs = w.programs)
    (hsnapshots : w'.liabilitySnapshots = w.liabilitySnapshots)
    (hadjustments : w'.reserveAdjustments = w.reserveAdjustments)
    (hledger : w'.ledger = w.ledger) : SameReserve programId w w' := by
  refine ⟨hprograms, hsnapshots, hadjustments, ?_⟩
  intro program _ a _
  rw [hledger]

theorem logged (h : SameReserve programId w w') (rows : List AuditLog)
    (events : List OutboxEvent) : SameReserve programId w (w'.logged rows events) :=
  ⟨h.programs, h.snapshots, h.adjustments, h.balances⟩

end SameReserve

/-! ## What entries do to a reserve -/

/-- An entry of another program or currency. -/
theorem IsMove.net_of_other {currency debitAccount creditAccount : String} {amount : Int}
    {references : JournalReferences} {e : JournalEntry}
    (h : IsMove currency debitAccount creditAccount amount references e) {programId c : String}
    (hscope : ¬(references.programId = programId ∧ currency = c)) (a : String) :
    ledgerNet [e] programId c a = 0 := by
  rw [h.net, if_neg hscope]

/-- The loyalty entries are between accounts that no position reads. -/
theorem IsLoyaltyMove.net_position {l : PaykhLoyaltyLiability}
    {kind debitAccount creditAccount : String} {amount : Int} {e : JournalEntry}
    (h : IsLoyaltyMove l kind debitAccount creditAccount amount e)
    (hdebit : debitAccount ∉ positionAccounts) (hcredit : creditAccount ∉ positionAccounts)
    (programId c : String) : ∀ a ∈ positionAccounts, ledgerNet [e] programId c a = 0 := by
  intro a ha
  refine h.move.net_of_ne ?_ ?_ programId c
  · rintro rfl
    exact hdebit ha
  · rintro rfl
    exact hcredit ha

section

variable {programId : String} {w w₁ : World}

theorem PaymentEffect.sameReserve {op : PaymentOp} (h : PaymentEffect w op w₁)
    (hspares : SparesReserve programId w (.order op)) : SameReserve programId w w₁ := by
  cases h with
  | unchanged => exact .refl w
  | created => exact .unposted rfl rfl rfl rfl
  | expired ho hawaits => exact .unposted rfl rfl rfl rfl
  | @booked clock orderId input o e ho hawaits hpays hprior htaken he =>
    refine .posted rfl rfl rfl rfl fun program hprogram a _ => he.move.net_of_other ?_ a
    rw [he.program]
    intro hscope
    exact hspares program hprogram ⟨o, ho, hawaits, hpays, he.move.positive, hscope⟩
  | @confirmed clock orderId input o e ho hawaits hpays hfree he =>
    refine .posted rfl rfl rfl rfl fun program hprogram a _ => he.move.net_of_other ?_ a
    rw [he.program]
    intro hscope
    exact hspares program hprogram ⟨o, ho, hawaits, hpays, he.move.positive, hscope⟩
  | @refunded orderId actor reason o e ho hstatus he =>
    refine .posted rfl rfl rfl rfl fun program hprogram a _ => ?_
    obtain ⟨collection, hcollection, hnet⟩ := he.net
    rw [hnet, hcollection.move.net_of_other, neg_zero]
    rw [hcollection.program]
    intro hscope
    exact hspares program hprogram ⟨o, ho, hstatus, hcollection.move.positive, hscope⟩
  | cancelled ho hstatus => exact .unposted rfl rfl rfl rfl

/-- What safeguarding posts nets to nothing on the reserve of a program that is spared. -/
theorem Safeguards.net_position {fund : PaykhProgramFund} {fundId amountMinor actor : String}
    {amount : Int} {entries : List JournalEntry} (h : Safeguards fund fundId amount entries)
    (hfund : w.paykhProgramFunds.find? fundId = some fund)
    (hamount : bigInt amountMinor = .ok amount)
    (hspares : SparesReserve programId w (.fund (.fund fundId amountMinor actor))) :
    ∀ program, w.programs.find? programId = some program → ∀ a ∈ positionAccounts,
      ledgerNet entries programId program.referenceCurrency a = 0 := by
  intro program hprogram a _
  cases h with
  | @required e hrequired he =>
    refine he.move.net_of_other ?_ a
    rw [he.program]
    intro hscope
    exact hspares program hprogram
      ⟨fund, amount, hfund, hamount, he.move.positive, he.fits, hscope, hrequired⟩
  | unbacked hrequired => rfl

theorem FundEffect.sameReserve {op : FundOp} (h : FundEffect w op w₁)
    (hspares : SparesReserve programId w (.fund op)) : SameReserve programId w w₁ := by
  cases h with
  | unchanged => exact .refl w
  | created ht => exact .unposted rfl rfl rfl rfl
  | overflowed hfund hamount hpositive hentries hoverflow =>
    exact .posted rfl rfl rfl rfl (hentries.net_position hfund hamount hspares)
  | funded hfund hamount hpositive hentries hfits =>
    exact .posted rfl rfl rfl rfl (hentries.net_position hfund hamount hspares)
  | reserved hfund hamount havailable hfits => exact .unposted rfl rfl rfl rfl
  | released hfund hamount hreserved hfits => exact .unposted rfl rfl rfl rfl

theorem LoyaltyEffect.sameReserve {op : LoyaltyOp} (h : LoyaltyEffect w op w₁) :
    SameReserve programId w w₁ := by
  have hissue {l : PaykhLoyaltyLiability} {amount : Int} {e : JournalEntry}
      (he : IsIssuance l amount e) (c : String) :
      ∀ a ∈ positionAccounts, ledgerNet [e] programId c a = 0 :=
    IsLoyaltyMove.net_position he (by decide) (by decide) programId c
  have hredeem {l : PaykhLoyaltyLiability} {amount : Int} {e : JournalEntry}
      (he : IsLoyaltyRedemption l amount e) (c : String) :
      ∀ a ∈ positionAccounts, ledgerNet [e] programId c a = 0 :=
    IsLoyaltyMove.net_position he (by decide) (by decide) programId c
  cases h with
  | unchanged => exact .refl w
  | bound hfund hrequired hfree ht => exact .unposted rfl rfl rfl rfl
  | issueBooked hchecks he hfails => exact .posted rfl rfl rfl rfl fun _ _ => hissue he _
  | issued hchecks he hfits hrow ht => exact .posted rfl rfl rfl rfl fun _ _ => hissue he _
  | redeemBooked hchecks he hfails => exact .posted rfl rfl rfl rfl fun _ _ => hredeem he _
  | redeemed hchecks he hfits hrow ht => exact .posted rfl rfl rfl rfl fun _ _ => hredeem he _
  | reconciled supply status hliability => exact .unposted rfl rfl rfl rfl

theorem SettlementEffect.sameReserve {op : SettlementOp} (h : SettlementEffect w op w₁)
    (hspares : SparesReserve programId w (.settlement op)) : SameReserve programId w w₁ := by
  cases h with
  | created ht => exact .unposted rfl rfl rfl rfl
  | createdUnlogged ht => exact .unposted rfl rfl rfl rfl
  | approved hs hstatus hmaker => exact .unposted rfl rfl rfl rfl
  | @confirmed clock settlementId actor s e hs hstatus he =>
    refine .posted rfl rfl rfl rfl fun program hprogram a _ => he.move.net_of_other ?_ a
    rw [he.program]
    intro hscope
    exact hspares program hprogram ⟨s, hs, hstatus, he.move.positive, hscope⟩
  | cancelled hs hstatus => exact .unposted rfl rfl rfl rfl

end

/-- An operation that spares a reserve leaves its position as it is, whether it succeeds or
throws. -/
theorem PaykhOp.sameReserve {programId : String} {w : World} {op : PaykhOp}
    (hspares : SparesReserve programId w op) : SameReserve programId w (PaykhOp.step w op) := by
  cases op with
  | order op =>
    exact after_effect (op.effect w) (fun _ heffect => heffect.sameReserve hspares) .logged
  | fund op =>
    exact after_effect (op.effect w) (fun _ heffect => heffect.sameReserve hspares) .logged
  | loyalty op => exact after_effect (op.effect w) (fun _ heffect => heffect.sameReserve) .logged
  | settlement op =>
    exact (op.served w).after (.refl w) (fun _ heffect => heffect.sameReserve hspares) .logged

/-- **PayKH leaves the position of a reserve as it is, after every run that spares it.** -/
theorem paykh_position {programId : String} {w : World} {ops : List PaykhOp}
    (hspares : Lib.Meets PaykhOp.step (SparesReserve programId) w ops) (now : Int) :
    positionAt (ops.foldl PaykhOp.step w) now programId = positionAt w now programId :=
  (Lib.rel_run SameReserve.refl (fun _ _ _ => SameReserve.trans)
    (fun _ _ h => PaykhOp.sameReserve h) hspares).position now

end

/-! ## A tenant named like the program -/

attribute [local instance] Runtime.ascii

namespace Sample

/-- A tenant creates a fund and puts 100 in it. -/
def fundedBy (tenantId : String) : List PaykhOp :=
  [.fund (.create
      { tenantId := tenantId, paykhProgramId := "PP1", classification := "BACKED_LOYALTY_STABLECOIN"
        currency := "USD", reserveAccountId := "T1", actor := "tenant" } "F1"),
   .fund (.fund "F1" "100" "tenant")]

theorem fundedBy_spares :
    Lib.Meets PaykhOp.step (SparesReserve "P1") loyaltyWorld (fundedBy "tenant-1") := by
  refine ⟨fun _ _ => not_false, ?_, trivial⟩
  have htenant : (((PaykhOp.step loyaltyWorld (.fund (.create
      { tenantId := "tenant-1", paykhProgramId := "PP1"
        classification := "BACKED_LOYALTY_STABLECOIN"
        currency := "USD", reserveAccountId := "T1", actor := "tenant" }
          "F1"))).paykhProgramFunds.find? "F1").map fun f => f.tenantId) = some "tenant-1" := by
    decide +kernel
  rintro program - ⟨f, amount, hf, -, -, -, ⟨hscope, -⟩, -⟩
  obtain ⟨f', hf', hid⟩ := Option.map_eq_some_iff.mp htenant
  cases hf.symm.trans hf'
  rw [hid] at hscope
  exact absurd hscope (by decide)

end Sample

/-- The fund of another tenant leaves the reserve as it is. -/
theorem paykh_position_other :
    positionAt ((Sample.fundedBy "tenant-1").foldl PaykhOp.step Sample.loyaltyWorld) 0 "P1" =
      positionAt Sample.loyaltyWorld 0 "P1" :=
  paykh_position Sample.fundedBy_spares 0

/-- The fund of a tenant named like the program raises the reserve from 100 to 200. -/
theorem paykh_moves_position :
    ¬∀ [Runtime] (programId : String) (w : World) (ops : List PaykhOp) (now : Int),
      positionAt (ops.foldl PaykhOp.step w) now programId = positionAt w now programId := by
  intro h
  have hsame := h "P1" Sample.loyaltyWorld (Sample.fundedBy "P1") 0
  have hafter : (positionAt ((Sample.fundedBy "P1").foldl PaykhOp.step Sample.loyaltyWorld) 0
      "P1").toOption.map (·.eligibleReserve.minor) = some 200 := by decide +kernel
  have hbefore : (positionAt Sample.loyaltyWorld 0 "P1").toOption.map
      (·.eligibleReserve.minor) = some 100 := by decide +kernel
  rw [hsame, hbefore] at hafter
  cases hafter

end TrusteeBank
