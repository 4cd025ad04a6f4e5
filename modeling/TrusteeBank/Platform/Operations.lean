import TrusteeBank.Services.Deposits
import TrusteeBank.Services.Liability
import TrusteeBank.Services.LoyaltyEffects
import TrusteeBank.Services.MintEffects
import TrusteeBank.Services.PaymentOrders
import TrusteeBank.Services.ProgramFunds
import TrusteeBank.Services.Redemption
import TrusteeBank.Services.Settlements

/-!
# The operations of the platform

A machine whose steps are the operations of every service that books value, and the one list of
what a step can do to the state (`PlatformOp.effect`).
-/

set_option autoImplicit false

namespace TrusteeBank

variable [Runtime]

inductive PlatformOp
  | deposit (op : DepositOp)
  | ingest (op : IngestOp)
  | mint (op : MintOp)
  | redemption (op : RedemptionOp)
  | order (op : PaymentOp)
  | fund (op : FundOp)
  | loyalty (op : LoyaltyOp)
  | settlement (op : SettlementOp)

/-- Serve one operation alone, whether it succeeds or throws. -/
def PlatformOp.step (w : World) : PlatformOp → World
  | .deposit op => op.step w
  | .ingest op => op.step w
  | .mint op => op.step w
  | .redemption op => op.step w
  | .order op => op.step w
  | .fund op => op.step w
  | .loyalty op => op.step w
  | .settlement op => op.step w

/-- What an operation did to the state, besides audit rows and events. -/
inductive PlatformEffect (w : World) : PlatformOp → World → Prop
  | unchanged {op : PlatformOp} : PlatformEffect w op w
  | deposit {op : DepositOp} {w₁ : World} (h : DepositEffect w op w₁) :
      PlatformEffect w (.deposit op) w₁
  | ingest {op : IngestOp} {w₁ : World} (h : IngestEffect w op w₁) :
      PlatformEffect w (.ingest op) w₁
  | mint {op : MintOp} {w₁ : World} (h : MintEffect w op w₁) : PlatformEffect w (.mint op) w₁
  | redemption {op : RedemptionOp} {w₁ : World} (h : RedemptionEffect w op w₁) :
      PlatformEffect w (.redemption op) w₁
  | order {op : PaymentOp} {w₁ : World} (h : PaymentEffect w op w₁) :
      PlatformEffect w (.order op) w₁
  | fund {op : FundOp} {w₁ : World} (h : FundEffect w op w₁) : PlatformEffect w (.fund op) w₁
  | loyalty {op : LoyaltyOp} {w₁ : World} (h : LoyaltyEffect w op w₁) :
      PlatformEffect w (.loyalty op) w₁
  | settlement {op : SettlementOp} {w₁ : World} (h : SettlementEffect w op w₁) :
      PlatformEffect w (.settlement op) w₁

/-- The operation had an effect of the list, and appended audit rows and events. -/
def HasPlatformEffect (w : World) (op : PlatformOp) (w' : World) : Prop :=
  ∃ w₁ rows events, PlatformEffect w op w₁ ∧ w' = w₁.logged rows events

theorem HasPlatformEffect.of_effect {w w' : World} {op : PlatformOp} {effect : World → Prop}
    (h : ∃ w₁ rows events, effect w₁ ∧ w' = World.logged w₁ rows events)
    (heffect : ∀ w₁, effect w₁ → PlatformEffect w op w₁) : HasPlatformEffect w op w' := by
  obtain ⟨w₁, rows, events, he, hw'⟩ := h
  exact ⟨w₁, rows, events, heffect w₁ he, hw'⟩

theorem HasPlatformEffect.of_served {α : Type} {w : World} {op : PlatformOp} {effect : World → Prop}
    {out : Except ApiError α × World} (h : Served effect w out)
    (heffect : ∀ w₁, effect w₁ → PlatformEffect w op w₁) : HasPlatformEffect w op out.2 := by
  rcases h.state with hstate | ⟨w₁, rows, events, hw₁, hstate⟩
  · exact ⟨w, [], [], .unchanged, by rw [hstate, World.logged_nil]⟩
  · exact .of_effect ⟨w₁, rows, events, hw₁, hstate⟩ heffect

/-- **Every operation has an effect in the list.** -/
theorem PlatformOp.effect (w : World) (op : PlatformOp) : HasPlatformEffect w op (op.step w) := by
  cases op with
  | deposit op => exact .of_effect (op.effect w) fun _ => .deposit
  | ingest op => exact ⟨op.step w, [], [], .ingest (op.effect w), (World.logged_nil _).symm⟩
  | mint op => exact .of_effect (op.effect w) fun _ => .mint
  | redemption op => exact .of_served (op.served w) fun _ => .redemption
  | order op => exact .of_effect (op.effect w) fun _ => .order
  | fund op => exact .of_effect (op.effect w) fun _ => .fund
  | loyalty op => exact .of_effect (op.effect w) fun _ => .loyalty
  | settlement op => exact .of_served (op.served w) fun _ => .settlement

end TrusteeBank
