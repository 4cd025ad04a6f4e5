import TrusteeBank.Cryptography

/-!
# Money, statuses and fund policies

The domain package: amounts of money in minor units, the status vocabularies, the backing policy
of each fund classification, and the denomination of a pegged token. Money never changes
currency silently: arithmetic across currencies throws.
-/

set_option autoImplicit false

namespace TrusteeBank

variable [Runtime]

/-! ## Money -/

/-- Integer minor units of a currency. -/
structure Money where
  minor : Int
  currency : String
deriving DecidableEq, Repr

/-- `money(minor, currency)`: the currency code is upper-cased. -/
def money (minor : Int) (currency : String) : Money := ⟨minor, Runtime.toUpperCase currency⟩

def zero (currency : String) : Money := ⟨0, Runtime.toUpperCase currency⟩

namespace Money

omit [Runtime]

def assertSameCurrency (a b : Money) : Except ApiError Unit :=
  if a.currency ≠ b.currency then
    .error (.thrown "CurrencyMismatchError"
      ("Currency mismatch: " ++ a.currency ++ " vs " ++ b.currency))
  else .ok ()

def add (a b : Money) : Except ApiError Money := do
  assertSameCurrency a b
  return ⟨a.minor + b.minor, a.currency⟩

def subtract (a b : Money) : Except ApiError Money := do
  assertSameCurrency a b
  return ⟨a.minor - b.minor, a.currency⟩

/-- The sum of a non-empty list. -/
def sum : List Money → Except ApiError Money
  | [] => .error (.thrown "Error" "Cannot sum an empty list of Money without a currency")
  | first :: rest => rest.foldlM add first

def isZero (a : Money) : Bool := a.minor = 0

def isNegative (a : Money) : Bool := a.minor < 0

def isPositive (a : Money) : Bool := a.minor > 0

/-- `-1`, `0` or `1` comparing `a` to `b`. -/
def compare (a b : Money) : Except ApiError Int := do
  assertSameCurrency a b
  return if a.minor < b.minor then -1 else if a.minor > b.minor then 1 else 0

def gte (a b : Money) : Except ApiError Bool := do return (← compare a b) ≥ 0

def max (a b : Money) : Except ApiError Money := do return if ← gte a b then a else b

theorem add_eq_ok {a b : Money} (h : a.currency = b.currency) :
    add a b = .ok ⟨a.minor + b.minor, a.currency⟩ := by
  simp [add, assertSameCurrency, h, bind, Except.bind, pure, Except.pure]

theorem subtract_eq_ok {a b : Money} (h : a.currency = b.currency) :
    subtract a b = .ok ⟨a.minor - b.minor, a.currency⟩ := by
  simp [subtract, assertSameCurrency, h, bind, Except.bind, pure, Except.pure]

theorem gte_eq_ok {a b : Money} (h : a.currency = b.currency) :
    gte a b = .ok (decide (b.minor ≤ a.minor)) := by
  unfold gte compare assertSameCurrency
  simp only [h, bind, Except.bind, pure, Except.pure, ne_eq, not_true_eq_false, if_false]
  split
  · next hlt => simpa using hlt
  · next hge =>
    split
    · next hgt => simp only [Except.ok.injEq]; grind
    · grind

theorem max_eq_ok {a b : Money} (h : a.currency = b.currency) :
    max a b = .ok ⟨Max.max a.minor b.minor, a.currency⟩ := by
  obtain ⟨m, c⟩ := a
  obtain ⟨n, d⟩ := b
  obtain rfl : c = d := h
  have hgte : gte ⟨m, c⟩ ⟨n, c⟩ = .ok (decide (n ≤ m)) := gte_eq_ok rfl
  simp only [max, hgte, bind, Except.bind, pure, Except.pure, decide_eq_true_eq]
  by_cases hmn : n ≤ m
  · rw [if_pos hmn, Int.max_eq_left hmn]
  · rw [if_neg hmn, Int.max_eq_right (by omega)]

end Money

@[simp] theorem money_minor (m : Int) (c : String) : (money m c).minor = m := rfl

@[simp] theorem money_currency (m : Int) (c : String) :
    (money m c).currency = Runtime.toUpperCase c := rfl

@[simp] theorem zero_minor (c : String) : (zero c).minor = 0 := rfl

@[simp] theorem zero_currency (c : String) : (zero c).currency = Runtime.toUpperCase c := rfl

/-! ## Statuses -/

inductive ProgramStatus
  | draft | active | suspended | expired | closed
deriving DecidableEq, Repr

inductive AccountStatus
  | pendingActivation | active | restricted | onHold | closed
deriving DecidableEq, Repr

inductive FundingInstructionStatus
  | issued | partiallyFunded | funded | expired | cancelled
deriving DecidableEq, Repr

inductive DepositStatus
  | expected | detected | unmatched | matched | pendingClearance | cleared | held | rejected
  | returned | allocatedToReserve | availableForMint | consumedByMint | refunded
  | manualReview
deriving DecidableEq, Repr

/-- A deposit may back minting only in these states. -/
def mintEligibleDepositStatuses : List DepositStatus :=
  [.cleared, .allocatedToReserve, .availableForMint]

inductive MintAuthorizationStatus
  | draft | pendingMaker | pendingChecker | approved | issued | consumed | expired | revoked
  | rejected
deriving DecidableEq, Repr

inductive ApprovalDecision
  | pending | approved | rejected
deriving DecidableEq, Repr

inductive RedemptionStatus
  | requested | validating | complianceReview | awaitingApproval | approved | assetLockPending
  | assetLocked | burnPending | burnConfirmed | payoutPending | payoutSubmitted
  | payoutConfirmed | completed | rejected | failed | returned | manualReview
deriving DecidableEq, Repr

inductive PaymentProfileStatus
  | submitted | verifying | approved | active | suspended | rejected
deriving DecidableEq, Repr

inductive PaymentOrderStatus
  | created | awaitingPayment | paymentDetected | confirmed | duplicate | rejected | refunded
  | expired | cancelled
deriving DecidableEq, Repr

inductive SettlementStatus
  | requested | approved | submitted | confirmed | cancelled | failed
deriving DecidableEq, Repr

/-- The text of a database enumeration value. -/
class EnumName (α : Type) where
  name : α → String

instance : EnumName FundingInstructionStatus where
  name
    | .issued => "ISSUED"
    | .partiallyFunded => "PARTIALLY_FUNDED"
    | .funded => "FUNDED"
    | .expired => "EXPIRED"
    | .cancelled => "CANCELLED"

instance : EnumName DepositStatus where
  name
    | .expected => "EXPECTED"
    | .detected => "DETECTED"
    | .unmatched => "UNMATCHED"
    | .matched => "MATCHED"
    | .pendingClearance => "PENDING_CLEARANCE"
    | .cleared => "CLEARED"
    | .held => "HELD"
    | .rejected => "REJECTED"
    | .returned => "RETURNED"
    | .allocatedToReserve => "ALLOCATED_TO_RESERVE"
    | .availableForMint => "AVAILABLE_FOR_MINT"
    | .consumedByMint => "CONSUMED_BY_MINT"
    | .refunded => "REFUNDED"
    | .manualReview => "MANUAL_REVIEW"

instance : EnumName MintAuthorizationStatus where
  name
    | .draft => "DRAFT"
    | .pendingMaker => "PENDING_MAKER"
    | .pendingChecker => "PENDING_CHECKER"
    | .approved => "APPROVED"
    | .issued => "ISSUED"
    | .consumed => "CONSUMED"
    | .expired => "EXPIRED"
    | .revoked => "REVOKED"
    | .rejected => "REJECTED"

instance : EnumName RedemptionStatus where
  name
    | .requested => "REQUESTED"
    | .validating => "VALIDATING"
    | .complianceReview => "COMPLIANCE_REVIEW"
    | .awaitingApproval => "AWAITING_APPROVAL"
    | .approved => "APPROVED"
    | .assetLockPending => "ASSET_LOCK_PENDING"
    | .assetLocked => "ASSET_LOCKED"
    | .burnPending => "BURN_PENDING"
    | .burnConfirmed => "BURN_CONFIRMED"
    | .payoutPending => "PAYOUT_PENDING"
    | .payoutSubmitted => "PAYOUT_SUBMITTED"
    | .payoutConfirmed => "PAYOUT_CONFIRMED"
    | .completed => "COMPLETED"
    | .rejected => "REJECTED"
    | .failed => "FAILED"
    | .returned => "RETURNED"
    | .manualReview => "MANUAL_REVIEW"

instance : EnumName PaymentProfileStatus where
  name
    | .submitted => "SUBMITTED"
    | .verifying => "VERIFYING"
    | .approved => "APPROVED"
    | .active => "ACTIVE"
    | .suspended => "SUSPENDED"
    | .rejected => "REJECTED"

instance : EnumName PaymentOrderStatus where
  name
    | .created => "CREATED"
    | .awaitingPayment => "AWAITING_PAYMENT"
    | .paymentDetected => "PAYMENT_DETECTED"
    | .confirmed => "CONFIRMED"
    | .duplicate => "DUPLICATE"
    | .rejected => "REJECTED"
    | .refunded => "REFUNDED"
    | .expired => "EXPIRED"
    | .cancelled => "CANCELLED"

instance : EnumName SettlementStatus where
  name
    | .requested => "REQUESTED"
    | .approved => "APPROVED"
    | .submitted => "SUBMITTED"
    | .confirmed => "CONFIRMED"
    | .cancelled => "CANCELLED"
    | .failed => "FAILED"

/-! ## Fund classification -/

structure FundBackingPolicy where
  classification : String
  fiatBackingRequired : Bool
  requiredBackingBps : Int
  redeemable : Bool
  transferable : Bool
  authorizationRequired : Bool
deriving DecidableEq, Repr

def fundPolicies : List FundBackingPolicy :=
  [⟨"NON_MONETARY_PROMOTIONAL_POINT", false, 0, false, false, false⟩,
   ⟨"CLOSED_LOOP_LOYALTY_VALUE", false, 0, true, false, false⟩,
   ⟨"BACKED_LOYALTY_STABLECOIN", true, 10000, true, true, true⟩,
   ⟨"MERCHANT_FUNDED_REWARD", true, 10000, true, false, true⟩,
   ⟨"PLATFORM_FUNDED_REWARD", true, 10000, true, false, true⟩,
   ⟨"CASHBACK_LIABILITY", true, 10000, true, false, true⟩,
   ⟨"GIFT_CARD_LIABILITY", true, 10000, true, true, true⟩,
   ⟨"CUSTOMER_SAFEGUARDED_FUNDS", true, 10000, true, true, true⟩,
   ⟨"MERCHANT_SETTLEMENT_PAYABLE", true, 10000, false, false, true⟩,
   ⟨"STABLE_VALUE_LIABILITY", true, 10000, true, true, true⟩,
   ⟨"FIAT_BACKED_STABLECOIN_LIABILITY", true, 10000, true, true, true⟩,
   ⟨"TOKENIZED_DEPOSIT_LIABILITY", true, 10000, true, true, true⟩]

/-- The members every object inherits: looked up in `POLICIES` they are found, and have none of a
policy's fields. -/
def objectPrototypeKeys : List String :=
  ["constructor", "__defineGetter__", "__defineSetter__", "hasOwnProperty", "__lookupGetter__",
   "__lookupSetter__", "isPrototypeOf", "propertyIsEnumerable", "toString", "valueOf",
   "__proto__", "toLocaleString"]

/-- `POLICIES[classification]`: `none` is `undefined`. -/
def backingPolicyFor (classification : String) : Option FundBackingPolicy :=
  match fundPolicies.find? fun p => p.classification = classification with
  | some p => some p
  | none =>
    if classification ∈ objectPrototypeKeys then some ⟨classification, false, 0, false, false, false⟩
    else none

/-- `backingPolicyFor(classification).fiatBackingRequired`. -/
def requiresFiatBacking (classification : String) : Except ApiError Bool := do
  let policy ← orThrow (backingPolicyFor classification) (.thrown "TypeError"
    "Cannot read properties of undefined (reading 'fiatBackingRequired')")
  return policy.fiatBackingRequired

/-! ## Peg and denomination -/

structure Peg where
  pegCurrency : String
  denominationMinor : Int
deriving DecidableEq, Repr

def makePeg (pegCurrency : String) (denominationMinor : Int) : Except ApiError Peg :=
  if denominationMinor ≤ 0 then .error (.thrown "Error" "Peg denomination must be positive")
  else .ok ⟨Runtime.toUpperCase pegCurrency, denominationMinor⟩

/-- Backing required to issue whole token units. -/
def backingForUnits (units : Int) (peg : Peg) : Except ApiError Money :=
  if units < 0 then .error (.thrown "Error" "Token units cannot be negative")
  else .ok (money (units * peg.denominationMinor) peg.pegCurrency)

/-- Whole token units represented by a backing amount, if the denomination divides it evenly. -/
def unitsForBacking (backing : Money) (peg : Peg) : Except ApiError (Option Int) :=
  if backing.currency ≠ peg.pegCurrency then
    .error (.thrown "Error" ("Backing currency " ++ backing.currency ++
      " does not match peg currency " ++ peg.pegCurrency))
  else if backing.minor % peg.denominationMinor ≠ 0 then .ok none
  else .ok (some (backing.minor / peg.denominationMinor))

end TrusteeBank
