import TrusteeBank.Api.Idempotency

/-!
# The controllers that take an idempotency key

`MintController` and `PaykhController` hand six requests to `IdempotencyService.run`: each with the
text of its route, in which the path identifier is filled in, and the body as it was received. The
path identifier is not part of the body.
-/

set_option autoImplicit false

namespace TrusteeBank

open Lib (Call)

section

variable [Runtime]

/-! ## Bodies -/

omit [Runtime] in
def RequestMintAuthorization.body (dto : RequestMintAuthorization) : JsValue :=
  .object
    [("programId", .string dto.programId), ("paychainRequestId", .string dto.paychainRequestId),
     ("amountMinor", .string dto.amountMinor),
     ("fundingDepositIds", .strings dto.fundingDepositIds),
     ("tenantId", .orUndefined dto.tenantId), ("destination", .orUndefined dto.destination)]

omit [Runtime] in
def ConfirmMint.body (dto : ConfirmMint) : JsValue :=
  .object
    [("paychainTransactionId", .string dto.paychainTransactionId),
     ("blockchainTxHash", .string dto.blockchainTxHash), ("amountMinor", .string dto.amountMinor),
     ("destination", .string dto.destination), ("ledgerHeight", .orUndefined dto.ledgerHeight),
     ("confirmedAt", .string dto.confirmedAt),
     ("paychainSignature", .string dto.paychainSignature), ("actor", .string dto.actor)]

omit [Runtime] in
def CreatePaymentOrder.body (dto : CreatePaymentOrder) : JsValue :=
  .object
    [("tenantId", .string dto.tenantId), ("profileId", .string dto.profileId),
     ("amountMinor", .string dto.amountMinor), ("currency", .string dto.currency),
     ("ttlSeconds", match dto.ttlSeconds with | some n => .number n | none => .undefined),
     ("actor", .string dto.actor)]

omit [Runtime] in
def CheckPaymentInput.body (dto : CheckPaymentInput) : JsValue :=
  .object
    [("bankTransactionId", .string dto.bankTransactionId), ("amountMinor", .string dto.amountMinor),
     ("currency", .string dto.currency), ("paymentReference", .string dto.paymentReference),
     ("recipientAccountMasked", .string dto.recipientAccountMasked),
     ("reserveAccountId", .string dto.reserveAccountId), ("actor", .string dto.actor)]

/-- The liability is named by the path. -/
def IssueLoyaltyInput.body (dto : IssueLoyaltyInput) : JsValue :=
  .object
    [("customerRef", .string dto.customerRef), ("amountMinor", .orUndefined dto.amountMinor),
     ("units", .orUndefined dto.units), ("actor", .string dto.actor)]

/-- The liability is named by the path. -/
def RedeemLoyaltyInput.body (dto : RedeemLoyaltyInput) : JsValue :=
  .object
    [("merchantId", .string dto.merchantId), ("customerRef", .string dto.customerRef),
     ("amountMinor", .orUndefined dto.amountMinor), ("units", .orUndefined dto.units),
     ("actor", .string dto.actor)]

/-! ## Responses -/

def MintResult.json (r : MintResult) : JsValue :=
  .object [("id", .string r.id), ("status", .string (EnumName.name r.status))]

def CreatedPaymentOrder.json (r : CreatedPaymentOrder) : JsValue :=
  .object
    [("id", .string r.id), ("status", .string (EnumName.name r.status)),
     ("paymentReference", .string r.paymentReference), ("khqrString", .ofOption r.khqrString),
     ("expiresAt", .string r.expiresAt)]

def PaymentOrderResult.json (r : PaymentOrderResult) : JsValue :=
  .object
    [("id", .string r.id), ("status", .string (EnumName.name r.status)),
     ("alreadyConfirmed", match r.alreadyConfirmed with | some b => .bool b | none => .undefined)]

def ChainResult.json (r : ChainResult) : JsValue :=
  .object
    [("status", .string r.status), ("executedBy", .string r.executedBy),
     ("paychainReference", .orUndefined r.paychainReference),
     ("onChainTxHash", .orUndefined r.onChainTxHash)]

def IssuedLoyalty.json (r : IssuedLoyalty) : JsValue :=
  .object
    [("issuanceId", .string r.issuanceId), ("liabilityId", .string r.liabilityId),
     ("amountMinor", .string r.amountMinor), ("units", .ofOption r.units),
     ("currency", .string r.currency), ("onChain", r.onChain.json)]

def RedeemedLoyalty.json (r : RedeemedLoyalty) : JsValue :=
  .object
    [("redemptionId", .string r.redemptionId), ("liabilityId", .string r.liabilityId),
     ("merchantId", .string r.merchantId), ("amountMinor", .string r.amountMinor),
     ("units", .ofOption r.units), ("settlementRequired", .bool r.settlementRequired),
     ("onChain", r.onChain.json)]

/-! ## Requests -/

/-- A request to a controller that takes a key: the path identifier and the body, and what the
service that serves it generates or reads. -/
inductive ControllerRequest
  | requestMint (dto : RequestMintAuthorization) (id nonce : String)
  | confirmMint (clock : Clock) (authId : String) (dto : ConfirmMint)
  | createOrder (clock : Clock) (dto : CreatePaymentOrder) (id uuid : String)
  | checkPayment (clock : Clock) (orderId : String) (dto : CheckPaymentInput)
  | issueLoyalty (gateway : IssuanceGateway) (uuid id : String) (dto : IssueLoyaltyInput)
  | redeemLoyalty (gateway : IssuanceGateway) (clock : Clock) (uuid id : String)
      (dto : RedeemLoyaltyInput)

namespace ControllerRequest

def route : ControllerRequest → String
  | requestMint _ _ _ => "POST /mint-authorizations"
  | confirmMint _ authId _ => "POST /mint-authorizations/" ++ authId ++ "/confirm"
  | createOrder _ _ _ _ => "POST /paykh/payment-orders"
  | checkPayment _ orderId _ => "POST /paykh/payment-orders/" ++ orderId ++ "/check-payment"
  | issueLoyalty _ _ _ dto => "POST /paykh/loyalty/" ++ dto.liabilityId ++ "/issue"
  | redeemLoyalty _ _ _ _ dto => "POST /paykh/loyalty/" ++ dto.liabilityId ++ "/redeem"

def body : ControllerRequest → JsValue
  | requestMint dto _ _ => dto.body
  | confirmMint _ _ dto => dto.body
  | createOrder _ dto _ _ => dto.body
  | checkPayment _ _ dto => dto.body
  | issueLoyalty _ _ _ dto => dto.body
  | redeemLoyalty _ _ _ _ dto => dto.body

/-- The service call behind the request. -/
def fn : ControllerRequest → Service JsValue
  | requestMint dto id nonce => do return (← MintService.request dto id nonce).json
  | confirmMint clock authId dto => do return (← MintService.confirm clock authId dto).json
  | createOrder clock dto id uuid => do
    return (← PaymentOrdersService.create clock dto id uuid).json
  | checkPayment clock orderId dto => do
    return (← PaymentOrdersService.checkPayment clock orderId dto).json
  | issueLoyalty gateway uuid id dto => do
    return (← LoyaltyService.issue gateway uuid id dto).json
  | redeemLoyalty gateway clock uuid id dto => do
    return (← LoyaltyService.redeem gateway clock uuid id dto).json

/-- What the controller hands to `IdempotencyService.run`. -/
def call (r : ControllerRequest) (key : Option String) : IdempotentCall Query World where
  key := key
  route := r.route
  body := r.body
  fn := r.fn

end ControllerRequest

end

end TrusteeBank
