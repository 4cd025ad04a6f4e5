import TrusteeBank.Services.Settlements

/-!
# Merchants

`MerchantsService` mirrors the merchants PayKH has onboarded. PayKH is the system of record for
who is active and verified; here a merchant is registered or reported again under its tenant and
code, and its status is updated.

**Theorem (`MerchantOp.served`).** An operation fails and changes nothing, or it stores one
merchant or rewrites what is reported of one. Its tenant and its code never change.
-/

set_option autoImplicit false

namespace TrusteeBank

open Lib (Call)

section

variable [Runtime]

structure RegisterMerchantInput where
  tenantId : String
  merchantCode : String
  legalName : String
  country : Option String
  paykhMerchantRef : Option String
  kycStatus : Option String
  status : Option String
  riskLevel : Option String
  actor : String

structure MerchantStatusInput where
  kycStatus : Option String
  status : Option String
  riskLevel : Option String
  actor : String

/-- What is answered about a merchant. -/
structure SerializedMerchant where
  id : String
  tenantId : String
  merchantCode : String
  paykhMerchantRef : Option String
  legalName : String
  country : Option String
  kycStatus : String
  riskLevel : String
  status : String
  source : String
deriving DecidableEq, Repr

namespace PaykhMerchant

/-- `{ ...merchant, ...data }` of a merchant that is reported again. -/
def asReported (input : RegisterMerchantInput) (lastReportedAt : Int) (m : PaykhMerchant) :
    PaykhMerchant :=
  { m with
    legalName := input.legalName
    country := input.country
    paykhMerchantRef := input.paykhMerchantRef
    kycStatus := input.kycStatus.getD "PENDING"
    status := input.status.getD "ACTIVE"
    riskLevel := input.riskLevel.getD "LOW"
    lastReportedAt }

/-- `{ ...merchant, kycStatus, status, riskLevel, lastReportedAt }`. -/
def asUpdated (input : MerchantStatusInput) (lastReportedAt : Int) (m : PaykhMerchant) :
    PaykhMerchant :=
  { m with
    kycStatus := input.kycStatus.getD m.kycStatus
    status := input.status.getD m.status
    riskLevel := input.riskLevel.getD m.riskLevel
    lastReportedAt }

omit [Runtime]

theorem asReported_id (input : RegisterMerchantInput) (lastReportedAt : Int) (m : PaykhMerchant) :
    (m.asReported input lastReportedAt).id = m.id := rfl

theorem asUpdated_id (input : MerchantStatusInput) (lastReportedAt : Int) (m : PaykhMerchant) :
    (m.asUpdated input lastReportedAt).id = m.id := rfl

end PaykhMerchant

namespace MerchantsService

def requireMerchant (id : String) : Service PaykhMerchant := do
  let m ← Prisma.paykhMerchant.findUnique id
  orThrow m (.notFound ("Merchant " ++ id ++ " not found"))

def serialize (m : PaykhMerchant) : SerializedMerchant where
  id := m.id
  tenantId := m.tenantId
  merchantCode := m.merchantCode
  paykhMerchantRef := m.paykhMerchantRef
  legalName := m.legalName
  country := m.country
  kycStatus := m.kycStatus
  riskLevel := m.riskLevel
  status := m.status
  source := m.source

/-- The row a first registration stores. -/
def registeredMerchant (input : RegisterMerchantInput) (id : String) (lastReportedAt : Int) :
    PaykhMerchant where
  id := id
  tenantId := input.tenantId
  merchantCode := input.merchantCode
  paykhMerchantRef := input.paykhMerchantRef
  legalName := input.legalName
  country := input.country
  kycStatus := input.kycStatus.getD "PENDING"
  status := input.status.getD "ACTIVE"
  riskLevel := input.riskLevel.getD "LOW"
  source := "PAYKH"
  lastReportedAt := lastReportedAt

/-- The merchant is registered under the tenant and the code. -/
def isRegisteredAs (input : RegisterMerchantInput) (m : PaykhMerchant) : Bool :=
  m.tenantId = input.tenantId && m.merchantCode = input.merchantCode

/-- The texts of a registration that are stored; an absent status is stored as its default. -/
def registerTexts (input : RegisterMerchantInput) : List String :=
  [input.tenantId, input.merchantCode, input.legalName] ++
    [input.country, input.paykhMerchantRef, input.kycStatus, input.status,
      input.riskLevel].flatMap Option.toList

/-- The texts of an update that are stored. -/
def updateTexts (input : MerchantStatusInput) : List String :=
  [input.kycStatus, input.status, input.riskLevel].flatMap Option.toList

/-- PayKH registers, or reports again, a merchant it has onboarded. -/
def register (clock : Clock) (input : RegisterMerchantInput) (id : String) :
    Service SerializedMerchant := do
  let merchant ← Prisma.paykhMerchant.upsert (fun _ => checkTexts (registerTexts input))
    (isRegisteredAs input) (registeredMerchant input id (clock 0))
    (PaykhMerchant.asReported input (clock 0)) (PaykhMerchant.asReported_id input (clock 0))
  AuditService.record
    { actor := input.actor
      action := "paykh.merchant.registered"
      subjectType := "PAYKH_MERCHANT"
      subjectId := some merchant.id
      afterState := some (.object [("kycStatus", .string merchant.kycStatus),
        ("status", .string merchant.status)]) }
  return serialize merchant

/-- PayKH updates what it reports of a merchant. -/
def updateStatus (clock : Clock) (id : String) (input : MerchantStatusInput) :
    Service SerializedMerchant := do
  let _ ← requireMerchant id
  let updated ← Prisma.paykhMerchant.update (textColumns (updateTexts input)) id
    (PaykhMerchant.asUpdated input (clock 0)) (PaykhMerchant.asUpdated_id input (clock 0))
  AuditService.record
    { actor := input.actor
      action := "paykh.merchant.status_updated"
      subjectType := "PAYKH_MERCHANT"
      subjectId := some id
      afterState := some (.object [("kycStatus", .string updated.kycStatus),
        ("status", .string updated.status)]) }
  return serialize updated

end MerchantsService

open MerchantsService

/-! ## Operations -/

inductive MerchantOp
  | register (clock : Clock) (input : RegisterMerchantInput) (id : String)
  | updateStatus (clock : Clock) (id : String) (input : MerchantStatusInput)

def MerchantOp.call : MerchantOp → Service Unit
  | .register clock input id => (MerchantsService.register clock input id).void
  | .updateStatus clock id input => (MerchantsService.updateStatus clock id input).void

/-- Serve one operation alone, whether it succeeds or throws. -/
def MerchantOp.step (w : World) (op : MerchantOp) : World := (op.call.run w).2

/-! ## Effects -/

/-- The state with one merchant rewritten. -/
def World.updateMerchant (w : World) (id : String) (f : PaykhMerchant → PaykhMerchant)
    (hf : ∀ m, (f m).id = m.id) : World :=
  { w with paykhMerchants := w.paykhMerchants.modify id f hf }

/-- What an operation did to the merchants. -/
inductive MerchantEffect (w : World) : MerchantOp → World → Prop
  | registered {clock : Clock} {input : RegisterMerchantInput} {id : String}
      {t : Lib.Table PaykhMerchant.id}
      (ht : w.paykhMerchants.insert? (registeredMerchant input id (clock 0)) = some t) :
      MerchantEffect w (.register clock input id) { w with paykhMerchants := t }
  | reported {clock : Clock} {input : RegisterMerchantInput} {id : String} {m : PaykhMerchant}
      (hm : w.paykhMerchants.find? m.id = some m) (hkey : isRegisteredAs input m = true) :
      MerchantEffect w (.register clock input id)
        (w.updateMerchant m.id (PaykhMerchant.asReported input (clock 0))
          (PaykhMerchant.asReported_id input (clock 0)))
  | updated {clock : Clock} {id : String} {input : MerchantStatusInput} {m : PaykhMerchant}
      (hm : w.paykhMerchants.find? id = some m) :
      MerchantEffect w (.updateStatus clock id input)
        (w.updateMerchant id (PaykhMerchant.asUpdated input (clock 0))
          (PaykhMerchant.asUpdated_id input (clock 0)))

theorem register_merchant_served (w : World) (clock : Clock) (input : RegisterMerchantInput)
    (id : String) : Served (MerchantEffect w (.register clock input id)) w
      ((MerchantsService.register clock input id).run w) := by
  unfold MerchantsService.register
  rw [Call.run_bind]
  rcases Entity.run_upsert_cases Prisma.paykhMerchant (fun _ => checkTexts (registerTexts input))
    (isRegisteredAs input) (registeredMerchant input id (clock 0))
    (PaykhMerchant.asReported input (clock 0)) (PaykhMerchant.asReported_id input (clock 0)) w with
    ⟨e, h⟩ | ⟨-, ⟨old, hold, h⟩ | ⟨t, -, ht, h⟩⟩
  · rw [h]
    exact .failed _
  · rw [h]
    have hmem := Lib.Table.find?_key_of_mem (List.mem_of_find?_eq_some hold)
    exact .logs (.reported hmem (List.find?_some hold)) (.record_bind (logs_pure _))
  · rw [h]
    exact .logs (.registered ht) (.record_bind (logs_pure _))

theorem updateStatus_served (w : World) (clock : Clock) (id : String)
    (input : MerchantStatusInput) : Served (MerchantEffect w (.updateStatus clock id input)) w
      ((MerchantsService.updateStatus clock id input).run w) := by
  unfold MerchantsService.updateStatus requireMerchant
  rw [bind_assoc]
  refine .find_bind Prisma.paykhMerchant fun m hm => ?_
  refine .checked_update_bind Prisma.paykhMerchant hm fun _ => ?_
  exact .logs (.updated hm) (.record_bind (logs_pure _))

/-- **Every operation fails or has an effect in the list.** -/
theorem MerchantOp.served (w : World) (op : MerchantOp) :
    Served (MerchantEffect w op) w (op.call.run w) := by
  cases op with
  | register clock input id => exact (register_merchant_served w clock input id).void
  | updateStatus clock id input => exact (updateStatus_served w clock id input).void

end

end TrusteeBank
