import TrusteeBank.Infra

/-!
# Payment profiles

`PaymentProfilesService`: a tenant's KHQR recipient is submitted, verified against the trustee
bank, and activated before it can receive payment orders. Each request carries the name of whoever
makes it, which is written to the audit trail and checked against nothing.

**Theorem (`ProfileOp.served`).** An operation fails and changes nothing, or it stores one profile
or changes the status of one.
-/

set_option autoImplicit false

namespace TrusteeBank

open Lib (Call)

section

variable [Runtime]

structure SubmitPaymentProfile where
  tenantId : String
  recipientName : String
  recipientAccountMasked : String
  bankName : String
  currency : String
  khqrPayload : String
  actor : String

/-- `{ id, status }`. -/
structure ProfileResult where
  id : String
  status : PaymentProfileStatus
deriving DecidableEq, Repr

namespace PaykhPaymentProfile

/-- `{ ...profile, status: APPROVED, verifiedAt }`. -/
def asApproved (verifiedAt : Int) (p : PaykhPaymentProfile) : PaykhPaymentProfile :=
  { p with status := .approved, verifiedAt := some verifiedAt }

/-- `{ ...profile, status }`. -/
def withStatus (status : PaymentProfileStatus) (p : PaykhPaymentProfile) : PaykhPaymentProfile :=
  { p with status }

omit [Runtime]

theorem asApproved_id (verifiedAt : Int) (p : PaykhPaymentProfile) :
    (p.asApproved verifiedAt).id = p.id := rfl

theorem withStatus_id (status : PaymentProfileStatus) (p : PaykhPaymentProfile) :
    (p.withStatus status).id = p.id := rfl

end PaykhPaymentProfile

namespace PaymentProfilesService

def requireProfile (profileId : String) : Service PaykhPaymentProfile := do
  let p ← Prisma.paykhPaymentProfile.findUnique profileId
  orThrow p (.notFound ("Payment profile " ++ profileId ++ " not found"))

/-- The row a submission stores. -/
def submittedProfile (input : SubmitPaymentProfile) (id : String) : PaykhPaymentProfile where
  id := id
  tenantId := input.tenantId
  recipientName := input.recipientName
  recipientAccountMasked := input.recipientAccountMasked
  bankName := input.bankName
  currency := input.currency
  khqrPayload := input.khqrPayload
  status := .submitted
  verifiedAt := none

def profileConstraints (input : SubmitPaymentProfile) : Except ApiError Unit :=
  checkTexts [input.tenantId, input.recipientName, input.recipientAccountMasked, input.bankName,
    input.currency, input.khqrPayload]

def submit (input : SubmitPaymentProfile) (id : String) : Service ProfileResult := do
  Call.throwIf (jsTrim input.khqrPayload.toList = []) (.badRequest "KHQR payload is required")
  let profile ← Prisma.paykhPaymentProfile.create (fun _ => profileConstraints input)
    (submittedProfile input id)
  AuditService.record
    { actor := input.actor
      action := "paykh.payment_profile.submitted"
      subjectType := "PAYKH_PAYMENT_PROFILE"
      subjectId := some profile.id }
  return { id := profile.id, status := profile.status }

/-- Verification by the trustee bank of who owns the recipient account. -/
def verify (clock : Clock) (profileId actor : String) : Service ProfileResult := do
  let profile ← requireProfile profileId
  Call.throwIf (profile.status ≠ .submitted ∧ profile.status ≠ .verifying)
    (.badRequest ("Profile cannot be verified from " ++ EnumName.name profile.status))
  let updated ← Prisma.paykhPaymentProfile.update unconstrained profileId
    (PaykhPaymentProfile.asApproved (clock 0)) (PaykhPaymentProfile.asApproved_id (clock 0))
  AuditService.record
    { actor
      action := "paykh.payment_profile.verified"
      subjectType := "PAYKH_PAYMENT_PROFILE"
      subjectId := some profileId
      afterState := some (.object [("status", .string (EnumName.name updated.status))]) }
  EventsService.publishToPaykh PaykhEvent.profileVerified
    (.object [("profileId", .string profileId), ("tenantId", .string profile.tenantId)])
  return { id := profileId, status := updated.status }

def activate (profileId actor : String) : Service ProfileResult := do
  let profile ← requireProfile profileId
  Call.throwIf (profile.status ≠ .approved)
    (.badRequest "Profile must be APPROVED before activation")
  let updated ← Prisma.paykhPaymentProfile.update unconstrained profileId
    (PaykhPaymentProfile.withStatus .active) (PaykhPaymentProfile.withStatus_id .active)
  AuditService.record
    { actor
      action := "paykh.payment_profile.activated"
      subjectType := "PAYKH_PAYMENT_PROFILE"
      subjectId := some profileId }
  return { id := profileId, status := updated.status }

def suspend (profileId actor reason : String) : Service ProfileResult := do
  let _ ← requireProfile profileId
  let updated ← Prisma.paykhPaymentProfile.update unconstrained profileId
    (PaykhPaymentProfile.withStatus .suspended) (PaykhPaymentProfile.withStatus_id .suspended)
  AuditService.record
    { actor
      action := "paykh.payment_profile.suspended"
      subjectType := "PAYKH_PAYMENT_PROFILE"
      subjectId := some profileId
      reason := some reason }
  EventsService.publishToPaykh PaykhEvent.profileSuspended
    (.object [("profileId", .string profileId)])
  return { id := profileId, status := updated.status }

end PaymentProfilesService

open PaymentProfilesService

/-! ## Operations -/

inductive ProfileOp
  | submit (input : SubmitPaymentProfile) (id : String)
  | verify (clock : Clock) (profileId actor : String)
  | activate (profileId actor : String)
  | suspend (profileId actor reason : String)

def ProfileOp.call : ProfileOp → Service Unit
  | .submit input id => (PaymentProfilesService.submit input id).void
  | .verify clock profileId actor => (PaymentProfilesService.verify clock profileId actor).void
  | .activate profileId actor => (PaymentProfilesService.activate profileId actor).void
  | .suspend profileId actor reason =>
    (PaymentProfilesService.suspend profileId actor reason).void

/-- Serve one operation alone, whether it succeeds or throws. -/
def ProfileOp.step (w : World) (op : ProfileOp) : World := (op.call.run w).2

/-! ## Effects -/

/-- The state with one profile rewritten. -/
def World.updateProfile (w : World) (profileId : String)
    (f : PaykhPaymentProfile → PaykhPaymentProfile) (hf : ∀ p, (f p).id = p.id) : World :=
  { w with paykhPaymentProfiles := w.paykhPaymentProfiles.modify profileId f hf }

/-- What an operation did to the profiles. -/
inductive ProfileEffect (w : World) : ProfileOp → World → Prop
  | submitted {input : SubmitPaymentProfile} {id : String} {t : Lib.Table PaykhPaymentProfile.id}
      (ht : w.paykhPaymentProfiles.insert? (submittedProfile input id) = some t) :
      ProfileEffect w (.submit input id) { w with paykhPaymentProfiles := t }
  | verified {clock : Clock} {profileId actor : String} {p : PaykhPaymentProfile}
      (hp : w.paykhPaymentProfiles.find? profileId = some p)
      (hstatus : p.status = .submitted ∨ p.status = .verifying) :
      ProfileEffect w (.verify clock profileId actor)
        (w.updateProfile profileId (PaykhPaymentProfile.asApproved (clock 0))
          (PaykhPaymentProfile.asApproved_id (clock 0)))
  | activated {profileId actor : String} {p : PaykhPaymentProfile}
      (hp : w.paykhPaymentProfiles.find? profileId = some p) (hstatus : p.status = .approved) :
      ProfileEffect w (.activate profileId actor)
        (w.updateProfile profileId (PaykhPaymentProfile.withStatus .active)
          (PaykhPaymentProfile.withStatus_id .active))
  | suspended {profileId actor reason : String} {p : PaykhPaymentProfile}
      (hp : w.paykhPaymentProfiles.find? profileId = some p) :
      ProfileEffect w (.suspend profileId actor reason)
        (w.updateProfile profileId (PaykhPaymentProfile.withStatus .suspended)
          (PaykhPaymentProfile.withStatus_id .suspended))

theorem run_requireProfile (profileId : String) (w : World) :
    (requireProfile profileId).run w = (orThrow (w.paykhPaymentProfiles.find? profileId)
      (.notFound ("Payment profile " ++ profileId ++ " not found")), w) := rfl

theorem run_updateProfile {w : World} {profileId : String} {p : PaykhPaymentProfile}
    (hp : w.paykhPaymentProfiles.find? profileId = some p)
    {f : PaykhPaymentProfile → PaykhPaymentProfile} {hf : ∀ p, (f p).id = p.id} :
    (Prisma.paykhPaymentProfile.update unconstrained profileId f hf).run w =
      (.ok (f p), w.updateProfile profileId f hf) :=
  Entity.run_update_of Prisma.paykhPaymentProfile hp rfl

theorem submit_served (w : World) (input : SubmitPaymentProfile) (id : String) :
    Served (ProfileEffect w (.submit input id)) w
      ((PaymentProfilesService.submit input id).run w) := by
  unfold PaymentProfilesService.submit
  refine .throwIf_bind fun _ => ?_
  refine .create_bind Prisma.paykhPaymentProfile fun t ht => ?_
  exact .logs (.submitted ht) (.record_bind (logs_pure _))

theorem Served.requireProfile_bind {β : Type} {effect : World → Prop} {w : World}
    {profileId : String} {f : PaykhPaymentProfile → Service β}
    (h : ∀ p, w.paykhPaymentProfiles.find? profileId = some p → Served effect w ((f p).run w)) :
    Served effect w ((requireProfile profileId >>= f).run w) :=
  .look_bind (run_requireProfile profileId w) fun p hp => h p (orThrow_eq_ok.mp hp)

theorem verify_served (w : World) (clock : Clock) (profileId actor : String) :
    Served (ProfileEffect w (.verify clock profileId actor)) w
      ((PaymentProfilesService.verify clock profileId actor).run w) := by
  unfold PaymentProfilesService.verify
  refine .requireProfile_bind fun p hp => ?_
  refine .throwIf_bind fun hstatus => ?_
  rw [Call.run_bind, run_updateProfile hp]
  exact .logs (.verified hp (by tauto)) (.record_bind (.event_bind (logs_pure _)))

theorem activate_served (w : World) (profileId actor : String) :
    Served (ProfileEffect w (.activate profileId actor)) w
      ((PaymentProfilesService.activate profileId actor).run w) := by
  unfold PaymentProfilesService.activate
  refine .requireProfile_bind fun p hp => ?_
  refine .throwIf_bind fun hstatus => ?_
  rw [Call.run_bind, run_updateProfile hp]
  exact .logs (.activated hp (not_not.mp hstatus)) (.record_bind (logs_pure _))

theorem suspend_served (w : World) (profileId actor reason : String) :
    Served (ProfileEffect w (.suspend profileId actor reason)) w
      ((PaymentProfilesService.suspend profileId actor reason).run w) := by
  unfold PaymentProfilesService.suspend
  refine .requireProfile_bind fun p hp => ?_
  rw [Call.run_bind, run_updateProfile hp]
  exact .logs (.suspended hp) (.record_bind (.event_bind (logs_pure _)))

/-- **Every operation fails or has an effect in the list.** -/
theorem ProfileOp.served (w : World) (op : ProfileOp) :
    Served (ProfileEffect w op) w (op.call.run w) := by
  cases op with
  | submit input id => exact (submit_served w input id).void
  | verify clock profileId actor => exact (verify_served w clock profileId actor).void
  | activate profileId actor => exact (activate_served w profileId actor).void
  | suspend profileId actor reason => exact (suspend_served w profileId actor reason).void

end

end TrusteeBank
