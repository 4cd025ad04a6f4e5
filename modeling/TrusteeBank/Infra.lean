import TrusteeBank.Database

/-!
# Audit, events, flags and the ledger service

The services every module uses: the append-only audit trail, the signed event outbox, feature
flags, the time of the last live bank read, and `ReserveLedgerService`, which posts journal
entries and sums the balance of an account.

Each lemma here says what its service does when it runs alone. Audit rows and events never touch
another table, and a flag or a balance is only read. A record whose actor or reason cannot be
stored fails: by then the request has usually written its rows, and nothing takes them back
(`Served`).
-/

set_option autoImplicit false

namespace TrusteeBank

open Lib (Call)

variable [Runtime]

/-! ## Stored JSON -/

mutual

/-- `JSON.parse(JSON.stringify(v, replacer))`, the replacer writing bigints as strings; `none` is
`undefined`. -/
def storedJson : JsValue → Option JsValue
  | .undefined => none
  | .bigint n => some (.string (toString n))
  | .array items => some (.array (storedItems items))
  | .object fields => some (.object (storedFields fields))
  | v => some v

def storedItems : List JsValue → List JsValue
  | [] => []
  | v :: vs => (storedJson v).getD .null :: storedItems vs

def storedFields : List (String × JsValue) → List (String × JsValue)
  | [] => []
  | (key, v) :: fields =>
    match storedJson v with
    | some w => (key, w) :: storedFields fields
    | none => storedFields fields

end

/-! ## Audit -/

structure AuditRecord where
  actor : String
  actorRole : Option String := none
  action : String
  subjectType : String
  subjectId : Option String := none
  beforeState : Option JsValue := none
  afterState : Option JsValue := none
  reason : Option String := none
  approvalRef : Option String := none
  correlationId : Option String := none

/-- The row a record stores. -/
def AuditRecord.row (entry : AuditRecord) : AuditLog where
  actor := entry.actor
  actorRole := entry.actorRole
  action := entry.action
  subjectType := entry.subjectType
  subjectId := entry.subjectId
  beforeState := entry.beforeState.bind storedJson
  afterState := entry.afterState.bind storedJson
  reason := entry.reason
  approvalRef := entry.approvalRef
  correlationId := entry.correlationId
  sourceSystem := some "trustee-api"

/-- The texts of a record that come with the request. Its other texts are fixed, are ids, or were
read from a row or stored in one before. -/
def AuditLog.givenTexts (row : AuditLog) : List String := row.actor :: row.reason.toList

/-- The row can be stored. -/
def AuditLog.Fits (row : AuditLog) : Prop := ∀ t ∈ row.givenTexts, FitsText t

instance (row : AuditLog) : Decidable row.Fits := inferInstanceAs (Decidable (∀ _ ∈ _, _))

/-- The record can be stored. -/
def AuditRecord.Fits (entry : AuditRecord) : Prop := entry.row.Fits

instance (entry : AuditRecord) : Decidable entry.Fits := inferInstanceAs (Decidable entry.row.Fits)

omit [Runtime] in
theorem AuditLog.fits_iff {row : AuditLog} :
    row.Fits ↔ FitsText row.actor ∧ ∀ t ∈ row.reason, FitsText t := by
  simp [Fits, givenTexts]

omit [Runtime] in
theorem AuditRecord.fits_iff {entry : AuditRecord} :
    entry.Fits ↔ FitsText entry.actor ∧ ∀ t ∈ entry.reason, FitsText t :=
  AuditLog.fits_iff

/-- The state with more audit rows and events. -/
def World.logged (w : World) (rows : List AuditLog) (events : List OutboxEvent) : World :=
  { w with auditLog := w.auditLog ++ rows, outbox := w.outbox ++ events }

@[simp] theorem World.logged_nil (w : World) : w.logged [] [] = w := by
  simp [World.logged]

@[simp] theorem World.logged_logged (w : World) (rows rows' : List AuditLog)
    (events events' : List OutboxEvent) :
    (w.logged rows events).logged rows' events' = w.logged (rows ++ rows') (events ++ events') := by
  simp [World.logged]

/-- A request failed and changed nothing, or it had an effect and was logged as far as its records
could be stored: it fails where one of them could not. -/
inductive Served {α : Type} (effect : World → Prop) (w : World) : Except ApiError α × World → Prop
  | failed (e : ApiError) : Served effect w (.error e, w)
  | done {r : Except ApiError α} {w₁ : World} (h : effect w₁) (rows : List AuditLog)
      (events : List OutboxEvent) : Served effect w (r, w₁.logged rows events)

theorem Served.void {α : Type} {effect : World → Prop} {w : World} {x : Service α}
    (h : Served effect w (x.run w)) : Served effect w (x.void.run w) := by
  unfold Call.void
  rw [Call.run_bind]
  generalize x.run w = out at h
  cases h with
  | failed e => exact .failed e
  | @done r w₁ h rows events =>
    cases r with
    | ok a => exact .done h rows events
    | error e => exact .done h rows events

/-- The state a request leaves. -/
theorem Served.state {α : Type} {effect : World → Prop} {w : World}
    {out : Except ApiError α × World} (h : Served effect w out) :
    out.2 = w ∨ ∃ w₁ rows events, effect w₁ ∧ out.2 = w₁.logged rows events := by
  cases h with
  | failed e => exact .inl rfl
  | done h rows events => exact .inr ⟨_, rows, events, h, rfl⟩

/-- A request that succeeds had an effect. -/
theorem Served.ok {α : Type} {effect : World → Prop} {w : World}
    {out : Except ApiError α × World} (h : Served effect w out) {a : α} (ha : out.1 = .ok a) :
    ∃ w₁ rows events, effect w₁ ∧ out.2 = w₁.logged rows events := by
  cases h with
  | failed e => cases ha
  | done h rows events => exact ⟨_, rows, events, h, rfl⟩

/-- The effect of a request, where no change is one as well. -/
theorem Served.effect {α : Type} {effect : World → Prop} {w : World}
    {out : Except ApiError α × World} (hsame : effect w) (h : Served effect w out) :
    ∃ w₁ rows events, effect w₁ ∧ out.2 = w₁.logged rows events := by
  rcases h.state with hstate | hdone
  · exact ⟨w, [], [], hsame, by rw [hstate, World.logged_nil]⟩
  · exact hdone

/-! ### One step of a request after the other -/

section

variable {α β ρ : Type} {effect : World → Prop} {w : World}

/-- A request that is refused fails. -/
theorem Served.throwIf_bind {c : Prop} [Decidable c] {e : ApiError} {f : Unit → Service β}
    (h : ¬c → Served effect w ((f ()).run w)) :
    Served effect w ((Call.throwIf c e >>= f).run w) := by
  rw [Call.run_throwIf_bind]
  by_cases hc : c
  · rw [if_pos hc]
    exact .failed e
  · rw [if_neg hc]
    exact h hc

/-- A request that looks something up fails there, or goes on with the answer. -/
theorem Served.look_bind {x : Service α} {r : Except ApiError α} {f : α → Service β}
    (hx : x.run w = (r, w)) (h : ∀ a, r = .ok a → Served effect w ((f a).run w)) :
    Served effect w ((x >>= f).run w) := by
  rw [Call.run_bind, hx]
  cases r with
  | error e => exact .failed e
  | ok a => exact h a rfl

theorem Served.lift_bind {r : Except ApiError α} {f : α → Service β}
    (h : ∀ a, r = .ok a → Served effect w ((f a).run w)) :
    Served effect w (((MonadLiftT.monadLift r : Service α) >>= f).run w) :=
  .look_bind (Call.run_lift r w) h

/-- The row of a key that has to be there. -/
theorem Served.find_bind {key : ρ → String} (E : Entity key) {id : String} {e : ApiError}
    {f : ρ → Service β}
    (h : ∀ row, (E.get w).find? id = some row → Served effect w ((f row).run w)) :
    Served effect w ((E.findUnique id >>= fun found =>
      (MonadLiftT.monadLift (orThrow found e) : Service ρ) >>= f).run w) :=
  .look_bind (E.run_findUnique id w) fun found hfound =>
    .lift_bind fun row hrow => h row (by rw [Except.ok.inj hfound]; exact orThrow_eq_ok.mp hrow)

/-- A creation goes on if the row passes the check and its key is new. -/
theorem Served.checked_create_bind {key : ρ → String} (E : Entity key)
    {check : World → Except ApiError Unit} {row : ρ} {f : ρ → Service β}
    (h : check w = .ok () → ∀ t, (E.get w).insert? row = some t →
      Served effect w ((f row).run (E.set t w))) :
    Served effect w ((E.create check row >>= f).run w) := by
  rw [Call.run_bind]
  rcases E.run_create_cases check row w with ⟨e, hrun⟩ | ⟨t, hcheck, ht, hrun⟩
  · rw [hrun]
    exact .failed e
  · rw [hrun]
    exact h hcheck t ht

theorem Served.create_bind {key : ρ → String} (E : Entity key)
    {check : World → Except ApiError Unit} {row : ρ} {f : ρ → Service β}
    (h : ∀ t, (E.get w).insert? row = some t → Served effect w ((f row).run (E.set t w))) :
    Served effect w ((E.create check row >>= f).run w) :=
  .checked_create_bind E fun _ => h

/-- An update of a row that was found goes on if the values pass the check. -/
theorem Served.checked_update_bind {key : ρ → String} (E : Entity key)
    {check : World → ρ → Except ApiError Unit} {id : String} {g : ρ → ρ}
    {hg : ∀ r, key (g r) = key r} {f : ρ → Service β} {row : ρ}
    (hrow : (E.get w).find? id = some row) (h : check w row = .ok () →
      Served effect w ((f (g row)).run (E.set ((E.get w).modify id g hg) w))) :
    Served effect w ((E.update check id g hg >>= f).run w) := by
  rw [Call.run_bind]
  rcases E.run_update_cases check id g hg w with ⟨e, hrun⟩ | ⟨row', hrow', hcheck, hrun⟩
  · rw [hrun]
    exact .failed e
  · obtain rfl : row = row' := Option.some.inj (hrow.symm.trans hrow')
    rw [hrun]
    exact h hcheck

theorem Served.update_bind {key : ρ → String} (E : Entity key)
    {check : World → ρ → Except ApiError Unit} {id : String} {g : ρ → ρ}
    {hg : ∀ r, key (g r) = key r} {f : ρ → Service β}
    (h : ∀ row, (E.get w).find? id = some row →
      Served effect w ((f (g row)).run (E.set ((E.get w).modify id g hg) w))) :
    Served effect w ((E.update check id g hg >>= f).run w) := by
  rw [Call.run_bind]
  rcases E.run_update_cases check id g hg w with ⟨e, hrun⟩ | ⟨row, hrow, -, hrun⟩
  · rw [hrun]
    exact .failed e
  · rw [hrun]
    exact h row hrow

end

/-- What an effect leads to holds of the state that also has the rows and events. -/
theorem after_effect {R effect : World → Prop} {w' : World}
    (h : ∃ w₁ rows events, effect w₁ ∧ w' = World.logged w₁ rows events)
    (heffect : ∀ w₁, effect w₁ → R w₁)
    (hlogged : ∀ {w₁}, R w₁ → ∀ rows events, R (w₁.logged rows events)) : R w' := by
  obtain ⟨w₁, rows, events, he, rfl⟩ := h
  exact hlogged (heffect w₁ he) rows events

/-- The same for a request that may fail. -/
theorem Served.after {α : Type} {R effect : World → Prop} {w : World}
    {out : Except ApiError α × World} (h : Served effect w out) (hw : R w)
    (heffect : ∀ w₁, effect w₁ → R w₁)
    (hlogged : ∀ {w₁}, R w₁ → ∀ rows events, R (w₁.logged rows events)) : R out.2 := by
  rcases h.state with hsame | hdone
  · rw [hsame]
    exact hw
  · exact after_effect hdone heffect hlogged

/-- Append a row to the audit trail. -/
def auditCreate (row : AuditLog) : Service Unit :=
  Call.query ⟨.auditLog, .create, row.action⟩ fun w => do
    checkTexts row.givenTexts
    return ((), w.logged [row] [])

namespace AuditService

def record (entry : AuditRecord) : Service Unit := auditCreate entry.row

end AuditService

/-! ## Events -/

namespace PlatformEvent

def fundingInstructionCreated : String := "funding.instruction.created"
def depositDetected : String := "deposit.detected"
def depositCleared : String := "deposit.cleared"
def depositMatched : String := "deposit.matched"
def mintAuthorizationApproved : String := "mint.authorization.approved"
def mintAuthorizationRejected : String := "mint.authorization.rejected"
def mintAuthorizationExpired : String := "mint.authorization.expired"
def mintConfirmed : String := "mint.confirmed"
def redemptionApproved : String := "redemption.approved"
def redemptionBurnConfirmed : String := "redemption.burn.confirmed"
def redemptionPayoutSubmitted : String := "redemption.payout.submitted"
def redemptionPayoutConfirmed : String := "redemption.payout.confirmed"
def redemptionCompleted : String := "redemption.completed"
def reserveSnapshotCreated : String := "reserve.snapshot.created"
def reserveShortfallDetected : String := "reserve.shortfall.detected"
def reconciliationExceptionCreated : String := "reconciliation.exception.created"

end PlatformEvent

namespace PaykhEvent

def paymentConfirmed : String := "paykh.payment.confirmed"
def paymentRejected : String := "paykh.payment.rejected"
def paymentDuplicate : String := "paykh.payment.duplicate"
def paymentRefunded : String := "paykh.payment.refunded"
def profileVerified : String := "paykh.payment-profile.verified"
def profileSuspended : String := "paykh.payment-profile.suspended"
def programFundCleared : String := "paykh.program-fund.cleared"
def programFundExhausted : String := "paykh.program-fund.exhausted"
def settlementApproved : String := "paykh.settlement.approved"
def settlementConfirmed : String := "paykh.settlement.confirmed"
def loyaltyIssued : String := "paykh.loyalty.issued"
def loyaltyRedeemed : String := "paykh.loyalty.redeemed"
def loyaltyReconciled : String := "paykh.loyalty.reconciled"
def loyaltyReserveDrift : String := "paykh.loyalty.reserve-drift"

end PaykhEvent

/-- Append an event to the outbox. -/
def outboxCreate (event : OutboxEvent) : Service Unit :=
  Call.query ⟨.outboxEvent, .create, event.eventType⟩ fun w => .ok ((), w.logged [] [event])

namespace EventsService

/-- An event signed with the webhook key. -/
def signedEvent (eventType : String) (payload : JsValue) (targetPlatform : String) : OutboxEvent :=
  let signature := signPayload .webhook (.object
    [("eventType", .string eventType), ("targetPlatform", .string targetPlatform),
     ("payload", payload)])
  { eventType, targetPlatform
    payload := (storedJson payload).getD .null
    artifact := none
    signatureKeyId := signature.keyId
    signatureValue := signature.value }

/-- An event with an artifact signed under the key of its purpose. -/
def artifactEvent (eventType : String) (payload artifact : JsValue) (purpose : SigningPurpose)
    (targetPlatform : String) : OutboxEvent :=
  let signature := signPayload purpose artifact
  { eventType, targetPlatform
    payload := (storedJson payload).getD .null
    artifact := some (canonicalize artifact)
    signatureKeyId := signature.keyId
    signatureValue := signature.value }

def publish (eventType : String) (payload : JsValue) (targetPlatform : String) : Service Unit :=
  outboxCreate (signedEvent eventType payload targetPlatform)

def publishToPaykh (eventType : String) (payload : JsValue) : Service Unit :=
  publish eventType payload "PAYKH"

def publishWithArtifact (eventType : String) (payload artifact : JsValue)
    (purpose : SigningPurpose) (targetPlatform : String) : Service Unit :=
  outboxCreate (artifactEvent eventType payload artifact purpose targetPlatform)

end EventsService

/-! Events are stored, and records whose texts can be, and nothing else happens. -/

/-- A record that is stored. -/
theorem auditCreate_ok {row : AuditLog} {w w' : World} {u : Unit}
    (h : (do
      checkTexts row.givenTexts
      return ((), w.logged [row] []) : Except ApiError (Unit × World)) = .ok (u, w')) :
    row.Fits ∧ w' = w.logged [row] [] := by
  cases hcheck : checkTexts row.givenTexts with
  | error e => simp [hcheck, bind, Except.bind] at h
  | ok v =>
    simp only [hcheck, bind, Except.bind, pure, Except.pure, Except.ok.injEq, Prod.mk.injEq] at h
    exact ⟨checkTexts_eq_ok.mp hcheck, h.2.symm⟩

theorem run_auditCreate (row : AuditLog) (w : World) :
    (auditCreate row).run w =
      if row.Fits then (.ok (), w.logged [row] [])
      else (.error (.prisma "invalid byte sequence for encoding \"UTF8\": 0x00"), w) := by
  unfold auditCreate
  rw [Call.run_query]
  unfold checkTexts
  by_cases h : row.Fits
  · rw [if_pos (by simpa [AuditLog.Fits] using h), if_pos h]
    rfl
  · rw [if_neg (by simpa [AuditLog.Fits] using h), if_neg h]
    rfl

theorem run_record (entry : AuditRecord) (w : World) :
    (AuditService.record entry).run w =
      if entry.Fits then (.ok (), w.logged [entry.row] [])
      else (.error (.prisma "invalid byte sequence for encoding \"UTF8\": 0x00"), w) :=
  run_auditCreate entry.row w

theorem run_record_of {entry : AuditRecord} (h : entry.Fits) (w : World) :
    (AuditService.record entry).run w = (.ok (), w.logged [entry.row] []) := by
  rw [run_record, if_pos h]

/-- What a record adds to the audit trail: its row, if that can be stored. -/
def AuditRecord.rows (entry : AuditRecord) : List AuditLog := if entry.Fits then [entry.row] else []

omit [Runtime] in
theorem AuditRecord.rows_of_fits {entry : AuditRecord} (h : entry.Fits) :
    entry.rows = [entry.row] :=
  if_pos h

theorem run_record_rows (entry : AuditRecord) (w : World) :
    ((AuditService.record entry).run w).2 = w.logged entry.rows [] := by
  rw [run_record]
  unfold AuditRecord.rows
  split_ifs
  · rfl
  · exact w.logged_nil.symm

theorem run_publish (eventType : String) (payload : JsValue) (targetPlatform : String)
    (w : World) : (EventsService.publish eventType payload targetPlatform).run w =
      (.ok (), w.logged [] [EventsService.signedEvent eventType payload targetPlatform]) := rfl

theorem run_publishToPaykh (eventType : String) (payload : JsValue) (w : World) :
    (EventsService.publishToPaykh eventType payload).run w =
      (.ok (), w.logged [] [EventsService.signedEvent eventType payload "PAYKH"]) := rfl

theorem run_publishWithArtifact (eventType : String) (payload artifact : JsValue)
    (purpose : SigningPurpose) (targetPlatform : String) (w : World) :
    (EventsService.publishWithArtifact eventType payload artifact purpose targetPlatform).run w =
      (.ok (), w.logged []
        [EventsService.artifactEvent eventType payload artifact purpose targetPlatform]) := rfl

/-! ### The end of a request -/

/-- The call appends audit rows and events, and does nothing else. -/
def Logs {α : Type} (x : Service α) : Prop :=
  ∀ w, ∃ rows events, (x.run w).2 = w.logged rows events

section

variable {α β : Type} {x : Service α}

theorem logs_done (r : Except ApiError α) : Logs (Call.done r : Service α) :=
  fun w => ⟨[], [], w.logged_nil.symm⟩

theorem logs_pure (a : α) : Logs (pure a : Service α) := logs_done _

theorem logs_outboxCreate (event : OutboxEvent) : Logs (outboxCreate event) :=
  fun _ => ⟨[], [event], rfl⟩

theorem logs_record (entry : AuditRecord) : Logs (AuditService.record entry) := by
  intro w
  rw [run_record]
  split_ifs
  · exact ⟨[entry.row], [], rfl⟩
  · exact ⟨[], [], w.logged_nil.symm⟩

theorem Logs.bind {f : α → Service β} (hx : Logs x) (hf : ∀ a, Logs (f a)) : Logs (x >>= f) := by
  intro w
  obtain ⟨rows, events, hstate⟩ := hx w
  rw [Call.run_bind]
  cases hrun : x.run w with
  | mk r w' =>
    rw [hrun] at hstate
    obtain rfl : w' = w.logged rows events := hstate
    cases r with
    | error e => exact ⟨rows, events, rfl⟩
    | ok a =>
      obtain ⟨rows', events', hstate'⟩ := hf a (w.logged rows events)
      exact ⟨rows ++ rows', events ++ events', hstate'.trans (World.logged_logged ..)⟩

/-- A record, and what follows it. -/
theorem Logs.record_bind {entry : AuditRecord} {f : Unit → Service β} (hf : Logs (f ())) :
    Logs (AuditService.record entry >>= f) :=
  (logs_record entry).bind fun _ => hf

/-- An event, and what follows it. -/
theorem Logs.event_bind {event : OutboxEvent} {f : Unit → Service β} (hf : Logs (f ())) :
    Logs (outboxCreate event >>= f) :=
  (logs_outboxCreate event).bind fun _ => hf

/-- A record that is the last a call writes. -/
theorem run_record_pure (entry : AuditRecord) (a : α) (w : World) :
    ((AuditService.record entry >>= fun _ => pure a : Service α).run w).2 =
      w.logged entry.rows [] := by
  rw [Call.run_bind, ← run_record_rows]
  rcases (AuditService.record entry).run w with ⟨e | u, w'⟩ <;> rfl

/-- A request that had its effect and still has its records to write. -/
theorem Served.logs {effect : World → Prop} {w w₁ : World} (h : effect w₁) (hx : Logs x) :
    Served effect w (x.run w₁) := by
  obtain ⟨rows, events, hstate⟩ := hx w₁
  have hrun : x.run w₁ = ((x.run w₁).1, w₁.logged rows events) := Prod.ext rfl hstate
  rw [hrun]
  exact .done h rows events

end

/-! ## Flags and process memory -/

namespace FeatureFlagsService

/-- The flag's value, false when it is unset. -/
def isEnabled (key : String) : Service Bool := do
  let flag ← Prisma.featureFlag.findUnique key
  return match flag with
    | some flag => flag.enabled
    | none => false

def requireEnabled (key : String) : Service Unit := do
  let enabled ← isEnabled key
  Call.throwIf (enabled = false) (.thrown "Error" ("Feature \"" ++ key ++ "\" is disabled"))

/-- Set a flag; who set it is kept in a column nothing reads. -/
def set (key : String) (enabled : Bool) (updatedBy : String) : Service FeatureFlag :=
  Prisma.featureFlag.upsert (fun _ => checkTexts [key, updatedBy]) (fun flag => flag.key = key)
    ⟨key, enabled⟩ (fun flag => { flag with enabled }) fun _ => rfl

end FeatureFlagsService

namespace BankBalanceService

/-- Seconds since the last successful live bank read, `none` if there was none. -/
def lastCheckAgeSeconds (now : Int) : Service (Option Int) := do
  let lastSuccessfulCheck ← Call.read ⟨.processMemory, .findUnique, "lastSuccessfulCheck"⟩
    World.lastSuccessfulCheck
  return lastSuccessfulCheck.map (ageSeconds now)

end BankBalanceService

theorem run_isEnabled (key : String) (w : World) :
    (FeatureFlagsService.isEnabled key).run w =
      (.ok (match w.featureFlags.find? key with
        | some flag => flag.enabled
        | none => false), w) := rfl

/-- A flag is on. -/
def World.enabled (w : World) (key : String) : Bool :=
  match w.featureFlags.find? key with
  | some flag => flag.enabled
  | none => false

theorem run_requireEnabled (key : String) (w : World) :
    (FeatureFlagsService.requireEnabled key).run w =
      (if w.enabled key then .ok ()
        else .error (.thrown "Error" ("Feature \"" ++ key ++ "\" is disabled")), w) := by
  unfold FeatureFlagsService.requireEnabled
  rw [Call.run_bind, run_isEnabled]
  simp only
  rw [Call.run_throwIf]
  show (if w.enabled key = false then _ else _, w) = _
  cases w.enabled key <;> rfl

theorem run_lastCheckAgeSeconds (now : Int) (w : World) :
    (BankBalanceService.lastCheckAgeSeconds now).run w =
      (.ok (w.lastSuccessfulCheck.map (ageSeconds now)), w) := rfl

/-! ## The ledger service -/

/-- The state with one more journal entry. -/
def World.posted (w : World) (entry : JournalEntry) : World :=
  { w with ledger := w.ledger ++ [entry] }

namespace ReserveLedgerService

/-- The amounts the rows of an entry store. -/
def storedAmounts (entry : JournalEntry) : List Int :=
  [entry.totalDebit.minor, entry.totalCredit.minor] ++
    entry.postings.flatMap fun p => [p.debit.minor, p.credit.minor]

/-- The actor of an entry comes with the request; its other texts are fixed, are ids, or were read
from a row. -/
def checkEntry (entry : JournalEntry) : Except ApiError Unit := do
  checkInt8 (storedAmounts entry)
  checkTexts [entry.references.actor]

/-- Persist a balanced journal entry and its postings atomically. -/
def post (entry : JournalEntry) : Service Unit :=
  Call.query ⟨.ledgerEntry, .create, entry.references.programId⟩ fun w => do
    checkEntry entry
    return ((), w.posted entry)

/-- Balance of one ledger account, signed by the account's normal side. -/
def accountBalance (programId account currency : String) : Service Money := do
  let rows ← Call.read ⟨.ledgerPosting, .findMany, account⟩
    fun w => postingsOf w.ledger programId account currency
  let type ← ledgerAccountTypeOf account
  return money (netPostings type.debitPositive rows) currency

end ReserveLedgerService

open ReserveLedgerService

/-- The entry can be stored. -/
structure JournalEntry.Fits (entry : JournalEntry) : Prop where
  amounts : ∀ n ∈ storedAmounts entry, FitsInt8 n
  actor : FitsText entry.references.actor

theorem checkEntry_eq_ok {entry : JournalEntry} {u : Unit} :
    checkEntry entry = .ok u ↔ entry.Fits := by
  unfold checkEntry
  cases hamounts : checkInt8 (storedAmounts entry) with
  | error e =>
    refine ⟨fun h => by simp [bind, Except.bind] at h, fun h => ?_⟩
    cases (checkInt8_eq_ok (u := ()).mpr h.amounts).symm.trans hamounts
  | ok v =>
    have hamounts := checkInt8_eq_ok.mp hamounts
    show checkTexts _ = .ok u ↔ _
    rw [checkTexts_eq_ok, List.forall_mem_singleton]
    exact ⟨fun h => ⟨hamounts, h⟩, fun h => h.actor⟩

/-- The actor of an entry between two accounts that is built and posted. -/
theorem actor_of_transferEntry {description debitAccount creditAccount : String} {amount : Money}
    {references : JournalReferences} {e : JournalEntry}
    (h : transferEntry description debitAccount creditAccount amount references = .ok e)
    (hstored : e.Fits) : FitsText references.actor :=
  (buildJournalEntry_move h).2.entry_references ▸ hstored.actor

/-- A post that succeeds appends its entry. -/
theorem post_ok {entry : JournalEntry} {w w' : World} {u : Unit}
    (h : (do
      checkEntry entry
      return ((), w.posted entry) : Except ApiError (Unit × World)) = .ok (u, w')) :
    entry.Fits ∧ w' = w.posted entry := by
  cases hcheck : checkEntry entry with
  | error e => simp [hcheck, bind, Except.bind] at h
  | ok v =>
    simp only [hcheck, bind, Except.bind, pure, Except.pure, Except.ok.injEq, Prod.mk.injEq] at h
    exact ⟨checkEntry_eq_ok.mp hcheck, h.2.symm⟩

theorem run_post_of {entry : JournalEntry} (h : entry.Fits) (w : World) :
    (post entry).run w = (.ok (), w.posted entry) := by
  have hcheck : checkEntry entry = .ok () := checkEntry_eq_ok.mpr h
  unfold post
  rw [Call.run_query, hcheck]
  rfl

/-- An entry that cannot be stored fails the post. -/
theorem run_post_of_not {entry : JournalEntry} (h : ¬entry.Fits) (w : World) :
    ∃ e, (post entry).run w = (.error e, w) := by
  unfold post
  rw [Call.run_query]
  cases hcheck : checkEntry entry with
  | ok u => exact absurd (checkEntry_eq_ok.mp hcheck) h
  | error e => exact ⟨e, rfl⟩

/-- A post alone: it stores its entry, or fails and changes nothing. -/
theorem run_post_cases (entry : JournalEntry) (w : World) :
    (¬entry.Fits ∧ ∃ e, (post entry).run w = (.error e, w)) ∨
      entry.Fits ∧ (post entry).run w = (.ok (), w.posted entry) := by
  by_cases h : entry.Fits
  · exact .inr ⟨h, run_post_of h w⟩
  · exact .inl ⟨h, run_post_of_not h w⟩

/-- A request whose entry cannot be stored fails. -/
theorem Served.post_bind {β : Type} {effect : World → Prop} {w : World} (entry : JournalEntry)
    {f : Unit → Service β} (h : entry.Fits → Served effect w ((f ()).run (w.posted entry))) :
    Served effect w ((post entry >>= f).run w) := by
  rw [Call.run_bind]
  rcases run_post_cases entry w with ⟨-, e, hrun⟩ | ⟨hfits, hrun⟩
  · rw [hrun]
    exact .failed e
  · rw [hrun]
    exact h hfits

theorem run_accountBalance {account : String} {t : LedgerAccountType}
    (ht : ledgerAccountTypeOf account = .ok t) (programId currency : String) (w : World) :
    (accountBalance programId account currency).run w =
      (.ok (money ((if t.debitPositive then 1 else -1) *
        ledgerNet w.ledger programId currency account) currency), w) := by
  unfold accountBalance
  rw [Call.run_read_bind, Call.run_lift_bind, ht]
  simp only [Call.run_pure, netPostings_postingsOf]

/-- The amounts of a standard entry are its amount and zero. -/
theorem storedAmounts_move {currency description debitAccount creditAccount zeroCurrency : String}
    {amount : Money} {references : JournalReferences} {e : JournalEntry}
    (h : buildJournalEntry ⟨currency, description,
      movePostings debitAccount creditAccount amount zeroCurrency, references⟩ = .ok e)
    (hfits : FitsInt8 amount.minor) : ∀ n ∈ storedAmounts e, FitsInt8 n := by
  obtain ⟨hinput, -⟩ := buildJournalEntry_ok h
  have htotals := e.totals
  rw [hinput] at htotals
  simp only [JournalEntryInput.totals, movePostings, List.map_cons, List.map_nil, List.sum_cons,
    List.sum_nil, zero_minor, add_zero, zero_add, Prod.mk.injEq] at htotals
  have hzero : FitsInt8 0 := by decide
  simp only [storedAmounts, hinput, movePostings, htotals.1, htotals.2, List.flatMap_cons,
    List.flatMap_nil, zero_minor, List.append_nil, List.cons_append, List.nil_append,
    List.forall_mem_cons, List.not_mem_nil, false_imp_iff, implies_true, and_true]
  exact ⟨hfits, hfits, hfits, hzero, hzero, hfits⟩

/-! ## Views -/

section

variable {τ : Type} {g : World → τ}

theorem keeps_auditCreate {row : AuditLog} (h : ∀ w : World, g (w.logged [row] []) = g w) :
    (auditCreate row).Keeps g :=
  Call.keeps_query fun w _ w' hw => by rw [(auditCreate_ok hw).2, h]

theorem keeps_record {entry : AuditRecord} (h : ∀ w : World, g (w.logged [entry.row] []) = g w) :
    (AuditService.record entry).Keeps g :=
  keeps_auditCreate h

theorem keeps_outboxCreate {event : OutboxEvent}
    (h : ∀ w : World, g (w.logged [] [event]) = g w) : (outboxCreate event).Keeps g :=
  ⟨h, fun _ => trivial⟩

theorem keeps_post {entry : JournalEntry} (h : ∀ w : World, g (w.posted entry) = g w) :
    (post entry).Keeps g :=
  Call.keeps_query fun w _ w' hw => by rw [(post_ok hw).2, h]

/-- A flag that is required is only read. -/
theorem keeps_requireEnabled (key : String) : (FeatureFlagsService.requireEnabled key).Keeps g :=
  (Call.keeps_read _ _ _).bind fun _ => Call.keeps_throwIf _ _ _

theorem keeps_accountBalance (programId account c : String) :
    (accountBalance programId account c).Keeps g :=
  (Call.keeps_read _ _ _).bind fun _ => (Call.keeps_lift _ _).bind fun _ => Call.keeps_pure _ _

end

end TrusteeBank
