import TrusteeBank.Infra
import TrusteeBank.Lib.Run
import TrusteeBank.Webhooks.Envelope

/-!
# Draining the outbox

A pass of the worker takes the oldest events that are neither delivered nor dead-lettered and
tries to deliver each of them once. An event whose platform has no active webhook, or whose
receiver does not answer with success, has one attempt more, and is dead-lettered when it has had
the last of them.

**Surroundings** (`Pass`). Each pass has its own clock, and its own answer to every lookup of a
client and to every request that is posted: configuration and receivers may change at any moment.
A JSON column holds JSON, so a payload has no bigints left and writing its envelope cannot fail.

**The delivery log** (`deliveryRow`). The worker logs the attempt before it counts it, with the
first 500 code units of what the receiver answered. The database refuses U+0000, and it is not
handed half a character: where the answer ends in one of these, the insert throws, and the pass is
over with the attempt not counted.

* `attemptDelivery_of_logs`: what one attempt writes, if its log can be stored;
* `deliverAll_spec`: what a pass does to the attempts that remain;
* `outbox_drains`: passes enough that store their logs leave no event pending;
* `stuck_run`: an event whose log is never stored stays where it is, and everything behind it.
-/

set_option autoImplicit false

namespace TrusteeBank

open Lib (Meets Object Table inv_run measure_run)
open WebhookDelivery HttpAdapter

/-! ## JSON can be written -/

/-- `JSON.stringify` of the value does not throw. -/
def JsValue.Writable (v : JsValue) : Prop := ∃ text, jsonStringify v = .ok text

theorem jsonItems_writable {vs : List JsValue} (h : ∀ v ∈ vs, v.Writable) :
    ∃ texts, jsonItems vs = .ok texts := by
  induction vs with
  | nil => exact ⟨[], rfl⟩
  | cons v vs ih =>
    obtain ⟨text, htext⟩ := h v List.mem_cons_self
    obtain ⟨texts, htexts⟩ := ih fun w hw => h w (List.mem_cons_of_mem v hw)
    exact ⟨text.getD "null" :: texts, by rw [jsonItems, htext, htexts]; rfl⟩

theorem jsonFields_writable {fields : List (String × JsValue)} (h : ∀ f ∈ fields, f.2.Writable) :
    ∃ texts, jsonFields fields = .ok texts := by
  induction fields with
  | nil => exact ⟨[], rfl⟩
  | cons f fields ih =>
    obtain ⟨key, v⟩ := f
    obtain ⟨text, htext⟩ := h (key, v) List.mem_cons_self
    obtain ⟨texts, htexts⟩ := ih fun w hw => h w (List.mem_cons_of_mem _ hw)
    rw [jsonFields, htext, htexts]
    exact ⟨_, rfl⟩

theorem JsValue.writable_object {fields : List (String × JsValue)}
    (h : ∀ f ∈ fields, f.2.Writable) : (JsValue.object fields).Writable := by
  obtain ⟨texts, htexts⟩ := jsonFields_writable h
  unfold Writable
  rw [jsonStringify, htexts]
  exact ⟨_, rfl⟩

theorem length_storedFields (fields : List (String × JsValue)) :
    (storedFields fields).length ≤ fields.length := by
  induction fields with
  | nil => exact Nat.le_refl 0
  | cons f fields ih =>
    obtain ⟨key, v⟩ := f
    rw [storedFields]
    split
    · exact Nat.succ_le_succ ih
    · exact Nat.le_succ_of_le ih

/-- The items of an array of JSON are JSON. -/
theorem storedItems_self {vs : List JsValue} (h : storedItems vs = vs) :
    ∀ v ∈ vs, storedJson v = some v := by
  induction vs with
  | nil => exact fun v hv => absurd hv List.not_mem_nil
  | cons v vs ih =>
    rw [storedItems] at h
    obtain ⟨hv, hvs⟩ := List.cons.inj h
    intro w hw
    rcases List.mem_cons.mp hw with rfl | hw
    · cases hw : storedJson w with
      | none =>
        rw [hw, Option.getD_none] at hv
        subst hv
        cases hw
      | some u =>
        rw [hw, Option.getD_some] at hv
        rw [hv]
    · exact ih hvs w hw

/-- The properties of a JSON object are JSON. -/
theorem storedFields_self {fields : List (String × JsValue)} (h : storedFields fields = fields) :
    ∀ f ∈ fields, storedJson f.2 = some f.2 := by
  induction fields with
  | nil => exact fun f hf => absurd hf List.not_mem_nil
  | cons f fields ih =>
    obtain ⟨key, v⟩ := f
    rw [storedFields] at h
    cases hv : storedJson v with
    | none =>
      rw [hv] at h
      have hfields : storedFields fields = (key, v) :: fields := h
      have hlength := length_storedFields fields
      rw [hfields, List.length_cons] at hlength
      omega
    | some w =>
      rw [hv] at h
      obtain ⟨hfield, hfields⟩ := List.cons.inj h
      intro g hg
      rcases List.mem_cons.mp hg with rfl | hg
      · rw [hv, (Prod.mk.inj hfield).2]
      · exact ih hfields g hg

/-- **JSON can be written.** -/
theorem JsValue.writable_of_stored : ∀ {v : JsValue}, storedJson v = some v → v.Writable
  | .undefined, _ => ⟨none, rfl⟩
  | .null, _ => ⟨some "null", rfl⟩
  | .bool _, _ => ⟨_, rfl⟩
  | .number _, _ => ⟨_, rfl⟩
  | .decimal _, _ => ⟨_, rfl⟩
  | .bigint _, h => by simp [storedJson] at h
  | .string _, _ => ⟨_, rfl⟩
  | .array items, h => by
    have hitems : storedItems items = items := by simpa [storedJson] using h
    obtain ⟨texts, htexts⟩ := jsonItems_writable fun v hv =>
      writable_of_stored (storedItems_self hitems v hv)
    unfold Writable
    rw [jsonStringify, htexts]
    exact ⟨_, rfl⟩
  | .object fields, h => by
    have hfields : storedFields fields = fields := by simpa [storedJson] using h
    exact writable_object fun f hf => writable_of_stored (storedFields_self hfields f hf)
termination_by v => sizeOf v
decreasing_by
  · have hmem := List.sizeOf_lt_of_mem hv
    simp only [JsValue.array.sizeOf_spec]
    omega
  · have hmem := List.sizeOf_lt_of_mem hf
    obtain ⟨key, w⟩ := f
    simp only [JsValue.object.sizeOf_spec, Prod.mk.sizeOf_spec] at hmem ⊢
    omega

theorem JsValue.Writable.orElse {v other : JsValue} (hv : v.Writable) (hother : other.Writable) :
    (v.orElse other).Writable := by
  unfold JsValue.orElse
  split
  · exact hother
  · exact hother
  · exact hv

/-- A property of JSON can be written, also when it is not there. -/
theorem JsValue.prop_writable {v : JsValue} (h : storedJson v = some v) (key : String) :
    (v.prop key).Writable := by
  unfold JsValue.prop
  split
  · rename_i fields
    have hfields : storedFields fields = fields := by simpa [storedJson] using h
    cases hget : Object.get? fields key with
    | none => exact ⟨none, rfl⟩
    | some w =>
      exact writable_of_stored (storedFields_self hfields (key, w) (Object.mem_of_get? hget))
  · exact ⟨none, rfl⟩

/-! ## Rows -/

/-- A row of the outbox with the state of its delivery. The payload is a JSON column. -/
structure OutboxRow extends StoredEvent where
  deliveredAt : Option Int
  attempts : Nat
  deadLettered : Bool
  payload_json : storedJson payload = some payload

/-- A row of the delivery log. -/
structure DeliveryLogRow where
  eventId : String
  attempt : Nat
  statusCode : Option Int
  ok : Bool
  error : Option String
deriving DecidableEq, Repr

/-- What the worker reads of a row of the clients. -/
structure ClientWebhook where
  oauthClientId : String
  webhookUrl : Option String
  disabled : Bool

/-- What `submitSignedEvent` returns. -/
structure DeliveryResult where
  delivered : Bool
  statusCode : Option Int
  error : Option String

/-- What comes of a request that is posted: a response with its text, or an error. -/
inductive HttpReply
  | response (ok : Bool) (status : Int) (text : String)
  | failed (message : String)

/-- What an adapter makes of it. -/
def HttpReply.result : HttpReply → DeliveryResult
  | .response ok status text =>
    { delivered := ok, statusCode := some status, error := if ok then none else some text }
  | .failed message => { delivered := false, statusCode := none, error := some message }

/-- The tables the worker writes. -/
structure Outbox where
  events : Table fun r : OutboxRow => r.id
  deliveries : List DeliveryLogRow

structure WorkerConfig where
  /-- `WEBHOOK_MAX_ATTEMPTS`, 8 when unset. -/
  maxAttempts : Nat
  /-- `WEBHOOK_BATCH_SIZE`, 25 when unset. -/
  batchSize : Nat
  webhookKey : Option SigningKey

/-- What one pass meets: the clock, the row a lookup of a platform's client finds while an event is
being handled, and what comes of a request that is posted for an event. -/
structure Pass where
  now : Int
  client : String → String → Option ClientWebhook
  answer : String → WebhookPost → HttpReply

/-- The text of an `Error`. -/
def ApiError.message : ApiError → String
  | .badRequest message | .badRequestBody message _ _ | .unauthorized message
  | .forbidden message | .notFound message | .conflict message | .thrown _ message => message
  | .prisma code => code

/-- `text.slice(0, n)` by code units, `none` where it ends in half a character. -/
def sliceChars : Nat → List Char → Option (List Char)
  | _, [] | 0, _ => some []
  | n, c :: cs =>
    if (codeUnits c).length ≤ n then (sliceChars (n - (codeUnits c).length) cs).map (c :: ·)
    else none

example : sliceChars 2 "abc".toList = some ['a', 'b'] ∧ sliceChars 2 "a😀".toList = none := by
  decide

/-- `result.error ? result.error.slice(0, 500) : null`, as far as the database takes it. -/
def errorColumn (error : Option String) : Except ApiError (Option String) :=
  match error.filter (· ≠ "") with
  | none => .ok none
  | some text =>
    match sliceChars 500 text.toList with
    | none => .error (.prisma "unexpected end of hex escape")
    | some chars => do
      checkTexts [String.ofList chars]
      return some (String.ofList chars)

/-! ## The worker -/

namespace OutboxRow

/-- `deliveredAt: null, deadLettered: false`. -/
def Pending (r : OutboxRow) : Prop := r.deliveredAt = none ∧ r.deadLettered = false

instance (r : OutboxRow) : Decidable r.Pending := inferInstanceAs (Decidable (_ ∧ _))

/-- The row after an attempt. -/
def attempted (maxAttempts : Nat) (now : Int) (delivered : Bool) (attempt : Nat) (r : OutboxRow) :
    OutboxRow :=
  if delivered then { r with deliveredAt := some now, attempts := attempt }
  else { r with attempts := attempt, deadLettered := maxAttempts ≤ attempt }

/-- What an attempt writes is not part of the event. -/
theorem attempted_event (maxAttempts : Nat) (now : Int) (delivered : Bool) (attempt : Nat)
    (r : OutboxRow) :
    (r.attempted maxAttempts now delivered attempt).toStoredEvent = r.toStoredEvent := by
  unfold attempted
  split <;> rfl

theorem attempted_id (maxAttempts : Nat) (now : Int) (delivered : Bool) (attempt : Nat)
    (r : OutboxRow) : (r.attempted maxAttempts now delivered attempt).id = r.id :=
  congrArg StoredEvent.id (r.attempted_event maxAttempts now delivered attempt)

end OutboxRow

namespace Outbox

/-- `outboxEvent.update`. -/
def update (s : Outbox) (id : String) (f : OutboxRow → OutboxRow) (hf : ∀ r, (f r).id = r.id) :
    Outbox :=
  { s with events := s.events.modify id f hf }

/-- The batch of a pass: the pending events by sequence. -/
def batch (s : Outbox) (batchSize : Nat) : List OutboxRow :=
  ((s.events.rows.filter fun r => r.Pending).mergeSort fun a b =>
    a.sequence ≤ b.sequence).take batchSize

end Outbox

namespace WebhookDelivery

/-- The row of the delivery log. -/
def deliveryRow (eventId : String) (attempt : Nat) (result : DeliveryResult) :
    Except ApiError DeliveryLogRow := do
  let error ← errorColumn result.error
  return { eventId, attempt, statusCode := result.statusCode, ok := result.delivered, error }

def markAttempt (maxAttempts : Nat) (id : String) (attempts : Nat) (s : Outbox) : Outbox :=
  s.update id (fun r => { r with attempts, deadLettered := maxAttempts ≤ attempts }) fun _ => rfl

/-- `!client || !client.webhookUrl || client.disabled` does not hold. -/
def activeClient (client : Option ClientWebhook) : Option WebhookClient :=
  match client with
  | none => none
  | some client =>
    match client.webhookUrl.filter (· ≠ "") with
    | none => none
    | some webhookUrl =>
      if client.disabled then none
      else some { oauthClientId := client.oauthClientId, webhookUrl }

variable [Runtime]

/-- `adapter.submitSignedEvent(envelope)`: what is thrown before the request becomes the result of
the attempt, as what the request throws. -/
def submit (pass : Pass) (client : WebhookClient) (event : StoredEvent) (env : Object JsValue) :
    DeliveryResult :=
  let posted :=
    if event.targetPlatform = "PAYKH" then
      HttpPayKHAdapter.submitSignedEvent client.webhookUrl env
    else HttpPayChainAdapter.submitSignedEvent client.webhookUrl env
  match posted with
  | .ok post => (pass.answer event.id post).result
  | .error e => (HttpReply.failed e.message).result

variable [WebhookRuntime]

/-- The body of the loop of `deliverPending`; the answer is whether the event was delivered. -/
def attemptDelivery (cfg : WorkerConfig) (pass : Pass) (event : OutboxRow) (s : Outbox) :
    Except ApiError Bool × Outbox :=
  match activeClient (pass.client event.id event.targetPlatform) with
  | none => (.ok false, markAttempt cfg.maxAttempts event.id (event.attempts + 1) s)
  | some client =>
    match finalEnvelope cfg.webhookKey pass.now client event.toStoredEvent with
    | .error e => (.error e, s)
    | .ok env =>
      let result := submit pass client event.toStoredEvent env
      let attempt := event.attempts + 1
      match deliveryRow event.id attempt result with
      | .error e => (.error e, s)
      | .ok row =>
        let logged := { s with deliveries := s.deliveries ++ [row] }
        if result.delivered then
          (.ok true, logged.update event.id
            (fun r => { r with deliveredAt := some pass.now, attempts := attempt }) fun _ => rfl)
        else (.ok false, markAttempt cfg.maxAttempts event.id attempt logged)

/-- The loop of `deliverPending` over the rest of the batch. -/
def deliverAll (cfg : WorkerConfig) (pass : Pass) :
    List OutboxRow → Nat → Outbox → Except ApiError Nat × Outbox
  | [], delivered, s => (.ok delivered, s)
  | event :: events, delivered, s =>
    match attemptDelivery cfg pass event s with
    | (.error e, s') => (.error e, s')
    | (.ok ok, s') => deliverAll cfg pass events (if ok then delivered + 1 else delivered) s'

/-- One delivery pass; the answer is the number of events delivered. -/
def deliverPending (cfg : WorkerConfig) (pass : Pass) (s : Outbox) :
    Except ApiError Nat × Outbox :=
  deliverAll cfg pass (s.batch cfg.batchSize) 0 s

/-- The outbox after a pass. -/
def step (cfg : WorkerConfig) (s : Outbox) (pass : Pass) : Outbox := (deliverPending cfg pass s).2

end WebhookDelivery

/-! ## Writing an envelope -/

section

variable [WebhookRuntime]

omit [WebhookRuntime] in
theorem payloadOf_stored (event : OutboxRow) :
    storedJson (payloadOf event.toStoredEvent) = some (payloadOf event.toStoredEvent) := by
  unfold payloadOf JsValue.orElse
  split
  · rfl
  · rfl
  · exact event.payload_json

/-- **The envelope of an event can be written.** -/
theorem envelope_writable (now : Int) (client : WebhookClient) (event : OutboxRow) :
    ∀ f ∈ envelope now client event.toStoredEvent, f.2.Writable := by
  have htext (s : String) : (JsValue.string s).Writable := ⟨_, rfl⟩
  have hpayload := payloadOf_stored event
  have hbuilt : ∀ f ∈ buildSignedEnvelope (envelopeInput now client event.toStoredEvent)
      ⟨event.signatureKeyId, "ed25519", event.signatureValue⟩, f.2.Writable := by
    intro f hf
    unfold buildSignedEnvelope at hf
    rcases Object.mem_spread hf with hf | hf
    · simp only [List.mem_cons, List.not_mem_nil, or_false] at hf
      rcases hf with rfl | rfl | rfl | rfl | rfl | rfl
      · exact htext _
      · exact htext _
      · exact JsValue.prop_writable hpayload _
      · exact htext _
      · exact htext _
      · exact htext _
    · simp only [EnvelopeInput.toObject, List.mem_cons, List.not_mem_nil, or_false] at hf
      rcases hf with rfl | rfl | rfl | rfl | rfl | rfl | rfl | rfl | rfl | rfl | rfl | rfl
      all_goals first
        | exact htext _
        | exact JsValue.prop_writable hpayload _
        | exact (JsValue.prop_writable hpayload _).orElse (htext _)
        | exact JsValue.writable_of_stored hpayload
  have hdated : ∀ f ∈ (buildSignedEnvelope (envelopeInput now client event.toStoredEvent)
      ⟨event.signatureKeyId, "ed25519", event.signatureValue⟩).set "occurredAt"
        (.string (isoString event.createdAt)), f.2.Writable := by
    intro f hf
    rcases Object.mem_set hf with rfl | hf
    · exact htext _
    · exact hbuilt f hf
  unfold envelope
  simp only
  split
  · intro f hf
    rcases Object.mem_set hf with rfl | hf
    · refine JsValue.writable_object fun g hg => ?_
      simp only [List.mem_cons, List.not_mem_nil, or_false] at hg
      rcases hg with rfl | rfl | rfl <;> exact htext _
    · rcases Object.mem_set hf with rfl | hf
      · exact htext _
      · exact hdated f hf
  · exact hdated

theorem finalEnvelope_ok (webhookKey : Option SigningKey) (now : Int) (client : WebhookClient)
    (event : OutboxRow) :
    ∃ env, finalEnvelope webhookKey now client event.toStoredEvent = .ok env := by
  obtain ⟨text, htext⟩ := JsValue.writable_object (envelope_writable now client event)
  unfold finalEnvelope rawBody stringifyObject
  rw [htext]
  exact ⟨_, rfl⟩

end

/-! ## One attempt -/

section

variable [Runtime] [WebhookRuntime]

/-- The attempt of a pass to deliver an event returns `delivered: true`. -/
def Pass.Delivers (cfg : WorkerConfig) (pass : Pass) (event : StoredEvent) : Prop :=
  ∃ client env, activeClient (pass.client event.id event.targetPlatform) = some client ∧
    finalEnvelope cfg.webhookKey pass.now client event = .ok env ∧
    (submit pass client event env).delivered = true

/-- The text of the error can be stored in the delivery log: its first 500 code units hold no
U+0000 and do not end in half a character. -/
def StorableError (text : String) : Prop :=
  ∃ chars ∈ sliceChars 500 text.toList, FitsText (String.ofList chars)

instance (text : String) : Decidable (StorableError text) :=
  match h : sliceChars 500 text.toList with
  | none => isFalse fun ⟨_, hmem, _⟩ => Option.not_mem_none _ (h ▸ hmem)
  | some chars =>
    decidable_of_iff (FitsText (String.ofList chars)) (by simp [StorableError, h])

/-- The log of the attempt of a pass to deliver an event can be stored. -/
def Pass.Logs (cfg : WorkerConfig) (pass : Pass) (event : StoredEvent) : Prop :=
  ∀ client env, activeClient (pass.client event.id event.targetPlatform) = some client →
    finalEnvelope cfg.webhookKey pass.now client event = .ok env →
    ∀ text ∈ (submit pass client event env).error, StorableError text

omit [WebhookRuntime] [Runtime] in
theorem errorColumn_ok_iff {error : Option String} :
    (∃ column, errorColumn error = .ok column) ↔ ∀ text ∈ error, StorableError text := by
  unfold errorColumn StorableError
  cases error with
  | none => simp
  | some text =>
    by_cases hempty : text = ""
    · subst hempty
      have hnone : (some "").filter (· ≠ "") = none := by decide
      rw [hnone]
      simp [sliceChars, FitsText]
    · have hsome : (some text).filter (· ≠ "") = some text := by simp [hempty]
      rw [hsome]
      cases hslice : sliceChars 500 text.toList with
      | none => simp [hslice]
      | some chars =>
        simp only [hslice, bind_eq_ok, checkTexts_eq_ok, pure, Except.pure]
        simp [hslice]

omit [WebhookRuntime] [Runtime] in
theorem deliveryRow_of_storable {result : DeliveryResult}
    (h : ∀ text ∈ result.error, StorableError text) (eventId : String) (attempt : Nat) :
    ∃ row, deliveryRow eventId attempt result = .ok row := by
  obtain ⟨column, hcolumn⟩ := errorColumn_ok_iff.mpr h
  unfold deliveryRow
  rw [hcolumn]
  exact ⟨_, rfl⟩

omit [WebhookRuntime] [Runtime] in
/-- The row says which event was tried, and whether its receiver took it. -/
theorem deliveryRow_eq {eventId : String} {attempt : Nat} {result : DeliveryResult}
    {row : DeliveryLogRow} (h : deliveryRow eventId attempt result = .ok row) :
    row.eventId = eventId ∧ row.ok = result.delivered := by
  unfold deliveryRow at h
  obtain ⟨column, -, h⟩ := bind_eq_ok.mp h
  obtain rfl := Except.ok.inj h
  exact ⟨rfl, rfl⟩

omit [WebhookRuntime] [Runtime] in
theorem deliveryRow_of_not_storable {result : DeliveryResult}
    (h : ¬∀ text ∈ result.error, StorableError text) (eventId : String) (attempt : Nat) :
    ∃ e, deliveryRow eventId attempt result = .error e := by
  unfold deliveryRow
  cases hcolumn : errorColumn result.error with
  | error e => exact ⟨e, rfl⟩
  | ok column => exact absurd (errorColumn_ok_iff.mp ⟨column, hcolumn⟩) h

omit [WebhookRuntime] in
theorem submit_eq (pass : Pass) (client : WebhookClient) (event : StoredEvent)
    (env : Object JsValue) : ∃ reply : HttpReply, submit pass client event env = reply.result := by
  unfold submit
  dsimp only
  split <;> exact ⟨_, rfl⟩

/-- An event that is delivered has no error to log. -/
theorem Pass.Delivers.logs {cfg : WorkerConfig} {pass : Pass} {event : StoredEvent}
    (h : pass.Delivers cfg event) : pass.Logs cfg event := by
  obtain ⟨client, env, hclient, henv, hdelivered⟩ := h
  intro client' env' hclient' henv' text htext
  obtain rfl : client = client' := Option.some.inj (hclient.symm.trans hclient')
  obtain rfl : env = env' := Except.ok.inj (henv.symm.trans henv')
  have hnone : ∀ reply : HttpReply, reply.result.delivered = true → reply.result.error = none := by
    rintro (⟨ok, status, text⟩ | message) hok
    · exact if_pos hok
    · exact absurd hok Bool.false_ne_true
  obtain ⟨reply, hreply⟩ := submit_eq pass client event env
  rw [hreply] at hdelivered htext
  rw [hnone reply hdelivered] at htext
  cases htext

/-- **An attempt whose log cannot be stored** throws, and writes nothing. -/
theorem attemptDelivery_of_not_logs {cfg : WorkerConfig} {pass : Pass} {event : OutboxRow}
    (h : ¬pass.Logs cfg event.toStoredEvent) (s : Outbox) :
    ∃ e, attemptDelivery cfg pass event s = (.error e, s) := by
  unfold Pass.Logs at h
  push Not at h
  obtain ⟨client, env, hclient, henv, text, htext, hstorable⟩ := h
  obtain ⟨e, he⟩ := deliveryRow_of_not_storable (fun hall => hstorable (hall text htext))
    event.id (event.attempts + 1)
  refine ⟨e, ?_⟩
  unfold attemptDelivery
  simp only [hclient, henv, he]

/-- **What one attempt writes**, if its log can be stored. -/
theorem attemptDelivery_of_logs {cfg : WorkerConfig} {pass : Pass} {event : OutboxRow}
    (hlogs : pass.Logs cfg event.toStoredEvent) (s : Outbox) :
    ∃ delivered deliveries, attemptDelivery cfg pass event s =
        (.ok delivered,
          { events := s.events.modify event.id
              (fun r => r.attempted cfg.maxAttempts pass.now delivered (event.attempts + 1))
              fun r => r.attempted_id cfg.maxAttempts pass.now delivered (event.attempts + 1)
            deliveries }) ∧
      (delivered = true → pass.Delivers cfg event.toStoredEvent) := by
  unfold attemptDelivery
  cases hclient : activeClient (pass.client event.id event.targetPlatform) with
  | none => exact ⟨false, s.deliveries, rfl, nofun⟩
  | some client =>
    obtain ⟨env, henv⟩ := finalEnvelope_ok cfg.webhookKey pass.now client event
    obtain ⟨row, hrow⟩ := deliveryRow_of_storable (hlogs client env hclient henv)
      event.id (event.attempts + 1)
    simp only [henv, hrow]
    cases hresult : (submit pass client event.toStoredEvent env).delivered with
    | false => exact ⟨false, _, rfl, nofun⟩
    | true => exact ⟨true, _, rfl, fun _ => ⟨client, env, hclient, henv, hresult⟩⟩

/-- **What is submitted is posted**: the wire body of an envelope that was written can be written. -/
theorem submit_of_final {webhookKey : Option SigningKey} (pass : Pass) {client : WebhookClient}
    {event : StoredEvent} {env : Object JsValue}
    (henv : finalEnvelope webhookKey pass.now client event = .ok env) :
    ∃ post, submit pass client event env = (pass.answer event.id post).result := by
  unfold finalEnvelope at henv
  cases hbody : rawBody pass.now client event with
  | error e =>
    rw [hbody] at henv
    cases henv
  | ok body =>
    rw [hbody] at henv
    obtain rfl := Except.ok.inj henv
    have hposted : stringifyObject (envelope pass.now client event) = .ok body := hbody
    unfold submit HttpPayKHAdapter.submitSignedEvent HttpPayChainAdapter.submitSignedEvent
      submitSignedEvent
    simp only [ite_self, bind, Except.bind, pure, Except.pure, wireBody_final, hposted]
    exact ⟨_, rfl⟩

theorem Pass.logs_of_answer {cfg : WorkerConfig} {pass : Pass} {event : StoredEvent}
    (h : ∀ post, ∀ text ∈ (pass.answer event.id post).result.error, StorableError text) :
    pass.Logs cfg event := by
  intro client env _ henv
  obtain ⟨post, hpost⟩ := submit_of_final pass henv
  rw [hpost]
  exact h post

end

/-! ## The attempts that remain -/

namespace OutboxRow

/-- The attempts a row has left. -/
def remaining (maxAttempts : Nat) (r : OutboxRow) : ℤ :=
  if r.Pending then maxAttempts - r.attempts else 0

/-- The row is delivered or dead-lettered, as the last attempt left it. -/
inductive Settled (maxAttempts : Nat) (answered : StoredEvent → Prop) (r : OutboxRow) : Prop
  | delivered (hdelivered : r.deliveredAt ≠ none) (hdead : r.deadLettered = false)
      (hattempts : r.attempts ≤ maxAttempts) (hanswered : answered r.toStoredEvent)
  | deadLettered (hdelivered : r.deliveredAt = none) (hdead : r.deadLettered = true)
      (hattempts : r.attempts = maxAttempts)

variable {maxAttempts : Nat} {answered : StoredEvent → Prop} {r : OutboxRow}

theorem Settled.not_pending (h : r.Settled maxAttempts answered) : ¬r.Pending := by
  rintro ⟨hnone, hdead⟩
  cases h with
  | delivered hdelivered => exact hdelivered hnone
  | deadLettered _ hdead' => exact absurd (hdead.symm.trans hdead') (by decide)

/-- **The row after an attempt.** It is settled, or has one attempt less and one left. -/
theorem attempted_cases (hpending : r.Pending) (hbelow : r.attempts < maxAttempts) (now : Int)
    {delivered : Bool} (hanswered : delivered = true → answered r.toStoredEvent) :
    let r' := r.attempted maxAttempts now delivered (r.attempts + 1)
    r'.Settled maxAttempts answered ∨
      r'.Pending ∧ r'.attempts = r.attempts + 1 ∧ r'.attempts < maxAttempts := by
  cases delivered with
  | true => exact .inl (.delivered (Option.some_ne_none now) hpending.2 hbelow (hanswered rfl))
  | false =>
    by_cases hlast : maxAttempts ≤ r.attempts + 1
    · exact .inl (.deadLettered hpending.1 (decide_eq_true hlast)
        (Nat.le_antisymm hbelow hlast))
    · exact .inr ⟨⟨hpending.1, decide_eq_false hlast⟩, rfl, Nat.lt_of_not_le hlast⟩

theorem remaining_pending (hpending : r.Pending) :
    r.remaining maxAttempts = maxAttempts - r.attempts := if_pos hpending

theorem remaining_not_pending (hpending : ¬r.Pending) : r.remaining maxAttempts = 0 :=
  if_neg hpending

end OutboxRow

/-- The number of pending events. -/
def Outbox.pendingCount (s : Outbox) : Nat := s.events.rows.countP fun r => r.Pending

/-- The attempts the pending events have left together. -/
def Outbox.remaining (maxAttempts : Nat) (s : Outbox) : ℤ :=
  s.events.sum fun r => r.remaining maxAttempts

/-- Every event that was pending at the start is pending or settled, and a pending event has
attempts left. -/
structure Draining (maxAttempts : Nat) (answered : StoredEvent → Prop) (s₀ s : Outbox) : Prop where
  below : ∀ r ∈ s.events.rows, r.Pending → r.attempts < maxAttempts
  settling : ∀ r₀ ∈ s₀.events.rows, r₀.Pending → ∃ r, s.events.find? r₀.id = some r ∧
    r.toStoredEvent = r₀.toStoredEvent ∧ (r.Pending ∨ r.Settled maxAttempts answered)

namespace Draining

variable {maxAttempts : Nat} {answered : StoredEvent → Prop} {s₀ s : Outbox}

theorem row_nonneg (h : Draining maxAttempts answered s₀ s) {r : OutboxRow}
    (hr : r ∈ s.events.rows) : 0 ≤ r.remaining maxAttempts := by
  by_cases hpending : r.Pending
  · have hbelow := h.below r hr hpending
    rw [OutboxRow.remaining_pending hpending]
    omega
  · rw [OutboxRow.remaining_not_pending hpending]

theorem remaining_nonneg (h : Draining maxAttempts answered s₀ s) :
    0 ≤ s.remaining maxAttempts :=
  Table.sum_nonneg fun _ hr => h.row_nonneg hr

/-- A pending event has an attempt left. -/
theorem remaining_pos (h : Draining maxAttempts answered s₀ s) {r : OutboxRow}
    (hr : r ∈ s.events.rows) (hpending : r.Pending) : 0 < s.remaining maxAttempts := by
  have hbelow := h.below r hr hpending
  have hle : r.remaining maxAttempts ≤ s.remaining maxAttempts := by
    refine List.single_le_sum (fun x hx => ?_) _ (List.mem_map_of_mem hr)
    obtain ⟨a, ha, rfl⟩ := List.mem_map.mp hx
    exact h.row_nonneg ha
  rw [OutboxRow.remaining_pending hpending] at hle
  omega

/-- **One attempt takes one of the attempts that remain.** -/
theorem attempt (h : Draining maxAttempts answered s₀ s) {event : OutboxRow}
    (hevent : event ∈ s.events.rows) (hpending : event.Pending) (now : Int) {delivered : Bool}
    (hanswered : delivered = true → answered event.toStoredEvent) (deliveries : List DeliveryLogRow) :
    let s' : Outbox :=
      { events := s.events.modify event.id
          (fun r => r.attempted maxAttempts now delivered (event.attempts + 1))
          fun r => r.attempted_id maxAttempts now delivered (event.attempts + 1)
        deliveries }
    Draining maxAttempts answered s₀ s' ∧
      s'.remaining maxAttempts + 1 ≤ s.remaining maxAttempts := by
  intro s'
  have hbelow := h.below event hevent hpending
  have hfind : s.events.find? event.id = some event := Table.find?_key_of_mem hevent
  have hcases := OutboxRow.attempted_cases hpending hbelow now hanswered
  refine ⟨⟨?_, ?_⟩, ?_⟩
  · refine Table.forall_modify (OutboxRow.attempted_id _ _ _ _) h.below hfind fun hpending' => ?_
    rcases hcases with hsettled | ⟨-, -, hlt⟩
    · exact absurd hpending' hsettled.not_pending
    · exact hlt
  · intro r₀ hr₀ hpending₀
    obtain ⟨r, hr, hsame, hstate⟩ := h.settling r₀ hr₀ hpending₀
    rw [Table.find?_modify]
    by_cases hid : r₀.id = event.id
    · rw [hid, hfind] at hr
      obtain rfl := Option.some.inj hr
      rw [if_pos hid, hfind]
      exact ⟨_, rfl, (event.attempted_event _ _ _ _).trans hsame, hcases.symm.imp_left And.left⟩
    · rw [if_neg hid]
      exact ⟨r, hr, hsame, hstate⟩
  · have hsum : s'.remaining maxAttempts = s.remaining maxAttempts -
        event.remaining maxAttempts +
        (event.attempted maxAttempts now delivered (event.attempts + 1)).remaining maxAttempts :=
      Table.sum_modify hfind _
        (fun r => r.attempted_id maxAttempts now delivered (event.attempts + 1)) _
    rw [OutboxRow.remaining_pending hpending] at hsum
    rcases hcases with hsettled | ⟨hpending', hattempts, hlt⟩
    · rw [OutboxRow.remaining_not_pending hsettled.not_pending] at hsum
      omega
    · rw [OutboxRow.remaining_pending hpending', hattempts] at hsum
      omega

end Draining

/-! ## A pass -/

theorem Outbox.mem_batch {s : Outbox} {batchSize : Nat} {r : OutboxRow}
    (h : r ∈ s.batch batchSize) : r ∈ s.events.rows ∧ r.Pending := by
  have hmem := (List.mergeSort_perm _ _).mem_iff.mp (List.mem_of_mem_take h)
  obtain ⟨hr, hpending⟩ := List.mem_filter.mp hmem
  exact ⟨hr, of_decide_eq_true hpending⟩

theorem Outbox.batch_nodup (s : Outbox) (batchSize : Nat) :
    ((s.batch batchSize).map fun r => r.id).Nodup := by
  refine List.Nodup.sublist ((List.take_sublist _ _).map _) ?_
  refine ((List.mergeSort_perm _ _).map _).nodup_iff.mpr ?_
  exact s.events.nodup.sublist (List.filter_sublist.map _)

/-- A batch is empty only when nothing is pending. -/
theorem Outbox.batch_ne_nil {s : Outbox} {batchSize : Nat} (hbatch : 1 ≤ batchSize) {r : OutboxRow}
    (hr : r ∈ s.events.rows) (hpending : r.Pending) : s.batch batchSize ≠ [] := by
  have hmem : r ∈ (s.events.rows.filter fun r => r.Pending).mergeSort fun a b =>
      a.sequence ≤ b.sequence :=
    (List.mergeSort_perm _ _).mem_iff.mpr (List.mem_filter.mpr ⟨hr, decide_eq_true hpending⟩)
  intro hnil
  rcases List.take_eq_nil_iff.mp hnil with hzero | hempty
  · omega
  · rw [hempty] at hmem
    exact List.not_mem_nil hmem

section

variable [Runtime] [WebhookRuntime] {cfg : WorkerConfig} {answered : StoredEvent → Prop}
  {s₀ s : Outbox} {pass : Pass}

/-- **What a pass does** that stores its logs. It returns, and takes one attempt for every event of
its batch. -/
theorem deliverAll_spec
    (hanswered : ∀ event, pass.Delivers cfg event → answered event)
    {events : List OutboxRow} (hlogs : ∀ e ∈ events, pass.Logs cfg e.toStoredEvent)
    (h : Draining cfg.maxAttempts answered s₀ s)
    (hevents : ∀ e ∈ events, e ∈ s.events.rows ∧ e.Pending)
    (hnodup : (events.map fun e => e.id).Nodup) (n : Nat) :
    ∃ k s', deliverAll cfg pass events n s = (.ok k, s') ∧
      Draining cfg.maxAttempts answered s₀ s' ∧
      s'.remaining cfg.maxAttempts + events.length ≤ s.remaining cfg.maxAttempts := by
  induction events generalizing s n with
  | nil => exact ⟨n, s, rfl, h, by simp⟩
  | cons event events ih =>
    obtain ⟨hfresh, hnodup⟩ := List.nodup_cons.mp hnodup
    obtain ⟨hevent, hpending⟩ := hevents event List.mem_cons_self
    obtain ⟨delivered, deliveries, hrun, hdelivered⟩ :=
      attemptDelivery_of_logs (hlogs event List.mem_cons_self) s
    obtain ⟨h', htaken⟩ := h.attempt hevent hpending pass.now
      (fun hd => hanswered event.toStoredEvent (hdelivered hd)) deliveries
    -- The rest of the batch is as it was read.
    have hrest : ∀ e ∈ events, e ∈ (s.events.modify event.id
        (fun r => r.attempted cfg.maxAttempts pass.now delivered (event.attempts + 1))
        fun r => r.attempted_id cfg.maxAttempts pass.now delivered (event.attempts + 1)).rows ∧
          e.Pending := by
      intro e he
      obtain ⟨hmem, hpending'⟩ := hevents e (List.mem_cons_of_mem event he)
      have hne : e.id ≠ event.id := fun hid => hfresh (List.mem_map.mpr ⟨e, he, hid⟩)
      exact ⟨Table.mem_modify.mpr (.inl ⟨hmem, hne⟩), hpending'⟩
    obtain ⟨k, s', hall, hdraining, hlength⟩ :=
      ih (fun e he => hlogs e (List.mem_cons_of_mem event he)) h' hrest hnodup
        (if delivered then n + 1 else n)
    refine ⟨k, s', ?_, hdraining, ?_⟩
    · rw [deliverAll, hrun]
      exact hall
    · rw [List.length_cons]
      push_cast
      omega

/-- The pass stores the log of every event of its batch. -/
def Pass.LogsBatch (cfg : WorkerConfig) (s : Outbox) (pass : Pass) : Prop :=
  ∀ r ∈ s.batch cfg.batchSize, pass.Logs cfg r.toStoredEvent

/-- **A pass lowers what remains.** -/
theorem step_lowers (hbatch : 1 ≤ cfg.batchSize)
    (hanswered : ∀ event, pass.Delivers cfg event → answered event)
    (hlogs : pass.LogsBatch cfg s) (h : Draining cfg.maxAttempts answered s₀ s) :
    Draining cfg.maxAttempts answered s₀ (step cfg s pass) ∧
      ((step cfg s pass).remaining cfg.maxAttempts).toNat ≤
        (s.remaining cfg.maxAttempts).toNat - 1 := by
  obtain ⟨k, s', hrun, hdraining, hlength⟩ := deliverAll_spec hanswered hlogs h
    (fun e he => Outbox.mem_batch he) (s.batch_nodup cfg.batchSize) 0
  have hstep : step cfg s pass = s' := congrArg Prod.snd hrun
  rw [hstep]
  refine ⟨hdraining, ?_⟩
  have hnonneg := hdraining.remaining_nonneg
  by_cases hsome : ∃ r ∈ s.events.rows, r.Pending
  · obtain ⟨r, hr, hpending⟩ := hsome
    have hne := List.length_pos_of_ne_nil (Outbox.batch_ne_nil hbatch hr hpending)
    omega
  · have hzero : s.remaining cfg.maxAttempts = 0 := by
      unfold Outbox.remaining
      rw [Table.sum_congr fun r hr =>
        OutboxRow.remaining_not_pending fun hpending => hsome ⟨r, hr, hpending⟩]
      simp [Table.sum]
    omega

/-- **A pass whose first log cannot be stored** writes nothing. -/
theorem step_of_not_logs {r : OutboxRow} {rest : List OutboxRow}
    (hbatch : s.batch cfg.batchSize = r :: rest) (h : ¬pass.Logs cfg r.toStoredEvent) :
    step cfg s pass = s := by
  obtain ⟨e, he⟩ := attemptDelivery_of_not_logs h s
  unfold step deliverPending
  rw [hbatch, deliverAll, he]

/-- **An event that is stuck.** Where no pass can store the log of the oldest pending event, none
writes anything. -/
theorem stuck_run {r : OutboxRow} {rest : List OutboxRow}
    (hbatch : s.batch cfg.batchSize = r :: rest) {passes : List Pass}
    (h : ∀ pass ∈ passes, ¬pass.Logs cfg r.toStoredEvent) : passes.foldl (step cfg) s = s := by
  induction passes with
  | nil => rfl
  | cons pass passes ih =>
    rw [List.foldl_cons, step_of_not_logs hbatch (h pass List.mem_cons_self)]
    exact ih fun pass' hpass' => h pass' (List.mem_cons_of_mem pass hpass')

/-! ## All passes -/

omit [Runtime] [WebhookRuntime] in
/-- Every pending event has at most all of its attempts left. -/
theorem Outbox.remaining_le (s : Outbox) (maxAttempts : Nat) :
    s.remaining maxAttempts ≤ s.pendingCount * maxAttempts := by
  unfold Outbox.remaining Outbox.pendingCount Table.sum
  generalize s.events.rows = rows
  induction rows with
  | nil => simp
  | cons r rows ih =>
    rw [List.map_cons, List.sum_cons, List.countP_cons]
    by_cases hpending : r.Pending
    · rw [OutboxRow.remaining_pending hpending, if_pos (decide_eq_true hpending)]
      push_cast
      rw [Int.add_mul]
      omega
    · rw [OutboxRow.remaining_not_pending hpending, if_neg (by simpa using hpending)]
      simpa using ih

/-- **The outbox drains** in passes that store their logs. -/
theorem outbox_drains {cfg : WorkerConfig} {s : Outbox} (hbatch : 1 ≤ cfg.batchSize)
    (hbelow : ∀ r ∈ s.events.rows, r.Pending → r.attempts < cfg.maxAttempts) {passes : List Pass}
    (hpasses : s.pendingCount * cfg.maxAttempts ≤ passes.length)
    (hlogs : Meets (step cfg) (Pass.LogsBatch cfg) s passes) :
    let s' := passes.foldl (step cfg) s
    (∀ r ∈ s'.events.rows, ¬r.Pending) ∧
      ∀ r ∈ s.events.rows, r.Pending → ∃ r', s'.events.find? r.id = some r' ∧
        r'.toStoredEvent = r.toStoredEvent ∧
        (r'.deliveredAt ≠ none ∧ r'.deadLettered = false ∨
          r'.deliveredAt = none ∧ r'.deadLettered = true) ∧
        (r'.deadLettered = true → r'.attempts = cfg.maxAttempts) ∧
        r'.attempts ≤ cfg.maxAttempts ∧
        (r'.deliveredAt ≠ none → ∃ pass ∈ passes, pass.Delivers cfg r.toStoredEvent) := by
  intro s'
  let answered : StoredEvent → Prop := fun event => ∃ pass ∈ passes, pass.Delivers cfg event
  have hstart : Draining cfg.maxAttempts answered s s :=
    ⟨hbelow, fun r hr hpending => ⟨r, Table.find?_key_of_mem hr, rfl, .inl hpending⟩⟩
  have hmeets : Meets (step cfg) (fun t pass => pass ∈ passes ∧ pass.LogsBatch cfg t) s passes :=
    (Meets.of_mem (fun _ h => h) s).and hlogs
  have hlowers : ∀ t pass, Draining cfg.maxAttempts answered s t →
      pass ∈ passes ∧ pass.LogsBatch cfg t → Draining cfg.maxAttempts answered s (step cfg t pass) ∧
        ((step cfg t pass).remaining cfg.maxAttempts).toNat ≤
          (t.remaining cfg.maxAttempts).toNat - 1 :=
    fun t pass h hmem =>
      step_lowers hbatch (fun _ hdelivers => ⟨pass, hmem.1, hdelivers⟩) hmem.2 h
  have hend := inv_run (fun t pass h hmem => (hlowers t pass h hmem).1) hstart hmeets
  have hmeasure := measure_run (fun t => (t.remaining cfg.maxAttempts).toNat) hlowers hstart
    hmeets
  have hnone : ∀ r ∈ s'.events.rows, ¬r.Pending := by
    intro r hr hpending
    have hpos := hend.remaining_pos hr hpending
    have hle := s.remaining_le cfg.maxAttempts
    omega
  refine ⟨hnone, fun r hr hpending => ?_⟩
  obtain ⟨r', hfind, hsame, hstate⟩ := hend.settling r hr hpending
  have hsettled := hstate.resolve_left (hnone r' (Table.mem_of_find? hfind))
  refine ⟨r', hfind, hsame, ?_⟩
  cases hsettled with
  | delivered hdelivered hdead hattempts hanswered =>
    exact ⟨.inl ⟨hdelivered, hdead⟩, fun h => absurd (hdead.symm.trans h) (by decide), hattempts,
      fun _ => hsame ▸ hanswered⟩
  | deadLettered hdelivered hdead hattempts =>
    exact ⟨.inr ⟨hdelivered, hdead⟩, fun _ => hattempts, hattempts.le,
      fun h => absurd hdelivered h⟩

end

/-! ## Two events that are refused -/

namespace Sample

/-- A cleared deposit, never tried. -/
def untriedEvent (id : String) (sequence : Int) : OutboxRow where
  eventType := "deposit.cleared"
  targetPlatform := "PAYCHAIN"
  payload := .object [("depositId", .string "D1")]
  artifact := none
  signatureKeyId := "webhook-v1"
  signatureValue := "signature"
  id := id
  sequence := sequence
  createdAt := 1767225600000
  deliveredAt := none
  attempts := 0
  deadLettered := false
  payload_json := rfl

theorem untriedEvents_nodup :
    ([untriedEvent "evt_1" 1, untriedEvent "evt_2" 2].map fun r => r.id).Nodup := by decide

def untriedOutbox : Outbox where
  events := ⟨[untriedEvent "evt_1" 1, untriedEvent "evt_2" 2], untriedEvents_nodup⟩
  deliveries := []

/-- Two attempts for an event, one event a pass. -/
def twoAttempts : WorkerConfig := ⟨2, 1, none⟩

/-- The receiver answers with a server error. -/
def refusedPass : Pass where
  now := 1767225600000
  client _ _ := some ⟨"paychain", some "https://paychain/hooks", false⟩
  answer _ _ := .response false 500 "unavailable"

/-- The receiver answers with a text that is not stored. -/
def unstoredPass : Pass :=
  { refusedPass with answer := fun _ _ => .response false 500 (String.ofList ['\x00']) }

@[reducible] def plainWebhooks : WebhookRuntime where
  sha256Hex text := text
  edSignText _ text := text
  edVerifyThrows _ _ := none

attribute [local instance] Runtime.ascii plainWebhooks

theorem refusedPass_logs (cfg : WorkerConfig) (r : OutboxRow) :
    refusedPass.Logs cfg r.toStoredEvent :=
  Pass.logs_of_answer fun post text htext => by
    obtain rfl : "unavailable" = text := Option.some.inj htext
    decide

theorem outbox_drains_refused :
    ((List.replicate 4 refusedPass).foldl (step twoAttempts) untriedOutbox).pendingCount = 0 := by
  have hlogs : Meets (step twoAttempts) (Pass.LogsBatch twoAttempts) untriedOutbox
      (List.replicate 4 refusedPass) :=
    (Meets.of_mem (fun pass hpass => List.eq_of_mem_replicate hpass) untriedOutbox).mono
      fun _ pass hpass r _ => hpass ▸ refusedPass_logs twoAttempts r
  have hdrained := (@outbox_drains _ _ twoAttempts untriedOutbox (by decide) (by decide)
    (List.replicate 4 refusedPass) (by decide) hlogs).1
  apply List.countP_eq_zero.mpr
  intro r hr
  simpa using hdrained r hr

theorem unstoredPass_not_logs (cfg : WorkerConfig) (r : OutboxRow) :
    ¬unstoredPass.Logs cfg r.toStoredEvent := by
  obtain ⟨env, henv⟩ := finalEnvelope_ok cfg.webhookKey unstoredPass.now
    ⟨"paychain", "https://paychain/hooks"⟩ r
  obtain ⟨post, hpost⟩ := submit_of_final unstoredPass henv
  intro hlogs
  have hstored := hlogs _ env rfl henv (String.ofList ['\x00']) (by rw [hpost]; rfl)
  exact absurd hstored (by decide)

theorem untriedOutbox_batch : untriedOutbox.batch 1 = [untriedEvent "evt_1" 1] := by
  unfold Outbox.batch
  rw [List.mergeSort_of_pairwise (by decide)]
  rfl

/-- An answer that is not stored keeps two events where they are. -/
theorem outbox_stuck : ¬∀ [Runtime] [WebhookRuntime] (cfg : WorkerConfig) (s : Outbox)
    (passes : List Pass), 1 ≤ cfg.maxAttempts → 1 ≤ cfg.batchSize →
    (∀ r ∈ s.events.rows, r.Pending → r.attempts < cfg.maxAttempts) →
    s.pendingCount * cfg.maxAttempts ≤ passes.length →
    ∀ r ∈ (passes.foldl (step cfg) s).events.rows, ¬r.Pending := by
  intro h
  have hdrained := h twoAttempts untriedOutbox (List.replicate 4 unstoredPass) (by decide)
    (by decide) (by decide) (by decide)
  rw [stuck_run untriedOutbox_batch fun pass hpass =>
    List.eq_of_mem_replicate hpass ▸ unstoredPass_not_logs twoAttempts _] at hdrained
  exact hdrained (untriedEvent "evt_1" 1) List.mem_cons_self ⟨rfl, rfl⟩

end Sample

end TrusteeBank
