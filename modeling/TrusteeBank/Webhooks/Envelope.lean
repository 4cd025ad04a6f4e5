import TrusteeBank.Database
import TrusteeBank.Json

/-!
# Delivering an event

The worker wraps an event of the outbox in an envelope, signs the text of the envelope, and hands
it with the signature to an adapter, which posts it. Two modules serialise the same object: the
worker before it adds `timestampMs` and `requestSignature`, the adapter after it has taken them
out again.

**Modeling choice.** An envelope is an object with its properties in order, so that assigning to a
property keeps its place.

* `wireBody_final`: what the adapter takes out is what the worker has put in;
* `deliver_eq`: what is posted for an event;
* `signed_bytes_sent`: the text that is signed is the body that is posted.
-/

set_option autoImplicit false

namespace TrusteeBank

open Lib (Object)

/-- What delivery takes from the platform. -/
class WebhookRuntime where
  /-- `sha256Hex`. -/
  sha256Hex : String → String
  /-- `sign(null, Buffer.from(text), createPrivateKey(pem)).toString('base64')`. -/
  edSignText : String → String → String
  /-- What `createPublicKey(pem)` or the verification of a value throws, if it does. -/
  edVerifyThrows : String → String → Option String

/-! ## Rows -/

/-- A row of the outbox. -/
structure StoredEvent extends OutboxEvent where
  id : String
  sequence : Int
  createdAt : Int

/-- What the worker reads of the client an event is for. -/
structure WebhookClient where
  oauthClientId : String
  webhookUrl : String

/-- A key of `TRUSTEE_SIGNING_KEYS`. -/
structure SigningKey where
  keyId : String
  privateKeyPem : String
  publicKeyPem : String
deriving DecidableEq, Repr

/-! ## Values -/

namespace JsValue

/-- `v ?? other`. -/
def orElse (v other : JsValue) : JsValue :=
  match v with
  | .undefined | .null => other
  | v => v

/-- `v[key]`, for a key that no prototype has. -/
def prop (v : JsValue) (key : String) : JsValue :=
  match v with
  | .object fields => (Object.get? fields key).getD .undefined
  | _ => .undefined

/-- Whether `if (v)` takes the branch. -/
def truthy : JsValue → Bool
  | .undefined | .null => false
  | .bool b => b
  | .number n | .bigint n => n ≠ 0
  | .string s => s ≠ ""
  | .decimal _ | .array _ | .object _ => true

/-- `v || other`. -/
def orFalsy (v other : JsValue) : JsValue := if v.truthy then v else other

end JsValue

/-- `JSON.stringify` of an object. -/
def stringifyObject (fields : Object JsValue) : Except ApiError String :=
  (jsonStringify (.object fields)).map fun text => text.getD "undefined"

/-! ## The envelope -/

structure EnvelopeInput where
  eventId : String
  eventType : String
  eventSequence : String
  targetPlatform : String
  timestamp : String
  clientId : String
  programId : JsValue
  correlationId : JsValue
  requestId : String
  nonce : String
  apiVersion : String
  payload : JsValue

def EnvelopeInput.toObject (input : EnvelopeInput) : Object JsValue :=
  [("eventId", .string input.eventId),
    ("eventType", .string input.eventType),
    ("eventSequence", .string input.eventSequence),
    ("targetPlatform", .string input.targetPlatform),
    ("timestamp", .string input.timestamp),
    ("clientId", .string input.clientId),
    ("programId", input.programId),
    ("correlationId", input.correlationId),
    ("requestId", .string input.requestId),
    ("nonce", .string input.nonce),
    ("apiVersion", .string input.apiVersion),
    ("payload", input.payload)]

section

variable [WebhookRuntime]

def buildSignedEnvelope (input : EnvelopeInput) (signature : Signature) : Object JsValue :=
  let bodyHash := WebhookRuntime.sha256Hex (canonicalize input.payload)
  Object.spread input.toObject
    [("id", .string input.eventId),
      ("type", .string input.eventType),
      ("programId", input.programId),
      ("bodyHash", .string bodyHash),
      ("signingKeyId", .string signature.keyId),
      ("signature", .string signature.value)]

/-! ## The adapters -/

/-- What `fetch` is called with. -/
structure WebhookPost where
  url : String
  headers : Object JsValue
  body : String

namespace HttpAdapter

omit [WebhookRuntime]

/-- `const { requestSignature: _rs, timestampMs: _ts, ...body } = env`. -/
def wireBody (env : Object JsValue) : Object JsValue :=
  env.without ["requestSignature", "timestampMs"]

/-- `env[key]`. -/
def field (env : Object JsValue) (key : String) : JsValue := (env.get? key).getD .undefined

variable [Runtime]

/-- `String(Date.parse(env.timestamp) || env.timestamp)`. -/
def parsedTimestamp (timestamp : JsValue) : JsValue :=
  match timestamp with
  | .string text =>
    match Runtime.dateParse text with
    | some ms => if ms = 0 then timestamp else .string (toString ms)
    | none => timestamp
  | v => v

def envelopeHeaders (env : Object JsValue) : Object JsValue :=
  let ts := (field env "timestampMs").orFalsy (parsedTimestamp (field env "timestamp"))
  let signature := field env "signature"
  let sig := (field env "requestSignature").orFalsy
    (match signature with
    | .string value => .string value
    | v => v.prop "value")
  [("x-signature", sig),
    ("x-timestamp", ts),
    ("x-nonce", field env "nonce"),
    ("x-signing-key-id", field env "signingKeyId"),
    ("x-trustee-signature", sig),
    ("x-trustee-timestamp", ts),
    ("x-trustee-delivery", field env "eventId"),
    ("x-trustee-event-id", field env "eventId"),
    ("x-trustee-signing-key", field env "signingKeyId"),
    ("x-trustee-correlation-id", field env "correlationId"),
    ("x-idempotency-key", field env "requestId"),
    ("x-api-version", field env "apiVersion")]

/-- What `submitSignedEvent` posts. -/
def submitSignedEvent (webhookUrl : String) (env : Object JsValue) :
    Except ApiError WebhookPost := do
  let body ← stringifyObject (wireBody env)
  let headers := Object.spread [("content-type", .string "application/json")] (envelopeHeaders env)
  return { url := webhookUrl, headers, body }

end HttpAdapter

/-- The two adapters post alike. -/
def HttpPayChainAdapter.submitSignedEvent [Runtime] (webhookUrl : String) (env : Object JsValue) :
    Except ApiError WebhookPost :=
  HttpAdapter.submitSignedEvent webhookUrl env

def HttpPayKHAdapter.submitSignedEvent [Runtime] (webhookUrl : String) (env : Object JsValue) :
    Except ApiError WebhookPost :=
  HttpAdapter.submitSignedEvent webhookUrl env

/-! ## The worker -/

namespace WebhookDelivery

/-- `event.payload ?? {}`. -/
def payloadOf (event : StoredEvent) : JsValue := event.payload.orElse (.object [])

def envelopeInput (now : Int) (client : WebhookClient) (event : StoredEvent) : EnvelopeInput :=
  let payload := payloadOf event
  { eventId := event.id
    eventType := event.eventType
    eventSequence := toString event.sequence
    targetPlatform := event.targetPlatform
    timestamp := isoString now
    clientId := client.oauthClientId
    programId := payload.prop "programId"
    correlationId := (payload.prop "correlationId").orElse (.string ("corr_" ++ event.id))
    requestId := "req_" ++ event.id
    nonce := event.id ++ "-" ++ toString event.sequence
    apiVersion := "v1"
    payload }

/-- The envelope whose text is signed. -/
def envelope (now : Int) (client : WebhookClient) (event : StoredEvent) : Object JsValue :=
  let built := buildSignedEnvelope (envelopeInput now client event)
    ⟨event.signatureKeyId, "ed25519", event.signatureValue⟩
  let dated := built.set "occurredAt" (.string (isoString event.createdAt))
  match event.artifact.filter (· ≠ "") with
  | some artifact =>
    (dated.set "artifact" (.string artifact)).set "signature"
      (.object [("keyId", .string event.signatureKeyId), ("alg", .string "ed25519"),
        ("value", .string event.signatureValue)])
  | none => dated

/-- `JSON.stringify(envelope)`. -/
def rawBody (now : Int) (client : WebhookClient) (event : StoredEvent) : Except ApiError String :=
  stringifyObject (envelope now client event)

/-- The signature of `timestampMs.rawBody`, when there is a webhook key. -/
def stripeSignature (webhookKey : Option SigningKey) (timestampMs rawBody : String) : JsValue :=
  match webhookKey with
  | some key =>
    .string (WebhookRuntime.edSignText key.privateKeyPem (timestampMs ++ "." ++ rawBody))
  | none => .undefined

/-- The envelope with the fields that only become headers. -/
def withSignature (webhookKey : Option SigningKey) (now : Int) (rawBody : String)
    (env : Object JsValue) : Object JsValue :=
  let timestampMs := toString now
  (env.set "timestampMs" (.string timestampMs)).set "requestSignature"
    (stripeSignature webhookKey timestampMs rawBody)

/-- The envelope that is handed to the adapter. -/
def finalEnvelope (webhookKey : Option SigningKey) (now : Int) (client : WebhookClient)
    (event : StoredEvent) : Except ApiError (Object JsValue) := do
  let body ← rawBody now client event
  return withSignature webhookKey now body (envelope now client event)

/-- What the attempt to deliver one event posts. -/
def deliver [Runtime] (webhookKey : Option SigningKey) (now : Int) (client : WebhookClient)
    (event : StoredEvent) : Except ApiError WebhookPost := do
  let env ← finalEnvelope webhookKey now client event
  if event.targetPlatform = "PAYKH" then
    HttpPayKHAdapter.submitSignedEvent client.webhookUrl env
  else HttpPayChainAdapter.submitSignedEvent client.webhookUrl env

end WebhookDelivery

open WebhookDelivery HttpAdapter

/-! ## What is signed is what is sent -/

/-- The properties of an envelope before it is signed. -/
def envelopeKeys : List String :=
  ["eventId", "eventType", "eventSequence", "targetPlatform", "timestamp", "clientId", "programId",
    "correlationId", "requestId", "nonce", "apiVersion", "payload", "id", "type", "bodyHash",
    "signingKeyId", "signature"]

theorem keys_buildSignedEnvelope (input : EnvelopeInput) (signature : Signature) :
    (buildSignedEnvelope input signature).keys = envelopeKeys := rfl

theorem mem_keys_envelope {now : Int} {client : WebhookClient} {event : StoredEvent} {k : String}
    (h : k ∈ (envelope now client event).keys) :
    k ∈ envelopeKeys ∨ k = "occurredAt" ∨ k = "artifact" := by
  unfold envelope at h
  simp only at h
  have hbuilt (input : EnvelopeInput) (signature : Signature) :
      k ∈ (buildSignedEnvelope input signature).keys → k ∈ envelopeKeys := by
    rw [keys_buildSignedEnvelope]
    exact id
  split at h
  · rw [Object.mem_keys_set, Object.mem_keys_set, Object.mem_keys_set] at h
    rcases h with rfl | rfl | rfl | h
    · exact .inl (by decide)
    · exact .inr (.inr rfl)
    · exact .inr (.inl rfl)
    · exact .inl (hbuilt _ _ h)
  · rw [Object.mem_keys_set] at h
    rcases h with rfl | h
    · exact .inr (.inl rfl)
    · exact .inl (hbuilt _ _ h)

/-- **The adapter takes out what the worker has put in.** -/
theorem wireBody_final (webhookKey : Option SigningKey) (now : Int) (client : WebhookClient)
    (event : StoredEvent) (body : String) :
    wireBody (withSignature webhookKey now body (envelope now client event)) =
      envelope now client event := by
  unfold wireBody withSignature
  rw [Object.without_set (by simp), Object.without_set (by simp)]
  apply Object.without_of_keys
  intro k hk hout
  rcases mem_keys_envelope hk with hk | rfl | rfl
  · have hdisjoint : ∀ k ∈ envelopeKeys, k ∉ ["requestSignature", "timestampMs"] := by decide
    exact hdisjoint k hk hout
  · exact absurd hout (by decide)
  · exact absurd hout (by decide)

/-- What is posted, whichever the adapter. -/
theorem deliver_eq [Runtime] (webhookKey : Option SigningKey) (now : Int) (client : WebhookClient)
    (event : StoredEvent) :
    deliver webhookKey now client event = (rawBody now client event).map fun body =>
      { url := client.webhookUrl
        headers := Object.spread [("content-type", .string "application/json")]
          (envelopeHeaders (withSignature webhookKey now body (envelope now client event)))
        body } := by
  unfold deliver HttpPayKHAdapter.submitSignedEvent HttpPayChainAdapter.submitSignedEvent
  simp only [ite_self]
  unfold finalEnvelope submitSignedEvent
  cases hbody : rawBody now client event with
  | error e => rfl
  | ok body =>
    have hposted : stringifyObject (envelope now client event) = .ok body := hbody
    simp only [bind, Except.bind, pure, Except.pure, wireBody_final, hposted]
    rfl

/-- **The text that is signed is the body that is posted**, for every event, every client and every
time of delivery. Where the text cannot be written, nothing is posted. -/
theorem signed_bytes_sent [Runtime] (webhookKey : Option SigningKey) (now : Int)
    (client : WebhookClient) (event : StoredEvent) :
    (deliver webhookKey now client event).map WebhookPost.body = rawBody now client event := by
  rw [deliver_eq]
  cases rawBody now client event <;> rfl

end

end TrusteeBank
