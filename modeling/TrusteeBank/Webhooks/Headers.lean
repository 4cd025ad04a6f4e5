import TrusteeBank.Infra
import TrusteeBank.Webhooks.Envelope

/-!
# The key a webhook names

The signature in the headers is made at delivery with the webhook key of the worker. The key
identifier next to it is the one stored with the event: that of the key which signed the event, or
its artifact, when it was published.

**Assumption (`Ed25519`).** A signature verifies under the public key of the key that made it, and
under no other.

**Assumption (`KeysNamed`).** The keys are configured such that an identifier names one key, and no
key has two identifiers.

**Theorem (`webhook_headers`).** A receiver that follows the identifier can verify the header
signature if and only if the event was signed at publication with the key that is the webhook key
at delivery. For an event with an artifact it is not (`artifact_headers_fail`).
-/

set_option autoImplicit false

namespace TrusteeBank

open Lib (Object)
open WebhookDelivery HttpAdapter

section

variable [Runtime] [WebhookRuntime]

/-- Ed25519 over the keys that were ever in use. -/
structure Ed25519 (keys : List SigningKey) : Prop where
  nonempty : ∀ k ∈ keys, ∀ text, WebhookRuntime.edSignText k.privateKeyPem text ≠ ""
  verifies : ∀ k ∈ keys, ∀ text,
    Runtime.edVerify k.publicKeyPem text (WebhookRuntime.edSignText k.privateKeyPem text) = true
  only : ∀ k ∈ keys, ∀ k' ∈ keys, ∀ text,
    Runtime.edVerify k'.publicKeyPem text (WebhookRuntime.edSignText k.privateKeyPem text) = true →
      k'.publicKeyPem = k.publicKeyPem

/-- How the keys are configured. -/
structure KeysNamed (keys : List SigningKey) : Prop where
  identified : ∀ k ∈ keys, ∀ k' ∈ keys, k.keyId = k'.keyId → k = k'
  distinct : ∀ k ∈ keys, ∀ k' ∈ keys, k.publicKeyPem = k'.publicKeyPem → k = k'

/-- What a key signed verifies under no other key. -/
theorem Ed25519.made {keys : List SigningKey} (hed : Ed25519 keys) (hnamed : KeysNamed keys)
    {k k' : SigningKey} (hk : k ∈ keys) (hk' : k' ∈ keys) {text : String}
    (h : Runtime.edVerify k'.publicKeyPem text (WebhookRuntime.edSignText k.privateKeyPem text) =
      true) : k' = k :=
  hnamed.distinct k' hk' k hk (hed.only k hk k' hk' text h)

/-- An event as `EventsService` writes it, and the purpose of the key that signs it. -/
inductive StoredUnder : SigningPurpose → OutboxEvent → Prop
  | event (eventType : String) (payload : JsValue) (targetPlatform : String) :
      StoredUnder .webhook (EventsService.signedEvent eventType payload targetPlatform)
  | artifact (eventType : String) (payload artifact : JsValue) (purpose : SigningPurpose)
      (targetPlatform : String) :
      StoredUnder purpose
        (EventsService.artifactEvent eventType payload artifact purpose targetPlatform)

/-- **The headers verify.** Both conventions send one signature and one key identifier, and the
signature of the time sent, a dot and the body verifies under the key of that identifier. -/
def HeadersVerify (keys : List SigningKey) (post : WebhookPost) : Prop :=
  ∃ k ∈ keys, ∃ ts sig,
    post.headers.get? "x-signing-key-id" = some (.string k.keyId) ∧
    post.headers.get? "x-trustee-signing-key" = some (.string k.keyId) ∧
    post.headers.get? "x-trustee-timestamp" = some (.string ts) ∧
    post.headers.get? "x-signature" = some (.string sig) ∧
    post.headers.get? "x-trustee-signature" = some (.string sig) ∧
    Runtime.edVerify k.publicKeyPem (ts ++ "." ++ post.body) sig = true

omit [WebhookRuntime] in
/-- The key identifier an event is stored with. -/
theorem published_keyId {active : SigningPurpose → SigningKey}
    (hactive : ∀ purpose text, (Runtime.edSign purpose text).1 = (active purpose).keyId)
    {purpose : SigningPurpose} {event : OutboxEvent} (h : StoredUnder purpose event) :
    event.signatureKeyId = (active purpose).keyId := by
  cases h with
  | event eventType payload targetPlatform => exact hactive .webhook _
  | artifact eventType payload artifact purpose targetPlatform => exact hactive purpose _

/-! ## The headers of a delivery -/

omit [Runtime] in
theorem field_envelope_signingKeyId (now : Int) (client : WebhookClient) (event : StoredEvent) :
    (envelope now client event).get? "signingKeyId" = some (.string event.signatureKeyId) := by
  have hbuilt (input : EnvelopeInput) (signature : Signature) :
      (buildSignedEnvelope input signature).get? "signingKeyId" =
        some (.string signature.keyId) := rfl
  unfold envelope
  simp only
  split
  · rw [Object.get?_set_of_ne (by decide), Object.get?_set_of_ne (by decide),
      Object.get?_set_of_ne (by decide), hbuilt]
  · rw [Object.get?_set_of_ne (by decide), hbuilt]

omit [Runtime] [WebhookRuntime] in
theorem toString_ne_empty (n : Int) : toString n ≠ "" := by
  rw [Int.toString_eq_repr, Int.repr_eq_if]
  split
  · exact Nat.repr_ne_empty
  · simp

omit [Runtime] [WebhookRuntime] in
theorem orFalsy_string {text : String} (h : text ≠ "") (other : JsValue) :
    (JsValue.string text).orFalsy other = .string text := by
  simp [JsValue.orFalsy, JsValue.truthy, h]

/-- **The signature headers, and the key they name.** -/
theorem deliver_headers {key : SigningKey}
    (hnonempty : ∀ text, WebhookRuntime.edSignText key.privateKeyPem text ≠ "") {now : Int}
    {client : WebhookClient} {event : StoredEvent} {post : WebhookPost}
    (h : deliver (some key) now client event = .ok post) :
    let sig := WebhookRuntime.edSignText key.privateKeyPem (toString now ++ "." ++ post.body)
    post.headers.get? "x-signing-key-id" = some (.string event.signatureKeyId) ∧
    post.headers.get? "x-trustee-signing-key" = some (.string event.signatureKeyId) ∧
    post.headers.get? "x-trustee-timestamp" = some (.string (toString now)) ∧
    post.headers.get? "x-signature" = some (.string sig) ∧
    post.headers.get? "x-trustee-signature" = some (.string sig) := by
  rw [deliver_eq] at h
  obtain ⟨body, -, rfl⟩ := map_eq_ok.mp h
  dsimp only
  -- What the adapter reads of the envelope.
  generalize hsig : WebhookRuntime.edSignText key.privateKeyPem (toString now ++ "." ++ body) = sig
  have hsigned : (withSignature (some key) now body (envelope now client event)).get?
      "requestSignature" = some (.string sig) := by
    unfold withSignature stripeSignature
    simp only [hsig]
    exact Object.get?_set_self ..
  have htimestamp : (withSignature (some key) now body (envelope now client event)).get?
      "timestampMs" = some (.string (toString now)) := by
    unfold withSignature
    rw [Object.get?_set_of_ne (by decide), Object.get?_set_self]
  have hkey : (withSignature (some key) now body (envelope now client event)).get?
      "signingKeyId" = some (.string event.signatureKeyId) := by
    unfold withSignature
    rw [Object.get?_set_of_ne (by decide), Object.get?_set_of_ne (by decide),
      field_envelope_signingKeyId]
  generalize withSignature (some key) now body (envelope now client event) = env
    at hsigned htimestamp hkey ⊢
  have hnamed : field env "signingKeyId" = .string event.signatureKeyId := by
    unfold field
    rw [hkey]
    rfl
  have hsent (other : JsValue) : (field env "requestSignature").orFalsy other = .string sig := by
    unfold field
    rw [hsigned]
    exact orFalsy_string (hsig ▸ hnonempty _) other
  have hts (other : JsValue) :
      (field env "timestampMs").orFalsy other = .string (toString now) := by
    unfold field
    rw [htimestamp]
    exact orFalsy_string (toString_ne_empty now) other
  unfold envelopeHeaders
  simp [Object.spread, hnamed, hsent, hts]

/-- The headers verify only under the webhook key. -/
theorem keyId_of_headersVerify {keys : List SigningKey} (hed : Ed25519 keys)
    (hnamed : KeysNamed keys) {key : SigningKey} (hkey : key ∈ keys) {now : Int}
    {client : WebhookClient} {event : StoredEvent} {post : WebhookPost}
    (h : deliver (some key) now client event = .ok post)
    (hverify : HeadersVerify keys post) : event.signatureKeyId = key.keyId := by
  obtain ⟨hid, -, hts, hsig, -⟩ := deliver_headers (hed.nonempty key hkey) h
  obtain ⟨k, hk, ts, sig, hid', -, hts', hsig', -, hverifies⟩ := hverify
  have hsame : event.signatureKeyId = k.keyId :=
    JsValue.string.inj (Option.some.inj (hid.symm.trans hid'))
  have hts : toString now = ts := JsValue.string.inj (Option.some.inj (hts.symm.trans hts'))
  have hsig := JsValue.string.inj (Option.some.inj (hsig.symm.trans hsig'))
  rw [← hts, ← hsig] at hverifies
  -- The signature was made with the webhook key, so that is the key of the identifier.
  rw [hsame, hed.made hnamed hkey hk hverifies]

/-- **The headers verify if and only if the key that signed the event is the webhook key.** -/
theorem webhook_headers {keys : List SigningKey} (hed : Ed25519 keys) (hnamed : KeysNamed keys)
    {active : SigningPurpose → SigningKey} (hkeys : ∀ purpose, active purpose ∈ keys)
    (hactive : ∀ purpose text, (Runtime.edSign purpose text).1 = (active purpose).keyId)
    {purpose : SigningPurpose} {event : StoredEvent}
    (hevent : StoredUnder purpose event.toOutboxEvent) {key : SigningKey} (hkey : key ∈ keys)
    {now : Int} {client : WebhookClient} {post : WebhookPost}
    (h : deliver (some key) now client event = .ok post) :
    HeadersVerify keys post ↔ active purpose = key := by
  have hstored := published_keyId hactive hevent
  constructor
  · intro hverify
    have hid := keyId_of_headersVerify hed hnamed hkey h hverify
    exact hnamed.identified _ (hkeys purpose) key hkey (hstored.symm.trans hid)
  · rintro rfl
    obtain ⟨hid, htrusteeId, hts, hsig, htrusteeSig⟩ := deliver_headers (hed.nonempty _ hkey) h
    rw [hstored] at hid htrusteeId
    exact ⟨active purpose, hkey, toString now, _, hid, htrusteeId, hts, hsig, htrusteeSig,
      hed.verifies _ hkey _⟩

end

/-! ## An authorization is announced -/

namespace Sample

/-- A key whose two halves are one text. -/
def keyNamed (keyId : String) : SigningKey where
  keyId := keyId
  privateKeyPem := keyId
  publicKeyPem := keyId

def webhookKey : SigningKey := keyNamed "webhook-v1"

def mintKey : SigningKey := keyNamed "mint_authorization-v1"

/-- The active keys of the service. -/
def activeKey : SigningPurpose → SigningKey
  | .mintAuthorization => mintKey
  | _ => webhookKey

/-- A signature is the key and the text. -/
@[reducible] def keyedRuntime : Runtime :=
  { Runtime.ascii with
    edSign := fun purpose text => ((activeKey purpose).keyId, (activeKey purpose).keyId ++ text)
    edVerify := fun publicKeyPem text value => value = publicKeyPem ++ text }

@[reducible] def webhookRuntime : WebhookRuntime where
  sha256Hex text := text
  edSignText privateKeyPem text := privateKeyPem ++ text
  edVerifyThrows _ _ := none

attribute [local instance] keyedRuntime webhookRuntime

theorem keyed_named : KeysNamed [webhookKey, mintKey] where
  identified := by decide
  distinct := by decide

theorem keyed_ed25519 : Ed25519 [webhookKey, mintKey] where
  nonempty k hk text h := by
    have hlength := congrArg String.length h
    rw [show WebhookRuntime.edSignText k.privateKeyPem text = k.privateKeyPem ++ text from rfl,
      String.length_append] at hlength
    have hpositive : ∀ k ∈ [webhookKey, mintKey], 0 < k.privateKeyPem.length := by decide
    have := hpositive k hk
    have hempty : "".length = 0 := rfl
    omega
  verifies k hk text := by
    have hpair : ∀ k ∈ [webhookKey, mintKey], k.privateKeyPem = k.publicKeyPem := by decide
    show decide (k.privateKeyPem ++ text = k.publicKeyPem ++ text) = true
    rw [hpair k hk]
    exact decide_eq_true rfl
  only k hk k' hk' text h := by
    have happend : k.privateKeyPem ++ text = k'.publicKeyPem ++ text := of_decide_eq_true h
    have hlists := congrArg String.toList happend
    simp only [String.toList_append] at hlists
    have hpem := String.toList_inj.mp (List.append_cancel_right hlists)
    have hone : ∀ k ∈ [webhookKey, mintKey], ∀ k' ∈ [webhookKey, mintKey],
        k.privateKeyPem = k'.publicKeyPem → k'.publicKeyPem = k.publicKeyPem := by decide
    exact hone k hk k' hk' hpem

/-- A row of the outbox. -/
def stored (event : OutboxEvent) : StoredEvent :=
  { event with
    id := "evt_1"
    sequence := 1
    createdAt := 1767225600000 }

/-- A deposit is cleared: an event without an artifact. -/
def clearedDeposit : StoredEvent :=
  stored (EventsService.signedEvent "deposit.cleared" (.object []) "PAYCHAIN")

/-- An authorization is approved: its artifact is signed with the mint key. -/
def approvedMint : StoredEvent :=
  stored (EventsService.artifactEvent "mint.authorization.approved" (.object []) (.object [])
    .mintAuthorization "PAYCHAIN")

def payChainClient : WebhookClient := ⟨"paychain", "https://paychain/hooks"⟩

/-- The worker delivers an event. -/
def delivered (event : StoredEvent) : Except ApiError WebhookPost :=
  deliver (some webhookKey) 1767225600000 payChainClient event

theorem delivered_clearedDeposit : ∃ post, delivered clearedDeposit = .ok post := by
  have hsome : (delivered clearedDeposit).toOption.isSome = true := by decide +kernel
  cases h : delivered clearedDeposit with
  | error e =>
    rw [h] at hsome
    cases hsome
  | ok post => exact ⟨post, rfl⟩

theorem delivered_approvedMint : ∃ post, delivered approvedMint = .ok post := by
  have hsome : (delivered approvedMint).toOption.isSome = true := by decide +kernel
  cases h : delivered approvedMint with
  | error e =>
    rw [h] at hsome
    cases hsome
  | ok post => exact ⟨post, rfl⟩

end Sample

section

attribute [local instance] Sample.keyedRuntime Sample.webhookRuntime

open Sample

theorem webhook_headers_deposit : ∃ post, delivered clearedDeposit = .ok post ∧
    HeadersVerify [webhookKey, mintKey] post := by
  obtain ⟨post, hpost⟩ := delivered_clearedDeposit
  have hmember : ∀ purpose, activeKey purpose ∈ [webhookKey, mintKey] := by
    intro purpose
    cases purpose <;> decide
  have hevent : StoredUnder .webhook clearedDeposit.toOutboxEvent := .event _ _ _
  exact ⟨post, hpost, (webhook_headers keyed_ed25519 keyed_named hmember (fun _ _ => rfl) hevent
    (List.mem_cons_self) hpost).mpr rfl⟩

/-- **The headers of an authorization do not verify**: they name the mint key. -/
theorem artifact_headers_fail : ¬∀ [Runtime] [WebhookRuntime] (keys : List SigningKey),
    Ed25519 keys → KeysNamed keys →
    ∀ (active : SigningPurpose → SigningKey), (∀ purpose, active purpose ∈ keys) →
    (∀ purpose text, (Runtime.edSign purpose text).1 = (active purpose).keyId) →
    ∀ (purpose : SigningPurpose) (event : StoredEvent), StoredUnder purpose event.toOutboxEvent →
    ∀ key ∈ keys, ∀ (now : Int) (client : WebhookClient) (post : WebhookPost),
      deliver (some key) now client event = .ok post → HeadersVerify keys post := by
  intro h
  obtain ⟨post, hpost⟩ := delivered_approvedMint
  have hmember : ∀ purpose, activeKey purpose ∈ [webhookKey, mintKey] := by
    intro purpose
    cases purpose <;> decide
  have hevent : StoredUnder .mintAuthorization approvedMint.toOutboxEvent := .artifact _ _ _ _ _
  have hverify := h [webhookKey, mintKey] keyed_ed25519 keyed_named activeKey hmember
    (fun _ _ => rfl) .mintAuthorization approvedMint hevent webhookKey List.mem_cons_self
    1767225600000 payChainClient post hpost
  have hid : approvedMint.signatureKeyId = webhookKey.keyId :=
    keyId_of_headersVerify keyed_ed25519 keyed_named List.mem_cons_self hpost hverify
  have hmint : approvedMint.signatureKeyId = "mint_authorization-v1" := rfl
  exact absurd (hmint.symm.trans hid) (by decide)

end

end TrusteeBank
