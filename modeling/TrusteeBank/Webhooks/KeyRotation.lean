import TrusteeBank.Webhooks.Headers

/-!
# Rotating the signing keys

Every instance is started with one key for each purpose, from `TRUSTEE_SIGNING_KEYS`, and may be
given the keys it supersedes, from `TRUSTEE_SIGNING_KEYS_PREVIOUS`. It signs with the former, and
verifies and publishes both. Who receives a signed artifact looks the identifier of its signature
up among the published keys.

**Setting (`Rotations`).** Deployments follow one another, and each gets as superseded keys the
active keys of the deployment before it.

**Theorem (`artifact_verifies`).** An artifact signed in one deployment is accepted by who reads
the published keys of another if and only if the key that signed it is active in that deployment
or in the one before it. `SigningService.verify` accepts it under exactly the purposes this key
has there.
-/

set_option autoImplicit false

namespace TrusteeBank

open Lib (Object)

/-! ## The keys of an instance -/

namespace SigningPurpose

/-- `Object.values(SigningPurpose)`. -/
def values : List SigningPurpose :=
  [.apiAuth, .requestSigning, .responseSigning, .mintAuthorization, .reserveSnapshot, .attestation,
    .webhook, .documentHash]

def text : SigningPurpose → String
  | .apiAuth => "API_AUTH"
  | .requestSigning => "REQUEST_SIGNING"
  | .responseSigning => "RESPONSE_SIGNING"
  | .mintAuthorization => "MINT_AUTHORIZATION"
  | .reserveSnapshot => "RESERVE_SNAPSHOT"
  | .attestation => "ATTESTATION"
  | .webhook => "WEBHOOK"
  | .documentHash => "DOCUMENT_HASH"

theorem mem_values (purpose : SigningPurpose) : purpose ∈ values := by
  cases purpose <;> decide

end SigningPurpose

/-- A JSON map from purposes to keys. -/
abbrev SigningConfig := Object SigningKey

/-- A service that has started: `key(purpose)` never throws. -/
structure SigningService where
  keys : SigningPurpose → SigningKey
  previousKeys : SigningPurpose → List SigningKey

/-- An entry of the published key set. -/
structure JwksKey where
  purpose : String
  keyId : String
  publicKeyPem : String
  status : String

/-- What `signPayload` makes of a text under a key. -/
def SigningKey.signature [WebhookRuntime] (k : SigningKey) (text : String) : Signature where
  keyId := k.keyId
  algorithm := "ed25519"
  value := WebhookRuntime.edSignText k.privateKeyPem text

namespace SigningService

/-- The loop over the purposes that reads the active keys. -/
def activeKeys (parsed : SigningConfig) : Except String (SigningPurpose → SigningKey) :=
  match hfind : SigningPurpose.values.find? fun purpose => (parsed.get? purpose.text).isNone with
  | some purpose => .error ("Missing signing key for purpose " ++ purpose.text)
  | none => .ok fun purpose => (parsed.get? purpose.text).get (by
      have := List.find?_eq_none.mp hfind purpose purpose.mem_values
      simpa [Option.isSome_iff_ne_none] using this)

/-- The superseded keys. Each purpose is visited once, so that it gets one key at most. -/
def loadPrevious :
    Option (Except String SigningConfig) → Except String (SigningPurpose → List SigningKey)
  | none => .ok fun _ => []
  | some (.error message) =>
    .error ("Failed to load TRUSTEE_SIGNING_KEYS_PREVIOUS: " ++ message)
  | some (.ok parsed) => .ok fun purpose => (parsed.get? purpose.text).toList

section

variable [WebhookRuntime]

/-- The key made for a purpose when there is no configuration, from a fresh key pair. -/
def generatedKey (purpose : SigningPurpose) (pair : String × String) : SigningKey where
  keyId := purpose.text.toLower ++ "-" ++
    String.ofList ((WebhookRuntime.sha256Hex purpose.text).toList.take 8)
  privateKeyPem := pair.1
  publicKeyPem := pair.2

/-- The constructor, given the two variables as `JSON.parse` reads them. -/
def load (active previous : Option (Except String SigningConfig))
    (fresh : SigningPurpose → String × String) : Except String SigningService := do
  let previousKeys ← loadPrevious previous
  match active with
  | none => return { keys := fun purpose => generatedKey purpose (fresh purpose), previousKeys }
  | some parsed =>
    match parsed >>= activeKeys with
    | .ok keys => return { keys, previousKeys }
    | .error message => .error ("Failed to load TRUSTEE_SIGNING_KEYS: " ++ message)

/-- `sign`. -/
def sign (service : SigningService) (purpose : SigningPurpose) (payload : JsValue) : Signature :=
  (service.keys purpose).signature (canonicalize payload)

end

/-- `verify`. -/
def verify [Runtime] (service : SigningService) (purpose : SigningPurpose) (payload : JsValue)
    (signature : Signature) : Bool :=
  let candidates := service.keys purpose :: service.previousKeys purpose
  candidates.any fun k =>
    (signature.keyId = k.keyId || signature.keyId = "") &&
      verifyPayload k.publicKeyPem payload signature

def allPublicKeys (service : SigningService) : List JwksKey :=
  let active := SigningPurpose.values.map fun purpose =>
    let k := service.keys purpose
    { purpose := purpose.text, keyId := k.keyId, publicKeyPem := k.publicKeyPem,
      status := "active" }
  let previous := SigningPurpose.values.flatMap fun purpose =>
    (service.previousKeys purpose).map fun k =>
      { purpose := purpose.text, keyId := k.keyId, publicKeyPem := k.publicKeyPem,
        status := "superseded" }
  active ++ previous

end SigningService

/-! ## Who verifies -/

def jwksByKeyId (keys : List JwksKey) : Object JwksKey :=
  Object.spread [] (keys.map fun k => (k.keyId, k))

/-- `verifyArtifact`: whether it passes, and why. A verification that throws is one that fails, with
the message thrown. -/
def verifyArtifact [Runtime] [WebhookRuntime] (canonicalBytes : String)
    (signature : Option Signature) (jwks : Object JwksKey) : Bool × String :=
  match signature with
  | none => (false, "no signature present")
  | some signature =>
    match jwks.get? signature.keyId with
    | none => (false, "keyId " ++ signature.keyId ++ " not in JWKS")
    | some key =>
      if Runtime.edVerify key.publicKeyPem canonicalBytes signature.value then
        (true, "verified vs " ++ signature.keyId)
      else (false,
        (WebhookRuntime.edVerifyThrows key.publicKeyPem signature.value).getD "signature mismatch")

/-! ## Deployments -/

section

variable [WebhookRuntime]

/-- An instance, and the configuration it was started with. -/
structure Deployment where
  active : SigningConfig
  previous : Option SigningConfig
  service : SigningService
  started : ∃ fresh, SigningService.load (some (.ok active)) (previous.map .ok) fresh = .ok service

/-- **Rotations.** Each deployment supersedes the keys of the one before it. -/
structure Rotations (ds : List Deployment) : Prop where
  first : ∀ d, ds[0]? = some d → d.previous = none
  next : ∀ i d d', ds[i]? = some d → ds[i + 1]? = some d' → d'.previous = some d.active

namespace Deployment

/-- The platform as an instance sees it: it signs with its active keys. -/
@[reducible] def runtime [Runtime] (d : Deployment) : Runtime :=
  { (inferInstance : Runtime) with
    edSign := fun purpose text =>
      ((d.service.keys purpose).keyId,
        WebhookRuntime.edSignText (d.service.keys purpose).privateKeyPem text) }

/-- What the instance signs anywhere is what its service signs. -/
theorem signPayload_runtime [Runtime] (d : Deployment) (purpose : SigningPurpose)
    (payload : JsValue) :
    @signPayload d.runtime purpose payload = d.service.sign purpose payload := rfl

end Deployment

end

namespace SigningService

/-! ## What is loaded -/

theorem activeKeys_ok {parsed : SigningConfig} {keys : SigningPurpose → SigningKey}
    (h : activeKeys parsed = .ok keys) (purpose : SigningPurpose) :
    parsed.get? purpose.text = some (keys purpose) := by
  unfold activeKeys at h
  split at h
  · cases h
  · cases h
    exact (Option.some_get _).symm

theorem loadPrevious_ok {previous : Option SigningConfig}
    {previousKeys : SigningPurpose → List SigningKey}
    (h : loadPrevious (previous.map .ok) = .ok previousKeys) (purpose : SigningPurpose) :
    previousKeys purpose = (previous.bind fun parsed => parsed.get? purpose.text).toList := by
  cases previous <;> cases h <;> rfl

theorem load_ok [WebhookRuntime] {active : SigningConfig} {previous : Option SigningConfig}
    {fresh : SigningPurpose → String × String} {service : SigningService}
    (h : load (some (.ok active)) (previous.map .ok) fresh = .ok service)
    (purpose : SigningPurpose) :
    active.get? purpose.text = some (service.keys purpose) ∧
      service.previousKeys purpose =
        (previous.bind fun parsed => parsed.get? purpose.text).toList := by
  unfold load at h
  cases hprevious : loadPrevious (previous.map .ok) with
  | error message =>
    rw [hprevious] at h
    cases h
  | ok previousKeys =>
    rw [hprevious] at h
    cases hactive : activeKeys active with
    | error message =>
      simp [bind, Except.bind, hactive] at h
    | ok keys =>
      simp only [bind, Except.bind, hactive, pure, Except.pure] at h
      cases h
      exact ⟨activeKeys_ok hactive purpose, loadPrevious_ok hprevious purpose⟩

/-! ## What is published -/

/-- A key the service has under a purpose, active or superseded. -/
def Trusts (service : SigningService) (purpose : SigningPurpose) (k : SigningKey) : Prop :=
  k = service.keys purpose ∨ k ∈ service.previousKeys purpose

theorem entry_of_trusts {service : SigningService} {purpose : SigningPurpose} {k : SigningKey}
    (h : service.Trusts purpose k) : ∃ entry ∈ service.allPublicKeys, entry.keyId = k.keyId := by
  unfold allPublicKeys
  rcases h with rfl | h
  · exact ⟨_, List.mem_append_left _ (List.mem_map_of_mem purpose.mem_values), rfl⟩
  · exact ⟨_, List.mem_append_right _ (List.mem_flatMap.mpr
      ⟨purpose, purpose.mem_values, List.mem_map_of_mem h⟩), rfl⟩

theorem trusts_of_entry {service : SigningService} {entry : JwksKey}
    (h : entry ∈ service.allPublicKeys) : ∃ purpose k, service.Trusts purpose k ∧
      entry.keyId = k.keyId ∧ entry.publicKeyPem = k.publicKeyPem := by
  unfold allPublicKeys at h
  rcases List.mem_append.mp h with h | h
  · obtain ⟨purpose, -, rfl⟩ := List.mem_map.mp h
    exact ⟨purpose, _, .inl rfl, rfl, rfl⟩
  · obtain ⟨purpose, -, h⟩ := List.mem_flatMap.mp h
    obtain ⟨k, hk, rfl⟩ := List.mem_map.mp h
    exact ⟨purpose, k, .inr hk, rfl, rfl⟩

end SigningService

/-! ## Who accepts a signature -/

section

variable [Runtime] [WebhookRuntime]

variable {keys : List SigningKey} {service : SigningService} {k : SigningKey}

omit [Runtime] [WebhookRuntime] in
/-- The published key set finds every key by its identifier, and the right one. -/
theorem jwks_find (hnamed : KeysNamed keys)
    (hkeys : ∀ purpose k, service.Trusts purpose k → k ∈ keys) (hk : k ∈ keys) :
    (∀ entry, (jwksByKeyId service.allPublicKeys).get? k.keyId = some entry →
        entry.publicKeyPem = k.publicKeyPem ∧ ∃ purpose, service.Trusts purpose k) ∧
      ((∃ purpose, service.Trusts purpose k) →
        ∃ entry, (jwksByKeyId service.allPublicKeys).get? k.keyId = some entry) := by
  refine ⟨fun entry hentry => ?_, fun ⟨purpose, htrusts⟩ => ?_⟩
  · rcases Object.mem_spread (Object.mem_of_get? hentry) with hmem | hmem
    · obtain ⟨e, he, hpair⟩ := List.mem_map.mp hmem
      obtain ⟨hid, rfl⟩ := Prod.mk.inj hpair
      obtain ⟨purpose, k', htrusts, hid', hpem⟩ := SigningService.trusts_of_entry he
      have hsame : k' = k :=
        hnamed.identified k' (hkeys purpose k' htrusts) k hk (hid'.symm.trans hid)
      exact hsame ▸ ⟨hpem, purpose, htrusts⟩
    · exact absurd hmem List.not_mem_nil
  · obtain ⟨entry, hentry, hid⟩ := SigningService.entry_of_trusts htrusts
    refine Object.exists_get?.mpr (Object.mem_keys_spread.mpr (.inl ?_))
    exact List.mem_map.mpr ⟨(entry.keyId, entry), List.mem_map_of_mem hentry, hid⟩

/-- **A signature passes against the published keys if and only if its key is among them.** -/
theorem verifyArtifact_iff (hed : Ed25519 keys) (hnamed : KeysNamed keys)
    (hkeys : ∀ purpose k, service.Trusts purpose k → k ∈ keys) (hk : k ∈ keys) (text : String) :
    (verifyArtifact text (some (k.signature text)) (jwksByKeyId service.allPublicKeys)).1 = true ↔
      ∃ purpose, service.Trusts purpose k := by
  obtain ⟨hfound, hexists⟩ := jwks_find hnamed hkeys hk
  have hid : (k.signature text).keyId = k.keyId := rfl
  unfold verifyArtifact
  simp only [hid]
  cases hentry : (jwksByKeyId service.allPublicKeys).get? k.keyId with
  | none =>
    refine ⟨fun h => absurd h Bool.false_ne_true, fun htrusts => ?_⟩
    obtain ⟨entry, hsome⟩ := hexists htrusts
    cases hentry.symm.trans hsome
  | some entry =>
    obtain ⟨hpem, htrusts⟩ := hfound entry hentry
    have hverifies : Runtime.edVerify entry.publicKeyPem text (k.signature text).value = true :=
      hpem ▸ hed.verifies k hk text
    simp only [hverifies, if_true]
    exact iff_of_true trivial htrusts

/-- **`verify` accepts a signature if and only if its key is one of the purpose.** -/
theorem verify_iff (hed : Ed25519 keys) (hnamed : KeysNamed keys)
    (hkeys : ∀ purpose k, service.Trusts purpose k → k ∈ keys) (hk : k ∈ keys)
    (purpose : SigningPurpose) (payload : JsValue) :
    service.verify purpose payload (k.signature (canonicalize payload)) = true ↔
      service.Trusts purpose k := by
  unfold SigningService.verify
  rw [List.any_eq_true]
  constructor
  · rintro ⟨k', hcandidate, haccepts⟩
    have htrusts : service.Trusts purpose k' := List.mem_cons.mp hcandidate
    obtain ⟨-, haccepts⟩ := Bool.and_eq_true_iff.mp haccepts
    -- The candidate verifies a signature of `k`, so it is `k`.
    have hverifies := (Bool.and_eq_true_iff.mp haccepts).2
    rwa [hed.made hnamed hk (hkeys purpose k' htrusts) hverifies] at htrusts
  · intro htrusts
    refine ⟨k, List.mem_cons.mpr htrusts, ?_⟩
    simp [SigningKey.signature, verifyPayload, hed.verifies k hk]

end

/-! ## Over the rotations -/

section

variable [WebhookRuntime] {ds : List Deployment}

/-- **What a deployment trusts** is what it or the one before it signs with. -/
theorem Rotations.trusts_iff (h : Rotations ds) {j : ℕ} {d : Deployment} (hj : ds[j]? = some d)
    (purpose : SigningPurpose) (k : SigningKey) :
    d.service.Trusts purpose k ↔ ∃ m d', m ≤ j ∧ j ≤ m + 1 ∧ ds[m]? = some d' ∧
      d'.service.keys purpose = k := by
  obtain ⟨fresh, hstarted⟩ := d.started
  have hprevious := (SigningService.load_ok hstarted purpose).2
  unfold SigningService.Trusts
  rw [hprevious]
  constructor
  · rintro (rfl | hsuperseded)
    · exact ⟨j, d, le_rfl, Nat.le_succ j, hj, rfl⟩
    · cases j with
      | zero =>
        rw [h.first d hj] at hsuperseded
        exact absurd hsuperseded List.not_mem_nil
      | succ i =>
        obtain ⟨d', hi⟩ : ∃ d', ds[i]? = some d' := by
          have hlength := (List.getElem?_eq_some_iff.mp hj).1
          exact ⟨ds[i], List.getElem?_eq_getElem (by omega)⟩
        rw [h.next i d' d hi hj] at hsuperseded
        obtain ⟨fresh', hstarted'⟩ := d'.started
        have hactive := (SigningService.load_ok hstarted' purpose).1
        simp only [Option.bind_some, hactive, Option.mem_toList] at hsuperseded
        exact ⟨i, d', Nat.le_succ i, le_rfl, hi, Option.some.inj hsuperseded⟩
  · rintro ⟨m, d', hmj, hjm, hm, rfl⟩
    rcases hmj.eq_or_lt with rfl | hlt
    · cases hm.symm.trans hj
      exact .inl rfl
    · obtain rfl : j = m + 1 := by omega
      obtain ⟨fresh', hstarted'⟩ := d'.started
      have hactive := (SigningService.load_ok hstarted' purpose).1
      right
      rw [h.next m d' d hm hj]
      simp [hactive]

variable [Runtime] {keys : List SigningKey}

/-- **An artifact verifies while the key that signed it is active, and for one deployment more.**
It is signed in deployment `i` and checked in deployment `j`, by who reads the published keys and
by the service itself. -/
theorem artifact_verifies (hed : Ed25519 keys) (hnamed : KeysNamed keys)
    (hrotations : Rotations ds) (hkeys : ∀ d ∈ ds, ∀ purpose, d.service.keys purpose ∈ keys)
    {i j : ℕ} {d d' : Deployment} (hi : ds[i]? = some d) (hj : ds[j]? = some d')
    (eventType : String) (payload artifact : JsValue) (purpose : SigningPurpose)
    (targetPlatform : String) :
    let event := @EventsService.artifactEvent d.runtime eventType payload artifact purpose
      targetPlatform
    let signature : Signature := ⟨event.signatureKeyId, "ed25519", event.signatureValue⟩
    ((∃ text, event.artifact = some text ∧ (verifyArtifact text (some signature)
        (jwksByKeyId d'.service.allPublicKeys)).1 = true) ↔
      ∃ m e, m ≤ j ∧ j ≤ m + 1 ∧ ds[m]? = some e ∧
        ∃ other, e.service.keys other = d.service.keys purpose) ∧
    ∀ other, d'.service.verify other artifact signature = true ↔
      ∃ m e, m ≤ j ∧ j ≤ m + 1 ∧ ds[m]? = some e ∧
        e.service.keys other = d.service.keys purpose := by
  intro event signature
  have hk := hkeys d (List.mem_of_getElem? hi) purpose
  have hsignature : signature = (d.service.keys purpose).signature (canonicalize artifact) :=
    d.signPayload_runtime purpose artifact
  have htrusted : ∀ purpose k, d'.service.Trusts purpose k → k ∈ keys := by
    intro purpose k htrusts
    obtain ⟨m, e, -, -, hm, rfl⟩ := (hrotations.trusts_iff hj purpose k).mp htrusts
    exact hkeys e (List.mem_of_getElem? hm) purpose
  constructor
  · have hartifact : event.artifact = some (canonicalize artifact) := rfl
    simp only [hartifact, Option.some.injEq, exists_eq_left', hsignature]
    rw [verifyArtifact_iff hed hnamed htrusted hk]
    constructor
    · rintro ⟨other, htrusts⟩
      obtain ⟨m, e, hmj, hjm, hm, hsame⟩ := (hrotations.trusts_iff hj other _).mp htrusts
      exact ⟨m, e, hmj, hjm, hm, other, hsame⟩
    · rintro ⟨m, e, hmj, hjm, hm, other, hsame⟩
      exact ⟨other, (hrotations.trusts_iff hj other _).mpr ⟨m, e, hmj, hjm, hm, hsame⟩⟩
  · intro other
    rw [hsignature, verify_iff hed hnamed htrusted hk]
    exact hrotations.trusts_iff hj other _

end

/-! ## A key is retired -/

namespace Sample

attribute [local instance] keyedRuntime webhookRuntime

/-- The configuration that gives each purpose a key. -/
def configOf (key : SigningPurpose → SigningKey) : SigningConfig :=
  SigningPurpose.values.map fun purpose => (purpose.text, key purpose)

theorem get?_configOf (key : SigningPurpose → SigningKey) (purpose : SigningPurpose) :
    (configOf key).get? purpose.text = some (key purpose) := by
  cases purpose <;> rfl

theorem activeKeys_configOf (key : SigningPurpose → SigningKey) :
    SigningService.activeKeys (configOf key) = .ok key := by
  cases h : SigningService.activeKeys (configOf key) with
  | error message =>
    unfold SigningService.activeKeys at h
    split at h
    · next purpose hfind =>
      have hmissing := List.find?_some hfind
      rw [get?_configOf] at hmissing
      cases hmissing
    · cases h
  | ok keys =>
    congr 1
    funext purpose
    have hget := SigningService.activeKeys_ok h purpose
    rw [get?_configOf] at hget
    exact (Option.some.inj hget).symm

/-- A deployment with these keys, after the one with those. -/
def deployment (key : SigningPurpose → SigningKey) (previous : Option SigningConfig) :
    Deployment where
  active := configOf key
  previous := previous
  service := ⟨key, fun purpose =>
    (previous.bind fun parsed => parsed.get? purpose.text).toList⟩
  started := by
    refine ⟨fun _ => ("", ""), ?_⟩
    unfold SigningService.load
    cases previous <;>
      simp [SigningService.loadPrevious, bind, Except.bind, pure, Except.pure, activeKeys_configOf]

/-- The mint key is retired: its purpose gets the webhook key. -/
def retired : List Deployment :=
  [deployment activeKey none, deployment (fun _ => webhookKey) (some (configOf activeKey)),
    deployment (fun _ => webhookKey) (some (configOf fun _ => webhookKey))]

theorem retired_rotations : Rotations retired where
  first d h := by
    cases h
    rfl
  next i d d' h h' := by
    match i with
    | 0 | 1 =>
      cases h
      cases h'
      rfl
    | i + 2 => cases h'

theorem retired_keys : ∀ d ∈ retired, ∀ purpose,
    d.service.keys purpose ∈ [webhookKey, mintKey] := by
  intro d hd purpose
  simp only [retired, List.mem_cons, List.not_mem_nil, or_false] at hd
  rcases hd with rfl | rfl | rfl
  · cases purpose <;> decide
  · exact List.mem_cons_self
  · exact List.mem_cons_self

/-- An authorization of the first deployment, in the published keys of another. -/
def mintArtifact : OutboxEvent :=
  @EventsService.artifactEvent (deployment activeKey none).runtime "mint.authorization.approved"
    (.object []) (.object []) .mintAuthorization "PAYCHAIN"

/-- It verifies after one rotation and not after two. -/
theorem artifact_verifies_once :
    (deployment (fun _ => webhookKey) (some (configOf activeKey))).service.verify
        .mintAuthorization (.object [])
        ⟨mintArtifact.signatureKeyId, "ed25519", mintArtifact.signatureValue⟩ = true ∧
      ¬(deployment (fun _ => webhookKey) (some (configOf fun _ => webhookKey))).service.verify
        .mintAuthorization (.object [])
        ⟨mintArtifact.signatureKeyId, "ed25519", mintArtifact.signatureValue⟩ = true := by
  constructor
  · exact ((artifact_verifies keyed_ed25519 keyed_named retired_rotations retired_keys (i := 0)
      (j := 1) rfl rfl "mint.authorization.approved" (.object []) (.object []) .mintAuthorization
      "PAYCHAIN").2 .mintAuthorization).mpr ⟨0, _, by decide, by decide, rfl, rfl⟩
  · intro hverify
    obtain ⟨m, e, -, hm, he, hsame⟩ := ((artifact_verifies keyed_ed25519 keyed_named
      retired_rotations retired_keys (i := 0) (j := 2) rfl rfl "mint.authorization.approved" (.object [])
      (.object []) .mintAuthorization "PAYCHAIN").2 .mintAuthorization).mp hverify
    match m with
    | 0 => exact absurd hm (by decide)
    | 1 | 2 =>
      cases he
      exact absurd hsame (by decide)

end Sample

end TrusteeBank
