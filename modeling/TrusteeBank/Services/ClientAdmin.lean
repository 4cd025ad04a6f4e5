import TrusteeBank.Api.ClientSeparation
import TrusteeBank.Infra

/-!
# Administration of clients

A partner is a row of the client registry: its platform and its client identifier are unique, and
its secret is stored as a hash. `AdminService` replaces the secret, the key, the webhook and the
rate limit of a partner, and disables it. `ClientAuthService` looks the row of a client identifier
up and compares the hash of the secret that is presented.

**Assumption (`SecretHashes`).** A hash is 64 hexadecimal digits, and no two of the secrets in
question have one hash.

**Theorem (`credentials_current`).** After any run of the administration, a client identifier and
a secret are accepted if and only if the client is one that was not disabled last, and the secret
is the one that was issued to it last.
-/

set_option autoImplicit false

namespace TrusteeBank

open Lib (Call Table)

/-! ## The registry -/

/-- A row of `ClientApplication`. -/
structure RegisteredClient where
  platform : String
  displayName : String
  oauthClientId : String
  clientSecretHash : Option String
  publicKeyPem : Option String
  requireSignature : Bool
  webhookUrl : Option String
  rateLimitPerMin : Int
  disabled : Bool
deriving DecidableEq, Repr

/-- What an update writes. It leaves the unique columns alone. -/
structure ClientData where
  set : RegisteredClient → RegisteredClient
  platform_set : ∀ c, (set c).platform = c.platform
  oauthClientId_set : ∀ c, (set c).oauthClientId = c.oauthClientId
  /-- The texts of the request it writes. -/
  texts : List String

namespace ClientData

def secretHash (hash : String) : ClientData :=
  ⟨fun c => { c with clientSecretHash := some hash }, fun _ => rfl, fun _ => rfl, []⟩

def disabled (disabled : Bool) : ClientData :=
  ⟨fun c => { c with disabled }, fun _ => rfl, fun _ => rfl, []⟩

def rateLimit (rateLimitPerMin : Int) : ClientData :=
  ⟨fun c => { c with rateLimitPerMin }, fun _ => rfl, fun _ => rfl, []⟩

def key (publicKeyPem : Option String) (requireSignature : Bool) : ClientData :=
  ⟨fun c => { c with publicKeyPem, requireSignature }, fun _ => rfl, fun _ => rfl,
    publicKeyPem.toList⟩

def webhook (webhookUrl : String) : ClientData :=
  ⟨fun c => { c with webhookUrl := some webhookUrl }, fun _ => rfl, fun _ => rfl, [webhookUrl]⟩

/-- The update can be stored. -/
def Fits (data : ClientData) : Prop := ∀ t ∈ data.texts, FitsText t

instance (data : ClientData) : Decidable data.Fits := inferInstanceAs (Decidable (∀ _ ∈ _, _))

theorem fits_secretHash {hash : String} : (secretHash hash).Fits := List.forall_mem_nil _

theorem fits_disabled {off : Bool} : (disabled off).Fits := List.forall_mem_nil _

theorem fits_rateLimit {rateLimitPerMin : Int} : (rateLimit rateLimitPerMin).Fits :=
  List.forall_mem_nil _

/-- The update of the row of a platform. -/
def onPlatform (data : ClientData) (platform : String) (c : RegisteredClient) : RegisteredClient :=
  if c.platform = platform then data.set c else c

theorem platform_onPlatform (data : ClientData) (platform : String) (c : RegisteredClient) :
    (data.onPlatform platform c).platform = c.platform := by
  unfold onPlatform
  split_ifs
  · exact data.platform_set c
  · rfl

theorem oauthClientId_onPlatform (data : ClientData) (platform : String) (c : RegisteredClient) :
    (data.onPlatform platform c).oauthClientId = c.oauthClientId := by
  unfold onPlatform
  split_ifs
  · exact data.oauthClientId_set c
  · rfl

end ClientData

/-- The rows, found by client identifier or by platform. -/
structure ClientRegistry where
  clients : Table RegisteredClient.oauthClientId
  platforms : (clients.rows.map RegisteredClient.platform).Nodup

namespace ClientRegistry

/-- `update({ where: { platform }, data })`. -/
def update (registry : ClientRegistry) (platform : String) (data : ClientData) : ClientRegistry where
  clients := registry.clients.mapRows (data.onPlatform platform) (data.oauthClientId_onPlatform platform)
  platforms := by
    have h : RegisteredClient.platform ∘ data.onPlatform platform = RegisteredClient.platform :=
      funext (data.platform_onPlatform platform)
    show ((registry.clients.rows.map (data.onPlatform platform)).map RegisteredClient.platform).Nodup
    rw [List.map_map, h]
    exact registry.platforms

/-- What `ClientAuthService` reads. -/
def applications (registry : ClientRegistry) : Table ClientApplication.oauthClientId :=
  registry.clients.mapRows
    (fun c => ⟨c.platform, c.displayName, c.oauthClientId, c.clientSecretHash, c.disabled⟩)
    fun _ => rfl

end ClientRegistry

/-- The label of a step. -/
inductive ClientStep
  | database (q : Query)
  | updateClient (platform : String)
deriving DecidableEq, Repr

/-! ## The service -/

/-- What a rotation answers. -/
structure RotatedSecret where
  platform : String
  clientId : String
  clientSecret : String
  rotatedAt : String
  note : String := "Store this secret now — it is shown only once. " ++
    "The previous secret is now invalid."

section

variable [Runtime]

/-- The database of the services, and beside it the clients. -/
abbrev ClientState := World × ClientRegistry

/-- A service call, beside the clients. -/
def onDatabase {α : Type} (call : Service α) : Call ClientStep ClientState ApiError α :=
  call.onFst .database

namespace AdminService

omit [Runtime] in
/-- `clientApplication.update`. -/
def updateClient (platform : String) (data : ClientData) :
    Call ClientStep ClientState ApiError RegisteredClient :=
  Call.query (.updateClient platform) fun (w, registry) => do
    checkTexts data.texts
    let found := registry.clients.rows.find? fun c => c.platform = platform
    let client ← orThrow found (.prisma "P2025")
    return (data.set client, w, registry.update platform data)

/-- The record of an administration of a client. -/
def recordClient (actor action platform : String) (afterState : Option JsValue) :
    Call ClientStep ClientState ApiError Unit :=
  onDatabase (AuditService.record
    { actor, action, subjectType := "CLIENT_APPLICATION", subjectId := some platform, afterState })

def setClientRateLimit (platform : String) (rateLimitPerMin : Int) (actor : String) :
    Call ClientStep ClientState ApiError RegisteredClient := do
  Call.throwIf (rateLimitPerMin < 1 ∨ 1000000 < rateLimitPerMin)
    (.badRequest "rateLimitPerMin must be between 1 and 1,000,000")
  let client ← updateClient platform (.rateLimit rateLimitPerMin)
  recordClient actor "admin.client.rate_limit_updated" platform
    (some (.object [("rateLimitPerMin", .number rateLimitPerMin)]))
  return client

def setClientDisabled (platform : String) (disabled : Bool) (actor : String) :
    Call ClientStep ClientState ApiError RegisteredClient := do
  let client ← updateClient platform (.disabled disabled)
  recordClient actor (if disabled then "admin.client.disabled" else "admin.client.enabled") platform
    none
  return client

def setClientKey (platform : String) (publicKeyPem : Option String) (requireSignature : Bool)
    (actor : String) : Call ClientStep ClientState ApiError RegisteredClient := do
  let client ← updateClient platform (.key publicKeyPem requireSignature)
  recordClient actor "admin.client.key_updated" platform
    (some (.object [("requireSignature", .bool requireSignature),
      ("hasKey", .bool (publicKeyPem.any fun pem => pem ≠ ""))]))
  return client

omit [Runtime] in
/-- `/^https:\/\/.+/.test(webhookUrl)`. -/
def isHttpsUrl (webhookUrl : String) : Bool :=
  startsWith webhookUrl "https://" &&
    ((webhookUrl.toList.drop 8).head?.any fun c =>
      c ∉ ['\n', '\r', Char.ofNat 0x2028, Char.ofNat 0x2029])

def setClientWebhookUrl (platform webhookUrl actor : String) :
    Call ClientStep ClientState ApiError RegisteredClient := do
  Call.throwIf (!isHttpsUrl webhookUrl) (.badRequest "webhookUrl must be an absolute https URL")
  let client ← updateClient platform (.webhook webhookUrl)
  recordClient actor "admin.client.webhook_updated" platform
    (some (.object [("webhookUrl", .string webhookUrl)]))
  return client

/-- `random` is the base64url text of the bytes that are drawn. -/
def rotateClientSecret [AuthRuntime] (clock : Clock) (random platform actor : String) :
    Call ClientStep ClientState ApiError RotatedSecret := do
  let clientSecret := "sk_" ++ random
  let client ← updateClient platform (.secretHash (AuthRuntime.sha256Hex clientSecret))
  recordClient actor "admin.client.secret_rotated" platform none
  return { platform := client.platform, clientId := client.oauthClientId, clientSecret,
           rotatedAt := isoString (clock 0) }

end AdminService

open AdminService

/-! ## Operations -/

inductive ClientOp
  | setRateLimit (platform : String) (rateLimitPerMin : Int) (actor : String)
  | setDisabled (platform : String) (disabled : Bool) (actor : String)
  | setKey (platform : String) (publicKeyPem : Option String) (requireSignature : Bool)
      (actor : String)
  | setWebhookUrl (platform webhookUrl actor : String)
  | rotateSecret (clock : Clock) (random platform actor : String)

namespace ClientOp

variable [AuthRuntime]

def call : ClientOp → Call ClientStep ClientState ApiError Unit
  | .setRateLimit platform rateLimitPerMin actor =>
    (setClientRateLimit platform rateLimitPerMin actor).void
  | .setDisabled platform disabled actor => (setClientDisabled platform disabled actor).void
  | .setKey platform publicKeyPem requireSignature actor =>
    (setClientKey platform publicKeyPem requireSignature actor).void
  | .setWebhookUrl platform webhookUrl actor => (setClientWebhookUrl platform webhookUrl actor).void
  | .rotateSecret clock random platform actor =>
    (rotateClientSecret clock random platform actor).void

def step (s : ClientState) (op : ClientOp) : ClientState := (op.call.run s).2

omit [Runtime] in
/-- The row an operation writes, and what it writes; `none` if it is refused. -/
def write : ClientOp → Option (String × ClientData)
  | .setRateLimit platform rateLimitPerMin _ =>
    if rateLimitPerMin < 1 ∨ 1000000 < rateLimitPerMin then none
    else some (platform, .rateLimit rateLimitPerMin)
  | .setDisabled platform disabled _ => some (platform, .disabled disabled)
  | .setKey platform publicKeyPem requireSignature _ =>
    let data := ClientData.key publicKeyPem requireSignature
    if data.Fits then some (platform, data) else none
  | .setWebhookUrl platform webhookUrl _ =>
    let data := ClientData.webhook webhookUrl
    if isHttpsUrl webhookUrl ∧ data.Fits then some (platform, data) else none
  | .rotateSecret _ random platform _ =>
    some (platform, .secretHash (AuthRuntime.sha256Hex ("sk_" ++ random)))

end ClientOp

omit [Runtime] in
/-- An update of a platform that has no client changes nothing. -/
theorem ClientRegistry.update_absent {registry : ClientRegistry} {platform : String}
    (h : ∀ c ∈ registry.clients.rows, c.platform ≠ platform) (data : ClientData) :
    registry.update platform data = registry := by
  obtain ⟨⟨rows, hrows⟩, hplatforms⟩ := registry
  have hsame : rows.map (data.onPlatform platform) = rows :=
    (List.map_congr_left fun c hc => if_neg (h c hc)).trans (List.map_id rows)
  simp only [ClientRegistry.update, Table.mapRows, hsame]

/-- A record, and the answer, leave the clients. -/
theorem recordClient_clients {α : Type} (actor action platform : String)
    (afterState : Option JsValue) (answer : α) (s : ClientState) :
    ((recordClient actor action platform afterState >>= fun _ => pure answer :
      Call ClientStep ClientState ApiError α).run s).2.2 = s.2 := by
  unfold recordClient onDatabase
  rw [Call.run_bind, Call.run_onFst]
  rcases (AuditService.record _).run s.1 with ⟨e | u, w⟩ <;> rfl

/-- An update, whatever is recorded about it. -/
theorem run_updateClient {α : Type} (platform : String) (data : ClientData) {actor action : String}
    {afterState : Option JsValue} (answer : RegisteredClient → α) (s : ClientState) :
    ((do
      let client ← updateClient platform data
      recordClient actor action platform afterState
      return answer client : Call ClientStep ClientState ApiError α).run s).2.2 =
      if data.Fits then s.2.update platform data else s.2 := by
  obtain ⟨w, registry⟩ := s
  rw [Call.run_bind]
  unfold updateClient
  rw [Call.run_query]
  by_cases hfits : data.Fits
  swap
  · rw [checkTexts, if_neg (by simpa [ClientData.Fits] using hfits), if_neg hfits]
    rfl
  rw [checkTexts_eq_ok (u := ()) |>.mpr hfits, if_pos hfits]
  cases hfound : registry.clients.rows.find? fun c => c.platform = platform with
  | none =>
    have habsent : ∀ c ∈ registry.clients.rows, c.platform ≠ platform := by
      simpa using hfound
    simp only [hfound, orThrow, bind, Except.bind]
    exact (ClientRegistry.update_absent habsent data).symm
  | some client =>
    simp only [hfound, orThrow, bind, Except.bind, pure, Except.pure]
    exact recordClient_clients actor action platform afterState (answer (data.set client)) _

variable [AuthRuntime]

/-- **What an operation does to the clients.** -/
theorem ClientOp.clients_step (s : ClientState) (op : ClientOp) :
    (op.step s).2 = match op.write with
      | none => s.2
      | some (platform, data) => s.2.update platform data := by
  unfold ClientOp.step ClientOp.call
  cases op with
  | setRateLimit platform rateLimitPerMin actor =>
    unfold setClientRateLimit
    rw [Call.run_void_snd, Call.run_throwIf_bind]
    by_cases hrange : rateLimitPerMin < 1 ∨ 1000000 < rateLimitPerMin
    · simp only [ClientOp.write, if_pos hrange]
    · simp only [ClientOp.write, if_neg hrange]
      exact (run_updateClient platform _ id s).trans (if_pos ClientData.fits_rateLimit)
  | setDisabled platform disabled actor =>
    unfold setClientDisabled
    rw [Call.run_void_snd]
    exact (run_updateClient platform _ id s).trans (if_pos ClientData.fits_disabled)
  | setKey platform publicKeyPem requireSignature actor =>
    unfold setClientKey
    rw [Call.run_void_snd]
    refine (run_updateClient platform _ id s).trans ?_
    simp only [ClientOp.write]
    split_ifs <;> rfl
  | setWebhookUrl platform webhookUrl actor =>
    unfold setClientWebhookUrl
    rw [Call.run_void_snd, Call.run_throwIf_bind]
    cases hurl : isHttpsUrl webhookUrl with
    | false => simp [ClientOp.write, hurl]
    | true =>
      simp only [ClientOp.write, hurl, Bool.not_true, Bool.false_eq_true, if_false, true_and]
      refine (run_updateClient platform _ id s).trans ?_
      split_ifs <;> rfl
  | rotateSecret clock random platform actor =>
    unfold rotateClientSecret
    rw [Call.run_void_snd]
    exact (run_updateClient platform _ _ s).trans (if_pos ClientData.fits_secretHash)

/-- No operation touches the roles. -/
theorem ClientOp.roles_step (s : ClientState) (op : ClientOp) : (op.step s).1.roles = s.1.roles := by
  have hupdate (platform : String) (data : ClientData) :
      (updateClient platform data).Keeps fun s : ClientState => s.1.roles := by
    refine Call.keeps_query fun s c s' h => ?_
    obtain ⟨_, -, h⟩ := bind_eq_ok.mp h
    obtain ⟨client, -, h⟩ := bind_eq_ok.mp h
    cases h
    rfl
  have hrecord (actor action platform : String) (afterState : Option JsValue) :
      (recordClient actor action platform afterState).Keeps fun s : ClientState => s.1.roles :=
    (keeps_record (g := World.roles) fun _ => rfl).onFst ClientStep.database
  have hadminister {α : Type} (platform : String) (data : ClientData) (actor action : String)
      (afterState : Option JsValue) (answer : RegisteredClient → α) :
      (do
        let client ← updateClient platform data
        recordClient actor action platform afterState
        return answer client : Call ClientStep ClientState ApiError α).Keeps
          fun s : ClientState => s.1.roles :=
    (hupdate platform data).bind fun client =>
      (hrecord actor action platform afterState).bind fun _ => Call.keeps_pure _ _
  unfold ClientOp.step ClientOp.call
  refine Call.Keeps.run (g := fun s : ClientState => s.1.roles) ?_ s
  cases op with
  | setRateLimit platform rateLimitPerMin actor =>
    exact ((Call.keeps_throwIf _ _ _).bind fun _ =>
      hadminister platform _ actor _ _ id).bind fun _ => Call.keeps_pure _ _
  | setDisabled platform disabled actor =>
    exact (hadminister platform _ actor _ _ id).bind fun _ => Call.keeps_pure _ _
  | setKey platform publicKeyPem requireSignature actor =>
    exact (hadminister platform _ actor _ _ id).bind fun _ => Call.keeps_pure _ _
  | setWebhookUrl platform webhookUrl actor =>
    exact ((Call.keeps_throwIf _ _ _).bind fun _ =>
      hadminister platform _ actor _ _ id).bind fun _ => Call.keeps_pure _ _
  | rotateSecret clock random platform actor =>
    exact (hadminister platform _ actor _ _ _).bind fun _ => Call.keeps_pure _ _

end

/-! ## Partners -/

section

variable [AuthRuntime]

/-- **Secrets that can be told apart by their hashes.** -/
structure SecretHashes (secrets : List String) : Prop where
  digits : ∀ text, jsLength (AuthRuntime.sha256Hex text) = 64 ∧
    (AuthRuntime.sha256Hex text).utf8ByteSize = 64
  apart : ∀ a ∈ secrets, ∀ b ∈ secrets,
    AuthRuntime.sha256Hex a = AuthRuntime.sha256Hex b → a = b

/-- A client, and the secret its hash is of. -/
structure Partner where
  row : RegisteredClient
  secret : Option String
  hash : row.clientSecretHash = secret.map AuthRuntime.sha256Hex

omit [AuthRuntime] in
/-- The secret an operation issues to a platform. -/
def ClientOp.issues (platform : String) : ClientOp → Option String
  | .rotateSecret _ random platform' _ => if platform' = platform then some ("sk_" ++ random) else none
  | _ => none

omit [AuthRuntime] in
/-- Whether an operation disables a platform or enables it, if it does one or the other. -/
def ClientOp.disables (platform : String) : ClientOp → Option Bool
  | .setDisabled platform' disabled _ => if platform' = platform then some disabled else none
  | _ => none

/-- What an operation makes of a row. -/
def ClientOp.rewrite (op : ClientOp) (c : RegisteredClient) : RegisteredClient :=
  match op.write with
  | none => c
  | some (platform, data) => data.onPlatform platform c

theorem ClientOp.rows_step [Runtime] (s : ClientState) (op : ClientOp) :
    (op.step s).2.clients.rows = s.2.clients.rows.map op.rewrite := by
  rw [op.clients_step]
  unfold ClientOp.rewrite
  cases op.write with
  | none => exact (List.map_id _).symm
  | some w => rfl

theorem ClientOp.rewrite_spec (op : ClientOp) (c : RegisteredClient) :
    (op.rewrite c).platform = c.platform ∧ (op.rewrite c).oauthClientId = c.oauthClientId ∧
      (op.rewrite c).displayName = c.displayName ∧
      (op.rewrite c).clientSecretHash =
        ((op.issues c.platform).map AuthRuntime.sha256Hex).or c.clientSecretHash ∧
      (op.rewrite c).disabled = (op.disables c.platform).getD c.disabled := by
  unfold ClientOp.rewrite
  cases op with
  | setRateLimit platform rateLimitPerMin actor =>
    simp only [ClientOp.write]
    split_ifs <;> simp [ClientData.onPlatform, ClientData.rateLimit, ClientOp.issues,
      ClientOp.disables, apply_ite]
  | setWebhookUrl platform webhookUrl actor =>
    simp only [ClientOp.write]
    split_ifs <;> simp [ClientData.onPlatform, ClientData.webhook, ClientOp.issues,
      ClientOp.disables, apply_ite]
  | setKey platform publicKeyPem requireSignature actor =>
    simp only [ClientOp.write]
    split_ifs <;> simp [ClientData.onPlatform, ClientData.key, ClientOp.issues,
      ClientOp.disables, apply_ite]
  | setDisabled platform disabled actor =>
    by_cases hplatform : c.platform = platform
    · simp [ClientOp.write, ClientData.onPlatform, ClientData.disabled, ClientOp.issues,
        ClientOp.disables, hplatform]
    · simp [ClientOp.write, ClientData.onPlatform, ClientOp.issues,
        ClientOp.disables, hplatform, Ne.symm hplatform]
  | rotateSecret clock random platform actor =>
    by_cases hplatform : c.platform = platform
    · simp [ClientOp.write, ClientData.onPlatform, ClientData.secretHash, ClientOp.issues,
        ClientOp.disables, hplatform]
    · simp [ClientOp.write, ClientData.onPlatform, ClientOp.issues,
        ClientOp.disables, hplatform, Ne.symm hplatform]

namespace Partner

/-- Whom the partner is authenticated as. -/
def identity (p : Partner) : AuthenticatedClient :=
  ⟨p.row.platform, p.row.oauthClientId, p.row.displayName⟩

/-- The partner after an operation. -/
def after (p : Partner) (op : ClientOp) : Partner where
  row := op.rewrite p.row
  secret := (op.issues p.row.platform).or p.secret
  hash := by
    rw [(op.rewrite_spec p.row).2.2.2.1, p.hash]
    cases op.issues p.row.platform <;> rfl

/-- Whether the partner is let in with a secret. -/
def accepts (p : Partner) (secret : String) : Bool := !p.row.disabled && p.secret = some secret

/-- The partner a client identifier and a secret are accepted for. -/
def verify (partners : List Partner) (clientId secret : String) : Option AuthenticatedClient :=
  if clientId = "" ∨ secret = "" then none
  else ((partners.find? fun p => p.row.oauthClientId = clientId).filter fun p =>
    p.accepts secret).map identity

end Partner

variable {secrets : List String} {partners : List Partner} {registry : ClientRegistry}

theorem SecretHashes.equal (h : SecretHashes secrets) {a b : String} (ha : a ∈ secrets)
    (hb : b ∈ secrets) :
    ClientAuthService.hashesEqual (AuthRuntime.sha256Hex a) (AuthRuntime.sha256Hex b) =
      .ok (decide (a = b)) := by
  have hlength : jsLength (AuthRuntime.sha256Hex a) = jsLength (AuthRuntime.sha256Hex b) :=
    (h.digits a).1.trans (h.digits b).1.symm
  have hsize : (AuthRuntime.sha256Hex a).utf8ByteSize = (AuthRuntime.sha256Hex b).utf8ByteSize :=
    (h.digits a).2.trans (h.digits b).2.symm
  unfold ClientAuthService.hashesEqual timingSafeEqual
  rw [if_neg (not_not.mpr hlength), if_neg (not_not.mpr hsize)]
  congr 1
  exact decide_eq_decide.mpr ⟨h.apart a ha b hb, congrArg _⟩

/-- **Authentication against the hashes is authentication against the secrets.** -/
theorem verify_applications (hhashes : SecretHashes secrets)
    (hrows : registry.clients.rows = partners.map Partner.row)
    (hknown : ∀ p ∈ partners, ∀ secret, p.secret = some secret → secret ∈ secrets)
    (clientId : String) {secret : String} (hsecret : secret ∈ secrets) :
    ClientAuthService.verify registry.applications clientId secret =
      .ok (Partner.verify partners clientId secret) := by
  unfold ClientAuthService.verify Partner.verify
  by_cases hempty : clientId = "" ∨ secret = ""
  · rw [if_pos hempty, if_pos hempty]
  rw [if_neg hempty, if_neg hempty]
  have hfind : registry.clients.find? clientId =
      (partners.find? fun p => p.row.oauthClientId = clientId).map Partner.row := by
    unfold Table.find?
    rw [hrows, List.find?_map]
    rfl
  unfold ClientRegistry.applications
  rw [Table.find?_mapRows, hfind]
  cases hp : partners.find? fun p => p.row.oauthClientId = clientId with
  | none => rfl
  | some p =>
    have hknown := hknown p (List.mem_of_find?_eq_some hp)
    simp only [Option.map_some, p.hash]
    cases hdisabled : p.row.disabled with
    | true => simp [Partner.accepts, hdisabled]
    | false =>
      simp only [Bool.false_eq_true, if_false]
      cases hstored : p.secret with
      | none => simp [Partner.accepts, hstored]
      | some stored =>
        have hnonempty : AuthRuntime.sha256Hex stored ≠ "" := by
          intro hnone
          have hdigits := (hhashes.digits stored).2
          rw [hnone] at hdigits
          cases hdigits
        have hequal := hhashes.equal hsecret (hknown stored hstored)
        by_cases hsame : secret = stored
        · subst hsame
          simp [Partner.accepts, Option.filter, hnonempty, hequal, hdisabled, hstored, bind,
            Except.bind, pure, Except.pure, Partner.identity]
        · simp [Partner.accepts, Option.filter, hnonempty, hequal, hsame, hstored, Ne.symm hsame,
            bind, Except.bind, pure, Except.pure]

/-! ## Runs -/

variable [Runtime]

theorem partners_run {s : ClientState} (hrows : s.2.clients.rows = partners.map Partner.row)
    (ops : List ClientOp) : (ops.foldl ClientOp.step s).2.clients.rows =
      (partners.map fun p => ops.foldl Partner.after p).map Partner.row := by
  induction ops generalizing s partners with
  | nil => simpa using hrows
  | cons op ops ih =>
    have hstep : (op.step s).2.clients.rows = (partners.map fun p => p.after op).map Partner.row := by
      rw [op.rows_step, hrows, List.map_map, List.map_map]
      rfl
    rw [List.foldl_cons, ih hstep]
    simp only [List.map_map, Function.comp_def, List.foldl_cons]

omit [Runtime] in
/-- What the operations make of a partner: it keeps its identity, its secret is the last one that
was issued to it, and it is disabled if it was disabled last. -/
theorem Partner.after_run (p : Partner) (ops : List ClientOp) :
    let p' := ops.foldl Partner.after p
    p'.identity = p.identity ∧
      p'.secret = (ops.reverse.findSome? (ClientOp.issues p.row.platform)).or p.secret ∧
      p'.row.disabled =
        (ops.reverse.findSome? (ClientOp.disables p.row.platform)).getD p.row.disabled := by
  induction ops using List.reverseRecOn with
  | nil => exact ⟨rfl, rfl, rfl⟩
  | append_singleton ops op ih =>
    obtain ⟨hidentity, hsecret, hdisabled⟩ := ih
    obtain ⟨hplatform, hclient, hname, -, hrewritten⟩ :=
      op.rewrite_spec (ops.foldl Partner.after p).row
    obtain ⟨hsame, -, -⟩ := AuthenticatedClient.mk.inj hidentity
    rw [List.foldl_append, List.reverse_append, List.reverse_singleton, List.singleton_append,
      List.findSome?_cons, List.findSome?_cons]
    refine ⟨?_, ?_, ?_⟩
    · show AuthenticatedClient.mk _ _ _ = p.identity
      rw [← hidentity]
      simp only [Partner.identity, Partner.after, List.foldl_cons, List.foldl_nil, hplatform,
        hclient, hname]
    · show (op.issues (ops.foldl Partner.after p).row.platform).or _ = _
      rw [hsame, hsecret]
      cases op.issues p.row.platform <;> rfl
    · show (op.rewrite (ops.foldl Partner.after p).row).disabled = _
      rw [hrewritten, hsame, hdisabled]
      cases op.disables p.row.platform <;> rfl

/-- **Credentials are current.** Whatever was administered, a client identifier and a secret are
accepted if and only if they are those of a partner that was not disabled last, and the secret is
the one that was issued to it last. -/
theorem credentials_current {s : ClientState}
    (hrows : s.2.clients.rows = partners.map Partner.row) {ops : List ClientOp}
    (hhashes : SecretHashes secrets)
    (hknown : ∀ p ∈ partners, ∀ secret, p.secret = some secret → secret ∈ secrets)
    (hissued : ∀ op ∈ ops, ∀ platform secret, op.issues platform = some secret → secret ∈ secrets)
    (clientId : String) {secret : String} (hsecret : secret ∈ secrets)
    (client : AuthenticatedClient) :
    ClientAuthService.verify (ops.foldl ClientOp.step s).2.applications clientId secret =
        .ok (some client) ↔
      clientId ≠ "" ∧ secret ≠ "" ∧ ∃ p ∈ partners,
        p.row.oauthClientId = clientId ∧ client = p.identity ∧
        (ops.reverse.findSome? (ClientOp.disables p.row.platform)).getD p.row.disabled = false ∧
        (ops.reverse.findSome? (ClientOp.issues p.row.platform)).or p.secret = some secret := by
  have hafter : ∀ p ∈ partners.map fun p => ops.foldl Partner.after p,
      ∀ secret, p.secret = some secret → secret ∈ secrets := by
    intro p' hp' secret hstored
    obtain ⟨p, hp, rfl⟩ := List.mem_map.mp hp'
    rw [(p.after_run ops).2.1] at hstored
    cases hlast : ops.reverse.findSome? (ClientOp.issues p.row.platform) with
    | none =>
      rw [hlast] at hstored
      exact hknown p hp secret hstored
    | some issued =>
      rw [hlast] at hstored
      obtain ⟨op, hop, hop'⟩ := List.exists_of_findSome?_eq_some hlast
      exact hissued op (List.mem_reverse.mp hop) _ secret (hop'.trans hstored)
  rw [verify_applications hhashes (partners_run hrows ops) hafter clientId hsecret,
    Except.ok.injEq]
  have hkept (p : Partner) : (ops.foldl Partner.after p).row.oauthClientId = p.row.oauthClientId :=
    (AuthenticatedClient.mk.inj (p.after_run ops).1).2.1
  have hfind : (partners.map fun p => ops.foldl Partner.after p).find?
        (fun p => p.row.oauthClientId = clientId) =
      (partners.find? fun p => p.row.oauthClientId = clientId).map fun p =>
        ops.foldl Partner.after p := by
    rw [List.find?_map]
    simp only [Function.comp_def, hkept]
  have hunique : (partners.map fun p => p.row.oauthClientId).Nodup := by
    have hnodup := s.2.clients.nodup
    rwa [hrows, List.map_map] at hnodup
  unfold Partner.verify
  rw [hfind]
  constructor
  · intro haccepted
    split_ifs at haccepted with hempty
    rw [not_or] at hempty
    obtain ⟨p', hp', rfl⟩ := Option.map_eq_some_iff.mp haccepted
    obtain ⟨hfound, haccepts⟩ := Option.filter_eq_some_iff.mp hp'
    obtain ⟨p, hp, rfl⟩ := Option.map_eq_some_iff.mp hfound
    obtain ⟨hidentity, hlast, hdisabled⟩ := p.after_run ops
    obtain ⟨henabled, hstored⟩ := Bool.and_eq_true_iff.mp haccepts
    refine ⟨hempty.1, hempty.2, p, List.mem_of_find?_eq_some hp, ?_, hidentity, ?_, ?_⟩
    · simpa using List.find?_some hp
    · rw [← hdisabled]
      simpa using henabled
    · rw [← hlast]
      exact of_decide_eq_true hstored
  · rintro ⟨hclientId, hpresented, p, hp, hid, rfl, hdisabled, hlast⟩
    obtain ⟨hidentity, hsecret', hdisabled'⟩ := p.after_run ops
    have hfound : partners.find? (fun p => p.row.oauthClientId = clientId) = some p := by
      cases hother : partners.find? fun p => p.row.oauthClientId = clientId with
      | none => exact absurd (decide_eq_true hid) (List.find?_eq_none.mp hother p hp)
      | some other =>
        have hsame : other.row.oauthClientId = clientId := by simpa using List.find?_some hother
        rw [List.inj_on_of_nodup_map hunique (List.mem_of_find?_eq_some hother) hp
          (hsame.trans hid.symm)]
    have haccepts : (ops.foldl Partner.after p).accepts secret = true := by
      unfold Partner.accepts
      rw [hsecret', hlast, hdisabled', hdisabled]
      simp
    rw [if_neg (not_or.mpr ⟨hclientId, hpresented⟩), hfound, Option.map_some,
      Option.filter_some, if_pos haccepts, Option.map_some, hidentity]

end

/-! ## A secret is rotated -/

namespace Sample

def demoSecret : String := "paychain-demo-secret"

def freshSecret : String := "sk_3q2-7wAAAAECAwQFBgcICQoLDA0ODxAR"

/-- SHA-256 of the two secrets. -/
def sha256Secrets (text : String) : String :=
  if text = demoSecret then "1516046b08f2d0d7827bb11bea178e5fc4b1c2e679a91a1d786a208e7aa8ec7a"
  else "851bb45e50cf1574f19c8b33d047cef698969434dbcf0cd64f2c8017907826eb"

@[reducible] def secretRuntime : AuthRuntime := { authRuntime with sha256Hex := sha256Secrets }

attribute [local instance] Runtime.ascii secretRuntime

theorem secretHashes : SecretHashes [demoSecret, freshSecret] where
  digits text := by
    show jsLength (sha256Secrets text) = 64 ∧ (sha256Secrets text).utf8ByteSize = 64
    unfold sha256Secrets
    split_ifs <;> decide
  apart := by decide

/-- The row of PayChain, as it is seeded. -/
def payChain : RegisteredClient where
  platform := "PAYCHAIN"
  displayName := "PayChain (paychain.cambobia.com)"
  oauthClientId := "client_paychain_demo"
  clientSecretHash := some (sha256Secrets demoSecret)
  publicKeyPem := none
  requireSignature := false
  webhookUrl := none
  rateLimitPerMin := 600
  disabled := false

def payChainPartner : Partner := ⟨payChain, some demoSecret, rfl⟩

def payChainRegistry : ClientRegistry := ⟨⟨[payChain], List.nodup_singleton _⟩, List.nodup_singleton _⟩

/-- The secret of PayChain is rotated. -/
def rotation : List ClientOp :=
  [.rotateSecret (fun _ => 1767225600000) "3q2-7wAAAAECAwQFBgcICQoLDA0ODxAR" "PAYCHAIN" "operator"]

/-- What PayChain is answered when it presents a secret after that. -/
def authenticated (secret : String) : Except ApiError (Option AuthenticatedClient) :=
  ClientAuthService.verify (rotation.foldl ClientOp.step (World.empty, payChainRegistry)).2.applications
    "client_paychain_demo" secret

theorem payChainRegistry_rows : (World.empty, payChainRegistry).2.clients.rows =
    [payChainPartner].map Partner.row := rfl

theorem demo_known : ∀ p ∈ [payChainPartner], ∀ secret, p.secret = some secret →
    secret ∈ [demoSecret, freshSecret] := by
  intro p hp secret hsecret
  cases List.mem_singleton.mp hp
  cases hsecret
  exact List.mem_cons_self

theorem fresh_known : ∀ op ∈ rotation, ∀ platform secret, op.issues platform = some secret →
    secret ∈ [demoSecret, freshSecret] := by
  intro op hop platform secret hissued
  cases List.mem_singleton.mp hop
  obtain ⟨-, hsecret⟩ := Option.ite_none_right_eq_some.mp hissued
  cases hsecret
  exact List.mem_cons_of_mem _ List.mem_cons_self

/-- The new secret is accepted, and the old one is not. -/
theorem credentials_current_rotated :
    authenticated freshSecret = .ok (some payChainPartner.identity) ∧
      authenticated demoSecret ≠ .ok (some payChainPartner.identity) := by
  have hcurrent {secret : String} (h : secret ∈ [demoSecret, freshSecret]) :=
    credentials_current payChainRegistry_rows secretHashes demo_known fresh_known
      "client_paychain_demo" h payChainPartner.identity
  constructor
  · refine (hcurrent (List.mem_cons_of_mem _ List.mem_cons_self)).mpr ⟨by decide, by decide,
      payChainPartner, List.mem_cons_self, rfl, rfl, by decide, by decide⟩
  · intro haccepted
    obtain ⟨-, -, p, hp, -, -, -, hlast⟩ := (hcurrent List.mem_cons_self).mp haccepted
    cases List.mem_singleton.mp hp
    exact absurd hlast (by decide)

end Sample

end TrusteeBank
