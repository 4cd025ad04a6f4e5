import TrusteeBank.Database

/-!
# Client separation

`ClientSeparationGuard` authenticates every request. It reads off the path which platform's
credentials are required, or that none are, and accepts a session of a trustee operator or the
credentials of a client of that platform. `PermissionGuard` runs after it.

The guard compares the path with lower-case prefixes. The router ignores the case of a path, and
a controller under `/api/v1/bank` also serves `/API/v1/bank`.

* `requiredPlatform_of_mounted`: for a path the router serves, the guard finds the platform of the
  controller if the path spells the mount in lower case, and none otherwise;
* `canActivate_credentials`: where a platform is required, only its credentials are admitted;
* `admitted_unauthenticated`: on any other path it serves, nothing is asked of a request;
* `client_separation`: a served path is guarded exactly when it spells the mount in lower case.
-/

set_option autoImplicit false

namespace TrusteeBank

/-! ## Texts -/

/-- `text.startsWith(start)`. -/
def startsWith (text start : String) : Bool := start.toList.isPrefixOf text.toList

/-- ASCII letters in lower case, which is how a route is matched. -/
def lowerAscii (text : String) : List Char := text.toList.map Char.toLower

/-- `text.length`, in UTF-16 units. -/
def jsLength (text : String) : Nat :=
  (text.toList.map fun c => if c.val < 0x10000 then 1 else 2).sum

/-- The texts before and after the last `c`, if there is one. -/
def splitAtLast (c : Char) (text : String) : Option (String × String) :=
  match text.toList.reverse.span fun x => x ≠ c with
  | (_, []) => none
  | (after, _ :: before) => some (String.ofList before.reverse, String.ofList after.reverse)

/-- The texts before and after the first `c`, if there is one. -/
def splitAtFirst (c : Char) (text : String) : Option (String × String) :=
  match text.toList.span fun x => x ≠ c with
  | (_, []) => none
  | (before, _ :: after) => some (String.ofList before, String.ofList after)

/-- `timingSafeEqual(Buffer.from(a), Buffer.from(b))`. -/
def timingSafeEqual (a b : String) : Except ApiError Bool :=
  if a.utf8ByteSize ≠ b.utf8ByteSize then
    .error (.thrown "RangeError" "Input buffers must have the same byte length")
  else .ok (a = b)

/-! ## Credentials -/

/-- The claims of a session token. -/
structure SessionPayload where
  sub : String
  email : String
  inst : String
  roles : List String
  mfp : Option Int
  exp : JsNumber
deriving DecidableEq

structure UserPrincipal where
  userId : String
  email : String
  institution : String
  roles : List String
  mfaPending : Bool
deriving DecidableEq, Repr

structure AuthenticatedClient where
  platform : String
  oauthClientId : String
  displayName : String
deriving DecidableEq, Repr

/-- `req.principal`. -/
inductive Principal
  | user (user : UserPrincipal)
  | client (client : AuthenticatedClient)
deriving DecidableEq, Repr

structure ClientApplication where
  platform : String
  displayName : String
  oauthClientId : String
  clientSecretHash : Option String
  disabled : Bool

/-- What authentication takes from the platform and from the environment. -/
class AuthRuntime where
  /-- `sha256Hex`. -/
  sha256Hex : String → String
  /-- The base64url HMAC-SHA256 of a text under `SESSION_SECRET`. -/
  sign : String → String
  /-- `JSON.parse(Buffer.from(body, 'base64url').toString('utf8'))`, `none` when it throws. -/
  parseSession : String → Option SessionPayload
  /-- `Buffer.from(text, 'base64').toString('utf8')`. -/
  decodeBase64 : String → String

/-- What the guards read of a request. -/
structure HttpRequest where
  path : String
  authorization : Option String
  xClientId : Option String
  xClientSecret : Option String

section

variable [AuthRuntime]

namespace UserAuthService

/-- `if (p.exp * 1000 < this.clock.now().getTime()) return null`. -/
def principalOf (now : Int) (p : SessionPayload) : Option UserPrincipal :=
  if p.exp.any fun exp => exp * 1000 < now then none
  else some
    { userId := p.sub
      email := p.email
      institution := p.inst
      roles := p.roles
      mfaPending := p.mfp = some 1 }

def verifyToken (now : Int) (token : String) : Except ApiError (Option UserPrincipal) :=
  match splitAtLast '.' token with
  | none => .ok none
  | some (body, sig) =>
    if body = "" then .ok none
    else do
      let expected := AuthRuntime.sign body
      if jsLength sig ≠ jsLength expected then return none
      let same ← timingSafeEqual sig expected
      if same then return (AuthRuntime.parseSession body).bind (principalOf now)
      else return none

end UserAuthService

namespace ClientAuthService

def hashesEqual (a b : String) : Except ApiError Bool :=
  if jsLength a ≠ jsLength b then .ok false else timingSafeEqual a b

def verify (clients : Lib.Table ClientApplication.oauthClientId) (clientId secret : String) :
    Except ApiError (Option AuthenticatedClient) :=
  if clientId = "" ∨ secret = "" then .ok none
  else
    match clients.find? clientId with
    | none => .ok none
    | some client =>
      if client.disabled then .ok none
      else
        match client.clientSecretHash.filter fun hash => hash ≠ "" with
        | none => .ok none
        | some hash => do
          let same ← hashesEqual (AuthRuntime.sha256Hex secret) hash
          return if same then
            some ⟨client.platform, client.oauthClientId, client.displayName⟩
          else none

end ClientAuthService

/-! ## The guards -/

/-- `if (c) throw e`. -/
def throwWhen (c : Prop) [Decidable c] (e : ApiError) : Except ApiError Unit :=
  if c then .error e else .ok ()

omit [AuthRuntime] in
theorem throwWhen_eq_ok {c : Prop} [Decidable c] {e : ApiError} {u : Unit} :
    throwWhen c e = .ok u ↔ ¬c := by
  unfold throwWhen
  split_ifs with h <;> simp [h]

namespace ClientSeparationGuard

omit [AuthRuntime] in
def requiredPlatform (path : String) : Option String :=
  if startsWith path "/api/v1/auth" then none
  else if startsWith path "/api/v1/paychain" then some "PAYCHAIN"
  else if startsWith path "/api/v1/paykh" then some "PAYKH"
  else if startsWith path "/api/v1/bank" then some "TRUSTEE_BANK"
  else if startsWith path "/api/v1/trustee" then some "TRUSTEE_BANK"
  else if startsWith path "/api/v1/admin" then some "TRUSTEE_BANK"
  else none

omit [AuthRuntime] in
def bearer (req : HttpRequest) : Option String :=
  match req.authorization with
  | some authz =>
    if startsWith authz "Bearer " then some (String.ofList (jsTrim (authz.toList.drop 7)))
    else none
  | none => none

/-- The client identifier and secret of a Basic header. -/
def basicCredentials (authorization : Option String) : Option (String × String) :=
  match authorization with
  | some authz =>
    if startsWith authz "Basic " then
      match splitAtFirst ':' (AuthRuntime.decodeBase64 (String.ofList (authz.toList.drop 6))) with
      | some (clientId, secret) => if clientId = "" then none else some (clientId, secret)
      | none => none
    else none
  | none => none

def extractCredentials (req : HttpRequest) : Option (String × String) :=
  match req.xClientId.filter (· ≠ ""), req.xClientSecret.filter (· ≠ "") with
  | some id, some secret => some (id, secret)
  | _, _ => basicCredentials req.authorization

omit [AuthRuntime] in
/-- What the guard asks of the user of a session. -/
def checkUser (required : String) (user : UserPrincipal) : Except ApiError Unit := do
  throwWhen (required ≠ "TRUSTEE_BANK" ∨ user.institution ≠ "TRUSTEE_BANK")
    (.forbidden "User session not permitted for this namespace")
  throwWhen user.mfaPending
    (.forbidden ("MFA enrollment required — activate two-factor auth via " ++
      "/api/v1/auth/mfa/setup before using operator APIs"))

omit [AuthRuntime] in
/-- What it asks of a client whose secret it verified. -/
def checkClient (required : String) (client : AuthenticatedClient) : Except ApiError Unit :=
  throwWhen (client.platform ≠ required)
    (.forbidden ("Client " ++ client.platform ++ " may not access " ++ required ++
      " APIs (client separation)"))

/-- A session of a trustee operator. -/
def activateUser (now : Int) (required token : String) : Except ApiError Principal := do
  let user ← UserAuthService.verifyToken now token
  let user ← orThrow user (.unauthorized "Invalid or expired session token")
  checkUser required user
  return .user user

/-- The credentials of a client. -/
def activateClient (clients : Lib.Table ClientApplication.oauthClientId) (required : String)
    (req : HttpRequest) : Except ApiError Principal := do
  let (clientId, secret) ← orThrow (extractCredentials req)
    (.unauthorized "Credentials required (X-Client-Id/Secret or Bearer token)")
  let client ← ClientAuthService.verify clients clientId secret
  let client ← orThrow client (.unauthorized "Invalid client credentials")
  checkClient required client
  return .client client

/-- Admit a request: with the principal it authenticated as, or without one. -/
def canActivate (clients : Lib.Table ClientApplication.oauthClientId) (now : Int)
    (req : HttpRequest) : Except ApiError (Option Principal) :=
  match requiredPlatform req.path with
  | none => .ok none
  | some required =>
    match (bearer req).filter (· ≠ "") with
    | some token => (activateUser now required token).map some
    | none => (activateClient clients required req).map some

end ClientSeparationGuard

end

/-- `PermissionGuard.canActivate`, for the permission a route declares. -/
def PermissionGuard.canActivate (roles : Lib.Table Role.slug) (required : Option String)
    (principal : Option Principal) : Except ApiError Bool :=
  match required.filter (· ≠ "") with
  | none => .ok true
  | some permission =>
    match principal with
    | none => .ok true
    | some (.client _) => .ok true
    | some (.user user) =>
      if (roles.rows.filter fun r => user.roles.contains r.slug).any fun r =>
          r.permissions.contains permission then .ok true
      else .error (.forbidden ("Missing permission: " ++ permission))

open ClientSeparationGuard

/-! ## Where controllers are mounted -/

/-- The prefixes of the controllers that need credentials. -/
inductive Mount
  | paychain | paykh | bank | trustee | admin
deriving DecidableEq, Repr

def Mount.path : Mount → String
  | .paychain => "/api/v1/paychain"
  | .paykh => "/api/v1/paykh"
  | .bank => "/api/v1/bank"
  | .trustee => "/api/v1/trustee"
  | .admin => "/api/v1/admin"

/-- The platform a namespace belongs to. -/
def Mount.platform : Mount → String
  | .paychain => "PAYCHAIN"
  | .paykh => "PAYKH"
  | .bank | .trustee | .admin => "TRUSTEE_BANK"

/-- How the router takes a path to a controller: below its mount, whatever the case. -/
structure RoutesIgnoreCase (serves : Mount → String → Prop) : Prop where
  mounted : ∀ m p, serves m p → m.path.toList <+: lowerAscii p
  ignores_case : ∀ m p q, lowerAscii p = lowerAscii q → serves m p → serves m q

theorem startsWith_iff (text start : String) :
    startsWith text start = true ↔ start.toList <+: text.toList := by
  unfold startsWith
  exact List.isPrefixOf_iff_prefix

/-- A lower-case prefix is one whatever the case of the text. -/
theorem prefix_lowerAscii {text start : String} (hlower : lowerAscii start = start.toList)
    (h : startsWith text start = true) : start.toList <+: lowerAscii text := by
  have hmap := ((startsWith_iff text start).mp h).map Char.toLower
  rw [← lowerAscii, hlower] at hmap
  exact hmap

/-- The prefixes the guard compares with. -/
def guardPrefixes : List String :=
  ["/api/v1/auth", "/api/v1/paychain", "/api/v1/paykh", "/api/v1/bank", "/api/v1/trustee",
    "/api/v1/admin"]

/-- They are in lower case, and none is a prefix of another. -/
theorem guardPrefixes_apart (m : Mount) : ∀ other ∈ guardPrefixes, other ≠ m.path →
    lowerAscii other = other.toList ∧ ¬other.toList <+: m.path.toList ∧
      ¬m.path.toList <+: other.toList := by
  cases m <;> decide

/-- No other prefix of the guard fits a path below a mount. -/
theorem startsWith_other {m : Mount} {p : String} (h : m.path.toList <+: lowerAscii p)
    {other : String} (hother : other ∈ guardPrefixes) (hne : other ≠ m.path) :
    startsWith p other = false := by
  obtain ⟨hlower, hleft, hright⟩ := guardPrefixes_apart m other hother hne
  by_contra hstarts
  rw [Bool.not_eq_false] at hstarts
  rcases List.prefix_or_prefix_of_prefix (prefix_lowerAscii hlower hstarts) h with h | h
  · exact hleft h
  · exact hright h

/-- **The guard and the router agree on the paths that spell the mount in lower case.** On any
other path a controller serves, the guard requires nothing. -/
theorem requiredPlatform_of_mounted {m : Mount} {p : String} (h : m.path.toList <+: lowerAscii p) :
    requiredPlatform p = if startsWith p m.path then some m.platform else none := by
  have hall (other : String) (hmem : other ∈ guardPrefixes) :
      startsWith p other = (decide (other = m.path) && startsWith p m.path) := by
    by_cases hsame : other = m.path
    · simp [hsame]
    · rw [startsWith_other h hmem hsame]
      simp [hsame]
  unfold requiredPlatform
  rw [hall "/api/v1/auth" (by decide), hall "/api/v1/paychain" (by decide),
    hall "/api/v1/paykh" (by decide), hall "/api/v1/bank" (by decide),
    hall "/api/v1/trustee" (by decide), hall "/api/v1/admin" (by decide)]
  generalize startsWith p m.path = literal
  cases m <;> cases literal <;> rfl

theorem Mount.lowerAscii_path (m : Mount) : lowerAscii m.path = m.path.toList := by
  cases m <;> decide

/-- Below a mount as it is written. -/
theorem requiredPlatform_below (m : Mount) (rest : String) :
    requiredPlatform (m.path ++ rest) = some m.platform := by
  have hmounted : m.path.toList <+: lowerAscii (m.path ++ rest) := by
    unfold lowerAscii
    rw [String.toList_append, List.map_append, ← lowerAscii, m.lowerAscii_path]
    exact List.prefix_append _ _
  have hliteral : startsWith (m.path ++ rest) m.path = true := by
    rw [startsWith_iff, String.toList_append]
    exact List.prefix_append _ _
  rw [requiredPlatform_of_mounted hmounted, if_pos hliteral]

/-! ## Credentials and the whole guard -/

section

variable [AuthRuntime]

/-- The request carries credentials of the platform: a session of a trustee operator, or the
secret of a client. -/
def HoldsCredentials (clients : Lib.Table ClientApplication.oauthClientId) (now : Int)
    (platform : String) (req : HttpRequest) : Prop :=
  (∃ token user, bearer req = some token ∧ UserAuthService.verifyToken now token = .ok (some user) ∧
    user.institution = "TRUSTEE_BANK" ∧ user.mfaPending = false ∧ platform = "TRUSTEE_BANK") ∨
  ∃ clientId secret client, extractCredentials req = some (clientId, secret) ∧
    ClientAuthService.verify clients clientId secret = .ok (some client) ∧
      client.platform = platform

omit [AuthRuntime] in
theorem checkUser_eq_ok {required : String} {user : UserPrincipal} :
    checkUser required user = .ok () ↔
      required = "TRUSTEE_BANK" ∧ user.institution = "TRUSTEE_BANK" ∧ user.mfaPending = false := by
  unfold checkUser
  simp only [bind_eq_ok, throwWhen_eq_ok, not_or, not_not, Bool.not_eq_true]
  exact ⟨fun ⟨_, h, hmfa⟩ => ⟨h.1, h.2, hmfa⟩, fun ⟨h, hinstitution, hmfa⟩ =>
    ⟨(), ⟨h, hinstitution⟩, hmfa⟩⟩

omit [AuthRuntime] in
theorem checkClient_eq_ok {required : String} {client : AuthenticatedClient} :
    checkClient required client = .ok () ↔ client.platform = required := by
  unfold checkClient
  rw [throwWhen_eq_ok, not_not]

theorem activateUser_ok {now : Int} {required token : String} {principal : Principal}
    (h : activateUser now required token = .ok principal) :
    ∃ user, UserAuthService.verifyToken now token = .ok (some user) ∧
      user.institution = "TRUSTEE_BANK" ∧ user.mfaPending = false ∧ required = "TRUSTEE_BANK" ∧
        principal = .user user := by
  unfold activateUser at h
  obtain ⟨found, hfound, h⟩ := bind_eq_ok.mp h
  obtain ⟨user, huser, h⟩ := bind_eq_ok.mp h
  obtain ⟨_, hcheck, h⟩ := bind_eq_ok.mp h
  rw [orThrow_eq_ok] at huser
  obtain ⟨hplatform, hinstitution, hmfa⟩ := checkUser_eq_ok.mp hcheck
  exact ⟨user, huser ▸ hfound, hinstitution, hmfa, hplatform, (Except.ok.inj h).symm⟩

theorem activateClient_ok {clients : Lib.Table ClientApplication.oauthClientId}
    {required : String} {req : HttpRequest} {principal : Principal}
    (h : activateClient clients required req = .ok principal) :
    ∃ clientId secret client, extractCredentials req = some (clientId, secret) ∧
      ClientAuthService.verify clients clientId secret = .ok (some client) ∧
        client.platform = required ∧ principal = .client client := by
  unfold activateClient at h
  obtain ⟨creds, hcreds, h⟩ := bind_eq_ok.mp h
  obtain ⟨found, hfound, h⟩ := bind_eq_ok.mp h
  obtain ⟨client, hclient, h⟩ := bind_eq_ok.mp h
  obtain ⟨_, hplatform, h⟩ := bind_eq_ok.mp h
  rw [orThrow_eq_ok] at hcreds hclient
  exact ⟨creds.1, creds.2, client, hcreds, hclient ▸ hfound, checkClient_eq_ok.mp hplatform,
    (Except.ok.inj h).symm⟩

/-- **Where a platform is required, only its credentials are admitted.** -/
theorem canActivate_credentials {clients : Lib.Table ClientApplication.oauthClientId} {now : Int}
    {req : HttpRequest} {platform : String} (hrequired : requiredPlatform req.path = some platform)
    {principal : Option Principal} (h : canActivate clients now req = .ok principal) :
    HoldsCredentials clients now platform req := by
  unfold canActivate at h
  simp only [hrequired] at h
  cases hbearer : (bearer req).filter (· ≠ "") with
  | some token =>
    simp only [hbearer] at h
    cases huser : activateUser now platform token with
    | error e => simp [huser, Except.map] at h
    | ok p =>
      obtain ⟨user, hverify, hinstitution, hmfa, hplatform, -⟩ := activateUser_ok huser
      exact .inl ⟨token, user, (Option.filter_eq_some_iff.mp hbearer).1, hverify, hinstitution, hmfa,
        hplatform⟩
  | none =>
    simp only [hbearer] at h
    cases hclient : activateClient clients platform req with
    | error e => simp [hclient, Except.map] at h
    | ok p =>
      obtain ⟨clientId, secret, client, hcreds, hverify, hplatform, -⟩ := activateClient_ok hclient
      exact .inr ⟨clientId, secret, client, hcreds, hverify, hplatform⟩

/-- On a path the router serves in another spelling, any request is admitted without a principal,
and the permission guard lets it pass whatever the route declares. -/
theorem admitted_unauthenticated {serves : Mount → String → Prop} (hserves : RoutesIgnoreCase serves)
    {m : Mount} {p : String} (hp : serves m p) (hliteral : startsWith p m.path = false)
    (clients : Lib.Table ClientApplication.oauthClientId) (now : Int) {req : HttpRequest}
    (hpath : req.path = p) (roles : Lib.Table Role.slug) (permission : Option String) :
    canActivate clients now req = .ok none ∧
      PermissionGuard.canActivate roles permission none = .ok true := by
  have hnone : requiredPlatform req.path = none := by
    rw [hpath, requiredPlatform_of_mounted (hserves.mounted m p hp), hliteral]
    rfl
  constructor
  · unfold canActivate
    rw [hnone]
  · unfold PermissionGuard.canActivate
    cases permission.filter (· ≠ "") <;> rfl

/-- **Client separation covers the paths that spell the mount in lower case, and no other.** For a
path the router takes to a controller, the guard requires the platform of the controller and
admits only its credentials exactly when the path starts with the mount as it is written. -/
theorem client_separation {serves : Mount → String → Prop} (hserves : RoutesIgnoreCase serves)
    {m : Mount} {p : String} (hp : serves m p) :
    (requiredPlatform p = some m.platform ∧
      ∀ (clients : Lib.Table ClientApplication.oauthClientId) (now : Int) (req : HttpRequest)
        (principal : Option Principal), req.path = p →
        canActivate clients now req = .ok principal →
        HoldsCredentials clients now m.platform req) ↔ startsWith p m.path = true := by
  rw [requiredPlatform_of_mounted (hserves.mounted m p hp)]
  constructor
  · rintro ⟨hrequired, -⟩
    by_contra hliteral
    rw [if_neg hliteral] at hrequired
    cases hrequired
  · intro hliteral
    refine ⟨if_pos hliteral, fun clients now req principal hpath h => ?_⟩
    have hrequired : requiredPlatform req.path = some m.platform := by
      rw [hpath, requiredPlatform_of_mounted (hserves.mounted m p hp), if_pos hliteral]
    exact canActivate_credentials hrequired h

end

/-! ## A path in upper case -/

namespace Sample

/-- The route of a mint approval. -/
def approvalRoute (m : Mount) (p : String) : Prop :=
  m = .bank ∧ lowerAscii p = lowerAscii "/api/v1/bank/mint-authorizations/x/approve"

theorem approvalRoute_ignoresCase : RoutesIgnoreCase approvalRoute where
  mounted := by
    rintro m p ⟨rfl, hp⟩
    rw [hp]
    decide
  ignores_case := by
    rintro m p q hpq ⟨hm, hp⟩
    exact ⟨hm, hpq ▸ hp⟩

/-- SHA-256 of the empty object, which stands for the body of a request without one. Nothing else
is hashed, and nothing is signed or decoded. -/
@[reducible] def authRuntime : AuthRuntime where
  sha256Hex _ := "44136fa355b3678a1146ad16f7e8649e94fb4fc21fe77e8310c060f61caaff8a"
  sign text := text
  parseSession _ := none
  decodeBase64 text := text

end Sample

theorem client_separation_approval :
    requiredPlatform "/api/v1/bank/mint-authorizations/x/approve" = some "TRUSTEE_BANK" :=
  ((@client_separation Sample.authRuntime _ Sample.approvalRoute_ignoresCase .bank _
    ⟨rfl, rfl⟩).mpr (by decide)).1

/-- **A path in upper case is served and not guarded.** -/
theorem client_separation_fails : ¬∀ [AuthRuntime] (serves : Mount → String → Prop),
    RoutesIgnoreCase serves → ∀ (m : Mount) (p : String), serves m p →
    requiredPlatform p = some m.platform ∧
      ∀ (clients : Lib.Table ClientApplication.oauthClientId) (now : Int) (req : HttpRequest)
        (principal : Option Principal), req.path = p →
        canActivate clients now req = .ok principal →
        HoldsCredentials clients now m.platform req := by
  intro h
  have hrequired := (@h Sample.authRuntime _ Sample.approvalRoute_ignoresCase .bank
    "/API/v1/bank/mint-authorizations/x/approve" ⟨rfl, by decide⟩).1
  exact absurd hrequired (by decide)

end TrusteeBank
