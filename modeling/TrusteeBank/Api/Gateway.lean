import TrusteeBank.Api.RateLimitGuard
import TrusteeBank.Api.RequestSignatures
import TrusteeBank.Services.ClientAdmin

/-!
# The guards in a row

Every request passes four guards: it is authenticated, its signature is checked, it is counted
against the rate limit, and the permission of its route is looked up. The guards read the client
registry, which operators administer in the meantime, and keep the nonces and the counters.

**The code** (`Gateway`) compares hashes of secrets, keeps nonces in rows with a time of expiry, and
counts in a store that forgets.

**What it is for** (`PartnerBook`). A list of partners with their secrets in the clear, the nonces
that were used, and for each client and minute the number of requests so far.

**Theorem (`gateway_refines`).** In every run of requests and administration, the gateway admits
exactly the requests the book admits, as the same principal.
-/

set_option autoImplicit false

namespace TrusteeBank

open Lib (Call Table WindowCounter counted)
open ClientSeparationGuard RequestSignatureGuard RateLimitGuard RateLimitService

section

variable [Runtime] [AuthRuntime] [SignatureRuntime]

/-! ## The code -/

/-- What the guards read of a request, and of the clock while serving it. -/
structure GatewayRequest where
  http : HttpRequest
  method : String
  xTimestamp : Option String
  xNonce : Option String
  xSignature : Option String
  body : Option JsValue
  permission : Option String
  sessionNow : Int
  signatureNow : Int
  limitNow : Int

/-- How a request is refused. -/
inductive GatewayRefusal
  | api (e : ApiError)
  | tooMany (e : TooManyRequests)
deriving DecidableEq, Repr

/-- The headers that are set, and the principal the handler is called with. -/
structure GatewayResponse where
  headers : List (String × String)
  result : Except GatewayRefusal (Option Principal)

/-- What the guards write. -/
structure Traffic where
  nonces : Table NonceUsage.nonce
  limits : RateLimitState

abbrev GatewayState := ClientState × Traffic

/-- What `RequestSignatureGuard` reads of the clients. -/
def ClientRegistry.signers (registry : ClientRegistry) : Table SigningClient.oauthClientId :=
  registry.clients.mapRows (fun c => ⟨c.oauthClientId, c.publicKeyPem, c.requireSignature⟩)
    fun _ => rfl

namespace GatewayRequest

/-- The request as `RequestSignatureGuard` sees it. -/
def guarded (req : GatewayRequest) (principal : Option Principal) : GuardedRequest where
  now := req.signatureNow
  request :=
    { principal
      method := req.method
      path := req.http.path
      xTimestamp := req.xTimestamp
      xNonce := req.xNonce
      xSignature := req.xSignature
      body := req.body }

/-- The request as `RateLimitGuard` sees it. -/
def limited (req : GatewayRequest) (principal : Option Principal) (limit : Option Int) :
    LimitedRequest :=
  ⟨principal, limit, req.limitNow⟩

end GatewayRequest

namespace Gateway

/-- The limit in the row of a client. -/
def limitRow (registry : ClientRegistry) (principal : Option Principal) : Option Int :=
  (limitedClient principal).bind fun clientId =>
    (registry.clients.find? clientId).map RegisteredClient.rateLimitPerMin

/-- `RateLimitGuard`, and `PermissionGuard` after it. -/
def limitAndPermit (available : Bool) (req : GatewayRequest) (principal : Option Principal)
    (s : GatewayState) : GatewayResponse × GatewayState :=
  let limited := req.limited principal (limitRow s.1.2 principal)
  let (response, limits) := RateLimitGuard.canActivate available limited s.2.limits
  let s := (s.1, { s.2 with limits })
  match response.result with
  | .error e => (⟨response.headers, .error (.tooMany e)⟩, s)
  | .ok _ =>
    match PermissionGuard.canActivate s.1.1.roles req.permission principal with
    | .error e => (⟨response.headers, .error (.api e)⟩, s)
    | .ok _ => (⟨response.headers, .ok principal⟩, s)

/-- The guards, in their order. -/
def guards (available : Bool) (req : GatewayRequest) (s : GatewayState) :
    GatewayResponse × GatewayState :=
  match ClientSeparationGuard.canActivate s.1.2.applications req.sessionNow req.http with
  | .error e => (⟨[], .error (.api e)⟩, s)
  | .ok principal =>
    match (req.guarded principal).call.run ⟨s.1.2.signers, s.2.nonces⟩ with
    | (.error e, signing) => (⟨[], .error (.api e)⟩, (s.1, { s.2 with nonces := signing.nonces }))
    | (.ok _, signing) =>
      limitAndPermit available req principal (s.1, { s.2 with nonces := signing.nonces })

end Gateway

inductive GatewayOp
  | administer (op : ClientOp)
  | request (req : GatewayRequest)

namespace Gateway

/-- An operation; what a request is admitted as, if it is. -/
def step (available : Bool) (s : GatewayState) :
    GatewayOp → Option (Option Principal) × GatewayState
  | .administer op => (none, (op.step s.1, s.2))
  | .request req =>
    let (response, s) := guards available req s
    (response.result.toOption, s)

/-- Operations one after the other, and what each is answered. -/
def serve (available : Bool) (s : GatewayState) :
    List GatewayOp → List (Option (Option Principal)) × GatewayState
  | [] => ([], s)
  | op :: ops =>
    let (answer, s) := step available s op
    let (answers, s) := serve available s ops
    (answer :: answers, s)

end Gateway

/-! ## What it is for -/

/-- The partners, the nonces that were used, and the numbers of requests. -/
structure PartnerBook where
  partners : List Partner
  used : List String
  counts : String × Int → Nat
  roles : Table Role.slug

namespace PartnerBook

def find? (b : PartnerBook) (clientId : String) : Option Partner :=
  b.partners.find? fun p => p.row.oauthClientId = clientId

/-- Whom a request comes from: `some none` is anyone, on a path that asks for no one. -/
def principal (b : PartnerBook) (req : GatewayRequest) : Option (Option Principal) :=
  match requiredPlatform req.http.path with
  | none => some none
  | some required =>
    match (bearer req.http).filter (· ≠ "") with
    | some token => (activateUser req.sessionNow required token).toOption.map some
    | none => do
      let (clientId, secret) ← extractCredentials req.http
      let client ← Partner.verify b.partners clientId secret
      if client.platform = required then some (some (.client client)) else none

/-- The partner that has to sign a request. -/
def signer (b : PartnerBook) (e : GuardedRequest) : Option SigningClient :=
  match e.request.principal with
  | some (.client client) =>
    if e.request.method ∉ ["POST", "PUT", "DELETE", "PATCH"] then none
    else ((b.find? client.oauthClientId).map fun p =>
      ⟨p.row.oauthClientId, p.row.publicKeyPem, p.row.requireSignature⟩).filter
        SigningClient.requireSignature
  | _ => none

/-- The nonce a request uses up, if it has to be signed; `none` if its signature is refused. -/
def signed (b : PartnerBook) (e : GuardedRequest) : Option (Option String) :=
  match b.signer e with
  | none => some none
  | some client => ((checkSignature e.now e.request client).toOption.filter fun nonce =>
      (nonceExpiry e.now).isSome && nonce ∉ b.used).map some

/-- A signed request. -/
def use (b : PartnerBook) (nonce : Option String) : PartnerBook :=
  { b with used := nonce.toList ++ b.used }

def limited (b : PartnerBook) (req : GatewayRequest) (principal : Option Principal) :
    LimitedRequest :=
  req.limited principal ((limitedClient principal).bind fun clientId =>
    (b.find? clientId).map fun p => p.row.rateLimitPerMin)

def permits (b : PartnerBook) (req : GatewayRequest) (principal : Option Principal) : Bool :=
  (PermissionGuard.canActivate b.roles req.permission principal).isOk

/-- The request is counted, and admitted as long as its number is within the limit. -/
def count (b : PartnerBook) (req : GatewayRequest) (principal : Option Principal) :
    Option (Option Principal) × PartnerBook :=
  match requestWindow (b.limited req principal) with
  | none => (if b.permits req principal then some principal else none, b)
  | some k =>
    let within := ((b.counts k + 1 : Nat) : Int) ≤ limitOf (b.limited req principal)
    (if within ∧ b.permits req principal then some principal else none,
      { b with counts := counted b.counts k })

def receive (b : PartnerBook) (req : GatewayRequest) : Option (Option Principal) × PartnerBook :=
  match b.principal req with
  | none => (none, b)
  | some principal =>
    match b.signed (req.guarded principal) with
    | none => (none, b)
    | some nonce => (b.use nonce).count req principal

def step (b : PartnerBook) : GatewayOp → Option (Option Principal) × PartnerBook
  | .administer op => (none, { b with partners := b.partners.map fun p => p.after op })
  | .request req => b.receive req

def serve (b : PartnerBook) :
    List GatewayOp → List (Option (Option Principal)) × PartnerBook
  | [] => ([], b)
  | op :: ops =>
    let (answer, b) := b.step op
    let (answers, b) := serve b ops
    (answer :: answers, b)

end PartnerBook

/-! ## One guard at a time -/

/-- **The book of a state.** -/
structure BookOf {σ : Type} (W : WindowCounter (String × Int) Int σ) (store : RateLimitState → σ)
    (secrets : List String) (t : Int) (b : PartnerBook) (s : GatewayState) : Prop where
  clients : s.1.2.clients.rows = b.partners.map Partner.row
  known : ∀ p ∈ b.partners, ∀ secret, p.secret = some secret → secret ∈ secrets
  used : ∀ nonce, (∃ row ∈ s.2.nonces.rows, row.nonce = nonce) ↔ nonce ∈ b.used
  counts : W.Counts t b.counts (store s.2.limits)
  roles : s.1.1.roles = b.roles

/-- The secret a request presents is one of these. -/
def GatewayRequest.Presents (req : GatewayRequest) (secrets : List String) : Prop :=
  ∀ clientId secret, extractCredentials req.http = some (clientId, secret) → secret ∈ secrets

section

variable {σ : Type} {available : Bool} {W : WindowCounter (String × Int) Int σ}
  {store : RateLimitState → σ} {secrets : List String} {t : Int} {b : PartnerBook}
  {s : GatewayState}

omit [SignatureRuntime] in
theorem BookOf.find? (h : BookOf W store secrets t b s) (clientId : String) :
    s.1.2.clients.find? clientId = (b.find? clientId).map Partner.row := by
  unfold Table.find? PartnerBook.find?
  rw [h.clients, List.find?_map]
  rfl

omit [SignatureRuntime] in
/-- The first guard. -/
theorem BookOf.principal (h : BookOf W store secrets t b s) (hhashes : SecretHashes secrets)
    {req : GatewayRequest} (hpresents : req.Presents secrets) :
    (ClientSeparationGuard.canActivate s.1.2.applications req.sessionNow req.http).toOption =
      b.principal req := by
  unfold ClientSeparationGuard.canActivate PartnerBook.principal
  cases requiredPlatform req.http.path with
  | none => rfl
  | some required =>
    simp only
    cases (bearer req.http).filter (· ≠ "") with
    | some token =>
      simp only
      cases activateUser req.sessionNow required token <;> rfl
    | none =>
      simp only
      unfold activateClient
      cases hcreds : extractCredentials req.http with
      | none => rfl
      | some creds =>
        obtain ⟨clientId, secret⟩ := creds
        have hverify := verify_applications hhashes h.clients h.known clientId
          (hpresents clientId secret hcreds)
        simp only [orThrow, bind, Except.bind, hverify, Option.bind]
        cases Partner.verify b.partners clientId secret with
        | none => rfl
        | some client =>
          simp only [checkClient, throwWhen]
          by_cases hplatform : client.platform = required
          · simp [hplatform, Except.map, Except.toOption, pure, Except.pure]
          · simp [hplatform, Except.map, Except.toOption]

omit [SignatureRuntime] in
theorem BookOf.signer (h : BookOf W store secrets t b s) (e : GuardedRequest) :
    e.signer ⟨s.1.2.signers, s.2.nonces⟩ = b.signer e := by
  unfold GuardedRequest.signer PartnerBook.signer
  cases e.request.principal with
  | none => rfl
  | some principal =>
    cases principal with
    | user => rfl
    | client client =>
      simp only [ClientRegistry.signers, Table.find?_mapRows, h.find?, Option.map_map]
      rfl

omit [SignatureRuntime] in
/-- A nonce that is stored is used in the book. -/
theorem BookOf.use (h : BookOf W store secrets t b s) {nonce : String} {row : NonceUsage}
    {nonces : Table NonceUsage.nonce} (hrow : row.nonce = nonce)
    (hnonces : s.2.nonces.insert? row = some nonces) :
    BookOf W store secrets t (b.use (some nonce)) (s.1, { s.2 with nonces }) where
  clients := h.clients
  known := h.known
  used other := by
    show (∃ row ∈ nonces.rows, row.nonce = other) ↔ other ∈ nonce :: b.used
    rw [(Table.insert?_eq_some hnonces).1, List.mem_cons, ← h.used other]
    constructor
    · rintro ⟨r, hr, rfl⟩
      rcases List.mem_append.mp hr with hr | hr
      · exact .inr ⟨r, hr, rfl⟩
      · exact .inl (by rw [List.mem_singleton.mp hr, hrow])
    · rintro (rfl | ⟨r, hr, hother⟩)
      · exact ⟨row, List.mem_append_right _ (List.mem_singleton_self row), hrow⟩
      · exact ⟨r, List.mem_append_left _ hr, hother⟩
  counts := h.counts
  roles := h.roles

/-- The second guard: what it decides, and the nonce it stores. -/
theorem BookOf.signed (h : BookOf W store secrets t b s) (e : GuardedRequest) :
    (b.signed e = none ∧ ∃ error, e.call.run ⟨s.1.2.signers, s.2.nonces⟩ =
        (.error error, ⟨s.1.2.signers, s.2.nonces⟩)) ∨
      ∃ nonce ok nonces, b.signed e = some nonce ∧
        e.call.run ⟨s.1.2.signers, s.2.nonces⟩ = (.ok ok, ⟨s.1.2.signers, nonces⟩) ∧
        BookOf W store secrets t (b.use nonce) (s.1, { s.2 with nonces }) := by
  have hsigner := h.signer e
  have hended := e.run_canActivate ⟨s.1.2.signers, s.2.nonces⟩
  generalize hrun : e.call.run ⟨s.1.2.signers, s.2.nonces⟩ = out at hended
  unfold PartnerBook.signed
  rw [← hsigner]
  cases hended with
  | exempt hexempt =>
    rw [hexempt]
    exact .inr ⟨none, true, s.2.nonces, rfl, rfl, ⟨h.clients, h.known, h.used, h.counts, h.roles⟩⟩
  | refused hclient hcheck =>
    rw [hclient]
    simp only [hcheck]
    exact .inl ⟨rfl, _, rfl⟩
  | unstorable hclient hcheck hexpiry =>
    rw [hclient]
    simp only [hcheck, hexpiry]
    exact .inl ⟨rfl, _, rfl⟩
  | @replayed nonce hclaims hused =>
    obtain ⟨⟨client, hclient, hcheck⟩, hexpiry⟩ := hclaims
    have hmem : nonce ∈ b.used := (h.used nonce).mp hused
    rw [hclient]
    simp only [hcheck]
    exact .inl ⟨by simp [Except.toOption, hmem], _, rfl⟩
  | @used nonce row nonces hclaims hfree hrow hnonces =>
    obtain ⟨⟨client, hclient, hcheck⟩, hexpiry⟩ := hclaims
    have hmem : nonce ∉ b.used := fun hmem => hfree ((h.used nonce).mpr hmem)
    rw [hclient]
    simp only [hcheck]
    exact .inr ⟨some nonce, true, nonces, by simp [Except.toOption, hmem, hexpiry], rfl,
      h.use hrow hnonces⟩

omit [SignatureRuntime] in
theorem BookOf.limited (h : BookOf W store secrets t b s) (req : GatewayRequest)
    (principal : Option Principal) :
    req.limited principal (Gateway.limitRow s.1.2 principal) = b.limited req principal := by
  unfold Gateway.limitRow PartnerBook.limited
  simp only [h.find?, Option.map_map]
  rfl

omit [SignatureRuntime] in
/-- The last two guards: what they decide, and what is counted. -/
theorem BookOf.count (h : BookOf W store secrets t b s) (hcounts : CountsIn available W store)
    {req : GatewayRequest} (hle : t ≤ req.limitNow) (principal : Option Principal) :
    let out := Gateway.limitAndPermit available req principal s
    out.1.result.toOption = (b.count req principal).1 ∧
      ∃ t' ≤ req.limitNow, BookOf W store secrets t' (b.count req principal).2 out.2 := by
  intro out
  have hlimited := h.limited req principal
  have hpermits : (PermissionGuard.canActivate s.1.1.roles req.permission principal).isOk =
      b.permits req principal := by
    unfold PartnerBook.permits
    rw [h.roles]
  -- What remains once the limit is known to be kept or not.
  have hanswer (within : Bool) (response : RateLimitResponse) (limits : RateLimitState)
      (hout : RateLimitGuard.canActivate available (b.limited req principal) s.2.limits =
        (response, limits)) (hwithin : response.result.isOk = within) :
      out.1.result.toOption =
          (if within = true ∧ b.permits req principal = true then some principal else none) ∧
        out.2 = (s.1, { s.2 with limits }) := by
    unfold out Gateway.limitAndPermit
    simp only [hlimited, hout]
    cases hresult : response.result with
    | error e =>
      rw [hresult] at hwithin
      subst hwithin
      exact ⟨rfl, rfl⟩
    | ok passed =>
      rw [hresult] at hwithin
      subst hwithin
      simp only
      cases hpermission : PermissionGuard.canActivate s.1.1.roles req.permission principal with
      | error e =>
        rw [hpermission] at hpermits
        rw [← hpermits]
        exact ⟨rfl, rfl⟩
      | ok granted =>
        rw [hpermission] at hpermits
        rw [← hpermits]
        exact ⟨rfl, rfl⟩
  unfold PartnerBook.count
  cases hwindow : requestWindow (b.limited req principal) with
  | none =>
    have hfree : RateLimitGuard.canActivate available (b.limited req principal) s.2.limits =
        (⟨[], .ok true⟩, s.2.limits) := canActivate_free hwindow
    obtain ⟨hdecided, hstate⟩ := hanswer true _ _ hfree rfl
    refine ⟨by simpa using hdecided, t, hle, ?_⟩
    rw [hstate]
    exact h
  | some k =>
    have hle' : t ≤ (b.limited req principal).nowMs := hle
    obtain ⟨hpassed, hnext⟩ := canActivate_counted hcounts h.counts hle' hwindow
    rcases hout : RateLimitGuard.canActivate available (b.limited req principal) s.2.limits with
      ⟨response, limits⟩
    rw [hout] at hpassed hnext
    obtain ⟨hdecided, hstate⟩ := hanswer _ response limits hout rfl
    have hiff : response.result.isOk = true ↔
        ((b.counts k + 1 : Nat) : Int) ≤ limitOf (b.limited req principal) := hpassed
    refine ⟨by rw [hdecided]; simp only [hiff], req.limitNow, le_rfl, ?_⟩
    rw [hstate]
    exact ⟨h.clients, h.known, h.used, hnext, h.roles⟩

/-! ## Runs -/

/-- The secrets an operation presents or issues are among these. -/
def GatewayOp.Known (secrets : List String) : GatewayOp → Prop
  | .administer op => ∀ platform secret, op.issues platform = some secret → secret ∈ secrets
  | .request req => req.Presents secrets

/-- The requests of a run. -/
def requestsOf (ops : List GatewayOp) : List GatewayRequest :=
  ops.filterMap fun op => match op with
    | .administer _ => none
    | .request req => some req

omit [SignatureRuntime] in
theorem BookOf.administer (h : BookOf W store secrets t b s) {op : ClientOp}
    (hop : ∀ platform secret, op.issues platform = some secret → secret ∈ secrets) :
    BookOf W store secrets t { b with partners := b.partners.map fun p => p.after op }
      (op.step s.1, s.2) where
  clients := by
    rw [op.rows_step, h.clients, List.map_map, List.map_map]
    rfl
  known := by
    intro p' hp' secret hsecret
    obtain ⟨p, hp, rfl⟩ := List.mem_map.mp hp'
    rcases Option.or_eq_some_iff.mp hsecret with hissued | ⟨-, hkept⟩
    · exact hop _ secret hissued
    · exact h.known p hp secret hkept
  used := h.used
  counts := h.counts
  roles := (op.roles_step s.1).trans h.roles

/-- **One request**: it is admitted if and only if the book admits it, and the book goes on. -/
theorem BookOf.receive (h : BookOf W store secrets t b s) (hcounts : CountsIn available W store)
    (hhashes : SecretHashes secrets) {req : GatewayRequest} (hpresents : req.Presents secrets)
    (hle : t ≤ req.limitNow) :
    let out := Gateway.guards available req s
    out.1.result.toOption = (b.receive req).1 ∧
      ∃ t' ≤ req.limitNow, BookOf W store secrets t' (b.receive req).2 out.2 := by
  have hprincipal := h.principal hhashes hpresents
  unfold Gateway.guards PartnerBook.receive
  rw [← hprincipal]
  cases ClientSeparationGuard.canActivate s.1.2.applications req.sessionNow req.http with
  | error e => exact ⟨rfl, t, hle, h⟩
  | ok principal =>
    simp only [Except.toOption]
    rcases h.signed (req.guarded principal) with ⟨hrefused, error, hrun⟩ |
      ⟨nonce, ok, nonces, hsigned, hrun, hused⟩
    · simp only [hrefused, hrun]
      exact ⟨trivial, t, hle, ⟨h.clients, h.known, h.used, h.counts, h.roles⟩⟩
    · simp only [hsigned, hrun]
      exact hused.count hcounts hle principal

theorem BookOf.serve (hcounts : CountsIn available W store) (hhashes : SecretHashes secrets)
    {ops : List GatewayOp} (h : BookOf W store secrets t b s)
    (hknown : ∀ op ∈ ops, op.Known secrets) (hfrom : ∀ req ∈ requestsOf ops, t ≤ req.limitNow)
    (hsorted : (requestsOf ops).Pairwise fun a b => a.limitNow ≤ b.limitNow) :
    (Gateway.serve available s ops).1 = (b.serve ops).1 := by
  induction ops generalizing t b s with
  | nil => rfl
  | cons op ops ih =>
    obtain ⟨hop, hrest⟩ := List.forall_mem_cons.mp hknown
    cases op with
    | administer op => exact congrArg (none :: ·) (ih (h.administer hop) hrest hfrom hsorted)
    | request req =>
      obtain ⟨hle, hfrom⟩ := List.forall_mem_cons.mp hfrom
      obtain ⟨hlater, hsorted⟩ := List.pairwise_cons.mp hsorted
      obtain ⟨hadmitted, t', ht', hbook⟩ := h.receive hcounts hhashes hop hle
      exact congrArg₂ List.cons hadmitted
        (ih hbook hrest (fun r hr => ht'.trans (hlater r hr)) hsorted)

end

/-- The book to start with. -/
def PartnerBook.ofState (partners : List Partner) (s : GatewayState) : PartnerBook where
  partners := partners
  used := s.2.nonces.rows.map NonceUsage.nonce
  counts := fun _ => 0
  roles := s.1.1.roles

/-- **The gateway refines the book.** Whatever is requested and administered, and whether Redis is
available or not, the gateway admits what the book admits, as the principal the book admits. -/
theorem gateway_refines (available : Bool) {secrets : List String}
    (hhashes : SecretHashes secrets) {partners : List Partner} {s : GatewayState}
    (hclients : s.1.2.clients.rows = partners.map Partner.row)
    (hsecrets : ∀ p ∈ partners, ∀ secret, p.secret = some secret → secret ∈ secrets)
    (hlimits : s.2.limits = RateLimitService.start) {ops : List GatewayOp}
    (hknown : ∀ op ∈ ops, op.Known secrets)
    (hsorted : (requestsOf ops).Pairwise fun a b => a.limitNow ≤ b.limitNow) :
    (Gateway.serve available s ops).1 = ((PartnerBook.ofState partners s).serve ops).1 := by
  obtain ⟨t, hfrom⟩ : ∃ t : Int, ∀ req ∈ requestsOf ops, t ≤ req.limitNow := by
    obtain ⟨t, ht⟩ := exists_start ((requestsOf ops).map fun req => req.limited none none)
    exact ⟨t, fun req hreq => ht _ (List.mem_map_of_mem hreq)⟩
  have hbook {σ : Type} {W : WindowCounter (String × Int) Int σ} {store : RateLimitState → σ}
      (hcounts : CountsIn available W store) :
      BookOf W store secrets t (PartnerBook.ofState partners s) s :=
    { clients := hclients
      known := hsecrets
      used := fun _ => List.mem_map.symm
      counts := hlimits ▸ hcounts.started t
      roles := rfl }
  cases available with
  | true => exact (hbook redis_countsIn).serve redis_countsIn hhashes hknown hfrom hsorted
  | false => exact (hbook memory_countsIn).serve memory_countsIn hhashes hknown hfrom hsorted

end

/-! ## A rotation at the gateway -/

namespace Sample

attribute [local instance] Runtime.ascii secretRuntime signatureRuntime

def gatewayState : GatewayState :=
  ((World.empty, payChainRegistry), ⟨.empty _, RateLimitService.start⟩)

/-- PayChain reads its status. -/
def statusRequest (secret : String) (nowMs : Int) : GatewayOp :=
  .request
    { http := ⟨"/api/v1/paychain/status", none, some "client_paychain_demo", some secret⟩
      method := "GET"
      xTimestamp := none
      xNonce := none
      xSignature := none
      body := none
      permission := none
      sessionNow := nowMs
      signatureNow := nowMs
      limitNow := nowMs }

/-- Its secret is rotated in between, and its limit set to two. -/
def gatewayRun : List GatewayOp :=
  [statusRequest demoSecret 0] ++ rotation.map .administer ++
    [.administer (.setRateLimit "PAYCHAIN" 2 "operator"), statusRequest demoSecret 1000,
      statusRequest freshSecret 2000, statusRequest freshSecret 3000]

theorem statusRequest_known {secret : String} (h : secret ∈ [demoSecret, freshSecret])
    (nowMs : Int) : (statusRequest secret nowMs).Known [demoSecret, freshSecret] := by
  intro clientId presented hpresented
  have hcreds : extractCredentials ⟨"/api/v1/paychain/status", none, some "client_paychain_demo",
      some secret⟩ = some ("client_paychain_demo", secret) := by
    have hnonempty : ∀ s ∈ [demoSecret, freshSecret], s ≠ "" := by decide
    simp [extractCredentials, Option.filter, hnonempty secret h]
  obtain ⟨-, rfl⟩ := Prod.mk.inj (Option.some.inj (hcreds.symm.trans hpresented))
  exact h

theorem gatewayRun_known : ∀ op ∈ gatewayRun, op.Known [demoSecret, freshSecret] := by
  have hdemo := @statusRequest_known demoSecret List.mem_cons_self
  have hfresh := @statusRequest_known freshSecret (List.mem_cons_of_mem _ List.mem_cons_self)
  have hrotation (op : ClientOp) (hop : op ∈ rotation) :
      (GatewayOp.administer op).Known [demoSecret, freshSecret] := fresh_known op hop
  simp only [gatewayRun, List.forall_mem_append, List.forall_mem_cons, List.forall_mem_map]
  refine ⟨⟨⟨hdemo 0, by simp⟩, hrotation⟩, ?_, hdemo 1000, hfresh 2000, hfresh 3000, by simp⟩
  intro platform secret hissued
  cases hissued

/-- The old secret is refused from then on, and the new one is let in once more in this minute. -/
theorem gateway_refines_rotation :
    (Gateway.serve false gatewayState gatewayRun).1 =
      [some (some (.client payChainPartner.identity)), none, none, none,
        some (some (.client payChainPartner.identity)), none] := by
  have hbook : (Gateway.serve false gatewayState gatewayRun).1 =
      ((PartnerBook.ofState [payChainPartner] gatewayState).serve gatewayRun).1 :=
    gateway_refines false secretHashes payChainRegistry_rows demo_known rfl gatewayRun_known
      (by decide)
  exact hbook.trans (by decide)

end Sample

end TrusteeBank
