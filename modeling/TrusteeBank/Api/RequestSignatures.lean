import Mathlib.Algebra.Order.Floor.Ring
import Mathlib.Data.List.Forall2
import Mathlib.Data.Rat.Floor
import TrusteeBank.Api.ClientSeparation
import TrusteeBank.Lib.Interleave

/-!
# Signed requests

`RequestSignatureGuard` asks a client that signs its requests for a fresh timestamp, a nonce and a
signature over both, and stores the nonce. A nonce is the key of its row, whoever has used it: the
column of the client is not part of the key.

**State** (`SigningState`). The registered clients, and the nonces that were used.

* `run_canActivate`: what the guard decides, and what it stores;
* `mem_nonces_run`: the nonces stored after some requests are those the requests claim;
* `nonces_per_client_iff`: requests of other clients do not change what is decided for a client
  exactly when none of them claims, in one history and not in the other, a nonce before the client
  does; and within a client no nonce is accepted twice;
* `other_client_burns_nonce`: a client that uses the nonce of another first denies it its request.
-/

set_option autoImplicit false

namespace TrusteeBank

open Lib (Call Pool)

/-! ## The guard -/

/-- What the guard takes from the language and from the environment. -/
class SignatureRuntime where
  /-- `Number(text)`, `none` when it is not finite. -/
  number : String → Option ℚ
  /-- `MAX_REQUEST_SKEW_SECONDS`, 300 when unset, `none` when it is not a finite number. -/
  maxSkewSeconds : Option ℚ

/-- What the guard reads of a `ClientApplication`. -/
structure SigningClient where
  oauthClientId : String
  publicKeyPem : Option String
  requireSignature : Bool

structure NonceUsage where
  nonce : String
  clientId : String
  expiresAt : Int
deriving DecidableEq, Repr

structure SigningState where
  clients : Lib.Table SigningClient.oauthClientId
  nonces : Lib.Table NonceUsage.nonce

/-- What the guard reads of a request. -/
structure SignableRequest where
  principal : Option Principal
  method : String
  path : String
  xTimestamp : Option String
  xNonce : Option String
  xSignature : Option String
  body : Option JsValue

/-- The label of a step. -/
inductive SigningStep
  | findClient (oauthClientId : String)
  | createNonce (nonce : String)
deriving DecidableEq, Repr

/-- A header that is set and not empty. -/
def headerText (header : Option String) : Option String := header.filter fun text => text ≠ ""

/-- The time value `new Date` takes of a number: its integer part, in range. -/
def timeClip (ms : ℚ) : Option Int := newDate (some (if 0 ≤ ms then ⌊ms⌋ else ⌈ms⌉))

section

variable [Runtime] [AuthRuntime] [SignatureRuntime]

namespace RequestSignatureGuard

/-- `!Number.isFinite(tsMs) || Math.abs(nowMs - tsMs) > MAX_SKEW_SECONDS * 1000`. -/
def isStale (now : Int) (timestamp : String) : Bool :=
  match SignatureRuntime.number timestamp, SignatureRuntime.maxSkewSeconds with
  | none, _ => true
  | some _, none => false
  | some ts, some maxSkew => maxSkew * 1000 < |now - ts|

/-- `new Date(nowMs + NONCE_TTL_SECONDS * 1000)`, where a nonce lives a minute longer than the
skew. -/
def nonceExpiry (now : Int) : Option Int :=
  SignatureRuntime.maxSkewSeconds.bind fun maxSkew => timeClip (now + (maxSkew + 60) * 1000)

/-- What a client signs. -/
def signedSubject (req : SignableRequest) (clientId timestamp nonce : String) : JsValue :=
  .object [("method", .string req.method), ("path", .string req.path),
    ("clientId", .string clientId), ("timestamp", .string timestamp), ("nonce", .string nonce),
    ("bodyHash", .string (AuthRuntime.sha256Hex (canonicalize (req.body.getD (.object [])))))]

/-- The checks of a request that has to be signed; its nonce. -/
def checkSignature (now : Int) (req : SignableRequest) (client : SigningClient) :
    Except ApiError String := do
  let publicKeyPem ← orThrow (headerText client.publicKeyPem)
    (.forbidden "Signing required but no public key registered for client")
  let missing := ApiError.unauthorized "Missing X-Timestamp/X-Nonce/X-Signature"
  let timestamp ← orThrow (headerText req.xTimestamp) missing
  let nonce ← orThrow (headerText req.xNonce) missing
  let signature ← orThrow (headerText req.xSignature) missing
  throwWhen (isStale now timestamp) (.unauthorized "Stale or invalid request timestamp")
  let subject := signedSubject req client.oauthClientId timestamp nonce
  throwWhen (!verifyPayload publicKeyPem subject ⟨client.oauthClientId, "ed25519", signature⟩)
    (.unauthorized "Invalid request signature")
  return nonce

/-- Store a nonce. Whatever fails is reported as a replay. -/
def useNonce (now : Int) (nonce clientId : String) :
    Call SigningStep SigningState ApiError Unit :=
  Call.query (.createNonce nonce) fun s => do
    let replayed := ApiError.unauthorized "Replayed nonce"
    let expiresAt ← orThrow (nonceExpiry now) replayed
    let nonces ← orThrow (s.nonces.insert? ⟨nonce, clientId, expiresAt⟩) replayed
    return ((), { s with nonces })

def canActivate (now : Int) (req : SignableRequest) :
    Call SigningStep SigningState ApiError Bool :=
  match req.principal with
  | some (.client principal) =>
    if req.method ∉ ["POST", "PUT", "DELETE", "PATCH"] then return true
    else do
      let found ← Call.read (.findClient principal.oauthClientId)
        fun s => s.clients.find? principal.oauthClientId
      match found.filter SigningClient.requireSignature with
      | none => return true
      | some client =>
        let nonce ← checkSignature now req client
        useNonce now nonce client.oauthClientId
        return true
  | _ => return true

end RequestSignatureGuard

open RequestSignatureGuard

/-! ## Histories -/

/-- A request and the time the guard reads while serving it. -/
structure GuardedRequest where
  now : Int
  request : SignableRequest

namespace GuardedRequest

/-- The request is one of the client's. -/
def OfClient (e : GuardedRequest) (clientId : String) : Prop :=
  ∃ client, e.request.principal = some (.client client) ∧ client.oauthClientId = clientId

instance (e : GuardedRequest) (clientId : String) : Decidable (e.OfClient clientId) :=
  match h : e.request.principal with
  | some (.client client) => decidable_of_iff (client.oauthClientId = clientId) (by
      simp [OfClient, h])
  | some (.user user) => isFalse (by simp [OfClient, h])
  | none => isFalse (by simp [OfClient, h])

def call (e : GuardedRequest) : Call SigningStep SigningState ApiError Bool :=
  canActivate e.now e.request

/-- Decide on the request alone. -/
def step (s : SigningState) (e : GuardedRequest) : SigningState := (e.call.run s).2

def decision (s : SigningState) (e : GuardedRequest) : Except ApiError Bool := (e.call.run s).1

/-- The registration by which a request has to be signed, if it has to be. -/
def signer (s : SigningState) (e : GuardedRequest) : Option SigningClient :=
  match e.request.principal with
  | some (.client principal) =>
    if e.request.method ∉ ["POST", "PUT", "DELETE", "PATCH"] then none
    else (s.clients.find? principal.oauthClientId).filter SigningClient.requireSignature
  | _ => none

/-- The request has to be signed, and its nonce is this one. -/
def Signs (s : SigningState) (e : GuardedRequest) (nonce : String) : Prop :=
  (e.signer s).isSome ∧ e.request.xNonce = some nonce

/-- The request passes the checks before its nonce is looked at, so that it uses the nonce up. -/
def Claims (s : SigningState) (e : GuardedRequest) (nonce : String) : Prop :=
  (∃ client, e.signer s = some client ∧ checkSignature e.now e.request client = .ok nonce) ∧
    (nonceExpiry e.now).isSome

end GuardedRequest

/-- The nonce has a row. -/
def SigningState.Used (s : SigningState) (nonce : String) : Prop :=
  ∃ row ∈ s.nonces.rows, row.nonce = nonce

instance (s : SigningState) (nonce : String) : Decidable (s.Used nonce) := by
  unfold SigningState.Used
  infer_instance

/-- The decisions on the requests of a client, in the order of the history. -/
def decisionsFor (clientId : String) : SigningState → List GuardedRequest →
    List (Except ApiError Bool)
  | _, [] => []
  | s, e :: es =>
    if e.OfClient clientId then e.decision s :: decisionsFor clientId (e.step s) es
    else decisionsFor clientId (e.step s) es

/-! ## One request -/

/-- How the guard ends. -/
inductive Outcome (s : SigningState) (e : GuardedRequest) :
    Except ApiError Bool × SigningState → Prop
  | exempt (h : e.signer s = none) : Outcome s e (.ok true, s)
  | refused {client : SigningClient} {error : ApiError} (h : e.signer s = some client)
      (hcheck : checkSignature e.now e.request client = .error error) :
      Outcome s e (.error error, s)
  | unstorable {client : SigningClient} {nonce : String} (h : e.signer s = some client)
      (hcheck : checkSignature e.now e.request client = .ok nonce)
      (hexpiry : nonceExpiry e.now = none) :
      Outcome s e (.error (.unauthorized "Replayed nonce"), s)
  | replayed {nonce : String} (h : e.Claims s nonce) (hused : s.Used nonce) :
      Outcome s e (.error (.unauthorized "Replayed nonce"), s)
  | used {nonce : String} {row : NonceUsage} {t : Lib.Table NonceUsage.nonce}
      (h : e.Claims s nonce) (hfree : ¬s.Used nonce) (hrow : row.nonce = nonce)
      (ht : s.nonces.insert? row = some t) : Outcome s e (.ok true, { s with nonces := t })

omit [Runtime] [AuthRuntime] [SignatureRuntime] in
theorem used_iff {s : SigningState} {nonce : String} :
    s.Used nonce ↔ (s.nonces.find? nonce).isSome := by
  cases h : s.nonces.find? nonce with
  | none =>
    simp only [Option.isSome_none, Bool.false_eq_true, iff_false]
    rintro ⟨row, hrow, hnonce⟩
    exact Lib.Table.find?_eq_none.mp h row hrow hnonce
  | some row =>
    simp only [Option.isSome_some, iff_true]
    exact ⟨row, Lib.Table.mem_of_find? h, Lib.Table.key_of_find? h⟩

omit [Runtime] [AuthRuntime] in
/-- What a request that passed the checks does. -/
theorem run_useNonce (now : Int) (nonce clientId : String) (s : SigningState) :
    (useNonce now nonce clientId).run s = match nonceExpiry now with
      | none => (.error (.unauthorized "Replayed nonce"), s)
      | some expiresAt => match s.nonces.insert? ⟨nonce, clientId, expiresAt⟩ with
        | none => (.error (.unauthorized "Replayed nonce"), s)
        | some t => (.ok (), { s with nonces := t }) := by
  unfold useNonce
  rw [Call.run_query]
  cases nonceExpiry now with
  | none => rfl
  | some expiresAt =>
    cases hinsert : s.nonces.insert? ⟨nonce, clientId, expiresAt⟩ <;>
      simp [orThrow, hinsert, bind, Except.bind, pure, Except.pure]

namespace GuardedRequest

/-- The guard, once it knows who has to sign. -/
theorem run_call (s : SigningState) (e : GuardedRequest) :
    e.call.run s = match e.signer s with
      | none => (.ok true, s)
      | some client => match checkSignature e.now e.request client with
        | .error error => (.error error, s)
        | .ok nonce => match (useNonce e.now nonce client.oauthClientId).run s with
          | (.ok (), s') => (.ok true, s')
          | (.error error, s') => (.error error, s') := by
  unfold call canActivate signer
  cases e.request.principal with
  | none => rfl
  | some principal =>
    cases principal with
    | user => rfl
    | client principal =>
      simp only
      by_cases hmethod : e.request.method ∉ ["POST", "PUT", "DELETE", "PATCH"]
      · rw [if_pos hmethod, if_pos hmethod]
        rfl
      · rw [if_neg hmethod, if_neg hmethod, Call.run_read_bind]
        cases (s.clients.find? principal.oauthClientId).filter SigningClient.requireSignature with
        | none => rfl
        | some client =>
          simp only
          rw [Call.run_lift_bind]
          cases checkSignature e.now e.request client with
          | error error => rfl
          | ok nonce =>
            simp only
            rw [Call.run_bind]
            rcases (useNonce e.now nonce client.oauthClientId).run s with ⟨_ | _, s'⟩ <;> rfl

/-- **Every request ends in one of the five ways.** -/
theorem run_canActivate (s : SigningState) (e : GuardedRequest) : Outcome s e (e.call.run s) := by
  rw [run_call]
  cases hsigner : e.signer s with
  | none => exact .exempt hsigner
  | some client =>
    simp only
    cases hcheck : checkSignature e.now e.request client with
    | error error => exact .refused hsigner hcheck
    | ok nonce =>
      simp only
      rw [run_useNonce]
      cases hexpiry : nonceExpiry e.now with
      | none => exact .unstorable hsigner hcheck hexpiry
      | some expiresAt =>
        simp only
        have hclaims : e.Claims s nonce := ⟨⟨client, hsigner, hcheck⟩, by rw [hexpiry]; rfl⟩
        cases hinsert : s.nonces.insert? ⟨nonce, client.oauthClientId, expiresAt⟩ with
        | none =>
          exact .replayed hclaims (Lib.Table.insert?_eq_none hinsert)
        | some t =>
          have hfree := (Lib.Table.insert?_eq_some hinsert).2
          refine .used hclaims (fun hused => ?_) rfl hinsert
          rw [used_iff, hfree] at hused
          cases hused

/-- The signer, and so what is claimed, depends on the registered clients only. -/
theorem Claims.congr {s s' : SigningState} (h : s'.clients = s.clients) {e : GuardedRequest}
    {nonce : String} : e.Claims s' nonce ↔ e.Claims s nonce := by
  unfold Claims signer
  rw [h]

/-- A request claims at most one nonce. -/
theorem Claims.unique {s : SigningState} {e : GuardedRequest} {m n : String} (hm : e.Claims s m)
    (hn : e.Claims s n) : m = n := by
  obtain ⟨⟨client, hsigner, hcheck⟩, -⟩ := hm
  obtain ⟨⟨client', hsigner', hcheck'⟩, -⟩ := hn
  cases hsigner.symm.trans hsigner'
  exact Except.ok.inj (hcheck.symm.trans hcheck')

/-- The guard leaves the registrations alone. -/
theorem clients_step (s : SigningState) (e : GuardedRequest) : (e.step s).clients = s.clients := by
  have h := run_canActivate s e
  unfold step
  generalize e.call.run s = out at h
  cases h <;> rfl

/-- **A request uses the nonce it claims**, and no other. -/
theorem used_step (s : SigningState) (e : GuardedRequest) (nonce : String) :
    (e.step s).Used nonce ↔ s.Used nonce ∨ e.Claims s nonce := by
  have h := run_canActivate s e
  unfold step
  generalize e.call.run s = out at h
  cases h with
  | exempt hsigner =>
    refine ⟨.inl, fun h => h.resolve_right ?_⟩
    rintro ⟨⟨client, hclient, -⟩, -⟩
    cases hsigner.symm.trans hclient
  | refused hsigner hcheck =>
    refine ⟨.inl, fun h => h.resolve_right ?_⟩
    rintro ⟨⟨client, hclient, hok⟩, -⟩
    cases hsigner.symm.trans hclient
    exact error_ne_ok (hcheck.symm.trans hok)
  | unstorable _ _ hexpiry =>
    refine ⟨.inl, fun h => h.resolve_right ?_⟩
    rintro ⟨-, hsome⟩
    rw [hexpiry] at hsome
    cases hsome
  | replayed hclaims hused =>
    refine ⟨.inl, fun h => h.elim id fun hother => ?_⟩
    exact hclaims.unique hother ▸ hused
  | @used nonce' row t hclaims _ hrow ht =>
    have hrows := (Lib.Table.insert?_eq_some ht).1
    show (∃ r ∈ t.rows, r.nonce = nonce) ↔ _
    simp only [hrows, List.mem_append, List.mem_singleton, or_and_right, exists_or,
      exists_eq_left, hrow]
    refine or_congr Iff.rfl ⟨?_, fun hother => hclaims.unique hother⟩
    rintro rfl
    exact hclaims

/-- What the guard decides. -/
theorem decision_eq (s : SigningState) (e : GuardedRequest) :
    e.decision s = match e.signer s with
      | none => .ok true
      | some client => match checkSignature e.now e.request client with
        | .error error => .error error
        | .ok nonce =>
          if (nonceExpiry e.now).isSome ∧ ¬s.Used nonce then .ok true
          else .error (.unauthorized "Replayed nonce") := by
  unfold decision
  have h := run_canActivate s e
  generalize e.call.run s = out at h
  cases h with
  | exempt hsigner => rw [hsigner]
  | refused hsigner hcheck => simp only [hsigner, hcheck]
  | unstorable hsigner hcheck hexpiry => simp [hsigner, hcheck, hexpiry]
  | replayed hclaims hused =>
    obtain ⟨⟨client, hsigner, hcheck⟩, -⟩ := hclaims
    simp [hsigner, hcheck, hused]
  | used hclaims hfree =>
    obtain ⟨⟨client, hsigner, hcheck⟩, hexpiry⟩ := hclaims
    simp [hsigner, hcheck, hfree, hexpiry]

/-- A request that claims a nonce is admitted exactly when the nonce is new. -/
theorem decision_of_claims {s : SigningState} {e : GuardedRequest} {nonce : String}
    (hclaims : e.Claims s nonce) : e.decision s =
      if s.Used nonce then .error (.unauthorized "Replayed nonce") else .ok true := by
  obtain ⟨⟨client, hsigner, hcheck⟩, hexpiry⟩ := hclaims
  simp only [decision_eq, hsigner, hcheck, hexpiry, true_and, ite_not]

/-- On a request that claims no nonce the guard decides by the registrations alone. -/
theorem decision_of_not_claims {s s' : SigningState} (hclients : s'.clients = s.clients)
    {e : GuardedRequest} (hnone : ∀ nonce, ¬e.Claims s nonce) : e.decision s' = e.decision s := by
  have hsigner : e.signer s' = e.signer s := by
    unfold signer
    rw [hclients]
  rw [decision_eq, decision_eq, hsigner]
  cases hclient : e.signer s with
  | none => rfl
  | some client =>
    cases hcheck : checkSignature e.now e.request client with
    | error error => simp only [hcheck]
    | ok nonce =>
      have hexpiry : ¬(nonceExpiry e.now).isSome := fun h =>
        hnone nonce ⟨⟨client, hclient, hcheck⟩, h⟩
      simp [hcheck, hexpiry]

/-- **When two states decide alike**: when they agree on the nonce the request claims. -/
theorem decision_eq_iff {s s' : SigningState} (hclients : s'.clients = s.clients)
    (e : GuardedRequest) : e.decision s' = e.decision s ↔
      ∀ nonce, e.Claims s nonce → (s'.Used nonce ↔ s.Used nonce) := by
  by_cases hclaims : ∃ nonce, e.Claims s nonce
  · obtain ⟨nonce, hclaims⟩ := hclaims
    have hiff : (∀ n, e.Claims s n → (s'.Used n ↔ s.Used n)) ↔ (s'.Used nonce ↔ s.Used nonce) := by
      refine ⟨fun hall => hall nonce hclaims, fun hone n hn => ?_⟩
      rw [← hclaims.unique hn]
      exact hone
    rw [hiff, decision_of_claims hclaims, decision_of_claims ((Claims.congr hclients).mpr hclaims)]
    by_cases hused : s.Used nonce <;> by_cases hused' : s'.Used nonce <;> simp [hused, hused']
  · have hnone := not_exists.mp hclaims
    refine ⟨fun _ nonce h => absurd h (hnone nonce), fun _ => ?_⟩
    exact decision_of_not_claims hclients hnone

end GuardedRequest

/-! ## Two histories -/

section

variable {clientId : String}

/-- The requests of a client, each with the requests before it. -/
def occurrences (clientId : String) : List GuardedRequest → List GuardedRequest →
    List (List GuardedRequest × GuardedRequest)
  | _, [] => []
  | past, e :: es =>
    if e.OfClient clientId then (past, e) :: occurrences clientId (past ++ [e]) es
    else occurrences clientId (past ++ [e]) es

theorem clients_run (s : SigningState) (es : List GuardedRequest) :
    (es.foldl GuardedRequest.step s).clients = s.clients := by
  induction es generalizing s with
  | nil => rfl
  | cons e es ih => exact (ih (e.step s)).trans (e.clients_step s)

/-- **The nonces stored after some requests**: those stored before, and those the requests
claim. -/
theorem mem_nonces_run (s : SigningState) (es : List GuardedRequest) (nonce : String) :
    (es.foldl GuardedRequest.step s).Used nonce ↔
      s.Used nonce ∨ ∃ e ∈ es, e.Claims s nonce := by
  induction es generalizing s with
  | nil => simp
  | cons e es ih =>
    have hclaims (e' : GuardedRequest) : e'.Claims (e.step s) nonce ↔ e'.Claims s nonce :=
      GuardedRequest.Claims.congr (e.clients_step s)
    rw [List.foldl_cons, ih, e.used_step]
    simp only [hclaims, List.exists_mem_cons_iff, or_assoc]

theorem decisionsFor_eq (clientId : String) (s : SigningState) (past es : List GuardedRequest) :
    decisionsFor clientId (past.foldl GuardedRequest.step s) es =
      (occurrences clientId past es).map fun o =>
        o.2.decision (o.1.foldl GuardedRequest.step s) := by
  induction es generalizing past with
  | nil => rfl
  | cons e es ih =>
    have hnext := ih (past ++ [e])
    rw [List.foldl_append, List.foldl_cons, List.foldl_nil] at hnext
    unfold decisionsFor occurrences
    by_cases he : e.OfClient clientId
    · rw [if_pos he, if_pos he, List.map_cons, hnext]
    · rw [if_neg he, if_neg he, hnext]

omit [Runtime] [AuthRuntime] [SignatureRuntime] in
/-- What a client did before each of its requests depends on its requests only. -/
theorem occurrences_own (clientId : String) (past es : List GuardedRequest) :
    ((occurrences clientId past es).map fun o => (o.1.filter (·.OfClient clientId), o.2)) =
      occurrences clientId (past.filter (·.OfClient clientId))
        (es.filter (·.OfClient clientId)) := by
  induction es generalizing past with
  | nil => rfl
  | cons e es ih =>
    have hnext := ih (past ++ [e])
    by_cases he : e.OfClient clientId
    · rw [List.filter_append, List.filter_cons_of_pos (by simpa using he), List.filter_nil] at hnext
      rw [List.filter_cons_of_pos (by simpa using he)]
      unfold occurrences
      rw [if_pos he, if_pos he, List.map_cons, hnext]
    · rw [List.filter_append, List.filter_cons_of_neg (by simpa using he), List.filter_nil,
        List.append_nil] at hnext
      rw [List.filter_cons_of_neg (by simpa using he), ← hnext, occurrences, if_neg he]

/-- A request of another client claims the nonce. -/
def ClaimedByOther (s : SigningState) (clientId : String) (es : List GuardedRequest)
    (nonce : String) : Prop :=
  ∃ e ∈ es, ¬e.OfClient clientId ∧ e.Claims s nonce

def ClaimedByOwn (s : SigningState) (clientId : String) (es : List GuardedRequest)
    (nonce : String) : Prop :=
  ∃ e ∈ es, e.OfClient clientId ∧ e.Claims s nonce

/-- A nonce the client claims for the first time was claimed by another client before in both
histories or in neither. -/
def SameRivals (s : SigningState) (clientId : String)
    (o o' : List GuardedRequest × GuardedRequest) : Prop :=
  ∀ nonce, o.2.Claims s nonce → ¬s.Used nonce → ¬ClaimedByOwn s clientId o.1 nonce →
    (ClaimedByOther s clientId o.1 nonce ↔ ClaimedByOther s clientId o'.1 nonce)

theorem claimed_iff (clientId : String) (s : SigningState) (es : List GuardedRequest)
    (nonce : String) :
    (∃ e ∈ es, e.Claims s nonce) ↔
      ClaimedByOwn s clientId es nonce ∨ ClaimedByOther s clientId es nonce := by
  unfold ClaimedByOwn ClaimedByOther
  constructor
  · rintro ⟨e, he, hclaims⟩
    by_cases hown : e.OfClient clientId
    · exact .inl ⟨e, he, hown, hclaims⟩
    · exact .inr ⟨e, he, hown, hclaims⟩
  · rintro (⟨e, he, -, hclaims⟩ | ⟨e, he, -, hclaims⟩) <;> exact ⟨e, he, hclaims⟩

theorem ClaimedByOwn.congr {s : SigningState} {es es' : List GuardedRequest} {nonce : String}
    (h : es.filter (·.OfClient clientId) = es'.filter (·.OfClient clientId)) :
    ClaimedByOwn s clientId es nonce ↔ ClaimedByOwn s clientId es' nonce := by
  have hfilter (es : List GuardedRequest) : ClaimedByOwn s clientId es nonce ↔
      ∃ e ∈ es.filter (·.OfClient clientId), e.Claims s nonce := by
    simp [ClaimedByOwn, and_assoc]
  rw [hfilter, hfilter, h]

/-- **One request in two histories** is decided alike exactly when it has the same rivals. -/
theorem decision_iff_sameRivals (s : SigningState)
    {o o' : List GuardedRequest × GuardedRequest} (hsame : o.2 = o'.2)
    (hown : o.1.filter (·.OfClient clientId) = o'.1.filter (·.OfClient clientId)) :
    o.2.decision (o.1.foldl GuardedRequest.step s) =
        o'.2.decision (o'.1.foldl GuardedRequest.step s) ↔ SameRivals s clientId o o' := by
  have hclients : (o.1.foldl GuardedRequest.step s).clients =
      (o'.1.foldl GuardedRequest.step s).clients :=
    (clients_run s o.1).trans (clients_run s o'.1).symm
  rw [hsame, GuardedRequest.decision_eq_iff hclients]
  unfold SameRivals
  refine forall_congr' fun nonce => ?_
  rw [GuardedRequest.Claims.congr (clients_run s o'.1), hsame]
  refine imp_congr_right fun _ => ?_
  rw [mem_nonces_run, mem_nonces_run, claimed_iff clientId,
    claimed_iff clientId, ClaimedByOwn.congr hown]
  tauto

/-- **The decisions for a client** are the same in two histories exactly when its requests have
the same rivals in both. -/
theorem decisionsFor_iff (s : SigningState) {es es' : List GuardedRequest}
    (hown : es.filter (·.OfClient clientId) = es'.filter (·.OfClient clientId)) :
    decisionsFor clientId s es = decisionsFor clientId s es' ↔
      List.Forall₂ (SameRivals s clientId) (occurrences clientId [] es)
        (occurrences clientId [] es') := by
  have hshape := (occurrences_own clientId [] es).trans
    ((congrArg (occurrences clientId []) hown).trans (occurrences_own clientId [] es').symm)
  have hdecisions := decisionsFor_eq clientId s []
  simp only [List.foldl_nil] at hdecisions
  rw [hdecisions, hdecisions]
  clear hdecisions
  generalize occurrences clientId [] es = os at hshape
  generalize occurrences clientId [] es' = os' at hshape
  induction os generalizing os' with
  | nil =>
    cases os' with
    | nil => simp
    | cons => simp at hshape
  | cons o os ih =>
    cases os' with
    | nil => simp at hshape
    | cons o' os' =>
      simp only [List.map_cons, List.cons.injEq, Prod.mk.injEq] at hshape
      obtain ⟨⟨hpast, hsame⟩, hrest⟩ := hshape
      rw [List.map_cons, List.map_cons, List.cons.injEq, List.forall₂_cons]
      exact and_congr (decision_iff_sameRivals s hsame hpast) (ih os' hrest)

end

/-! ## At the same time -/

section

variable {ι : Type} [DecidableEq ι]

/-- Requests served at the same time. -/
def guardPool (s : SigningState) (requests : ι → GuardedRequest) :
    Pool ι SigningStep SigningState ApiError Bool :=
  Pool.start s fun i => (requests i).call

/-- How far a request is: it need not be signed, it is being checked, or its nonce is stored. -/
inductive NoncePhase
  | exempt
  | checking
  | stored (nonce : String)

def GuardedRequest.phase (s : SigningState) (e : GuardedRequest) : NoncePhase :=
  if (e.signer s).isSome then .checking else .exempt

/-- The moves of a request: it stores its nonce, which is new, or it changes nothing. -/
inductive NonceMove (e : GuardedRequest) :
    NoncePhase → SigningStep → SigningState → SigningState → NoncePhase → Prop
  | idle {φ : NoncePhase} {q : SigningStep} {s : SigningState} : NonceMove e φ q s s φ
  | stored {q : SigningStep} {s s' : SigningState} {nonce : String}
      (hnonce : e.request.xNonce = some nonce) (hclients : s'.clients = s.clients)
      (hfree : ¬s.Used nonce) (hused : ∀ n, s'.Used n ↔ s.Used n ∨ nonce = n) :
      NonceMove e .checking q s s' (.stored nonce)

/-- A request that is admitted is exempt or has stored its nonce. -/
def Admits (φ : NoncePhase) (result : Except ApiError Bool) : Prop :=
  result = .ok true → φ ≠ .checking

omit [Runtime] [AuthRuntime] [SignatureRuntime] in
theorem headerText_eq_some {header : Option String} {text : String}
    (h : headerText header = some text) : header = some text :=
  (Option.filter_eq_some_iff.mp h).1

/-- The nonce that passes the checks is the nonce of the request. -/
theorem checkSignature_nonce {now : Int} {req : SignableRequest} {client : SigningClient}
    {nonce : String} (h : checkSignature now req client = .ok nonce) : req.xNonce = some nonce := by
  unfold checkSignature at h
  obtain ⟨pem, -, h⟩ := bind_eq_ok.mp h
  obtain ⟨timestamp, -, h⟩ := bind_eq_ok.mp h
  obtain ⟨nonce', hnonce, h⟩ := bind_eq_ok.mp h
  obtain ⟨signature, -, h⟩ := bind_eq_ok.mp h
  obtain ⟨_, -, h⟩ := bind_eq_ok.mp h
  obtain ⟨_, -, h⟩ := bind_eq_ok.mp h
  cases h
  exact headerText_eq_some (orThrow_eq_ok.mp hnonce)

omit [Runtime] [AuthRuntime] [SignatureRuntime] in
theorem admits_error (φ : NoncePhase) (error : ApiError) : Admits φ (.error error) := by
  intro h
  cases h

omit [Runtime] [AuthRuntime] in
/-- **A request that passed the checks** stores its nonce if it is new. -/
theorem useNonce_obeys {J : SigningState → Prop} {e : GuardedRequest} {nonce clientId : String}
    (hnonce : e.request.xNonce = some nonce) :
    (useNonce e.now nonce clientId >>= fun _ => return true).Obeys (NonceMove e) J Admits
      .checking := by
  refine Call.Obeys.query_bind ?_ fun s error _ _ => ⟨.checking, .idle, admits_error _ error⟩
  intro s u s' _ hstored
  obtain ⟨expiresAt, -, hstored⟩ := bind_eq_ok.mp hstored
  obtain ⟨t, ht, hstored⟩ := bind_eq_ok.mp hstored
  cases hstored
  obtain ⟨hrows, hfree⟩ := Lib.Table.insert?_eq_some (orThrow_eq_ok.mp ht)
  refine ⟨.stored nonce, .stored hnonce rfl ?_ fun n => ?_, fun _ h => by cases h⟩
  · rw [used_iff, hfree]
    exact Bool.false_ne_true
  · show (∃ r ∈ t.rows, r.nonce = n) ↔ _
    simp only [hrows, List.mem_append, List.mem_singleton, or_and_right, exists_or,
      exists_eq_left]
    exact Iff.rfl

/-- **Every request keeps to the protocol.** -/
theorem call_obeys (s₀ : SigningState) (e : GuardedRequest) :
    e.call.Obeys (NonceMove e) (fun s => s.clients = s₀.clients) Admits (e.phase s₀) := by
  have hexempt (h : e.signer s₀ = none) : Admits (e.phase s₀) (.ok true) := by
    rintro - hphase
    unfold GuardedRequest.phase at hphase
    rw [h] at hphase
    cases hphase
  unfold GuardedRequest.call canActivate
  cases hprincipal : e.request.principal with
  | none => exact hexempt (by simp [GuardedRequest.signer, hprincipal])
  | some principal =>
    cases principal with
    | user => exact hexempt (by simp [GuardedRequest.signer, hprincipal])
    | client principal =>
      simp only
      by_cases hmethod : e.request.method ∉ ["POST", "PUT", "DELETE", "PATCH"]
      · rw [if_pos hmethod]
        refine hexempt ?_
        simp only [GuardedRequest.signer, hprincipal]
        exact if_pos hmethod
      rw [if_neg hmethod]
      refine Call.Obeys.read_bind fun s hs => ⟨e.phase s₀, .idle, ?_⟩
      have hsigner : e.signer s₀ =
          (s.clients.find? principal.oauthClientId).filter SigningClient.requireSignature := by
        simp only [GuardedRequest.signer, hprincipal, hs]
        exact if_neg hmethod
      cases hfound : (s.clients.find? principal.oauthClientId).filter
          SigningClient.requireSignature with
      | none => exact hexempt (hsigner.trans hfound)
      | some client =>
        have hphase : e.phase s₀ = .checking := by
          unfold GuardedRequest.phase
          rw [hsigner, hfound]
          rfl
        rw [hphase]
        refine Call.Obeys.lift_bind (fun error _ => admits_error _ error) fun nonce hcheck => ?_
        exact useNonce_obeys (checkSignature_nonce hcheck)

/-- What the phases say: who is exempt, which nonces are stored, and that no two requests have
stored the same. -/
structure NoncesApart (s₀ : SigningState) (requests : ι → GuardedRequest)
    (p : Pool ι SigningStep SigningState ApiError Bool) (φ : ι → NoncePhase) : Prop where
  clients : p.state.clients = s₀.clients
  exempt : ∀ i, φ i = .exempt → (requests i).signer s₀ = none
  own : ∀ i nonce, φ i = .stored nonce → (requests i).request.xNonce = some nonce
  used : ∀ i nonce, φ i = .stored nonce → p.state.Used nonce
  apart : ∀ i j nonce, φ i = .stored nonce → φ j = .stored nonce → i = j

omit [Runtime] [AuthRuntime] [SignatureRuntime] in
/-- A move of a request keeps the nonces apart. -/
theorem NoncesApart.move {s₀ : SigningState} {requests : ι → GuardedRequest}
    {p p' : Pool ι SigningStep SigningState ApiError Bool} {φ : ι → NoncePhase}
    (h : NoncesApart s₀ requests p φ) {i : ι} {q : SigningStep} {φ' : NoncePhase}
    (hmove : NonceMove (requests i) (φ i) q p.state p'.state φ') :
    NoncesApart s₀ requests p' (Function.update φ i φ') := by
  generalize hphase : φ i = phase at hmove
  generalize hbefore : p.state = before at hmove
  generalize hafter : p'.state = after at hmove
  cases hmove with
  | idle =>
    have hsame : Function.update φ i φ' = φ := by
      rw [← hphase, Function.update_eq_self]
    have hstate : p'.state = p.state := hafter.trans hbefore.symm
    rw [hsame]
    refine ⟨?_, h.exempt, h.own, ?_, h.apart⟩
    · rw [hstate]
      exact h.clients
    · rw [hstate]
      exact h.used
  | @stored _ _ _ nonce hnonce hclients hfree hused =>
    rw [← hbefore, ← hafter] at hclients hused
    rw [← hbefore] at hfree
    have hold (j : ι) (n : String) (hj : φ j = .stored n) : n ≠ nonce := by
      rintro rfl
      exact hfree (h.used j n hj)
    constructor
    · exact hclients.trans h.clients
    · intro j hj
      rcases Lib.update_cases φ i (.stored nonce) j with ⟨-, hupdate⟩ | ⟨-, hupdate⟩
      · cases hupdate.symm.trans hj
      · exact h.exempt j (hupdate ▸ hj)
    · intro j n hj
      rcases Lib.update_cases φ i (.stored nonce) j with ⟨rfl, hupdate⟩ | ⟨-, hupdate⟩
      · cases hupdate.symm.trans hj
        exact hnonce
      · exact h.own j n (hupdate ▸ hj)
    · intro j n hj
      rcases Lib.update_cases φ i (.stored nonce) j with ⟨-, hupdate⟩ | ⟨-, hupdate⟩
      · cases hupdate.symm.trans hj
        exact (hused nonce).mpr (.inr rfl)
      · exact (hused n).mpr (.inl (h.used j n (hupdate ▸ hj)))
    · intro j k n hj hk
      rcases Lib.update_cases φ i (.stored nonce) j with ⟨hji, hj'⟩ | ⟨-, hj'⟩ <;>
        rcases Lib.update_cases φ i (.stored nonce) k with ⟨hki, hk'⟩ | ⟨-, hk'⟩
      · rw [hji, hki]
      · cases hj'.symm.trans hj
        exact absurd rfl (hold k nonce (hk' ▸ hk))
      · cases hk'.symm.trans hk
        exact absurd rfl (hold j nonce (hj' ▸ hj))
      · exact h.apart j k n (hj' ▸ hj) (hk' ▸ hk)

omit [DecidableEq ι] in
theorem NoncesApart.start (s : SigningState) (requests : ι → GuardedRequest) :
    NoncesApart s requests (guardPool s requests) fun i => (requests i).phase s := by
  have hstored (e : GuardedRequest) (nonce : String) : e.phase s ≠ .stored nonce := by
    unfold GuardedRequest.phase
    split_ifs <;> intro h <;> cases h
  refine ⟨rfl, fun i hi => ?_, fun i n hi => absurd hi (hstored _ n),
    fun i n hi => absurd hi (hstored _ n), fun i j n hi => absurd hi (hstored _ n)⟩
  cases hsigner : (requests i).signer s with
  | none => rfl
  | some client =>
    simp only [GuardedRequest.phase, hsigner, Option.isSome_some, if_true] at hi
    cases hi

/-- **No nonce is accepted twice**, whatever steps the requests take in whatever order. -/
theorem accepted_once (s : SigningState) (requests : ι → GuardedRequest) (schedule : List ι)
    {i j : ι} {nonce : String} (hi : (requests i).Signs s nonce) (hj : (requests j).Signs s nonce)
    (hdone : ((guardPool s requests).exec schedule).calls i = .done (.ok true))
    (hdone' : ((guardPool s requests).exec schedule).calls j = .done (.ok true)) : i = j := by
  obtain ⟨φ, hapart, hobey⟩ := Pool.inv_exec (fun _ _ h => h.clients)
    (fun p φ i q eff next φ' hinv _ _ hcall hmove _ =>
      hinv.move ((Pool.state_step hcall).symm ▸ hmove))
    (NoncesApart.start s requests) (fun i => call_obeys s (requests i))
    (Lib.Meets.of_forall (fun _ _ => trivial) _ schedule)
  have hphase {i : ι} (hsigns : (requests i).Signs s nonce)
      (hdone : ((guardPool s requests).exec schedule).calls i = .done (.ok true)) :
      φ i = .stored nonce := by
    have hadmits := hobey i
    rw [hdone] at hadmits
    cases hφ : φ i with
    | checking => exact absurd hφ (hadmits rfl)
    | exempt =>
      have hsome := hsigns.1
      rw [hapart.exempt i hφ] at hsome
      cases hsome
    | stored n =>
      cases (hapart.own i n hφ).symm.trans hsigns.2
      rfl
  exact hapart.apart i j nonce (hphase hi hdone) (hphase hj hdone')

end

/-- Between two histories with the same requests of a client the decisions on these are the same,
and of its requests served at the same time no two are accepted with the same nonce. -/
structure NoncesPerClient (s : SigningState) (clientId : String) (es es' : List GuardedRequest) :
    Prop where
  decisions : decisionsFor clientId s es = decisionsFor clientId s es'
  once : ∀ (ι : Type) [DecidableEq ι] (requests : ι → GuardedRequest) (schedule : List ι) (i j : ι)
    (nonce : String), (requests i).OfClient clientId → (requests j).OfClient clientId →
      (requests i).Signs s nonce → (requests j).Signs s nonce →
        ((guardPool s requests).exec schedule).calls i = .done (.ok true) →
          ((guardPool s requests).exec schedule).calls j = .done (.ok true) → i = j

/-- **Nonces are per client** exactly when the requests of the client have the same rivals in both
histories: no other client claims in one of them only, and first, a nonce the client claims. -/
theorem nonces_per_client_iff (s : SigningState) {clientId : String} {es es' : List GuardedRequest}
    (hown : es.filter (·.OfClient clientId) = es'.filter (·.OfClient clientId)) :
    NoncesPerClient s clientId es es' ↔
      List.Forall₂ (SameRivals s clientId) (occurrences clientId [] es)
        (occurrences clientId [] es') := by
  rw [← decisionsFor_iff s hown]
  refine ⟨NoncesPerClient.decisions, fun hdecisions => ⟨hdecisions, ?_⟩⟩
  intro ι _ requests schedule i j nonce _ _ hi hj hdone hdone'
  exact accepted_once s requests schedule hi hj hdone hdone'

end

/-! ## The nonce of another client -/

namespace Sample

/-- Every timestamp is read as the first instant, under the default skew. -/
@[reducible] def signatureRuntime : SignatureRuntime where
  number _ := some 0
  maxSkewSeconds := some 300

end Sample

attribute [local instance] Runtime.ascii Sample.authRuntime Sample.signatureRuntime

namespace Sample

/-- Two clients that sign their requests. -/
def signingState : SigningState where
  clients := ⟨[⟨"A", some "pem", true⟩, ⟨"B", some "pem", true⟩], by decide⟩
  nonces := .empty _

/-- A request a client has signed. -/
def signedBy (clientId nonce : String) : GuardedRequest where
  now := 0
  request :=
    { principal := some (.client ⟨"PAYCHAIN", clientId, clientId⟩), method := "POST"
      path := "/api/v1/paychain/funding-instructions", xTimestamp := some "0"
      xNonce := some nonce, xSignature := some "signature", body := none }

theorem signedBy_claims :
    (signedBy "A" "N").Claims signingState "N" ∧ (signedBy "B" "M").Claims signingState "M" ∧
      (signedBy "B" "N").Claims signingState "N" := by
  refine ⟨⟨⟨⟨"A", some "pem", true⟩, rfl, ?_⟩, ?_⟩, ⟨⟨⟨"B", some "pem", true⟩, rfl, ?_⟩, ?_⟩,
    ⟨⟨"B", some "pem", true⟩, rfl, ?_⟩, ?_⟩ <;> decide +kernel

/-- The request of the first client, after a request of the second. -/
theorem occurrences_after (nonce : String) :
    occurrences "A" [] [signedBy "B" nonce, signedBy "A" "N"] =
      [([signedBy "B" nonce], signedBy "A" "N")] := rfl

theorem own_after (nonce : String) :
    [signedBy "A" "N"].filter (·.OfClient "A") =
      [signedBy "B" nonce, signedBy "A" "N"].filter (·.OfClient "A") := rfl

/-- Before its first request the client has no rivals. -/
theorem not_claimed_nil (nonce : String) : ¬ClaimedByOther signingState "A" [] nonce := by
  rintro ⟨e, he, -⟩
  cases he

end Sample

/-- Another nonce of another client changes nothing. -/
theorem nonces_per_client_apart :
    NoncesPerClient Sample.signingState "A" [Sample.signedBy "A" "N"]
      [Sample.signedBy "B" "M", Sample.signedBy "A" "N"] := by
  refine (nonces_per_client_iff Sample.signingState (Sample.own_after "M")).mpr ?_
  rw [Sample.occurrences_after]
  refine .cons (fun nonce hclaims _ _ => ?_) .nil
  obtain rfl := Sample.signedBy_claims.1.unique hclaims
  refine iff_of_false (Sample.not_claimed_nil _) ?_
  rintro ⟨e, he, -, hother⟩
  obtain rfl := List.mem_singleton.mp he
  have hsame := Sample.signedBy_claims.2.1.unique hother
  exact absurd hsame (by decide)

/-- A client that has used the nonce of another first denies it its request. -/
theorem other_client_burns_nonce : ¬∀ [Runtime] [AuthRuntime] [SignatureRuntime]
    (s : SigningState) (clientId : String) (es es' : List GuardedRequest),
      es.filter (·.OfClient clientId) = es'.filter (·.OfClient clientId) →
        NoncesPerClient s clientId es es' := by
  intro h
  have hdecisions := (h Sample.signingState "A" [Sample.signedBy "A" "N"]
    [Sample.signedBy "B" "N", Sample.signedBy "A" "N"] (Sample.own_after "N")).decisions
  have hrivals := (decisionsFor_iff Sample.signingState (Sample.own_after "N")).mp hdecisions
  rw [Sample.occurrences_after] at hrivals
  have hsame := (List.forall₂_cons.mp hrivals).1 "N" Sample.signedBy_claims.1
    (by rintro ⟨row, hrow, -⟩; cases hrow) (by rintro ⟨e, he, -⟩; cases he)
  refine Sample.not_claimed_nil "N" (hsame.mpr ?_)
  exact ⟨_, List.mem_singleton_self _, by decide, Sample.signedBy_claims.2.2⟩

end TrusteeBank
