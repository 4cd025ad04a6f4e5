import TrusteeBank.Lib.Run
import TrusteeBank.Services.Admin

/-!
# Sessions

A run of logins, of the enrollment of second factors, of the administration of users and roles,
and of requests to guarded routes. The tables are the state of the code. Beside them the machine
keeps what a run has done: the tokens that logins have issued, with what each login found and what
was done to its user since, and the users who have confirmed an enrollment.

**Assumption (`Authentic`).** A token with a valid HMAC is one that a login of the run issued, and
its body is read as the claims that were written.

* `presented_issued`: whom an accepted token stands for;
* `session_of_login`: what is known of a user when a token is issued.
-/

set_option autoImplicit false

namespace TrusteeBank

open Lib (Call)

/-! ## Issued tokens -/

/-- A token that a login issued. -/
structure Session where
  claims : SessionPayload
  /-- The second factor of the user was enabled at the login. -/
  mfaEnabled : Bool
  /-- The secret that was enabled at the login and that its code was verified against. -/
  secondFactor : Option String
  /-- The user was disabled since, and not enabled again. -/
  disabled : Bool
  /-- The roles of the token that the latest change of the user's roles left out. -/
  lost : List String
deriving DecidableEq

def Session.token [SessionRuntime] (s : Session) : String := signed s.claims.body

/-- What an administrator does to a user, as far as it concerns a token. -/
def Session.after (s : Session) : AdminOp → Session
  | .setUserRoles userId roles _ =>
    if s.claims.sub = userId then { s with lost := s.claims.roles.filter fun r => r ∉ roles } else s
  | .setUserDisabled userId disabled _ => if s.claims.sub = userId then { s with disabled } else s
  | .upsertRole _ | .deleteRole _ _ => s

theorem Session.after_factor (s : Session) (op : AdminOp) :
    (s.after op).mfaEnabled = s.mfaEnabled ∧ (s.after op).secondFactor = s.secondFactor := by
  unfold Session.after
  cases op with
  | setUserRoles userId roles actor =>
    dsimp only
    split_ifs <;> exact ⟨rfl, rfl⟩
  | setUserDisabled userId disabled actor =>
    dsimp only
    split_ifs <;> exact ⟨rfl, rfl⟩
  | upsertRole input => exact ⟨rfl, rfl⟩
  | deleteRole slug actor => exact ⟨rfl, rfl⟩

section

variable [Runtime]

structure AuthState where
  world : World
  sessions : List Session
  /-- The users who have confirmed an enrollment. -/
  enrolled : List String

/-- A request to a route, and the permission the route declares. -/
structure RouteRequest where
  clients : Lib.Table ClientApplication.oauthClientId
  now : Int
  request : HttpRequest
  permission : Option String

omit [Runtime] in
inductive AuthOp
  | login (clock : Clock) (dto : LoginDto)
  | setup (clock : Clock) (authz : Option String) (random : List UInt8)
  | enable (clock : Clock) (authz : Option String) (code : String)
  | admin (op : AdminOp)
  | request (r : RouteRequest)

/-- The token of a request. -/
def AuthOp.token : AuthOp → Option String
  | .setup _ authz _ | .enable _ authz _ => some (AuthController.bearerToken authz)
  | .request r => ClientSeparationGuard.bearer r.request
  | .login _ _ | .admin _ => none

/-- The user a login is about. -/
def userOf (w : World) (dto : LoginDto) : Option User :=
  w.users.rows.find? fun u => u.email = dto.email

variable [SessionRuntime]

/-- The secret that is enabled when a login is made and that its code verifies against. -/
def verifiedSecret (w : World) (clock : Clock) (dto : LoginDto) : Option String :=
  match userOf w dto, dto.code with
  | some user, some code => user.mfaSecret.filter fun secret =>
      user.mfaEnabled && verifyTotp secret code (clock 0) = .ok true
  | _, _ => none

/-- The token a login has issued. -/
def issuedTo (w : World) (clock : Clock) (dto : LoginDto) (a : LoggedIn) : Session where
  claims := UserAuthService.sessionPayload (clock 1)
    ⟨a.userId, a.email, a.institution, a.roles, a.mfaEnrollmentRequired⟩
  mfaEnabled := (userOf w dto).any User.mfaEnabled
  secondFactor := verifiedSecret w clock dto
  disabled := false
  lost := []

def issuedBy (w : World) (clock : Clock) (dto : LoginDto) : List Session :=
  match ((UserAuthService.login clock dto).run w).1 with
  | .ok (.session a) => [issuedTo w clock dto a]
  | _ => []

/-- The user whose enrollment a request has confirmed. -/
def enrolledBy (w : World) (clock : Clock) (authz : Option String) (code : String) : List String :=
  match AuthController.principal (clock 0) authz,
    ((AuthController.enable clock authz code).run w).1 with
  | .ok p, .ok _ => [p.userId]
  | _, _ => []

omit [Runtime] [SessionRuntime] in
/-- The tokens after an administrative request. -/
def administered (w : World) (sessions : List Session) (op : AdminOp) : List Session :=
  if op.WritesUser w then sessions.map fun s => s.after op else sessions

/-- Serve one request alone, whether it succeeds or throws. -/
def AuthOp.step (st : AuthState) : AuthOp → AuthState
  | .login clock dto =>
    { st with
      world := ((UserAuthService.login clock dto).run st.world).2
      sessions := st.sessions ++ issuedBy st.world clock dto }
  | .setup clock authz random =>
    { st with world := ((AuthController.setup clock authz random).run st.world).2 }
  | .enable clock authz code =>
    { st with
      world := ((AuthController.enable clock authz code).run st.world).2
      enrolled := st.enrolled ++ enrolledBy st.world clock authz code }
  | .admin op =>
    { st with
      world := (op.call.run st.world).2
      sessions := administered st.world st.sessions op }
  | .request _ => st

/-- A login writes nothing. -/
theorem step_login_world (st : AuthState) (clock : Clock) (dto : LoginDto) :
    ((AuthOp.login clock dto).step st).world = st.world := by
  simp only [AuthOp.step, UserAuthService.run_login]

/-- HMAC, base64url and JSON do what they are for. -/
structure Authentic (st : AuthState) (op : AuthOp) : Prop where
  unforged : ∀ body, op.token = some (signed body) → ∃ s ∈ st.sessions, s.claims.body = body
  decoded : ∀ s ∈ st.sessions, op.token = some s.token →
    AuthRuntime.parseSession s.claims.body = some s.claims.parsed

/-! ## Tokens that are accepted -/

omit [Runtime] [SessionRuntime] in
/-- A list is cut before its first `c`. -/
theorem span_ne_eq {c x : Char} {cs left right : List Char}
    (h : (cs.span fun y => y ≠ c) = (left, x :: right)) : cs = left ++ c :: right := by
  rw [List.span_eq_takeWhile_dropWhile] at h
  obtain ⟨hleft, hright⟩ := Prod.mk.inj h
  have hx := List.head?_dropWhile_not (fun y => y ≠ c) cs
  rw [hright] at hx
  have hc : x = c := by simpa using hx
  have hjoin : cs.takeWhile (fun y => y ≠ c) ++ cs.dropWhile (fun y => y ≠ c) = cs :=
    List.takeWhile_append_dropWhile
  rw [hleft, hright, hc] at hjoin
  exact hjoin.symm

omit [Runtime] [SessionRuntime] in
theorem splitAtLast_eq_some {c : Char} {text before after : String}
    (h : splitAtLast c text = some (before, after)) :
    text = before ++ String.singleton c ++ after := by
  unfold splitAtLast at h
  split at h
  · cases h
  · next left x right hspan =>
    simp only [Option.some.injEq, Prod.mk.injEq] at h
    obtain ⟨rfl, rfl⟩ := h
    have hreverse := congrArg List.reverse (span_ne_eq hspan)
    rw [List.reverse_reverse, List.reverse_append, List.reverse_cons] at hreverse
    apply String.toList_inj.mp
    simp only [String.toList_append, String.toList_ofList, String.toList_singleton]
    exact hreverse

omit [Runtime] in
/-- **An accepted token is a body with its HMAC.** -/
theorem verifyToken_ok {now : Int} {token : String} {user : UserPrincipal}
    (h : UserAuthService.verifyToken now token = .ok (some user)) :
    ∃ body, token = signed body ∧
      (AuthRuntime.parseSession body).bind (UserAuthService.principalOf now) = some user := by
  unfold UserAuthService.verifyToken at h
  split at h
  · cases h
  · next body sig hsplit =>
    by_cases hempty : body = ""
    · rw [if_pos hempty] at h
      cases h
    rw [if_neg hempty] at h
    dsimp only at h
    split_ifs at h
    · cases h
    obtain ⟨same, hsame, h⟩ := bind_eq_ok.mp h
    cases same with
    | false => cases h
    | true =>
      refine ⟨body, ?_, Except.ok.inj h⟩
      unfold timingSafeEqual at hsame
      split_ifs at hsame with hsize
      have hsig : sig = AuthRuntime.sign body := by simpa using hsame
      rw [splitAtLast_eq_some hsplit, hsig]
      rfl

omit [Runtime] [SessionRuntime] in
theorem splitAtLast_of_notMem {c : Char} (before : String) {after : String}
    (h : c ∉ after.toList) :
    splitAtLast c (before ++ String.singleton c ++ after) = some (before, after) := by
  have hpos : ∀ x ∈ after.toList.reverse, decide (x ≠ c) = true := by
    intro x hx
    exact decide_eq_true fun hc => h (hc ▸ List.mem_reverse.mp hx)
  have hsplit : (before ++ String.singleton c ++ after).toList.reverse =
      after.toList.reverse ++ c :: before.toList.reverse := by
    simp
  unfold splitAtLast
  rw [hsplit, List.span_eq_takeWhile_dropWhile, List.takeWhile_append_of_pos hpos,
    List.dropWhile_append_of_pos hpos, List.takeWhile_cons_of_neg (by simp),
    List.dropWhile_cons_of_neg (by simp)]
  simp

omit [Runtime] in
/-- **An issued token is accepted** for as long as it lives. -/
theorem verifyToken_signed {body : String} (hbody : body ≠ "")
    (hmac : '.' ∉ (AuthRuntime.sign body).toList) (now : Int) :
    UserAuthService.verifyToken now (signed body) =
      .ok ((AuthRuntime.parseSession body).bind (UserAuthService.principalOf now)) := by
  unfold UserAuthService.verifyToken signed
  have hsplit := splitAtLast_of_notMem body hmac
  rw [show "." = String.singleton '.' from rfl, hsplit]
  simp only [if_neg hbody]
  rw [if_neg (not_not.mpr rfl)]
  unfold timingSafeEqual
  rw [if_neg (not_not.mpr rfl)]
  simp [bind, Except.bind, pure, Except.pure]

omit [Runtime] [SessionRuntime] in
theorem signed_ne_empty (body mac : String) : body ++ "." ++ mac ≠ "" := by
  intro h
  have hlists := congrArg String.toList h
  simp at hlists

omit [Runtime] [SessionRuntime] in
theorem join_noSpace {pieces : List String}
    (h : (pieces.all fun p => p.toList.all fun c => !isJsSpace c) = true) :
    ∀ c ∈ (String.join pieces).toList, isJsSpace c = false := by
  rw [String.toList_join]
  intro c hc
  obtain ⟨p, hp, hcp⟩ := List.mem_flatMap.mp hc
  have hpiece := List.all_eq_true.mp h p hp
  simpa using List.all_eq_true.mp hpiece c hcp

omit [Runtime] [SessionRuntime] in
theorem signed_noSpace {body mac : String} (hbody : ∀ c ∈ body.toList, isJsSpace c = false)
    (hmac : ∀ c ∈ mac.toList, isJsSpace c = false) :
    ∀ c ∈ (body ++ "." ++ mac).toList, isJsSpace c = false := by
  intro c hc
  rw [String.toList_append, String.toList_append, List.mem_append, List.mem_append] at hc
  rcases hc with (hc | hc) | hc
  · exact hbody c hc
  · rw [List.mem_singleton.mp hc]
    decide
  · exact hmac c hc

omit [Runtime] [SessionRuntime] in
theorem startsWith_bearer (token : String) : startsWith ("Bearer " ++ token) "Bearer " = true := by
  rw [startsWith_iff, String.toList_append]
  exact List.prefix_append _ _

omit [Runtime] [SessionRuntime] in
/-- What follows the scheme of a Bearer header. -/
theorem trim_bearer {token : String} (h : ∀ c ∈ token.toList, isJsSpace c = false) :
    String.ofList (jsTrim (("Bearer " ++ token).toList.drop 7)) = token := by
  have hdrop : ("Bearer " ++ token).toList.drop 7 = token.toList := by
    rw [String.toList_append]
    exact List.drop_left' (by decide)
  rw [hdrop, jsTrim_of_noSpace h, String.ofList_toList]

omit [Runtime] [SessionRuntime] in
theorem bearerToken_bearer {token : String} (h : ∀ c ∈ token.toList, isJsSpace c = false) :
    AuthController.bearerToken (some ("Bearer " ++ token)) = token := by
  unfold AuthController.bearerToken
  simp only [if_pos (startsWith_bearer token)]
  exact trim_bearer h

omit [Runtime] [SessionRuntime] in
theorem bearer_bearer {req : HttpRequest} {token : String}
    (hreq : req.authorization = some ("Bearer " ++ token))
    (h : ∀ c ∈ token.toList, isJsSpace c = false) :
    ClientSeparationGuard.bearer req = some token := by
  unfold ClientSeparationGuard.bearer
  rw [hreq]
  simp only [if_pos (startsWith_bearer token)]
  rw [trim_bearer h]

omit [Runtime] [SessionRuntime] in
theorem principalOf_eq_some {now : Int} {p : SessionPayload} {user : UserPrincipal}
    (h : UserAuthService.principalOf now p = some user) :
    user = ⟨p.sub, p.email, p.inst, p.roles, p.mfp = some 1⟩ := by
  unfold UserAuthService.principalOf at h
  split_ifs at h
  exact (Option.some.inj h).symm

/-- **Whom an accepted token stands for**: the user a login has issued it to. -/
theorem presented_issued {st : AuthState} {op : AuthOp} (hauth : Authentic st op) {now : Int}
    {token : String} (htoken : op.token = some token) {user : UserPrincipal}
    (h : UserAuthService.verifyToken now token = .ok (some user)) :
    ∃ s ∈ st.sessions, op.token = some s.token ∧ user.userId = s.claims.sub ∧
      user.roles = s.claims.roles := by
  obtain ⟨body, rfl, hparsed⟩ := verifyToken_ok h
  obtain ⟨s, hs, rfl⟩ := hauth.unforged body htoken
  rw [hauth.decoded s hs htoken] at hparsed
  rw [principalOf_eq_some hparsed]
  exact ⟨s, hs, htoken, rfl, rfl⟩

/-- The user of a session that the controller accepts. -/
theorem principal_issued {st : AuthState} {op : AuthOp} (hauth : Authentic st op) {now : Int}
    {authz : Option String} (htoken : op.token = some (AuthController.bearerToken authz))
    {p : UserPrincipal} (h : AuthController.principal now authz = .ok p) :
    ∃ s ∈ st.sessions, op.token = some s.token ∧ p.userId = s.claims.sub := by
  unfold AuthController.principal at h
  obtain ⟨found, hfound, h⟩ := bind_eq_ok.mp h
  rw [orThrow_eq_ok] at h
  rw [h] at hfound
  split_ifs at hfound
  · cases hfound
  · obtain ⟨s, hs, htoken', huser, -⟩ := presented_issued hauth htoken hfound
    exact ⟨s, hs, htoken', huser⟩

theorem issuedBy_of {w w' : World} {clock : Clock} {dto : LoginDto} {a : LoggedIn}
    (h : (UserAuthService.login clock dto).run w = (.ok (.session a), w')) :
    issuedBy w clock dto = [issuedTo w clock dto a] := by
  unfold issuedBy
  rw [h]

/-- **What is known of a user when a token is issued.** -/
theorem session_of_login {w : World} {clock : Clock} {dto : LoginDto} {s : Session}
    (h : s ∈ issuedBy w clock dto) :
    ∃ user, w.users.find? s.claims.sub = some user ∧ user.disabled = false ∧
      s.claims.roles = user.roles ∧ s.disabled = false ∧ s.lost = [] ∧
      (s.mfaEnabled = true → s.secondFactor.isSome) := by
  unfold issuedBy at h
  split at h
  · next a ha =>
    rw [List.mem_singleton] at h
    subst h
    obtain ⟨user, hfound, hdisabled, hanswer, hmfa⟩ := UserAuthService.login_session ha
    cases hanswer
    have huser := Lib.Table.find?_key_of_mem (List.mem_of_find?_eq_some hfound)
    refine ⟨user, huser, hdisabled, rfl, rfl, rfl, fun henabled => ?_⟩
    have hof : userOf w dto = some user := hfound
    have hon : user.mfaEnabled = true := by simpa [issuedTo, hof] using henabled
    obtain ⟨secret, code, hsecret, hcode, hverified⟩ := hmfa hon
    simp [issuedTo, verifiedSecret, hof, hcode, hsecret, hon, hverified]
  · cases h

end

/-! ## An operator -/

namespace Sample

attribute [local instance] Runtime.ascii

/-- The hash of a password, in hexadecimal. -/
def passwordHex : String :=
  .join ["e96ec6ba8c63a23698220f37c7fc0429", "25d430c7feadec9ceb04af03cabb9f2f",
    "1cad3fcfbd59a87b9872dc79dac9824a", "2cfac809032b2acd343d16464bf99488"]

/-- The stored hash of a password. -/
def storedPassword : String :=
  .join ["scrypt$16384$", "000102030405060708090a0b0c0d0e0f", "$", passwordHex]

def passwordHash : List UInt8 := hexBytes passwordHex.toList

/-- The digest of a period under a secret. -/
def totpDigest : List UInt8 :=
  [148, 120, 207, 39, 250, 6, 21, 150, 172, 50, 93, 64, 148, 6, 252, 136, 131, 41, 178, 39]

@[reducible] def hashRuntime : HashRuntime where
  hmacSha1 _ _ := totpDigest
  scryptSync _ _ _ _ := .ok passwordHash

/-- The claims of the operator. -/
def operatorClaims (mfp : Int) : SessionPayload :=
  ⟨"U1", "operator@bank", "TRUSTEE_BANK", ["security_admin"], some mfp, some 1767229200⟩

/-- A platform on which one text is encoded and signed: `body` is the body of a token with the
claims, and `mac` its HMAC. -/
@[reducible] def sessionRuntime (claims : SessionPayload) (body mac : String) : SessionRuntime where
  toHashRuntime := hashRuntime
  sha256Hex text := text
  sign _ := mac
  parseSession _ := some claims
  decodeBase64 text := text
  base64url _ := body
  encodeURIComponent _ := "Cambobia%20Trustee%3Aoperator%40bank"
  formEncode text := if text = "Cambobia Trustee" then "Cambobia+Trustee" else text
  toDataURL _ := .ok "data:image/png;base64,iVBORw0KGgo="
  enforceOperatorMfa := true
  sessionTtlSeconds := some 3600

/-- The operator, with a second factor or without. -/
def operator (mfaSecret : Option String) (mfaEnabled : Bool) : User where
  id := "U1"
  email := "operator@bank"
  institution := "TRUSTEE_BANK"
  roles := ["security_admin"]
  passwordHash := some storedPassword
  mfaSecret := mfaSecret
  mfaEnabled := mfaEnabled
  disabled := false

def securityAdmin : Role where
  slug := "security_admin"
  name := "Security Administrator"
  description := none
  institution := "TRUSTEE_BANK"
  permissions := ["admin.users", "admin.roles", "admin.emergency"]
  builtin := true

theorem operator_nodup (mfaSecret : Option String) (mfaEnabled : Bool) :
    ([operator mfaSecret mfaEnabled].map User.id).Nodup := List.nodup_singleton _

theorem securityAdmin_nodup : ([securityAdmin].map Role.slug).Nodup := List.nodup_singleton _

/-- No token is issued yet. -/
def authState (mfaSecret : Option String) (mfaEnabled : Bool) : AuthState where
  world :=
    { World.empty with
      users := ⟨[operator mfaSecret mfaEnabled], operator_nodup _ _⟩
      roles := ⟨[securityAdmin], securityAdmin_nodup⟩ }
  sessions := []
  enrolled := []

/-- Midnight of a new year, at every reading. -/
def newYear : Clock := fun _ => 1767225600000

theorem splitOn_storedPassword : storedPassword.toList.splitOn '$' =
    ["scrypt".toList, "16384".toList, "000102030405060708090a0b0c0d0e0f".toList,
      passwordHex.toList] := by
  -- A long text is decoded piece by piece.
  rw [storedPassword, passwordHex, String.toList_join, String.toList_join]
  simp only [List.flatMap_cons, List.flatMap_nil]
  rw [String.toList_join]
  decide +kernel

theorem verifyPassword_of [HashRuntime] {password stored : String} {n salt hash : List Char}
    (hstored : stored.toList.splitOn '$' = ["scrypt".toList, n, salt, hash])
    (hscrypt : HashRuntime.scryptSync password (hexBytes salt) (hexBytes hash).length
      (String.ofList n) = .ok (hexBytes hash)) : verifyPassword password stored = .ok true := by
  unfold verifyPassword
  rw [hstored]
  simp only [String.ofList_toList, ne_eq, not_true_eq_false, if_false]
  rw [hscrypt]
  simp [bind, Except.bind, pure, Except.pure]

theorem operator_password :
    @verifyPassword hashRuntime "correct horse battery" storedPassword = .ok true :=
  @verifyPassword_of hashRuntime _ _ _ _ _ splitOn_storedPassword rfl

/-- The operator logs in. -/
def loginDto (code : Option String) : LoginDto := ⟨"operator@bank", "correct horse battery", code⟩

def logIn (code : Option String) : AuthOp := .login newYear (loginDto code)

theorem checkPassword_operator (R : SessionRuntime) (hR : R.toHashRuntime = hashRuntime)
    (mfaSecret : Option String) (mfaEnabled : Bool) :
    UserAuthService.checkPassword (some (operator mfaSecret mfaEnabled)) "correct horse battery" =
      .ok (operator mfaSecret mfaEnabled) := by
  have hstored : (some storedPassword).filter (fun t => decide (t ≠ "")) = some storedPassword := by
    decide +kernel
  have hverified : verifyPassword "correct horse battery" storedPassword = .ok true := by
    rw [hR]
    exact operator_password
  unfold UserAuthService.checkPassword
  simp only [operator, hstored, hverified]
  rfl

/-! ### The tokens of the operator -/

/-- The body and the HMAC of the token of an operator whose second factor is verified. -/
def verifiedBody : String :=
  .join ["eyJzdWIiOiJVMSIsImVtYWls", "Ijoib3BlcmF0b3JAYmFuayIs", "Imluc3QiOiJUUlVTVEVFX0JB",
    "TksiLCJyb2xlcyI6WyJzZWN1", "cml0eV9hZG1pbiJdLCJtZnAi", "OjAsImV4cCI6MTc2NzIyOTIw", "MH0"]

def verifiedMac : String := .join ["cSwURlfEV_-YlbJZjyi6gE", "-ZqYCW8MtR79kzuCZ6i1A"]

@[reducible] def verifiedRuntime : SessionRuntime :=
  sessionRuntime (operatorClaims 0) verifiedBody verifiedMac

/-- The secret of the second factor. -/
def totpSecret : String := "AEBAGBAFAYDQQCIKBMGA2DQPCAIREEYU"

/-- An operator with a second factor. -/
def verifiedOperator : AuthState := authState (some totpSecret) true

/-- Their session, after a login with a code. -/
def verifiedSession : Session where
  claims := operatorClaims 0
  mfaEnabled := true
  secondFactor := some totpSecret
  disabled := false
  lost := []

def verifiedToken : String := verifiedBody ++ "." ++ verifiedMac

theorem verifiedToken_noSpace : ∀ c ∈ verifiedToken.toList, isJsSpace c = false :=
  signed_noSpace (join_noSpace (by decide +kernel)) (join_noSpace (by decide +kernel))

theorem sessionRuntime_authentic {claims : SessionPayload} {body mac : String} {st : AuthState}
    {op : AuthOp} (hclaims : ∀ s ∈ st.sessions, s.claims.parsed = claims)
    (htoken : ∀ token, op.token = some token →
      token = body ++ "." ++ mac ∧ st.sessions.isEmpty = false) :
    @Authentic _ (sessionRuntime claims body mac) st op := by
  refine @Authentic.mk _ (sessionRuntime claims body mac) st op (fun body' h => ?_) fun s hs _ => ?_
  · obtain ⟨hsame, hsome⟩ := htoken _ h
    cases hsessions : st.sessions with
    | nil => simp [hsessions] at hsome
    | cons s sessions =>
      refine ⟨s, List.mem_cons_self, ?_⟩
      show body = body'
      have hsame : body' ++ "." ++ mac = body ++ "." ++ mac := hsame
      have hlists := congrArg String.toList hsame
      simp only [String.toList_append] at hlists
      exact (String.toList_inj.mp
        (List.append_cancel_right (List.append_cancel_right hlists))).symm
  · exact congrArg some (hclaims s hs).symm

/-- A request with the token, once it is issued. -/
theorem presented_authentic {claims : SessionPayload} {body mac : String} {st : AuthState}
    {op : AuthOp} (hclaims : ∀ s ∈ st.sessions, s.claims.parsed = claims)
    (hsome : st.sessions.isEmpty = false) (htoken : op.token = some (body ++ "." ++ mac)) :
    @Authentic _ (sessionRuntime claims body mac) st op :=
  sessionRuntime_authentic hclaims fun _ h => ⟨Option.some.inj (h.symm.trans htoken), hsome⟩

section

attribute [local instance] verifiedRuntime

theorem verified_code :
    UserAuthService.checkCode 1767225600000 (operator (some totpSecret) true) "383837" = .ok () := by
  decide +kernel

-- Another code is refused.
example : UserAuthService.checkCode 1767225600000 (operator (some totpSecret) true) "383838" =
    .error (.unauthorized "Invalid MFA code") := by
  decide +kernel

theorem answerLogin_verified : UserAuthService.answerLogin newYear (loginDto (some "383837"))
    (some (operator (some totpSecret) true)) =
      .ok (UserAuthService.session 1767225600000 (operator (some totpSecret) true)) := by
  have hcode : (some "383837").filter (fun t => decide (t ≠ "")) = some "383837" := by decide
  have hmfa : (operator (some totpSecret) true).mfaEnabled = true := rfl
  unfold UserAuthService.answerLogin
  rw [loginDto, checkPassword_operator verifiedRuntime rfl]
  simp only [bind, Except.bind, hmfa, if_true, hcode]
  rw [newYear, verified_code]
  rfl

/-- The operator logs in with a code. -/
theorem logIn_verified : (logIn (some "383837")).step verifiedOperator =
    { verifiedOperator with sessions := [verifiedSession] } := by
  have hrun : (UserAuthService.login newYear (loginDto (some "383837"))).run verifiedOperator.world =
      (.ok (UserAuthService.session 1767225600000 (operator (some totpSecret) true)),
        verifiedOperator.world) :=
    congrArg (·, verifiedOperator.world) answerLogin_verified
  have hissued : issuedBy verifiedOperator.world newYear (loginDto (some "383837")) =
      [verifiedSession] := by
    rw [issuedBy_of hrun]
    decide +kernel
  simp only [logIn, AuthOp.step, hrun, hissued]
  rfl

/-- Whom the token stands for. -/
def verifiedUser : UserPrincipal :=
  ⟨"U1", "operator@bank", "TRUSTEE_BANK", ["security_admin"], false⟩

theorem verifyToken_verified :
    UserAuthService.verifyToken 1767225600000 verifiedToken = .ok (some verifiedUser) := by
  have hbody : verifiedBody ≠ "" := by decide +kernel
  have hmac : '.' ∉ verifiedMac.toList := by
    rw [verifiedMac, String.toList_join]
    decide +kernel
  exact verifyToken_signed hbody hmac 1767225600000

end

end Sample

end TrusteeBank
