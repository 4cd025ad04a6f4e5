import TrusteeBank.Api.ClientSeparation
import TrusteeBank.Infra
import TrusteeBank.Json
import TrusteeBank.Secrets

/-!
# Logging in

`UserAuthService` takes a password, and a one-time code when the second factor of the user is
enabled, and issues a session token: the claims of the session in base64url, a dot, and their
HMAC. The token of an operator without a second factor is marked `mfp`, and
`ClientSeparationGuard` keeps it out of the operator APIs. `AuthController` serves the
enrollment of the second factor to any session.

* `login_session`: what a login that issues a token has checked;
* `setup_state`, `enable_state`: what enrollment writes.
-/

set_option autoImplicit false

namespace TrusteeBank

open Lib (Call)

/-- What user authentication takes from the platform and from the environment. -/
class SessionRuntime extends AuthRuntime, HashRuntime where
  /-- `Buffer.from(text).toString('base64url')`. -/
  base64url : String → String
  /-- `encodeURIComponent`. -/
  encodeURIComponent : String → String
  /-- A text as `URLSearchParams` writes it. -/
  formEncode : String → String
  /-- `QRCode.toDataURL(uri, { margin: 1, width: 220 })`. -/
  toDataURL : String → Except ApiError String
  /-- `ENFORCE_OPERATOR_MFA`, on unless the variable is `false`. -/
  enforceOperatorMfa : Bool
  /-- `SESSION_TTL_SECONDS`, 3600 when unset. -/
  sessionTtlSeconds : JsNumber

/-! ## Tokens -/

namespace SessionPayload

/-- The object a token carries. -/
def toJson (p : SessionPayload) : JsValue :=
  .object
    [("sub", .string p.sub),
      ("email", .string p.email),
      ("inst", .string p.inst),
      ("roles", .strings p.roles),
      ("mfp", p.mfp.elim .undefined .number),
      ("exp", p.exp.elim .null .number)]

/-- What `JSON.parse` makes of the text. `NaN` is written as `null`, which counts as zero. -/
def parsed (p : SessionPayload) : SessionPayload := { p with exp := some (p.exp.getD 0) }

/-- `JSON.stringify(payload)`. It never fails, since there is no bigint in it. -/
def stringify (p : SessionPayload) : String :=
  ((jsonStringify p.toJson).toOption.getD none).getD "undefined"

/-- The body of the token. -/
def body [SessionRuntime] (p : SessionPayload) : String := SessionRuntime.base64url p.stringify

end SessionPayload

/-- A body with its HMAC. -/
def signed [AuthRuntime] (body : String) : String := body ++ "." ++ AuthRuntime.sign body

/-- `otpauthUrl`, for the default issuer. -/
def otpauthUrl [SessionRuntime] (secret account : String) : String :=
  let issuer := "Cambobia Trustee"
  let label := SessionRuntime.encodeURIComponent (issuer ++ ":" ++ account)
  let params := "secret=" ++ SessionRuntime.formEncode secret ++ "&issuer=" ++
    SessionRuntime.formEncode issuer ++ "&algorithm=SHA1&digits=6&period=30"
  "otpauth://totp/" ++ label ++ "?" ++ params

structure LoginDto where
  email : String
  password : String
  code : Option String

/-- The answer to a login that issues a token. -/
structure LoggedIn where
  mfaEnrollmentRequired : Bool
  token : String
  userId : String
  email : String
  roles : List String
  institution : String
  mfaEnabled : Bool

inductive LoginResult
  | mfaRequired
  | session (answer : LoggedIn)

structure MfaSetup where
  secret : String
  otpauthUrl : String
  qrDataUri : String

namespace User

def withSecret (secret : String) (u : User) : User :=
  { u with
    mfaSecret := some secret
    mfaEnabled := false }

def withMfa (u : User) : User := { u with mfaEnabled := true }

theorem withSecret_id (secret : String) (u : User) : (u.withSecret secret).id = u.id := rfl

theorem withMfa_id (u : User) : u.withMfa.id = u.id := rfl

end User

section

variable [Runtime] [SessionRuntime]

namespace UserAuthService

omit [Runtime] in
/-- The claims of a token issued now. -/
def sessionPayload (now : Int) (p : UserPrincipal) : SessionPayload where
  sub := p.userId
  email := p.email
  inst := p.institution
  roles := p.roles
  mfp := some (if p.mfaPending then 1 else 0)
  exp := SessionRuntime.sessionTtlSeconds.map fun ttl => now / 1000 + ttl

omit [Runtime] in
def issueToken (now : Int) (p : UserPrincipal) : String := signed (sessionPayload now p).body

omit [Runtime] in
/-- Whom a session token is issued to. -/
def principalFor (user : User) : UserPrincipal where
  userId := user.id
  email := user.email
  institution := user.institution
  roles := user.roles
  mfaPending := SessionRuntime.enforceOperatorMfa && !user.mfaEnabled

omit [Runtime] in
/-- `!user || user.disabled || !user.passwordHash || !verifyPassword(..)`. -/
def checkPassword (user : Option User) (password : String) : Except ApiError User :=
  let refused : Except ApiError User := .error (.unauthorized "Invalid credentials")
  match user with
  | none => refused
  | some user =>
    if user.disabled then refused
    else
      match user.passwordHash.filter (· ≠ "") with
      | none => refused
      | some hash => do
        let verified ← verifyPassword password hash
        if verified then return user else refused

/-- The check of the second factor of a login. -/
def checkCode (now : Int) (user : User) (code : String) : Except ApiError Unit :=
  let refused : Except ApiError Unit := .error (.unauthorized "Invalid MFA code")
  match user.mfaSecret.filter (· ≠ "") with
  | none => refused
  | some secret => do
    let verified ← verifyTotp secret code now
    if verified then return () else refused

omit [Runtime] in
/-- The answer with a token. -/
def session (now : Int) (user : User) : LoginResult :=
  let p := principalFor user
  .session
    { mfaEnrollmentRequired := p.mfaPending
      token := issueToken now p
      userId := user.id
      email := user.email
      roles := user.roles
      institution := user.institution
      mfaEnabled := user.mfaEnabled }

/-- The answer to a login of the user found. -/
def answerLogin (clock : Clock) (dto : LoginDto) (user : Option User) :
    Except ApiError LoginResult := do
  let user ← checkPassword user dto.password
  if user.mfaEnabled then
    match dto.code.filter (· ≠ "") with
    | none => return .mfaRequired
    | some code =>
      checkCode (clock 0) user code
      return session (clock 1) user
  else return session (clock 1) user

def login (clock : Clock) (dto : LoginDto) : Service LoginResult := do
  checkTexts [dto.email]
  let user ← Prisma.user.findFirst dto.email fun u => u.email = dto.email
  answerLogin clock dto user

/-- Begin the enrollment with a fresh secret. -/
def setupMfa (userId : String) (random : List UInt8) : Service MfaSetup := do
  let user ← Prisma.user.findUnique userId
  let user ← orThrow user (.badRequest "User not found")
  let secret := generateTotpSecret random
  let _ ← Prisma.user.update unconstrained userId (User.withSecret secret)
    (User.withSecret_id secret)
  let uri := otpauthUrl secret user.email
  let qrDataUri ← SessionRuntime.toDataURL uri
  return { secret, otpauthUrl := uri, qrDataUri }

/-- Confirm the enrollment. -/
def enableMfa (now : Int) (userId code : String) : Service Unit := do
  let user ← Prisma.user.findUnique userId
  let secret ← orThrow ((user.bind User.mfaSecret).filter (· ≠ ""))
    (.badRequest "Start MFA setup first")
  let verified ← verifyTotp secret code now
  Call.throwIf (verified = false) (.unauthorized "Invalid MFA code")
  let _ ← Prisma.user.update unconstrained userId User.withMfa User.withMfa_id

end UserAuthService

namespace AuthController

omit [Runtime] [SessionRuntime] in
/-- `authz?.startsWith('Bearer ') ? authz.slice(7).trim() : ''`. -/
def bearerToken (authz : Option String) : String :=
  match authz with
  | some authz =>
    if startsWith authz "Bearer " then String.ofList (jsTrim (authz.toList.drop 7)) else ""
  | none => ""

omit [Runtime] in
def principal (now : Int) (authz : Option String) : Except ApiError UserPrincipal := do
  let token := bearerToken authz
  let p ← (if token = "" then .ok none else UserAuthService.verifyToken now token :
    Except ApiError (Option UserPrincipal))
  orThrow p (.unauthorized "Valid session token required")

def setup (clock : Clock) (authz : Option String) (random : List UInt8) : Service MfaSetup := do
  let p ← principal (clock 0) authz
  UserAuthService.setupMfa p.userId random

def enable (clock : Clock) (authz : Option String) (code : String) : Service Unit := do
  let p ← principal (clock 0) authz
  UserAuthService.enableMfa (clock 1) p.userId code

end AuthController

/-! ## What is checked and written -/

/-- The state with one user rewritten. -/
def World.updateUser (w : World) (id : String) (f : User → User) (hf : ∀ u, (f u).id = u.id) :
    World :=
  { w with users := w.users.modify id f hf }

omit [SessionRuntime] in
theorem find?_updateUser {w : World} {id : String} {f : User → User} {hf : ∀ u, (f u).id = u.id}
    {user : User} (huser : w.users.find? id = some user) :
    (w.updateUser id f hf).users.find? id = some (f user) := by
  unfold World.updateUser
  rw [Lib.Table.find?_modify, if_pos rfl, huser]
  rfl

omit [SessionRuntime] in
theorem find?_updateUser_of_ne {w : World} {id other : String} {f : User → User}
    {hf : ∀ u, (f u).id = u.id} (hne : other ≠ id) :
    (w.updateUser id f hf).users.find? other = w.users.find? other := by
  unfold World.updateUser
  rw [Lib.Table.find?_modify, if_neg hne]

namespace UserAuthService

omit [Runtime] in
theorem checkPassword_ok {found : Option User} {password : String} {user : User}
    (h : checkPassword found password = .ok user) : found = some user ∧ user.disabled = false := by
  cases found with
  | none => cases h
  | some u =>
    unfold checkPassword at h
    simp only at h
    split_ifs at h with hdisabled
    split at h
    · cases h
    · obtain ⟨verified, -, h⟩ := bind_eq_ok.mp h
      cases verified with
      | false => cases h
      | true =>
        cases h
        exact ⟨rfl, Bool.not_eq_true _ ▸ hdisabled⟩

theorem checkCode_ok {now : Int} {user : User} {code : String} {u : Unit}
    (h : checkCode now user code = .ok u) :
    ∃ secret, user.mfaSecret = some secret ∧ verifyTotp secret code now = .ok true := by
  unfold checkCode at h
  simp only at h
  split at h
  · cases h
  · next secret hsecret =>
    obtain ⟨verified, hverified, h⟩ := bind_eq_ok.mp h
    cases verified with
    | false => cases h
    | true => exact ⟨secret, (Option.filter_eq_some_iff.mp hsecret).1, hverified⟩

/-- A login alone: the database may refuse the address. -/
theorem run_login (clock : Clock) (dto : LoginDto) (w : World) :
    (login clock dto).run w = ((do
      checkTexts [dto.email]
      answerLogin clock dto (w.users.rows.find? fun u => u.email = dto.email)), w) := by
  unfold login
  rw [Call.run_lift_bind]
  cases checkTexts [dto.email] with
  | error e => rfl
  | ok u => rfl

/-- **A login that issues a token.** The user is enabled, and a code was verified if the second
factor is. -/
theorem login_session {clock : Clock} {dto : LoginDto} {w : World} {a : LoggedIn}
    (h : ((login clock dto).run w).1 = .ok (.session a)) :
    ∃ user, w.users.rows.find? (fun u => u.email = dto.email) = some user ∧
      user.disabled = false ∧ session (clock 1) user = .session a ∧
      (user.mfaEnabled = true → ∃ secret code, user.mfaSecret = some secret ∧
        dto.code = some code ∧ verifyTotp secret code (clock 0) = .ok true) := by
  rw [run_login] at h
  obtain ⟨_, -, h⟩ := bind_eq_ok.mp h
  unfold answerLogin at h
  obtain ⟨user, huser, h⟩ := bind_eq_ok.mp h
  obtain ⟨hfound, hdisabled⟩ := checkPassword_ok huser
  refine ⟨user, hfound, hdisabled, ?_⟩
  by_cases hmfa : user.mfaEnabled = true
  · rw [if_pos hmfa] at h
    split at h
    · cases h
    · next code hcode =>
      obtain ⟨_, hcheck, h⟩ := bind_eq_ok.mp h
      obtain ⟨secret, hsecret, hverified⟩ := checkCode_ok hcheck
      refine ⟨Except.ok.inj h, fun _ => ⟨secret, code, hsecret, ?_, hverified⟩⟩
      exact (Option.filter_eq_some_iff.mp hcode).1
  · rw [if_neg hmfa] at h
    exact ⟨Except.ok.inj h, fun h => absurd h hmfa⟩

end UserAuthService

namespace AuthController

/-- A setup by the user of a session. -/
theorem run_setup_of {clock : Clock} {authz : Option String} {random : List UInt8} {w : World}
    {p : UserPrincipal} {user : User} (hp : principal (clock 0) authz = .ok p)
    (huser : w.users.find? p.userId = some user) :
    ((setup clock authz random).run w).2 =
      w.updateUser p.userId (User.withSecret (generateTotpSecret random))
        (User.withSecret_id _) := by
  unfold setup UserAuthService.setupMfa
  rw [hp, Call.lift_ok_bind, Call.run_bind, Entity.run_findUnique]
  simp only [Prisma.user_get, huser, orThrow]
  rw [Call.lift_ok_bind, Call.run_bind, Entity.run_update_of Prisma.user huser rfl]
  simp only
  rw [Call.run_bind, Call.run_lift]
  cases SessionRuntime.toDataURL (otpauthUrl (generateTotpSecret random) user.email) <;> rfl

/-- **A setup writes a fresh secret and turns the second factor off**, or changes nothing. -/
theorem setup_state (clock : Clock) (authz : Option String) (random : List UInt8) (w : World) :
    ((setup clock authz random).run w).2 = w ∨
      ∃ p user, principal (clock 0) authz = .ok p ∧ w.users.find? p.userId = some user ∧
        ((setup clock authz random).run w).2 =
          w.updateUser p.userId (User.withSecret (generateTotpSecret random))
            (User.withSecret_id _) := by
  cases hp : principal (clock 0) authz with
  | error e =>
    unfold setup
    rw [hp]
    exact .inl rfl
  | ok p =>
    cases huser : w.users.find? p.userId with
    | none =>
      unfold setup UserAuthService.setupMfa
      rw [hp, Call.lift_ok_bind, Call.run_bind, Entity.run_findUnique]
      simp only [Prisma.user_get, huser]
      exact .inl rfl
    | some user => exact .inr ⟨p, user, rfl, huser, run_setup_of hp huser⟩

/-- A confirmation by the user of a session, with a code of the secret. -/
theorem run_enable_of {clock : Clock} {authz : Option String} {code secret : String} {w : World}
    {p : UserPrincipal} {user : User} (hp : principal (clock 0) authz = .ok p)
    (huser : w.users.find? p.userId = some user) (hsecret : user.mfaSecret = some secret)
    (hnonempty : secret ≠ "") (hverified : verifyTotp secret code (clock 1) = .ok true) :
    (enable clock authz code).run w =
      (.ok (), w.updateUser p.userId User.withMfa User.withMfa_id) := by
  unfold enable UserAuthService.enableMfa
  rw [hp, Call.lift_ok_bind, Call.run_bind, Entity.run_findUnique]
  have hfilter : (some secret).filter (fun t => decide (t ≠ "")) = some secret := by
    simp [hnonempty]
  simp only [Prisma.user_get, huser, Option.bind_some, hsecret, hfilter, orThrow]
  rw [Call.lift_ok_bind, hverified, Call.lift_ok_bind, Call.run_throwIf_bind, if_neg (by decide),
    Call.run_bind, Entity.run_update_of Prisma.user huser rfl]
  rfl

/-- **A confirmation turns the second factor on against a code**, or changes nothing. -/
theorem enable_state (clock : Clock) (authz : Option String) (code : String) (w : World) :
    ((enable clock authz code).run w).2 = w ∧ ((enable clock authz code).run w).1 ≠ .ok () ∨
      ∃ p user secret, principal (clock 0) authz = .ok p ∧ w.users.find? p.userId = some user ∧
        user.mfaSecret = some secret ∧ verifyTotp secret code (clock 1) = .ok true ∧
        (enable clock authz code).run w =
          (.ok (), w.updateUser p.userId User.withMfa User.withMfa_id) := by
  cases hp : principal (clock 0) authz with
  | error e =>
    unfold enable
    rw [hp]
    exact .inl ⟨rfl, error_ne_ok⟩
  | ok p =>
    cases hsecret : ((w.users.find? p.userId).bind User.mfaSecret).filter (· ≠ "") with
    | none =>
      unfold enable UserAuthService.enableMfa
      rw [hp, Call.lift_ok_bind, Call.run_bind, Entity.run_findUnique]
      simp only [Prisma.user_get, hsecret]
      exact .inl ⟨rfl, error_ne_ok⟩
    | some secret =>
      obtain ⟨hbind, hnonempty⟩ := Option.filter_eq_some_iff.mp hsecret
      obtain ⟨user, huser, hmfa⟩ := Option.bind_eq_some_iff.mp hbind
      by_cases hverified : verifyTotp secret code (clock 1) = .ok true
      · exact .inr ⟨p, user, secret, rfl, huser, hmfa, hverified,
          run_enable_of hp huser hmfa (of_decide_eq_true hnonempty) hverified⟩
      · unfold enable UserAuthService.enableMfa
        rw [hp, Call.lift_ok_bind, Call.run_bind, Entity.run_findUnique]
        simp only [Prisma.user_get, hsecret, orThrow]
        rw [Call.lift_ok_bind, Call.run_bind, Call.run_lift]
        cases hresult : verifyTotp secret code (clock 1) with
        | error e => exact .inl ⟨rfl, error_ne_ok⟩
        | ok verified =>
          cases verified with
          | false => exact .inl ⟨rfl, error_ne_ok⟩
          | true => exact absurd hresult hverified

end AuthController

end

end TrusteeBank
