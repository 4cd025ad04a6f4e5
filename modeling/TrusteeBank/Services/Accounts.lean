import TrusteeBank.Api.PasswordResets
import TrusteeBank.Services.Admin

/-!
# Accounts of operators

An administrator creates an operator with a password, or with a temporary one that is answered
once. Operators change their password against the current one, and administrators set it. Who has
forgotten it is mailed a link with a token; the database has the hash of the token only. The mail
goes to the address that was asked for, and the answer does not tell whether anybody has it.

The services share the tables of `ResetState`, and beside them are the mails that were accepted for
delivery. A mail that is not accepted is lost.
-/

set_option autoImplicit false

namespace TrusteeBank

open Lib (Call)

/-! ## What is asked -/

mutual

/-- The texts in a JSON value. -/
def JsValue.texts : JsValue → List String
  | .string text => [text]
  | .array items => JsValue.itemTexts items
  | .object fields => JsValue.fieldTexts fields
  | _ => []

def JsValue.itemTexts : List JsValue → List String
  | [] => []
  | item :: items => item.texts ++ JsValue.itemTexts items

def JsValue.fieldTexts : List (String × JsValue) → List String
  | [] => []
  | (name, value) :: fields => name :: value.texts ++ JsValue.fieldTexts fields

end

structure CreateUserInput where
  email : String
  displayName : String
  institution : String
  roles : List String
  attributes : Option JsValue
  password : Option String
  actor : String

structure CreatedUser where
  id : String
  email : String
  tempPassword : Option String

/-- A mail that was accepted for delivery. -/
structure Email where
  recipients : List String
  subject : String
  text : String
deriving DecidableEq, Repr

structure ResetMailConfig where
  /-- `PASSWORD_RESET_TTL_SECONDS`, 3600 when unset. -/
  ttlSeconds : JsNumber
  /-- `TRUSTEE_PUBLIC_URL`. -/
  portalUrl : String
  /-- `NOTIFY_TO`. -/
  stakeholders : List String

/-- What a request for a reset is made with: the time, the token that is drawn in base64url, the
identifier the database fills in, and whether the mail is accepted. -/
structure ForgotRequest where
  email : String
  now : Int
  token : String
  id : String
  delivers : Bool

/-- The label of a step. -/
inductive AccountStep
  | database (q : Query)
  | reset (step : ResetStep)
  | createReset (tokenHash : String)
  | notify
deriving DecidableEq, Repr

section

variable [Runtime]

/-- The database, the reset tokens, and the mails. -/
abbrev AccountState := ResetState × List Email

abbrev AccountCall := Call AccountStep AccountState ApiError

/-- A service call on the database. -/
def onAccounts {α : Type} (call : Service α) : AccountCall α :=
  let onResets : Call AccountStep ResetState ApiError α := call.onFst .database
  onResets.onFst id

/-! ## The services -/

omit [Runtime] in
/-- `password && password.length >= 10`. -/
def suppliedPassword (input : CreateUserInput) : Option String :=
  input.password.filter fun password => 10 ≤ jsLength password

omit [Runtime] in
/-- What the columns of a user refuse. The displayed name and the attributes are kept in columns
that nothing reads. -/
def checkUser (input : CreateUserInput) : Except ApiError Unit := do
  checkTexts ([input.email, input.displayName, input.institution] ++ input.roles)
  checkTexts ((input.attributes.map JsValue.texts).getD [])

def userConstraints (input : CreateUserInput) (w : World) : Except ApiError Unit := do
  checkUser input
  checkUnique (w.users.rows.any fun u => u.email = input.email)

/-- `random` is the base64url text of the nine bytes that may be drawn. -/
def AdminService.createUser [HashRuntime] (id random : String) (salt : List UInt8)
    (input : CreateUserInput) : Service CreatedUser := do
  let tempPassword := if (suppliedPassword input).isSome then none else some ("Tmp!" ++ random)
  let password := (suppliedPassword input).getD (tempPassword.getD "")
  let passwordHash ← hashPassword password salt
  let user ← Prisma.user.create (userConstraints input)
    { id
      email := input.email
      institution := input.institution
      roles := input.roles
      passwordHash := some passwordHash
      mfaSecret := none
      mfaEnabled := false
      disabled := false }
  AuditService.record
    { actor := input.actor
      action := "admin.user.created"
      subjectType := "USER"
      subjectId := some user.id
      afterState := some (.object
        [("roles", .strings input.roles), ("institution", .string input.institution)]) }
  return { id := user.id, email := user.email, tempPassword }

namespace UserAuthService

def setPasswordHash (userId passwordHash : String) : Service Unit := do
  let _ ← Prisma.user.update unconstrained userId (User.withPassword passwordHash)
    (User.withPassword_id passwordHash)

/-- Self-service password change (requires the current password). -/
def changePassword [HashRuntime] (userId currentPassword newPassword : String)
    (salt : List UInt8) : Service Unit := do
  let user ← Prisma.user.findUnique userId
  let refused : ApiError := .unauthorized "Current password is incorrect"
  let stored ← orThrow ((user.bind User.passwordHash).filter (· ≠ "")) refused
  let verified ← verifyPassword currentPassword stored
  Call.throwIf (verified = false) refused
  assertPasswordStrength newPassword
  let passwordHash ← hashPassword newPassword salt
  setPasswordHash userId passwordHash

/-- Admin-initiated reset: set a supplied password for a user. -/
def adminSetPassword [HashRuntime] (userId newPassword : String) (salt : List UInt8) :
    Service Unit := do
  checkTexts [userId]
  let user ← Prisma.user.findUnique userId
  let _ ← orThrow user (.badRequest "User not found")
  assertPasswordStrength newPassword
  let passwordHash ← hashPassword newPassword salt
  setPasswordHash userId passwordHash

/-- `passwordReset.create`. -/
def createReset (row : PasswordReset) : AccountCall Unit :=
  Call.query (.createReset row.tokenHash) fun ((w, resets), emails) => do
    checkUnique (resets.rows.any fun r => r.tokenHash = row.tokenHash)
    let t ← orThrow (resets.insert? row) (.prisma "P2002")
    return ((), (w, t), emails)

/-- `notify` with a recipient. A mail that is not accepted is logged and lost. -/
def notifyUser (cfg : ResetMailConfig) (delivers : Bool) (subject text recipient : String) :
    AccountCall Unit :=
  Call.query .notify fun (s, emails) =>
    let recipients := if recipient = "" then cfg.stakeholders else [recipient]
    let email : Email := ⟨recipients, "[Trustee] " ++ subject, text⟩
    .ok ((), s, if delivers then emails ++ [email] else emails)

omit [Runtime] in
/-- `Math.round(this.resetTtlSeconds / 60)`, written out. -/
def minutesText (ttlSeconds : JsNumber) : String :=
  ttlSeconds.elim "NaN" fun ttlSeconds => toString ((ttlSeconds + 30) / 60)

omit [Runtime] in
/-- The text of the mail; the minutes are rounded to the nearest. -/
def resetText (cfg : ResetMailConfig) (email token : String) : String :=
  .join ["A password reset was requested for ", email, ".\nReset your password (valid ",
    minutesText cfg.ttlSeconds, " min): ", cfg.portalUrl, "/?reset_token=", token,
    "\nIf you did not request this, ignore this email."]

/-- Issue a single-use, expiring reset token and mail a link with it. -/
def requestPasswordReset [AuthRuntime] (cfg : ResetMailConfig) (req : ForgotRequest) :
    AccountCall Unit := do
  checkTexts [req.email]
  let user ← onAccounts (Prisma.user.findFirst req.email fun u => u.email = req.email)
  match user.filter fun u => !u.disabled with
  | none => return ()
  | some user => do
    let expiresAt ← checkDate (newDate (cfg.ttlSeconds.map fun ttl => req.now + ttl * 1000))
    createReset
      { id := req.id
        userId := user.id
        tokenHash := AuthRuntime.sha256Hex req.token
        expiresAt
        usedAt := none }
    notifyUser cfg req.delivers "Password reset request"
      (resetText cfg req.email req.token) req.email

end UserAuthService

/-! ## Operations -/

inductive AccountOp
  | createUser (id random : String) (salt : List UInt8) (input : CreateUserInput)
  | changePassword (userId currentPassword newPassword : String) (salt : List UInt8)
  | adminSetPassword (userId newPassword : String) (salt : List UInt8)
  | requestPasswordReset (req : ForgotRequest)
  | resetPassword (req : ResetRequest) (token : String)
  | login (clock : Clock) (dto : LoginDto)
  | setUserDisabled (userId : String) (disabled : Bool) (actor : String)
  | setupMfa (userId : String) (random : List UInt8)
  | enableMfa (now : Int) (userId code : String)

inductive AccountAnswer
  | done
  | created (user : CreatedUser)
  | login (result : LoginResult)
  | mfa (setup : MfaSetup)

variable [SessionRuntime]

def AccountOp.call (cfg : ResetMailConfig) : AccountOp → AccountCall AccountAnswer
  | .createUser id random salt input => do
    let user ← onAccounts (AdminService.createUser id random salt input)
    return .created user
  | .changePassword userId currentPassword newPassword salt => do
    onAccounts (UserAuthService.changePassword userId currentPassword newPassword salt)
    return .done
  | .adminSetPassword userId newPassword salt => do
    onAccounts (UserAuthService.adminSetPassword userId newPassword salt)
    return .done
  | .requestPasswordReset req => do
    UserAuthService.requestPasswordReset cfg req
    return .done
  | .resetPassword req token => do
    let _ ← (UserAuthService.resetPassword req token).onFst .reset
    return .done
  | .login clock dto => do
    let result ← onAccounts (UserAuthService.login clock dto)
    return .login result
  | .setUserDisabled userId disabled actor => do
    onAccounts (AdminService.setUserDisabled userId disabled actor)
    return .done
  | .setupMfa userId random => do
    let setup ← onAccounts (UserAuthService.setupMfa userId random)
    return .mfa setup
  | .enableMfa now userId code => do
    onAccounts (UserAuthService.enableMfa now userId code)
    return .done

def AccountOp.step (cfg : ResetMailConfig) (s : AccountState) (op : AccountOp) :
    Except ApiError AccountAnswer × AccountState :=
  (op.call cfg).run s

end

end TrusteeBank
