import Mathlib.Data.List.Find
import TrusteeBank.Lib.Simulation
import TrusteeBank.Passwords
import TrusteeBank.Services.Accounts

/-!
# Accounts in the clear

The database has hashes: salted ones of the passwords, and plain ones of the reset tokens. This
module says what they stand for.

**The book** (`AccountBook`). It has the passwords and the tokens themselves. A password is right
when it is the one in the book, and a token is valid when the book has it, unused and not expired.
The book decides with no hash at all. It refuses the texts and the dates that the database refuses.

**Assumptions.** The passwords in question can be told apart by their keys (`PasswordHashes`), and
the tokens by their hashes.

**Theorem (`accounts_refine`).** Whatever is asked, the services give the answers of the book, and
send the mails of the book.

A row of a user hides an account (`Hides`): it is the row of the book with some hash of the password
that the book has. Each operation finds corresponding rows, decides the same, and rewrites both.
-/

set_option autoImplicit false

namespace TrusteeBank

open Lib (Alike Call)
open UserAuthService

/-! ## The book -/

/-- A user, without a hash, and their password. -/
structure Account where
  user : User
  password : Option String

/-- A reset token and what it is good for. -/
structure ClearReset where
  id : String
  userId : String
  token : String
  expiresAt : Int
  usedAt : Option Int

structure AccountBook where
  accounts : List Account
  resets : List ClearReset
  emails : List Email

def Account.map (f : User → User) (a : Account) : Account := { a with user := f a.user }

def Account.withPassword (password : String) (a : Account) : Account :=
  { a with password := some password }

def ClearReset.asUsed (usedAt : Int) (r : ClearReset) : ClearReset :=
  { r with usedAt := some usedAt }

namespace AccountBook

def find? (b : AccountBook) (userId : String) : Option Account :=
  b.accounts.find? fun a => a.user.id = userId

def withEmail? (b : AccountBook) (email : String) : Option Account :=
  b.accounts.find? fun a => a.user.email = email

def rewrite (b : AccountBook) (userId : String) (f : Account → Account) : AccountBook :=
  { b with accounts := b.accounts.map fun a => if a.user.id = userId then f a else a }

/-- A new user is stored under an address and an identifier that are free. The user stays when the
record of it is refused. -/
def createUser (b : AccountBook) (id random : String) (input : CreateUserInput) :
    Except ApiError AccountAnswer × AccountBook :=
  match checkUser input with
  | .error e => (.error e, b)
  | .ok () =>
    if b.accounts.any (fun a => a.user.email = input.email) ∨ (b.find? id).isSome then
      (.error (.prisma "P2002"), b)
    else
      let tempPassword := "Tmp!" ++ random
      let user : User := ⟨id, input.email, input.institution, input.roles, none, none, false, false⟩
      let account : Account := ⟨user, some ((suppliedPassword input).getD tempPassword)⟩
      ((checkTexts [input.actor]).map fun _ => .created ⟨id, input.email,
          if (suppliedPassword input).isSome then none else some tempPassword⟩,
        { b with accounts := b.accounts ++ [account] })

def changePassword (b : AccountBook) (userId currentPassword newPassword : String) :
    Except ApiError AccountAnswer × AccountBook :=
  if (b.find? userId).bind Account.password = some currentPassword then
    match assertPasswordStrength newPassword with
    | .error e => (.error e, b)
    | .ok () => (.ok .done, b.rewrite userId (Account.withPassword newPassword))
  else (.error (.unauthorized "Current password is incorrect"), b)

def adminSetPassword (b : AccountBook) (userId newPassword : String) :
    Except ApiError AccountAnswer × AccountBook :=
  match checkTexts [userId] with
  | .error e => (.error e, b)
  | .ok () =>
    if (b.find? userId).isSome then
      match assertPasswordStrength newPassword with
      | .error e => (.error e, b)
      | .ok () => (.ok .done, b.rewrite userId (Account.withPassword newPassword))
    else (.error (.badRequest "User not found"), b)

/-- A token is stored, and mailed to the address that was asked for. -/
def requestPasswordReset (cfg : ResetMailConfig) (b : AccountBook) (req : ForgotRequest) :
    Except ApiError AccountAnswer × AccountBook :=
  match checkTexts [req.email] with
  | .error e => (.error e, b)
  | .ok () =>
    match (b.withEmail? req.email).filter fun a => !a.user.disabled with
    | none => (.ok .done, b)
    | some a =>
      match checkDate (newDate (cfg.ttlSeconds.map fun ttl => req.now + ttl * 1000)) with
      | .error e => (.error e, b)
      | .ok expiresAt =>
        if b.resets.any (fun r => r.token = req.token) ∨ b.resets.any (fun r => r.id = req.id) then
          (.error (.prisma "P2002"), b)
        else
          let reset : ClearReset := ⟨req.id, a.user.id, req.token, expiresAt, none⟩
          let email : Email :=
            { recipients := if req.email = "" then cfg.stakeholders else [req.email]
              subject := "[Trustee] Password reset request"
              text := resetText cfg req.email req.token }
          (.ok .done,
            { b with
              resets := b.resets ++ [reset]
              emails := if req.delivers then b.emails ++ [email] else b.emails })

/-- A token that is unused and not expired is used up, and sets the password of its user. -/
def resetPassword (b : AccountBook) (req : ResetRequest) (token : String) :
    Except ApiError AccountAnswer × AccountBook :=
  let valid := (b.resets.find? fun r => r.token = token).filter fun r =>
    r.usedAt.isNone && req.clock 0 ≤ r.expiresAt
  match valid with
  | none => (.error (.unauthorized "Invalid or expired reset token"), b)
  | some r =>
    match assertPasswordStrength req.newPassword with
    | .error e => (.error e, b)
    | .ok () =>
      if (b.find? r.userId).isSome then
        let used := b.resets.map fun r' => if r'.id = r.id then r'.asUsed (req.clock 1) else r'
        let b := b.rewrite r.userId (Account.withPassword req.newPassword)
        (.ok .done, { b with resets := used })
      else (.error (.prisma "P2025"), b)

/-- The account is rewritten also when the record of it is refused. -/
def setUserDisabled (b : AccountBook) (userId : String) (disabled : Bool) (actor : String) :
    Except ApiError AccountAnswer × AccountBook :=
  match checkTexts [userId] with
  | .error e => (.error e, b)
  | .ok () =>
    if (b.find? userId).isSome then
      ((checkTexts [actor]).map fun _ => .done,
        b.rewrite userId (Account.map (User.withDisabled disabled)))
    else (.error (.prisma "P2025"), b)

section

variable [Runtime] [SessionRuntime]

/-- What follows a password that is right. -/
def afterPassword (clock : Clock) (dto : LoginDto) (user : User) : Except ApiError LoginResult := do
  if user.mfaEnabled then
    match dto.code.filter (· ≠ "") with
    | none => return .mfaRequired
    | some code =>
      checkCode (clock 0) user code
      return session (clock 1) user
  else return session (clock 1) user

def login (b : AccountBook) (clock : Clock) (dto : LoginDto) : Except ApiError LoginResult := do
  checkTexts [dto.email]
  match (b.withEmail? dto.email).filter fun a =>
      !a.user.disabled && a.password = some dto.password with
  | none => .error (.unauthorized "Invalid credentials")
  | some a => afterPassword clock dto a.user

def setupMfa (b : AccountBook) (userId : String) (random : List UInt8) :
    Except ApiError AccountAnswer × AccountBook :=
  match b.find? userId with
  | none => (.error (.badRequest "User not found"), b)
  | some a =>
    let secret := generateTotpSecret random
    let uri := otpauthUrl secret a.user.email
    ((SessionRuntime.toDataURL uri).map fun qrDataUri => .mfa ⟨secret, uri, qrDataUri⟩,
      b.rewrite userId (Account.map (User.withSecret secret)))

def enableMfa (b : AccountBook) (now : Int) (userId code : String) :
    Except ApiError AccountAnswer × AccountBook :=
  match ((b.find? userId).bind fun a => a.user.mfaSecret).filter (· ≠ "") with
  | none => (.error (.badRequest "Start MFA setup first"), b)
  | some secret =>
    match verifyTotp secret code now with
    | .error e => (.error e, b)
    | .ok false => (.error (.unauthorized "Invalid MFA code"), b)
    | .ok true => (.ok .done, b.rewrite userId (Account.map User.withMfa))

def step (cfg : ResetMailConfig) (b : AccountBook) :
    AccountOp → Except ApiError AccountAnswer × AccountBook
  | .createUser id random _ input => b.createUser id random input
  | .changePassword userId currentPassword newPassword _ =>
    b.changePassword userId currentPassword newPassword
  | .adminSetPassword userId newPassword _ => b.adminSetPassword userId newPassword
  | .requestPasswordReset req => b.requestPasswordReset cfg req
  | .resetPassword req token => b.resetPassword req token
  | .login clock dto => ((b.login clock dto).map .login, b)
  | .setUserDisabled userId disabled actor => b.setUserDisabled userId disabled actor
  | .setupMfa userId random => b.setupMfa userId random
  | .enableMfa now userId code => b.enableMfa now userId code

end

end AccountBook

/-- The passwords an operation is made with. -/
def AccountOp.passwords : AccountOp → List String
  | .createUser _ random _ input => [(suppliedPassword input).getD ("Tmp!" ++ random)]
  | .changePassword _ currentPassword newPassword _ => [currentPassword, newPassword]
  | .adminSetPassword _ newPassword _ => [newPassword]
  | .resetPassword req _ => [req.newPassword]
  | .login _ dto => [dto.password]
  | .requestPasswordReset _ | .setUserDisabled _ _ _ | .setupMfa _ _ | .enableMfa _ _ _ => []

/-- The reset tokens an operation is made with. -/
def AccountOp.tokens : AccountOp → List String
  | .requestPasswordReset req => [req.token]
  | .resetPassword _ token => [token]
  | _ => []

/-! ## Rows and accounts -/

section

variable [Runtime] [SessionRuntime]

omit [Runtime] in
/-- The row of a token has its hash. -/
def ClearReset.row (r : ClearReset) : PasswordReset :=
  ⟨r.id, r.userId, AuthRuntime.sha256Hex r.token, r.expiresAt, r.usedAt⟩

omit [Runtime] in
/-- A row of the book, with some hash of the password there. -/
structure Hides (passwords : List String) (a : Account) (u : User) : Prop where
  row : a.user = { u with passwordHash := none }
  known : ∀ p ∈ a.password, p ∈ passwords
  stored : Option.Rel StoredFrom a.password u.passwordHash

/-- **The state of a book.** -/
structure AccountsOf (passwords tokens : List String) (b : AccountBook) (s : AccountState) :
    Prop where
  users : List.Forall₂ (Hides passwords) b.accounts s.1.1.users.rows
  resets : s.1.2.rows = b.resets.map ClearReset.row
  known : ∀ r ∈ b.resets, r.token ∈ tokens
  emails : s.2 = b.emails

variable {passwords tokens : List String} {b : AccountBook} {s : AccountState} {a : Account}
  {u : User}

namespace Hides

omit [Runtime]

theorem id (h : Hides passwords a u) : a.user.id = u.id := by rw [h.row]

theorem email (h : Hides passwords a u) : a.user.email = u.email := by rw [h.row]

theorem disabled (h : Hides passwords a u) : a.user.disabled = u.disabled := by rw [h.row]

theorem mfaSecret (h : Hides passwords a u) : a.user.mfaSecret = u.mfaSecret := by rw [h.row]

theorem map (h : Hides passwords a u) {f : User → User}
    (hf : ∀ u, (f u).passwordHash = u.passwordHash ∧
      f { u with passwordHash := none } = { f u with passwordHash := none }) :
    Hides passwords (a.map f) (f u) where
  row := by
    unfold Account.map
    rw [h.row]
    exact (hf u).2
  known := h.known
  stored := (hf u).1 ▸ h.stored

theorem withPassword (h : Hides passwords a u) {password stored : String}
    (hp : password ∈ passwords) (hstored : StoredFrom password stored) :
    Hides passwords (a.withPassword password) (u.withPassword stored) where
  row := h.row
  known _ hmem := Option.some.inj hmem ▸ hp
  stored := .some hstored

/-- **Verification.** There is nothing to verify, or the password verified is that of the book. -/
theorem verifies (h : Hides passwords a u) (hp : PasswordHashes passwords) {password : String}
    (hpassword : password ∈ passwords) :
    (a.password = none ∧ u.passwordHash.filter (· ≠ "") = none) ∨
      ∃ stored, u.passwordHash.filter (· ≠ "") = some stored ∧
        verifyPassword password stored = .ok (decide (a.password = some password)) := by
  have hstored := h.stored
  have hknown := h.known
  generalize u.passwordHash = hash at hstored
  generalize a.password = found at hstored hknown
  cases hstored with
  | none => exact .inl ⟨rfl, rfl⟩
  | @some p stored hp' =>
    refine .inr ⟨stored, Option.filter_some_pos (decide_eq_true hp'.ne_empty), ?_⟩
    rw [verifyPassword_stored hp (hknown p rfl) hpassword hp']
    simp only [Option.some.injEq, eq_comm]

theorem checkPassword (h : Hides passwords a u) (hp : PasswordHashes passwords)
    {password : String} (hpassword : password ∈ passwords) :
    UserAuthService.checkPassword (some u) password =
      if a.user.disabled = false ∧ a.password = some password then .ok u
      else .error (.unauthorized "Invalid credentials") := by
  unfold UserAuthService.checkPassword
  rw [h.disabled]
  by_cases hdisabled : u.disabled = true
  · simp [hdisabled]
  · have henabled : u.disabled = false := Bool.not_eq_true _ ▸ hdisabled
    simp only [if_neg hdisabled]
    rcases h.verifies hp hpassword with ⟨hnone, hfilter⟩ | ⟨stored, hfilter, hverified⟩
    · rw [hfilter, if_neg (by simp [hnone])]
    · rw [hfilter]
      simp only [hverified, bind, Except.bind, henabled, true_and, decide_eq_true_eq]
      rfl

end Hides

omit [Runtime] in
theorem afterPassword_hides [Runtime] (h : Hides passwords a u) (clock : Clock) (dto : LoginDto) :
    AccountBook.afterPassword clock dto u = AccountBook.afterPassword clock dto a.user := by
  rw [h.row]
  rfl

namespace AccountsOf

theorem find? (h : AccountsOf passwords tokens b s) (userId : String) :
    Option.Rel (Hides passwords) (b.find? userId) (s.1.1.users.find? userId) :=
  Lib.forall₂_find? h.users fun _ _ hau => by rw [hau.id]

theorem isSome_find? (h : AccountsOf passwords tokens b s) (userId : String) :
    (b.find? userId).isSome = (s.1.1.users.find? userId).isSome := by
  have hfound := h.find? userId
  generalize b.find? userId = found at hfound ⊢
  generalize s.1.1.users.find? userId = row at hfound ⊢
  cases hfound <;> rfl

theorem withEmail? (h : AccountsOf passwords tokens b s) (email : String) :
    Option.Rel (Hides passwords) (b.withEmail? email)
      (s.1.1.users.rows.find? fun u => u.email = email) :=
  Lib.forall₂_find? h.users fun _ _ hau => by rw [hau.email]

theorem rewrite (h : AccountsOf passwords tokens b s) (userId : String) {f : Account → Account}
    {g : User → User} (hg : ∀ u, (g u).id = u.id)
    (hfg : ∀ a u, Hides passwords a u → Hides passwords (f a) (g u)) :
    AccountsOf passwords tokens (b.rewrite userId f)
      ((s.1.1.updateUser userId g hg, s.1.2), s.2) where
  users := Lib.forall₂_map h.users fun a u hau => by
    rw [hau.id]
    split_ifs
    · exact hfg a u hau
    · exact hau
  resets := h.resets
  known := h.known
  emails := h.emails

theorem setPassword (h : AccountsOf passwords tokens b s) (userId : String)
    {password stored : String} (hp : password ∈ passwords) (hstored : StoredFrom password stored) :
    AccountsOf passwords tokens (b.rewrite userId (Account.withPassword password))
      ((s.1.1.updateUser userId (User.withPassword stored) (User.withPassword_id stored), s.1.2),
        s.2) :=
  h.rewrite userId _ fun _ _ hau => hau.withPassword hp hstored

end AccountsOf

/-! ## One operation at a time -/

omit [SessionRuntime] in
theorem run_onAccounts_bind {α β : Type} (call : Service α) (f : α → AccountCall β)
    (s : AccountState) : (onAccounts call >>= f).run s = match call.run s.1.1 with
      | (.ok a, w) => (f a).run ((w, s.1.2), s.2)
      | (.error e, w) => (.error e, (w, s.1.2), s.2) := by
  obtain ⟨⟨w, resets⟩, emails⟩ := s
  unfold onAccounts
  rw [Call.run_bind, Call.run_onFst, Call.run_onFst]
  rcases call.run w with ⟨result, w'⟩
  cases result <;> rfl

omit [SessionRuntime] in
theorem run_onAccounts {α : Type} (call : Service α) (f : α → AccountAnswer) (s : AccountState) :
    (onAccounts call >>= fun a => (pure (f a) : AccountCall AccountAnswer)).run s =
      ((call.run s.1.1).1.map f, ((call.run s.1.1).2, s.1.2), s.2) := by
  rw [run_onAccounts_bind]
  rcases call.run s.1.1 with ⟨result, w⟩
  cases result <;> rfl

omit [SessionRuntime] in
theorem run_setPasswordHash {w : World} {userId : String} {user : User} (passwordHash : String)
    (huser : w.users.find? userId = some user) :
    (setPasswordHash userId passwordHash).run w =
      (.ok (), w.updateUser userId (User.withPassword passwordHash)
        (User.withPassword_id passwordHash)) := by
  unfold setPasswordHash
  rw [Call.run_bind, Entity.run_update_of Prisma.user huser rfl]
  rfl

theorem changePassword_alike (cfg : ResetMailConfig) (h : AccountsOf passwords tokens b s)
    (hp : PasswordHashes passwords) {userId currentPassword newPassword : String}
    (hcurrent : currentPassword ∈ passwords) (hnew : newPassword ∈ passwords)
    (salt : List UInt8) : Alike (AccountsOf passwords tokens)
      (b.changePassword userId currentPassword newPassword)
      ((AccountOp.changePassword userId currentPassword newPassword salt).step cfg s) := by
  unfold AccountOp.step AccountOp.call
  rw [run_onAccounts]
  unfold UserAuthService.changePassword AccountBook.changePassword
  rw [Call.run_bind, Entity.run_findUnique]
  simp only [Prisma.user_get]
  have hfound := h.find? userId
  generalize b.find? userId = found at hfound
  generalize hrow : s.1.1.users.find? userId = row at hfound
  cases hfound with
  | none => exact ⟨rfl, h⟩
  | @some a u hau =>
    simp only [Option.bind_some]
    rcases hau.verifies hp hcurrent with ⟨hnone, hfilter⟩ | ⟨stored, hfilter, hverified⟩
    · rw [hfilter, if_neg (by simp [hnone])]
      exact ⟨rfl, h⟩
    · simp only [hfilter, orThrow, Call.run_lift_bind, hverified, Call.run_throwIf_bind,
        decide_eq_false_iff_not, ite_not]
      by_cases hmatch : a.password = some currentPassword
      · rw [if_pos hmatch, if_pos hmatch]
        cases hstrong : assertPasswordStrength newPassword with
        | error e => exact ⟨rfl, h⟩
        | ok =>
          obtain ⟨hash, hhash, hof⟩ := hp.hashes newPassword salt
          simp only [hhash, run_setPasswordHash hash hrow]
          exact ⟨rfl, h.setPassword userId hnew hof⟩
      · rw [if_neg hmatch, if_neg hmatch]
        exact ⟨rfl, h⟩

theorem adminSetPassword_alike (cfg : ResetMailConfig) (h : AccountsOf passwords tokens b s)
    (hp : PasswordHashes passwords) {userId newPassword : String} (hnew : newPassword ∈ passwords)
    (salt : List UInt8) : Alike (AccountsOf passwords tokens)
      (b.adminSetPassword userId newPassword)
      ((AccountOp.adminSetPassword userId newPassword salt).step cfg s) := by
  unfold AccountOp.step AccountOp.call
  rw [run_onAccounts]
  unfold UserAuthService.adminSetPassword AccountBook.adminSetPassword
  rw [Call.run_lift_bind]
  rcases checkTexts [userId] with e | _
  · exact ⟨rfl, h⟩
  simp only
  rw [Call.run_bind, Entity.run_findUnique]
  simp only [Prisma.user_get]
  have hfound := h.find? userId
  generalize b.find? userId = found at hfound
  generalize hrow : s.1.1.users.find? userId = row at hfound
  cases hfound with
  | none => exact ⟨rfl, h⟩
  | @some a u hau =>
    simp only [orThrow, Call.run_lift_bind, Option.isSome_some, if_true]
    cases hstrong : assertPasswordStrength newPassword with
    | error e => exact ⟨rfl, h⟩
    | ok =>
      obtain ⟨hash, hhash, hof⟩ := hp.hashes newPassword salt
      simp only [hhash, run_setPasswordHash hash hrow]
      exact ⟨rfl, h.setPassword userId hnew hof⟩

omit [SessionRuntime] in
/-- A record without a reason is refused for its actor only. -/
theorem run_record_actor {entry : AuditRecord} (hreason : entry.reason = none) (w : World) :
    (AuditService.record entry).run w = (checkTexts [entry.actor], w.logged entry.rows []) := by
  refine Prod.ext ?_ (run_record_rows entry w)
  rw [run_record]
  unfold checkTexts
  by_cases hactor : FitsText entry.actor
  · rw [if_pos (AuditRecord.fits_iff.mpr ⟨hactor, by simp [hreason]⟩), if_pos (by simpa using hactor)]
  · rw [if_neg (fun h => hactor (AuditRecord.fits_iff.mp h).1), if_neg (by simpa using hactor)]

theorem setUserDisabled_alike (cfg : ResetMailConfig) (h : AccountsOf passwords tokens b s)
    (userId : String) (disabled : Bool) (actor : String) : Alike (AccountsOf passwords tokens)
      (b.setUserDisabled userId disabled actor)
      ((AccountOp.setUserDisabled userId disabled actor).step cfg s) := by
  unfold AccountOp.step AccountOp.call
  rw [run_onAccounts]
  unfold AdminService.setUserDisabled AccountBook.setUserDisabled
  rw [Call.run_lift_bind]
  rcases checkTexts [userId] with e | _
  · exact ⟨rfl, h⟩
  simp only
  have hfound := h.find? userId
  generalize b.find? userId = found at hfound
  generalize hrow : s.1.1.users.find? userId = row at hfound
  cases hfound with
  | none =>
    have hmissing : (Prisma.user.update unconstrained userId (User.withDisabled disabled)
        (User.withDisabled_id disabled)).run s.1.1 = (.error (.prisma "P2025"), s.1.1) := by
      unfold Entity.update
      rw [Call.run_query, Entity.updateTx, Prisma.user_get, hrow]
      rfl
    rw [Call.run_bind, hmissing]
    exact ⟨rfl, h⟩
  | @some a u hau =>
    have hnext := h.rewrite userId (User.withDisabled_id disabled)
      fun _ _ hau => hau.map fun _ => ⟨rfl, rfl⟩
    rw [Call.run_bind, Entity.run_update_of Prisma.user hrow rfl]
    simp only [run_record_actor]
    exact ⟨rfl, hnext.users, hnext.resets, hnext.known, hnext.emails⟩

theorem setupMfa_alike (cfg : ResetMailConfig) (h : AccountsOf passwords tokens b s)
    (userId : String) (random : List UInt8) : Alike (AccountsOf passwords tokens)
      (b.setupMfa userId random) ((AccountOp.setupMfa userId random).step cfg s) := by
  unfold AccountOp.step AccountOp.call
  rw [run_onAccounts]
  unfold UserAuthService.setupMfa AccountBook.setupMfa
  rw [Call.run_bind, Entity.run_findUnique]
  simp only [Prisma.user_get]
  have hfound := h.find? userId
  generalize b.find? userId = found at hfound
  generalize hrow : s.1.1.users.find? userId = row at hfound
  cases hfound with
  | none => exact ⟨rfl, h⟩
  | @some a u hau =>
    have hnext := h.rewrite userId (User.withSecret_id (generateTotpSecret random))
      fun _ _ hau => hau.map fun _ => ⟨rfl, rfl⟩
    simp only [orThrow, Call.run_lift_bind]
    rw [Call.run_bind, Entity.run_update_of Prisma.user hrow rfl]
    simp only [Call.run_lift_bind, hau.email]
    cases SessionRuntime.toDataURL (otpauthUrl (generateTotpSecret random) u.email) with
    | error e => exact ⟨rfl, hnext⟩
    | ok qrDataUri => exact ⟨rfl, hnext⟩

theorem enableMfa_alike (cfg : ResetMailConfig) (h : AccountsOf passwords tokens b s) (now : Int)
    (userId code : String) : Alike (AccountsOf passwords tokens) (b.enableMfa now userId code)
      ((AccountOp.enableMfa now userId code).step cfg s) := by
  unfold AccountOp.step AccountOp.call
  rw [run_onAccounts]
  unfold UserAuthService.enableMfa AccountBook.enableMfa
  rw [Call.run_bind, Entity.run_findUnique]
  simp only [Prisma.user_get]
  have hfound := h.find? userId
  generalize b.find? userId = found at hfound
  generalize hrow : s.1.1.users.find? userId = row at hfound
  cases hfound with
  | none => exact ⟨rfl, h⟩
  | @some a u hau =>
    simp only [Option.bind_some, hau.mfaSecret]
    cases u.mfaSecret.filter (· ≠ "") with
    | none => exact ⟨rfl, h⟩
    | some secret =>
      simp only [orThrow, Call.run_lift_bind]
      cases verifyTotp secret code now with
      | error e => exact ⟨rfl, h⟩
      | ok verified =>
        cases verified with
        | false => exact ⟨rfl, h⟩
        | true =>
          simp only [Call.run_throwIf_bind, Bool.true_eq_false, if_false]
          rw [Call.run_bind, Entity.run_update_of Prisma.user hrow rfl]
          exact ⟨rfl, h.rewrite userId _ fun _ _ hau => hau.map fun _ => ⟨rfl, rfl⟩⟩

theorem login_alike (cfg : ResetMailConfig) (h : AccountsOf passwords tokens b s)
    (hp : PasswordHashes passwords) (clock : Clock) {dto : LoginDto}
    (hpassword : dto.password ∈ passwords) : Alike (AccountsOf passwords tokens)
      ((b.login clock dto).map .login, b) ((AccountOp.login clock dto).step cfg s) := by
  unfold AccountOp.step AccountOp.call
  rw [run_onAccounts, run_login]
  refine ⟨congrArg (Except.map AccountAnswer.login) ?_, h⟩
  unfold AccountBook.login
  refine congrArg (checkTexts [dto.email] >>= ·) (funext fun _ => ?_)
  have hfound := h.withEmail? dto.email
  generalize b.withEmail? dto.email = found at hfound
  generalize s.1.1.users.rows.find? (fun u => u.email = dto.email) = row at hfound
  cases hfound with
  | none => rfl
  | @some a u hau =>
    have hanswer : answerLogin clock dto (some u) =
        checkPassword (some u) dto.password >>= AccountBook.afterPassword clock dto := rfl
    rw [hanswer, hau.checkPassword hp hpassword]
    by_cases hright : a.user.disabled = false ∧ a.password = some dto.password
    · rw [if_pos hright, Option.filter_some_pos (by simp [hright])]
      exact afterPassword_hides hau clock dto
    · rw [if_neg hright, Option.filter_some_neg (by simpa using hright)]
      rfl

omit [Runtime] [SessionRuntime] in
/-- The password a new user gets. -/
theorem createdPassword (input : CreateUserInput) (random : String) :
    (suppliedPassword input).getD
        ((if (suppliedPassword input).isSome then none else some ("Tmp!" ++ random)).getD "") =
      (suppliedPassword input).getD ("Tmp!" ++ random) := by
  cases suppliedPassword input <;> rfl

theorem createUser_alike (cfg : ResetMailConfig) (h : AccountsOf passwords tokens b s)
    (hp : PasswordHashes passwords) (id : String) {random : String} {input : CreateUserInput}
    (hpassword : (suppliedPassword input).getD ("Tmp!" ++ random) ∈ passwords)
    (salt : List UInt8) : Alike (AccountsOf passwords tokens) (b.createUser id random input)
      ((AccountOp.createUser id random salt input).step cfg s) := by
  obtain ⟨hash, hhash, hof⟩ := hp.hashes ((suppliedPassword input).getD ("Tmp!" ++ random)) salt
  have hemail : b.accounts.any (fun a => a.user.email = input.email) =
      s.1.1.users.rows.any fun u => u.email = input.email :=
    Lib.forall₂_any h.users fun _ _ hau => by rw [hau.email]
  have hid := h.isSome_find? id
  let user : User :=
    ⟨id, input.email, input.institution, input.roles, some hash, none, false, false⟩
  unfold AccountOp.step AccountOp.call
  rw [run_onAccounts]
  unfold AdminService.createUser AccountBook.createUser
  simp only [createdPassword, hemail, hid, Call.run_lift_bind, hhash]
  rw [Call.run_bind]
  cases hcheck : checkUser input with
  | error e =>
    have hconstraints : userConstraints input s.1.1 = .error e := by
      unfold userConstraints
      rw [hcheck]
      rfl
    rw [Entity.run_create_refused Prisma.user user hconstraints]
    exact ⟨rfl, h⟩
  | ok =>
    have hconstraints : userConstraints input s.1.1 =
        checkUnique (s.1.1.users.rows.any fun u => u.email = input.email) := by
      unfold userConstraints
      rw [hcheck]
      rfl
    by_cases htaken : s.1.1.users.rows.any (fun u => u.email = input.email) = true
    · rw [htaken] at hconstraints
      rw [Entity.run_create_refused Prisma.user user hconstraints, if_pos (.inl htaken)]
      exact ⟨rfl, h⟩
    · rw [Bool.not_eq_true] at htaken
      rw [htaken] at hconstraints
      cases hfound : (s.1.1.users.find? id).isSome with
      | true =>
        rw [Entity.run_create_taken Prisma.user user hconstraints hfound, if_pos (.inr rfl)]
        exact ⟨rfl, h⟩
      | false =>
        have hfree : s.1.1.users.find? id = none :=
          Option.isNone_iff_eq_none.mp (Option.isSome_eq_false_iff.mp hfound)
        obtain ⟨t, ht, hrun⟩ := Entity.run_create_of Prisma.user user hconstraints hfree
        rw [hrun, if_neg (by simpa using htaken)]
        simp only
        rw [Call.run_bind, run_record_actor rfl]
        have husers : List.Forall₂ (Hides passwords) (b.accounts ++ [⟨{ user with
            passwordHash := none }, some ((suppliedPassword input).getD ("Tmp!" ++ random))⟩])
            t.rows := by
          rw [(Lib.Table.insert?_eq_some ht).1]
          refine List.rel_append h.users (.cons ⟨rfl, fun p hmem => ?_, .some hof⟩ .nil)
          exact Option.some.inj hmem ▸ hpassword
        -- The user is stored before the record of it, which may be refused.
        cases checkTexts [input.actor] with
        | error e => exact ⟨rfl, husers, h.resets, h.known, h.emails⟩
        | ok => exact ⟨rfl, husers, h.resets, h.known, h.emails⟩

/-! ### Tokens -/

/-- Hashes of the tokens in question are compared as the tokens are. -/
theorem AccountsOf.token_iff (h : AccountsOf passwords tokens b s)
    (ht : Set.InjOn AuthRuntime.sha256Hex {t | t ∈ tokens}) {token : String}
    (htoken : token ∈ tokens) {r : ClearReset} (hr : r ∈ b.resets) :
    r.row.tokenHash = AuthRuntime.sha256Hex token ↔ r.token = token :=
  ht.eq_iff (h.known r hr) htoken

theorem AccountsOf.any_token (h : AccountsOf passwords tokens b s)
    (ht : Set.InjOn AuthRuntime.sha256Hex {t | t ∈ tokens}) {token : String}
    (htoken : token ∈ tokens) :
    s.1.2.rows.any (fun row => row.tokenHash = AuthRuntime.sha256Hex token) =
      b.resets.any fun r => r.token = token := by
  have hall : ∀ r ∈ b.resets, ((fun row : PasswordReset =>
      decide (row.tokenHash = AuthRuntime.sha256Hex token)) ∘ ClearReset.row) r =
        decide (r.token = token) :=
    fun r hr => decide_eq_decide.mpr (h.token_iff ht htoken hr)
  rw [h.resets, List.any_map, Bool.eq_iff_iff]
  simp only [List.any_eq_true]
  exact ⟨fun ⟨r, hr, hp⟩ => ⟨r, hr, hall r hr ▸ hp⟩,
    fun ⟨r, hr, hp⟩ => ⟨r, hr, (hall r hr).symm ▸ hp⟩⟩

theorem AccountsOf.tokenRow (h : AccountsOf passwords tokens b s)
    (ht : Set.InjOn AuthRuntime.sha256Hex {t | t ∈ tokens}) {token : String}
    (htoken : token ∈ tokens) :
    TrusteeBank.tokenRow s.1 token =
      (b.resets.find? fun r => r.token = token).map ClearReset.row := by
  unfold TrusteeBank.tokenRow
  rw [h.resets, List.find?_map]
  refine congrArg (Option.map ClearReset.row) (List.find?_congr fun r hr => ?_)
  exact decide_eq_decide.mpr (h.token_iff ht htoken hr)

omit [SessionRuntime] in
theorem run_createReset (row : PasswordReset) (s : AccountState) :
    (createReset row).run s =
      if s.1.2.rows.any (fun r => r.tokenHash = row.tokenHash) then (.error (.prisma "P2002"), s)
      else match s.1.2.insert? row with
        | none => (.error (.prisma "P2002"), s)
        | some t => (.ok (), (s.1.1, t), s.2) := by
  obtain ⟨⟨w, resets⟩, emails⟩ := s
  unfold createReset
  rw [Call.run_query]
  simp only [checkUnique]
  by_cases htaken : resets.rows.any (fun r => r.tokenHash = row.tokenHash) = true
  · simp only [htaken, if_true]
    rfl
  · simp only [htaken, Bool.false_eq_true, if_false]
    cases resets.insert? row <;> rfl

theorem requestPasswordReset_alike (cfg : ResetMailConfig) (h : AccountsOf passwords tokens b s)
    (ht : Set.InjOn AuthRuntime.sha256Hex {t | t ∈ tokens}) {req : ForgotRequest}
    (htoken : req.token ∈ tokens) : Alike (AccountsOf passwords tokens)
      (b.requestPasswordReset cfg req) ((AccountOp.requestPasswordReset req).step cfg s) := by
  have hany := h.any_token ht htoken
  have hfound := h.withEmail? req.email
  show Alike _ _ ((requestPasswordReset cfg req >>= fun _ => pure AccountAnswer.done).run s)
  rw [Call.run_bind]
  unfold UserAuthService.requestPasswordReset AccountBook.requestPasswordReset
  rw [Call.run_lift_bind]
  rcases checkTexts [req.email] with e | _
  · exact ⟨rfl, h⟩
  simp only
  rw [run_onAccounts_bind, Entity.run_findFirst]
  simp only [Prisma.user_get]
  generalize b.withEmail? req.email = found at hfound
  generalize s.1.1.users.rows.find? (fun u => u.email = req.email) = row at hfound
  cases hfound with
  | none => exact ⟨rfl, h⟩
  | @some a u hau =>
    by_cases hdisabled : u.disabled = true
    · rw [Option.filter_some_neg (by simp [hau.disabled, hdisabled]),
        Option.filter_some_neg (by simp [hdisabled])]
      exact ⟨rfl, h⟩
    · rw [Option.filter_some_pos (by simp [hau.disabled, hdisabled]),
        Option.filter_some_pos (by simp [hdisabled])]
      simp only [Call.run_lift_bind]
      rcases checkDate (newDate (cfg.ttlSeconds.map fun ttl => req.now + ttl * 1000)) with
        e | expiresAt
      · exact ⟨rfl, h⟩
      · simp only
        rw [Call.run_bind, run_createReset]
        simp only [hany, ← hau.id]
        by_cases htaken : b.resets.any (fun r => r.token = req.token) = true
        · simp only [htaken, if_true, true_or]
          exact ⟨rfl, h⟩
        · simp only [htaken, Bool.false_eq_true, if_false, false_or]
          cases hinsert : s.1.2.insert? ⟨req.id, a.user.id, AuthRuntime.sha256Hex req.token,
              expiresAt, none⟩ with
          | none =>
            obtain ⟨row, hrow, hid⟩ := Lib.Table.insert?_eq_none hinsert
            rw [h.resets] at hrow
            obtain ⟨r, hr, rfl⟩ := List.mem_map.mp hrow
            rw [if_pos (List.any_eq_true.mpr ⟨r, hr, decide_eq_true hid⟩)]
            exact ⟨rfl, h⟩
          | some t =>
            obtain ⟨hrows, hfree⟩ := Lib.Table.insert?_eq_some hinsert
            have hid : ¬b.resets.any (fun r => r.id = req.id) = true := by
              intro hmem
              obtain ⟨r, hr, hid⟩ := List.any_eq_true.mp hmem
              refine Lib.Table.find?_eq_none.mp hfree r.row ?_ (of_decide_eq_true hid)
              rw [h.resets]
              exact List.mem_map_of_mem hr
            rw [if_neg hid]
            refine ⟨rfl, h.users, ?_, ?_, ?_⟩
            · show t.rows = _
              rw [hrows, h.resets, List.map_append]
              rfl
            · exact List.forall_mem_append.mpr ⟨h.known, by simpa using htoken⟩
            · show (if req.delivers then s.2 ++ [_] else s.2) = _
              rw [h.emails]
              rfl

omit [SessionRuntime] in
/-- The transaction, when both rows are there. -/
theorem resetTransaction_of {row : PasswordReset} {passwordHash : String} {usedAt : Int}
    {s : ResetState} {user : User} (huser : s.1.users.find? row.userId = some user)
    (hrow : s.2.find? row.id = some row) :
    resetTransaction row passwordHash usedAt s =
      .ok ((), s.1.updateUser row.userId (User.withPassword passwordHash)
          (User.withPassword_id passwordHash),
        s.2.modify row.id (PasswordReset.asUsed usedAt) (PasswordReset.asUsed_id usedAt)) := by
  have hid : user.id = row.userId := Lib.Table.key_of_find? huser
  unfold resetTransaction
  simp only [huser, hrow, orThrow, bind, Except.bind, pure, Except.pure, hid]
  rfl

omit [SessionRuntime] in
theorem resetTransaction_missing {row : PasswordReset} {passwordHash : String} {usedAt : Int}
    {s : ResetState} (huser : s.1.users.find? row.userId = none) :
    resetTransaction row passwordHash usedAt s = .error (.prisma "P2025") := by
  unfold resetTransaction
  simp only [huser, orThrow, bind, Except.bind]

theorem resetPassword_alike (cfg : ResetMailConfig) (h : AccountsOf passwords tokens b s)
    (hp : PasswordHashes passwords) (ht : Set.InjOn AuthRuntime.sha256Hex {t | t ∈ tokens})
    {req : ResetRequest} (hpassword : req.newPassword ∈ passwords) {token : String}
    (htoken : token ∈ tokens) : Alike (AccountsOf passwords tokens) (b.resetPassword req token)
      ((AccountOp.resetPassword req token).step cfg s) := by
  have hrow := h.tokenRow ht htoken
  obtain ⟨resetState, emails⟩ := s
  show Alike _ _ (((UserAuthService.resetPassword req token).onFst AccountStep.reset >>=
    fun _ => pure AccountAnswer.done).run (resetState, emails))
  rw [Call.run_bind, Call.run_onFst]
  unfold UserAuthService.resetPassword AccountBook.resetPassword
  rw [Call.run_read_bind, hrow]
  unfold checkReset
  have hvalid : ((b.resets.find? fun r => r.token = token).map ClearReset.row).filter
      (fun row => row.usedAt.isNone && decide (req.clock 0 ≤ row.expiresAt)) =
      ((b.resets.find? fun r => r.token = token).filter fun r =>
        r.usedAt.isNone && decide (req.clock 0 ≤ r.expiresAt)).map ClearReset.row :=
    Option.filter_map ..
  rw [hvalid]
  cases hfound : (b.resets.find? fun r => r.token = token).filter fun r =>
      r.usedAt.isNone && decide (req.clock 0 ≤ r.expiresAt) with
  | none => exact ⟨rfl, h⟩
  | some r =>
    have hr : r ∈ b.resets := List.mem_of_find?_eq_some (Option.filter_eq_some_iff.mp hfound).1
    have hstored : resetState.2.find? r.row.id = some r.row := by
      apply Lib.Table.find?_key_of_mem
      rw [h.resets]
      exact List.mem_map_of_mem hr
    simp only [Option.map_some, orThrow, Call.run_lift_bind]
    cases hstrong : assertPasswordStrength req.newPassword with
    | error e => exact ⟨rfl, h⟩
    | ok =>
      obtain ⟨hash, hhash, hof⟩ := hp.hashes req.newPassword req.salt
      simp only [hhash, h.isSome_find? r.userId]
      unfold commitReset
      rw [Call.run_bind, Call.run_query]
      cases huser : resetState.1.users.find? r.userId with
      | none =>
        rw [resetTransaction_missing huser]
        exact ⟨rfl, h⟩
      | some user =>
        rw [resetTransaction_of huser hstored]
        have hnext := h.setPassword r.userId hpassword hof
        refine ⟨rfl, hnext.users, ?_, ?_, h.emails⟩
        · show resetState.2.rows.map _ = (b.resets.map fun r' =>
            if r'.id = r.id then r'.asUsed (req.clock 1) else r').map ClearReset.row
          rw [h.resets, List.map_map, List.map_map]
          exact List.map_congr_left fun r' _ =>
            (apply_ite ClearReset.row (r'.id = r.id) (r'.asUsed (req.clock 1)) r').symm
        · refine List.forall_mem_map.mpr fun r' hr' => ?_
          split_ifs
          · exact h.known r' hr'
          · exact h.known r' hr'

/-! ## Runs -/

/-- **One operation**, on a state and on its book. -/
theorem AccountOp.alike (cfg : ResetMailConfig) (hp : PasswordHashes passwords)
    (ht : Set.InjOn AuthRuntime.sha256Hex {t | t ∈ tokens}) (b : AccountBook) (s : AccountState)
    (op : AccountOp) (h : AccountsOf passwords tokens b s)
    (hop : op.passwords ⊆ passwords ∧ op.tokens ⊆ tokens) :
    Alike (AccountsOf passwords tokens) (b.step cfg op) (op.step cfg s) := by
  cases op with
  | createUser id random salt input =>
    exact createUser_alike cfg h hp id (hop.1 (List.mem_singleton_self _)) salt
  | changePassword userId currentPassword newPassword salt =>
    obtain ⟨hcurrent, hnew⟩ := List.cons_subset.mp hop.1
    exact changePassword_alike cfg h hp hcurrent (hnew (List.mem_singleton_self _)) salt
  | adminSetPassword userId newPassword salt =>
    exact adminSetPassword_alike cfg h hp (hop.1 (List.mem_singleton_self _)) salt
  | requestPasswordReset req =>
    exact requestPasswordReset_alike cfg h ht (hop.2 (List.mem_singleton_self _))
  | resetPassword req token =>
    exact resetPassword_alike cfg h hp ht (hop.1 (List.mem_singleton_self _))
      (hop.2 (List.mem_singleton_self _))
  | login clock dto => exact login_alike cfg h hp clock (hop.1 (List.mem_singleton_self _))
  | setUserDisabled userId disabled actor => exact setUserDisabled_alike cfg h userId disabled actor
  | setupMfa userId random => exact setupMfa_alike cfg h userId random
  | enableMfa now userId code => exact enableMfa_alike cfg h now userId code

/-- **The services refine the book.** Whatever is asked, in whatever order, the answers and the
mails are those of the book with the passwords and the tokens in the clear. -/
theorem accounts_refine (cfg : ResetMailConfig) (hp : PasswordHashes passwords)
    (ht : Set.InjOn AuthRuntime.sha256Hex {t | t ∈ tokens}) {b : AccountBook} {s : AccountState}
    (h : AccountsOf passwords tokens b s) {ops : List AccountOp}
    (hops : ∀ op ∈ ops, op.passwords ⊆ passwords ∧ op.tokens ⊆ tokens) :
    (Lib.serve (fun s op => op.step cfg s) s ops).1 =
        (Lib.serve (AccountBook.step cfg) b ops).1 ∧
      (Lib.serve (fun s op => op.step cfg s) s ops).2.2 =
        (Lib.serve (AccountBook.step cfg) b ops).2.emails := by
  obtain ⟨hanswers, hlast⟩ := Lib.serve_simulates (AccountOp.alike cfg hp ht) h hops
  exact ⟨hanswers, hlast.emails⟩

end

/-! ## A forgotten password -/

namespace Sample

attribute [local instance] Runtime.ascii

/-- The salts that are drawn. -/
def firstSalt : List UInt8 := [0, 1, 2, 3, 4, 5, 6, 7, 8, 9, 10, 11, 12, 13, 14, 15]

def secondSalt : List UInt8 := [16, 17, 18, 19, 20, 21, 22, 23, 24, 25, 26, 27, 28, 29, 30, 31]

/-- A key that shows the password. -/
def clearKey (password : String) (keylen : Nat) : List UInt8 :=
  (password.toList.map (fun c : Char => UInt8.ofNat c.toNat) ++ List.replicate keylen 0).take keylen

/-- scrypt of two passwords under the two salts. Nothing is hashed under another. -/
def scryptKey (password : String) (salt : List UInt8) (keylen : Nat) : List UInt8 :=
  if salt = firstSalt ∧ password = "correct horse" then
    [37, 179, 118, 132, 3, 102, 244, 211, 176, 226, 30, 65, 68, 118, 103, 110,
      60, 208, 232, 154, 244, 67, 3, 86, 162, 52, 206, 11, 101, 160, 33, 181,
      98, 51, 231, 176, 178, 79, 7, 188, 147, 64, 25, 95, 25, 201, 10, 29,
      167, 86, 37, 20, 237, 7, 98, 166, 218, 227, 194, 127, 245, 176, 125, 98]
  else if salt = firstSalt ∧ password = "battery staple" then
    [123, 167, 223, 22, 35, 236, 238, 73, 12, 211, 113, 41, 152, 184, 184, 102,
      75, 161, 168, 160, 6, 182, 149, 206, 95, 79, 129, 209, 232, 38, 30, 145,
      221, 86, 39, 143, 204, 51, 215, 156, 50, 50, 207, 87, 179, 73, 149, 18,
      237, 84, 32, 103, 153, 179, 14, 48, 67, 84, 77, 49, 89, 162, 147, 249]
  else if salt = secondSalt ∧ password = "correct horse" then
    [120, 131, 237, 246, 95, 5, 88, 167, 242, 11, 136, 58, 37, 38, 192, 96,
      20, 24, 30, 10, 184, 147, 43, 210, 28, 50, 166, 116, 174, 206, 216, 34,
      110, 55, 99, 130, 25, 173, 70, 247, 132, 120, 104, 237, 232, 10, 250, 232,
      197, 227, 68, 107, 234, 4, 146, 79, 152, 112, 39, 145, 170, 210, 147, 55]
  else if salt = secondSalt ∧ password = "battery staple" then
    [12, 20, 85, 249, 0, 35, 142, 246, 75, 56, 53, 222, 206, 206, 32, 230,
      158, 237, 47, 160, 199, 35, 168, 219, 228, 220, 179, 10, 169, 24, 101, 59,
      37, 120, 146, 53, 50, 190, 131, 39, 248, 246, 157, 163, 187, 63, 50, 135,
      135, 53, 216, 17, 75, 89, 126, 82, 13, 229, 8, 131, 15, 173, 24, 57]
  else clearKey password keylen

/-- The token of the link. -/
def resetToken : String := "AAECAwQFBgcICQoLDA0ODxAREhMUFRYXGBkaGxwdHh8"

/-- The body and the HMAC of the session of the maker. -/
def makerBody : String :=
  .join ["eyJzdWIiOiJVMSIsImVtYWls", "IjoibWFrZXJAYmFuayIsImlu", "c3QiOiJUUlVTVEVFX0JBTksi",
    "LCJyb2xlcyI6W10sIm1mcCI6", "MSwiZXhwIjoxNzY3MjI5MjAw", "fQ"]

def makerMac : String := .join ["uznz80wiE6YmTPZRwQIM-y", "hGA3KfimvcBVaPfa_AR3s"]

def makerClaims : SessionPayload :=
  ⟨"U1", "maker@bank", "TRUSTEE_BANK", [], some 1, some 1767229200⟩

@[reducible] def clearRuntime : SessionRuntime :=
  { sessionRuntime makerClaims makerBody makerMac with
    sha256Hex := fun _ => "ea866a757e4c38babfa8127cbe9a409d3e1f93a00ff1488ff735fcf917afffd0"
    scryptSync := fun password salt keylen _ => .ok (scryptKey password salt keylen) }

attribute [local instance] clearRuntime

def somePasswords : List String := ["correct horse", "battery staple"]

theorem scryptKey_length (password : String) (salt : List UInt8) :
    (scryptKey password salt 64).length = 64 := by
  unfold scryptKey
  split_ifs
  · rfl
  · rfl
  · rfl
  · rfl
  · simp [clearKey]

theorem scryptKey_apart (salt : List UInt8) :
    scryptKey "correct horse" salt 64 ≠ scryptKey "battery staple" salt 64 := by
  by_cases hfirst : salt = firstSalt
  · rw [hfirst]
    decide +kernel
  by_cases hsecond : salt = secondSalt
  · rw [hsecond]
    decide +kernel
  have hclear (password : String) : scryptKey password salt 64 = clearKey password 64 := by
    simp [scryptKey, hfirst, hsecond]
  rw [hclear, hclear]
  decide +kernel

theorem somePasswords_apart : PasswordHashes somePasswords where
  derives password salt := ⟨_, rfl, scryptKey_length password salt⟩
  apart p hp q hq salt h := by
    have hkeys : scryptKey p salt 64 = scryptKey q salt 64 := Except.ok.inj h
    simp only [somePasswords, List.mem_cons, List.not_mem_nil, or_false] at hp hq
    obtain ⟨rfl | rfl, rfl | rfl⟩ := And.intro hp hq
    · rfl
    · exact absurd hkeys (scryptKey_apart salt)
    · exact absurd hkeys.symm (scryptKey_apart salt)
    · rfl

def resetMail : ResetMailConfig := ⟨some 3600, "https://trustee.cambobia.com", []⟩

def emptyBook : AccountBook := ⟨[], [], []⟩

theorem emptyBook_accounts :
    AccountsOf somePasswords [resetToken] emptyBook ((World.empty, .empty _), []) :=
  ⟨.nil, rfl, by simp [emptyBook], rfl⟩

def makerLogin (password : String) : AccountOp := .login newYear ⟨"maker@bank", password, none⟩

def resetWith (newPassword : String) : AccountOp :=
  .resetPassword ⟨newYear, newPassword, secondSalt⟩ resetToken

def createMaker : AccountOp :=
  .createUser "U1" "AAECAwQFBgcI" firstSalt
    { email := "maker@bank"
      displayName := "Maker"
      institution := "TRUSTEE_BANK"
      roles := []
      attributes := none
      password := some "correct horse"
      actor := "admin" }

/-- A maker is created, forgets the password, and sets another one. -/
def forgottenPassword : List AccountOp :=
  [createMaker, makerLogin "battery staple", makerLogin "correct horse",
    .requestPasswordReset ⟨"maker@bank", newYear 0, resetToken, "R1", true⟩,
    resetWith "battery staple", resetWith "correct horse",
    makerLogin "correct horse", makerLogin "battery staple"]

theorem forgottenPassword_known : ∀ op ∈ forgottenPassword,
    op.passwords ⊆ somePasswords ∧ op.tokens ⊆ [resetToken] := by
  decide +kernel

/-- The token works once, and after it the new password does. -/
theorem accounts_refine_forgotten :
    (Lib.serve (fun s op => op.step resetMail s) ((World.empty, .empty _), [])
        forgottenPassword).1.map Except.isOk =
      [true, false, true, true, true, false, false, true] := by
  have htokens : Set.InjOn AuthRuntime.sha256Hex {t | t ∈ [resetToken]} := by
    intro t ht t' ht' _
    exact (List.mem_singleton.mp ht).trans (List.mem_singleton.mp ht').symm
  rw [(accounts_refine resetMail somePasswords_apart htokens emptyBook_accounts
    forgottenPassword_known).1]
  decide +kernel

end Sample

end TrusteeBank
