import TrusteeBank.Lib.Interleave
import TrusteeBank.Api.Sessions

/-!
# Password resets

A reset token is stored as its hash, with a time of expiry. `resetPassword` reads the row of the
token, checks that it is unused and not expired, and then sets the password and marks the row in
one transaction. The transaction does not look at the row again.

**State** (`ResetInv`). As long as every transaction finds its row unused, the row is as it was at
the start and no call has succeeded, or one call has, and it has marked the row.

* `commitReset_step`: what the transaction does;
* `reset_single_use_iff`: in every state of a schedule at most one call has succeeded, and before
  the expiry, exactly when every transaction finds its row unused, at a time before the expiry;
* `reset_twice`: two calls that read the row before either marks it both set their password.
-/

set_option autoImplicit false

namespace TrusteeBank

open Lib (Call Pool)

/-! ## The service -/

structure PasswordReset where
  id : String
  userId : String
  tokenHash : String
  expiresAt : Int
  usedAt : Option Int
deriving DecidableEq, Repr

namespace PasswordReset

def asUsed (usedAt : Int) (row : PasswordReset) : PasswordReset :=
  { row with usedAt := some usedAt }

theorem asUsed_id (usedAt : Int) (row : PasswordReset) : (row.asUsed usedAt).id = row.id := rfl

end PasswordReset

namespace User

def withPassword (passwordHash : String) (u : User) : User :=
  { u with passwordHash := some passwordHash }

theorem withPassword_id (passwordHash : String) (u : User) :
    (u.withPassword passwordHash).id = u.id := rfl

end User

/-- The label of a step. -/
inductive ResetStep
  | findToken (tokenHash : String)
  | transaction (id : String)
deriving DecidableEq, Repr

/-- What one call is made with: its clock, the new password, and the salt it draws. -/
structure ResetRequest where
  clock : Clock
  newPassword : String
  salt : List UInt8

section

variable [Runtime] [SessionRuntime]

/-- The database of the services, and beside it the reset tokens. -/
abbrev ResetState := World × Lib.Table PasswordReset.id

/-- The row with the hash of a token. -/
def tokenRow (s : ResetState) (token : String) : Option PasswordReset :=
  s.2.rows.find? fun row => row.tokenHash = AuthRuntime.sha256Hex token

namespace UserAuthService

omit [Runtime] [SessionRuntime] in
def assertPasswordStrength (pw : String) : Except ApiError Unit :=
  if jsLength pw < 10 then .error (.badRequest "Password must be at least 10 characters")
  else .ok ()

/-- The transaction of both rows. -/
def resetTransaction (row : PasswordReset) (passwordHash : String) (usedAt : Int) :
    StateT ResetState (Except ApiError) Unit := fun (w, resets) => do
  let user ← orThrow (w.users.find? row.userId) (.prisma "P2025")
  let row ← orThrow (resets.find? row.id) (.prisma "P2025")
  let users := w.users.modify user.id (User.withPassword passwordHash)
    (User.withPassword_id passwordHash)
  return ((), { w with users }, resets.modify row.id (PasswordReset.asUsed usedAt)
    (PasswordReset.asUsed_id usedAt))

/-- What is left to do when the checks have passed. -/
def commitReset (row : PasswordReset) (passwordHash : String) (usedAt : Int) :
    Call ResetStep ResetState ApiError Bool := do
  Call.query (.transaction row.id) (resetTransaction row passwordHash usedAt)
  return true

/-- What is left to do with the row that was found. -/
def checkReset (req : ResetRequest) (found : Option PasswordReset) :
    Call ResetStep ResetState ApiError Bool := do
  let valid := found.filter fun row => row.usedAt.isNone && req.clock 0 ≤ row.expiresAt
  let row ← orThrow valid (.unauthorized "Invalid or expired reset token")
  assertPasswordStrength req.newPassword
  let passwordHash ← hashPassword req.newPassword req.salt
  commitReset row passwordHash (req.clock 1)

/-- Complete a reset with a valid token. -/
def resetPassword (req : ResetRequest) (token : String) :
    Call ResetStep ResetState ApiError Bool := do
  let found ← Call.read (.findToken (AuthRuntime.sha256Hex token)) fun s => tokenRow s token
  checkReset req found

end UserAuthService

open UserAuthService

/-! ## The transaction -/

omit [SessionRuntime] in
/-- **What the transaction does**: it marks the row with the key of the one that was read. -/
theorem resetTransaction_ok {row : PasswordReset} {passwordHash : String} {usedAt : Int}
    {s s' : ResetState} {u : Unit} (h : resetTransaction row passwordHash usedAt s = .ok (u, s')) :
    (s.1.users.find? row.userId).isSome ∧ (s.2.find? row.id).isSome ∧
      s'.2 = s.2.modify row.id (PasswordReset.asUsed usedAt) (PasswordReset.asUsed_id usedAt) := by
  obtain ⟨user, huser, h⟩ := bind_eq_ok.mp h
  obtain ⟨found, hfound, h⟩ := bind_eq_ok.mp h
  cases h
  have huser := orThrow_eq_ok.mp huser
  have hfound := orThrow_eq_ok.mp hfound
  refine ⟨by rw [huser]; rfl, by rw [hfound]; rfl, ?_⟩
  rw [Lib.Table.key_of_find? hfound]

omit [SessionRuntime] in
theorem resetTransaction_error {row : PasswordReset} {passwordHash : String} {usedAt : Int}
    {s : ResetState} {e : ApiError} (h : resetTransaction row passwordHash usedAt s = .error e) :
    ¬((s.1.users.find? row.userId).isSome ∧ (s.2.find? row.id).isSome) := by
  rintro ⟨huser, hfound⟩
  obtain ⟨user, huser⟩ := Option.isSome_iff_exists.mp huser
  obtain ⟨found, hfound⟩ := Option.isSome_iff_exists.mp hfound
  simp only [resetTransaction, huser, hfound, orThrow, bind, Except.bind, pure, Except.pure] at h
  exact absurd h.symm error_ne_ok

theorem tokenRow_find? {s : ResetState} {token : String} {row : PasswordReset}
    (h : tokenRow s token = some row) : s.2.find? row.id = some row :=
  Lib.Table.find?_key_of_mem (List.mem_of_find?_eq_some h)

/-- Marking a row leaves the hashes alone. -/
theorem tokenRow_marked {s s' : ResetState} {token id : String} {usedAt : Int}
    (h : s'.2 = s.2.modify id (PasswordReset.asUsed usedAt) (PasswordReset.asUsed_id usedAt)) :
    tokenRow s' token = (tokenRow s token).map fun row =>
      if row.id = id then row.asUsed usedAt else row := by
  unfold tokenRow
  rw [h]
  exact Lib.Table.find?_rows_modify _ _ _ _ fun _ => rfl

/-! ## At the same time -/

section

variable {ι : Type} [DecidableEq ι]

abbrev ResetPool (ι : Type) := Pool ι ResetStep ResetState ApiError Bool

/-- Calls with the same token, each with its own clock, password and salt. -/
def resetPool (s : ResetState) (token : String) (requests : ι → ResetRequest) : ResetPool ι :=
  Pool.start s fun i => resetPassword (requests i) token

/-- The call returned `{ reset: true }`. -/
def Succeeded (p : ResetPool ι) (i : ι) : Prop := p.calls i = .done (.ok true)

/-- At most one call has succeeded, with a token that was unused, and before its expiry. -/
structure ResetOnce (s : ResetState) (token : String) (requests : ι → ResetRequest)
    (p : ResetPool ι) : Prop where
  once : ∀ i j, Succeeded p i → Succeeded p j → i = j
  valid : ∀ i, Succeeded p i → ∃ row, tokenRow s token = some row ∧ row.usedAt = none ∧
    (requests i).clock 1 ≤ row.expiresAt

/-- A transaction that can be stored finds its row unused, and notes a time before the expiry. -/
def MarksUnused (requests : ι → ResetRequest) (p : ResetPool ι) (i : ι) : Prop :=
  ∀ id, (p.calls i).next? = some (.transaction id) → ∀ row ∈ p.state.2.find? id,
    (p.state.1.users.find? row.userId).isSome →
      row.usedAt = none ∧ (requests i).clock 1 ≤ row.expiresAt

/-- Where a call can be: before its read, before its transaction, or done. -/
inductive ResetShape (s : ResetState) (token : String) (req : ResetRequest) :
    Call ResetStep ResetState ApiError Bool → Prop
  | start : ResetShape s token req (resetPassword req token)
  | checked {row : PasswordReset} {passwordHash : String} (hrow : tokenRow s token = some row)
      (hunused : row.usedAt = none) :
      ResetShape s token req (commitReset row passwordHash (req.clock 1))
  | ended {result : Except ApiError Bool} : ResetShape s token req (.done result)

/-- The row of the token: as at the start, or marked by the one call that has succeeded. -/
inductive TokenState (s : ResetState) (token : String) (requests : ι → ResetRequest)
    (p : ResetPool ι) : Prop
  | untouched (hrow : tokenRow p.state token = tokenRow s token) (hnone : ∀ i, ¬Succeeded p i) :
      TokenState s token requests p
  | used {row : PasswordReset} {j : ι} (hrow : tokenRow s token = some row)
      (hunused : row.usedAt = none) (hfresh : (requests j).clock 1 ≤ row.expiresAt)
      (hmarked : tokenRow p.state token = some (row.asUsed ((requests j).clock 1)))
      (hj : Succeeded p j) (honly : ∀ i, Succeeded p i → i = j) : TokenState s token requests p

structure ResetInv (s : ResetState) (token : String) (requests : ι → ResetRequest)
    (p : ResetPool ι) : Prop where
  shape : ∀ i, ResetShape s token (requests i) (p.calls i)
  token : TokenState s token requests p

omit [DecidableEq ι] in
theorem ResetInv.resetOnce {s : ResetState} {token : String} {requests : ι → ResetRequest}
    {p : ResetPool ι} (h : ResetInv s token requests p) : ResetOnce s token requests p := by
  cases h.token with
  | untouched _ hnone => exact ⟨fun i _ hi => absurd hi (hnone i), fun i hi => absurd hi (hnone i)⟩
  | used hrow hunused hfresh _ _ honly =>
    refine ⟨fun i k hi hk => (honly i hi).trans (honly k hk).symm, fun i hi => ?_⟩
    obtain rfl := honly i hi
    exact ⟨_, hrow, hunused, hfresh⟩

/-! ### What one step does -/

omit [DecidableEq ι] [SessionRuntime] in
theorem commitReset_ne_done (row : PasswordReset) (passwordHash : String) (usedAt : Int)
    (result : Except ApiError Bool) : commitReset row passwordHash usedAt ≠ .done result := by
  intro h
  cases h

/-- A call that has found the row unused goes on with it, and any other ends in an error. -/
theorem checkReset_shape {s : ResetState} {token : String} {found : Option PasswordReset}
    (hfound : ∀ row ∈ found, row.usedAt = none → tokenRow s token = some row)
    (req : ResetRequest) :
    ResetShape s token req (checkReset req found) ∧ checkReset req found ≠ .done (.ok true) := by
  have herror : ∀ e : ApiError, ResetShape s token req (.done (.error e)) ∧
      (Call.done (.error e) : Call ResetStep ResetState ApiError Bool) ≠ .done (.ok true) :=
    fun e => ⟨.ended, by simp⟩
  simp only [checkReset]
  cases hvalid : found.filter fun row => row.usedAt.isNone && req.clock 0 ≤ row.expiresAt with
  | none => exact herror _
  | some row =>
    obtain ⟨hsome, hcheck⟩ := Option.filter_eq_some_iff.mp hvalid
    have hunused : row.usedAt = none := by
      simp only [Bool.and_eq_true, Option.isNone_iff_eq_none] at hcheck
      exact hcheck.1
    cases hstrong : assertPasswordStrength req.newPassword with
    | error e => exact herror e
    | ok u =>
      cases hhash : hashPassword req.newPassword req.salt with
      | error e => exact herror e
      | ok passwordHash =>
        exact ⟨.checked (hfound row hsome hunused) hunused, commitReset_ne_done row _ _ _⟩

omit [SessionRuntime] in
/-- **What the last step does**: it marks the row and succeeds, or a row is missing and nothing is
stored. -/
theorem commitReset_step {p : ResetPool ι} {i : ι} {row : PasswordReset} {passwordHash : String}
    {usedAt : Int} (h : p.calls i = commitReset row passwordHash usedAt) :
    ((p.state.1.users.find? row.userId).isSome ∧ (p.state.2.find? row.id).isSome ∧
      ∃ s' : ResetState, s'.2 = p.state.2.modify row.id (PasswordReset.asUsed usedAt)
          (PasswordReset.asUsed_id usedAt) ∧
        p.step i = ⟨s', Function.update p.calls i (.done (.ok true)),
          (i, .transaction row.id) :: p.history⟩) ∨
    (¬((p.state.1.users.find? row.userId).isSome ∧ (p.state.2.find? row.id).isSome) ∧
      ∃ e, p.step i = ⟨p.state, Function.update p.calls i (.done (.error e)),
        (i, .transaction row.id) :: p.history⟩) := by
  have hstep := Pool.step_query_bind h
  cases hrun : resetTransaction row passwordHash usedAt p.state with
  | error e =>
    rw [hrun] at hstep
    exact .inr ⟨resetTransaction_error hrun, e, hstep⟩
  | ok result =>
    obtain ⟨u, s'⟩ := result
    rw [hrun] at hstep
    obtain ⟨huser, hrow, hmarked⟩ := resetTransaction_ok hrun
    exact .inl ⟨huser, hrow, s', hmarked, hstep⟩

omit [DecidableEq ι] in
/-- The row that a call has read is still there, used or not. -/
theorem TokenState.find? {s : ResetState} {token : String} {requests : ι → ResetRequest}
    {p : ResetPool ι} (h : TokenState s token requests p) {row : PasswordReset}
    (hrow : tokenRow s token = some row) : ∃ found, p.state.2.find? row.id = some found ∧
      tokenRow p.state token = some found ∧ found.userId = row.userId := by
  cases h with
  | untouched hsame _ =>
    have hfound := hsame.trans hrow
    exact ⟨row, tokenRow_find? hfound, hfound, rfl⟩
  | @used row' j hrow' _ _ hmarked _ _ =>
    obtain rfl : row = row' := Option.some.inj (hrow.symm.trans hrow')
    exact ⟨row.asUsed ((requests j).clock 1), tokenRow_find? hmarked, hmarked, rfl⟩

/-- A step with which no call succeeds, and that leaves the state alone. -/
theorem TokenState.quiet {s : ResetState} {token : String} {requests : ι → ResetRequest}
    {p : ResetPool ι} (h : TokenState s token requests p) {i : ι}
    {x : Call ResetStep ResetState ApiError Bool} (hi : ¬Succeeded p i) (hx : x ≠ .done (.ok true))
    (history : List (ι × ResetStep)) :
    TokenState s token requests ⟨p.state, Function.update p.calls i x, history⟩ := by
  have hiff : ∀ j, Succeeded ⟨p.state, Function.update p.calls i x, history⟩ j ↔ Succeeded p j := by
    intro j
    rcases Lib.update_cases p.calls i x j with ⟨rfl, hj⟩ | ⟨-, hj⟩
    · exact iff_of_false (fun h => hx (hj.symm.trans h)) hi
    · simp only [Succeeded, hj]
  cases h with
  | untouched hsame hnone => exact .untouched hsame fun j hj => hnone j ((hiff j).mp hj)
  | used hrow hunused hfresh hmarked hj honly =>
    exact .used hrow hunused hfresh hmarked ((hiff _).mpr hj) fun k hk => honly k ((hiff k).mp hk)

/-- **What one step does** (of a call that has still to do something). -/
theorem ResetInv.step {s : ResetState} {token : String} {requests : ι → ResetRequest}
    {p : ResetPool ι} {i : ι} (h : ResetInv s token requests p) (hi : MarksUnused requests p i) :
    ResetInv s token requests (p.step i) := by
  have hshape := h.shape i
  generalize hcall : p.calls i = x at hshape
  -- the shapes after a step: that of the call, and the others as they were
  have hshapes : ∀ (s' : ResetState) (x' : Call ResetStep ResetState ApiError Bool)
      (history : List (ι × ResetStep)), ResetShape s token (requests i) x' →
        ∀ j, ResetShape s token (requests j)
          ((⟨s', Function.update p.calls i x', history⟩ : ResetPool ι).calls j) := by
    intro s' x' history hx' j
    rcases Lib.update_cases p.calls i x' j with ⟨rfl, hj⟩ | ⟨-, hj⟩ <;> simp only [hj]
    · exact hx'
    · exact h.shape j
  cases hshape with
  | ended =>
    rw [Pool.step_of_done hcall]
    exact h
  | start =>
    have hnot : ¬Succeeded p i := by
      intro hdone
      cases hcall.symm.trans hdone
    have hfound : ∀ row ∈ tokenRow p.state token, row.usedAt = none →
        tokenRow s token = some row := by
      intro row hrow hunused
      cases h.token with
      | untouched hsame _ => exact hsame.symm.trans hrow
      | used _ _ _ hmarked _ _ =>
        obtain rfl := Option.some.inj (hmarked.symm.trans hrow)
        cases hunused
    obtain ⟨hnext, hne⟩ := checkReset_shape hfound (requests i)
    rw [Pool.step_read_bind hcall]
    exact ⟨hshapes _ _ _ hnext, h.token.quiet hnot hne _⟩
  | @checked row passwordHash hrow hunused =>
    have hnot : ¬Succeeded p i :=
      fun hdone => commitReset_ne_done row _ _ _ (hcall.symm.trans hdone)
    rcases commitReset_step hcall with ⟨huser, -, s', hmarked, hstep⟩ | ⟨-, e, hstep⟩
    · obtain ⟨found, hfound, htoken, huserId⟩ := h.token.find? hrow
      obtain ⟨hfoundUnused, hfresh⟩ := hi row.id (by rw [hcall]; rfl) found hfound
        (by rw [huserId]; exact huser)
      rw [hstep]
      refine ⟨hshapes _ _ _ .ended, ?_⟩
      cases h.token with
      | used _ _ _ hmarked' _ _ =>
        obtain rfl := Option.some.inj (hmarked'.symm.trans htoken)
        cases hfoundUnused
      | untouched hsame hnone =>
        obtain rfl : row = found := Option.some.inj (hrow.symm.trans (hsame.symm.trans htoken))
        refine .used (j := i) hrow hunused hfresh ?_ (Function.update_self ..) ?_
        · show tokenRow s' token = _
          rw [tokenRow_marked hmarked, htoken]
          simp
        · intro j hj
          rcases Lib.update_cases p.calls i (.done (.ok true)) j with ⟨hji, -⟩ | ⟨-, hother⟩
          · exact hji
          · exact absurd (hother.symm.trans hj) (hnone j)
    · rw [hstep]
      exact ⟨hshapes _ _ _ .ended, h.token.quiet hnot (by simp) _⟩

/-- A transaction that is stored although the row is used, or too late, breaks single use. -/
theorem ResetInv.marksUnused {s : ResetState} {token : String} {requests : ι → ResetRequest}
    {p : ResetPool ι} {i : ι} (h : ResetInv s token requests p)
    (hafter : ResetOnce s token requests (p.step i)) : MarksUnused requests p i := by
  have hshape := h.shape i
  generalize hcall : p.calls i = x at hshape
  intro id hnext found hfound huser
  rw [hcall] at hnext
  cases hshape with
  | ended => cases hnext
  | start => cases hnext
  | @checked row passwordHash hrow hunused =>
    obtain rfl : row.id = id := ResetStep.transaction.inj (Option.some.inj hnext)
    obtain ⟨found', hfound', htoken, huserId⟩ := h.token.find? hrow
    obtain rfl : found = found' := Option.some.inj (hfound.symm.trans hfound')
    rcases commitReset_step hcall with ⟨-, -, s', -, hstep⟩ | ⟨hmissing, -⟩
    · have hi : Succeeded (p.step i) i := by
        rw [hstep]
        exact Function.update_self ..
      cases h.token with
      | untouched hsame _ =>
        obtain rfl : row = found := Option.some.inj (hrow.symm.trans (hsame.symm.trans htoken))
        obtain ⟨row', hrow', -, hfresh⟩ := hafter.valid i hi
        obtain rfl : row = row' := Option.some.inj (hrow.symm.trans hrow')
        exact ⟨hunused, hfresh⟩
      | @used _ j _ _ _ _ hj _ =>
        have hne : j ≠ i := by
          rintro rfl
          exact commitReset_ne_done row _ _ _ (hcall.symm.trans hj)
        have hj' : Succeeded (p.step i) j := by
          rw [hstep]
          exact (Function.update_of_ne hne ..).trans hj
        exact absurd (hafter.once j i hj' hi) hne
    · exact absurd ⟨by rw [← huserId]; exact huser, by rw [hfound']; rfl⟩ hmissing

omit [DecidableEq ι] in
theorem ResetInv.start (s : ResetState) (token : String) (requests : ι → ResetRequest) :
    ResetInv s token requests (resetPool s token requests) where
  shape _ := .start
  token := .untouched rfl fun i hi => by cases hi

/-- **Single use.** In every state of a schedule at most one of the calls with a token has
succeeded, the token was unused before, and not after its expiry, exactly when each transaction
that can be stored finds the row unused, at a time not after the expiry. -/
theorem reset_single_use_iff (s : ResetState) (token : String) (requests : ι → ResetRequest)
    (schedule : List ι) :
    (∀ p ∈ Lib.history Pool.step (resetPool s token requests) schedule,
        ResetOnce s token requests p) ↔
      Lib.Meets Pool.step (MarksUnused requests) (resetPool s token requests) schedule :=
  Lib.history_iff (fun _ _ => ResetInv.step) (fun _ => ResetInv.resetOnce)
    (fun _ _ => ResetInv.marksUnused) (ResetInv.start s token requests)

end

end

/-! ## Two calls with one token -/

attribute [local instance] Runtime.ascii

namespace Sample

/-- The salt both calls draw. -/
def resetSalt : List UInt8 := [0, 1, 2, 3, 4, 5, 6, 7, 8, 9, 10, 11, 12, 13, 14, 15]

/-- scrypt of the two passwords under this salt. -/
def resetKey (password : String) : List UInt8 :=
  if password = "first password" then
    [130, 175, 136, 115, 27, 175, 214, 213, 73, 124, 40, 146, 88, 62, 67, 81,
      245, 101, 106, 141, 147, 216, 93, 250, 112, 220, 58, 204, 29, 184, 91, 182,
      133, 26, 194, 142, 45, 180, 46, 166, 34, 55, 46, 55, 98, 85, 93, 85,
      191, 69, 236, 170, 140, 81, 49, 178, 209, 109, 28, 166, 123, 164, 101, 24]
  else
    [238, 164, 152, 225, 32, 50, 17, 191, 235, 217, 129, 63, 98, 35, 227, 58,
      198, 17, 216, 131, 128, 34, 211, 137, 38, 38, 210, 203, 72, 24, 204, 33,
      72, 196, 159, 220, 237, 118, 187, 103, 75, 202, 92, 73, 48, 101, 64, 172,
      44, 8, 135, 214, 204, 30, 47, 162, 60, 196, 131, 94, 44, 88, 64, 42]

/-- SHA-256 of the text `token`. -/
def resetTokenHash : String := "3c469e9d6c5875d37a43f353d4f88e61fcf812c66eee3457465a40b0da4153e0"

@[reducible] def resetRuntime : SessionRuntime :=
  { sessionRuntime (operatorClaims 0) "body" "mac" with
    sha256Hex := fun _ => resetTokenHash
    scryptSync := fun password _ _ _ => .ok (resetKey password) }

end Sample

attribute [local instance] Sample.resetRuntime

namespace Sample

/-- The token `"token"` of the operator, unused. -/
def resetRow : PasswordReset := ⟨"R1", "U1", resetTokenHash, 1767227400000, none⟩

theorem resetRow_nodup : ([resetRow].map PasswordReset.id).Nodup := List.nodup_singleton _

def resetState : ResetState := ((authState none false).world, ⟨[resetRow], resetRow_nodup⟩)

/-- Each call has a password of its own. -/
def resetRequests (i : Bool) : ResetRequest :=
  ⟨newYear, if i then "first password" else "second password", resetSalt⟩

end Sample

/-- Two calls that read the row before either marks it both set their password. -/
theorem reset_twice : ¬∀ [Runtime] [SessionRuntime] (ι : Type) [DecidableEq ι] (s : ResetState)
    (token : String) (requests : ι → ResetRequest) (schedule : List ι),
      ∀ p ∈ Lib.history Pool.step (resetPool s token requests) schedule,
        ResetOnce s token requests p := by
  intro h
  have hlast := @h Runtime.ascii Sample.resetRuntime Bool _ Sample.resetState "token"
    Sample.resetRequests [true, false, true, false] _ (Lib.last_mem_history _ _)
  have hsame := hlast.once true false rfl rfl
  cases hsame

end TrusteeBank
