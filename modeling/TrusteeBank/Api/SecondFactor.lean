import TrusteeBank.Api.Sessions

/-!
# The second factor of an enrolled user

Enrollment is open to any session, so that an operator without a second factor can set one up.
The tokens that were issued before it was confirmed are sessions too, for as long as they live.

* `FactorsVerified.step`: a login finds the second factor enabled only if it verified a code;
* `second_factor_kept`: an enrolled user's second factor changes through a verified session only,
  in every run in which no token from before the enrollment rewrites it;
* `second_factor_reset`: such a token does rewrite it.
-/

set_option autoImplicit false

namespace TrusteeBank

open Lib (Meets)

section

variable [Runtime]

/-- `mfaEnabled` and `mfaSecret` of a user. -/
def secondFactorOf (w : World) (userId : String) : Option (Bool × Option String) :=
  (w.users.find? userId).map fun u => (u.mfaEnabled, u.mfaSecret)

theorem secondFactorOf_updateUser {w : World} {id : String} {f : User → User}
    (hf : ∀ u, (f u).id = u.id) (hfactor : ∀ u, (f u).mfaEnabled = u.mfaEnabled ∧
      (f u).mfaSecret = u.mfaSecret) (userId : String) :
    secondFactorOf (w.updateUser id f hf) userId = secondFactorOf w userId := by
  unfold secondFactorOf World.updateUser
  rw [Lib.Table.find?_modify]
  split_ifs with hid
  · subst hid
    simp [Function.comp_def, hfactor]
  · rfl

variable [SessionRuntime]

/-- The request writes another second factor than the user has: a secret that is not the pending
one already, or the confirmation of a pending secret. -/
def AuthOp.Rewrites (w : World) (userId : String) : AuthOp → Prop
  | .setup _ _ random =>
    secondFactorOf w userId ≠ some (false, some (generateTotpSecret random))
  | .enable clock _ code => ∃ secret, secondFactorOf w userId = some (false, some secret) ∧
      verifyTotp secret code (clock 1) = .ok true
  | _ => False

/-- No token that was issued while the second factor was off rewrites the one of an enrolled
user. -/
def AuthOp.SparesEnrolled (st : AuthState) (op : AuthOp) : Prop :=
  ∀ s ∈ st.sessions, op.token = some s.token → s.claims.sub ∈ st.enrolled →
    op.Rewrites st.world s.claims.sub →
    ∃ s' ∈ st.sessions, s'.claims = s.claims ∧ s'.mfaEnabled = true

/-- **The second factor of an enrolled user changes through a verified session only**: the token of
the request was issued to that user by a login that verified a code against the secret enabled at
the time. -/
def AuthOp.KeepsSecondFactor (st : AuthState) (op : AuthOp) : Prop :=
  ∀ userId ∈ st.enrolled,
    secondFactorOf (op.step st).world userId ≠ secondFactorOf st.world userId →
    ∃ s ∈ st.sessions, op.token = some s.token ∧ s.claims.sub = userId ∧ s.secondFactor.isSome

/-- A login found the second factor enabled only if it verified a code against it. -/
def FactorsVerified (st : AuthState) : Prop :=
  ∀ s ∈ st.sessions, s.mfaEnabled = true → s.secondFactor.isSome

theorem FactorsVerified.step {st : AuthState} (h : FactorsVerified st) (op : AuthOp) :
    FactorsVerified (op.step st) := by
  cases op with
  | login clock dto =>
    intro s hs
    rcases List.mem_append.mp hs with hs | hs
    · exact h s hs
    · obtain ⟨-, -, -, -, -, -, hverified⟩ := session_of_login hs
      exact hverified
  | setup clock authz random => exact h
  | enable clock authz code => exact h
  | admin op =>
    intro s hs
    simp only [AuthOp.step, administered] at hs
    split_ifs at hs
    · obtain ⟨s₀, hs₀, rfl⟩ := List.mem_map.mp hs
      rw [(s₀.after_factor op).1, (s₀.after_factor op).2]
      exact h s₀ hs₀
    · exact h s hs
  | request r => exact h

/-- A setup by the user of a session. -/
theorem step_setup_of (st : AuthState) (clock : Clock) (authz : Option String)
    (random : List UInt8) {p : UserPrincipal} {user : User}
    (hp : AuthController.principal (clock 0) authz = .ok p)
    (huser : st.world.users.find? p.userId = some user) :
    (AuthOp.setup clock authz random).step st =
      { st with
        world := st.world.updateUser p.userId (User.withSecret (generateTotpSecret random))
          (User.withSecret_id _) } := by
  simp only [AuthOp.step, AuthController.run_setup_of hp huser]

/-- Its confirmation with a code of the secret. -/
theorem step_enable_of (st : AuthState) (clock : Clock) (authz : Option String)
    (code : String) {secret : String} {p : UserPrincipal} {user : User}
    (hp : AuthController.principal (clock 0) authz = .ok p)
    (huser : st.world.users.find? p.userId = some user) (hsecret : user.mfaSecret = some secret)
    (hnonempty : secret ≠ "") (hverified : verifyTotp secret code (clock 1) = .ok true) :
    (AuthOp.enable clock authz code).step st =
      { st with
        world := st.world.updateUser p.userId User.withMfa User.withMfa_id
        enrolled := st.enrolled ++ [p.userId] } := by
  simp only [AuthOp.step, enrolledBy, hp,
    AuthController.run_enable_of hp huser hsecret hnonempty hverified]

/-- What changes a second factor: a request of the enrollment, by a session of that user. -/
theorem changed_by {st : AuthState} {op : AuthOp} (hauth : Authentic st op) {userId : String}
    (h : secondFactorOf (op.step st).world userId ≠ secondFactorOf st.world userId) :
    ∃ s ∈ st.sessions, op.token = some s.token ∧ s.claims.sub = userId ∧
      op.Rewrites st.world userId := by
  cases op with
  | login clock dto =>
    rw [step_login_world] at h
    exact absurd rfl h
  | setup clock authz random =>
    rcases AuthController.setup_state clock authz random st.world with
      hw | ⟨p, user, hp, huser, hw⟩ <;> simp only [AuthOp.step, hw] at h
    · exact absurd rfl h
    obtain ⟨s, hs, htoken, hsub⟩ := principal_issued hauth rfl hp
    by_cases hid : userId = p.userId
    · subst hid
      refine ⟨s, hs, htoken, hsub.symm, fun hsame => h ?_⟩
      rw [hsame]
      unfold secondFactorOf
      rw [find?_updateUser huser]
      rfl
    · unfold secondFactorOf at h
      rw [find?_updateUser_of_ne hid] at h
      exact absurd rfl h
  | enable clock authz code =>
    rcases AuthController.enable_state clock authz code st.world with
      ⟨hw, -⟩ | ⟨p, user, secret, hp, huser, hsecret, hverified, hw⟩ <;>
      simp only [AuthOp.step, hw] at h
    · exact absurd rfl h
    obtain ⟨s, hs, htoken, hsub⟩ := principal_issued hauth rfl hp
    by_cases hid : userId = p.userId
    · subst hid
      refine ⟨s, hs, htoken, hsub.symm, secret, ?_, hverified⟩
      unfold secondFactorOf at h ⊢
      rw [find?_updateUser huser] at h
      simp only [huser, Option.map_some, User.withMfa] at h ⊢
      cases hon : user.mfaEnabled with
      | true => exact absurd (by rw [hon]) h
      | false => rw [hsecret]
    · unfold secondFactorOf at h
      rw [find?_updateUser_of_ne hid] at h
      exact absurd rfl h
  | admin op =>
    refine absurd ?_ h
    have hserved := op.served st.world
    simp only [AuthOp.step]
    generalize op.call.run st.world = out at hserved ⊢
    cases hserved with
    | failed e => rfl
    | done he rows events =>
      cases he with
      | @rolesSet _ roles _ _ _ _ =>
        exact secondFactorOf_updateUser (w := st.world) (User.withRoles_id roles)
          (fun _ => ⟨rfl, rfl⟩) userId
      | @disabledSet _ disabled _ _ _ _ =>
        exact secondFactorOf_updateUser (w := st.world) (User.withDisabled_id disabled)
          (fun _ => ⟨rfl, rfl⟩) userId
      | roleCreated _ => rfl
      | roleRewritten _ _ => rfl
      | roleDeleted _ _ => rfl
  | request r => exact absurd rfl h

theorem FactorsVerified.keeps {st : AuthState} (h : FactorsVerified st) {op : AuthOp}
    (hauth : Authentic st op) (hspares : op.SparesEnrolled st) : op.KeepsSecondFactor st := by
  intro userId henrolled hchanged
  obtain ⟨s, hs, htoken, rfl, hrewrites⟩ := changed_by hauth hchanged
  obtain ⟨s', hs', hclaims, hon⟩ := hspares s hs htoken henrolled hrewrites
  have hsame : s'.token = s.token := by
    unfold Session.token
    rw [hclaims]
  exact ⟨s', hs', hsame ▸ htoken, by rw [hclaims], h s' hs' hon⟩

/-- **The second factor of an enrolled user changes through a verified session only**, in every run
in which no token issued while it was off rewrites it. -/
theorem second_factor_kept {st : AuthState} (hsessions : st.sessions = []) {ops : List AuthOp}
    (hauth : Meets AuthOp.step Authentic st ops)
    (hspares : Meets AuthOp.step (fun st op => op.SparesEnrolled st) st ops) :
    Meets AuthOp.step (fun st op => op.KeepsSecondFactor st) st ops := by
  have hverified : FactorsVerified st := by
    intro s hs
    rw [hsessions] at hs
    cases hs
  exact Lib.meets_inv (fun st op h _ => h.step op) (fun st op h hop => h.keeps hop.1 hop.2)
    hverified (hauth.and hspares)

end

/-! ## Enrollments -/

namespace Sample

attribute [local instance] Runtime.ascii

/-- The body and the HMAC of the token of an operator without a second factor. -/
def pendingBody : String :=
  .join ["eyJzdWIiOiJVMSIsImVtYWls", "Ijoib3BlcmF0b3JAYmFuayIs", "Imluc3QiOiJUUlVTVEVFX0JB",
    "TksiLCJyb2xlcyI6WyJzZWN1", "cml0eV9hZG1pbiJdLCJtZnAi", "OjEsImV4cCI6MTc2NzIyOTIw", "MH0"]

def pendingMac : String := .join ["ikGroGAFzomZCiuhAEtf2g", "0vjnlaiVt-TRLuEZ6UiGc"]

@[reducible] def pendingRuntime : SessionRuntime :=
  sessionRuntime (operatorClaims 1) pendingBody pendingMac

def pendingToken : String := pendingBody ++ "." ++ pendingMac

theorem pendingToken_noSpace : ∀ c ∈ pendingToken.toList, isJsSpace c = false :=
  signed_noSpace (join_noSpace (by decide +kernel)) (join_noSpace (by decide +kernel))

/-- The session of an operator without a second factor. -/
def pendingSession : Session where
  claims := operatorClaims 1
  mfaEnabled := false
  secondFactor := none
  disabled := false
  lost := []

def pendingUser : UserPrincipal :=
  ⟨"U1", "operator@bank", "TRUSTEE_BANK", ["security_admin"], true⟩

/-- The operator is logged in. -/
def pendingOperator : AuthState := { authState none false with sessions := [pendingSession] }

/-- A setup with a token, which draws the bytes given. -/
def setUp (token : String) (random : List UInt8) : AuthOp :=
  .setup newYear (some ("Bearer " ++ token)) random

/-- The bytes of the secret. -/
def firstRandom : List UInt8 := (List.range 20).map fun i => UInt8.ofNat (i + 1)

def secondRandom : List UInt8 := List.replicate 20 0

/-- The enrollment is confirmed with a code of the secret. -/
def confirmEnrollment : AuthOp := .enable newYear (some ("Bearer " ++ pendingToken)) "383837"

theorem setUp_token {token : String} (h : ∀ c ∈ token.toList, isJsSpace c = false)
    (random : List UInt8) : (setUp token random).token = some token :=
  congrArg some (bearerToken_bearer h)

theorem confirmEnrollment_token : confirmEnrollment.token = some pendingToken :=
  congrArg some (bearerToken_bearer pendingToken_noSpace)

section

attribute [local instance] pendingRuntime

theorem firstSecret_code :
    verifyTotp (generateTotpSecret firstRandom) "383837" 1767225600000 = .ok true := by
  decide +kernel

-- A code of another secret does not confirm it.
example : verifyTotp (generateTotpSecret firstRandom) "000000" 1767225600000 = .ok false := by
  decide +kernel

theorem logIn_pending : (logIn none).step (authState none false) = pendingOperator := by
  have hanswer : UserAuthService.answerLogin newYear (loginDto none)
      (some (operator none false)) =
        .ok (UserAuthService.session 1767225600000 (operator none false)) := by
    unfold UserAuthService.answerLogin
    rw [loginDto, checkPassword_operator pendingRuntime rfl]
    rfl
  have hrun : (UserAuthService.login newYear (loginDto none)).run (authState none false).world =
      (.ok (UserAuthService.session 1767225600000 (operator none false)),
        (authState none false).world) :=
    congrArg (·, (authState none false).world) hanswer
  have hissued : issuedBy (authState none false).world newYear (loginDto none) =
      [pendingSession] := by
    rw [issuedBy_of hrun]
    decide +kernel
  simp only [logIn, AuthOp.step, hrun, hissued]
  rfl

theorem principal_pending :
    AuthController.principal 1767225600000 (some ("Bearer " ++ pendingToken)) = .ok pendingUser := by
  have hnonempty : pendingToken ≠ "" := signed_ne_empty _ _
  have hbody : pendingBody ≠ "" := by decide +kernel
  have hmac : '.' ∉ pendingMac.toList := by
    rw [pendingMac, String.toList_join]
    decide +kernel
  have hverify : UserAuthService.verifyToken 1767225600000 pendingToken = .ok (some pendingUser) :=
    verifyToken_signed hbody hmac 1767225600000
  unfold AuthController.principal
  rw [bearerToken_bearer pendingToken_noSpace]
  simp only [if_neg hnonempty, hverify]
  rfl

end

section

attribute [local instance] verifiedRuntime

theorem principal_verified :
    AuthController.principal 1767225600000 (some ("Bearer " ++ verifiedToken)) =
      .ok verifiedUser := by
  have hnonempty : verifiedToken ≠ "" := signed_ne_empty _ _
  unfold AuthController.principal
  rw [bearerToken_bearer verifiedToken_noSpace]
  simp only [if_neg hnonempty, verifyToken_verified]
  rfl

/-- An operator who has enrolled and logged in with a code. -/
def enrolledOperator : AuthState :=
  { verifiedOperator with
    sessions := [verifiedSession]
    enrolled := ["U1"] }

end

/-! ### The enrollment with the first token -/

/-- A secret is set up. -/
def settingUp : AuthState :=
  { pendingOperator with
    world := pendingOperator.world.updateUser "U1" (User.withSecret (generateTotpSecret firstRandom))
      (User.withSecret_id _) }

/-- The secret is confirmed. -/
def confirmedOperator : AuthState :=
  { settingUp with
    world := settingUp.world.updateUser "U1" User.withMfa User.withMfa_id
    enrolled := ["U1"] }

theorem pendingOperator_row :
    pendingOperator.world.users.find? "U1" = some (operator none false) := rfl

theorem settingUp_row : settingUp.world.users.find? "U1" =
    some ((operator none false).withSecret (generateTotpSecret firstRandom)) :=
  find?_updateUser pendingOperator_row

theorem confirmedOperator_row : confirmedOperator.world.users.find? "U1" =
    some ((operator none false).withSecret (generateTotpSecret firstRandom)).withMfa :=
  find?_updateUser settingUp_row

end Sample

section

attribute [local instance] Runtime.ascii

open Sample

section

attribute [local instance] verifiedRuntime

/-- A setup by a session that has verified a code. -/
theorem second_factor_kept_verified :
    secondFactorOf ((setUp verifiedToken secondRandom).step enrolledOperator).world "U1" ≠
      secondFactorOf enrolledOperator.world "U1" ∧
    ∃ s ∈ enrolledOperator.sessions, (setUp verifiedToken secondRandom).token = some s.token ∧
      s.claims.sub = "U1" ∧ s.secondFactor.isSome := by
  have hlogin : (logIn (some "383837")).step { verifiedOperator with enrolled := ["U1"] } =
      enrolledOperator :=
    congrArg (fun st => { st with enrolled := ["U1"] }) logIn_verified
  have hauth : Meets AuthOp.step Authentic { verifiedOperator with enrolled := ["U1"] }
      [logIn (some "383837"), setUp verifiedToken secondRandom] := by
    refine ⟨sessionRuntime_authentic (by decide) nofun, ?_⟩
    rw [hlogin]
    exact ⟨presented_authentic (by decide) rfl (setUp_token verifiedToken_noSpace _), trivial⟩
  have hspares : Meets AuthOp.step (fun st op => op.SparesEnrolled st)
      { verifiedOperator with enrolled := ["U1"] }
      [logIn (some "383837"), setUp verifiedToken secondRandom] := by
    refine ⟨nofun, ?_⟩
    rw [hlogin]
    refine ⟨fun s hs _ _ _ => ⟨s, hs, rfl, ?_⟩, trivial⟩
    rw [List.mem_singleton.mp hs]
    rfl
  have hrow : enrolledOperator.world.users.find? "U1" = some (operator (some totpSecret) true) := rfl
  have hchanged : secondFactorOf
      ((setUp verifiedToken secondRandom).step enrolledOperator).world "U1" ≠
        secondFactorOf enrolledOperator.world "U1" := by
    have hstep : (setUp verifiedToken secondRandom).step enrolledOperator =
        { enrolledOperator with
          world := enrolledOperator.world.updateUser "U1"
            (User.withSecret (generateTotpSecret secondRandom)) (User.withSecret_id _) } :=
      step_setup_of enrolledOperator newYear _ secondRandom principal_verified hrow
    rw [hstep]
    unfold secondFactorOf
    rw [find?_updateUser hrow, hrow]
    simp [User.withSecret, operator]
  have hrun := second_factor_kept rfl hauth hspares
  have hkept := hrun.2.1
  rw [hlogin] at hkept
  exact ⟨hchanged, hkept "U1" (List.mem_singleton_self _) hchanged⟩

end

section

attribute [local instance] pendingRuntime

/-- **A token from before the enrollment resets the second factor.** -/
theorem second_factor_reset : ¬∀ [Runtime] [SessionRuntime] (st : AuthState) (ops : List AuthOp),
    st.sessions = [] → Meets AuthOp.step Authentic st ops →
    Meets AuthOp.step (fun st op => op.KeepsSecondFactor st) st ops := by
  intro h
  have hsetUp : (setUp pendingToken firstRandom).step pendingOperator = settingUp :=
    step_setup_of pendingOperator newYear _ firstRandom principal_pending pendingOperator_row
  have hconfirm : confirmEnrollment.step settingUp = confirmedOperator :=
    step_enable_of settingUp newYear _ "383837" principal_pending settingUp_row rfl
      (by decide +kernel) firstSecret_code
  have hauth {st : AuthState} {op : AuthOp} (hst : st.sessions = [pendingSession])
      (htoken : op.token = some pendingToken) : Authentic st op := by
    refine presented_authentic ?_ (by rw [hst]; rfl) htoken
    rw [hst]
    decide
  have hrun := h (authState none false) [logIn none, setUp pendingToken firstRandom,
      confirmEnrollment, setUp pendingToken secondRandom] rfl (by
    refine ⟨sessionRuntime_authentic (by decide) nofun, ?_⟩
    rw [logIn_pending]
    refine ⟨hauth rfl (setUp_token pendingToken_noSpace _), ?_⟩
    rw [hsetUp]
    refine ⟨hauth rfl confirmEnrollment_token, ?_⟩
    rw [hconfirm]
    exact ⟨hauth rfl (setUp_token pendingToken_noSpace _), trivial⟩)
  have hkept := hrun.2.2.2.1
  rw [logIn_pending, hsetUp, hconfirm] at hkept
  -- The last setup turns the second factor off again, and no login has verified a code.
  have hreset : secondFactorOf
      ((setUp pendingToken secondRandom).step confirmedOperator).world "U1" ≠
        secondFactorOf confirmedOperator.world "U1" := by
    have hstep : (setUp pendingToken secondRandom).step confirmedOperator =
        { confirmedOperator with
          world := confirmedOperator.world.updateUser "U1"
            (User.withSecret (generateTotpSecret secondRandom)) (User.withSecret_id _) } :=
      step_setup_of confirmedOperator newYear _ secondRandom principal_pending confirmedOperator_row
    rw [hstep]
    unfold secondFactorOf
    rw [find?_updateUser confirmedOperator_row, confirmedOperator_row]
    simp [User.withSecret, User.withMfa]
  obtain ⟨s, hs, -, -, hverified⟩ := hkept "U1" (List.mem_singleton_self _) hreset
  rw [List.mem_singleton.mp hs] at hverified
  exact absurd hverified (by decide)

end

end

end TrusteeBank
