import TrusteeBank.Api.Sessions

/-!
# Sessions and current rights

`PermissionGuard` reads the permissions of the roles a token names, so that rewriting or deleting
a role is felt at once. The roles are those of the login, and no guard asks whether the user is
still enabled. On a path that does not spell its namespace in lower case neither guard looks at the
token at all.

* `SessionsCurrent.step`: what a token says of its user is true of the row, up to what the
  administration of the user has changed since;
* `current_rights`: sessions carry current rights in every run in which the tokens that the guards
  let through are of users who were not disabled since and have kept a role that grants the
  permission;
* `disabled_user_admitted`: the session of a disabled user is admitted.
-/

set_option autoImplicit false

namespace TrusteeBank

open Lib (Meets)

section

variable [Runtime]

/-- The user is enabled and one of their roles grants the permission. -/
def HoldsNow (w : World) (userId permission : String) : Prop :=
  ∃ user, w.users.find? userId = some user ∧ user.disabled = false ∧
    ∃ role ∈ w.roles.rows, role.slug ∈ user.roles ∧ permission ∈ role.permissions

/-- The row of the user agrees with the token, up to what was done to the user since. -/
def SessionCurrent (w : World) (s : Session) : Prop :=
  ∃ user, w.users.find? s.claims.sub = some user ∧ user.disabled = s.disabled ∧
    ∀ slug ∈ s.claims.roles, slug ∉ s.lost → slug ∈ user.roles

def SessionsCurrent (st : AuthState) : Prop := ∀ s ∈ st.sessions, SessionCurrent st.world s

/-! ## One request -/

/-- A write that keeps who a user is. -/
theorem SessionCurrent.updateUser {w : World} {s : Session} (h : SessionCurrent w s) {id : String}
    {f : User → User} (hf : ∀ u, (f u).id = u.id) (hdisabled : ∀ u, (f u).disabled = u.disabled)
    (hroles : ∀ u, (f u).roles = u.roles) : SessionCurrent (w.updateUser id f hf) s := by
  obtain ⟨user, huser, hd, hr⟩ := h
  by_cases hid : s.claims.sub = id
  · subst hid
    exact ⟨f user, find?_updateUser huser, (hdisabled user).trans hd, fun slug hslug hlost =>
      (hroles user).symm ▸ hr slug hslug hlost⟩
  · exact ⟨user, (find?_updateUser_of_ne hid).trans huser, hd, hr⟩

/-- An administrative request, and what it leaves of a token. -/
theorem SessionCurrent.administered {w w₁ : World} {op : AdminOp} (he : AdminEffect w op w₁)
    {s : Session} (h : SessionCurrent w s) : SessionCurrent w₁ (s.after op) := by
  obtain ⟨user, huser, hd, hr⟩ := h
  cases he with
  | @rolesSet userId roles actor u hu _ =>
    unfold Session.after
    dsimp only
    split_ifs with hid
    · subst hid
      refine ⟨user.withRoles roles, find?_updateUser huser, hd, fun slug hslug hlost => ?_⟩
      by_contra hmissing
      exact hlost (List.mem_filter.mpr ⟨hslug, decide_eq_true hmissing⟩)
    · exact ⟨user, (find?_updateUser_of_ne hid).trans huser, hd, hr⟩
  | @disabledSet userId disabled actor u hu _ =>
    unfold Session.after
    dsimp only
    split_ifs with hid
    · subst hid
      exact ⟨user.withDisabled disabled, find?_updateUser huser, rfl, hr⟩
    · exact ⟨user, (find?_updateUser_of_ne hid).trans huser, hd, hr⟩
  | roleCreated _ => exact ⟨user, huser, hd, hr⟩
  | roleRewritten _ _ => exact ⟨user, huser, hd, hr⟩
  | roleDeleted _ _ => exact ⟨user, huser, hd, hr⟩

variable [SessionRuntime]

/-- **Every request keeps the tokens current**, up to what it does to their users. -/
theorem SessionsCurrent.step {st : AuthState} (h : SessionsCurrent st) (op : AuthOp) :
    SessionsCurrent (op.step st) := by
  cases op with
  | login clock dto =>
    intro s hs
    rcases List.mem_append.mp hs with hs | hs
    · rw [step_login_world]
      exact h s hs
    · obtain ⟨user, huser, hdisabled, hroles, hsd, hlost, -⟩ := session_of_login hs
      rw [step_login_world]
      exact ⟨user, huser, hdisabled.trans hsd.symm, fun slug hslug _ => hroles ▸ hslug⟩
  | setup clock authz random =>
    intro s hs
    have hcurrent := h s hs
    rcases AuthController.setup_state clock authz random st.world with
      hw | ⟨p, user, -, -, hw⟩ <;> simp only [AuthOp.step, hw]
    · exact hcurrent
    · exact hcurrent.updateUser (User.withSecret_id _) (fun _ => rfl) fun _ => rfl
  | enable clock authz code =>
    intro s hs
    have hcurrent := h s hs
    rcases AuthController.enable_state clock authz code st.world with
      ⟨hw, -⟩ | ⟨p, user, secret, -, -, -, -, hw⟩ <;> simp only [AuthOp.step, hw]
    · exact hcurrent
    · exact hcurrent.updateUser User.withMfa_id (fun _ => rfl) fun _ => rfl
  | admin op =>
    intro s hs
    simp only [AuthOp.step, TrusteeBank.administered] at hs ⊢
    split_ifs at hs with hwrites
    · obtain ⟨w₁, rows, he, hstate⟩ := AdminOp.effect_of_writes hwrites
      obtain ⟨s₀, hs₀, rfl⟩ := List.mem_map.mp hs
      rw [hstate]
      exact (h s₀ hs₀).administered he
    · have hcurrent := h s hs
      unfold SessionCurrent at hcurrent ⊢
      rwa [AdminOp.users_of_not_writes hwrites]
  | request r => exact h

/-! ## Admission -/

/-- The user whose session a request bears: the one that the guard has read from the token, or,
where it looked at no credentials, the one that the token was issued to. -/
def RouteRequest.Bears (st : AuthState) (r : RouteRequest) : Option Principal → String → Prop
  | some (.user user), userId => userId = user.userId
  | some (.client _), _ => False
  | none, userId => ∃ s ∈ st.sessions,
    ClientSeparationGuard.bearer r.request = some s.token ∧ s.claims.sub = userId

/-- **A session is admitted with current rights only.** Where both guards let a request with a
session token through to a route that requires a permission, the user of the session holds it
now. -/
def AuthOp.AdmitsCurrent (st : AuthState) : AuthOp → Prop
  | .request r => ∀ principal userId permission,
      ClientSeparationGuard.canActivate r.clients r.now r.request = .ok principal →
      PermissionGuard.canActivate st.world.roles r.permission principal = .ok true →
      r.permission = some permission → permission ≠ "" → r.Bears st principal userId →
      HoldsNow st.world userId permission
  | _ => True

omit [SessionRuntime] in
/-- A role that the token names grants the permission. -/
def Session.Grants (w : World) (s : Session) (permission : String) : Prop :=
  ∃ role ∈ w.roles.rows, role.slug ∈ s.claims.roles ∧ permission ∈ role.permissions

omit [SessionRuntime] in
/-- The user was not disabled since, and has kept a role of the token that grants the
permission. -/
def Session.Fresh (w : World) (s : Session) (permission : String) : Prop :=
  s.disabled = false ∧
    ∃ role ∈ w.roles.rows, role.slug ∈ s.claims.roles ∧ role.slug ∉ s.lost ∧
      permission ∈ role.permissions

/-- A token that is presented to a route that requires a permission is fresh, unless the guard
reads it and it grants nothing. -/
def AuthOp.PresentsFresh (st : AuthState) : AuthOp → Prop
  | .request r => ∀ permission, r.permission = some permission → permission ≠ "" →
      ∀ s ∈ st.sessions, AuthOp.token (.request r) = some s.token →
      (ClientSeparationGuard.requiredPlatform r.request.path ≠ none →
        s.Grants st.world permission) → s.Fresh st.world permission
  | _ => True

omit [Runtime] in
/-- A request without a principal is let through where no credentials are asked for. -/
theorem canActivate_none {clients : Lib.Table ClientApplication.oauthClientId} {now : Int}
    {req : HttpRequest} (h : ClientSeparationGuard.canActivate clients now req = .ok none) :
    ClientSeparationGuard.requiredPlatform req.path = none := by
  unfold ClientSeparationGuard.canActivate at h
  split at h
  · next hrequired => exact hrequired
  · split at h
    · obtain ⟨_, -, hprincipal⟩ := map_eq_ok.mp h
      cases hprincipal
    · obtain ⟨_, -, hprincipal⟩ := map_eq_ok.mp h
      cases hprincipal

omit [Runtime] in
/-- A user is admitted with the token of the request. -/
theorem canActivate_user {clients : Lib.Table ClientApplication.oauthClientId} {now : Int}
    {req : HttpRequest} {user : UserPrincipal}
    (h : ClientSeparationGuard.canActivate clients now req = .ok (some (.user user))) :
    ∃ token, ClientSeparationGuard.bearer req = some token ∧
      UserAuthService.verifyToken now token = .ok (some user) := by
  unfold ClientSeparationGuard.canActivate at h
  split at h
  · cases h
  · next required hrequired =>
    split at h
    · next token htoken =>
      refine ⟨token, (Option.filter_eq_some_iff.mp htoken).1, ?_⟩
      obtain ⟨principal, hactivate, hprincipal⟩ := map_eq_ok.mp h
      obtain ⟨user', hverify, -, -, -, rfl⟩ := activateUser_ok hactivate
      cases hprincipal
      exact hverify
    · obtain ⟨principal, hactivate, hprincipal⟩ := map_eq_ok.mp h
      obtain ⟨-, -, client, -, -, -, rfl⟩ := activateClient_ok hactivate
      cases hprincipal

omit [Runtime] in
/-- A session of a trustee operator is admitted to the namespaces of the trustee. -/
theorem canActivate_user_of {clients : Lib.Table ClientApplication.oauthClientId} {now : Int}
    {req : HttpRequest} {token : String} {user : UserPrincipal}
    (hpath : ClientSeparationGuard.requiredPlatform req.path = some "TRUSTEE_BANK")
    (hbearer : ClientSeparationGuard.bearer req = some token) (htoken : token ≠ "")
    (hverify : UserAuthService.verifyToken now token = .ok (some user))
    (hinstitution : user.institution = "TRUSTEE_BANK") (hmfa : user.mfaPending = false) :
    ClientSeparationGuard.canActivate clients now req = .ok (some (.user user)) := by
  have hsome : (some token).filter (fun t => decide (t ≠ "")) = some token := by simp [htoken]
  unfold ClientSeparationGuard.canActivate ClientSeparationGuard.activateUser
  simp only [hpath, hbearer, hsome, hverify]
  have hcheck := checkUser_eq_ok.mpr ⟨rfl, hinstitution, hmfa⟩
  simp [orThrow, hcheck, bind, Except.bind, pure, Except.pure, Except.map]

omit [Runtime] [SessionRuntime] in
/-- A role that the token names grants the permission. -/
theorem permission_granted {roles : Lib.Table Role.slug} {permission : String}
    {user : UserPrincipal} (hpermission : permission ≠ "")
    (h : PermissionGuard.canActivate roles (some permission) (some (.user user)) = .ok true) :
    ∃ role ∈ roles.rows, role.slug ∈ user.roles ∧ permission ∈ role.permissions := by
  unfold PermissionGuard.canActivate at h
  have hfilter : (some permission).filter (fun p => decide (p ≠ "")) = some permission := by
    simp [hpermission]
  rw [hfilter] at h
  simp only at h
  split_ifs at h with hany
  simpa [and_assoc] using hany

omit [SessionRuntime] in
/-- The user of a fresh token holds the permission. -/
theorem SessionCurrent.holdsNow {w : World} {s : Session} (h : SessionCurrent w s)
    {permission : String} (hfresh : s.Fresh w permission) :
    HoldsNow w s.claims.sub permission := by
  obtain ⟨user, huser, hd, hr⟩ := h
  obtain ⟨hdisabled, role, hrole, hslug, hkept, hgrants⟩ := hfresh
  exact ⟨user, huser, hd.trans hdisabled, role, hrole, hr role.slug hslug hkept, hgrants⟩

/-- **A fresh token is admitted with current rights only.** -/
theorem SessionsCurrent.admits {st : AuthState} (h : SessionsCurrent st) {op : AuthOp}
    (hauth : Authentic st op) (hfresh : op.PresentsFresh st) : op.AdmitsCurrent st := by
  cases op with
  | request r =>
    intro principal userId permission hactivate hgranted hroute hpermission hbears
    match principal with
    | some (.user user) =>
      obtain ⟨token, htoken, hverify⟩ := canActivate_user hactivate
      obtain ⟨s, hs, hpresents, huser, hroles⟩ := presented_issued hauth htoken hverify
      rw [hroute] at hgranted
      obtain ⟨role, hrole, hslug, hgrants⟩ := permission_granted hpermission hgranted
      have hgrant : s.Grants st.world permission := ⟨role, hrole, hroles ▸ hslug, hgrants⟩
      obtain rfl : userId = s.claims.sub := hbears.trans huser
      exact (h s hs).holdsNow (hfresh permission hroute hpermission s hs hpresents fun _ => hgrant)
    | some (.client _) => exact hbears.elim
    | none =>
      obtain ⟨s, hs, hpresents, rfl⟩ := hbears
      have hunguarded := canActivate_none hactivate
      exact (h s hs).holdsNow (hfresh permission hroute hpermission s hs hpresents
        fun hguarded => absurd hunguarded hguarded)
  | login _ _ => trivial
  | setup _ _ _ => trivial
  | enable _ _ _ => trivial
  | admin _ => trivial

/-- **Sessions carry current rights** in every run in which each token that the guards let through
is fresh. -/
theorem current_rights {st : AuthState} (hsessions : st.sessions = []) {ops : List AuthOp}
    (hauth : Meets AuthOp.step Authentic st ops)
    (hfresh : Meets AuthOp.step (fun st op => op.PresentsFresh st) st ops) :
    Meets AuthOp.step (fun st op => op.AdmitsCurrent st) st ops := by
  have hcurrent : SessionsCurrent st := by
    intro s hs
    rw [hsessions] at hs
    cases hs
  exact Lib.meets_inv (fun st op h _ => h.step op) (fun st op h hop => h.admits hop.1 hop.2)
    hcurrent (hauth.and hfresh)

end

/-! ## A disabled operator -/

namespace Sample

attribute [local instance] Runtime.ascii verifiedRuntime

/-- The operator asks for a route of the administration. -/
def administerRequest : HttpRequest where
  path := Mount.admin.path ++ "/users"
  authorization := some ("Bearer " ++ verifiedToken)
  xClientId := none
  xClientSecret := none

/-- The route requires `admin.users`. -/
def administer : AuthOp :=
  .request
    { clients := .empty _
      now := 1767225600000
      request := administerRequest
      permission := some "admin.users" }

/-- An administrator disables the operator. -/
def disable : AuthOp := .admin (.setUserDisabled "U1" true "admin")

/-- The operator has logged in. -/
def loggedIn : AuthState := { verifiedOperator with sessions := [verifiedSession] }

theorem administerRequest_bearer :
    ClientSeparationGuard.bearer administerRequest = some verifiedToken := by
  have hauthorization : administerRequest.authorization = some ("Bearer " ++ verifiedToken) := rfl
  exact bearer_bearer hauthorization verifiedToken_noSpace

theorem administer_token : administer.token = some verifiedToken := administerRequest_bearer

theorem administer_admitted :
    ClientSeparationGuard.canActivate (.empty _) 1767225600000 administerRequest =
      .ok (some (.user verifiedUser)) := by
  have hpath : ClientSeparationGuard.requiredPlatform administerRequest.path =
      some "TRUSTEE_BANK" := requiredPlatform_below .admin "/users"
  exact canActivate_user_of hpath administerRequest_bearer (signed_ne_empty _ _)
    verifyToken_verified rfl rfl

end Sample

section

attribute [local instance] Runtime.ascii Sample.verifiedRuntime

open Sample

theorem current_rights_operator : (administer.step loggedIn).sessions.length = 1 ∧
    HoldsNow (administer.step loggedIn).world "U1" "admin.users" := by
  have hauth : Meets AuthOp.step Authentic verifiedOperator [logIn (some "383837"), administer] := by
    refine ⟨sessionRuntime_authentic (by decide) nofun, ?_⟩
    rw [logIn_verified]
    exact ⟨presented_authentic (by decide) rfl administer_token, trivial⟩
  have hfresh : Meets AuthOp.step (fun st op => op.PresentsFresh st) verifiedOperator
      [logIn (some "383837"), administer] := by
    refine ⟨trivial, ?_⟩
    rw [logIn_verified]
    refine ⟨fun permission hpermission _ s hs _ _ => ?_, trivial⟩
    obtain rfl : "admin.users" = permission := Option.some.inj hpermission
    rw [List.mem_singleton.mp hs]
    exact ⟨rfl, securityAdmin, List.mem_singleton_self _, by decide, by decide, by decide⟩
  have hrun := current_rights rfl hauth hfresh
  have hadmits := hrun.2.1
  rw [logIn_verified] at hadmits
  exact ⟨rfl, hadmits (some (.user verifiedUser)) "U1" "admin.users" administer_admitted
    (by decide) rfl (by decide) rfl⟩

/-- **The session of a disabled operator is admitted.** -/
theorem disabled_user_admitted : ¬∀ [Runtime] [SessionRuntime] (st : AuthState)
    (ops : List AuthOp), st.sessions = [] → Meets AuthOp.step Authentic st ops →
    Meets AuthOp.step (fun st op => op.AdmitsCurrent st) st ops := by
  intro h
  have hrun := h verifiedOperator [logIn (some "383837"), disable, administer] rfl (by
    refine ⟨sessionRuntime_authentic (by decide) nofun, ?_⟩
    rw [logIn_verified]
    exact ⟨sessionRuntime_authentic (by decide) nofun,
      presented_authentic (by decide) rfl administer_token, trivial⟩)
  have hadmits := hrun.2.2.1
  rw [logIn_verified] at hadmits
  obtain ⟨user, huser, hdisabled, -⟩ := hadmits (some (.user verifiedUser)) "U1" "admin.users"
    administer_admitted (by decide) rfl (by decide) rfl
  have hrow : (disable.step loggedIn).world.users.find? "U1" =
      some ((operator (some totpSecret) true).withDisabled true) := rfl
  cases hrow.symm.trans huser
  exact absurd hdisabled (by decide)

end

end TrusteeBank
