import TrusteeBank.Services.UserAuth

/-!
# Administration of users and roles

`AdminService` assigns roles to users, disables them, and writes the roles: a role is a row with
the permissions it grants, and a user names roles by their slug.

**Theorem (`AdminOp.served`).** An operation fails and changes nothing, or it rewrites one user or
stores, rewrites or deletes one role. A user is rewritten exactly when `AdminOp.WritesUser` holds,
whether or not the record of it can be stored.
-/

set_option autoImplicit false

namespace TrusteeBank

open Lib (Call)

/-- `ALL_PERMISSIONS`. -/
def allPermissions : List String :=
  ["account.register", "account.activate", "account.close", "program.manage", "registry.manage",
    "deposit.view", "deposit.match", "deposit.clear", "funding.create", "reserve.view",
    "mint.request", "mint.approve", "mint.revoke", "redemption.approve", "payout.approve",
    "paykh.profile.verify", "paykh.settlement.approve", "compliance.review", "compliance.hold",
    "por.generate", "attestation.approve", "admin.users", "admin.roles", "admin.policies",
    "admin.feature-flags", "admin.emergency", "audit.view", "executive.view"]

structure UpsertRoleInput where
  slug : String
  name : String
  institution : String
  description : Option String
  permissions : List String
  actor : String

namespace User

def withRoles (roles : List String) (u : User) : User := { u with roles }

def withDisabled (disabled : Bool) (u : User) : User := { u with disabled }

theorem withRoles_id (roles : List String) (u : User) : (u.withRoles roles).id = u.id := rfl

theorem withDisabled_id (disabled : Bool) (u : User) : (u.withDisabled disabled).id = u.id := rfl

end User

namespace Role

/-- `{ ...role, name, description, institution, permissions }`. -/
def asUpserted (input : UpsertRoleInput) (r : Role) : Role :=
  { r with
    name := input.name
    description := input.description
    institution := input.institution
    permissions := input.permissions }

theorem asUpserted_slug (input : UpsertRoleInput) (r : Role) :
    (r.asUpserted input).slug = r.slug := rfl

end Role

section

variable [Runtime]

namespace AdminService

def setUserRoles (userId : String) (roles : List String) (actor : String) : Service Unit := do
  checkTexts [userId]
  let before ← Prisma.user.findUnique userId
  let before ← orThrow before (.notFound "User not found")
  let _ ← Prisma.user.update (textColumns roles) userId (User.withRoles roles)
    (User.withRoles_id roles)
  AuditService.record
    { actor
      action := "admin.user.roles_changed"
      subjectType := "USER"
      subjectId := some userId
      beforeState := some (.object [("roles", .strings before.roles)])
      afterState := some (.object [("roles", .strings roles)]) }

def setUserDisabled (userId : String) (disabled : Bool) (actor : String) : Service Unit := do
  checkTexts [userId]
  let _ ← Prisma.user.update unconstrained userId (User.withDisabled disabled)
    (User.withDisabled_id disabled)
  AuditService.record
    { actor
      action := if disabled then "admin.user.disabled" else "admin.user.enabled"
      subjectType := "USER"
      subjectId := some userId }

omit [Runtime] in
/-- The row a first upsert stores. -/
def createdRole (input : UpsertRoleInput) : Role where
  slug := input.slug
  name := input.name
  description := input.description
  institution := input.institution
  permissions := input.permissions
  builtin := false

omit [Runtime] in
/-- The texts of a role. Its permissions are of the catalogue. -/
def roleTexts (input : UpsertRoleInput) : List String :=
  [input.slug, input.name, input.institution] ++ input.description.toList

def upsertRole (input : UpsertRoleInput) : Service Role := do
  let invalid := input.permissions.filter fun p => p ∉ allPermissions
  Call.throwIf (invalid ≠ []) (.badRequestBody "Unknown permissions" "invalid" invalid)
  let role ← Prisma.role.upsert (fun _ => checkTexts (roleTexts input))
    (fun r => r.slug = input.slug) (createdRole input) (Role.asUpserted input)
    (Role.asUpserted_slug input)
  AuditService.record
    { actor := input.actor
      action := "admin.role.upserted"
      subjectType := "ROLE"
      subjectId := some role.slug
      afterState := some (.object [("permissions", .strings input.permissions)]) }
  return role

def deleteRole (slug actor : String) : Service Unit := do
  let role ← Prisma.role.findUnique slug
  let role ← orThrow role (.notFound "Role not found")
  Call.throwIf (role.builtin = true) (.badRequest "Cannot delete a built-in role")
  let _ ← Prisma.role.delete slug
  AuditService.record
    { actor
      action := "admin.role.deleted"
      subjectType := "ROLE"
      subjectId := some slug }

end AdminService

open AdminService

/-! ## Operations -/

inductive AdminOp
  | setUserRoles (userId : String) (roles : List String) (actor : String)
  | setUserDisabled (userId : String) (disabled : Bool) (actor : String)
  | upsertRole (input : UpsertRoleInput)
  | deleteRole (slug actor : String)

def AdminOp.call : AdminOp → Service Unit
  | .setUserRoles userId roles actor => AdminService.setUserRoles userId roles actor
  | .setUserDisabled userId disabled actor => AdminService.setUserDisabled userId disabled actor
  | .upsertRole input => (AdminService.upsertRole input).void
  | .deleteRole slug actor => AdminService.deleteRole slug actor

omit [Runtime] in
/-- The operation is about a user, whom the database has, and it writes what the database stores. -/
def AdminOp.WritesUser (w : World) : AdminOp → Prop
  | .setUserRoles userId roles _ =>
    (w.users.find? userId).isSome ∧ ∀ t ∈ userId :: roles, FitsText t
  | .setUserDisabled userId _ _ => (w.users.find? userId).isSome ∧ FitsText userId
  | .upsertRole _ | .deleteRole _ _ => False

omit [Runtime] in
instance AdminOp.WritesUser.decidable (w : World) (op : AdminOp) : Decidable (op.WritesUser w) := by
  unfold AdminOp.WritesUser
  split <;> infer_instance

/-- What an operation did to the users and the roles. -/
inductive AdminEffect (w : World) : AdminOp → World → Prop
  | rolesSet {userId : String} {roles : List String} {actor : String} {user : User}
      (huser : w.users.find? userId = some user) (htexts : ∀ t ∈ userId :: roles, FitsText t) :
      AdminEffect w (.setUserRoles userId roles actor)
        (w.updateUser userId (User.withRoles roles) (User.withRoles_id roles))
  | disabledSet {userId : String} {disabled : Bool} {actor : String} {user : User}
      (huser : w.users.find? userId = some user) (hid : FitsText userId) :
      AdminEffect w (.setUserDisabled userId disabled actor)
        (w.updateUser userId (User.withDisabled disabled) (User.withDisabled_id disabled))
  | roleCreated {input : UpsertRoleInput} {t : Lib.Table Role.slug}
      (ht : w.roles.insert? (createdRole input) = some t) :
      AdminEffect w (.upsertRole input) { w with roles := t }
  | roleRewritten {input : UpsertRoleInput} {role : Role}
      (hrole : w.roles.find? role.slug = some role) (hslug : role.slug = input.slug) :
      AdminEffect w (.upsertRole input)
        { w with
          roles := w.roles.modify role.slug (Role.asUpserted input) (Role.asUpserted_slug input) }
  | roleDeleted {slug actor : String} {role : Role} (hrole : w.roles.find? slug = some role)
      (hbuiltin : role.builtin = false) :
      AdminEffect w (.deleteRole slug actor) { w with roles := w.roles.erase slug }

theorem setUserRoles_served (w : World) (userId : String) (roles : List String) (actor : String) :
    Served (AdminEffect w (.setUserRoles userId roles actor)) w
      ((AdminService.setUserRoles userId roles actor).run w) := by
  unfold AdminService.setUserRoles
  refine .lift_bind fun _ hid => ?_
  refine .find_bind Prisma.user fun user huser => ?_
  refine .checked_update_bind Prisma.user huser fun hroles => ?_
  have htexts : ∀ t ∈ userId :: roles, FitsText t :=
    List.forall_mem_cons.mpr
      ⟨checkTexts_eq_ok.mp hid _ List.mem_cons_self, checkTexts_eq_ok.mp hroles⟩
  exact .logs (.rolesSet huser htexts) (logs_record _)

theorem setUserDisabled_served (w : World) (userId : String) (disabled : Bool) (actor : String) :
    Served (AdminEffect w (.setUserDisabled userId disabled actor)) w
      ((AdminService.setUserDisabled userId disabled actor).run w) := by
  unfold AdminService.setUserDisabled
  refine .lift_bind fun _ hid => ?_
  refine .update_bind Prisma.user fun user huser => ?_
  have hid := checkTexts_eq_ok.mp hid _ List.mem_cons_self
  exact .logs (.disabledSet huser hid) (logs_record _)

theorem upsertRole_served (w : World) (input : UpsertRoleInput) :
    Served (AdminEffect w (.upsertRole input)) w ((AdminService.upsertRole input).run w) := by
  unfold AdminService.upsertRole
  refine .throwIf_bind fun _ => ?_
  rw [Call.run_bind]
  rcases Entity.run_upsert_cases Prisma.role (fun _ => checkTexts (roleTexts input))
    (fun r => r.slug = input.slug) (createdRole input) (Role.asUpserted input)
    (Role.asUpserted_slug input) w with
    ⟨e, h⟩ | ⟨-, ⟨role, hrole, h⟩ | ⟨t, -, ht, h⟩⟩
  · rw [h]
    exact .failed _
  · rw [h]
    have hmem := Lib.Table.find?_key_of_mem (List.mem_of_find?_eq_some hrole)
    have hslug := List.find?_some hrole
    exact .logs (.roleRewritten hmem (by simpa using hslug)) (.record_bind (logs_pure _))
  · rw [h]
    exact .logs (.roleCreated ht) (.record_bind (logs_pure _))

theorem deleteRole_served (w : World) (slug actor : String) :
    Served (AdminEffect w (.deleteRole slug actor)) w
      ((AdminService.deleteRole slug actor).run w) := by
  unfold AdminService.deleteRole
  refine .find_bind Prisma.role fun role hrole => ?_
  refine .throwIf_bind fun hbuiltin => ?_
  rw [Call.run_bind]
  rcases Entity.run_delete_cases Prisma.role slug w with ⟨e, h⟩ | ⟨_, -, h⟩
  · rw [h]
    exact .failed _
  · rw [h]
    exact .logs (.roleDeleted hrole (Bool.not_eq_true _ ▸ hbuiltin)) (logs_record _)

/-- **Every operation fails or has an effect in the list.** -/
theorem AdminOp.served (w : World) (op : AdminOp) :
    Served (AdminEffect w op) w (op.call.run w) := by
  cases op with
  | setUserRoles userId roles actor => exact setUserRoles_served w userId roles actor
  | setUserDisabled userId disabled actor => exact setUserDisabled_served w userId disabled actor
  | upsertRole input => exact (upsertRole_served w input).void
  | deleteRole slug actor => exact deleteRole_served w slug actor

/-! ## The write of a user -/

theorem run_setUserRoles_of {w : World} {userId : String} {roles : List String} (actor : String)
    {user : User} (huser : w.users.find? userId = some user)
    (htexts : ∀ t ∈ userId :: roles, FitsText t) :
    ∃ rows, ((AdminService.setUserRoles userId roles actor).run w).2 =
      (w.updateUser userId (User.withRoles roles) (User.withRoles_id roles)).logged rows [] := by
  obtain ⟨hid, hroles⟩ := List.forall_mem_cons.mp htexts
  have hid : checkTexts [userId] = .ok () :=
    checkTexts_eq_ok.mpr (List.forall_mem_singleton.mpr hid)
  have hroles : checkTexts roles = .ok () := checkTexts_eq_ok.mpr hroles
  unfold AdminService.setUserRoles
  rw [hid, Call.lift_ok_bind, Call.run_bind, Entity.run_findUnique]
  simp only [Prisma.user_get, huser, orThrow]
  rw [Call.lift_ok_bind, Call.run_bind, Entity.run_update_of Prisma.user huser hroles]
  exact ⟨_, run_record_rows _ _⟩

theorem run_setUserDisabled_of {w : World} {userId : String} (disabled : Bool) (actor : String)
    {user : User} (huser : w.users.find? userId = some user) (hid : FitsText userId) :
    (AdminService.setUserDisabled userId disabled actor).run w =
      (AuditService.record
        { actor
          action := if disabled then "admin.user.disabled" else "admin.user.enabled"
          subjectType := "USER"
          subjectId := some userId }).run
        (w.updateUser userId (User.withDisabled disabled) (User.withDisabled_id disabled)) := by
  have hid : checkTexts [userId] = .ok () :=
    checkTexts_eq_ok.mpr (List.forall_mem_singleton.mpr hid)
  unfold AdminService.setUserDisabled
  rw [hid, Call.lift_ok_bind, Call.run_bind, Entity.run_update_of Prisma.user huser rfl]
  rfl

/-- **The user is rewritten** whether or not the record can be stored. -/
theorem AdminOp.effect_of_writes {w : World} {op : AdminOp} (h : op.WritesUser w) :
    ∃ w₁ rows, AdminEffect w op w₁ ∧ (op.call.run w).2 = w₁.logged rows [] := by
  cases op with
  | setUserRoles userId roles actor =>
    obtain ⟨huser, htexts⟩ := h
    obtain ⟨user, huser⟩ := Option.isSome_iff_exists.mp huser
    obtain ⟨rows, hrun⟩ := run_setUserRoles_of actor huser htexts
    exact ⟨_, rows, .rolesSet huser htexts, hrun⟩
  | setUserDisabled userId disabled actor =>
    obtain ⟨huser, hid⟩ := h
    obtain ⟨user, huser⟩ := Option.isSome_iff_exists.mp huser
    have hrun := congrArg Prod.snd (run_setUserDisabled_of disabled actor huser hid)
    exact ⟨_, _, .disabledSet huser hid, hrun.trans (run_record_rows _ _)⟩
  | upsertRole input => exact h.elim
  | deleteRole slug actor => exact h.elim

/-- Any other operation keeps the users. -/
theorem AdminOp.users_of_not_writes {w : World} {op : AdminOp} (h : ¬op.WritesUser w) :
    (op.call.run w).2.users = w.users := by
  refine (op.served w).after (R := fun w' => w'.users = w.users) rfl (fun w₁ he => ?_)
    fun h _ _ => h
  cases he with
  | rolesSet huser htexts => exact absurd ⟨by rw [huser]; rfl, htexts⟩ h
  | disabledSet huser hid => exact absurd ⟨by rw [huser]; rfl, hid⟩ h
  | roleCreated _ => rfl
  | roleRewritten _ _ => rfl
  | roleDeleted _ _ => rfl

end

end TrusteeBank
