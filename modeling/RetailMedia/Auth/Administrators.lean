import RetailMedia.Auth.Scopes

/-! The user management routes that can take an administrator away: activation, deactivation and
role assignments. -/

namespace RetailMedia

/-! ## Tables -/

structure Account extends User where
  isBreakGlass : Bool := false

structure RoleAssignment extends UserRole where
  id : String

structure AccountsDb where
  users : List Account := []
  roles : List Role := []
  permissions : List Permission := []
  rolePermissions : List RolePermission := []
  userRoles : List RoleAssignment := []
  advertiserOrganizations : List AdvertiserOrganization := []

namespace AccountsDb

variable (db : AccountsDb)

def user (userId : String) : Option Account := Rows.get (·.id) userId db.users

def roleCode (ur : RoleAssignment) : Option String :=
  (Rows.get Role.id ur.roleId db.roles).map (·.code)

def isSystemAdmin (ur : RoleAssignment) : Bool := db.roleCode ur = some "system_admin"

def getUserPermissions (userId : String) : List String :=
  ((db.userRoles.filter (·.userId = userId)).flatMap fun ur ↦
    (db.rolePermissions.filter (·.roleId = ur.roleId)).filterMap fun rp ↦
      (Rows.get Permission.id rp.permissionId db.permissions).map (·.code)).dedup

def countActiveBreakGlassUsers : Nat :=
  db.users.countP fun u ↦ u.isBreakGlass ∧ u.status = "active"

/-- The rows of the join: one for each assignment of the role, whatever its scope. -/
def countActiveAdminUsers : Nat :=
  (db.users.flatMap fun u ↦ db.userRoles.filter fun ur ↦
    u.status = "active" ∧ ur.userId = u.id ∧ db.isSystemAdmin ur).length

def setUserStatus (userId status : String) : AccountsDb :=
  { db with
    users := Rows.updateWhere (·.id = userId)
      (fun u ↦ { u with toUser := { u.toUser with status := status } }) db.users }

end AccountsDb

/-! ## Routes -/

/-- An error whose detail is a text alone. -/
def httpDetail (statusCode : Nat) (detail : String) : RouteError := .http statusCode "" detail

section Routes

variable (db : AccountsDb) (actor : String)

/-- The dependencies of a route: the caller is an active user and has the permission. -/
def requirePermission (permissionCode : String) : Option RouteError :=
  match db.user actor with
  | none => some (.http 401 "USER_NOT_FOUND" "User no longer exists")
  | some u =>
      if u.status ≠ "active" then some (.http 403 "USER_DISABLED" "User account is disabled")
      else if permissionCode ∉ db.getUserPermissions actor then
        some (permissionDenied permissionCode)
      else none

def isAdmin (userId : String) : Bool :=
  db.userRoles.any fun ur ↦ ur.userId = userId ∧ db.isSystemAdmin ur

def deactivateUser (userId : String) : Except RouteError AccountsDb :=
  match requirePermission db actor "users.manage" with
  | some e => .error e
  | none =>
      match db.user userId with
      | none => .error (httpDetail 404 "User not found")
      | some u =>
          if u.status = "inactive" then .error (httpDetail 409 "User is already inactive")
          else if userId = actor then
            .error (httpDetail 409 "Cannot deactivate your own account")
          else if u.isBreakGlass ∧ db.countActiveBreakGlassUsers ≤ 1 then
            .error (httpDetail 409 "Cannot deactivate the last active break-glass user")
          else if isAdmin db userId ∧ db.countActiveAdminUsers ≤ 1 then
            .error (httpDetail 409 "Cannot deactivate the last active system admin")
          else .ok (db.setUserStatus userId "inactive")

def activateUser (userId : String) : Except RouteError AccountsDb :=
  match requirePermission db actor "users.manage" with
  | some e => .error e
  | none =>
      match db.user userId with
      | none => .error (httpDetail 404 "User not found")
      | some u =>
          if u.status = "active" then .error (httpDetail 409 "User is already active")
          else .ok (db.setUserStatus userId "active")

/-- A request with the id that the new row gets, and whether row-level security shows the
organization to the caller. -/
structure AssignRoleRequest where
  userId : String
  roleCode : String
  scopeType : Option String := none
  scopeId : Option String := none
  newId : String
  orgVisible : Bool := true
  deriving DecidableEq, Repr

/-- The unique constraints of the table: the id, and user, role and scope together. -/
def assignmentClashes (ur : RoleAssignment) : Bool :=
  db.userRoles.any fun x ↦ x.id = ur.id ∨ (x.userId = ur.userId ∧ x.roleId = ur.roleId ∧
    x.scopeType = ur.scopeType ∧ x.scopeId = ur.scopeId)

def assignRole (r : AssignRoleRequest) : Except RouteError AccountsDb :=
  match requirePermission db actor "roles.manage" with
  | some e => .error e
  | none =>
      match db.user r.userId with
      | none => .error (httpDetail 404 "User not found")
      | some _ =>
          match db.roles.find? (·.code = r.roleCode) with
          | none => .error (httpDetail 404 ("Role '" ++ r.roleCode ++ "' not found"))
          | some role =>
              if h : r.scopeType.isNone = r.scopeId.isNone then
                if r.scopeType = some "advertiser" ∧ ¬ (r.orgVisible ∧
                    r.scopeId ∈ db.advertiserOrganizations.map (some ·.id)) then
                  .error (httpDetail 404 ("Advertiser organization '" ++ r.scopeId.getD "" ++
                    "' not found"))
                else
                  let ur : RoleAssignment := {
                    userId := r.userId
                    roleId := role.id
                    scopeType := r.scopeType
                    scopeId := r.scopeId
                    scopePair := h
                    id := r.newId }
                  if assignmentClashes db ur then .error (.raised .integrityError)
                  else .ok { db with userRoles := db.userRoles ++ [ur] }
              else .error (httpDetail 422 "scope_type and scope_id must be both set or both null")

def removeRole (userId assignmentId : String) : Except RouteError AccountsDb :=
  match requirePermission db actor "roles.manage" with
  | some e => .error e
  | none =>
      match db.userRoles.find? (·.id = assignmentId) with
      | none => .error (httpDetail 404 "Role assignment not found")
      | some ur =>
          if ur.userId ≠ userId then
            .error (httpDetail 404 "Role assignment does not belong to this user")
          else .ok { db with userRoles := db.userRoles.filter (·.id ≠ assignmentId) }

end Routes

inductive AccountCall
  | deactivate (actor userId : String)
  | activate (actor userId : String)
  | assign (actor : String) (r : AssignRoleRequest)
  | remove (actor userId assignmentId : String)

def AccountCall.run (db : AccountsDb) : AccountCall → Except RouteError AccountsDb
  | deactivate actor userId => deactivateUser db actor userId
  | activate actor userId => activateUser db actor userId
  | assign actor r => assignRole db actor r
  | remove actor userId assignmentId => removeRole db actor userId assignmentId

/-- An error rolls the transaction back. -/
def accountsNext (db : AccountsDb) (call : AccountCall) : AccountsDb :=
  match call.run db with
  | .ok db' => db'
  | .error _ => db

/-! ## Administrators -/

/-- The user is active and the assignment makes it a system admin without a scope. -/
structure UnscopedAdmin (db : AccountsDb) (u : Account) (ur : RoleAssignment) : Prop where
  user : u ∈ db.users
  active : u.status = "active"
  assignment : ur ∈ db.userRoles
  own : ur.userId = u.id
  unscoped : ur.scopeType = none
  systemAdmin : db.isSystemAdmin ur = true

def AdminRemains (db : AccountsDb) : Prop := ∃ u ur, UnscopedAdmin db u ur

/-- The caller may deactivate the user as far as the guards of the route go. -/
structure MayDeactivate (db : AccountsDb) (actor userId : String) : Prop where
  permitted : requirePermission db actor "users.manage" = none
  notSelf : userId ≠ actor
  found : ∃ u, db.user userId = some u ∧ u.status ≠ "inactive" ∧
    (u.isBreakGlass = true → 2 ≤ db.countActiveBreakGlassUsers)
  counted : isAdmin db userId = true → 2 ≤ db.countActiveAdminUsers

/-- The caller may delete the assignment. -/
structure MayRemove (db : AccountsDb) (actor userId assignmentId : String) : Prop where
  permitted : requirePermission db actor "roles.manage" = none
  found : ∃ ur, db.userRoles.find? (·.id = assignmentId) = some ur ∧ ur.userId = userId

/-- What the call takes away is not the last active user with an unscoped admin role, or the last
assignment that makes an active user one. -/
def SparesLastAdmin (db : AccountsDb) : AccountCall → Prop
  | .deactivate actor userId => MayDeactivate db actor userId →
      ∃ u ur, UnscopedAdmin db u ur ∧ u.id ≠ userId
  | .remove actor userId assignmentId => MayRemove db actor userId assignmentId →
      ∃ u ur, UnscopedAdmin db u ur ∧ ur.id ≠ assignmentId
  | _ => True

/-! ## The routes, one by one -/

section Effects

variable {db db' : AccountsDb} {actor userId : String}

theorem deactivateUser_ok (h : deactivateUser db actor userId = .ok db') :
    MayDeactivate db actor userId ∧ db' = db.setUserStatus userId "inactive" := by
  unfold deactivateUser at h
  split at h
  · cases h
  · rename_i hpermitted
    split at h
    · cases h
    · rename_i u hu
      split at h
      · cases h
      · rename_i hactive
        split at h
        · cases h
        · rename_i hself
          split at h
          · cases h
          · rename_i hglass
            split at h
            · cases h
            · rename_i hadmin
              cases h
              refine ⟨⟨hpermitted, hself, ⟨u, hu, hactive, ?_⟩, ?_⟩, rfl⟩
              · intro hbreak
                exact Nat.lt_of_not_le fun hle ↦ hglass ⟨hbreak, hle⟩
              · intro hisAdmin
                exact Nat.lt_of_not_le fun hle ↦ hadmin ⟨hisAdmin, hle⟩

theorem deactivateUser_of_may (h : MayDeactivate db actor userId) :
    deactivateUser db actor userId = .ok (db.setUserStatus userId "inactive") := by
  obtain ⟨hpermitted, hself, ⟨u, hu, hactive, hglass⟩, hcounted⟩ := h
  have hbreak : ¬ (u.isBreakGlass = true ∧ db.countActiveBreakGlassUsers ≤ 1) := by
    rintro ⟨hb, hle⟩
    have := hglass hb
    omega
  have hadmin : ¬ (isAdmin db userId = true ∧ db.countActiveAdminUsers ≤ 1) := by
    rintro ⟨ha, hle⟩
    have := hcounted ha
    omega
  unfold deactivateUser
  rw [hpermitted, hu]
  dsimp only
  rw [if_neg hactive, if_neg hself, if_neg hbreak, if_neg hadmin]

theorem activateUser_ok (h : activateUser db actor userId = .ok db') :
    db' = db.setUserStatus userId "active" := by
  unfold activateUser at h
  split at h
  · cases h
  · split at h
    · cases h
    · split at h
      · cases h
      · cases h
        rfl

theorem assignRole_ok {r : AssignRoleRequest} (h : assignRole db actor r = .ok db') :
    ∃ ur, db' = { db with userRoles := db.userRoles ++ [ur] } := by
  unfold assignRole at h
  split at h
  · cases h
  · split at h
    · cases h
    · split at h
      · cases h
      · split at h
        · split at h
          · cases h
          · dsimp only at h
            split at h
            · cases h
            · cases h
              exact ⟨_, rfl⟩
        · cases h

theorem removeRole_ok {assignmentId : String}
    (h : removeRole db actor userId assignmentId = .ok db') :
    MayRemove db actor userId assignmentId ∧
      db' = { db with userRoles := db.userRoles.filter (·.id ≠ assignmentId) } := by
  unfold removeRole at h
  split at h
  · cases h
  · rename_i hpermitted
    split at h
    · cases h
    · rename_i ur hur
      split at h
      · cases h
      · rename_i hown
        cases h
        exact ⟨⟨hpermitted, ur, hur, not_not.1 hown⟩, rfl⟩

theorem removeRole_of_may {assignmentId : String} (h : MayRemove db actor userId assignmentId) :
    removeRole db actor userId assignmentId =
      .ok { db with userRoles := db.userRoles.filter (·.id ≠ assignmentId) } := by
  obtain ⟨hpermitted, ur, hur, hown⟩ := h
  unfold removeRole
  rw [hpermitted, hur]
  dsimp only
  rw [if_neg (not_not.2 hown)]

/-- The other active admins stay; the user whose account is switched off is none. -/
theorem adminRemains_deactivated : AdminRemains (db.setUserStatus userId "inactive") ↔
    ∃ u ur, UnscopedAdmin db u ur ∧ u.id ≠ userId := by
  constructor
  · rintro ⟨u', ur, h⟩
    obtain ⟨u, hu, heq⟩ := Rows.mem_updateWhere.1 h.user
    by_cases hid : u.id = userId
    · rw [if_pos (decide_eq_true hid)] at heq
      have hstatus := h.active
      rw [← heq] at hstatus
      exact absurd hstatus (by simp)
    · rw [if_neg (by simpa using hid)] at heq
      subst heq
      exact ⟨u, ur, ⟨hu, h.active, h.assignment, h.own, h.unscoped, h.systemAdmin⟩, hid⟩
  · rintro ⟨u, ur, h, hid⟩
    refine ⟨u, ur, ?_, h.active, h.assignment, h.own, h.unscoped, h.systemAdmin⟩
    exact Rows.mem_updateWhere.2 ⟨u, h.user, if_neg (by simpa using hid)⟩

theorem adminRemains_activated (h : AdminRemains db) :
    AdminRemains (db.setUserStatus userId "active") := by
  obtain ⟨u, ur, hadmin⟩ := h
  by_cases hid : u.id = userId
  · refine ⟨{ u with toUser := { u.toUser with status := "active" } }, ur, ?_, rfl,
      hadmin.assignment, hadmin.own, hadmin.unscoped, hadmin.systemAdmin⟩
    exact Rows.mem_updateWhere.2 ⟨u, hadmin.user, if_pos (decide_eq_true hid)⟩
  · refine ⟨u, ur, ?_, hadmin.active, hadmin.assignment, hadmin.own, hadmin.unscoped,
      hadmin.systemAdmin⟩
    exact Rows.mem_updateWhere.2 ⟨u, hadmin.user, if_neg (by simpa using hid)⟩

theorem adminRemains_assigned (h : AdminRemains db) (ur : RoleAssignment) :
    AdminRemains { db with userRoles := db.userRoles ++ [ur] } := by
  obtain ⟨u, own, hadmin⟩ := h
  exact ⟨u, own, hadmin.user, hadmin.active, List.mem_append_left _ hadmin.assignment, hadmin.own,
    hadmin.unscoped, hadmin.systemAdmin⟩

theorem adminRemains_removed {assignmentId : String} :
    AdminRemains { db with userRoles := db.userRoles.filter (·.id ≠ assignmentId) } ↔
      ∃ u ur, UnscopedAdmin db u ur ∧ ur.id ≠ assignmentId := by
  constructor
  · rintro ⟨u, ur, h⟩
    obtain ⟨hmem, hid⟩ := List.mem_filter.1 h.assignment
    exact ⟨u, ur, ⟨h.user, h.active, hmem, h.own, h.unscoped, h.systemAdmin⟩,
      of_decide_eq_true hid⟩
  · rintro ⟨u, ur, h, hid⟩
    exact ⟨u, ur, h.user, h.active, List.mem_filter.2 ⟨h.assignment, decide_eq_true hid⟩, h.own,
      h.unscoped, h.systemAdmin⟩

end Effects

/-! ## Runs -/

theorem accountsNext_adminRemains {db : AccountsDb} (call : AccountCall) (h : AdminRemains db) :
    AdminRemains (accountsNext db call) ↔ SparesLastAdmin db call := by
  unfold accountsNext AccountCall.run
  cases call with
  | deactivate actor userId =>
      dsimp only
      cases hrun : deactivateUser db actor userId with
      | error e =>
          refine ⟨fun _ hmay ↦ ?_, fun _ ↦ h⟩
          rw [deactivateUser_of_may hmay] at hrun
          cases hrun
      | ok db' =>
          obtain ⟨hmay, rfl⟩ := deactivateUser_ok hrun
          exact adminRemains_deactivated.trans ⟨fun hother _ ↦ hother, fun hspare ↦ hspare hmay⟩
  | activate actor userId =>
      dsimp only
      cases hrun : activateUser db actor userId with
      | error e => exact ⟨fun _ ↦ trivial, fun _ ↦ h⟩
      | ok db' =>
          rw [activateUser_ok hrun]
          exact ⟨fun _ ↦ trivial, fun _ ↦ adminRemains_activated h⟩
  | assign actor r =>
      dsimp only
      cases hrun : assignRole db actor r with
      | error e => exact ⟨fun _ ↦ trivial, fun _ ↦ h⟩
      | ok db' =>
          obtain ⟨ur, rfl⟩ := assignRole_ok hrun
          exact ⟨fun _ ↦ trivial, fun _ ↦ adminRemains_assigned h ur⟩
  | remove actor userId assignmentId =>
      dsimp only
      cases hrun : removeRole db actor userId assignmentId with
      | error e =>
          refine ⟨fun _ hmay ↦ ?_, fun _ ↦ h⟩
          rw [removeRole_of_may hmay] at hrun
          cases hrun
      | ok db' =>
          obtain ⟨hmay, rfl⟩ := removeRole_ok hrun
          exact adminRemains_removed.trans ⟨fun hother _ ↦ hother, fun hspare ↦ hspare hmay⟩

/-- Over every run of the routes from a state with an active unscoped system admin: there is one
in every state exactly if no call takes the last one away. -/
theorem adminRemains_iff (db : AccountsDb) (calls : List AccountCall) (h : AdminRemains db) :
    Run.Always accountsNext AdminRemains db calls ↔
      Run.Guarded accountsNext SparesLastAdmin db calls :=
  Run.always_iff_guarded (I := fun _ ↦ True) (A := fun _ ↦ True) (fun _ _ _ _ ↦ trivial)
    (fun _ call _ _ hadmin ↦ accountsNext_adminRemains call hadmin) (fun _ _ ↦ trivial) trivial h

/-! One system admin, who may manage roles; then two of them. -/

def oneAdminDb : AccountsDb where
  users := [{ id := "root" }]
  roles := [⟨"r1", "system_admin"⟩]
  permissions := [⟨"p1", "roles.manage"⟩, ⟨"p2", "users.manage"⟩]
  rolePermissions := [⟨"r1", "p1"⟩, ⟨"r1", "p2"⟩]
  userRoles := [{ userId := "root", roleId := "r1", id := "a1" }]

theorem oneAdmin_remains : AdminRemains oneAdminDb :=
  ⟨{ id := "root" }, { userId := "root", roleId := "r1", id := "a1" }, List.mem_cons_self, rfl,
    List.mem_cons_self, rfl, rfl, by decide⟩

theorem own_role_removed : ¬ ∀ (db : AccountsDb) (calls : List AccountCall), AdminRemains db →
    Run.Always accountsNext AdminRemains db calls := by
  intro h
  have hrun := h oneAdminDb [.remove "root" "root" "a1"] oneAdmin_remains
  have hempty : (accountsNext oneAdminDb (.remove "root" "root" "a1")).userRoles = [] := by
    decide +kernel
  obtain ⟨u, ur, hadmin⟩ : AdminRemains (accountsNext oneAdminDb (.remove "root" "root" "a1")) :=
    hrun.2
  have hmem := hadmin.assignment
  rw [hempty] at hmem
  exact absurd hmem List.not_mem_nil

def twoAdminsDb : AccountsDb :=
  { oneAdminDb with
    users := [{ id := "root" }, { id := "second" }]
    userRoles := [{ userId := "root", roleId := "r1", id := "a1" },
      { userId := "second", roleId := "r1", id := "a2" }] }

theorem second_admin_deactivated :
    Run.Always accountsNext AdminRemains twoAdminsDb [.deactivate "root" "second"] := by
  have hroot : UnscopedAdmin twoAdminsDb { id := "root" }
      { userId := "root", roleId := "r1", id := "a1" } :=
    ⟨List.mem_cons_self, rfl, List.mem_cons_self, rfl, rfl, by decide⟩
  apply (adminRemains_iff twoAdminsDb [.deactivate "root" "second"] ⟨_, _, hroot⟩).2
  exact ⟨fun _ ↦ ⟨_, _, hroot, by decide⟩, trivial⟩

end RetailMedia
