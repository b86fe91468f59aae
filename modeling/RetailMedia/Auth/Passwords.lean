import RetailMedia.Auth.Administrators
import RetailMedia.Auth.SessionCap
import RetailMedia.Advertiser.Invites

/-! The routes that put an account's sessions out of use: the change of a password, its reset by an
administrator, and deactivation. -/

namespace RetailMedia

/-! ## State -/

structure AuditEvent where
  actorUserId : String
  action : String
  targetType : String
  targetId : String
  sessionsRevoked : Option Bool := none
  deriving DecidableEq, Repr

/-- What the management routes look at besides the accounts and their sessions. -/
structure Staff where
  breakGlass : List String := []
  roles : List Role := []
  permissions : List Permission := []
  rolePermissions : List RolePermission := []
  userRoles : List RoleAssignment := []
  advertiserOrganizations : List AdvertiserOrganization := []

/-- The users whose credential asks for a new password are listed. -/
structure ManagedState extends LoginState where
  staff : Staff := {}
  mustChangePassword : List String := []
  auditEvents : List AuditEvent := []

namespace ManagedState

variable (s : ManagedState)

def accounts : AccountsDb where
  users := s.db.users.map fun u ↦ { toUser := u.toUser, isBreakGlass := u.id ∈ s.staff.breakGlass }
  roles := s.staff.roles
  permissions := s.staff.permissions
  rolePermissions := s.staff.rolePermissions
  userRoles := s.staff.userRoles
  advertiserOrganizations := s.staff.advertiserOrganizations

def withDb (db : LoginDb) : ManagedState := { s with db := db }

def audited (e : AuditEvent) : ManagedState := { s with auditEvents := s.auditEvents ++ [e] }

def after (elapsed : Nat) : ManagedState := { s with now := s.now + elapsed }

@[simp] theorem withDb_staff (db : LoginDb) : (s.withDb db).staff = s.staff := rfl

@[simp] theorem withDb_db (db : LoginDb) : (s.withDb db).db = db := rfl

end ManagedState

structure PasswordConfig extends LoginConfig where
  /-- The settings of passwords, under the salt of a request. -/
  salted : String → PortalConfig

inductive ManageError
  | route (e : RouteError)
  | raised (e : PortalError)
  deriving DecidableEq, Repr

/-! ## Passwords -/

def LoginDb.setPassword (db : LoginDb) (userId passwordHash : String) : LoginDb :=
  { db with
    localCredentials := Rows.updateWhere (·.userId = userId)
      (fun c ↦ { c with passwordHash := passwordHash }) db.localCredentials }

/-! ## Sessions -/

/-- All active sessions of the user, with their number. -/
def revokeAllSessionsForUser (t : RefreshTable) (now : Int) (userId : String) : RefreshTable × Nat :=
  (t.update (·.active userId now) (·.revoked now) (revoked_id now) (revoked_tokenHash now),
    t.rows.countP (·.active userId now))

/-- A change of one's own password does not ask whether they have expired. -/
def revokeUnrevokedSessions (t : RefreshTable) (now : Int) (userId : String) : RefreshTable :=
  t.update (fun x ↦ x.userId = userId ∧ x.revokedAt = none) (·.revoked now) (revoked_id now)
    (revoked_tokenHash now)

/-! ## Changing one's own password -/

/-- The claims of an access token that is valid. -/
structure AccessClaims where
  sub : String
  authProvider : String
  deriving DecidableEq, Repr

structure ChangePasswordRequest where
  currentPassword : String
  newPassword : String
  deriving DecidableEq, Repr

def getCurrentActiveUser (db : LoginDb) (sub : String) : Option RouteError :=
  match Rows.get (·.id) sub db.users with
  | none => some (.http 401 "USER_NOT_FOUND" "User no longer exists")
  | some u =>
      if u.status ≠ "active" then some (.http 403 "USER_DISABLED" "User account is disabled")
      else none

def changePassword (cfg : PasswordConfig) (s : ManagedState) (claims : AccessClaims)
    (body : ChangePasswordRequest) (salt : String) : Except ManageError (ManagedState × String) :=
  match getCurrentActiveUser s.db claims.sub with
  | some e => .error (.route e)
  | none =>
      if claims.authProvider ∉ ["local_advertiser", "local_break_glass"] then
        .error (.route (httpDetail 400 "Password change not available for your account type"))
      else if claims.sub = "" then .error (.route (httpDetail 401 "Not authenticated"))
      else
        match getLocalCredential s.db claims.sub with
        | none => .error (.route (httpDetail 400 "No local credential found"))
        | some cred =>
            if verifyPassword cfg.toLoginConfig body.currentPassword cred.passwordHash = false then
              .error (.route (httpDetail 400 "Current password is incorrect"))
            else
              match hashPassword (cfg.salted salt) body.newPassword with
              | .error (.valueError text) => .error (.route (httpDetail 400 text))
              | .error e => .error (.raised e)
              | .ok newHash =>
                  let db := s.db.setPassword claims.sub newHash
                  .ok ({ s.withDb (db.withSessions
                      (revokeUnrevokedSessions db.refreshSessions s.now claims.sub)) with
                    mustChangePassword := s.mustChangePassword.filter (· ≠ claims.sub) },
                    "Password changed")

/-! ## Resets -/

structure ResetPasswordRequest where
  newTemporaryPassword : Option String := none
  autoGeneratePassword : Bool := false
  revokeSessions : Bool := true
  lengths : ∀ p ∈ newTemporaryPassword, 8 ≤ p.length ∧ p.length ≤ 128 := by simp

structure ResetPasswordResponse where
  userId : String
  mustChangePassword : Bool := true
  sessionsRevoked : Bool
  oneTimePassword : Option String
  message : String := "Password reset successfully."
  deriving DecidableEq, Repr

/-- What the request draws at random. -/
structure DrawnPassword where
  password : String
  salt : String
  deriving DecidableEq, Repr

/-- The new password, with the copy of a generated one that the answer shows. -/
def ResetPasswordRequest.password (body : ResetPasswordRequest) (drawn : DrawnPassword) :
    Option (String × Option String) :=
  if body.autoGeneratePassword then some (drawn.password, some drawn.password)
  else (body.newTemporaryPassword.filter (· ≠ "")).map fun p ↦ (p, none)

/-- The sessions after the reset, and whether it has revoked any. -/
def ResetPasswordRequest.sessions (body : ResetPasswordRequest) (t : RefreshTable) (now : Int)
    (userId : String) : RefreshTable × Bool :=
  if body.revokeSessions then
    ((revokeAllSessionsForUser t now userId).1, 0 < (revokeAllSessionsForUser t now userId).2)
  else (t, false)

def startsWithLocal (authProvider : String) : Bool :=
  "local_".toList.isPrefixOf authProvider.toList

def resetPassword (cfg : PasswordConfig) (s : ManagedState) (actor userId : String)
    (body : ResetPasswordRequest) (drawn : DrawnPassword) :
    Except ManageError (ManagedState × ResetPasswordResponse) :=
  match requirePermission s.accounts actor "users.manage" with
  | some e => .error (.route e)
  | none =>
      match Rows.get (·.id) userId s.db.users with
      | none => .error (.route (httpDetail 404 "User not found"))
      | some user =>
          if userId = actor then
            .error (.route (httpDetail 422 ("Cannot reset your own password via admin endpoint. " ++
              "Use /auth/change-password instead.")))
          else if startsWithLocal user.authProvider = false then
            .error (.route (httpDetail 422 ("Password reset is only available for local accounts, " ++
              "not " ++ user.authProvider)))
          else
            match getLocalCredential s.db userId with
            | none =>
                .error (.route (httpDetail 422 "No local credentials found for this user"))
            | some _ =>
                match body.password drawn with
                | none =>
                    .error (.route (httpDetail 422 ("Either new_temporary_password or " ++
                      "auto_generate_password must be provided")))
                | some (password, oneTimePassword) =>
                    match hashPassword (cfg.salted drawn.salt) password with
                    | .error e => .error (.raised e)
                    | .ok passwordHash =>
                        let db := s.db.setPassword userId passwordHash
                        let (sessions, revoked) := body.sessions db.refreshSessions s.now userId
                        let s' := { s.withDb (db.withSessions sessions) with
                          mustChangePassword := userId :: s.mustChangePassword }
                        .ok (s'.audited {
                            actorUserId := actor
                            action := "user.password_reset"
                            targetType := "user"
                            targetId := userId
                            sessionsRevoked := some revoked }, {
                          userId := userId
                          sessionsRevoked := revoked
                          oneTimePassword := oneTimePassword })

/-! ## Activation -/

def LoginDb.setUserStatus (db : LoginDb) (userId status : String) : LoginDb :=
  { db with
    users := Rows.updateWhere (·.id = userId)
      (fun u ↦ { u with toUser := { u.toUser with status := status } }) db.users }

structure UserStatusResponse where
  userId : String
  status : String
  message : String
  deriving DecidableEq, Repr

def deactivateUserEndpoint (s : ManagedState) (actor userId : String) :
    Except RouteError (ManagedState × UserStatusResponse) :=
  match deactivateUser s.accounts actor userId with
  | .error e => .error e
  | .ok _ =>
      let db := s.db.setUserStatus userId "inactive"
      .ok ((s.withDb (db.withSessions
          (revokeAllSessionsForUser db.refreshSessions s.now userId).1)).audited {
            actorUserId := actor
            action := "user.deactivated"
            targetType := "user"
            targetId := userId },
        ⟨userId, "inactive", "User deactivated. All sessions revoked."⟩)

def activateUserEndpoint (s : ManagedState) (actor userId : String) :
    Except RouteError (ManagedState × UserStatusResponse) :=
  match activateUser s.accounts actor userId with
  | .error e => .error e
  | .ok _ =>
      .ok ((s.withDb (s.db.setUserStatus userId "active")).audited {
          actorUserId := actor
          action := "user.activated"
          targetType := "user"
          targetId := userId },
        ⟨userId, "active", "User activated."⟩)

/-! ## Histories -/

inductive ManagedEvent
  | session (e : SessionEvent)
  | changePassword (elapsed : Nat) (claims : AccessClaims) (body : ChangePasswordRequest)
      (salt : String)
  | resetPassword (elapsed : Nat) (actor userId : String) (body : ResetPasswordRequest)
      (drawn : DrawnPassword)
  | deactivate (elapsed : Nat) (actor userId : String)
  | activate (elapsed : Nat) (actor userId : String)

/-- An error rolls the request back; the time passes. -/
def ManagedState.settle {ε α : Type*} (s : ManagedState) :
    Except ε (ManagedState × α) → ManagedState
  | .ok (s', _) => s'
  | .error _ => s

def managedNext (cfg : PasswordConfig) (s : ManagedState) : ManagedEvent → ManagedState
  | .session e => { s with toLoginState := sessionNext cfg.toLoginConfig s.toLoginState e }
  | .changePassword elapsed claims body salt =>
      (s.after elapsed).settle (changePassword cfg (s.after elapsed) claims body salt)
  | .resetPassword elapsed actor userId body drawn =>
      (s.after elapsed).settle (resetPassword cfg (s.after elapsed) actor userId body drawn)
  | .deactivate elapsed actor userId =>
      (s.after elapsed).settle (deactivateUserEndpoint (s.after elapsed) actor userId)
  | .activate elapsed actor userId =>
      (s.after elapsed).settle (activateUserEndpoint (s.after elapsed) actor userId)

end RetailMedia
