import RetailMedia.Auth.Passwords

/-! Sessions that are out of use stay so: until the user logs in again, and, for a deactivated user,
until it is activated. -/

namespace RetailMedia

/-! ## Successful management requests -/

section Outcomes

variable {cfg : PasswordConfig} {s s' : ManagedState}

/-- What a change of the user's own password writes. -/
theorem changePassword_ok {claims : AccessClaims} {body : ChangePasswordRequest} {salt text : String}
    (h : changePassword cfg s claims body salt = .ok (s', text)) :
    ∃ newHash, hashPassword (cfg.salted salt) body.newPassword = .ok newHash ∧
      s' = { s.withDb ((s.db.setPassword claims.sub newHash).withSessions
          (revokeUnrevokedSessions s.db.refreshSessions s.now claims.sub)) with
        mustChangePassword := s.mustChangePassword.filter (· ≠ claims.sub) } := by
  unfold changePassword at h
  split at h
  · cases h
  · split at h
    · cases h
    · split at h
      · cases h
      · split at h
        · cases h
        · split at h
          · cases h
          · split at h
            · cases h
            · cases h
            · rename_i newHash hhash
              cases h
              exact ⟨newHash, hhash, rfl⟩

/-- What a reset writes; the account is a local one, and has a credential. -/
theorem resetPassword_ok {actor userId : String} {body : ResetPasswordRequest}
    {drawn : DrawnPassword} {response : ResetPasswordResponse}
    (h : resetPassword cfg s actor userId body drawn = .ok (s', response)) :
    ∃ user password shown passwordHash, Rows.get (·.id) userId s.db.users = some user ∧
      startsWithLocal user.authProvider = true ∧
      (getLocalCredential s.db userId).isSome = true ∧
      body.password drawn = some (password, shown) ∧
      hashPassword (cfg.salted drawn.salt) password = .ok passwordHash ∧
      s'.db = (s.db.setPassword userId passwordHash).withSessions
        (body.sessions s.db.refreshSessions s.now userId).1 ∧
      s'.now = s.now ∧ s'.mustChangePassword = userId :: s.mustChangePassword := by
  unfold resetPassword at h
  split at h
  · cases h
  · split at h
    · cases h
    · rename_i user huser
      split at h
      · cases h
      · split at h
        · cases h
        · rename_i hlocal
          split at h
          · cases h
          · rename_i cred hcred
            split at h
            · cases h
            · rename_i password shown hpassword
              split at h
              · cases h
              · rename_i passwordHash hhash
                cases h
                refine ⟨user, password, shown, passwordHash, huser, ?_, ?_, hpassword, hhash, rfl, rfl,
                  rfl⟩
                · simpa using hlocal
                · rw [hcred]
                  rfl

theorem deactivateUserEndpoint_ok {actor userId : String} {response : UserStatusResponse}
    (h : deactivateUserEndpoint s actor userId = .ok (s', response)) :
    s'.db = (s.db.setUserStatus userId "inactive").withSessions
        (revokeAllSessionsForUser s.db.refreshSessions s.now userId).1 ∧
      s'.now = s.now ∧ s'.mustChangePassword = s.mustChangePassword := by
  unfold deactivateUserEndpoint at h
  split at h
  · cases h
  · cases h
    exact ⟨rfl, rfl, rfl⟩

theorem activateUserEndpoint_ok {actor userId : String} {response : UserStatusResponse}
    (h : activateUserEndpoint s actor userId = .ok (s', response)) :
    s'.db = s.db.setUserStatus userId "active" ∧ s'.now = s.now ∧
      s'.mustChangePassword = s.mustChangePassword := by
  unfold activateUserEndpoint at h
  split at h
  · cases h
  · cases h
    exact ⟨rfl, rfl, rfl⟩

end Outcomes

/-! ## Signed out -/

/-- No session of the user can be refreshed. -/
def SignedOut (userId : String) (s : LoginState) : Prop :=
  ∀ x ∈ s.db.refreshSessions.rows, x.live userId s.now = false

/-- Some refresh, now or later, would give tokens to the user. -/
def Refreshes (cfg : AuthConfig) (userId : String) (s : LoginState) : Prop :=
  ∃ now, s.now ≤ now ∧ ∃ token drawn ipAddress db a,
    refreshSession cfg s.db.auth now token drawn ipAddress = .ok (db, .success a) ∧
      a.userId = userId

theorem live_iff {x : RefreshSession} {userId : String} {now : Int} :
    x.live userId now = true ↔
      x.rotatedAt = none ∧ x.userId = userId ∧ x.revokedAt = none ∧ now < x.expiresAt := by
  unfold RefreshSession.live RefreshSession.unrotated RefreshSession.active
  simp

/-- A session that is not live does not come back with time. -/
theorem not_live_later {x : RefreshSession} {userId : String} {now now' : Int}
    (h : x.live userId now = false) (hnow : now ≤ now') : x.live userId now' = false := by
  rw [Bool.eq_false_iff] at h ⊢
  intro hlive
  rw [Ne, live_iff] at h
  obtain ⟨hrotated, huser, hrevoked, hexpires⟩ := live_iff.1 hlive
  exact h ⟨hrotated, huser, hrevoked, by omega⟩

/-- What the lookup finds is live for its user. -/
theorem findActive_live {t : RefreshTable} {now : Int} {tokenHash : String} {x : RefreshSession}
    (h : findActiveRefreshSession t now tokenHash = some x) :
    x ∈ t.rows ∧ x.live x.userId now = true := by
  obtain ⟨hmem, -, hexpires, hrevoked, hrotated⟩ := findActive_spec h
  exact ⟨hmem, live_iff.2 ⟨hrotated, rfl, hrevoked, hexpires⟩⟩

theorem refreshSession_user {cfg : AuthConfig} {db db' : AuthDb} {now : Int} {token : String}
    {drawn : Drawn} {ipAddress : Option String} {a : AuthSuccess}
    (h : refreshSession cfg db now token drawn ipAddress = .ok (db', .success a)) :
    ∃ x, findActiveRefreshSession db.refreshSessions now (hashToken token) = some x ∧
      x.userId = a.userId := by
  unfold refreshSession at h
  cases hfind : findActiveRefreshSession db.refreshSessions now (hashToken token) with
  | none =>
      rw [hfind] at h
      cases h
  | some x =>
      refine ⟨x, rfl, ?_⟩
      have hunrotated : x.rotatedAt = none := (findActive_spec hfind).2.2.2.2
      rw [hfind] at h
      dsimp only at h
      rw [hunrotated, if_neg (by decide)] at h
      cases huser : Rows.get User.id x.userId db.users with
      | none =>
          rw [huser] at h
          cases h
      | some user =>
          rw [huser] at h
          dsimp only at h
          split at h
          · cases h
          · cases hinsert : (rotateRefreshSession db.refreshSessions now x.id).insert
                (x.successor cfg now drawn ipAddress) with
            | error e =>
                rw [hinsert] at h
                cases h
            | ok sessions =>
                rw [hinsert] at h
                cases h
                rfl

theorem SignedOut.not_refreshes {cfg : AuthConfig} {userId : String} {s : LoginState}
    (h : SignedOut userId s) : ¬ Refreshes cfg userId s := by
  rintro ⟨now, hnow, token, drawn, ipAddress, db, a, hrefresh, ha⟩
  obtain ⟨x, hfind, hx⟩ := refreshSession_user hrefresh
  obtain ⟨hmem, hlive⟩ := findActive_live hfind
  rw [hx.trans ha, not_live_later (h x hmem) hnow] at hlive
  cases hlive

/-! ## One event -/

/-- Marks take sessions out of use, and nothing else. -/
theorem notLive_marked {userId : String} {now now' : Int} {rows : List RefreshSession}
    {p : RefreshSession → Bool} {f : RefreshSession → RefreshSession}
    (hf : ∀ x, (f x).live userId now' = false) (h : ∀ x ∈ rows, x.live userId now = false)
    (hnow : now ≤ now') : ∀ y ∈ Rows.updateWhere p f rows, y.live userId now' = false := by
  intro y hy
  obtain ⟨x, hx, rfl⟩ := Rows.mem_updateWhere.1 hy
  split
  · exact hf x
  · exact not_live_later (h x hx) hnow

theorem notLive_revoked (userId : String) (now now' : Int) (x : RefreshSession) :
    (x.revoked now).live userId now' = false := by
  rw [Bool.eq_false_iff, Ne, live_iff]
  rintro ⟨-, -, hrevoked, -⟩
  cases hrevoked

theorem notLive_rotated (userId : String) (now now' : Int) (x : RefreshSession) :
    (x.rotated now).live userId now' = false := by
  rw [Bool.eq_false_iff, Ne, live_iff]
  rintro ⟨hrotated, -⟩
  cases hrotated

theorem notLive_other {userId : String} {now : Int} {x : RefreshSession} (h : x.userId ≠ userId) :
    x.live userId now = false := by
  rw [Bool.eq_false_iff, Ne, live_iff]
  rintro ⟨-, huser, -⟩
  exact h huser

theorem notLive_concat {userId : String} {now : Int} {rows : List RefreshSession}
    {x : RefreshSession} (h : ∀ y ∈ rows, y.live userId now = false) (hx : x.userId ≠ userId) :
    ∀ y ∈ rows ++ [x], y.live userId now = false := by
  intro y hy
  rcases List.mem_append.1 hy with hy | hy
  · exact h y hy
  · rw [List.mem_singleton.1 hy]
    exact notLive_other hx

section Step

variable {cfg : PasswordConfig} {userId : String}

/-- The event is a login of this user, and succeeds. -/
def LogsInAs (cfg : PasswordConfig) (userId : String) (s : ManagedState) : ManagedEvent → Prop
  | .session (.login r) => ∃ user, LogsIn cfg.toLoginConfig s.toLoginState r user ∧ user.id = userId
  | _ => False

theorem SignedOut.login {s : LoginState} (h : SignedOut userId s) {r : LoginRequest}
    (hother : ∀ user, LogsIn cfg.toLoginConfig s r user → user.id ≠ userId) :
    SignedOut userId (loginNext cfg.toLoginConfig s r) := by
  have hlater := now_le_decidedAt s r
  show ∀ x ∈ (loginEndpoint _ s.db r (r.startedAt s) (r.decidedAt s)).1.refreshSessions.rows,
    x.live userId (r.decidedAt s) = false
  rcases loginEndpoint_sessions cfg.toLoginConfig s.db r (r.startedAt s) (r.decidedAt s) with
    ⟨-, hsame⟩ | ⟨user, hfound, hok, hrows⟩
  · rw [hsame]
    exact fun x hx ↦ not_live_later (h x hx) hlater
  · rw [hrows]
    apply notLive_concat _ (hother user ⟨hfound, hok⟩)
    exact notLive_marked (notLive_revoked userId _ _) h hlater

theorem SignedOut.refresh {s : LoginState} (h : SignedOut userId s) (elapsed : Nat)
    (refreshToken : Option String) (drawn : Drawn) (ipAddress : Option String) :
    SignedOut userId
      (sessionNext cfg.toLoginConfig s (.refresh elapsed refreshToken drawn ipAddress)) := by
  have hlater : s.now ≤ s.now + elapsed := Int.le_add_of_nonneg_right (Int.natCast_nonneg elapsed)
  show ∀ x ∈ (refreshStep cfg.toAuthConfig s.db.auth _).refreshSessions.rows,
    x.live userId (s.now + elapsed) = false
  unfold refreshStep refreshEndpoint
  dsimp only
  split
  · exact fun x hx ↦ not_live_later (h x hx) hlater
  · split
    · exact fun x hx ↦ not_live_later (h x hx) hlater
    · exact fun x hx ↦ not_live_later (h x hx) hlater
    · rename_i heq
      obtain ⟨rs, hfind, hrows⟩ := refreshSession_success heq
      obtain ⟨hmem, hlive⟩ := findActive_live hfind
      dsimp only
      rw [hrows]
      apply notLive_concat
      · exact notLive_marked (notLive_rotated userId _ _) h hlater
      · -- the session that is rotated is live, so it is another user's
        intro hsame
        have hdead := not_live_later (h rs hmem) hlater
        rw [show rs.userId = userId from hsame] at hlive
        rw [hlive] at hdead
        cases hdead

variable (cfg) in
theorem SignedOut.logout {s : LoginState} (h : SignedOut userId s) (elapsed : Nat)
    (refreshToken : Option String) :
    SignedOut userId (sessionNext cfg.toLoginConfig s (.logout elapsed refreshToken)) := by
  have hlater : s.now ≤ s.now + elapsed := Int.le_add_of_nonneg_right (Int.natCast_nonneg elapsed)
  show ∀ x ∈ (logoutEndpoint s.db.refreshSessions (s.now + elapsed) refreshToken).1.rows,
    x.live userId (s.now + elapsed) = false
  unfold logoutEndpoint
  split
  · exact fun x hx ↦ not_live_later (h x hx) hlater
  · unfold RetailMedia.logout
    dsimp only
    split
    · exact fun x hx ↦ not_live_later (h x hx) hlater
    · exact notLive_marked (notLive_revoked userId _ _) h hlater

/-- What the management routes do to the sessions. -/
theorem managed_sessions (s : ManagedState) (e : ManagedEvent) (hnot : ∀ e', e ≠ .session e') :
    s.now ≤ (managedNext cfg s e).now ∧
      ((managedNext cfg s e).db.refreshSessions.rows = s.db.refreshSessions.rows ∨
        ∃ p : RefreshSession → Bool, (managedNext cfg s e).db.refreshSessions.rows =
          Rows.updateWhere p (·.revoked (managedNext cfg s e).now) s.db.refreshSessions.rows) := by
  have hlater : ∀ elapsed : Nat, s.now ≤ (s.after elapsed).now := fun elapsed ↦
    Int.le_add_of_nonneg_right (Int.natCast_nonneg elapsed)
  cases e with
  | session e' => exact absurd rfl (hnot e')
  | changePassword elapsed claims body salt =>
      simp only [managedNext]
      cases hcall : changePassword cfg (s.after elapsed) claims body salt with
      | error e => exact ⟨hlater elapsed, .inl rfl⟩
      | ok answer =>
          obtain ⟨s', text⟩ := answer
          obtain ⟨newHash, -, rfl⟩ := changePassword_ok hcall
          exact ⟨hlater elapsed, .inr ⟨_, rfl⟩⟩
  | resetPassword elapsed actor target body drawn =>
      simp only [managedNext]
      cases hcall : resetPassword cfg (s.after elapsed) actor target body drawn with
      | error e => exact ⟨hlater elapsed, .inl rfl⟩
      | ok answer =>
          obtain ⟨s', response⟩ := answer
          obtain ⟨user, password, shown, hash, -, -, -, -, -, hdb, hnow, -⟩ := resetPassword_ok hcall
          simp only [ManagedState.settle]
          rw [hdb, hnow]
          refine ⟨hlater elapsed, ?_⟩
          unfold ResetPasswordRequest.sessions
          split
          · exact .inr ⟨_, rfl⟩
          · exact .inl rfl
  | deactivate elapsed actor target =>
      simp only [managedNext]
      cases hcall : deactivateUserEndpoint (s.after elapsed) actor target with
      | error e => exact ⟨hlater elapsed, .inl rfl⟩
      | ok answer =>
          obtain ⟨s', response⟩ := answer
          obtain ⟨hdb, hnow, -⟩ := deactivateUserEndpoint_ok hcall
          simp only [ManagedState.settle]
          rw [hdb, hnow]
          exact ⟨hlater elapsed, .inr ⟨_, rfl⟩⟩
  | activate elapsed actor target =>
      simp only [managedNext]
      cases hcall : activateUserEndpoint (s.after elapsed) actor target with
      | error e => exact ⟨hlater elapsed, .inl rfl⟩
      | ok answer =>
          obtain ⟨s', response⟩ := answer
          obtain ⟨hdb, hnow, -⟩ := activateUserEndpoint_ok hcall
          simp only [ManagedState.settle]
          rw [hdb, hnow]
          exact ⟨hlater elapsed, .inl rfl⟩

/-- A user that is signed out stays so, unless it logs in. -/
theorem SignedOut.next {s : ManagedState} {e : ManagedEvent}
    (h : SignedOut userId s.toLoginState) (hlogin : ¬ LogsInAs cfg userId s e) :
    SignedOut userId (managedNext cfg s e).toLoginState := by
  by_cases hsession : ∃ e', e = .session e'
  · obtain ⟨e', rfl⟩ := hsession
    cases e' with
    | login r => exact h.login fun user hin hid ↦ hlogin ⟨user, hin, hid⟩
    | refresh elapsed refreshToken drawn ipAddress =>
        exact h.refresh elapsed refreshToken drawn ipAddress
    | logout elapsed refreshToken => exact h.logout cfg elapsed refreshToken
  · obtain ⟨hlater, hsame | ⟨p, hrows⟩⟩ :=
      @managed_sessions cfg s e fun e' heq ↦ hsession ⟨e', heq⟩
    · unfold SignedOut
      rw [hsame]
      exact fun x hx ↦ not_live_later (h x hx) hlater
    · unfold SignedOut
      rw [hrows]
      exact notLive_marked (notLive_revoked userId _ _) h hlater

end Step

/-! ## Signing out -/

/-- The event succeeds, and it changes the user's password, resets it with all sessions, or
deactivates the user. -/
def SignsOut (cfg : PasswordConfig) (userId : String) (s : ManagedState) : ManagedEvent → Prop
  | .changePassword elapsed claims body salt => claims.sub = userId ∧
      (changePassword cfg (s.after elapsed) claims body salt).isOk = true
  | .resetPassword elapsed actor target body drawn => target = userId ∧ body.revokeSessions = true ∧
      (resetPassword cfg (s.after elapsed) actor target body drawn).isOk = true
  | .deactivate elapsed actor target => target = userId ∧
      (deactivateUserEndpoint (s.after elapsed) actor target).isOk = true
  | _ => False

section SigningOut

variable {cfg : PasswordConfig} {userId : String} {s : ManagedState} {e : ManagedEvent}

theorem exists_of_isOk {ε α : Type*} {x : Except ε α} (h : x.isOk = true) : ∃ a, x = .ok a := by
  cases x with
  | error e => cases h
  | ok a => exact ⟨a, rfl⟩

/-- All sessions that a revocation finds active are not live after it; the others were not before. -/
theorem notLive_of_revoked {now : Int} {rows : List RefreshSession} {p : RefreshSession → Bool}
    (hp : ∀ x ∈ rows, x.live userId now = true → p x = true) :
    ∀ y ∈ Rows.updateWhere p (·.revoked now) rows, y.live userId now = false := by
  intro y hy
  obtain ⟨x, hx, rfl⟩ := Rows.mem_updateWhere.1 hy
  split
  · exact notLive_revoked userId now now x
  · rename_i hout
    rw [Bool.eq_false_iff]
    intro hlive
    exact hout (hp x hx hlive)

theorem signedOut_of_signsOut (h : SignsOut cfg userId s e) :
    SignedOut userId (managedNext cfg s e).toLoginState := by
  have hactive : ∀ (x : RefreshSession) (now : Int), x.live userId now = true →
      x.active userId now = true := by
    intro x now hlive
    unfold RefreshSession.live at hlive
    rw [Bool.and_eq_true] at hlive
    exact hlive.2
  cases e with
  | session e' => exact h.elim
  | changePassword elapsed claims body salt =>
      obtain ⟨rfl, hok⟩ := h
      obtain ⟨⟨s', text⟩, hcall⟩ := exists_of_isOk hok
      simp only [managedNext]
      rw [hcall]
      obtain ⟨newHash, -, rfl⟩ := changePassword_ok hcall
      apply notLive_of_revoked
      intro x _ hlive
      obtain ⟨-, huser, hrevoked, -⟩ := live_iff.1 hlive
      simpa using ⟨huser, hrevoked⟩
  | resetPassword elapsed actor target body drawn =>
      obtain ⟨rfl, hrevokes, hok⟩ := h
      obtain ⟨⟨s', response⟩, hcall⟩ := exists_of_isOk hok
      simp only [managedNext]
      rw [hcall]
      obtain ⟨user, password, shown, hash, -, -, -, -, -, hdb, hnow, -⟩ := resetPassword_ok hcall
      simp only [ManagedState.settle]
      unfold SignedOut
      rw [hdb, hnow]
      unfold ResetPasswordRequest.sessions
      rw [if_pos hrevokes]
      exact notLive_of_revoked fun x _ hlive ↦ hactive x _ hlive
  | deactivate elapsed actor target =>
      obtain ⟨rfl, hok⟩ := h
      obtain ⟨⟨s', response⟩, hcall⟩ := exists_of_isOk hok
      simp only [managedNext]
      rw [hcall]
      obtain ⟨hdb, hnow, -⟩ := deactivateUserEndpoint_ok hcall
      simp only [ManagedState.settle]
      unfold SignedOut
      rw [hdb, hnow]
      exact notLive_of_revoked fun x _ hlive ↦ hactive x _ hlive
  | activate elapsed actor target => exact h.elim

/-- After a change or a reset of its password, or its deactivation, no refresh token of a user is
worth anything, through every further history in which the user does not log in. -/
theorem signed_out_until_login (h : SignsOut cfg userId s e) {l : List ManagedEvent}
    (hl : Run.Guarded (managedNext cfg) (fun t e' ↦ ¬ LogsInAs cfg userId t e')
      (managedNext cfg s e) l) :
    Run.Always (managedNext cfg) (fun t ↦ ¬ Refreshes cfg.toAuthConfig userId t.toLoginState)
      (managedNext cfg s e) l := by
  have hout : Run.Always (managedNext cfg) (fun t ↦ SignedOut userId t.toLoginState)
      (managedNext cfg s e) l :=
    Run.always_of_guarded (fun _ _ hs hg ↦ hs.next hg) (signedOut_of_signsOut h) hl
  exact hout.mono fun t ht ↦ ht.not_refreshes

end SigningOut

/-! Anna is logged in, and "root" manages the accounts. -/

def annaConfig : PasswordConfig where
  toLoginConfig := demoLogin
  salted _ := portalConfig

def annaManaged : ManagedState where
  db := { annaDb with users := annaDb.users ++ [{ id := "root", username := "root" }] }
  now := 0
  staff := {
    roles := [⟨"r1", "system_admin"⟩]
    permissions := [⟨"p1", "users.manage"⟩]
    rolePermissions := [⟨"r1", "p1"⟩]
    userRoles := oneAdminDb.userRoles }

def annaLoggedIn : ManagedState :=
  managedNext annaConfig annaManaged (.session (.login (annaLogin "1")))

def annaChanges : ManagedEvent :=
  .changePassword 1 ⟨"user-1", "local_advertiser"⟩ ⟨"correct horse", "battery staple"⟩ "salt"

def annaRefreshes : ManagedEvent :=
  .session (.refresh 1 (some "token-1") ⟨"session-2", "token-2"⟩ none)

theorem annaChanges_signsOut : SignsOut annaConfig "user-1" annaLoggedIn annaChanges :=
  ⟨rfl, by decide +kernel⟩

theorem anna_signed_out : Run.Always (managedNext annaConfig)
    (fun t ↦ ¬ Refreshes annaConfig.toAuthConfig "user-1" t.toLoginState)
    (managedNext annaConfig annaLoggedIn annaChanges) [annaRefreshes] :=
  signed_out_until_login annaChanges_signsOut ⟨fun hin ↦ hin, trivial⟩

/-! ## Deactivated -/

/-- No row of the user is active, and no session of it live. -/
structure Locked (userId : String) (s : LoginState) : Prop where
  inactive : ∀ u ∈ s.db.users, u.id = userId → u.status ≠ "active"
  signedOut : SignedOut userId s

def Activates (userId : String) (s : ManagedState) : ManagedEvent → Prop
  | .activate elapsed actor target => target = userId ∧
      (activateUserEndpoint (s.after elapsed) actor target).isOk = true
  | _ => False

section Lockout

variable {cfg : PasswordConfig} {userId : String} {s : ManagedState} {e : ManagedEvent}

/-- A login succeeds for an active user only. -/
theorem login_ok_active {cfg : LoginConfig} {r : LoginRequest} {decidedAt startedAt : Int}
    {db : LoginDb} {user : LoginUser} (h : (login cfg r decidedAt db startedAt).result = .ok user) :
    user.status = "active" := by
  unfold login at h
  dsimp only at h
  split at h
  · cases h
  · split at h
    · cases h
    · split at h
      · have hsame := loginAd_ok h
        unfold loginAd at h
        split at h
        · cases h
        · rename_i hactive
          rw [hsame]
          exact not_not.1 hactive
      · split at h
        · have hsame := loginLocal_ok h
          unfold loginLocal at h
          split at h
          · cases h
          · rename_i hactive
            rw [hsame]
            exact not_not.1 hactive
        · cases h

theorem loginEndpoint_ok {cfg : LoginConfig} {db : LoginDb} {r : LoginRequest}
    {startedAt decidedAt : Int} (h : (loginEndpoint cfg db r startedAt decidedAt).2.isOk = true) :
    ∃ user, (login cfg r decidedAt db startedAt).result = .ok user := by
  unfold loginEndpoint at h
  dsimp only at h
  split at h
  · cases h
  · cases hresult : (login cfg r decidedAt db startedAt).result with
    | error failure =>
        rw [hresult] at h
        dsimp only at h
        split at h
        · cases h
        · split at h
          · cases h
          · cases h
    | ok user => exact ⟨user, rfl⟩

theorem findLoginUser_mem {db : LoginDb} {usernameOrEmail : String} {user : LoginUser}
    (h : findLoginUser db usernameOrEmail = some user) : user ∈ db.users := by
  unfold findLoginUser at h
  rcases Option.or_eq_some_iff.1 h with hname | ⟨-, hmail⟩
  · exact List.mem_of_find?_eq_some hname
  · unfold findUserByEmail at hmail
    split at hmail
    · cases hmail
    · exact List.mem_of_find?_eq_some hmail

/-- The user that logs in is an active one of the table. -/
theorem LogsIn.active {cfg : LoginConfig} {s : LoginState} {r : LoginRequest} {user : LoginUser}
    (h : LogsIn cfg s r user) : user ∈ s.db.users ∧ user.status = "active" := by
  obtain ⟨found, hresult⟩ := loginEndpoint_ok h.2
  have hsame : found = user := Option.some.inj ((login_ok hresult).symm.trans h.1)
  exact ⟨findLoginUser_mem h.1, hsame ▸ login_ok_active hresult⟩

theorem Locked.not_logsIn {s : LoginState} (h : Locked userId s) {r : LoginRequest}
    {user : LoginUser} (hin : LogsIn cfg.toLoginConfig s r user) : user.id ≠ userId := by
  intro hid
  obtain ⟨hmem, hactive⟩ := hin.active
  exact h.inactive user hmem hid hactive

theorem Locked.not_authorized {s : LoginState} (h : Locked userId s) :
    getCurrentActiveUser s.db userId ≠ none := by
  unfold getCurrentActiveUser
  split
  · nofun
  · rename_i u hu
    have hid := Rows.get_key hu
    rw [if_pos (h.inactive u (Rows.get_mem hu) hid)]
    nofun

theorem issueSession_frame {cfg : LoginConfig} {r : LoginRequest} {decidedAt : Int} {db db' : LoginDb}
    {user : LoginUser} {success : AuthSuccess}
    (h : issueSession cfg r decidedAt db user = .ok (db', success)) :
    db'.users = db.users ∧ db'.localCredentials = db.localCredentials := by
  unfold issueSession at h
  dsimp only at h
  cases hinsert : RefreshTable.insert (revokeOldestSessions db.refreshSessions decidedAt user.id
      cfg.maxSessionsPerUser) (r.session cfg decidedAt user.id) with
  | error e =>
      unfold LoginRequest.session at hinsert
      rw [hinsert] at h
      cases h
  | ok sessions =>
      unfold LoginRequest.session at hinsert
      rw [hinsert] at h
      cases h
      exact ⟨rfl, rfl⟩

/-- Logins, refreshes and logouts leave the accounts and the credentials. -/
theorem loginEndpoint_frame (cfg : LoginConfig) (db : LoginDb) (r : LoginRequest)
    (startedAt decidedAt : Int) :
    (loginEndpoint cfg db r startedAt decidedAt).1.users = db.users ∧
      (loginEndpoint cfg db r startedAt decidedAt).1.localCredentials = db.localCredentials := by
  unfold loginEndpoint
  dsimp only
  split
  · exact ⟨rfl, rfl⟩
  · split
    · split
      · exact ⟨rfl, rfl⟩
      · split
        · exact ⟨rfl, rfl⟩
        · exact ⟨rfl, rfl⟩
    · split
      · exact ⟨rfl, rfl⟩
      · rename_i hissue
        have hframe := issueSession_frame hissue
        exact hframe

theorem sessionNext_frame (cfg : LoginConfig) (s : LoginState) (e : SessionEvent) :
    (sessionNext cfg s e).db.users = s.db.users ∧
      (sessionNext cfg s e).db.localCredentials = s.db.localCredentials := by
  cases e with
  | login r => exact loginEndpoint_frame cfg s.db r _ _
  | refresh elapsed refreshToken drawn ipAddress => exact ⟨rfl, rfl⟩
  | logout elapsed refreshToken => exact ⟨rfl, rfl⟩

/-- Inactive rows of a user become active by a successful activation only. -/
theorem inactive_next (h : ∀ u ∈ s.db.users, u.id = userId → u.status ≠ "active")
    (hactivate : ¬ Activates userId s e) :
    ∀ u ∈ (managedNext cfg s e).db.users, u.id = userId → u.status ≠ "active" := by
  cases e with
  | session e' =>
      intro u hu
      rw [show (managedNext cfg s (.session e')).db.users = s.db.users from
        (sessionNext_frame cfg.toLoginConfig s.toLoginState e').1] at hu
      exact h u hu
  | changePassword elapsed claims body salt =>
      simp only [managedNext]
      cases hcall : changePassword cfg (s.after elapsed) claims body salt with
      | error e => exact h
      | ok answer =>
          obtain ⟨s', text⟩ := answer
          obtain ⟨newHash, -, rfl⟩ := changePassword_ok hcall
          exact h
  | resetPassword elapsed actor target body drawn =>
      simp only [managedNext]
      cases hcall : resetPassword cfg (s.after elapsed) actor target body drawn with
      | error e => exact h
      | ok answer =>
          obtain ⟨s', response⟩ := answer
          obtain ⟨user, password, shown, hash, -, -, -, -, -, hdb, -⟩ := resetPassword_ok hcall
          simp only [ManagedState.settle]
          rw [hdb]
          exact h
  | deactivate elapsed actor target =>
      simp only [managedNext]
      cases hcall : deactivateUserEndpoint (s.after elapsed) actor target with
      | error e => exact h
      | ok answer =>
          obtain ⟨s', response⟩ := answer
          obtain ⟨hdb, -⟩ := deactivateUserEndpoint_ok hcall
          simp only [ManagedState.settle]
          rw [hdb]
          intro u hu hid
          obtain ⟨v, hv, rfl⟩ := Rows.mem_updateWhere.1 hu
          by_cases htarget : v.id = target
          · simp [htarget]
          · have hsame : (decide (v.id = target)) = false := decide_eq_false htarget
            simp only [hsame, Bool.false_eq_true, if_false] at hid ⊢
            exact h v hv hid
  | activate elapsed actor target =>
      simp only [managedNext]
      cases hcall : activateUserEndpoint (s.after elapsed) actor target with
      | error e => exact h
      | ok answer =>
          obtain ⟨s', response⟩ := answer
          obtain ⟨hdb, -⟩ := activateUserEndpoint_ok hcall
          have hother : target ≠ userId := by
            rintro rfl
            exact hactivate ⟨rfl, by rw [hcall]; rfl⟩
          simp only [ManagedState.settle]
          rw [hdb]
          intro u hu hid
          obtain ⟨v, hv, rfl⟩ := Rows.mem_updateWhere.1 hu
          by_cases htarget : v.id = target
          · rw [if_pos (decide_eq_true htarget)] at hid
            exact absurd (htarget.symm.trans hid) hother
          · have hsame : (decide (v.id = target)) = false := decide_eq_false htarget
            simp only [hsame, Bool.false_eq_true, if_false] at hid ⊢
            exact h v hv hid

theorem Locked.next (h : Locked userId s.toLoginState) (hactivate : ¬ Activates userId s e) :
    Locked userId (managedNext cfg s e).toLoginState where
  inactive := inactive_next h.inactive hactivate
  signedOut := by
    apply h.signedOut.next
    intro hin
    cases e with
    | session e' =>
        cases e' with
        | login r =>
            obtain ⟨user, hlogin, hid⟩ := hin
            exact h.not_logsIn hlogin hid
        | refresh elapsed refreshToken drawn ipAddress => exact hin
        | logout elapsed refreshToken => exact hin
    | _ => exact hin

theorem locked_of_deactivate {elapsed : Nat} {actor : String}
    (h : (deactivateUserEndpoint (s.after elapsed) actor userId).isOk = true) :
    Locked userId (managedNext cfg s (.deactivate elapsed actor userId)).toLoginState where
  inactive := by
    obtain ⟨⟨s', response⟩, hcall⟩ := exists_of_isOk h
    obtain ⟨hdb, -⟩ := deactivateUserEndpoint_ok hcall
    simp only [managedNext]
    rw [hcall]
    simp only [ManagedState.settle]
    rw [hdb]
    intro u hu hid
    obtain ⟨v, hv, rfl⟩ := Rows.mem_updateWhere.1 hu
    by_cases htarget : v.id = userId
    · simp [htarget]
    · have hsame : (decide (v.id = userId)) = false := decide_eq_false htarget
      simp only [hsame, Bool.false_eq_true, if_false] at hid
      exact absurd hid htarget
  signedOut := by
    have hsigns : SignsOut cfg userId s (.deactivate elapsed actor userId) := ⟨rfl, h⟩
    exact signedOut_of_signsOut hsigns

/-- From its deactivation to its activation a user is locked out, whatever happens in between: no
login succeeds for it, no refresh gives it tokens, and no access token of it is accepted. -/
theorem deactivated_locked_out {elapsed : Nat} {actor : String}
    (h : (deactivateUserEndpoint (s.after elapsed) actor userId).isOk = true)
    {l : List ManagedEvent}
    (hl : Run.Guarded (managedNext cfg) (fun t e' ↦ ¬ Activates userId t e')
      (managedNext cfg s (.deactivate elapsed actor userId)) l) :
    Run.Always (managedNext cfg) (fun t ↦
        (∀ r user, LogsIn cfg.toLoginConfig t.toLoginState r user → user.id ≠ userId) ∧
        ¬ Refreshes cfg.toAuthConfig userId t.toLoginState ∧
        getCurrentActiveUser t.db userId ≠ none)
      (managedNext cfg s (.deactivate elapsed actor userId)) l := by
  have hlocked : Run.Always (managedNext cfg) (fun t ↦ Locked userId t.toLoginState)
      (managedNext cfg s (.deactivate elapsed actor userId)) l :=
    Run.always_of_guarded (fun _ _ hs hg ↦ hs.next hg) (locked_of_deactivate h) hl
  exact hlocked.mono fun t ht ↦
    ⟨fun r user hin ↦ ht.not_logsIn hin, ht.signedOut.not_refreshes, ht.not_authorized⟩

end Lockout

theorem anna_locked_out : Run.Always (managedNext annaConfig) (fun t ↦
      (∀ r user, LogsIn annaConfig.toLoginConfig t.toLoginState r user → user.id ≠ "user-1") ∧
      ¬ Refreshes annaConfig.toAuthConfig "user-1" t.toLoginState ∧
      getCurrentActiveUser t.db "user-1" ≠ none)
    (managedNext annaConfig annaLoggedIn (.deactivate 1 "root" "user-1"))
    [annaRefreshes, .session (.login (annaLogin "2"))] :=
  deactivated_locked_out (by decide +kernel) ⟨fun hin ↦ hin, fun hin ↦ hin, trivial⟩

/-! ## Reset passwords -/

/-- The event succeeds, and it writes the user's credential. -/
def Rewrites (cfg : PasswordConfig) (userId : String) (s : ManagedState) : ManagedEvent → Prop
  | .changePassword elapsed claims body salt => claims.sub = userId ∧
      (changePassword cfg (s.after elapsed) claims body salt).isOk = true
  | .resetPassword elapsed actor target body drawn => target = userId ∧
      (resetPassword cfg (s.after elapsed) actor target body drawn).isOk = true
  | _ => False

/-- The user is asked for a new password, it is a local one, and its credential has this hash. -/
structure ResetHolds (userId hash : String) (s : ManagedState) : Prop where
  asked : userId ∈ s.mustChangePassword
  localUser : ∀ u ∈ s.db.users, u.id = userId → startsWithLocal u.authProvider = true
  credential : ∀ c ∈ s.db.localCredentials, c.userId = userId → c.passwordHash = hash

section Resets

variable {cfg : PasswordConfig} {userId hash : String} {s s' : ManagedState} {e : ManagedEvent}

/-- A local user logs in with a password that its credential verifies. -/
theorem login_ok_verified {cfg : LoginConfig} {r : LoginRequest} {decidedAt startedAt : Int}
    {db : LoginDb} {user : LoginUser} (h : (login cfg r decidedAt db startedAt).result = .ok user)
    (hlocal : startsWithLocal user.authProvider = true) :
    ∃ cred, getLocalCredential db user.id = some cred ∧
      cfg.checkpw r.password cred.passwordHash = some true := by
  have hfound := login_ok h
  have hnotAd : user.authProvider ≠ "ad" := by
    intro had
    rw [had] at hlocal
    exact absurd hlocal (by decide)
  unfold login at h
  dsimp only at h
  split at h
  · cases h
  · rw [hfound] at h
    dsimp only at h
    rw [if_neg hnotAd] at h
    split at h
    · unfold loginLocal at h
      split at h
      · cases h
      · split at h
        · cases h
        · rename_i cred hcred
          split at h
          · cases h
          · split at h
            · cases h
            · split at h
              · cases h
              · rename_i hverified
                refine ⟨cred, hcred, ?_⟩
                unfold verifyPassword at hverified
                split at hverified
                · exact absurd rfl hverified
                · cases hcheck : cfg.checkpw r.password cred.passwordHash with
                  | none =>
                      rw [hcheck] at hverified
                      exact absurd rfl hverified
                  | some verdict =>
                      rw [hcheck] at hverified
                      cases verdict with
                      | false => exact absurd rfl hverified
                      | true => rfl
    · cases h

theorem ResetHolds.logsIn (h : ResetHolds userId hash s) {r : LoginRequest} {user : LoginUser}
    (hin : LogsIn cfg.toLoginConfig s.toLoginState r user) (hid : user.id = userId) :
    cfg.checkpw r.password hash = some true := by
  obtain ⟨found, hresult⟩ := loginEndpoint_ok hin.2
  have hsame : found = user := Option.some.inj ((login_ok hresult).symm.trans hin.1)
  obtain ⟨cred, hcred, hcheck⟩ :=
    login_ok_verified hresult (hsame ▸ h.localUser user (findLoginUser_mem hin.1) hid)
  rw [h.credential cred (Rows.get_mem hcred) ((Rows.get_key hcred).trans (hsame ▸ hid))] at hcheck
  exact hcheck

theorem mem_setPassword {db : LoginDb} {target passwordHash : String} {c : LocalCredential}
    (hc : c ∈ (db.setPassword target passwordHash).localCredentials) :
    (c.userId = target ∧ c.passwordHash = passwordHash) ∨
      (c.userId ≠ target ∧ c ∈ db.localCredentials) := by
  obtain ⟨c', hc', rfl⟩ := Rows.mem_updateWhere.1 hc
  by_cases htarget : c'.userId = target
  · left
    rw [if_pos (decide_eq_true htarget)]
    exact ⟨htarget, rfl⟩
  · right
    have hsame : (decide (c'.userId = target)) = false := decide_eq_false htarget
    simp only [hsame, Bool.false_eq_true, if_false]
    exact ⟨htarget, hc'⟩

/-- Setting a status changes no provider. -/
theorem local_setUserStatus {db : LoginDb} {target status : String}
    (h : ∀ u ∈ db.users, u.id = userId → startsWithLocal u.authProvider = true) :
    ∀ u ∈ (db.setUserStatus target status).users, u.id = userId →
      startsWithLocal u.authProvider = true := by
  intro u hu hid
  obtain ⟨v, hv, rfl⟩ := Rows.mem_updateWhere.1 hu
  by_cases htarget : v.id = target
  · rw [if_pos (decide_eq_true htarget)] at hid ⊢
    exact h v hv hid
  · have hsame : (decide (v.id = target)) = false := decide_eq_false htarget
    simp only [hsame, Bool.false_eq_true, if_false] at hid ⊢
    exact h v hv hid

theorem ResetHolds.next (h : ResetHolds userId hash s) (hother : ¬ Rewrites cfg userId s e) :
    ResetHolds userId hash (managedNext cfg s e) := by
  cases e with
  | session e' =>
      obtain ⟨husers, hcredentials⟩ := sessionNext_frame cfg.toLoginConfig s.toLoginState e'
      refine ⟨h.asked, ?_, ?_⟩
      · intro u hu
        rw [show (managedNext cfg s (.session e')).db.users = s.db.users from husers] at hu
        exact h.localUser u hu
      · intro c hc
        rw [show (managedNext cfg s (.session e')).db.localCredentials = s.db.localCredentials from
          hcredentials] at hc
        exact h.credential c hc
  | changePassword elapsed claims body salt =>
      simp only [managedNext]
      cases hcall : changePassword cfg (s.after elapsed) claims body salt with
      | error e => exact ⟨h.asked, h.localUser, h.credential⟩
      | ok answer =>
          obtain ⟨s', text⟩ := answer
          have hsub : claims.sub ≠ userId := fun heq ↦ hother ⟨heq, by rw [hcall]; rfl⟩
          obtain ⟨newHash, -, rfl⟩ := changePassword_ok hcall
          refine ⟨?_, h.localUser, ?_⟩
          · exact List.mem_filter.2 ⟨h.asked, decide_eq_true fun heq ↦ hsub heq.symm⟩
          · intro c hc hid
            rcases mem_setPassword hc with ⟨htarget, -⟩ | ⟨-, hold⟩
            · exact absurd (htarget.symm.trans hid) hsub
            · exact h.credential c hold hid
  | resetPassword elapsed actor target body drawn =>
      simp only [managedNext]
      cases hcall : resetPassword cfg (s.after elapsed) actor target body drawn with
      | error e => exact ⟨h.asked, h.localUser, h.credential⟩
      | ok answer =>
          obtain ⟨s', response⟩ := answer
          have htarget : target ≠ userId := fun heq ↦ hother ⟨heq, by rw [hcall]; rfl⟩
          obtain ⟨user, password, shown, newHash, -, -, -, -, -, hdb, -, hasked⟩ :=
            resetPassword_ok hcall
          simp only [ManagedState.settle]
          refine ⟨?_, ?_, ?_⟩
          · rw [hasked]
            exact List.mem_cons_of_mem target h.asked
          · rw [hdb]
            exact h.localUser
          · rw [hdb]
            intro c hc hid
            rcases mem_setPassword hc with ⟨hsame, -⟩ | ⟨-, hold⟩
            · exact absurd (hsame.symm.trans hid) htarget
            · exact h.credential c hold hid
  | deactivate elapsed actor target =>
      simp only [managedNext]
      cases hcall : deactivateUserEndpoint (s.after elapsed) actor target with
      | error e => exact ⟨h.asked, h.localUser, h.credential⟩
      | ok answer =>
          obtain ⟨s', response⟩ := answer
          obtain ⟨hdb, -, hasked⟩ := deactivateUserEndpoint_ok hcall
          simp only [ManagedState.settle]
          refine ⟨by rw [hasked]; exact h.asked, ?_, ?_⟩
          · rw [hdb]
            exact local_setUserStatus h.localUser
          · rw [hdb]
            exact h.credential
  | activate elapsed actor target =>
      simp only [managedNext]
      cases hcall : activateUserEndpoint (s.after elapsed) actor target with
      | error e => exact ⟨h.asked, h.localUser, h.credential⟩
      | ok answer =>
          obtain ⟨s', response⟩ := answer
          obtain ⟨hdb, -, hasked⟩ := activateUserEndpoint_ok hcall
          simp only [ManagedState.settle]
          refine ⟨by rw [hasked]; exact h.asked, ?_, ?_⟩
          · rw [hdb]
            exact local_setUserStatus h.localUser
          · rw [hdb]
            exact h.credential

/-- From its reset until its credential is written again, a user is asked to change its password, and
logs in with none but those that the hash of the new one verifies. -/
theorem reset_password_holds (hkeys : (s.db.users.map (·.id)).Nodup) {elapsed : Nat} {actor : String}
    {body : ResetPasswordRequest} {drawn : DrawnPassword} {response : ResetPasswordResponse}
    (h : resetPassword cfg (s.after elapsed) actor userId body drawn = .ok (s', response))
    {l : List ManagedEvent}
    (hl : Run.Guarded (managedNext cfg) (fun t e' ↦ ¬ Rewrites cfg userId t e') s' l) :
    ∃ password shown newHash, body.password drawn = some (password, shown) ∧
      hashPassword (cfg.salted drawn.salt) password = .ok newHash ∧
      Run.Always (managedNext cfg) (fun t ↦ userId ∈ t.mustChangePassword ∧
        ∀ r user, LogsIn cfg.toLoginConfig t.toLoginState r user → user.id = userId →
          cfg.checkpw r.password newHash = some true) s' l := by
  obtain ⟨user, password, shown, newHash, huser, hlocal, -, hpassword, hhash, hdb, -, hasked⟩ :=
    resetPassword_ok h
  have hholds : ResetHolds userId newHash s' := by
    refine ⟨?_, ?_, ?_⟩
    · rw [hasked]
      exact List.mem_cons_self
    · rw [hdb]
      intro u hu hid
      have hkey := Rows.get_key huser
      rw [Rows.key_inj hkeys hu (Rows.get_mem huser) (hid.trans hkey.symm)]
      exact hlocal
    · rw [hdb]
      intro c hc hid
      rcases mem_setPassword hc with ⟨-, hnew⟩ | ⟨hother, -⟩
      · exact hnew
      · exact absurd hid hother
  refine ⟨password, shown, newHash, hpassword, hhash, ?_⟩
  have hrun : Run.Always (managedNext cfg) (ResetHolds userId newHash) s' l :=
    Run.always_of_guarded (fun _ _ ht hg ↦ ht.next hg) hholds hl
  exact hrun.mono fun t ht ↦ ⟨ht.asked, fun r user hin hid ↦ ht.logsIn hin hid⟩

end Resets

def temporaryPassword : ResetPasswordRequest where
  newTemporaryPassword := some "battery staple"
  lengths := by decide

/-- The state after the reset. -/
def annaReset : ManagedState :=
  managedNext annaConfig annaLoggedIn (.resetPassword 1 "root" "user-1" temporaryPassword ⟨"", ""⟩)

theorem annaReset_ok : ∃ response, resetPassword annaConfig (annaLoggedIn.after 1) "root" "user-1"
    temporaryPassword ⟨"", ""⟩ = .ok (annaReset, response) := by
  have hok : (resetPassword annaConfig (annaLoggedIn.after 1) "root" "user-1" temporaryPassword
      ⟨"", ""⟩).isOk = true := by decide +kernel
  obtain ⟨⟨s', response⟩, hcall⟩ := exists_of_isOk hok
  refine ⟨response, ?_⟩
  unfold annaReset
  simp only [managedNext]
  rw [hcall]
  rfl

theorem anna_reset_holds : ∃ password shown newHash,
    temporaryPassword.password ⟨"", ""⟩ = some (password, shown) ∧
      hashPassword portalConfig password = .ok newHash ∧
      Run.Always (managedNext annaConfig) (fun t ↦ "user-1" ∈ t.mustChangePassword ∧
        ∀ r user, LogsIn annaConfig.toLoginConfig t.toLoginState r user → user.id = "user-1" →
          annaConfig.checkpw r.password newHash = some true) annaReset [annaRefreshes] := by
  obtain ⟨response, hreset⟩ := annaReset_ok
  exact reset_password_holds (by decide +kernel) hreset ⟨fun hin ↦ hin, trivial⟩

end RetailMedia
