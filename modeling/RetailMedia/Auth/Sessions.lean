import RetailMedia.Lib.Rows
import RetailMedia.Lib.Sha256
import RetailMedia.Clock

/-! Refresh sessions: the table, the queries and updates on it, token rotation and its route. -/

namespace RetailMedia

/-! ## The table -/

structure RefreshSession where
  id : String
  userId : String
  tokenHash : String
  tokenFamilyId : String
  issuedAt : Int
  expiresAt : Int
  rotatedAt : Option Int := none
  revokedAt : Option Int := none
  ipAddress : Option String := none
  deriving DecidableEq, Repr

/-- The table's columns, as an `UPDATE` may name them. -/
def refreshSessionColumns : List String := [
  "id", "user_id", "token_hash", "token_family_id", "issued_at", "expires_at", "rotated_at",
  "revoked_at", "ip_address", "user_agent", "created_at"]

/-- Rows under the primary key and the unique constraint on the hash. -/
structure RefreshTable where
  rows : List RefreshSession := []
  uniqueId : (rows.map (·.id)).Nodup := by decide
  uniqueHash : (rows.map (·.tokenHash)).Nodup := by decide

inductive DbError
  | integrityError
  | unconsumedColumn (name : String)
  deriving DecidableEq, Repr

namespace RefreshTable

/-- An update of columns that no constraint is on. -/
def update (t : RefreshTable) (p : RefreshSession → Bool) (f : RefreshSession → RefreshSession)
    (hid : ∀ r, (f r).id = r.id) (hhash : ∀ r, (f r).tokenHash = r.tokenHash) : RefreshTable where
  rows := Rows.updateWhere p f t.rows
  uniqueId := by
    rw [Rows.map_updateWhere _ hid]
    exact t.uniqueId
  uniqueHash := by
    rw [Rows.map_updateWhere _ hhash]
    exact t.uniqueHash

def insert (t : RefreshTable) (r : RefreshSession) : Except DbError RefreshTable :=
  if h : r.id ∉ t.rows.map (·.id) ∧ r.tokenHash ∉ t.rows.map (·.tokenHash) then
    .ok {
      rows := t.rows ++ [r]
      uniqueId := by
        rw [List.map_append]
        exact Rows.nodup_concat t.uniqueId h.1
      uniqueHash := by
        rw [List.map_append]
        exact Rows.nodup_concat t.uniqueHash h.2 }
  else .error .integrityError

theorem insert_rows {t t' : RefreshTable} {r : RefreshSession} (h : t.insert r = .ok t') :
    t'.rows = t.rows ++ [r] := by
  unfold insert at h
  split at h
  · cases h
    rfl
  · cases h

end RefreshTable

/-! ## Queries and updates -/

def RefreshSession.revoked (now : Int) (r : RefreshSession) : RefreshSession :=
  { r with revokedAt := some now }

def RefreshSession.rotated (now : Int) (r : RefreshSession) : RefreshSession :=
  { r with rotatedAt := some now }

theorem revoked_id (now : Int) (r : RefreshSession) : (r.revoked now).id = r.id := rfl

theorem revoked_tokenHash (now : Int) (r : RefreshSession) :
    (r.revoked now).tokenHash = r.tokenHash := rfl

/-- At most one row has the hash, so the first one is the only one. -/
def findActiveRefreshSession (t : RefreshTable) (now : Int) (tokenHash : String) :
    Option RefreshSession :=
  t.rows.find? fun r ↦ r.tokenHash = tokenHash ∧ r.expiresAt > now ∧ r.revokedAt = none ∧
    r.rotatedAt = none

def revokeRefreshSession (t : RefreshTable) (now : Int) (refreshSessionId : String) :
    RefreshTable :=
  t.update (·.id = refreshSessionId) (·.revoked now) (revoked_id now) (revoked_tokenHash now)

def rotateRefreshSession (t : RefreshTable) (now : Int) (refreshSessionId : String) :
    RefreshTable :=
  t.update (·.id = refreshSessionId) (·.rotated now) (fun _ ↦ rfl) (fun _ ↦ rfl)

/-- The statement also sets `last_error`, which compiles only if the table has that column. -/
def revokeRefreshTokenFamily (t : RefreshTable) (now : Int) (tokenFamilyId : String) :
    Except DbError (RefreshTable × Nat) :=
  let inFamily (r : RefreshSession) : Bool :=
    r.tokenFamilyId = tokenFamilyId ∧ r.revokedAt = none ∧ r.expiresAt > now
  match ["revoked_at", "last_error"].find? (· ∉ refreshSessionColumns) with
  | some name => .error (.unconsumedColumn name)
  | none =>
      .ok (t.update inFamily (·.revoked now) (revoked_id now) (revoked_tokenHash now), t.rows.countP inFamily)

/-! ## The service -/

structure User where
  id : String
  authProvider : String := "local"
  status : String := "active"
  deriving DecidableEq, Repr

structure AuthDb where
  users : List User := []
  refreshSessions : RefreshTable := {}

structure AuthConfig where
  refreshSessionTtlHours : Int := 8
  jwtAccessTokenTtlMinutes : Int := 15
  createAccessToken : String → String → String := fun userId authProvider ↦
    userId ++ "." ++ authProvider

structure AuthSuccess where
  userId : String
  authProvider : String
  accessToken : String
  refreshToken : String
  refreshSessionId : String
  deriving DecidableEq, Repr

structure AuthFailure where
  publicReason : String := "Invalid credentials"
  internalCode : String := "AUTH_FAILED"
  debugContext : List (String × String) := []
  deriving DecidableEq, Repr

inductive AuthResult
  | success (s : AuthSuccess)
  | failure (f : AuthFailure)
  deriving DecidableEq, Repr

/-- What one request draws at random. -/
structure Drawn where
  sessionId : String
  refreshToken : String
  deriving DecidableEq, Repr

def hashToken (rawToken : String) : String := Sha256.hexdigest (Sha256.utf8 rawToken)

/-- The successor of a rotated session, in the same family. -/
def RefreshSession.successor (cfg : AuthConfig) (now : Int) (drawn : Drawn)
    (ipAddress : Option String) (r : RefreshSession) : RefreshSession where
  id := drawn.sessionId
  userId := r.userId
  tokenHash := hashToken drawn.refreshToken
  tokenFamilyId := r.tokenFamilyId
  issuedAt := now
  expiresAt := now + cfg.refreshSessionTtlHours * hourMicros
  ipAddress := ipAddress

def refreshSession (cfg : AuthConfig) (db : AuthDb) (now : Int) (rawRefreshToken : String)
    (drawn : Drawn) (ipAddress : Option String) : Except DbError (AuthDb × AuthResult) := do
  match findActiveRefreshSession db.refreshSessions now (hashToken rawRefreshToken) with
  | none =>
      return (db, .failure {
        internalCode := "REFRESH_FAILED"
        debugContext := [("reason", "token_not_found_or_revoked")] })
  | some rs =>
      if rs.rotatedAt.isSome then
        let (sessions, _) ← revokeRefreshTokenFamily db.refreshSessions now rs.tokenFamilyId
        return ({ db with refreshSessions := sessions }, .failure {
          internalCode := "REFRESH_REPLAY"
          debugContext := [("reason", "token_already_rotated")] })
      match Rows.get User.id rs.userId db.users with
      | none =>
          return ({ db with refreshSessions := revokeRefreshSession db.refreshSessions now rs.id },
            .failure { internalCode := "USER_INACTIVE" })
      | some user =>
          if user.status ≠ "active" then
            return ({ db with refreshSessions := revokeRefreshSession db.refreshSessions now rs.id },
              .failure { internalCode := "USER_INACTIVE" })
          let rotated := rotateRefreshSession db.refreshSessions now rs.id
          let sessions ← rotated.insert (rs.successor cfg now drawn ipAddress)
          return ({ db with refreshSessions := sessions }, .success {
            userId := rs.userId
            authProvider := user.authProvider
            accessToken := cfg.createAccessToken rs.userId user.authProvider
            refreshToken := drawn.refreshToken
            refreshSessionId := drawn.sessionId })

/-! ## The route -/

structure RefreshResponse where
  accessToken : String
  tokenType : String := "Bearer"
  expiresIn : Int
  deriving DecidableEq, Repr

inductive RouteError
  | http (statusCode : Nat) (code message : String)
  | raised (e : DbError)
  deriving DecidableEq, Repr

structure RefreshRequest where
  now : Int
  /-- The cookie. -/
  refreshToken : Option String
  drawn : Drawn
  ipAddress : Option String := none

/-- The response with the new cookie.  The session's transaction is rolled back when the route
raises, an `HTTPException` included. -/
def refreshEndpoint (cfg : AuthConfig) (db : AuthDb) (r : RefreshRequest) :
    AuthDb × Except RouteError (RefreshResponse × String) :=
  match r.refreshToken.filter (· ≠ "") with
  | none => (db, .error (.http 401 "NOT_AUTHENTICATED" "Missing refresh token"))
  | some token =>
      match refreshSession cfg db r.now token r.drawn r.ipAddress with
      | .error e => (db, .error (.raised e))
      | .ok (_, .failure _) =>
          (db, .error (.http 401 "INVALID_TOKEN" "Invalid or expired refresh token"))
      | .ok (db', .success s) =>
          (db', .ok ({
            accessToken := s.accessToken
            expiresIn := cfg.jwtAccessTokenTtlMinutes * 60 }, s.refreshToken))

/-! ## What the lookup finds -/

theorem findActive_spec {t : RefreshTable} {now : Int} {tokenHash : String} {r : RefreshSession}
    (h : findActiveRefreshSession t now tokenHash = some r) :
    r ∈ t.rows ∧ r.tokenHash = tokenHash ∧ r.expiresAt > now ∧ r.revokedAt = none ∧
      r.rotatedAt = none := by
  have hmem := List.mem_of_find?_eq_some h
  have hcond := List.find?_some h
  simp only [decide_eq_true_eq] at hcond
  exact ⟨hmem, hcond⟩

/-- A hash whose session is rotated is not found: the constraint leaves no other row for it. -/
theorem findActive_rotated {t : RefreshTable} {tokenHash : String} {r : RefreshSession}
    (hr : r ∈ t.rows) (hhash : r.tokenHash = tokenHash) (hrotated : r.rotatedAt.isSome)
    (now : Int) :
    findActiveRefreshSession t now tokenHash = none := by
  cases h : findActiveRefreshSession t now tokenHash with
  | none => rfl
  | some r' =>
      obtain ⟨hr', hhash', -, -, hnot⟩ := findActive_spec h
      have hsame := Rows.key_inj t.uniqueHash hr' hr (hhash'.trans hhash.symm)
      rw [← hsame, hnot] at hrotated
      cases hrotated

/-- A successful rotation: the session found is marked, and its successor is added. -/
theorem refreshSession_success {cfg : AuthConfig} {db db' : AuthDb} {now : Int} {token : String}
    {drawn : Drawn} {ipAddress : Option String} {s : AuthSuccess}
    (h : refreshSession cfg db now token drawn ipAddress = .ok (db', .success s)) :
    ∃ rs, findActiveRefreshSession db.refreshSessions now (hashToken token) = some rs ∧
      db'.refreshSessions.rows =
        Rows.updateWhere (·.id = rs.id) (·.rotated now) db.refreshSessions.rows ++
          [rs.successor cfg now drawn ipAddress] := by
  unfold refreshSession at h
  cases hfind : findActiveRefreshSession db.refreshSessions now (hashToken token) with
  | none =>
      rw [hfind] at h
      cases h
  | some rs =>
      have hlive : rs.rotatedAt = none := (findActive_spec hfind).2.2.2.2
      rw [hfind] at h
      dsimp only at h
      rw [hlive, if_neg (by decide)] at h
      cases huser : Rows.get User.id rs.userId db.users with
      | none =>
          rw [huser] at h
          cases h
      | some user =>
          rw [huser] at h
          dsimp only at h
          by_cases hstatus : user.status ≠ "active"
          · rw [if_pos hstatus] at h
            cases h
          · rw [if_neg hstatus] at h
            cases hinsert : (rotateRefreshSession db.refreshSessions now rs.id).insert
                (rs.successor cfg now drawn ipAddress) with
            | error e =>
                rw [hinsert] at h
                cases h
            | ok sessions =>
                rw [hinsert] at h
                cases h
                exact ⟨rs, rfl, RefreshTable.insert_rows hinsert⟩

end RetailMedia
