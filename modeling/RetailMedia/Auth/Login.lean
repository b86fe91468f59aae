import RetailMedia.Auth.Sessions
import Mathlib

/-! Logging in: the lookup of the account, the verification of the password, and the record that
each attempt leaves. -/

namespace RetailMedia

/-! ## Tables -/

structure LoginUser extends User where
  username : String
  email : Option String := none
  deriving DecidableEq, Repr

structure LocalCredential where
  userId : String
  credentialType : String
  passwordHash : String
  status : String := "active"
  deriving DecidableEq, Repr

structure LoginAttempt where
  usernameOrEmailHash : String
  authProvider : String
  success : Bool
  failureReason : Option String := none
  ipAddress : Option String := none
  correlationId : Option String := none
  createdAt : Int
  deriving DecidableEq, Repr

structure LoginDb where
  users : List LoginUser := []
  localCredentials : List LocalCredential := []
  loginAttempts : List LoginAttempt := []
  refreshSessions : RefreshTable := {}

/-- The answer of the directory. -/
structure ADVerifyResult where
  success : Bool
  errorCode : Option String := none
  deriving DecidableEq, Repr

/-- The settings, and the functions that come from elsewhere. -/
structure LoginConfig extends AuthConfig where
  loginRateLimitMaxAttempts : Nat := 5
  loginRateLimitWindowMinutes : Nat := 15
  maxSessionsPerUser : Nat := 5
  lower : String → String
  /-- It raises on a malformed hash. -/
  checkpw : String → String → Option Bool
  verifyCredentials : Int → String → String → ADVerifyResult

def LoginConfig.window (cfg : LoginConfig) : Int :=
  cfg.loginRateLimitWindowMinutes * 60 * secondMicros

/-- A request, with the time since the one before and the time until its verdict. -/
structure LoginRequest where
  usernameOrEmail : String
  password : String
  ipAddress : Option String := none
  correlationId : Option String := none
  elapsed : Nat := 0
  duration : Nat := 0
  drawn : Drawn := ⟨"", ""⟩
  tokenFamilyId : String := ""

/-! ## Queries -/

def findUserByUsername (db : LoginDb) (username : String) : Option LoginUser :=
  db.users.find? fun u ↦ u.username = username

def findUserByEmail (db : LoginDb) (email : String) : Option LoginUser :=
  if email = "" then none else db.users.find? fun u ↦ u.email = some email

/-- Try the username first, then the e-mail address. -/
def findLoginUser (db : LoginDb) (usernameOrEmail : String) : Option LoginUser :=
  (findUserByUsername db usernameOrEmail).or (findUserByEmail db usernameOrEmail)

def getLocalCredential (db : LoginDb) (userId : String) : Option LocalCredential :=
  Rows.get LocalCredential.userId userId db.localCredentials

def hashIdentifier (cfg : LoginConfig) (value : String) : String :=
  Sha256.hexdigest (Sha256.utf8 (cfg.lower value))

def LoginAttempt.failedSince (identifierHash : String) (cutoff : Int) (a : LoginAttempt) : Bool :=
  a.usernameOrEmailHash = identifierHash ∧ a.success = false ∧ cutoff < a.createdAt

def countRecentFailedAttempts (cfg : LoginConfig) (db : LoginDb) (identifierHash : String)
    (now : Int) : Nat :=
  db.loginAttempts.countP (·.failedSince identifierHash (now - cfg.window))

def verifyPassword (cfg : LoginConfig) (plain hashed : String) : Bool :=
  if plain = "" ∨ hashed = "" then false else (cfg.checkpw plain hashed).getD false

/-! ## The service -/

/-- The row that a login writes, the password verification that it makes, if it makes one, and
the user that a session is issued for. -/
structure LoginOutcome where
  attempt : LoginAttempt
  verified : Option (String × Bool) := none
  result : Except AuthFailure LoginUser

section Service

variable (cfg : LoginConfig) (r : LoginRequest) (decidedAt : Int)

def createLoginAttempt (authProvider : String) (success : Bool) (failureReason : Option String) :
    LoginAttempt where
  usernameOrEmailHash := hashIdentifier cfg r.usernameOrEmail
  authProvider := authProvider
  success := success
  failureReason := failureReason
  ipAddress := r.ipAddress
  correlationId := r.correlationId
  createdAt := decidedAt

def loginRefused (authProvider failureReason : String) (verified : Option (String × Bool))
    (failure : AuthFailure) : LoginOutcome where
  attempt := createLoginAttempt cfg r decidedAt authProvider false (some failureReason)
  verified := verified
  result := .error failure

def loginAccepted (authProvider : String) (user : LoginUser) : LoginOutcome where
  attempt := createLoginAttempt cfg r decidedAt authProvider true none
  verified := some (user.id, true)
  result := .ok user

/-- The directory has looked at the password only if it says that the credentials are wrong. -/
def ADVerifyResult.verdict (answer : ADVerifyResult) (userId : String) : Option (String × Bool) :=
  if answer.errorCode = some "invalid_credentials" then some (userId, false) else none

def loginAd (user : LoginUser) : LoginOutcome :=
  if user.status ≠ "active" then
    loginRefused cfg r decidedAt "ad" "user_inactive" none { internalCode := "USER_INACTIVE" }
  else
    let answer := cfg.verifyCredentials decidedAt user.username r.password
    if answer.success then loginAccepted cfg r decidedAt "ad" user
    else
      loginRefused cfg r decidedAt "ad"
        ((answer.errorCode.filter (· ≠ "")).getD "ad_auth_failed") (answer.verdict user.id) {
          internalCode := "AUTH_FAILED"
          debugContext := (answer.errorCode.map fun code ↦ ("ad_error", code)).toList }

def loginLocal (db : LoginDb) (user : LoginUser) (provider : String) : LoginOutcome :=
  if user.status ≠ "active" then
    loginRefused cfg r decidedAt provider "user_inactive" none { internalCode := "USER_INACTIVE" }
  else
    match getLocalCredential db user.id with
    | none => loginRefused cfg r decidedAt provider "no_credential" none {}
    | some cred =>
        if cred.credentialType ≠ provider then
          loginRefused cfg r decidedAt provider "credential_type_mismatch" none {}
        else if cred.status ≠ "active" then
          loginRefused cfg r decidedAt provider "credential_inactive" none {}
        else if verifyPassword cfg r.password cred.passwordHash = false then
          loginRefused cfg r decidedAt provider "wrong_password" (some (user.id, false)) {}
        else loginAccepted cfg r decidedAt provider user

def login (db : LoginDb) (startedAt : Int) : LoginOutcome :=
  let identifierHash := hashIdentifier cfg r.usernameOrEmail
  -- the limit is checked before the lookup and before any verification
  if countRecentFailedAttempts cfg db identifierHash startedAt ≥ cfg.loginRateLimitMaxAttempts then
    loginRefused cfg r decidedAt "unknown" "rate_limited" none {
      internalCode := "RATE_LIMITED"
      debugContext := [("window_minutes", toString cfg.loginRateLimitWindowMinutes)] }
  else
    match findLoginUser db r.usernameOrEmail with
    | none =>
        loginRefused cfg r decidedAt "unknown" "user_not_found" none {
          debugContext := [("reason", "user_not_found")] }
    | some user =>
        if user.authProvider = "ad" then loginAd cfg r decidedAt user
        else if user.authProvider = "local_advertiser" ∨ user.authProvider = "local_break_glass" then
          loginLocal cfg r decidedAt db user user.authProvider
        else
          loginRefused cfg r decidedAt user.authProvider "unknown_provider" none {
            internalCode := "UNKNOWN_PROVIDER"
            debugContext := [("provider", user.authProvider)] }

/-- All but the `keep` latest of the user's active sessions are revoked. -/
def revokeOldestSessions (t : RefreshTable) (now : Int) (userId : String) (keep : Nat) :
    RefreshTable :=
  let active := (t.rows.filter fun s ↦ s.userId = userId ∧ s.revokedAt = none ∧
    s.expiresAt > now).insertionSort fun s s' ↦ s.issuedAt ≤ s'.issuedAt
  let toRevoke := (active.take (active.length - keep)).map (·.id)
  t.update (fun s ↦ decide (s.id ∈ toRevoke)) (·.revoked now) (revoked_id now) (revoked_tokenHash now)

def issueSession (db : LoginDb) (user : LoginUser) : Except DbError (LoginDb × AuthSuccess) := do
  let kept := revokeOldestSessions db.refreshSessions decidedAt user.id cfg.maxSessionsPerUser
  let sessions ← kept.insert {
    id := r.drawn.sessionId
    userId := user.id
    tokenHash := hashToken r.drawn.refreshToken
    tokenFamilyId := r.tokenFamilyId
    issuedAt := decidedAt
    expiresAt := decidedAt + cfg.refreshSessionTtlHours * hourMicros
    ipAddress := r.ipAddress }
  return ({ db with refreshSessions := sessions }, {
    userId := user.id
    authProvider := user.authProvider
    accessToken := cfg.createAccessToken user.id user.authProvider
    refreshToken := r.drawn.refreshToken
    refreshSessionId := r.drawn.sessionId })

end Service

/-! ## The route -/

/-- The widths of the columns that a request can fill. -/
def LoginAttempt.fits (a : LoginAttempt) : Bool :=
  (a.ipAddress.getD "").length ≤ 45 ∧ (a.correlationId.getD "").length ≤ 64

def isAdUnavailable (f : AuthFailure) : Bool := ("ad_error", "ldap_unavailable") ∈ f.debugContext

structure LoginResponse where
  accessToken : String
  tokenType : String := "Bearer"
  expiresIn : Int
  sub : String
  authProvider : String
  deriving DecidableEq, Repr

inductive LoginError
  | http (statusCode : Nat) (code message : String) (retryAfter : Option String)
  | dataError
  | raised (e : DbError)
  deriving DecidableEq, Repr

def tooManyRequests (cfg : LoginConfig) : LoginError :=
  .http 429 "TOO_MANY_REQUESTS" "Too many login attempts. Please try again later."
    (some (toString (cfg.loginRateLimitWindowMinutes * 60)))

def serviceUnavailable : LoginError :=
  .http 503 "SERVICE_UNAVAILABLE" "Authentication service temporarily unavailable" none

def invalidCredentials : LoginError :=
  .http 401 "INVALID_CREDENTIALS" "Invalid username/email or password" none

def LoginDb.record (db : LoginDb) (a : LoginAttempt) : LoginDb :=
  { db with loginAttempts := db.loginAttempts ++ [a] }

/-- The route commits before it answers 429 or 401; every other error rolls the attempt back. -/
def loginEndpoint (cfg : LoginConfig) (db : LoginDb) (r : LoginRequest)
    (startedAt decidedAt : Int) : LoginDb × Except LoginError (LoginResponse × String) :=
  let outcome := login cfg r decidedAt db startedAt
  if outcome.attempt.fits = false then (db, .error .dataError)
  else
    match outcome.result with
    | .error failure =>
        if failure.internalCode = "RATE_LIMITED" then
          (db.record outcome.attempt, .error (tooManyRequests cfg))
        else if isAdUnavailable failure then (db, .error serviceUnavailable)
        else (db.record outcome.attempt, .error invalidCredentials)
    | .ok user =>
        match issueSession cfg r decidedAt (db.record outcome.attempt) user with
        | .error e => (db, .error (.raised e))
        | .ok (db', success) =>
            (db', .ok ({
              accessToken := success.accessToken
              expiresIn := cfg.jwtAccessTokenTtlMinutes * 60
              sub := success.userId
              authProvider := success.authProvider }, success.refreshToken))

end RetailMedia
