import RetailMedia.Auth.Login
import RetailMedia.Lib.Run

/-! How many passwords of one account can be tried inside a lockout window. -/

namespace RetailMedia

/-! ## Runs -/

/-- A verification that failed: under which identifier, and whether its attempt was stored. -/
structure FailedVerification where
  userId : String
  identifierHash : String
  stored : Bool
  failedAt : Int
  deriving DecidableEq, Repr

structure LoginState where
  db : LoginDb
  now : Int
  failures : List FailedVerification := []

section Limit

variable (cfg : LoginConfig)

def LoginRequest.startedAt (r : LoginRequest) (s : LoginState) : Int := s.now + r.elapsed

def LoginRequest.decidedAt (r : LoginRequest) (s : LoginState) : Int :=
  r.startedAt s + r.duration

def LoginRequest.outcome (r : LoginRequest) (s : LoginState) : LoginOutcome :=
  login cfg r (r.decidedAt s) s.db (r.startedAt s)

def LoginRequest.failures (r : LoginRequest) (s : LoginState) : List FailedVerification :=
  match (r.outcome cfg s).verified with
  | some (userId, false) => [{
      userId := userId
      identifierHash := hashIdentifier cfg r.usernameOrEmail
      stored := (r.outcome cfg s).attempt.fits
      failedAt := r.decidedAt s }]
  | _ => []

/-- One request after another. -/
def loginNext (s : LoginState) (r : LoginRequest) : LoginState where
  db := (loginEndpoint cfg s.db r (r.startedAt s) (r.decidedAt s)).1
  now := r.decidedAt s
  failures := s.failures ++ r.failures cfg s

/-- The verifications that failed for an account inside the window that ends at `x`. -/
def LoginState.failedIn (s : LoginState) (userId : String) (x : Int) : Nat :=
  s.failures.countP fun f ↦ f.userId = userId ∧ x - cfg.window < f.failedAt ∧ f.failedAt ≤ x

/-- No window holds more failed verifications of an account than the limit allows. -/
def WithinLoginLimit (s : LoginState) : Prop :=
  ∀ userId x, s.failedIn cfg userId x ≤ cfg.loginRateLimitMaxAttempts

/-! ## What a login sees of them -/

def FailedVerification.recent (userId : String) (cutoff : Int) (f : FailedVerification) : Bool :=
  f.userId = userId ∧ cutoff < f.failedAt

def FailedVerification.shown (identifierHash : String) (f : FailedVerification) : Bool :=
  f.identifierHash = identifierHash ∧ f.stored = true

/-- Those that were stored under the submitted identifier. -/
def LoginState.shownTo (s : LoginState) (r : LoginRequest) (userId : String) : Nat :=
  s.failures.countP fun f ↦ f.recent userId (r.decidedAt s - cfg.window) ∧
    f.shown (hashIdentifier cfg r.usernameOrEmail)

/-- Those that were made under the account's other identifier, or whose attempt was not stored. -/
def LoginState.hiddenFrom (s : LoginState) (r : LoginRequest) (userId : String) : Nat :=
  s.failures.countP fun f ↦ f.recent userId (r.decidedAt s - cfg.window) ∧
    ¬ f.shown (hashIdentifier cfg r.usernameOrEmail)

/-- Where a password is verified and wrong, the login has missed no recent failure of the account,
or the ones that it has missed leave room for another. -/
def SeesFailures (s : LoginState) (r : LoginRequest) : Prop :=
  ∀ userId, (r.outcome cfg s).verified = some (userId, false) →
    s.hiddenFrom cfg r userId = 0 ∨
      s.hiddenFrom cfg r userId + s.shownTo cfg r userId < cfg.loginRateLimitMaxAttempts

/-- The failures lie in the past, and the stored ones have their rows. -/
structure LoginLinked (s : LoginState) : Prop where
  past : ∀ f ∈ s.failures, f.failedAt ≤ s.now
  rows : ∀ identifierHash cutoff,
    s.failures.countP (fun f ↦ f.shown identifierHash ∧ cutoff < f.failedAt) ≤
      s.db.loginAttempts.countP (·.failedSince identifierHash cutoff)

/-! ## One login -/

variable {cfg}

/-- A wrong password leaves a failed attempt of its identifier, and the answer of a bad login. -/
structure WrongPassword (cfg : LoginConfig) (r : LoginRequest) (decidedAt : Int)
    (o : LoginOutcome) : Prop where
  attempt : ∃ provider reason, o.attempt = createLoginAttempt cfg r decidedAt provider false reason
  result : ∃ f, o.result = .error f ∧ f.internalCode = "AUTH_FAILED" ∧ isAdUnavailable f = false

theorem loginAd_wrong {r : LoginRequest} {decidedAt : Int} {user : LoginUser} {userId : String}
    (h : (loginAd cfg r decidedAt user).verified = some (userId, false)) :
    WrongPassword cfg r decidedAt (loginAd cfg r decidedAt user) := by
  unfold loginAd at h ⊢
  split at h
  · cases h
  · rename_i hactive
    rw [if_neg hactive]
    dsimp only at h ⊢
    split at h
    · cases h
    · rename_i hsuccess
      rw [if_neg hsuccess]
      refine ⟨⟨_, _, rfl⟩, ⟨_, rfl, rfl, ?_⟩⟩
      -- the directory's answer is that the credentials are invalid
      have hcode : (cfg.verifyCredentials decidedAt user.username r.password).errorCode =
          some "invalid_credentials" := by
        by_contra hother
        unfold loginRefused ADVerifyResult.verdict at h
        rw [if_neg hother] at h
        cases h
      rw [hcode]
      decide

theorem loginLocal_wrong {r : LoginRequest} {decidedAt : Int} {db : LoginDb} {user : LoginUser}
    {provider userId : String}
    (h : (loginLocal cfg r decidedAt db user provider).verified = some (userId, false)) :
    WrongPassword cfg r decidedAt (loginLocal cfg r decidedAt db user provider) := by
  unfold loginLocal at h ⊢
  split at h
  · cases h
  · rename_i hactive
    rw [if_neg hactive]
    cases hcred : getLocalCredential db user.id with
    | none =>
        rw [hcred] at h
        cases h
    | some cred =>
        rw [hcred] at h
        dsimp only at h ⊢
        split at h
        · cases h
        · rename_i htype
          rw [if_neg htype]
          split at h
          · cases h
          · rename_i hstatus
            rw [if_neg hstatus]
            split at h
            · rename_i hwrong
              rw [if_pos hwrong]
              exact ⟨⟨_, _, rfl⟩, ⟨_, rfl, rfl, rfl⟩⟩
            · cases h

/-- Only a login within the limit of its identifier comes to a verification. -/
theorem login_wrong {r : LoginRequest} {db : LoginDb} {startedAt decidedAt : Int}
    {userId : String} (h : (login cfg r decidedAt db startedAt).verified = some (userId, false)) :
    WrongPassword cfg r decidedAt (login cfg r decidedAt db startedAt) ∧
      countRecentFailedAttempts cfg db (hashIdentifier cfg r.usernameOrEmail) startedAt <
        cfg.loginRateLimitMaxAttempts := by
  unfold login at h ⊢
  dsimp only at h ⊢
  split at h
  · cases h
  · rename_i hlimit
    rw [if_neg hlimit]
    refine ⟨?_, Nat.lt_of_not_le hlimit⟩
    cases huser : findLoginUser db r.usernameOrEmail with
    | none =>
        rw [huser] at h
        cases h
    | some user =>
        rw [huser] at h
        dsimp only at h ⊢
        split at h
        · rename_i had
          rw [if_pos had]
          exact loginAd_wrong h
        · rename_i had
          rw [if_neg had]
          split at h
          · rename_i hlocal
            rw [if_pos hlocal]
            exact loginLocal_wrong h
          · cases h

/-- The route writes the attempt of its login, or nothing. -/
theorem loginEndpoint_attempts (db : LoginDb) (r : LoginRequest) (startedAt decidedAt : Int) :
    (loginEndpoint cfg db r startedAt decidedAt).1.loginAttempts = db.loginAttempts ∨
      (loginEndpoint cfg db r startedAt decidedAt).1.loginAttempts =
        db.loginAttempts ++ [(login cfg r decidedAt db startedAt).attempt] := by
  unfold loginEndpoint
  dsimp only
  split
  · exact .inl rfl
  · cases hresult : (login cfg r decidedAt db startedAt).result with
    | error failure =>
        dsimp only
        split
        · exact .inr rfl
        · split
          · exact .inl rfl
          · exact .inr rfl
    | ok user =>
        dsimp only
        cases hissue : issueSession cfg r decidedAt
            (db.record (login cfg r decidedAt db startedAt).attempt) user with
        | error e => exact .inl rfl
        | ok issued =>
            obtain ⟨db', success⟩ := issued
            right
            show db'.loginAttempts = _
            unfold issueSession at hissue
            dsimp only at hissue
            cases hinsert : RefreshTable.insert _ _ with
            | error e =>
                rw [hinsert] at hissue
                cases hissue
            | ok sessions =>
                rw [hinsert] at hissue
                cases hissue
                rfl

/-- The attempt of a wrong password is written if it fits its columns. -/
theorem loginEndpoint_wrong {db : LoginDb} {r : LoginRequest} {startedAt decidedAt : Int}
    (h : WrongPassword cfg r decidedAt (login cfg r decidedAt db startedAt))
    (hfits : (login cfg r decidedAt db startedAt).attempt.fits = true) :
    (loginEndpoint cfg db r startedAt decidedAt).1.loginAttempts =
      db.loginAttempts ++ [(login cfg r decidedAt db startedAt).attempt] := by
  obtain ⟨f, hresult, hcode, havailable⟩ := h.result
  have hlimited : f.internalCode ≠ "RATE_LIMITED" := by
    rw [hcode]
    decide
  unfold loginEndpoint
  dsimp only
  rw [hfits, if_neg (by decide), hresult]
  dsimp only
  rw [if_neg hlimited, havailable, if_neg (by decide)]
  rfl

/-! ## One step -/

section Step

variable {s : LoginState} {r : LoginRequest}

theorem now_le_decidedAt (s : LoginState) (r : LoginRequest) : s.now ≤ r.decidedAt s := by
  unfold LoginRequest.decidedAt LoginRequest.startedAt
  omega

theorem startedAt_le_decidedAt (s : LoginState) (r : LoginRequest) :
    r.startedAt s ≤ r.decidedAt s := by
  unfold LoginRequest.decidedAt
  omega

/-- What a request adds to the failures is one wrong password, or nothing. -/
theorem failures_cases (cfg : LoginConfig) (s : LoginState) (r : LoginRequest) :
    (∃ userId, (r.outcome cfg s).verified = some (userId, false) ∧
      r.failures cfg s = [{
        userId := userId
        identifierHash := hashIdentifier cfg r.usernameOrEmail
        stored := (r.outcome cfg s).attempt.fits
        failedAt := r.decidedAt s }]) ∨
    ((∀ userId, (r.outcome cfg s).verified ≠ some (userId, false)) ∧ r.failures cfg s = []) := by
  unfold LoginRequest.failures
  cases hverified : (r.outcome cfg s).verified with
  | none => exact .inr ⟨nofun, rfl⟩
  | some verdict =>
      obtain ⟨userId, verdict⟩ := verdict
      cases verdict with
      | true => exact .inr ⟨fun other h ↦ Bool.noConfusion (congrArg (·.2) (Option.some.inj h)), rfl⟩
      | false => exact .inl ⟨userId, rfl, rfl⟩

theorem loginNext_attempts (identifierHash : String) (cutoff : Int) :
    s.db.loginAttempts.countP (·.failedSince identifierHash cutoff) ≤
      (loginNext cfg s r).db.loginAttempts.countP (·.failedSince identifierHash cutoff) := by
  show _ ≤ (loginEndpoint cfg s.db r _ _).1.loginAttempts.countP _
  rcases @loginEndpoint_attempts cfg s.db r (r.startedAt s) (r.decidedAt s) with h | h
  · rw [h]
  · rw [h, List.countP_append]
    omega

theorem LoginLinked.next (h : LoginLinked s) : LoginLinked (loginNext cfg s r) := by
  have hnow := now_le_decidedAt s r
  rcases failures_cases cfg s r with ⟨userId, hverified, hfailures⟩ | ⟨-, hfailures⟩
  · have hwrong : WrongPassword cfg r (r.decidedAt s) (r.outcome cfg s) := (login_wrong hverified).1
    constructor
    · intro f hf
      show f.failedAt ≤ r.decidedAt s
      rcases List.mem_append.1 hf with hold | hnew
      · exact (h.past f hold).trans hnow
      · rw [hfailures, List.mem_singleton] at hnew
        rw [hnew]
    · intro identifierHash cutoff
      have hrows := h.rows identifierHash cutoff
      show (s.failures ++ r.failures cfg s).countP _ ≤ _
      rw [hfailures, List.countP_append]
      cases hfits : (r.outcome cfg s).attempt.fits with
      | false =>
          -- the request is rolled back, and nothing shows the failure
          have hmono := @loginNext_attempts cfg s r identifierHash cutoff
          have hhidden : List.countP (fun f ↦ decide (f.shown identifierHash ∧ cutoff < f.failedAt))
              [{ userId := userId, identifierHash := hashIdentifier cfg r.usernameOrEmail,
                 stored := false, failedAt := r.decidedAt s : FailedVerification }] = 0 := by
            simp [FailedVerification.shown]
          omega
      | true =>
          obtain ⟨provider, reason, hattempt⟩ := hwrong.attempt
          have hwritten : (loginNext cfg s r).db.loginAttempts =
              s.db.loginAttempts ++ [(r.outcome cfg s).attempt] := loginEndpoint_wrong hwrong hfits
          rw [hwritten, List.countP_append, hattempt]
          have hone : List.countP (fun f ↦ decide (f.shown identifierHash ∧ cutoff < f.failedAt))
              [{ userId := userId, identifierHash := hashIdentifier cfg r.usernameOrEmail,
                 stored := true, failedAt := r.decidedAt s : FailedVerification }] =
              [createLoginAttempt cfg r (r.decidedAt s) provider false reason].countP
                (·.failedSince identifierHash cutoff) := by
            simp [FailedVerification.shown, LoginAttempt.failedSince, createLoginAttempt,
              List.countP_cons]
          omega
  · constructor
    · intro f hf
      have hold : f ∈ s.failures := by
        have hmem : f ∈ s.failures ++ r.failures cfg s := hf
        rwa [hfailures, List.append_nil] at hmem
      exact (h.past f hold).trans hnow
    · intro identifierHash cutoff
      show (s.failures ++ r.failures cfg s).countP _ ≤ _
      rw [hfailures, List.append_nil]
      exact (h.rows identifierHash cutoff).trans (loginNext_attempts identifierHash cutoff)

theorem hidden_add_shown (cfg : LoginConfig) (s : LoginState) (r : LoginRequest)
    (userId : String) :
    s.hiddenFrom cfg r userId + s.shownTo cfg r userId =
      s.failures.countP (·.recent userId (r.decidedAt s - cfg.window)) := by
  unfold LoginState.hiddenFrom LoginState.shownTo
  rw [List.countP_eq_countP_filter_add s.failures
    (·.recent userId (r.decidedAt s - cfg.window))
    (·.shown (hashIdentifier cfg r.usernameOrEmail)), List.countP_filter, List.countP_filter,
    Nat.add_comm]
  congr 1
  · apply List.countP_congr
    intro f _
    simp
  · apply List.countP_congr
    intro f _
    simp

/-- The limit has counted every failure that is shown. -/
theorem shownTo_le (h : LoginLinked s) (userId : String) : s.shownTo cfg r userId ≤
    countRecentFailedAttempts cfg s.db (hashIdentifier cfg r.usernameOrEmail) (r.startedAt s) := by
  have hstart := startedAt_le_decidedAt s r
  calc s.shownTo cfg r userId
    _ ≤ s.failures.countP (fun f ↦ f.shown (hashIdentifier cfg r.usernameOrEmail) ∧
          r.decidedAt s - cfg.window < f.failedAt) := by
        apply List.countP_mono_left
        intro f _ hf
        simp only [FailedVerification.recent, decide_eq_true_eq] at hf ⊢
        exact ⟨hf.2, hf.1.2⟩
    _ ≤ s.db.loginAttempts.countP (·.failedSince (hashIdentifier cfg r.usernameOrEmail)
          (r.decidedAt s - cfg.window)) := h.rows _ _
    _ ≤ _ := by
        apply List.countP_mono_left
        intro a _ ha
        simp only [LoginAttempt.failedSince, decide_eq_true_eq] at ha ⊢
        refine ⟨ha.1, ha.2.1, ?_⟩
        omega

theorem window_nonneg (cfg : LoginConfig) : 0 ≤ cfg.window := by
  unfold LoginConfig.window secondMicros
  omega

/-- The failures up to now, in the window that ends with the verdict. -/
theorem failedIn_decidedAt (h : LoginLinked s) (userId : String) :
    s.failedIn cfg userId (r.decidedAt s) =
      s.failures.countP (·.recent userId (r.decidedAt s - cfg.window)) := by
  apply List.countP_congr
  intro f hf
  have hpast := (h.past f hf).trans (now_le_decidedAt s r)
  simp [FailedVerification.recent, hpast]

/-- A wrong password counts in the windows that its verdict falls into. -/
theorem failedIn_wrong {userId : String}
    (hfailures : r.failures cfg s = [{
      userId := userId
      identifierHash := hashIdentifier cfg r.usernameOrEmail
      stored := (r.outcome cfg s).attempt.fits
      failedAt := r.decidedAt s }]) (other : String) (x : Int) :
    (loginNext cfg s r).failedIn cfg other x = s.failedIn cfg other x +
      (if userId = other ∧ x - cfg.window < r.decidedAt s ∧ r.decidedAt s ≤ x then 1 else 0) := by
  show (s.failures ++ r.failures cfg s).countP _ = _
  rw [hfailures, List.countP_append]
  simp [LoginState.failedIn, List.countP_cons]

/-- A window that ends after the verdict has no more of the failures before it. -/
theorem failedIn_le_recent {x : Int} (hbefore : r.decidedAt s ≤ x) (userId : String) :
    s.failedIn cfg userId x ≤
      s.failures.countP (·.recent userId (r.decidedAt s - cfg.window)) := by
  apply List.countP_mono_left
  intro f _ hf
  simp only [FailedVerification.recent, decide_eq_true_eq] at hf ⊢
  refine ⟨hf.1, ?_⟩
  omega

theorem loginNext_within (h : LoginLinked s) (hlimit : WithinLoginLimit cfg s) :
    WithinLoginLimit cfg (loginNext cfg s r) ↔ SeesFailures cfg s r := by
  rcases failures_cases cfg s r with ⟨userId, hverified, hfailures⟩ | ⟨hnone, hfailures⟩
  · have hcounted : countRecentFailedAttempts cfg s.db (hashIdentifier cfg r.usernameOrEmail)
        (r.startedAt s) < cfg.loginRateLimitMaxAttempts := (login_wrong hverified).2
    have hsum := hidden_add_shown cfg s r userId
    have hnext := failedIn_wrong hfailures
    constructor
    · intro hnext' other hother
      cases hverified.symm.trans hother
      by_cases hwindow : 0 < cfg.window
      · right
        have hfull := hnext' userId (r.decidedAt s)
        rw [hnext, failedIn_decidedAt h, if_pos ⟨rfl, by omega, le_rfl⟩] at hfull
        omega
      · -- an empty window holds nothing
        left
        apply List.countP_eq_zero.2
        intro f hf hcond
        have hpast := (h.past f hf).trans (now_le_decidedAt s r)
        simp only [FailedVerification.recent, decide_eq_true_eq] at hcond
        have hempty := window_nonneg cfg
        omega
    · intro hsees other x
      have hroom : s.failures.countP (·.recent userId (r.decidedAt s - cfg.window)) <
          cfg.loginRateLimitMaxAttempts := by
        have hshown : s.shownTo cfg r userId ≤ _ := shownTo_le h userId
        rcases hsees userId hverified with hzero | hsum'
        · omega
        · omega
      rw [hnext]
      split
      · rename_i hinside
        obtain ⟨rfl, hafter, hbefore⟩ := hinside
        have hold := @failedIn_le_recent cfg s r x hbefore userId
        omega
      · exact hlimit other x
  · have hsame : (loginNext cfg s r).failures = s.failures := by
      show s.failures ++ r.failures cfg s = _
      rw [hfailures, List.append_nil]
    constructor
    · exact fun _ other hother ↦ absurd hother (hnone other)
    · intro _ other x
      unfold LoginState.failedIn
      rw [hsame]
      exact hlimit other x

end Step

/-! ## Every sequence of logins -/

/-- Over every sequence of logins, with whatever identifiers and addresses: no account sees more
wrong passwords inside a window than the limit exactly if no login that comes to a wrong password
has missed failures that exhaust it. -/
theorem withinLoginLimit_iff (cfg : LoginConfig) (db : LoginDb) (now : Int)
    (l : List LoginRequest) :
    Run.Always (loginNext cfg) (WithinLoginLimit cfg) { db := db, now := now } l ↔
      Run.Guarded (loginNext cfg) (SeesFailures cfg) { db := db, now := now } l := by
  have hlinked : LoginLinked { db := db, now := now } :=
    ⟨fun f hf ↦ absurd hf List.not_mem_nil, fun _ _ ↦ Nat.zero_le _⟩
  have hstart : WithinLoginLimit cfg { db := db, now := now } := by
    intro userId x
    exact Nat.zero_le cfg.loginRateLimitMaxAttempts
  exact Run.always_iff_guarded (I := LoginLinked) (A := fun _ ↦ True)
    (fun _ _ _ hs ↦ hs.next) (fun _ _ _ hs hlimit ↦ loginNext_within hs hlimit)
    (fun _ _ ↦ trivial) hlinked hstart

end Limit

/-! Five guesses by username, and one more by e-mail address. -/

def demoLogin : LoginConfig where
  lower := String.toLower
  checkpw plain hashed := some (plain = hashed)
  verifyCredentials _ _ _ := { success := false, errorCode := some "ldap_unavailable" }

def annaDb : LoginDb where
  users := [{
    id := "user-1"
    authProvider := "local_advertiser"
    username := "anna"
    email := some "anna@brand.example" }]
  localCredentials := [{
    userId := "user-1"
    credentialType := "local_advertiser"
    passwordHash := "correct horse" }]

def guess (usernameOrEmail : String) : LoginRequest where
  usernameOrEmail := usernameOrEmail
  password := "guess"
  elapsed := 1

def sixGuesses : List LoginRequest :=
  List.replicate 5 (guess "anna") ++ [guess "anna@brand.example"]

theorem sixth_guess_verified : ¬ ∀ (cfg : LoginConfig) (db : LoginDb) (now : Int)
    (l : List LoginRequest), Run.Always (loginNext cfg) (WithinLoginLimit cfg)
      { db := db, now := now } l := by
  intro h
  have hend : WithinLoginLimit demoLogin
      (Run.final (loginNext demoLogin) { db := annaDb, now := 0 } sixGuesses) :=
    (h demoLogin annaDb 0 sixGuesses).final
  have hbound := hend "user-1" 6
  have hsix : (Run.final (loginNext demoLogin) { db := annaDb, now := 0 } sixGuesses).failedIn
      demoLogin "user-1" 6 = 6 := by
    decide +kernel
  rw [hsix] at hbound
  exact absurd hbound (by decide)

end RetailMedia
