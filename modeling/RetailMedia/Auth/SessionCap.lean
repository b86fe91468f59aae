import RetailMedia.Auth.LoginLimit
import RetailMedia.Auth.Replay
import RetailMedia.Lib.Latest

/-! The cap on the sessions of a user: which of them are live once a login has succeeded. -/

namespace RetailMedia

/-! ## Logging out -/

def logout (t : RefreshTable) (now : Int) (rawRefreshToken : String) : RefreshTable × Bool :=
  match findActiveRefreshSession t now (hashToken rawRefreshToken) with
  | none => (t, false)
  | some rs => (revokeRefreshSession t now rs.id, true)

/-- The answer is the same whether or not the cookie was there and known. -/
def logoutEndpoint (t : RefreshTable) (now : Int) (refreshToken : Option String) :
    RefreshTable × String :=
  match refreshToken.filter (· ≠ "") with
  | none => (t, "Logged out")
  | some token => ((logout t now token).1, "Logged out")

/-! ## The sessions of a user -/

/-- What the cap counts: a rotated session is still one of them. -/
def RefreshSession.active (userId : String) (now : Int) (s : RefreshSession) : Bool :=
  s.userId = userId ∧ s.revokedAt = none ∧ s.expiresAt > now

def RefreshSession.unrotated (s : RefreshSession) : Bool := s.rotatedAt = none

/-- Not revoked, not rotated and not expired. -/
def RefreshSession.live (userId : String) (now : Int) (s : RefreshSession) : Bool :=
  s.unrotated && s.active userId now

def countActiveSessions (t : RefreshTable) (now : Int) (userId : String) : Nat :=
  (t.rows.filter (·.active userId now)).length

/-- The sessions that the cap counts, the oldest first. -/
def activeSessions (t : RefreshTable) (now : Int) (userId : String) : List RefreshSession :=
  (t.rows.filter (·.active userId now)).insertionSort fun s s' ↦ s.issuedAt ≤ s'.issuedAt

/-- Those among which the cap chooses no victim. -/
def keptSessions (t : RefreshTable) (now : Int) (userId : String) (keep : Nat) :
    List RefreshSession :=
  (activeSessions t now userId).drop ((activeSessions t now userId).length - keep)

def sessionsToRevoke (t : RefreshTable) (now : Int) (userId : String) (keep : Nat) :
    List RefreshSession :=
  (activeSessions t now userId).take ((activeSessions t now userId).length - keep)

/-- The row that a login adds. -/
def LoginRequest.session (cfg : LoginConfig) (r : LoginRequest) (decidedAt : Int)
    (userId : String) : RefreshSession where
  id := r.drawn.sessionId
  userId := userId
  tokenHash := hashToken r.drawn.refreshToken
  tokenFamilyId := r.tokenFamilyId
  issuedAt := decidedAt
  expiresAt := decidedAt + cfg.refreshSessionTtlHours * hourMicros
  ipAddress := r.ipAddress

/-! ## Histories -/

/-- A request, with the time since the one before. -/
inductive SessionEvent
  | login (r : LoginRequest)
  | refresh (elapsed : Nat) (refreshToken : Option String) (drawn : Drawn)
      (ipAddress : Option String)
  | logout (elapsed : Nat) (refreshToken : Option String)

def LoginDb.auth (db : LoginDb) : AuthDb where
  users := db.users.map (·.toUser)
  refreshSessions := db.refreshSessions

def LoginDb.withSessions (db : LoginDb) (t : RefreshTable) : LoginDb :=
  { db with refreshSessions := t }

section History

variable (cfg : LoginConfig)

def sessionNext (s : LoginState) : SessionEvent → LoginState
  | .login r => loginNext cfg s r
  | .refresh elapsed refreshToken drawn ipAddress =>
      { s with
        db := s.db.withSessions (refreshStep cfg.toAuthConfig s.db.auth {
          now := s.now + elapsed
          refreshToken := refreshToken
          drawn := drawn
          ipAddress := ipAddress }).refreshSessions
        now := s.now + elapsed }
  | .logout elapsed refreshToken =>
      { s with
        db := s.db.withSessions
          (logoutEndpoint s.db.refreshSessions (s.now + elapsed) refreshToken).1
        now := s.now + elapsed }

/-- The login of this user succeeds. -/
def LogsIn (s : LoginState) (r : LoginRequest) (user : LoginUser) : Prop :=
  findLoginUser s.db r.usernameOrEmail = some user ∧
    (loginEndpoint cfg s.db r (r.startedAt s) (r.decidedAt s)).2.isOk = true

/-- Right after a successful login, the live sessions of the user are the latest of those that were
live and the new one, as many as the cap allows. -/
def NewestKept (s : LoginState) : SessionEvent → Prop
  | .login r => ∀ user, LogsIn cfg s r user →
      Rows.IsLatest RefreshSession.issuedAt cfg.maxSessionsPerUser
        ((s.db.refreshSessions.rows ++ [r.session cfg (r.decidedAt s) user.id]).filter
          (·.live user.id (r.decidedAt s)))
        ((loginNext cfg s r).db.refreshSessions.rows.filter (·.live user.id (r.decidedAt s)))
  | _ => True

/-- The new session has a place of its own, or takes the one of a rotated session: of the only one
that is kept, or of any if no live session is older than those that are kept. -/
def HasPlace (t : RefreshTable) (now : Int) (userId : String) (keep : Nat) : Prop :=
  countActiveSessions t now userId < keep ∨
    (∃ x ∈ keptSessions t now userId keep, x.unrotated = false) ∧
      ((keptSessions t now userId keep).countP (fun x ↦ !x.unrotated) = 1 ∨
        ∀ x ∈ sessionsToRevoke t now userId keep, x.unrotated = false)

def LoginHasPlace (s : LoginState) : SessionEvent → Prop
  | .login r => ∀ user, LogsIn cfg s r user →
      HasPlace s.db.refreshSessions (r.decidedAt s) user.id cfg.maxSessionsPerUser
  | _ => True

/-- Every session has started by `now`, and lives as long as the settings say. -/
def PastRows (now : Int) (rows : List RefreshSession) : Prop :=
  ∀ x ∈ rows, x.issuedAt ≤ now ∧ x.expiresAt = x.issuedAt + cfg.refreshSessionTtlHours * hourMicros

def SessionsPast (s : LoginState) : Prop := PastRows cfg s.now s.db.refreshSessions.rows

end History

/-! ## What the cap revokes -/

section Cap

variable {t : RefreshTable} {now : Int} {userId : String} {keep : Nat}

theorem activeSessions_perm :
    (activeSessions t now userId).Perm (t.rows.filter (·.active userId now)) :=
  List.perm_insertionSort _ _

theorem activeSessions_sorted :
    (activeSessions t now userId).Pairwise fun s s' ↦ s.issuedAt ≤ s'.issuedAt :=
  have : Std.Total fun s s' : RefreshSession ↦ s.issuedAt ≤ s'.issuedAt :=
    ⟨fun s s' ↦ le_total s.issuedAt s'.issuedAt⟩
  have : IsTrans RefreshSession fun s s' ↦ s.issuedAt ≤ s'.issuedAt :=
    ⟨fun _ _ _ h h' ↦ h.trans h'⟩
  List.pairwise_insertionSort _ _

theorem activeSessions_nodup : ((activeSessions t now userId).map (·.id)).Nodup := by
  have hsublist : ((t.rows.filter (·.active userId now)).map (·.id)).Sublist (t.rows.map (·.id)) :=
    List.filter_sublist.map _
  exact (activeSessions_perm.map _).nodup_iff.2 (t.uniqueId.sublist hsublist)

theorem mem_activeSessions {x : RefreshSession} :
    x ∈ activeSessions t now userId ↔ x ∈ t.rows ∧ x.active userId now = true :=
  activeSessions_perm.mem_iff.trans List.mem_filter

theorem revoked_not_live (x : RefreshSession) : (x.revoked now).live userId now = false := by
  have hactive : (x.revoked now).active userId now = false := by
    apply decide_eq_false
    rintro ⟨-, hnone, -⟩
    cases hnone
  unfold RefreshSession.live
  rw [hactive, Bool.and_false]

/-- The live rows that the cap leaves are those whose keys it has not chosen. -/
theorem live_revokeOldest :
    (revokeOldestSessions t now userId keep).rows.filter (·.live userId now) =
      (t.rows.filter (·.live userId now)).filter
        fun x ↦ x.id ∉ (sessionsToRevoke t now userId keep).map (·.id) := by
  show (Rows.updateWhere (fun x ↦ decide (x.id ∈ (sessionsToRevoke t now userId keep).map (·.id)))
    (·.revoked now) t.rows).filter _ = _
  rw [List.filter_filter]
  induction t.rows with
  | nil => rfl
  | cons x rows ih =>
      rw [Rows.updateWhere_cons, List.filter_cons, List.filter_cons, ih]
      by_cases hchosen : x.id ∈ (sessionsToRevoke t now userId keep).map (·.id)
      · simp [hchosen, revoked_not_live]
      · simp [hchosen]

/-- They are as many as there are unrotated sessions among those that are kept. -/
theorem length_live_revokeOldest :
    ((revokeOldestSessions t now userId keep).rows.filter (·.live userId now)).length =
      ((keptSessions t now userId keep).filter (·.unrotated)).length := by
  have hlive : (t.rows.filter (·.live userId now)).filter
        (fun x ↦ x.id ∉ (sessionsToRevoke t now userId keep).map (·.id)) =
      (t.rows.filter (·.active userId now)).filter
        (fun x ↦ x.unrotated ∧ x.id ∉ (sessionsToRevoke t now userId keep).map (·.id)) := by
    rw [List.filter_filter, List.filter_filter]
    apply List.filter_congr
    intro x _
    unfold RefreshSession.live
    by_cases hactive : x.active userId now = true
    · simp [hactive, Bool.and_comm]
    · simp [hactive]
  rw [live_revokeOldest, hlive, (activeSessions_perm.symm.filter _).length_eq]
  unfold sessionsToRevoke keptSessions
  rw [Rows.filter_key_notMem_take activeSessions_nodup]

theorem length_live :
    (t.rows.filter (·.live userId now)).length =
      ((activeSessions t now userId).filter (·.unrotated)).length := by
  rw [(activeSessions_perm.filter _).length_eq, List.filter_filter]
  rfl

end Cap

/-! ## What a login stores -/

section Login

variable {cfg : LoginConfig} {db : LoginDb} {r : LoginRequest} {startedAt decidedAt : Int}

theorem loginAd_ok {user user' : LoginUser}
    (h : (loginAd cfg r decidedAt user).result = .ok user') : user' = user := by
  unfold loginAd at h
  split at h
  · cases h
  · dsimp only at h
    split at h
    · cases h
      rfl
    · cases h

theorem loginLocal_ok {user user' : LoginUser} {provider : String}
    (h : (loginLocal cfg r decidedAt db user provider).result = .ok user') : user' = user := by
  unfold loginLocal at h
  split at h
  · cases h
  · split at h
    · cases h
    · split at h
      · cases h
      · split at h
        · cases h
        · split at h
          · cases h
          · cases h
            rfl

/-- A login succeeds for the user whom the lookup finds. -/
theorem login_ok {user : LoginUser} (h : (login cfg r decidedAt db startedAt).result = .ok user) :
    findLoginUser db r.usernameOrEmail = some user := by
  unfold login at h
  dsimp only at h
  split at h
  · cases h
  · split at h
    · cases h
    · rename_i found hfound
      rw [hfound]
      split at h
      · rw [loginAd_ok h]
      · split at h
        · rw [loginLocal_ok h]
        · cases h

theorem issueSession_rows {user : LoginUser} {db' : LoginDb} {success : AuthSuccess}
    (h : issueSession cfg r decidedAt db user = .ok (db', success)) :
    db'.refreshSessions.rows = (revokeOldestSessions db.refreshSessions decidedAt user.id
      cfg.maxSessionsPerUser).rows ++ [r.session cfg decidedAt user.id] := by
  unfold issueSession at h
  dsimp only at h
  cases hinsert : RefreshTable.insert (revokeOldestSessions db.refreshSessions decidedAt user.id
      cfg.maxSessionsPerUser) (r.session cfg decidedAt user.id) with
  | error e =>
      unfold LoginRequest.session at hinsert
      rw [hinsert] at h
      cases h
  | ok sessions =>
      have hrows := RefreshTable.insert_rows hinsert
      unfold LoginRequest.session at hinsert
      rw [hinsert] at h
      cases h
      exact hrows

/-- The sessions change by a successful login only: the cap is applied, and one is added. -/
theorem loginEndpoint_sessions (cfg : LoginConfig) (db : LoginDb) (r : LoginRequest)
    (startedAt decidedAt : Int) :
    ((loginEndpoint cfg db r startedAt decidedAt).2.isOk = false ∧
      (loginEndpoint cfg db r startedAt decidedAt).1.refreshSessions = db.refreshSessions) ∨
    ∃ user, findLoginUser db r.usernameOrEmail = some user ∧
      (loginEndpoint cfg db r startedAt decidedAt).2.isOk = true ∧
      (loginEndpoint cfg db r startedAt decidedAt).1.refreshSessions.rows =
        (revokeOldestSessions db.refreshSessions decidedAt user.id cfg.maxSessionsPerUser).rows ++
          [r.session cfg decidedAt user.id] := by
  unfold loginEndpoint
  dsimp only
  split
  · exact .inl ⟨rfl, rfl⟩
  · cases hresult : (login cfg r decidedAt db startedAt).result with
    | error failure =>
        left
        dsimp only
        split
        · exact ⟨rfl, rfl⟩
        · split
          · exact ⟨rfl, rfl⟩
          · exact ⟨rfl, rfl⟩
    | ok user =>
        dsimp only
        cases hissue : issueSession cfg r decidedAt
            (db.record (login cfg r decidedAt db startedAt).attempt) user with
        | error e => exact .inl ⟨rfl, rfl⟩
        | ok issued =>
            obtain ⟨db', success⟩ := issued
            right
            have hrows := issueSession_rows hissue
            exact ⟨user, login_ok hresult, rfl, hrows⟩

end Login

/-! ## One event -/

section Step

variable {cfg : LoginConfig} {s : LoginState}

theorem PastRows.mono {now now' : Int} {rows : List RefreshSession} (h : PastRows cfg now rows)
    (hnow : now ≤ now') : PastRows cfg now' rows := fun x hx ↦
  ⟨(h x hx).1.trans hnow, (h x hx).2⟩

/-- Marking a session does not move it in time. -/
theorem PastRows.update {now : Int} {rows : List RefreshSession} (h : PastRows cfg now rows)
    (p : RefreshSession → Bool) {f : RefreshSession → RefreshSession}
    (hissued : ∀ x, (f x).issuedAt = x.issuedAt) (hexpires : ∀ x, (f x).expiresAt = x.expiresAt) :
    PastRows cfg now (Rows.updateWhere p f rows) := by
  intro y hy
  obtain ⟨x, hx, rfl⟩ := Rows.mem_updateWhere.1 hy
  split
  · rw [hissued, hexpires]
    exact h x hx
  · exact h x hx

theorem PastRows.concat {now : Int} {rows : List RefreshSession} {x : RefreshSession}
    (h : PastRows cfg now rows) (hissued : x.issuedAt = now)
    (hexpires : x.expiresAt = now + cfg.refreshSessionTtlHours * hourMicros) :
    PastRows cfg now (rows ++ [x]) := by
  intro y hy
  rcases List.mem_append.1 hy with hold | hnew
  · exact h y hold
  · rw [List.mem_singleton.1 hnew, hissued, hexpires]
    exact ⟨le_refl now, rfl⟩

theorem loginNext_past (r : LoginRequest) (h : PastRows cfg s.now s.db.refreshSessions.rows) :
    PastRows cfg (loginNext cfg s r).now (loginNext cfg s r).db.refreshSessions.rows := by
  have hlater : PastRows cfg (r.decidedAt s) s.db.refreshSessions.rows :=
    h.mono (now_le_decidedAt s r)
  show PastRows cfg (r.decidedAt s) (loginEndpoint cfg s.db r _ _).1.refreshSessions.rows
  rcases loginEndpoint_sessions cfg s.db r (r.startedAt s) (r.decidedAt s) with
    ⟨-, hsame⟩ | ⟨user, -, -, hrows⟩
  · rw [hsame]
    exact hlater
  · rw [hrows]
    have hcapped : PastRows cfg (r.decidedAt s) (revokeOldestSessions s.db.refreshSessions
        (r.decidedAt s) user.id cfg.maxSessionsPerUser).rows :=
      hlater.update _ (fun _ ↦ rfl) (fun _ ↦ rfl)
    exact hcapped.concat (x := r.session cfg (r.decidedAt s) user.id) rfl rfl

/-- A request that gets no tokens is rolled back. -/
theorem refreshStep_not_rotates {db : AuthDb} {r : RefreshRequest}
    (h : ¬ Rotates cfg.toAuthConfig db r) : refreshStep cfg.toAuthConfig db r = db := by
  unfold Rotates refreshStep refreshEndpoint at *
  split
  · rfl
  · rename_i token htoken
    rw [htoken] at h
    dsimp only at h
    split
    · rfl
    · rfl
    · rename_i heq
      rw [heq] at h
      exact absurd rfl h

theorem refreshStep_past {db : AuthDb} {r : RefreshRequest}
    (h : PastRows cfg r.now db.refreshSessions.rows) :
    PastRows cfg r.now (refreshStep cfg.toAuthConfig db r).refreshSessions.rows := by
  by_cases hrotates : Rotates cfg.toAuthConfig db r
  · obtain ⟨rs, -, -, hrows⟩ := refreshStep_rotates hrotates
    have hrotated : PastRows cfg r.now
        (Rows.updateWhere (·.id = rs.id) (·.rotated r.now) db.refreshSessions.rows) :=
      h.update _ (fun _ ↦ rfl) (fun _ ↦ rfl)
    rw [hrows]
    exact hrotated.concat (x := rs.successor cfg.toAuthConfig r.now r.drawn r.ipAddress) rfl rfl
  · rw [refreshStep_not_rotates hrotates]
    exact h

theorem logoutEndpoint_past {t : RefreshTable} {now : Int} {refreshToken : Option String}
    (h : PastRows cfg now t.rows) :
    PastRows cfg now (logoutEndpoint t now refreshToken).1.rows := by
  unfold logoutEndpoint
  split
  · exact h
  · unfold logout
    dsimp only
    split
    · exact h
    · exact h.update _ (fun _ ↦ rfl) (fun _ ↦ rfl)

theorem SessionsPast.next (e : SessionEvent) (h : SessionsPast cfg s) :
    SessionsPast cfg (sessionNext cfg s e) := by
  cases e with
  | login r => exact loginNext_past r h
  | refresh elapsed refreshToken drawn ipAddress =>
      apply refreshStep_past
      exact PastRows.mono h (by dsimp only; omega)
  | logout elapsed refreshToken =>
      apply logoutEndpoint_past
      exact PastRows.mono h (Int.le_add_of_nonneg_right (Int.natCast_nonneg elapsed))

end Step

/-! ## The cap as a choice of the latest -/

section Newest

variable {cfg : LoginConfig} {t : RefreshTable} {now : Int} {userId : String} {keep : Nat}

theorem countActiveSessions_eq :
    countActiveSessions t now userId = (activeSessions t now userId).length :=
  activeSessions_perm.length_eq.symm

/-- With the new session, the live ones are as many as the cap allows exactly if it has a place. -/
theorem length_capped_iff (hkeep : 1 ≤ keep) :
    ((revokeOldestSessions t now userId keep).rows.filter (·.live userId now)).length + 1 =
        min keep ((t.rows.filter (·.live userId now)).length + 1) ↔
      HasPlace t now userId keep := by
  rw [length_live_revokeOldest, length_live]
  unfold HasPlace
  rw [countActiveSessions_eq]
  exact Rows.capped_length_iff hkeep

/-- A live session that the cap revokes is no later than one that it leaves. -/
theorem revoked_le_left {x y : RefreshSession} (hx : x ∈ t.rows.filter (·.live userId now))
    (hgone : x ∉ (revokeOldestSessions t now userId keep).rows.filter (·.live userId now))
    (hy : y ∈ (revokeOldestSessions t now userId keep).rows.filter (·.live userId now)) :
    x.issuedAt ≤ y.issuedAt := by
  rw [live_revokeOldest] at hgone hy
  obtain ⟨hylive, hykey⟩ := List.mem_filter.1 hy
  rw [decide_eq_true_eq] at hykey
  -- the key of `x` has been chosen, and under the unique key this is `x` itself
  have hxkey : x.id ∈ (sessionsToRevoke t now userId keep).map (·.id) := by
    by_contra hout
    exact hgone (List.mem_filter.2 ⟨hx, decide_eq_true hout⟩)
  have hactive : ∀ z ∈ t.rows.filter (·.live userId now), z ∈ activeSessions t now userId := by
    intro z hz
    obtain ⟨hz, hlive⟩ := List.mem_filter.1 hz
    exact mem_activeSessions.2 ⟨hz, (Bool.and_eq_true_iff.1 hlive).2⟩
  obtain ⟨x', hx', hid⟩ := List.mem_map.1 hxkey
  have hsame : x' = x :=
    Rows.key_inj activeSessions_nodup (List.mem_of_mem_take hx') (hactive x hx) hid
  have hykept : y ∈ keptSessions t now userId keep := by
    have hmem := hactive y hylive
    rw [← List.take_append_drop ((activeSessions t now userId).length - keep)
      (activeSessions t now userId)] at hmem
    rcases List.mem_append.1 hmem with hrevoked | hkept
    · exact absurd (List.mem_map_of_mem hrevoked) hykey
    · exact hkept
  rw [← hsame]
  exact Rows.key_take_le_drop activeSessions_sorted hx' hykept

/-- Where sessions do not outlive their start, none is active. -/
theorem activeSessions_nil (hpast : PastRows cfg now t.rows)
    (hexpired : cfg.refreshSessionTtlHours * hourMicros ≤ 0) :
    t.rows.filter (·.active userId now) = [] := by
  apply List.filter_eq_nil_iff.2
  intro x hx hactive
  have hlife := (of_decide_eq_true hactive).2.2
  obtain ⟨hissued, hexpires⟩ := hpast x hx
  omega

theorem session_live_iff (r : LoginRequest) :
    (r.session cfg now userId).live userId now = true ↔
      0 < cfg.refreshSessionTtlHours * hourMicros := by
  simp [RefreshSession.live, RefreshSession.unrotated, RefreshSession.active,
    LoginRequest.session]

/-- What the table holds after the cap and the insertion. -/
theorem isLatest_iff_hasPlace (hkeep : 1 ≤ keep) (hpast : PastRows cfg now t.rows)
    (r : LoginRequest) :
    Rows.IsLatest RefreshSession.issuedAt keep
        ((t.rows ++ [r.session cfg now userId]).filter (·.live userId now))
        (((revokeOldestSessions t now userId keep).rows ++ [r.session cfg now userId]).filter
          (·.live userId now)) ↔
      HasPlace t now userId keep := by
  rw [List.filter_append, List.filter_append]
  by_cases hlife : 0 < cfg.refreshSessionTtlHours * hourMicros
  · have hnew : [r.session cfg now userId].filter (·.live userId now) =
        [r.session cfg now userId] := by
      rw [List.filter_cons, if_pos ((session_live_iff r).2 hlife), List.filter_nil]
    rw [hnew, ← length_capped_iff hkeep]
    constructor
    · intro h
      have hlength := h.length_eq
      rw [List.length_append, List.length_append] at hlength
      exact hlength
    · intro hlength
      constructor
      · rw [live_revokeOldest]
        exact List.filter_sublist.append_right _
      · rw [List.length_append, List.length_append]
        exact hlength
      · intro x hx hgone y hy
        rcases List.mem_append.1 hx with hx | hx
        · have hgone' : x ∉ (revokeOldestSessions t now userId keep).rows.filter
              (·.live userId now) := fun hin ↦ hgone (List.mem_append_left _ hin)
          rcases List.mem_append.1 hy with hy | hy
          · exact revoked_le_left hx hgone' hy
          · rw [List.mem_singleton.1 hy]
            exact (hpast x (List.mem_filter.1 hx).1).1
        · exact absurd (List.mem_append_right _ hx) hgone
  · -- nothing is live, before or after
    have hnew : [r.session cfg now userId].filter (·.live userId now) = [] := by
      rw [List.filter_cons, if_neg (fun h ↦ hlife ((session_live_iff r).1 h)), List.filter_nil]
    have hnone : t.rows.filter (·.active userId now) = [] :=
      activeSessions_nil hpast (not_lt.1 hlife)
    have hbefore : t.rows.filter (·.live userId now) = [] := by
      show t.rows.filter (fun x ↦ x.unrotated && x.active userId now) = []
      rw [← List.filter_filter, hnone, List.filter_nil]
    rw [hnew, live_revokeOldest, hbefore]
    constructor
    · intro _
      left
      unfold countActiveSessions
      rw [hnone]
      exact hkeep
    · intro _
      exact Rows.isLatest_nil _ keep

end Newest

/-! ## Every history -/

theorem newestKept_step {cfg : LoginConfig} (hmax : 1 ≤ cfg.maxSessionsPerUser) {s : LoginState}
    (h : SessionsPast cfg s) (e : SessionEvent) :
    NewestKept cfg s e ↔ LoginHasPlace cfg s e := by
  cases e with
  | login r =>
      have hpast : PastRows cfg (r.decidedAt s) s.db.refreshSessions.rows :=
        PastRows.mono h (now_le_decidedAt s r)
      apply forall_congr'
      intro user
      apply forall_congr'
      intro hlogin
      rcases loginEndpoint_sessions cfg s.db r (r.startedAt s) (r.decidedAt s) with
        ⟨hfails, -⟩ | ⟨found, hfound, -, hrows⟩
      · have hok := hlogin.2
        rw [hfails] at hok
        cases hok
      · have hsame : found = user := Option.some.inj (hfound.symm.trans hlogin.1)
        rw [hsame] at hrows
        show Rows.IsLatest _ _ _
          ((loginEndpoint cfg s.db r _ _).1.refreshSessions.rows.filter _) ↔ _
        rw [hrows]
        exact isLatest_iff_hasPlace hmax hpast r
  | refresh elapsed refreshToken drawn ipAddress => exact Iff.rfl
  | logout elapsed refreshToken => exact Iff.rfl

/-- Over every history of logins, refreshes and logouts, with any time between them: each
successful login leaves the latest sessions of its user live, as many as the cap allows, exactly if
in each of them the new session has a place. -/
theorem newestKept_iff (cfg : LoginConfig) (hmax : 1 ≤ cfg.maxSessionsPerUser) (db : LoginDb)
    (now : Int) (l : List SessionEvent) :
    Run.Guarded (sessionNext cfg) (NewestKept cfg) { db := db.withSessions {}, now := now } l ↔
      Run.Guarded (sessionNext cfg) (LoginHasPlace cfg)
        { db := db.withSessions {}, now := now } l := by
  apply Run.guarded_iff (I := SessionsPast cfg)
  · intro s e hs
    exact hs.next e
  · intro s e hs
    exact newestKept_step hmax hs e
  · intro x hx
    cases hx

/-! A cap of one, with a logout between two logins; and six logins, with the cap as it is set. -/

def annaLogin (n : String) : LoginRequest where
  usernameOrEmail := "anna"
  password := "correct horse"
  drawn := ⟨"session-" ++ n, "token-" ++ n⟩
  tokenFamilyId := "family-" ++ n
  elapsed := 1

def oneSessionLogin : LoginConfig := { demoLogin with maxSessionsPerUser := 1 }

def annaStart : LoginState where
  db := annaDb
  now := 0

def afterLogout : LoginState :=
  Run.final (sessionNext oneSessionLogin) annaStart
    [.login (annaLogin "1"), .logout 1 (some "token-1")]

theorem anna_unique {s : LoginState} {r : LoginRequest} {user : LoginUser} {userId : String}
    (h : LogsIn oneSessionLogin s r user)
    (hfound : (findLoginUser s.db r.usernameOrEmail).map (·.id) = some userId) :
    user.id = userId := by
  rw [h.1] at hfound
  exact Option.some.inj hfound

theorem loginLogout_hasPlace : Run.Guarded (sessionNext oneSessionLogin)
    (LoginHasPlace oneSessionLogin) annaStart
    [.login (annaLogin "1"), .logout 1 (some "token-1"), .login (annaLogin "2")] := by
  refine ⟨?_, trivial, ?_, trivial⟩
  · intro user _
    exact .inl Nat.zero_lt_one
  · intro user hlogin
    have hanna : user.id = "user-1" := anna_unique hlogin (by decide +kernel)
    have hnone : countActiveSessions afterLogout.db.refreshSessions
        ((annaLogin "2").decidedAt afterLogout) "user-1" < 1 := by
      decide +kernel
    left
    rw [hanna]
    exact hnone

theorem loginLogout_newest : Run.Guarded (sessionNext oneSessionLogin)
    (NewestKept oneSessionLogin) annaStart
    [.login (annaLogin "1"), .logout 1 (some "token-1"), .login (annaLogin "2")] :=
  (newestKept_iff oneSessionLogin (by decide) annaDb 0 _).2 loginLogout_hasPlace

def fiveLogins : List SessionEvent :=
  ["1", "2", "3", "4", "5"].map fun n ↦ .login (annaLogin n)

def afterFive : LoginState := Run.final (sessionNext demoLogin) annaStart fiveLogins

/-- The sixth login succeeds, and six sessions are left where the cap is five. -/
theorem afterFive_sixth :
    (findLoginUser afterFive.db "anna").map (·.id) = some "user-1" ∧
      (loginEndpoint demoLogin afterFive.db (annaLogin "6") ((annaLogin "6").startedAt afterFive)
        ((annaLogin "6").decidedAt afterFive)).2.isOk = true ∧
      ((loginNext demoLogin afterFive (annaLogin "6")).db.refreshSessions.rows.filter
        (·.live "user-1" ((annaLogin "6").decidedAt afterFive))).length = 6 := by
  decide +kernel

theorem sixth_session_live : ¬ ∀ (cfg : LoginConfig) (db : LoginDb) (now : Int)
    (l : List SessionEvent), 1 ≤ cfg.maxSessionsPerUser →
      Run.Guarded (sessionNext cfg) (NewestKept cfg) { db := db.withSessions {}, now := now } l := by
  intro h
  have hsixth : NewestKept demoLogin afterFive (.login (annaLogin "6")) :=
    (h demoLogin annaDb 0 (fiveLogins ++ [SessionEvent.login (annaLogin "6")]) (by decide)).last
  obtain ⟨hanna, hok, hsix⟩ := afterFive_sixth
  obtain ⟨user, huser, hid⟩ := Option.map_eq_some_iff.1 hanna
  have hlength := (hsixth user ⟨huser, hok⟩).length_eq
  rw [hid, hsix] at hlength
  have hcap : 6 ≤ demoLogin.maxSessionsPerUser := hlength ▸ min_le_left _ _
  exact absurd hcap (by decide)

end RetailMedia
