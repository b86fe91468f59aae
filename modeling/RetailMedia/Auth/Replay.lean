import RetailMedia.Auth.Sessions
import RetailMedia.Lib.Run

/-! What presenting a rotated refresh token does to its family. -/

namespace RetailMedia

def refreshStep (cfg : AuthConfig) (db : AuthDb) (r : RefreshRequest) : AuthDb :=
  (refreshEndpoint cfg db r).1

/-- The route answers with new tokens. -/
def Rotates (cfg : AuthConfig) (db : AuthDb) (r : RefreshRequest) : Prop :=
  (refreshEndpoint cfg db r).2.isOk = true

def FamilyRevoked (db : AuthDb) (tokenFamilyId : String) : Prop :=
  ∀ s ∈ db.refreshSessions.rows, s.tokenFamilyId = tokenFamilyId → s.revokedAt.isSome

instance (db : AuthDb) (tokenFamilyId : String) : Decidable (FamilyRevoked db tokenFamilyId) :=
  inferInstanceAs (Decidable (∀ _ ∈ _, _))

/-- The token is of the family and has been rotated. -/
def RotatedToken (db : AuthDb) (tokenFamilyId token : String) : Prop :=
  ∃ s ∈ db.refreshSessions.rows, s.tokenHash = hashToken token ∧
    s.tokenFamilyId = tokenFamilyId ∧ s.rotatedAt.isSome

instance (db : AuthDb) (tokenFamilyId token : String) :
    Decidable (RotatedToken db tokenFamilyId token) := inferInstanceAs (Decidable (∃ _ ∈ _, _))

/-- Once a session of the family has been rotated, one of its sessions is not revoked. -/
def FamilyLive (tokenFamilyId : String) (db : AuthDb) : Prop :=
  (∃ s ∈ db.refreshSessions.rows, s.tokenFamilyId = tokenFamilyId ∧ s.rotatedAt.isSome) →
    ∃ s ∈ db.refreshSessions.rows, s.tokenFamilyId = tokenFamilyId ∧ s.revokedAt = none

/-! ## One request -/

theorem refreshStep_rotates {cfg : AuthConfig} {db : AuthDb} {r : RefreshRequest}
    (h : Rotates cfg db r) : ∃ rs ∈ db.refreshSessions.rows, rs.revokedAt = none ∧
      (refreshStep cfg db r).refreshSessions.rows =
        Rows.updateWhere (·.id = rs.id) (·.rotated r.now) db.refreshSessions.rows ++
          [rs.successor cfg r.now r.drawn r.ipAddress] := by
  unfold Rotates refreshStep refreshEndpoint at *
  cases htoken : r.refreshToken.filter (· ≠ "") with
  | none =>
      rw [htoken] at h
      cases h
  | some token =>
      rw [htoken] at h
      dsimp only at h ⊢
      split at h
      · cases h
      · cases h
      · rename_i heq
        obtain ⟨rs, hfind, hrows⟩ := refreshSession_success heq
        obtain ⟨hmem, -, -, hlive, -⟩ := findActive_spec hfind
        exact ⟨rs, hmem, hlive, hrows⟩

/-- A rotated token is not found, the route raises, and the request is rolled back. -/
theorem replay_keeps_state (cfg : AuthConfig) {db : AuthDb} {tokenFamilyId token : String}
    (h : RotatedToken db tokenFamilyId token) {r : RefreshRequest}
    (htoken : r.refreshToken = some token) : refreshStep cfg db r = db := by
  obtain ⟨s, hs, hhash, -, hrotated⟩ := h
  have hnone := findActive_rotated hs hhash hrotated r.now
  unfold refreshStep refreshEndpoint
  rw [htoken]
  by_cases hempty : token = ""
  · rw [hempty]
    rfl
  · have hfilter : (some token).filter (fun t ↦ decide (t ≠ "")) = some token := by
      simp [hempty]
    have hservice : refreshSession cfg db r.now token r.drawn r.ipAddress = .ok (db, .failure {
        internalCode := "REFRESH_FAILED"
        debugContext := [("reason", "token_not_found_or_revoked")] }) := by
      unfold refreshSession
      rw [hnone]
      rfl
    rw [hfilter]
    dsimp only
    rw [hservice]

/-- A successful rotation adds a session that is not revoked to the family it rotates. -/
theorem familyLive_rotates {cfg : AuthConfig} {tokenFamilyId : String} {db : AuthDb}
    {r : RefreshRequest} (h : FamilyLive tokenFamilyId db) (hr : Rotates cfg db r) :
    FamilyLive tokenFamilyId (refreshStep cfg db r) := by
  obtain ⟨rs, hmem, -, hrows⟩ := refreshStep_rotates hr
  unfold FamilyLive
  rw [hrows]
  rintro ⟨s, hs, hfamily, hrotated⟩
  by_cases hown : rs.tokenFamilyId = tokenFamilyId
  · exact ⟨rs.successor cfg r.now r.drawn r.ipAddress, by simp, hown, rfl⟩
  · -- the rotation is in another family: the family's rows are as before
    have hkept : ∀ x ∈ db.refreshSessions.rows, x.tokenFamilyId = tokenFamilyId → x.id ≠ rs.id := by
      intro x hx hxf hid
      exact hown (Rows.key_inj db.refreshSessions.uniqueId hx hmem hid ▸ hxf)
    have hold : s ∈ db.refreshSessions.rows := by
      rcases List.mem_append.1 hs with hs | hs
      · obtain ⟨x, hx, rfl⟩ := Rows.mem_updateWhere.1 hs
        have hxf : x.tokenFamilyId = tokenFamilyId := by
          split at hfamily
          · exact hfamily
          · exact hfamily
        rw [if_neg (by simpa using hkept x hx hxf)]
        exact hx
      · rw [List.mem_singleton.1 hs] at hfamily
        exact absurd hfamily hown
    obtain ⟨x, hx, hxf, hlive⟩ := h ⟨s, hold, hfamily, hrotated⟩
    refine ⟨x, List.mem_append_left _ (Rows.mem_updateWhere.2 ⟨x, hx, ?_⟩), hxf, hlive⟩
    exact if_neg (by simpa using hkept x hx hxf)

/-! ## Runs -/

theorem familyLive_run (cfg : AuthConfig) {tokenFamilyId : String} {db : AuthDb}
    {l : List RefreshRequest} (h0 : FamilyLive tokenFamilyId db)
    (hl : Run.Guarded (refreshStep cfg) (Rotates cfg) db l) :
    FamilyLive tokenFamilyId (Run.final (refreshStep cfg) db l) := by
  have hstep : ∀ d r, FamilyLive tokenFamilyId d → Rotates cfg d r →
      FamilyLive tokenFamilyId (refreshStep cfg d r) := fun d r ↦ familyLive_rotates
  exact (Run.always_of_guarded hstep h0 hl).final

/-- After any successful rotations, presenting a rotated token of a family leaves the family with
a session that is not revoked. -/
theorem replay_revokes_nothing (cfg : AuthConfig) (db : AuthDb) (l : List RefreshRequest)
    (tokenFamilyId token : String) (replay : RefreshRequest)
    (hunused : ∀ s ∈ db.refreshSessions.rows, s.tokenFamilyId = tokenFamilyId → s.rotatedAt = none)
    (hl : Run.Guarded (refreshStep cfg) (Rotates cfg) db l)
    (hrotated : RotatedToken (Run.final (refreshStep cfg) db l) tokenFamilyId token)
    (hreplay : replay.refreshToken = some token) :
    ¬ FamilyRevoked (refreshStep cfg (Run.final (refreshStep cfg) db l) replay) tokenFamilyId := by
  have h0 : FamilyLive tokenFamilyId db := by
    rintro ⟨s, hs, hfamily, hsome⟩
    rw [hunused s hs hfamily] at hsome
    cases hsome
  rw [replay_keeps_state cfg hrotated hreplay]
  obtain ⟨s, hs, -, hfamily, hsome⟩ := hrotated
  obtain ⟨live, hlive, hlivef, hnot⟩ := familyLive_run cfg h0 hl ⟨s, hs, hfamily, hsome⟩
  intro hrevoked
  have hsome := hrevoked live hlive hlivef
  rw [hnot] at hsome
  cases hsome

def demoAuthDb : AuthDb where
  users := [{ id := "u1" }]
  refreshSessions := { rows := [{
    id := "r1", userId := "u1", tokenHash := hashToken "t1", tokenFamilyId := "f", issuedAt := 0
    expiresAt := 8 * hourMicros }] }

-- the token of the login is rotated, then presented again
def rotation : RefreshRequest :=
  { now := 1, refreshToken := some "t1", drawn := ⟨"r2", "t2"⟩ }

def presentedAgain : RefreshRequest :=
  { now := 2, refreshToken := some "t1", drawn := ⟨"r3", "t3"⟩ }

theorem demo_unused : ∀ s ∈ demoAuthDb.refreshSessions.rows, s.tokenFamilyId = "f" →
    s.rotatedAt = none := by
  decide +kernel

theorem demo_rotates : Run.Guarded (refreshStep {}) (Rotates {}) demoAuthDb [rotation] := by
  have hone : Rotates {} demoAuthDb rotation := by
    unfold Rotates
    decide +kernel
  exact ⟨hone, trivial⟩

theorem demo_rotated :
    RotatedToken (Run.final (refreshStep {}) demoAuthDb [rotation]) "f" "t1" := by
  decide +kernel

theorem demo_family_survives : ¬ FamilyRevoked
    (refreshStep {} (Run.final (refreshStep {}) demoAuthDb [rotation]) presentedAgain) "f" :=
  replay_revokes_nothing {} demoAuthDb [rotation] "f" "t1" presentedAgain demo_unused demo_rotates
    demo_rotated rfl

theorem presented_again_survives :
    ¬ FamilyRevoked (Run.final (refreshStep {}) demoAuthDb [rotation, presentedAgain]) "f" := by
  decide +kernel

theorem replay_not_durable :
    ¬ ∀ (cfg : AuthConfig) (db : AuthDb) (l : List RefreshRequest) (tokenFamilyId token : String)
      (replay : RefreshRequest),
      (∀ s ∈ db.refreshSessions.rows, s.tokenFamilyId = tokenFamilyId → s.rotatedAt = none) →
      Run.Guarded (refreshStep cfg) (Rotates cfg) db l →
      RotatedToken (Run.final (refreshStep cfg) db l) tokenFamilyId token →
      replay.refreshToken = some token →
      FamilyRevoked (refreshStep cfg (Run.final (refreshStep cfg) db l) replay)
        tokenFamilyId := by
  intro h
  exact presented_again_survives (h {} demoAuthDb [rotation] "f" "t1" presentedAgain demo_unused
    demo_rotates demo_rotated rfl)

end RetailMedia
