import RetailMedia.Auth.Sessions
import RetailMedia.Lib.Interleaving

/-! Refresh requests statement by statement, and how often a refresh token is exchanged when they
interleave. -/

namespace RetailMedia

open Interleaving

/-! ## The transaction -/

/-- A token pair that a committed request was answered with. -/
structure Exchange where
  presented : String
  result : AuthSuccess
  deriving DecidableEq, Repr

structure ExchangeDb where
  auth : AuthDb
  exchanges : List Exchange := []

/-- How far `refresh_session` is; a successful request has an answer in `issued`. -/
inductive RefreshPhase
  | start
  | found (token : String) (rs : RefreshSession)
  | checked (token : String) (rs : RefreshSession) (user : User)
  | rotated (token : String) (rs : RefreshSession) (user : User)
  | issued (token : String) (rs : RefreshSession) (result : AuthSuccess)
  | revoking (rs : RefreshSession)
  | failed (f : AuthFailure)
  deriving DecidableEq, Repr

/-- The lookup of the cookie's token; without one the route raises. -/
def lookupToken (r : RefreshRequest) (d : ExchangeDb) : RefreshPhase :=
  match r.refreshToken.filter (· ≠ "") with
  | none => .failed {}
  | some token =>
      match findActiveRefreshSession d.auth.refreshSessions r.now (hashToken token) with
      | none => .failed {
          internalCode := "REFRESH_FAILED"
          debugContext := [("reason", "token_not_found_or_revoked")] }
      | some rs => .found token rs

def checkUser (token : String) (rs : RefreshSession) (d : ExchangeDb) : RefreshPhase :=
  -- the lookup returns no rotated session
  if rs.rotatedAt.isSome then .failed {
    internalCode := "REFRESH_REPLAY"
    debugContext := [("reason", "token_already_rotated")] }
  else
    match Rows.get User.id rs.userId d.auth.users with
    | none => .revoking rs
    | some user => if user.status ≠ "active" then .revoking rs else .checked token rs user

def refreshSuccess (cfg : AuthConfig) (r : RefreshRequest) (rs : RefreshSession) (user : User) :
    AuthSuccess where
  userId := rs.userId
  authProvider := user.authProvider
  accessToken := cfg.createAccessToken rs.userId user.authProvider
  refreshToken := r.drawn.refreshToken
  refreshSessionId := r.drawn.sessionId

/-- The mark on the old row and the new row, under the table's constraints. -/
def commitExchange (cfg : AuthConfig) (r : RefreshRequest) (token : String) (rs : RefreshSession)
    (result : AuthSuccess) (d : ExchangeDb) : Option ExchangeDb :=
  match (rotateRefreshSession d.auth.refreshSessions r.now rs.id).insert
      (rs.successor cfg r.now r.drawn r.ipAddress) with
  | .error _ => none
  | .ok sessions => some {
      auth := { d.auth with refreshSessions := sessions }
      exchanges := d.exchanges ++ [⟨token, result⟩] }

/-- `UPDATE … WHERE id` locks the row that has the id, and asks for nothing else of it. -/
def sessionRow (rs : RefreshSession) (d : ExchangeDb) : Option String :=
  (Rows.get (·.id) rs.id d.auth.refreshSessions.rows).map (·.id)

/-- A failed request ends without a write: the route raises and its session is rolled back. -/
def refreshStmt (cfg : AuthConfig) (r : RefreshRequest) :
    RefreshPhase → Stmt String ExchangeDb RefreshPhase
  | .start => .run (lookupToken r)
  | .found token rs => .run (checkUser token rs)
  | .checked token rs user => .lock (sessionRow rs) fun _ ↦ .rotated token rs user
  | .rotated token rs user => .run fun _ ↦ .issued token rs (refreshSuccess cfg r rs user)
  | .issued token rs result => .commit (commitExchange cfg r token rs result)
  | .revoking rs => .lock (sessionRow rs) fun _ ↦ .failed { internalCode := "USER_INACTIVE" }
  | .failed _ => .commit some

structure RefreshTx where
  request : RefreshRequest
  phase : RefreshPhase := .start

def refreshTxStmt (cfg : AuthConfig) (x : RefreshTx) : Stmt String ExchangeDb RefreshTx :=
  (refreshStmt cfg x.request x.phase).map fun phase ↦ { x with phase := phase }

/-! ## The assertions -/

/-- Every exchange has left its session rotated, and no token has two exchanges. -/
structure ExchangedOnce (d : ExchangeDb) : Prop where
  rotated : ∀ e ∈ d.exchanges, ∃ r ∈ d.auth.refreshSessions.rows,
    r.tokenHash = hashToken e.presented ∧ r.rotatedAt.isSome = true
  once : (d.exchanges.map (·.presented)).Nodup

/-- The token's session is stored. -/
def Stored (d : ExchangeDb) (token : String) (rs : RefreshSession) : Prop :=
  ∃ r ∈ d.auth.refreshSessions.rows, r.id = rs.id ∧ r.tokenHash = hashToken token

/-- The token's session is stored, and has not been rotated. -/
def Unrotated (d : ExchangeDb) (token : String) (rs : RefreshSession) : Prop :=
  ∃ r ∈ d.auth.refreshSessions.rows, r.id = rs.id ∧ r.tokenHash = hashToken token ∧
    r.rotatedAt = none

def RefreshPhase.Sound (d : ExchangeDb) : RefreshPhase → Prop
  | .found token rs => Stored d token rs
  | .checked token rs _ => Stored d token rs
  | .rotated token rs _ => Unrotated d token rs
  | .issued token rs _ => Unrotated d token rs
  | _ => True

/-- The session row that the rest of a rotation relies on. -/
def RefreshPhase.relies : RefreshPhase → Option String
  | .rotated _ rs _ => some rs.id
  | .issued _ rs _ => some rs.id
  | _ => none

/-- The session that a rotation's `UPDATE` comes next for. -/
def RefreshPhase.rotating : RefreshPhase → Option RefreshSession
  | .checked _ rs _ => some rs
  | _ => none

/-- The condition on that `UPDATE`: the row that it marks is not rotated. -/
def RotatesUnrotated (d : ExchangeDb) (x : RefreshTx) : Prop :=
  ∀ rs ∈ x.phase.rotating, ∀ r ∈ d.auth.refreshSessions.rows, r.id = rs.id → r.rotatedAt = none

instance (d : ExchangeDb) (x : RefreshTx) : Decidable (RotatesUnrotated d x) :=
  inferInstanceAs (Decidable (∀ rs ∈ x.phase.rotating, ∀ r ∈ d.auth.refreshSessions.rows, _))

/-! ## One statement -/

theorem lookupToken_sound (r : RefreshRequest) (d : ExchangeDb) :
    (lookupToken r d).Sound d ∧ (lookupToken r d).relies = none := by
  unfold lookupToken
  split
  · exact ⟨trivial, rfl⟩
  · split
    · exact ⟨trivial, rfl⟩
    · rename_i rs hfind
      obtain ⟨hmem, hhash, -⟩ := findActive_spec hfind
      exact ⟨⟨rs, hmem, rfl, hhash⟩, rfl⟩

theorem checkUser_sound {token : String} {rs : RefreshSession} {d : ExchangeDb}
    (h : Stored d token rs) :
    (checkUser token rs d).Sound d ∧ (checkUser token rs d).relies = none := by
  unfold checkUser
  split
  · exact ⟨trivial, rfl⟩
  · split
    · exact ⟨trivial, rfl⟩
    · split
      · exact ⟨trivial, rfl⟩
      · exact ⟨h, rfl⟩

theorem commitExchange_some {cfg : AuthConfig} {r : RefreshRequest} {token : String}
    {rs : RefreshSession} {result : AuthSuccess} {d d' : ExchangeDb}
    (h : commitExchange cfg r token rs result d = some d') :
    d'.exchanges = d.exchanges ++ [⟨token, result⟩] ∧
      d'.auth.refreshSessions.rows =
        Rows.updateWhere (·.id = rs.id) (·.rotated r.now) d.auth.refreshSessions.rows ++
          [rs.successor cfg r.now r.drawn r.ipAddress] := by
  unfold commitExchange at h
  split at h
  · cases h
  · rename_i sessions hinsert
    cases h
    exact ⟨rfl, RefreshTable.insert_rows hinsert⟩

section Commit

variable {d d' : ExchangeDb} {rs : RefreshSession} {now : Int} {new : List RefreshSession}
  (hrows : d'.auth.refreshSessions.rows =
    Rows.updateWhere (·.id = rs.id) (·.rotated now) d.auth.refreshSessions.rows ++ new)

include hrows

/-- A row survives the commit with its key and its hash. -/
theorem rotation_keeps {r : RefreshSession} (hr : r ∈ d.auth.refreshSessions.rows) :
    ∃ r' ∈ d'.auth.refreshSessions.rows, r'.id = r.id ∧ r'.tokenHash = r.tokenHash ∧
      (r.rotatedAt.isSome = true → r'.rotatedAt.isSome = true) ∧
      (r.id ≠ rs.id → r' = r) ∧ (r.id = rs.id → r'.rotatedAt.isSome = true) := by
  have hmem : (if r.id = rs.id then r.rotated now else r) ∈ d'.auth.refreshSessions.rows := by
    rw [hrows]
    exact List.mem_append_left _ (Rows.mem_updateWhere.2 ⟨r, hr, by simp⟩)
  refine ⟨_, hmem, ?_⟩
  by_cases hid : r.id = rs.id
  · rw [if_pos hid]
    exact ⟨rfl, rfl, fun _ ↦ rfl, fun hne ↦ absurd hid hne, fun _ ↦ rfl⟩
  · rw [if_neg hid]
    exact ⟨rfl, rfl, fun h ↦ h, fun _ ↦ rfl, fun heq ↦ absurd heq hid⟩

/-- The commit disturbs only those who rely on the row that it marks. -/
theorem RefreshPhase.Sound.rotation {phase : RefreshPhase} (h : phase.Sound d)
    (hrelies : phase.relies ≠ some rs.id) : phase.Sound d' := by
  have hstored {token : String} {rs' : RefreshSession} (h : Stored d token rs') :
      Stored d' token rs' := by
    obtain ⟨r, hr, hid, hhash⟩ := h
    obtain ⟨r', hr', hid', hhash', -⟩ := rotation_keeps hrows hr
    exact ⟨r', hr', hid'.trans hid, hhash'.trans hhash⟩
  have hunrotated {token : String} {rs' : RefreshSession} (h : Unrotated d token rs')
      (hne : rs'.id ≠ rs.id) : Unrotated d' token rs' := by
    obtain ⟨r, hr, hid, hhash, hlive⟩ := h
    obtain ⟨r', hr', -, -, -, hsame, -⟩ := rotation_keeps hrows hr
    have heq := hsame (hid ▸ hne)
    exact ⟨r', hr', heq ▸ hid, heq ▸ hhash, heq ▸ hlive⟩
  cases phase with
  | start => trivial
  | found token rs' => exact hstored h
  | checked token rs' user => exact hstored h
  | rotated token rs' user => exact hunrotated h fun heq ↦ hrelies (congrArg some heq)
  | issued token rs' result => exact hunrotated h fun heq ↦ hrelies (congrArg some heq)
  | revoking rs' => trivial
  | failed f => trivial

theorem ExchangedOnce.exchange {token : String} {result : AuthSuccess} (h : ExchangedOnce d)
    (hsound : Unrotated d token rs) (hex : d'.exchanges = d.exchanges ++ [⟨token, result⟩]) :
    ExchangedOnce d' := by
  obtain ⟨r, hr, hid, hhash, hlive⟩ := hsound
  constructor
  · intro e he
    rw [hex] at he
    rcases List.mem_append.1 he with he | he
    · obtain ⟨q, hq, hqhash, hqrotated⟩ := h.rotated e he
      obtain ⟨q', hq', -, hqhash', hkept, -⟩ := rotation_keeps hrows hq
      exact ⟨q', hq', hqhash'.trans hqhash, hkept hqrotated⟩
    · rw [List.mem_singleton.1 he]
      obtain ⟨r', hr', -, hhash', -, -, hmarked⟩ := rotation_keeps hrows hr
      exact ⟨r', hr', hhash'.trans hhash, hmarked hid⟩
  · rw [hex, List.map_append]
    apply Rows.nodup_concat h.once
    intro hmem
    obtain ⟨e, he, heq⟩ := List.mem_map.1 hmem
    -- an earlier exchange of the token would have left its session rotated
    obtain ⟨q, hq, hqhash, hqrotated⟩ := h.rotated e he
    have hhashes : q.tokenHash = r.tokenHash :=
      (hqhash.trans (congrArg hashToken heq)).trans hhash.symm
    have hsame : q = r := Rows.key_inj d.auth.refreshSessions.uniqueHash hq hr hhashes
    rw [hsame, hlive] at hqrotated
    cases hqrotated

end Commit

def exchangeOutline (τ : Type*) : Outline τ String ExchangeDb RefreshTx where
  inv := ExchangedOnce
  sound d _ x := x.phase.Sound d
  relies x row := x.phase.relies = some row
  guard := RotatesUnrotated

theorem exchangeOutline_proves (τ : Type*) (cfg : AuthConfig) :
    (exchangeOutline τ).Proves (refreshTxStmt cfg) := by
  rintro ⟨request, phase⟩
  cases phase with
  | start =>
      intro d _ _ _ _
      obtain ⟨hsound, hrelies⟩ := lookupToken_sound request d
      exact ⟨hsound, fun row hrow ↦ absurd (hrelies.symm.trans hrow) (by simp)⟩
  | found token rs =>
      intro d _ _ h _
      obtain ⟨hsound, hrelies⟩ := checkUser_sound h
      exact ⟨hsound, fun row hrow ↦ absurd (hrelies.symm.trans hrow) (by simp)⟩
  | checked token rs user =>
      intro d _ _ h hguard
      obtain ⟨r, hr, hid, hhash⟩ := h
      refine ⟨⟨r, hr, hid, hhash, hguard rs rfl r hr hid⟩, fun row hrow ↦ .inr ?_⟩
      -- the row that the rest relies on is the one that the statement locks
      have hget : Rows.get RefreshSession.id rs.id d.auth.refreshSessions.rows = some r := by
        rw [← hid]
        exact Rows.get_of_mem d.auth.refreshSessions.uniqueId hr
      show (Rows.get RefreshSession.id rs.id d.auth.refreshSessions.rows).map (·.id) = some row
      rw [hget, ← hrow]
      exact congrArg some hid
  | rotated token rs user => exact fun d _ _ h _ ↦ ⟨h, fun _ hrow ↦ hrow⟩
  | issued token rs result =>
      intro d d' t hI h _ hwrite
      obtain ⟨hex, hrows⟩ := commitExchange_some hwrite
      exact ⟨hI.exchange hrows h hex, fun u b _ hb hrelies ↦
        RefreshPhase.Sound.rotation hrows hb (hrelies rs.id rfl)⟩
  | revoking rs => exact fun d _ _ _ _ ↦ ⟨trivial, fun _ hrow ↦ by cases hrow⟩
  | failed f =>
      rintro d d' t hI - - ⟨⟩
      exact ⟨hI, fun u b _ hb _ ↦ hb⟩

/-! ## Every interleaving -/

section Interleavings

variable {τ : Type*}

/-- Refresh requests that have not run a statement yet, and no exchange so far. -/
structure Presenting (s : System τ String ExchangeDb RefreshTx) : Prop where
  exchanges : s.data.exchanges = []
  tx : ∀ t x, s.tx t = some x → x.phase = .start

theorem Presenting.holds {s : System τ String ExchangeDb RefreshTx} (h : Presenting s) :
    (exchangeOutline τ).Holds s := by
  constructor
  · constructor
    · rw [h.exchanges]
      exact List.forall_mem_nil _
    · rw [h.exchanges]
      exact List.nodup_nil
  · intro t x hx
    show x.phase.Sound s.data
    rw [h.tx t x hx]
    trivial
  · intro t x hx row hrow
    have hnone : x.phase.relies = some row := hrow
    rw [h.tx t x hx] at hnone
    cases hnone

variable [DecidableEq τ]

/-- A rotation's `UPDATE` that a step runs finds its row unrotated. -/
def StepUnrotated (cfg : AuthConfig) (s : System τ String ExchangeDb RefreshTx)
    (label : τ × Move) : Prop :=
  ∀ x, s.tx label.1 = some x → label.2 = .advance → Enabled (refreshTxStmt cfg) s label.1 x →
    RotatesUnrotated s.data x

instance (cfg : AuthConfig) (s : System τ String ExchangeDb RefreshTx) (label : τ × Move) :
    Decidable (StepUnrotated cfg s label) :=
  inferInstanceAs (Decidable (∀ x ∈ s.tx label.1, label.2 = .advance →
    Enabled (refreshTxStmt cfg) s label.1 x → RotatesUnrotated s.data x))

/-- No token is exchanged twice, whatever tokens the requests present, in any interleaving whose
rotations find their row unrotated. -/
theorem exchangedOnce_of_unrotated (cfg : AuthConfig) {s : System τ String ExchangeDb RefreshTx}
    (hs : Presenting s) (l : List (τ × Move))
    (hl : Run.Guarded (next (refreshTxStmt cfg)) (StepUnrotated cfg) s l) :
    Run.Always (next (refreshTxStmt cfg))
      (fun s ↦ (s.data.exchanges.map (·.presented)).Nodup) s l := by
  have hrun := (exchangeOutline_proves τ cfg).run_always hs.holds hl
  exact hrun.mono fun _ h ↦ h.data.once

end Interleavings

/-! Two requests with the same cookie. -/

def oneSession : ExchangeDb where
  auth := {
    users := [{ id := "u" }]
    refreshSessions := {
      rows := [{
        id := "s", userId := "u", tokenHash := hashToken "cookie", tokenFamilyId := "f"
        issuedAt := 0, expiresAt := hourMicros }]
      uniqueId := List.nodup_singleton _
      uniqueHash := List.nodup_singleton _ } }

def cookieRequest (name : String) : RefreshRequest where
  now := 1
  refreshToken := some "cookie"
  drawn := ⟨"session-" ++ name, "token-" ++ name⟩

def twoPresenting : System Bool String ExchangeDb RefreshTx where
  data := oneSession
  holder _ := none
  tx t := some { request := cookieRequest (if t then "a" else "b") }

theorem twoPresenting_presenting : Presenting twoPresenting where
  exchanges := rfl
  tx t x hx := by
    cases Option.some.inj hx
    rfl

/-- Both look the token up, then one after the other rotates its session. -/
def doubleExchange : List (Bool × Move) :=
  [(true, .advance), (false, .advance)] ++ List.replicate 4 (true, .advance) ++
    List.replicate 4 (false, .advance)

theorem cookie_exchanged_twice :
    ¬ ∀ (cfg : AuthConfig) (s : System Bool String ExchangeDb RefreshTx) (l : List (Bool × Move)),
      Presenting s →
      Run.Always (next (refreshTxStmt cfg))
        (fun s ↦ (s.data.exchanges.map (·.presented)).Nodup) s l := by
  intro h
  have hlast := (h {} twoPresenting doubleExchange twoPresenting_presenting).final
  revert hlast
  decide +kernel

/-- The second request looks the token up after the first one has committed. -/
def oneAfterTheOther : List (Bool × Move) :=
  List.replicate 5 (true, .advance) ++ List.replicate 2 (false, .advance)

theorem cookie_exchanged_once :
    Run.Always (next (refreshTxStmt {}))
        (fun s ↦ (s.data.exchanges.map (·.presented)).Nodup) twoPresenting oneAfterTheOther ∧
      (Run.final (next (refreshTxStmt {})) twoPresenting oneAfterTheOther).data.exchanges.length
        = 1 :=
  ⟨exchangedOnce_of_unrotated {} twoPresenting_presenting oneAfterTheOther (by decide +kernel),
    by decide +kernel⟩

end RetailMedia
