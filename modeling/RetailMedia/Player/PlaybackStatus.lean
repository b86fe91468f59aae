import RetailMedia.Player.SafetyGates

/-! The status of a player, `playback_active`, beside what it renders. -/

namespace RetailMedia

open JsonText (Text Value codes)

section Status

variable (player : Player)

def playbackActive (s : Simulator) : Except PlayerError Bool :=
  match s.currentManifest with
  | none => .ok false
  | some m =>
      match isKillSwitchActive s (.str []) with
      | .error e => .error e
      | .ok true => .ok false
      | .ok false =>
          match isOfflineTtlExpired s with
          | .error e => .error e
          | .ok true => .ok false
          | .ok false => (pastValidTo player s m).map (!·)

/-- A slot of content, of a campaign that is not switched off on its own. -/
def OfCampaign (s : Simulator) (c : RenderCall) : Prop :=
  c.isFallback = false ∧ campaignKilled s c.campaign = .ok false

/-- The status is active exactly when such a slot is played. -/
def StatusAgrees (s : Simulator) : Prop :=
  ∀ c, OfCampaign s c →
    (playbackActive player s = .ok true ↔
      ∃ s' r, renderSlot player s c = .ok (s', r) ∧ r.played = true)

/-- Where nothing else holds content back, `valid_from` is missing, empty or in the past. -/
def StartPassed (s : Simulator) : Prop :=
  ∀ m, s.currentManifest = some m → isKillSwitchActive s (.str []) = .ok false →
    isOfflineTtlExpired s = .ok false → pastValidTo player s m = .ok false →
      m.validFrom.truthy = false ∨
        ∃ instant, readTime player m.validFrom = some instant ∧ instant < s.now

end Status

section State

variable {player : Player} {s : Simulator} {m : PlayerManifest}

/-- The gate of `valid_from` opens for what is missing, empty or past. -/
theorem beforeValidFrom_open : beforeValidFrom player s m = .ok false ↔
    m.validFrom.truthy = false ∨
      ∃ instant, readTime player m.validFrom = some instant ∧ instant < s.now := by
  have hunfold : beforeValidFrom player s m =
      if m.validFrom.truthy then (isPast player s m.validFrom).map (!·) else .ok false := rfl
  rw [hunfold]
  by_cases htruthy : m.validFrom.truthy = true
  · have hpast : ∀ v, (isPast player s v).map (!·) = .ok false ↔
        ∃ instant, readTime player v = some instant ∧ instant < s.now := by
      intro v
      cases v with
      | str t =>
          rw [isPast_str]
          cases readTime player (.str t) with
          | none => simp [Except.map]
          | some instant => simp [Except.map]
      | _ => simp [isPast, readTime, Except.map]
    rw [if_pos htruthy, hpast, htruthy]
    simp
  · rw [if_neg htruthy]
    exact iff_of_true rfl (.inl (Bool.not_eq_true _ ▸ htruthy))

theorem map_not_iff (past : Except PlayerError Bool) :
    past.map (!·) = .ok true ↔ past = .ok false := by
  cases past with
  | error e => simp [Except.map]
  | ok b => simp [Except.map]

theorem playbackActive_iff : playbackActive player s = .ok true ↔
    ∃ m, s.currentManifest = some m ∧ isKillSwitchActive s (.str []) = .ok false ∧
      isOfflineTtlExpired s = .ok false ∧ pastValidTo player s m = .ok false := by
  unfold playbackActive
  constructor
  · intro h
    split at h
    · cases h
    · rename_i m hm
      split at h
      · cases h
      · cases h
      · rename_i hkill
        split at h
        · cases h
        · cases h
        · rename_i honline
          exact ⟨m, hm, hkill, honline, (map_not_iff _).1 h⟩
  · intro h
    obtain ⟨m, hm, hkill, honline, hto⟩ := h
    rw [hm, hkill, honline]
    exact (map_not_iff _).2 hto

/-- Without a switch of its own, a campaign is held back by the others only. -/
theorem killSwitch_ofCampaign {campaignId : Value} (h : campaignKilled s campaignId = .ok false) :
    isKillSwitchActive s campaignId = isKillSwitchActive s (.str []) := by
  have hnone : campaignKilled s (.str []) = .ok false := rfl
  unfold isKillSwitchActive
  rw [h, hnone]

theorem statusAgrees_iff : StatusAgrees player s ↔ StartPassed player s := by
  constructor
  · intro h m hm hkill honline hto
    have hactive : playbackActive player s = .ok true :=
      playbackActive_iff.2 ⟨m, hm, hkill, honline, hto⟩
    -- a slot of no campaign has no switch of its own
    have hplayed := (h { uuid := [] } ⟨rfl, rfl⟩).1 hactive
    obtain ⟨-, -, m', hm', -, hfrom⟩ := (renderSlot_played rfl).1 hplayed
    cases hm.symm.trans hm'
    exact beforeValidFrom_open.1 hfrom
  · intro h c hc
    obtain ⟨hcontent, hcampaign⟩ := hc
    rw [playbackActive_iff, renderSlot_played hcontent, killSwitch_ofCampaign hcampaign]
    constructor
    · intro hactive
      obtain ⟨m, hm, hkill, honline, hto⟩ := hactive
      exact ⟨hkill, honline, m, hm, hto, beforeValidFrom_open.2 (h m hm hkill honline hto)⟩
    · intro hplayed
      obtain ⟨hkill, honline, m, hm, hto, -⟩ := hplayed
      exact ⟨m, hm, hkill, honline, hto⟩

end State

/-- In every run of a player, whatever its state at the start: the status agrees with what is played
in every state exactly if in none the manifest is held back by its `valid_from` alone. -/
theorem status_agrees_iff (player : Player) (s : Simulator) (l : List PlayerOp) :
    Run.Always player.next (StatusAgrees player) s l ↔
      Run.Always player.next (StartPassed player) s l := by
  constructor
  · intro h
    exact h.mono fun s ↦ statusAgrees_iff.1
  · intro h
    exact h.mono fun s ↦ statusAgrees_iff.2

/-! A manifest that is valid from 2099 on. -/

def newYear2099 : Text := codes "2099-01-01T00:00:00+00:00"

def calendarPlayer : Player :=
  { demoPlayer with
    fromisoformat := fun t ↦
      if t = newYear2099 then some (.aware (DateTime.utc 4070908800000000)) else none
    emptyText := if_neg (by decide) }

def from2099 : PlayerManifest :=
  versionedManifest (.int 1) ++ [(codes "valid_from", .str newYear2099)]

theorem early_manifest_active : ¬ ∀ (player : Player) (l : List PlayerOp),
    Run.Always player.next (StatusAgrees player) {} l := by
  intro h
  have hlast := (h calendarPlayer [.apply from2099, .setKillSwitch .global [] false]).final
  have hstart := statusAgrees_iff.1 hlast
  have hmanifest : (Run.final calendarPlayer.next {}
      [.apply from2099, .setKillSwitch .global [] false]).currentManifest = some from2099 := by
    decide +kernel
  rcases hstart from2099 hmanifest (by decide +kernel) (by decide +kernel) (by decide +kernel) with
    hmissing | ⟨instant, hread, hpast⟩
  · exact absurd hmissing (by decide +kernel)
  · have h2099 : readTime calendarPlayer from2099.validFrom = some 4070908800000000 := by
      decide +kernel
    rw [h2099] at hread
    cases hread
    exact absurd hpast (by decide +kernel)

end RetailMedia
