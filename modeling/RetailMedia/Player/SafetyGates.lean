import RetailMedia.Player.ManifestStore

/-! The gates in front of a slot: what has to hold when content that is no fallback is played. -/

namespace RetailMedia

open JsonText (Text Value codes)

section Gates

variable (player : Player)

/-- A text as a point in time; one without a timezone is none. -/
def readTime (v : Value) : Option Int :=
  match v with
  | .str t =>
      match player.fromisoformat (replaceZulu t) with
      | some (.aware dt) => some dt.instant
      | _ => none
  | _ => none

/-- A bound that is given as a text can be read, and the time at hand respects it. -/
def Respects (bound : Value) (p : Int → Prop) : Prop :=
  ∀ t, bound = .str t → ∃ instant, readTime player bound = some instant ∧ p instant

def PlayerManifest.validFrom (m : PlayerManifest) : Value := Value.dictGet m "valid_from" .null

def PlayerManifest.validTo (m : PlayerManifest) : Value := Value.dictGet m "valid_to" .null

/-- What has to hold for content of the campaign to be on the screen. -/
structure PlaysSafely (s : Simulator) (campaignId : Value) : Prop where
  fresh : s.killSwitchStale = false
  campaign : ∀ t, campaignId = .str t → t ≠ [] →
    Dict.getD s.killSwitch.campaign t false = false
  device : s.killSwitch.device = false
  store : s.killSwitch.store = false
  global : s.killSwitch.global = false
  online : isOfflineTtlExpired s = .ok false
  window : ∃ m, s.currentManifest = some m ∧ Respects player m.validFrom (· ≤ s.now) ∧
    Respects player m.validTo (s.now ≤ ·)

/-- The safety of one step. -/
def SafeRender (s : Simulator) : PlayerOp → Prop
  | .render c => c.isFallback = false → ∀ s' r, renderSlot player s c = .ok (s', r) →
      r.played = true → PlaysSafely player s c.campaign
  | _ => True

/-- Where no gate holds the slot back, the manifest's `valid_from` is not the empty text, and its
`valid_to`, if it is a text, is a time with a timezone. -/
def BoundsReadable (s : Simulator) : PlayerOp → Prop
  | .render c => c.isFallback = false → isKillSwitchActive s c.campaign = .ok false →
      isOfflineTtlExpired s = .ok false → ∀ m, s.currentManifest = some m →
        pastValidTo player s m = .ok false → beforeValidFrom player s m = .ok false →
          m.validFrom ≠ .str [] ∧
            ∀ t, m.validTo = .str t → (readTime player m.validTo).isSome = true
  | _ => True

end Gates

section Calls

variable {player : Player} {s : Simulator}

theorem emitPop_played (s : Simulator) (m : PlayerManifest) (c : RenderCall) :
    (emitPop s m c).2.played = true := by
  unfold emitPop
  dsimp only
  split
  · rfl
  · rfl

theorem renderValid_played {m : PlayerManifest} {c : RenderCall} (hcontent : c.isFallback = false) :
    (∃ s' r, renderValid player s m c = .ok (s', r) ∧ r.played = true) ↔
      beforeValidFrom player s m = .ok false := by
  unfold renderValid
  constructor
  · intro ⟨s', r, hok, hplayed⟩
    split at hok
    · cases hok
    · cases hok
      cases hplayed
    · assumption
  · intro hfrom
    rw [hfrom, hcontent]
    exact ⟨_, _, rfl, emitPop_played s m c⟩

theorem renderManifest_played {m : PlayerManifest} {c : RenderCall}
    (hcontent : c.isFallback = false) :
    (∃ s' r, renderManifest player s m c = .ok (s', r) ∧ r.played = true) ↔
      pastValidTo player s m = .ok false ∧ beforeValidFrom player s m = .ok false := by
  rw [← renderValid_played hcontent]
  unfold renderManifest
  constructor
  · intro ⟨s', r, hok, hplayed⟩
    split at hok
    · cases hok
    · split at hok
      · cases hok
      · -- only a fallback goes on after the end of the manifest
        rw [hcontent, if_neg (by simp)] at hok
        cases hok
        cases hplayed
    · rename_i hto
      exact ⟨hto, s', r, hok, hplayed⟩
  · intro ⟨hto, hvalid⟩
    rw [hto]
    exact hvalid

/-- Content that is no fallback is played exactly if all five gates let it pass. -/
theorem renderSlot_played {c : RenderCall} (hcontent : c.isFallback = false) :
    (∃ s' r, renderSlot player s c = .ok (s', r) ∧ r.played = true) ↔
      isKillSwitchActive s c.campaign = .ok false ∧ isOfflineTtlExpired s = .ok false ∧
        ∃ m, s.currentManifest = some m ∧ pastValidTo player s m = .ok false ∧
          beforeValidFrom player s m = .ok false := by
  unfold renderSlot
  constructor
  · intro ⟨s', r, hok, hplayed⟩
    split at hok
    · cases hok
    · cases hok
      cases hplayed
    · rename_i hkill
      split at hok
      · cases hok
      · rename_i expired hoffline
        split at hok
        · cases hok
          cases hplayed
        · rename_i hpass
          have honline : expired = false := by
            rw [hcontent] at hpass
            simpa using hpass
          subst honline
          split at hok
          · cases hok
            cases hplayed
          · rename_i m hm
            exact ⟨hkill, hoffline, m, hm,
              (renderManifest_played hcontent).1 ⟨s', r, hok, hplayed⟩⟩
  · intro ⟨hkill, hoffline, m, hm, hgates⟩
    rw [hkill, hoffline, hm]
    exact (renderManifest_played hcontent).2 hgates

/-- The switch is off, on every level that applies. -/
theorem isKillSwitchActive_false {campaignId : Value}
    (h : isKillSwitchActive s campaignId = .ok false) :
    s.killSwitchStale = false ∧
      (∀ t, campaignId = .str t → t ≠ [] → Dict.getD s.killSwitch.campaign t false = false) ∧
      s.killSwitch.device = false ∧ s.killSwitch.store = false ∧ s.killSwitch.global = false := by
  unfold isKillSwitchActive at h
  by_cases hstale : s.killSwitchStale = true
  · rw [if_pos hstale] at h
    cases h
  · rw [if_neg hstale] at h
    split at h
    · cases h
    · rename_i killed hkilled
      have hall := of_decide_eq_false (Except.ok.inj h)
      simp only [not_or, Bool.not_eq_true] at hall
      obtain ⟨hcampaign, hdevice, hstore, hglobal⟩ := hall
      refine ⟨Bool.not_eq_true _ ▸ hstale, ?_, hdevice, hstore, hglobal⟩
      rintro t rfl hne
      subst hcampaign
      unfold campaignKilled at hkilled
      rw [if_pos (by simpa [Value.truthy] using hne)] at hkilled
      exact Except.ok.inj hkilled

theorem readTime_nil : readTime player (.str []) = none := by
  unfold readTime
  have hnil : replaceZulu [] = [] := rfl
  dsimp only
  rw [hnil, player.emptyText]

theorem isPast_str {t : Text} : isPast player s (.str t) =
    .ok ((readTime player (.str t)).any (· < s.now)) := by
  unfold isPast readTime
  dsimp only
  cases player.fromisoformat (replaceZulu t) with
  | none => rfl
  | some dt =>
      cases dt with
      | naive wall => rfl
      | aware dt => rfl

theorem truthy_str {t : Text} (h : t ≠ []) : (Value.str t).truthy = true := by
  simpa [Value.truthy] using h

/-- The gate of `valid_to` lets the unreadable pass. -/
theorem pastValidTo_false {m : PlayerManifest} {t : Text} (hto : m.validTo = .str t) :
    pastValidTo player s m = .ok false ↔
      ∀ instant, readTime player m.validTo = some instant → s.now ≤ instant := by
  have hunfold : pastValidTo player s m =
      if m.validTo.truthy then isPast player s m.validTo else .ok false := rfl
  rw [hunfold, hto]
  by_cases hempty : t = []
  · subst hempty
    rw [readTime_nil]
    simp [Value.truthy]
  · rw [if_pos (truthy_str hempty), isPast_str]
    cases hread : readTime player (.str t) with
    | none => simp
    | some instant => simp

/-- The gate of `valid_from` holds the unreadable back, unless it is empty. -/
theorem beforeValidFrom_false {m : PlayerManifest} {t : Text} (hfrom : m.validFrom = .str t)
    (hpass : beforeValidFrom player s m = .ok false) (hne : m.validFrom ≠ .str []) :
    ∃ instant, readTime player m.validFrom = some instant ∧ instant ≤ s.now := by
  have hunfold : beforeValidFrom player s m =
      if m.validFrom.truthy then (isPast player s m.validFrom).map (!·) else .ok false := rfl
  rw [hunfold, hfrom] at hpass
  rw [hfrom] at hne
  have hempty : t ≠ [] := fun h ↦ hne (congrArg Value.str h)
  rw [if_pos (truthy_str hempty), isPast_str] at hpass
  rw [hfrom]
  cases hread : readTime player (.str t) with
  | none =>
      rw [hread] at hpass
      cases hpass
  | some instant =>
      rw [hread] at hpass
      refine ⟨instant, rfl, ?_⟩
      have hlt : decide (instant < s.now) = true := by
        simpa [Except.map] using hpass
      exact (of_decide_eq_true hlt).le

theorem safeRender_iff (player : Player) (s : Simulator) (op : PlayerOp) :
    SafeRender player s op ↔ BoundsReadable player s op := by
  cases op with
  | render c =>
      constructor
      · intro h hcontent hkill honline m hm hto hfrom
        obtain ⟨s', r, hok, hplayed⟩ :=
          (renderSlot_played hcontent).2 ⟨hkill, honline, m, hm, hto, hfrom⟩
        obtain ⟨m', hm', hafter, hbefore⟩ := (h hcontent s' r hok hplayed).window
        cases hm.symm.trans hm'
        constructor
        · intro hempty
          obtain ⟨instant, hread, -⟩ := hafter [] hempty
          rw [hempty, readTime_nil] at hread
          cases hread
        · intro t ht
          obtain ⟨instant, hread, -⟩ := hbefore t ht
          rw [hread]
          rfl
      · intro h hcontent s' r hok hplayed
        obtain ⟨hkill, honline, m, hm, hto, hfrom⟩ :=
          (renderSlot_played hcontent).1 ⟨s', r, hok, hplayed⟩
        obtain ⟨hne, hreadable⟩ := h hcontent hkill honline m hm hto hfrom
        obtain ⟨hfresh, hcampaign, hdevice, hstore, hglobal⟩ := isKillSwitchActive_false hkill
        refine ⟨hfresh, hcampaign, hdevice, hstore, hglobal, honline, m, hm, ?_, ?_⟩
        · intro t ht
          exact beforeValidFrom_false ht hfrom hne
        · intro t ht
          obtain ⟨instant, hread⟩ := Option.isSome_iff_exists.1 (hreadable t ht)
          exact ⟨instant, hread, (pastValidTo_false ht).1 hto instant hread⟩
  | _ => exact Iff.rfl

end Calls

/-- In every run of a player, whatever its state at the start: every slot that is played is safe
exactly if each one that comes through the gates has a manifest whose bounds can be read. -/
theorem player_safe_iff (player : Player) (s : Simulator) (l : List PlayerOp) :
    Run.Guarded player.next (SafeRender player) s l ↔
      Run.Guarded player.next (BoundsReadable player) s l := by
  constructor
  · intro h
    exact h.mono fun s op ↦ (safeRender_iff player s op).1
  · intro h
    exact h.mono fun s op ↦ (safeRender_iff player s op).2

/-! A manifest whose end is no timestamp. -/

def untilSoon : PlayerManifest :=
  versionedManifest (.int 1) ++ [(codes "valid_to", .str (codes "soon"))]

theorem unreadable_end_plays : ¬ ∀ (player : Player) (l : List PlayerOp),
    Run.Guarded player.next (SafeRender player) {} l := by
  intro h
  obtain ⟨-, -, hsafe, -⟩ := h demoPlayer
    [.apply untilSoon, .setKillSwitch .global [] false, .render { uuid := [] }]
  have hplayed : (renderSlot demoPlayer (demoPlayer.next (demoPlayer.next {} (.apply untilSoon))
      (.setKillSwitch .global [] false)) { uuid := [] }).toOption.map (·.2.played) = some true := by
    decide +kernel
  have hmanifest : (demoPlayer.next (demoPlayer.next {} (.apply untilSoon))
      (.setKillSwitch .global [] false)).currentManifest = some untilSoon := by
    decide +kernel
  cases hok : renderSlot demoPlayer (demoPlayer.next (demoPlayer.next {} (.apply untilSoon))
      (.setKillSwitch .global [] false)) { uuid := [] } with
  | error e =>
      rw [hok] at hplayed
      cases hplayed
  | ok out =>
      rw [hok] at hplayed
      obtain ⟨m, hm, -, hbefore⟩ := (hsafe rfl out.1 out.2 hok (Option.some.inj hplayed)).window
      cases hmanifest.symm.trans hm
      obtain ⟨instant, hread, -⟩ := hbefore (codes "soon") (by decide +kernel)
      cases hread

end RetailMedia
