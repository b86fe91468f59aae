import RetailMedia.Player.ManifestStore

/-! The offline time that the runtime compares with the TTL, beside the time since the device went
offline. -/

namespace RetailMedia

/-- A player, and how long it is offline when it is: the time that went by since it went offline,
and what was advanced meanwhile. -/
structure ClockedPlayer where
  simulator : Simulator
  offlineFor : Option ℚ := none

def elapse (offlineFor : Option ℚ) : PlayerOp → Option ℚ
  | .setOffline offline => if offline then some (offlineFor.getD 0) else none
  | .advanceOfflineClock hours => offlineFor.map (· + hours * 3600)
  | .tick seconds _ => offlineFor.map (· + max seconds 0)
  | .reset => none
  | _ => offlineFor

def ClockedPlayer.next (player : Player) (c : ClockedPlayer) (op : PlayerOp) : ClockedPlayer where
  simulator := player.next c.simulator op
  offlineFor := elapse c.offlineFor op

/-- What counts as offline is the time offline; there is none while the device is online. -/
def Measured (c : ClockedPlayer) : Prop := c.simulator.offlineSeconds = c.offlineFor.getD 0

/-- The clock is not advanced online; offline, it is advanced by as much as has gone by since it was
advanced last; and the device comes back online before it was advanced at all. -/
def CountsOnce (c : ClockedPlayer) : PlayerOp → Prop
  | .setOffline offline => offline = false → c.simulator.offlineDuration = 0
  | .advanceOfflineClock hours =>
      (c.simulator.offlineStart = none → hours = 0) ∧
        ∀ start, c.simulator.offlineStart = some start →
          c.simulator.offlineDuration + hours * 3600 = c.simulator.monotonic - start
  | _ => True

/-- The mark is set while the device is offline. -/
def Marked (c : ClockedPlayer) : Prop :=
  c.simulator.offlineStart.isSome = c.offlineFor.isSome

/-- The fields of the offline clock are the same. -/
structure SameClock (s s' : Simulator) : Prop where
  start : s'.offlineStart = s.offlineStart
  duration : s'.offlineDuration = s.offlineDuration
  monotonic : s'.monotonic = s.monotonic

section Step

variable {player : Player} {s s' : Simulator} {clock : Option ℚ}

theorem apply_sameClock (player : Player) (s : Simulator) (m : PlayerManifest) :
    SameClock s (player.next s (.apply m)) := by
  rcases applyManifest_cases player s m with ⟨-, -, hnext⟩ | ⟨-, -, hsame⟩
  · rw [hnext]
    exact ⟨rfl, rfl, rfl⟩
  · rw [hsame]
    exact ⟨rfl, rfl, rfl⟩

theorem render_sameClock (player : Player) (s : Simulator) (call : RenderCall) :
    SameClock s (player.next s (.render call)) := by
  show SameClock s (okState s (renderSlot player s call))
  cases hr : renderSlot player s call with
  | error e => exact ⟨rfl, rfl, rfl⟩
  | ok out =>
      have hout : renderSlot player s call = .ok (out.1, out.2) := hr
      obtain ⟨ids, queue, hstate⟩ := renderSlot_state hout
      show SameClock s out.1
      rw [hstate]
      exact ⟨rfl, rfl, rfl⟩

theorem SameClock.marked (h : SameClock s s') (hmarked : Marked ⟨s, clock⟩) :
    Marked ⟨s', clock⟩ := by
  show s'.offlineStart.isSome = clock.isSome
  rw [h.start]
  exact hmarked

theorem SameClock.measured (h : SameClock s s') (hmeasured : Measured ⟨s, clock⟩) :
    Measured ⟨s', clock⟩ := by
  show s'.offlineSeconds = clock.getD 0
  have hseconds : s'.offlineSeconds = s.offlineSeconds := by
    unfold Simulator.offlineSeconds
    rw [h.start, h.duration, h.monotonic]
  rw [hseconds]
  exact hmeasured

theorem offlineSeconds_online (h : s.offlineStart = none) :
    s.offlineSeconds = s.offlineDuration := by
  unfold Simulator.offlineSeconds
  rw [h]

theorem offlineSeconds_offline {start : ℚ} (h : s.offlineStart = some start) :
    s.offlineSeconds = s.offlineDuration + (s.monotonic - start) := by
  unfold Simulator.offlineSeconds
  rw [h]

/-- A clock that is measured right shows the mark, or no mark and no duration. -/
theorem clock_cases (hmarked : Marked ⟨s, clock⟩) (h : Measured ⟨s, clock⟩) :
    (s.offlineStart = none ∧ clock = none ∧ s.offlineDuration = 0) ∨
      ∃ start, s.offlineStart = some start ∧
        clock = some (s.offlineDuration + (s.monotonic - start)) := by
  have hsome : s.offlineStart.isSome = clock.isSome := hmarked
  have hseconds : s.offlineSeconds = clock.getD 0 := h
  cases hstart : s.offlineStart with
  | none =>
      left
      rw [hstart] at hsome
      have hclock : clock = none :=
        Option.isNone_iff_eq_none.1 (Option.isSome_eq_false_iff.1 hsome.symm)
      rw [offlineSeconds_online hstart, hclock] at hseconds
      exact ⟨rfl, hclock, hseconds⟩
  | some start =>
      right
      rw [hstart] at hsome
      obtain ⟨t, ht⟩ := Option.isSome_iff_exists.1 hsome.symm
      rw [offlineSeconds_offline hstart, ht] at hseconds
      refine ⟨start, rfl, ?_⟩
      rw [hseconds, ht]
      rfl

theorem next_marked (player : Player) (c : ClockedPlayer) (op : PlayerOp) (h : Marked c) :
    Marked (c.next player op) := by
  cases op with
  | apply m => exact (apply_sameClock player c.simulator m).marked h
  | render call => exact (render_sameClock player c.simulator call).marked h
  | setOffline offline =>
      show (setOffline c.simulator offline).offlineStart.isSome = _
      cases offline with
      | false => rfl
      | true =>
          cases hstart : c.simulator.offlineStart with
          | none =>
              unfold setOffline
              rw [hstart]
              rfl
          | some start =>
              unfold setOffline
              rw [hstart]
              show c.simulator.offlineStart.isSome = _
              rw [hstart]
              rfl
  | advanceOfflineClock hours =>
      show (c.simulator.offlineStart.map _).isSome = (c.offlineFor.map _).isSome
      rw [Option.isSome_map, Option.isSome_map]
      exact h
  | tick seconds now =>
      show c.simulator.offlineStart.isSome = (c.offlineFor.map _).isSome
      rw [Option.isSome_map]
      exact h
  | reset => rfl
  | _ => exact h

/-- Going offline starts the count, if it has not started; coming back leaves the duration. -/
theorem setOffline_measured (offline : Bool) (hmarked : Marked ⟨s, clock⟩)
    (h : Measured ⟨s, clock⟩) :
    Measured ⟨setOffline s offline, elapse clock (.setOffline offline)⟩ ↔
      (offline = false → s.offlineDuration = 0) := by
  cases offline with
  | false =>
      -- the mark goes, the duration stays
      have honline : (setOffline s false).offlineSeconds = s.offlineDuration := rfl
      show (setOffline s false).offlineSeconds = 0 ↔ _
      rw [honline]
      exact ⟨fun hzero _ ↦ hzero, fun hguard ↦ hguard rfl⟩
  | true =>
      apply iff_of_true _ (fun hfalse ↦ by cases hfalse)
      rcases clock_cases hmarked h with ⟨hstart, hclock, hduration⟩ | ⟨start, hstart, hclock⟩
      · have hgone : (setOffline s true).offlineSeconds =
            s.offlineDuration + (s.monotonic - s.monotonic) := by
          unfold setOffline
          rw [hstart]
          rfl
        show (setOffline s true).offlineSeconds = clock.getD 0
        rw [hgone, hduration, hclock, sub_self, add_zero]
        rfl
      · have hsame : setOffline s true = s := by
          unfold setOffline
          rw [hstart]
        show (setOffline s true).offlineSeconds = clock.getD 0
        rw [hsame]
        exact h

/-- Advancing sets the mark back by the whole duration, which then counts twice. -/
theorem advance_measured (hours : ℚ) (hmarked : Marked ⟨s, clock⟩) (h : Measured ⟨s, clock⟩) :
    Measured ⟨advanceOfflineClock s hours, elapse clock (.advanceOfflineClock hours)⟩ ↔
      (s.offlineStart = none → hours = 0) ∧ ∀ start, s.offlineStart = some start →
        s.offlineDuration + hours * 3600 = s.monotonic - start := by
  rcases clock_cases hmarked h with ⟨hstart, hclock, hduration⟩ | ⟨start, hstart, hclock⟩
  · -- online, what is advanced counts although no time offline goes by
    have honline : (advanceOfflineClock s hours).offlineSeconds = hours * 3600 := by
      unfold Simulator.offlineSeconds advanceOfflineClock
      rw [hstart, hduration]
      exact zero_add _
    have hzero : Measured ⟨advanceOfflineClock s hours,
        elapse clock (.advanceOfflineClock hours)⟩ ↔ hours * 3600 = 0 := by
      rw [hclock, ← honline]
      rfl
    rw [hzero, hstart]
    constructor
    · intro hproduct
      refine ⟨fun _ ↦ by linarith, ?_⟩
      intro start hsome
      cases hsome
    · intro hguard
      rw [hguard.1 rfl, zero_mul]
  · -- the new mark is the duration ago, so that the time since then is the duration again
    have hoffline : (advanceOfflineClock s hours).offlineSeconds =
        2 * (s.offlineDuration + hours * 3600) := by
      unfold Simulator.offlineSeconds advanceOfflineClock
      rw [hstart]
      show s.offlineDuration + hours * 3600 +
        (s.monotonic - (s.monotonic - (s.offlineDuration + hours * 3600))) = _
      ring
    have hcount : Measured ⟨advanceOfflineClock s hours,
        elapse clock (.advanceOfflineClock hours)⟩ ↔
          2 * (s.offlineDuration + hours * 3600) =
            s.offlineDuration + (s.monotonic - start) + hours * 3600 := by
      rw [hclock, ← hoffline]
      rfl
    rw [hcount]
    constructor
    · intro hdouble
      refine ⟨fun hnone ↦ absurd (hstart.symm.trans hnone) (Option.some_ne_none start), ?_⟩
      intro mark hmark
      rw [hstart] at hmark
      cases hmark
      linarith
    · intro hguard
      have hgone := hguard.2 start hstart
      linarith

theorem tick_measured (player : Player) (seconds : ℚ) (now : Int) (hmarked : Marked ⟨s, clock⟩)
    (h : Measured ⟨s, clock⟩) :
    Measured ⟨player.next s (.tick seconds now), elapse clock (.tick seconds now)⟩ := by
  rcases clock_cases hmarked h with ⟨hstart, hclock, hduration⟩ | ⟨start, hstart, hclock⟩
  · have honline : (player.next s (.tick seconds now)).offlineSeconds = s.offlineDuration :=
      offlineSeconds_online hstart
    rw [hclock]
    exact honline.trans hduration
  · have hoffline : (player.next s (.tick seconds now)).offlineSeconds =
        s.offlineDuration + (s.monotonic + max seconds 0 - start) :=
      offlineSeconds_offline hstart
    rw [hclock]
    show (player.next s (.tick seconds now)).offlineSeconds =
      s.offlineDuration + (s.monotonic - start) + max seconds 0
    rw [hoffline]
    ring

theorem next_measured (player : Player) (c : ClockedPlayer) (op : PlayerOp) (hmarked : Marked c)
    (h : Measured c) : Measured (c.next player op) ↔ CountsOnce c op := by
  cases op with
  | apply m =>
      exact iff_of_true ((apply_sameClock player c.simulator m).measured h) trivial
  | render call =>
      exact iff_of_true ((render_sameClock player c.simulator call).measured h) trivial
  | setOffline offline => exact setOffline_measured offline hmarked h
  | advanceOfflineClock hours => exact advance_measured hours hmarked h
  | tick seconds now => exact iff_of_true (tick_measured player seconds now hmarked h) trivial
  | reset => exact iff_of_true rfl trivial
  | rollback => exact iff_of_true h trivial
  | setKillSwitch level targetId active => exact iff_of_true h trivial
  | clearKillSwitchCache => exact iff_of_true h trivial
  | refreshKillSwitch => exact iff_of_true h trivial
  | popEvents => exact iff_of_true h trivial

end Step

/-- In every run of a player that starts at any time: the offline time is measured right in every
state exactly if every step counts it once. -/
theorem measured_iff (player : Player) (monotonic : ℚ) (l : List PlayerOp) :
    Run.Always (ClockedPlayer.next player) Measured { simulator := { monotonic := monotonic } } l ↔
      Run.Guarded (ClockedPlayer.next player) CountsOnce
        { simulator := { monotonic := monotonic } } l := by
  have hinv : ∀ (c : ClockedPlayer) (op : PlayerOp), True → Marked c →
      Marked (c.next player op) := by
    intro c op _ h
    exact next_marked player c op h
  have hstep : ∀ (c : ClockedPlayer) (op : PlayerOp), True → Marked c → Measured c →
      (Measured (c.next player op) ↔ CountsOnce c op) := by
    intro c op _ hmarked h
    exact next_measured player c op hmarked h
  exact Run.always_iff_guarded hinv hstep (fun _ _ ↦ trivial) rfl rfl

/-! An hour that is advanced as soon as the device is offline. -/

theorem advanced_hour_twice : ¬ ∀ (player : Player) (monotonic : ℚ) (l : List PlayerOp),
    Run.Always (ClockedPlayer.next player) Measured
      { simulator := { monotonic := monotonic } } l := by
  intro h
  -- the guard of the second step asks for an hour between the mark and now
  obtain ⟨-, hoffline, hadvanced⟩ := h demoPlayer 0 [.setOffline true, .advanceOfflineClock 1]
  have hmarked := next_marked demoPlayer { simulator := { monotonic := 0 } } (.setOffline true) rfl
  have hcount := (next_measured demoPlayer _ (.advanceOfflineClock 1) hmarked hoffline).1 hadvanced
  have hgone : (0 : ℚ) + 1 * 3600 = 0 - 0 := hcount.2 0 rfl
  norm_num at hgone

end RetailMedia
