import RetailMedia.Licensing.Onboarding
import RetailMedia.Licensing.Capacity

/-! Onboarding is all or nothing, and a code is used once, however the requests interleave. -/

namespace RetailMedia

open Interleaving

variable {createAccessToken : String → String → String}

/-! ## The assertions -/

/-- The keys of the tables. -/
structure OnboardDb.Keyed (d : OnboardDb) : Prop where
  codes : (d.codes.map (·.code)).Nodup
  license : d.license.WellKeyed

/-- The code can be used still. -/
def OnboardDb.Unused (d : OnboardDb) (deviceCode : String) : Prop :=
  ∃ c ∈ d.codes, c.code = deviceCode ∧ c.status = .active

def OnboardDb.BoundTo (d : OnboardDb) (deviceCode deviceId : String) : Prop :=
  ∃ c ∈ d.codes, c.code = deviceCode ∧ c.status = .used ∧ c.physicalDeviceId = some deviceId

def OpenSeatOf (device : PhysicalDevice) (seat : LicenseSeat) : Prop :=
  seat.deviceId = device.id ∧ seat.releasedAt = none

def OnboardTx.Sound (d : OnboardDb) (x : OnboardTx) : Prop :=
  match x.phase with
  | .used code => code ∈ d.codes ∧ code.code = x.request.deviceCode ∧ code.status = .used
  | .claimed => d.Unused x.request.deviceCode
  | .checked => d.Unused x.request.deviceCode
  | .enrolling _ (.reserved _ device seat) =>
      d.Unused x.request.deviceCode ∧ OpenSeatOf device seat
  | .enrolling _ _ => d.Unused x.request.deviceCode
  | .bound _ _ device seat => d.Unused x.request.deviceCode ∧ OpenSeatOf device seat
  | .answered (.ok response) => d.BoundTo x.request.deviceCode response.deviceId
  | _ => True

/-- From the claim on, a request relies on the row of its code. -/
def OnboardPhase.holdsCode : OnboardPhase → Bool
  | .claimed => true
  | .checked => true
  | .enrolling _ _ => true
  | .bound _ _ _ _ => true
  | _ => false

theorem OnboardTx.Sound.unused {d : OnboardDb} {x : OnboardTx} (h : x.Sound d)
    (hcode : x.phase.holdsCode = true) : d.Unused x.request.deviceCode := by
  obtain ⟨r, phase⟩ := x
  cases phase with
  | claimed => exact h
  | checked => exact h
  | bound c code device seat => exact h.1
  | enrolling code phase =>
      cases phase with
      | reserved c device seat => exact h.1
      | start => exact h
      | locked grant => exact h
      | counted c => exact h
      | minted c device => exact h
      | denied decision => exact h
  | start => cases hcode
  | unclaimed => cases hcode
  | used code => cases hcode
  | answered response => cases hcode

/-- A write that leaves the used rows, and the row of the code if it is relied on, is no
disturbance. -/
theorem OnboardTx.Sound.mono {d d' : OnboardDb} {x : OnboardTx} (h : x.Sound d)
    (hused : ∀ c ∈ d.codes, c.status = .used → c ∈ d'.codes)
    (hcode : x.phase.holdsCode = true → d.Unused x.request.deviceCode →
      d'.Unused x.request.deviceCode) : x.Sound d' := by
  obtain ⟨r, phase⟩ := x
  cases phase with
  | used code => exact ⟨hused code h.1 h.2.2, h.2⟩
  | claimed => exact hcode rfl h
  | checked => exact hcode rfl h
  | bound c code device seat => exact ⟨hcode rfl h.1, h.2⟩
  | enrolling code phase =>
      cases phase with
      | reserved c device seat => exact ⟨hcode rfl h.1, h.2⟩
      | start => exact hcode rfl h
      | locked grant => exact hcode rfl h
      | counted c => exact hcode rfl h
      | minted c device => exact hcode rfl h
      | denied decision => exact hcode rfl h
  | answered response =>
      cases response with
      | error e => trivial
      | ok response =>
          obtain ⟨c, hc, hsame, hstatus, hbound⟩ := h
          exact ⟨c, hused c hc hstatus, hsame, hstatus, hbound⟩
  | start => trivial
  | unclaimed => trivial

/-! ## The commit -/

/-- The commit adds its rows and leaves the other tables. -/
theorem commitOnboarding_eq {r : OnboardRequest} {code : DeviceOnboardingCode}
    {device : PhysicalDevice} {seat : LicenseSeat} {d d' : OnboardDb}
    (h : commitOnboarding r code device seat d = some d') :
    device.id ∉ d.license.physicalDevices.map (·.id) ∧ d' = { d with
      codes := Rows.updateWhere (·.code = r.deviceCode) (r.bind device) d.codes
      license := d.license.addSeat device seat
      fingerprints := d.fingerprints ++ [(device.id, r.hardwareFingerprint)] } := by
  unfold commitOnboarding at h
  split at h
  · obtain ⟨license, hseat, heq⟩ := Option.map_eq_some_iff.1 h
    unfold commitSeat at hseat
    split at hseat
    · cases hseat
    · rename_i hkeys
      cases hseat
      exact ⟨fun hmem ↦ hkeys (.inl hmem), heq.symm⟩
  · cases h

/-- What the commit of a new device writes. -/
structure Onboarded (r : OnboardRequest) (device : PhysicalDevice) (seat : LicenseSeat)
    (d d' : OnboardDb) : Prop where
  codes : d'.codes = Rows.updateWhere (·.code = r.deviceCode) (r.bind device) d.codes
  license : d'.license = d.license.addSeat device seat
  new : device.id ∉ d.license.physicalDevices.map (·.id)

theorem commitOnboarding_some {r : OnboardRequest} {code : DeviceOnboardingCode}
    {device : PhysicalDevice} {seat : LicenseSeat} {d d' : OnboardDb}
    (h : commitOnboarding r code device seat d = some d') : Onboarded r device seat d d' := by
  obtain ⟨hnew, rfl⟩ := commitOnboarding_eq h
  exact ⟨rfl, rfl, hnew⟩

section Commit

variable {r : OnboardRequest} {device : PhysicalDevice} {seat : LicenseSeat} {d d' : OnboardDb}

/-- Under the index on codes, an update of one code is an update of one row. -/
theorem updateWhere_code {c : DeviceOnboardingCode} (hd : (d.codes.map (·.code)).Nodup)
    (hc : c ∈ d.codes) (f : DeviceOnboardingCode → DeviceOnboardingCode) :
    ∃ before after, d.codes = before ++ c :: after ∧
      Rows.updateWhere (·.code = c.code) f d.codes = before ++ f c :: after := by
  obtain ⟨before, after, heq⟩ := List.append_of_mem hc
  refine ⟨before, after, heq, ?_⟩
  rw [heq, List.map_append, List.map_cons] at hd
  have hother : ∀ x ∈ before ++ after, x.code ≠ c.code := by
    have hmiddle := List.nodup_middle.1 hd
    rw [List.nodup_cons, ← List.map_append] at hmiddle
    intro x hx hsame
    exact hmiddle.1 (hsame ▸ List.mem_map_of_mem hx)
  have hkeep (l : List DeviceOnboardingCode) (hl : ∀ x ∈ l, x ∈ before ++ after) :
      Rows.updateWhere (·.code = c.code) f l = l :=
    Rows.updateWhere_eq_self fun x hx ↦ decide_eq_false (hother x (hl x hx))
  have hbefore := hkeep before fun x hx ↦ List.mem_append_left _ hx
  have hafter := hkeep after fun x hx ↦ List.mem_append_right _ hx
  unfold Rows.updateWhere at hbefore hafter ⊢
  rw [heq, List.map_append, List.map_cons, hbefore, hafter, if_pos (decide_eq_true rfl)]

/-- Rows of other codes are left alone. -/
theorem Onboarded.mem (h : Onboarded r device seat d d') {c : DeviceOnboardingCode}
    (hc : c ∈ d.codes) (hne : c.code ≠ r.deviceCode) : c ∈ d'.codes := by
  rw [h.codes]
  exact Rows.mem_updateWhere.2 ⟨c, hc, if_neg (by simpa using hne)⟩

/-- A row that is not active belongs to another code than one that can be used. -/
theorem code_ne_of_unused (hd : d.Keyed) (hunused : d.Unused r.deviceCode)
    {c : DeviceOnboardingCode} (hc : c ∈ d.codes) (hstatus : c.status ≠ .active) :
    c.code ≠ r.deviceCode := by
  obtain ⟨active, hactive, hcode, hstatus'⟩ := hunused
  intro hsame
  rw [Rows.key_inj hd.codes hc hactive (hsame.trans hcode.symm)] at hstatus
  exact hstatus hstatus'

theorem Onboarded.keyed (h : Onboarded r device seat d d') (hd : d.Keyed)
    (hseat : OpenSeatOf device seat) : d'.Keyed := by
  constructor
  · rw [h.codes, Rows.map_updateWhere (f := r.bind device) (·.code) fun _ ↦ rfl]
    exact hd.codes
  · rw [h.license]
    exact hd.license.addSeat h.new hseat.1

end Commit

/-! ## The outline -/

def onboardOutline (τ : Type*) : Outline τ OnboardRow OnboardDb OnboardTx where
  inv := OnboardDb.Keyed
  sound d _ x := x.Sound d
  relies x row := x.phase.holdsCode = true ∧ row = .code x.request.deviceCode
  guard _ _ := True

/-- Whom row security lets see codes sees those of the table. -/
theorem mem_visibleCodes {d : OnboardDb} {c : DeviceOnboardingCode} (h : c ∈ d.visibleCodes) :
    c ∈ d.codes := by
  unfold OnboardDb.visibleCodes at h
  split at h
  · exact h
  · cases h

theorem diagnoseCode_sound (d : OnboardDb) (r : OnboardRequest) :
    OnboardTx.Sound d ⟨r, diagnoseCode r d⟩ ∧ (diagnoseCode r d).holdsCode = false := by
  unfold diagnoseCode
  cases hget : d.getOnboardingCode r.deviceCode with
  | none => exact ⟨trivial, rfl⟩
  | some code =>
      dsimp only
      split
      · exact ⟨trivial, rfl⟩
      · split
        · rename_i hused
          exact ⟨⟨mem_visibleCodes (Rows.get_mem hget), Rows.get_key hget, hused⟩, rfl⟩
        · split
          · exact ⟨trivial, rfl⟩
          · exact ⟨trivial, rfl⟩

theorem reonboard_sound {d : OnboardDb} {r : OnboardRequest} {code : DeviceOnboardingCode}
    (h : OnboardTx.Sound d ⟨r, .used code⟩) :
    OnboardTx.Sound d ⟨r, reonboard createAccessToken r code d⟩ ∧
      (reonboard createAccessToken r code d).holdsCode = false := by
  unfold reonboard
  split
  · split
    · exact ⟨trivial, rfl⟩
    · split
      · rename_i existing _ hbound
        exact ⟨⟨code, h.1, h.2.1, h.2.2, hbound⟩, rfl⟩
      · exact ⟨trivial, rfl⟩
    · exact ⟨trivial, rfl⟩
  · exact ⟨trivial, rfl⟩

theorem checkFingerprint_sound {d : OnboardDb} {r : OnboardRequest}
    (h : d.Unused r.deviceCode) : OnboardTx.Sound d ⟨r, checkFingerprint r d⟩ := by
  unfold checkFingerprint
  split
  · split
    · exact h
    · trivial
    · trivial
  · trivial

theorem checkSeats_sound_of_unused {d : OnboardDb} {r : OnboardRequest}
    {code : DeviceOnboardingCode} (grant : LicenseGrant) (state : EffectiveState)
    (h : d.Unused r.deviceCode) :
    OnboardTx.Sound d ⟨r, .enrolling code (checkSeats grant state d.license)⟩ := by
  unfold checkSeats
  dsimp only
  split
  · exact h
  · exact h

/-- Inside the choke point a request keeps its code, and the seat that it reserves is open. -/
theorem onboard_enrolling_keeps (τ : Type*) (r : OnboardRequest) (code : DeviceOnboardingCode)
    (phase : EnrollPhase) :
    (onboardOutline τ).Keeps ⟨r, .enrolling code phase⟩
      (onboardTxStmt createAccessToken ⟨r, .enrolling code phase⟩) := by
  cases phase with
  | start => exact fun d t _ h _ ↦ ⟨h, fun row hrow ↦ .inl hrow⟩
  | locked grant =>
      simp only [onboardTxStmt, onboardStmt, enrollStmt]
      split
      · exact fun d t _ h _ ↦ ⟨h, fun row hrow ↦ hrow⟩
      · exact fun d t _ h _ ↦ ⟨h, fun row hrow ↦ hrow⟩
      · exact fun d t _ h _ ↦ ⟨checkSeats_sound_of_unused _ _ h, fun row hrow ↦ hrow⟩
  | counted c => exact fun d t _ h _ ↦ ⟨h, fun row hrow ↦ hrow⟩
  | minted c device => exact fun d t _ h _ ↦ ⟨⟨h, rfl, rfl⟩, fun row hrow ↦ hrow⟩
  | reserved c device seat => exact fun d t _ h _ ↦ ⟨h, fun row hrow ↦ hrow⟩
  | denied decision =>
      exact fun d t _ _ _ ↦ ⟨trivial, fun row hrow ↦ Bool.noConfusion hrow.1⟩

/-- The binding of a code disturbs no request that relies on another one. -/
theorem onboard_bound_keeps (τ : Type*) (r : OnboardRequest) (c : SeatCheck)
    (code : DeviceOnboardingCode) (device : PhysicalDevice) (seat : LicenseSeat) :
    (onboardOutline τ).Keeps ⟨r, .bound c code device seat⟩
      (onboardTxStmt createAccessToken ⟨r, .bound c code device seat⟩) := by
  intro d d' t hI h _ hwrite
  have honboarded := commitOnboarding_some hwrite
  obtain ⟨hunused, hseat⟩ := h
  refine ⟨honboarded.keyed hI hseat, fun u x _ hx hrelies ↦ OnboardTx.Sound.mono hx ?_ ?_⟩
  · intro row hrow hused
    apply honboarded.mem hrow
    apply code_ne_of_unused hI hunused hrow
    rw [hused]
    decide
  · rintro hholds ⟨row, hrow, hcode, hstatus⟩
    -- both rely on their rows, so the codes differ
    have hne : x.request.deviceCode ≠ r.deviceCode := by
      intro hsame
      exact hrelies (.code r.deviceCode) ⟨rfl, rfl⟩ ⟨hholds, by rw [hsame]⟩
    exact ⟨row, honboarded.mem hrow (hcode ▸ hne), hcode, hstatus⟩

theorem onboardOutline_proves (τ : Type*) :
    (onboardOutline τ).Proves (onboardTxStmt createAccessToken) := by
  rintro ⟨r, phase⟩
  cases phase with
  | start =>
      simp only [Outline.Keeps, onboardTxStmt, onboardStmt, Stmt.map, onboardOutline,
        Function.comp_apply]
      intro d t _ _ _
      by_cases hclaims : r.claimsIn d = true
      · -- the claim holds the row of its code from here to the end of the transaction
        simp only [if_pos hclaims]
        obtain ⟨c, hc, hclaim⟩ := List.any_eq_true.1 hclaims
        have hcond : c.code = r.deviceCode ∧ c.status = .active ∧ c.expiresAt > r.claimedAt :=
          of_decide_eq_true hclaim
        exact ⟨⟨c, mem_visibleCodes hc, hcond.1, hcond.2.1⟩,
          fun row hrow ↦ .inr (by rw [hrow.2])⟩
      · simp only [if_neg hclaims]
        split
        · exact ⟨trivial, fun row hrow ↦ Bool.noConfusion hrow.1⟩
        · exact ⟨trivial, fun row hrow ↦ Bool.noConfusion hrow.1⟩
  | unclaimed =>
      intro d t _ _ _
      have hsound := diagnoseCode_sound d r
      refine ⟨hsound.1, fun row hrow ↦ ?_⟩
      exact absurd (hsound.2.symm.trans hrow.1) (by decide)
  | used code =>
      intro d t _ h _
      have hsound := @reonboard_sound createAccessToken d r code h
      refine ⟨hsound.1, fun row hrow ↦ ?_⟩
      exact absurd (hsound.2.symm.trans hrow.1) (by decide)
  | claimed => exact fun d t _ h _ ↦ ⟨checkFingerprint_sound h, fun row hrow ↦ ⟨rfl, hrow.2⟩⟩
  | checked =>
      simp only [Outline.Keeps, onboardTxStmt, onboardStmt, Stmt.map, onboardOutline,
        Function.comp_apply]
      intro d t _ h _
      cases d.getOnboardingCode r.deviceCode with
      | none => exact ⟨trivial, fun row hrow ↦ ⟨rfl, hrow.2⟩⟩
      | some code => exact ⟨h, fun row hrow ↦ ⟨rfl, hrow.2⟩⟩
  | enrolling code phase => exact onboard_enrolling_keeps τ r code phase
  | bound c code device seat => exact onboard_bound_keeps τ r c code device seat
  | answered response =>
      rintro d d' t hI - - ⟨⟩
      exact ⟨hI, fun u b _ hb _ ↦ hb⟩

/-! ## Every interleaving -/

section Interleavings

variable {τ : Type*}

abbrev OnboardSystem (τ : Type*) := System τ OnboardRow OnboardDb OnboardTx

/-- Requests that have not run a statement yet. -/
structure OnboardStart (s : OnboardSystem τ) : Prop where
  keyed : s.data.Keyed
  tx : ∀ t x, s.tx t = some x → x.phase = .start

theorem OnboardStart.holds {s : OnboardSystem τ} (h : OnboardStart s) :
    (onboardOutline τ).Holds s := by
  constructor
  · exact h.keyed
  · intro t x hx
    unfold onboardOutline OnboardTx.Sound
    dsimp only
    rw [h.tx t x hx]
    trivial
  · intro t x hx row hrow
    have hholds := hrow.1
    rw [h.tx t x hx] at hholds
    cases hholds

variable [DecidableEq τ] (createAccessToken)

/-- The answer of a request whose transaction a step ends: its own, or that of an exception. -/
def answerOf (s : OnboardSystem τ) (label : τ × Move) :
    Option (Except OnboardError OnboardResponse) :=
  match label.2, s.tx label.1 with
  | .abort, some _ => some (.error .raised)
  | .advance, _ => (commitOf (onboardTxStmt createAccessToken) s label).bind fun x ↦
      x.phase.response createAccessToken
  | _, none => none

/-- What a request for a new device has changed: the one active row of its code, a device and
its one open seat. -/
structure Creates (d d' : OnboardDb) (deviceCode deviceId : String) : Prop where
  code : ∃ before c c' after, d.codes = before ++ c :: after ∧ d'.codes = before ++ c' :: after ∧
    c.code = deviceCode ∧ c.status = .active ∧
    c'.code = deviceCode ∧ c'.status = .used ∧ c'.physicalDeviceId = some deviceId
  device : ∃ x, d'.license.physicalDevices = d.license.physicalDevices ++ [x] ∧
    x.id = deviceId ∧ deviceId ∉ d.license.physicalDevices.map (·.id)
  seat : ∃ seat, d'.license.licenseSeats = d.license.licenseSeats ++ [seat] ∧
    d'.license.licenseSeats.filter (isOpenFor deviceId) = [seat]

/-- What a step means for the tables.  One that does not end its request with success leaves them
as they are; a success has found the code bound to its device, or creates the device. -/
structure OnboardStep (s : OnboardSystem τ) (label : τ × Move) : Prop where
  pending : answerOf createAccessToken s label = none →
    (next (onboardTxStmt createAccessToken) s label).data = s.data
  failed : ∀ e, answerOf createAccessToken s label = some (.error e) →
    (next (onboardTxStmt createAccessToken) s label).data = s.data
  succeeded : ∀ response, answerOf createAccessToken s label = some (.ok response) →
    ∃ x, s.tx label.1 = some x ∧
      ((s.data.BoundTo x.request.deviceCode response.deviceId ∧
          (next (onboardTxStmt createAccessToken) s label).data = s.data) ∨
        Creates s.data (next (onboardTxStmt createAccessToken) s label).data
          x.request.deviceCode response.deviceId)

/-- The code that a transaction binds when it commits. -/
def OnboardTx.binds (x : OnboardTx) : Option String :=
  match x.phase with
  | .bound _ _ _ _ => some x.request.deviceCode
  | _ => none

/-- The codes that a run binds, in the order of the commits. -/
def boundCodes (s : OnboardSystem τ) (l : List (τ × Move)) : List String :=
  (commits (onboardTxStmt createAccessToken) s l).filterMap fun e ↦ e.2.binds

theorem onboard_commit {x : OnboardTx} {w : OnboardDb → Option OnboardDb}
    (h : onboardTxStmt createAccessToken x = .commit w) :
    (∃ c code device seat, x.phase = .bound c code device seat ∧
      w = commitOnboarding x.request code device seat) ∨
    ∃ response, x.phase = .answered response ∧ w = some := by
  obtain ⟨r, phase⟩ := x
  cases phase with
  | start => cases h
  | unclaimed => cases h
  | used code => cases h
  | claimed => cases h
  | checked => cases h
  | bound c code device seat => exact .inl ⟨c, code, device, seat, rfl, (Stmt.commit.inj h).symm⟩
  | answered response => exact .inr ⟨response, rfl, (Stmt.commit.inj h).symm⟩
  | enrolling code phase =>
      cases phase with
      | start => cases h
      | locked grant =>
          simp only [onboardTxStmt, onboardStmt, enrollStmt] at h
          split at h
          · cases h
          · cases h
          · cases h
      | counted c => cases h
      | minted c device => cases h
      | reserved c device seat => cases h
      | denied decision => cases h

variable {createAccessToken}

theorem Onboarded.creates {r : OnboardRequest} {device : PhysicalDevice} {seat : LicenseSeat}
    {d d' : OnboardDb} (h : Onboarded r device seat d d') (hd : d.Keyed)
    (hunused : d.Unused r.deviceCode) (hseat : OpenSeatOf device seat) :
    Creates d d' r.deviceCode device.id := by
  constructor
  · obtain ⟨c, hc, hcode, hstatus⟩ := hunused
    obtain ⟨before, after, hrows, hrows'⟩ := updateWhere_code hd.codes hc (r.bind device)
    rw [hcode, ← h.codes] at hrows'
    exact ⟨before, c, r.bind device c, after, hrows, hrows', hcode, hstatus, hcode, rfl, rfl⟩
  · refine ⟨device, ?_, rfl, h.new⟩
    rw [h.license]
    rfl
  · refine ⟨seat, ?_, ?_⟩
    · rw [h.license]
      rfl
    · -- a seat that was there belongs to a device that was there
      have hnone : d.license.licenseSeats.filter (isOpenFor device.id) = [] := by
        rw [List.filter_eq_nil_iff]
        intro q hq hopen
        apply h.new
        rw [← (isOpenFor_iff.1 hopen).1]
        exact hd.license.seats q hq
      rw [h.license]
      show (d.license.licenseSeats ++ [seat]).filter (isOpenFor device.id) = [seat]
      rw [List.filter_append, hnone, List.nil_append]
      exact List.filter_eq_self.2 fun q hq ↦ by
        rw [List.mem_singleton.1 hq]
        exact isOpenFor_iff.2 hseat

omit [DecidableEq τ] in
/-- Only a commit ends a request with success. -/
theorem answerOf_no_commit {s : OnboardSystem τ} {label : τ × Move}
    (hcommit : commitOf (onboardTxStmt createAccessToken) s label = none)
    (response : OnboardResponse) : answerOf createAccessToken s label ≠ some (.ok response) := by
  unfold answerOf
  intro hok
  cases hmove : label.2 with
  | advance =>
      rw [hmove, hcommit] at hok
      cases hok
  | abort =>
      rw [hmove] at hok
      cases hx : s.tx label.1 with
      | none =>
          rw [hx] at hok
          cases hok
      | some x =>
          rw [hx] at hok
          cases hok

theorem onboardStep {s : OnboardSystem τ} (h : (onboardOutline τ).Holds s) (label : τ × Move) :
    OnboardStep createAccessToken s label := by
  rcases @next_commit_or _ _ _ _ _ _ (onboardTxStmt createAccessToken) s label with
    ⟨x, w, d, hcommit, hx, hmove, hw, hd, hnext⟩ | ⟨hcommit, hdata⟩
  · have hanswer : answerOf createAccessToken s label = x.phase.response createAccessToken := by
      unfold answerOf
      rw [hmove, hcommit]
      rfl
    have hdata : (next (onboardTxStmt createAccessToken) s label).data = d := by
      rw [hnext]
      rfl
    have hsound : x.Sound s.data := h.tx label.1 x hx
    unfold OnboardTx.Sound at hsound
    rcases onboard_commit createAccessToken hw with
      ⟨c, code, device, seat, hphase, hcommits⟩ | ⟨answer, hphase, hcommits⟩
    · -- the one commit that writes: the code, the device and the seat together
      rw [hphase] at hanswer hsound
      rw [hcommits] at hd
      have hcreates := (commitOnboarding_some hd).creates h.data hsound.1 hsound.2
      constructor
      · intro hnone
        rw [hanswer] at hnone
        cases hnone
      · intro e herror
        rw [hanswer] at herror
        cases herror
      · intro response hok
        rw [hanswer] at hok
        cases hok
        rw [hdata]
        exact ⟨x, hx, .inr hcreates⟩
    · -- an answer that was known before the commit has nothing to write
      rw [hphase] at hanswer hsound
      rw [hcommits] at hd
      cases hd
      refine ⟨fun _ ↦ hdata, fun _ _ ↦ hdata, ?_⟩
      intro response hok
      rw [hanswer] at hok
      cases hok
      exact ⟨x, hx, .inl ⟨hsound, hdata⟩⟩
  · exact ⟨fun _ ↦ hdata, fun _ _ ↦ hdata, fun response hok ↦
      absurd hok (answerOf_no_commit hcommit response)⟩

theorem onboard_next_holds {s : OnboardSystem τ} (h : (onboardOutline τ).Holds s)
    (label : τ × Move) :
    (onboardOutline τ).Holds (next (onboardTxStmt createAccessToken) s label) :=
  (onboardOutline_proves τ).next h fun _ _ _ _ ↦ trivial

/-! ## Codes over a run -/

/-- A row that both tables have, or the row that the request has bound. -/
theorem Creates.mem_or {d d' : OnboardDb} {deviceCode deviceId : String}
    (h : Creates d d' deviceCode deviceId) {x : DeviceOnboardingCode} (hx : x ∈ d'.codes) :
    x ∈ d.codes ∨ (x.code = deviceCode ∧ x.status = .used) := by
  obtain ⟨before, c, c', after, hrows, hrows', -, -, hcode, hused, -⟩ := h.code
  rw [hrows'] at hx
  rw [hrows]
  simp only [List.mem_append, List.mem_cons] at hx ⊢
  rcases hx with hx | hx | hx
  · exact .inl (.inl hx)
  · exact .inr ⟨hx ▸ hcode, hx ▸ hused⟩
  · exact .inl (.inr (.inr hx))

theorem Creates.used_mem {d d' : OnboardDb} {deviceCode deviceId : String}
    (h : Creates d d' deviceCode deviceId) {x : DeviceOnboardingCode} (hx : x ∈ d.codes)
    (hused : x.status = .used) : x ∈ d'.codes := by
  obtain ⟨before, c, c', after, hrows, hrows', -, hactive, -⟩ := h.code
  rw [hrows] at hx
  rw [hrows']
  simp only [List.mem_append, List.mem_cons] at hx ⊢
  rcases hx with hx | hx | hx
  · exact .inl hx
  · rw [hx, hactive] at hused
    cases hused
  · exact .inr (.inr hx)

/-- A step leaves the tables alone, or creates a device. -/
theorem OnboardStep.data {s : OnboardSystem τ} {label : τ × Move}
    (h : OnboardStep createAccessToken s label) :
    (next (onboardTxStmt createAccessToken) s label).data = s.data ∨
      ∃ deviceCode deviceId,
        Creates s.data (next (onboardTxStmt createAccessToken) s label).data
          deviceCode deviceId := by
  cases hanswer : answerOf createAccessToken s label with
  | none => exact .inl (h.pending hanswer)
  | some answer =>
      cases answer with
      | error e => exact .inl (h.failed e hanswer)
      | ok response =>
          obtain ⟨x, -, ⟨-, hsame⟩ | hcreates⟩ := h.succeeded response hanswer
          · exact .inl hsame
          · exact .inr ⟨_, _, hcreates⟩

/-- No step makes a code good again. -/
theorem unused_of_next {s : OnboardSystem τ} {label : τ × Move}
    (h : OnboardStep createAccessToken s label) {deviceCode : String}
    (hunused : (next (onboardTxStmt createAccessToken) s label).data.Unused deviceCode) :
    s.data.Unused deviceCode := by
  rcases h.data with hsame | ⟨_, _, hcreates⟩
  · rw [hsame] at hunused
    exact hunused
  · obtain ⟨c, hc, hcode, hstatus⟩ := hunused
    rcases hcreates.mem_or hc with hc | ⟨-, hused⟩
    · exact ⟨c, hc, hcode, hstatus⟩
    · rw [hused] at hstatus
      cases hstatus

theorem used_mem_next {s : OnboardSystem τ} {label : τ × Move}
    (h : OnboardStep createAccessToken s label) {c : DeviceOnboardingCode}
    (hc : c ∈ s.data.codes) (hused : c.status = .used) :
    c ∈ (next (onboardTxStmt createAccessToken) s label).data.codes := by
  rcases h.data with hsame | ⟨_, _, hcreates⟩
  · rw [hsame]
    exact hc
  · exact hcreates.used_mem hc hused

/-- A commit that binds a code takes it from unused to used. -/
theorem commitOf_binds {s : OnboardSystem τ} {label : τ × Move}
    (h : (onboardOutline τ).Holds s) {x : OnboardTx} {deviceCode : String}
    (hcommit : commitOf (onboardTxStmt createAccessToken) s label = some x)
    (hbinds : x.binds = some deviceCode) :
    s.data.Unused deviceCode ∧
      ¬ (next (onboardTxStmt createAccessToken) s label).data.Unused deviceCode := by
  rcases @next_commit_or _ _ _ _ _ _ (onboardTxStmt createAccessToken) s label with
    ⟨x', w, d, hcommit', hx, hmove, hw, hd, hnext⟩ | ⟨hnone, -⟩
  · rw [hcommit] at hcommit'
    cases hcommit'
    have hsound : x.Sound s.data := h.tx label.1 x hx
    unfold OnboardTx.binds at hbinds
    rcases onboard_commit createAccessToken hw with
      ⟨c, code, device, seat, hphase, hcommits⟩ | ⟨answer, hphase, -⟩
    · rw [hphase] at hbinds
      cases hbinds
      have hunused := hsound.unused (by rw [hphase]; rfl)
      refine ⟨hunused, ?_⟩
      rintro ⟨row, hrow, hcode, hstatus⟩
      have hkeyed := (@onboard_next_holds createAccessToken _ _ s h label).data
      rw [hnext] at hrow hkeyed
      rw [hcommits] at hd
      have honboarded := commitOnboarding_some hd
      -- the row of the code is the one that the commit has written
      obtain ⟨old, hold, holdcode, -⟩ := hunused
      have hwritten : x.request.bind device old ∈ d.codes := by
        rw [honboarded.codes]
        exact Rows.mem_updateWhere.2 ⟨old, hold, if_pos (decide_eq_true holdcode)⟩
      have hsame := Rows.key_inj hkeyed.codes hrow hwritten (hcode.trans holdcode.symm)
      rw [hsame] at hstatus
      cases hstatus
    · rw [hphase] at hbinds
      cases hbinds
  · rw [hcommit] at hnone
    cases hnone

theorem boundCodes_cons (s : OnboardSystem τ) (label : τ × Move) (l : List (τ × Move)) :
    boundCodes createAccessToken s (label :: l) =
      ((commitOf (onboardTxStmt createAccessToken) s label).bind OnboardTx.binds).toList ++
        boundCodes createAccessToken (next (onboardTxStmt createAccessToken) s label) l := by
  unfold boundCodes
  cases hcommit : commitOf (onboardTxStmt createAccessToken) s label with
  | none =>
      rw [commits_cons_none hcommit]
      rfl
  | some x =>
      rw [commits_cons hcommit, List.filterMap_cons]
      cases hbinds : x.binds with
      | none =>
          dsimp only [Option.bind_some]
          rw [hbinds]
          rfl
      | some code =>
          dsimp only [Option.bind_some]
          rw [hbinds]
          rfl

/-- A run binds codes that could be used when it began, each of them once. -/
theorem boundCodes_nodup {s : OnboardSystem τ} (h : (onboardOutline τ).Holds s)
    (l : List (τ × Move)) :
    (∀ code ∈ boundCodes createAccessToken s l, s.data.Unused code) ∧
      (boundCodes createAccessToken s l).Nodup := by
  induction l generalizing s with
  | nil => exact ⟨nofun, List.nodup_nil⟩
  | cons label l ih =>
      -- what is bound later is unused after this step, so this step has not bound it
      have hrest := ih (@onboard_next_holds createAccessToken _ _ s h label)
      have hback : ∀ code ∈ boundCodes createAccessToken
          (next (onboardTxStmt createAccessToken) s label) l, s.data.Unused code :=
        fun code hcode ↦ unused_of_next (onboardStep h label) (hrest.1 code hcode)
      rw [boundCodes_cons]
      cases hbinds : (commitOf (onboardTxStmt createAccessToken) s label).bind
          OnboardTx.binds with
      | none => exact ⟨hback, hrest.2⟩
      | some code =>
          obtain ⟨x, hcommit, hx⟩ := Option.bind_eq_some_iff.1 hbinds
          have hcode := commitOf_binds h hcommit hx
          constructor
          · intro other hother
            rcases List.mem_cons.1 hother with hhead | htail
            · rw [hhead]
              exact hcode.1
            · exact hback other htail
          · exact List.nodup_cons.2 ⟨fun hmem ↦ hcode.2 (hrest.1 code hmem), hrest.2⟩

theorem holds_final {s : OnboardSystem τ} (h : (onboardOutline τ).Holds s)
    (l : List (τ × Move)) :
    (onboardOutline τ).Holds (Run.final (next (onboardTxStmt createAccessToken)) s l) := by
  induction l generalizing s with
  | nil => exact h
  | cons label l ih => exact ih (onboard_next_holds h label)

theorem used_mem_final {s : OnboardSystem τ} (h : (onboardOutline τ).Holds s)
    (l : List (τ × Move)) {c : DeviceOnboardingCode} (hc : c ∈ s.data.codes)
    (hused : c.status = .used) :
    c ∈ (Run.final (next (onboardTxStmt createAccessToken)) s l).data.codes := by
  induction l generalizing s with
  | nil => exact hc
  | cons label l ih =>
      exact ih (onboard_next_holds h label) (used_mem_next (onboardStep h label) hc hused)

/-- A code that is bound stays bound to the same device. -/
theorem boundTo_unique {s : OnboardSystem τ} (h : (onboardOutline τ).Holds s)
    (l : List (τ × Move)) {deviceCode a b : String} (ha : s.data.BoundTo deviceCode a)
    (hb : (Run.final (next (onboardTxStmt createAccessToken)) s l).data.BoundTo deviceCode b) :
    a = b := by
  obtain ⟨c, hc, hcode, hused, hdevice⟩ := ha
  obtain ⟨c', hc', hcode', -, hdevice'⟩ := hb
  have hkeyed := (@holds_final createAccessToken _ _ s h l).data
  have hsame := Rows.key_inj hkeyed.codes (used_mem_final h l hc hused) hc'
    (hcode.trans hcode'.symm)
  rw [hsame, hdevice'] at hdevice
  exact (Option.some.inj hdevice).symm

variable (createAccessToken)

/-- Onboarding, over every run: a request that does not succeed changes nothing, one that does
has found its device or creates it with its code and its seat, and no code is bound twice. -/
theorem deviceOnboard_atomic {s : OnboardSystem τ} (h : OnboardStart s) (l : List (τ × Move)) :
    Run.Guarded (next (onboardTxStmt createAccessToken)) (OnboardStep createAccessToken) s l ∧
      (boundCodes createAccessToken s l).Nodup ∧
      ∀ l' deviceCode a b,
        (Run.final (next (onboardTxStmt createAccessToken)) s l).data.BoundTo deviceCode a →
        (Run.final (next (onboardTxStmt createAccessToken)) s (l ++ l')).data.BoundTo
          deviceCode b →
        a = b := by
  refine ⟨?_, (boundCodes_nodup h.holds l).2, ?_⟩
  · apply Run.Always.guarded (fun _ label hs ↦ onboardStep hs label)
    exact Run.always_of_step (fun _ label hs ↦ onboard_next_holds hs label) l h.holds
  · intro l' deviceCode a b ha hb
    rw [Run.final, List.foldl_append] at hb
    exact boundTo_unique (holds_final h.holds l) l' ha hb

end Interleavings

/-! Two players come with one code; the second waits for the first. -/

def playerOnboarding (name : String) : OnboardRequest where
  deviceCode := "CODE-1"
  hardwareFingerprint := "fingerprint-" ++ name
  claimedAt := 10
  checkedAt := 11
  boundAt := 12
  deviceId := "device-" ++ name
  seatId := "seat-" ++ name

def oneCode : OnboardSystem Bool where
  data := {
    codes := [{
      id := "onboarding-code-1"
      code := "CODE-1"
      retailerId := "retailer-1"
      deviceTypeId := some "player"
      expiresAt := 100 }]
    license := { licenseGrants := [oneSeat] }
    stores := [defaultStoreId]
    deviceTypes := ["player"]
    retailers := ["retailer-1"]
    bypassesRls := true }
  holder _ := none
  tx t := some { request := playerOnboarding (if t then "a" else "b") }

theorem oneCode_start : OnboardStart oneCode where
  keyed := ⟨List.nodup_singleton _, List.nodup_nil, nofun⟩
  tx t x h := by
    cases h
    rfl

def raceForCode : List (Bool × Move) :=
  [(true, .advance), (false, .advance)] ++ List.replicate 8 (true, .advance) ++
    List.replicate 4 (false, .advance)

def demoAccessToken (subject tokenType : String) : String := tokenType ++ ":" ++ subject

theorem raceForCode_atomic :
    OnboardStart oneCode ∧
      Run.Guarded (next (onboardTxStmt demoAccessToken)) (OnboardStep demoAccessToken) oneCode
        raceForCode ∧
      boundCodes demoAccessToken oneCode raceForCode = ["CODE-1"] :=
  ⟨oneCode_start, (deviceOnboard_atomic demoAccessToken oneCode_start raceForCode).1,
    by decide +kernel⟩

end RetailMedia
