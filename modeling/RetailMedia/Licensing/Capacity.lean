import RetailMedia.Licensing.Enrollment

/-! Any interleaving of enrollments and decommissions stays within the licensed capacity. -/

namespace RetailMedia

open Interleaving

/-! ## The assertions -/

/-- The grant is still the effective one, and it has a seat left. -/
structure SeatCheck.Standing (d : LicenseDb) (c : SeatCheck) : Prop where
  grant : d.effectiveGrant = some c.grant
  free : (countOccupiedSeats d : Int) < capacityOf c.grant

def EnrollPhase.Sound (d : LicenseDb) : EnrollPhase → Prop
  | .locked grant => d.effectiveGrant = grant
  | .counted c => c.Standing d
  | .minted c _ => c.Standing d
  | .reserved c device seat => c.Standing d ∧ seat.deviceId = device.id
  | _ => True

def LicenseTx.Sound (d : LicenseDb) : LicenseTx → Prop
  | .enroll _ phase => phase.Sound d
  | .decommission _ _ => True

/-- The grant row that the rest of an enrollment relies on. -/
def EnrollPhase.relies : EnrollPhase → Option LicenseRow
  | .locked grant => grant.map fun g ↦ .grant g.id
  | .counted c => some (.grant c.grant.id)
  | .minted c _ => some (.grant c.grant.id)
  | .reserved c _ _ => some (.grant c.grant.id)
  | _ => none

def LicenseTx.relies : LicenseTx → Option LicenseRow
  | .enroll _ phase => phase.relies
  | .decommission _ _ => none

/-! ## One statement -/

/-- Neither writer touches the grants. -/
theorem effectiveGrant_congr {d d' : LicenseDb} (h : d'.licenseGrants = d.licenseGrants) :
    d'.effectiveGrant = d.effectiveGrant := by
  unfold LicenseDb.effectiveGrant
  rw [h]

theorem SeatCheck.Standing.mono {d d' : LicenseDb} {c : SeatCheck} (h : c.Standing d)
    (hgrants : d'.licenseGrants = d.licenseGrants)
    (hcount : countOccupiedSeats d' ≤ countOccupiedSeats d) : c.Standing d' := by
  have hfree := h.free
  constructor
  · rw [effectiveGrant_congr hgrants]
    exact h.grant
  · omega

/-- A write that occupies no new seat disturbs nobody. -/
theorem LicenseTx.Sound.mono {d d' : LicenseDb} {b : LicenseTx} (h : b.Sound d)
    (hgrants : d'.licenseGrants = d.licenseGrants)
    (hcount : countOccupiedSeats d' ≤ countOccupiedSeats d) : b.Sound d' := by
  cases b with
  | decommission q phase => trivial
  | enroll q phase =>
      cases phase with
      | start => trivial
      | denied decision => trivial
      | locked grant => exact (effectiveGrant_congr hgrants).trans h
      | counted c => exact SeatCheck.Standing.mono h hgrants hcount
      | minted c device => exact SeatCheck.Standing.mono h hgrants hcount
      | reserved c device seat => exact ⟨h.1.mono hgrants hcount, h.2⟩

/-- A new seat disturbs only those who rely on the same grant. -/
theorem LicenseTx.Sound.addSeat {d : LicenseDb} {c : SeatCheck} (hc : c.Standing d)
    {device : PhysicalDevice} {seat : LicenseSeat} {b : LicenseTx} (h : b.Sound d)
    (hrelies : b.relies ≠ some (.grant c.grant.id)) : b.Sound (d.addSeat device seat) := by
  -- an enrollment that stands on a count stands on the one effective grant
  have hsame {e : SeatCheck} (he : e.Standing d) :
      some (LicenseRow.grant e.grant.id) = some (.grant c.grant.id) := by
    rw [Option.some.inj (he.grant.symm.trans hc.grant)]
  cases b with
  | decommission q phase => trivial
  | enroll q phase =>
      cases phase with
      | start => trivial
      | denied decision => trivial
      | locked grant => exact (effectiveGrant_congr rfl).trans h
      | counted e => exact absurd (hsame h) hrelies
      | minted e x => exact absurd (hsame h) hrelies
      | reserved e x q => exact absurd (hsame h.1) hrelies

theorem commitSeat_some {device : PhysicalDevice} {seat : LicenseSeat} {d d' : LicenseDb}
    (h : commitSeat device seat d = some d') :
    device.id ∉ d.physicalDevices.map (·.id) ∧ d' = d.addSeat device seat := by
  unfold commitSeat at h
  split at h
  · cases h
  · rename_i hkeys
    exact ⟨fun hmem ↦ hkeys (.inl hmem), (Option.some.inj h).symm⟩

theorem commitRetirement_some {r : DecommissionRequest} {device : PhysicalDevice}
    {seat : Option LicenseSeat} {d d' : LicenseDb}
    (h : commitRetirement r device seat d = some d') :
    d'.licenseGrants = d.licenseGrants ∧ countOccupiedSeats d' ≤ countOccupiedSeats d ∧
      (d.WellKeyed → d'.WellKeyed) := by
  unfold commitRetirement at h
  split at h
  · cases h
  · cases Option.some.inj h
    have hcount := countOccupied_retire d r.deviceId seat r.now
    exact ⟨rfl, hcount, fun hkeys ↦ ⟨(hkeys.retire r.deviceId seat r.now).devices,
      (hkeys.retire r.deviceId seat r.now).seats⟩⟩

theorem checkSeats_sound {d : LicenseDb} {g : LicenseGrant} (h : d.effectiveGrant = some g)
    (state : EffectiveState) : (checkSeats g state d).Sound d := by
  unfold checkSeats
  dsimp only
  split
  · trivial
  · rename_i hfree
    exact ⟨h, not_le.1 hfree⟩

theorem checkSeats_relies {d : LicenseDb} {g : LicenseGrant} {state : EffectiveState}
    {row : LicenseRow} (h : (checkSeats g state d).relies = some row) : row = .grant g.id := by
  unfold checkSeats at h
  dsimp only at h
  split at h
  · cases h
  · exact (Option.some.inj h).symm

def licenseOutline (τ : Type*) : Outline τ LicenseRow LicenseDb LicenseTx where
  inv := LicenseDb.WellKeyed
  sound d _ a := a.Sound d
  relies a row := a.relies = some row
  guard _ _ := True

theorem licenseOutline_proves (τ : Type*) : (licenseOutline τ).Proves licenseStmt := by
  intro a
  cases a with
  | decommission r phase =>
      cases phase with
      | start => exact fun d _ _ _ _ ↦ ⟨trivial, fun row h ↦ nomatch h⟩
      | locked device => exact fun d _ _ _ _ ↦ ⟨trivial, fun row h ↦ nomatch h⟩
      | settled result =>
          rintro d d' t hI - - ⟨⟩
          exact ⟨hI, fun u b _ hb _ ↦ hb⟩
      | retiring device seat =>
          intro d d' t hI _ _ hwrite
          have ⟨hgrants, hcount, hkeys⟩ := commitRetirement_some hwrite
          exact ⟨hkeys hI, fun u b _ hb _ ↦ LicenseTx.Sound.mono hb hgrants hcount⟩
  | enroll r phase =>
      cases phase with
      | start => exact fun d _ _ _ _ ↦ ⟨rfl, fun row h ↦ .inr h⟩
      | denied decision =>
          rintro d d' t hI - - ⟨⟩
          exact ⟨hI, fun u b _ hb _ ↦ hb⟩
      | counted c => exact fun d _ _ h _ ↦ ⟨h, fun row hrow ↦ hrow⟩
      | minted c device => exact fun d _ _ h _ ↦ ⟨⟨h, rfl⟩, fun row hrow ↦ hrow⟩
      | locked grant =>
          cases hdenial : stateDenial (computeEffectiveState grant r.now) with
          | some denial =>
              simp only [licenseStmt, enrollStmt, hdenial, Stmt.map, Outline.Keeps]
              exact fun d _ _ _ _ ↦ ⟨trivial, fun row h ↦ nomatch h⟩
          | none =>
              cases grant with
              | none =>
                  simp only [licenseStmt, enrollStmt, hdenial, Stmt.map, Outline.Keeps]
                  exact fun d _ _ _ _ ↦ ⟨trivial, fun row h ↦ nomatch h⟩
              | some g =>
                  simp only [licenseStmt, enrollStmt, hdenial, Stmt.map, Outline.Keeps]
                  intro d _ _ h _
                  have hstate := checkSeats_sound h (computeEffectiveState (some g) r.now)
                  exact ⟨hstate, fun row hrow ↦ by rw [checkSeats_relies hrow]; rfl⟩
      | reserved c device seat =>
          intro d d' t hI h _ hwrite
          have ⟨hnew, hd'⟩ := commitSeat_some hwrite
          have hstanding : c.Standing d := h.1
          rw [hd']
          exact ⟨hI.addSeat hnew h.2, fun u b _ hb hrelies ↦
            LicenseTx.Sound.addSeat hstanding hb (hrelies _ rfl)⟩

/-! ## Every interleaving -/

section Interleavings

variable {τ : Type*}

/-- Enrollments and decommissions that have not run a statement yet. -/
structure Unstarted (s : System τ LicenseRow LicenseDb LicenseTx) : Prop where
  keys : s.data.WellKeyed
  tx : ∀ t a, s.tx t = some a → (∃ r, a = .enroll r .start) ∨ ∃ r, a = .decommission r .start

theorem Unstarted.holds {s : System τ LicenseRow LicenseDb LicenseTx} (h : Unstarted s) :
    (licenseOutline τ).Holds s := by
  constructor
  · exact h.keys
  · intro t a ha
    rcases h.tx t a ha with ⟨r, rfl⟩ | ⟨r, rfl⟩
    · trivial
    · trivial
  · intro t a ha row hrow
    rcases h.tx t a ha with ⟨r, rfl⟩ | ⟨r, rfl⟩
    · cases hrow
    · cases hrow

variable [DecidableEq τ]

/-- What a step means for the enrollment that takes it.  One that is allowed commits its device
and its seat within the capacity of the grant that it holds; every other step of an enrollment
leaves the tables as they are. -/
structure EnrollmentSafe (s : System τ LicenseRow LicenseDb LicenseTx) (label : τ × Move) :
    Prop where
  allowed : ∀ r c device seat d, s.tx label.1 = some (.enroll r (.reserved c device seat)) →
    label.2 = .advance → commitSeat device seat s.data = some d →
    (next licenseStmt s label).data = d ∧ (countOccupiedSeats d : Int) ≤ capacityOf c.grant ∧
      s.holder (.grant c.grant.id) = some label.1
  unchanged : ∀ r phase, s.tx label.1 = some (.enroll r phase) →
    ((∀ c device seat, phase ≠ .reserved c device seat) ∨ label.2 = .abort) →
    (next licenseStmt s label).data = s.data

theorem next_advance {s : System τ LicenseRow LicenseDb LicenseTx} {t : τ} {a : LicenseTx}
    (h : s.tx t = some a) :
    next licenseStmt s (t, .advance) = advance licenseStmt s t a := by
  simp only [next, h]

theorem next_abort_data (s : System τ LicenseRow LicenseDb LicenseTx) (t : τ) :
    (next licenseStmt s (t, .abort)).data = s.data := by
  unfold next
  cases h : s.tx t with
  | none => rfl
  | some a => rfl

/-- Until its commit an enrollment writes nothing. -/
theorem advance_data {s : System τ LicenseRow LicenseDb LicenseTx} {t : τ} {r : EnrollRequest}
    {phase : EnrollPhase} (h : ∀ c device seat, phase ≠ .reserved c device seat) :
    (advance licenseStmt s t (.enroll r phase)).data = s.data := by
  cases phase with
  | start =>
      simp only [advance, licenseStmt, enrollStmt, Stmt.map]
      cases s.data.effectiveGrant with
      | none => rfl
      | some g =>
          simp only [Option.map_some]
          split
          · rfl
          · rfl
  | locked grant =>
      cases hdenial : stateDenial (computeEffectiveState grant r.now) with
      | some denial => simp only [advance, licenseStmt, enrollStmt, hdenial, Stmt.map]; rfl
      | none =>
          cases grant with
          | none => simp only [advance, licenseStmt, enrollStmt, hdenial, Stmt.map]; rfl
          | some g => simp only [advance, licenseStmt, enrollStmt, hdenial, Stmt.map]; rfl
  | counted c => rfl
  | minted c device => rfl
  | reserved c device seat => exact absurd rfl (h c device seat)
  | denied decision => rfl

theorem enrollmentSafe_of_holds {s : System τ LicenseRow LicenseDb LicenseTx}
    (h : (licenseOutline τ).Holds s) (label : τ × Move) :
    EnrollmentSafe s label := by
  constructor
  · intro r c device seat d htx hmove hwrite
    have hstanding : c.Standing s.data := (h.tx label.1 _ htx).1
    have hfree := hstanding.free
    have ⟨_, hd⟩ := commitSeat_some hwrite
    have hcount := countOccupied_addSeat h.data device seat
    refine ⟨?_, ?_, h.held label.1 _ htx _ rfl⟩
    · have hlabel : label = (label.1, .advance) := Prod.ext rfl hmove
      rw [hlabel, next_advance htx]
      simp only [advance, licenseStmt, enrollStmt, Stmt.map, hwrite]
      rfl
    · rw [hd]
      omega
  · intro r phase htx hphase
    have hlabel : label = (label.1, label.2) := rfl
    cases hmove : label.2 with
    | abort =>
        rw [hlabel, hmove]
        exact next_abort_data s label.1
    | advance =>
        rw [hlabel, hmove, next_advance htx]
        rcases hphase with hphase | habort
        · exact advance_data hphase
        · rw [hmove] at habort
          cases habort

/-- Licensed capacity is never exceeded, however enrollments and decommissions interleave. -/
theorem enrollments_within_capacity {s : System τ LicenseRow LicenseDb LicenseTx}
    (h : Unstarted s) (l : List (τ × Move)) :
    Run.Guarded (next licenseStmt) EnrollmentSafe s l := by
  have hholds : Run.Always (next licenseStmt) (licenseOutline τ).Holds s l :=
    (licenseOutline_proves τ).run_always_unguarded (fun _ _ ↦ trivial) h.holds l
  exact hholds.guarded fun _ label hs ↦ enrollmentSafe_of_holds hs label

end Interleavings

/-! ## Two players for the last seat -/

def oneSeat : LicenseGrant where
  id := "grant-1"
  licenseId := "LIC-1"
  issuedAt := 0
  validFrom := 0
  maxDevices := 1

def playerRequest (name : String) : EnrollRequest where
  now := 10
  deviceId := "device-" ++ name
  seatId := "seat-" ++ name
  storeId := "store-1"
  deviceTypeId := "player"
  hardwareFingerprint := name

def lastSeat : System Bool LicenseRow LicenseDb LicenseTx where
  data := { licenseGrants := [oneSeat] }
  holder _ := none
  tx t := some (.enroll (playerRequest (if t then "a" else "b")) .start)

theorem lastSeat_unstarted : Unstarted lastSeat where
  keys := ⟨List.nodup_nil, fun _ h ↦ nomatch h⟩
  tx t _ h := .inl ⟨playerRequest (if t then "a" else "b"), (Option.some.inj h).symm⟩

/-- The second player asks for the lock while the first one counts. -/
def lastSeatSchedule : List (Bool × Move) :=
  [(true, .advance), (false, .advance), (true, .advance), (true, .advance), (false, .advance),
    (true, .advance), (true, .advance), (false, .advance), (false, .advance), (false, .advance)]

theorem lastSeat_taken_once :
    Run.Guarded (next licenseStmt) EnrollmentSafe lastSeat lastSeatSchedule ∧
      countOccupiedSeats (Run.final (next licenseStmt) lastSeat lastSeatSchedule).data = 1 ∧
      (Run.final (next licenseStmt) lastSeat lastSeatSchedule).tx false = none :=
  ⟨enrollments_within_capacity lastSeat_unstarted lastSeatSchedule, by decide, by decide⟩

end RetailMedia
