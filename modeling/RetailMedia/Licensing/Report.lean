import RetailMedia.Licensing.Peak
import RetailMedia.Licensing.Enrollment

/-! The license report, over histories of the seat ledger. -/

namespace RetailMedia

open Interleaving

/-! ## The report -/

structure LicenseReportLicense where
  effectiveState : EffectiveState
  licenseId : Option String := none
  validFrom : Option Int := none
  validUntil : Option Int := none
  graceDays : Int := 0
  capacity : Int := 0
  daysRemaining : Option Int := none
  overCapacityBy : Int := 0
  deriving DecidableEq, Repr

structure LicenseReportUsage where
  occupied : Int := 0
  free : Int := 0
  peak : Int := 0
  year : Int := 0
  month : Int := 0
  timezone : String := "UTC"
  deriving DecidableEq, Repr

structure LicenseReportSeat where
  seatId : String
  licenseId : String
  deviceId : String
  deviceCode : String
  deviceStatus : DeviceStatus
  reservedAt : Int
  storeId : Option String := none
  storeCode : Option String := none
  storeName : Option String := none
  anomalyFlags : List String := []
  deriving DecidableEq, Repr

structure LicenseReport where
  license : LicenseReportLicense
  usage : LicenseReportUsage
  seats : List LicenseReportSeat := []
  deriving DecidableEq, Repr

/-- Whole or started days to the end of the window. -/
def daysRemaining (state : EffectiveState) (grant : Option LicenseGrant) (now : Int) :
    Option Int :=
  match state with
  | .missing => none
  | .expired => some 0
  | .revoked => some 0
  | _ =>
      match grant.bind fun g ↦ g.validUntil.map fun validUntil ↦ (g, validUntil) with
      | none => none
      | some (g, validUntil) =>
          let deadline :=
            if state = .active then validUntil else validUntil + g.graceDays * dayMicros
          if deadline - now ≤ 0 then some 0
          else some ((deadline - now + dayMicros - 1) / dayMicros)

def anomalyFlags (device : PhysicalDevice) (s : LicenseSeat) (currentGrantId : Option String) :
    List String :=
  (if device.status ≠ .active then ["device_not_active"] else []) ++
    (if currentGrantId.any (s.licenseId ≠ ·) then ["seat_under_noncurrent_grant"] else [])

/-- The open seats with their device, and with its store where there is one. -/
def loadOpenSeats (d : LicenseDb) (stores : List Store) (currentGrantId : Option String) :
    List LicenseReportSeat :=
  (d.licenseSeats.filter (·.releasedAt = none)).filterMap fun s ↦
    (Rows.get PhysicalDevice.id s.deviceId d.physicalDevices).map fun device ↦
      let store := Rows.get Store.id device.storeId stores
      { seatId := s.id
        licenseId := s.licenseId
        deviceId := device.id
        deviceCode := device.code
        deviceStatus := device.status
        reservedAt := s.reservedAt
        storeId := store.map (·.id)
        storeCode := store.map (·.code)
        storeName := store.map (·.name)
        anomalyFlags := anomalyFlags device s currentGrantId }

/-- Without a grant there is no peak to ask for, and the month is not looked at. -/
def usagePeak (d : LicenseDb) (grant : Option LicenseGrant) (year month : Int) :
    Except String Int :=
  match grant with
  | none => .ok 0
  | some g => peakSeatsForMonth d g.id year month

def getLicenseReport (d : LicenseDb) (stores : List Store) (year month now : Int) :
    Except String LicenseReport := do
  let grant := d.effectiveGrant
  let state := computeEffectiveState grant now
  let occupied : Int := countOccupiedSeats d
  let capacity := (grant.map capacityOf).getD 0
  let peak ← usagePeak d grant year month
  return {
    license := {
      effectiveState := state
      licenseId := grant.map (·.licenseId)
      validFrom := grant.map (·.validFrom)
      validUntil := grant.bind (·.validUntil)
      graceDays := (grant.map (·.graceDays)).getD 0
      capacity := capacity
      daysRemaining := daysRemaining state grant now
      overCapacityBy := max (occupied - capacity) 0 }
    usage := {
      occupied := occupied
      free := freeOf capacity occupied
      peak := peak
      year := year
      month := month }
    seats := loadOpenSeats d stores (grant.map (·.id)) }

/-! ## Histories -/

/-- What happens to the ledger.  A newer grant leaves the seats as they are. -/
inductive LedgerEvent
  | enroll (r : EnrollRequest)
  | decommission (r : DecommissionRequest)
  | supersede (grant : LicenseGrant)

/-- When a seat that the event reserves is reserved. -/
def LedgerEvent.time : LedgerEvent → Option Int
  | enroll r => some r.now
  | decommission r => some r.now
  | supersede _ => none

def LicenseGrant.superseded (g : LicenseGrant) : LicenseGrant :=
  if g.status = .current then { g with status := .superseded } else g

def authorizeAndReserveEnrollment (d : LicenseDb) (r : EnrollRequest) :
    Option (LicenseDb × EnrollPhase) := alone (enrollStmt r) 6 d .start

def decommissionDevice (d : LicenseDb) (r : DecommissionRequest) :
    Option (LicenseDb × DecommissionPhase) := alone (decommissionStmt r) 3 d .start

def ledgerNext (d : LicenseDb) : LedgerEvent → LicenseDb
  | .enroll r => ((authorizeAndReserveEnrollment d r).map (·.1)).getD d
  | .decommission r => ((decommissionDevice d r).map (·.1)).getD d
  | .supersede grant =>
      { d with licenseGrants :=
          d.licenseGrants.map (·.superseded) ++ [{ grant with status := .current }] }

/-! ## Seats are not reserved in the future -/

/-- The event takes place by `now`. -/
def LedgerEvent.By (now : Int) (e : LedgerEvent) : Prop := ∀ t ∈ e.time, t ≤ now

instance (now : Int) (e : LedgerEvent) : Decidable (e.By now) :=
  inferInstanceAs (Decidable (∀ t ∈ e.time, t ≤ now))

def LicenseDb.ReservedBy (now : Int) (d : LicenseDb) : Prop :=
  ∀ s ∈ d.licenseSeats, s.reservedAt ≤ now

/-- The seat that an enrollment holds is reserved at the time of the call. -/
def EnrollPhase.Reserves (now : Int) : EnrollPhase → Prop
  | .reserved _ _ seat => seat.reservedAt = now
  | _ => True

theorem enrollment_writes {d d' : LicenseDb} {r : EnrollRequest} {phase : EnrollPhase}
    (h : authorizeAndReserveEnrollment d r = some (d', phase)) :
    d' = d ∨ ∃ device seat, d' = d.addSeat device seat ∧ seat.reservedAt = r.now := by
  have hlock : ∀ a row k, enrollStmt r a = .lock row k → a.Reserves r.now →
      (k d).Reserves r.now := by
    intro a row k ha _
    cases a with
    | start =>
        cases ha
        trivial
    | locked grant =>
        unfold enrollStmt at ha
        dsimp only at ha
        split at ha
        · cases ha
        · cases ha
        · cases ha
    | counted c => cases ha
    | minted c device => cases ha
    | reserved c device seat => cases ha
    | denied decision => cases ha
  have hrun : ∀ a k, enrollStmt r a = .run k → a.Reserves r.now → (k d).Reserves r.now := by
    intro a k ha _
    cases a with
    | start => cases ha
    | locked grant =>
        unfold enrollStmt at ha
        dsimp only at ha
        split at ha
        · cases ha
          trivial
        · cases ha
          trivial
        · cases ha
          unfold checkSeats
          dsimp only
          split
          · trivial
          · trivial
    | counted c =>
        cases ha
        trivial
    | minted c device =>
        cases ha
        rfl
    | reserved c device seat => cases ha
    | denied decision => cases ha
  have h0 : EnrollPhase.Reserves r.now .start := trivial
  obtain ⟨hreserves, write, hcommit, hwrite⟩ := alone_commit hlock hrun h0 h
  cases phase with
  | start => cases hcommit
  | locked grant =>
      unfold enrollStmt at hcommit
      dsimp only at hcommit
      split at hcommit
      · cases hcommit
      · cases hcommit
      · cases hcommit
  | counted c => cases hcommit
  | minted c device => cases hcommit
  | denied decision =>
      cases hcommit
      exact .inl (Option.some.inj hwrite).symm
  | reserved c device seat =>
      cases hcommit
      unfold commitSeat at hwrite
      split at hwrite
      · cases hwrite
      · exact .inr ⟨device, seat, (Option.some.inj hwrite).symm, hreserves⟩

theorem decommission_seats {d d' : LicenseDb} {r : DecommissionRequest} {phase : DecommissionPhase}
    (h : decommissionDevice d r = some (d', phase)) {s : LicenseSeat} (hs : s ∈ d'.licenseSeats) :
    ∃ x ∈ d.licenseSeats, s.reservedAt = x.reservedAt := by
  obtain ⟨-, write, hcommit, hwrite⟩ := alone_commit (I := fun _ ↦ True) (fun _ _ _ _ _ ↦ trivial)
    (fun _ _ _ _ ↦ trivial) trivial h
  cases phase with
  | start => cases hcommit
  | locked device => cases hcommit
  | settled result =>
      cases hcommit
      rw [← Option.some.inj hwrite] at hs
      exact ⟨s, hs, rfl⟩
  | retiring device seat =>
      cases hcommit
      unfold commitRetirement at hwrite
      split at hwrite
      · cases hwrite
      · rw [← Option.some.inj hwrite] at hs
        cases seat with
        | none => exact ⟨s, hs, rfl⟩
        | some q =>
            obtain ⟨x, hx, rfl⟩ := Rows.mem_updateWhere.1 hs
            refine ⟨x, hx, ?_⟩
            split
            · rfl
            · rfl

theorem ledgerNext_reservedBy {now : Int} {d : LicenseDb} {e : LedgerEvent} (he : e.By now)
    (h : d.ReservedBy now) : (ledgerNext d e).ReservedBy now := by
  cases e with
  | supersede grant => exact h
  | enroll r =>
      show ((((authorizeAndReserveEnrollment d r).map (·.1)).getD d).ReservedBy now)
      cases hrun : authorizeAndReserveEnrollment d r with
      | none => exact h
      | some out =>
          show out.1.ReservedBy now
          rcases enrollment_writes hrun with hsame | ⟨device, seat, hadd, hnow⟩
          · rw [hsame]
            exact h
          · rw [hadd]
            intro s hs
            rcases List.mem_append.1 hs with hs | hs
            · exact h s hs
            · rw [List.mem_singleton.1 hs, hnow]
              exact he r.now rfl
  | decommission r =>
      show (((decommissionDevice d r).map (·.1)).getD d).ReservedBy now
      cases hrun : decommissionDevice d r with
      | none => exact h
      | some out =>
          intro s hs
          obtain ⟨x, hx, hsame⟩ := decommission_seats hrun hs
          rw [hsame]
          exact h x hx

theorem history_reservedBy {now : Int} {d : LicenseDb} {l : List LedgerEvent}
    (hl : ∀ e ∈ l, e.By now) (h : d.ReservedBy now) :
    (Run.final ledgerNext d l).ReservedBy now :=
  (Run.always_of_labels (A := LedgerEvent.By now)
    (fun _ _ he hd ↦ ledgerNext_reservedBy he hd) hl h).final

/-! ## The peak and the occupied seats -/

/-- The occupied seats that are reserved under the grant. -/
def occupiedUnder (d : LicenseDb) (grantId : String) : Nat :=
  d.licenseSeats.countP fun s ↦ s.occupied d ∧ s.licenseId = grantId

theorem occupiedUnder_le_openAt {d : LicenseDb} {now : Int} (h : d.ReservedBy now)
    (grantId : String) : occupiedUnder d grantId ≤ seatsOpenAt d grantId now := by
  unfold occupiedUnder seatsOpenAt
  apply List.countP_mono_left
  intro s hs hcount
  simp only [LicenseSeat.occupied, decide_eq_true_eq] at hcount
  rw [decide_eq_true_eq]
  refine ⟨hcount.2, ?_⟩
  unfold openAt
  rw [decide_eq_true_eq]
  refine ⟨h s hs, ?_⟩
  show s.releasedAt.all _ = true
  rw [hcount.1.1]
  rfl

theorem getLicenseReport_usage {d : LicenseDb} {stores : List Store} {year month now : Int}
    {report : LicenseReport} (h : getLicenseReport d stores year month now = .ok report) :
    report.usage.occupied = countOccupiedSeats d ∧
      usagePeak d d.effectiveGrant year month = .ok report.usage.peak := by
  unfold getLicenseReport at h
  dsimp only at h
  cases hpeak : usagePeak d d.effectiveGrant year month with
  | error e =>
      rw [hpeak] at h
      cases h
  | ok peak =>
      rw [hpeak] at h
      cases h
      exact ⟨rfl, rfl⟩

/-- After any history up to now, the peak of the month that contains now counts the occupied seats
that are under the effective grant; where all occupied seats are, it counts them all. -/
theorem report_peak {d : LicenseDb} {now : Int} (h : d.ReservedBy now) {l : List LedgerEvent}
    (hl : ∀ e ∈ l, e.By now) {year month monthStart nextMonthStart : Int}
    (hmonth : monthBounds year month = .ok (monthStart, nextMonthStart)) (hstart : monthStart ≤ now)
    (hnext : now < nextMonthStart) {grant : LicenseGrant}
    (hgrant : (Run.final ledgerNext d l).effectiveGrant = some grant) {stores : List Store}
    {report : LicenseReport}
    (hreport : getLicenseReport (Run.final ledgerNext d l) stores year month now = .ok report) :
    (occupiedUnder (Run.final ledgerNext d l) grant.id : Int) ≤ report.usage.peak ∧
    ((∀ s ∈ (Run.final ledgerNext d l).licenseSeats,
        s.occupied (Run.final ledgerNext d l) = true → s.licenseId = grant.id) →
      report.usage.occupied ≤ report.usage.peak) := by
  have hnow := history_reservedBy hl h
  generalize Run.final ledgerNext d l = d' at *
  have husage := getLicenseReport_usage hreport
  rw [hgrant] at husage
  obtain ⟨peak, hpeak, hgreatest⟩ := peakSeatsForMonth_isGreatest hmonth d' grant.id
  have hsame : peak = report.usage.peak := Except.ok.inj (hpeak.symm.trans husage.2)
  have hle : (seatsOpenAt d' grant.id now : Int) ≤ report.usage.peak := by
    rw [← hsame]
    exact hgreatest.2 ⟨now, ⟨hstart, hnext⟩, rfl⟩
  have hunder := occupiedUnder_le_openAt hnow grant.id
  constructor
  · omega
  · intro hall
    have hcount : countOccupiedSeats d' = occupiedUnder d' grant.id := by
      apply List.countP_congr
      intro s hs
      rw [decide_eq_true_eq]
      exact ⟨fun hocc ↦ ⟨hocc, hall s hs hocc⟩, fun hocc ↦ hocc.1⟩
    rw [husage.1, hcount]
    omega

/-! ## A grant change -/

def augustGrant (name : String) : LicenseGrant where
  id := name
  licenseId := name
  issuedAt := 0
  validFrom := 0
  maxDevices := 10

/-- On the tenth of August 2026. -/
def augustEnrollment : EnrollRequest where
  now := 1786320000000000
  deviceId := "d"
  seatId := "p"
  storeId := "s"
  deviceTypeId := "t"
  hardwareFingerprint := "f"

/-- A device is enrolled, and then a newer grant supersedes the one that its seat is under. -/
def renewal : List LedgerEvent :=
  [.supersede (augustGrant "g1"), .enroll augustEnrollment, .supersede (augustGrant "g2")]

theorem peak_below_occupied : ¬ ∀ (l : List LedgerEvent) (now year month monthStart
    nextMonthStart : Int) (grant : LicenseGrant) (stores : List Store) (report : LicenseReport),
    (∀ e ∈ l, e.By now) → monthBounds year month = .ok (monthStart, nextMonthStart) →
    monthStart ≤ now → now < nextMonthStart →
    (Run.final ledgerNext {} l).effectiveGrant = some grant →
    getLicenseReport (Run.final ledgerNext {} l) stores year month now = .ok report →
    report.usage.occupied ≤ report.usage.peak := by
  intro h
  have hnumbers : (getLicenseReport (Run.final ledgerNext {} renewal) [] 2026 8
      1786406400000000).map (fun report ↦ (report.usage.occupied, report.usage.peak)) =
        .ok (1, 0) := by decide +kernel
  cases hreport : getLicenseReport (Run.final ledgerNext {} renewal) [] 2026 8
      1786406400000000 with
  | error e =>
      rw [hreport] at hnumbers
      cases hnumbers
  | ok report =>
      rw [hreport] at hnumbers
      have hpair := Except.ok.inj hnumbers
      have hle := h renewal 1786406400000000 2026 8 1785542400000000 1788220800000000
        { augustGrant "g2" with status := .current } [] report (by decide) (by decide) (by decide)
        (by decide) (by decide +kernel) hreport
      have hoccupied : report.usage.occupied = 1 := congrArg Prod.fst hpair
      have hpeak : report.usage.peak = 0 := congrArg Prod.snd hpair
      omega

/-- The same enrollment under a grant that stays. -/
def enrolled : List LedgerEvent := [.supersede (augustGrant "g1"), .enroll augustEnrollment]

theorem enrolled_peak :
    ∃ report, getLicenseReport (Run.final ledgerNext {} enrolled) [] 2026 8 1786406400000000 =
      .ok report ∧ report.usage.occupied = 1 ∧
    (occupiedUnder (Run.final ledgerNext {} enrolled) "g1" : Int) ≤ report.usage.peak := by
  have hnumbers : (getLicenseReport (Run.final ledgerNext {} enrolled) [] 2026 8
      1786406400000000).map (fun report ↦ report.usage.occupied) = .ok 1 := by decide +kernel
  cases hreport : getLicenseReport (Run.final ledgerNext {} enrolled) [] 2026 8
      1786406400000000 with
  | error e =>
      rw [hreport] at hnumbers
      cases hnumbers
  | ok report =>
      rw [hreport] at hnumbers
      have hempty : LicenseDb.ReservedBy 1786406400000000 {} := fun s hs ↦ by cases hs
      have hl : ∀ e ∈ enrolled, e.By 1786406400000000 := by decide
      have hmonth : monthBounds 2026 8 = .ok (1785542400000000, 1788220800000000) := by decide
      have hgrant : (Run.final ledgerNext {} enrolled).effectiveGrant =
          some { augustGrant "g1" with status := .current } := by decide +kernel
      have hpeak := report_peak hempty hl hmonth (by decide) (by decide) hgrant hreport
      exact ⟨report, rfl, Except.ok.inj hnumbers, hpeak.1⟩

end RetailMedia
