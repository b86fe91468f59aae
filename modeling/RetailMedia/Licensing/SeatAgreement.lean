import RetailMedia.Licensing.Capacity
import RetailMedia.Licensing.Fleet

/-! When open seats and active devices agree, however enrollments, decommissions and the pass over
the fleet interleave. -/

namespace RetailMedia

open Interleaving

/-! ## The assertions -/

def LicenseDb.deviceIds (d : LicenseDb) : List String := d.physicalDevices.map (·.id)

/-- The seat that a decommission has found is the device's only open one. -/
def FoundOpenSeat (d : LicenseDb) (deviceId : String) (seat : Option LicenseSeat) : Prop :=
  ∀ s ∈ d.licenseSeats, s.deviceId = deviceId → s.releasedAt = none →
    ∃ q, seat = some q ∧ q.id = s.id

def FleetTx.Sound (d : LicenseDb) : FleetTx → Prop
  | .enroll _ (.minted _ device) => device.status = .active
  | .enroll _ (.reserved _ device seat) => device.status = .active ∧ seat.deviceId = device.id
  | .decommission r (.locked _) => r.deviceId ∈ d.deviceIds
  | .decommission r (.retiring _ seat) =>
      r.deviceId ∈ d.deviceIds ∧ FoundOpenSeat d r.deviceId seat
  | _ => True

/-- The device rows that the rest of a transaction relies on. -/
def FleetTx.relies : FleetTx → LicenseRow → Prop
  | .decommission r (.locked _), row => row = .device r.deviceId
  | .decommission r (.retiring _ _), row => row = .device r.deviceId
  | .reconcile _ (.inserting _ _ done), row => ∃ deviceId ∈ done, row = .device deviceId
  | .reconcile _ (.seated _ done _), row => ∃ deviceId ∈ done, row = .device deviceId
  | _, _ => False

/-- The device that a transaction is about to make inactive. -/
def FleetTx.retires : FleetTx → Option String
  | .decommission r (.retiring _ _) => some r.deviceId
  | _ => none

theorem FleetTx.relies_of_retires {b : FleetTx} {deviceId : String}
    (h : b.retires = some deviceId) : b.relies (.device deviceId) := by
  cases b with
  | enroll r phase => cases h
  | reconcile r phase => cases h
  | decommission r phase =>
      cases phase with
      | retiring device seat =>
          cases h
          rfl
      | start => cases h
      | locked device => cases h
      | settled result => cases h

theorem FleetTx.Sound.retires_mem {d : LicenseDb} {b : FleetTx} (h : b.Sound d)
    {deviceId : String} (hb : b.retires = some deviceId) : deviceId ∈ d.deviceIds := by
  cases b with
  | enroll r phase => cases hb
  | reconcile r phase => cases hb
  | decommission r phase =>
      cases phase with
      | retiring device seat =>
          cases hb
          exact h.1
      | start => cases hb
      | locked device => cases hb
      | settled result => cases hb

/-- A write that opens no seat of the device that `b` retires leaves its assertion standing. -/
theorem FleetTx.Sound.mono {d d' : LicenseDb} {b : FleetTx} (h : b.Sound d)
    (hids : ∀ id ∈ d.deviceIds, id ∈ d'.deviceIds)
    (hopen : ∀ s ∈ d'.licenseSeats, s.releasedAt = none → b.retires = some s.deviceId →
      s ∈ d.licenseSeats) : b.Sound d' := by
  cases b with
  | reconcile r phase => trivial
  | enroll r phase =>
      cases phase with
      | minted c device => exact h
      | reserved c device seat => exact h
      | start => trivial
      | locked grant => trivial
      | counted c => trivial
      | denied decision => trivial
  | decommission r phase =>
      cases phase with
      | locked device => exact hids _ h
      | retiring device seat =>
          refine ⟨hids _ h.1, fun s hs hdevice hsopen ↦ ?_⟩
          exact h.2 s (hopen s hs hsopen (by rw [hdevice]; rfl)) hdevice hsopen
      | start => trivial
      | settled result => trivial

/-! ## Enrollment -/

/-- What the constraints have checked of an enrolled device and its seat. -/
structure Enrolled (d d' : LicenseDb) (device : PhysicalDevice) (seat : LicenseSeat) : Prop where
  eq : d' = d.addSeat device seat
  new : device.id ∉ d.deviceIds
  closed : ∀ s ∈ d.licenseSeats, s.deviceId = seat.deviceId → s.releasedAt ≠ none

theorem commitSeat_enrolled {d d' : LicenseDb} {device : PhysicalDevice} {seat : LicenseSeat}
    (h : commitSeat device seat d = some d') : Enrolled d d' device seat := by
  unfold commitSeat at h
  split at h
  · cases h
  · rename_i hkeys
    refine ⟨(Option.some.inj h).symm, fun hmem ↦ hkeys (.inl hmem), fun s hs heq hopen ↦ ?_⟩
    exact hkeys (.inr (.inr (List.any_eq_true.2 ⟨s, hs, decide_eq_true ⟨heq, hopen⟩⟩)))

theorem Enrolled.consistent {d d' : LicenseDb} {device : PhysicalDevice} {seat : LicenseSeat}
    (h : Enrolled d d' device seat) (hseat : seat.deviceId = device.id) (hd : d.Consistent) :
    d'.Consistent := by
  rw [h.eq]
  refine ⟨hd.keyed.addSeat h.new hseat, fun s hs q hq hsopen hqopen hsame ↦ ?_⟩
  rcases List.mem_append.1 hs with hs | hs
  · rcases List.mem_append.1 hq with hq | hq
    · exact hd.oneOpen s hs q hq hsopen hqopen hsame
    · rw [List.mem_singleton.1 hq] at hsame
      exact absurd hsopen (h.closed s hs hsame)
  · rcases List.mem_append.1 hq with hq | hq
    · rw [List.mem_singleton.1 hs] at hsame
      exact absurd hqopen (h.closed q hq hsame.symm)
    · rw [List.mem_singleton.1 hs, List.mem_singleton.1 hq]

/-- The new device is active, and nothing changes for the others. -/
theorem Enrolled.openSeatsActive {d d' : LicenseDb} {device : PhysicalDevice} {seat : LicenseSeat}
    (h : Enrolled d d' device seat) (hseat : seat.deviceId = device.id)
    (hactive : device.status = .active) (hd : d.WellKeyed) (hopen : d.OpenSeatsActive) :
    d'.OpenSeatsActive := by
  rw [h.eq]
  intro s hs hsopen
  rcases List.mem_append.1 hs with hs | hs
  · have hsame : s.occupied (d.addSeat device seat) = s.occupied d := occupied_addSeat hd hs
    have hold : s.occupied d = true := decide_eq_true ⟨hsopen, hopen s hs hsopen⟩
    rw [hold] at hsame
    exact (of_decide_eq_true hsame).2
  · rw [List.mem_singleton.1 hs, hseat]
    have hnone : Rows.get PhysicalDevice.id device.id d.physicalDevices = none :=
      Rows.get_eq_none.2 fun x hx heq ↦ h.new (heq ▸ List.mem_map_of_mem hx)
    unfold LicenseDb.deviceActive LicenseDb.addSeat
    rw [Rows.get_append, hnone]
    simp [Rows.get, hactive]

/-! ## Decommissioning -/

/-- A decommission switches its device off and closes the seat that it has found. -/
structure Retired (r : DecommissionRequest) (seat : Option LicenseSeat) (d d' : LicenseDb) :
    Prop where
  devices : d'.physicalDevices = (d.retire r.deviceId seat r.now).physicalDevices
  seats : d'.licenseSeats = (d.retire r.deviceId seat r.now).licenseSeats

theorem commitRetirement_retired {r : DecommissionRequest} {device : PhysicalDevice}
    {seat : Option LicenseSeat} {d d' : LicenseDb}
    (h : commitRetirement r device seat d = some d') : Retired r seat d d' := by
  unfold commitRetirement at h
  split at h
  · cases h
  · cases h
    exact ⟨rfl, rfl⟩

/-- A seat that is open afterwards was there before, and is not the one that was found. -/
theorem retire_open {d : LicenseDb} {deviceId : String} {seat : Option LicenseSeat} {now : Int}
    {s : LicenseSeat} (hs : s ∈ (d.retire deviceId seat now).licenseSeats)
    (hopen : s.releasedAt = none) : s ∈ d.licenseSeats ∧ ∀ q, seat = some q → s.id ≠ q.id := by
  cases seat with
  | none => exact ⟨hs, nofun⟩
  | some q =>
      obtain ⟨x, hx, rfl⟩ := Rows.mem_updateWhere.1 hs
      by_cases hid : x.id = q.id
      · rw [if_pos (decide_eq_true hid)] at hopen
        cases hopen
      · rw [if_neg (by simpa using hid)]
        exact ⟨hx, fun q' hq' ↦ by cases hq'; exact hid⟩

theorem deviceActive_retire_of_ne {d : LicenseDb} {deviceId id : String}
    {seat : Option LicenseSeat} {now : Int} (h : id ≠ deviceId) :
    (d.retire deviceId seat now).deviceActive id = d.deviceActive id := by
  have hget : Rows.get PhysicalDevice.id id (d.retire deviceId seat now).physicalDevices =
      (Rows.get PhysicalDevice.id id d.physicalDevices).map fun x ↦
        if decide (x.id = deviceId) = true then x.retired else x :=
    Rows.get_updateWhere (f := (·.retired)) (fun _ ↦ rfl) d.physicalDevices
  unfold LicenseDb.deviceActive
  rw [hget]
  cases hold : Rows.get PhysicalDevice.id id d.physicalDevices with
  | none => rfl
  | some x =>
      have hid : x.id ≠ deviceId := Rows.get_key hold ▸ h
      rw [Option.map_some, if_neg (by simpa using hid)]

section Retirement

variable {r : DecommissionRequest} {seat : Option LicenseSeat} {d d' : LicenseDb}
  (h : Retired r seat d d')

include h

theorem Retired.deviceIds : d'.deviceIds = d.deviceIds := by
  unfold LicenseDb.deviceIds
  rw [h.devices]
  exact retire_ids d r.deviceId seat r.now

theorem Retired.open_mem {s : LicenseSeat} (hs : s ∈ d'.licenseSeats)
    (hopen : s.releasedAt = none) : s ∈ d.licenseSeats := by
  rw [h.seats] at hs
  exact (retire_open hs hopen).1

theorem Retired.consistent (hd : d.Consistent) : d'.Consistent := by
  have hkeyed := hd.keyed.retire r.deviceId seat r.now
  refine ⟨⟨?_, ?_⟩, fun s hs q hq hsopen hqopen hsame ↦ ?_⟩
  · rw [h.devices]
    exact hkeyed.devices
  · rw [h.devices, h.seats]
    exact hkeyed.seats
  · exact hd.oneOpen s (h.open_mem hs hsopen) q (h.open_mem hq hqopen) hsopen hqopen hsame

theorem Retired.openSeatsActive (hfound : FoundOpenSeat d r.deviceId seat)
    (hopen : d.OpenSeatsActive) : d'.OpenSeatsActive := by
  intro s hs hsopen
  rw [h.seats] at hs
  obtain ⟨hold, hother⟩ := retire_open hs hsopen
  have hne : s.deviceId ≠ r.deviceId := by
    intro heq
    obtain ⟨q, hq, hid⟩ := hfound s hold heq hsopen
    exact hother q hq hid.symm
  rw [deviceActive_congr h.devices, deviceActive_retire_of_ne hne]
  exact hopen s hold hsopen

end Retirement

/-! ## The pass over the fleet -/

theorem Seated.openSeatsActive {d d' : LicenseDb} {seats : List LicenseSeat}
    (h : Seated d d' seats) (hopen : d.OpenSeatsActive)
    (hseats : ∀ s ∈ seats, s.releasedAt = none) :
    d'.OpenSeatsActive ↔ ∀ s ∈ seats, d.deviceActive s.deviceId = true := by
  constructor
  · intro h' s hs
    have hactive := h' s (h.seats ▸ List.mem_append_right _ hs) (hseats s hs)
    rwa [deviceActive_congr h.devices] at hactive
  · intro hactive s hs hsopen
    rw [h.seats] at hs
    rw [deviceActive_congr h.devices]
    rcases List.mem_append.1 hs with hs | hs
    · exact hopen s hs hsopen
    · exact hactive s hs

/-! ## The outline -/

def fleetOutline (τ : Type*) : Outline τ LicenseRow LicenseDb FleetTx where
  inv := LicenseDb.Consistent
  sound d _ a := a.Sound d
  relies := FleetTx.relies
  guard _ _ := True

/-- The lookup of an open seat under the index finds the only one. -/
theorem foundOpenSeat {d : LicenseDb} (h : d.Consistent) (deviceId : String) :
    FoundOpenSeat d deviceId (openSeat deviceId d) := by
  intro s hs hdevice hopen
  unfold openSeat
  cases hfind : d.licenseSeats.find? fun s ↦ s.deviceId = deviceId ∧ s.releasedAt = none with
  | none =>
      have hnot := List.find?_eq_none.1 hfind s hs
      exact absurd (decide_eq_true ⟨hdevice, hopen⟩) hnot
  | some q =>
      have hq : q.deviceId = deviceId ∧ q.releasedAt = none := by
        simpa using List.find?_some hfind
      refine ⟨q, rfl, ?_⟩
      exact h.oneOpen q (List.mem_of_find?_eq_some hfind) s hs hq.2 hopen (hq.1.trans hdevice.symm)

theorem enrollStmt_keeps (τ : Type*) (r : EnrollRequest) (phase : EnrollPhase) :
    (fleetOutline τ).Keeps (.enroll r phase) (fleetStmt (.enroll r phase)) := by
  cases phase with
  | start => exact fun d _ _ _ _ ↦ ⟨trivial, fun row h ↦ h.elim⟩
  | counted c => exact fun d _ _ _ _ ↦ ⟨rfl, fun row h ↦ h.elim⟩
  | minted c device => exact fun d _ _ h _ ↦ ⟨⟨h, rfl⟩, fun row h ↦ h.elim⟩
  | denied decision =>
      rintro d d' t hI - - ⟨⟩
      exact ⟨hI, fun u b _ hb _ ↦ hb⟩
  | locked grant =>
      simp only [fleetStmt, enrollStmt]
      split
      · exact fun d _ _ _ _ ↦ ⟨trivial, fun row h ↦ h.elim⟩
      · exact fun d _ _ _ _ ↦ ⟨trivial, fun row h ↦ h.elim⟩
      · rename_i g _
        intro d t _ _ _
        show (FleetTx.enroll r (checkSeats g _ d)).Sound d ∧ _
        unfold checkSeats
        dsimp only
        split
        · exact ⟨trivial, fun row h ↦ h.elim⟩
        · exact ⟨trivial, fun row h ↦ h.elim⟩
  | reserved c device seat =>
      intro d d' t hI h _ hwrite
      have henrolled := commitSeat_enrolled hwrite
      refine ⟨henrolled.consistent h.2 hI, fun u b _ hb _ ↦ FleetTx.Sound.mono hb ?_ ?_⟩
      · intro id hid
        rw [henrolled.eq]
        exact List.mem_map.2 (by
          obtain ⟨x, hx, heq⟩ := List.mem_map.1 hid
          exact ⟨x, List.mem_append_left _ hx, heq⟩)
      · intro s hs _ hretires
        rw [henrolled.eq] at hs
        rcases List.mem_append.1 hs with hs | hs
        · exact hs
        · -- nobody retires a device that is being enrolled
          rw [List.mem_singleton.1 hs, h.2] at hretires
          exact absurd (FleetTx.Sound.retires_mem hb hretires) henrolled.new

theorem decommissionStmt_keeps (τ : Type*) (r : DecommissionRequest) (phase : DecommissionPhase) :
    (fleetOutline τ).Keeps (.decommission r phase) (fleetStmt (.decommission r phase)) := by
  cases phase with
  | start =>
      simp only [Outline.Keeps, fleetStmt, decommissionStmt, Stmt.map, fleetOutline,
        Function.comp_apply]
      intro d t _ _ _
      cases hget : Rows.get PhysicalDevice.id r.deviceId d.physicalDevices with
      | none => exact ⟨trivial, fun row h ↦ h.elim⟩
      | some device =>
          have hid : device.id = r.deviceId := Rows.get_key hget
          have hmem : r.deviceId ∈ d.deviceIds :=
            hid ▸ List.mem_map_of_mem (Rows.get_mem hget)
          refine ⟨hmem, fun row hrow ↦ .inr ?_⟩
          rw [Option.map_some, hid, (show row = .device r.deviceId from hrow)]
  | locked device =>
      simp only [Outline.Keeps, fleetStmt, decommissionStmt, Stmt.map, fleetOutline,
        Function.comp_apply]
      intro d t hI h _
      split
      · exact ⟨trivial, fun row hrow ↦ hrow.elim⟩
      · split
        · exact ⟨trivial, fun row hrow ↦ hrow.elim⟩
        · exact ⟨⟨h, foundOpenSeat hI r.deviceId⟩, fun row hrow ↦ hrow⟩
  | retiring device seat =>
      intro d d' t hI h _ hwrite
      have hretired := commitRetirement_retired hwrite
      refine ⟨hretired.consistent hI, fun u b _ hb _ ↦ FleetTx.Sound.mono hb ?_ ?_⟩
      · intro id hid
        rw [hretired.deviceIds]
        exact hid
      · exact fun s hs hopen _ ↦ hretired.open_mem hs hopen
  | settled result =>
      rintro d d' t hI - - ⟨⟩
      exact ⟨hI, fun u b _ hb _ ↦ hb⟩

theorem mem_seats {r : ReconcileRequest} {grant : LicenseGrant} {done : List String}
    {s : LicenseSeat} :
    s ∈ done.reverse.map (r.seat grant) ↔ ∃ deviceId ∈ done, r.seat grant deviceId = s := by
  simp

theorem reconcileStmt_keeps (τ : Type*) (r : ReconcileRequest) (phase : ReconcilePhase) :
    (fleetOutline τ).Keeps (.reconcile r phase) (fleetStmt (.reconcile r phase)) := by
  cases phase with
  | start =>
      simp only [Outline.Keeps, fleetStmt, reconcileStmt, Stmt.map, fleetOutline,
        Function.comp_apply]
      intro d t _ _ _
      cases d.effectiveGrant with
      | none => exact ⟨trivial, fun row h ↦ h.elim⟩
      | some grant => exact ⟨trivial, fun row h ↦ h.elim⟩
  | locked grant =>
      refine fun d _ _ _ _ ↦ ⟨trivial, ?_⟩
      rintro row ⟨_, hdone, _⟩
      exact absurd hdone List.not_mem_nil
  | inserting grant todo done =>
      cases todo with
      | nil => exact fun d _ _ _ _ ↦ ⟨trivial, fun row h ↦ h⟩
      | cons deviceId todo =>
          refine fun d _ _ _ _ ↦ ⟨trivial, ?_⟩
          rintro row ⟨id, hid, hrow⟩
          rcases List.mem_cons.1 hid with heq | hold
          · exact .inr (by rw [hrow, heq])
          · exact .inl ⟨id, hold, hrow⟩
  | seated grant done result =>
      intro d d' t hI _ _ hwrite
      have hseated := insertSeats_seated hwrite
      refine ⟨hseated.consistent hI, fun u b _ hb hrelies ↦ FleetTx.Sound.mono hb ?_ ?_⟩
      · intro id hid
        unfold LicenseDb.deviceIds
        rw [hseated.devices]
        exact hid
      · intro s hs _ hretires
        rw [hseated.seats] at hs
        rcases List.mem_append.1 hs with hs | hs
        · exact hs
        · -- the rows of the seated devices are locked, so nobody else retires one
          obtain ⟨deviceId, hdone, rfl⟩ := mem_seats.1 hs
          exact absurd (FleetTx.relies_of_retires hretires)
            (hrelies (.device deviceId) ⟨deviceId, hdone, rfl⟩)
  | settled result =>
      rintro d d' t hI - - ⟨⟩
      exact ⟨hI, fun u b _ hb _ ↦ hb⟩

theorem fleetOutline_proves (τ : Type*) : (fleetOutline τ).Proves fleetStmt
  | .enroll r phase => enrollStmt_keeps τ r phase
  | .decommission r phase => decommissionStmt_keeps τ r phase
  | .reconcile r phase => reconcileStmt_keeps τ r phase

/-! ## Every interleaving -/

section Interleavings

variable {τ : Type*}

/-- Where the pass commits its seats, every device that it has listed is active still. -/
def ListedStillActive (s : System τ LicenseRow LicenseDb FleetTx) (label : τ × Move) : Prop :=
  match s.tx label.1, label.2 with
  | some (.reconcile r (.seated grant done _)), .advance =>
      (insertSeats s.data (done.reverse.map (r.seat grant))).isSome →
        ∀ deviceId ∈ done, s.data.deviceActive deviceId = true
  | _, _ => True

/-- Transactions that have not run a statement yet, on tables that agree. -/
structure FleetStart (s : System τ LicenseRow LicenseDb FleetTx) : Prop where
  consistent : s.data.Consistent
  agree : s.data.SeatsAgree
  tx : ∀ t a, s.tx t = some a → (∃ r, a = .enroll r .start) ∨ (∃ r, a = .decommission r .start) ∨
    ∃ r, a = .reconcile r .start

theorem FleetStart.holds {s : System τ LicenseRow LicenseDb FleetTx} (h : FleetStart s) :
    (fleetOutline τ).Holds s := by
  constructor
  · exact h.consistent
  · intro t a ha
    rcases h.tx t a ha with ⟨r, rfl⟩ | ⟨r, rfl⟩ | ⟨r, rfl⟩
    · trivial
    · trivial
    · trivial
  · intro t a ha row hrow
    rcases h.tx t a ha with ⟨r, rfl⟩ | ⟨r, rfl⟩ | ⟨r, rfl⟩
    · exact hrow.elim
    · exact hrow.elim
    · exact hrow.elim

variable [DecidableEq τ]

/-- What the agreement asks of a commit: the devices that the pass seats are active. -/
def FleetTx.seatsActive (d : LicenseDb) : FleetTx → Prop
  | .reconcile _ (.seated _ done _) => ∀ deviceId ∈ done, d.deviceActive deviceId = true
  | _ => True

theorem fleet_commit {a : FleetTx} {d d' : LicenseDb} {w : LicenseDb → Option LicenseDb}
    (hprog : fleetStmt a = .commit w) (hw : w d = some d') (hI : d.Consistent) (h : a.Sound d)
    (hopen : d.OpenSeatsActive) : d'.OpenSeatsActive ↔ a.seatsActive d := by
  cases a with
  | enroll r phase =>
      cases phase with
      | reserved c device seat =>
          cases hprog
          have henrolled := commitSeat_enrolled hw
          exact iff_true_intro (henrolled.openSeatsActive h.2 h.1 hI.keyed hopen)
      | denied decision =>
          cases hprog
          cases hw
          exact iff_true_intro hopen
      | start => cases hprog
      | counted c => cases hprog
      | minted c device => cases hprog
      | locked grant =>
          simp only [fleetStmt, enrollStmt] at hprog
          split at hprog
          · cases hprog
          · cases hprog
          · cases hprog
  | decommission r phase =>
      cases phase with
      | retiring device seat =>
          cases hprog
          exact iff_true_intro ((commitRetirement_retired hw).openSeatsActive h.2 hopen)
      | settled result =>
          cases hprog
          cases hw
          exact iff_true_intro hopen
      | start => cases hprog
      | locked device => cases hprog
  | reconcile r phase =>
      cases phase with
      | seated grant done result =>
          cases hprog
          have hnew : ∀ s ∈ done.reverse.map (r.seat grant), s.releasedAt = none := by
            intro s hs
            obtain ⟨deviceId, -, rfl⟩ := mem_seats.1 hs
            rfl
          rw [(insertSeats_seated hw).openSeatsActive hopen hnew]
          constructor
          · exact fun hseats deviceId hdone ↦ hseats _ (mem_seats.2 ⟨deviceId, hdone, rfl⟩)
          · intro hdone s hs
            obtain ⟨deviceId, hmem, rfl⟩ := mem_seats.1 hs
            exact hdone deviceId hmem
      | settled result =>
          cases hprog
          cases hw
          exact iff_true_intro hopen
      | start => cases hprog
      | locked grant => cases hprog
      | inserting grant todo done =>
          cases todo with
          | nil => cases hprog
          | cons deviceId todo => cases hprog

theorem fleet_step {s : System τ LicenseRow LicenseDb FleetTx}
    (hholds : (fleetOutline τ).Holds s) (hagree : s.data.SeatsAgree) (label : τ × Move) :
    (next fleetStmt s label).data.SeatsAgree ↔ ListedStillActive s label := by
  obtain ⟨t, move⟩ := label
  rcases @next_commit_or _ _ _ _ _ _ fleetStmt s (t, move) with
    ⟨a, w, d, -, htx, hmove, hprog, hw, hnext⟩ | ⟨hcommit, hdata⟩
  · cases hmove
    rw [hnext, seatsAgree_iff]
    show d.OpenSeatsActive ↔ _
    rw [fleet_commit hprog hw hholds.data (hholds.tx t a htx) hagree.active]
    unfold ListedStillActive
    dsimp only at htx ⊢
    rw [htx]
    cases a with
    | enroll r phase => exact Iff.rfl
    | decommission r phase => exact Iff.rfl
    | reconcile r phase =>
        cases phase with
        | seated grant done result =>
            cases hprog
            have hsome : (insertSeats s.data (done.reverse.map (r.seat grant))).isSome := by
              rw [Option.isSome_iff_exists]
              exact ⟨d, hw⟩
            exact ⟨fun hactive _ ↦ hactive, fun hactive ↦ hactive hsome⟩
        | start => exact Iff.rfl
        | locked grant => exact Iff.rfl
        | inserting grant todo done => exact Iff.rfl
        | settled result => exact Iff.rfl
  · rw [hdata]
    refine ⟨fun _ ↦ ?_, fun _ ↦ hagree⟩
    unfold ListedStillActive
    dsimp only
    split
    · rename_i r grant done result htx
      -- the constraints have refused the seats
      have hrefused : insertSeats s.data (done.reverse.map (r.seat grant)) = none :=
        commitOf_none hcommit htx rfl rfl
      rw [hrefused]
      exact nofun
    · trivial

/-- Over every interleaving: open seats and active devices agree in every committed state exactly
if the pass over the fleet never seats a device that has left service since it was listed. -/
theorem seatsAgree_always_iff {s : System τ LicenseRow LicenseDb FleetTx} (h : FleetStart s)
    (l : List (τ × Move)) : Run.Always (next fleetStmt) (·.data.SeatsAgree) s l ↔
      Run.Guarded (next fleetStmt) ListedStillActive s l :=
  Run.always_iff_guarded (I := (fleetOutline τ).Holds) (A := fun _ ↦ True)
    (fun _ _ _ hs ↦ (fleetOutline_proves τ).next hs fun _ _ _ _ ↦ trivial)
    (fun _ label _ hs hagree ↦ fleet_step hs hagree label) (fun _ _ ↦ trivial) h.holds h.agree

end Interleavings

/-! One device leaves service while the pass over the fleet has it on its list. -/

def unseated : PhysicalDevice where
  id := "device-1"
  storeId := "store-1"
  deviceTypeId := "player"
  code := "P-1"
  status := .active

def passRequest : ReconcileRequest where
  now := 10
  seatId deviceId := "seat-" ++ deviceId

def retireRequest : DecommissionRequest where
  deviceId := "device-1"
  changedBy := "admin"
  reason := "broken"
  now := 11

def unseatedFleet : System Bool LicenseRow LicenseDb FleetTx where
  data := {
    licenseGrants := [oneSeat]
    physicalDevices := [unseated] }
  holder _ := none
  tx t := some (if t then .reconcile passRequest .start else .decommission retireRequest .start)

theorem unseatedFleet_start : FleetStart unseatedFleet where
  consistent := ⟨⟨List.nodup_singleton _, fun _ h ↦ nomatch h⟩, fun _ h ↦ nomatch h⟩
  agree := ⟨nofun, rfl⟩
  tx t _ h := by
    cases t with
    | true => exact .inr (.inr ⟨_, (Option.some.inj h).symm⟩)
    | false => exact .inr (.inl ⟨_, (Option.some.inj h).symm⟩)

/-- The list is read, the device is decommissioned, and the seat is inserted. -/
def passAroundRetirement : List (Bool × Move) :=
  [(true, .advance), (true, .advance), (false, .advance), (false, .advance), (false, .advance),
    (true, .advance), (true, .advance), (true, .advance)]

theorem inactive_device_seated : ¬ ∀ (s : System Bool LicenseRow LicenseDb FleetTx)
    (l : List (Bool × Move)), FleetStart s →
      Run.Always (next fleetStmt) (·.data.SeatsAgree) s l := by
  intro h
  have hend := (h unseatedFleet passAroundRetirement unseatedFleet_start).final
  have hopen : countOpenSeats
      (Run.final (next fleetStmt) unseatedFleet passAroundRetirement).data = 1 := by
    decide +kernel
  have hoccupied : countOccupiedSeats
      (Run.final (next fleetStmt) unseatedFleet passAroundRetirement).data = 0 := by
    decide +kernel
  have hcounts := hend.counts
  rw [hopen, hoccupied] at hcounts
  cases hcounts

/-- The device waits for the pass, and its new seat is closed with it. -/
def passBeforeRetirement : List (Bool × Move) :=
  List.replicate 5 (true, .advance) ++ List.replicate 3 (false, .advance)

theorem passBeforeRetirement_agree :
    Run.Always (next fleetStmt) (·.data.SeatsAgree) unseatedFleet passBeforeRetirement :=
  (seatsAgree_always_iff unseatedFleet_start passBeforeRetirement).2 (by
    have hactive : ∀ deviceId ∈ ["device-1"],
        unseatedFleet.data.deviceActive deviceId = true := by decide
    exact ⟨trivial, trivial, trivial, trivial, fun _ ↦ hactive, trivial, trivial, trivial, trivial⟩)

end RetailMedia
