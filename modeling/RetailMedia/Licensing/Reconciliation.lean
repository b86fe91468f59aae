import RetailMedia.Licensing.Fleet

/-! The reconciliation report: what it finds in the seat ledger, and when it finds nothing. -/

namespace RetailMedia

inductive FindingSeverity
  | error
  | warning
  deriving DecidableEq, Repr

structure ReconciliationFinding where
  code : String
  severity : FindingSeverity := .error
  message : String
  deviceId : Option String := none
  seatId : Option String := none
  deriving DecidableEq, Repr

structure ReconciliationCounts where
  activeDevices : Nat
  openSeats : Nat
  occupied : Nat
  capacity : Int
  overCapacityBy : Int
  findingCount : Nat
  deriving DecidableEq, Repr

structure ReconciliationReport where
  consistent : Bool
  counts : ReconciliationCounts
  findings : List ReconciliationFinding := []
  deriving DecidableEq, Repr

/-! ## The findings -/

def openSeats (d : LicenseDb) : List LicenseSeat := d.licenseSeats.filter (·.releasedAt = none)

def countActiveDevices (d : LicenseDb) : Nat := d.physicalDevices.countP (·.status = .active)

def currentGrantMissing : ReconciliationFinding where
  code := "current_grant_missing"
  message := "Effective license grant not found."

def overCapacity (occupied : Nat) (capacity : Int) : ReconciliationFinding where
  code := "over_capacity"
  message := "Occupied " ++ toString occupied ++ " exceeds capacity " ++ toString capacity ++ "."

def activeDeviceWithoutSeat (deviceId : String) : ReconciliationFinding where
  code := "active_device_without_seat"
  message := "Active device has no open seat."
  deviceId := some deviceId

def inactiveDeviceWithSeat (deviceId seatId : String) : ReconciliationFinding where
  code := "inactive_device_with_seat"
  message := "Inactive device still holds an open seat."
  deviceId := some deviceId
  seatId := some seatId

def seatUnderNoncurrentGrant (s : LicenseSeat) : ReconciliationFinding where
  code := "seat_under_noncurrent_grant"
  message := "Open seat reserved under a non-current grant."
  deviceId := some s.deviceId
  seatId := some s.id

def occupiedMappingMismatch (occupied activeCount : Nat) : ReconciliationFinding where
  code := "occupied_mapping_mismatch"
  severity := .warning
  message := "Open seats on active devices (" ++ toString occupied ++
    ") != active device count (" ++ toString activeCount ++ ")."

/-- The join of the devices that are not active with their open seats. -/
def inactiveWithSeat (d : LicenseDb) : List (String × String) :=
  (d.physicalDevices.filter (·.status ≠ .active)).flatMap fun x ↦
    ((openSeats d).filter (·.deviceId = x.id)).map fun s ↦ (x.id, s.id)

/-- The findings that depend on the effective grant: without one, its absence only. -/
def grantFindings (d : LicenseDb) (occupied : Nat) : List ReconciliationFinding :=
  match d.effectiveGrant with
  | none => [currentGrantMissing]
  | some grant =>
      if (occupied : Int) > capacityOf grant then [overCapacity occupied (capacityOf grant)] else []

def noncurrentFindings (d : LicenseDb) : List ReconciliationFinding :=
  match d.effectiveGrant with
  | none => []
  | some grant =>
      ((openSeats d).filter (·.licenseId ≠ grant.id)).map seatUnderNoncurrentGrant

def mismatchFindings (occupied activeCount : Nat) : List ReconciliationFinding :=
  if activeCount ≠ occupied then [occupiedMappingMismatch occupied activeCount] else []

def getReconciliationReport (d : LicenseDb) : ReconciliationReport :=
  let capacity := (d.effectiveGrant.map capacityOf).getD 0
  let occupied := countOccupiedSeats d
  let activeCount := countActiveDevices d
  let findings := grantFindings d occupied ++
    (missingSeats d).map activeDeviceWithoutSeat ++
    (inactiveWithSeat d).map (fun row ↦ inactiveDeviceWithSeat row.1 row.2) ++
    noncurrentFindings d ++ mismatchFindings occupied activeCount
  { consistent := findings.length = 0
    counts := {
      activeDevices := activeCount
      openSeats := countOpenSeats d
      occupied := occupied
      capacity := capacity
      overCapacityBy := max (occupied - capacity) 0
      findingCount := findings.length }
    findings := findings }

/-! ## What the findings mean -/

/-- The keys of the tables, the partial index that leaves a device one open seat included. -/
structure LicenseDb.Indexed (d : LicenseDb) : Prop where
  keyed : d.WellKeyed
  oneOpen : ((openSeats d).map (·.deviceId)).Nodup

/-- Active devices and open seats are in one-to-one correspondence. -/
structure LicenseDb.SeatsMatchDevices (d : LicenseDb) : Prop where
  seat : ∀ x ∈ d.physicalDevices, x.status = .active →
    ∃! s, s ∈ openSeats d ∧ s.deviceId = x.id
  device : ∀ s ∈ openSeats d,
    ∃! x, x ∈ d.physicalDevices ∧ x.status = .active ∧ x.id = s.deviceId

/-- The ledger as the report wants it. -/
structure LicenseDb.InOrder (d : LicenseDb) : Prop where
  grant : ∃ grant, d.effectiveGrant = some grant ∧
    (countOccupiedSeats d : Int) ≤ capacityOf grant ∧ ∀ s ∈ openSeats d, s.licenseId = grant.id
  matched : d.SeatsMatchDevices

theorem mem_openSeats {d : LicenseDb} {s : LicenseSeat} :
    s ∈ openSeats d ↔ s ∈ d.licenseSeats ∧ s.releasedAt = none := by
  simp [openSeats]

theorem grantFindings_eq_nil {d : LicenseDb} {occupied : Nat} :
    grantFindings d occupied = [] ↔
      ∃ grant, d.effectiveGrant = some grant ∧ (occupied : Int) ≤ capacityOf grant := by
  unfold grantFindings
  cases d.effectiveGrant with
  | none => simp
  | some grant =>
      dsimp only
      by_cases hover : (occupied : Int) > capacityOf grant
      · rw [if_pos hover]
        simp [hover]
      · rw [if_neg hover]
        simp [not_lt.1 hover]

theorem noncurrentFindings_eq_nil {d : LicenseDb} {grant : LicenseGrant}
    (h : d.effectiveGrant = some grant) :
    noncurrentFindings d = [] ↔ ∀ s ∈ openSeats d, s.licenseId = grant.id := by
  unfold noncurrentFindings
  rw [h]
  simp [List.filter_eq_nil_iff]

theorem missingSeats_eq_nil {d : LicenseDb} :
    missingSeats d = [] ↔ ∀ x ∈ d.physicalDevices, x.status = .active →
      ∃ s ∈ openSeats d, s.deviceId = x.id := by
  have hseat (deviceId : String) : d.licenseSeats.any (isOpenFor deviceId) = true ↔
      ∃ s ∈ openSeats d, s.deviceId = deviceId := by
    rw [List.any_eq_true]
    constructor
    · rintro ⟨s, hs, hopen⟩
      have hopen := isOpenFor_iff.1 hopen
      exact ⟨s, mem_openSeats.2 ⟨hs, hopen.2⟩, hopen.1⟩
    · rintro ⟨s, hs, hdevice⟩
      have hs := mem_openSeats.1 hs
      exact ⟨s, hs.1, isOpenFor_iff.2 ⟨hdevice, hs.2⟩⟩
  unfold missingSeats
  rw [List.map_eq_nil_iff, List.filter_eq_nil_iff]
  apply forall₂_congr
  intro x _
  rw [decide_eq_true_eq, not_and, not_not, hseat]

theorem inactiveWithSeat_eq_nil {d : LicenseDb} :
    inactiveWithSeat d = [] ↔ ∀ x ∈ d.physicalDevices, ∀ s ∈ openSeats d, s.deviceId = x.id →
      x.status = .active := by
  unfold inactiveWithSeat
  rw [List.flatMap_eq_nil_iff]
  constructor
  · intro h x hx s hs hdevice
    by_contra hstatus
    have hnone := h x (List.mem_filter.2 ⟨hx, decide_eq_true hstatus⟩)
    rw [List.map_eq_nil_iff, List.filter_eq_nil_iff] at hnone
    exact hnone s hs (decide_eq_true hdevice)
  · intro h x hx
    have hx := List.mem_filter.1 hx
    rw [List.map_eq_nil_iff, List.filter_eq_nil_iff]
    intro s hs hdevice
    exact of_decide_eq_true hx.2 (h x hx.1 s hs (of_decide_eq_true hdevice))

/-! ## The two counts -/

theorem deviceActive_iff {d : LicenseDb} (h : d.WellKeyed) {deviceId : String} :
    d.deviceActive deviceId = true ↔
      ∃ x ∈ d.physicalDevices, x.status = .active ∧ x.id = deviceId := by
  unfold LicenseDb.deviceActive
  rw [Option.any_eq_true]
  constructor
  · rintro ⟨x, hget, hstatus⟩
    have hx := (Rows.get_eq_some h.devices).1 hget
    exact ⟨x, hx.1, of_decide_eq_true hstatus, hx.2⟩
  · rintro ⟨x, hx, hstatus, hid⟩
    exact ⟨x, (Rows.get_eq_some h.devices).2 ⟨hx, hid⟩, decide_eq_true hstatus⟩

def occupiedDevices (d : LicenseDb) : List String :=
  ((openSeats d).filter fun s ↦ d.deviceActive s.deviceId).map (·.deviceId)

def activeDevices (d : LicenseDb) : List String :=
  (d.physicalDevices.filter (·.status = .active)).map (·.id)

theorem length_occupiedDevices (d : LicenseDb) :
    (occupiedDevices d).length = countOccupiedSeats d := by
  unfold occupiedDevices openSeats countOccupiedSeats LicenseSeat.occupied
  rw [List.length_map, List.filter_filter, List.countP_eq_length_filter]
  congr 2
  funext s
  rw [Bool.decide_and, Bool.and_comm]
  simp

theorem length_activeDevices (d : LicenseDb) :
    (activeDevices d).length = countActiveDevices d := by
  unfold activeDevices countActiveDevices
  rw [List.length_map, List.countP_eq_length_filter]

theorem mem_activeDevices {d : LicenseDb} {deviceId : String} :
    deviceId ∈ activeDevices d ↔
      ∃ x ∈ d.physicalDevices, x.status = .active ∧ x.id = deviceId := by
  simp [activeDevices, and_assoc]

theorem mem_occupiedDevices {d : LicenseDb} (h : d.WellKeyed) {deviceId : String} :
    deviceId ∈ occupiedDevices d ↔
      deviceId ∈ activeDevices d ∧ ∃ s ∈ openSeats d, s.deviceId = deviceId := by
  rw [mem_activeDevices, ← deviceActive_iff h]
  unfold occupiedDevices
  rw [List.mem_map]
  constructor
  · rintro ⟨s, hs, hid⟩
    have hs := List.mem_filter.1 hs
    exact ⟨hid ▸ hs.2, s, hs.1, hid⟩
  · rintro ⟨hactive, s, hs, hid⟩
    exact ⟨s, List.mem_filter.2 ⟨hs, hid ▸ hactive⟩, hid⟩

/-- Where every active device has a seat, the counts agree. -/
theorem counts_agree {d : LicenseDb} (h : d.Indexed) (hmissing : missingSeats d = []) :
    countActiveDevices d = countOccupiedSeats d := by
  have hactive : (activeDevices d).Nodup :=
    h.keyed.devices.sublist (List.filter_sublist.map _)
  have hoccupied : (occupiedDevices d).Nodup := h.oneOpen.sublist (List.filter_sublist.map _)
  have hsame : (activeDevices d).Perm (occupiedDevices d) := by
    apply (List.perm_ext_iff_of_nodup hactive hoccupied).2
    intro deviceId
    rw [mem_occupiedDevices h.keyed]
    constructor
    · intro hmem
      obtain ⟨x, hx, hstatus, hid⟩ := mem_activeDevices.1 hmem
      obtain ⟨s, hs, hseat⟩ := missingSeats_eq_nil.1 hmissing x hx hstatus
      exact ⟨hmem, s, hs, hseat.trans hid⟩
    · exact fun hmem ↦ hmem.1
  rw [← length_activeDevices, ← length_occupiedDevices, hsame.length_eq]

/-- No finding about devices and their seats: they are in one-to-one correspondence. -/
theorem seatsMatchDevices_iff {d : LicenseDb} (h : d.Indexed) :
    d.SeatsMatchDevices ↔ missingSeats d = [] ∧ inactiveWithSeat d = [] := by
  rw [missingSeats_eq_nil, inactiveWithSeat_eq_nil]
  constructor
  · intro hmatch
    constructor
    · intro x hx hstatus
      obtain ⟨s, hs, -⟩ := hmatch.seat x hx hstatus
      exact ⟨s, hs⟩
    · intro x hx s hs hdevice
      obtain ⟨y, ⟨hy, hstatus, hid⟩, -⟩ := hmatch.device s hs
      have hsame := Rows.key_inj h.keyed.devices hx hy (hdevice.symm.trans hid.symm)
      rw [hsame]
      exact hstatus
  · rintro ⟨hseat, hdevice⟩
    constructor
    · intro x hx hstatus
      obtain ⟨s, hs, hid⟩ := hseat x hx hstatus
      refine ⟨s, ⟨hs, hid⟩, fun q hq ↦ ?_⟩
      exact Rows.key_inj h.oneOpen hq.1 hs (hq.2.trans hid.symm)
    · intro s hs
      have hmem := h.keyed.seats s (mem_openSeats.1 hs).1
      obtain ⟨x, hx, hid⟩ := List.mem_map.1 hmem
      refine ⟨x, ⟨hx, hdevice x hx s hs hid.symm, hid⟩, fun y hy ↦ ?_⟩
      exact Rows.key_inj h.keyed.devices hy.1 hx (hy.2.2.trans hid.symm)

/-! ## The verdict -/

theorem consistent_iff (d : LicenseDb) :
    (getReconciliationReport d).consistent = true ↔
      grantFindings d (countOccupiedSeats d) = [] ∧ missingSeats d = [] ∧
      inactiveWithSeat d = [] ∧ noncurrentFindings d = [] ∧
      countActiveDevices d = countOccupiedSeats d := by
  have hmismatch : mismatchFindings (countOccupiedSeats d) (countActiveDevices d) = [] ↔
      countActiveDevices d = countOccupiedSeats d := by
    simp [mismatchFindings]
  unfold getReconciliationReport
  rw [decide_eq_true_eq, List.length_eq_zero_iff, List.append_eq_nil_iff, List.append_eq_nil_iff,
    List.append_eq_nil_iff, List.append_eq_nil_iff, List.map_eq_nil_iff, List.map_eq_nil_iff,
    hmismatch]
  simp only [and_assoc]

/-- The warning is there only where the counts differ. -/
theorem counts_of_mismatch {d : LicenseDb} {f : ReconciliationFinding}
    (h : f ∈ (getReconciliationReport d).findings) (hcode : f.code = "occupied_mapping_mismatch") :
    countActiveDevices d ≠ countOccupiedSeats d := by
  have hgrant : f ∉ grantFindings d (countOccupiedSeats d) := by
    intro hf
    unfold grantFindings at hf
    split at hf
    · rw [List.mem_singleton.1 hf] at hcode
      exact absurd hcode (show "current_grant_missing" ≠ _ by decide)
    · split at hf
      · rw [List.mem_singleton.1 hf] at hcode
        exact absurd hcode (show "over_capacity" ≠ _ by decide)
      · cases hf
  have hnoncurrent : f ∉ noncurrentFindings d := by
    intro hf
    unfold noncurrentFindings at hf
    split at hf
    · cases hf
    · obtain ⟨s, -, rfl⟩ := List.mem_map.1 hf
      exact absurd hcode (show "seat_under_noncurrent_grant" ≠ _ by decide)
  unfold getReconciliationReport at h
  dsimp only at h
  rcases List.mem_append.1 h with h | hwarning
  · rcases List.mem_append.1 h with h | hf
    · rcases List.mem_append.1 h with h | hf
      · rcases List.mem_append.1 h with hf | hf
        · exact absurd hf hgrant
        · obtain ⟨deviceId, -, rfl⟩ := List.mem_map.1 hf
          exact absurd hcode (show "active_device_without_seat" ≠ _ by decide)
      · obtain ⟨row, -, rfl⟩ := List.mem_map.1 hf
        exact absurd hcode (show "inactive_device_with_seat" ≠ _ by decide)
    · exact absurd hf hnoncurrent
  · unfold mismatchFindings at hwarning
    split at hwarning
    · rename_i hne
      exact hne
    · cases hwarning

/-- The report is consistent exactly when the ledger is in order, and its warning never comes
without the error of a device that has no seat. -/
theorem reconciliation_exact {d : LicenseDb} (h : d.Indexed) :
    ((getReconciliationReport d).consistent = true ↔ d.InOrder) ∧
    ((∃ f ∈ (getReconciliationReport d).findings, f.code = "occupied_mapping_mismatch") →
      ∃ f ∈ (getReconciliationReport d).findings,
        f.code = "active_device_without_seat" ∧ f.severity = .error) := by
  constructor
  · rw [consistent_iff, grantFindings_eq_nil]
    constructor
    · rintro ⟨⟨grant, hgrant, hcapacity⟩, hmissing, hinactive, hnoncurrent, -⟩
      have hunder := (noncurrentFindings_eq_nil hgrant).1 hnoncurrent
      exact ⟨⟨grant, hgrant, hcapacity, hunder⟩,
        (seatsMatchDevices_iff h).2 ⟨hmissing, hinactive⟩⟩
    · rintro ⟨⟨grant, hgrant, hcapacity, hunder⟩, hmatched⟩
      have hseats := (seatsMatchDevices_iff h).1 hmatched
      exact ⟨⟨grant, hgrant, hcapacity⟩, hseats.1, hseats.2,
        (noncurrentFindings_eq_nil hgrant).2 hunder, counts_agree h hseats.1⟩
  · rintro ⟨f, hf, hcode⟩
    have hdiffer := counts_of_mismatch hf hcode
    cases hmissing : missingSeats d with
    | nil => exact absurd (counts_agree h hmissing) hdiffer
    | cons deviceId rest =>
        refine ⟨activeDeviceWithoutSeat deviceId, ?_, rfl, rfl⟩
        unfold getReconciliationReport
        dsimp only
        rw [hmissing]
        simp

/-- One seat for two active devices. -/
def halfSeated : LicenseDb where
  licenseGrants := [{
    id := "g", licenseId := "lic", issuedAt := 0, validFrom := 0, maxDevices := 1 }]
  physicalDevices := [
    { id := "d1", storeId := "s", deviceTypeId := "t", code := "c1", status := .active },
    { id := "d2", storeId := "s", deviceTypeId := "t", code := "c2", status := .active }]
  licenseSeats := [{ id := "p", licenseId := "g", deviceId := "d1", reservedAt := 0 }]

theorem halfSeated_indexed : halfSeated.Indexed where
  keyed := ⟨by decide, by decide⟩
  oneOpen := by decide

theorem halfSeated_verdict :
    ((getReconciliationReport halfSeated).consistent = true ↔ halfSeated.InOrder) ∧
    ∃ f ∈ (getReconciliationReport halfSeated).findings,
      f.code = "active_device_without_seat" ∧ f.severity = .error :=
  ⟨(reconciliation_exact halfSeated_indexed).1, (reconciliation_exact halfSeated_indexed).2
    ⟨occupiedMappingMismatch 1 2, by decide +kernel, rfl⟩⟩

end RetailMedia
