import RetailMedia.Schema
import RetailMedia.Lib.Rows
import Mathlib

/-! License grants and the seat ledger: the effective grant, its state and capacity, and the
occupied seats. -/

namespace RetailMedia

inductive GrantStatus
  | current
  | revoked
  | superseded
  deriving DecidableEq, Repr

structure LicenseGrant where
  id : String
  licenseId : String
  issuedAt : Int
  validFrom : Int
  validUntil : Option Int := none
  maxDevices : Int := 0
  overageAllowance : Int := 0
  graceDays : Int := 0
  status : GrantStatus := .current
  deriving DecidableEq, Repr

structure LicenseSeat where
  id : String
  licenseId : String
  deviceId : String
  reservedAt : Int
  releasedAt : Option Int := none
  deriving DecidableEq, Repr

structure DeviceStatusHistory where
  physicalDeviceId : String
  oldStatus : DeviceStatus
  newStatus : DeviceStatus
  changedAt : Int
  reason : String := ""
  source : String := "manual"
  changedBy : String
  deriving DecidableEq, Repr

structure LicenseDb where
  licenseGrants : List LicenseGrant := []
  physicalDevices : List PhysicalDevice := []
  licenseSeats : List LicenseSeat := []
  deviceStatusHistory : List DeviceStatusHistory := []

/-! ## The effective grant -/

/-- A current grant outranks every revoked one; within a status, the latest issue. -/
def LicenseGrant.rank (g : LicenseGrant) : Nat ×ₗ Int :=
  toLex (if g.status = .current then 1 else 0, g.issuedAt)

def LicenseDb.effectiveGrant (d : LicenseDb) : Option LicenseGrant :=
  Rows.newest LicenseGrant.rank
    (d.licenseGrants.filter fun g ↦ g.status = .current ∨ g.status = .revoked)

inductive EffectiveState
  | active
  | grace
  | expired
  | revoked
  | missing
  deriving DecidableEq, Repr

def computeEffectiveState (grant : Option LicenseGrant) (now : Int) : EffectiveState :=
  match grant with
  | none => .missing
  | some g =>
      if g.status = .revoked then .revoked
      else if now < g.validFrom then .expired
      else
        match g.validUntil with
        | none => .active
        | some validUntil =>
            if now < validUntil then .active
            else if now < validUntil + g.graceDays * dayMicros then .grace
            else .expired

def capacityOf (g : LicenseGrant) : Int := g.maxDevices + g.overageAllowance

def freeOf (capacity occupied : Int) : Int := max (capacity - occupied) 0

/-! ## Seats -/

def LicenseDb.deviceActive (d : LicenseDb) (deviceId : String) : Bool :=
  (Rows.get PhysicalDevice.id deviceId d.physicalDevices).any (·.status = .active)

def LicenseSeat.occupied (d : LicenseDb) (s : LicenseSeat) : Bool :=
  s.releasedAt = none ∧ d.deviceActive s.deviceId

/-- Open seats whose device is active. -/
def countOccupiedSeats (d : LicenseDb) : Nat := d.licenseSeats.countP (·.occupied d)

/-- What the keys of the tables guarantee: device ids are unique, and a seat's device exists. -/
structure LicenseDb.WellKeyed (d : LicenseDb) : Prop where
  devices : (d.physicalDevices.map (·.id)).Nodup
  seats : ∀ s ∈ d.licenseSeats, s.deviceId ∈ d.physicalDevices.map (·.id)

/-! ## What writes do to the count -/

def LicenseDb.addSeat (d : LicenseDb) (device : PhysicalDevice) (seat : LicenseSeat) : LicenseDb :=
  { d with
    physicalDevices := d.physicalDevices ++ [device]
    licenseSeats := d.licenseSeats ++ [seat] }

theorem LicenseDb.WellKeyed.addSeat {d : LicenseDb} (h : d.WellKeyed) {device : PhysicalDevice}
    {seat : LicenseSeat} (hnew : device.id ∉ d.physicalDevices.map (·.id))
    (hseat : seat.deviceId = device.id) : (d.addSeat device seat).WellKeyed := by
  have hids : (d.addSeat device seat).physicalDevices.map (·.id) =
      d.physicalDevices.map (·.id) ++ [device.id] := List.map_append
  constructor
  · rw [hids]
    exact Rows.nodup_concat h.devices hnew
  · intro s hs
    rw [hids, List.mem_append]
    rcases List.mem_append.1 hs with hs | hs
    · exact .inl (h.seats s hs)
    · rw [List.mem_singleton.1 hs, hseat]
      exact .inr (List.mem_singleton_self _)

/-- A new device changes nothing for the seats that are there. -/
theorem occupied_addSeat {d : LicenseDb} (h : d.WellKeyed) {device : PhysicalDevice}
    {seat s : LicenseSeat} (hs : s ∈ d.licenseSeats) :
    s.occupied (d.addSeat device seat) = s.occupied d := by
  have hsome := Rows.get_isSome.2 (h.seats s hs)
  unfold LicenseSeat.occupied LicenseDb.deviceActive LicenseDb.addSeat
  dsimp only
  rw [Rows.get_append]
  cases hget : Rows.get PhysicalDevice.id s.deviceId d.physicalDevices with
  | none =>
      rw [hget] at hsome
      cases hsome
  | some x => rfl

theorem countOccupied_addSeat {d : LicenseDb} (h : d.WellKeyed) (device : PhysicalDevice)
    (seat : LicenseSeat) :
    countOccupiedSeats (d.addSeat device seat) ≤ countOccupiedSeats d + 1 := by
  have hold : d.licenseSeats.countP (·.occupied (d.addSeat device seat)) = countOccupiedSeats d :=
    List.countP_congr fun s hs ↦ by rw [occupied_addSeat h hs]
  show (d.licenseSeats ++ [seat]).countP (·.occupied (d.addSeat device seat)) ≤ _
  rw [List.countP_append, hold]
  have hone : [seat].countP (·.occupied (d.addSeat device seat)) ≤ 1 := List.countP_le_length
  omega

def LicenseSeat.released (now : Int) (s : LicenseSeat) : LicenseSeat :=
  { s with releasedAt := some now }

def PhysicalDevice.retired (x : PhysicalDevice) : PhysicalDevice := { x with status := .inactive }

/-- A device goes inactive and a seat is released. -/
def LicenseDb.retire (d : LicenseDb) (deviceId : String) (seat : Option LicenseSeat) (now : Int) :
    LicenseDb :=
  { d with
    physicalDevices := Rows.updateWhere (·.id = deviceId) (·.retired) d.physicalDevices
    licenseSeats := match seat with
      | none => d.licenseSeats
      | some s => Rows.updateWhere (·.id = s.id) (·.released now) d.licenseSeats }

theorem retire_ids (d : LicenseDb) (deviceId : String) (seat : Option LicenseSeat) (now : Int) :
    (d.retire deviceId seat now).physicalDevices.map (·.id) = d.physicalDevices.map (·.id) :=
  Rows.map_updateWhere (f := (·.retired)) (·.id) (fun _ ↦ rfl) d.physicalDevices

theorem retire_seat {d : LicenseDb} {deviceId : String} {seat : Option LicenseSeat} {now : Int}
    {s : LicenseSeat} (hs : s ∈ (d.retire deviceId seat now).licenseSeats) :
    ∃ x ∈ d.licenseSeats, s.deviceId = x.deviceId := by
  cases seat with
  | none => exact ⟨s, hs, rfl⟩
  | some q =>
      obtain ⟨x, hx, rfl⟩ := Rows.mem_updateWhere.1 hs
      refine ⟨x, hx, ?_⟩
      split
      · rfl
      · rfl

theorem LicenseDb.WellKeyed.retire {d : LicenseDb} (h : d.WellKeyed) (deviceId : String)
    (seat : Option LicenseSeat) (now : Int) : (d.retire deviceId seat now).WellKeyed := by
  constructor
  · rw [retire_ids]
    exact h.devices
  · intro s hs
    obtain ⟨x, hx, hdevice⟩ := retire_seat hs
    rw [retire_ids, hdevice]
    exact h.seats x hx

theorem deviceActive_retire {d : LicenseDb} {deviceId : String} {seat : Option LicenseSeat}
    {now : Int} {id : String} (h : (d.retire deviceId seat now).deviceActive id = true) :
    d.deviceActive id = true := by
  have hget : Rows.get PhysicalDevice.id id (d.retire deviceId seat now).physicalDevices =
      (Rows.get PhysicalDevice.id id d.physicalDevices).map fun x ↦
        if decide (x.id = deviceId) = true then x.retired else x :=
    Rows.get_updateWhere (f := (·.retired)) (fun _ ↦ rfl) d.physicalDevices
  unfold LicenseDb.deviceActive at h ⊢
  rw [hget] at h
  cases hold : Rows.get PhysicalDevice.id id d.physicalDevices with
  | none =>
      rw [hold] at h
      cases h
  | some x =>
      rw [hold] at h
      simp only [Option.map_some, Option.any_some, decide_eq_true_eq] at h ⊢
      split at h
      · cases h
      · exact h

/-- Retiring a device frees seats and occupies none. -/
theorem countOccupied_retire (d : LicenseDb) (deviceId : String) (seat : Option LicenseSeat)
    (now : Int) : countOccupiedSeats (d.retire deviceId seat now) ≤ countOccupiedSeats d := by
  have hmono (s : LicenseSeat) (h : s.occupied (d.retire deviceId seat now) = true) :
      s.occupied d = true := by
    simp only [LicenseSeat.occupied, decide_eq_true_eq] at h ⊢
    exact ⟨h.1, deviceActive_retire h.2⟩
  unfold countOccupiedSeats
  cases seat with
  | none => exact List.countP_mono_left fun s _ hs ↦ hmono s hs
  | some q =>
      show (d.licenseSeats.map _).countP _ ≤ _
      rw [List.countP_map]
      apply List.countP_mono_left
      intro s _ hs
      simp only [Function.comp_apply] at hs
      split at hs
      · simp [LicenseSeat.occupied, LicenseSeat.released] at hs
      · exact hmono s hs

end RetailMedia
