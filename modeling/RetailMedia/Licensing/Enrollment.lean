import RetailMedia.Licensing.Seats
import RetailMedia.Lib.Interleaving
import RetailMedia.Campaign.Lifecycle

/-! Enrollment and decommissioning as transactions, statement by statement. -/

namespace RetailMedia

open Interleaving

/-! ## Enrollment -/

structure EnrollmentDecision where
  allowed : Bool
  code : Option String := none
  message : Option String := none
  state : Option EffectiveState := none
  inGrace : Bool := false
  grant : Option LicenseGrant := none
  device : Option PhysicalDevice := none
  seat : Option LicenseSeat := none
  capacity : Int := 0
  occupied : Int := 0
  free : Int := 0
  deriving DecidableEq, Repr

/-- The denial code of a state, with its message. -/
def stateDenial : EffectiveState → Option (String × String)
  | .missing => some ("LICENSE_MISSING", "Лицензия не найдена. Обратитесь к оператору платформы.")
  | .revoked => some ("LICENSE_REVOKED", "Лицензия отозвана. Обратитесь к оператору платформы.")
  | .expired => some ("LICENSE_EXPIRED",
      "Срок действия лицензии истёк. Обратитесь к оператору платформы.")
  | .active => none
  | .grace => none

def EnrollmentDecision.denied (denial : String × String) (state : EffectiveState) :
    EnrollmentDecision where
  allowed := false
  code := some denial.1
  message := some denial.2
  state := some state

def EnrollmentDecision.seatLimit (state : EffectiveState) (capacity occupied : Int) :
    EnrollmentDecision where
  allowed := false
  code := some "LICENSE_SEAT_LIMIT"
  message := some ("Достигнут лимит " ++ toString capacity ++
    " устройств. Обратитесь к оператору платформы.")
  state := some state
  capacity := capacity
  occupied := occupied

/-- A call, with the keys that it draws for its rows. -/
structure EnrollRequest where
  now : Int
  deviceId : String
  seatId : String
  storeId : String
  deviceTypeId : String
  code : String := ""
  hardwareFingerprint : String
  retailerId : Option String := none
  deriving DecidableEq, Repr

def createPhysicalDeviceOnboard (r : EnrollRequest) : PhysicalDevice where
  id := r.deviceId
  storeId := r.storeId
  deviceTypeId := r.deviceTypeId
  code := if r.code = "" then firstChars 64 r.hardwareFingerprint else r.code
  status := .active
  retailerId := r.retailerId.filter (· ≠ "")

def reserveSeat (r : EnrollRequest) (grantId deviceId : String) : LicenseSeat where
  id := r.seatId
  licenseId := grantId
  deviceId := deviceId
  reservedAt := r.now

/-- What the seat check has established. -/
structure SeatCheck where
  grant : LicenseGrant
  state : EffectiveState
  occupied : Int
  deriving DecidableEq, Repr

inductive EnrollPhase
  | start
  | locked (grant : Option LicenseGrant)
  | counted (c : SeatCheck)
  | minted (c : SeatCheck) (device : PhysicalDevice)
  | reserved (c : SeatCheck) (device : PhysicalDevice) (seat : LicenseSeat)
  | denied (decision : EnrollmentDecision)
  deriving DecidableEq, Repr

/-- The decision that an allowed call returns. -/
def EnrollmentDecision.allow (c : SeatCheck) (device : PhysicalDevice) (seat : LicenseSeat) :
    EnrollmentDecision where
  allowed := true
  state := some c.state
  inGrace := c.state = .grace
  grant := some c.grant
  device := some device
  seat := some seat
  capacity := capacityOf c.grant
  occupied := c.occupied + 1
  free := freeOf (capacityOf c.grant) (c.occupied + 1)

def EnrollPhase.decision : EnrollPhase → Option EnrollmentDecision
  | reserved c device seat => some (.allow c device seat)
  | denied decision => some decision
  | _ => none

/-- The rows that statements lock. -/
inductive LicenseRow
  | grant (id : String)
  | device (id : String)
  deriving DecidableEq, Repr

/-- The capacity check, on the seats that are occupied when it counts them. -/
def checkSeats (grant : LicenseGrant) (state : EffectiveState) (d : LicenseDb) : EnrollPhase :=
  let occupied : Int := countOccupiedSeats d
  if occupied ≥ capacityOf grant then .denied (.seatLimit state (capacityOf grant) occupied)
  else .counted ⟨grant, state, occupied⟩

/-- Under the primary keys and the index on open seats. -/
def commitSeat (device : PhysicalDevice) (seat : LicenseSeat) (d : LicenseDb) : Option LicenseDb :=
  if device.id ∈ d.physicalDevices.map (·.id) ∨ seat.id ∈ d.licenseSeats.map (·.id) ∨
      d.licenseSeats.any (fun s ↦ s.deviceId = seat.deviceId ∧ s.releasedAt = none) then none
  else some (d.addSeat device seat)

/-- `authorize_and_reserve_enrollment` in its transaction; a denied one has nothing to write. -/
def enrollStmt (r : EnrollRequest) : EnrollPhase → Stmt LicenseRow LicenseDb EnrollPhase
  | .start =>
      .lock (fun d ↦ d.effectiveGrant.map fun g ↦ .grant g.id) fun d ↦ .locked d.effectiveGrant
  | .locked grant =>
      let state := computeEffectiveState grant r.now
      match stateDenial state, grant with
      | some denial, _ => .run fun _ ↦ .denied (.denied denial state)
      -- not reached: without a grant the state is missing
      | none, none => .run fun _ ↦ .denied { allowed := false }
      | none, some g => .run (checkSeats g state)
  | .counted c => .run fun _ ↦ .minted c (createPhysicalDeviceOnboard r)
  | .minted c device => .run fun _ ↦ .reserved c device (reserveSeat r c.grant.id device.id)
  | .reserved _ device seat => .commit (commitSeat device seat)
  | .denied _ => .commit some

/-! ## Decommissioning -/

structure DecommissionRequest where
  deviceId : String
  changedBy : String
  reason : String
  now : Int
  deriving DecidableEq, Repr

structure DecommissionResult where
  deviceId : String
  status : DeviceStatus
  transitioned : Bool
  seatReleased : Bool
  releasedAt : Option Int := none
  anomaly : Bool := false
  error : Option String := none
  message : Option String := none
  deriving DecidableEq, Repr

inductive DecommissionPhase
  | start
  | locked (device : PhysicalDevice)
  | retiring (device : PhysicalDevice) (seat : Option LicenseSeat)
  | settled (result : Option DecommissionResult)
  deriving DecidableEq, Repr

def DecommissionResult.retired (r : DecommissionRequest) (seat : Option LicenseSeat) :
    DecommissionResult where
  deviceId := r.deviceId
  status := .inactive
  transitioned := true
  seatReleased := seat.isSome
  releasedAt := seat.map fun _ ↦ r.now
  anomaly := seat.isNone

def DecommissionPhase.result (r : DecommissionRequest) :
    DecommissionPhase → Option DecommissionResult
  | retiring _ seat => some (.retired r seat)
  | settled result => result
  | _ => none

def openSeat (deviceId : String) (d : LicenseDb) : Option LicenseSeat :=
  d.licenseSeats.find? fun s ↦ s.deviceId = deviceId ∧ s.releasedAt = none

/-- Under the check that a seat is not released before it was reserved. -/
def commitRetirement (r : DecommissionRequest) (device : PhysicalDevice)
    (seat : Option LicenseSeat) (d : LicenseDb) : Option LicenseDb :=
  if seat.any (·.reservedAt > r.now) then none
  else some { d.retire r.deviceId seat r.now with
    deviceStatusHistory := d.deviceStatusHistory ++ [{
      physicalDeviceId := r.deviceId
      oldStatus := device.status
      newStatus := .inactive
      changedAt := r.now
      reason := r.reason
      source := "decommission"
      changedBy := r.changedBy }] }

def decommissionStmt (r : DecommissionRequest) :
    DecommissionPhase → Stmt LicenseRow LicenseDb DecommissionPhase
  | .start =>
      .lock (fun d ↦ (Rows.get PhysicalDevice.id r.deviceId d.physicalDevices).map fun x ↦
          .device x.id)
        fun d ↦
          match Rows.get PhysicalDevice.id r.deviceId d.physicalDevices with
          | none => .settled none
          | some device => .locked device
  | .locked device =>
      .run fun d ↦
        if device.status = .inactive then
          .settled (some {
            deviceId := r.deviceId, status := .inactive, transitioned := false
            seatReleased := false })
        else if device.status ≠ .active then
          .settled (some {
            deviceId := r.deviceId, status := device.status, transitioned := false
            seatReleased := false, error := some "INVALID_TRANSITION"
            message := some "Невозможно вывести устройство из текущего статуса." })
        else .retiring device (openSeat r.deviceId d)
  | .retiring device seat => .commit (commitRetirement r device seat)
  | .settled _ => .commit some

/-! ## Both -/

inductive LicenseTx
  | enroll (r : EnrollRequest) (phase : EnrollPhase)
  | decommission (r : DecommissionRequest) (phase : DecommissionPhase)
  deriving DecidableEq, Repr

def licenseStmt : LicenseTx → Stmt LicenseRow LicenseDb LicenseTx
  | .enroll r phase => (enrollStmt r phase).map (.enroll r)
  | .decommission r phase => (decommissionStmt r phase).map (.decommission r)

end RetailMedia
