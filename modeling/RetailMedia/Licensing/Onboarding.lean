import RetailMedia.Licensing.Fleet

/-! Devices that register themselves with a one-time code: the claim of the code, the enrollment
and the binding, in one transaction. -/

namespace RetailMedia

open Interleaving

/-! ## Tables -/

inductive OnboardingCodeStatus
  | active
  | claimed
  | used
  | expired
  | revoked
  deriving DecidableEq, Repr

structure DeviceOnboardingCode where
  id : String
  code : String
  retailerId : String
  storeId : Option String := none
  deviceTypeId : Option String := none
  status : OnboardingCodeStatus := .active
  hardwareFingerprintBound : Option String := none
  physicalDeviceId : Option String := none
  expiresAt : Int
  usedAt : Option Int := none
  deriving DecidableEq, Repr

/-- The codes, the license tables, the fingerprint column of the devices, by device id, and the
ids that a device refers to; then whether the role of the service is exempt from row security
(`rolsuper` or `rolbypassrls`). -/
structure OnboardDb where
  codes : List DeviceOnboardingCode := []
  license : LicenseDb := {}
  fingerprints : List (String × String) := []
  stores : List String := []
  deviceTypes : List String := []
  retailers : List String := []
  bypassesRls : Bool := false

inductive OnboardRow
  | code (code : String)
  | license (row : LicenseRow)
  deriving DecidableEq, Repr

/-! ## Requests -/

/-- A request, with the times of its statements and the keys that it draws. -/
structure OnboardRequest where
  deviceCode : String
  hardwareFingerprint : String
  claimedAt : Int
  checkedAt : Int
  boundAt : Int
  deviceId : String
  seatId : String
  deriving DecidableEq, Repr

structure OnboardResponse where
  deviceId : String
  status : DeviceStatus
  accessToken : String
  tokenType : String := "bearer"
  licenseState : Option EffectiveState := none
  deriving DecidableEq, Repr

inductive OnboardError
  | http (statusCode : Nat) (code message : String)
  | raised
  deriving DecidableEq, Repr

inductive OnboardPhase
  | start
  | unclaimed
  | used (code : DeviceOnboardingCode)
  | claimed
  | checked
  | enrolling (code : DeviceOnboardingCode) (phase : EnrollPhase)
  | bound (c : SeatCheck) (code : DeviceOnboardingCode) (device : PhysicalDevice)
      (seat : LicenseSeat)
  | answered (response : Except OnboardError OnboardResponse)

/-! ## Queries and updates -/

/-- The codes under the policies of migration 022, which are forced and ask for an administrator or
a retailer scope: until the choke point a request without a token has set neither. -/
def OnboardDb.visibleCodes (d : OnboardDb) : List DeviceOnboardingCode :=
  if d.bypassesRls then d.codes else []

def OnboardDb.getOnboardingCode (d : OnboardDb) (deviceCode : String) :
    Option DeviceOnboardingCode :=
  Rows.get DeviceOnboardingCode.code deviceCode d.visibleCodes

/-- The devices with a fingerprint; more than one is an error. -/
def OnboardDb.devicesByFingerprint (d : OnboardDb) (fingerprint : String) : List PhysicalDevice :=
  d.license.physicalDevices.filter fun x ↦ d.fingerprints.contains (x.id, fingerprint)

/-- The condition of the claim's UPDATE. -/
def OnboardRequest.claims (r : OnboardRequest) (c : DeviceOnboardingCode) : Bool :=
  c.code = r.deviceCode ∧ c.status = .active ∧ c.expiresAt > r.claimedAt

def OnboardRequest.claimsIn (r : OnboardRequest) (d : OnboardDb) : Bool :=
  d.visibleCodes.any r.claims

/-- What the claim and the binding together make of the code's row. -/
def OnboardRequest.bind (r : OnboardRequest) (device : PhysicalDevice)
    (c : DeviceOnboardingCode) : DeviceOnboardingCode :=
  { c with
    status := .used
    hardwareFingerprintBound := some r.hardwareFingerprint
    physicalDeviceId := some device.id
    usedAt := some r.boundAt }

def defaultStoreId : String := "00000000-0000-0000-0000-000000000003"

def OnboardRequest.enrollment (r : OnboardRequest) (code : DeviceOnboardingCode) :
    EnrollRequest where
  now := r.checkedAt
  deviceId := r.deviceId
  seatId := r.seatId
  storeId := (code.storeId.filter (· ≠ "")).getD defaultStoreId
  deviceTypeId := code.deviceTypeId.getD ""
  hardwareFingerprint := r.hardwareFingerprint
  retailerId := some code.retailerId

/-- The constraints of `physical_devices`: a device has a store, a type and a retailer, each of them
a row, and its code is unique. -/
def OnboardDb.takesDevice (d : OnboardDb) (code : DeviceOnboardingCode) (device : PhysicalDevice) :
    Bool :=
  device.storeId ∈ d.stores ∧ code.deviceTypeId.any (· ∈ d.deviceTypes) ∧
    device.retailerId.any (· ∈ d.retailers) ∧
    device.code ∉ d.license.physicalDevices.map (·.code)

/-- The device, its seat and the binding, under the constraints of the tables. -/
def commitOnboarding (r : OnboardRequest) (code : DeviceOnboardingCode) (device : PhysicalDevice)
    (seat : LicenseSeat) (d : OnboardDb) : Option OnboardDb :=
  if d.takesDevice code device then
    (commitSeat device seat d.license).map fun license ↦ { d with
      codes := Rows.updateWhere (·.code = r.deviceCode) (r.bind device) d.codes
      license := license
      fingerprints := d.fingerprints ++ [(device.id, r.hardwareFingerprint)] }
  else none

/-! ## The route -/

def forbidden (code message : String) : OnboardPhase := .answered (.error (.http 403 code message))

def diagnoseCode (r : OnboardRequest) (d : OnboardDb) : OnboardPhase :=
  match d.getOnboardingCode r.deviceCode with
  | none => forbidden "INVALID_CODE" "Device code not found"
  | some code =>
      if code.status = .revoked then forbidden "CODE_REVOKED" "Device code has been revoked"
      else if code.status = .used then .used code
      else if code.status = .expired ∨ code.expiresAt < r.checkedAt then
        forbidden "CODE_EXPIRED" "Device code has expired"
      else forbidden "INVALID_CODE" "Device code is not active"

section Route

variable (createAccessToken : String → String → String)

/-- A used code is good for the device that it is bound to. -/
def reonboard (r : OnboardRequest) (code : DeviceOnboardingCode) (d : OnboardDb) : OnboardPhase :=
  if storableText r.hardwareFingerprint then
    match d.devicesByFingerprint r.hardwareFingerprint with
    | [] => forbidden "CODE_ALREADY_USED" "Device code has already been used"
    | [existing] =>
        if code.physicalDeviceId = some existing.id then
          .answered (.ok {
            deviceId := existing.id
            status := existing.status
            accessToken := createAccessToken existing.id "device" })
        else forbidden "CODE_ALREADY_USED" "Device code has already been used"
    | _ => .answered (.error .raised)
  else .answered (.error .raised)

def checkFingerprint (r : OnboardRequest) (d : OnboardDb) : OnboardPhase :=
  if storableText r.hardwareFingerprint then
    match d.devicesByFingerprint r.hardwareFingerprint with
    | [] => .checked
    | [_] => forbidden "FINGERPRINT_CONFLICT"
        ("Hardware fingerprint is already registered with a different device. " ++
          "Use the original onboarding code for idempotent re-onboarding.")
    | _ => .answered (.error .raised)
  else .answered (.error .raised)

/-- A request with an error has nothing to write: its claim is rolled back with the rest. -/
def onboardStmt (r : OnboardRequest) : OnboardPhase → Stmt OnboardRow OnboardDb OnboardPhase
  | .start =>
      .lock (fun d ↦ if r.claimsIn d then some (.code r.deviceCode) else none) fun d ↦
        if r.claimsIn d then .claimed
        else if storableText r.deviceCode then .unclaimed
        else .answered (.error .raised)
  | .unclaimed => .run (diagnoseCode r)
  | .used code => .run (reonboard createAccessToken r code)
  | .claimed => .run (checkFingerprint r)
  | .checked => .run fun d ↦
      match d.getOnboardingCode r.deviceCode with
      | none => .answered (.error .raised)
      | some code => .enrolling code .start
  | .enrolling code (.reserved c device seat) => .run fun _ ↦ .bound c code device seat
  | .enrolling _ (.denied decision) => .run fun _ ↦
      .answered (.error (.http 409 (decision.code.getD "") (decision.message.getD "")))
  | .enrolling code phase =>
      ((enrollStmt (r.enrollment code) phase).within OnboardDb.license
        (fun d license ↦ { d with license := license }) (.enrolling code)).onRows .license
  | .bound _ code device seat => .commit (commitOnboarding r code device seat)
  | .answered _ => .commit some

structure OnboardTx where
  request : OnboardRequest
  phase : OnboardPhase := .start

def onboardTxStmt (x : OnboardTx) : Stmt OnboardRow OnboardDb OnboardTx :=
  (onboardStmt createAccessToken x.request x.phase).map fun phase ↦ { x with phase := phase }

/-- The answer that a request has once its transaction has ended. -/
def OnboardPhase.response : OnboardPhase → Option (Except OnboardError OnboardResponse)
  | .answered response => some response
  | .bound c _ device _ => some (.ok {
      deviceId := device.id
      status := device.status
      accessToken := createAccessToken device.id "device"
      licenseState := some c.state })
  | _ => none

end Route

end RetailMedia
