import RetailMedia.Licensing.SingleUse

/-! Devices that onboard one after the other: the code of a device is cut from its fingerprint. -/

namespace RetailMedia

open Interleaving

section Route

variable (createAccessToken : String → String → String)

/-- A request alone; there is nothing when a constraint of the tables fails. -/
def deviceOnboard (d : OnboardDb) (r : OnboardRequest) : Option (OnboardDb × OnboardTx) :=
  alone (onboardTxStmt createAccessToken) 10 d { request := r }

def onboardNext (d : OnboardDb) (r : OnboardRequest) : OnboardDb :=
  ((deviceOnboard createAccessToken d r).map (·.1)).getD d

/-- The request is answered with the device that it has created. -/
def Onboards (d : OnboardDb) (r : OnboardRequest) : Prop :=
  ∃ d' x response device, deviceOnboard createAccessToken d r = some (d', x) ∧
    x.phase.response createAccessToken = some (.ok response) ∧ response.deviceId = r.deviceId ∧
    device.id = r.deviceId ∧ r.deviceId ∉ d.license.physicalDevices.map (·.id) ∧
    d'.license.physicalDevices = d.license.physicalDevices ++ [device]

end Route

/-- What the route cuts from the fingerprint. -/
def OnboardRequest.newDeviceCode (r : OnboardRequest) : String :=
  firstChars 64 r.hardwareFingerprint

/-- The device and the seat that the request commits. -/
def OnboardRequest.device (r : OnboardRequest) (code : DeviceOnboardingCode) : PhysicalDevice :=
  createPhysicalDeviceOnboard (r.enrollment code)

def OnboardRequest.seat (r : OnboardRequest) (code : DeviceOnboardingCode) (grantId : String) :
    LicenseSeat := reserveSeat (r.enrollment code) grantId (r.device code).id

theorem device_id (r : OnboardRequest) (code : DeviceOnboardingCode) :
    (r.device code).id = r.deviceId := rfl

theorem device_code (r : OnboardRequest) (code : DeviceOnboardingCode) :
    (r.device code).code = r.newDeviceCode := by
  have hempty : (r.enrollment code).code = "" := rfl
  show (if (r.enrollment code).code = "" then firstChars 64 (r.enrollment code).hardwareFingerprint
    else (r.enrollment code).code) = r.newDeviceCode
  rw [if_pos hempty]
  rfl

/-- What the request schema admits. -/
def OnboardRequest.admitted (r : OnboardRequest) : Bool :=
  8 ≤ r.deviceCode.length ∧ r.deviceCode.length ≤ 128 ∧ 1 ≤ r.hardwareFingerprint.length ∧
    r.hardwareFingerprint.length ≤ 255

/-- The store of a device that registers with the code. -/
def DeviceOnboardingCode.storeOrDefault (c : DeviceOnboardingCode) : String :=
  (c.storeId.filter (· ≠ "")).getD defaultStoreId

/-- The code names the type and the retailer of its device, and its store, or the one that the route
falls back to, is a row. -/
def DeviceOnboardingCode.Places (c : DeviceOnboardingCode) (d : OnboardDb) : Prop :=
  c.deviceTypeId ≠ none ∧ c.retailerId ≠ "" ∧ c.storeOrDefault ∈ d.stores

instance (c : DeviceOnboardingCode) (d : OnboardDb) : Decidable (c.Places d) :=
  inferInstanceAs (Decidable (c.deviceTypeId ≠ none ∧ c.retailerId ≠ "" ∧
    c.storeOrDefault ∈ d.stores))

/-- The code of the request is there and places its device. -/
def OnboardDb.Placed (d : OnboardDb) (r : OnboardRequest) : Prop :=
  ∃ c ∈ d.codes, c.code = r.deviceCode ∧ c.Places d

/-- What the constraints of `device_onboarding_codes` guarantee. -/
structure OnboardDb.CodesConsistent (d : OnboardDb) : Prop where
  stored : ∀ c ∈ d.codes, storableText c.code = true
  types : ∀ c ∈ d.codes, ∀ t ∈ c.deviceTypeId, t ∈ d.deviceTypes
  retailers : ∀ c ∈ d.codes, c.retailerId ∈ d.retailers

/-- Each request has its own valid code, a fingerprint of its own that is not yet registered, keys
that are new, a license that lets devices in, and there are seats for all. -/
structure OnboardReady (d : OnboardDb) (l : List OnboardRequest) : Prop where
  keyed : d.Keyed
  consistent : d.CodesConsistent
  admitted : ∀ r ∈ l, r.admitted = true
  codes : (l.map (·.deviceCode)).Nodup
  active : ∀ r ∈ l, ∃ c ∈ d.codes, r.claims c = true
  fingerprints : (l.map (·.hardwareFingerprint)).Nodup
  unregistered : ∀ r ∈ l, r.hardwareFingerprint ∉ d.fingerprints.map (·.2)
  deviceIds : (l.map (·.deviceId)).Nodup
  newDevice : ∀ r ∈ l, r.deviceId ∉ d.license.physicalDevices.map (·.id)
  seatIds : (l.map (·.seatId)).Nodup
  newSeat : ∀ r ∈ l, r.seatId ∉ d.license.licenseSeats.map (·.id)
  licensed : ∃ grant, d.license.effectiveGrant = some grant ∧
    (∀ r ∈ l, stateDenial (computeEffectiveState (some grant) r.checkedAt) = none) ∧
    (countOccupiedSeats d.license : Int) + l.length ≤ capacityOf grant

/-! ## One request -/

section Step

variable {createAccessToken : String → String → String} {d : OnboardDb} {r : OnboardRequest}

theorem deviceOnboard_start : deviceOnboard createAccessToken d r =
    alone (onboardTxStmt createAccessToken) 9 d
      ⟨r, if r.claimsIn d then .claimed
        else if storableText r.deviceCode then .unclaimed
        else .answered (.error .raised)⟩ := rfl

/-- With a grant that lets devices in and a seat that is free, the count ends in a seat check. -/
theorem alone_counted {code : DeviceOnboardingCode} {grant : LicenseGrant} {fuel : Nat}
    (hstate : stateDenial (computeEffectiveState (some grant) r.checkedAt) = none)
    (hfree : (countOccupiedSeats d.license : Int) < capacityOf grant) :
    alone (onboardTxStmt createAccessToken) (fuel + 1) d
        ⟨r, .enrolling code (.locked (some grant))⟩ =
      alone (onboardTxStmt createAccessToken) fuel d
        ⟨r, .enrolling code (.counted ⟨grant, computeEffectiveState (some grant) r.checkedAt,
          countOccupiedSeats d.license⟩)⟩ := by
  have hcheck : checkSeats grant (computeEffectiveState (some grant) r.checkedAt) d.license =
      .counted ⟨grant, computeEffectiveState (some grant) r.checkedAt,
        countOccupiedSeats d.license⟩ := by
    unfold checkSeats
    exact if_neg (not_le.2 hfree)
  have henroll : enrollStmt (r.enrollment code) (.locked (some grant)) =
      .run (checkSeats grant (computeEffectiveState (some grant) r.checkedAt)) := by
    unfold enrollStmt
    dsimp only [OnboardRequest.enrollment]
    rw [hstate]
  have hstmt : onboardTxStmt createAccessToken ⟨r, .enrolling code (.locked (some grant))⟩ =
      .run fun d ↦ ⟨r, .enrolling code
        (checkSeats grant (computeEffectiveState (some grant) r.checkedAt) d.license)⟩ := by
    show Stmt.map _ (Stmt.onRows _ (Stmt.within _ _ _ (enrollStmt (r.enrollment code)
      (.locked (some grant))))) = _
    rw [henroll]
    rfl
  rw [← hcheck, alone, hstmt]

/-- The phases of a request that has a code, a new fingerprint and a seat, up to its commit. -/
theorem deviceOnboard_eq {code : DeviceOnboardingCode} {grant : LicenseGrant}
    (hclaims : r.claimsIn d = true) (hchecked : checkFingerprint r d = .checked)
    (hcode : d.getOnboardingCode r.deviceCode = some code)
    (hgrant : d.license.effectiveGrant = some grant)
    (hstate : stateDenial (computeEffectiveState (some grant) r.checkedAt) = none)
    (hfree : (countOccupiedSeats d.license : Int) < capacityOf grant) :
    deviceOnboard createAccessToken d r =
      (commitOnboarding r code (r.device code) (r.seat code grant.id) d).map fun d' ↦
        (d', ⟨r, .bound ⟨grant, computeEffectiveState (some grant) r.checkedAt,
          countOccupiedSeats d.license⟩ code (r.device code) (r.seat code grant.id)⟩) := by
  -- each statement takes one unit of fuel: claim, fingerprint, code, grant, count
  have hclaimed : alone (onboardTxStmt createAccessToken) 9 d ⟨r, .claimed⟩ =
      alone (onboardTxStmt createAccessToken) 8 d ⟨r, checkFingerprint r d⟩ := rfl
  have henter : alone (onboardTxStmt createAccessToken) 8 d ⟨r, .checked⟩ =
      alone (onboardTxStmt createAccessToken) 7 d ⟨r, .enrolling code .start⟩ := by
    show alone (onboardTxStmt createAccessToken) 7 d ⟨r, _⟩ = _
    dsimp only
    rw [hcode]
  have hlocked : alone (onboardTxStmt createAccessToken) 7 d ⟨r, .enrolling code .start⟩ =
      alone (onboardTxStmt createAccessToken) 6 d
        ⟨r, .enrolling code (.locked d.license.effectiveGrant)⟩ := rfl
  rw [deviceOnboard_start, if_pos hclaims, hclaimed, hchecked, henter, hlocked, hgrant,
    alone_counted hstate hfree]
  rfl

theorem claims_code {code : DeviceOnboardingCode} (h : r.claims code = true) :
    code.code = r.deviceCode ∧ code.status = .active := by
  unfold OnboardRequest.claims at h
  rw [decide_eq_true_eq] at h
  exact ⟨h.1, h.2.1⟩

/-- The code of a request that is ready, as the lookup finds it. -/
theorem OnboardReady.getCode {l : List OnboardRequest} (h : OnboardReady d l) (hr : r ∈ l)
    (hvisible : d.bypassesRls = true) :
    ∃ code, d.getOnboardingCode r.deviceCode = some code ∧ r.claims code = true := by
  obtain ⟨code, hcode, hclaims⟩ := h.active r hr
  have hsame := (claims_code hclaims).1
  have hall : d.visibleCodes = d.codes := if_pos hvisible
  refine ⟨code, ?_, hclaims⟩
  unfold OnboardDb.getOnboardingCode
  rw [hall]
  exact (Rows.get_eq_some h.keyed.codes).2 ⟨hcode, hsame⟩

/-- A role under row security finds no code, and the request is turned away. -/
theorem deviceOnboard_hidden (hvisible : d.bypassesRls = false)
    (hcode : storableText r.deviceCode = true) :
    deviceOnboard createAccessToken d r =
      some (d, ⟨r, forbidden "INVALID_CODE" "Device code not found"⟩) := by
  have hnone : d.visibleCodes = [] := if_neg (by rw [hvisible]; decide)
  have hclaims : r.claimsIn d = false := by
    unfold OnboardRequest.claimsIn
    rw [hnone]
    rfl
  have hdiagnose : diagnoseCode r d = forbidden "INVALID_CODE" "Device code not found" := by
    unfold diagnoseCode OnboardDb.getOnboardingCode
    rw [hnone]
    rfl
  rw [deviceOnboard_start, hclaims, if_neg Bool.false_ne_true, if_pos hcode]
  show alone (onboardTxStmt createAccessToken) 8 d ⟨r, diagnoseCode r d⟩ = _
  rw [hdiagnose]
  rfl

/-- The query for the fingerprint fails when the database cannot hold it. -/
theorem deviceOnboard_unstorable (hclaims : r.claimsIn d = true)
    (hfingerprint : storableText r.hardwareFingerprint = false) :
    deviceOnboard createAccessToken d r = some (d, ⟨r, .answered (.error .raised)⟩) := by
  have hchecked : checkFingerprint r d = .answered (.error .raised) :=
    if_neg (by rw [hfingerprint]; decide)
  rw [deviceOnboard_start, if_pos hclaims]
  show alone (onboardTxStmt createAccessToken) 8 d ⟨r, checkFingerprint r d⟩ = _
  rw [hchecked]
  rfl

theorem not_onboards_of_error {e : OnboardError}
    (h : deviceOnboard createAccessToken d r = some (d, ⟨r, .answered (.error e)⟩)) :
    ¬ Onboards createAccessToken d r := by
  rintro ⟨d', x, response, device, hsome, hok, -⟩
  rw [h] at hsome
  cases hsome
  cases hok

theorem devicesByFingerprint_nil {fingerprint : String}
    (h : fingerprint ∉ d.fingerprints.map (·.2)) : d.devicesByFingerprint fingerprint = [] := by
  unfold OnboardDb.devicesByFingerprint
  rw [List.filter_eq_nil_iff]
  intro x _ hcontains
  apply h
  rw [List.contains_iff_mem] at hcontains
  exact List.mem_map_of_mem hcontains

theorem checkFingerprint_checked (hnew : r.hardwareFingerprint ∉ d.fingerprints.map (·.2))
    (hstored : storableText r.hardwareFingerprint = true) : checkFingerprint r d = .checked := by
  unfold checkFingerprint
  rw [if_pos hstored, devicesByFingerprint_nil hnew]

/-- The references of a device to its type and its retailer follow those of its code. -/
theorem takesDevice_iff (h : d.CodesConsistent) {code : DeviceOnboardingCode}
    (hcode : code ∈ d.codes) :
    d.takesDevice code (r.device code) = true ↔
      code.Places d ∧ r.newDeviceCode ∉ d.license.physicalDevices.map (·.code) := by
  have htype : code.deviceTypeId.any (· ∈ d.deviceTypes) = true ↔ code.deviceTypeId ≠ none := by
    cases htype : code.deviceTypeId with
    | none => simp
    | some t => simp [h.types code hcode t htype]
  have hretailer : (r.device code).retailerId.any (· ∈ d.retailers) = true ↔
      code.retailerId ≠ "" := by
    have hfilter : (r.device code).retailerId = (some code.retailerId).filter (· ≠ "") := rfl
    rw [hfilter]
    by_cases hempty : code.retailerId = ""
    · simp [hempty]
    · simp [hempty, h.retailers code hcode]
  have hstore : (r.device code).storeId = code.storeOrDefault := rfl
  unfold OnboardDb.takesDevice DeviceOnboardingCode.Places
  rw [decide_eq_true_eq, htype, hretailer, hstore, device_code]
  tauto

/-- With keys that are new and a seat that is free, only the constraints on the device can fail. -/
theorem commitOnboarding_iff {l : List OnboardRequest} (h : OnboardReady d l) (hr : r ∈ l)
    {code : DeviceOnboardingCode} (hcode : code ∈ d.codes) (grantId : String) :
    (commitOnboarding r code (r.device code) (r.seat code grantId) d).isSome = true ↔
      code.Places d ∧ r.newDeviceCode ∉ d.license.physicalDevices.map (·.code) := by
  have hopen : d.license.licenseSeats.any (fun s ↦ s.deviceId = (r.seat code grantId).deviceId ∧
      s.releasedAt = none) = false := by
    rw [List.any_eq_false]
    intro s hs hsame
    rw [decide_eq_true_eq] at hsame
    apply h.newDevice r hr
    have hdevice : s.deviceId = r.deviceId := hsame.1
    rw [← hdevice]
    exact h.keyed.license.seats s hs
  have hcommit : commitSeat (r.device code) (r.seat code grantId) d.license =
      some (d.license.addSeat (r.device code) (r.seat code grantId)) := by
    unfold commitSeat
    apply if_neg
    rintro (hid | hseat | hany)
    · exact h.newDevice r hr hid
    · exact h.newSeat r hr hseat
    · rw [hopen] at hany
      cases hany
  rw [← takesDevice_iff h.consistent hcode]
  unfold commitOnboarding
  rw [hcommit]
  split
  · rename_i htakes
    exact ⟨fun _ ↦ htakes, fun _ ↦ rfl⟩
  · rename_i hrefuses
    constructor
    · intro hnone
      cases hnone
    · exact fun htakes ↦ absurd htakes hrefuses

end Step

/-! ## One request after the other -/

/-- A key that comes once at the head of the list is none of the others'. -/
theorem key_ne_of_nodup {α β : Type*} {key : α → β} {x y : α} {l : List α}
    (h : ((x :: l).map key).Nodup) (hy : y ∈ l) : key y ≠ key x := by
  intro hsame
  apply (List.nodup_cons.1 h).1
  rw [← hsame]
  exact List.mem_map_of_mem hy

/-- A key that is new beside those there stays so when the head's joins them. -/
theorem key_not_mem_concat {α β : Type*} {key : α → β} {x y : α} {l : List α} {m : List β}
    (h : ((x :: l).map key).Nodup) (hy : y ∈ l) (hm : key y ∉ m) : key y ∉ m ++ [key x] := by
  rw [List.mem_append, List.mem_singleton, not_or]
  exact ⟨hm, key_ne_of_nodup h hy⟩

section Run

variable {createAccessToken : String → String → String} {d : OnboardDb} {r : OnboardRequest}
  {l : List OnboardRequest}

/-- A request that is ready runs to its commit. -/
structure OnboardRun (createAccessToken : String → String → String) (d : OnboardDb)
    (r : OnboardRequest) (c : SeatCheck) (code : DeviceOnboardingCode) : Prop where
  mem : code ∈ d.codes
  claims : r.claims code = true
  run : deviceOnboard createAccessToken d r =
    (commitOnboarding r code (r.device code) (r.seat code c.grant.id) d).map fun d' ↦
      (d', ⟨r, .bound c code (r.device code) (r.seat code c.grant.id)⟩)
  commits : (commitOnboarding r code (r.device code) (r.seat code c.grant.id) d).isSome = true ↔
    code.Places d ∧ r.newDeviceCode ∉ d.license.physicalDevices.map (·.code)

theorem OnboardReady.claimsIn (h : OnboardReady d l) (hr : r ∈ l)
    (hvisible : d.bypassesRls = true) : r.claimsIn d = true := by
  obtain ⟨code, hcode, hclaims⟩ := h.active r hr
  have hall : d.visibleCodes = d.codes := if_pos hvisible
  unfold OnboardRequest.claimsIn
  rw [hall]
  exact List.any_eq_true.2 ⟨code, hcode, hclaims⟩

variable (createAccessToken) in
theorem OnboardReady.run (h : OnboardReady d (r :: l)) (hvisible : d.bypassesRls = true)
    (hstored : storableText r.hardwareFingerprint = true) :
    ∃ c code, OnboardRun createAccessToken d r c code := by
  have hr : r ∈ r :: l := List.mem_cons_self
  obtain ⟨code, hcode, hclaims⟩ := h.getCode hr hvisible
  obtain ⟨grant, hgrant, hstate, hcapacity⟩ := h.licensed
  have hmem := mem_visibleCodes (Rows.get_mem hcode)
  have hfree : (countOccupiedSeats d.license : Int) < capacityOf grant := by
    rw [List.length_cons] at hcapacity
    omega
  have hchecked := checkFingerprint_checked (h.unregistered r hr) hstored
  refine ⟨⟨grant, computeEffectiveState (some grant) r.checkedAt, countOccupiedSeats d.license⟩,
    code, hmem, hclaims, ?_, commitOnboarding_iff h hr hmem grant.id⟩
  exact deviceOnboard_eq (h.claimsIn hr hvisible) hchecked hcode hgrant (hstate r hr) hfree

theorem placed_iff (h : d.Keyed) {code : DeviceOnboardingCode} (hcode : code ∈ d.codes)
    (hclaims : r.claims code = true) : d.Placed r ↔ code.Places d := by
  constructor
  · rintro ⟨c, hc, hsame, hplaced⟩
    rw [← Rows.key_inj h.codes hc hcode (hsame.trans (claims_code hclaims).1.symm)]
    exact hplaced
  · exact fun hplaced ↦ ⟨code, hcode, (claims_code hclaims).1, hplaced⟩

/-- What a request that is ready still needs. -/
structure OnboardDb.Admits (d : OnboardDb) (r : OnboardRequest) : Prop where
  visible : d.bypassesRls = true
  stored : storableText r.hardwareFingerprint = true
  placed : d.Placed r
  new : r.newDeviceCode ∉ d.license.physicalDevices.map (·.code)

/-- A request that onboards has seen its code and could ask for its fingerprint. -/
theorem Onboards.reads (h : OnboardReady d (r :: l)) (hr : Onboards createAccessToken d r) :
    d.bypassesRls = true ∧ storableText r.hardwareFingerprint = true := by
  have hmem : r ∈ r :: l := List.mem_cons_self
  have hvisible : d.bypassesRls = true := by
    obtain ⟨code, hcode, hclaims⟩ := h.active r hmem
    have hstored := h.consistent.stored code hcode
    rw [(claims_code hclaims).1] at hstored
    by_contra hhidden
    exact not_onboards_of_error
      (deviceOnboard_hidden (Bool.not_eq_true _ ▸ hhidden) hstored) hr
  refine ⟨hvisible, ?_⟩
  by_contra hunstorable
  exact not_onboards_of_error (deviceOnboard_unstorable (h.claimsIn hmem hvisible)
    (Bool.not_eq_true _ ▸ hunstorable)) hr

/-- A request that is ready onboards exactly when row security lets it see its code, the database
can hold its fingerprint, the code places the device, and no device has the code that is cut from
the fingerprint. -/
theorem onboards_iff (h : OnboardReady d (r :: l)) :
    Onboards createAccessToken d r ↔ d.Admits r := by
  have hdevice : r.deviceId ∉ d.license.physicalDevices.map (·.id) :=
    h.newDevice r List.mem_cons_self
  constructor
  · intro hr
    obtain ⟨hvisible, hstored⟩ := hr.reads h
    obtain ⟨c, code, hrun⟩ := h.run createAccessToken hvisible hstored
    obtain ⟨d', x, response, device, hsome, -⟩ := hr
    have hcommits : (commitOnboarding r code (r.device code) (r.seat code c.grant.id) d).isSome =
        true := by
      rw [hrun.run] at hsome
      obtain ⟨d'', hcommit, -⟩ := Option.map_eq_some_iff.1 hsome
      rw [hcommit]
      rfl
    obtain ⟨hplaced, hnew⟩ := hrun.commits.1 hcommits
    exact ⟨hvisible, hstored, (placed_iff h.keyed hrun.mem hrun.claims).2 hplaced, hnew⟩
  · intro hadmits
    obtain ⟨c, code, hrun⟩ := h.run createAccessToken hadmits.visible hadmits.stored
    have hplaced := (placed_iff h.keyed hrun.mem hrun.claims).1 hadmits.placed
    obtain ⟨d', hcommit⟩ := Option.isSome_iff_exists.1 (hrun.commits.2 ⟨hplaced, hadmits.new⟩)
    refine ⟨d', ⟨r, .bound c code (r.device code) (r.seat code c.grant.id)⟩, _, r.device code, ?_,
      rfl, rfl, rfl, hdevice, ?_⟩
    · rw [hrun.run, hcommit]
      rfl
    · rw [(commitOnboarding_some hcommit).license]
      rfl

/-- A request that onboards commits its device, its seat and its fingerprint. -/
theorem OnboardReady.commit (h : OnboardReady d (r :: l)) (hr : Onboards createAccessToken d r) :
    ∃ c code, OnboardRun createAccessToken d r c code ∧
      commitOnboarding r code (r.device code) (r.seat code c.grant.id) d =
        some (onboardNext createAccessToken d r) := by
  obtain ⟨hvisible, hstored⟩ := hr.reads h
  obtain ⟨c, code, hrun⟩ := h.run createAccessToken hvisible hstored
  refine ⟨c, code, hrun, ?_⟩
  obtain ⟨d', x, response, device, hsome, -⟩ := hr
  unfold onboardNext
  rw [hsome]
  rw [hrun.run] at hsome
  obtain ⟨d'', hcommit, heq⟩ := Option.map_eq_some_iff.1 hsome
  cases heq
  exact hcommit

/-- The rows of the codes after a request, each with the columns that do not change. -/
theorem mem_codes_onboardNext {code : DeviceOnboardingCode} {device : PhysicalDevice}
    {seat : LicenseSeat} {d' : OnboardDb}
    (hcommit : commitOnboarding r code device seat d = some d') {k' : DeviceOnboardingCode}
    (hk' : k' ∈ d'.codes) :
    ∃ k ∈ d.codes, k'.code = k.code ∧ k'.deviceTypeId = k.deviceTypeId ∧
      k'.retailerId = k.retailerId ∧ k'.storeOrDefault = k.storeOrDefault := by
  rw [(commitOnboarding_some hcommit).codes] at hk'
  obtain ⟨k, hk, rfl⟩ := Rows.mem_updateWhere.1 hk'
  refine ⟨k, hk, ?_⟩
  split
  · exact ⟨rfl, rfl, rfl, rfl⟩
  · exact ⟨rfl, rfl, rfl, rfl⟩

theorem OnboardDb.CodesConsistent.next (h : d.CodesConsistent) {d' : OnboardDb}
    {code : DeviceOnboardingCode} {device : PhysicalDevice} {seat : LicenseSeat}
    (hcommit : commitOnboarding r code device seat d = some d') : d'.CodesConsistent := by
  have heq := (commitOnboarding_eq hcommit).2
  constructor
  · intro k' hk'
    obtain ⟨k, hk, hsame, -⟩ := mem_codes_onboardNext hcommit hk'
    rw [hsame]
    exact h.stored k hk
  · intro k' hk' t ht
    obtain ⟨k, hk, -, htype, -⟩ := mem_codes_onboardNext hcommit hk'
    rw [htype] at ht
    rw [heq]
    exact h.types k hk t ht
  · intro k' hk'
    obtain ⟨k, hk, -, -, hretailer, -⟩ := mem_codes_onboardNext hcommit hk'
    rw [hretailer, heq]
    exact h.retailers k hk

/-- What a request that onboards leaves to the ones after it. -/
theorem OnboardReady.next (h : OnboardReady d (r :: l)) (hr : Onboards createAccessToken d r) :
    OnboardReady (onboardNext createAccessToken d r) l := by
  obtain ⟨c, code, hrun, hcommit⟩ := h.commit hr
  have hwrites := commitOnboarding_some hcommit
  have heq := (commitOnboarding_eq hcommit).2
  generalize onboardNext createAccessToken d r = d' at *
  have htail {q : OnboardRequest} (hq : q ∈ l) : q ∈ r :: l := List.mem_cons_of_mem r hq
  obtain ⟨grant, hgrant, hstate, hcapacity⟩ := h.licensed
  constructor
  · exact hwrites.keyed h.keyed ⟨rfl, rfl⟩
  · exact h.consistent.next hcommit
  · exact fun q hq ↦ h.admitted q (htail hq)
  · exact (List.nodup_cons.1 h.codes).2
  · intro q hq
    obtain ⟨k, hk, hclaims⟩ := h.active q (htail hq)
    refine ⟨k, hwrites.mem hk ?_, hclaims⟩
    rw [(claims_code hclaims).1]
    exact key_ne_of_nodup h.codes hq
  · exact (List.nodup_cons.1 h.fingerprints).2
  · intro q hq
    rw [heq, List.map_append]
    exact key_not_mem_concat h.fingerprints hq (h.unregistered q (htail hq))
  · exact (List.nodup_cons.1 h.deviceIds).2
  · intro q hq
    rw [hwrites.license]
    show q.deviceId ∉ (d.license.physicalDevices ++ [r.device code]).map (·.id)
    rw [List.map_append]
    exact key_not_mem_concat h.deviceIds hq (h.newDevice q (htail hq))
  · exact (List.nodup_cons.1 h.seatIds).2
  · intro q hq
    rw [hwrites.license]
    show q.seatId ∉ (d.license.licenseSeats ++ [r.seat code c.grant.id]).map (·.id)
    rw [List.map_append]
    exact key_not_mem_concat h.seatIds hq (h.newSeat q (htail hq))
  · have hcount := countOccupied_addSeat h.keyed.license (r.device code)
      (r.seat code c.grant.id)
    rw [← hwrites.license] at hcount
    rw [List.length_cons] at hcapacity
    refine ⟨grant, ?_, fun q hq ↦ hstate q (htail hq), ?_⟩
    · rw [hwrites.license]
      exact (effectiveGrant_congr rfl).trans hgrant
    · omega

theorem onboardNext_codes (h : OnboardReady d (r :: l)) (hr : Onboards createAccessToken d r) :
    (onboardNext createAccessToken d r).license.physicalDevices.map (·.code) =
      d.license.physicalDevices.map (·.code) ++ [r.newDeviceCode] := by
  obtain ⟨c, code, hrun, hcommit⟩ := h.commit hr
  rw [(commitOnboarding_some hcommit).license]
  show (d.license.physicalDevices ++ [r.device code]).map (·.code) = _
  rw [List.map_append, List.map_singleton, device_code]

/-- Where codes place devices stays as it is. -/
theorem onboardNext_placed (h : OnboardReady d (r :: l)) (hr : Onboards createAccessToken d r)
    (q : OnboardRequest) : (onboardNext createAccessToken d r).Placed q ↔ d.Placed q := by
  obtain ⟨c, code, hrun, hcommit⟩ := h.commit hr
  have hstores : (onboardNext createAccessToken d r).stores = d.stores := by
    rw [(commitOnboarding_eq hcommit).2]
  unfold OnboardDb.Placed DeviceOnboardingCode.Places
  rw [hstores]
  constructor
  · rintro ⟨k', hk', hsame, hplaced⟩
    obtain ⟨k, hk, hcode, htype, hretailer, hstore⟩ := mem_codes_onboardNext hcommit hk'
    rw [htype, hretailer, hstore] at hplaced
    exact ⟨k, hk, hcode.symm.trans hsame, hplaced⟩
  · rintro ⟨k, hk, hsame, hplaced⟩
    rw [(commitOnboarding_some hcommit).codes]
    refine ⟨_, Rows.mem_updateWhere.2 ⟨k, hk, rfl⟩, ?_⟩
    split
    · exact ⟨hsame, hplaced⟩
    · exact ⟨hsame, hplaced⟩

theorem onboardNext_bypassesRls (h : OnboardReady d (r :: l))
    (hr : Onboards createAccessToken d r) :
    (onboardNext createAccessToken d r).bypassesRls = d.bypassesRls := by
  obtain ⟨c, code, hrun, hcommit⟩ := h.commit hr
  rw [(commitOnboarding_eq hcommit).2]

/-! ## All requests -/

/-- Row security lets the requests see their codes, the database can hold their fingerprints, their
codes place the devices, and the codes cut from the fingerprints are distinct and not those of
devices that are there. -/
structure OnboardDb.AdmitsAll (d : OnboardDb) (l : List OnboardRequest) : Prop where
  visible : ∀ r ∈ l, d.bypassesRls = true
  stored : ∀ r ∈ l, storableText r.hardwareFingerprint = true
  placed : ∀ r ∈ l, d.Placed r
  distinct : (l.map (·.newDeviceCode)).Nodup
  new : ∀ r ∈ l, r.newDeviceCode ∉ d.license.physicalDevices.map (·.code)

theorem OnboardDb.AdmitsAll.head (h : d.AdmitsAll (r :: l)) : d.Admits r where
  visible := h.visible r List.mem_cons_self
  stored := h.stored r List.mem_cons_self
  placed := h.placed r List.mem_cons_self
  new := h.new r List.mem_cons_self

theorem admitsAll_cons (h : OnboardReady d (r :: l)) (hr : Onboards createAccessToken d r) :
    d.AdmitsAll (r :: l) ↔ (onboardNext createAccessToken d r).AdmitsAll l := by
  have hstep := (onboards_iff h).1 hr
  have hcodes := onboardNext_codes h hr
  have hplaced := onboardNext_placed h hr
  constructor
  · intro hd
    constructor
    · intro q hq
      rw [onboardNext_bypassesRls h hr]
      exact hstep.visible
    · exact fun q hq ↦ hd.stored q (List.mem_cons_of_mem r hq)
    · exact fun q hq ↦ (hplaced q).2 (hd.placed q (List.mem_cons_of_mem r hq))
    · exact (List.nodup_cons.1 hd.distinct).2
    · intro q hq
      rw [hcodes]
      exact key_not_mem_concat hd.distinct hq (hd.new q (List.mem_cons_of_mem r hq))
  · intro hd
    have hnew {q : OnboardRequest} (hq : q ∈ l) :
        q.newDeviceCode ∉ d.license.physicalDevices.map (·.code) ∧
          q.newDeviceCode ≠ r.newDeviceCode := by
      have hmem := hd.new q hq
      rw [hcodes, List.mem_append, not_or, List.mem_singleton] at hmem
      exact hmem
    constructor
    · exact fun _ _ ↦ hstep.visible
    · intro q hq
      rcases List.mem_cons.1 hq with rfl | hq
      · exact hstep.stored
      · exact hd.stored q hq
    · intro q hq
      rcases List.mem_cons.1 hq with rfl | hq
      · exact hstep.placed
      · exact (hplaced q).1 (hd.placed q hq)
    · rw [List.map_cons, List.nodup_cons]
      refine ⟨?_, hd.distinct⟩
      intro hmem
      obtain ⟨q, hq, hsame⟩ := List.mem_map.1 hmem
      exact (hnew hq).2 hsame
    · intro q hq
      rcases List.mem_cons.1 hq with rfl | hq
      · exact hstep.new
      · exact (hnew hq).1

/-- Devices that are ready and come one after the other all onboard, exactly when row security lets
the service see their codes, the database can hold their fingerprints, their codes place them, and
the codes cut from their fingerprints are distinct and new. -/
theorem onboarding_all_iff (createAccessToken : String → String → String) {d : OnboardDb}
    {l : List OnboardRequest} (h : OnboardReady d l) :
    Run.Guarded (onboardNext createAccessToken) (Onboards createAccessToken) d l ↔
      d.AdmitsAll l := by
  induction l generalizing d with
  | nil => exact ⟨fun _ ↦ ⟨nofun, nofun, nofun, List.nodup_nil, nofun⟩, fun _ ↦ trivial⟩
  | cons r l ih =>
      constructor
      · rintro ⟨hr, hrest⟩
        exact (admitsAll_cons h hr).2 ((ih (h.next hr)).1 hrest)
      · intro hd
        have hr : Onboards createAccessToken d r := (onboards_iff h).2 hd.head
        exact ⟨hr, (ih (h.next hr)).2 ((admitsAll_cons h hr).1 hd)⟩

end Run

/-! Two players whose fingerprints differ in their last character. -/

def longFingerprint (suffix : String) : OnboardRequest where
  deviceCode := "CODE-000" ++ suffix
  hardwareFingerprint := String.ofList (List.replicate 64 'a') ++ suffix
  claimedAt := 10
  checkedAt := 11
  boundAt := 12
  deviceId := "device-" ++ suffix
  seatId := "seat-" ++ suffix

def playerCode (suffix : String) : DeviceOnboardingCode where
  id := "onboarding-code-" ++ suffix
  code := "CODE-000" ++ suffix
  retailerId := "retailer-1"
  deviceTypeId := some "player"
  expiresAt := 100

def tenSeats : LicenseGrant where
  id := "grant-1"
  licenseId := "license-1"
  issuedAt := 0
  validFrom := 0
  maxDevices := 10

def newInstallation : OnboardDb where
  codes := [playerCode "1", playerCode "2"]
  license := { licenseGrants := [tenSeats] }
  stores := [defaultStoreId]
  deviceTypes := ["player"]
  retailers := ["retailer-1"]
  bypassesRls := true

theorem newInstallation_ready (l : List OnboardRequest)
    (hl : l = [longFingerprint "1", longFingerprint "2"] ∨ l = [longFingerprint "1"]) :
    OnboardReady newInstallation l := by
  have hkeyed : newInstallation.Keyed := ⟨by decide, by decide, nofun⟩
  have hconsistent : newInstallation.CodesConsistent :=
    ⟨by decide +kernel, by decide +kernel, by decide +kernel⟩
  have hgrant : newInstallation.license.effectiveGrant = some tenSeats := by decide +kernel
  rcases hl with rfl | rfl
  all_goals
    refine ⟨hkeyed, hconsistent, ?_, ?_, ?_, ?_, ?_, ?_, ?_, ?_, ?_, tenSeats, hgrant, ?_, ?_⟩
    all_goals decide +kernel

theorem same_prefix_not_onboarded : ¬ ∀ (d : OnboardDb) (l : List OnboardRequest),
    OnboardReady d l →
    Run.Guarded (onboardNext demoAccessToken) (Onboards demoAccessToken) d l := by
  intro h
  have hready := newInstallation_ready _ (.inl rfl)
  have hall := h newInstallation [longFingerprint "1", longFingerprint "2"] hready
  have hsecond := ((onboards_iff (hready.next hall.1)).1 hall.2.1).new
  rw [onboardNext_codes hready hall.1] at hsecond
  exact hsecond (by decide +kernel)

/-- One player is admitted, so it onboards. -/
theorem one_device_onboarded :
    OnboardReady newInstallation [longFingerprint "1"] ∧
    Run.Guarded (onboardNext demoAccessToken) (Onboards demoAccessToken) newInstallation
      [longFingerprint "1"] :=
  ⟨newInstallation_ready _ (.inr rfl),
    (onboarding_all_iff demoAccessToken (newInstallation_ready _ (.inr rfl))).2
      ⟨by decide, by decide +kernel, fun r hr ↦ ⟨playerCode "1", by decide +kernel, by
        rw [List.mem_singleton.1 hr]
        decide +kernel⟩, by decide +kernel, by decide +kernel⟩⟩

end RetailMedia
