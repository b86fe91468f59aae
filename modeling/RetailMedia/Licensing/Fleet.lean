import RetailMedia.Licensing.Enrollment

/-! The pass that seats the existing fleet, and the invariant that it shares with enrollment and
decommissioning. -/

namespace RetailMedia

open Interleaving

/-! ## Reconciliation -/

structure ReconciliationResult where
  scannedActive : Nat
  createdSeats : Nat
  overage : Bool := false
  deriving DecidableEq, Repr

/-- A call, with the key that it draws for each seat. -/
structure ReconcileRequest where
  now : Int
  seatId : String → String

def isOpenFor (deviceId : String) (s : LicenseSeat) : Bool :=
  s.deviceId = deviceId ∧ s.releasedAt = none

/-- Active devices without an open seat. -/
def missingSeats (d : LicenseDb) : List String :=
  (d.physicalDevices.filter fun x ↦
    x.status = .active ∧ ¬ d.licenseSeats.any (isOpenFor x.id)).map (·.id)

/-- How far the pass is; `todo` are the devices whose row the foreign key of the new seat has yet
to lock. -/
inductive ReconcilePhase
  | start
  | locked (grant : LicenseGrant)
  | inserting (grant : LicenseGrant) (todo done : List String)
  | seated (grant : LicenseGrant) (deviceIds : List String) (result : ReconciliationResult)
  | settled (result : ReconciliationResult)
  deriving DecidableEq, Repr

def ReconcileRequest.seat (r : ReconcileRequest) (grant : LicenseGrant) (deviceId : String) :
    LicenseSeat where
  id := r.seatId deviceId
  licenseId := grant.id
  deviceId := deviceId
  reservedAt := r.now

/-- Under the primary key, the foreign key and the index on open seats. -/
def insertSeat (d : LicenseDb) (seat : LicenseSeat) : Option LicenseDb :=
  if seat.id ∈ d.licenseSeats.map (·.id) ∨ seat.deviceId ∉ d.physicalDevices.map (·.id) ∨
      d.licenseSeats.any (isOpenFor seat.deviceId) then none
  else some { d with licenseSeats := d.licenseSeats ++ [seat] }

def insertSeats (d : LicenseDb) (seats : List LicenseSeat) : Option LicenseDb :=
  seats.foldlM insertSeat d

/-- The count that the pass makes sees the seats that it has inserted itself. -/
def LicenseDb.withSeats (d : LicenseDb) (seats : List LicenseSeat) : LicenseDb :=
  { d with licenseSeats := d.licenseSeats ++ seats }

def reconcileStmt (r : ReconcileRequest) :
    ReconcilePhase → Stmt LicenseRow LicenseDb ReconcilePhase
  | .start =>
      .lock (fun d ↦ d.effectiveGrant.map fun g ↦ .grant g.id) fun d ↦
        match d.effectiveGrant with
        | none => .settled { scannedActive := 0, createdSeats := 0 }
        | some grant => .locked grant
  | .locked grant => .run fun d ↦ .inserting grant (missingSeats d) []
  | .inserting grant (deviceId :: todo) done =>
      .lock (fun _ ↦ some (.device deviceId)) fun _ ↦ .inserting grant todo (deviceId :: done)
  | .inserting grant [] done => .run fun d ↦
      let occupied : Int := countOccupiedSeats (d.withSeats (done.reverse.map (r.seat grant)))
      .seated grant done {
        scannedActive := done.length
        createdSeats := done.length
        overage := occupied > capacityOf grant }
  | .seated grant done _ => .commit fun d ↦ insertSeats d (done.reverse.map (r.seat grant))
  | .settled _ => .commit some

/-! ## All three -/

inductive FleetTx
  | enroll (r : EnrollRequest) (phase : EnrollPhase)
  | decommission (r : DecommissionRequest) (phase : DecommissionPhase)
  | reconcile (r : ReconcileRequest) (phase : ReconcilePhase)

def fleetStmt : FleetTx → Stmt LicenseRow LicenseDb FleetTx
  | .enroll r phase => (enrollStmt r phase).map (.enroll r)
  | .decommission r phase => (decommissionStmt r phase).map (.decommission r)
  | .reconcile r phase => (reconcileStmt r phase).map (.reconcile r)

/-! ## The tables -/

/-- What the constraints of the tables guarantee: the index leaves a device one open seat. -/
structure LicenseDb.Consistent (d : LicenseDb) : Prop where
  keyed : d.WellKeyed
  oneOpen : ∀ s ∈ d.licenseSeats, ∀ q ∈ d.licenseSeats, s.releasedAt = none →
    q.releasedAt = none → s.deviceId = q.deviceId → s.id = q.id

/-- Every open seat belongs to an active device. -/
def LicenseDb.OpenSeatsActive (d : LicenseDb) : Prop :=
  ∀ s ∈ d.licenseSeats, s.releasedAt = none → d.deviceActive s.deviceId = true

def countOpenSeats (d : LicenseDb) : Nat := d.licenseSeats.countP (·.releasedAt = none)

/-- The ledger and the devices agree, and so do the two counts. -/
structure LicenseDb.SeatsAgree (d : LicenseDb) : Prop where
  active : d.OpenSeatsActive
  counts : countOpenSeats d = countOccupiedSeats d

theorem LicenseDb.OpenSeatsActive.agree {d : LicenseDb} (h : d.OpenSeatsActive) :
    d.SeatsAgree := by
  refine ⟨h, List.countP_congr fun s hs ↦ ?_⟩
  simp only [LicenseSeat.occupied, decide_eq_true_eq]
  exact ⟨fun hopen ↦ ⟨hopen, h s hs hopen⟩, fun hoccupied ↦ hoccupied.1⟩

theorem seatsAgree_iff {d : LicenseDb} : d.SeatsAgree ↔ d.OpenSeatsActive :=
  ⟨fun h ↦ h.active, fun h ↦ h.agree⟩

/-! ## What the commits write -/

theorem isOpenFor_iff {deviceId : String} {s : LicenseSeat} :
    isOpenFor deviceId s = true ↔ s.deviceId = deviceId ∧ s.releasedAt = none := by
  simp [isOpenFor]

/-- The pass adds its seats, each for a device that is there and had none open. -/
structure Seated (d d' : LicenseDb) (seats : List LicenseSeat) : Prop where
  seats : d'.licenseSeats = d.licenseSeats ++ seats
  devices : d'.physicalDevices = d.physicalDevices
  grants : d'.licenseGrants = d.licenseGrants
  consistent : d.Consistent → d'.Consistent

theorem insertSeat_seated {d d' : LicenseDb} {seat : LicenseSeat}
    (h : insertSeat d seat = some d') : Seated d d' [seat] := by
  unfold insertSeat at h
  split at h
  · cases h
  · rename_i hkeys
    have hdevice : seat.deviceId ∈ d.physicalDevices.map (·.id) := by
      by_contra hmissing
      exact hkeys (.inr (.inl hmissing))
    have hnone : ∀ s ∈ d.licenseSeats, s.deviceId = seat.deviceId → s.releasedAt ≠ none := by
      intro s hs heq hopen
      exact hkeys (.inr (.inr (List.any_eq_true.2 ⟨s, hs, isOpenFor_iff.2 ⟨heq, hopen⟩⟩)))
    cases h
    refine ⟨rfl, rfl, rfl, fun hcons ↦ ⟨⟨hcons.keyed.devices, ?_⟩, ?_⟩⟩
    · intro s hs
      rcases List.mem_append.1 hs with hs | hs
      · exact hcons.keyed.seats s hs
      · rw [List.mem_singleton.1 hs]
        exact hdevice
    · intro s hs q hq hsopen hqopen hsame
      rcases List.mem_append.1 hs with hs | hs
      · rcases List.mem_append.1 hq with hq | hq
        · exact hcons.oneOpen s hs q hq hsopen hqopen hsame
        · rw [List.mem_singleton.1 hq] at hsame
          exact absurd hsopen (hnone s hs hsame)
      · rcases List.mem_append.1 hq with hq | hq
        · rw [List.mem_singleton.1 hs] at hsame
          exact absurd hqopen (hnone q hq hsame.symm)
        · rw [List.mem_singleton.1 hs, List.mem_singleton.1 hq]

theorem insertSeats_seated {d d' : LicenseDb} {seats : List LicenseSeat}
    (h : insertSeats d seats = some d') : Seated d d' seats := by
  induction seats generalizing d with
  | nil =>
      cases h
      exact ⟨(List.append_nil _).symm, rfl, rfl, id⟩
  | cons seat seats ih =>
      unfold insertSeats at h
      rw [List.foldlM_cons] at h
      cases hfirst : insertSeat d seat with
      | none =>
          rw [hfirst] at h
          cases h
      | some d₁ =>
          rw [hfirst] at h
          have hone := insertSeat_seated hfirst
          have hrest := ih h
          constructor
          · rw [hrest.seats, hone.seats, List.append_assoc]
            rfl
          · exact hrest.devices.trans hone.devices
          · exact hrest.grants.trans hone.grants
          · exact fun hcons ↦ hrest.consistent (hone.consistent hcons)

theorem deviceActive_congr {d d' : LicenseDb} (h : d'.physicalDevices = d.physicalDevices)
    (deviceId : String) : d'.deviceActive deviceId = d.deviceActive deviceId := by
  unfold LicenseDb.deviceActive
  rw [h]

end RetailMedia
