import RetailMedia.Schema
import RetailMedia.Lib.Ledger

/-! Inventory slots: capacity of one hour of one surface, creation on demand, and the
availability of a window. -/

namespace RetailMedia

namespace InventorySlot

def taken (s : InventorySlot) : Int :=
  s.bookedCapacity + s.reservedCapacity + s.internalBlockedCapacity

def availableCapacity (s : InventorySlot) : Int :=
  if s.emergencyBlockedCapacity > 0 then 0
  else max 0 (s.totalCapacity - s.bookedCapacity - s.reservedCapacity - s.internalBlockedCapacity)

def isSoldOut (s : InventorySlot) : Bool := s.availableCapacity ≤ 0

def recomputeStatus (s : InventorySlot) : SlotStatus :=
  if s.emergencyBlockedCapacity > 0 then .blocked
  else if s.taken ≥ s.totalCapacity then .soldOut
  else if s.taken > 0 then .limited
  else .available

def withStatus (s : InventorySlot) : InventorySlot := { s with status := s.recomputeStatus }

/-- A positive amount that is available leaves room for itself. -/
theorem taken_add_le {s : InventorySlot} {n : Int} (hn : 0 < n) (h : n ≤ s.availableCapacity) :
    s.taken + n ≤ s.totalCapacity := by
  unfold availableCapacity at h
  unfold taken
  split at h
  · omega
  · omega

end InventorySlot

def Db.slot (db : Db) (id : Nat) : Option InventorySlot := Rows.get (·.id) id db.inventorySlots

def Db.updateSlot (db : Db) (id : Nat) (f : InventorySlot → InventorySlot) : Db :=
  { db with inventorySlots := Ledger.adjust (·.id) id f db.inventorySlots }

-- The columns of the unique constraint `uq_inventory_slot_surface_date_hour`.
def InventorySlot.key (s : InventorySlot) : String × Int × Nat :=
  (s.displaySurfaceId, s.slotDate, s.slotHour)

def InventorySlot.IsAt (surfaceId : String) (p : Int × Nat) (s : InventorySlot) : Prop :=
  s.displaySurfaceId = surfaceId ∧ s.slotDate = p.1 ∧ s.slotHour = p.2

instance (surfaceId : String) (p : Int × Nat) : DecidablePred (InventorySlot.IsAt surfaceId p) :=
  fun _ ↦ inferInstanceAs (Decidable (_ ∧ _))

theorem isAt_iff {surfaceId : String} {p : Int × Nat} {s : InventorySlot} :
    s.IsAt surfaceId p ↔ s.key = (surfaceId, p) := by
  simp [InventorySlot.IsAt, InventorySlot.key, Prod.ext_iff]

def newInventorySlot (db : Db) (surfaceId : String) (p : Int × Nat) (total : Int) :
    InventorySlot where
  id := Rows.freshKey (db.inventorySlots.map (·.id))
  displaySurfaceId := surfaceId
  slotDate := p.1
  slotHour := p.2
  totalCapacity := total

def getOrCreateInventorySlot (db : Db) (surfaceId : String) (p : Int × Nat) (total : Int) :
    Db × InventorySlot :=
  match db.inventorySlots.find? fun s ↦ s.IsAt surfaceId p with
  | some row => (db, row)
  | none =>
      let slot := newInventorySlot db surfaceId p total
      ({ db with inventorySlots := db.inventorySlots ++ [slot] }, slot)

/-! ## Availability of a window -/

/-- `math.ceil(total_cap * sov_percent / 100)`. -/
def sovUnits (totalCap sovPercent : Int) : Int := (totalCap * sovPercent + 99) / 100

/-- `slot.total_capacity or default_total_capacity`. -/
def InventorySlot.totalOr (s : InventorySlot) (default : Int) : Int :=
  if s.totalCapacity = 0 then default else s.totalCapacity

def requestedUnits (units sov : Option Int) (default : Int) (s : InventorySlot) : Int :=
  match units, sov with
  | some u, _ => u
  | none, some p => sovUnits (s.totalOr default) p
  | none, none => 0

/-- `not (0 < sov_percent <= 100)`, for a share that is given. -/
def sovOutOfRange (sov : Option Int) : Bool := sov.any fun p ↦ ¬ (0 < p ∧ p ≤ 100)

structure SlotEntry where
  slotId : Nat
  slotDate : String
  slotHour : Nat
  totalCapacity : Int
  bookedCapacity : Int
  reservedCapacity : Int
  availableCapacity : Int
  requestedCapacity : Int
  available : Bool
  soldOut : Bool
  blocked : Bool
  deriving DecidableEq, Repr

structure Availability where
  displaySurfaceId : String
  startsAt : String
  endsAt : String
  allAvailable : Bool
  totalRequested : Int
  totalAvailable : Int
  slots : List SlotEntry
  conflicts : List SlotEntry
  deriving DecidableEq, Repr

def slotEntry (p : Int × Nat) (units sov : Option Int) (default : Int) (s : InventorySlot) :
    SlotEntry where
  slotId := s.id
  slotDate := dateIsoformat p.1
  slotHour := p.2
  totalCapacity := s.totalOr default
  bookedCapacity := s.bookedCapacity
  reservedCapacity := s.reservedCapacity
  availableCapacity := s.availableCapacity
  requestedCapacity := requestedUnits units sov default s
  available := s.availableCapacity ≥ requestedUnits units sov default s
  soldOut := s.isSoldOut
  blocked := s.emergencyBlockedCapacity > 0

def availabilityStep (surfaceId : String) (units sov : Option Int) (default : Int) (db : Db)
    (p : Int × Nat) : Db × SlotEntry :=
  let (db', slot) := getOrCreateInventorySlot db surfaceId p default
  (db', slotEntry p units sov default slot)

def computeInventoryAvailability (db : Db) (surfaceId : String) (startsAt endsAt : DateTime)
    (units sov : Option Int) (default : Int) : Db × Except String Availability :=
  if endsAt.instant ≤ startsAt.instant then
    (db, .error "ends_at must be after starts_at")
  else if units.isSome ∧ sov.isSome then
    (db, .error "Provide either requested_capacity_units or requested_sov_percent, not both")
  else if sovOutOfRange sov then
    (db, .error "requested_sov_percent must be in (0, 100]")
  else if slotPairs startsAt endsAt = [] then
    (db, .error "time range must cover at least one full hour")
  else
    let (db', slots) := Rows.sweep (availabilityStep surfaceId units sov default) db
      (slotPairs startsAt endsAt)
    (db', .ok {
      displaySurfaceId := surfaceId
      startsAt := startsAt.isoformat
      endsAt := endsAt.isoformat
      allAvailable := slots.all (·.available)
      totalRequested := (slots.map (·.requestedCapacity)).sum
      totalAvailable := (slots.map (·.availableCapacity)).sum
      slots := slots
      conflicts := slots.filter fun e ↦ ¬ e.available })

end RetailMedia
