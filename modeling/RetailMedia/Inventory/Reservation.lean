import RetailMedia.Inventory.Conflicts

/-! The reservation life cycle: reserve for a placement, commit and release for a campaign,
expiry of overdue reservations. -/

namespace RetailMedia

/-! ## Reserve -/

structure ReserveRequest where
  campaignId : String
  placementId : String
  displaySurfaceId : String
  startsAt : DateTime
  endsAt : DateTime
  capacityUnits : Option Int := none
  sovPercent : Option Int := none
  defaultTotalCapacity : Int := 100
  reservationTtlHours : Int := 24
  deriving DecidableEq, Repr

structure BookedSlot where
  slotId : Nat
  slotDate : String
  slotHour : Nat
  capacityUnits : Int
  deriving DecidableEq, Repr

structure ReserveResult where
  reserved : Bool := true
  bookingsCreated : Nat
  bookingsReused : Nat
  slots : List BookedSlot
  deriving DecidableEq, Repr

def bookedSlot (s : InventorySlot) (units : Int) : BookedSlot where
  slotId := s.id
  slotDate := dateIsoformat s.slotDate
  slotHour := s.slotHour
  capacityUnits := units

namespace InventoryBooking

def isActive (b : InventoryBooking) : Bool := b.status = .reserved ∨ b.status = .committed

def revive (reservedUntil : Int) (b : InventoryBooking) : InventoryBooking :=
  { b with
    status := .reserved
    reservedUntil := some reservedUntil
    committedAt := none
    releasedAt := none
    releaseReason := "" }

end InventoryBooking

def InventorySlot.addReserved (n : Int) (s : InventorySlot) : InventorySlot :=
  { s with reservedCapacity := s.reservedCapacity + n }.withStatus

/-- A loop over selected bookings that changes each booking and its slot.  Without the slot the
booking is skipped, unless `evenWithoutSlot`. -/
def settleStep (selected : InventoryBooking → Bool) (evenWithoutSlot : Bool)
    (onSlot : InventoryBooking → InventorySlot → InventorySlot)
    (onBooking : InventoryBooking → InventoryBooking) (db : Db) (b : InventoryBooking) :
    Db × InventoryBooking :=
  if selected b then
    match db.slot b.inventorySlotId with
    | some _ => (db.updateSlot b.inventorySlotId (onSlot b), onBooking b)
    | none => (db, if evenWithoutSlot then onBooking b else b)
  else (db, b)

def settleBookings (selected : InventoryBooking → Bool) (evenWithoutSlot : Bool)
    (onSlot : InventoryBooking → InventorySlot → InventorySlot)
    (onBooking : InventoryBooking → InventoryBooking) (db : Db) : Db × Nat :=
  let (db', bookings) :=
    Rows.sweep (settleStep selected evenWithoutSlot onSlot onBooking) db db.inventoryBookings
  let settled := (db.inventoryBookings.filter selected).filter fun b ↦
    evenWithoutSlot ∨ (db.slot b.inventorySlotId).isSome
  ({ db' with inventoryBookings := bookings }, settled.length)

/-- The reuse branch: the placement's released and expired bookings take their capacity again;
an active one is only reported. -/
def reuseBookings (db : Db) (placementId : String) (reservedUntil : Int) : Db :=
  (settleBookings (fun b ↦ b.campaignPlacementId = placementId ∧ ¬ b.isActive) false
    (fun b ↦ InventorySlot.addReserved b.capacityUnits) (·.revive reservedUntil) db).1

-- The status list of the query names every status there is.
def Db.bookingsOf (db : Db) (placementId : String) : List InventoryBooking :=
  db.inventoryBookings.filter fun b ↦ b.campaignPlacementId = placementId

def reusedSlots (db : Db) (placementId : String) : List BookedSlot :=
  (db.bookingsOf placementId).filterMap fun b ↦
    (db.slot b.inventorySlotId).map fun s ↦ bookedSlot s b.capacityUnits

/-- Phase 1 of a fresh reservation: the slots of the window, each with the units asked of it,
up to the first that has too little left. -/
def checkSlots (r : ReserveRequest) (db : Db) :
    List (Int × Nat) → Db × Except String (List (InventorySlot × Int))
  | [] => (db, .ok [])
  | p :: ps =>
      let (db', slot) := getOrCreateInventorySlot db r.displaySurfaceId p r.defaultTotalCapacity
      let requested := requestedUnits r.capacityUnits r.sovPercent r.defaultTotalCapacity slot
      if slot.availableCapacity < requested then
        (db', .error ("Insufficient capacity for slot " ++ dateIsoformat p.1 ++ "T" ++
          padded 2 p.2 ++ ":00: available=" ++ toString slot.availableCapacity ++
          ", requested=" ++ toString requested))
      else
        match checkSlots r db' ps with
        | (db'', .ok needed) => (db'', .ok ((slot, requested) :: needed))
        | (db'', .error e) => (db'', .error e)

def newInventoryBooking (r : ReserveRequest) (reservedUntil : Int) (db : Db) (slotId : Nat)
    (units : Int) : InventoryBooking where
  id := Rows.freshKey (db.inventoryBookings.map (·.id))
  campaignId := r.campaignId
  campaignPlacementId := r.placementId
  inventorySlotId := slotId
  capacityUnits := units
  reservedUntil := some reservedUntil

/-- Phase 2: one booking and one counter. -/
def bookSlot (r : ReserveRequest) (reservedUntil : Int) (db : Db) (need : InventorySlot × Int) :
    Db :=
  let booking := newInventoryBooking r reservedUntil db need.1.id need.2
  { db.updateSlot need.1.id (·.addReserved need.2) with
    inventoryBookings := db.inventoryBookings ++ [booking] }

def bookSlots (r : ReserveRequest) (reservedUntil : Int) (db : Db)
    (needed : List (InventorySlot × Int)) : Db :=
  needed.foldl (bookSlot r reservedUntil) db

def reservedUntil (now ttlHours : Int) : Int := now + ttlHours * hourMicros

/-- What follows the conflict check. -/
def reserveChecked (db : Db) (now : Int) (r : ReserveRequest) : Db × Except String ReserveResult :=
  let until_ := reservedUntil now r.reservationTtlHours
  let existing := db.bookingsOf r.placementId
  if existing ≠ [] then
    let slots := reusedSlots db r.placementId
    (reuseBookings db r.placementId until_, .ok {
      bookingsCreated := 0
      bookingsReused := slots.length
      slots := slots })
  else if slotPairs r.startsAt r.endsAt = [] then
    (db, .error "time range must cover at least one full hour")
  else
    match checkSlots r db (slotPairs r.startsAt r.endsAt) with
    | (db', .error e) => (db', .error e)
    | (db', .ok needed) =>
        (bookSlots r until_ db' needed, .ok {
          bookingsCreated := needed.length
          bookingsReused := 0
          slots := needed.map fun need ↦ bookedSlot need.1 need.2 })

def blockedText : List Conflict → String
  | [] => ""
  | first :: _ => "Blocked by " ++ first.conflictType.text ++ ": " ++ first.message

def ReserveRequest.detected (r : ReserveRequest) (db : Db) (now : Int) : Db × Conflicts :=
  detectInventoryConflicts db now r.displaySurfaceId r.startsAt r.endsAt r.capacityUnits
    r.sovPercent r.defaultTotalCapacity

/-- `reserve_inventory_for_placement`: the `ValueError` text, or the result. -/
def reserveInventoryForPlacement (db : Db) (now : Int) (r : ReserveRequest) :
    Db × Except String ReserveResult :=
  if r.endsAt.instant ≤ r.startsAt.instant then
    (db, .error "ends_at must be after starts_at")
  else if r.capacityUnits.isSome ∧ r.sovPercent.isSome then
    (db, .error "Provide either capacity_units or sov_percent, not both")
  else if sovOutOfRange r.sovPercent then
    (db, .error "sov_percent must be in (0, 100]")
  else
    let (db', conflicts) := r.detected db now
    if conflicts.hasConflicts then (db', .error (blockedText conflicts.blocking))
    else reserveChecked db' now r

/-! ## Commit, release and expire -/

def InventorySlot.commitUnits (n : Int) (s : InventorySlot) : InventorySlot :=
  { s with
    reservedCapacity := max 0 (s.reservedCapacity - n)
    bookedCapacity := s.bookedCapacity + n }.withStatus

def InventorySlot.dropReserved (n : Int) (s : InventorySlot) : InventorySlot :=
  { s with reservedCapacity := max 0 (s.reservedCapacity - n) }.withStatus

def InventorySlot.dropBooked (n : Int) (s : InventorySlot) : InventorySlot :=
  { s with bookedCapacity := max 0 (s.bookedCapacity - n) }.withStatus

def commitInventoryForCampaign (db : Db) (now : Int) (campaignId : String) : Db × Nat :=
  settleBookings (fun b ↦ b.campaignId = campaignId ∧ b.status = .reserved) false
    (fun b ↦ InventorySlot.commitUnits b.capacityUnits)
    (fun b ↦ { b with status := .committed, committedAt := some now }) db

def releaseSlot (b : InventoryBooking) (s : InventorySlot) : InventorySlot :=
  if b.status = .reserved then s.dropReserved b.capacityUnits
  else s.dropBooked b.capacityUnits

def releaseInventoryForCampaign (db : Db) (now : Int) (campaignId : String) (reason : String) :
    Db × Nat :=
  settleBookings (fun b ↦ b.campaignId = campaignId ∧ b.isActive) false releaseSlot
    (fun b ↦ { b with
      status := .released
      releasedAt := some now
      releaseReason := String.ofList (reason.toList.take 512) }) db

def expireInventoryReservations (db : Db) (now : Int) : Db × Nat :=
  settleBookings (fun b ↦ b.status = .reserved ∧ b.reservedUntil.any (· < now)) true
    (fun b ↦ InventorySlot.dropReserved b.capacityUnits)
    (fun b ↦ { b with status := .expired, releaseReason := "auto-expired" }) db

end RetailMedia
