import RetailMedia.Campaign.Lifecycle
import RetailMedia.Lib.Interleaving

/-! The reservation phase of `request_campaign_approval` as a transaction, statement by
statement, on slots that exist. -/

namespace RetailMedia

open Interleaving

/-! ## The rows that a transaction has changed -/

/-- A slot of the session: the row as it was read, and what the transaction made of it.  Once its
UPDATE has run, the row is locked. -/
structure SlotWrite where
  read : InventorySlot
  row : InventorySlot
  flushed : Bool := false
  deriving DecidableEq, Repr

/-- The transaction's version of a row. -/
def ownRow (s : InventorySlot) : List SlotWrite → InventorySlot
  | [] => s
  | w :: ws => if w.read.id = s.id then w.row else ownRow s ws

def changeSlot (f : InventorySlot → InventorySlot) (s : InventorySlot) :
    List SlotWrite → List SlotWrite
  | [] => [{ read := s, row := f s }]
  | w :: ws => if w.read.id = s.id then { w with row := f w.row } :: ws else w :: changeSlot f s ws

/-- `UPDATE inventory_slots SET …`: the columns that the session changed, with the values that it
computed from what it had read. -/
def SlotWrite.update (w : SlotWrite) (s : InventorySlot) : SlotWrite where
  read := s
  row := { s with
    reservedCapacity :=
      if w.row.reservedCapacity = w.read.reservedCapacity then s.reservedCapacity
      else w.row.reservedCapacity
    bookedCapacity :=
      if w.row.bookedCapacity = w.read.bookedCapacity then s.bookedCapacity
      else w.row.bookedCapacity
    status := if w.row.status = w.read.status then s.status else w.row.status }
  flushed := true

def flushSlot (d : Db) (id : Nat) (ws : List SlotWrite) : List SlotWrite :=
  match d.slot id with
  | none => ws
  | some s => Rows.updateWhere (·.read.id = id) (·.update s) ws

/-! ## The transaction -/

inductive ReservationPhase
  | begin
  /-- The loop of the release, over the campaign's bookings that are still to come. -/
  | releasing (todo : List InventoryBooking)
  | reserving
  /-- The availability of the window, hour by hour. -/
  | detecting (r : ReserveRequest) (rules : List Conflict) (todo : List (Int × Nat))
    (entries : List SlotEntry)
  | existing (r : ReserveRequest)
  | reviving (r : ReserveRequest) (todo : List InventoryBooking)
  /-- Phase 1 of a fresh reservation, hour by hour. -/
  | checking (r : ReserveRequest) (todo : List (Int × Nat)) (needed : List (InventorySlot × Int))
  | failed (message : String)

def ReservationPhase.isFailed : ReservationPhase → Bool
  | .failed _ => true
  | _ => false

/-- `bookings` are the bookings of the campaign, which no other transaction touches; inside a
loop over them, those that the loop has passed. -/
structure ReservationTx where
  campaignId : String
  cfg : InventoryConfig
  now : Int
  key : Nat
  phase : ReservationPhase := .begin
  requests : List ReserveRequest := []
  slots : List SlotWrite := []
  bookings : List InventoryBooking := []

def Db.bookingsFor (d : Db) (campaignId : String) : List InventoryBooking :=
  d.inventoryBookings.filter fun b ↦ b.campaignId = campaignId

def Db.bookingsOthers (d : Db) (campaignId : String) : List InventoryBooking :=
  d.inventoryBookings.filter fun b ↦ b.campaignId ≠ campaignId

def Db.slotAt (d : Db) (surfaceId : String) (p : Int × Nat) : Option InventorySlot :=
  d.inventorySlots.find? fun s ↦ s.IsAt surfaceId p

namespace ReservationTx

/-- One booking of a loop: its slot is read and changed with it. -/
def settle (x : ReservationTx) (d : Db) (selected : Bool)
    (onSlot : InventoryBooking → InventorySlot → InventorySlot)
    (onBooking : InventoryBooking → InventoryBooking) (b : InventoryBooking)
    (phase : ReservationPhase) : ReservationTx :=
  match if selected then d.slot b.inventorySlotId else none with
  | none => { x with bookings := x.bookings ++ [b], phase := phase }
  | some s =>
      { x with
        slots := changeSlot (onSlot b) s x.slots
        bookings := x.bookings ++ [onBooking b]
        phase := phase }

def releaseBooking (now : Int) (b : InventoryBooking) : InventoryBooking :=
  { b with status := .released, releasedAt := some now, releaseReason := "re-reserve cleanup" }

def toRevive (r : ReserveRequest) (b : InventoryBooking) : Bool :=
  b.campaignPlacementId = r.placementId ∧ ¬ b.isActive

/-- The checks of a request before its window is read. -/
def detect (x : ReservationTx) (d : Db) (r : ReserveRequest) : ReservationPhase :=
  if r.endsAt.instant ≤ r.startsAt.instant then .failed "ends_at must be after starts_at"
  else if r.capacityUnits.isSome ∧ r.sovPercent.isSome then
    .failed "Provide either capacity_units or sov_percent, not both"
  else if sovOutOfRange r.sovPercent then .failed "sov_percent must be in (0, 100]"
  else
    match Rows.get (·.id) r.displaySurfaceId d.displaySurfaces with
    | none =>
        .failed (blockedText [{
          conflictType := .surfaceInactive
          surfaceId := r.displaySurfaceId
          message := "Display surface not found" }])
    | some surface =>
        if ¬ surface.isActive then
          .failed (blockedText [{
            conflictType := .surfaceInactive
            surfaceId := r.displaySurfaceId
            message := "Display surface is inactive" }])
        else
          .detecting r (ruleConflicts d x.now r.displaySurfaceId r.sovPercent)
            (slotPairs r.startsAt r.endsAt) []

def detected (r : ReserveRequest) (rules : List Conflict) (entries : List SlotEntry) :
    ReservationPhase :=
  let capacity :=
    if entries = [] then [{
      conflictType := ConflictType.capacityOverbooked
      surfaceId := r.displaySurfaceId
      message := "time range must cover at least one full hour" }]
    else (entries.filter fun e ↦ ¬ e.available).map (overbooked r.displaySurfaceId)
  if rules ++ capacity = [] then .existing r else .failed (blockedText (rules ++ capacity))

/-- Not reached where the slots exist. -/
def missingSlot : ReservationPhase := .failed "inventory slot does not exist"

def readEntry (x : ReservationTx) (d : Db) (r : ReserveRequest) (rules : List Conflict)
    (p : Int × Nat) (ps : List (Int × Nat)) (entries : List SlotEntry) : ReservationPhase :=
  match d.slotAt r.displaySurfaceId p with
  | none => missingSlot
  | some s =>
      .detecting r rules ps (entries ++ [slotEntry p r.capacityUnits r.sovPercent
        r.defaultTotalCapacity (ownRow s x.slots)])

def checkSlot (x : ReservationTx) (d : Db) (r : ReserveRequest) (p : Int × Nat)
    (ps : List (Int × Nat)) (needed : List (InventorySlot × Int)) : ReservationPhase :=
  match d.slotAt r.displaySurfaceId p with
  | none => missingSlot
  | some s =>
      let slot := ownRow s x.slots
      let requested := requestedUnits r.capacityUnits r.sovPercent r.defaultTotalCapacity slot
      if slot.availableCapacity < requested then
        .failed ("Insufficient capacity for slot " ++ dateIsoformat p.1 ++ "T" ++
          padded 2 p.2 ++ ":00: available=" ++ toString slot.availableCapacity ++
          ", requested=" ++ toString requested)
      else .checking r ps (needed ++ [(slot, requested)])

/-- Phase 2: one booking and one counter, under the next key of the transaction. -/
def bookOne (r : ReserveRequest) (x : ReservationTx) (need : InventorySlot × Int) :
    ReservationTx :=
  let booking : InventoryBooking := {
    id := x.key
    campaignId := r.campaignId
    campaignPlacementId := r.placementId
    inventorySlotId := need.1.id
    capacityUnits := need.2
    reservedUntil := some (reservedUntil x.now r.reservationTtlHours) }
  { x with
    key := x.key + 1
    slots := changeSlot (·.addReserved need.2) need.1 x.slots
    bookings := x.bookings ++ [booking] }

def existingOrCheck (x : ReservationTx) (r : ReserveRequest) : ReservationTx :=
  if (x.bookings.filter fun b ↦ b.campaignPlacementId = r.placementId) ≠ [] then
    { x with bookings := [], phase := .reviving r x.bookings }
  else if slotPairs r.startsAt r.endsAt = [] then
    { x with phase := .failed "time range must cover at least one full hour" }
  else { x with phase := .checking r (slotPairs r.startsAt r.endsAt) [] }

/-- The tables once the transaction has committed. -/
def write (x : ReservationTx) (d : Db) : Db :=
  { d with
    inventorySlots := d.inventorySlots.map fun s ↦ ownRow s x.slots
    inventoryBookings := d.bookingsOthers x.campaignId ++ x.bookings }

/-- Under the primary key of the bookings and `uq_inventory_booking_placement_slot`. -/
def commit (x : ReservationTx) (d : Db) : Option Db :=
  if ((x.write d).inventoryBookings.map (·.id)).Nodup ∧
      ((x.write d).inventoryBookings.map fun b ↦
        (b.campaignPlacementId, b.inventorySlotId)).Nodup then some (x.write d)
  else none

end ReservationTx

open ReservationTx in
/-- The statement of the phase, once nothing is left to flush. -/
def phaseStmt (x : ReservationTx) : Stmt Nat Db ReservationTx :=
  match x.phase with
  | .begin => .run fun d ↦ { x with
      requests := approvalRequests d x.cfg x.campaignId
      phase := .releasing (d.bookingsFor x.campaignId) }
  | .releasing [] => .run fun _ ↦ { x with phase := .reserving }
  | .releasing (b :: bs) => .run fun d ↦
      x.settle d b.isActive releaseSlot (releaseBooking x.now) b (.releasing bs)
  | .reserving =>
      match x.requests with
      | [] => .commit x.commit
      | r :: rs => .run fun d ↦ { x with requests := rs, phase := x.detect d r }
  | .detecting r rules [] entries => .run fun _ ↦ { x with phase := detected r rules entries }
  | .detecting r rules (p :: ps) entries => .run fun d ↦
      { x with phase := x.readEntry d r rules p ps entries }
  | .existing r => .run fun _ ↦ x.existingOrCheck r
  | .reviving _ [] => .run fun _ ↦ { x with phase := .reserving }
  | .reviving r (b :: bs) => .run fun d ↦
      x.settle d (toRevive r b) (fun b ↦ InventorySlot.addReserved b.capacityUnits)
        (·.revive (reservedUntil x.now r.reservationTtlHours)) b (.reviving r bs)
  | .checking r [] needed => .run fun _ ↦
      { needed.foldl (bookOne r) x with phase := .reserving }
  | .checking r (p :: ps) needed => .run fun d ↦ { x with phase := x.checkSlot d r p ps needed }
  -- the request ends with an error, and the session rolls back
  | .failed _ => .commit some

def ReservationTx.pending (x : ReservationTx) : Option SlotWrite :=
  x.slots.find? fun w ↦ ¬ w.flushed

/-- The session flushes what it has changed before its next statement. -/
def reservationStmt (x : ReservationTx) : Stmt Nat Db ReservationTx :=
  match x.pending with
  | some w => .lock (fun _ ↦ some w.read.id) fun d ↦
      { x with slots := flushSlot d w.read.id x.slots }
  | none => phaseStmt x

end RetailMedia
