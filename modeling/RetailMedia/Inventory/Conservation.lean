import RetailMedia.Inventory.Overbooking

/-! The ledger balances in every state of every run, so no clamp of the life cycle ever acts. -/

namespace RetailMedia

open Ledger

/-! ## The sums that the counters repeat -/

/-- The units of the slot's bookings in one status. -/
def Db.unitsOn (db : Db) (slotId : Nat) (status : BookingStatus) : Int :=
  ((db.inventoryBookings.filter fun b ↦ b.inventorySlotId = slotId ∧ b.status = status).map
    (·.capacityUnits)).sum

def Db.Conserved (db : Db) : Prop :=
  ∀ s ∈ db.inventorySlots,
    s.reservedCapacity = db.unitsOn s.id .reserved ∧ s.bookedCapacity = db.unitsOn s.id .committed

instance : DecidablePred Db.Conserved := fun db ↦
  inferInstanceAs (Decidable (∀ s ∈ db.inventorySlots, _))

/-- Weighing every booking and weighing only those in one status come to the same. -/
theorem owed_eq_sum (bookings : List InventoryBooking) (slotId : Nat) (status : BookingStatus) :
    owed (·.inventorySlotId) (fun b ↦ if b.status = status then b.capacityUnits else 0) bookings
        slotId =
      ((bookings.filter fun b ↦ b.inventorySlotId = slotId ∧ b.status = status).map
        (·.capacityUnits)).sum := by
  induction bookings with
  | nil => rfl
  | cons b bookings ih =>
      rw [owed_cons, ih]
      by_cases hslot : b.inventorySlotId = slotId
      · by_cases hstatus : b.status = status
        · simp [hslot, hstatus]
        · simp [hslot, hstatus]
      · simp [hslot]

theorem Db.Balance.conserved {db : Db} (h : db.Balance) : db.Conserved := by
  intro s hs
  constructor
  · exact (h.reserved s hs).trans (owed_eq_sum db.inventoryBookings s.id .reserved)
  · exact (h.booked s hs).trans (owed_eq_sum db.inventoryBookings s.id .committed)

/-! ## The clamps -/

/-- The counter that `commit`, `release` and `expire` take a booking off. -/
def InventoryBooking.counter (b : InventoryBooking) (s : InventorySlot) : Int :=
  if b.status = .reserved then s.reservedCapacity else s.bookedCapacity

/-- `max(0, counter - units)` changes nothing on the booking's slot. -/
def ClampIdle (db : Db) (b : InventoryBooking) : Prop :=
  ∀ s, db.slot b.inventorySlotId = some s →
    max 0 (b.counter s - b.capacityUnits) = b.counter s - b.capacityUnits

/-- The clamp is idle at every booking of a loop, in the state that the loop has reached. -/
def LoopIdle (selected : InventoryBooking → Bool) (evenWithoutSlot : Bool)
    (onSlot : InventoryBooking → InventorySlot → InventorySlot)
    (onBooking : InventoryBooking → InventoryBooking) (db : Db) : Prop :=
  Run.Guarded (fun d b ↦ (settleStep selected evenWithoutSlot onSlot onBooking d b).1)
    (fun d b ↦ selected b = true → ClampIdle d b) db db.inventoryBookings

/-- No clamp of the call acts. -/
def ClampsIdle (db : Db) (call : Int × InventoryOp) : Prop :=
  match call.2 with
  | .reserve _ => True
  | .commit campaignId =>
      LoopIdle (fun b ↦ b.campaignId = campaignId ∧ b.status = .reserved) false
        (fun b ↦ InventorySlot.commitUnits b.capacityUnits)
        (fun b ↦ { b with status := .committed, committedAt := some call.1 }) db
  | .release campaignId reason =>
      LoopIdle (fun b ↦ b.campaignId = campaignId ∧ b.isActive) false releaseSlot
        (fun b ↦ { b with
          status := .released
          releasedAt := some call.1
          releaseReason := String.ofList (reason.toList.take 512) }) db
  | .expire =>
      LoopIdle (fun b ↦ b.status = .reserved ∧ b.reservedUntil.any (· < call.1)) true
        (fun b ↦ InventorySlot.dropReserved b.capacityUnits)
        (fun b ↦ { b with status := .expired, releaseReason := "auto-expired" }) db

theorem isActive_cases {b : InventoryBooking} (h : b.isActive = true) :
    b.status = .reserved ∨ b.status = .committed := by
  simpa [InventoryBooking.isActive] using h

/-- A balanced counter holds at least what one of its bookings weighs. -/
theorem Balance.clampIdle {db : Db} {bookings : List InventoryBooking}
    (h : Balance db.inventorySlots bookings) {b : InventoryBooking} (hb : b ∈ bookings)
    (hactive : b.isActive = true) : ClampIdle db b := by
  intro s hslot
  have ⟨hreserved, hbooked⟩ := h.weight_le hb (Rows.get_mem hslot) (Rows.get_key hslot)
  have hle : b.capacityUnits ≤ b.counter s := by
    unfold InventoryBooking.counter
    rcases isActive_cases hactive with hstatus | hstatus
    · have hunits : b.reservedUnits = b.capacityUnits := if_pos hstatus
      rw [if_pos hstatus]
      omega
    · have hunits : b.committedUnits = b.capacityUnits := if_pos hstatus
      rw [if_neg (by rw [hstatus]; decide)]
      omega
  omega

theorem Db.Balance.loopIdle {db : Db} (h : db.Balance) {selected : InventoryBooking → Bool}
    {evenWithoutSlot : Bool} {onSlot : InventoryBooking → InventorySlot → InventorySlot}
    {onBooking : InventoryBooking → InventoryBooking}
    (hfollow : ∀ b, selected b = true → Follows onSlot onBooking b)
    (hactive : ∀ b, selected b = true → b.isActive = true) :
    LoopIdle selected evenWithoutSlot onSlot onBooking db := by
  apply Rows.sweep_guarded (I := fun (d : Db) rows ↦ RetailMedia.Balance d.inventorySlots rows)
  · intro d pre b post hbal
    exact hbal.settleStep_rule hbal fun hsel ↦ hbal.change (hfollow b hsel)
  · intro d pre b post hbal hsel
    exact hbal.clampIdle (List.mem_append_right pre List.mem_cons_self) (hactive b hsel)
  · exact h

theorem LedgerInv.clampsIdle {db : Db} (h : LedgerInv db) (call : Int × InventoryOp) :
    ClampsIdle db call := by
  obtain ⟨now, op⟩ := call
  cases op with
  | reserve r => trivial
  | commit campaignId =>
      exact h.balance.loopIdle (fun b hb ↦ commit_follows now (isReserved_of_decide hb))
        fun b hb ↦ by simp [InventoryBooking.isActive, isReserved_of_decide hb]
  | release campaignId reason =>
      exact h.balance.loopIdle (fun b hb ↦ release_follows now _ (of_decide_eq_true hb).2)
        fun b hb ↦ (of_decide_eq_true hb).2
  | expire =>
      exact h.balance.loopIdle (fun b hb ↦ expire_follows (of_decide_eq_true hb).1)
        fun b hb ↦ by simp [InventoryBooking.isActive, (of_decide_eq_true hb).1]

/-! ## Runs -/

/-- No bookings and zero counters, on slots with any totals and blocks. -/
structure Unbooked (db : Db) : Prop where
  ids : (db.inventorySlots.map (·.id)).Nodup
  bookings : db.inventoryBookings = []
  booked : ∀ s ∈ db.inventorySlots, s.bookedCapacity = 0
  reserved : ∀ s ∈ db.inventorySlots, s.reservedCapacity = 0
  total : ∀ s ∈ db.inventorySlots, 0 ≤ s.totalCapacity

theorem Unbooked.inv {db : Db} (h : Unbooked db) : LedgerInv db := by
  have hnone {P : InventoryBooking → Prop} : ∀ b ∈ db.inventoryBookings, P b := by
    rw [h.bookings]
    exact List.forall_mem_nil _
  refine ⟨⟨h.ids, hnone, hnone, fun s hs ↦ ?_, fun s hs ↦ ?_⟩, h.total⟩
  · rw [h.bookings]
    exact h.reserved s hs
  · rw [h.bookings]
    exact h.booked s hs

/-- Conservation: in every state of every run the counters repeat the bookings, and no call of
the run finds a counter that its clamp would change. -/
theorem ledger_conserved (db : Db) (calls : List (Int × InventoryOp)) (hdb : Unbooked db)
    (hcalls : ∀ call ∈ calls, call.2.NonNegative) :
    Run.Always inventoryNext Db.Conserved db calls ∧
      Run.Guarded inventoryNext ClampsIdle db calls := by
  have hinv : Run.Always inventoryNext LedgerInv db calls :=
    Run.always_of_labels (fun _ call hcall h ↦ h.next call.1 hcall) hcalls hdb.inv
  exact ⟨hinv.mono fun _ h ↦ h.balance.conserved, hinv.guarded fun _ call h ↦ h.clampsIdle call⟩

theorem movedCampaign_conserved :
    Run.Always inventoryNext Db.Conserved sharedSurfaceDb movedCampaignCalls ∧
      Run.Guarded inventoryNext ClampsIdle sharedSurfaceDb movedCampaignCalls :=
  ledger_conserved sharedSurfaceDb movedCampaignCalls
    ⟨List.nodup_nil, rfl, by simp [sharedSurfaceDb], by simp [sharedSurfaceDb],
      by simp [sharedSurfaceDb]⟩
    fun call hcall ↦ (movedCampaignCalls_sound call hcall).nonNegative

/-! ## Negative capacities

`INVENTORY_DEFAULT_SLOT_CAPACITY` is read by `int` and checked by nothing.  A share of a negative
total is a negative number of units, and the clamp then takes off more than the booking put on. -/

/-- The units that a request names or the share it asks for, whatever total a new slot gets. -/
def InventoryOp.AsksUnits : InventoryOp → Prop
  | .reserve r => (∀ n ∈ r.capacityUnits, 0 ≤ n) ∧ ∀ n ∈ r.sovPercent, 1 ≤ n ∧ n ≤ 100
  | _ => True

def negativeShare (campaignId placementId : String) : ReserveRequest :=
  { fullShare campaignId placementId tenToEleven with defaultTotalCapacity := -100 }

/-- Both campaigns book -100 units of the hour, and the first one gives its booking back. -/
def negativeDefaultCalls : List (Int × InventoryOp) := [
  (1, .reserve (negativeShare "a" "pa")),
  (2, .reserve (negativeShare "b" "pb")),
  (3, .release "a" "re-reserve cleanup")]

theorem negativeDefault_not_conserved :
    ¬ ∀ (db : Db) (calls : List (Int × InventoryOp)), (db.inventorySlots.map (·.id)).Nodup →
      db.inventoryBookings = [] →
      (∀ s ∈ db.inventorySlots, s.bookedCapacity = 0 ∧ s.reservedCapacity = 0) →
      (∀ call ∈ calls, call.2.AsksUnits) →
      Run.Always inventoryNext Db.Conserved db calls ∧
        Run.Guarded inventoryNext ClampsIdle db calls := by
  intro h
  have hasks : ∀ call ∈ negativeDefaultCalls, call.2.AsksUnits := by
    intro call hcall
    simp only [negativeDefaultCalls, List.mem_cons, List.not_mem_nil, or_false] at hcall
    rcases hcall with rfl | rfl | rfl
    · simp [InventoryOp.AsksUnits, negativeShare, fullShare]
    · simp [InventoryOp.AsksUnits, negativeShare, fullShare]
    · trivial
  have hrun := (h sharedSurfaceDb negativeDefaultCalls List.nodup_nil rfl
    (by simp [sharedSurfaceDb]) hasks).1
  revert hrun
  decide +kernel

end RetailMedia
