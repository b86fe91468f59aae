import RetailMedia.Inventory.ReserveSpec
import RetailMedia.Lib.Run

/-! Runs of the reservation life cycle, and when they overbook a slot. -/

namespace RetailMedia

open Ledger

inductive InventoryOp
  | reserve (r : ReserveRequest)
  | commit (campaignId : String)
  | release (campaignId reason : String)
  | expire
  deriving DecidableEq, Repr

/-- An operation at the time at which it is called. -/
def inventoryNext (db : Db) (call : Int × InventoryOp) : Db :=
  match call.2 with
  | .reserve r => (reserveInventoryForPlacement db call.1 r).1
  | .commit campaignId => (commitInventoryForCampaign db call.1 campaignId).1
  | .release campaignId reason => (releaseInventoryForCampaign db call.1 campaignId reason).1
  | .expire => (expireInventoryReservations db call.1).1

def InventoryOp.Sound : InventoryOp → Prop
  | .reserve r => r.Sound
  | _ => True

def InventoryOp.NonNegative : InventoryOp → Prop
  | .reserve r => r.NonNegative
  | _ => True

theorem InventoryOp.Sound.nonNegative {op : InventoryOp} (h : op.Sound) : op.NonNegative := by
  cases op with
  | reserve r => exact ReserveRequest.Sound.nonNegative h
  | commit campaignId => trivial
  | release campaignId reason => trivial
  | expire => trivial

/-! ## Slots follow bookings in every loop -/

theorem commit_follows {b : InventoryBooking} (now : Int) (hb : b.status = .reserved) :
    Follows (fun b ↦ InventorySlot.commitUnits b.capacityUnits)
      (fun b ↦ { b with status := .committed, committedAt := some now }) b := by
  have hr : b.reservedUnits = b.capacityUnits := if_pos hb
  have hc : b.committedUnits = 0 := if_neg (by rw [hb]; decide)
  refine ⟨fun _ ↦ rfl, rfl, rfl, fun s hres _ ↦ ?_, fun s _ _ ↦ ?_⟩
  · show max 0 (s.reservedCapacity - b.capacityUnits) = s.reservedCapacity + (0 - b.reservedUnits)
    omega
  · show s.bookedCapacity + b.capacityUnits =
      s.bookedCapacity + (b.capacityUnits - b.committedUnits)
    omega

theorem release_follows {b : InventoryBooking} (now : Int) (reason : String)
    (hb : b.isActive = true) :
    Follows releaseSlot (fun b ↦ { b with
      status := .released
      releasedAt := some now
      releaseReason := reason }) b := by
  have hstatus : b.status = .reserved ∨ b.status = .committed := by
    simpa [InventoryBooking.isActive] using hb
  have hid (s : InventorySlot) : (releaseSlot b s).id = s.id := by
    unfold releaseSlot
    split <;> rfl
  rcases hstatus with hb | hb
  · have hr : b.reservedUnits = b.capacityUnits := if_pos hb
    have hc : b.committedUnits = 0 := if_neg (by rw [hb]; decide)
    refine ⟨hid, rfl, rfl, fun s hres _ ↦ ?_, fun s _ _ ↦ ?_⟩
    · rw [releaseSlot, if_pos hb]
      show max 0 (s.reservedCapacity - b.capacityUnits) =
        s.reservedCapacity + (0 - b.reservedUnits)
      omega
    · rw [releaseSlot, if_pos hb]
      show s.bookedCapacity = s.bookedCapacity + (0 - b.committedUnits)
      omega
  · have hne : ¬ b.status = .reserved := by
      rw [hb]
      decide
    have hr : b.reservedUnits = 0 := if_neg hne
    have hc : b.committedUnits = b.capacityUnits := if_pos hb
    refine ⟨hid, rfl, rfl, fun s _ _ ↦ ?_, fun s _ hcom ↦ ?_⟩
    · rw [releaseSlot, if_neg hne]
      show s.reservedCapacity = s.reservedCapacity + (0 - b.reservedUnits)
      omega
    · rw [releaseSlot, if_neg hne]
      show max 0 (s.bookedCapacity - b.capacityUnits) = s.bookedCapacity + (0 - b.committedUnits)
      omega

theorem expire_follows {b : InventoryBooking} (hb : b.status = .reserved) :
    Follows (fun b ↦ InventorySlot.dropReserved b.capacityUnits)
      (fun b ↦ { b with status := .expired, releaseReason := "auto-expired" }) b := by
  have hr : b.reservedUnits = b.capacityUnits := if_pos hb
  have hc : b.committedUnits = 0 := if_neg (by rw [hb]; decide)
  refine ⟨fun _ ↦ rfl, rfl, rfl, fun s hres _ ↦ ?_, fun s _ _ ↦ ?_⟩
  · show max 0 (s.reservedCapacity - b.capacityUnits) = s.reservedCapacity + (0 - b.reservedUnits)
    omega
  · show s.bookedCapacity = s.bookedCapacity + (0 - b.committedUnits)
    omega

theorem revive_follows {b : InventoryBooking} (reservedUntil : Int) (hb : b.isActive = false) :
    Follows (fun b ↦ InventorySlot.addReserved b.capacityUnits) (·.revive reservedUntil) b := by
  have hstatus : b.status ≠ .reserved ∧ b.status ≠ .committed := by
    simpa [InventoryBooking.isActive, not_or] using hb
  have hr : b.reservedUnits = 0 := if_neg hstatus.1
  have hc : b.committedUnits = 0 := if_neg hstatus.2
  refine ⟨fun _ ↦ rfl, rfl, rfl, fun s _ _ ↦ ?_, fun s _ _ ↦ ?_⟩
  · show s.reservedCapacity + b.capacityUnits =
      s.reservedCapacity + (b.capacityUnits - b.reservedUnits)
    omega
  · show s.bookedCapacity = s.bookedCapacity + (0 - b.committedUnits)
    omega

/-! ## What a revival adds -/

/-- The units that the booking takes again when its placement reserves once more. -/
def revivableUnits (placementId : String) (b : InventoryBooking) : Int :=
  if b.campaignPlacementId = placementId ∧ ¬ b.isActive then b.capacityUnits else 0

def Db.revivable (db : Db) (placementId : String) (slotId : Nat) : Int :=
  owed (·.inventorySlotId) (revivableUnits placementId) db.inventoryBookings slotId

-- What the capacity bound of a slot depends on.
def InventorySlot.load (s : InventorySlot) : Nat × Int × Int := (s.id, s.taken, s.totalCapacity)

theorem fits_iff_load (slots : List InventorySlot) :
    (∀ s ∈ slots, s.Fits) ↔ ∀ t ∈ slots.map InventorySlot.load, t.2.1 ≤ t.2.2 := by
  rw [List.forall_mem_map]
  rfl

section Revive

variable (placementId : String) (reservedUntil : Int)

abbrev reviveStep : Db → InventoryBooking → Db × InventoryBooking :=
  settleStep (fun b ↦ b.campaignPlacementId = placementId ∧ ¬ b.isActive) false
    (fun b ↦ InventorySlot.addReserved b.capacityUnits) (·.revive reservedUntil)

theorem reviveStep_load (db : Db) (b : InventoryBooking) :
    (reviveStep placementId reservedUntil db b).1.inventorySlots.map InventorySlot.load =
      db.inventorySlots.map fun s ↦ (s.id,
        s.taken + (if b.inventorySlotId = s.id then revivableUnits placementId b else 0),
        s.totalCapacity) := by
  -- where the table keeps its rows, nothing is added to any of them
  have hsame (h : ∀ s ∈ db.inventorySlots, b.inventorySlotId = s.id →
      revivableUnits placementId b = 0) :
      db.inventorySlots.map InventorySlot.load = db.inventorySlots.map fun s ↦ (s.id,
        s.taken + (if b.inventorySlotId = s.id then revivableUnits placementId b else 0),
        s.totalCapacity) := by
    apply List.map_congr_left
    intro s hs
    by_cases hk : b.inventorySlotId = s.id
    · rw [if_pos hk, h s hs hk, add_zero]
      rfl
    · rw [if_neg hk, add_zero]
      rfl
  unfold reviveStep settleStep
  by_cases hsel : b.campaignPlacementId = placementId ∧ ¬ b.isActive = true
  · have hunits : revivableUnits placementId b = b.capacityUnits := if_pos hsel
    rw [if_pos (by simpa using hsel)]
    cases hslot : db.slot b.inventorySlotId with
    | none => exact hsame fun s hs hk ↦ absurd hk.symm (Rows.get_eq_none.1 hslot s hs)
    | some _ =>
        show (Ledger.adjust _ _ _ _).map _ = _
        unfold Ledger.adjust Rows.updateWhere
        rw [List.map_map, hunits]
        apply List.map_congr_left
        intro s _
        by_cases hk : b.inventorySlotId = s.id
        · simp only [Function.comp_apply, hk, decide_true, if_true]
          show (s.id, s.bookedCapacity + (s.reservedCapacity + b.capacityUnits) +
            s.internalBlockedCapacity, s.totalCapacity) = _
          congr 2
          unfold InventorySlot.taken
          ring
        · have hk' : ¬ s.id = b.inventorySlotId := fun h ↦ hk h.symm
          simp [hk, hk', InventorySlot.load]
  · have hunits : revivableUnits placementId b = 0 := if_neg hsel
    rw [if_neg (by simpa using hsel)]
    exact hsame fun _ _ _ ↦ hunits

theorem revive_load (db : Db) (rows : List InventoryBooking) :
    (Rows.sweep (reviveStep placementId reservedUntil) db rows).1.inventorySlots.map
        InventorySlot.load =
      db.inventorySlots.map fun s ↦ (s.id,
        s.taken + owed (·.inventorySlotId) (revivableUnits placementId) rows s.id,
        s.totalCapacity) := by
  induction rows generalizing db with
  | nil => simp [InventorySlot.load, owed]
  | cons b rows ih =>
      have hstep := reviveStep_load placementId reservedUntil db b
      rw [Rows.sweep_cons, ih]
      calc (reviveStep placementId reservedUntil db b).1.inventorySlots.map (fun s ↦ (s.id,
            s.taken + owed (·.inventorySlotId) (revivableUnits placementId) rows s.id,
            s.totalCapacity))
          = ((reviveStep placementId reservedUntil db b).1.inventorySlots.map
              InventorySlot.load).map fun t ↦ (t.1,
                t.2.1 + owed (·.inventorySlotId) (revivableUnits placementId) rows t.1,
                t.2.2) := by
            rw [List.map_map]
            rfl
        _ = _ := by
            rw [hstep, List.map_map]
            apply List.map_congr_left
            intro s _
            simp only [Function.comp_apply, owed_cons, add_assoc]

end Revive

theorem reuseBookings_fits (db : Db) (placementId : String) (reservedUntil : Int) :
    (∀ s ∈ (reuseBookings db placementId reservedUntil).inventorySlots, s.Fits) ↔
      ∀ s ∈ db.inventorySlots, s.taken + db.revivable placementId s.id ≤ s.totalCapacity := by
  have hload := revive_load placementId reservedUntil db db.inventoryBookings
  rw [fits_iff_load]
  show (∀ t ∈ (Rows.sweep (reviveStep placementId reservedUntil) db
    db.inventoryBookings).1.inventorySlots.map InventorySlot.load, t.2.1 ≤ t.2.2) ↔ _
  rw [hload, List.forall_mem_map]
  rfl

/-! ## Runs -/

/-- What every operation keeps, overbooked or not. -/
structure LedgerInv (db : Db) : Prop where
  balance : db.Balance
  total : ∀ s ∈ db.inventorySlots, 0 ≤ s.totalCapacity

theorem LedgerInv.grow {db db' : Db} {total : Int} (h : LedgerInv db) (hg : Grows total db db')
    (htotal : 0 ≤ total) : LedgerInv db' := by
  refine ⟨h.balance.grow hg, fun s hs ↦ ?_⟩
  rcases hg.mem_or hs with hs | ⟨hblank, -⟩
  · exact h.total s hs
  · rw [hblank.totalCapacity]
    exact htotal

theorem fits_grow {db db' : Db} {total : Int} (h : ∀ s ∈ db.inventorySlots, s.Fits)
    (hg : Grows total db db') (htotal : 0 ≤ total) : ∀ s ∈ db'.inventorySlots, s.Fits := by
  intro s hs
  rcases hg.mem_or hs with hs | ⟨hblank, -⟩
  · exact h s hs
  · unfold InventorySlot.Fits
    rw [hblank.taken, hblank.totalCapacity]
    exact htotal

theorem LedgerInv.settle {db : Db} (h : LedgerInv db) {selected : InventoryBooking → Bool}
    {evenWithoutSlot : Bool} {onSlot : InventoryBooking → InventorySlot → InventorySlot}
    {onBooking : InventoryBooking → InventoryBooking}
    (hfollow : ∀ b, selected b = true → Follows onSlot onBooking b)
    (htotal : ∀ b s, (onSlot b s).totalCapacity = s.totalCapacity) :
    LedgerInv (settleBookings selected evenWithoutSlot onSlot onBooking db).1 := by
  have hsettled : (settleBookings selected evenWithoutSlot onSlot onBooking db).1.Balance ∧
      ∀ s ∈ (settleBookings selected evenWithoutSlot onSlot onBooking db).1.inventorySlots,
        0 ≤ s.totalCapacity :=
    h.balance.settle hfollow h.total fun b s _ _ _ _ hs ↦ (htotal b s).symm ▸ hs
  exact ⟨hsettled.1, hsettled.2⟩

/-- A loop whose bookings never weigh more than before overbooks nothing. -/
theorem settle_fits {db : Db} (h : db.Balance) {selected : InventoryBooking → Bool}
    {evenWithoutSlot : Bool} {onSlot : InventoryBooking → InventorySlot → InventorySlot}
    {onBooking : InventoryBooking → InventoryBooking}
    (hfollow : ∀ b, selected b = true → Follows onSlot onBooking b)
    (hweight : ∀ b, selected b = true → 0 ≤ b.capacityUnits →
      (onBooking b).reservedUnits + (onBooking b).committedUnits ≤
        b.reservedUnits + b.committedUnits)
    (hinternal : ∀ b s, (onSlot b s).internalBlockedCapacity = s.internalBlockedCapacity)
    (htotal : ∀ b s, (onSlot b s).totalCapacity = s.totalCapacity)
    (hfit : ∀ s ∈ db.inventorySlots, s.Fits) :
    ∀ s ∈ (settleBookings selected evenWithoutSlot onSlot onBooking db).1.inventorySlots,
      s.Fits := by
  refine (h.settle hfollow hfit fun b s hsel hunits hr hc hs ↦ ?_).2
  have hres := (hfollow b hsel).reserved s hr hc
  have hbook := (hfollow b hsel).booked s hr hc
  have hle := hweight b hsel hunits
  unfold InventorySlot.Fits InventorySlot.taken at hs ⊢
  rw [hres, hbook, hinternal, htotal]
  omega

theorem bookable_of_checked {r : ReserveRequest} (hr : r.NonNegative) {db : Db} (h : LedgerInv db)
    {ps : List (Int × Nat)} {needed : List (InventorySlot × Int)}
    (hc : List.Forall₂ (Checked r db) ps needed) : ∀ need ∈ needed, Bookable db need := by
  intro need hneed
  obtain ⟨p, -, hp⟩ := Rows.forall₂_mem_right hc hneed
  refine ⟨hp.mem, ?_, hp.room⟩
  rw [hp.units]
  exact requestedUnits_nonneg hr (h.total need.1 hp.mem)

theorem releaseSlot_kept (b : InventoryBooking) (s : InventorySlot) :
    (releaseSlot b s).internalBlockedCapacity = s.internalBlockedCapacity ∧
      (releaseSlot b s).totalCapacity = s.totalCapacity := by
  unfold releaseSlot
  split <;> exact ⟨rfl, rfl⟩

theorem isReserved_of_decide {b : InventoryBooking} {p : Prop} [Decidable p]
    (h : decide (p ∧ b.status = .reserved) = true) : b.status = .reserved :=
  (of_decide_eq_true h).2

theorem LedgerInv.next {db : Db} (h : LedgerInv db) (now : Int) {op : InventoryOp}
    (hop : op.NonNegative) : LedgerInv (inventoryNext db (now, op)) := by
  cases op with
  | commit campaignId =>
      exact h.settle (fun b hb ↦ commit_follows now (isReserved_of_decide hb)) fun _ _ ↦ rfl
  | release campaignId reason =>
      exact h.settle (fun b hb ↦ release_follows now _ (of_decide_eq_true hb).2)
        fun b s ↦ (releaseSlot_kept b s).2
  | expire =>
      exact h.settle (fun b hb ↦ expire_follows (of_decide_eq_true hb).1) fun _ _ ↦ rfl
  | reserve r =>
      show LedgerInv (reserveInventoryForPlacement db now r).1
      have hr : r.NonNegative := hop
      rcases reserve_cases db now r with ⟨-, hdb⟩ | ⟨-, db', hg, hdb⟩
      · rw [hdb]
        exact (h.grow (detected_grows r db now) hr.default).settle
          (fun b hb ↦ revive_follows _ (by simpa using (of_decide_eq_true hb).2)) fun _ _ ↦ rfl
      · have hinv := h.grow hg hr.default
        rcases hdb with hdb | ⟨needed, hc, hdb⟩
        · rw [hdb]
          exact hinv
        · rw [hdb]
          have hids := checked_ids_nodup hinv.balance.ids (slotPairs_nodup _ _) hc
          obtain ⟨hbal, htotal⟩ := hinv.balance.bookSlots r
            (reservedUntil now r.reservationTtlHours) hids (bookable_of_checked hr hinv hc)
            hinv.total fun _ _ hs _ _ ↦ hs
          exact ⟨hbal, htotal⟩

/-- The reservation revives bookings only where the slots still have room for them. -/
def ReviveFits (db : Db) (call : Int × InventoryOp) : Prop :=
  match call.2 with
  | .reserve r =>
      r.Reuses db call.1 → ∀ s ∈ db.inventorySlots,
        s.taken + db.revivable r.placementId s.id ≤ s.totalCapacity
  | _ => True

/-- A slot that is blank has no booking to revive. -/
theorem revivable_of_new {db db' : Db} {total : Int} (h : db.Balance) (hg : Grows total db db')
    (placementId : String) {s : InventorySlot} (hs : s.id ∉ db.inventorySlots.map (·.id)) :
    db'.revivable placementId s.id = 0 := by
  unfold Db.revivable
  rw [hg.bookings]
  apply Rows.total_eq_zero
  intro b hb
  have hne : b.inventorySlotId ≠ s.id := fun heq ↦ hs (heq ▸ h.slotOf b hb)
  simpa using hne

theorem reuse_fits_iff {db : Db} (h : LedgerInv db) (now : Int) {r : ReserveRequest}
    (hr : r.Sound) (reservedUntil : Int) :
    (∀ s ∈ (reuseBookings (r.detected db now).1 r.placementId reservedUntil).inventorySlots,
        s.Fits) ↔
      ∀ s ∈ db.inventorySlots, s.taken + db.revivable r.placementId s.id ≤ s.totalCapacity := by
  have hg := detected_grows r db now
  have hsame (id : Nat) : (r.detected db now).1.revivable r.placementId id =
      db.revivable r.placementId id := by
    unfold Db.revivable
    rw [hg.bookings]
  rw [reuseBookings_fits]
  constructor
  · intro hfit s hs
    rw [← hsame]
    exact hfit s (hg.mem hs)
  · intro hfit s hs
    rcases hg.mem_or hs with hs | ⟨hblank, hnew⟩
    · rw [hsame]
      exact hfit s hs
    · rw [revivable_of_new h.balance hg r.placementId hnew, hblank.taken, hblank.totalCapacity]
      exact hr.default

/-- One operation keeps every slot within its capacity exactly when its revivals fit. -/
theorem next_fits_iff {db : Db} (h : LedgerInv db) (now : Int) {op : InventoryOp}
    (hop : op.Sound) (hfit : ∀ s ∈ db.inventorySlots, s.Fits) :
    (∀ s ∈ (inventoryNext db (now, op)).inventorySlots, s.Fits) ↔ ReviveFits db (now, op) := by
  cases op with
  | commit campaignId =>
      refine iff_of_true (settle_fits h.balance
        (fun b hb ↦ commit_follows now (isReserved_of_decide hb)) (fun b hb _ ↦ ?_)
        (fun _ _ ↦ rfl) (fun _ _ ↦ rfl) hfit) trivial
      have hres := isReserved_of_decide hb
      simp [InventoryBooking.reservedUnits, InventoryBooking.committedUnits, hres]
  | release campaignId reason =>
      refine iff_of_true (settle_fits h.balance
        (fun b hb ↦ release_follows now _ (of_decide_eq_true hb).2) (fun b _ hunits ↦ ?_)
        (fun b s ↦ (releaseSlot_kept b s).1) (fun b s ↦ (releaseSlot_kept b s).2) hfit) trivial
      have hr := InventoryBooking.reservedUnits_nonneg hunits
      have hc := InventoryBooking.committedUnits_nonneg hunits
      show (0 : Int) + 0 ≤ b.reservedUnits + b.committedUnits
      omega
  | expire =>
      refine iff_of_true (settle_fits h.balance
        (fun b hb ↦ expire_follows (of_decide_eq_true hb).1) (fun b _ hunits ↦ ?_)
        (fun _ _ ↦ rfl) (fun _ _ ↦ rfl) hfit) trivial
      have hr := InventoryBooking.reservedUnits_nonneg hunits
      have hc := InventoryBooking.committedUnits_nonneg hunits
      show (0 : Int) + 0 ≤ b.reservedUnits + b.committedUnits
      omega
  | reserve r =>
      show (∀ s ∈ (reserveInventoryForPlacement db now r).1.inventorySlots, s.Fits) ↔
        (r.Reuses db now → ∀ s ∈ db.inventorySlots,
          s.taken + db.revivable r.placementId s.id ≤ s.totalCapacity)
      have hr : r.Sound := hop
      rcases reserve_cases db now r with ⟨hreuse, hdb⟩ | ⟨hreuse, db', hg, hdb⟩
      · rw [hdb, reuse_fits_iff h now hr]
        exact ⟨fun hs _ ↦ hs, fun hs ↦ hs hreuse⟩
      · refine iff_of_true ?_ fun hr ↦ absurd hr hreuse
        have hinv := h.grow hg hr.default
        have hfit' := fits_grow hfit hg hr.default
        rcases hdb with hdb | ⟨needed, hc, hdb⟩
        · rw [hdb]
          exact hfit'
        · rw [hdb]
          have hids := checked_ids_nodup hinv.balance.ids (slotPairs_nodup _ _) hc
          exact (hinv.balance.bookSlots r (reservedUntil now r.reservationTtlHours) hids
            (bookable_of_checked hr.nonNegative hinv hc) hfit' fun _ _ ↦ addReserved_fits).2

/-- No bookings yet, and on every slot at most internal blocks within its capacity. -/
structure EmptyLedger (db : Db) : Prop where
  ids : (db.inventorySlots.map (·.id)).Nodup
  bookings : db.inventoryBookings = []
  booked : ∀ s ∈ db.inventorySlots, s.bookedCapacity = 0
  reserved : ∀ s ∈ db.inventorySlots, s.reservedCapacity = 0
  internal : ∀ s ∈ db.inventorySlots,
    0 ≤ s.internalBlockedCapacity ∧ s.internalBlockedCapacity ≤ s.totalCapacity

theorem EmptyLedger.inv {db : Db} (h : EmptyLedger db) : LedgerInv db := by
  refine ⟨⟨h.ids, ?_, ?_, fun s hs ↦ ?_, fun s hs ↦ ?_⟩, fun s hs ↦ ?_⟩
  · rw [h.bookings]
    exact List.forall_mem_nil _
  · rw [h.bookings]
    exact List.forall_mem_nil _
  · rw [h.bookings]
    exact h.reserved s hs
  · rw [h.bookings]
    exact h.booked s hs
  · have := h.internal s hs
    omega

/-- No slot carries more than its capacity. -/
def Db.NotOverbooked (db : Db) : Prop :=
  ∀ s ∈ db.inventorySlots,
    s.bookedCapacity + s.reservedCapacity + s.internalBlockedCapacity ≤ s.totalCapacity

instance : DecidablePred Db.NotOverbooked := fun db ↦
  inferInstanceAs (Decidable (∀ s ∈ db.inventorySlots, _))

theorem EmptyLedger.notOverbooked {db : Db} (h : EmptyLedger db) : db.NotOverbooked := by
  intro s hs
  have := h.internal s hs
  rw [h.booked s hs, h.reserved s hs]
  omega

/-- A run overbooks nothing exactly when each of its revivals fits. -/
theorem notOverbooked_iff_revivals_fit (db : Db) (calls : List (Int × InventoryOp))
    (hdb : EmptyLedger db) (hcalls : ∀ call ∈ calls, call.2.Sound) :
    Run.Always inventoryNext Db.NotOverbooked db calls ↔
      Run.Guarded inventoryNext ReviveFits db calls :=
  Run.always_iff_guarded (I := LedgerInv) (fun _ call hcall h ↦ h.next call.1 hcall.nonNegative)
    (fun _ call hcall h hfit ↦ next_fits_iff h call.1 hcall hfit) hcalls hdb.inv
    hdb.notOverbooked

/-! Two campaigns want the same hour of one surface, and the first then moves to the next hour. -/

def tenToEleven : DateTime × DateTime := (⟨1782900000000000, 0⟩, ⟨1782903600000000, 0⟩)

def elevenToTwelve : DateTime × DateTime := (⟨1782903600000000, 0⟩, ⟨1782907200000000, 0⟩)

def sharedSurfaceDb : Db where
  displaySurfaces := [{ id := "s1", logicalCarrierId := "l1", storeId := "st1", code := "S-1" }]
  campaigns := [
    { id := "a", advertiserOrganizationId := "o1", advertiserContractId := "k1", code := "A" },
    { id := "b", advertiserOrganizationId := "o2", advertiserContractId := "k2", code := "B" }]
  campaignPlacements := [
    { id := "pa", campaignId := "a", displaySurfaceId := some "s1" },
    { id := "pb", campaignId := "b", displaySurfaceId := some "s1" }]

def fullShare (campaignId placementId : String) (window : DateTime × DateTime) :
    ReserveRequest where
  campaignId := campaignId
  placementId := placementId
  displaySurfaceId := "s1"
  startsAt := window.1
  endsAt := window.2
  sovPercent := some 100

def movedCampaignCalls : List (Int × InventoryOp) := [
  (1, .reserve (fullShare "a" "pa" tenToEleven)),
  (2, .release "a" "re-reserve cleanup"),
  (3, .reserve (fullShare "b" "pb" tenToEleven)),
  (4, .reserve (fullShare "a" "pa" elevenToTwelve))]

theorem fullShare_sound (campaignId placementId : String) (window : DateTime × DateTime) :
    (fullShare campaignId placementId window).Sound :=
  ⟨by simp [fullShare], by simp [fullShare], by simp [fullShare]⟩

theorem sharedSurfaceDb_empty : EmptyLedger sharedSurfaceDb :=
  ⟨List.nodup_nil, rfl, by simp [sharedSurfaceDb], by simp [sharedSurfaceDb],
    by simp [sharedSurfaceDb]⟩

theorem movedCampaignCalls_sound : ∀ call ∈ movedCampaignCalls, call.2.Sound := by
  intro call hcall
  simp only [movedCampaignCalls, List.mem_cons, List.not_mem_nil, or_false] at hcall
  rcases hcall with rfl | rfl | rfl | rfl
  · exact fullShare_sound ..
  · trivial
  · exact fullShare_sound ..
  · exact fullShare_sound ..

theorem reserving_again_overbooks :
    ¬ ∀ (db : Db) (calls : List (Int × InventoryOp)), EmptyLedger db →
      (∀ call ∈ calls, call.2.Sound) → Run.Always inventoryNext Db.NotOverbooked db calls := by
  intro h
  have hrun := h sharedSurfaceDb movedCampaignCalls sharedSurfaceDb_empty movedCampaignCalls_sound
  revert hrun
  decide +kernel

theorem first_reservation_fits :
    Run.Always inventoryNext Db.NotOverbooked sharedSurfaceDb (movedCampaignCalls.take 1) :=
  (notOverbooked_iff_revivals_fit sharedSurfaceDb (movedCampaignCalls.take 1)
    sharedSurfaceDb_empty
    (fun call hcall ↦ movedCampaignCalls_sound call (List.mem_of_mem_take hcall))).2
    ⟨fun hreuse ↦ absurd rfl hreuse.2, trivial⟩

end RetailMedia
