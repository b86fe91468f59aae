import RetailMedia.Inventory.Balance

/-! What a reservation does to the ledger: fresh bookings after a check of every slot, or the
revival of the bookings that the placement already has. -/

namespace RetailMedia

open Ledger

/-! ## Phase 1 -/

/-- What phase 1 found for the slot `p` of the window. -/
structure Checked (r : ReserveRequest) (db : Db) (p : Int × Nat) (need : InventorySlot × Int) :
    Prop where
  mem : need.1 ∈ db.inventorySlots
  at_ : need.1.IsAt r.displaySurfaceId p
  units : need.2 = requestedUnits r.capacityUnits r.sovPercent r.defaultTotalCapacity need.1
  room : need.2 ≤ need.1.availableCapacity

theorem checkSlots_ok {r : ReserveRequest} {db : Db} {ps : List (Int × Nat)}
    {needed : List (InventorySlot × Int)} (h : (checkSlots r db ps).2 = .ok needed) :
    List.Forall₂ (Checked r (checkSlots r db ps).1) ps needed := by
  induction ps generalizing db needed with
  | nil =>
      simp only [checkSlots, Except.ok.injEq] at h
      subst h
      exact .nil
  | cons p ps ih =>
      obtain ⟨hmem, hat⟩ := mem_getOrCreate db r.displaySurfaceId p r.defaultTotalCapacity
      unfold checkSlots at h ⊢
      dsimp only at h ⊢
      split at h
      · cases h
      · rename_i hroom
        have hgrow := checkSlots_grows r
          (getOrCreateInventorySlot db r.displaySurfaceId p r.defaultTotalCapacity).1 ps
        rw [if_neg hroom]
        split at h
        · rename_i db' rest heq
          rw [heq] at hgrow
          cases h
          have hrest := ih (congrArg Prod.snd heq)
          rw [heq] at hrest
          exact .cons ⟨hgrow.mem hmem, hat, rfl, by simpa using hroom⟩ hrest
        · cases h

theorem Checked.isAt_inj {r : ReserveRequest} {db : Db} {p p' : Int × Nat}
    {need need' : InventorySlot × Int} (h : Checked r db p need) (h' : Checked r db p' need')
    (hids : (db.inventorySlots.map (·.id)).Nodup) (hid : need.1.id = need'.1.id) : p = p' := by
  have heq := Rows.key_inj hids h.mem h'.mem hid
  obtain ⟨-, hd, hh⟩ := h.at_
  obtain ⟨-, hd', hh'⟩ := h'.at_
  rw [heq] at hd hh
  exact Prod.ext (hd.symm.trans hd') (hh.symm.trans hh')

/-- Different slots of the window are different rows. -/
theorem checked_ids_nodup {r : ReserveRequest} {db : Db} {ps : List (Int × Nat)}
    {needed : List (InventorySlot × Int)} (hids : (db.inventorySlots.map (·.id)).Nodup)
    (hps : ps.Nodup) (h : List.Forall₂ (Checked r db) ps needed) :
    (needed.map (·.1.id)).Nodup := by
  induction h with
  | nil => exact List.nodup_nil
  | @cons p need ps needed hp hrest ih =>
      obtain ⟨hnot, hps⟩ := List.nodup_cons.1 hps
      refine List.nodup_cons.2 ⟨fun hmem ↦ ?_, ih hps⟩
      obtain ⟨need', hneed', hid⟩ := List.mem_map.1 hmem
      obtain ⟨p', hp', hc⟩ := Rows.forall₂_mem_right hrest hneed'
      have := hp.isAt_inj hc hids hid.symm
      subst this
      exact hnot hp'

/-! ## Phase 2 -/

/-- What phase 2 relies on: the slots are rows of the table and have room for what is booked. -/
structure Bookable (db : Db) (need : InventorySlot × Int) : Prop where
  mem : need.1 ∈ db.inventorySlots
  nonneg : 0 ≤ need.2
  room : need.2 ≤ need.1.availableCapacity

theorem Db.Balance.bookSlot {db : Db} (h : db.Balance) (r : ReserveRequest) (reservedUntil : Int)
    {need : InventorySlot × Int} (hb : Bookable db need) :
    (RetailMedia.bookSlot r reservedUntil db need).Balance := by
  have hid : ∀ s : InventorySlot, (s.addReserved need.2).id = s.id := fun _ ↦ rfl
  have hnew {P : InventoryBooking → Prop} (hP : ∀ b ∈ db.inventoryBookings, P b)
      (hPn : P (newInventoryBooking r reservedUntil db need.1.id need.2)) :
      ∀ b ∈ db.inventoryBookings ++ [newInventoryBooking r reservedUntil db need.1.id need.2],
        P b := by
    intro b hb
    rcases List.mem_append.1 hb with hb | hb
    · exact hP b hb
    · rw [List.mem_singleton.1 hb]
      exact hPn
  constructor
  · show ((Ledger.adjust (·.id) need.1.id (·.addReserved need.2) db.inventorySlots).map
      (·.id)).Nodup
    rw [map_id_adjust hid]
    exact h.ids
  · exact hnew h.units hb.nonneg
  · show ∀ b ∈ db.inventoryBookings ++ [newInventoryBooking r reservedUntil db need.1.id need.2],
      b.inventorySlotId ∈
        (Ledger.adjust (·.id) need.1.id (·.addReserved need.2) db.inventorySlots).map (·.id)
    rw [map_id_adjust hid]
    exact hnew h.slotOf (List.mem_map_of_mem hb.mem)
  · exact h.reserved.concat (b := newInventoryBooking r reservedUntil db need.1.id need.2) hid
      fun s _ _ ↦ rfl
  · refine h.booked.concat (b := newInventoryBooking r reservedUntil db need.1.id need.2) hid
      fun s _ _ ↦ ?_
    -- a new booking is reserved, so the booked counter stays
    show s.bookedCapacity = s.bookedCapacity + 0
    rw [add_zero]

theorem mem_bookSlot {r : ReserveRequest} {reservedUntil : Int} {db : Db}
    {need : InventorySlot × Int} {s' : InventorySlot}
    (hs : s' ∈ (bookSlot r reservedUntil db need).inventorySlots) :
    ∃ s ∈ db.inventorySlots, (if s.id = need.1.id then s.addReserved need.2 else s) = s' :=
  mem_adjust.1 hs

theorem mem_bookSlot_of_ne {r : ReserveRequest} {reservedUntil : Int} {db : Db}
    {need : InventorySlot × Int} {s : InventorySlot} (hs : s ∈ db.inventorySlots)
    (hne : s.id ≠ need.1.id) : s ∈ (bookSlot r reservedUntil db need).inventorySlots :=
  mem_adjust.2 ⟨s, hs, if_neg hne⟩

theorem addReserved_fits {s : InventorySlot} {n : Int} (hs : s.Fits) (hn : 0 ≤ n)
    (hroom : n ≤ s.availableCapacity) : (s.addReserved n).Fits := by
  show s.bookedCapacity + (s.reservedCapacity + n) + s.internalBlockedCapacity ≤ s.totalCapacity
  unfold InventorySlot.Fits InventorySlot.taken at hs
  rcases hn.eq_or_lt with rfl | hpos
  · omega
  · have := InventorySlot.taken_add_le hpos hroom
    unfold InventorySlot.taken at this
    omega

/-- Booking checked slots keeps the ledger balanced, and with it everything `P` that an addition
within the room of a slot keeps. -/
theorem Db.Balance.bookSlots {db : Db} (h : db.Balance) (r : ReserveRequest) (reservedUntil : Int)
    {needed : List (InventorySlot × Int)} (hids : (needed.map (·.1.id)).Nodup)
    (hb : ∀ need ∈ needed, Bookable db need) {P : InventorySlot → Prop}
    (hP : ∀ s ∈ db.inventorySlots, P s)
    (hadd : ∀ s n, P s → 0 ≤ n → n ≤ s.availableCapacity → P (s.addReserved n)) :
    (RetailMedia.bookSlots r reservedUntil db needed).Balance ∧
      ∀ s ∈ (RetailMedia.bookSlots r reservedUntil db needed).inventorySlots, P s := by
  induction needed generalizing db with
  | nil => exact ⟨h, hP⟩
  | cons need needed ih =>
      obtain ⟨hnot, hids⟩ := List.nodup_cons.1 hids
      have hneed := hb need List.mem_cons_self
      refine ih (h.bookSlot r reservedUntil hneed) hids ?_ ?_
      · intro need' hneed'
        have hold := hb need' (List.mem_cons_of_mem need hneed')
        have hne : need'.1.id ≠ need.1.id := by
          intro heq
          exact hnot (List.mem_map.2 ⟨need', hneed', heq⟩)
        exact ⟨mem_bookSlot_of_ne hold.mem hne, hold.nonneg, hold.room⟩
      · intro s' hs'
        obtain ⟨s, hs, rfl⟩ := mem_bookSlot hs'
        by_cases hk : s.id = need.1.id
        · have heq := Rows.key_inj h.ids hs hneed.mem hk
          rw [if_pos hk]
          exact hadd s need.2 (hP s hs) hneed.nonneg (heq ▸ hneed.room)
        · rw [if_neg hk]
          exact hP s hs

/-! ## Requests -/

/-- A request as a caller may make it: at least one unit or a share of 1 to 100 percent. -/
structure ReserveRequest.Sound (r : ReserveRequest) : Prop where
  units : ∀ n ∈ r.capacityUnits, 1 ≤ n
  sov : ∀ n ∈ r.sovPercent, 1 ≤ n ∧ n ≤ 100
  default : 0 ≤ r.defaultTotalCapacity

/-- A request that may also ask for no unit at all.  The total of a new slot counts devices and
slot time, so it is not negative. -/
structure ReserveRequest.NonNegative (r : ReserveRequest) : Prop where
  units : ∀ n ∈ r.capacityUnits, 0 ≤ n
  sov : ∀ n ∈ r.sovPercent, 1 ≤ n ∧ n ≤ 100
  default : 0 ≤ r.defaultTotalCapacity

theorem ReserveRequest.Sound.nonNegative {r : ReserveRequest} (h : r.Sound) : r.NonNegative :=
  ⟨fun n hn ↦ zero_le_one.trans (h.units n hn), h.sov, h.default⟩

theorem requestedUnits_nonneg {r : ReserveRequest} (hr : r.NonNegative) {s : InventorySlot}
    (hs : 0 ≤ s.totalCapacity) :
    0 ≤ requestedUnits r.capacityUnits r.sovPercent r.defaultTotalCapacity s := by
  have htotal : 0 ≤ s.totalOr r.defaultTotalCapacity := by
    unfold InventorySlot.totalOr
    split
    · exact hr.default
    · exact hs
  unfold requestedUnits
  split
  · rename_i u hu
    have := hr.units u hu
    omega
  · rename_i p _ hp
    have := hr.sov p hp
    have hprod : 0 ≤ s.totalOr r.defaultTotalCapacity * p := mul_nonneg htotal (by omega)
    unfold sovUnits
    omega
  · exact le_rfl

/-- The request passes every check before the ledger is touched. -/
structure ReserveRequest.Passes (r : ReserveRequest) (db : Db) (now : Int) : Prop where
  window : r.startsAt.instant < r.endsAt.instant
  notBoth : ¬ (r.capacityUnits.isSome ∧ r.sovPercent.isSome)
  sov : sovOutOfRange r.sovPercent = false
  noConflict : (r.detected db now).2.hasConflicts = false

theorem detected_grows (r : ReserveRequest) (db : Db) (now : Int) :
    Grows r.defaultTotalCapacity db (r.detected db now).1 :=
  detectInventoryConflicts_grows ..

theorem reserve_passed {r : ReserveRequest} {db : Db} {now : Int} (h : r.Passes db now) :
    reserveInventoryForPlacement db now r = reserveChecked (r.detected db now).1 now r := by
  unfold reserveInventoryForPlacement
  rw [if_neg (not_le.2 h.window), if_neg h.notBoth, h.sov]
  dsimp only
  rw [h.noConflict]
  rfl

/-- A request that fails a check is refused; at most blank slots appear. -/
theorem reserve_refused {r : ReserveRequest} {db : Db} {now : Int} (h : ¬ r.Passes db now) :
    Grows r.defaultTotalCapacity db (reserveInventoryForPlacement db now r).1 ∧
      ∃ e, (reserveInventoryForPlacement db now r).2 = .error e := by
  have h0 := Grows.refl r.defaultTotalCapacity db
  unfold reserveInventoryForPlacement
  by_cases hwindow : r.endsAt.instant ≤ r.startsAt.instant
  · rw [if_pos hwindow]
    exact ⟨h0, _, rfl⟩
  rw [if_neg hwindow]
  by_cases hboth : r.capacityUnits.isSome = true ∧ r.sovPercent.isSome = true
  · rw [if_pos hboth]
    exact ⟨h0, _, rfl⟩
  rw [if_neg hboth]
  by_cases hsov : sovOutOfRange r.sovPercent = true
  · rw [if_pos hsov]
    exact ⟨h0, _, rfl⟩
  rw [if_neg hsov]
  dsimp only
  by_cases hconf : (r.detected db now).2.hasConflicts = true
  · rw [if_pos hconf]
    exact ⟨detected_grows r db now, _, rfl⟩
  · exact absurd ⟨not_le.1 hwindow, hboth, by simpa using hsov, by simpa using hconf⟩ h

/-- The request reaches the reuse branch: its placement already has bookings. -/
def ReserveRequest.Reuses (r : ReserveRequest) (db : Db) (now : Int) : Prop :=
  r.Passes db now ∧ db.bookingsOf r.placementId ≠ []

theorem Grows.bookingsOf {total : Int} {db db' : Db} (h : Grows total db db')
    (placementId : String) : db'.bookingsOf placementId = db.bookingsOf placementId := by
  unfold Db.bookingsOf
  rw [h.bookings]

theorem reserveChecked_cases (db : Db) (now : Int) (r : ReserveRequest) :
    db.bookingsOf r.placementId ≠ [] ∧ (reserveChecked db now r).1 =
        reuseBookings db r.placementId (reservedUntil now r.reservationTtlHours) ∨
      db.bookingsOf r.placementId = [] ∧ ∃ db', Grows r.defaultTotalCapacity db db' ∧
        ((reserveChecked db now r).1 = db' ∨
          ∃ needed, List.Forall₂ (Checked r db') (slotPairs r.startsAt r.endsAt) needed ∧
            (reserveChecked db now r).1 =
              bookSlots r (reservedUntil now r.reservationTtlHours) db' needed) := by
  unfold reserveChecked
  by_cases hex : db.bookingsOf r.placementId = []
  · refine .inr ⟨hex, ?_⟩
    rw [if_neg (not_not.2 hex)]
    split_ifs
    · exact ⟨db, Grows.refl _ db, .inl rfl⟩
    · have hgrow := checkSlots_grows r db (slotPairs r.startsAt r.endsAt)
      split
      · rename_i db' e heq
        rw [heq] at hgrow
        exact ⟨db', hgrow, .inl rfl⟩
      · rename_i db' needed heq
        have hok := checkSlots_ok (congrArg Prod.snd heq)
        rw [heq] at hgrow hok
        exact ⟨db', hgrow, .inr ⟨needed, hok, rfl⟩⟩
  · refine .inl ⟨hex, ?_⟩
    rw [if_pos hex]

/-- All that a reservation can do: revive the placement's bookings, or grow by blank slots and
then refuse or book the checked slots. -/
theorem reserve_cases (db : Db) (now : Int) (r : ReserveRequest) :
    r.Reuses db now ∧ (reserveInventoryForPlacement db now r).1 =
        reuseBookings (r.detected db now).1 r.placementId
          (reservedUntil now r.reservationTtlHours) ∨
      ¬ r.Reuses db now ∧ ∃ db', Grows r.defaultTotalCapacity db db' ∧
        ((reserveInventoryForPlacement db now r).1 = db' ∨
          ∃ needed, List.Forall₂ (Checked r db') (slotPairs r.startsAt r.endsAt) needed ∧
            (reserveInventoryForPlacement db now r).1 =
              bookSlots r (reservedUntil now r.reservationTtlHours) db' needed) := by
  have hgrow := detected_grows r db now
  by_cases hpass : r.Passes db now
  · rw [reserve_passed hpass]
    have hexisting := hgrow.bookingsOf r.placementId
    rcases reserveChecked_cases (r.detected db now).1 now r with ⟨hex, hdb⟩ | ⟨hex, db', hg, hdb⟩
    · rw [hexisting] at hex
      exact .inl ⟨⟨hpass, hex⟩, hdb⟩
    · rw [hexisting] at hex
      exact .inr ⟨fun h ↦ h.2 hex, db', hgrow.trans hg, hdb⟩
  · exact .inr ⟨fun h ↦ hpass h.1, _, (reserve_refused hpass).1, .inl rfl⟩

/-! ## Refusals -/

/-- Nothing is there that was not, but blank slots. -/
def OnlyBlankSlots (db db' : Db) : Prop :=
  ∃ new, db' = { db with inventorySlots := db.inventorySlots ++ new } ∧
    ∀ s ∈ new, s.id ∉ db.inventorySlots.map (·.id) ∧ s.bookedCapacity = 0 ∧
      s.reservedCapacity = 0 ∧ s.internalBlockedCapacity = 0 ∧ s.emergencyBlockedCapacity = 0

theorem Grows.onlyBlankSlots {total : Int} {db db' : Db} (h : Grows total db db') :
    OnlyBlankSlots db db' := by
  obtain ⟨new, hdb, hnew⟩ := h
  refine ⟨new, hdb, ?_⟩
  intro s hs
  have hblank := hnew.blank s hs
  exact ⟨hnew.newIds s hs, hblank.bookedCapacity, hblank.reservedCapacity,
    hblank.internalBlockedCapacity, hblank.emergencyBlockedCapacity⟩

/-- Phase 2, the only one that books, does not raise. -/
theorem reserveChecked_error {db : Db} {now : Int} {r : ReserveRequest} {e : String}
    (h : (reserveChecked db now r).2 = .error e) :
    Grows r.defaultTotalCapacity db (reserveChecked db now r).1 := by
  unfold reserveChecked at h ⊢
  dsimp only at h ⊢
  by_cases hexisting : db.bookingsOf r.placementId = []
  · rw [if_neg (not_not.2 hexisting)] at h ⊢
    by_cases hpairs : slotPairs r.startsAt r.endsAt = []
    · rw [if_pos hpairs]
      exact Grows.refl _ db
    · rw [if_neg hpairs] at h ⊢
      have hgrow := checkSlots_grows r db (slotPairs r.startsAt r.endsAt)
      cases hcheck : checkSlots r db (slotPairs r.startsAt r.endsAt) with
      | mk db' found =>
          rw [hcheck] at h hgrow
          cases found with
          | error e' => exact hgrow
          | ok needed => cases h
  · rw [if_pos hexisting] at h
    cases h

/-- A reservation that raises has touched no booking and no slot that was there. -/
theorem failed_reservation_intact (db : Db) (now : Int) (r : ReserveRequest) (e : String)
    (h : (reserveInventoryForPlacement db now r).2 = .error e) :
    OnlyBlankSlots db (reserveInventoryForPlacement db now r).1 := by
  by_cases hpass : r.Passes db now
  · rw [reserve_passed hpass] at h ⊢
    exact ((detected_grows r db now).trans (reserveChecked_error h)).onlyBlankSlots
  · exact (reserve_refused hpass).1.onlyBlankSlots

/-! The second of two hours is full: the first one stays behind as a blank slot. -/

def fullHourDb : Db where
  displaySurfaces := [{ id := "s", logicalCarrierId := "c", storeId := "st", code := "S" }]
  inventorySlots := [{
    id := 1, displaySurfaceId := "s", slotDate := 0, slotHour := 1, totalCapacity := 100
    bookedCapacity := 90 }]

def twoHours : ReserveRequest where
  campaignId := "a"
  placementId := "p"
  displaySurfaceId := "s"
  startsAt := .utc 0
  endsAt := .utc (2 * hourMicros)
  capacityUnits := some 20

theorem twoHours_refused :
    OnlyBlankSlots fullHourDb (reserveInventoryForPlacement fullHourDb 0 twoHours).1 ∧
      (reserveInventoryForPlacement fullHourDb 0 twoHours).1.inventorySlots.length = 2 :=
  ⟨failed_reservation_intact fullHourDb 0 twoHours
    "Blocked by CAPACITY_OVERBOOKED: Slot 1970-01-01T1:00 overbooked: available=10, needed=20"
    (by decide +kernel), by decide +kernel⟩

end RetailMedia
