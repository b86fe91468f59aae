import RetailMedia.Inventory.Reservation

/-! The inventory ledger: on every slot the reserved counter is the sum of the reserved bookings
and the booked counter the sum of the committed ones, whatever the life cycle does. -/

namespace RetailMedia

open Ledger

namespace InventoryBooking

def reservedUnits (b : InventoryBooking) : Int :=
  if b.status = .reserved then b.capacityUnits else 0

def committedUnits (b : InventoryBooking) : Int :=
  if b.status = .committed then b.capacityUnits else 0

theorem reservedUnits_nonneg {b : InventoryBooking} (h : 0 ≤ b.capacityUnits) :
    0 ≤ b.reservedUnits := by
  unfold reservedUnits
  split
  · exact h
  · exact le_rfl

theorem committedUnits_nonneg {b : InventoryBooking} (h : 0 ≤ b.capacityUnits) :
    0 ≤ b.committedUnits := by
  unfold committedUnits
  split
  · exact h
  · exact le_rfl

end InventoryBooking

structure Balance (slots : List InventorySlot) (bookings : List InventoryBooking) : Prop where
  ids : (slots.map (·.id)).Nodup
  units : ∀ b ∈ bookings, 0 ≤ b.capacityUnits
  slotOf : ∀ b ∈ bookings, b.inventorySlotId ∈ slots.map (·.id)
  reserved : Balanced (·.id) (·.reservedCapacity) (·.inventorySlotId)
    InventoryBooking.reservedUnits slots bookings
  booked : Balanced (·.id) (·.bookedCapacity) (·.inventorySlotId)
    InventoryBooking.committedUnits slots bookings

def Db.Balance (db : Db) : Prop := RetailMedia.Balance db.inventorySlots db.inventoryBookings

/-- Nothing on the slot exceeds its capacity. -/
def InventorySlot.Fits (s : InventorySlot) : Prop := s.taken ≤ s.totalCapacity

theorem map_id_adjust {k : Nat} {f : InventorySlot → InventorySlot} (hf : ∀ s, (f s).id = s.id)
    (slots : List InventorySlot) :
    (Ledger.adjust (·.id) k f slots).map (·.id) = slots.map (·.id) :=
  Rows.map_updateWhere _ hf slots

/-! ## Slots on demand -/

/-- The slot handed out is in the table, and the table kept its rows or gained that one. -/
theorem getOrCreate_cases (db : Db) (surfaceId : String) (p : Int × Nat) (total : Int) :
    (getOrCreateInventorySlot db surfaceId p total).1 = db ∧
        (getOrCreateInventorySlot db surfaceId p total).2 ∈ db.inventorySlots ∧
        (getOrCreateInventorySlot db surfaceId p total).2.IsAt surfaceId p ∨
      (getOrCreateInventorySlot db surfaceId p total).1 =
          { db with inventorySlots :=
            db.inventorySlots ++ [newInventorySlot db surfaceId p total] } ∧
        (getOrCreateInventorySlot db surfaceId p total).2 =
          newInventorySlot db surfaceId p total ∧
        ∀ s ∈ db.inventorySlots, ¬ s.IsAt surfaceId p := by
  unfold getOrCreateInventorySlot
  cases h : db.inventorySlots.find? fun s ↦ s.IsAt surfaceId p with
  | some row =>
      have hat := List.find?_some h
      exact .inl ⟨rfl, List.mem_of_find?_eq_some h, by simpa using hat⟩
  | none =>
      have hnone := List.find?_eq_none.1 h
      exact .inr ⟨rfl, rfl, fun s hs ↦ by simpa using hnone s hs⟩

theorem newSlot_id_fresh (db : Db) (surfaceId : String) (p : Int × Nat) (total : Int) :
    (newInventorySlot db surfaceId p total).id ∉ db.inventorySlots.map (·.id) :=
  Rows.freshKey_not_mem _

theorem mem_getOrCreate (db : Db) (surfaceId : String) (p : Int × Nat) (total : Int) :
    (getOrCreateInventorySlot db surfaceId p total).2 ∈
        (getOrCreateInventorySlot db surfaceId p total).1.inventorySlots ∧
      (getOrCreateInventorySlot db surfaceId p total).2.IsAt surfaceId p := by
  rcases getOrCreate_cases db surfaceId p total with ⟨hdb, hs, hat⟩ | ⟨hdb, hs, -⟩
  · rw [hdb]
    exact ⟨hs, hat⟩
  · rw [hdb, hs]
    exact ⟨by simp, rfl, rfl, rfl⟩

/-- A slot as `get_or_create_inventory_slot` creates it. -/
structure InventorySlot.Blank (total : Int) (s : InventorySlot) : Prop where
  totalCapacity : s.totalCapacity = total
  bookedCapacity : s.bookedCapacity = 0
  reservedCapacity : s.reservedCapacity = 0
  internalBlockedCapacity : s.internalBlockedCapacity = 0
  emergencyBlockedCapacity : s.emergencyBlockedCapacity = 0

theorem InventorySlot.Blank.taken {total : Int} {s : InventorySlot} (h : s.Blank total) :
    s.taken = 0 := by
  unfold InventorySlot.taken
  rw [h.bookedCapacity, h.reservedCapacity, h.internalBlockedCapacity]
  rfl

/-- The rows of `new` are blank and clash with no row, in the primary key or in the unique
constraint. -/
structure Extension (total : Int) (old new : List InventorySlot) : Prop where
  blank : ∀ s ∈ new, s.Blank total
  newIds : ∀ s ∈ new, s.id ∉ old.map (·.id)
  ids : (old.map (·.id)).Nodup → ((old ++ new).map (·.id)).Nodup
  keys : (old.map (·.key)).Nodup → ((old ++ new).map (·.key)).Nodup

/-- Only blank slots were added. -/
def Grows (total : Int) (db db' : Db) : Prop :=
  ∃ new, db' = { db with inventorySlots := db.inventorySlots ++ new } ∧
    Extension total db.inventorySlots new

namespace Grows

variable {total : Int} {db db' db'' : Db}

theorem refl (total : Int) (db : Db) : Grows total db db := by
  refine ⟨[], by rw [List.append_nil], by simp, by simp, ?_, ?_⟩
  · rw [List.append_nil]
    exact id
  · rw [List.append_nil]
    exact id

theorem bookings (h : Grows total db db') : db'.inventoryBookings = db.inventoryBookings := by
  obtain ⟨new, rfl, -⟩ := h
  rfl

theorem mem (h : Grows total db db') {s : InventorySlot} (hs : s ∈ db.inventorySlots) :
    s ∈ db'.inventorySlots := by
  obtain ⟨new, rfl, -⟩ := h
  exact List.mem_append_left _ hs

theorem mem_or (h : Grows total db db') {s : InventorySlot} (hs : s ∈ db'.inventorySlots) :
    s ∈ db.inventorySlots ∨ s.Blank total ∧ s.id ∉ db.inventorySlots.map (·.id) := by
  obtain ⟨new, rfl, hnew⟩ := h
  rcases List.mem_append.1 hs with hs | hs
  · exact .inl hs
  · exact .inr ⟨hnew.blank s hs, hnew.newIds s hs⟩

theorem trans (h : Grows total db db') (h' : Grows total db' db'') : Grows total db db'' := by
  obtain ⟨new, rfl, hnew⟩ := h
  obtain ⟨new', rfl, hnew'⟩ := h'
  refine ⟨new ++ new', by simp, fun s hs ↦ ?_, fun s hs hmem ↦ ?_, fun h ↦ ?_, fun h ↦ ?_⟩
  · rcases List.mem_append.1 hs with hs | hs
    · exact hnew.blank s hs
    · exact hnew'.blank s hs
  · rcases List.mem_append.1 hs with hs | hs
    · exact hnew.newIds s hs hmem
    · apply hnew'.newIds s hs
      rw [List.map_append]
      exact List.mem_append_left _ hmem
  · rw [← List.append_assoc]
    exact hnew'.ids (hnew.ids h)
  · rw [← List.append_assoc]
    exact hnew'.keys (hnew.keys h)

theorem getOrCreate (db : Db) (surfaceId : String) (p : Int × Nat) (total : Int) :
    Grows total db (getOrCreateInventorySlot db surfaceId p total).1 := by
  rcases getOrCreate_cases db surfaceId p total with ⟨hdb, -⟩ | ⟨hdb, -, hnot⟩
  · rw [hdb]
    exact Grows.refl total db
  · have hfresh := newSlot_id_fresh db surfaceId p total
    have hkey : (newInventorySlot db surfaceId p total).key ∉
        db.inventorySlots.map (·.key) := by
      intro hmem
      obtain ⟨s, hs, heq⟩ := List.mem_map.1 hmem
      exact hnot s hs (isAt_iff.2 heq)
    rw [hdb]
    refine ⟨_, rfl, fun s hs ↦ ?_, fun s hs ↦ ?_, fun h ↦ ?_, fun h ↦ ?_⟩
    · rw [List.mem_singleton.1 hs]
      exact ⟨rfl, rfl, rfl, rfl, rfl⟩
    · rw [List.mem_singleton.1 hs]
      exact hfresh
    · rw [List.map_append]
      exact Rows.nodup_concat h hfresh
    · rw [List.map_append]
      exact Rows.nodup_concat h hkey

end Grows

theorem computeInventoryAvailability_grows (db : Db) (surfaceId : String)
    (startsAt endsAt : DateTime) (units sov : Option Int) (default : Int) :
    Grows default db
      (computeInventoryAvailability db surfaceId startsAt endsAt units sov default).1 := by
  have h0 := Grows.refl default db
  unfold computeInventoryAvailability
  split_ifs
  · exact h0
  · exact h0
  · exact h0
  · exact h0
  · exact Rows.sweep_state (f := availabilityStep surfaceId units sov default)
      (fun d p h ↦ h.trans (Grows.getOrCreate d surfaceId p default)) (slotPairs startsAt endsAt) h0

theorem detectInventoryConflicts_grows (db : Db) (now : Int) (surfaceId : String)
    (startsAt endsAt : DateTime) (units sov : Option Int) (default : Int) :
    Grows default db
      (detectInventoryConflicts db now surfaceId startsAt endsAt units sov default).1 := by
  have h0 := Grows.refl default db
  have havail :=
    computeInventoryAvailability_grows db surfaceId startsAt endsAt units sov default
  unfold detectInventoryConflicts
  split
  · exact h0
  · split_ifs
    · dsimp only
      split
      · rename_i heq
        rw [heq] at havail
        exact havail
      · rename_i heq
        rw [heq] at havail
        exact havail
    · exact h0

theorem checkSlots_grows (r : ReserveRequest) (db : Db) (ps : List (Int × Nat)) :
    Grows r.defaultTotalCapacity db (checkSlots r db ps).1 := by
  induction ps generalizing db with
  | nil => exact Grows.refl _ db
  | cons p ps ih =>
      have h1 := Grows.getOrCreate db r.displaySurfaceId p r.defaultTotalCapacity
      have hrest := h1.trans (ih _)
      unfold checkSlots
      dsimp only
      split
      · exact h1
      · split
        · rename_i heq
          rw [heq] at hrest
          exact hrest
        · rename_i heq
          rw [heq] at hrest
          exact hrest

theorem Db.Balance.grow {db db' : Db} {total : Int} (h : db.Balance) (hg : Grows total db db') :
    db'.Balance := by
  obtain ⟨new, rfl, hnew⟩ := hg
  -- no booking points to a slot that did not exist
  have hnone (weight : InventoryBooking → Int) {s : InventorySlot} (hs : s ∈ new) :
      owed (·.inventorySlotId) weight db.inventoryBookings s.id = 0 := by
    apply Rows.total_eq_zero
    intro b hb
    have hmem := h.slotOf b hb
    have hne : b.inventorySlotId ≠ s.id := by
      intro heq
      rw [heq] at hmem
      exact hnew.newIds s hs hmem
    simpa using hne
  constructor
  · exact hnew.ids h.ids
  · exact h.units
  · intro b hb
    show b.inventorySlotId ∈ (db.inventorySlots ++ new).map (·.id)
    rw [List.map_append]
    exact List.mem_append_left _ (h.slotOf b hb)
  · intro s hs
    rcases List.mem_append.1 hs with hs | hs
    · exact h.reserved s hs
    · rw [hnone _ hs]
      exact (hnew.blank s hs).reservedCapacity
  · intro s hs
    rcases List.mem_append.1 hs with hs | hs
    · exact h.booked s hs
    · rw [hnone _ hs]
      exact (hnew.blank s hs).bookedCapacity

/-! ## Settling bookings -/

/-- The slot follows the booking: what the booking weighs more or less after the change, the
slot's counters count more or less. -/
structure Follows (onSlot : InventoryBooking → InventorySlot → InventorySlot)
    (onBooking : InventoryBooking → InventoryBooking) (b : InventoryBooking) : Prop where
  id : ∀ s, (onSlot b s).id = s.id
  account : (onBooking b).inventorySlotId = b.inventorySlotId
  units : (onBooking b).capacityUnits = b.capacityUnits
  reserved : ∀ s, b.reservedUnits ≤ s.reservedCapacity → b.committedUnits ≤ s.bookedCapacity →
    (onSlot b s).reservedCapacity =
      s.reservedCapacity + ((onBooking b).reservedUnits - b.reservedUnits)
  booked : ∀ s, b.reservedUnits ≤ s.reservedCapacity → b.committedUnits ≤ s.bookedCapacity →
    (onSlot b s).bookedCapacity =
      s.bookedCapacity + ((onBooking b).committedUnits - b.committedUnits)

section Settle

variable {selected : InventoryBooking → Bool} {evenWithoutSlot : Bool}
  {onSlot : InventoryBooking → InventorySlot → InventorySlot}
  {onBooking : InventoryBooking → InventoryBooking}

/-- The counters of a booking's own slot hold at least what the booking weighs. -/
theorem Balance.weight_le {slots : List InventorySlot} {bookings : List InventoryBooking}
    (h : Balance slots bookings) {b : InventoryBooking} (hb : b ∈ bookings) {s : InventorySlot}
    (hs : s ∈ slots) (hk : s.id = b.inventorySlotId) :
    b.reservedUnits ≤ s.reservedCapacity ∧ b.committedUnits ≤ s.bookedCapacity :=
  ⟨h.reserved.weight_le (fun c hc ↦ InventoryBooking.reservedUnits_nonneg (h.units c hc)) hb hs hk,
    h.booked.weight_le (fun c hc ↦ InventoryBooking.committedUnits_nonneg (h.units c hc)) hb hs hk⟩

theorem Balance.change {slots : List InventorySlot} {pre post : List InventoryBooking}
    {b : InventoryBooking} (h : Balance slots (pre ++ b :: post))
    (hfollow : Follows onSlot onBooking b) :
    Balance (Ledger.adjust (·.id) b.inventorySlotId (onSlot b) slots)
      (pre ++ onBooking b :: post) := by
  have hb : b ∈ pre ++ b :: post := List.mem_append_right _ List.mem_cons_self
  have hother {P : InventoryBooking → Prop} (hP : ∀ c ∈ pre ++ b :: post, P c)
      (hPb : P (onBooking b)) : ∀ c ∈ pre ++ onBooking b :: post, P c := by
    intro c hc
    rcases List.mem_append.1 hc with hc | hc
    · exact hP c (List.mem_append_left _ hc)
    · rcases List.mem_cons.1 hc with rfl | hc
      · exact hPb
      · exact hP c (List.mem_append_right _ (List.mem_cons_of_mem b hc))
  constructor
  · rw [map_id_adjust hfollow.id]
    exact h.ids
  · exact hother h.units (by
      rw [hfollow.units]
      exact h.units b hb)
  · rw [map_id_adjust hfollow.id]
    exact hother h.slotOf (by
      rw [hfollow.account]
      exact h.slotOf b hb)
  · refine h.reserved.replace hfollow.account hfollow.id fun s hs hk ↦ ?_
    obtain ⟨hr, hc⟩ := h.weight_le hb hs hk
    exact hfollow.reserved s hr hc
  · refine h.booked.replace hfollow.account hfollow.id fun s hs hk ↦ ?_
    obtain ⟨hr, hc⟩ := h.weight_le hb hs hk
    exact hfollow.booked s hr hc

/-- One booking of the loop: what holds of the changed ledger and of the unchanged one holds
after it. -/
theorem Balance.settleStep_rule {db : Db} {pre post : List InventoryBooking}
    {b : InventoryBooking} (h : Balance db.inventorySlots (pre ++ b :: post))
    {P : List InventorySlot → List InventoryBooking → Prop}
    (hsame : P db.inventorySlots (pre ++ b :: post))
    (hchange : selected b = true →
      P (Ledger.adjust (·.id) b.inventorySlotId (onSlot b) db.inventorySlots)
        (pre ++ onBooking b :: post)) :
    P (settleStep selected evenWithoutSlot onSlot onBooking db b).1.inventorySlots
      (pre ++ (settleStep selected evenWithoutSlot onSlot onBooking db b).2 :: post) := by
  have hb : b ∈ pre ++ b :: post := List.mem_append_right _ List.mem_cons_self
  have hslot : (db.slot b.inventorySlotId).isSome := Rows.get_isSome.2 (h.slotOf b hb)
  unfold settleStep
  by_cases hsel : selected b = true
  · rw [if_pos hsel]
    cases hs : db.slot b.inventorySlotId with
    | none =>
        rw [hs] at hslot
        cases hslot
    | some s => exact hchange hsel
  · rw [if_neg hsel]
    exact hsame

/-- A loop whose slots follow its bookings keeps the ledger balanced, and with it everything
`P` that each single change keeps. -/
theorem Db.Balance.settle {db : Db} (h : db.Balance)
    (hfollow : ∀ b, selected b = true → Follows onSlot onBooking b)
    {P : InventorySlot → Prop} (hP : ∀ s ∈ db.inventorySlots, P s)
    (hstep : ∀ b s, selected b = true → 0 ≤ b.capacityUnits →
      b.reservedUnits ≤ s.reservedCapacity → b.committedUnits ≤ s.bookedCapacity →
      P s → P (onSlot b s)) :
    (settleBookings selected evenWithoutSlot onSlot onBooking db).1.Balance ∧
      ∀ s ∈ (settleBookings selected evenWithoutSlot onSlot onBooking db).1.inventorySlots,
        P s := by
  refine Rows.sweep_invariant (I := fun (d : Db) rows ↦
    RetailMedia.Balance d.inventorySlots rows ∧ ∀ s ∈ d.inventorySlots, P s) ?_ ⟨h, hP⟩
  rintro d pre b post ⟨hbal, hslots⟩
  refine hbal.settleStep_rule
    (P := fun slots rows ↦ RetailMedia.Balance slots rows ∧ ∀ s ∈ slots, P s)
    ⟨hbal, hslots⟩ fun hsel ↦ ⟨hbal.change (hfollow b hsel), ?_⟩
  intro s' hs'
  obtain ⟨s, hs, rfl⟩ := mem_adjust.1 hs'
  by_cases hk : s.id = b.inventorySlotId
  · have hb : b ∈ pre ++ b :: post := List.mem_append_right _ List.mem_cons_self
    obtain ⟨hr, hc⟩ := hbal.weight_le hb hs hk
    rw [if_pos hk]
    exact hstep b s hsel (hbal.units b hb) hr hc (hslots s hs)
  · rw [if_neg hk]
    exact hslots s hs

end Settle

end RetailMedia
