import RetailMedia.Campaign.Reserving
import RetailMedia.Inventory.Conservation

/-! What a reserving session has done to its slots and bookings, and what its UPDATEs and its
commit make of the tables. -/

namespace RetailMedia

open Interleaving Ledger

/-! ## Own rows -/

theorem ownRow_of_not_mem {s : InventorySlot} {ws : List SlotWrite}
    (h : s.id ∉ ws.map (·.read.id)) : ownRow s ws = s := by
  induction ws with
  | nil => rfl
  | cons w ws ih =>
      have hne : w.read.id ≠ s.id := fun heq ↦ h (heq ▸ List.mem_cons_self)
      rw [ownRow, if_neg hne]
      exact ih fun hmem ↦ h (List.mem_cons_of_mem _ hmem)

theorem ownRow_of_mem {s : InventorySlot} {ws : List SlotWrite}
    (hids : (ws.map (·.read.id)).Nodup) {w : SlotWrite} (hw : w ∈ ws) (hid : w.read.id = s.id) :
    ownRow s ws = w.row := by
  induction ws with
  | nil => cases hw
  | cons v ws ih =>
      have ⟨hnot, hrest⟩ := List.nodup_cons.1 hids
      rcases List.mem_cons.1 hw with rfl | hw
      · rw [ownRow, if_pos hid]
      · have hne : v.read.id ≠ s.id := fun heq ↦
          hnot (List.mem_map.2 ⟨w, hw, hid.trans heq.symm⟩)
        rw [ownRow, if_neg hne]
        exact ih hrest hw

theorem ownRow_cases (s : InventorySlot) {ws : List SlotWrite}
    (hids : (ws.map (·.read.id)).Nodup) :
    (∃ w ∈ ws, w.read.id = s.id ∧ ownRow s ws = w.row) ∨
      s.id ∉ ws.map (·.read.id) ∧ ownRow s ws = s := by
  by_cases hmem : s.id ∈ ws.map (·.read.id)
  · have ⟨w, hw, hid⟩ := List.mem_map.1 hmem
    exact .inl ⟨w, hw, hid, ownRow_of_mem hids hw hid⟩
  · exact .inr ⟨hmem, ownRow_of_not_mem hmem⟩

theorem changeSlot_ids (f : InventorySlot → InventorySlot) (s : InventorySlot)
    (ws : List SlotWrite) :
    (changeSlot f s ws).map (·.read.id) =
      if s.id ∈ ws.map (·.read.id) then ws.map (·.read.id) else ws.map (·.read.id) ++ [s.id] := by
  induction ws with
  | nil => rfl
  | cons w ws ih =>
      unfold changeSlot
      by_cases hid : w.read.id = s.id
      · simp [hid]
      · rw [if_neg hid, List.map_cons, ih]
        have hne : s.id ≠ w.read.id := Ne.symm hid
        by_cases hmem : s.id ∈ ws.map (·.read.id)
        · simp only [List.map_cons, List.mem_cons, hmem, or_true, if_true]
        · simp only [List.map_cons, List.mem_cons, hmem, hne, or_false, if_false,
            List.cons_append]

theorem changeSlot_nodup {f : InventorySlot → InventorySlot} {s : InventorySlot}
    {ws : List SlotWrite} (h : (ws.map (·.read.id)).Nodup) :
    ((changeSlot f s ws).map (·.read.id)).Nodup := by
  rw [changeSlot_ids]
  split
  · exact h
  · rename_i hmem
    exact Rows.nodup_concat h hmem

theorem mem_changeSlot {f : InventorySlot → InventorySlot} {s : InventorySlot}
    {ws : List SlotWrite} (hids : (ws.map (·.read.id)).Nodup) {v : SlotWrite}
    (hv : v ∈ changeSlot f s ws) :
    (v ∈ ws ∧ v.read.id ≠ s.id) ∨
      (∃ w ∈ ws, w.read.id = s.id ∧ v = { w with row := f w.row }) ∨
      (s.id ∉ ws.map (·.read.id) ∧ v = { read := s, row := f s }) := by
  induction ws with
  | nil => exact .inr (.inr ⟨List.not_mem_nil, List.mem_singleton.1 hv⟩)
  | cons w ws ih =>
      have ⟨hnot, hrest⟩ := List.nodup_cons.1 hids
      unfold changeSlot at hv
      by_cases hid : w.read.id = s.id
      · rw [if_pos hid] at hv
        rcases List.mem_cons.1 hv with hv | hv
        · exact .inr (.inl ⟨w, List.mem_cons_self, hid, hv⟩)
        · exact .inl ⟨List.mem_cons_of_mem w hv, fun heq ↦
            hnot (List.mem_map.2 ⟨v, hv, heq.trans hid.symm⟩)⟩
      · rw [if_neg hid] at hv
        rcases List.mem_cons.1 hv with hv | hv
        · exact .inl ⟨hv ▸ List.mem_cons_self, hv ▸ hid⟩
        · rcases ih hrest hv with ⟨hold, hne⟩ | ⟨u, hu, hrow⟩ | ⟨hnew, hrow⟩
          · exact .inl ⟨List.mem_cons_of_mem w hold, hne⟩
          · exact .inr (.inl ⟨u, List.mem_cons_of_mem w hu, hrow⟩)
          · refine .inr (.inr ⟨fun hmem ↦ ?_, hrow⟩)
            rcases List.mem_cons.1 hmem with heq | hmem
            · exact hid heq.symm
            · exact hnew hmem

/-! ## What a session has done -/

/-- The reserved and the committed units of a list of bookings on one slot. -/
abbrev reservedOn (bookings : List InventoryBooking) (slotId : Nat) : Int :=
  owed (·.inventorySlotId) InventoryBooking.reservedUnits bookings slotId

abbrev committedOn (bookings : List InventoryBooking) (slotId : Nat) : Int :=
  owed (·.inventorySlotId) InventoryBooking.committedUnits bookings slotId

/-- What the bookings weigh is what those of one campaign and those of the others do. -/
theorem owed_split (d : Db) (c : String) (weight : InventoryBooking → Int) (i : Nat) :
    owed (·.inventorySlotId) weight d.inventoryBookings i =
      owed (·.inventorySlotId) weight (d.bookingsOthers c) i +
        owed (·.inventorySlotId) weight (d.bookingsFor c) i := by
  unfold Db.bookingsFor Db.bookingsOthers
  induction d.inventoryBookings with
  | nil => rfl
  | cons b bs ih =>
      rw [owed_cons, ih]
      by_cases hc : b.campaignId = c
      · rw [List.filter_cons_of_neg (by simpa using hc),
          List.filter_cons_of_pos (by simpa using hc), owed_cons]
        omega
      · rw [List.filter_cons_of_pos (by simpa using hc),
          List.filter_cons_of_neg (by simpa using hc), owed_cons]
        omega

/-- A change of a slot by so many reserved and booked units, and of nothing else that counts. -/
structure Shifts (f : InventorySlot → InventorySlot) (reserved booked : Int) (s : InventorySlot) :
    Prop where
  id : (f s).id = s.id
  key : (f s).key = s.key
  total : (f s).totalCapacity = s.totalCapacity
  internal : (f s).internalBlockedCapacity = s.internalBlockedCapacity
  reserved : (f s).reservedCapacity = s.reservedCapacity + reserved
  booked : (f s).bookedCapacity = s.bookedCapacity + booked
  fits : (f s).Fits

/-- A changed slot differs from the row it was read as by what the campaign's bookings have
changed, and fits. -/
structure SlotWrite.Follows (before own : List InventoryBooking) (w : SlotWrite) : Prop where
  id : w.row.id = w.read.id
  key : w.row.key = w.read.key
  total : w.row.totalCapacity = w.read.totalCapacity
  internal : w.row.internalBlockedCapacity = w.read.internalBlockedCapacity
  reserved : w.row.reservedCapacity = w.read.reservedCapacity +
    (reservedOn own w.read.id -
      reservedOn before w.read.id)
  booked : w.row.bookedCapacity = w.read.bookedCapacity +
    (committedOn own w.read.id -
      committedOn before w.read.id)
  fits : w.row.Fits

/-- The bookings weigh the same on the slot as before. -/
structure SameOn (before own : List InventoryBooking) (i : Nat) : Prop where
  reserved : reservedOn own i =
    reservedOn before i
  booked : committedOn own i =
    committedOn before i

structure Session (d : Db) (c : String) (slots : List SlotWrite) (own : List InventoryBooking) :
    Prop where
  ids : (slots.map (·.read.id)).Nodup
  writes : ∀ w ∈ slots, w.Follows (d.bookingsFor c) own
  present : ∀ w ∈ slots, w.read.id ∈ d.inventorySlots.map (·.id)
  untouched : ∀ i, i ∉ slots.map (·.read.id) → SameOn (d.bookingsFor c) own i
  bookings : ∀ b ∈ own, 0 ≤ b.capacityUnits ∧ b.campaignId = c ∧
    b.inventorySlotId ∈ d.inventorySlots.map (·.id)
  locked : ∀ w ∈ slots, w.flushed = true → d.slot w.read.id = some w.read

/-- What a committed state satisfies: balanced, within capacity, and no total below zero. -/
structure Reservable (d : Db) : Prop where
  balance : d.Balance
  fits : ∀ s ∈ d.inventorySlots, s.Fits
  total : ∀ s ∈ d.inventorySlots, 0 ≤ s.totalCapacity

/-- The bookings changed by so many units on one slot. -/
structure Adds (i : Nat) (reserved booked : Int) (own own' : List InventoryBooking) : Prop where
  reserved : ∀ j, reservedOn own' j =
    reservedOn own j + if i = j then reserved else 0
  booked : ∀ j, committedOn own' j =
    committedOn own j + if i = j then booked else 0

section Session

variable {d : Db} {c : String} {slots : List SlotWrite} {own own' : List InventoryBooking}

/-- A slot and the bookings on it change together. -/
theorem Session.change (h : Session d c slots own) {s : InventorySlot}
    {f : InventorySlot → InventorySlot} {reserved booked : Int}
    (hs : s.id ∈ d.inventorySlots.map (·.id)) (hadds : Adds s.id reserved booked own own')
    (hshift : Shifts f reserved booked (ownRow s slots))
    (hown : ∀ b ∈ own', 0 ≤ b.capacityUnits ∧ b.campaignId = c ∧
      b.inventorySlotId ∈ d.inventorySlots.map (·.id)) :
    Session d c (changeSlot f s slots) own' := by
  have hother {j : Nat} (hne : s.id ≠ j) : SameOn own own' j := by
    constructor
    · rw [hadds.reserved, if_neg hne, add_zero]
    · rw [hadds.booked, if_neg hne, add_zero]
  have hself := hadds.reserved s.id
  have hself' := hadds.booked s.id
  rw [if_pos rfl] at hself hself'
  refine ⟨changeSlot_nodup h.ids, fun v hv ↦ ?_, fun v hv ↦ ?_, fun i hi ↦ ?_, hown,
    fun v hv hflushed ↦ ?_⟩
  · rcases mem_changeSlot h.ids hv with ⟨hold, hne⟩ | ⟨w, hw, hid, rfl⟩ | ⟨hnot, rfl⟩
    · have hw := h.writes v hold
      have hsame := hother (Ne.symm hne)
      exact { hw with
        reserved := by rw [hsame.reserved]; exact hw.reserved
        booked := by rw [hsame.booked]; exact hw.booked }
    · have hw' := h.writes w hw
      have hf := hshift
      rw [ownRow_of_mem h.ids hw hid] at hf
      have hreserved := hw'.reserved
      have hbooked := hw'.booked
      rw [← hid] at hself hself'
      constructor
      · exact hf.id.trans hw'.id
      · exact hf.key.trans hw'.key
      · exact hf.total.trans hw'.total
      · exact hf.internal.trans hw'.internal
      · dsimp only
        rw [hf.reserved]
        omega
      · dsimp only
        rw [hf.booked]
        omega
      · exact hf.fits
    · have hf := hshift
      rw [ownRow_of_not_mem hnot] at hf
      have hsame := h.untouched s.id hnot
      have hreserved := hsame.reserved
      have hbooked := hsame.booked
      constructor
      · exact hf.id
      · exact hf.key
      · exact hf.total
      · exact hf.internal
      · dsimp only
        rw [hf.reserved]
        omega
      · dsimp only
        rw [hf.booked]
        omega
      · exact hf.fits
  · rcases mem_changeSlot h.ids hv with ⟨hold, -⟩ | ⟨w, hw, -, rfl⟩ | ⟨-, rfl⟩
    · exact h.present v hold
    · exact h.present w hw
    · exact hs
  · rw [changeSlot_ids] at hi
    split at hi
    · rename_i hmem
      have hsame := hother fun heq : s.id = i ↦ hi (heq ▸ hmem)
      have hold := h.untouched i hi
      exact ⟨hsame.reserved.trans hold.reserved, hsame.booked.trans hold.booked⟩
    · rw [List.mem_append, List.mem_singleton, not_or] at hi
      have hsame := hother (Ne.symm hi.2)
      have hold := h.untouched i hi.1
      exact ⟨hsame.reserved.trans hold.reserved, hsame.booked.trans hold.booked⟩
  · rcases mem_changeSlot h.ids hv with ⟨hold, -⟩ | ⟨w, hw, -, rfl⟩ | ⟨-, rfl⟩
    · exact h.locked v hold hflushed
    · exact h.locked w hw hflushed
    · cases hflushed

/-- Where everything is flushed, a slot as the session has it: it counts the bookings of the
other campaigns and those of the session. -/
structure Stands (d : Db) (c : String) (own : List InventoryBooking) (s row : InventorySlot) :
    Prop where
  id : row.id = s.id
  key : row.key = s.key
  total : row.totalCapacity = s.totalCapacity
  internal : row.internalBlockedCapacity = s.internalBlockedCapacity
  reserved : row.reservedCapacity =
    reservedOn (d.bookingsOthers c) s.id + reservedOn own s.id
  booked : row.bookedCapacity =
    committedOn (d.bookingsOthers c) s.id + committedOn own s.id
  fits : row.Fits

theorem Session.stands (h : Session d c slots own) (hd : Reservable d)
    (hall : ∀ w ∈ slots, w.flushed = true) {s : InventorySlot} (hs : s ∈ d.inventorySlots) :
    Stands d c own s (ownRow s slots) := by
  have hreserved : s.reservedCapacity =
      reservedOn (d.bookingsOthers c) s.id + reservedOn (d.bookingsFor c) s.id :=
    (hd.balance.reserved s hs).trans (owed_split d c InventoryBooking.reservedUnits s.id)
  have hbooked : s.bookedCapacity =
      committedOn (d.bookingsOthers c) s.id + committedOn (d.bookingsFor c) s.id :=
    (hd.balance.booked s hs).trans (owed_split d c InventoryBooking.committedUnits s.id)
  rcases ownRow_cases s h.ids with ⟨w, hw, hid, hrow⟩ | ⟨hnot, hrow⟩
  · have hread : w.read = s := by
      have hslot := h.locked w hw (hall w hw)
      rw [hid] at hslot
      exact Option.some.inj (hslot.symm.trans (Rows.get_of_mem hd.balance.ids hs))
    have hfollow := h.writes w hw
    have hres := hfollow.reserved
    have hbook := hfollow.booked
    rw [hread] at hres hbook
    rw [hrow]
    refine ⟨hread ▸ hfollow.id, hread ▸ hfollow.key, hread ▸ hfollow.total,
      hread ▸ hfollow.internal, ?_, ?_, hfollow.fits⟩
    · omega
    · omega
  · have hsame := h.untouched s.id hnot
    rw [hrow]
    refine ⟨rfl, rfl, rfl, rfl, ?_, ?_, hd.fits s hs⟩
    · rw [hsame.reserved]
      exact hreserved
    · rw [hsame.booked]
      exact hbooked

/-- A booking of the session never weighs more than its slot counts. -/
theorem Session.weight_le (h : Session d c slots own) (hd : Reservable d)
    (hall : ∀ w ∈ slots, w.flushed = true) {b : InventoryBooking} (hb : b ∈ own)
    {s : InventorySlot} (hs : s ∈ d.inventorySlots) (hid : s.id = b.inventorySlotId) :
    b.reservedUnits ≤ (ownRow s slots).reservedCapacity ∧
      b.committedUnits ≤ (ownRow s slots).bookedCapacity := by
  have hstands := h.stands hd hall hs
  have hothers (e : InventoryBooking) (he : e ∈ d.bookingsOthers c) : 0 ≤ e.capacityUnits :=
    hd.balance.units e (List.mem_of_mem_filter he)
  have hown (e : InventoryBooking) (he : e ∈ own) : 0 ≤ e.capacityUnits := (h.bookings e he).1
  have hres : 0 ≤ reservedOn (d.bookingsOthers c) s.id :=
    owed_nonneg (fun e he ↦ InventoryBooking.reservedUnits_nonneg (hothers e he)) s.id
  have hcom : 0 ≤ committedOn (d.bookingsOthers c) s.id :=
    owed_nonneg (fun e he ↦ InventoryBooking.committedUnits_nonneg (hothers e he)) s.id
  have hres' : b.reservedUnits ≤ reservedOn own b.inventorySlotId :=
    weight_le_owed (fun e he ↦ InventoryBooking.reservedUnits_nonneg (hown e he)) hb
  have hcom' : b.committedUnits ≤ committedOn own b.inventorySlotId :=
    weight_le_owed (fun e he ↦ InventoryBooking.committedUnits_nonneg (hown e he)) hb
  rw [← hid] at hres' hcom'
  rw [hstands.reserved, hstands.booked]
  omega

/-! ## The UPDATE -/

-- What the capacity of a slot is checked against.
def InventorySlot.counters (s : InventorySlot) : Int × Int × Int × Int :=
  (s.totalCapacity, s.bookedCapacity, s.reservedCapacity, s.internalBlockedCapacity)

/-- An UPDATE that finds the counters that were read writes what the session computed. -/
theorem SlotWrite.Follows.update {before : List InventoryBooking} {w : SlotWrite}
    (h : w.Follows before own) {s : InventorySlot} (hid : s.id = w.read.id)
    (hcurrent : s.counters = w.read.counters) : (w.update s).Follows before own := by
  simp only [InventorySlot.counters, Prod.mk.injEq] at hcurrent
  obtain ⟨htotal, hbooked, hreserved, hinternal⟩ := hcurrent
  have hrow : (w.update s).row.reservedCapacity = w.row.reservedCapacity := by
    simp only [SlotWrite.update]
    split
    · rename_i heq
      rw [hreserved, heq]
    · rfl
  have hrow' : (w.update s).row.bookedCapacity = w.row.bookedCapacity := by
    simp only [SlotWrite.update]
    split
    · rename_i heq
      rw [hbooked, heq]
    · rfl
  have hfits := h.fits
  have hr := h.reserved
  have hb := h.booked
  have htotal' := h.total
  have hinternal' := h.internal
  rw [← hid] at hr hb
  refine ⟨rfl, rfl, rfl, rfl, ?_, ?_, ?_⟩
  · show (w.update s).row.reservedCapacity = s.reservedCapacity + _
    rw [hrow, hr, hreserved]
    rfl
  · show (w.update s).row.bookedCapacity = s.bookedCapacity + _
    rw [hrow', hb, hbooked]
    rfl
  · unfold InventorySlot.Fits InventorySlot.taken at hfits ⊢
    rw [hrow, hrow']
    show _ + _ + s.internalBlockedCapacity ≤ s.totalCapacity
    omega

theorem flushSlot_ids {id : Nat} {s : InventorySlot} (hid : s.id = id) (ws : List SlotWrite) :
    (Rows.updateWhere (·.read.id = id) (·.update s) ws).map (·.read.id) = ws.map (·.read.id) := by
  unfold Rows.updateWhere
  rw [List.map_map]
  apply List.map_congr_left
  intro w _
  by_cases hw : w.read.id = id
  · simp [hw, SlotWrite.update, hid]
  · simp [hw]

theorem Session.flush (h : Session d c slots own) {id : Nat}
    (hcurrent : ∀ w ∈ slots, w.read.id = id → ∀ s, d.slot id = some s →
      s.counters = w.read.counters) : Session d c (flushSlot d id slots) own := by
  unfold flushSlot
  cases hslot : d.slot id with
  | none => exact h
  | some s =>
      have hid : s.id = id := Rows.get_key hslot
      have hcases {v : SlotWrite} (hv : v ∈ Rows.updateWhere (·.read.id = id) (·.update s) slots) :
          v ∈ slots ∨ ∃ w ∈ slots, w.read.id = id ∧ v = w.update s := by
        obtain ⟨w, hw, rfl⟩ := Rows.mem_updateWhere.1 hv
        by_cases heq : w.read.id = id
        · exact .inr ⟨w, hw, heq, if_pos (by simpa using heq)⟩
        · rw [if_neg (by simpa using heq)]
          exact .inl hw
      constructor
      · rw [flushSlot_ids hid]
        exact h.ids
      · intro v hv
        rcases hcases hv with hv | ⟨w, hw, heq, rfl⟩
        · exact h.writes v hv
        · exact (h.writes w hw).update (hid.trans heq.symm) (hcurrent w hw heq s hslot)
      · intro v hv
        rcases hcases hv with hv | ⟨w, hw, heq, rfl⟩
        · exact h.present v hv
        · exact List.mem_map_of_mem (Rows.get_mem hslot)
      · rw [flushSlot_ids hid]
        exact h.untouched
      · exact h.bookings
      · intro v hv hflushed
        rcases hcases hv with hv | ⟨w, hw, heq, rfl⟩
        · exact h.locked v hv hflushed
        · show d.slot s.id = some s
          rw [hid]
          exact hslot

theorem mem_flushSlot {id : Nat} {v : SlotWrite} (hv : v ∈ flushSlot d id slots) :
    v ∈ slots ∨ v.read.id = id := by
  unfold flushSlot at hv
  cases hslot : d.slot id with
  | none =>
      rw [hslot] at hv
      exact .inl hv
  | some s =>
      rw [hslot] at hv
      obtain ⟨w, hw, rfl⟩ := Rows.mem_updateWhere.1 hv
      by_cases heq : w.read.id = id
      · rw [if_pos (by simpa using heq)]
        exact .inr (Rows.get_key hslot)
      · rw [if_neg (by simpa using heq)]
        exact .inl hw

end Session

/-! ## The commit -/

section Commit

variable {d : Db} {x : ReservationTx}

theorem write_slot (h : Session d x.campaignId x.slots x.bookings) (hd : Reservable d)
    (hall : ∀ w ∈ x.slots, w.flushed = true) (id : Nat) :
    (x.write d).slot id = (d.slot id).map fun s ↦ ownRow s x.slots :=
  Rows.get_map fun _ hs ↦ (h.stands hd hall hs).id

theorem write_slot_ids (h : Session d x.campaignId x.slots x.bookings) (hd : Reservable d)
    (hall : ∀ w ∈ x.slots, w.flushed = true) :
    (x.write d).inventorySlots.map (·.id) = d.inventorySlots.map (·.id) := by
  show (d.inventorySlots.map _).map _ = _
  rw [List.map_map]
  exact List.map_congr_left fun s hs ↦ (h.stands hd hall hs).id

theorem Reservable.write (hd : Reservable d)
    (h : Session d x.campaignId x.slots x.bookings) (hall : ∀ w ∈ x.slots, w.flushed = true) :
    Reservable (x.write d) := by
  have hids := write_slot_ids h hd hall
  have hbookings {b : InventoryBooking} (hb : b ∈ (x.write d).inventoryBookings) :
      0 ≤ b.capacityUnits ∧ b.inventorySlotId ∈ d.inventorySlots.map (·.id) := by
    rcases List.mem_append.1 hb with hb | hb
    · have hmem := List.mem_of_mem_filter hb
      exact ⟨hd.balance.units b hmem, hd.balance.slotOf b hmem⟩
    · exact ⟨(h.bookings b hb).1, (h.bookings b hb).2.2⟩
  refine ⟨⟨?_, fun b hb ↦ (hbookings hb).1, fun b hb ↦ ?_, ?_, ?_⟩, ?_, ?_⟩
  · rw [hids]
    exact hd.balance.ids
  · rw [hids]
    exact (hbookings hb).2
  · intro s' hs'
    have ⟨s, hs, hrow⟩ := List.mem_map.1 hs'
    have hstands := h.stands hd hall hs
    rw [← hrow]
    show (ownRow s x.slots).reservedCapacity = owed _ _ (_ ++ _) (ownRow s x.slots).id
    rw [hstands.reserved, hstands.id, owed_append]
  · intro s' hs'
    have ⟨s, hs, hrow⟩ := List.mem_map.1 hs'
    have hstands := h.stands hd hall hs
    rw [← hrow]
    show (ownRow s x.slots).bookedCapacity = owed _ _ (_ ++ _) (ownRow s x.slots).id
    rw [hstands.booked, hstands.id, owed_append]
  · intro s' hs'
    have ⟨s, hs, hrow⟩ := List.mem_map.1 hs'
    rw [← hrow]
    exact (h.stands hd hall hs).fits
  · intro s' hs'
    have ⟨s, hs, hrow⟩ := List.mem_map.1 hs'
    rw [← hrow, (h.stands hd hall hs).total]
    exact hd.total s hs

theorem write_bookingsFor (h : Session d x.campaignId x.slots x.bookings) {c : String}
    (hc : c ≠ x.campaignId) : (x.write d).bookingsFor c = d.bookingsFor c := by
  have hown : (x.bookings.filter fun b ↦ b.campaignId = c) = [] := by
    apply List.filter_eq_nil_iff.2
    intro b hb
    rw [(h.bookings b hb).2.1]
    simpa using Ne.symm hc
  have hothers : ((d.bookingsOthers x.campaignId).filter fun b ↦ b.campaignId = c) =
      d.bookingsFor c := by
    unfold Db.bookingsOthers
    rw [List.filter_filter]
    apply List.filter_congr
    intro b _
    by_cases hb : b.campaignId = c
    · simp [hb, hc]
    · simp [hb]
  show (_ ++ _ : List InventoryBooking).filter _ = _
  rw [List.filter_append, hown, hothers, List.append_nil]

/-- The session of another campaign survives, since the rows that it relies on are others. -/
theorem Session.write (hx : Session d x.campaignId x.slots x.bookings) (hd : Reservable d)
    (hall : ∀ w ∈ x.slots, w.flushed = true) {c : String} (hc : c ≠ x.campaignId)
    {slots : List SlotWrite} {own : List InventoryBooking} (h : Session d c slots own)
    (hapart : ∀ w ∈ slots, w.flushed = true → w.read.id ∉ x.slots.map (·.read.id)) :
    Session (x.write d) c slots own := by
  have hids := write_slot_ids hx hd hall
  have hbookings := write_bookingsFor hx hc
  refine ⟨h.ids, ?_, ?_, ?_, ?_, fun w hw hflushed ↦ ?_⟩
  · rw [hbookings]
    exact h.writes
  · rw [hids]
    exact h.present
  · rw [hbookings]
    exact h.untouched
  · rw [hids]
    exact h.bookings
  · rw [write_slot hx hd hall, h.locked w hw hflushed]
    exact congrArg some (ownRow_of_not_mem (hapart w hw hflushed))

end Commit

end RetailMedia
