import RetailMedia.Inventory.ReserveSpec

/-! What a reservation does to the bookings of each placement, and that slots keep what they
are: their key and their total capacity. -/

namespace RetailMedia

/-! ## Slots keep their shape -/

/-- The slot without its counters and status. -/
def InventorySlot.shape (s : InventorySlot) : InventorySlot where
  id := s.id
  displaySurfaceId := s.displaySurfaceId
  slotDate := s.slotDate
  slotHour := s.slotHour
  totalCapacity := s.totalCapacity

theorem key_shape {s s' : InventorySlot} (h : s.shape = s'.shape) : s.key = s'.key := by
  change s.shape.key = s'.shape.key
  rw [h]

theorem isAt_shape {surfaceId : String} {p : Int × Nat} {s s' : InventorySlot}
    (h : s.shape = s'.shape) : s.IsAt surfaceId p ↔ s'.IsAt surfaceId p := by
  rw [isAt_iff, isAt_iff, key_shape h]

theorem id_shape {s s' : InventorySlot} (h : s.shape = s'.shape) : s.id = s'.id := by
  change s.shape.id = s'.shape.id
  rw [h]

theorem total_shape {s s' : InventorySlot} (h : s.shape = s'.shape) :
    s.totalCapacity = s'.totalCapacity := by
  change s.shape.totalCapacity = s'.shape.totalCapacity
  rw [h]

/-- Primary key and unique constraint of the slot table. -/
structure SlotTable (slots : List InventorySlot) : Prop where
  ids : (slots.map (·.id)).Nodup
  keys : (slots.map (·.key)).Nodup

/-- The slots of `db` are still there; the others in `db'` have the default capacity. -/
structure Kept (total : Int) (db db' : Db) : Prop where
  table : SlotTable db.inventorySlots → SlotTable db'.inventorySlots
  fwd : ∀ s ∈ db.inventorySlots, ∃ s' ∈ db'.inventorySlots, s'.shape = s.shape
  bwd : ∀ s' ∈ db'.inventorySlots,
    (∃ s ∈ db.inventorySlots, s.shape = s'.shape) ∨ s'.totalCapacity = total

namespace Kept

variable {total : Int} {db db' db'' : Db}

theorem of_map_shape
    (h : db'.inventorySlots.map (·.shape) = db.inventorySlots.map (·.shape)) :
    Kept total db db' := by
  have hmap {κ : Type} (f : InventorySlot → κ) (hf : ∀ s, f s.shape = f s) :
      db'.inventorySlots.map f = db.inventorySlots.map f := by
    have hcomp (l : List InventorySlot) : l.map f = (l.map (·.shape)).map f := by
      rw [List.map_map]
      exact List.map_congr_left fun s _ ↦ (hf s).symm
    rw [hcomp, hcomp db.inventorySlots, h]
  refine ⟨fun ht ↦ ⟨?_, ?_⟩, fun s hs ↦ ?_, fun s' hs' ↦ .inl ?_⟩
  · rw [hmap (·.id) fun _ ↦ rfl]
    exact ht.ids
  · rw [hmap (·.key) fun _ ↦ rfl]
    exact ht.keys
  · have hmem : s.shape ∈ db.inventorySlots.map (·.shape) := List.mem_map_of_mem hs
    rw [← h] at hmem
    exact List.mem_map.1 hmem
  · have hmem : s'.shape ∈ db'.inventorySlots.map (·.shape) := List.mem_map_of_mem hs'
    rw [h] at hmem
    exact List.mem_map.1 hmem

theorem refl (total : Int) (db : Db) : Kept total db db := of_map_shape rfl

theorem trans (h : Kept total db db') (h' : Kept total db' db'') : Kept total db db'' := by
  refine ⟨fun ht ↦ h'.table (h.table ht), fun s hs ↦ ?_, fun s'' hs'' ↦ ?_⟩
  · obtain ⟨s', hs', heq⟩ := h.fwd s hs
    obtain ⟨s'', hs'', heq'⟩ := h'.fwd s' hs'
    exact ⟨s'', hs'', heq'.trans heq⟩
  · rcases h'.bwd s'' hs'' with ⟨s', hs', heq'⟩ | htotal
    · rcases h.bwd s' hs' with ⟨s, hs, heq⟩ | htotal
      · exact .inl ⟨s, hs, heq.trans heq'⟩
      · exact .inr (total_shape heq' ▸ htotal)
    · exact .inr htotal

theorem of_grows (h : Grows total db db') : Kept total db db' := by
  refine ⟨fun ht ↦ ?_, fun s hs ↦ ⟨s, h.mem hs, rfl⟩, fun s hs ↦ ?_⟩
  · obtain ⟨new, rfl, hnew⟩ := h
    exact ⟨hnew.ids ht.ids, hnew.keys ht.keys⟩
  · rcases h.mem_or hs with hs | ⟨hblank, -⟩
    · exact .inl ⟨s, hs, rfl⟩
    · exact .inr hblank.totalCapacity

end Kept

theorem map_shape_adjust {k : Nat} {f : InventorySlot → InventorySlot}
    (hf : ∀ s, (f s).shape = s.shape) (slots : List InventorySlot) :
    (Ledger.adjust (·.id) k f slots).map (·.shape) = slots.map (·.shape) :=
  Rows.map_updateWhere _ hf slots

/-! ## Frame -/

/-- Only the inventory tables changed. -/
def InventoryOnly (db db' : Db) : Prop :=
  ∃ slots bookings, db' = { db with inventorySlots := slots, inventoryBookings := bookings }

theorem InventoryOnly.refl (db : Db) : InventoryOnly db db := ⟨_, _, rfl⟩

theorem InventoryOnly.trans {db db' db'' : Db} (h : InventoryOnly db db')
    (h' : InventoryOnly db' db'') : InventoryOnly db db'' := by
  obtain ⟨_, _, rfl⟩ := h
  obtain ⟨slots, bookings, rfl⟩ := h'
  exact ⟨slots, bookings, rfl⟩

theorem InventoryOnly.of_grows {total : Int} {db db' : Db} (h : Grows total db db') :
    InventoryOnly db db' := by
  obtain ⟨_, rfl, -⟩ := h
  exact ⟨_, _, rfl⟩

theorem settle_inventoryOnly (selected : InventoryBooking → Bool) (evenWithoutSlot : Bool)
    (onSlot : InventoryBooking → InventorySlot → InventorySlot)
    (onBooking : InventoryBooking → InventoryBooking) (db : Db) :
    InventoryOnly db (settleBookings selected evenWithoutSlot onSlot onBooking db).1 := by
  have hsweep := Rows.sweep_state (I := InventoryOnly db)
    (f := settleStep selected evenWithoutSlot onSlot onBooking) (fun d b h ↦ by
      unfold settleStep
      split
      · split
        · exact h.trans ⟨_, _, rfl⟩
        · exact h
      · exact h) db.inventoryBookings (InventoryOnly.refl db)
  exact hsweep.trans ⟨_, _, rfl⟩

theorem bookSlots_inventoryOnly (r : ReserveRequest) (reservedUntil : Int) (db : Db)
    (needed : List (InventorySlot × Int)) :
    InventoryOnly db (bookSlots r reservedUntil db needed) := by
  induction needed generalizing db with
  | nil => exact InventoryOnly.refl db
  | cons need needed ih => exact InventoryOnly.trans ⟨_, _, rfl⟩ (ih _)

theorem reserve_inventoryOnly (db : Db) (now : Int) (r : ReserveRequest) :
    InventoryOnly db (reserveInventoryForPlacement db now r).1 := by
  rcases reserve_cases db now r with ⟨-, hdb⟩ | ⟨-, db', hg, hdb⟩
  · rw [hdb]
    exact (InventoryOnly.of_grows (detected_grows r db now)).trans
      (settle_inventoryOnly _ _ _ _ _)
  · have h' := InventoryOnly.of_grows hg
    rcases hdb with hdb | ⟨needed, -, hdb⟩
    · rw [hdb]
      exact h'
    · rw [hdb]
      exact h'.trans (bookSlots_inventoryOnly r _ db' needed)

/-! ## Bookings -/

/-- Every booking points to a slot of the table. -/
def Db.BookingsHaveSlots (db : Db) : Prop :=
  ∀ b ∈ db.inventoryBookings, b.inventorySlotId ∈ db.inventorySlots.map (·.id)

section Settle

variable {selected : InventoryBooking → Bool} {evenWithoutSlot : Bool}
  {onSlot : InventoryBooking → InventorySlot → InventorySlot}
  {onBooking : InventoryBooking → InventoryBooking}

theorem settleStep_shape (hslot : ∀ b s, (onSlot b s).shape = s.shape) (db : Db)
    (b : InventoryBooking) :
    (settleStep selected evenWithoutSlot onSlot onBooking db b).1.inventorySlots.map (·.shape) =
      db.inventorySlots.map (·.shape) := by
  unfold settleStep
  split
  · split
    · exact map_shape_adjust (hslot b) _
    · rfl
  · rfl

theorem settle_kept (hslot : ∀ b s, (onSlot b s).shape = s.shape) (total : Int) (db : Db) :
    Kept total db (settleBookings selected evenWithoutSlot onSlot onBooking db).1 :=
  Kept.of_map_shape <| Rows.sweep_state
    (I := fun d : Db ↦ d.inventorySlots.map (·.shape) = db.inventorySlots.map (·.shape))
    (fun d b h ↦ (settleStep_shape hslot d b).trans h) db.inventoryBookings rfl

theorem settle_bookings (hslot : ∀ b s, (onSlot b s).shape = s.shape) {db : Db}
    (hdb : db.BookingsHaveSlots) :
    (settleBookings selected evenWithoutSlot onSlot onBooking db).1.inventoryBookings =
      db.inventoryBookings.map fun b ↦ if selected b then onBooking b else b := by
  refine Rows.sweep_rows
    (I := fun d : Db ↦ d.inventorySlots.map (·.shape) = db.inventorySlots.map (·.shape))
    (fun d b hb h ↦ ⟨(settleStep_shape hslot d b).trans h, ?_⟩) rfl
  have hids : d.inventorySlots.map (·.id) = db.inventorySlots.map (·.id) := by
    have hcomp (l : List InventorySlot) : l.map (·.id) = (l.map (·.shape)).map (·.id) := by
      rw [List.map_map]
      rfl
    rw [hcomp, hcomp db.inventorySlots, h]
  have hsome : (d.slot b.inventorySlotId).isSome := Rows.get_isSome.2 (hids ▸ hdb b hb)
  unfold settleStep
  by_cases hsel : selected b = true
  · rw [if_pos hsel, if_pos hsel]
    cases hs : d.slot b.inventorySlotId with
    | none =>
        rw [hs] at hsome
        cases hsome
    | some _ => rfl
  · rw [if_neg hsel, if_neg hsel]

end Settle

theorem addReserved_shape (n : Int) (s : InventorySlot) : (s.addReserved n).shape = s.shape := rfl

/-! ## The placement's bookings after a reservation -/

/-- A booking as a new reservation of its placement leaves it. -/
def InventoryBooking.again (reservedUntil : Int) (b : InventoryBooking) : InventoryBooking :=
  if b.isActive then b else b.revive reservedUntil

theorem again_again (t : Int) (b : InventoryBooking) : (b.again t).again t = b.again t := by
  unfold InventoryBooking.again
  by_cases h : b.isActive = true
  · rw [if_pos h, if_pos h]
  · rw [if_neg h]
    exact if_pos rfl

/-- A booking as phase 2 creates it for the slot `p` of the window. -/
structure FreshBooking (r : ReserveRequest) (db : Db) (p : Int × Nat) (b : InventoryBooking) :
    Prop where
  status : b.status = .reserved
  slot : ∃ s ∈ db.inventorySlots, s.IsAt r.displaySurfaceId p ∧ b.inventorySlotId = s.id ∧
    b.capacityUnits = requestedUnits r.capacityUnits r.sovPercent r.defaultTotalCapacity s

theorem requestedUnits_shape (units sov : Option Int) (default : Int) {s s' : InventorySlot}
    (h : s.shape = s'.shape) :
    requestedUnits units sov default s = requestedUnits units sov default s' := by
  unfold requestedUnits InventorySlot.totalOr
  rw [total_shape h]

theorem FreshBooking.kept {r : ReserveRequest} {db db' : Db} {total : Int} {p : Int × Nat}
    {b : InventoryBooking} (h : FreshBooking r db p b) (hk : Kept total db db') :
    FreshBooking r db' p b := by
  obtain ⟨s, hs, hat, hid, hunits⟩ := h.slot
  obtain ⟨s', hs', heq⟩ := hk.fwd s hs
  exact ⟨h.status, s', hs', (isAt_shape heq).2 hat, hid.trans (id_shape heq).symm,
    hunits.trans (requestedUnits_shape _ _ _ heq).symm⟩

/-- The booking that phase 2 makes of a checked slot. -/
structure BookingFor (r : ReserveRequest) (need : InventorySlot × Int) (b : InventoryBooking) :
    Prop where
  placement : b.campaignPlacementId = r.placementId
  status : b.status = .reserved
  slot : b.inventorySlotId = need.1.id
  units : b.capacityUnits = need.2

theorem bookSlots_bookings (r : ReserveRequest) (reservedUntil : Int) (db : Db)
    (needed : List (InventorySlot × Int)) :
    ∃ new, (bookSlots r reservedUntil db needed).inventoryBookings =
      db.inventoryBookings ++ new ∧ List.Forall₂ (BookingFor r) needed new := by
  induction needed generalizing db with
  | nil => exact ⟨[], (List.append_nil _).symm, .nil⟩
  | cons need needed ih =>
      obtain ⟨new, heq, hnew⟩ := ih (bookSlot r reservedUntil db need)
      refine ⟨newInventoryBooking r reservedUntil db need.1.id need.2 :: new, ?_,
        .cons ⟨rfl, rfl, rfl, rfl⟩ hnew⟩
      show (bookSlots r reservedUntil (bookSlot r reservedUntil db need)
        needed).inventoryBookings = _
      rw [heq]
      show (db.inventoryBookings ++ [_]) ++ new = _
      rw [List.append_assoc]
      rfl

theorem bookSlots_shape (r : ReserveRequest) (reservedUntil : Int) (db : Db)
    (needed : List (InventorySlot × Int)) :
    (bookSlots r reservedUntil db needed).inventorySlots.map (·.shape) =
      db.inventorySlots.map (·.shape) := by
  induction needed generalizing db with
  | nil => rfl
  | cons need needed ih =>
      show (bookSlots r reservedUntil (bookSlot r reservedUntil db need)
        needed).inventorySlots.map _ = _
      rw [ih]
      exact map_shape_adjust (addReserved_shape need.2) _

theorem Kept.haveSlot {total : Int} {db db' : Db} (h : Kept total db db') {id : Nat}
    (hid : id ∈ db.inventorySlots.map (·.id)) : id ∈ db'.inventorySlots.map (·.id) := by
  obtain ⟨s, hs, rfl⟩ := List.mem_map.1 hid
  obtain ⟨s', hs', heq⟩ := h.fwd s hs
  exact List.mem_map.2 ⟨s', hs', id_shape heq⟩

theorem reuse_kept (total : Int) (db : Db) (placementId : String) (reservedUntil : Int) :
    Kept total db (reuseBookings db placementId reservedUntil) :=
  settle_kept (fun b s ↦ addReserved_shape b.capacityUnits s) total db

theorem reuse_bookings {db : Db} (hdb : db.BookingsHaveSlots) (placementId : String)
    (reservedUntil : Int) :
    (reuseBookings db placementId reservedUntil).inventoryBookings =
      db.inventoryBookings.map fun b ↦
        if b.campaignPlacementId = placementId then b.again reservedUntil else b := by
  refine (settle_bookings (fun b s ↦ addReserved_shape b.capacityUnits s) hdb).trans
    (List.map_congr_left fun b _ ↦ ?_)
  unfold InventoryBooking.again
  by_cases hp : b.campaignPlacementId = placementId <;> by_cases ha : b.isActive = true <;>
    simp [hp, ha]

theorem again_kept (t : Int) (b : InventoryBooking) :
    (b.again t).campaignPlacementId = b.campaignPlacementId ∧
      (b.again t).inventorySlotId = b.inventorySlotId ∧
      (b.again t).capacityUnits = b.capacityUnits ∧ (b.again t).campaignId = b.campaignId := by
  unfold InventoryBooking.again
  split <;> exact ⟨rfl, rfl, rfl, rfl⟩

/-- The bookings of one placement after an update that keeps each booking's placement. -/
theorem bookingsOf_map {db db' : Db} {f g : InventoryBooking → InventoryBooking}
    {placementId : String} (h : db'.inventoryBookings = db.inventoryBookings.map f)
    (hf : ∀ b, (f b).campaignPlacementId = b.campaignPlacementId)
    (hg : ∀ b, b.campaignPlacementId = placementId → f b = g b) :
    db'.bookingsOf placementId = (db.bookingsOf placementId).map g := by
  unfold Db.bookingsOf
  rw [h, List.filter_map]
  have hcomp : ((fun b : InventoryBooking ↦ decide (b.campaignPlacementId = placementId)) ∘ f) =
      fun b ↦ decide (b.campaignPlacementId = placementId) := by
    funext b
    simp only [Function.comp_apply, hf]
  rw [hcomp]
  apply List.map_congr_left
  intro b hb
  exact hg b (of_decide_eq_true (List.mem_filter.1 hb).2)

/-- What an accepted reservation leaves of the bookings. -/
structure Reserved (r : ReserveRequest) (now : Int) (db db' : Db) : Prop where
  kept : Kept r.defaultTotalCapacity db db'
  haveSlots : db'.BookingsHaveSlots
  booked : db'.bookingsOf r.placementId ≠ []
  others : ∀ placementId, placementId ≠ r.placementId →
    db'.bookingsOf placementId = db.bookingsOf placementId
  again : db.bookingsOf r.placementId ≠ [] → db'.bookingsOf r.placementId =
    (db.bookingsOf r.placementId).map (·.again (reservedUntil now r.reservationTtlHours))
  fresh : db.bookingsOf r.placementId = [] →
    List.Forall₂ (FreshBooking r db') (slotPairs r.startsAt r.endsAt)
      (db'.bookingsOf r.placementId)

theorem Db.BookingsHaveSlots.kept {db db' : Db} {total : Int} (h : db.BookingsHaveSlots)
    (hk : Kept total db db')
    (hb : db'.inventoryBookings.map (·.inventorySlotId) =
      db.inventoryBookings.map (·.inventorySlotId)) : db'.BookingsHaveSlots := by
  intro b hmem
  have hid : b.inventorySlotId ∈ db.inventoryBookings.map (·.inventorySlotId) :=
    hb ▸ List.mem_map_of_mem hmem
  obtain ⟨b', hb', heq⟩ := List.mem_map.1 hid
  exact hk.haveSlot (heq ▸ h b' hb')

theorem reserved_reuse {r : ReserveRequest} {now : Int} {db db1 : Db}
    (hdb : db.BookingsHaveSlots) (hg : Grows r.defaultTotalCapacity db db1)
    (hex : db.bookingsOf r.placementId ≠ []) :
    Reserved r now db
      (reuseBookings db1 r.placementId (reservedUntil now r.reservationTtlHours)) := by
  have hk1 := Kept.of_grows hg
  have hdb1 : db1.BookingsHaveSlots := hdb.kept hk1 (by rw [hg.bookings])
  have hk2 := reuse_kept r.defaultTotalCapacity db1 r.placementId
    (reservedUntil now r.reservationTtlHours)
  have hb := reuse_bookings hdb1 r.placementId (reservedUntil now r.reservationTtlHours)
  have hsame (b : InventoryBooking) : (if b.campaignPlacementId = r.placementId then
      b.again (reservedUntil now r.reservationTtlHours) else b).campaignPlacementId =
      b.campaignPlacementId := by
    split
    · exact (again_kept _ b).1
    · rfl
  have hof : (reuseBookings db1 r.placementId
      (reservedUntil now r.reservationTtlHours)).bookingsOf r.placementId =
      (db.bookingsOf r.placementId).map (·.again (reservedUntil now r.reservationTtlHours)) := by
    rw [← hg.bookingsOf, bookingsOf_map hb hsame fun b hbq ↦ if_pos hbq]
  refine ⟨hk1.trans hk2, hdb1.kept hk2 ?_, ?_, fun q hq ↦ ?_, fun _ ↦ hof,
    fun h ↦ absurd h hex⟩
  · rw [hb, List.map_map]
    apply List.map_congr_left
    intro b _
    simp only [Function.comp_apply]
    split
    · exact (again_kept _ b).2.1
    · rfl
  · rw [hof]
    exact fun h ↦ hex (List.map_eq_nil_iff.1 h)
  · rw [← hg.bookingsOf q, bookingsOf_map hb hsame fun b hbq ↦ if_neg (hbq.trans_ne hq)]
    exact List.map_id' _

theorem reserved_fresh {r : ReserveRequest} {now : Int} {db db1 : Db}
    (hdb : db.BookingsHaveSlots) (hg : Grows r.defaultTotalCapacity db db1)
    (hex : db.bookingsOf r.placementId = []) (hpairs : slotPairs r.startsAt r.endsAt ≠ [])
    {needed : List (InventorySlot × Int)}
    (hc : List.Forall₂ (Checked r db1) (slotPairs r.startsAt r.endsAt) needed) :
    Reserved r now db (bookSlots r (reservedUntil now r.reservationTtlHours) db1 needed) := by
  have hk1 := Kept.of_grows hg
  have hdb1 : db1.BookingsHaveSlots := hdb.kept hk1 (by rw [hg.bookings])
  have hk2 : Kept r.defaultTotalCapacity db1 _ :=
    Kept.of_map_shape (bookSlots_shape r (reservedUntil now r.reservationTtlHours) db1 needed)
  obtain ⟨new, hb, hnew⟩ :=
    bookSlots_bookings r (reservedUntil now r.reservationTtlHours) db1 needed
  have hplacement : ∀ b ∈ new, b.campaignPlacementId = r.placementId := by
    intro b hbn
    obtain ⟨need, -, hfor⟩ := Rows.forall₂_mem_right hnew hbn
    exact hfor.placement
  have hof : (bookSlots r (reservedUntil now r.reservationTtlHours) db1 needed).bookingsOf
      r.placementId = new := by
    unfold Db.bookingsOf at hex ⊢
    rw [hb, hg.bookings, List.filter_append, hex, List.nil_append, List.filter_eq_self]
    exact fun b hbn ↦ decide_eq_true (hplacement b hbn)
  refine ⟨hk1.trans hk2, fun b hbm ↦ ?_, ?_, fun q hq ↦ ?_, fun h ↦ absurd hex h, fun _ ↦ ?_⟩
  · rw [hb] at hbm
    rcases List.mem_append.1 hbm with hbm | hbm
    · exact hk2.haveSlot (hdb1 b hbm)
    · obtain ⟨need, hneed, hfor⟩ := Rows.forall₂_mem_right hnew hbm
      obtain ⟨p, -, hp⟩ := Rows.forall₂_mem_right hc hneed
      rw [hfor.slot]
      exact hk2.haveSlot (List.mem_map_of_mem hp.mem)
  · rw [hof]
    intro hnil
    subst hnil
    cases hnew
    exact hpairs (List.forall₂_nil_right_iff.1 hc)
  · rw [← hg.bookingsOf q]
    unfold Db.bookingsOf
    rw [hb, List.filter_append]
    have hnil : new.filter (fun b ↦ decide (b.campaignPlacementId = q)) = [] := by
      rw [List.filter_eq_nil_iff]
      intro b hbn
      rw [hplacement b hbn]
      simpa using hq.symm
    rw [hnil, List.append_nil]
  · rw [hof]
    refine Rows.forall₂_comp (fun p need b hp hfor ↦ ?_) hc hnew
    obtain ⟨s', hs', heq⟩ := hk2.fwd need.1 hp.mem
    exact ⟨hfor.status, s', hs', (isAt_shape heq).2 hp.at_,
      hfor.slot.trans (id_shape heq).symm,
      (hfor.units.trans hp.units).trans (requestedUnits_shape _ _ _ heq).symm⟩

/-- What an accepted reservation does. -/
theorem reserve_ok (r : ReserveRequest) (now : Int) {db : Db} (hdb : db.BookingsHaveSlots)
    (res : ReserveResult) (h : (reserveInventoryForPlacement db now r).2 = .ok res) :
    Reserved r now db (reserveInventoryForPlacement db now r).1 := by
  by_cases hpass : r.Passes db now
  · have hg := detected_grows r db now
    rw [reserve_passed hpass] at h ⊢
    unfold reserveChecked at h ⊢
    rw [hg.bookingsOf] at h ⊢
    by_cases hex : db.bookingsOf r.placementId = []
    · rw [if_neg (not_not.2 hex)] at h ⊢
      by_cases hpairs : slotPairs r.startsAt r.endsAt = []
      · rw [if_pos hpairs] at h
        cases h
      rw [if_neg hpairs] at h ⊢
      have hgc := checkSlots_grows r (r.detected db now).1 (slotPairs r.startsAt r.endsAt)
      split at h
      · cases h
      · rename_i db' needed heq
        have hok := checkSlots_ok (congrArg Prod.snd heq)
        rw [heq] at hgc hok
        exact reserved_fresh hdb (hg.trans hgc) hex hpairs hok
    · rw [if_pos hex]
      exact reserved_reuse hdb hg hex
  · obtain ⟨-, e, he⟩ := reserve_refused hpass
    rw [he] at h
    cases h

end RetailMedia
