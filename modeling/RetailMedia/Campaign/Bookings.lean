import RetailMedia.Campaign.Completeness
import RetailMedia.Campaign.StatusChain

/-! What becomes of the bookings of a campaign between its request for approval and the approval,
when reservations expire in between. -/

namespace RetailMedia

/-! ## Bookings as a table -/

/-- Bookings point to slots, and to placements of their own campaign. -/
structure Booked (db : Db) : Prop where
  slots : db.BookingsHaveSlots
  ids : (db.inventoryBookings.map (·.id)).Nodup
  placements : (db.campaignPlacements.map (·.id)).Nodup
  owned : ∀ b ∈ db.inventoryBookings, ∀ p ∈ db.campaignPlacements,
    p.id = b.campaignPlacementId → p.campaignId = b.campaignId

/-- A change of a booking that leaves its keys. -/
structure SameBooking (b b' : InventoryBooking) : Prop where
  id : b'.id = b.id
  campaign : b'.campaignId = b.campaignId
  placement : b'.campaignPlacementId = b.campaignPlacementId
  slot : b'.inventorySlotId = b.inventorySlotId

theorem SameBooking.refl (b : InventoryBooking) : SameBooking b b := ⟨rfl, rfl, rfl, rfl⟩

theorem Booked.map {db db' : Db} (h : Booked db) {f : InventoryBooking → InventoryBooking}
    (hf : ∀ b, SameBooking b (f b)) {total : Int} (hk : Kept total db db')
    (hframe : InventoryOnly db db')
    (hb : db'.inventoryBookings = db.inventoryBookings.map f) : Booked db' := by
  have hplacements : db'.campaignPlacements = db.campaignPlacements := by
    obtain ⟨_, _, rfl⟩ := hframe
    rfl
  refine ⟨h.slots.kept hk ?_, ?_, hplacements ▸ h.placements, fun b' hb' p hp hid ↦ ?_⟩
  · rw [hb, List.map_map]
    exact List.map_congr_left fun b _ ↦ (hf b).slot
  · have hids : db'.inventoryBookings.map (·.id) = db.inventoryBookings.map (·.id) := by
      rw [hb, List.map_map]
      exact List.map_congr_left fun b _ ↦ (hf b).id
    rw [hids]
    exact h.ids
  · rw [hb] at hb'
    obtain ⟨b, hbm, rfl⟩ := List.mem_map.1 hb'
    rw [(hf b).campaign]
    exact h.owned b hbm p (hplacements ▸ hp) (hid.trans (hf b).placement)

/-- The loops of commit, release and expiry. -/
theorem Booked.settle {db : Db} (h : Booked db) {selected : InventoryBooking → Bool}
    {evenWithoutSlot : Bool} {onSlot : InventoryBooking → InventorySlot → InventorySlot}
    {onBooking : InventoryBooking → InventoryBooking}
    (hslot : ∀ b s, (onSlot b s).shape = s.shape) (hb : ∀ b, SameBooking b (onBooking b)) :
    Booked (settleBookings selected evenWithoutSlot onSlot onBooking db).1 := by
  refine h.map (fun b ↦ ?_) (settle_kept hslot 0 db) (settle_inventoryOnly _ _ _ _ db)
    (settle_bookings hslot h.slots)
  split
  · exact hb b
  · exact SameBooking.refl b

theorem Booked.grow {db db' : Db} {total : Int} (h : Booked db) (hg : Grows total db db') :
    Booked db' :=
  h.map SameBooking.refl (Kept.of_grows hg) (InventoryOnly.of_grows hg)
    (by rw [hg.bookings, List.map_id'])

/-! ## Reservations -/

/-- What reservations for a campaign, up to the deadline `t`, do to bookings: those of others and
those that are active stay, and what is active afterwards was so before or is reserved until
`t`. -/
structure ReservedUntil (c : String) (t : Int) (db db' : Db) : Prop where
  booked : Booked db'
  frame : InventoryOnly db db'
  kept : ∀ b ∈ db.inventoryBookings, b.campaignId ≠ c ∨ b.isActive = true →
    b ∈ db'.inventoryBookings
  reserved : ∀ b ∈ db'.inventoryBookings, b.campaignId = c → b.isActive = true →
    b ∈ db.inventoryBookings ∨ b.status = .reserved ∧ b.reservedUntil = some t

theorem ReservedUntil.refl {db : Db} (h : Booked db) (c : String) (t : Int) :
    ReservedUntil c t db db :=
  ⟨h, InventoryOnly.refl db, fun _ hb _ ↦ hb, fun _ hb _ _ ↦ .inl hb⟩

theorem ReservedUntil.trans {c : String} {t : Int} {db db' db'' : Db}
    (h : ReservedUntil c t db db') (h' : ReservedUntil c t db' db'') :
    ReservedUntil c t db db'' := by
  refine ⟨h'.booked, h.frame.trans h'.frame, fun b hb hkeep ↦ ?_, fun b hb hc hactive ↦ ?_⟩
  · exact h'.kept b (h.kept b hb hkeep) hkeep
  · rcases h'.reserved b hb hc hactive with hb | hnew
    · exact h.reserved b hb hc hactive
    · exact .inr hnew

theorem ReservedUntil.grow {c : String} {t total : Int} {db db' : Db} (h : Booked db)
    (hg : Grows total db db') : ReservedUntil c t db db' :=
  ⟨h.grow hg, InventoryOnly.of_grows hg, fun _ hb _ ↦ hg.bookings ▸ hb,
    fun _ hb _ _ ↦ .inl (hg.bookings ▸ hb)⟩

/-- The request is for a placement of its campaign. -/
def ReserveRequest.Owned (r : ReserveRequest) (db : Db) : Prop :=
  ∃ p ∈ db.campaignPlacements, p.id = r.placementId ∧ p.campaignId = r.campaignId

theorem bookSlot_ids (r : ReserveRequest) (t : Int) (db : Db) (need : InventorySlot × Int) :
    (bookSlot r t db need).inventorySlots.map (·.id) = db.inventorySlots.map (·.id) :=
  map_id_adjust (f := (·.addReserved need.2)) (fun _ ↦ rfl) db.inventorySlots

section Reserve

variable {r : ReserveRequest} {db : Db} (h : Booked db) (hr : r.Owned db)

include h hr

theorem reuse_reservedUntil (t : Int) :
    ReservedUntil r.campaignId t db (reuseBookings db r.placementId t) := by
  have hbookings := reuse_bookings h.slots r.placementId t
  have hsame (b : InventoryBooking) :
      SameBooking b (if b.campaignPlacementId = r.placementId then b.again t else b) := by
    split
    · obtain ⟨hp, hs, -, hc⟩ := again_kept t b
      refine ⟨?_, hc, hp, hs⟩
      unfold InventoryBooking.again
      split
      · rfl
      · rfl
    · exact SameBooking.refl b
  refine ⟨h.map hsame (reuse_kept 0 db r.placementId t) (settle_inventoryOnly _ _ _ _ db)
    hbookings, settle_inventoryOnly _ _ _ _ db, fun b hb hkeep ↦ ?_, fun b hb _ hactive ↦ ?_⟩
  · rw [hbookings]
    refine List.mem_map.2 ⟨b, hb, ?_⟩
    by_cases hp : b.campaignPlacementId = r.placementId
    · -- the placement's bookings are the campaign's own, so this one is active
      obtain ⟨p, hpm, hpid, hpc⟩ := hr
      have hown : b.campaignId = r.campaignId :=
        (h.owned b hb p hpm (hpid.trans hp.symm)).symm.trans hpc
      rw [if_pos hp]
      exact if_pos (hkeep.resolve_left (not_not.2 hown))
    · exact if_neg hp
  · rw [hbookings] at hb
    obtain ⟨b₀, hb₀, rfl⟩ := List.mem_map.1 hb
    by_cases hp : b₀.campaignPlacementId = r.placementId
    · rw [if_pos hp]
      unfold InventoryBooking.again
      split
      · exact .inl hb₀
      · exact .inr ⟨rfl, rfl⟩
    · rw [if_neg hp]
      exact .inl hb₀

theorem bookSlot_reservedUntil (t : Int) {need : InventorySlot × Int}
    (hneed : need.1.id ∈ db.inventorySlots.map (·.id)) :
    ReservedUntil r.campaignId t db (bookSlot r t db need) := by
  have hnew (b : InventoryBooking) (hb : b ∈ (bookSlot r t db need).inventoryBookings) :
      b ∈ db.inventoryBookings ∨ b = newInventoryBooking r t db need.1.id need.2 := by
    rcases List.mem_append.1 hb with hb | hb
    · exact .inl hb
    · exact .inr (List.mem_singleton.1 hb)
  refine ⟨⟨fun b hb ↦ ?_, ?_, h.placements, fun b hb p hp hid ↦ ?_⟩, ⟨_, _, rfl⟩,
    fun b hb _ ↦ List.mem_append_left _ hb, fun b hb _ _ ↦ ?_⟩
  · rw [bookSlot_ids]
    rcases hnew b hb with hb | rfl
    · exact h.slots b hb
    · exact hneed
  · show ((db.inventoryBookings ++
      [newInventoryBooking r t db need.1.id need.2]).map (·.id)).Nodup
    rw [List.map_append]
    exact Rows.nodup_concat h.ids (Rows.freshKey_not_mem _)
  · rcases hnew b hb with hb | rfl
    · exact h.owned b hb p hp hid
    · obtain ⟨q, hq, hqid, hqc⟩ := hr
      have hsame : p = q := Rows.key_inj h.placements hp hq (hid.trans hqid.symm)
      rw [hsame]
      exact hqc
  · rcases hnew b hb with hb | rfl
    · exact .inl hb
    · exact .inr ⟨rfl, rfl⟩

end Reserve

theorem ReserveRequest.Owned.frame {r : ReserveRequest} {db db' : Db} (h : r.Owned db)
    (hframe : InventoryOnly db db') : r.Owned db' := by
  obtain ⟨_, _, rfl⟩ := hframe
  exact h

theorem bookSlots_reservedUntil {r : ReserveRequest} {db : Db} (h : Booked db) (hr : r.Owned db)
    (t : Int) {needed : List (InventorySlot × Int)}
    (hneeded : ∀ need ∈ needed, need.1.id ∈ db.inventorySlots.map (·.id)) :
    ReservedUntil r.campaignId t db (bookSlots r t db needed) := by
  induction needed generalizing db with
  | nil => exact ReservedUntil.refl h _ _
  | cons need needed ih =>
      have hone := bookSlot_reservedUntil h hr t (hneeded need List.mem_cons_self)
      refine hone.trans (ih hone.booked (hr.frame hone.frame) fun n hn ↦ ?_)
      rw [bookSlot_ids]
      exact hneeded n (List.mem_cons_of_mem need hn)

/-- Whether it is accepted or not. -/
theorem reserve_reservedUntil {r : ReserveRequest} {db : Db} (h : Booked db) (hr : r.Owned db)
    (now : Int) : ReservedUntil r.campaignId (reservedUntil now r.reservationTtlHours) db
      (reserveInventoryForPlacement db now r).1 := by
  rcases reserve_cases db now r with ⟨-, hdb⟩ | ⟨-, db', hg, hdb⟩
  · have hdetected := detected_grows r db now
    rw [hdb]
    exact (ReservedUntil.grow h hdetected).trans
      (reuse_reservedUntil (h.grow hdetected) (hr.frame (InventoryOnly.of_grows hdetected)) _)
  · have hgrown := ReservedUntil.grow (c := r.campaignId)
      (t := reservedUntil now r.reservationTtlHours) h hg
    rcases hdb with hdb | ⟨needed, hchecked, hdb⟩
    · rw [hdb]
      exact hgrown
    · rw [hdb]
      refine hgrown.trans (bookSlots_reservedUntil hgrown.booked (hr.frame hgrown.frame) _ ?_)
      intro need hneed
      obtain ⟨p, -, hp⟩ := Rows.forall₂_mem_right hchecked hneed
      exact List.mem_map_of_mem hp.mem

theorem reserveAll_reservedUntil {c : String} {ttl now : Int} {rs : List ReserveRequest} {db : Db}
    (h : Booked db) (hrs : ∀ r ∈ rs, r.Owned db ∧ r.campaignId = c ∧ r.reservationTtlHours = ttl) :
    ReservedUntil c (reservedUntil now ttl) db (reserveAll now db rs).1 := by
  induction rs generalizing db with
  | nil => exact ReservedUntil.refl h _ _
  | cons r rs ih =>
      obtain ⟨howned, rfl, rfl⟩ := hrs r List.mem_cons_self
      have hone := reserve_reservedUntil h howned now
      unfold reserveAll
      split
      · rename_i db' e heq
        rw [heq] at hone
        exact hone
      · rename_i db' res heq
        rw [heq] at hone
        refine hone.trans (ih hone.booked fun r' hr' ↦ ?_)
        obtain ⟨howned', hc, httl⟩ := hrs r' (List.mem_cons_of_mem r hr')
        exact ⟨howned'.frame hone.frame, hc, httl⟩

/-! ## Calls that concern one campaign -/

/-- What a call for the campaign `c` leaves alone. -/
structure Leaves (c : String) (db db' : Db) : Prop where
  booked : Booked db'
  status : ∀ id, id ≠ c → db'.statusOf id = db.statusOf id
  others : ∀ b ∈ db.inventoryBookings, b.campaignId ≠ c → b ∈ db'.inventoryBookings

section Leaves

variable {c : String} {db db' db'' : Db}

theorem Leaves.trans (h : Leaves c db db') (h' : Leaves c db' db'') : Leaves c db db'' where
  booked := h'.booked
  status id hid := (h'.status id hid).trans (h.status id hid)
  others b hb hc := h'.others b (h.others b hb hc) hc

theorem statusOf_frame (h : InventoryOnly db db') (id : String) :
    db'.statusOf id = db.statusOf id := by
  obtain ⟨_, _, rfl⟩ := h
  rfl

theorem ReservedUntil.leaves {t : Int} (h : ReservedUntil c t db db') : Leaves c db db' where
  booked := h.booked
  status id _ := statusOf_frame h.frame id
  others b hb hc := h.kept b hb (.inl hc)

theorem Leaves.settle (h : Booked db) {selected : InventoryBooking → Bool} {evenWithoutSlot : Bool}
    {onSlot : InventoryBooking → InventorySlot → InventorySlot}
    {onBooking : InventoryBooking → InventoryBooking}
    (hselected : ∀ b, selected b = true → b.campaignId = c)
    (hslot : ∀ b s, (onSlot b s).shape = s.shape) (hb : ∀ b, SameBooking b (onBooking b)) :
    Leaves c db (settleBookings selected evenWithoutSlot onSlot onBooking db).1 where
  booked := h.settle hslot hb
  status id _ := statusOf_frame (settle_inventoryOnly _ _ _ _ db) id
  others b hbm hc := by
    rw [settle_bookings hslot h.slots]
    exact List.mem_map.2 ⟨b, hbm, if_neg fun hsel ↦ hc (hselected b hsel)⟩

theorem Leaves.commit (h : Booked db) (now : Int) :
    Leaves c db (commitInventoryForCampaign db now c).1 :=
  Leaves.settle h (fun _ hb ↦ (of_decide_eq_true hb).1) (fun _ _ ↦ rfl)
    fun _ ↦ ⟨rfl, rfl, rfl, rfl⟩

theorem Leaves.release (h : Booked db) (now : Int) (reason : String) :
    Leaves c db (releaseInventoryForCampaign db now c reason).1 :=
  Leaves.settle h (fun _ hb ↦ (of_decide_eq_true hb).1) releaseSlot_shape
    fun _ ↦ ⟨rfl, rfl, rfl, rfl⟩

theorem Leaves.record (h : Leaves c db db') (e : Campaign) (decision : CampaignStatus)
    (reviewedBy : String) (requestedAt now : Int) (rejectionReason : Option String) :
    Leaves c db (recordDecision db' e decision reviewedBy requestedAt now rejectionReason) :=
  ⟨⟨h.booked.slots, h.booked.ids, h.booked.placements, h.booked.owned⟩, h.status, h.others⟩

theorem Leaves.move (h : Leaves c db db') {e : Campaign} (he : e.id = c) (target : CampaignStatus)
    (changedBy : String) (now : Int) (reason : String) :
    Leaves c db (db'.moveCampaign e target changedBy now reason) where
  booked := ⟨h.booked.slots, h.booked.ids, h.booked.placements, h.booked.owned⟩
  status id hid := by
    have hne : id ≠ e.id := he ▸ hid
    rw [moveCampaign_statusOf, ← h.status id hid]
    simp [hne]
  others := h.others

end Leaves

/-- Nothing has changed, or the call for `c` leaves it not pending. -/
def Closes (c : String) (db db' : Db) : Prop :=
  db' = db ∨ Leaves c db db' ∧ db'.statusOf c ≠ some .pendingApproval

theorem Closes.booked {c : String} {db db' : Db} (h : Closes c db db') (hdb : Booked db) :
    Booked db' := by
  rcases h with rfl | ⟨hleaves, -⟩
  · exact hdb
  · exact hleaves.booked

theorem Closes.move {c : String} {db db' : Db} (h : Leaves c db db') {e : Campaign}
    (he : e.id = c) {target : CampaignStatus} (htarget : target ≠ .pendingApproval)
    (changedBy : String) (now : Int) (reason : String) :
    Closes c db (db'.moveCampaign e target changedBy now reason) := by
  refine .inr ⟨h.move he target changedBy now reason, ?_⟩
  rw [moveCampaign_statusOf, ← he]
  cases db'.statusOf e.id with
  | none => exact fun hnone ↦ by cases hnone
  | some status => simpa using htarget

/-! ## The calls -/

/-- The result of a request that has moved its campaign. -/
def requestGranted : Except String (Option (CampaignStatus × CampaignStatus × Option String)) :=
  .ok (some (.draft, .pendingApproval, none))

def approvalGranted : TransitionResult := .ok (some (.pendingApproval, .approved))

theorem approvalRequests_owned {db : Db} {cfg : InventoryConfig} {campaignId : String}
    {r : ReserveRequest} (h : r ∈ approvalRequests db cfg campaignId) :
    r.Owned db ∧ r.campaignId = campaignId ∧
      r.reservationTtlHours = cfg.reservationTtlHours := by
  obtain ⟨p, hp, hr⟩ := List.mem_flatMap.1 h
  obtain ⟨hpm, hpc⟩ := List.mem_filter.1 hp
  unfold placementRequests at hr
  split at hr
  · cases hr
  · obtain ⟨f, -, rfl⟩ := List.mem_map.1 hr
    exact ⟨⟨p, hpm, rfl, of_decide_eq_true hpc⟩, rfl, rfl⟩

section Calls

variable {db : Db} (h : Booked db) (now : Int) (campaignId : String) (scope : Option (List String))

include h

/-- Accepted or not, the reservations of a request are all up to one deadline. -/
theorem request_reservedUntil (cfg : InventoryConfig) :
    let released := (releaseInventoryForCampaign db now campaignId "re-reserve cleanup").1
    ReservedUntil campaignId (reservedUntil now cfg.reservationTtlHours) released
      (reserveAll now released (approvalRequests released cfg campaignId)).1 :=
  reserveAll_reservedUntil
    (Leaves.release (c := campaignId) h now "re-reserve cleanup").booked
    fun _ hr ↦ approvalRequests_owned hr

theorem approve_closes (reviewedBy : String) :
    Closes campaignId db (approveCampaign db now campaignId reviewedBy scope).1 := by
  refine guardedTransition_state campaignId .pendingApproval .approved scope (.inl rfl)
    fun c hc _ ↦ ?_
  have hid : c.id = campaignId := Rows.get_key hc
  by_cases happrovable : ¬ approvable db campaignId = true
  · rw [if_pos happrovable]
    exact .inl rfl
  · rw [if_neg happrovable]
    cases requestedAt db campaignId with
    | none => exact .inl rfl
    | some at_ =>
        have hcommitted := (Leaves.commit (c := campaignId) h now).record c .approved reviewedBy
          at_ now none
        exact Closes.move hcommitted hid (by decide) reviewedBy now "Campaign approved"

theorem reject_closes (reviewedBy reason : String) :
    Closes campaignId db (rejectCampaign db now campaignId reviewedBy reason scope).1 := by
  refine guardedTransition_state campaignId .pendingApproval .rejected scope (.inl rfl)
    fun c hc _ ↦ ?_
  have hid : c.id = campaignId := Rows.get_key hc
  cases requestedAt db campaignId with
  | none => exact .inl rfl
  | some at_ =>
      have hreleased := (Leaves.release (c := campaignId) h now (firstChars 512 reason)).record c
        .rejected reviewedBy at_ now (some (firstChars 1000 reason))
      exact Closes.move hreleased hid (by decide) reviewedBy now _

/-- A request that fails halfway has released the campaign's bookings, but the campaign is still
a draft. -/
theorem request_closes (cfg : InventoryConfig) (changedBy : String) :
    (requestCampaignApproval db cfg now campaignId changedBy scope).2 = requestGranted ∨
      Closes campaignId db
        (requestCampaignApproval db cfg now campaignId changedBy scope).1 := by
  have hreserved := request_reservedUntil h now campaignId cfg
  refine guardedTransition_cases (P := fun r ↦ r.2 = requestGranted ∨ Closes campaignId db r.1)
    (fun _ _ ↦ .inr (.inl rfl)) fun c hc hstatus _ ↦ ?_
  dsimp only at hreserved ⊢
  cases notReady db c with
  | some reason => exact .inr (.inl rfl)
  | none =>
      have hreleased := Leaves.release (c := campaignId) h now "re-reserve cleanup"
      have hleaves := hreleased.trans hreserved.leaves
      have hdraft := (statusOf_frame hreserved.frame campaignId).trans
        (statusOf_frame (settle_inventoryOnly _ _ _ _ db) campaignId)
      unfold reservationPhase
      dsimp only
      revert hleaves hdraft
      generalize reserveAll now _ _ = result
      intro hleaves hdraft
      obtain ⟨db', _ | _⟩ := result
      · refine .inr (.inr ⟨hleaves, fun hpending ↦ ?_⟩)
        have hsame : db.statusOf campaignId = some .draft := by
          unfold Db.statusOf
          rw [hc, Option.map_some, hstatus]
        rw [hdraft, hsame] at hpending
        cases hpending
      · left
        dsimp only
        rw [hstatus]
        rfl

end Calls

/-! ## The bookings after an expiry and after a commit -/

theorem expire_bookings {db : Db} (h : db.BookingsHaveSlots) (now : Int) :
    (expireInventoryReservations db now).1.inventoryBookings = db.inventoryBookings.map fun b ↦
      if b.status = .reserved ∧ b.reservedUntil.any (· < now) then
        { b with status := .expired, releaseReason := "auto-expired" }
      else b := by
  have hshape (b : InventoryBooking) (s : InventorySlot) :
      (InventorySlot.dropReserved b.capacityUnits s).shape = s.shape := rfl
  refine (settle_bookings hshape h).trans (List.map_congr_left fun b _ ↦ ?_)
  simp only [decide_eq_true_eq]

theorem commit_bookings {db : Db} (h : db.BookingsHaveSlots) (now : Int) (campaignId : String) :
    (commitInventoryForCampaign db now campaignId).1.inventoryBookings =
      db.inventoryBookings.map fun b ↦
        if b.campaignId = campaignId ∧ b.status = .reserved then
          { b with status := .committed, committedAt := some now }
        else b := by
  have hshape (b : InventoryBooking) (s : InventorySlot) :
      (InventorySlot.commitUnits b.capacityUnits s).shape = s.shape := rfl
  refine (settle_bookings hshape h).trans (List.map_congr_left fun b _ ↦ ?_)
  simp only [decide_eq_true_eq]

/-! ## What an approval finds of the latest request -/

/-- The latest successful request of a campaign: the deadline and the bookings that it reserved,
and whether reservations have been expired after the deadline since. -/
structure LastRequest where
  campaignId : String
  deadline : Int
  bookings : List Nat
  overdue : Bool := false
  deriving DecidableEq, Repr

namespace LastRequest

variable {e : LastRequest} {db db' : Db}

/-- The booking is as the request has left it, or has expired. -/
def Covers (e : LastRequest) (b : InventoryBooking) : Prop :=
  b.campaignId = e.campaignId ∧
    if e.overdue then b.status = .expired
    else b.status = .reserved ∧ b.reservedUntil = some e.deadline

/-- As long as the campaign is pending, its request covers its bookings. -/
def Tracked (e : LastRequest) (db : Db) : Prop :=
  db.statusOf e.campaignId = some .pendingApproval →
    ∀ id ∈ e.bookings, ∃ b ∈ db.inventoryBookings, b.id = id ∧ e.Covers b

def after (now : Int) (e : LastRequest) : LastRequest :=
  { e with overdue := e.overdue || e.deadline < now }

theorem Tracked.leaves (h : e.Tracked db) {c : String} (hc : Leaves c db db')
    (hne : e.campaignId ≠ c) : e.Tracked db' := by
  intro hpending id hid
  rw [hc.status e.campaignId hne] at hpending
  obtain ⟨b, hb, hkey, hcovers⟩ := h hpending id hid
  have hother : b.campaignId ≠ c := hcovers.1 ▸ hne
  exact ⟨b, hc.others b hb hother, hkey, hcovers⟩

theorem Tracked.closes (h : e.Tracked db) {c : String} (hc : Closes c db db') :
    e.Tracked db' := by
  rcases hc with rfl | ⟨hleaves, hclosed⟩
  · exact h
  · by_cases hsame : e.campaignId = c
    · intro hpending
      rw [hsame] at hpending
      exact absurd hpending hclosed
    · exact h.leaves hleaves hsame

theorem Tracked.expire (h : e.Tracked db) (hdb : Booked db) (now : Int) :
    (e.after now).Tracked (expireInventoryReservations db now).1 := by
  intro hpending id hid
  have hframe : InventoryOnly db (expireInventoryReservations db now).1 :=
    settle_inventoryOnly _ _ _ _ db
  rw [statusOf_frame hframe] at hpending
  obtain ⟨b, hb, hkey, hcampaign, hcovers⟩ := h hpending id hid
  rw [expire_bookings hdb.slots]
  refine ⟨_, List.mem_map_of_mem hb, ?_⟩
  cases hoverdue : e.overdue with
  | true =>
      -- an expired booking is not selected again
      rw [hoverdue, if_pos rfl] at hcovers
      rw [if_neg (by simp [hcovers])]
      exact ⟨hkey, hcampaign, by simp [after, hoverdue, hcovers]⟩
  | false =>
      rw [hoverdue, if_neg Bool.false_ne_true] at hcovers
      obtain ⟨hstatus, huntil⟩ := hcovers
      by_cases hlate : e.deadline < now
      · rw [if_pos (by simp [hstatus, huntil, hlate])]
        exact ⟨hkey, hcampaign, by simp [after, hlate]⟩
      · rw [if_neg (by simp [hstatus, huntil, hlate])]
        exact ⟨hkey, hcampaign, by simp [after, hoverdue, hlate, hstatus, huntil]⟩

end LastRequest

def Db.reservedFor (db : Db) (campaignId : String) : List Nat :=
  (db.inventoryBookings.filter fun b ↦
    b.campaignId = campaignId ∧ b.status = .reserved).map (·.id)

def newRequest (db : Db) (cfg : InventoryConfig) (now : Int) (campaignId : String) :
    LastRequest where
  campaignId := campaignId
  deadline := reservedUntil now cfg.reservationTtlHours
  bookings := db.reservedFor campaignId

section Granted

variable {db : Db} {cfg : InventoryConfig} {now : Int} {campaignId changedBy : String}
  {scope : Option (List String)} (h : Booked db)
  (hok : (requestCampaignApproval db cfg now campaignId changedBy scope).2 = requestGranted)

include h hok

theorem request_leaves : Leaves campaignId db
    (requestCampaignApproval db cfg now campaignId changedBy scope).1 := by
  obtain ⟨c, hid, -, -, hdb⟩ := requestApproval_ok hok
  have hreserved := request_reservedUntil h now campaignId cfg
  have hleaves := (Leaves.release h now "re-reserve cleanup").trans hreserved.leaves
  rw [hdb]
  exact hleaves.move hid _ _ _ _

/-- The cleanup has left no reservation of the campaign, so all that there are afterwards are the
request's own. -/
theorem newRequest_tracked :
    let db' := (requestCampaignApproval db cfg now campaignId changedBy scope).1
    (newRequest db' cfg now campaignId).Tracked db' := by
  intro db' _ id hid
  obtain ⟨b, hb, hkey⟩ := List.mem_map.1 hid
  obtain ⟨hbm, hselected⟩ := List.mem_filter.1 hb
  obtain ⟨hcampaign, hstatus⟩ := of_decide_eq_true hselected
  refine ⟨b, hbm, hkey, hcampaign, ?_⟩
  obtain ⟨c, -, -, -, hdb⟩ := requestApproval_ok hok
  have hreserved := request_reservedUntil h now campaignId cfg
  have hactive : b.isActive = true := by simp [InventoryBooking.isActive, hstatus]
  have hb' : b ∈ db'.inventoryBookings := hbm
  rw [show db' = _ from hdb] at hb'
  rcases hreserved.reserved b hb' hcampaign hactive with hold | hnew
  · rw [release_bookings h.slots] at hold
    obtain ⟨b₀, -, rfl⟩ := List.mem_map.1 hold
    unfold cleanedUp at hcampaign hstatus hactive
    split at hstatus
    · cases hstatus
    · rename_i hnot
      rw [if_neg hnot] at hcampaign hactive
      exact absurd ⟨hcampaign, hactive⟩ hnot
  · exact hnew

end Granted

/-! ## Runs -/

structure ApprovalState where
  db : Db
  requests : List LastRequest := []

inductive ApprovalCall
  | request (cfg : InventoryConfig) (campaignId changedBy : String)
    (scope : Option (List String))
  | approve (campaignId reviewedBy : String) (scope : Option (List String))
  | reject (campaignId reviewedBy reason : String) (scope : Option (List String))
  | expire

/-- One call, at a time. -/
def approvalStep (s : ApprovalState) (label : Int × ApprovalCall) : ApprovalState :=
  match label.2 with
  | .request cfg campaignId changedBy scope =>
      let (db', result) := requestCampaignApproval s.db cfg label.1 campaignId changedBy scope
      if result = requestGranted then {
        db := db'
        requests := newRequest db' cfg label.1 campaignId ::
          s.requests.filter (·.campaignId ≠ campaignId) }
      else { s with db := db' }
  | .approve campaignId reviewedBy scope =>
      { s with db := (approveCampaign s.db label.1 campaignId reviewedBy scope).1 }
  | .reject campaignId reviewedBy reason scope =>
      { s with db := (rejectCampaign s.db label.1 campaignId reviewedBy reason scope).1 }
  | .expire => {
      db := (expireInventoryReservations s.db label.1).1
      requests := s.requests.map (·.after label.1) }

structure ApprovalState.Sound (s : ApprovalState) : Prop where
  booked : Booked s.db
  tracked : ∀ e ∈ s.requests, e.Tracked s.db

theorem ApprovalState.Sound.closes {s : ApprovalState} (h : s.Sound) {c : String} {db' : Db}
    (hc : Closes c s.db db') : ApprovalState.Sound { s with db := db' } :=
  ⟨hc.booked h.booked, fun e he ↦ (h.tracked e he).closes hc⟩

theorem approvalStep_sound {s : ApprovalState} (h : s.Sound) (label : Int × ApprovalCall) :
    (approvalStep s label).Sound := by
  obtain ⟨now, call⟩ := label
  cases call with
  | request cfg campaignId changedBy scope =>
      unfold approvalStep
      dsimp only
      split
      · rename_i hgranted
        have hleaves := request_leaves h.booked hgranted
        refine ⟨hleaves.booked, fun e he ↦ ?_⟩
        rcases List.mem_cons.1 he with rfl | he
        · exact newRequest_tracked h.booked hgranted
        · obtain ⟨hmem, hne⟩ := List.mem_filter.1 he
          exact (h.tracked e hmem).leaves hleaves (of_decide_eq_true hne)
      · rename_i hrefused
        have hcloses := request_closes h.booked now campaignId scope cfg changedBy
        exact h.closes (hcloses.resolve_left hrefused)
  | approve campaignId reviewedBy scope =>
      exact h.closes (approve_closes h.booked now campaignId scope reviewedBy)
  | reject campaignId reviewedBy reason scope =>
      exact h.closes (reject_closes h.booked now campaignId scope reviewedBy reason)
  | expire =>
      have hbooked : Booked (expireInventoryReservations s.db now).1 :=
        h.booked.settle (fun _ _ ↦ rfl) fun _ ↦ ⟨rfl, rfl, rfl, rfl⟩
      refine ⟨hbooked, fun e' he' ↦ ?_⟩
      obtain ⟨e, he, rfl⟩ := List.mem_map.1 he'
      exact (h.tracked e he).expire h.booked now

/-! ## Approvals -/

/-- What an approval checks. -/
def approvalPasses (db : Db) (campaignId : String) (scope : Option (List String)) : Bool :=
  (db.campaign campaignId).any fun c ↦
    c.status = .pendingApproval ∧ inScope c.advertiserOrganizationId scope ∧
      approvable db campaignId ∧ (requestedAt db campaignId).isSome

section Approve

variable {db : Db} {campaignId : String} {scope : Option (List String)}

theorem approvalPasses_of_granted {now : Int} {reviewedBy : String}
    (h : (approveCampaign db now campaignId reviewedBy scope).2 = approvalGranted) :
    approvalPasses db campaignId scope = true := by
  revert h
  refine guardedTransition_cases
    (P := fun r ↦ r.2 = approvalGranted → approvalPasses db campaignId scope = true)
    (fun r hr h ↦ absurd h (hr _)) fun c hc hstatus hscope ↦ ?_
  by_cases happrovable : ¬ approvable db campaignId = true
  · rw [if_pos happrovable]
    exact fun h ↦ by cases h
  · rw [if_neg happrovable]
    cases hat : requestedAt db campaignId with
    | none => exact fun h ↦ by cases h
    | some at_ =>
        intro _
        unfold approvalPasses
        rw [hc, hat]
        simp [hstatus, hscope, not_not.1 happrovable]

/-- An approval that passes its checks commits the inventory, whatever there is of it. -/
theorem approve_passes (now : Int) (reviewedBy : String)
    (h : approvalPasses db campaignId scope = true) :
    db.statusOf campaignId = some .pendingApproval ∧
      (approveCampaign db now campaignId reviewedBy scope).2 = approvalGranted ∧
      (approveCampaign db now campaignId reviewedBy scope).1.inventoryBookings =
        (commitInventoryForCampaign db now campaignId).1.inventoryBookings := by
  obtain ⟨c, hc, hchecks⟩ := (Option.any_eq_true _ _).1 h
  obtain ⟨hstatus, hscope, happrovable, hat⟩ := of_decide_eq_true hchecks
  obtain ⟨at_, hat⟩ := Option.isSome_iff_exists.1 hat
  have hstored : db.statusOf campaignId = some .pendingApproval := by
    unfold Db.statusOf
    rw [hc, Option.map_some, hstatus]
  unfold approveCampaign
  rw [guardedTransition_passes hc hstatus hscope (by decide), if_neg (not_not.2 happrovable), hat]
  dsimp only
  rw [hstatus]
  exact ⟨hstored, rfl, rfl⟩

end Approve

/-- An approval that succeeds leaves every booking of the campaign's latest request committed. -/
def BooksReserved (s : ApprovalState) : Int × ApprovalCall → Prop
  | (now, .approve campaignId reviewedBy scope) =>
      (approveCampaign s.db now campaignId reviewedBy scope).2 = approvalGranted →
      ∀ e ∈ s.requests, e.campaignId = campaignId → ∀ id ∈ e.bookings,
        ∃ b ∈ (approveCampaign s.db now campaignId reviewedBy scope).1.inventoryBookings,
          b.id = id ∧ b.status = .committed
  | _ => True

/-- When an approval passes its checks, no reservations have been expired after the deadline of
the campaign's latest request, or that had reserved nothing. -/
def ApprovedInTime (s : ApprovalState) : Int × ApprovalCall → Prop
  | (_, .approve campaignId _ scope) =>
      approvalPasses s.db campaignId scope = true →
      ∀ e ∈ s.requests, e.campaignId = campaignId → e.bookings = [] ∨ e.overdue = false
  | _ => True

instance (s : ApprovalState) : DecidablePred (BooksReserved s)
  | (now, .approve campaignId reviewedBy scope) =>
      inferInstanceAs (Decidable
        ((approveCampaign s.db now campaignId reviewedBy scope).2 = approvalGranted → _))
  | (_, .request ..) => isTrue trivial
  | (_, .reject ..) => isTrue trivial
  | (_, .expire) => isTrue trivial

instance (s : ApprovalState) : DecidablePred (ApprovedInTime s)
  | (_, .approve campaignId _ scope) =>
      inferInstanceAs (Decidable (approvalPasses s.db campaignId scope = true → _))
  | (_, .request ..) => isTrue trivial
  | (_, .reject ..) => isTrue trivial
  | (_, .expire) => isTrue trivial

theorem LastRequest.Tracked.committed_iff {e : LastRequest} {db : Db} (h : e.Tracked db)
    (hdb : Booked db) (hpending : db.statusOf e.campaignId = some .pendingApproval) (now : Int) :
    (∀ id ∈ e.bookings, ∃ b ∈ (commitInventoryForCampaign db now e.campaignId).1.inventoryBookings,
      b.id = id ∧ b.status = .committed) ↔ e.bookings = [] ∨ e.overdue = false := by
  rw [commit_bookings hdb.slots]
  constructor
  · intro hall
    by_contra hlate
    obtain ⟨hsome, hoverdue⟩ := not_or.1 hlate
    obtain ⟨id, hid⟩ := List.exists_mem_of_ne_nil _ hsome
    obtain ⟨b, hb, hkey, -, hexpired⟩ := h hpending id hid
    rw [if_pos (by simpa using hoverdue)] at hexpired
    obtain ⟨b', hb', hkey', hcommitted⟩ := hall id hid
    obtain ⟨b₀, hb₀, rfl⟩ := List.mem_map.1 hb'
    -- the booking with this key has expired, so the commit has passed it over
    have hkey₀ : b₀.id = id := by
      split at hkey'
      · exact hkey'
      · exact hkey'
    have hsame : b₀ = b := Rows.key_inj hdb.ids hb₀ hb (hkey₀.trans hkey.symm)
    rw [hsame, if_neg (by simp [hexpired]), hexpired] at hcommitted
    cases hcommitted
  · rintro (hnone | hintime) id hid
    · rw [hnone] at hid
      cases hid
    · obtain ⟨b, hb, hkey, hcampaign, hcovers⟩ := h hpending id hid
      rw [hintime, if_neg Bool.false_ne_true] at hcovers
      refine ⟨_, List.mem_map_of_mem hb, ?_⟩
      rw [if_pos ⟨hcampaign, hcovers.1⟩]
      exact ⟨hkey, rfl⟩

theorem booksReserved_iff {s : ApprovalState} (h : s.Sound) (label : Int × ApprovalCall) :
    BooksReserved s label ↔ ApprovedInTime s label := by
  obtain ⟨now, call⟩ := label
  cases call with
  | approve campaignId reviewedBy scope =>
      unfold BooksReserved ApprovedInTime
      dsimp only
      constructor
      · intro hbooks hpasses e he hid
        obtain ⟨hpending, hgranted, hbookings⟩ := approve_passes now reviewedBy hpasses
        have hall := hbooks hgranted e he hid
        rw [hbookings] at hall
        subst hid
        exact ((h.tracked e he).committed_iff h.booked hpending now).1 hall
      · intro hintime hgranted e he hid
        have hpasses := approvalPasses_of_granted hgranted
        obtain ⟨hpending, -, hbookings⟩ := approve_passes now reviewedBy hpasses
        rw [hbookings]
        subst hid
        exact ((h.tracked e he).committed_iff h.booked hpending now).2 (hintime hpasses e he rfl)
  | _ => exact Iff.rfl

/-- Approvals book what was reserved in a run exactly if none of them comes after an expiry that
has taken the reservations. -/
theorem booksReserved_iff_inTime {s : ApprovalState} (hdb : Booked s.db) (hnew : s.requests = [])
    (l : List (Int × ApprovalCall)) :
    Run.Guarded approvalStep BooksReserved s l ↔ Run.Guarded approvalStep ApprovedInTime s l := by
  have hsound : s.Sound := ⟨hdb, fun e he ↦ by rw [hnew] at he; cases he⟩
  exact Run.guarded_iff (fun _ label h ↦ approvalStep_sound h label)
    (fun _ label h ↦ booksReserved_iff h label) hsound

/-! A campaign with one flight is requested, and approved before or after its reservations have
expired. -/

def requestedCampaign : ApprovalState where
  db := draftCampaignDb [earlyFlight]

theorem requestedCampaign_booked : Booked requestedCampaign.db where
  slots b hb := by cases hb
  ids := List.nodup_nil
  placements := by decide
  owned b hb := by cases hb

def requestCall : Int × ApprovalCall := (1, .request {} "a" "u1" none)

/-- The time is after the deadline, a day after the request. -/
def lateExpiry : Int × ApprovalCall := (1 + 24 * hourMicros + 1, .expire)

def approveCall : Int × ApprovalCall := (1 + 24 * hourMicros + 2, .approve "a" "u2" none)

theorem approved_after_expiry :
    ¬ ∀ (s : ApprovalState) (l : List (Int × ApprovalCall)), Booked s.db → s.requests = [] →
      Run.Guarded approvalStep BooksReserved s l := by
  intro h
  have hrun := h requestedCampaign [requestCall, lateExpiry, approveCall]
    requestedCampaign_booked rfl
  revert hrun
  decide +kernel

theorem approved_before_expiry :
    Run.Guarded approvalStep BooksReserved requestedCampaign
      [requestCall, approveCall, lateExpiry] :=
  (booksReserved_iff_inTime requestedCampaign_booked rfl _).2 (by decide +kernel)

-- the approval succeeds
example : (approveCampaign (approvalStep requestedCampaign requestCall).db 2 "a" "u2" none).2 =
    approvalGranted := by
  decide +kernel

end RetailMedia
